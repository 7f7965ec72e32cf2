import Mathlib.Data.List.Forall2

/-!
Lists whose members are related both ways, whatever their order and however often they occur. What a
list says of all or some of its members, a matched list says as well.
-/

namespace LayerCheck

universe u v

/-- Each member of one list is related to a member of the other. -/
structure Matched {α : Type u} {β : Type v} (r : α → β → Prop) (l : List α) (l' : List β) : Prop where
  left : ∀ a ∈ l, ∃ b ∈ l', r a b
  right : ∀ b ∈ l', ∃ a ∈ l, r a b

namespace Matched

variable {α : Type u} {β : Type v} {l : List α} {l' : List β} {r r' : α → β → Prop}

theorem of_forall {r : α → α → Prop} (h : ∀ a ∈ l, r a a) : Matched r l l :=
  ⟨fun a ha => ⟨a, ha, h a ha⟩, fun a ha => ⟨a, ha, h a ha⟩⟩

theorem of_forall₂ (h : List.Forall₂ r l l') : Matched r l l' := by
  induction h with
  | nil => exact ⟨by simp, by simp⟩
  | @cons a b l l' hab _ ih =>
    constructor
    · intro x hx
      rcases List.mem_cons.1 hx with rfl | hx
      · exact ⟨b, List.mem_cons_self, hab⟩
      · obtain ⟨y, hy, hxy⟩ := ih.left x hx
        exact ⟨y, List.mem_cons_of_mem b hy, hxy⟩
    · intro y hy
      rcases List.mem_cons.1 hy with rfl | hy
      · exact ⟨a, List.mem_cons_self, hab⟩
      · obtain ⟨x, hx, hxy⟩ := ih.right y hy
        exact ⟨x, List.mem_cons_of_mem a hx, hxy⟩

theorem imp (h : Matched r l l') (himp : ∀ a ∈ l, ∀ b ∈ l', r a b → r' a b) : Matched r' l l' := by
  constructor
  · intro a ha
    obtain ⟨b, hb, hab⟩ := h.left a ha
    exact ⟨b, hb, himp a ha b hb hab⟩
  · intro b hb
    obtain ⟨a, ha, hab⟩ := h.right b hb
    exact ⟨a, ha, himp a ha b hb hab⟩

theorem symm (h : Matched r l l') : Matched (fun b a => r a b) l' l :=
  ⟨h.right, h.left⟩

theorem comp {γ : Type u} {r' : β → γ → Prop} {l'' : List γ} (h : Matched r l l')
    (h' : Matched r' l' l'') : Matched (fun a c => ∃ b, r a b ∧ r' b c) l l'' := by
  constructor
  · intro a ha
    obtain ⟨b, hb, hab⟩ := h.left a ha
    obtain ⟨c, hc, hbc⟩ := h'.left b hb
    exact ⟨c, hc, b, hab, hbc⟩
  · intro c hc
    obtain ⟨b, hb, hbc⟩ := h'.right c hc
    obtain ⟨a, ha, hab⟩ := h.right b hb
    exact ⟨a, ha, b, hab, hbc⟩

theorem eq_nil_iff (h : Matched r l l') : l = [] ↔ l' = [] := by
  constructor
  · rintro rfl
    refine List.eq_nil_iff_forall_not_mem.2 fun b hb => ?_
    obtain ⟨a, ha, -⟩ := h.right b hb
    exact List.not_mem_nil ha
  · rintro rfl
    refine List.eq_nil_iff_forall_not_mem.2 fun a ha => ?_
    obtain ⟨b, hb, -⟩ := h.left a ha
    exact List.not_mem_nil hb

section Quantifiers

variable {p : α → Prop} {q : β → Prop} (h : Matched (fun a b => p a ↔ q b) l l')
include h

theorem forall_iff : (∀ a ∈ l, p a) ↔ ∀ b ∈ l', q b := by
  constructor
  · intro hp b hb
    obtain ⟨a, ha, hab⟩ := h.right b hb
    exact hab.1 (hp a ha)
  · intro hq a ha
    obtain ⟨b, hb, hab⟩ := h.left a ha
    exact hab.2 (hq b hb)

theorem exists_iff : (∃ a ∈ l, p a) ↔ ∃ b ∈ l', q b := by
  constructor
  · rintro ⟨a, ha, hp⟩
    obtain ⟨b, hb, hab⟩ := h.left a ha
    exact ⟨b, hb, hab.1 hp⟩
  · rintro ⟨b, hb, hq⟩
    obtain ⟨a, ha, hab⟩ := h.right b hb
    exact ⟨a, ha, hab.2 hq⟩

end Quantifiers

end Matched

end LayerCheck
