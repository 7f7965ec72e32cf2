import LayerCheck.Proofs.OrderedSet

/-!
Ordered sets of values that may compare equal without being equal. Such values make up classes. A set
that was built from a list holds one member of each class that occurs there, the last one given, and
in whatever order the list is given, the classes come out in the same row.
-/

namespace LayerCheck

universe u

/-! ### Strictly increasing lists -/

section Increasing

variable {α : Type u} [Ord α] [Std.TransOrd α] {l : List α}

/-- An insertion adds a member exactly if none of its class is there. -/
theorem mem_insertSorted_iff (h : l.Pairwise fun x y => compare x y = .lt) {a x : α} :
    x ∈ insertSorted a l ↔ x ∈ l ∨ x = a ∧ ∀ b ∈ l, compare a b ≠ .eq := by
  induction l with
  | nil => simp [insertSorted]
  | cons b bs ih =>
    obtain ⟨hb, hbs⟩ := List.pairwise_cons.1 h
    rw [insertSorted]
    cases hab : compare a b with
    | lt =>
      have habove : ∀ c ∈ b :: bs, compare a c ≠ .eq := by
        intro c hc
        rcases List.mem_cons.1 hc with rfl | hc
        · simp [hab]
        · simp [Std.TransCmp.lt_trans hab (hb c hc)]
      rw [and_iff_left habove, or_comm]
      exact List.mem_cons
    | eq => simp [hab]
    | gt =>
      have hne : compare a b ≠ .eq := by simp [hab]
      dsimp only
      rw [List.mem_cons, ih hbs, List.mem_cons, List.forall_mem_cons, and_iff_right hne, or_assoc]

/-- There is one member of a class. -/
theorem eq_of_mem_increasing (h : l.Pairwise fun x y => compare x y = .lt) {a b : α} (ha : a ∈ l)
    (hb : b ∈ l) (hab : compare a b = .eq) : a = b := by
  induction l with
  | nil => contradiction
  | cons c l ih =>
    obtain ⟨hc, hl⟩ := List.pairwise_cons.1 h
    rcases List.mem_cons.1 ha with rfl | ha'
    · rcases List.mem_cons.1 hb with rfl | hb'
      · rfl
      · rw [hc b hb'] at hab
        contradiction
    · rcases List.mem_cons.1 hb with rfl | hb'
      · rw [Std.OrientedCmp.gt_of_lt (hc a ha')] at hab
        contradiction
      · exact ih hl ha' hb'

/-- The first of a list in increasing order comes before all that is in a class of the rest. -/
theorem compare_eq_lt_of_class {a x : α} (h : (a :: l).Pairwise fun x y => compare x y = .lt)
    (hx : ∃ b ∈ l, compare x b = .eq) : compare a x = .lt := by
  obtain ⟨b, hb, hxb⟩ := hx
  rw [Std.TransCmp.congr_right hxb]
  exact (List.pairwise_cons.1 h).1 b hb

/-- What is in a class of the rest of one list is in a class of the rest of the other, if their first
members are in one class. -/
theorem exists_class_of_tail {a b x : α} {l' : List α} (hab : compare a b = .eq)
    (h : (a :: l).Pairwise fun x y => compare x y = .lt)
    (hclasses : (∃ c ∈ a :: l, compare x c = .eq) → ∃ c ∈ b :: l', compare x c = .eq)
    (hx : ∃ c ∈ l, compare x c = .eq) : ∃ c ∈ l', compare x c = .eq := by
  have hax : compare a x = .lt := compare_eq_lt_of_class h hx
  have hin : ∃ c ∈ a :: l, compare x c = .eq := by
    obtain ⟨c, hc, hxc⟩ := hx
    exact ⟨c, List.mem_cons_of_mem a hc, hxc⟩
  obtain ⟨c, hc, hxc⟩ := hclasses hin
  rcases List.mem_cons.1 hc with rfl | hc
  · rw [Std.TransCmp.congr_right hxc, hab] at hax
    contradiction
  · exact ⟨c, hc, hxc⟩

/-- Lists in increasing order that hold the same classes hold them in one row. -/
theorem forall₂_of_increasing {l' : List α} (h : l.Pairwise fun x y => compare x y = .lt)
    (h' : l'.Pairwise fun x y => compare x y = .lt)
    (hclasses : ∀ x, (∃ c ∈ l, compare x c = .eq) ↔ ∃ c ∈ l', compare x c = .eq) :
    List.Forall₂ (fun a b => compare a b = .eq) l l' := by
  induction l generalizing l' with
  | nil =>
    cases l' with
    | nil => exact .nil
    | cons b l' =>
      have hnone := (hclasses b).2 ⟨b, List.mem_cons_self, Std.ReflCmp.compare_self⟩
      simp at hnone
  | cons a l ih =>
    cases l' with
    | nil =>
      have hnone := (hclasses a).1 ⟨a, List.mem_cons_self, Std.ReflCmp.compare_self⟩
      simp at hnone
    | cons b l' =>
      have ha := (hclasses a).1 ⟨a, List.mem_cons_self, Std.ReflCmp.compare_self⟩
      have hb := (hclasses b).2 ⟨b, List.mem_cons_self, Std.ReflCmp.compare_self⟩
      -- Each of the first members is in a class of the other list. If their classes differed, each
      -- would come before the other.
      have hab : compare a b = .eq := by
        by_contra hne
        have hba : compare b a ≠ .eq := fun heq => hne (Std.OrientedCmp.eq_symm heq)
        have halt : compare b a = .lt := by
          apply compare_eq_lt_of_class h'
          simpa [hne] using ha
        have hblt : compare a b = .lt := by
          apply compare_eq_lt_of_class h
          simpa [hba] using hb
        rw [Std.OrientedCmp.gt_of_lt halt] at hblt
        contradiction
      refine .cons hab ?_
      apply ih (List.pairwise_cons.1 h).2 (List.pairwise_cons.1 h').2
      intro x
      constructor
      · exact exists_class_of_tail hab h (hclasses x).1
      · exact exists_class_of_tail (Std.OrientedCmp.eq_symm hab) h' (hclasses x).2

end Increasing

namespace OrderedSet

variable {α : Type u}

/-- A list gives `a`, and nothing of its class behind it. -/
def GivesLast (same : α → α → Prop) (l : List α) (a : α) : Prop :=
  ∃ before after, l = before ++ a :: after ∧ ∀ b ∈ after, ¬same a b

theorem givesLast_cons {same : α → α → Prop} {c a : α} {l : List α} :
    GivesLast same (c :: l) a ↔ GivesLast same l a ∨ a = c ∧ ∀ b ∈ l, ¬same c b := by
  constructor
  · rintro ⟨before, after, hl, hafter⟩
    cases before with
    | nil =>
      obtain ⟨rfl, rfl⟩ := List.cons.inj hl
      exact .inr ⟨rfl, hafter⟩
    | cons d before => exact .inl ⟨before, after, (List.cons.inj hl).2, hafter⟩
  · rintro (⟨before, after, rfl, hafter⟩ | ⟨rfl, hl⟩)
    · exact ⟨c :: before, after, rfl, hafter⟩
    · exact ⟨[], l, rfl, hl⟩

variable [Ord α]

/-- The set has one member of each class of the list, the one that is given last, in increasing
order. -/
structure Represents (same : α → α → Prop) (l : List α) (s : OrderedSet α) : Prop where
  increasing : s.toList.Pairwise fun a b => compare a b = .lt
  mem_iff : ∀ a, a ∈ s ↔ GivesLast same l a
  unique : ∀ a ∈ l, ∃! b, b ∈ s ∧ same a b

variable [Std.TransOrd α]

theorem contains_ofList {l : List α} {a : α} :
    (ofList l).contains a ↔ ∃ b ∈ l, compare a b = .eq := by
  induction l with
  | nil => simp [ofList]
  | cons c l ih =>
    have hunfold : ofList (c :: l) = (ofList l).insert c := rfl
    rw [hunfold, contains_insert, ih]
    simp

/-- What is in the class of a member is in that of something that the list gives. -/
theorem exists_mem_ofList_iff {l : List α} {a : α} :
    (∃ b ∈ (ofList l).toList, compare a b = .eq) ↔ ∃ b ∈ l, compare a b = .eq := by
  rw [← contains_ofList (l := l), contains]
  simp

theorem mem_ofList_iff_givesLast {l : List α} {a : α} :
    a ∈ ofList l ↔ GivesLast (fun a b => compare a b = .eq) l a := by
  induction l with
  | nil => simp [ofList, GivesLast]
  | cons c l ih =>
    have hinsert : a ∈ ofList (c :: l) ↔
        a ∈ ofList l ∨ a = c ∧ ∀ b ∈ (ofList l).toList, compare c b ≠ .eq :=
      mem_insertSorted_iff (ofList l).increasing
    have hclass : (∀ b ∈ (ofList l).toList, compare c b ≠ .eq) ↔ ∀ b ∈ l, compare c b ≠ .eq := by
      have hnot := not_congr (exists_mem_ofList_iff (l := l) (a := c))
      simpa using hnot
    rw [hinsert, givesLast_cons, ih, hclass]

theorem represents_ofList (l : List α) :
    Represents (fun a b => compare a b = .eq) l (ofList l) where
  increasing := (ofList l).increasing
  mem_iff _ := mem_ofList_iff_givesLast
  unique a ha := by
    obtain ⟨b, hb, hab⟩ := exists_mem_ofList_iff.2 ⟨a, ha, Std.ReflCmp.compare_self⟩
    refine ⟨b, ⟨hb, hab⟩, ?_⟩
    rintro c ⟨hc, hac⟩
    apply eq_of_mem_increasing (ofList l).increasing hc hb
    exact Std.TransCmp.eq_trans (Std.OrientedCmp.eq_symm hac) hab

theorem forall₂_ofList_of_perm {l l' : List α} (h : l.Perm l') :
    List.Forall₂ (fun a b => compare a b = .eq) (ofList l).toList (ofList l').toList := by
  apply forall₂_of_increasing (ofList l).increasing (ofList l').increasing
  intro x
  rw [exists_mem_ofList_iff, exists_mem_ofList_iff]
  simp only [h.mem_iff]

end OrderedSet

end LayerCheck
