import LayerCheck.OrderedSet
import Mathlib.Data.List.Forall2
import Mathlib.Data.List.Induction

/-!
Ordered sets and maps seen through their members. Two members may compare equal without being equal,
so what is said about `insert` and its kin holds where comparing is lawful, on members of a kind `P`.
-/

namespace LayerCheck

universe u v

/-- Among the values of a kind, only equal ones compare equal. -/
def LawfulOn {α : Type u} [Ord α] (P : α → Prop) : Prop :=
  ∀ ⦃a b⦄, P a → P b → compare a b = .eq → a = b

theorem lawfulOn_of_lawfulEqOrd {α : Type u} [Ord α] [Std.LawfulEqOrd α] (P : α → Prop) :
    LawfulOn P :=
  fun _ _ _ _ h => Std.LawfulEqOrd.eq_of_compare h

/-! ### Strictly increasing lists -/

section Increasing

variable {α : Type u} [Ord α] [Std.TransOrd α] {l : List α}

theorem nodup_of_increasing {β : Type v} {l : List β} (key : β → α)
    (h : l.Pairwise fun x y => compare (key x) (key y) = .lt) : l.Nodup := by
  refine h.imp fun {a b} hlt => ?_
  rintro rfl
  simp [Std.ReflCmp.compare_self] at hlt

/-- A list in increasing order of a key is known by its members. -/
theorem eq_of_increasing {β : Type v} {l l' : List β} (key : β → α)
    (h : l.Pairwise fun x y => compare (key x) (key y) = .lt)
    (h' : l'.Pairwise fun x y => compare (key x) (key y) = .lt) (hmem : ∀ a, a ∈ l ↔ a ∈ l') :
    l = l' := by
  have hperm : l.Perm l' :=
    (List.perm_ext_iff_of_nodup (nodup_of_increasing key h) (nodup_of_increasing key h')).2 hmem
  refine hperm.eq_of_pairwise (fun a b _ _ hab hba => ?_) h h'
  have hgt : compare (key a) (key b) = .gt := Std.OrientedCmp.gt_of_lt hba
  simp [hab] at hgt

omit [Std.TransOrd α] in
theorem mem_insertSorted_of_mem {a x : α} (h : x ∈ l) : x ∈ insertSorted a l := by
  induction l with
  | nil => contradiction
  | cons b bs ih =>
    rw [insertSorted]
    split
    · exact List.mem_cons_of_mem a h
    · exact h
    · rcases List.mem_cons.1 h with rfl | h
      · exact List.mem_cons_self
      · exact List.mem_cons_of_mem b (ih h)

/-- After an insertion a member is there that compares equal to the inserted one. -/
theorem exists_mem_insertSorted (a : α) (l : List α) : ∃ b ∈ insertSorted a l, compare a b = .eq := by
  induction l with
  | nil => exact ⟨a, by simp [insertSorted], Std.ReflCmp.compare_self⟩
  | cons b bs ih =>
    rw [insertSorted]
    split
    · exact ⟨a, List.mem_cons_self, Std.ReflCmp.compare_self⟩
    · rename_i heq
      exact ⟨b, List.mem_cons_self, heq⟩
    · obtain ⟨x, hx, hax⟩ := ih
      exact ⟨x, List.mem_cons_of_mem b hx, hax⟩

omit [Std.TransOrd α] in
theorem perm_insertSorted {a : α} (h : ∀ b ∈ l, compare a b ≠ .eq) :
    (insertSorted a l).Perm (a :: l) := by
  induction l with
  | nil => exact .refl _
  | cons b bs ih =>
    obtain ⟨hb, hbs⟩ := List.forall_mem_cons.1 h
    rw [insertSorted]
    split
    · exact .refl _
    · contradiction
    · exact ((ih hbs).cons b).trans (.swap a b bs)

end Increasing

namespace OrderedSet

section Members

variable {α : Type u} [Ord α]

instance : Membership α (OrderedSet α) := ⟨fun s a => a ∈ s.toList⟩

instance [DecidableEq α] (s : OrderedSet α) (a : α) : Decidable (a ∈ s) :=
  inferInstanceAs (Decidable (a ∈ s.toList))

theorem mem_toList {s : OrderedSet α} {a : α} : a ∈ s.toList ↔ a ∈ s := .rfl

@[simp] theorem not_mem_empty (a : α) : a ∉ (∅ : OrderedSet α) := List.not_mem_nil

@[simp] theorem contains_empty (a : α) : (∅ : OrderedSet α).contains a = false := rfl

@[simp] theorem mem_filter {p : α → Bool} {s : OrderedSet α} {a : α} :
    a ∈ s.filter p ↔ a ∈ s ∧ p a :=
  List.mem_filter

variable [Std.TransOrd α]

/-- No member is lost where no two of them compare equal. -/
theorem perm_ofList {l : List α} (h : l.Pairwise fun a b => compare a b ≠ .eq) :
    (ofList l).toList.Perm l := by
  induction l with
  | nil => exact .refl _
  | cons a l ih =>
    obtain ⟨ha, hl⟩ := List.pairwise_cons.1 h
    have hperm := ih hl
    exact (perm_insertSorted fun b hb => ha b (hperm.mem_iff.1 hb)).trans (hperm.cons a)

theorem ext {s t : OrderedSet α} (h : ∀ a, a ∈ s ↔ a ∈ t) : s = t := by
  obtain ⟨l, hl⟩ := s
  obtain ⟨l', hl'⟩ := t
  have heq : l = l' := eq_of_increasing id hl hl' h
  subst heq
  rfl

/-- After an insertion a set also contains what compares equal to the inserted member. -/
theorem contains_insert {s : OrderedSet α} {a x : α} :
    (s.insert a).contains x ↔ compare x a = .eq ∨ s.contains x := by
  simp only [contains, List.any_eq_true, beq_iff_eq]
  constructor
  · rintro ⟨b, hb, hxb⟩
    rcases mem_insertSorted hb with rfl | hmem
    · exact .inl hxb
    · exact .inr ⟨b, hmem, hxb⟩
  · rintro (hxa | ⟨b, hb, hxb⟩)
    · obtain ⟨b, hb, hab⟩ := exists_mem_insertSorted a s.toList
      exact ⟨b, hb, Std.TransCmp.eq_trans hxa hab⟩
    · exact ⟨b, mem_insertSorted_of_mem hb, hxb⟩

end Members

/-! ### Members of one kind -/

section Lawful

variable {α : Type u} [Ord α] [Std.TransOrd α] {P : α → Prop} (hP : LawfulOn P)
include hP

theorem mem_insert {s : OrderedSet α} (hs : ∀ x ∈ s, P x) {a : α} (ha : P a) {x : α} :
    x ∈ s.insert a ↔ x = a ∨ x ∈ s := by
  constructor
  · exact mem_insertSorted
  · rintro (rfl | hx)
    · obtain ⟨b, hb, hab⟩ := exists_mem_insertSorted x s.toList
      rcases mem_insertSorted hb with rfl | hmem
      · exact hb
      · exact hP ha (hs b hmem) hab ▸ hb
    · exact mem_insertSorted_of_mem hx

theorem mem_insertMany {s : OrderedSet α} (hs : ∀ x ∈ s, P x) {l : List α} (hl : ∀ x ∈ l, P x)
    {x : α} : x ∈ s.insertMany l ↔ x ∈ s ∨ x ∈ l := by
  induction l generalizing s with
  | nil => simp [insertMany]
  | cons a l ih =>
    have ha : P a := hl a List.mem_cons_self
    have hs' : ∀ y ∈ s.insert a, P y := by
      intro y hy
      rcases (mem_insert hP hs ha).1 hy with rfl | hy
      · exact ha
      · exact hs y hy
    have hstep : x ∈ (s.insert a).insertMany l ↔ x ∈ s.insert a ∨ x ∈ l :=
      ih hs' fun y hy => hl y (List.mem_cons_of_mem a hy)
    have hunfold : s.insertMany (a :: l) = (s.insert a).insertMany l := rfl
    rw [hunfold, hstep, mem_insert hP hs ha, List.mem_cons]
    grind

theorem mem_ofList {l : List α} (hl : ∀ x ∈ l, P x) {x : α} : x ∈ ofList l ↔ x ∈ l := by
  induction l generalizing x with
  | nil => simp [ofList]
  | cons a l ih =>
    have hl' : ∀ y ∈ l, P y := fun y hy => hl y (List.mem_cons_of_mem a hy)
    have hs : ∀ y ∈ ofList l, P y := fun y hy => hl' y ((ih hl').1 hy)
    have hunfold : ofList (a :: l) = (ofList l).insert a := rfl
    rw [hunfold, mem_insert hP hs (hl a List.mem_cons_self), ih hl', List.mem_cons]

theorem contains_iff {s : OrderedSet α} (hs : ∀ x ∈ s, P x) {a : α} (ha : P a) :
    s.contains a ↔ a ∈ s := by
  simp only [contains, List.any_eq_true, beq_iff_eq]
  constructor
  · rintro ⟨b, hb, hab⟩
    rwa [hP ha (hs b hb) hab]
  · intro h
    exact ⟨a, h, Std.ReflCmp.compare_self⟩

theorem mem_inter {s t : OrderedSet α} (hs : ∀ x ∈ s, P x) (ht : ∀ x ∈ t, P x) {x : α} :
    x ∈ s.inter t ↔ x ∈ s ∧ x ∈ t := by
  rw [inter, mem_filter]
  exact and_congr_right fun hx => contains_iff hP ht (hs x hx)

theorem mem_diff {s t : OrderedSet α} (hs : ∀ x ∈ s, P x) (ht : ∀ x ∈ t, P x) {x : α} :
    x ∈ s.diff t ↔ x ∈ s ∧ x ∉ t := by
  rw [diff, mem_filter]
  refine and_congr_right fun hx => ?_
  rw [Bool.not_eq_true', Bool.eq_false_iff, Ne, contains_iff hP ht (hs x hx)]

end Lawful

end OrderedSet

/-! ### Maps -/

namespace OrderedMap

variable {κ : Type u} {ν : Type v} [Ord κ] [Std.TransOrd κ]

omit [Std.TransOrd κ] in
theorem exists_of_get? {m : OrderedMap κ ν} {k : κ} {v : ν} (h : m.get? k = some v) :
    ∃ k', compare k k' = .eq ∧ (k', v) ∈ m.entries := by
  obtain ⟨⟨k', v'⟩, hfind, rfl⟩ := Option.map_eq_some_iff.1 h
  refine ⟨k', ?_, List.mem_of_find?_eq_some hfind⟩
  simpa using List.find?_some hfind

/-- Keys that compare equal have one value. -/
theorem get?_congr {m : OrderedMap κ ν} {k k' : κ} (h : compare k k' = .eq) :
    m.get? k = m.get? k' := by
  simp only [get?, valueAt, Std.TransCmp.congr_left h]

theorem get?_of_mem {m : OrderedMap κ ν} {k : κ} {v : ν} (h : (k, v) ∈ m.entries) :
    m.get? k = some v := by
  obtain ⟨l, hl⟩ := m
  change valueAt k l = some v
  induction l with
  | nil => contradiction
  | cons e es ih =>
    obtain ⟨he, hes⟩ := List.pairwise_cons.1 hl
    rw [valueAt_cons]
    rcases List.mem_cons.1 h with heq | hmem
    · simp [← heq]
    · have hgt : compare k e.1 = .gt := Std.OrientedCmp.gt_of_lt (he (k, v) hmem)
      simp [hgt, ih hes hmem]

omit [Std.TransOrd κ] in
theorem mem_keys_of_mem {m : OrderedMap κ ν} {k : κ} {v : ν} (h : (k, v) ∈ m.entries) :
    k ∈ m.keys :=
  List.mem_map_of_mem h

omit [Std.TransOrd κ] in
theorem mem_upsertSorted {k : κ} {v : ν} {l : List (κ × ν)} {e : κ × ν}
    (h : e ∈ upsertSorted k (fun _ => v) l) : e.2 = v ∨ e ∈ l := by
  induction l with
  | nil => simp_all [upsertSorted]
  | cons x l ih =>
    rw [upsertSorted] at h
    split at h <;> grind

/-- Every value of a map that was made of a list is a value of the list. -/
theorem exists_of_mem_ofList {l : List (κ × ν)} {e : κ × ν} (h : e ∈ (ofList l).entries) :
    ∃ x ∈ l, x.2 = e.2 := by
  induction l using List.reverseRecOn with
  | nil => contradiction
  | append_singleton l x ih =>
    rw [ofList, List.foldl_append] at h
    rcases mem_upsertSorted h with hvalue | hmem
    · exact ⟨x, by simp, hvalue.symm⟩
    · obtain ⟨y, hy, hvalue⟩ := ih hmem
      exact ⟨y, by simp [hy], hvalue⟩

/-- Maps of lists with the same keys in the same order have related values where the lists have. -/
theorem rel_get?_ofList [Std.LawfulEqOrd κ] {r : ν → ν → Prop} {l l' : List (κ × ν)} {k : κ}
    (h : List.Forall₂ (fun e e' => e.1 = e'.1 ∧ (e.1 = k → r e.2 e'.2)) l l') :
    Option.Rel r ((ofList l).get? k) ((ofList l').get? k) := by
  have hfold (m m' : OrderedMap κ ν) (hm : Option.Rel r (m.get? k) (m'.get? k)) :
      Option.Rel r ((l.foldl (fun m e => m.insert e.1 e.2) m).get? k)
        ((l'.foldl (fun m e => m.insert e.1 e.2) m').get? k) := by
    induction h generalizing m m' with
    | nil => exact hm
    | @cons e e' l l' hee' _ ih =>
      obtain ⟨hkey, hvalue⟩ := hee'
      refine ih _ _ ?_
      rw [get?_insert, get?_insert, ← hkey]
      split
      · rename_i heq
        exact .some (hvalue (Std.LawfulEqOrd.eq_of_compare heq).symm)
      · exact hm
  exact hfold ∅ ∅ .none

/-- A key has the value that is given last. -/
theorem get?_ofList [Std.LawfulEqOrd κ] [DecidableEq κ] (l : List (κ × ν)) (k : κ) :
    (ofList l).get? k = (l.reverse.find? fun e => e.1 = k).map (·.2) := by
  induction l using List.reverseRecOn with
  | nil => rfl
  | append_singleton l e ih =>
    have hlast : ofList (l ++ [e]) = (ofList l).insert e.1 e.2 := List.foldl_concat ..
    rw [hlast, get?_insert, ih, List.reverse_append, List.reverse_singleton, List.singleton_append,
      List.find?_cons]
    by_cases hk : e.1 = k
    · simp [hk]
    · have hne : compare k e.1 ≠ .eq := fun h => hk (Std.LawfulEqOrd.eq_of_compare h).symm
      simp [hk, hne]

/-- A key that is greater than all others is put at the end. -/
theorem upsertSorted_of_lt {k : κ} {f : Option ν → ν} {l : List (κ × ν)}
    (h : ∀ e ∈ l, compare e.1 k = .lt) : upsertSorted k f l = l ++ [(k, f none)] := by
  induction l with
  | nil => rfl
  | cons e l ih =>
    obtain ⟨he, hl⟩ := List.forall_mem_cons.1 h
    have hgt : compare k e.1 = .gt := Std.OrientedCmp.gt_of_lt he
    simp [upsertSorted, hgt, ih hl]

/-- A list in increasing order is kept as it is. -/
theorem entries_ofList {l : List (κ × ν)} (h : l.Pairwise fun x y => compare x.1 y.1 = .lt) :
    (ofList l).entries = l := by
  induction l using List.reverseRecOn with
  | nil => rfl
  | append_singleton l e ih =>
    obtain ⟨hl, -, hlast⟩ := List.pairwise_append.1 h
    have hconcat : ofList (l ++ [e]) = (ofList l).insert e.1 e.2 := List.foldl_concat ..
    rw [hconcat]
    change upsertSorted e.1 _ (ofList l).entries = l ++ [e]
    rw [ih hl]
    exact upsertSorted_of_lt fun x hx => hlast x hx e List.mem_cons_self

theorem ofList_entries (m : OrderedMap κ ν) : ofList m.entries = m := by
  have heq : (ofList m.entries).entries = m.entries := entries_ofList m.increasing
  generalize ofList m.entries = m' at heq
  cases m
  cases m'
  simp_all

/-- The first entry of a list counts if no later one has its key. -/
theorem get?_ofList_cons [Std.LawfulEqOrd κ] [DecidableEq κ] (e : κ × ν) (l : List (κ × ν)) (k : κ) :
    (ofList (e :: l)).get? k = ((ofList l).get? k).or (if e.1 = k then some e.2 else none) := by
  rw [get?_ofList, get?_ofList, List.reverse_cons, List.find?_append, Option.map_or]
  by_cases hk : e.1 = k <;> simp [hk]

theorem nodup_keys (m : OrderedMap κ ν) : m.keys.Nodup :=
  nodup_of_increasing id (List.pairwise_map.2 m.increasing)

section Lawful

variable {P : κ → Prop} (hP : LawfulOn P)
include hP

theorem mem_entries_iff {m : OrderedMap κ ν} (hm : ∀ k ∈ m.keys, P k) {k : κ} (hk : P k) {v : ν} :
    (k, v) ∈ m.entries ↔ m.get? k = some v := by
  refine ⟨get?_of_mem, fun h => ?_⟩
  obtain ⟨k', hkk', hmem⟩ := exists_of_get? h
  rwa [hP hk (hm k' (mem_keys_of_mem hmem)) hkk']

theorem mem_keys_iff {m : OrderedMap κ ν} (hm : ∀ k ∈ m.keys, P k) {k : κ} (hk : P k) :
    k ∈ m.keys ↔ ∃ v, m.get? k = some v := by
  simp only [keys, List.mem_map, Prod.exists, exists_and_right, exists_eq_right,
    ← mem_entries_iff hP hm hk]

omit hP in
theorem keys_insert {m : OrderedMap κ ν} {k : κ} (hm : ∀ x ∈ m.keys, P x) (hk : P k) {v : ν} :
    ∀ x ∈ (m.insert k v).keys, P x := by
  intro x hx
  obtain ⟨e, hmem, rfl⟩ := List.mem_map.1 hx
  rcases mem_upsertSorted_fst hmem with heq | ⟨y, hy, heq⟩
  · rwa [heq]
  · rw [← heq]
    exact hm y.1 (List.mem_map_of_mem hy)

/-- A map is known by the values at the keys of its kind. -/
theorem ext {m m' : OrderedMap κ ν} (hm : ∀ k ∈ m.keys, P k) (hm' : ∀ k ∈ m'.keys, P k)
    (h : ∀ k, P k → m.get? k = m'.get? k) : m = m' := by
  have hmem (e : κ × ν) : e ∈ m.entries ↔ e ∈ m'.entries := by
    constructor
    · intro he
      have hk : P e.1 := hm e.1 (mem_keys_of_mem he)
      rw [mem_entries_iff hP hm' hk, ← h e.1 hk]
      exact get?_of_mem he
    · intro he
      have hk : P e.1 := hm' e.1 (mem_keys_of_mem he)
      rw [mem_entries_iff hP hm hk, h e.1 hk]
      exact get?_of_mem he
  obtain ⟨l, hl⟩ := m
  obtain ⟨l', hl'⟩ := m'
  have heq : l = l' := eq_of_increasing Prod.fst hl hl' hmem
  subst heq
  rfl

end Lawful

end OrderedMap

end LayerCheck
