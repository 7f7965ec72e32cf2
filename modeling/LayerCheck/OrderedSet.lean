/-!
Finite sets and maps kept as strictly increasing lists. Members that compare equal are one member;
`insert` keeps the one that is already there, `ofList` the one given last.
-/

namespace LayerCheck

universe u v

/-- Puts `a` at its place in an increasing list, unless an equal member is there. -/
def insertSorted {α : Type u} [Ord α] (a : α) : List α → List α
  | [] => [a]
  | b :: bs =>
    match compare a b with
    | .lt => a :: b :: bs
    | .eq => b :: bs
    | .gt => b :: insertSorted a bs

theorem mem_insertSorted {α : Type u} [Ord α] {a x : α} {l : List α} (h : x ∈ insertSorted a l) :
    x = a ∨ x ∈ l := by
  induction l with
  | nil => simp_all [insertSorted]
  | cons b bs ih =>
    rw [insertSorted] at h
    split at h <;> grind

theorem pairwise_insertSorted {α : Type u} [Ord α] [Std.TransOrd α] (a : α) {l : List α}
    (h : l.Pairwise fun x y => compare x y = .lt) :
    (insertSorted a l).Pairwise fun x y => compare x y = .lt := by
  induction l with
  | nil => simp [insertSorted]
  | cons b bs ih =>
    obtain ⟨hb, hbs⟩ := List.pairwise_cons.1 h
    rw [insertSorted]
    split
    · rename_i hab
      refine List.pairwise_cons.2 ⟨fun x hx => ?_, h⟩
      rcases List.mem_cons.1 hx with rfl | hx
      · exact hab
      · exact Std.TransCmp.lt_trans hab (hb x hx)
    · exact h
    · rename_i hab
      refine List.pairwise_cons.2 ⟨fun x hx => ?_, ih hbs⟩
      rcases mem_insertSorted hx with rfl | hx
      · exact Std.OrientedCmp.lt_of_gt hab
      · exact hb x hx

structure OrderedSet (α : Type u) [Ord α] where
  toList : List α
  increasing : toList.Pairwise fun x y => compare x y = .lt

namespace OrderedSet

variable {α : Type u} [Ord α] [Std.TransOrd α]

def empty : OrderedSet α := ⟨[], .nil⟩

instance : EmptyCollection (OrderedSet α) := ⟨empty⟩

instance : Inhabited (OrderedSet α) := ⟨empty⟩

/-- Adds `a` unless an equal member is there. -/
def insert (s : OrderedSet α) (a : α) : OrderedSet α :=
  ⟨insertSorted a s.toList, pairwise_insertSorted a s.increasing⟩

/-- The set of the members of a list. Of equal members the last one given stays. -/
def ofList (l : List α) : OrderedSet α :=
  l.foldr (fun a s => s.insert a) ∅

/-- Adds the members of a list one after the other. -/
def insertMany (s : OrderedSet α) (l : List α) : OrderedSet α :=
  l.foldl insert s

def contains (s : OrderedSet α) (a : α) : Bool :=
  s.toList.any fun b => compare a b == .eq

def size (s : OrderedSet α) : Nat :=
  s.toList.length

def isEmpty (s : OrderedSet α) : Bool :=
  s.toList.isEmpty

def filter (p : α → Bool) (s : OrderedSet α) : OrderedSet α :=
  ⟨s.toList.filter p, s.increasing.filter p⟩

/-- The members of `s` that `t` also holds. -/
def inter (s t : OrderedSet α) : OrderedSet α :=
  s.filter t.contains

/-- The members of `s` that `t` does not hold. -/
def diff (s t : OrderedSet α) : OrderedSet α :=
  s.filter fun a => !t.contains a

end OrderedSet

/-- A finite map whose entries stand in increasing order of their keys. -/
structure OrderedMap (κ : Type u) (ν : Type v) [Ord κ] where
  entries : List (κ × ν)
  increasing : entries.Pairwise fun x y => compare x.1 y.1 = .lt

/-- Changes the value at `k`, or puts a new entry at its place. A key that is there stays as it is. -/
def upsertSorted {κ : Type u} {ν : Type v} [Ord κ] (k : κ) (f : Option ν → ν) :
    List (κ × ν) → List (κ × ν)
  | [] => [(k, f none)]
  | e :: es =>
    match compare k e.1 with
    | .lt => (k, f none) :: e :: es
    | .eq => (e.1, f (some e.2)) :: es
    | .gt => e :: upsertSorted k f es

theorem mem_upsertSorted_fst {κ : Type u} {ν : Type v} [Ord κ] {k : κ} {f : Option ν → ν}
    {x : κ × ν} {l : List (κ × ν)} (h : x ∈ upsertSorted k f l) :
    x.1 = k ∨ ∃ y ∈ l, y.1 = x.1 := by
  induction l with
  | nil => simp_all [upsertSorted]
  | cons e es ih =>
    rw [upsertSorted] at h
    split at h <;> grind

theorem pairwise_upsertSorted {κ : Type u} {ν : Type v} [Ord κ] [Std.TransOrd κ] (k : κ)
    (f : Option ν → ν) {l : List (κ × ν)} (h : l.Pairwise fun x y => compare x.1 y.1 = .lt) :
    (upsertSorted k f l).Pairwise fun x y => compare x.1 y.1 = .lt := by
  induction l with
  | nil => simp [upsertSorted]
  | cons e es ih =>
    obtain ⟨he, hes⟩ := List.pairwise_cons.1 h
    rw [upsertSorted]
    split
    · rename_i hk
      refine List.pairwise_cons.2 ⟨fun x hx => ?_, h⟩
      rcases List.mem_cons.1 hx with rfl | hx
      · exact hk
      · exact Std.TransCmp.lt_trans hk (he x hx)
    · exact List.pairwise_cons.2 ⟨he, hes⟩
    · rename_i hk
      refine List.pairwise_cons.2 ⟨fun x hx => ?_, ih hes⟩
      rcases mem_upsertSorted_fst hx with hx | ⟨y, hy, hx⟩
      · rw [hx]
        exact Std.OrientedCmp.lt_of_gt hk
      · rw [← hx]
        exact he y hy

/-- The value of the first entry whose key is `k`. -/
def valueAt {κ : Type u} {ν : Type v} [Ord κ] (k : κ) (l : List (κ × ν)) : Option ν :=
  (l.find? fun e => compare k e.1 == .eq).map Prod.snd

theorem valueAt_cons {κ : Type u} {ν : Type v} [Ord κ] (k : κ) (e : κ × ν) (l : List (κ × ν)) :
    valueAt k (e :: l) = if compare k e.1 = .eq then some e.2 else valueAt k l := by
  by_cases h : compare k e.1 = .eq <;> simp [valueAt, h]

theorem valueAt_eq_none_of_lt {κ : Type u} {ν : Type v} [Ord κ] {k : κ} {l : List (κ × ν)}
    (h : ∀ e ∈ l, compare k e.1 = .lt) : valueAt k l = none := by
  simp only [valueAt, Option.map_eq_none_iff, List.find?_eq_none]
  intro e he
  simp [h e he]

theorem valueAt_upsertSorted {κ : Type u} {ν : Type v} [Ord κ] [Std.TransOrd κ] (k k' : κ)
    (f : Option ν → ν) {l : List (κ × ν)} (h : l.Pairwise fun x y => compare x.1 y.1 = .lt) :
    valueAt k' (upsertSorted k f l) =
      if compare k' k = .eq then some (f (valueAt k l)) else valueAt k' l := by
  induction l with
  | nil => by_cases hk : compare k' k = .eq <;> simp [upsertSorted, valueAt, hk]
  | cons e es ih =>
    obtain ⟨he, hes⟩ := List.pairwise_cons.1 h
    rw [upsertSorted]
    split
    · rename_i hlt
      have hbelow : ∀ x ∈ e :: es, compare k x.1 = .lt := by
        intro x hx
        rcases List.mem_cons.1 hx with rfl | hx
        · exact hlt
        · exact Std.TransCmp.lt_trans hlt (he x hx)
      rw [valueAt_cons, valueAt_eq_none_of_lt hbelow]
    · rename_i heq
      have hcongr : compare k' k = compare k' e.1 := Std.TransCmp.congr_right heq
      rw [valueAt_cons, valueAt_cons, valueAt_cons, if_pos heq, hcongr]
      by_cases hk : compare k' e.1 = .eq <;> simp [hk]
    · rename_i hgt
      have hne : compare k e.1 ≠ .eq := by simp [hgt]
      rw [valueAt_cons, ih hes, valueAt_cons, valueAt_cons, if_neg hne]
      by_cases hk : compare k' k = .eq
      · have hne' : compare k' e.1 ≠ .eq := by rwa [Std.TransCmp.congr_left hk]
        simp [hk, hne']
      · simp [hk]

theorem valueAt_filter_ne {κ : Type u} {ν : Type v} [Ord κ] [Std.TransOrd κ] (k k' : κ)
    (l : List (κ × ν)) :
    valueAt k' (l.filter fun e => compare k e.1 != .eq) =
      if compare k' k = .eq then none else valueAt k' l := by
  induction l with
  | nil => simp [valueAt]
  | cons e es ih =>
    by_cases hk : compare k e.1 = .eq
    · have hcongr : compare k' k = compare k' e.1 := Std.TransCmp.congr_right hk
      rw [List.filter_cons_of_neg (by simp [hk]), ih, valueAt_cons, hcongr]
      by_cases hk' : compare k' e.1 = .eq <;> simp [hk']
    · rw [List.filter_cons_of_pos (by simpa using hk), valueAt_cons, valueAt_cons, ih]
      by_cases hk' : compare k' k = .eq
      · have hne : compare k' e.1 ≠ .eq := by rwa [Std.TransCmp.congr_left hk']
        simp [hk', hne]
      · simp [hk']

namespace OrderedMap

variable {κ : Type u} {ν : Type v} [Ord κ] [Std.TransOrd κ]

def empty : OrderedMap κ ν := ⟨[], .nil⟩

instance : EmptyCollection (OrderedMap κ ν) := ⟨empty⟩

instance : Inhabited (OrderedMap κ ν) := ⟨empty⟩

def get? (m : OrderedMap κ ν) (k : κ) : Option ν :=
  valueAt k m.entries

/-- Replaces the value at `k` by `f` of it, or adds `f none`. -/
def upsert (m : OrderedMap κ ν) (k : κ) (f : Option ν → ν) : OrderedMap κ ν :=
  ⟨upsertSorted k f m.entries, pairwise_upsertSorted k f m.increasing⟩

def insert (m : OrderedMap κ ν) (k : κ) (v : ν) : OrderedMap κ ν :=
  m.upsert k fun _ => v

/-- The map of a list of entries. Of two values for one key the last one given stays. -/
def ofList (l : List (κ × ν)) : OrderedMap κ ν :=
  l.foldl (fun m e => m.insert e.1 e.2) ∅

/-- The map without the entry at `k`. -/
def erase (m : OrderedMap κ ν) (k : κ) : OrderedMap κ ν :=
  ⟨m.entries.filter fun e => compare k e.1 != .eq, m.increasing.filter _⟩

def keys (m : OrderedMap κ ν) : List κ :=
  m.entries.map Prod.fst

def size (m : OrderedMap κ ν) : Nat :=
  m.entries.length

omit [Std.TransOrd κ] in
@[simp] theorem get?_empty (k : κ) : (∅ : OrderedMap κ ν).get? k = none := rfl

theorem get?_upsert (m : OrderedMap κ ν) (k k' : κ) (f : Option ν → ν) :
    (m.upsert k f).get? k' = if compare k' k = .eq then some (f (m.get? k)) else m.get? k' :=
  valueAt_upsertSorted k k' f m.increasing

theorem get?_insert (m : OrderedMap κ ν) (k k' : κ) (v : ν) :
    (m.insert k v).get? k' = if compare k' k = .eq then some v else m.get? k' :=
  m.get?_upsert k k' fun _ => v

theorem get?_erase (m : OrderedMap κ ν) (k k' : κ) :
    (m.erase k).get? k' = if compare k' k = .eq then none else m.get? k' :=
  valueAt_filter_ne k k' m.entries

end OrderedMap

end LayerCheck
