import LayerCheck.Pattern.Regex

/-!
What regular expressions match. An expression relates the positions at which a match can start to those
at which it can end. Reaching computes this relation for whole sets of positions; it cuts off counts of
repetitions that are larger than the number of positions, which loses nothing, since among so many
repetitions one is empty.
-/

namespace LayerCheck.Pattern

/-! ### Matches -/

/-- The position before the character with the number `i`. -/
def placeAt (subject : List Char) (i : Nat) : Place where
  before := if i = 0 then none else subject[i - 1]?
  after := subject[i]?

/-- A relation applied a number of times. -/
def Times (R : Nat → Nat → Prop) : Nat → Nat → Nat → Prop
  | 0, i, j => i = j
  | n + 1, i, k => ∃ j, R i j ∧ Times R n j k

/-- The expression matches the characters of the subject between two positions. A repetition is done
at least `least` times, and more often only up to its bound. -/
def Regex.Matches (subject : List Char) : Regex → Nat → Nat → Prop
  | empty, i, j => i = j
  | set s, i, j => j = i + 1 ∧ ∃ c, subject[i]? = some c ∧ s.contains c.toNat
  | look l, i, j => i = j ∧ l.holds (placeAt subject i)
  | cat a b, i, k => ∃ j, a.Matches subject i j ∧ b.Matches subject j k
  | alt a b, i, j => a.Matches subject i j ∨ b.Matches subject i j
  | repeated r least most, i, j =>
    ∃ n, least ≤ n ∧ (∀ bound ∈ most, n ≤ max least bound) ∧ Times (r.Matches subject) n i j

/-! ### Repetitions -/

section Times

variable {R : Nat → Nat → Prop} {i j n : Nat}

theorem Times.keeps {P : Nat → Prop} (hR : ∀ i j, R i j → P i → P j) (h : Times R n i j) (hi : P i) :
    P j := by
  induction n generalizing i with
  | zero =>
    obtain rfl : i = j := h
    exact hi
  | succ n ih =>
    obtain ⟨k, hik, hkj⟩ := h
    exact ih hkj (hR i k hik hi)

/-- The relation applied a number of times between two bounds. -/
def Within (R : Nat → Nat → Prop) (least extra i j : Nat) : Prop :=
  ∃ n, least ≤ n ∧ n ≤ least + extra ∧ Times R n i j

theorem within_zero : Within R 0 0 i j ↔ i = j := by
  constructor
  · rintro ⟨n, -, hn, h⟩
    obtain rfl : n = 0 := by omega
    exact h
  · intro h
    exact ⟨0, Nat.le_refl 0, Nat.le_refl 0, h⟩

theorem within_extra {extra : Nat} :
    Within R 0 (extra + 1) i j ↔ i = j ∨ ∃ k, R i k ∧ Within R 0 extra k j := by
  constructor
  · rintro ⟨n, -, hn, h⟩
    cases n with
    | zero => exact .inl h
    | succ n =>
      obtain ⟨k, hik, hkj⟩ := h
      exact .inr ⟨k, hik, n, by omega, by omega, hkj⟩
  · rintro (h | ⟨k, hik, n, -, hn, hkj⟩)
    · exact ⟨0, by omega, by omega, h⟩
    · exact ⟨n + 1, by omega, by omega, k, hik, hkj⟩

theorem within_least {least extra : Nat} :
    Within R (least + 1) extra i j ↔ ∃ k, R i k ∧ Within R least extra k j := by
  constructor
  · rintro ⟨n, hleast, hn, h⟩
    cases n with
    | zero => omega
    | succ n =>
      obtain ⟨k, hik, hkj⟩ := h
      exact ⟨k, hik, n, by omega, by omega, hkj⟩
  · rintro ⟨k, hik, n, hleast, hn, hkj⟩
    exact ⟨n + 1, by omega, by omega, k, hik, hkj⟩

variable (hR : ∀ i j, R i j → i ≤ j)
include hR

/-- Of more repetitions than there are characters one is empty. It can be left out. -/
theorem Times.pred (h : Times R (n + 1) i j) (hlt : j < i + (n + 1)) : Times R n i j := by
  induction n generalizing i with
  | zero =>
    obtain ⟨k, hik, rfl⟩ := h
    have hle := hR i k hik
    exact (by omega : i = k)
  | succ n ih =>
    obtain ⟨k, hik, hkj⟩ := h
    by_cases heq : k = i
    · exact heq ▸ hkj
    · have hle := hR i k hik
      exact ⟨k, hik, ih hkj (by omega)⟩

/-- It can also be done once more. -/
theorem Times.succ (h : Times R n i j) (hlt : j < i + n) : Times R (n + 1) i j := by
  induction n generalizing i with
  | zero =>
    obtain rfl : i = j := h
    omega
  | succ n ih =>
    obtain ⟨k, hik, hkj⟩ := h
    by_cases heq : k = i
    · subst heq
      exact ⟨k, hik, k, hik, hkj⟩
    · have hle := hR i k hik
      exact ⟨k, hik, ih hkj (by omega)⟩

theorem Times.add (h : Times R n i j) (hlt : j < i + n) (more : Nat) : Times R (n + more) i j := by
  induction more with
  | zero => exact h
  | succ more ih =>
    have hlt' : j < i + (n + more) := by omega
    exact Times.succ hR ih hlt'

theorem Times.sub {fewer : Nat} (h : Times R (n + fewer) i j) (hlt : j < i + n) : Times R n i j := by
  induction fewer with
  | zero => exact h
  | succ fewer ih => exact ih (h.pred hR (by omega))

/-- From some count on, all counts are the same. -/
theorem Times.change {n' : Nat} (h : Times R n i j) (hn : j < i + n) (hn' : j < i + n') :
    Times R n' i j := by
  rcases Nat.le_total n n' with hle | hle
  · have hadd := h.add hR hn (n' - n)
    rwa [Nat.add_sub_cancel' hle] at hadd
  · rw [← Nat.add_sub_cancel' hle] at h
    exact h.sub hR hn'

/-- How much more often than `least` a repetition is done, as far as it matters. -/
def extraCount (size least : Nat) (most : Option Nat) : Nat :=
  most.elim size fun bound => min (bound - least) size

/-- Counts above the number of positions can be cut off. -/
theorem exists_times_iff {size : Nat} (hsize : ∀ n, Times R n i j → j < size) (least : Nat)
    (most : Option Nat) :
    (∃ n, least ≤ n ∧ (∀ bound ∈ most, n ≤ max least bound) ∧ Times R n i j) ↔
      Within R (min least size) (extraCount size least most) i j := by
  constructor
  · rintro ⟨n, hleast, hmost, h⟩
    have hj := hsize n h
    by_cases hn : n ≤ min least size + extraCount size least most
    · exact ⟨n, by omega, hn, h⟩
    · have hlarge : size ≤ n ∧ size ≤ min least size + extraCount size least most := by
        cases most with
        | none =>
          simp only [extraCount, Option.elim] at hn ⊢
          omega
        | some bound =>
          have hbound := hmost bound rfl
          simp only [extraCount, Option.elim] at hn ⊢
          omega
      exact ⟨_, by omega, Nat.le_refl _, h.change hR (by omega) (by omega)⟩
  · rintro ⟨n, hleast, hmost, h⟩
    have hj := hsize n h
    by_cases hsmall : least ≤ size
    · refine ⟨n, by omega, ?_, h⟩
      rintro bound rfl
      simp only [extraCount, Option.elim] at hmost
      omega
    · exact ⟨least, Nat.le_refl _, fun bound _ => by omega, h.change hR (by omega) (by omega)⟩

end Times

section Matches

variable {subject : List Char} {i j : Nat}

theorem Regex.Matches.le {r : Regex} (h : r.Matches subject i j) : i ≤ j := by
  induction r generalizing i j with
  | empty => exact Nat.le_of_eq h
  | set s => exact h.1 ▸ Nat.le_succ i
  | look l => exact Nat.le_of_eq h.1
  | cat a b iha ihb =>
    obtain ⟨k, ha, hb⟩ := h
    exact Nat.le_trans (iha ha) (ihb hb)
  | alt a b iha ihb =>
    rcases h with h | h
    · exact iha h
    · exact ihb h
  | repeated r least most ih =>
    obtain ⟨n, -, -, h⟩ := h
    exact h.keeps (P := fun k => i ≤ k) (fun k l hkl hk => Nat.le_trans hk (ih hkl)) (Nat.le_refl i)

theorem Regex.Matches.le_length {r : Regex} (h : r.Matches subject i j) (hi : i ≤ subject.length) :
    j ≤ subject.length := by
  induction r generalizing i j with
  | empty => exact h ▸ hi
  | set s =>
    obtain ⟨rfl, c, hc, -⟩ := h
    obtain ⟨hlt, -⟩ := List.getElem?_eq_some_iff.1 hc
    exact hlt
  | look l => exact h.1 ▸ hi
  | cat a b iha ihb =>
    obtain ⟨k, ha, hb⟩ := h
    exact ihb hb (iha ha hi)
  | alt a b iha ihb =>
    rcases h with h | h
    · exact iha h hi
    · exact ihb h hi
  | repeated r least most ih =>
    obtain ⟨n, -, -, h⟩ := h
    exact h.keeps (P := fun k => k ≤ subject.length) (fun k l hkl hk => ih hkl hk) hi

/-! ### Sets of positions -/

/-- The position is in the mask. -/
def Mask.Has (m : Mask) (i : Nat) : Prop :=
  m[i]? = some true

theorem Mask.Has.lt_length {m : Mask} (h : m.Has i) : i < m.length :=
  (List.getElem?_eq_some_iff.1 h).1

theorem Mask.any_iff {m : Mask} : m.any id ↔ ∃ i, m.Has i := by
  rw [List.any_eq_true]
  constructor
  · rintro ⟨b, hb, htrue⟩
    obtain ⟨i, hi⟩ := List.mem_iff_getElem?.1 hb
    exact ⟨i, hi.trans (congrArg some htrue)⟩
  · rintro ⟨i, hi⟩
    exact ⟨true, List.mem_of_getElem? hi, rfl⟩

theorem Mask.has_union {m n : Mask} (h : m.length = n.length) :
    (m.union n).Has i ↔ m.Has i ∨ n.Has i := by
  simp only [Has, union, List.getElem?_zipWith]
  by_cases hi : i < m.length
  · rw [List.getElem?_eq_getElem hi, List.getElem?_eq_getElem (h ▸ hi)]
    simp
  · rw [List.getElem?_eq_none (by omega), List.getElem?_eq_none (by omega)]
    simp

theorem length_placesFrom (before : Option Char) (cs : List Char) :
    (placesFrom before cs).length = cs.length + 1 := by
  induction cs generalizing before with
  | nil => rfl
  | cons c cs ih => simp [placesFrom, ih]

theorem getElem?_placesFrom {cs : List Char} (before : Option Char) (hi : i ≤ cs.length) :
    (placesFrom before cs)[i]? = some ⟨if i = 0 then before else cs[i - 1]?, cs[i]?⟩ := by
  induction cs generalizing before i with
  | nil =>
    obtain rfl : i = 0 := by simpa using hi
    rfl
  | cons c cs ih =>
    cases i with
    | zero => rfl
    | succ i =>
      have hrest := ih (some c) (Nat.le_of_succ_le_succ hi)
      cases i with
      | zero => simpa [placesFrom] using hrest
      | succ i => simpa [placesFrom] using hrest

theorem Mask.length_filter {m : Mask} (hm : m.length = subject.length + 1) (p : Place → Bool) :
    (m.filter p (places subject)).length = subject.length + 1 := by
  simp [filter, places, length_placesFrom, hm]

theorem Mask.has_filter {m : Mask} (hm : m.length = subject.length + 1) {p : Place → Bool} :
    (m.filter p (places subject)).Has i ↔ m.Has i ∧ p (placeAt subject i) := by
  simp only [Has, filter, List.getElem?_zipWith]
  by_cases hi : i < m.length
  · have hplace : (places subject)[i]? = some (placeAt subject i) :=
      getElem?_placesFrom none (by omega)
    rw [hplace, List.getElem?_eq_getElem hi]
    simp
  · rw [List.getElem?_eq_none (l := m) (by omega)]
    simp

theorem Mask.has_advance {m : Mask} (hm : m.length = subject.length + 1) {p : Char → Bool} :
    (m.advance p (places subject)).Has j ↔
      ∃ i, m.Has i ∧ j = i + 1 ∧ ∃ c, subject[i]? = some c ∧ p c := by
  cases j with
  | zero => simp [Has, advance]
  | succ k =>
    have hafter : (placeAt subject k).after.any p ↔ ∃ c, subject[k]? = some c ∧ p c := by
      simp [placeAt, Option.any_eq_true]
    have hmoved : (m.advance p (places subject)).Has (k + 1) ↔ k < subject.length ∧
        (m.filter (fun place => place.after.any p) (places subject)).Has k := by
      simp only [Has, advance, List.getElem?_cons_succ, List.getElem?_dropLast, length_filter hm]
      simp
    rw [hmoved, has_filter hm, hafter]
    constructor
    · rintro ⟨-, hk, hc⟩
      exact ⟨k, hk, rfl, hc⟩
    · rintro ⟨i, hi, heq, c, hc, hp⟩
      obtain rfl : k = i := Nat.succ.inj heq
      exact ⟨(List.getElem?_eq_some_iff.1 hc).1, hi, c, hc, hp⟩

/-- The function takes a set of positions to those that the relation leads to. -/
def Computes (size : Nat) (f : Mask → Mask) (R : Nat → Nat → Prop) : Prop :=
  ∀ m : Mask, m.length = size → (f m).length = size ∧ ∀ j, (f m).Has j ↔ ∃ i, m.Has i ∧ R i j

theorem Computes.length {size : Nat} {f : Mask → Mask} {R : Nat → Nat → Prop} (h : Computes size f R)
    {m : Mask} (hm : m.length = size) : (f m).length = size :=
  (h m hm).1

theorem Computes.has_iff {size : Nat} {f : Mask → Mask} {R : Nat → Nat → Prop} (h : Computes size f R)
    {m : Mask} (hm : m.length = size) : (f m).Has j ↔ ∃ i, m.Has i ∧ R i j :=
  (h m hm).2 j

theorem computes_iterate {size : Nat} {f : Mask → Mask} {R : Nat → Nat → Prop} (h : Computes size f R)
    (least extra : Nat) : Computes size (iterate f least extra) (Within R least extra) := by
  intro m hm
  fun_induction iterate f least extra m with
  | case1 m => exact ⟨hm, fun j => by simp [within_zero]⟩
  | case2 extra m hany ih =>
    obtain ⟨hlength, hrest⟩ := ih (h.length hm)
    refine ⟨by simp [Mask.union, hm, hlength], fun j => ?_⟩
    rw [Mask.has_union (hm.trans hlength.symm), hrest j]
    simp only [h.has_iff hm, within_extra]
    constructor
    · rintro (hj | ⟨k, ⟨i, hi, hik⟩, hkj⟩)
      · exact ⟨j, hj, .inl rfl⟩
      · exact ⟨i, hi, .inr ⟨k, hik, hkj⟩⟩
    · rintro ⟨i, hi, rfl | ⟨k, hik, hkj⟩⟩
      · exact .inl hi
      · exact .inr ⟨k, ⟨i, hi, hik⟩, hkj⟩
  | case3 extra m hany =>
    have hnone (i : Nat) : ¬m.Has i := fun hi => hany (Mask.any_iff.2 ⟨i, hi⟩)
    exact ⟨hm, fun j => by simp [hnone]⟩
  | case4 extra least m hany ih =>
    obtain ⟨hlength, hrest⟩ := ih (h.length hm)
    refine ⟨hlength, fun j => ?_⟩
    rw [hrest j]
    simp only [h.has_iff hm, within_least]
    constructor
    · rintro ⟨k, ⟨i, hi, hik⟩, hkj⟩
      exact ⟨i, hi, k, hik, hkj⟩
    · rintro ⟨i, hi, k, hik, hkj⟩
      exact ⟨k, ⟨i, hi, hik⟩, hkj⟩
  | case5 extra least m hany =>
    have hnone (i : Nat) : ¬m.Has i := fun hi => hany (Mask.any_iff.2 ⟨i, hi⟩)
    exact ⟨hm, fun j => by simp [hnone]⟩

/-- Reaching computes the matches. -/
theorem computes_reach (subject : List Char) (r : Regex) :
    Computes (subject.length + 1) (r.reach (places subject)) (r.Matches subject) := by
  intro m hm
  induction r generalizing m with
  | empty => exact ⟨hm, fun j => by simp [Regex.reach, Regex.Matches]⟩
  | set s =>
    refine ⟨?_, fun j => Mask.has_advance hm⟩
    simp [Regex.reach, Mask.advance, Mask.length_filter hm]
  | look l =>
    refine ⟨Mask.length_filter hm l.holds, fun j => ?_⟩
    rw [Regex.reach, Mask.has_filter hm]
    constructor
    · rintro ⟨hj, hlook⟩
      exact ⟨j, hj, rfl, hlook⟩
    · rintro ⟨i, hi, rfl, hlook⟩
      exact ⟨hi, hlook⟩
  | cat a b iha ihb =>
    obtain ⟨hlength, ha⟩ := iha m hm
    obtain ⟨hlength', hb⟩ := ihb _ hlength
    refine ⟨hlength', fun j => ?_⟩
    rw [Regex.reach, hb j]
    simp only [ha, Regex.Matches]
    constructor
    · rintro ⟨k, ⟨i, hi, hik⟩, hkj⟩
      exact ⟨i, hi, k, hik, hkj⟩
    · rintro ⟨i, hi, k, hik, hkj⟩
      exact ⟨k, ⟨i, hi, hik⟩, hkj⟩
  | alt a b iha ihb =>
    obtain ⟨hlength, ha⟩ := iha m hm
    obtain ⟨hlength', hb⟩ := ihb m hm
    refine ⟨by simp [Regex.reach, Mask.union, hlength, hlength'], fun j => ?_⟩
    rw [Regex.reach, Mask.has_union (hlength.trans hlength'.symm), ha j, hb j, ← exists_or]
    simp only [Regex.Matches, and_or_left]
  | repeated r least most ih =>
    have hcomputes := computes_iterate ih (min least (subject.length + 1))
      (extraCount (subject.length + 1) least most)
    have hreach : (Regex.repeated r least most).reach (places subject) m =
        iterate (r.reach (places subject)) (min least (subject.length + 1))
          (extraCount (subject.length + 1) least most) m := by
      cases most <;> simp [Regex.reach, extraCount, places, length_placesFrom]
    refine ⟨hreach ▸ hcomputes.length hm, fun j => ?_⟩
    rw [hreach, hcomputes.has_iff hm]
    refine exists_congr fun i => and_congr_right fun hi => (exists_times_iff ?_ ?_ least most).symm
    · exact fun i j h => h.le
    · intro n h
      have hi' := hi.lt_length
      have hj : j ≤ subject.length :=
        h.keeps (P := (· ≤ subject.length)) (fun k l hkl hk => hkl.le_length hk) (by omega)
      omega

/-- A search finds the matches between all positions. -/
theorem Regex.search_iff {r : Regex} {subject : String} :
    r.search subject ↔ ∃ i j, i ≤ subject.length ∧ r.Matches subject.toList i j := by
  have hmask : (places subject.toList).map (fun _ => true) =
      List.replicate (subject.toList.length + 1) true := by
    rw [List.map_const', places, length_placesFrom]
  have hhas (i : Nat) : Mask.Has (List.replicate (subject.toList.length + 1) true) i ↔
      i ≤ subject.length := by
    rw [Mask.Has, List.getElem?_replicate, String.length_toList, ← Nat.lt_succ_iff, Nat.succ_eq_add_one]
    simp
  rw [search, hmask, Mask.any_iff]
  simp only [(computes_reach subject.toList r).has_iff List.length_replicate, hhas]
  exact exists_comm

end Matches

end LayerCheck.Pattern
