import LayerCheck.Pattern.Basic
import LayerCheck.Proofs.PatternText
import LayerCheck.Proofs.RegexSemantics

/-!
Matching patterns match where the same text, as a searching pattern, has a match at the start of the
subject.
-/

namespace LayerCheck.Pattern

/-! ### The pattern behind `^` in a group -/

theorem Reading.tokens_cons {r r' : Reading} {c : Char} {cs rest : List Char} {t : Token}
    (hskip : r.flags.skip (c :: cs) = c :: cs) (hnext : r.next c cs = some (t, r', rest)) (fuel : Nat) :
    r.tokens (fuel + 1) (c :: cs) = (r'.tokens fuel rest).map (t :: ·) := by
  rw [tokens, hskip]
  simp only [hnext, Option.bind_eq_bind, Option.bind_some, Option.pure_def]
  exact Option.map_eq_bind.symm

theorem tokens?_matching {raw : String} {ts ts' : List Token} (h : tokens? raw = some ts)
    (h' : tokens? ("^(?:" ++ raw ++ ")") = some ts') :
    ts' = .look .textStart :: .openGroup :: (ts ++ [.closeGroup]) := by
  have hchars : ("^(?:" ++ raw ++ ")").toList = '^' :: '(' :: '?' :: ':' :: (raw.toList ++ [')']) := by
    simp
  obtain ⟨fuel, hfuel⟩ : ∃ fuel, ("^(?:" ++ raw ++ ")").length = fuel + 1 := by
    rw [← String.length_toList, hchars]
    exact ⟨_, rfl⟩
  have hcaret (cs : List Char) : ({} : Reading).next '^' cs = some (.look .textStart, {}, cs) := rfl
  have hopen (cs : List Char) : ({} : Reading).next '(' ('?' :: ':' :: cs) =
      some (.openGroup, ({} : Reading).within [{}], cs) := rfl
  rw [tokens?, hchars, hfuel, Reading.tokens_cons rfl (hcaret _), Reading.tokens_cons rfl (hopen _),
    Option.map_map, Option.map_eq_some_iff] at h'
  obtain ⟨inner, hinner, rfl⟩ := h'
  rw [(closes_append raw.toList).tokens h hinner]
  rfl

/-! ### The expression -/

/-- A token does not look at the groups around those it is in. -/
theorem step_append {f f' : Frame} {outer outer' : List Frame} {t : Token}
    (h : step (f, outer) t = some (f', outer')) (around : List Frame) :
    step (f, outer ++ around) t = some (f', outer' ++ around) := by
  cases t with
  | closeGroup =>
    cases outer with
    | nil => contradiction
    | cons g outer =>
      cases h
      rfl
  | repetition least most =>
    cases hlast : f.last with
    | none => simp [step, hlast] at h
    | some r =>
      obtain ⟨rfl, rfl⟩ : { f with last := some (.repeated r least most) } = f' ∧ outer = outer' := by
        simpa [step, hlast] using h
      simp [step, hlast]
  | set s depth | look l | openGroup | bar | flags =>
    cases h
    rfl

theorem foldlM_step_append {ts : List Token} {f f' : Frame} {outer outer' : List Frame}
    (h : ts.foldlM step (f, outer) = some (f', outer')) (around : List Frame) :
    ts.foldlM step (f, outer ++ around) = some (f', outer' ++ around) := by
  induction ts generalizing f outer with
  | nil =>
    cases h
    rfl
  | cons t ts ih =>
    rw [List.foldlM_cons] at h ⊢
    obtain ⟨⟨g, middle⟩, hstep, hmore⟩ := Option.bind_eq_some_iff.1 h
    exact Option.bind_eq_some_iff.2 ⟨_, step_append hstep around, ih hmore⟩

theorem tree?_anchored {ts : List Token} {r : Regex} (h : tree? ts = some r) :
    tree? (.look .textStart :: .openGroup :: (ts ++ [.closeGroup])) =
      some (.cat (.cat .empty (.look .textStart)) r) := by
  obtain ⟨f, hfold, rfl⟩ : ∃ f, ts.foldlM step ({}, []) = some (f, []) ∧ f.value = r := by
    unfold tree? at h
    split at h
    · rename_i f hfold
      exact ⟨f, hfold, Option.some.inj h⟩
    · contradiction
  have hinner := foldlM_step_append hfold [({} : Frame).push (.look .textStart)]
  have hall : (Token.look .textStart :: .openGroup :: (ts ++ [.closeGroup])).foldlM step ({}, []) =
      some ((({} : Frame).push (.look .textStart)).push f.value, []) := by
    change (ts ++ [Token.closeGroup]).foldlM step ({}, [({} : Frame).push (.look .textStart)]) = _
    rw [List.foldlM_append]
    exact Option.bind_eq_some_iff.2 ⟨_, hinner, rfl⟩
  simp only [tree?, hall]
  rfl

theorem parse?_eq_some {text : String} {r : Regex} (h : Regex.parse? text = some r) :
    ∃ ts, tokens? text = some ts ∧ tree? ts = some r := by
  simp only [Regex.parse?, Option.bind_eq_bind, Option.bind_eq_some_iff] at h
  obtain ⟨ts, hts, r', hr', h⟩ := h
  split at h
  · exact ⟨ts, hts, Option.some.inj h ▸ hr'⟩
  · contradiction

/-- A pattern that is both matching and searching has the same expression, behind the start of the
text in the one case. -/
theorem regex_matching {raw : String} {p q : Pattern} (hp : matching? raw = some p)
    (hq : searching? raw = some q) : p.regex = .cat (.cat .empty (.look .textStart)) q.regex := by
  obtain ⟨r, hr, rfl⟩ := Option.map_eq_some_iff.1 hq
  obtain ⟨r', hr', rfl⟩ := Option.map_eq_some_iff.1 hp
  obtain ⟨ts, hts, htree⟩ := parse?_eq_some hr
  obtain ⟨ts', hts', htree'⟩ := parse?_eq_some hr'
  rw [tokens?_matching hts hts', tree?_anchored htree] at htree'
  exact (Option.some.inj htree').symm

theorem matches_anchored {subject : List Char} {r : Regex} {i j : Nat} (hi : i ≤ subject.length) :
    (Regex.cat (.cat .empty (.look .textStart)) r).Matches subject i j ↔
      i = 0 ∧ r.Matches subject 0 j := by
  have hstart : Look.textStart.holds (placeAt subject i) ↔ i = 0 := by
    cases i with
    | zero => simp [Look.holds, placeAt]
    | succ i => simp [Look.holds, placeAt, List.getElem?_eq_getElem hi]
  constructor
  · rintro ⟨_, ⟨_, rfl, rfl, hlook⟩, h⟩
    obtain rfl := hstart.1 hlook
    exact ⟨rfl, h⟩
  · rintro ⟨rfl, h⟩
    exact ⟨0, ⟨0, rfl, rfl, hstart.2 rfl⟩, h⟩

/-- A matching pattern finds the matches that its text, as a searching pattern, has at the start. -/
theorem isMatch_iff_matches_at_start {raw : String} {p q : Pattern} (hp : matching? raw = some p)
    (hq : searching? raw = some q) (subject : String) :
    (p.isMatch subject ↔ ∃ j, q.regex.Matches subject.toList 0 j) ∧
    (q.isMatch subject ↔ ∃ i j, i ≤ subject.length ∧ q.regex.Matches subject.toList i j) ∧
    (p.isMatch subject → q.isMatch subject) := by
  have hmatching : p.isMatch subject ↔ ∃ j, q.regex.Matches subject.toList 0 j := by
    rw [isMatch, regex_matching hp hq, Regex.search_iff]
    constructor
    · rintro ⟨i, j, hi, h⟩
      rw [← String.length_toList] at hi
      exact ⟨j, ((matches_anchored hi).1 h).2⟩
    · rintro ⟨j, h⟩
      exact ⟨0, j, Nat.zero_le _, (matches_anchored (Nat.zero_le _)).2 ⟨rfl, h⟩⟩
  refine ⟨hmatching, Regex.search_iff, fun h => ?_⟩
  obtain ⟨j, hj⟩ := hmatching.1 h
  exact Regex.search_iff.2 ⟨0, j, Nat.zero_le _, hj⟩

/-- The start of a line and a branch of its own; the second line would match. -/
theorem isMatch_iff_matches_at_start_lines : ∃ p q,
    matching? "(?m)b|^a[^b]" = some p ∧ searching? "(?m)b|^a[^b]" = some q ∧
      (∃ j, q.regex.Matches "aab".toList 0 j) ∧ (¬∃ j, q.regex.Matches "c\naa".toList 0 j) ∧
      ∃ i j, i ≤ "c\naa".length ∧ q.regex.Matches "c\naa".toList i j := by
  obtain ⟨p, hp, hpfacts⟩ : ∃ p, matching? "(?m)b|^a[^b]" = some p ∧
      (p.isMatch "aab", p.isMatch "c\naa") = (true, false) :=
    Option.map_eq_some_iff.1 (by decide +kernel)
  obtain ⟨q, hq, hfound⟩ : ∃ q, searching? "(?m)b|^a[^b]" = some q ∧ q.isMatch "c\naa" = true :=
    Option.map_eq_some_iff.1 (by decide +kernel)
  obtain ⟨hyes, hno⟩ := Prod.mk.inj hpfacts
  refine ⟨p, q, hp, hq, (isMatch_iff_matches_at_start hp hq _).1.1 hyes, fun h => ?_,
    (isMatch_iff_matches_at_start hp hq _).2.1.1 hfound⟩
  exact Bool.eq_false_iff.1 hno ((isMatch_iff_matches_at_start hp hq _).1.2 h)

end LayerCheck.Pattern
