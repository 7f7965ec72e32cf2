import LayerCheck.Segments

/-!
Splitting and joining undo each other where segments hold no separator, and what a text is split into
holds none.
-/

namespace LayerCheck.Segments

/-! ### Splitting what was joined -/

theorem splitChars_of_not_mem {sep : Char} {cs : List Char} (h : sep ∉ cs) :
    splitChars sep cs = [cs] := by
  induction cs with
  | nil => rfl
  | cons c cs ih =>
    obtain ⟨hc, hcs⟩ : sep ≠ c ∧ sep ∉ cs := by simpa using h
    rw [splitChars, if_neg (Ne.symm hc), ih hcs]

theorem splitChars_append_cons (sep : Char) (cs rest : List Char) :
    splitChars sep (cs ++ sep :: rest) = splitChars sep cs ++ splitChars sep rest := by
  induction cs with
  | nil => simp [splitChars]
  | cons c cs ih =>
    by_cases hc : c = sep
    · simp [splitChars, hc, ih]
    · obtain ⟨w, ws, hwords⟩ := List.exists_cons_of_ne_nil (splitChars_ne_nil sep cs)
      simp [splitChars, hc, ih, hwords]

theorem splitChars_replicate_append (sep : Char) (n : Nat) (cs : List Char) :
    splitChars sep (List.replicate n sep ++ cs) = List.replicate n [] ++ splitChars sep cs := by
  induction n with
  | zero => rfl
  | succ n ih => simpa [List.replicate_succ, splitChars] using ih

theorem splitChars_append_replicate (sep : Char) (n : Nat) (cs : List Char) :
    splitChars sep (cs ++ List.replicate n sep) = splitChars sep cs ++ List.replicate n [] := by
  cases n with
  | zero => simp
  | succ n =>
    have hrest := splitChars_replicate_append sep n []
    rw [List.append_nil] at hrest
    rw [List.replicate_succ, splitChars_append_cons, hrest, List.replicate_succ']
    rfl

theorem splitChars_intercalate {sep : Char} {words : List (List Char)} (hne : words ≠ [])
    (h : ∀ w ∈ words, sep ∉ w) : splitChars sep ([sep].intercalate words) = words := by
  induction words with
  | nil => contradiction
  | cons w ws ih =>
    have hw : sep ∉ w := h w List.mem_cons_self
    cases ws with
    | nil => simpa using splitChars_of_not_mem hw
    | cons w' ws =>
      rw [List.intercalate_cons_cons, List.append_assoc, List.singleton_append,
        splitChars_append_cons, splitChars_of_not_mem hw, List.singleton_append,
        ih (by simp) fun x hx => h x (List.mem_cons_of_mem w hx)]

theorem toList_join (sep : Char) (segments : List String) :
    (join sep segments).toList = [sep].intercalate (segments.map String.toList) := by
  simp [join, String.toList_intercalate]

theorem split_join {sep : Char} {segments : List String} (hne : segments ≠ [])
    (h : ∀ s ∈ segments, sep ∉ s.toList) : split sep (join sep segments) = segments := by
  have hwords : ∀ w ∈ segments.map String.toList, sep ∉ w := by
    intro w hw
    obtain ⟨s, hs, rfl⟩ := List.mem_map.1 hw
    exact h s hs
  rw [split, toList_join, splitChars_intercalate (by simpa using hne) hwords]
  simp

/-! ### Joining what was split -/

theorem intercalate_splitChars (sep : Char) (cs : List Char) :
    [sep].intercalate (splitChars sep cs) = cs := by
  induction cs with
  | nil => rfl
  | cons c cs ih =>
    obtain ⟨w, ws, hwords⟩ := List.exists_cons_of_ne_nil (splitChars_ne_nil sep cs)
    rw [hwords] at ih
    by_cases hc : c = sep
    · rw [splitChars, if_pos hc, hwords, List.intercalate_cons_cons, ih, hc]
      simp
    · cases ws with
      | nil => simpa [splitChars, hc, hwords] using ih
      | cons w' ws => simpa [splitChars, hc, hwords] using ih

theorem not_mem_of_mem_splitChars {sep : Char} {cs w : List Char} (h : w ∈ splitChars sep cs) :
    sep ∉ w := by
  induction cs generalizing w with
  | nil => simp [List.mem_singleton.1 h]
  | cons c cs ih =>
    obtain ⟨x, xs, hwords⟩ := List.exists_cons_of_ne_nil (splitChars_ne_nil sep cs)
    by_cases hc : c = sep
    · rw [splitChars, if_pos hc] at h
      rcases List.mem_cons.1 h with rfl | h
      · simp
      · exact ih h
    · rw [splitChars, if_neg hc, hwords] at h
      rcases List.mem_cons.1 h with rfl | h
      · have hx : sep ∉ x := ih (by simp [hwords])
        simp [hx, Ne.symm hc]
      · exact ih (by simp [hwords, h])

theorem intercalate_append {sep : Char} {words more : List (List Char)} (hne : words ≠ [])
    (hmore : more ≠ []) :
    [sep].intercalate (words ++ more) = [sep].intercalate words ++ sep :: [sep].intercalate more := by
  obtain ⟨m, ms, rfl⟩ := List.exists_cons_of_ne_nil hmore
  induction words with
  | nil => contradiction
  | cons x words ih =>
    cases words with
    | nil => simp
    | cons y words =>
      rw [List.cons_append, List.cons_append, List.intercalate_cons_cons, ← List.cons_append,
        ih (by simp), List.intercalate_cons_cons, List.append_assoc, List.append_assoc,
        List.append_assoc]

theorem join_append {sep : Char} {segments more : List String} (hne : segments ≠ [])
    (hmore : more ≠ []) :
    join sep (segments ++ more) = join sep segments ++ String.singleton sep ++ join sep more := by
  rw [← String.toList_inj]
  simp only [toList_join, List.map_append, String.toList_append]
  rw [intercalate_append (by simpa using hne) (by simpa using hmore)]
  simp

/-- What is no separator and in no segment is not in the joined text. -/
theorem not_mem_join {sep c : Char} (hc : c ≠ sep) {segments : List String}
    (h : ∀ s ∈ segments, c ∉ s.toList) : c ∉ (join sep segments).toList := by
  rw [toList_join]
  induction segments with
  | nil => simp
  | cons s segments ih =>
    obtain ⟨hs, hrest⟩ := List.forall_mem_cons.1 h
    cases segments with
    | nil => simpa using hs
    | cons t segments =>
      rw [List.map_cons, List.map_cons, List.intercalate_cons_cons, List.mem_append, List.mem_append,
        List.mem_singleton]
      simp only [hs, hc, false_or]
      exact ih hrest

theorem join_ne_empty (sep : Char) {s : String} (h : s ≠ "") (rest : List String) :
    join sep (s :: rest) ≠ "" := by
  intro hempty
  have hchars := congrArg String.toList hempty
  rw [toList_join] at hchars
  cases rest with
  | nil => exact h (String.toList_inj.1 (by simpa using hchars))
  | cons t rest => simp at hchars

/-- A text has further segments before its last one, `w`, if a separator stands before `w`. -/
theorem splitChars_eq_concat_iff {sep : Char} {cs w : List Char} (hw : sep ∉ w)
    {words : List (List Char)} (hne : words ≠ []) :
    splitChars sep cs = words ++ [w] ↔
      ∃ before, splitChars sep before = words ∧ cs = before ++ sep :: w := by
  constructor
  · intro h
    refine ⟨[sep].intercalate words, splitChars_intercalate hne fun x hx => ?_, ?_⟩
    · exact not_mem_of_mem_splitChars (h ▸ List.mem_append_left [w] hx)
    · have hjoined : [sep].intercalate (words ++ [w]) = [sep].intercalate words ++ sep :: w := by
        rw [intercalate_append hne (by simp), List.intercalate_singleton]
      rw [← hjoined, ← h, intercalate_splitChars]
  · rintro ⟨before, rfl, rfl⟩
    rw [splitChars_append_cons, splitChars_of_not_mem hw]

theorem split_ne_nil (sep : Char) (s : String) : split sep s ≠ [] := by
  simp [split, splitChars_ne_nil]

theorem split_of_not_mem {sep : Char} {s : String} (h : sep ∉ s.toList) : split sep s = [s] := by
  simp [split, splitChars_of_not_mem h]

theorem length_splitChars (sep : Char) (cs : List Char) :
    (splitChars sep cs).length = cs.count sep + 1 := by
  induction cs with
  | nil => rfl
  | cons c cs ih =>
    by_cases hc : c = sep
    · simp [splitChars, hc, ih]
    · obtain ⟨w, ws, hwords⟩ := List.exists_cons_of_ne_nil (splitChars_ne_nil sep cs)
      rw [splitChars, if_neg hc, List.count_cons_of_ne hc, ← ih, hwords]
      rfl

theorem length_split (sep : Char) (s : String) : (split sep s).length = s.toList.count sep + 1 := by
  rw [split, List.length_map, length_splitChars]

/-- What stands before a separator and what stands behind it are split apart. -/
theorem split_append (sep : Char) (s rest : String) :
    split sep (s ++ String.singleton sep ++ rest) = split sep s ++ split sep rest := by
  simp [split, splitChars_append_cons]

theorem join_split (sep : Char) (s : String) : join sep (split sep s) = s := by
  rw [← String.toList_inj, toList_join, split, List.map_map]
  simp [Function.comp_def, intercalate_splitChars]

/-! ### The text before the first separator -/

/-- What stands before a text and holds no separator stays. -/
theorem first_append {sep : Char} {s : String} (h : sep ∉ s.toList) (rest : String) :
    first sep (s ++ rest) = s ++ first sep rest := by
  have hall : ∀ c ∈ s.toList, (c ≠ sep : Bool) := fun c hc => by
    have hne : c ≠ sep := fun heq => h (heq ▸ hc)
    simpa using hne
  rw [← String.toList_inj]
  simp only [first, String.toList_append, String.toList_ofList]
  rw [List.takeWhile_append_of_pos hall]

theorem first_of_not_mem {sep : Char} {s : String} (h : sep ∉ s.toList) : first sep s = s := by
  simpa [first] using first_append h ""

theorem first_append_sep (sep : Char) (s rest : String) :
    first sep (s ++ String.singleton sep ++ rest) = first sep s := by
  have hcut (cs : List Char) :
      (cs ++ sep :: rest.toList).takeWhile (· ≠ sep) = cs.takeWhile (· ≠ sep) := by
    induction cs with
    | nil => simp
    | cons c cs ih => rw [List.cons_append, List.takeWhile_cons, List.takeWhile_cons, ih]
  rw [first, String.toList_append, String.toList_append, String.toList_singleton, List.append_assoc,
    List.singleton_append, hcut, first]

/-! ### The last segment -/

theorem last_of_not_mem {sep : Char} {s : String} (h : sep ∉ s.toList) : last sep s = s := by
  simp [last, split_of_not_mem h]

/-- What stands behind a separator and holds none is the last segment. -/
theorem last_append {sep : Char} (s : String) {rest : String} (h : sep ∉ rest.toList) :
    last sep (s ++ String.singleton sep ++ rest) = rest := by
  rw [last, split_append, split_of_not_mem h, List.getLastD_concat]

theorem not_mem_last (sep : Char) (s : String) : sep ∉ (last sep s).toList := by
  have hlast : last sep s ∈ split sep s := by
    rw [last, List.getLastD_eq_getLast?, List.getLast?_eq_some_getLast (split_ne_nil sep s)]
    exact List.getLast_mem _
  obtain ⟨w, hw, hname⟩ := List.mem_map.1 hlast
  rw [← hname, String.toList_ofList]
  exact not_mem_of_mem_splitChars hw

end LayerCheck.Segments
