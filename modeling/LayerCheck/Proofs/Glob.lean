import LayerCheck.Proofs.Segments
import LayerCheck.Proofs.Snapshot

/-!
Glob patterns. A pattern is read segment by segment: `*` stands for any characters of a name, `?` for
one, brackets for one of those in them, and a segment `**` for directories to any depth. An escaped
text stands for itself alone, so the pattern of a directory finds what lies in it.
-/

namespace LayerCheck.Glob

/-! ### Patterns -/

/-- A piece of the pattern of a name. -/
inductive Token where
  | char (c : Char)
  | anyChar
  | anySequence
  | within (ranges : List (Char × Char))
  | outside (ranges : List (Char × Char))

/-- A segment of a pattern. -/
inductive Part where
  | name (tokens : List Token)
  | anyDepth

/-- What brackets hold: a `-` between two characters makes a range of them. -/
def ranges : List Char → List (Char × Char)
  | a :: '-' :: b :: cs => (a, b) :: ranges cs
  | a :: cs => (a, a) :: ranges cs
  | [] => []

/-- Reads up to the end of brackets that hold `c` first, and gives what is left. -/
def closing? (c : Char) (cs : List Char) : Option (List (Char × Char) × List Char) :=
  match cs.dropWhile (· != ']') with
  | [] => none
  | _ :: rest => some (ranges (c :: cs.takeWhile (· != ']')), rest)

/-- Reads brackets behind the one that opens them. Their first character never closes them. -/
def bracket? : List Char → Option (Token × List Char)
  | [] => none
  | '!' :: c :: cs => (closing? c cs).map (Prod.map .outside id)
  | c :: cs => (closing? c cs).map (Prod.map .within id)

theorem length_lt_of_closing? {c : Char} {cs rest : List Char} {t : Token}
    {mark : List (Char × Char) → Token}
    (h : (closing? c cs).map (Prod.map mark id) = some (t, rest)) : rest.length < cs.length := by
  have hdrop := (List.dropWhile_suffix (l := cs) (· != ']')).length_le
  obtain ⟨⟨inside, rest'⟩, hclosing, heq⟩ := Option.map_eq_some_iff.1 h
  obtain ⟨-, rfl⟩ := Prod.mk.inj heq
  unfold closing? at hclosing
  split at hclosing
  · contradiction
  · rename_i hclosed
    obtain ⟨-, rfl⟩ := Prod.mk.inj (Option.some.inj hclosing)
    rw [hclosed, List.length_cons] at hdrop
    exact hdrop

theorem length_lt_of_bracket? {cs rest : List Char} {t : Token} (h : bracket? cs = some (t, rest)) :
    rest.length < cs.length := by
  unfold bracket? at h
  split at h
  · contradiction
  · have := length_lt_of_closing? h
    simp only [List.length_cons]
    omega
  · have := length_lt_of_closing? h
    simp only [List.length_cons]
    omega

/-- Reads the pattern of a name. It holds no `*` next to another one, and its brackets are closed. -/
def tokens? : List Char → Option (List Token)
  | [] => some []
  | '?' :: cs => (tokens? cs).map (.anyChar :: ·)
  | '*' :: cs => if cs.head? = some '*' then none else (tokens? cs).map (.anySequence :: ·)
  | '[' :: cs =>
    match h : bracket? cs with
    | none => none
    | some (t, rest) =>
      have := length_lt_of_bracket? h
      (tokens? rest).map (t :: ·)
  | c :: cs => (tokens? cs).map (.char c :: ·)
termination_by cs => cs.length
decreasing_by all_goals simp only [List.length_cons]; omega

def Part.parse? (text : String) : Option Part :=
  if text = "**" then some .anyDepth else (tokens? text.toList).map .name

/-! ### Matching -/

/-- A token stands for one character. -/
inductive Token.Accepts : Token → Char → Prop where
  | char (c : Char) : Accepts (.char c) c
  | anyChar (c : Char) : Accepts .anyChar c
  | within {c : Char} {rs : List (Char × Char)} (h : ∃ r ∈ rs, r.1 ≤ c ∧ c ≤ r.2) :
      Accepts (.within rs) c
  | outside {c : Char} {rs : List (Char × Char)} (h : ¬ ∃ r ∈ rs, r.1 ≤ c ∧ c ≤ r.2) :
      Accepts (.outside rs) c

/-- The pattern of a name matches the characters of a name. -/
inductive MatchesName : List Token → List Char → Prop where
  | nil : MatchesName [] []
  | one {t : Token} {c : Char} {ts : List Token} {cs : List Char} (ht : t.Accepts c)
      (hrest : MatchesName ts cs) : MatchesName (t :: ts) (c :: cs)
  | stop {ts : List Token} {cs : List Char} (hrest : MatchesName ts cs) :
      MatchesName (.anySequence :: ts) cs
  | more {c : Char} {ts : List Token} {cs : List Char} (hrest : MatchesName (.anySequence :: ts) cs) :
      MatchesName (.anySequence :: ts) (c :: cs)

/-- A pattern matches the segments of a path. -/
inductive MatchesPath : List Part → List String → Prop where
  | nil : MatchesPath [] []
  | name {ts : List Token} {name : String} {parts : List Part} {names : List String}
      (hname : MatchesName ts name.toList) (hrest : MatchesPath parts names) :
      MatchesPath (.name ts :: parts) (name :: names)
  | here {parts : List Part} {names : List String} (hrest : MatchesPath parts names) :
      MatchesPath (.anyDepth :: parts) names
  | deeper {name : String} {parts : List Part} {names : List String}
      (hrest : MatchesPath (.anyDepth :: parts) names) :
      MatchesPath (.anyDepth :: parts) (name :: names)

/-- The pattern can be read, segment by segment, and matches the path. -/
def Finds (pattern : String) (path : Path) : Prop :=
  ∃ parts, (Segments.split '/' pattern).map Part.parse? = parts.map some ∧
    MatchesPath parts path.segments

theorem finds_iff {pattern : String} {path : Path} {parts : List Part}
    (h : (Segments.split '/' pattern).map Part.parse? = parts.map some) :
    Finds pattern path ↔ MatchesPath parts path.segments := by
  constructor
  · rintro ⟨parts', hparts', hmatch⟩
    have heq : parts' = parts :=
      (List.map_inj_right fun _ _ => Option.some.inj).1 (hparts'.symm.trans h)
    rwa [← heq]
  · exact fun hmatch => ⟨parts, h, hmatch⟩

theorem matchesName_anySequence {ts : List Token} {cs : List Char} :
    MatchesName (.anySequence :: ts) cs ↔
      ∃ before after, cs = before ++ after ∧ MatchesName ts after := by
  constructor
  · intro h
    generalize hpattern : Token.anySequence :: ts = pattern at h
    induction h with
    | nil => contradiction
    | one ht =>
      obtain ⟨rfl, -⟩ := List.cons.inj hpattern
      cases ht
    | stop hrest =>
      obtain ⟨-, rfl⟩ := List.cons.inj hpattern
      exact ⟨[], _, rfl, hrest⟩
    | @more c _ _ _ ih =>
      obtain ⟨before, after, rfl, hafter⟩ := ih hpattern
      exact ⟨c :: before, after, rfl, hafter⟩
  · rintro ⟨before, after, rfl, hafter⟩
    induction before with
    | nil => exact .stop hafter
    | cons c before ih => exact .more ih

theorem matchesPath_anyDepth {parts : List Part} {names : List String} :
    MatchesPath (.anyDepth :: parts) names ↔
      ∃ before after, names = before ++ after ∧ MatchesPath parts after := by
  constructor
  · intro h
    generalize hpattern : Part.anyDepth :: parts = pattern at h
    induction h with
    | nil => contradiction
    | name => cases hpattern
    | here hrest =>
      obtain ⟨-, rfl⟩ := List.cons.inj hpattern
      exact ⟨[], _, rfl, hrest⟩
    | @deeper name _ _ _ ih =>
      obtain ⟨before, after, rfl, hafter⟩ := ih hpattern
      exact ⟨name :: before, after, rfl, hafter⟩
  · rintro ⟨before, after, rfl, hafter⟩
    induction before with
    | nil => exact .here hafter
    | cons name before ih => exact .deeper ih

theorem matchesPath_name {ts : List Token} {parts : List Part} {names : List String} :
    MatchesPath (.name ts :: parts) names ↔
      ∃ name rest, names = name :: rest ∧ MatchesName ts name.toList ∧ MatchesPath parts rest := by
  constructor
  · intro h
    cases h with
    | name hname hrest => exact ⟨_, _, rfl, hname, hrest⟩
  · rintro ⟨name, rest, rfl, hname, hrest⟩
    exact .name hname hrest

@[simp]
theorem matchesPath_nil {names : List String} : MatchesPath [] names ↔ names = [] := by
  constructor
  · intro h
    cases h with
    | nil => rfl
  · rintro rfl
    exact .nil

/-! ### Escaped texts -/

def isSpecial (c : Char) : Bool :=
  c == '?' || c == '*' || c == '[' || c == ']'

def escapeChar (c : Char) : List Char :=
  if isSpecial c then ['[', c, ']'] else [c]

/-- The text with brackets around all characters that stand for something else in a pattern. -/
def escape (s : String) : String :=
  .ofList (s.toList.flatMap escapeChar)

/-- What an escaped character is read as. -/
def literal (c : Char) : Token :=
  if isSpecial c then .within [(c, c)] else .char c

theorem bracket?_special {c : Char} (h : isSpecial c) (cs : List Char) :
    bracket? (c :: ']' :: cs) = some (.within [(c, c)], cs) := by
  simp only [isSpecial, Bool.or_eq_true, beq_iff_eq] at h
  rcases h with ((rfl | rfl) | rfl) | rfl <;> simp [bracket?, closing?, ranges]

theorem tokens?_escapeChar_append (c : Char) (cs : List Char) :
    tokens? (escapeChar c ++ cs) = (tokens? cs).map (literal c :: ·) := by
  by_cases h : isSpecial c
  · have hbracket := bracket?_special h cs
    simp only [escapeChar, literal, if_pos h, List.cons_append, List.nil_append]
    rw [tokens?]
    split
    · rename_i hnone
      simp [hbracket] at hnone
    · rename_i t rest hsome
      obtain ⟨rfl, rfl⟩ := Prod.mk.inj (Option.some.inj (hbracket.symm.trans hsome))
      rfl
  · obtain ⟨⟨⟨hone, hstar⟩, hopen⟩, -⟩ : ((c ≠ '?' ∧ c ≠ '*') ∧ c ≠ '[') ∧ c ≠ ']' := by
      simpa [isSpecial] using h
    simp only [escapeChar, literal, if_neg h, List.cons_append, List.nil_append]
    rw [tokens?]
    · exact hone
    · exact hstar
    · exact hopen

theorem tokens?_escape (cs : List Char) : tokens? (cs.flatMap escapeChar) = some (cs.map literal) := by
  induction cs with
  | nil => rw [List.flatMap_nil, tokens?, List.map_nil]
  | cons c cs ih =>
    rw [List.flatMap_cons, tokens?_escapeChar_append, ih, Option.map_some, List.map_cons]

theorem accepts_literal {c d : Char} : (literal c).Accepts d ↔ c = d := by
  by_cases h : isSpecial c
  · rw [literal, if_pos h]
    constructor
    · intro haccepts
      cases haccepts with
      | within h =>
        obtain ⟨r, hr, hle, hge⟩ := h
        rw [List.mem_singleton.1 hr] at hle hge
        exact Char.le_antisymm hle hge
    · rintro rfl
      exact .within ⟨(c, c), List.mem_singleton_self _, Char.le_refl c, Char.le_refl c⟩
  · rw [literal, if_neg h]
    constructor
    · intro haccepts
      cases haccepts with
      | char => rfl
    · rintro rfl
      exact .char c

/-- An escaped name matches itself and nothing else. -/
theorem matchesName_literal {cs ds : List Char} : MatchesName (cs.map literal) ds ↔ cs = ds := by
  induction cs generalizing ds with
  | nil =>
    constructor
    · intro h
      cases h with
      | nil => rfl
    · rintro rfl
      exact .nil
  | cons c cs ih =>
    have hliteral : literal c ≠ .anySequence := by
      unfold literal
      split <;> simp
    constructor
    · intro h
      rw [List.map_cons] at h
      generalize htoken : literal c = token at h
      cases h with
      | one ht hrest =>
        subst htoken
        rw [accepts_literal.1 ht, ih.1 hrest]
      | stop => exact absurd htoken hliteral
      | more => exact absurd htoken hliteral
    · rintro rfl
      exact .one (accepts_literal.2 rfl) (ih.2 rfl)

theorem parse?_escape (name : String) :
    Part.parse? (escape name) = some (.name (name.toList.map literal)) := by
  have hstars : escape name ≠ "**" := by
    intro h
    have hstars : name.toList.flatMap escapeChar = ['*', '*'] := by
      simpa [escape] using congrArg String.toList h
    cases hname : name.toList with
    | nil => simp [hname] at hstars
    | cons c cs =>
      rw [hname, List.flatMap_cons] at hstars
      by_cases hc : isSpecial c
      · simp [escapeChar, hc] at hstars
      · obtain ⟨rfl, -⟩ : c = '*' ∧ _ := by simpa [escapeChar, hc] using hstars
        exact hc rfl
  rw [Part.parse?, if_neg hstars, escape, String.toList_ofList, tokens?_escape, Option.map_some]

theorem not_mem_escape {name : String} (h : '/' ∉ name.toList) : '/' ∉ (escape name).toList := by
  intro hmem
  rw [escape, String.toList_ofList, List.mem_flatMap] at hmem
  obtain ⟨c, hc, hmem⟩ := hmem
  have hne : '/' ≠ c := fun heq => h (heq ▸ hc)
  unfold escapeChar at hmem
  split at hmem <;> simp [hne] at hmem

theorem flatMap_escapeChar_intercalate (words : List (List Char)) :
    (['/'].intercalate words).flatMap escapeChar =
      ['/'].intercalate (words.map (·.flatMap escapeChar)) := by
  induction words with
  | nil => rfl
  | cons w words ih =>
    cases words with
    | nil => simp
    | cons w' words =>
      have hslash : escapeChar '/' = ['/'] := by decide
      rw [List.map_cons, List.map_cons, List.intercalate_cons_cons, List.intercalate_cons_cons,
        List.flatMap_append, List.flatMap_append, ih, List.map_cons, List.flatMap_singleton, hslash]

theorem escape_join (names : List String) :
    escape (Segments.join '/' names) = Segments.join '/' (names.map escape) := by
  rw [← String.toList_inj, escape, String.toList_ofList, Segments.toList_join, Segments.toList_join,
    flatMap_escapeChar_intercalate, List.map_map, List.map_map]
  simp [escape, Function.comp_def]

/-! ### Directories -/

/-- The segments behind a directory, for all Python files below it or for those in it alone. -/
def pythonFiles (recursive : Bool) : List String :=
  if recursive then ["**", "*.py"] else ["*.py"]

/-- The pattern of the Python files of a directory. -/
def ofDirectory (directory : Path) (recursive : Bool) : String :=
  escape directory.text ++ "/" ++ Segments.join '/' (pythonFiles recursive)

theorem split_ofDirectory {p : Place} (hp : p.Named) (hne : p ≠ []) (recursive : Bool) :
    Segments.split '/' (ofDirectory (.ofNames p) recursive) =
      ("" :: p).map escape ++ pythonFiles recursive := by
  have hfiles : pythonFiles recursive ≠ [] := by
    cases recursive <;> simp [pythonFiles]
  have htext : ofDirectory (.ofNames p) recursive =
      Segments.join '/' (("" :: p).map escape ++ pythonFiles recursive) := by
    rw [ofDirectory, Path.text_ofNames hne, escape_join, Segments.join_append (by simp) hfiles]
    rfl
  have hslash : ∀ segment ∈ pythonFiles recursive, '/' ∉ segment.toList := by
    cases recursive <;> decide
  rw [htext, Segments.split_join (by simp)]
  intro segment hsegment
  rcases List.mem_append.1 hsegment with hsegment | hsegment
  · obtain ⟨name, hname, rfl⟩ := List.mem_map.1 hsegment
    refine not_mem_escape ?_
    rcases List.mem_cons.1 hname with rfl | hname
    · simp
    · exact hp.slash_not_mem hname
  · exact hslash segment hsegment

/-- What the segments behind a directory are read as. -/
def pythonParts (recursive : Bool) : List Part :=
  let python := Part.name (.anySequence :: ['.', 'p', 'y'].map literal)
  if recursive then [.anyDepth, python] else [python]

theorem parse?_pythonFiles (recursive : Bool) :
    (pythonFiles recursive).map Part.parse? = (pythonParts recursive).map some := by
  have hname : "*.py".toList = '*' :: ['.', 'p', 'y'].flatMap escapeChar := by decide
  have hpython : Part.parse? "*.py" =
      some (.name (.anySequence :: ['.', 'p', 'y'].map literal)) := by
    rw [Part.parse?, if_neg (by decide), hname, tokens?, if_neg (by decide), tokens?_escape]
    rfl
  cases recursive with
  | false => exact congrArg (· :: []) hpython
  | true => exact congrArg (some .anyDepth :: · :: []) hpython

theorem matchesPath_literal {names segments : List String} {parts : List Part} :
    MatchesPath (names.map (fun name => .name (name.toList.map literal)) ++ parts) segments ↔
      ∃ rest, segments = names ++ rest ∧ MatchesPath parts rest := by
  induction names generalizing segments with
  | nil => simp
  | cons name names ih =>
    rw [List.map_cons, List.cons_append, matchesPath_name]
    simp only [ih, matchesName_literal, String.toList_inj]
    constructor
    · rintro ⟨_, _, rfl, rfl, rest, rfl, hrest⟩
      exact ⟨rest, rfl, hrest⟩
    · rintro ⟨rest, rfl, hrest⟩
      exact ⟨name, names ++ rest, rfl, rfl, rest, rfl, hrest⟩

theorem matchesName_python {name : String} :
    MatchesName (.anySequence :: ['.', 'p', 'y'].map literal) name.toList ↔
      Snapshot.endsInPy name := by
  rw [matchesName_anySequence, Snapshot.endsInPy, List.isSuffixOf_iff_suffix]
  simp only [matchesName_literal]
  constructor
  · rintro ⟨before, _, hname, rfl⟩
    exact ⟨before, hname.symm⟩
  · rintro ⟨before, hname⟩
    exact ⟨before, _, hname.symm, rfl⟩

theorem matchesPath_pythonParts {recursive : Bool} {names : List String} :
    MatchesPath (pythonParts recursive) names ↔
      names ≠ [] ∧ (recursive ∨ names.length = 1) ∧ Snapshot.endsInPy (names.getLastD "") := by
  cases recursive with
  | false =>
    simp only [pythonParts, Bool.false_eq_true, if_false, false_or, matchesPath_name, matchesPath_nil,
      matchesName_python]
    constructor
    · rintro ⟨name, _, rfl, hname, rfl⟩
      exact ⟨by simp, by simp, by simpa using hname⟩
    · rintro ⟨-, hlength, hname⟩
      obtain ⟨name, rfl⟩ := List.length_eq_one_iff.1 hlength
      exact ⟨name, [], rfl, by simpa using hname, rfl⟩
  | true =>
    simp only [pythonParts, if_true, true_or, true_and, matchesPath_anyDepth, matchesPath_name,
      matchesPath_nil, matchesName_python]
    constructor
    · rintro ⟨before, _, rfl, name, _, rfl, hname, rfl⟩
      exact ⟨by simp, by simpa using hname⟩
    · rintro ⟨hne, hname⟩
      obtain ⟨before, name, rfl⟩ := (List.eq_nil_or_concat' names).resolve_left hne
      exact ⟨before, [name], rfl, name, [], rfl, by simpa using hname, rfl⟩

/-- The pattern of a directory finds the paths of names that end in `.py`, below the directory or in
it. -/
theorem finds_ofDirectory {p : Place} (hp : p.Named) (hne : p ≠ []) {recursive : Bool} {path : Path} :
    Finds (ofDirectory (.ofNames p) recursive) path ↔
      ∃ names, path.segments = "" :: (p ++ names) ∧ names ≠ [] ∧ (recursive ∨ names.length = 1) ∧
        Snapshot.endsInPy (names.getLastD "") := by
  have hparts : (Segments.split '/' (ofDirectory (.ofNames p) recursive)).map Part.parse? =
      (("" :: p).map (fun name => Part.name (name.toList.map literal)) ++
        pythonParts recursive).map some := by
    rw [split_ofDirectory hp hne, List.map_append, parse?_pythonFiles, List.map_append, List.map_map,
      List.map_map]
    exact congrArg (· ++ _) (List.map_congr_left fun name _ => parse?_escape name)
  rw [finds_iff hparts, matchesPath_literal]
  simp only [matchesPath_pythonParts, List.cons_append]

end LayerCheck.Glob
