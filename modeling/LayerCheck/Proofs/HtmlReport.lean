import LayerCheck.Proofs.Except
import LayerCheck.Proofs.Segments
import LayerCheck.Report

/-!
The HTML report cannot be broken by what it tells. Escaped texts hold no angle brackets, so the rows of
the table are cut at their tags in one way, and the texts between the tags give the violations back.
-/

namespace LayerCheck.Report

namespace Markup

/-! ### Escapes -/

/-- Undoes the escapes; all else stands for itself. -/
def decode : List Char → List Char
  | '&' :: 'a' :: 'm' :: 'p' :: ';' :: rest => '&' :: decode rest
  | '&' :: 'l' :: 't' :: ';' :: rest => '<' :: decode rest
  | '&' :: 'g' :: 't' :: ';' :: rest => '>' :: decode rest
  | c :: rest => c :: decode rest
  | [] => []

theorem decode_cons_of_ne {c : Char} (h : c ≠ '&') (rest : List Char) :
    decode (c :: rest) = c :: decode rest := by
  rw [decode] <;> simp [h]

theorem decode_escape_append (c : Char) (rest : List Char) :
    decode (escape c ++ rest) = c :: decode rest := by
  unfold escape
  split_ifs with hand hopen hclose
  · rw [hand]
    rfl
  · rw [hopen]
    rfl
  · rw [hclose]
    rfl
  · exact decode_cons_of_ne hand rest

theorem decode_encode (s : String) : String.ofList (decode (encode s).toList) = s := by
  have hchars (cs : List Char) : decode (cs.flatMap escape) = cs := by
    induction cs with
    | nil => rfl
    | cons c cs ih => rw [List.flatMap_cons, decode_escape_append, ih]
  rw [encode, String.toList_ofList, hchars, String.ofList_toList]

example : encode "&lt; </td>" = "&amp;lt; &lt;/td&gt;" := by decide

/-- A text without angle brackets. -/
def Plain (cs : List Char) : Prop :=
  '<' ∉ cs ∧ '>' ∉ cs

instance (cs : List Char) : Decidable (Plain cs) :=
  inferInstanceAs (Decidable (_ ∧ _))

theorem plain_escape (c : Char) : Plain (escape c) := by
  unfold escape
  split_ifs with hand hopen hclose
  · decide
  · decide
  · decide
  · simp [Plain, Ne.symm hopen, Ne.symm hclose]

theorem plain_encode (s : String) : Plain (encode s).toList := by
  rw [encode, String.toList_ofList]
  constructor
  · intro hmem
    obtain ⟨c, -, hc⟩ := List.mem_flatMap.1 hmem
    exact (plain_escape c).1 hc
  · intro hmem
    obtain ⟨c, -, hc⟩ := List.mem_flatMap.1 hmem
    exact (plain_escape c).2 hc

/-! ### Tags -/

/-- What stands between two angle brackets, and the text behind them. -/
structure Tag where
  name : List Char
  text : List Char
deriving DecidableEq, Repr

def Tag.chars (t : Tag) : List Char :=
  '<' :: (t.name ++ '>' :: t.text)

/-- A text is cut into what stands before its first tag, and its tags with the texts behind them. There
are no other angle brackets in it. -/
structure Cut (cs lead : List Char) (tags : List Tag) : Prop where
  eq : cs = lead ++ tags.flatMap Tag.chars
  lead : Plain lead
  tags : ∀ t ∈ tags, Plain t.name ∧ Plain t.text

/-- Reads what stands behind an opening bracket, up to the next one. -/
def tag? (cs : List Char) : Option Tag :=
  match Segments.splitChars '>' cs with
  | [name, text] => some ⟨name, text⟩
  | _ => none

/-- Cuts a text at its tags. -/
def cut? (cs : List Char) : Option (List Char × List Tag) :=
  match Segments.splitChars '<' cs with
  | [] => none
  | lead :: rest => if '>' ∈ lead then none else (rest.mapM tag?).map (lead, ·)

theorem splitChars_append_flatMap {sep : Char} {w : List Char} {ws : List (List Char)}
    (hw : sep ∉ w) (hws : ∀ x ∈ ws, sep ∉ x) :
    Segments.splitChars sep (w ++ ws.flatMap (sep :: ·)) = w :: ws := by
  induction ws generalizing w with
  | nil => simpa using Segments.splitChars_of_not_mem hw
  | cons x ws ih =>
    obtain ⟨hx, hrest⟩ := List.forall_mem_cons.1 hws
    rw [List.flatMap_cons, List.cons_append, Segments.splitChars_append_cons,
      Segments.splitChars_of_not_mem hw, ih hx hrest, List.singleton_append]

theorem tag?_eq_some {t : Tag} (hname : Plain t.name) (htext : Plain t.text) :
    tag? (t.name ++ '>' :: t.text) = some t := by
  have hsplit : Segments.splitChars '>' (t.name ++ '>' :: t.text) = [t.name, t.text] := by
    rw [Segments.splitChars_append_cons, Segments.splitChars_of_not_mem hname.2,
      Segments.splitChars_of_not_mem htext.2, List.singleton_append]
  rw [tag?, hsplit]

/-- A text is cut in one way, and that is how it is read. -/
theorem Cut.cut? {cs lead : List Char} {tags : List Tag} (h : Cut cs lead tags) :
    cut? cs = some (lead, tags) := by
  have hinside : ∀ x ∈ tags.map fun t => t.name ++ '>' :: t.text, '<' ∉ x := by
    intro x hx
    obtain ⟨t, ht, rfl⟩ := List.mem_map.1 hx
    obtain ⟨hname, htext⟩ := h.tags t ht
    simp [hname.1, htext.1]
  have hchars : tags.flatMap Tag.chars =
      (tags.map fun t => t.name ++ '>' :: t.text).flatMap ('<' :: ·) := by
    rw [List.flatMap_map]
    rfl
  have hread : (tags.map fun t => t.name ++ '>' :: t.text).mapM tag? = some tags := by
    apply Option.mapM_map_eq_some
    intro t ht
    obtain ⟨hname, htext⟩ := h.tags t ht
    exact tag?_eq_some hname htext
  rw [Markup.cut?, h.eq, hchars, splitChars_append_flatMap h.lead.1 hinside]
  simp [h.lead.2, hread]

theorem Cut.unique {cs lead lead' : List Char} {tags tags' : List Tag} (h : Cut cs lead tags)
    (h' : Cut cs lead' tags') : lead' = lead ∧ tags' = tags := by
  have heq := h'.cut?.symm.trans h.cut?
  simpa using heq

theorem Cut.append {cs cs' lead : List Char} {tags tags' : List Tag} (h : Cut cs lead tags)
    (h' : Cut cs' [] tags') : Cut (cs ++ cs') lead (tags ++ tags') where
  eq := by rw [h.eq, h'.eq, List.flatMap_append, List.nil_append, List.append_assoc]
  lead := h.lead
  tags := List.forall_mem_append.2 ⟨h.tags, h'.tags⟩

/-! ### Rows -/

/-- The tags of a row, each cell with its escaped text. -/
def rowTags (cells : List String) : List Tag :=
  ⟨['t', 'r'], []⟩ ::
    (cells.flatMap fun content => [⟨['t', 'd'], (encode content).toList⟩, ⟨['/', 't', 'd'], []⟩]) ++
    [⟨['/', 't', 'r'], ['\n']⟩]

theorem toList_cell (content : String) : (cell content).toList =
    Tag.chars ⟨['t', 'd'], (encode content).toList⟩ ++ Tag.chars ⟨['/', 't', 'd'], []⟩ := by
  simp [cell, Tag.chars]

theorem toList_row (cells : List String) : (row cells).toList = (rowTags cells).flatMap Tag.chars := by
  have hcells : (String.join (cells.map cell)).toList = (cells.flatMap fun content =>
      [⟨['t', 'd'], (encode content).toList⟩, ⟨['/', 't', 'd'], []⟩]).flatMap Tag.chars := by
    induction cells with
    | nil => rfl
    | cons content cells ih =>
      rw [List.flatMap_cons, List.flatMap_append, ← ih]
      simp [String.toList_join, toList_cell]
  rw [row, String.toList_append, String.toList_append, hcells, rowTags]
  simp [Tag.chars]

theorem cut_row (cells : List String) : Cut (row cells).toList [] (rowTags cells) where
  eq := toList_row cells
  lead := by decide
  tags := by
    have htd : Plain ['t', 'd'] := by decide
    intro t ht
    simp only [rowTags, List.cons_append, List.mem_cons, List.mem_append, List.mem_flatMap,
      List.not_mem_nil, or_false] at ht
    rcases ht with rfl | ⟨content, -, rfl | rfl⟩ | rfl
    · decide
    · dsimp only
      exact ⟨htd, plain_encode content⟩
    · decide
    · decide

/-- The texts of cells, read from the last tag on: those before the first row, then row by row. -/
def cellsOf : List Tag → List String × List (List String)
  | [] => ([], [])
  | t :: rest =>
    let read := cellsOf rest
    if t.name = ['t', 'd'] then (String.ofList (decode t.text) :: read.1, read.2)
    else if t.name = ['t', 'r'] then ([], read.1 :: read.2)
    else read

theorem cellsOf_cells (cells : List String) (rest : List Tag) :
    cellsOf ((cells.flatMap fun content =>
        [⟨['t', 'd'], (encode content).toList⟩, ⟨['/', 't', 'd'], []⟩]) ++ rest) =
      (cells ++ (cellsOf rest).1, (cellsOf rest).2) := by
  induction cells with
  | nil => rfl
  | cons content cells ih =>
    rw [List.flatMap_cons, List.append_assoc]
    simp [cellsOf, ih, decode_encode]

theorem cellsOf_rowTags (cells : List String) (rest : List Tag) :
    cellsOf (rowTags cells ++ rest) = ([], (cells ++ (cellsOf rest).1) :: (cellsOf rest).2) := by
  have hclose : cellsOf ([⟨['/', 't', 'r'], ['\n']⟩] ++ rest) = cellsOf rest := by
    simp [cellsOf]
  rw [rowTags, List.append_assoc, List.cons_append, cellsOf, cellsOf_cells, hclose]
  simp

theorem cellsOf_flatMap_rowTags (rows : List (List String)) :
    cellsOf (rows.flatMap rowTags) = ([], rows) := by
  induction rows with
  | nil => rfl
  | cons cells rows ih => rw [List.flatMap_cons, cellsOf_rowTags, ih, List.append_nil]

theorem cut_rows (rows : List (List String)) :
    Cut (String.join (rows.map row)).toList [] (rows.flatMap rowTags) := by
  induction rows with
  | nil => exact ⟨rfl, by decide, by simp⟩
  | cons cells rows ih =>
    have hjoin : (String.join ((cells :: rows).map row)).toList =
        (row cells).toList ++ (String.join (rows.map row)).toList := by
      simp [String.toList_join]
    rw [hjoin]
    exact (cut_row cells).append ih

end Markup

/-! ### Violations -/

/-- Reads a violation from the texts of its cells. -/
def violationOf? : List String → Option Violation
  | [file, line, column, elementName, kind, type, message] => do
    let elementKind ← ElementKind.ofText? kind
    let type ← ViolationType.ofText? type
    return { file := ⟨file⟩, line := Nat.ofDigitChars 10 line.toList 0,
             column := Nat.ofDigitChars 10 column.toList 0, elementName, elementKind, type, message }
  | _ => none

theorem violationOf?_htmlCells (v : Violation) : violationOf? (htmlCells v) = some v := by
  simp [violationOf?, htmlCells]

/-- The rows of the table. -/
def htmlRows (violations : List Violation) : String :=
  String.join (violations.map fun v => Markup.row (htmlCells v))

theorem render_html (violations : List Violation) :
    render violations .html = htmlProlog ++ htmlRows violations ++ htmlEpilog :=
  rfl

theorem cut_htmlRows (violations : List Violation) : Markup.Cut (htmlRows violations).toList []
    (violations.flatMap fun v => Markup.rowTags (htmlCells v)) := by
  have hrows : htmlRows violations = String.join ((violations.map htmlCells).map Markup.row) := by
    rw [List.map_map]
    rfl
  rw [hrows, ← List.flatMap_map htmlCells Markup.rowTags]
  exact Markup.cut_rows (violations.map htmlCells)

/-- The violations that rows tell: the rows are cut at their tags, and the escapes in the cells undone. -/
def readRows? (rows : String) : Option (List Violation) :=
  (Markup.cut? rows.toList).bind fun cut => (Markup.cellsOf cut.2).2.mapM violationOf?

theorem readRows?_htmlRows (violations : List Violation) :
    readRows? (htmlRows violations) = some violations := by
  have hcells : Markup.cellsOf (violations.flatMap fun v => Markup.rowTags (htmlCells v)) =
      ([], violations.map htmlCells) := by
    rw [← Markup.cellsOf_flatMap_rowTags, List.flatMap_map]
  rw [readRows?, (cut_htmlRows violations).cut?, Option.bind_some, hcells]
  exact Option.mapM_map_eq_some fun v _ => violationOf?_htmlCells v

/-- The page is a fixed beginning, rows and a fixed end. The rows have no angle brackets but those of one
row for each violation, with a cell for each of the seven fields, and the violations are read from them
again. So no two lists have one page. -/
theorem html_report_lossless :
    (∀ violations, ∃ rows, render violations .html = htmlProlog ++ rows ++ htmlEpilog ∧
      (∀ lead tags, Markup.Cut rows.toList lead tags ↔
        lead = [] ∧ tags = violations.flatMap fun v => Markup.rowTags (htmlCells v)) ∧
      readRows? rows = some violations) ∧
    (∀ v, (htmlCells v).length = 7) ∧ Function.Injective (render · .html) := by
  refine ⟨?_, fun v => rfl, ?_⟩
  · intro violations
    refine ⟨htmlRows violations, render_html violations, ?_, readRows?_htmlRows violations⟩
    intro lead tags
    constructor
    · exact (cut_htmlRows violations).unique
    · rintro ⟨rfl, rfl⟩
      exact cut_htmlRows violations
  · intro vs ws h
    have hrows : htmlRows vs = htmlRows ws := by
      simpa [render_html] using h
    have hread := readRows?_htmlRows vs
    rw [hrows, readRows?_htmlRows] at hread
    exact (Option.some.inj hread).symm

end LayerCheck.Report
