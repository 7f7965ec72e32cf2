import LayerCheck.Proofs.Except
import LayerCheck.Proofs.Json
import LayerCheck.Report

/-!
The JSON report is the text of a document, and the violations can be read from the document again. So
no text in a violation, whatever its characters, can make two reports look the same.
-/

namespace LayerCheck

/-! ### Texts and numbers as they are written -/

namespace Report.Quoted

open Json

theorem nat?_hexDigits : ∀ n < 0x20, Numeral.nat? 16 ('0' :: '0' :: hexDigits n) = some n := by
  decide

theorem charText_escape (c : Char) : CharText c (escape c) := by
  unfold escape
  split_ifs with hquote hslash hline hreturn htab hback hfeed hcontrol
  · subst hquote
    exact .short rfl
  · subst hslash
    exact .short rfl
  · subst hline
    exact .short rfl
  · subst hreturn
    exact .short rfl
  · subst htab
    exact .short rfl
  · subst hback
    exact .short rfl
  · subst hfeed
    exact .short rfl
  · have hdigits := nat?_hexDigits c.toNat hcontrol
    rw [hexDigits] at hdigits ⊢
    exact .unit hdigits
  · exact .plain (Nat.le_of_not_lt hcontrol) hquote hslash

theorem charsText_encode (s : List Char) : CharsText s (encode s) := by
  induction s with
  | nil => exact .nil
  | cons c s ih => exact .cons (charText_escape c) ih

theorem stringText_literal (s : String) : StringText s (literal s).toList := by
  refine ⟨encode s.toList, charsText_encode s.toList, ?_⟩
  simp [literal]

end Report.Quoted

namespace Json

theorem head?_toDigits_ne {n : Nat} (hn : 0 < n) : (Nat.toDigits 10 n).head? ≠ some '0' := by
  induction n using Nat.strong_induction_on with
  | _ n ih =>
    rw [Nat.toDigits_eq_if (by decide)]
    split
    · next hlt =>
      intro h
      have hdigit : ∀ k < 10, 0 < k → Nat.digitChar k ≠ '0' := by decide
      exact hdigit n hlt hn (by simpa using h)
    · next hle =>
      have hhead := ih (n / 10) (by omega) (by omega)
      rw [List.head?_append_of_ne_nil _ Nat.toDigits_ne_nil]
      exact hhead

theorem isWhole_toDigits (n : Nat) : isWhole (Nat.toDigits 10 n) := by
  have hdigits : isDigits (Nat.toDigits 10 n) := by
    simp only [isDigits, Bool.and_eq_true, List.all_eq_true]
    refine ⟨by simp, ?_⟩
    intro c hc
    exact Nat.isDigit_of_mem_toDigits (by decide) (by decide) hc
  rw [isWhole, hdigits]
  by_cases hn : n = 0
  · subst hn
    rfl
  · simp [head?_toDigits_ne (Nat.pos_of_ne_zero hn)]

theorem valueText_toString (n : Nat) : ValueText (.int n) (toString n).toList := by
  have h : ValueText (number false (Nat.toDigits 10 n) []) _ := .number (isWhole_toDigits n) rfl
  simpa [number, sign, Nat.ofDigitChars_ten_toDigits, Nat.toString_eq_ofList_toDigits] using h

/-- Texts on lines of their own. -/
theorem row_intercalate {lead indent sep trail : List Char} (hlead : Blank lead)
    (hindent : Blank indent) (hsep : Blank sep) (htrail : Blank trail) {ts : List (List Char)}
    (hne : ts ≠ []) :
    Row ts (lead ++ ((',' :: sep).intercalate (ts.map (indent ++ ·)) ++ trail)) := by
  induction ts generalizing lead with
  | nil => contradiction
  | cons t ts ih =>
    have hbefore : Blank (lead ++ indent) := List.forall_mem_append.2 ⟨hlead, hindent⟩
    cases ts with
    | nil => simpa using Row.last (t := t) hbefore htrail
    | cons t' ts =>
      have hnil : Blank [] := by simp [Blank]
      simpa [List.intercalate_cons_cons] using
        Row.more (t := t) hbefore hnil (ih hsep (by simp))

end Json

namespace Report

/-! ### The document of a report -/

/-- The fields of a violation with their values. -/
def fields (v : Violation) : List (String × Document) :=
  [("file", .text v.file.text),
   ("line", .int v.line),
   ("column", .int v.column),
   ("element_name", .text v.elementName),
   ("element_kind", .text v.elementKind.text),
   ("violation_type", .text v.type.text),
   ("message", .text v.message)]

def document (violations : List Violation) : Document :=
  .list (violations.map fun v => .object (fields v))

/-- Reads a violation from an object that has the fields of one and no others. -/
def violation? : Document → Option Violation
  | .object [("file", .text file), ("line", .int (.ofNat line)), ("column", .int (.ofNat column)),
      ("element_name", .text elementName), ("element_kind", .text kind),
      ("violation_type", .text type), ("message", .text message)] => do
    let elementKind ← ElementKind.ofText? kind
    let type ← ViolationType.ofText? type
    return { file := ⟨file⟩, line, column, elementName, elementKind, type, message }
  | _ => none

def violations? : Document → Option (List Violation)
  | .list items => items.mapM violation?
  | _ => none

theorem violation?_fields (v : Violation) : violation? (.object (fields v)) = some v := by
  change (do
    let elementKind ← ElementKind.ofText? v.elementKind.text
    let type ← ViolationType.ofText? v.type.text
    return (⟨v.file, v.line, v.column, v.elementName, elementKind, type, v.message⟩ : Violation)) = _
  rw [ElementKind.ofText?_text, ViolationType.ofText?_text]
  rfl

theorem violations?_document (violations : List Violation) :
    violations? (document violations) = some violations :=
  Option.mapM_map_eq_some fun v _ => violation?_fields v

/-! ### The text of a report -/

/-- A field and its value, each with its text. -/
structure FieldText (field : String × String) (entry : String × Document) : Prop where
  name : field.1 = entry.1
  value : Json.ValueText entry.2 field.2.toList

theorem fieldText_jsonFields (v : Violation) : List.Forall₂ FieldText (jsonFields v) (fields v) := by
  have htext (name s : String) : FieldText (name, Quoted.literal s) (name, .text s) :=
    ⟨rfl, .text (Quoted.stringText_literal s)⟩
  have hnumber (name : String) (n : Nat) : FieldText (name, toString n) (name, .int n) :=
    ⟨rfl, Json.valueText_toString n⟩
  simp only [jsonFields, fields, List.forall₂_cons]
  exact ⟨htext _ _, hnumber _ _, hnumber _ _, htext _ _, htext _ _, htext _ _, htext _ _, .nil⟩

def fieldLabel (name : String) : List Char :=
  (Quoted.literal name ++ ": ").toList

/-- The line of a field, without the indent. -/
def fieldLine (field : String × String) : List Char :=
  fieldLabel field.1 ++ field.2.toList

theorem nameText_fieldLabel (name : String) : Json.NameText name (fieldLabel name) := by
  refine ⟨_, [], [' '], Quoted.stringText_literal name, by decide, by decide, ?_⟩
  simp [fieldLabel]

theorem exists_members {texts : List (String × String)} {entries : List (String × Document)}
    (h : List.Forall₂ FieldText texts entries) :
    ∃ members : List Json.Member, members.map (fun m => (m.name, m.value)) = entries ∧
      members.map (fun m => m.label ++ m.text) = texts.map fieldLine ∧
      (∀ m ∈ members, Json.NameText m.name m.label) ∧
      ∀ m ∈ members, Json.ValueText m.value m.text := by
  induction h with
  | nil => exact ⟨[], by simp⟩
  | @cons field entry _ _ hfield _ ih =>
    obtain ⟨members, hentries, htexts, hnames, hvalues⟩ := ih
    refine ⟨⟨entry.1, fieldLabel entry.1, entry.2, field.2.toList⟩ :: members, ?_, ?_, ?_, ?_⟩
    · rw [List.map_cons, hentries]
    · rw [List.map_cons, htexts, List.map_cons, fieldLine, hfield.name]
    · simp only [List.forall_mem_cons]
      exact ⟨nameText_fieldLabel entry.1, hnames⟩
    · simp only [List.forall_mem_cons]
      exact ⟨hfield.value, hvalues⟩

/-- The text of the object of a violation, without the indent. -/
def objectText (v : Violation) : List Char :=
  '\x7b' :: (['\n'] ++ ([',', '\n'].intercalate
    (((jsonFields v).map fieldLine).map ("    ".toList ++ ·)) ++ "\n  ".toList) ++ ['\x7d'])

theorem toList_jsonObject (v : Violation) : (jsonObject v).toList = "  ".toList ++ objectText v := by
  simp [objectText, jsonObject, fieldLine, fieldLabel, Function.comp_def]

theorem valueText_objectText (v : Violation) : Json.ValueText (.object (fields v)) (objectText v) := by
  obtain ⟨members, hentries, htexts, hnames, hvalues⟩ := exists_members (fieldText_jsonFields v)
  rw [← hentries]
  apply Json.ValueText.object hnames hvalues
  rw [htexts]
  exact Json.row_intercalate (by decide) (by decide) (by decide) (by decide) (by simp [jsonFields])

theorem valueText_jsonArray (violations : List Violation) :
    Json.ValueText (document violations) (jsonArray violations).toList := by
  let item (v : Violation) : Document × List Char := (.object (fields v), objectText v)
  have hdocument : document violations = .list ((violations.map item).map (·.1)) := by
    simp [document, item]
  have hvalues : ∀ x ∈ violations.map item, Json.ValueText x.1 x.2 := by
    intro x hx
    obtain ⟨v, -, rfl⟩ := List.mem_map.1 hx
    exact valueText_objectText v
  rw [hdocument]
  cases violations with
  | nil =>
    have hrow : Json.Row [] [] := .empty (by decide)
    exact .list hvalues hrow
  | cons v violations =>
    have htexts : ((v :: violations).map jsonObject).map String.toList =
        (((v :: violations).map item).map (·.2)).map ("  ".toList ++ ·) := by
      simp [item, toList_jsonObject]
    have harray : (jsonArray (v :: violations)).toList = '[' :: (['\n'] ++
        ([',', '\n'].intercalate (((v :: violations).map jsonObject).map String.toList) ++ ['\n']) ++
          [']']) := by
      simp [jsonArray]
    rw [harray, htexts]
    apply Json.ValueText.list hvalues
    exact Json.row_intercalate (by decide) (by decide) (by decide) (by decide) (by simp)

theorem isText_render (violations : List Violation) :
    Json.IsText (document violations) (render violations .json) :=
  ⟨[], _, [], by decide, valueText_jsonArray violations, by decide, by simp [render]⟩

/-- The report is a text of exactly one document, the list of objects that have the fields of the
violations in their order. The violations are read from it again, so no two lists have one report. -/
theorem json_report_lossless :
    (∀ violations, (∀ d, Json.IsText d (render violations .json) ↔ d = document violations) ∧
      Json.read? (render violations .json) = some (document violations) ∧
      violations? (document violations) = some violations) ∧
    Function.Injective (render · .json) := by
  have hread (violations : List Violation) :
      Json.read? (render violations .json) = some (document violations) :=
    Json.read?_of_isText (isText_render violations)
  refine ⟨fun violations => ⟨?_, hread violations, violations?_document violations⟩, ?_⟩
  · intro d
    constructor
    · intro h
      exact h.unique (isText_render violations)
    · intro h
      rw [h]
      exact isText_render violations
  · intro vs ws h
    have hdocuments : document vs = document ws := by
      apply Option.some.inj
      rw [← hread vs, ← hread ws]
      exact congrArg Json.read? h
    have hvs := violations?_document vs
    rw [hdocuments, violations?_document ws] at hvs
    exact (Option.some.inj hvs).symm

end Report

end LayerCheck
