import LayerCheck.Pattern.Tree

/-!
Patterns of the configuration. A matching pattern is tried at the start of the subject only, a
searching pattern anywhere; neither is bound to the end.
-/

namespace LayerCheck

/-- A pattern as it was written, with its expression. -/
structure Pattern where
  raw : String
  regex : Pattern.Regex
deriving Repr

namespace Pattern

/-- The expression of a pattern text; `none` if the text is no pattern or is too large. -/
def Regex.parse? (text : String) : Option Regex := do
  let tokens ← tokens? text
  let regex ← tree? tokens
  if nesting tokens ≤ maxNesting ∧ regex.weight ≤ maxWeight then some regex else none

/-- The text of a matching pattern is put into a group behind `^`. -/
def matching? (raw : String) : Option Pattern :=
  (Regex.parse? ("^(?:" ++ raw ++ ")")).map (⟨raw, ·⟩)

def searching? (raw : String) : Option Pattern :=
  (Regex.parse? raw).map (⟨raw, ·⟩)

def isMatch (p : Pattern) (subject : String) : Bool :=
  p.regex.search subject

end Pattern

end LayerCheck
