import LayerCheck.OrderedSet
import LayerCheck.Path

/-!
Code elements: the classes, functions and module variables that layers are made of.
-/

namespace LayerCheck

inductive ElementKind where
  | cls
  | func
  | var
deriving DecidableEq, Repr

namespace ElementKind

def text : ElementKind → String
  | cls => "class"
  | func => "function"
  | var => "variable"

def ofText? : String → Option ElementKind
  | "class" => some cls
  | "function" => some func
  | "variable" => some var
  | _ => none

@[simp] theorem ofText?_text (k : ElementKind) : ofText? k.text = some k := by
  cases k <;> rfl

def rank : ElementKind → Nat
  | cls => 0
  | func => 1
  | var => 2

instance : Ord ElementKind := ⟨compareOn rank⟩

instance : Std.TransOrd ElementKind :=
  inferInstanceAs (Std.TransCmp (compareOn rank))

end ElementKind

/-- A definition at its place. The name is qualified by the definitions around it. -/
structure Element where
  file : Path
  name : String
  kind : ElementKind
  line : Nat
  column : Nat
deriving DecidableEq, Repr

namespace Element

def order : Element → Element → Ordering :=
  compareLex (compareOn file) <| compareLex (compareOn name) <| compareLex (compareOn kind) <|
    compareLex (compareOn line) (compareOn column)

instance : Ord Element := ⟨order⟩

instance : Std.TransOrd Element :=
  inferInstanceAs (Std.TransCmp (compareLex (compareOn file) <| compareLex (compareOn name) <|
    compareLex (compareOn kind) <| compareLex (compareOn line) (compareOn column)))

/-- The part of the name after its last dot. -/
def shortName (e : Element) : String :=
  Segments.last '.' e.name

def display (e : Element) : String :=
  s!"{e.kind.text} {e.name} ({e.file.text}:{e.line}:{e.column})"

end Element

abbrev ElementSet := OrderedSet Element

/-- A reference from `source` to `target`, on `line` of the file of `source`. -/
structure Dependency where
  source : Element
  target : Element
  line : Nat
deriving DecidableEq, Repr

namespace Dependency

def order : Dependency → Dependency → Ordering :=
  compareLex (compareOn source) <| compareLex (compareOn target) (compareOn line)

instance : Ord Dependency := ⟨order⟩

instance : Std.TransOrd Dependency :=
  inferInstanceAs (Std.TransCmp (compareLex (compareOn source) <|
    compareLex (compareOn target) (compareOn line)))

/-- Whether both ends are the same element, paths compared by their components. -/
def isSelfEdge (d : Dependency) : Bool :=
  compare d.source d.target == .eq

end Dependency

end LayerCheck
