import LayerCheck.Element

/-!
Violations of rules, ordered file by file from top to bottom.
-/

namespace LayerCheck

inductive ViolationType where
  | layerDependency
  | classNaming
  | functionNaming
deriving DecidableEq, Repr

namespace ViolationType

def text : ViolationType → String
  | layerDependency => "LAYER_DEPENDENCY"
  | classNaming => "CLASS_NAMING"
  | functionNaming => "FUNCTION_NAMING"

def ofText? : String → Option ViolationType
  | "LAYER_DEPENDENCY" => some layerDependency
  | "CLASS_NAMING" => some classNaming
  | "FUNCTION_NAMING" => some functionNaming
  | _ => none

@[simp] theorem ofText?_text (t : ViolationType) : ofText? t.text = some t := by
  cases t <;> rfl

def rank : ViolationType → Nat
  | layerDependency => 0
  | classNaming => 1
  | functionNaming => 2

def all : List ViolationType :=
  [layerDependency, classNaming, functionNaming]

instance : Ord ViolationType := ⟨compareOn rank⟩

instance : Std.TransOrd ViolationType :=
  inferInstanceAs (Std.TransCmp (compareOn rank))

end ViolationType

structure Violation where
  file : Path
  line : Nat
  column : Nat
  elementName : String
  elementKind : ElementKind
  type : ViolationType
  message : String
deriving DecidableEq, Repr

namespace Violation

def order : Violation → Violation → Ordering :=
  compareLex (compareOn file) <| compareLex (compareOn line) <| compareLex (compareOn column) <|
    compareLex (compareOn elementName) <| compareLex (compareOn elementKind) <|
    compareLex (compareOn type) (compareOn message)

instance : Ord Violation := ⟨order⟩

instance : Std.TransOrd Violation :=
  inferInstanceAs (Std.TransCmp (compareLex (compareOn file) <| compareLex (compareOn line) <|
    compareLex (compareOn column) <| compareLex (compareOn elementName) <|
    compareLex (compareOn elementKind) <| compareLex (compareOn type) (compareOn message)))

/-- A violation at the place of a reference: the element is the one that refers. -/
def atEdge (d : Dependency) (type : ViolationType) (message : String) : Violation :=
  { file := d.source.file
    line := d.line
    column := d.source.column
    elementName := d.source.name
    elementKind := d.source.kind
    type
    message }

/-- A violation at the place of a definition. -/
def atElement (e : Element) (type : ViolationType) (message : String) : Violation :=
  { file := e.file
    line := e.line
    column := e.column
    elementName := e.name
    elementKind := e.kind
    type
    message }

def display (v : Violation) : String :=
  s!"{v.file.text}:{v.line} - {v.message} ({v.elementKind.text} {v.elementName})"

end Violation

abbrev ViolationSet := OrderedSet Violation

/-- How many violations of each type a list holds, in the order of the types. -/
def Violation.countByType (violations : List Violation) : List Nat :=
  ViolationType.all.map fun t => violations.countP fun v => v.type == t

end LayerCheck
