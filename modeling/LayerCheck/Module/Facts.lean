import LayerCheck.Element

/-!
What is kept of a Python module: the definitions that become elements and the references that
become dependencies.
-/

namespace LayerCheck

/-- A class, a function or a module variable. Bases have their import aliases resolved; decorators
are named by their last part. -/
structure Definition where
  kind : ElementKind
  name : String
  qualifiedName : String
  line : Nat
  column : Nat
  bases : List String := []
  decorators : List String := []
deriving DecidableEq, Repr

namespace Definition

/-- Whether `base` is the name `target` or ends in a dot and that name. -/
def baseEndsIn (target base : String) : Bool :=
  base == target || ('.' :: target.toList).isSuffixOf base.toList

def inheritsFrom (d : Definition) (target : String) : Bool :=
  d.bases.any (baseEndsIn target)

/-- The element that the definition is in a file. -/
def toElement (file : Path) (d : Definition) : Element :=
  { file, name := d.qualifiedName, kind := d.kind, line := d.line, column := d.column }

end Definition

inductive ReferenceKind where
  | plainImport
  | fromImport
  | call
  | attribute
  | name
deriving DecidableEq, Repr

/-- A place that may refer to an element. The probe is compared with the short names of elements. -/
structure Reference where
  kind : ReferenceKind
  probe : String
  line : Nat
deriving DecidableEq, Repr

structure Facts where
  definitions : List Definition := []
  references : List Reference := []
deriving DecidableEq, Repr

end LayerCheck
