import LayerCheck.OrderedSet

/-!
Documents: the trees that configuration files are read into, whatever notation they are written in.
-/

namespace LayerCheck

inductive Document where
  | null
  | bool (b : Bool)
  | int (n : Int)
  /-- A number with a fraction or an exponent, as it was written. -/
  | real (numeral : String)
  | text (s : String)
  | list (items : List Document)
  | object (entries : List (String × Document))
deriving Repr, Inhabited

namespace Document

/-- The object of a list of entries. Of two values for one key the last one given stays. -/
def ofEntries (entries : List (String × Document)) : Document :=
  .object (OrderedMap.ofList entries).entries

/-- The value at a key of an object. -/
def get? (d : Document) (key : String) : Option Document :=
  match d with
  | .object entries => (OrderedMap.ofList entries).get? key
  | _ => none

def isObject : Document → Bool
  | .object _ => true
  | _ => false

def ofTexts (texts : List String) : Document :=
  .list (texts.map .text)

end Document

end LayerCheck
