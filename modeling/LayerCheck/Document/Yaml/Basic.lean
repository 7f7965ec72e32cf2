import LayerCheck.Document.Basic
import LayerCheck.Document.Yaml.Node

/-!
Documents in YAML. Plain scalars are read by the core rules: `null`, `true`, `false`, whole numbers in
four bases and decimal numbers; anything else is text.
-/

namespace LayerCheck.Yaml

/-! ### Scalars -/

def isNull (s : String) : Bool :=
  ["null", "Null", "NULL", "~"].contains s

def bool? (s : String) : Option Bool :=
  if ["true", "True", "TRUE"].contains s then some true
  else if ["false", "False", "FALSE"].contains s then some false
  else none

/-- A row of two or more digits that begins with `0` is no number. -/
def isPadded (cs : List Char) : Bool :=
  match (Numeral.signed cs).2 with
  | '0' :: more => !more.isEmpty && more.all Numeral.isDigit
  | _ => false

/-- The digits of a whole number behind `0x`, `0o`, `0b` or nothing. -/
def magnitude? (cs : List Char) : Option Nat :=
  match cs with
  | '0' :: 'x' :: digits => Numeral.nat? 16 digits
  | '0' :: 'o' :: digits => Numeral.nat? 8 digits
  | '0' :: 'b' :: digits => Numeral.nat? 2 digits
  | digits => if isPadded digits then none else Numeral.nat? 10 digits

/-- Whole numbers beyond 128 bits are not read as such. -/
def int? (cs : List Char) : Option Int :=
  let (negative, rest) := Numeral.signed cs
  match magnitude? rest with
  | none => none
  | some n =>
    if negative then if n ≤ Nat.pow 2 127 then some (-n) else none
    else if n < Nat.pow 2 128 then some n else none

/-- Documents hold whole numbers of 64 bits, with or without a sign. -/
def ofInt? (n : Int) : Option Document :=
  if -Int.pow 2 63 ≤ n ∧ n < Int.pow 2 64 then some (.int n) else none

/-- Infinities and what is no number are null in a document. -/
def specialReals : List String :=
  [".inf", ".Inf", ".INF", "+.inf", "+.Inf", "+.INF", "-.inf", "-.Inf", "-.INF", ".nan", ".NaN",
    ".NAN"]

def real? (s : String) : Option Document :=
  if specialReals.contains s then some .null
  else
    match Numeral.decimal? (Numeral.signed s.toList).2 with
    | some d => if d.overflows then none else some (.real s)
    | none => none

/-- Fails on a whole number that a document cannot hold. -/
def plainValue? (s : String) : Option Document :=
  if s = "" || isNull s then some .null
  else
    match bool? s, int? s.toList with
    | some b, _ => some (.bool b)
    | none, some n => ofInt? n
    | none, none => if isPadded s.toList then some (.text s) else some ((real? s).getD (.text s))

/-- The value of a scalar with a tag. Tags other than those for the kinds of plain scalars leave the
text as it is. -/
def taggedValue? (tag text : String) : Option Document :=
  if tag = "tag:yaml.org,2002:bool" then (bool? text).map .bool
  else if tag = "tag:yaml.org,2002:int" then (int? text.toList).bind ofInt?
  else if tag = "tag:yaml.org,2002:float" then real? text
  else if tag = "tag:yaml.org,2002:null" then if isNull text then some .null else none
  else some (.text text)

/-- A tag of the text's own has no meaning in a document. -/
def isPrivate (tag : Option String) : Bool :=
  tag.any fun t => t.toList.head? == some '!'

/-! ### Trees -/

/-- Follows aliases, counting them down from a bound. -/
abbrev Follower := StateT Nat Option

def follow (anchors : Anchors) : Node → Follower Node
  | .aliasTo number => do
    match ← get with
    | 0 => failure
    | k + 1 =>
      set k
      anchors.get? number
  | node => return node

/-- Keys are scalars and stand for their text. -/
def keyText (anchors : Anchors) (node : Node) : Follower String := do
  match ← follow anchors node with
  | .scalar _ text _ => return text
  | _ => failure

/-- The document of a node whose collections are nested at most `depth` deep. -/
def toDocument (anchors : Anchors) : Nat → Node → Follower Document
  | depth, node => do
    match depth, ← follow anchors node with
    | _, .scalar tag text isPlain =>
      if isPrivate tag then failure
      else
        match tag, isPlain with
        | some tag, _ => taggedValue? tag text
        | none, true => plainValue? text
        | none, false => return .text text
    | depth + 1, .sequence tag items =>
      if isPrivate tag then failure
      else return .list (← items.mapM (toDocument anchors depth))
    | depth + 1, .mapping tag entries =>
      if isPrivate tag then failure
      else
        return .ofEntries (← entries.mapM fun (key, value) =>
          return (← keyText anchors key, ← toDocument anchors depth value))
    | _, _ => failure

def maxDepth : Nat := 128

/-- The number of aliases that may be followed for each mark of the text. -/
def maxRepetition : Nat := 100

/-- The document that a YAML text holds. A text without content is null. -/
def read? (text : String) : Option Document := do
  let tokens ← tokens? text
  let (node, b) ← nodes? tokens
  let (d, _) ← (toDocument b.anchors maxDepth node).run (maxRepetition * b.cost)
  return d

end LayerCheck.Yaml
