import LayerCheck.Unicode.Category
import LayerCheck.Unicode.Property
import LayerCheck.Unicode.Script
import LayerCheck.Unicode.ScriptExtension

/-!
Looking up Unicode properties by name. Case, blanks, `-`, `_` and a leading `is` do not count.
-/

namespace LayerCheck.Unicode

abbrev Ranges := List (Nat × Nat)

/-- A name without what does not count in it. -/
def looseName (name : String) : String :=
  let stripped (s : List Char) : List Char :=
    (s.filter fun c => c ≠ ' ' && c ≠ '-' && c ≠ '_' && c.toNat < 0x80).map Char.toLower
  match stripped (name.toList.take 2) with
  | ['i', 's'] =>
    match stripped (name.toList.drop 2) with
    | ['c'] => "isc"
    | rest => String.ofList rest
  | _ => String.ofList (stripped name.toList)

def named? {α : Type} (entries : List (List String × α)) (name : String) : Option α :=
  (entries.find? fun e => e.1.any fun n => looseName n == looseName name).map Prod.snd

def everything : Ranges := [(0, 0x10ffff)]

def category? (name : String) : Option Ranges :=
  match looseName name with
  | "any" => some everything
  | "ascii" => some [(0, 0x7f)]
  | "assigned" =>
    some <| (categories.filter fun e => !e.1.contains "Cn").flatMap fun e => Table.readRanges e.2
  | _ =>
    match named? categoryGroups name with
    | some members =>
      some <| (members.filterMap (named? categories)).flatMap Table.readRanges
    | none => (named? categories name).map Table.readRanges

def script? (name : String) : Option Ranges :=
  (named? scripts name).map Table.readRanges

def scriptExtension? (name : String) : Option Ranges :=
  (named? scriptExtensions name).map Table.readRanges

def property? (name : String) : Option Ranges :=
  (named? properties name).map Table.readRanges

/-- The characters a bare name stands for: a property, else a category, else a script. The short
names `cf`, `sc` and `lc` are read as categories. -/
def named (name : String) : Option Ranges :=
  let isCategory := ["cf", "sc", "lc"].contains (looseName name)
  (if isCategory then none else property? name) <|> category? name <|> script? name

/-- The characters for which the property `name` has the value `value`. -/
def valued (name value : String) : Option Ranges :=
  match looseName name with
  | "gc" | "generalcategory" => category? value
  | "sc" | "script" => script? value
  | "scx" | "scriptextensions" => scriptExtension? value
  | _ => none

def inRanges (ranges : Ranges) (c : Nat) : Bool :=
  ranges.any fun r => r.1 ≤ c && c ≤ r.2

def decimalDigits : Ranges := (category? "Nd").getD []

def whiteSpace : Ranges := (property? "White_Space").getD []

/-- Letters, marks, decimal digits, connector punctuation and joiners. -/
def wordCharacters : Ranges :=
  (property? "Alphabetic").getD [] ++ (category? "M").getD [] ++ decimalDigits ++
    (category? "Pc").getD [] ++ (property? "Join_Control").getD []

def alphabetic : Ranges := (property? "Alphabetic").getD []

def numbers : Ranges := (category? "N").getD []

def identifierStart : Ranges := (property? "XID_Start").getD []

def identifierContinue : Ranges := (property? "XID_Continue").getD []

def isWhiteSpace (c : Char) : Bool :=
  inRanges whiteSpace c.toNat

end LayerCheck.Unicode
