import LayerCheck.Document.Basic

/-!
Tables under construction. A table may be made by its header, by the headers of tables inside it or by
dotted keys, and that decides who may add to it later.
-/

namespace LayerCheck.Toml

inductive Item where
  | value (d : Document)
  /-- An implicit table has no header of its own; a dotted one was made by dotted keys. -/
  | table (implicit dotted : Bool) (entries : List (String × Item))
  /-- A row of tables, the last of which is the one that headers and keys reach. -/
  | tables (earlier : List (List (String × Item))) (last : List (String × Item))
deriving Repr, Inhabited

abbrev Entries := List (String × Item)

namespace Entries

def set (es : Entries) (k : String) (item : Item) : Entries :=
  es.map fun e => if e.1 = k then (k, item) else e

/-- Changes the table at the end of a path by `change`, which is told whether that table was made by
dotted keys. Tables that are missing on the way are made; dotted keys do not enter a table that has a
header. -/
def descend? (dotted : Bool) (change : Bool → Entries → Option Entries) :
    List String → Bool → Entries → Option Entries
  | [], isDotted, es => change isDotted es
  | k :: path, _, es =>
    match es.lookup k with
    | none => do
      let child ← descend? dotted change path dotted []
      return es ++ [(k, .table true dotted child)]
    | some (.value _) => none
    | some (.table implicit isDotted child) => do
      if dotted && !implicit then none
      let child ← descend? dotted change path isDotted child
      return es.set k (.table implicit isDotted child)
    | some (.tables earlier last) => do
      let last ← descend? dotted change path false last
      return es.set k (.tables earlier last)

/-- Adds a value under a dotted key that is not in use. -/
def assign? (es : Entries) (path : List String) (d : Document) : Option Entries := do
  let k ← path.getLast?
  let way := path.dropLast
  let change (isDotted : Bool) (es : Entries) : Option Entries :=
    if isDotted == way.isEmpty || (es.lookup k).isSome then none else some (es ++ [(k, .value d)])
  descend? true change way false es

/-- Opens the table of a header. -/
def openTable? (es : Entries) (path : List String) : Option Entries := do
  let k ← path.getLast?
  let change (_ : Bool) (es : Entries) : Option Entries :=
    match es.lookup k with
    | none => some (es ++ [(k, .table false false [])])
    | some (.table true false child) => some (es.set k (.table false false child))
    | some _ => none
  descend? false change path.dropLast false es

/-- Adds a table to the row of a header with double brackets. -/
def addTable? (es : Entries) (path : List String) : Option Entries := do
  let k ← path.getLast?
  let change (_ : Bool) (es : Entries) : Option Entries :=
    match es.lookup k with
    | none => some (es ++ [(k, .tables [] [])])
    | some (.tables earlier last) => some (es.set k (.tables (earlier ++ [last]) []))
    | some _ => none
  descend? false change path.dropLast false es

/-- Adds a value to the table that was opened last. -/
def assignIn? (es : Entries) (table path : List String) (d : Document) : Option Entries :=
  descend? false (fun _ es => es.assign? path d) table false es

end Entries

/-! ### Documents of tables -/

mutual

def Item.toDocument : Item → Document
  | .value d => d
  | .table _ _ entries => .ofEntries (entriesToDocuments entries)
  | .tables earlier last =>
    .list (tablesToDocuments earlier ++ [.ofEntries (entriesToDocuments last)])

def entriesToDocuments : List (String × Item) → List (String × Document)
  | [] => []
  | (k, item) :: rest => (k, item.toDocument) :: entriesToDocuments rest

def tablesToDocuments : List (List (String × Item)) → List Document
  | [] => []
  | es :: rest => .ofEntries (entriesToDocuments es) :: tablesToDocuments rest

end

def toDocument (es : Entries) : Document :=
  .ofEntries (entriesToDocuments es)

end LayerCheck.Toml
