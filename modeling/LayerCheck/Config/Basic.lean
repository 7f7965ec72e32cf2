import LayerCheck.Config.Entry

/-!
Configurations and the documents that hold them.
-/

namespace LayerCheck

structure Config where
  paths : List Path
  /-- Patterns that are searched for in the paths of files; files they are found in are left out. -/
  excludeFiles : List String
  layers : List LayerEntry
  ruleset : OrderedMap String RuleEntry

namespace Config

/-- The entry of the layer with the given name. -/
def layer? (c : Config) (name : String) : Option LayerEntry :=
  c.layers.find? (·.name = name)

/-! ### Records

A record is written as an object or as the list of its fields in order.
-/

/-- The value under one of the names of a field. Only one of the names may be used. -/
def field? (entries : List (String × Document)) (names : List String) :
    Option (Option Document) :=
  match entries.filter fun e => names.contains e.1 with
  | [] => some none
  | [e] => some (some e.2)
  | _ => none

/-- The fields of a record, in order. An open record may have other keys as well. -/
def fields? (isOpen : Bool) (names : List (List String)) :
    Document → Option (List (Option Document))
  | .object entries =>
    if isOpen || entries.all fun e => names.any (·.contains e.1) then names.mapM (field? entries)
    else none
  | .list items =>
    if items.length ≤ names.length then
      some (items.map some ++ List.replicate (names.length - items.length) none)
    else none
  | _ => none

def textOf? : Document → Option String
  | .text s => some s
  | _ => none

/-- The items of a list, each read by `item?`. -/
def listOf? {α : Type} (item? : Document → Option α) : Document → Option (List α)
  | .list items => items.mapM item?
  | _ => none

/-- A field that may be left out or null. -/
def optional? {α : Type} (read? : Document → Option α) : Option Document → Option (Option α)
  | none | some .null => some none
  | some d => (read? d).map some

/-- A field that may be left out. -/
def default? {α : Type} (default : α) (read? : Document → Option α) : Option Document → Option α
  | none => some default
  | some d => read? d

/-! ### Reading documents -/

def collectorOf? (d : Document) : Option CollectorEntry :=
  (CollectorEntry.ofDocument d).toOption

def layerOf? (d : Document) : Option LayerEntry := do
  match ← fields? true [["name"], ["collectors"]] d with
  | [some name, collectors] =>
    return { name := ← textOf? name, collectors := ← default? [] (listOf? collectorOf?) collectors }
  | _ => none

def namingOf? (d : Document) : Option String := do
  match ← fields? false [["regex"]] d with
  | [some regex] => textOf? regex
  | _ => none

def ruleOf? (d : Document) : Option RuleEntry := do
  let names := [["disallow", "disallow_layer_dependencies"], ["class_naming"], ["function_naming"]]
  match ← fields? false names d with
  | [disallow, classNaming, functionNaming] =>
    return {
      disallow := ← default? [] (listOf? textOf?) disallow
      classNaming := ← optional? namingOf? classNaming
      functionNaming := ← optional? namingOf? functionNaming }
  | _ => none

/-- A layer whose rules are null has none. -/
def rulesetOf? : Document → Option (OrderedMap String RuleEntry)
  | .object entries => do
    let rules ← entries.mapM fun (layer, d) =>
      return (layer, ((← optional? ruleOf? (some d)).getD {}))
    return .ofList rules
  | _ => none

/-- The key that a configuration may stand under as a whole. -/
def rootKey : String := "deply"

/-- The part of a document that holds the configuration. -/
def body (d : Document) : Document :=
  match d with
  | .null => .object []
  | d =>
    match d.get? rootKey with
    | some inner => if inner.isObject then inner else d
    | none => d

/-- The paths of a configuration, the base directory if it names none. -/
def pathsFrom (base : Path) (paths : List String) : List Path :=
  if paths.isEmpty then [base] else paths.map fun p => base.join ⟨p⟩

/-- Reads the configuration in a document. Relative paths start from `base`. -/
def ofDocument? (base : Path) (d : Document) : Option Config := do
  let names := [["paths"], ["exclude_files"], ["layers"], ["ruleset"]]
  match ← fields? true names (body d) with
  | [paths, excludeFiles, layers, ruleset] =>
    return {
      paths := pathsFrom base ((← optional? (listOf? textOf?) paths).getD [])
      excludeFiles := (← optional? (listOf? textOf?) excludeFiles).getD []
      layers := (← optional? (listOf? layerOf?) layers).getD []
      ruleset := (← optional? rulesetOf? ruleset).getD ∅ }
  | _ => none

/-! ### Writing documents

The entries of objects stand in increasing order of their keys, as in the documents that are read.
-/

def layerDocument (l : LayerEntry) : Document :=
  .object [("collectors", .list (l.collectors.map CollectorEntry.toDocument)), ("name", .text l.name)]

def namingDocument : Option String → Document
  | some regex => .object [("regex", .text regex)]
  | none => .null

def ruleDocument (r : RuleEntry) : Document :=
  .object [("class_naming", namingDocument r.classNaming), ("disallow", .ofTexts r.disallow),
    ("function_naming", namingDocument r.functionNaming)]

def toDocument (c : Config) : Document :=
  .object [
    ("exclude_files", .ofTexts c.excludeFiles),
    ("layers", .list (c.layers.map layerDocument)),
    ("paths", .ofTexts (c.paths.map Path.text)),
    ("ruleset", .object (c.ruleset.entries.map fun (layer, r) => (layer, ruleDocument r)))]

end Config

end LayerCheck
