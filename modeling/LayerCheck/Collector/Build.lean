import LayerCheck.Collector.Basic
import LayerCheck.Config.Validation

/-!
Collectors from their entries in the configuration. Options are read in a fixed order, and the first
problem is told.
-/

namespace LayerCheck

namespace CollectorEntry

/-- A text that counts as absent if it is empty. -/
def textIfAny (c : CollectorEntry) (key : String) : Except ConfigError (Option String) := do
  return (← c.text? key).filter (· ≠ "")

def patternIfAny (c : CollectorEntry) (key : String) : Except ConfigError (Option Pattern) := do
  match ← c.textIfAny key with
  | some raw => return some (← Config.matching raw)
  | none => return none

def pattern (c : CollectorEntry) (key : String) : Except ConfigError Pattern := do
  Config.matching (← c.text key)

def elementKind (c : CollectorEntry) : Except ConfigError (Option ElementKind) := do
  match ← c.textIfAny "element_type" with
  | none => return none
  | some text =>
    match ElementKind.ofText? text with
    | some kind => return some kind
    | none => .error (c.wrong "element_type" (.notElementKind text))

def exclude (c : CollectorEntry) : Except ConfigError (Option Pattern) :=
  c.patternIfAny "exclude_files_regex"

/-! ### Leaves -/

def fileRegex (c : CollectorEntry) : Except ConfigError Leaf := do
  let regex ← c.pattern "regex"
  let kind ← c.elementKind
  let base ← c.textIfAny "base_class"
  return ⟨.fileRegex regex kind base, ← c.exclude⟩

def classInherits (c : CollectorEntry) : Except ConfigError Leaf := do
  let base ← c.text "base_class"
  return ⟨.classInherits base, ← c.exclude⟩

def classNameRegex (c : CollectorEntry) : Except ConfigError Leaf := do
  let regex ← c.pattern "class_name_regex"
  return ⟨.classNameRegex regex, ← c.exclude⟩

def functionNameRegex (c : CollectorEntry) : Except ConfigError Leaf := do
  let regex ← c.pattern "function_name_regex"
  return ⟨.functionNameRegex regex, ← c.exclude⟩

def directory (c : CollectorEntry) : Except ConfigError Leaf := do
  let directories ← c.texts "directories"
  if directories.isEmpty then .error (c.missing "directories")
  let recursive ← c.bool "recursive" true
  let kind ← c.elementKind
  return ⟨.directory directories recursive kind, ← c.exclude⟩

def decoratorUsage (c : CollectorEntry) : Except ConfigError Leaf := do
  let name ← c.textIfAny "decorator_name"
  let regex ← c.patternIfAny "decorator_regex"
  if name.isNone && regex.isNone then .error (c.missing "decorator_name or decorator_regex")
  return ⟨.decoratorUsage name regex, ← c.exclude⟩

/-- The leaf of an entry. -/
def leaf (c : CollectorEntry) : Except ConfigError Leaf :=
  if c.kind = "file_regex" then c.fileRegex
  else if c.kind = "class_inherits" then c.classInherits
  else if c.kind = "class_name_regex" then c.classNameRegex
  else if c.kind = "function_name_regex" then c.functionNameRegex
  else if c.kind = "directory" then c.directory
  else if c.kind = "decorator_usage" then c.decoratorUsage
  else .error (.unknownCollector c.kind)

end CollectorEntry

mutual

/-- How deep lists and objects are nested in a document. -/
def Document.depth : Document → Nat
  | .list items => Document.depthOfItems items + 1
  | .object entries => Document.depthOfEntries entries + 1
  | _ => 0

def Document.depthOfItems : List Document → Nat
  | [] => 0
  | d :: rest => max d.depth (Document.depthOfItems rest)

def Document.depthOfEntries : List (String × Document) → Nat
  | [] => 0
  | (_, d) :: rest => max d.depth (Document.depthOfEntries rest)

end

/-- How deep entries can be nested in an entry. -/
def CollectorEntry.depth (c : CollectorEntry) : Nat :=
  Document.depthOfEntries c.options.entries

namespace Collector

/-- The collector of an entry in which entries are nested at most `depth` deep. Each list of nested
entries is read as a whole before any of them is built. -/
def buildWithin : (depth : Nat) → CollectorEntry → Except ConfigError Collector
  | 0, c => if c.kind = "bool" then .ok (.bool [] [] []) else return .leaf (← c.leaf)
  | depth + 1, c =>
    if c.kind = "bool" then do
      let must ← (← c.nested "must").mapM (buildWithin depth)
      let anyOf ← (← c.nested "any_of").mapM (buildWithin depth)
      let mustNot ← (← c.nested "must_not").mapM (buildWithin depth)
      return .bool must anyOf mustNot
    else
      return .leaf (← c.leaf)

def build (c : CollectorEntry) : Except ConfigError Collector :=
  buildWithin (c.depth + 1) c

end Collector

end LayerCheck
