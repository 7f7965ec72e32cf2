import LayerCheck.Config.Format
import LayerCheck.Layer
import LayerCheck.NameIndex
import LayerCheck.Rule

/-!
Analyses: the rules of a configuration checked on the elements of its layers and on the dependencies
between them.
-/

namespace LayerCheck

structure Analysis where
  violations : ViolationSet := ∅
  elementsChecked : Nat := 0
  edgesChecked : Nat := 0

namespace Analysis

/-- What the rules find at the elements of layers. -/
def elementViolations (rules : List Rule) (l : Layers) : List Violation :=
  l.owners.entries.flatMap fun (e, layer) => rules.filterMap fun rule => rule.checkElement layer e

/-- What the rules find at a dependency. Both its ends have to belong to a layer. -/
def edgeViolations (rules : List Rule) (l : Layers) (d : Dependency) : List Violation :=
  match l.layerOf? d.source, l.layerOf? d.target with
  | some source, some target => rules.filterMap fun rule => rule.checkEdge source target d
  | _, _ => []

/-- Checks layers and the dependencies of their elements. -/
def check (rules : List Rule) (l : Layers) (edges : List Dependency) : Analysis :=
  { violations :=
      (∅ : ViolationSet).insertMany
        (elementViolations rules l ++ edges.flatMap (edgeViolations rules l))
    elementsChecked := l.owners.size
    edgesChecked := edges.length }

/-- The files whose facts are asked for to find the dependencies of elements. -/
def requests (sources : List Element) : List Path :=
  sources.map (·.file)

/-- What an analysis checks: rules on layers and on the dependencies of their elements. -/
structure Subject where
  rules : List Rule
  layers : Layers
  edges : List Dependency

/-- The rules, layers and dependencies of a configuration on a snapshot of the project. -/
def subject (s : Snapshot) (c : Config) : Except ConfigError Subject := do
  let rules ← Rule.ofRuleset c.ruleset
  let scope ← Scope.make s c.paths c.excludeFiles
  match Layers.assemble scope s {} c.layers with
  | (.error e, _) => .error e
  | (.ok layers, cache) =>
    let cache := cache.load s (requests layers.elements)
    let edges := (NameIndex.ofList layers.elements).edges cache.facts layers.elements
    return { rules, layers, edges }

/-- The analysis of a configuration on a snapshot of the project. -/
def run (s : Snapshot) (c : Config) : Except ConfigError Analysis := do
  let subject ← subject s c
  return check subject.rules subject.layers subject.edges

/-- The configuration in a file. -/
def loadConfig (s : Snapshot) (file : Path) : Except ConfigError Config :=
  match s.read? file with
  | some content => Config.parse content (.ofPath file) (Config.baseOf file)
  | none => .error .unreadable

/-- The analysis of the configuration in a file. -/
def runFile (s : Snapshot) (file : Path) : Except ConfigError Analysis := do
  run s (← loadConfig s file)

end Analysis

end LayerCheck
