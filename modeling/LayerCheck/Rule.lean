import LayerCheck.Config.Validation
import LayerCheck.Violation

/-!
Rules on layers: which layers a layer must not depend on, and how its classes and functions are named.
-/

namespace LayerCheck

inductive Rule where
  | layerDependency (layer : String) (disallowed : OrderedSet String)
  | classNaming (layer : String) (regex : Pattern)
  | functionNaming (layer : String) (regex : Pattern)

namespace Rule

def name : Rule → String
  | layerDependency .. => "layer-dependency"
  | classNaming .. => "class-naming"
  | functionNaming .. => "function-naming"

def description : Rule → String
  | layerDependency layer disallowed =>
    s!"layer '{layer}' must not depend on: " ++ ", ".intercalate disallowed.toList
  | classNaming layer regex => s!"classes in layer '{layer}' match '{regex.raw}'"
  | functionNaming layer regex => s!"functions in layer '{layer}' match '{regex.raw}'"

/-- The rules of one layer. -/
def ofEntry (layer : String) (r : RuleEntry) : Except ConfigError (List Rule) := do
  let dependency :=
    if r.disallow.isEmpty then [] else [layerDependency layer (.ofList r.disallow)]
  let classes ← r.classNaming.toList.mapM Config.matching
  let functions ← r.functionNaming.toList.mapM Config.matching
  return dependency ++ classes.map (classNaming layer) ++ functions.map (functionNaming layer)

/-- The rules of all layers, in the order of their names. -/
def ofRuleset (ruleset : OrderedMap String RuleEntry) : Except ConfigError (List Rule) := do
  return (← ruleset.entries.mapM fun (layer, r) => ofEntry layer r).flatten

/-! ### Checks -/

def dependencyMessage (source target : String) (d : Dependency) : String :=
  s!"Layer '{source}' is not allowed to depend on layer '{target}' " ++
    s!"({d.source.name} -> {d.target.name})"

/-- Checks a dependency between elements of two layers. Within a layer nothing is forbidden. -/
def checkEdge (rule : Rule) (source target : String) (d : Dependency) : Option Violation :=
  match rule with
  | layerDependency layer disallowed =>
    if source = layer ∧ source ≠ target ∧ disallowed.contains target then
      some (.atEdge d .layerDependency (dependencyMessage source target d))
    else none
  | _ => none

def namingMessage (what layer : String) (regex : Pattern) (e : Element) : String :=
  s!"{what} '{e.name}' in layer '{layer}' does not match naming pattern '{regex.raw}'"

/-- Checks an element of a layer. Its short name has to match. -/
def checkElement (rule : Rule) (layer : String) (e : Element) : Option Violation :=
  match rule with
  | layerDependency .. => none
  | classNaming own regex =>
    if layer = own ∧ e.kind = .cls ∧ !regex.isMatch e.shortName then
      some (.atElement e .classNaming (namingMessage "Class" layer regex e))
    else none
  | functionNaming own regex =>
    if layer = own ∧ e.kind = .func ∧ !regex.isMatch e.shortName then
      some (.atElement e .functionNaming (namingMessage "Function" layer regex e))
    else none

end Rule

end LayerCheck
