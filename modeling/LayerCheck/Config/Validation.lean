import LayerCheck.Config.Basic
import LayerCheck.Pattern.Basic

/-!
The checks on a configuration that do not need the project: names of layers, references to layers, and
patterns. The first problem is told.
-/

namespace LayerCheck.Config

def isBlank (s : String) : Bool :=
  s.toList.all Unicode.isWhiteSpace

/-- Names are neither blank nor among those `seen` before. -/
def checkNames (seen : List String) : List LayerEntry → Except ConfigError Unit
  | [] => .ok ()
  | l :: rest =>
    if isBlank l.name then .error (.invalid .blankLayerName)
    else if seen.contains l.name then .error (.invalid (.duplicateLayer l.name))
    else checkNames (l.name :: seen) rest

def searching (raw : String) : Except ConfigError Pattern :=
  match Pattern.searching? raw with
  | some p => .ok p
  | none => .error (.invalidPattern raw)

def matching (raw : String) : Except ConfigError Pattern :=
  match Pattern.matching? raw with
  | some p => .ok p
  | none => .error (.invalidPattern raw)

/-- The rules of a layer refer to layers that there are. -/
def checkRule (names : List String) (layer : String) (r : RuleEntry) : Except ConfigError Unit := do
  if !names.contains layer then
    .error (.invalid (.undefinedLayer layer))
  match r.disallow.find? fun target => !names.contains target with
  | some target => .error (.invalid (.disallowsUndefined layer target))
  | none => (r.classNaming.toList ++ r.functionNaming.toList).forM fun raw => discard (matching raw)

def validate (c : Config) : Except ConfigError Unit := do
  checkNames [] c.layers
  c.excludeFiles.forM fun raw => discard (searching raw)
  c.ruleset.entries.forM fun (layer, r) => checkRule (c.layers.map (·.name)) layer r

end LayerCheck.Config
