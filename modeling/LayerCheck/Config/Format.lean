import LayerCheck.Config.Validation
import LayerCheck.Document.Toml.Basic
import LayerCheck.Document.Yaml.Basic

/-!
Configurations as texts. A text of blanks only is an empty configuration in either notation.
-/

namespace LayerCheck.Config

inductive Format where
  | yaml
  | toml
deriving DecidableEq, Repr

/-- Files with the extension `toml`, in letters of either case, are TOML; all others are YAML. -/
def Format.ofPath (p : Path) : Format :=
  match p.extension? with
  | some e => if e.map Char.toLower = "toml" then .toml else .yaml
  | none => .yaml

def Format.read? (f : Format) (content : String) : Option Document :=
  if isBlank content then some .null
  else
    match f with
    | .yaml => Yaml.read? content
    | .toml => Toml.read? content

/-- Reads and checks the configuration in a document. Relative paths start from `base`. -/
def decode (base : Path) (d : Document) : Except ConfigError Config := do
  match ofDocument? base d with
  | some c =>
    c.validate
    return c
  | none => .error .malformed

/-- Reads and checks the configuration in a text. -/
def parse (content : String) (format : Format) (base : Path) : Except ConfigError Config :=
  match format.read? content with
  | some d => decode base d
  | none => .error .malformed

/-- The directory that the paths in a configuration file start from. -/
def baseOf (file : Path) : Path :=
  match file.parent? with
  | some p => if p.text = "" then ⟨"."⟩ else p
  | none => ⟨"."⟩

end LayerCheck.Config
