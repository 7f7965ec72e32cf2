import LayerCheck.Document.Described
import LayerCheck.Path

/-!
What may be wrong with a configuration, and how it is told.
-/

namespace LayerCheck

/-- Why an item of a list is no collector entry. -/
inductive EntryFault where
  | notObject (item : Document)
  | typeMissing
  | typeNotText (value : Document)
deriving Repr

def EntryFault.message : EntryFault → String
  | notObject item => "invalid type: " ++ item.describe ++ ", expected struct CollectorConfig"
  | typeMissing => "missing field \x60type\x60"
  | typeNotText value => "invalid type: " ++ value.describe ++ ", expected a string"

/-- Why a collector cannot use the value of an option. -/
inductive OptionFault where
  | notText
  | notBool
  | notTexts
  | notEntries
  | badEntry (fault : EntryFault)
  | notElementKind (text : String)
deriving Repr

def OptionFault.message : OptionFault → String
  | notText => "expected a string"
  | notBool => "expected true or false"
  | notTexts => "expected a list of strings"
  | notEntries => "expected a list of collectors"
  | badEntry fault => fault.message
  | notElementKind text => "\x60" ++ text ++ "\x60 is not one of class, function, variable"

/-- What is wrong with a configuration that is well formed. -/
inductive ConfigFault where
  | blankLayerName
  | duplicateLayer (name : String)
  | undefinedLayer (name : String)
  | disallowsUndefined (layer target : String)
deriving DecidableEq, Repr

def ConfigFault.message : ConfigFault → String
  | blankLayerName => "layer with empty name"
  | duplicateLayer name => "duplicate layer name \x60" ++ name ++ "\x60"
  | undefinedLayer name => "ruleset refers to undefined layer \x60" ++ name ++ "\x60"
  | disallowsUndefined layer target =>
    "layer \x60" ++ layer ++ "\x60 disallows undefined layer \x60" ++ target ++ "\x60"

inductive ConfigError where
  /-- The file cannot be read as text. -/
  | unreadable
  /-- The text is no document, or the document no configuration. -/
  | malformed
  | notFound (directory : Path)
  | unknownCollector (kind : String)
  | missingOption (collector key : String)
  | invalidOption (collector key : String) (fault : OptionFault)
  | invalidPattern (raw : String)
  | invalid (fault : ConfigFault)
deriving Repr

namespace ConfigError

/-- The text of an error. What the file system or a notation has to say is left out, and of a pattern
only its text is told. -/
def message? : ConfigError → Option String
  | unreadable | malformed => none
  | notFound directory => some ("no configuration file found in " ++ directory.text)
  | unknownCollector kind => some ("unknown collector type \x60" ++ kind ++ "\x60")
  | missingOption collector key =>
    some ("collector \x60" ++ collector ++ "\x60 requires \x60" ++ key ++ "\x60")
  | invalidOption collector key fault =>
    some ("collector \x60" ++ collector ++ "\x60: invalid \x60" ++ key ++ "\x60: " ++ fault.message)
  | invalidPattern raw => some raw
  | invalid fault => some ("config validation: " ++ fault.message)

/-- The code that the command line shows with an error. -/
def code : ConfigError → String
  | unreadable => "deply::config::io"
  | malformed => "deply::config::parse"
  | notFound _ => "deply::config::not_found"
  | unknownCollector _ => "deply::config::unknown_collector"
  | missingOption .. => "deply::config::missing_field"
  | invalidOption .. => "deply::config::invalid_field"
  | invalidPattern _ => "deply::config::invalid_regex"
  | invalid _ => "deply::config::validation"

end ConfigError

end LayerCheck
