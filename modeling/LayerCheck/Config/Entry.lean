import LayerCheck.Config.Error

/-!
The entries of a configuration: collectors with their options, layers, and the rules of a layer.
-/

namespace LayerCheck

/-- A collector as it is configured: its type and all other keys. -/
structure CollectorEntry where
  kind : String
  options : OrderedMap String Document

namespace CollectorEntry

def typeKey : String := "type"

def ofDocument (d : Document) : Except EntryFault CollectorEntry :=
  match d with
  | .object entries =>
    match entries.lookup typeKey with
    | some (.text kind) => .ok ⟨kind, .ofList (entries.filter fun e => e.1 != typeKey)⟩
    | some value => .error (.typeNotText value)
    | none => .error .typeMissing
  | item => .error (.notObject item)

def toDocument (c : CollectorEntry) : Document :=
  .ofEntries ((typeKey, .text c.kind) :: c.options.entries)

/-! ### Options

An option that is null counts as absent.
-/

def missing (c : CollectorEntry) (key : String) : ConfigError :=
  .missingOption c.kind key

def wrong (c : CollectorEntry) (key : String) (fault : OptionFault) : ConfigError :=
  .invalidOption c.kind key fault

def text? (c : CollectorEntry) (key : String) : Except ConfigError (Option String) :=
  match c.options.get? key with
  | none | some .null => .ok none
  | some (.text s) => .ok (some s)
  | some _ => .error (c.wrong key .notText)

/-- A text that has to be there and not to be empty. -/
def text (c : CollectorEntry) (key : String) : Except ConfigError String := do
  match ← c.text? key with
  | some s => if s = "" then .error (c.missing key) else .ok s
  | none => .error (c.missing key)

def bool (c : CollectorEntry) (key : String) (default : Bool) : Except ConfigError Bool :=
  match c.options.get? key with
  | none | some .null => .ok default
  | some (.bool b) => .ok b
  | some _ => .error (c.wrong key .notBool)

/-- The texts of a list that holds nothing else. -/
def textItems? (items : List Document) : Option (List String) :=
  items.mapM fun item =>
    match item with
    | .text s => some s
    | _ => none

/-- A list of texts. One text alone is a list of one. -/
def texts (c : CollectorEntry) (key : String) : Except ConfigError (List String) :=
  match c.options.get? key with
  | none | some .null => .ok []
  | some (.text s) => .ok [s]
  | some (.list items) =>
    match textItems? items with
    | some texts => .ok texts
    | none => .error (c.wrong key .notTexts)
  | some _ => .error (c.wrong key .notTexts)

/-- A list of collector entries. The first item that is none is told. -/
def nested (c : CollectorEntry) (key : String) : Except ConfigError (List CollectorEntry) :=
  match c.options.get? key with
  | none | some .null => .ok []
  | some (.list items) =>
    (items.mapM ofDocument).mapError fun fault => c.wrong key (.badEntry fault)
  | some _ => .error (c.wrong key .notEntries)

end CollectorEntry

/-- A layer and the collectors that fill it. -/
structure LayerEntry where
  name : String
  collectors : List CollectorEntry

/-- The rules of one layer. The patterns are for the names of its classes and functions. -/
structure RuleEntry where
  disallow : List String := []
  classNaming : Option String := none
  functionNaming : Option String := none
deriving DecidableEq, Repr, Inhabited

end LayerCheck
