import LayerCheck.OrderedSet
import LayerCheck.Segments
import LayerCheck.Syntax.Tree

/-!
The imports of a module and the names they bind.
-/

namespace LayerCheck

open Syntax (Expr Stmt Module ImportedName)

inductive ImportKind where
  | plain
  | «from»
deriving DecidableEq, Repr

/-- One imported name. `module` is its dotted name as written, behind the module it is imported
from; the dots of a relative import do not count. -/
structure ImportRecord where
  kind : ImportKind
  module : String
  line : Nat
  asName : Option String
deriving DecidableEq, Repr

namespace ImportRecord

/-- The name that the import binds: its alias, the whole name of a module, or the last part of an
imported name. -/
def boundName (r : ImportRecord) : String :=
  match r.asName, r.kind with
  | some a, _ => a
  | none, .plain => r.module
  | none, .from => Segments.last '.' r.module

def ofModule (line : Nat) (n : ImportedName) : ImportRecord :=
  { kind := .plain, module := n.text, line, asName := n.asName.map (·.text) }

def ofMember (line : Nat) (base : String) (n : ImportedName) : ImportRecord :=
  { kind := .from
    module := if base.isEmpty then n.text else base ++ "." ++ n.text
    line
    asName := n.asName.map (·.text) }

end ImportRecord

namespace Syntax

mutual

def Stmt.imports : Stmt → List ImportRecord
  | .importModules line names => names.map (.ofModule line)
  | .importFrom line base names => names.map (.ofMember line base)
  | .definition _ body => importsOf body
  | .block _ _ body => importsOf body
  | .expression _ _ | .assignment _ _ _ | .simple _ => []

def importsOf : List Stmt → List ImportRecord
  | [] => []
  | s :: rest => s.imports ++ importsOf rest

end

/-- The imports of a module, in the order of the text. -/
def Module.imports (m : Module) : List ImportRecord :=
  importsOf m

end Syntax

/-- What the names bound by imports stand for. -/
abbrev Aliases := OrderedMap String String

/-- A later import of a name replaces an earlier one. -/
def Aliases.ofImports (records : List ImportRecord) : Aliases :=
  OrderedMap.ofList (records.map fun r => (r.boundName, r.module))

def Syntax.Module.aliases (m : Module) : Aliases :=
  .ofImports m.imports

/-! ### Dotted names -/

/-- The text of a name or of a chain of attributes on a name; empty for anything else. -/
def Syntax.Expr.dotted : Expr → String
  | .name n => n.text
  | .attribute value member =>
    let head := value.dotted
    if head.isEmpty then "" else head ++ "." ++ member.text
  | _ => ""

/-- The same with the name at its head resolved through the imports. -/
def Syntax.Expr.resolved (aliases : Aliases) : Expr → String
  | .name n => (aliases.get? n.text).getD n.text
  | .attribute value member =>
    let head := value.resolved aliases
    if head.isEmpty then "" else head ++ "." ++ member.text
  | _ => ""

/-- The top-level statements that are one expression, with their text. For an assignment or an
annotation there is no expression. -/
def Syntax.Module.topExpressions (m : Module) : List (String × Option Expr) :=
  m.filterMap fun
    | .expression text [e] => some (text, some e)
    | .assignment text _ _ => some (text, none)
    | _ => none

end LayerCheck
