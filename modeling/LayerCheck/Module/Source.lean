import LayerCheck.Module.Definitions
import LayerCheck.Module.References
import LayerCheck.Syntax.Statement

/-!
From the contents of a file to the facts of a module.
-/

namespace LayerCheck

inductive SourceError where
  /-- The file cannot be read. -/
  | unreadable
  /-- The file is no UTF-8 text. -/
  | encoding (path : Path)
  | malformed (path : Path) (line : Nat)
deriving DecidableEq, Repr

def SourceError.message : SourceError → String
  | unreadable => ""
  | encoding path => s!"{path.text} is not valid UTF-8"
  | malformed path line => s!"syntax error in {path.text} at line {line}"

/-- The tree of a source text that was found at `path`. -/
def parseSource (path : Path) (source : String) : Except SourceError Syntax.Module :=
  match Syntax.parse source with
  | .ok m => .ok m
  | .error e => .error (.malformed path e.line)

def Facts.ofModule (m : Syntax.Module) : Facts :=
  { definitions := m.definitions, references := m.references }

end LayerCheck
