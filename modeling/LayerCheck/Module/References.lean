import LayerCheck.Module.Facts
import LayerCheck.Syntax.Tree

/-!
The references of a module, in the order of the text: a construct comes before its parts.
-/

namespace LayerCheck.Syntax

/-- The name by which a plain import can be referred to: its alias, or the text before the first
dot. -/
def ImportedName.moduleProbe (n : ImportedName) : String :=
  match n.asName with
  | some a => a.text
  | none => Segments.first '.' n.text

def ImportedName.memberProbe (n : ImportedName) : String :=
  match n.asName with
  | some a => a.text
  | none => n.text

/-- The references that an expression makes itself, without its parts. -/
def Expr.ownReferences : Expr → List Reference
  | .name n => [⟨.name, n.text, n.line⟩]
  | .attribute (.name head) member => [⟨.attribute, head.text ++ "." ++ member.text, head.line⟩]
  | .call (.name callee) _ => [⟨.call, callee.text, callee.line⟩]
  | _ => []

mutual

def Expr.references : Expr → List Reference
  | .name n => Expr.ownReferences (.name n)
  | .attribute value member =>
    Expr.ownReferences (.attribute value member) ++ value.references
  | .call callee arguments =>
    Expr.ownReferences (.call callee arguments) ++ callee.references ++ referencesOf arguments
  | .binding _ _ => []
  | .group _ parts => referencesOf parts

def referencesOf : List Expr → List Reference
  | [] => []
  | e :: rest => e.references ++ referencesOf rest

end

def Step.references : Step → List Reference
  | .assign target hint => target.references ++ referencesOf hint.toList
  | .augment target => target.references
  | .declare target hint => target.references ++ hint.references

def Head.references (h : Head) : List Reference :=
  referencesOf h.decorators ++ referencesOf h.typeParameters ++ referencesOf h.arguments ++
    referencesOf h.result

mutual

def Stmt.references : Stmt → List Reference
  | .expression _ items => referencesOf items
  | .assignment _ steps values => steps.flatMap Step.references ++ referencesOf values
  | .importModules line names => names.map fun n => ⟨.plainImport, n.moduleProbe, line⟩
  | .importFrom line _ names => names.map fun n => ⟨.fromImport, n.memberProbe, line⟩
  | .simple parts => referencesOf parts
  | .definition head body => head.references ++ statementReferences body
  | .block _ head body => referencesOf head ++ statementReferences body

def statementReferences : List Stmt → List Reference
  | [] => []
  | s :: rest => s.references ++ statementReferences rest

end

def Module.references (m : Module) : List Reference :=
  statementReferences m

end LayerCheck.Syntax
