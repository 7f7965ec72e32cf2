import LayerCheck.Module.Facts
import LayerCheck.Module.Imports

/-!
The definitions of a module: first its classes and functions, then its variables, each in the order
of the text.
-/

namespace LayerCheck.Syntax

def DefinitionKind.elementKind : DefinitionKind → ElementKind
  | .cls => .cls
  | .function => .func

/-- The name of a decorator: a name, the last part of an attribute, or that of what is called. -/
def Expr.decoratorName? : Expr → Option String
  | .name n => some n.text
  | .attribute _ member => some member.text
  | .call callee _ => callee.decoratorName?
  | _ => none

/-- The bases among the arguments of a class: names and attribute chains on a name. -/
def basesOf (aliases : Aliases) (arguments : List Expr) : List String :=
  (arguments.map (·.resolved aliases)).filter fun base => !base.isEmpty

/-- A name behind the name of the definition it stands in. -/
def qualify (outer : Option String) (name : String) : String :=
  match outer with
  | none => name
  | some outer => outer ++ "." ++ name

def Head.definition (aliases : Aliases) (outer : Option String) (h : Head) : Definition :=
  { kind := h.kind.elementKind
    name := h.name.text
    qualifiedName := qualify outer h.name.text
    line := h.position.line
    column := h.position.column
    bases := match h.kind with
      | .cls => basesOf aliases h.arguments
      | .function => []
    decorators := h.decorators.filterMap Expr.decoratorName? }

mutual

def Stmt.definitions (aliases : Aliases) (outer : Option String) : Stmt → List Definition
  | .definition head body =>
    let d := head.definition aliases outer
    d :: definitionsOf aliases (some d.qualifiedName) body
  | .block _ _ body => definitionsOf aliases outer body
  | .expression _ _ | .assignment _ _ _ | .importModules _ _ | .importFrom _ _ _ | .simple _ => []

def definitionsOf (aliases : Aliases) (outer : Option String) : List Stmt → List Definition
  | [] => []
  | s :: rest => s.definitions aliases outer ++ definitionsOf aliases outer rest

end

/-! ### Variables -/

mutual

/-- The names that an assignment to the target binds. -/
def Expr.boundNames : Expr → List Name
  | .binding _ n => [n]
  | .group .tuple items => boundNamesOf items
  | .group .list items => boundNamesOf items
  | .group .star items => boundNamesOf items
  | .group _ _ | .name _ | .attribute _ _ | .call _ _ => []

def boundNamesOf : List Expr → List Name
  | [] => []
  | e :: rest => e.boundNames ++ boundNamesOf rest

end

/-- The names bound by a chain of assignments. An operator ends the chain, and an annotation alone
binds nothing. -/
def Step.boundNames : List Step → List Name
  | .assign target _ :: rest => target.boundNames ++ Step.boundNames rest
  | .augment _ :: _ | .declare _ _ :: _ | [] => []

def Name.variableDefinition (n : Name) : Definition :=
  { kind := .var
    name := n.text
    qualifiedName := n.text
    line := n.position.line
    column := n.position.column }

/-- The clauses whose blocks belong to the scope around them. -/
def scopeClauses : List Clause :=
  [.suite, .ifBranch, .elifBranch, .elseBranch, .tryBody, .exceptHandler, .exceptGroupHandler,
   .finallyBody, .withBody, .forLoop, .whileLoop, .matchSubject, .caseBranch]

mutual

/-- The names bound by assignments in the scope of the module, not in that of a class or function. -/
def Stmt.boundNames : Stmt → List Name
  | .assignment _ steps _ => Step.boundNames steps
  | .block clause _ body => if scopeClauses.contains clause then statementBoundNames body else []
  | .expression _ _ | .definition _ _ | .importModules _ _ | .importFrom _ _ _ | .simple _ => []

def statementBoundNames : List Stmt → List Name
  | [] => []
  | s :: rest => s.boundNames ++ statementBoundNames rest

end

def Module.definitions (m : Module) : List Definition :=
  definitionsOf m.aliases none m ++ (statementBoundNames m).map Name.variableDefinition

end LayerCheck.Syntax
