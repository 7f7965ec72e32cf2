import LayerCheck.Syntax.Token

/-!
The syntax tree of a Python module, as far as names are concerned: which names are read, which are
bound and why, and how definitions, imports and blocks contain each other. All lists stand in the
order of the text.
-/

namespace LayerCheck.Syntax

/-- An identifier at its place. -/
structure Name where
  text : String
  position : Position
  isIdentifier : isIdentifier text = true
deriving DecidableEq, Repr

def Name.line (n : Name) : Nat :=
  n.position.line

/-- Why a name that stands among expressions is not read there. -/
inductive Role where
  | parameter
  | keyword
  | target
  | aliasName
  | capture
  | declared
  | typeAlias
deriving DecidableEq, Repr

/-- How the parts of an expression are held together. -/
inductive Shape where
  /-- One expression in parentheses, or the items of a tuple. -/
  | tuple
  /-- Square brackets around the items of a list. -/
  | list
  /-- A star before one expression. -/
  | star
  /-- A subscript: the value and then its indices. -/
  | subscript
  /-- Any construct that only reads its parts. -/
  | compound
  /-- Targets of a loop, or the names of a parameter in parentheses. -/
  | targets
  /-- A name, `:=` and its value. -/
  | walrus
  /-- An expression and what stands after its `as`. -/
  | aliased
  /-- The name of an argument and its value. -/
  | keyword
  /-- A parameter, its annotation and its default. -/
  | parameter
  /-- Patterns of a `case` clause, in which a single name captures. -/
  | patterns
  /-- A pattern and the name after its `as`. -/
  | aliasedPattern
  /-- Patterns with a bar between them. -/
  | alternatives
  /-- The names of a pattern with dots between them. -/
  | dotted
  /-- The names of a `global` or `nonlocal` statement. -/
  | declared
  /-- The two sides of a `type` statement. -/
  | typeAlias
  /-- A parameter in the square brackets of a definition. -/
  | typeParameter
  /-- A name and the types in square brackets behind it, where a type is expected. -/
  | generic
  /-- A type, a dot and a name. -/
  | typeMember
  /-- A type, a colon and its bound. -/
  | bounded
deriving DecidableEq, Repr

inductive Expr where
  | name (n : Name)
  | attribute (value : Expr) (member : Name)
  | call (callee : Expr) (arguments : List Expr)
  | binding (role : Role) (n : Name)
  | group (shape : Shape) (parts : List Expr)
deriving Repr

namespace Expr

/-- An expression that reads nothing, such as a number. -/
def constant : Expr :=
  group .compound []

/-- Parts held together by an operator; a single part stands for itself. -/
def compound : List Expr → Expr
  | [e] => e
  | parts => group .compound parts

end Expr

/-- One step of an assignment, up to its `=` or operator. -/
inductive Step where
  | assign (target : Expr) (hint : Option Expr)
  | augment (target : Expr)
  /-- An annotation without a value. -/
  | declare (target : Expr) (hint : Expr)
deriving Repr

/-- A name of an import list: the tokens of the dotted name, and the name after `as`. -/
structure ImportedName where
  words : List Token
  asName : Option Name
deriving Repr

/-- The dotted name as written. -/
def ImportedName.text (n : ImportedName) : String :=
  sourceText n.words

inductive DefinitionKind where
  | cls
  | function
deriving DecidableEq, Repr

/-- Everything of a class or function definition but its body. `position` is that of the word that
starts the definition, after its decorators. `arguments` are the arguments of a class or the
parameters of a function, `result` the annotation of what a function returns. -/
structure Head where
  kind : DefinitionKind
  name : Name
  position : Position
  decorators : List Expr
  typeParameters : List Expr
  arguments : List Expr
  result : List Expr
deriving Repr

/-- What a block belongs to. -/
inductive Clause where
  /-- Statements on their own, such as those of a module. -/
  | suite
  | ifBranch
  | elifBranch
  | elseBranch
  | forLoop
  | whileLoop
  | withBody
  | tryBody
  | exceptHandler
  | exceptGroupHandler
  | finallyBody
  | matchSubject
  | caseBranch
deriving DecidableEq, Repr

inductive Stmt where
  /-- Expressions with commas between them; `text` is the source text of the statement. -/
  | expression (text : String) (items : List Expr)
  | assignment (text : String) (steps : List Step) (values : List Expr)
  | importModules (line : Nat) (names : List ImportedName)
  /-- Names imported from the module `base`, which is empty for a relative import without a name. -/
  | importFrom (line : Nat) (base : String) (names : List ImportedName)
  /-- Any other statement without a block. -/
  | simple (parts : List Expr)
  | definition (head : Head) (body : List Stmt)
  /-- A block under the expressions that stand before it. A statement with several clauses is as
  many blocks, one after the other. -/
  | block (clause : Clause) (head : List Expr) (body : List Stmt)
deriving Repr

abbrev Module := List Stmt

end LayerCheck.Syntax
