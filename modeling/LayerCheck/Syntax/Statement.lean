import LayerCheck.Syntax.CasePattern

/-!
Reading statements from tokens, and whole modules from text. A block ends at the first line that is
indented less; a line that is indented more than its block belongs to it all the same.
-/

namespace LayerCheck.Syntax

open Reader

/-! ### Texts of the source -/

/-- What a reader reads, together with the tokens it takes. -/
def Reader.withTokens {α : Type} (r : Reader α) : Reader (α × List Token) := do
  let before ← get
  let a ← r
  let after ← get
  return (a, before.take (before.length - after.length))

/-! ### Imports -/

/-- The tokens of a dotted name. -/
def dottedName (fuel : Nat) (mode : Mode) : Reader (List Token) := do
  let (_, tokens) ← withTokens (do
    let _ ← name mode
    let _ ← dottedRest fuel mode)
  return tokens

/-- A name of an import list. -/
def importedName (fuel : Nat) (mode : Mode) : Reader ImportedName := do
  let words ← dottedName fuel mode
  let asName ← if ← skipIf mode (·.isWord "as") then some <$> name mode else pure none
  return { words, asName }

/-- The names of an import list, perhaps with a comma at the end. -/
def importedNames : (fuel : Nat) → Mode → Reader (List ImportedName)
  | 0, _ => unexpected .brackets
  | fuel + 1, mode => do
    let first ← importedName fuel mode
    let some t ← continuing? mode | return [first]
    if t.isSymbol "," then
      skip
      let some t ← continuing? mode | return [first]
      if t.kind = .name then return first :: (← importedNames fuel mode)
      return [first]
    return [first]

/-- An import list, perhaps in parentheses. -/
def importList (fuel : Nat) : Reader (List ImportedName) := do
  if ← skipSymbol? "(" then
    let names ← importedNames fuel .brackets
    symbol .brackets ")"
    return names
  importedNames fuel .line

/-- The dots of a relative import; whether there are any. -/
def importDots : (fuel : Nat) → Reader Bool
  | 0 => return false
  | fuel + 1 => do
    if (← skipSymbol? ".") || (← skipSymbol? "...") then
      let _ ← importDots fuel
      return true
    return false

/-- An import from a module, after the word `from` on `line`. -/
def importFrom (fuel line : Nat) : Reader Stmt := do
  if ← skipWord? "__future__" then
    word .line "import"
    let _ ← importList fuel
    return .simple []
  let relative ← importDots fuel
  let base ← if relative && (← nextIsWord "import") then pure "" else
    sourceText <$> dottedName fuel .line
  word .line "import"
  if ← skipSymbol? "*" then return .importFrom line base []
  return .importFrom line base (← importList fuel)

/-! ### Assignments -/

def augmentedSymbols : List String :=
  ["+=", "-=", "*=", "/=", "@=", "//=", "%=", "**=", ">>=", "<<=", "&=", "^=", "|="]

def targetOf (items : List Expr) : Option Expr :=
  match items with
  | [e] => e.toTarget?
  | items => (Expr.group .tuple items).toTarget?

/-- The steps that follow the expressions read so far, and the values at the end. -/
def assignmentSteps : (fuel : Nat) → List Expr → Reader (List Step × List Expr)
  | 0, _ => unexpected .brackets
  | fuel + 1, items => do
    let some t ← continuing? .line | return ([], items)
    if t.isSymbol "=" then
      let some target := targetOf items | unexpected .line
      skip
      let (steps, values) ← assignmentSteps fuel (← expressionsOrYield fuel { mode := .line })
      return (.assign target none :: steps, values)
    else if t.isSymbol ":" then
      let some target := targetOf items | unexpected .line
      skip
      let hint ← typeExpression fuel .line true
      match ← continuing? .line with
      | some t =>
        if t.isSymbol "=" then
          skip
          let (steps, values) ← assignmentSteps fuel (← expressionsOrYield fuel { mode := .line })
          return (.assign target (some hint) :: steps, values)
        return ([.declare target hint], [])
      | none => return ([.declare target hint], [])
    else if t.kind = .symbol ∧ augmentedSymbols.contains t.text then
      let some target := targetOf items | unexpected .line
      skip
      let (steps, values) ← assignmentSteps fuel (← expressionsOrYield fuel { mode := .line })
      return (.augment target :: steps, values)
    else return ([], items)

/-- The source text of a statement, without a comma at its end. -/
def statementText (tokens : List Token) : String :=
  match tokens.getLast? with
  | some t => sourceText (if t.isSymbol "," then tokens.dropLast else tokens)
  | none => ""

/-- An expression statement or an assignment. -/
def expressionStatement (fuel : Nat) : Reader Stmt := do
  let ((steps, values), tokens) ← withTokens (do
    let items ← expressionsOrYield fuel { mode := .line }
    assignmentSteps fuel items)
  let text := statementText tokens
  return if steps.isEmpty then .expression text values else .assignment text steps values

/-! ### Simple statements -/

/-- Names with commas between them. -/
def declaredNames : (fuel : Nat) → Reader (List Expr)
  | 0 => unexpected .brackets
  | fuel + 1 => do
    let n ← name .line
    if ← skipIf .line (·.isSymbol ",") then return .binding .declared n :: (← declaredNames fuel)
    return [.binding .declared n]

/-- Expressions with commas between them, and none at the end. -/
def assertedExpressions : (fuel : Nat) → Reader (List Expr)
  | 0 => unexpected .brackets
  | fuel + 1 => do
    let e ← expression fuel { mode := .line }
    if ← skipIf .line (·.isSymbol ",") then return e :: (← assertedExpressions fuel)
    return [e]

def optionalExpressions (fuel : Nat) : Reader (List Expr) := do
  match ← continuing? .line with
  | some t => if startsExpression t then expressions fuel { mode := .line } else return []
  | none => return []

/-- Whether the simple statement that was read ends here. -/
def atStatementEnd : Reader Bool := do
  let t ← peek
  return t.indent.isSome || t.isSymbol ";"

/-- A single name before the `=` of a type alias is bound; anything else there is read. -/
def Expr.toTypeAlias : Expr → Expr
  | .name n => .binding .typeAlias n
  | e => e

/-- A type alias, after the word `type`. -/
def typeAlias (fuel : Nat) : Reader Stmt := do
  skip
  let left ← typeExpression fuel .line true
  symbol .line "="
  let right ← typeExpression fuel .line true
  unless ← atStatementEnd do unexpected .line
  return .simple [.group .typeAlias [left.toTypeAlias, right]]

def simpleStatement (fuel : Nat) : Reader Stmt := do
  let t ← peek
  if t.kind ≠ .name then expressionStatement fuel
  else match t.text with
  | "import" =>
    skip
    return .importModules t.line (← importedNames fuel .line)
  | "from" =>
    skip
    importFrom fuel t.line
  | "pass" | "break" | "continue" =>
    skip
    return .simple []
  | "return" =>
    skip
    return .simple (← optionalExpressions fuel)
  | "del" =>
    skip
    return .simple (← expressions fuel { mode := .line })
  | "assert" =>
    skip
    return .simple (← assertedExpressions fuel)
  | "global" | "nonlocal" =>
    skip
    return .simple [.group .declared (← declaredNames fuel)]
  | "raise" =>
    skip
    let values ← optionalExpressions fuel
    if ← skipIf .line (·.isWord "from") then
      return .simple (values ++ [← expression fuel { mode := .line }])
    return .simple values
  | "print" =>
    if (← peekSecond).any (·.isSymbol ">>") then fail t.line
    expressionStatement fuel
  | "type" => tryCatch (typeAlias fuel) fun _ => expressionStatement fuel
  | _ => expressionStatement fuel

/-- Simple statements with semicolons between them, up to the end of the line. -/
def simpleStatements : (fuel : Nat) → Reader (List Stmt)
  | 0 => unexpected .brackets
  | fuel + 1 => do
    let s ← simpleStatement fuel
    if (← peek).indent.isSome then return [s]
    symbol .line ";"
    if (← peek).indent.isSome then return [s]
    return s :: (← simpleStatements fuel)

/-! ### Definitions -/

/-- The types in the square brackets of a definition, if there are any. -/
def typeParameters (fuel : Nat) : Reader (List Expr) := do
  if ← skipSymbol? "[" then
    return (← typeArguments fuel).map fun e => .group .typeParameter [e]
  return []

/-- The head of a class definition, after the word `class`. -/
def classHead (fuel : Nat) (position : Position) (decorators : List Expr) : Reader Head := do
  let name ← name .head
  let typeParameters ← typeParameters fuel
  let arguments ← if ← skipSymbol? "(" then arguments fuel else pure []
  return { kind := .cls, name, position, decorators, typeParameters, arguments, result := [] }

/-- The head of a function definition, after the word `def`. -/
def functionHead (fuel : Nat) (position : Position) (decorators : List Expr) : Reader Head := do
  let name ← name .head
  let typeParameters ← typeParameters fuel
  symbol .head "("
  let arguments ← parameters fuel .brackets true ")"
  symbol .brackets ")"
  let result ← if ← skipSymbol? "->" then pure [← typeExpression fuel .head false] else pure []
  return { kind := .function, name, position, decorators, typeParameters, arguments, result }

/-- The decorators before a definition, each on a line of its own. -/
def decorators : (fuel : Nat) → Reader (List Expr)
  | 0 => unexpected .brackets
  | fuel + 1 => do
    if ← skipSymbol? "@" then
      let e ← expression fuel { mode := .line }
      unless (← peek).indent.isSome do unexpected .line
      return e :: (← decorators fuel)
    return []

/-! ### Statements with blocks -/

/-- Whether a further clause of the statement may start at this token: its line is not indented
less than the statement's block. -/
def clauseStarts (indent : Nat) (word : String) : Reader Bool := do
  let t ← peek
  return t.isWord word && t.indent.all (· ≥ indent)

/-- The subjects of a match statement, up to its colon at the end of a line. -/
def matchSubjects (fuel : Nat) : Reader (List Expr) := do
  skip
  let subjects ← expressions fuel { mode := .line }
  symbol .line ":"
  unless (← peek).indent.isSome do unexpected .line
  return subjects

mutual

/-- The statements of a block whose lines are indented by `indent`. -/
def block : (fuel : Nat) → (indent : Nat) → Reader (List Stmt)
  | 0, _ => unexpected .brackets
  | fuel + 1, indent => do
    let t ← peek
    if t.isEnd ∨ t.indent.any (· < indent) then return []
    let s ← statement fuel indent
    return s ++ (← block fuel indent)
termination_by structural fuel => fuel

/-- What follows the colon of a head: statements on the same line, or a block that is indented more
than `indent`. The block may be missing. -/
def suite : (fuel : Nat) → (indent : Nat) → Reader (List Stmt)
  | 0, _ => unexpected .brackets
  | fuel + 1, indent => do
    symbol .head ":"
    let t ← peek
    match t.indent with
    | none => simpleStatements fuel
    | some k => if k > indent then block fuel k else return []
termination_by structural fuel => fuel

/-- A statement; each of its clauses gives a block. -/
def statement : (fuel : Nat) → (indent : Nat) → Reader (List Stmt)
  | 0, _ => unexpected .brackets
  | fuel + 1, indent => do
    let t ← peek
    let head : Context := { mode := .head }
    match t.kind with
    | .name =>
      match t.text with
      | "if" =>
        skip
        let condition ← expression fuel head
        let body ← suite fuel indent
        return .block .ifBranch [condition] body :: (← elseClauses fuel indent)
      | "while" =>
        skip
        let condition ← expression fuel head
        let body ← suite fuel indent
        return .block .whileLoop [condition] body :: (← elseClause fuel indent)
      | "for" => forStatement fuel indent
      | "with" => withStatement fuel indent
      | "try" =>
        skip
        let body ← suite fuel indent
        let handlers ← exceptClauses fuel indent
        let others ← if handlers.isEmpty then pure [] else elseClause fuel indent
        let last ← if ← clauseStarts indent "finally" then do
            skip
            pure [Stmt.block .finallyBody [] (← suite fuel indent)]
          else if handlers.isEmpty then misplaced
          else pure []
        return .block .tryBody [] body :: handlers ++ others ++ last
      | "def" | "class" => definition fuel indent []
      | "async" =>
        let some second ← peekSecond | unexpected .line
        if second.isWord "def" then definition fuel indent []
        else if second.isWord "for" then
          skip
          forStatement fuel indent
        else if second.isWord "with" then
          skip
          withStatement fuel indent
        else simpleStatements fuel
      | "match" =>
        let subjects? ← tryCatch (some <$> matchSubjects fuel) fun _ => pure none
        match subjects? with
        | none => simpleStatements fuel
        | some subjects =>
          match (← peek).indent with
          | some k => if k > indent then
              return .block .matchSubject subjects [] :: (← caseClauses fuel k)
          | none => pure ()
          return [.block .matchSubject subjects []]
      | _ => simpleStatements fuel
    | .symbol =>
      if t.text == "@" then
        let ds ← decorators fuel
        definition fuel indent ds
      else if startsExpression t then simpleStatements fuel
      else fail t.line
    | .number | .string => simpleStatements fuel
    | .invalid | .endOfText => fail t.line
termination_by structural fuel => fuel

def forStatement : (fuel : Nat) → (indent : Nat) → Reader (List Stmt)
  | 0, _ => unexpected .brackets
  | fuel + 1, indent => do
    skip
    let targets ← targetList fuel .head
    word .head "in"
    let values ← expressions fuel { mode := .head }
    let body ← suite fuel indent
    return .block .forLoop (.group .targets targets :: values) body :: (← elseClause fuel indent)
termination_by structural fuel => fuel

def withStatement : (fuel : Nat) → (indent : Nat) → Reader (List Stmt)
  | 0, _ => unexpected .brackets
  | fuel + 1, indent => do
    skip
    let items ← expressions fuel { mode := .head }
    let body ← suite fuel indent
    return [.block .withBody items body]
termination_by structural fuel => fuel

def definition : (fuel : Nat) → (indent : Nat) → List Expr → Reader (List Stmt)
  | 0, _, _ => unexpected .brackets
  | fuel + 1, indent, decorators => do
    let t ← peek
    let head ← if ← skipWord? "class" then classHead fuel t.position decorators
      else do
        let _ ← skipWord? "async"
        unless ← skipWord? "def" do misplaced
        functionHead fuel t.position decorators
    return [.definition head (← suite fuel indent)]
termination_by structural fuel => fuel

/-- The `elif` and `else` clauses of a conditional statement. -/
def elseClauses : (fuel : Nat) → (indent : Nat) → Reader (List Stmt)
  | 0, _ => unexpected .brackets
  | fuel + 1, indent => do
    if ← clauseStarts indent "elif" then
      skip
      let condition ← expression fuel { mode := .head }
      let body ← suite fuel indent
      return .block .elifBranch [condition] body :: (← elseClauses fuel indent)
    elseClause fuel indent
termination_by structural fuel => fuel

def elseClause : (fuel : Nat) → (indent : Nat) → Reader (List Stmt)
  | 0, _ => unexpected .brackets
  | fuel + 1, indent => do
    if ← clauseStarts indent "else" then
      skip
      return [.block .elseBranch [] (← suite fuel indent)]
    return []
termination_by structural fuel => fuel

def exceptClauses : (fuel : Nat) → (indent : Nat) → Reader (List Stmt)
  | 0, _ => unexpected .brackets
  | fuel + 1, indent => do
    if ← clauseStarts indent "except" then
      skip
      let group ← skipSymbol? "*"
      let head ← if !group && (← nextIsSymbol ":") then pure [] else do
        let e ← expression fuel { mode := .head }
        if ← skipSymbol? "," then pure [e, ← expression fuel { mode := .head }] else pure [e]
      let body ← suite fuel indent
      let clause := if group then Clause.exceptGroupHandler else .exceptHandler
      return .block clause head body :: (← exceptClauses fuel indent)
    return []
termination_by structural fuel => fuel

/-- The clauses of a match statement. -/
def caseClauses : (fuel : Nat) → (indent : Nat) → Reader (List Stmt)
  | 0, _ => unexpected .brackets
  | fuel + 1, indent => do
    let t ← peek
    if t.isEnd ∨ t.indent.any (· < indent) then return []
    unless t.isWord "case" do fail t.line
    skip
    let patterns ← clausePatterns fuel
    let guard ← if ← skipWord? "if" then pure [← expression fuel { mode := .head }] else pure []
    let body ← suite fuel indent
    return .block .caseBranch (.group .patterns patterns :: guard) body :: (← caseClauses fuel indent)
termination_by structural fuel => fuel
end

/-- How long the tokens are together, without the blank text between them. -/
def textLength : List Token → Nat
  | [] => 0
  | t :: rest => t.text.length + textLength rest

/-- The tree of a source text. A fault behind a bracket that is never closed is blamed on the
bracket, and one behind a line that breaks off on that line. -/
def parse (source : String) : Except SyntaxError Module :=
  let tokens := scan source
  match (block (30 * (textLength tokens + 2)) 0).run tokens with
  | .ok (body, _) => .ok body
  | .error e =>
    let earlier := (unclosed? tokens).toList ++ (broken? tokens).toList
    .error ⟨earlier.foldl min e.line⟩

end LayerCheck.Syntax
