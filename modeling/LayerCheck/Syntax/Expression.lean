import LayerCheck.Syntax.Tree

/-!
Reading expressions from tokens. Words are keywords only where the keyword can stand, and line ends
count only where a statement on one line could end.
-/

namespace LayerCheck.Syntax

/-- The source is no Python module; the first fault is on this line. -/
structure SyntaxError where
  line : Nat
deriving DecidableEq, Repr

/-- A reader of tokens. The list it works on ends with the token for the end of the text. -/
abbrev Reader (α : Type) := StateT (List Token) (Except SyntaxError) α

/-- What a line end means: the end of a simple statement, nothing in the head of a statement with a
block, or nothing inside brackets. -/
inductive Mode where
  | line
  | head
  | brackets
deriving DecidableEq, Repr

/-- Where an expression stands. Without `ternary` the word `if` is left for a comprehension. -/
structure Context where
  mode : Mode
  ternary : Bool := true
deriving DecidableEq, Repr

def Context.inBrackets : Context := { mode := .brackets }

namespace Reader

def fail {α : Type} (line : Nat) : Reader α :=
  throw ⟨line⟩

def peek : Reader Token := do
  match ← get with
  | t :: _ => pure t
  | [] => fail 1

def peekSecond : Reader (Option Token) := do
  return (← get)[1]?

/-- The first token is read; the token for the end of the text stays. -/
def skip : Reader Unit :=
  modify fun tokens =>
    match tokens with
    | _ :: t :: rest => t :: rest
    | tokens => tokens

/-- Fails at the next token. Outside brackets a token that starts a line is not to blame, but the
end of the line before it. -/
def unexpected {α : Type} (mode : Mode) : Reader α := do
  let t ← peek
  if t.isEnd ∨ (t.indent.isSome ∧ mode ≠ .brackets) then fail t.lineBefore else fail t.line

/-- Fails at the next token, where a line may well end but this token cannot stand. -/
def misplaced {α : Type} : Reader α :=
  unexpected .brackets

def nextIsSymbol (text : String) : Reader Bool :=
  return (← peek).isSymbol text

def nextIsWord (text : String) : Reader Bool :=
  return (← peek).isWord text

def skipSymbol? (text : String) : Reader Bool := do
  if ← nextIsSymbol text then
    skip
    return true
  return false

def skipWord? (text : String) : Reader Bool := do
  if ← nextIsWord text then
    skip
    return true
  return false

def symbol (mode : Mode) (text : String) : Reader Unit := do
  unless ← skipSymbol? text do unexpected mode

def word (mode : Mode) (text : String) : Reader Unit := do
  unless ← skipWord? text do unexpected mode

def name (mode : Mode) : Reader Name := do
  let t ← peek
  if h : isIdentifier t.text = true then
    if t.kind = .name then
      skip
      return ⟨t.text, t.position, h⟩
  unexpected mode

/-- The next token, if it continues the statement that is being read. -/
def continuing? (mode : Mode) : Reader (Option Token) := do
  let t ← peek
  return if mode = .line ∧ t.indent.isSome then none else some t

/-- Skips a token of the statement that is being read, if it satisfies `p`. -/
def skipIf (mode : Mode) (p : Token → Bool) : Reader Bool := do
  match ← continuing? mode with
  | some t =>
    if p t then
      skip
      return true
    return false
  | none => return false

end Reader

open Reader

def binarySymbols : List String :=
  ["+", "-", "*", "/", "%", "@", "//", "**", "<<", ">>", "&", "|", "^", "<", ">", "<=", ">=", "==",
   "!=", "<>"]

/-- Words that cannot be names where an operand is expected. -/
def operandWords : List String :=
  ["not", "lambda", "True", "False", "None"]

/-- Words that continue an expression and so do not start one after it. -/
def operatorWords : List String :=
  ["if", "else", "and", "or", "in", "is", "not", "as", "for", "from", "lambda"]

def startsPrimary (t : Token) : Bool :=
  match t.kind with
  | .name => !operatorWords.contains t.text
  | .number | .string => true
  | .symbol => ["(", "[", "\x7b", "+", "-", "~", "*", "..."].contains t.text
  | .invalid | .endOfText => false

/-- Whether an expression starts here, where it may also be missing. -/
def startsExpression (t : Token) : Bool :=
  startsPrimary t || t.isWord "not" || t.isWord "lambda"

/-- Words that no type starts with other than as an expression. -/
def softWords : List String :=
  ["print", "exec", "async", "await", "match"]

/-- Whether a type of its own may start with the token, where an expression could start too. -/
def isTypeName (t : Token) : Bool :=
  t.kind == .name && !operandWords.contains t.text && !softWords.contains t.text

/-- Whether an expression, but no other type, goes on with the token. -/
def extendsExpression (t : Token) : Bool :=
  match t.kind with
  | .name => ["and", "or", "in", "is", "not", "as", "if"].contains t.text
  | .symbol => ["[", "("].contains t.text || (t.text != "|" && binarySymbols.contains t.text)
  | .number | .string | .invalid | .endOfText => false

namespace Expr

/-- The expression as something to assign to: names become bindings. Calls, operators and constants
cannot be assigned to. -/
def toTarget? : Expr → Option Expr
  | .name n => some (.binding .target n)
  | .attribute value member => some (.attribute value member)
  | .group .subscript parts => some (.group .subscript parts)
  | .group .star [.name n] => some (.group .star [.binding .target n])
  | .group .star [.attribute value member] => some (.group .star [.attribute value member])
  | .group .star [.group .subscript parts] => some (.group .star [.group .subscript parts])
  | .group .tuple items => (toTargets? items).map (.group .tuple)
  | .group .list items => (toTargets? items).map (.group .list)
  | _ => none
where
  toTargets? : List Expr → Option (List Expr)
    | [] => some []
    | e :: es =>
      match toTarget? e, toTargets? es with
      | some t, some ts => some (t :: ts)
      | _, _ => none

/-- The name after `as` is bound; anything else there is read. -/
def toAlias : Expr → Expr
  | .name n => .binding .aliasName n
  | e => e

end Expr

/-- Reads the tokens of a replacement field by themselves. -/
def Reader.onField {α : Type} (line : Nat) (tokens : List Token) (r : Reader α) : Reader α := do
  let rest ← get
  set (tokens ++ [.mk .endOfText "" "" { line } line none []])
  let a ← r
  unless (← peek).isEnd do unexpected .brackets
  set rest
  return a

mutual

/-- An expression. -/
def expression : (fuel : Nat) → Context → Reader Expr
  | 0, _ => unexpected .brackets
  | fuel + 1, ctx => do
    let first ← operand fuel ctx true
    operators fuel ctx [first]

/-- The operators and operands that follow the operands read so far. -/
def operators : (fuel : Nat) → Context → (before : List Expr) → Reader Expr
  | 0, _, _ => unexpected .brackets
  | fuel + 1, ctx, before => do
    let some t ← continuing? ctx.mode | return .compound before
    let operandAfter (exprLevel : Bool) : Reader Expr := do
      operators fuel ctx (before ++ [← operand fuel ctx exprLevel])
    match t.kind with
    | .symbol =>
      if binarySymbols.contains t.text then
        skip
        operandAfter false
      else return .compound before
    | .name =>
      match t.text with
      | "and" | "or" =>
        skip
        operandAfter true
      | "in" =>
        skip
        operandAfter false
      | "is" =>
        skip
        let _ ← skipWord? "not"
        operandAfter false
      | "not" =>
        match ← peekSecond with
        | some second =>
          if second.isWord "in" then
            skip
            skip
            operandAfter false
          else return .compound before
        | none => return .compound before
      | "as" =>
        skip
        let target ← operand fuel ctx true
        operators fuel ctx [.group .aliased [.compound before, target.toAlias]]
      | "if" =>
        if ctx.ternary then
          skip
          let condition ← expression fuel ctx
          word ctx.mode "else"
          let other ← expression fuel ctx
          return .compound (before ++ [condition, other])
        else return .compound before
      | _ => return .compound before
    | _ => return .compound before

/-- An operand. Only at expression level may it start with `not`, `lambda` or a name and `:=`. -/
def operand : (fuel : Nat) → Context → (exprLevel : Bool) → Reader Expr
  | 0, _, _ => unexpected .brackets
  | fuel + 1, ctx, exprLevel => do
    let t ← peek
    let second ← peekSecond
    match t.kind with
    | .symbol =>
      match t.text with
      | "+" | "-" | "~" =>
        skip
        return .group .compound [← operand fuel ctx false]
      | "*" =>
        skip
        splat fuel ctx
      | _ => primary fuel ctx
    | .name =>
      let walrus := second.any fun s =>
        s.isSymbol ":=" && (ctx.mode ≠ .line || s.indent.isNone)
      let awaits := second.any fun s =>
        startsPrimary s && (ctx.mode ≠ .line || s.indent.isNone)
      if exprLevel && t.text == "not" then
        skip
        return .group .compound [← operand fuel ctx true]
      else if exprLevel && t.text == "lambda" then
        skip
        let ps ← parameters fuel ctx.mode false ":"
        symbol ctx.mode ":"
        let body ← expression fuel ctx
        return .group .compound (ps ++ [body])
      else if t.text == "await" && awaits then
        skip
        return .group .compound [← operand fuel ctx false]
      else if exprLevel && walrus && !operandWords.contains t.text then
        let n ← name ctx.mode
        skip
        return .group .walrus [.binding .target n, ← expression fuel ctx]
      else primary fuel ctx
    | _ => primary fuel ctx

/-- What stands behind a star. -/
def splat : (fuel : Nat) → Context → Reader Expr
  | 0, _ => unexpected .brackets
  | fuel + 1, ctx => do
    let value ← starred fuel ctx (← atom fuel ctx)
    trailers fuel ctx (.group .star [value])

/-- The attributes and subscripts of a starred name. -/
def starred : (fuel : Nat) → Context → Expr → Reader Expr
  | 0, _, _ => unexpected .brackets
  | fuel + 1, ctx, value => do
    let some t ← continuing? ctx.mode | return value
    if t.isSymbol "." then
      skip
      starred fuel ctx (.attribute value (← name ctx.mode))
    else if t.isSymbol "[" then
      skip
      let indices ← subscripts fuel
      starred fuel ctx (.group .subscript (value :: indices))
    else return value

def primary : (fuel : Nat) → Context → Reader Expr
  | 0, _ => unexpected .brackets
  | fuel + 1, ctx => do
    trailers fuel ctx (← atom fuel ctx)

/-- The attributes, calls and subscripts after a value. -/
def trailers : (fuel : Nat) → Context → Expr → Reader Expr
  | 0, _, _ => unexpected .brackets
  | fuel + 1, ctx, value => do
    let some t ← continuing? ctx.mode | return value
    if t.isSymbol "." then
      skip
      trailers fuel ctx (.attribute value (← name ctx.mode))
    else if t.isSymbol "(" then
      skip
      trailers fuel ctx (.call value (← arguments fuel))
    else if t.isSymbol "[" then
      skip
      let indices ← subscripts fuel
      trailers fuel ctx (.group .subscript (value :: indices))
    else return value

def atom : (fuel : Nat) → Context → Reader Expr
  | 0, _ => unexpected .brackets
  | fuel + 1, ctx => do
    let t ← peek
    match t.kind with
    | .number =>
      skip
      return .constant
    | .string => return .group .compound (← strings fuel ctx)
    | .name =>
      match t.text with
      | "True" | "False" | "None" =>
        skip
        return .constant
      | "not" | "lambda" => unexpected ctx.mode
      | _ => return .name (← name ctx.mode)
    | .symbol =>
      match t.text with
      | "..." =>
        skip
        return .constant
      | "(" =>
        skip
        collection fuel ")" .tuple
      | "[" =>
        skip
        collection fuel "]" .list
      | "\x7b" =>
        skip
        braces fuel
      | _ => unexpected ctx.mode
    | .invalid | .endOfText => unexpected ctx.mode

/-- One or more strings side by side: the expressions of their replacement fields. -/
def strings : (fuel : Nat) → Context → Reader (List Expr)
  | 0, _ => unexpected .brackets
  | fuel + 1, ctx => do
    let t ← peek
    skip
    let parts ← fields fuel t.line t.fields
    match ← continuing? ctx.mode with
    | some next =>
      if next.kind = .string then return parts ++ (← strings fuel ctx)
      return parts
    | none => return parts

def fields : (fuel : Nat) → (line : Nat) → List (List Token) → Reader (List Expr)
  | 0, _, _ => unexpected .brackets
  | _ + 1, _, [] => return []
  | fuel + 1, line, tokens :: rest => do
    let parts ← onField line tokens (do
      let parts ← expressionsOrYield fuel .inBrackets
      let _ ← skipSymbol? "="
      return parts)
    return parts ++ (← fields fuel line rest)

/-- The items up to a closing parenthesis or square bracket: a comprehension, or items with commas
between them. -/
def collection : (fuel : Nat) → (closing : String) → Shape → Reader Expr
  | 0, _, _ => unexpected .brackets
  | fuel + 1, closing, shape => do
    if ← skipSymbol? closing then return .group shape []
    let first ← item fuel
    if (← nextIsWord "for") || (← nextIsWord "async") then
      let clauses ← comprehension fuel
      symbol .brackets closing
      return .group .compound (first :: clauses)
    let rest ← items fuel closing
    symbol .brackets closing
    return .group shape (first :: rest)

/-- The items after the first, each behind a comma. -/
def items : (fuel : Nat) → (closing : String) → Reader (List Expr)
  | 0, _ => unexpected .brackets
  | fuel + 1, closing => do
    if ← skipSymbol? "," then
      if ← nextIsSymbol closing then return []
      let e ← item fuel
      return e :: (← items fuel closing)
    else return []

/-- An item of a tuple, list or set. -/
def item : (fuel : Nat) → Reader Expr
  | 0 => unexpected .brackets
  | fuel + 1 => do
    if ← skipSymbol? "*" then
      return .group .star [← expression fuel .inBrackets]
    else if ← nextIsWord "yield" then
      return .compound (← expressionsOrYield fuel .inBrackets)
    else expression fuel .inBrackets

/-- A dictionary or set, after its opening brace. -/
def braces : (fuel : Nat) → Reader Expr
  | 0 => unexpected .brackets
  | fuel + 1 => do
    if ← skipSymbol? "\x7d" then return .constant
    if ← nextIsSymbol "**" then
      let parts ← entries fuel
      symbol .brackets "\x7d"
      return .group .compound parts
    let first ← item fuel
    if ← skipSymbol? ":" then
      let value ← expression fuel .inBrackets
      if (← nextIsWord "for") || (← nextIsWord "async") then
        let clauses ← comprehension fuel
        symbol .brackets "\x7d"
        return .group .compound (first :: value :: clauses)
      let more ← if ← skipSymbol? "," then entries fuel else pure []
      symbol .brackets "\x7d"
      return .group .compound (first :: value :: more)
    if (← nextIsWord "for") || (← nextIsWord "async") then
      let clauses ← comprehension fuel
      symbol .brackets "\x7d"
      return .group .compound (first :: clauses)
    let rest ← items fuel "\x7d"
    symbol .brackets "\x7d"
    return .group .compound (first :: rest)

/-- Entries of a dictionary up to its closing brace. -/
def entries : (fuel : Nat) → Reader (List Expr)
  | 0 => unexpected .brackets
  | fuel + 1 => do
    if ← nextIsSymbol "\x7d" then return []
    let entry ← if ← skipSymbol? "**" then
        pure [← expression fuel .inBrackets]
      else do
        let key ← expression fuel .inBrackets
        symbol .brackets ":"
        pure [key, ← expression fuel .inBrackets]
    if ← skipSymbol? "," then return entry ++ (← entries fuel)
    return entry

/-- The clauses of a comprehension. -/
def comprehension : (fuel : Nat) → Reader (List Expr)
  | 0 => unexpected .brackets
  | fuel + 1 => do
    let ctx : Context := { mode := .brackets, ternary := false }
    if ← skipWord? "if" then
      let condition ← expression fuel ctx
      return condition :: (← comprehension fuel)
    if (← nextIsWord "for") || (← nextIsWord "async") then
      let _ ← skipWord? "async"
      word .brackets "for"
      let targets ← targetList fuel .brackets
      word .brackets "in"
      let values ← expressions fuel ctx
      return .group .targets targets :: values ++ (← comprehension fuel)
    return []

/-- The targets of a loop, up to the word `in`. -/
def targetList : (fuel : Nat) → Mode → Reader (List Expr)
  | 0, _ => unexpected .brackets
  | fuel + 1, mode => do
    let ctx : Context := { mode }
    let e ← operand fuel ctx false
    let some target := e.toTarget? | unexpected mode
    if ← skipSymbol? "," then
      if ← nextIsWord "in" then return [target]
      return target :: (← targetList fuel mode)
    return [target]

/-- The arguments of a call or class, after the opening parenthesis and with the closing one. -/
def arguments : (fuel : Nat) → Reader (List Expr)
  | 0 => unexpected .brackets
  | fuel + 1 => do
    if ← skipSymbol? ")" then return []
    let first ← argument fuel
    if (← nextIsWord "for") || (← nextIsWord "async") then
      let clauses ← comprehension fuel
      symbol .brackets ")"
      return [.group .compound (first :: clauses)]
    let rest ← moreArguments fuel
    symbol .brackets ")"
    return first :: rest

def moreArguments : (fuel : Nat) → Reader (List Expr)
  | 0 => unexpected .brackets
  | fuel + 1 => do
    if ← skipSymbol? "," then
      if ← nextIsSymbol ")" then return []
      let e ← argument fuel
      return e :: (← moreArguments fuel)
    else return []

def argument : (fuel : Nat) → Reader Expr
  | 0 => unexpected .brackets
  | fuel + 1 => do
    let t ← peek
    let second ← peekSecond
    if t.isSymbol "*" || t.isSymbol "**" then
      skip
      return .group .star [← expression fuel .inBrackets]
    else if t.kind = .name ∧ second.any (·.isSymbol "=") ∧ ¬operandWords.contains t.text then
      let n ← name .brackets
      skip
      return .group .keyword [.binding .keyword n, ← expression fuel .inBrackets]
    else expression fuel .inBrackets

/-- The indices of a subscript, after the opening bracket and with the closing one. -/
def subscripts : (fuel : Nat) → Reader (List Expr)
  | 0 => unexpected .brackets
  | fuel + 1 => do
    let first ← slice fuel
    if ← skipSymbol? "," then
      if ← skipSymbol? "]" then return first
      return first ++ (← subscripts fuel)
    symbol .brackets "]"
    return first

/-- An index, or the bounds of a slice. -/
def slice : (fuel : Nat) → Reader (List Expr)
  | 0 => unexpected .brackets
  | fuel + 1 => do
    let ctx := Context.inBrackets
    let bound : Reader (List Expr) := do
      if startsExpression (← peek) then return [← expression fuel ctx]
      return []
    if ← skipSymbol? ":" then
      let upper ← bound
      let step ← if ← skipSymbol? ":" then bound else pure []
      return upper ++ step
    let lower ← expression fuel ctx
    if ← skipSymbol? ":" then
      let upper ← bound
      let step ← if ← skipSymbol? ":" then bound else pure []
      return lower :: upper ++ step
    return [lower]

/-- Expressions with commas between them, perhaps with a comma at the end. -/
def expressions : (fuel : Nat) → Context → Reader (List Expr)
  | 0, _ => unexpected .brackets
  | fuel + 1, ctx => do
    let first ← expression fuel ctx
    let some t ← continuing? ctx.mode | return [first]
    if t.isSymbol "," then
      skip
      let some t ← continuing? ctx.mode | return [first]
      if startsExpression t then return first :: (← expressions fuel ctx)
      return [first]
    return [first]

/-- What a `yield` gives, or plain expressions. -/
def expressionsOrYield : (fuel : Nat) → Context → Reader (List Expr)
  | 0, _ => unexpected .brackets
  | fuel + 1, ctx => do
    if ← skipWord? "yield" then
      if ← skipWord? "from" then return [.group .compound [← expression fuel ctx]]
      let some t ← continuing? ctx.mode | return [.constant]
      if startsExpression t then return [.group .compound (← expressions fuel ctx)]
      return [.constant]
    expressions fuel ctx

/-- Parameters with commas between them, up to the symbol `closing`. Only those of a function may
have annotations. -/
def parameters : (fuel : Nat) → Mode → (annotated : Bool) → (closing : String) → Reader (List Expr)
  | 0, _, _, _ => unexpected .brackets
  | fuel + 1, mode, annotated, closing => do
    if ← nextIsSymbol closing then return []
    let parts ← parameter fuel mode annotated
    if ← skipSymbol? "," then return parts ++ (← parameters fuel mode annotated closing)
    return parts

def parameter : (fuel : Nat) → Mode → (annotated : Bool) → Reader (List Expr)
  | 0, _, _ => unexpected .brackets
  | fuel + 1, mode, annotated => do
    let hint : Reader (List Expr) := do
      if annotated then
        if ← skipSymbol? ":" then return [← typeExpression fuel mode true]
      return []
    let default : Reader (List Expr) := do
      if ← skipSymbol? "=" then return [← expression fuel { mode }]
      return []
    let t ← peek
    if t.isSymbol "/" then
      skip
      return []
    else if t.isSymbol "*" || t.isSymbol "**" then
      skip
      let t' ← peek
      if t.isSymbol "*" && t'.kind ≠ .name then return []
      let n ← name mode
      return [.group .parameter (.group .star [.binding .parameter n] :: (← hint))]
    else if t.isSymbol "(" then
      skip
      let items ← collection fuel ")" .tuple
      let some (.group .tuple targets) := items.toTarget? | unexpected mode
      return .group .targets targets :: (← default)
    else
      let n ← name mode
      let hint ← hint
      return [.group .parameter (.binding .parameter n :: hint ++ (← default))]

/-- A type: a name behind one or two stars, a name with types in brackets, or an expression. Only with
`bounds` may a colon and another type follow. -/
def typeExpression : (fuel : Nat) → Mode → (bounds : Bool) → Reader Expr
  | 0, _, _ => unexpected .brackets
  | fuel + 1, mode, bounds => do
    let ctx : Context := { mode }
    let t ← peek
    let second ← peekSecond
    if t.isSymbol "*" || t.isSymbol "**" then
      skip
      let third ← peekSecond
      let extended := third.any fun s => extendsExpression s && (mode ≠ .line || s.indent.isNone)
      let named := second.any fun s => isTypeName s && s.text != "type"
      if t.isSymbol "*" && (extended || !named) then
        typeRest fuel mode bounds (← operators fuel ctx [← splat fuel ctx])
      else typeRest fuel mode bounds (.group .star [.name (← name mode)])
    else if isTypeName t && second.any fun s =>
        s.isSymbol "[" && (mode ≠ .line || s.indent.isNone) then
      let n ← name mode
      skip
      typeRest fuel mode bounds (.group .generic (.name n :: (← typeArguments fuel)))
    else typeRest fuel mode bounds (← expression fuel ctx)

/-- What may follow a type: names behind dots, a bar and another type, or a bound. -/
def typeRest : (fuel : Nat) → Mode → (bounds : Bool) → Expr → Reader Expr
  | 0, _, _, _ => unexpected .brackets
  | fuel + 1, mode, bounds, value => do
    let some t ← continuing? mode | return value
    if t.isSymbol "." then
      skip
      typeRest fuel mode bounds (.group .typeMember [value, .name (← name mode)])
    else if t.isSymbol "|" then
      skip
      return .group .compound [value, ← typeExpression fuel mode bounds]
    else if bounds && t.isSymbol ":" then
      skip
      return .group .bounded [value, ← typeExpression fuel mode bounds]
    else return value

/-- Types with commas between them, after the opening bracket and with the closing one. -/
def typeArguments : (fuel : Nat) → Reader (List Expr)
  | 0 => unexpected .brackets
  | fuel + 1 => do
    let first ← typeExpression fuel .brackets true
    if ← skipSymbol? "," then
      if ← skipSymbol? "]" then return [first]
      return first :: (← typeArguments fuel)
    symbol .brackets "]"
    return [first]

end

end LayerCheck.Syntax
