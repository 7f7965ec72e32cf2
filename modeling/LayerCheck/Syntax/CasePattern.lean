import LayerCheck.Syntax.Expression

/-!
Reading the patterns of `case` clauses. A single name captures what it matches; it is read only
inside alternatives and as the key of a mapping.
-/

namespace LayerCheck.Syntax

open Reader

/-- A single name as a capture. -/
def Expr.toCapture : Expr → Expr
  | .name n => .binding .capture n
  | e => e

/-- A name with the further parts behind it, all of which are read. -/
def Expr.ofDotted (n : Name) : List Name → Expr
  | [] => .name n
  | rest => .group .dotted (.name n :: rest.map .name)

/-- The further parts of a dotted name. -/
def dottedRest : (fuel : Nat) → Mode → Reader (List Name)
  | 0, _ => unexpected .brackets
  | fuel + 1, mode => do
    if ← skipIf mode (·.isSymbol ".") then
      let n ← name mode
      return n :: (← dottedRest fuel mode)
    return []

mutual

/-- A pattern, perhaps with a keyword before it or a name behind it. -/
def casePattern : (fuel : Nat) → Mode → Reader Expr
  | 0, _ => unexpected .brackets
  | fuel + 1, mode => do
    let t ← peek
    let isKeyword := t.kind = .name ∧ (← peekSecond).any (·.isSymbol "=")
    let first ← if isKeyword then do
        let n ← name mode
        skip
        let value ← alternatives fuel mode
        pure (Expr.group .patterns [.binding .capture n, value.toCapture])
      else pure (← alternatives fuel mode).toCapture
    aliases fuel mode first

/-- The names after `as`, which are read. -/
def aliases : (fuel : Nat) → Mode → Expr → Reader Expr
  | 0, _, _ => unexpected .brackets
  | fuel + 1, mode, e => do
    if ← skipWord? "as" then
      aliases fuel mode (.group .aliasedPattern [e, .name (← name mode)])
    else return e

/-- Patterns with bars between them. -/
def alternatives : (fuel : Nat) → Mode → Reader Expr
  | 0, _ => unexpected .brackets
  | fuel + 1, mode => do
    let first ← simplePattern fuel mode
    if ← skipSymbol? "|" then
      return .group .alternatives [first, ← alternatives fuel mode]
    return first

def simplePattern : (fuel : Nat) → Mode → Reader Expr
  | 0, _ => unexpected .brackets
  | fuel + 1, mode => do
    let t ← peek
    match t.kind with
    | .string => return .group .compound (← strings fuel { mode })
    | .number =>
      numberPattern mode
      return .constant
    | .name =>
      match t.text with
      | "True" | "False" | "None" | "_" =>
        skip
        return .constant
      | _ =>
        let n ← name mode
        let value := Expr.ofDotted n (← dottedRest fuel mode)
        if ← skipSymbol? "(" then
          return .group .compound [value, .group .patterns (← patterns fuel ")")]
        return value
    | .symbol =>
      match t.text with
      | "-" =>
        numberPattern mode
        return .constant
      | "*" | "**" =>
        skip
        return .group .patterns [.binding .capture (← name mode)]
      | "(" =>
        skip
        return .group .patterns (← patterns fuel ")")
      | "[" =>
        skip
        return .group .patterns (← patterns fuel "]")
      | "\x7b" =>
        skip
        return .group .compound (← entryPatterns fuel)
      | _ => unexpected mode
    | .invalid | .endOfText => unexpected mode

/-- Patterns with commas between them, up to and with a closing bracket. -/
def patterns : (fuel : Nat) → (closing : String) → Reader (List Expr)
  | 0, _ => unexpected .brackets
  | fuel + 1, closing => do
    if ← skipSymbol? closing then return []
    let first ← casePattern fuel .brackets
    if ← skipSymbol? "," then return first :: (← patterns fuel closing)
    symbol .brackets closing
    return [first]

/-- The entries of a mapping pattern, up to and with its closing brace. -/
def entryPatterns : (fuel : Nat) → Reader (List Expr)
  | 0 => unexpected .brackets
  | fuel + 1 => do
    if ← skipSymbol? "\x7d" then return []
    let t ← peek
    let key ← alternatives fuel .brackets
    let entry ← if t.isSymbol "*" || t.isSymbol "**" then pure [key] else do
      symbol .brackets ":"
      pure [key, .group .patterns [← casePattern fuel .brackets]]
    if ← skipSymbol? "," then return entry ++ (← entryPatterns fuel)
    symbol .brackets "\x7d"
    return entry

/-- A number with a sign before it or another number behind it. -/
def numberPattern (mode : Mode) : Reader Unit := do
  let _ ← skipSymbol? "-"
  unless (← peek).kind = .number do unexpected mode
  skip
  let t ← peek
  if t.isSymbol "+" || t.isSymbol "-" then
    skip
    unless (← peek).kind = .number do unexpected mode
    skip

end

/-- The patterns of a clause, with commas between them. -/
def clausePatterns : (fuel : Nat) → Reader (List Expr)
  | 0 => unexpected .brackets
  | fuel + 1 => do
    let first ← casePattern fuel .head
    if ← skipSymbol? "," then
      if (← nextIsSymbol ":") || (← nextIsWord "if") then return [first]
      return first :: (← clausePatterns fuel)
    return [first]

end LayerCheck.Syntax
