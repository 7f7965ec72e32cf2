import LayerCheck.Syntax.Identifier

/-!
The tokens of a Python source text. Every token keeps the blank text before it, so the tokens
written one after the other are the source again.
-/

namespace LayerCheck.Syntax

/-- A place in the source: lines are counted from 1, columns are bytes counted from 1. -/
structure Position where
  line : Nat := 1
  column : Nat := 1
deriving DecidableEq, Repr

namespace Position

def advance (p : Position) (c : Char) : Position :=
  if c = '\n' then ⟨p.line + 1, 1⟩ else ⟨p.line, p.column + c.utf8Size⟩

def after (p : Position) (cs : List Char) : Position :=
  cs.foldl advance p

end Position

inductive TokenKind where
  | name
  | number
  | string
  | symbol
  /-- Text that is no token: a stray character or a string that does not end. -/
  | invalid
  | endOfText
deriving DecidableEq, Repr

/-- A token. `lineBefore` is the line where the token before it ends. `indent` is the indentation
of its line if the token is the first of a line and not inside brackets. `fields` are the replacement fields of a formatted
string, those in format specifiers included. -/
inductive Token where
  | mk (kind : TokenKind) (gap text : String) (position : Position) (lineBefore : Nat)
    (indent : Option Nat) (fields : List (List Token))
deriving Repr

namespace Token

def kind : Token → TokenKind
  | mk kind _ _ _ _ _ _ => kind

def gap : Token → String
  | mk _ gap _ _ _ _ _ => gap

def text : Token → String
  | mk _ _ text _ _ _ _ => text

def position : Token → Position
  | mk _ _ _ position _ _ _ => position

def lineBefore : Token → Nat
  | mk _ _ _ _ lineBefore _ _ => lineBefore

def indent : Token → Option Nat
  | mk _ _ _ _ _ indent _ => indent

def fields : Token → List (List Token)
  | mk _ _ _ _ _ _ fields => fields

def line (t : Token) : Nat :=
  t.position.line

def isSymbol (t : Token) (text : String) : Bool :=
  t.kind == .symbol && t.text == text

def isWord (t : Token) (text : String) : Bool :=
  t.kind == .name && t.text == text

def isEnd (t : Token) : Bool :=
  t.kind == .endOfText

end Token

/-! ### Blank text -/

def isBlank (c : Char) : Bool :=
  [' ', '\t', '\n', '\r', '\x0b', '\x0c', '\u200b', '\u2060', '\ufeff'].contains c

/-- Splits off blanks, comments and escaped line ends. -/
def splitGap : (inComment : Bool) → List Char → List Char × List Char
  | _, [] => ([], [])
  | true, c :: cs =>
    let (gap, rest) := splitGap (c ≠ '\n') cs
    (c :: gap, rest)
  | false, ['\\'] => (['\\'], [])
  | false, '\\' :: '\n' :: cs =>
    let (gap, rest) := splitGap false cs
    ('\\' :: '\n' :: gap, rest)
  | false, '\\' :: '\r' :: '\n' :: cs =>
    let (gap, rest) := splitGap false cs
    ('\\' :: '\r' :: '\n' :: gap, rest)
  | false, c :: cs =>
    if c = '#' ∨ isBlank c then
      let (gap, rest) := splitGap (c = '#') cs
      (c :: gap, rest)
    else
      ([], c :: cs)

/-- What is known of the current line while blank text is read. -/
structure Margin where
  newLine : Bool := false
  width : Nat := 0
  inComment : Bool := false
  escaped : Bool := false

/-- A tab counts for eight blanks; a carriage return or form feed starts the count anew. -/
def Margin.step (m : Margin) (c : Char) : Margin :=
  if c = '\n' then
    if m.escaped then { m with escaped := false } else { newLine := true }
  else if m.inComment then m
  else if c = '#' then { m with inComment := true }
  else if c = '\\' then { m with escaped := true }
  else if c = ' ' then { m with width := m.width + 1 }
  else if c = '\t' then { m with width := m.width + 8 }
  else if (c = '\r' ∧ ¬m.escaped) ∨ c = '\x0c' then { m with width := 0 }
  else m

/-- The indentation of the line that the blank text ends on, if it holds a line end. -/
def lineIndent (gap : List Char) : Option Nat :=
  let m := gap.foldl Margin.step {}
  if m.newLine then some m.width else none

/-! ### Numbers and symbols -/

/-- Digits with an underscore after some of them. -/
def digits (isDigit : Char → Bool) : (afterDigit : Bool) → List Char → List Char × List Char
  | _, [] => ([], [])
  | afterDigit, c :: cs =>
    if isDigit c then
      let (ds, rest) := digits isDigit true cs
      (c :: ds, rest)
    else if c = '_' ∧ afterDigit then
      let (ds, rest) := digits isDigit false cs
      (c :: ds, rest)
    else
      ([], c :: cs)

def isHexDigit (c : Char) : Bool :=
  (Unicode.Table.hexDigit? c).isSome

/-- The test for the digits after `0x`, `0o` and `0b`. -/
def radix? (c : Char) : Option (Char → Bool) :=
  if c = 'x' ∨ c = 'X' then some isHexDigit
  else if c = 'o' ∨ c = 'O' then some fun d => '0' ≤ d && d ≤ '7'
  else if c = 'b' ∨ c = 'B' then some fun d => d == '0' || d == '1'
  else none

def takeOne (p : Char → Bool) : List Char → List Char × List Char
  | c :: cs => if p c then ([c], cs) else ([], c :: cs)
  | [] => ([], [])

/-- An exponent with at least one digit. -/
def exponent (cs : List Char) : List Char × List Char :=
  match cs with
  | [] => ([], cs)
  | e :: rest =>
    if e = 'e' ∨ e = 'E' then
      let (sign, rest) := takeOne (fun c => c == '+' || c == '-') rest
      match digits Char.isDigit false rest with
      | ([], _) => ([], cs)
      | (ds, rest) => (e :: sign ++ ds, rest)
    else ([], cs)

def decimal (cs : List Char) : List Char × List Char :=
  let (whole, rest) := digits Char.isDigit false cs
  let (fraction, rest) := match rest with
    | '.' :: rest =>
      let (ds, rest) := digits Char.isDigit false rest
      ('.' :: ds, rest)
    | rest => ([], rest)
  let (power, rest) := exponent rest
  let isSuffix (c : Char) : Bool :=
    c == 'j' || c == 'J' || (fraction.isEmpty && power.isEmpty && (c == 'l' || c == 'L'))
  let (suffix, rest) := takeOne isSuffix rest
  (whole ++ fraction ++ power ++ suffix, rest)

/-- A number that starts with a digit, or with a point and a digit. -/
def number (cs : List Char) : List Char × List Char :=
  match cs with
  | '0' :: r :: rest =>
    match radix? r with
    | none => decimal cs
    | some isDigit =>
      let (under, after) := takeOne (· == '_') rest
      match digits isDigit false after with
      | ([], _) => decimal cs
      | (ds, after) =>
        let (suffix, after) := takeOne (fun c => c == 'l' || c == 'L') after
        ('0' :: r :: under ++ ds ++ suffix, after)
  | cs => decimal cs

/-- The symbols, longer ones before their beginnings. -/
def symbols : List String :=
  ["**=", "//=", ">>=", "<<=", "...", "!=", "<>", "<=", ">=", "==", "->", "+=", "-=", "*=", "/=",
   "%=", "&=", "|=", "^=", "@=", ":=", "**", "//", "<<", ">>", "+", "-", "*", "/", "%", "@", "&",
   "|", "^", "~", "<", ">", "=", "(", ")", "[", "]", "\x7b", "\x7d", ",", ":", ".", ";"]

def symbol? (cs : List Char) : Option (List Char) :=
  (symbols.map String.toList).find? fun s => s.isPrefixOf cs

/-! ### Strings -/

structure StringStyle where
  format : Bool := false
  raw : Bool := false
  bytes : Bool := false
  triple : Bool := false
  quote : Char

/-- The opening of a string: letters that set its style, then a quote or three. -/
def stringStart? (cs : List Char) : Option (StringStyle × List Char) :=
  let letters := cs.takeWhile "fFrRbBuU".toList.contains
  let has (c d : Char) : Bool := letters.contains c || letters.contains d
  let style (quote : Char) (triple : Bool) : StringStyle :=
    { format := has 'f' 'F', raw := has 'r' 'R', bytes := has 'b' 'B', triple, quote }
  match cs.drop letters.length with
  | '\'' :: '\'' :: '\'' :: rest => some (style '\'' true, rest)
  | '\'' :: rest => some (style '\'' false, rest)
  | '"' :: '"' :: '"' :: rest => some (style '"' true, rest)
  | '"' :: rest => some (style '"' false, rest)
  | '\x60' :: rest => some (style '\x60' false, rest)
  | _ => none

/-- How many characters after a backslash belong to the escape. -/
def escapeLength (style : StringStyle) (cs : List Char) : Nat :=
  match cs with
  | '\r' :: '\n' :: _ => 2
  | 'x' :: rest => if (rest.take 2).length = 2 ∧ (rest.take 2).all isHexDigit then 3 else 0
  | 'u' :: rest =>
    if ¬style.bytes ∧ (rest.take 4).length = 4 ∧ (rest.take 4).all isHexDigit then 5 else 0
  | 'U' :: rest =>
    if ¬style.bytes ∧ (rest.take 8).length = 8 ∧ (rest.take 8).all isHexDigit then 9 else 0
  | 'N' :: '\x7b' :: rest =>
    let name := rest.takeWhile (· ≠ '\x7d')
    if ¬style.bytes ∧ name ≠ [] ∧ name.length < rest.length then name.length + 3 else 0
  | c :: rest =>
    if "\n'\"abfrntv\\".toList.contains c then 1
    else if c.isDigit then 1 + ((rest.take 2).takeWhile Char.isDigit).length
    else 0
  | [] => 0

/-- How many characters after a backslash a raw string takes with it. -/
def rawEscapeLength (style : StringStyle) (cs : List Char) : Nat :=
  let quoted := match cs with
    | c :: _ => if c = style.quote ∨ c = '\\' then 1 else 0
    | [] => 0
  match cs.drop quoted with
  | '\r' :: '\n' :: _ => quoted + 2
  | '\r' :: _ | '\n' :: _ => quoted + 1
  | _ => quoted

def isOpening (t : Token) : Bool :=
  t.isSymbol "(" || t.isSymbol "[" || t.isSymbol "\x7b"

def isClosing (t : Token) : Bool :=
  t.isSymbol ")" || t.isSymbol "]" || t.isSymbol "\x7d"

/-- How many brackets are open behind a token, if `depth` are before it. -/
def depthAfter (depth : Nat) (t : Token) : Nat :=
  if isOpening t then depth + 1 else if isClosing t then depth - 1 else depth

mutual

/-- Reads a string after its opening quote: its fields, and what follows its closing quote. A
string in single quotes may hold a line end only where a piece of its text starts, as `started`
says. -/
def scanString (style : StringStyle) :
    (fuel : Nat) → (started : Bool) → Position → List Char →
    Option (List (List Token) × Position × List Char)
  | 0, _, _, _ => none
  | _ + 1, _, _, [] => none
  | fuel + 1, started, p, c :: cs =>
    if c = '\\' then
      if style.raw then
        let n := rawEscapeLength style cs
        scanString style fuel true (p.after (c :: cs.take n)) (cs.drop n)
      else
        let n := escapeLength style cs
        scanString style fuel false (p.after (c :: cs.take n)) (cs.drop n)
    else if c = style.quote then
      if style.triple then
        match cs with
        | d :: e :: rest =>
          if d = c ∧ e = c then some ([], p.after [c, d, e], rest)
          else scanString style fuel true (p.advance c) cs
        | _ => none
      else some ([], p.advance c, cs)
    else if style.format ∧ c = '\x7b' then
      match cs with
      | '\x7b' :: rest => scanString style fuel false (p.after [c, c]) rest
      | _ =>
        match scanField fuel (p.advance c) cs with
        | none => none
        | some (fields, p, rest) =>
          match scanString style fuel false p rest with
          | none => none
          | some (more, p, rest) => some (fields ++ more, p, rest)
    else if style.format ∧ c = '\x7d' then
      match cs with
      | '\x7d' :: rest => scanString style fuel false (p.after [c, c]) rest
      | _ => none
    else if c = '\n' ∧ started ∧ ¬style.triple then none
    else scanString style fuel true (p.advance c) cs
termination_by structural fuel => fuel

/-- Reads a replacement field after its brace: the tokens of its expression and those of the fields
in its format specifier, and what follows its closing brace. -/
def scanField :
    (fuel : Nat) → Position → List Char → Option (List (List Token) × Position × List Char)
  | 0, _, _ => none
  | fuel + 1, p, cs =>
    match scanFieldTokens fuel 0 0 p cs with
    | none => none
    | some (tokens, p, rest) =>
      let (p, rest) := match rest with
        | '!' :: c :: after => if c.isLower then (p.after ['!', c], after) else (p, rest)
        | rest => (p, rest)
      let (gap, rest) := splitGap false rest
      let p := p.after gap
      match rest with
      | '\x7d' :: rest => some ([tokens], p.advance '\x7d', rest)
      | ':' :: rest =>
        match scanSpecifier fuel (p.advance ':') rest with
        | none => none
        | some (fields, p, rest) => some (tokens :: fields, p, rest)
      | _ => none
termination_by structural fuel => fuel

/-- Reads a format specifier up to the brace that closes its field. -/
def scanSpecifier :
    (fuel : Nat) → Position → List Char → Option (List (List Token) × Position × List Char)
  | 0, _, _ => none
  | _ + 1, _, [] => none
  | fuel + 1, p, c :: cs =>
    if c = '\x7d' then some ([], p.advance c, cs)
    else if c = '\n' then none
    else if c = '\x7b' then
      match scanField fuel (p.advance c) cs with
      | none => none
      | some (fields, p, rest) =>
        match scanSpecifier fuel p rest with
        | none => none
        | some (more, p, rest) => some (fields ++ more, p, rest)
    else scanSpecifier fuel (p.advance c) cs
termination_by structural fuel => fuel

/-- Reads the tokens of a field up to the brace, colon or exclamation mark that ends its
expression. `depth` counts the brackets that are open and `lambdas` the lambdas that wait for their
colon. -/
def scanFieldTokens :
    (fuel : Nat) → (depth lambdas : Nat) → Position → List Char →
    Option (List Token × Position × List Char)
  | 0, _, _, _, _ => none
  | fuel + 1, depth, lambdas, p, cs =>
    let (gap, rest) := splitGap false cs
    let q := p.after gap
    let ended := match rest with
      | '\x7d' :: _ => depth == 0
      | ':' :: '=' :: _ => false
      | ':' :: _ => depth == 0 && lambdas == 0
      | '!' :: c :: _ => depth == 0 && c ≠ '='
      | [] => true
      | _ => false
    if ended then some ([], q, rest)
    else
      match scanToken fuel (String.ofList gap) p.line none q rest with
      | (t, q, rest) =>
        let depth := depthAfter depth t
        let lambdas :=
          if depth > 0 then lambdas
          else if t.isWord "lambda" then lambdas + 1
          else if t.isSymbol ":" then lambdas - 1
          else lambdas
        match scanFieldTokens fuel depth lambdas q rest with
        | none => none
        | some (tokens, q, rest) => some (t :: tokens, q, rest)
termination_by structural fuel => fuel

/-- Reads one token where no blank text stands. -/
def scanToken :
    (fuel : Nat) → (gap : String) → (lineBefore : Nat) → (indent : Option Nat) → Position →
    List Char → Token × Position × List Char
  | 0, gap, lineBefore, indent, p, cs =>
    (.mk .invalid gap (String.ofList cs) p lineBefore indent [], p.after cs, [])
  | fuel + 1, gap, lineBefore, indent, p, cs =>
    let plain (kind : TokenKind) (text rest : List Char) : Token × Position × List Char :=
      (.mk kind gap (String.ofList text) p lineBefore indent [], p.after text, rest)
    match stringStart? cs with
    | some (style, body) =>
      let opening := cs.take (cs.length - body.length)
      match scanString style fuel false (p.after opening) body with
      | some (fields, q, rest) =>
        let text := String.ofList (cs.take (cs.length - rest.length))
        (.mk .string gap text p lineBefore indent fields, q, rest)
      | none => plain .invalid cs []
    | none =>
      match cs with
      | [] => plain .endOfText [] []
      | c :: rest =>
        let startsNumber := c.isDigit ||
          (c == '.' && match rest with | d :: _ => d.isDigit | [] => false)
        if isIdentifierStart c then
          plain .name (c :: rest.takeWhile isIdentifierContinue) (rest.dropWhile isIdentifierContinue)
        else if startsNumber then
          let (text, rest) := number cs
          plain .number text rest
        else
          match symbol? cs with
          | some s => plain .symbol s (cs.drop s.length)
          | none => plain .invalid [c] rest
termination_by structural fuel => fuel

end

/-! ### The whole text -/

/-- The tokens of a text behind `depth` open brackets. Inside brackets no token starts a line. -/
def scanAll : (fuel depth : Nat) → Position → List Char → List Token
  | 0, _, p, _ => [.mk .endOfText "" "" p p.line (some 0) []]
  | fuel + 1, depth, p, cs =>
    let (gap, rest) := splitGap false cs
    let q := p.after gap
    match rest with
    | [] => [.mk .endOfText (String.ofList gap) "" q p.line (some 0) []]
    | rest =>
      let indent := if depth = 0 then lineIndent gap else none
      let (t, q, rest) := scanToken (fuel + 1) (String.ofList gap) p.line indent q rest
      t :: scanAll fuel (depthAfter depth t) q rest

/-- The tokens of a source text. The last one stands for its end. -/
def scan (source : String) : List Token :=
  scanAll (source.length + 1) 0 {} source.toList

/-- The source text of a row of tokens, without the blank text before the first. -/
def sourceText : List Token → String
  | [] => ""
  | t :: rest => t.text ++ String.join (rest.map fun t => t.gap ++ t.text)

/-! ### Lines to blame for a fault behind them -/

/-- The line of the innermost bracket that is never closed. -/
def unclosed? (tokens : List Token) : Option Nat :=
  (tokens.foldl (fun open_ t =>
    if isOpening t then t.line :: open_ else if isClosing t then open_.tail else open_) []).head?

/-- Words after which a line cannot end. -/
def unfinishedWords : List String :=
  ["and", "as", "assert", "async", "class", "def", "del", "elif", "for", "from", "global", "if",
   "import", "in", "is", "lambda", "nonlocal", "not", "or", "while", "with"]

/-- Symbols after which a line cannot end. A star may end an import. -/
def unfinishedSymbols : List String :=
  ["+", "-", "/", "%", "@", "//", "**", "<<", ">>", "&", "|", "^", "~", "<", ">", "<=", ">=", "==",
   "!=", "=", ":=", "->", ".", "+=", "-=", "*=", "/=", "@=", "//=", "%=", "**=", ">>=", "<<=", "&=",
   "^=", "|="]

/-- Words that start a line with a colon at its end. -/
def headWords : List String :=
  ["async", "case", "class", "def", "elif", "else", "except", "finally", "for", "if", "match", "try",
   "while", "with"]

/-- Whether a line from the token `first` to the token `last` needs more on the same line. -/
def breaksOff (first last : Token) : Bool :=
  match last.kind with
  | .name => unfinishedWords.contains last.text
  | .symbol =>
    unfinishedSymbols.contains last.text ||
      (last.text == ":" && !(first.kind = .name && headWords.contains first.text))
  | _ => false

/-- The first line that breaks off, behind the tokens from `first` to `last` of a line. A token for
the end of the text may stand inside brackets, where no line ends. -/
def brokenFrom? : (depth : Nat) → (first last : Token) → List Token → Option Nat
  | _, _, _, [] => none
  | depth, first, last, t :: rest =>
    let inner := depthAfter depth t
    if depth = 0 ∧ t.indent.isSome then
      if breaksOff first last then some t.lineBefore else brokenFrom? inner t t rest
    else brokenFrom? inner first t rest

/-- The first line outside brackets that breaks off. -/
def broken? : List Token → Option Nat
  | [] => none
  | t :: rest => brokenFrom? (depthAfter 0 t) t t rest

end LayerCheck.Syntax
