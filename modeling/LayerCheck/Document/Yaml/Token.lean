import LayerCheck.Document.Yaml.Scalar

/-!
The tokens of a YAML text. Block collections have tokens of their own, which are put in where the
indentation changes; the token of a key that carries no mark is put in once its colon is found.
-/

namespace LayerCheck.Yaml

inductive Token where
  | version (major minor : Nat)
  | tagHandle (handle expansion : String)
  | documentStart
  | documentEnd
  | blockSequence
  | blockMapping
  | blockEnd
  | flowSequence
  | flowSequenceEnd
  | flowMapping
  | flowMappingEnd
  | blockEntry
  | flowEntry
  | key
  | value
  | aliasFor (name : String)
  | anchor (name : String)
  /-- A tag without a handle is written out in full. -/
  | tag (handle suffix : String)
  | scalar (text : String) (isPlain : Bool)
deriving DecidableEq, Repr

/-! ### Names, tags and directives -/

def nameText (cells : List Cell) : String :=
  String.ofList ((cells.takeWhile Cell.isName).map Cell.char)

/-- The name of an anchor or alias, behind its mark. -/
def name? (cells : List Cell) : Option (String × List Cell) :=
  let rest := cells.dropWhile Cell.isName
  if nameText cells ≠ "" && (atSpace rest || startsWith ['?', ':', ',', ']', '\x7d', '%', '@', '\x60'] rest) then
    some (nameText cells, rest)
  else none

def addressMarks : List Char :=
  [';', '/', '?', ':', '@', '&', '=', '+', '$', '.', '!', '~', '*', '\'', '(', ')']

/-- The length that the first byte of an encoded character announces. -/
def encodedLength? (byte : Nat) : Option Nat :=
  if byte < 0x80 then some 1
  else if byte / 32 = 6 then some 2
  else if byte / 16 = 14 then some 3
  else if byte / 8 = 30 then some 4
  else none

def percentByte? : List Cell → Option (Nat × List Cell)
  | p :: a :: b :: rest =>
    if p.char = '%' then (Numeral.nat? 16 [a.char, b.char]).map (·, rest) else none
  | _ => none

/-- The bytes that continue an encoded character. -/
def continuation : Nat → Nat → List Cell → Option (Nat × List Cell)
  | 0, n, cells => some (n, cells)
  | k + 1, n, cells => do
    let (byte, rest) ← percentByte? cells
    if byte / 64 = 2 then continuation k (64 * n + byte % 64) rest else none

/-- A character that is written by its bytes, each as `%` and two digits. -/
def percentChar? (cells : List Cell) : Option (Char × List Cell) := do
  let (first, rest) ← percentByte? cells
  let size ← encodedLength? first
  let head := if size = 1 then first else first % Nat.pow 2 (7 - size)
  let (n, rest) ← continuation (size - 1) head rest
  if n.isValidChar then some (Char.ofNat n, rest) else none

/-- The characters of a tag. Only a tag in angle brackets holds commas and square brackets. -/
def address (verbatim : Bool) : Nat → List Cell → Option (List Char × List Cell)
  | 0, _ => none
  | fuel + 1, cells =>
    match cells with
    | [] => some ([], [])
    | c :: rest =>
      if c.char = '%' then do
        let (char, rest) ← percentChar? cells
        let (text, rest) ← address verbatim fuel rest
        return (char :: text, rest)
      else if c.isName || addressMarks.contains c.char ||
          (verbatim && [',', '[', ']'].contains c.char) then do
        let (text, rest) ← address verbatim fuel rest
        return (c.char :: text, rest)
      else some ([], cells)

def address? (verbatim : Bool) (cells : List Cell) : Option (String × List Cell) :=
  (address verbatim (cells.length + 1) cells).map fun (text, rest) => (String.ofList text, rest)

/-- The handle `!name!` or its beginning, behind the first mark. -/
def handle (cells : List Cell) : String × List Cell :=
  match cells.dropWhile Cell.isName with
  | c :: rest =>
    if c.char = '!' then ("!" ++ nameText cells ++ "!", rest)
    else ("!" ++ nameText cells, c :: rest)
  | [] => ("!" ++ nameText cells, [])

/-- Reads a tag behind its mark. -/
def tag? (inFlow : Bool) (cells : List Cell) : Option (Token × List Cell) := do
  let (token, rest) ←
    if startsWith ['<'] cells then do
      let (text, rest) ← address? true cells.tail
      if text = "" || !startsWith ['>'] rest then none
      pure (.tag "" text, rest.tail)
    else do
      let (start, rest) := handle cells
      if start ≠ "!" ∧ start.endsWith "!" then
        let (suffix, rest) ← address? false rest
        if suffix = "" then none
        pure (.tag start suffix, rest)
      else
        let (suffix, rest) ← address? false rest
        let suffix := String.ofList (start.toList.drop 1) ++ suffix
        pure (if suffix = "" then .tag "" "!" else .tag "!" suffix, rest)
  if atSpace rest || (inFlow && startsWith [','] rest) then some (token, rest) else none

def versionNumber? (cells : List Cell) : Option (Nat × List Cell) :=
  let digits := (cells.takeWhile fun c => Numeral.isDigit c.char).map Cell.char
  if digits.length ≤ 9 then
    (Numeral.nat? 10 digits).map (·, cells.dropWhile fun c => Numeral.isDigit c.char)
  else none

/-- Reads a directive behind its mark. -/
def directive? (cells : List Cell) : Option (Token × List Cell) := do
  let rest := cells.dropWhile Cell.isName
  if !atSpace rest then none
  let rest := rest.dropWhile Cell.isBlank
  let (token, rest) ←
    if nameText cells = "YAML" then do
      let (major, rest) ← versionNumber? rest
      if !startsWith ['.'] rest then none
      let (minor, rest) ← versionNumber? rest.tail
      pure (.version major minor, rest)
    else if nameText cells = "TAG" then do
      if !startsWith ['!'] rest then none
      let (start, rest) := handle rest.tail
      if (start ≠ "!" ∧ !start.endsWith "!") ∨ !rest.head?.any Cell.isBlank then none
      let (text, rest) ← address? true (rest.dropWhile Cell.isBlank)
      if text = "" || !atSpace rest then none
      pure (.tagHandle start text, rest)
    else none
  return (token, ← restOfLine? rest)

/-! ### Scanning -/

/-- A place where a key without a mark may have begun. -/
structure KeyPlace where
  /-- The number of tokens before it. -/
  tokens : Nat
  line : Nat
  column : Nat
  index : Nat
  /-- Whether nothing but a key can stand there. -/
  required : Bool
deriving DecidableEq, Repr

structure Scan where
  rest : List Cell
  /-- The tokens that were found, the latest first. -/
  tokens : List Token := []
  count : Nat := 0
  /-- The columns of the open block collections, the innermost first. -/
  indents : List Nat := []
  key : Option KeyPlace := none
  /-- The key places around the open brackets. -/
  outer : List (Option KeyPlace) := []
  keyAllowed : Bool := true
deriving Repr

namespace Scan

def inFlow (s : Scan) : Bool :=
  !s.outer.isEmpty

def push (s : Scan) (t : Token) : Scan :=
  { s with tokens := t :: s.tokens, count := s.count + 1 }

/-- Puts a token in behind the first `place` tokens. -/
def insert (s : Scan) (place : Nat) (t : Token) : Scan :=
  { s with tokens := s.tokens.insertIdx (s.count - place) t, count := s.count + 1 }

/-- Opens a block collection at a column further right than the innermost. -/
def roll (s : Scan) (column place : Nat) (t : Token) : Scan :=
  if s.inFlow || s.indents.head?.any (column ≤ ·) then s
  else { s.insert place t with indents := column :: s.indents }

/-- Closes block collections until the given ones are left. -/
def unrollTo (s : Scan) (kept : List Nat) : Scan :=
  let closed := s.indents.length - kept.length
  { s with
    tokens := List.replicate closed .blockEnd ++ s.tokens
    count := s.count + closed
    indents := kept }

/-- Closes the block collections right of a column. -/
def unroll (s : Scan) (column : Nat) : Scan :=
  if s.inFlow then s else s.unrollTo (s.indents.dropWhile (column < ·))

def unrollAll (s : Scan) : Scan :=
  if s.inFlow then s else s.unrollTo []

/-- Gives up the key place. Fails if a key had to stand there. -/
def removeKey (s : Scan) : Option Scan :=
  if s.key.any (·.required) then none else some { s with key := none }

def saveKey (s : Scan) (at_ : Cell) : Option Scan :=
  if s.keyAllowed then do
    let s ← s.removeKey
    let required := !s.inFlow && s.indents.head? == some at_.column
    return { s with key := some ⟨s.count, at_.line, at_.column, at_.index, required⟩ }
  else some s

/-- A key ends on the line where it began and has at most 1024 characters. -/
def fresh? (at_ : Cell) (key : Option KeyPlace) : Option (Option KeyPlace) :=
  match key with
  | none => some none
  | some k =>
    if k.line < at_.line ∨ k.index + 1024 < at_.index then
      if k.required then none else some none
    else some (some k)

def dropStale (s : Scan) (at_ : Cell) : Option Scan := do
  return { s with key := ← fresh? at_ s.key, outer := ← s.outer.mapM (fresh? at_) }

/-- Drops blanks, comments and line breaks. Outside brackets a key may begin on a new line, and where
one may begin a tab is no blank. -/
def skipBlanks (inFlow : Bool) : (inComment keyAllowed : Bool) → List Cell → List Cell × Bool
  | _, keyAllowed, [] => ([], keyAllowed)
  | inComment, keyAllowed, c :: rest =>
    if c.isBreak then skipBlanks inFlow false (keyAllowed || !inFlow) rest
    else if inComment || c.char == '#' then skipBlanks inFlow true keyAllowed rest
    else if c.char == ' ' || (c.char == '\t' && (inFlow || !keyAllowed)) ||
        (c.char == '\ufeff' && c.index == 0) then
      skipBlanks inFlow false keyAllowed rest
    else (c :: rest, keyAllowed)

def skip (s : Scan) : Scan :=
  let (rest, keyAllowed) := skipBlanks s.inFlow false s.keyAllowed s.rest
  { s with rest, keyAllowed }

/-! #### Tokens by their first character -/

def documentMark (s : Scan) (t : Token) : Option Scan := do
  let s ← s.unrollAll.removeKey
  return { s.push t with rest := s.rest.drop 3, keyAllowed := false }

def directive (s : Scan) : Option Scan := do
  let s ← s.unrollAll.removeKey
  let (t, rest) ← directive? s.rest.tail
  return { s.push t with rest, keyAllowed := false }

def openBracket (s : Scan) (at_ : Cell) (t : Token) : Option Scan := do
  let s ← s.saveKey at_
  return { s.push t with
    rest := s.rest.tail, outer := s.key :: s.outer, key := none, keyAllowed := true }

def closeBracket (s : Scan) (t : Token) : Option Scan := do
  let s ← s.removeKey
  let (key, outer) := match s.outer with
    | [] => (none, [])
    | key :: outer => (key, outer)
  return { s.push t with rest := s.rest.tail, key, outer, keyAllowed := false }

def flowEntry (s : Scan) : Option Scan := do
  let s ← s.removeKey
  return { s.push .flowEntry with rest := s.rest.tail, keyAllowed := true }

/-- Outside brackets the marks of entries, keys and values stand only where a key may begin. -/
def blockMark (s : Scan) (at_ : Cell) (collection mark : Token) : Option Scan := do
  if !s.inFlow && !s.keyAllowed then none
  let s := s.roll at_.column s.count collection
  let s ← s.removeKey
  return { s.push mark with rest := s.rest.tail, keyAllowed := mark == .blockEntry || !s.inFlow }

def valueMark (s : Scan) (at_ : Cell) : Option Scan :=
  match s.key with
  | some k =>
    let s := (s.insert k.tokens .key).roll k.column k.tokens .blockMapping
    some { s.push .value with rest := s.rest.tail, key := none, keyAllowed := false }
  | none => s.blockMark at_ .blockMapping .value

/-- A token that may begin a key and after which none may begin. -/
def begin (s : Scan) (at_ : Cell) (t : Token) (rest : List Cell) : Option Scan := do
  let s ← s.saveKey at_
  return { s.push t with rest, keyAllowed := false }

def blockScalar (s : Scan) (literal : Bool) : Option Scan := do
  let s ← s.removeKey
  let (text, rest) ← block? literal s.indents.head? s.rest.tail
  return { s.push (.scalar (String.ofList text) false) with rest, keyAllowed := true }

def quotedScalar (s : Scan) (at_ : Cell) : Option Scan := do
  let (text, rest) ← quoted at_.char (s.rest.length + 1) s.rest.tail
  s.begin at_ (.scalar (String.ofList text) false) rest

def plainScalar (s : Scan) (at_ : Cell) : Option Scan := do
  let indent := match s.indents with
    | [] => 0
    | n :: _ => n + 1
  let scalar ← plain s.inFlow indent (s.rest.length + 1) [] s.rest
  let s ← s.begin at_ (.scalar (String.ofList scalar.text) true) scalar.rest
  return { s with keyAllowed := scalar.broken }

/-- The characters that begin no plain scalar. -/
def indicators : List Char :=
  ['-', '?', ':', ',', '[', ']', '\x7b', '\x7d', '#', '&', '*', '!', '|', '>', '\'', '"', '%', '@',
    '\x60']

def startsPlain (inFlow : Bool) (c : Cell) (rest : List Cell) : Bool :=
  !(c.isSpace || indicators.contains c.char) ||
    (c.char == '-' && !rest.head?.any Cell.isBlank) ||
    (!inFlow && (c.char == '?' || c.char == ':') && !atSpace rest)

/-- Reads the token that begins at the cell `c`. -/
def token (s : Scan) (c : Cell) (rest : List Cell) : Option Scan :=
  if c.column = 0 ∧ c.char = '%' then s.directive
  else if atMark '-' s.rest then s.documentMark .documentStart
  else if atMark '.' s.rest then s.documentMark .documentEnd
  else if c.char = '[' then s.openBracket c .flowSequence
  else if c.char = '\x7b' then s.openBracket c .flowMapping
  else if c.char = ']' then s.closeBracket .flowSequenceEnd
  else if c.char = '\x7d' then s.closeBracket .flowMappingEnd
  else if c.char = ',' then s.flowEntry
  else if c.char = '-' ∧ atSpace rest then s.blockMark c .blockSequence .blockEntry
  else if c.char = '?' ∧ (s.inFlow ∨ atSpace rest) then s.blockMark c .blockMapping .key
  else if c.char = ':' ∧ (s.inFlow ∨ atSpace rest) then s.valueMark c
  else if c.char = '*' then do
    let (name, left) ← name? rest
    s.begin c (.aliasFor name) left
  else if c.char = '&' then do
    let (name, left) ← name? rest
    s.begin c (.anchor name) left
  else if c.char = '!' then do
    let (tag, left) ← tag? s.inFlow rest
    s.begin c tag left
  else if c.char = '|' ∧ !s.inFlow then s.blockScalar true
  else if c.char = '>' ∧ !s.inFlow then s.blockScalar false
  else if c.char = '\'' ∨ c.char = '"' then s.quotedScalar c
  else if startsPlain s.inFlow c rest then s.plainScalar c
  else none

/-- Every token takes at least one cell. -/
def run : Nat → Scan → Option (List Token)
  | 0, _ => none
  | fuel + 1, s =>
    let s := s.skip
    match s.rest with
    | [] => do
      let s ← s.unrollAll.removeKey
      return s.tokens.reverse
    | c :: rest => do
      let s ← s.dropStale c
      run fuel (← (s.unroll c.column).token c rest)

end Scan

def tokens? (text : String) : Option (List Token) := do
  let cells ← cells? text
  Scan.run (cells.length + 1) { rest := cells }

end LayerCheck.Yaml
