import LayerCheck.Document.Numeral
import LayerCheck.Document.Yaml.Cell

/-!
The texts of YAML scalars: quoted, plain and block scalars. Reading fails on a text that is no scalar
of the kind that was begun.
-/

namespace LayerCheck.Yaml

/-! ### Folding -/

/-- What a run of blanks and line breaks inside a scalar stands for: blanks for themselves, one line
break for a blank, more for one less. -/
def folded (spaces : List Cell) : List Char :=
  match (spaces.filter Cell.isBreak).map Cell.char with
  | [] => spaces.map Cell.char
  | ['\n'] => [' ']
  | '\n' :: more => more
  | breaks => breaks

/-! ### Quoted scalars -/

def escapes : List (Char × Char) :=
  [('0', '\x00'), ('a', '\x07'), ('b', '\x08'), ('t', '\t'), ('\t', '\t'), ('n', '\n'),
    ('v', '\x0b'), ('f', '\x0c'), ('r', '\r'), ('e', '\x1b'), (' ', ' '), ('"', '"'), ('/', '/'),
    ('\\', '\\'), ('N', '\u0085'), ('_', '\u00a0'), ('L', '\u2028'), ('P', '\u2029')]

/-- The number of hexadecimal digits behind the letters `x`, `u` and `U`. -/
def codeLengths : List (Char × Nat) :=
  [('x', 2), ('u', 4), ('U', 8)]

def code? (digits : List Char) (size : Nat) : Option Char := do
  if digits.length ≠ size then none
  let n ← Numeral.nat? 16 digits
  if n.isValidChar then some (Char.ofNat n) else none

/-- Reads an escape behind its backslash. An escaped line break stands for nothing, the line breaks
that follow it for themselves. -/
def escape? : List Cell → Option (List Char × List Cell)
  | [] => none
  | c :: rest =>
    if c.isBreak then
      some (((rest.takeWhile Cell.isSpace).filter Cell.isBreak).map Cell.char,
        rest.dropWhile Cell.isSpace)
    else
      match escapes.lookup c.char, codeLengths.lookup c.char with
      | some char, _ => some ([char], rest)
      | none, some size =>
        (code? ((rest.take size).map Cell.char) size).map fun char => ([char], rest.drop size)
      | none, none => none

/-- Reads a quoted scalar behind its opening quote. -/
def quoted (quote : Char) : Nat → List Cell → Option (List Char × List Cell)
  | 0, _ => none
  | fuel + 1, cells =>
    if startsWith [quote] cells then
      match cells.tail with
      | c :: rest =>
        if quote = '\'' ∧ c.char = '\'' then
          (quoted quote fuel rest).map fun (text, rest) => ('\'' :: text, rest)
        else
          some ([], c :: rest)
      | [] => some ([], [])
    else if atDocumentMark cells then
      none
    else
      match cells with
      | [] => none
      | c :: rest =>
        if c.isSpace then do
          let (text, left) ← quoted quote fuel (cells.dropWhile Cell.isSpace)
          return (folded (cells.takeWhile Cell.isSpace) ++ text, left)
        else if quote = '"' ∧ c.char = '\\' then do
          let (chars, rest) ← escape? rest
          let (text, rest) ← quoted quote fuel rest
          return (chars ++ text, rest)
        else do
          let (text, rest) ← quoted quote fuel rest
          return (c.char :: text, rest)

/-! ### Plain scalars -/

def flowMarks : List Char := [',', '[', ']', '\x7b', '\x7d']

/-- The characters up to a blank or to what ends a plain scalar. Between brackets a colon must not
stand right before a mark. -/
def plainWord (inFlow : Bool) : List Cell → Option (List Char × List Cell)
  | [] => some ([], [])
  | c :: rest =>
    if c.isSpace then some ([], c :: rest)
    else if inFlow && c.char == ':' && startsWith ('?' :: flowMarks) rest then none
    else if (c.char == ':' && atSpace rest) || (inFlow && flowMarks.contains c.char) then
      some ([], c :: rest)
    else
      (plainWord inFlow rest).map fun (text, left) => (c.char :: text, left)

structure PlainScalar where
  text : List Char
  rest : List Cell
  /-- Whether a line break lies between the text and the rest. -/
  broken : Bool

/-- Whether a tab indents a line less than `indent`. -/
def tabIndents (indent : Nat) (spaces : List Cell) : Bool :=
  (spaces.dropWhile fun c => !c.isBreak).any fun c => c.char == '\t' && c.column < indent

/-- Whether the text goes on, at a column left of `indent`. -/
def leftOf (indent : Nat) : List Cell → Bool
  | [] => false
  | c :: _ => c.column < indent

/-- Reads on behind the blanks `spaces`. -/
def plain (inFlow : Bool) (indent : Nat) :
    Nat → (spaces : List Cell) → List Cell → Option PlainScalar
  | 0, _, _ => none
  | fuel + 1, spaces, cells =>
    if atDocumentMark cells || startsWith ['#'] cells then
      some ⟨[], cells, spaces.any Cell.isBreak⟩
    else do
      let (word, rest) ← plainWord inFlow cells
      if word.isEmpty then
        return ⟨[], cells, spaces.any Cell.isBreak⟩
      let text := folded spaces ++ word
      let more := rest.takeWhile Cell.isSpace
      let left := rest.dropWhile Cell.isSpace
      if more.isEmpty then
        return ⟨text, rest, false⟩
      if tabIndents indent more then none
      if !inFlow && leftOf indent left then
        return ⟨text, left, more.any Cell.isBreak⟩
      let s ← plain inFlow indent fuel more left
      return { s with text := text ++ s.text }

/-! ### Block scalars -/

/-- What becomes of the line breaks at the end of a block scalar. -/
inductive Chomping where
  | strip
  | clip
  | keep
deriving DecidableEq, Repr

def chomping? : List Cell → Option (Chomping × List Cell)
  | [] => none
  | c :: rest =>
    if c.char = '+' then some (.keep, rest)
    else if c.char = '-' then some (.strip, rest)
    else none

/-- An indentation that is given by a digit from 1 to 9; none is given by anything else but 0. -/
def indentation? : List Cell → Option (Option Nat × List Cell)
  | [] => some (none, [])
  | c :: rest =>
    if c.char = '0' then none
    else if Numeral.isDigit c.char then some (Numeral.digit? 10 c.char, rest)
    else some (none, c :: rest)

/-- The two marks behind the indicator may stand in either order. -/
def blockHeader? (cells : List Cell) : Option (Chomping × Option Nat × List Cell) :=
  match chomping? cells with
  | some (chomping, rest) => (indentation? rest).map fun (indent, rest) => (chomping, indent, rest)
  | none => do
    let (indent, rest) ← indentation? cells
    match indent, chomping? rest with
    | some _, some (chomping, rest) => return (chomping, indent, rest)
    | _, _ => return (.clip, indent, rest)

/-- Drops blanks and a comment up to the end of the line, and the line break. -/
def restOfLine? (cells : List Cell) : Option (List Cell) :=
  let cells := cells.dropWhile Cell.isBlank
  let cells := if startsWith ['#'] cells then cells.dropWhile fun c => !c.isBreak else cells
  match cells with
  | [] => some []
  | c :: rest => if c.isBreak then some rest else none

/-- Empty lines, with the largest column that was reached. A tab must not indent. -/
def emptyLines (limit : Option Nat) (deepest : Nat) :
    List Cell → Option (List Char × Nat × List Cell)
  | [] => some ([], deepest, [])
  | c :: rest =>
    let indents := limit.all (c.column < ·)
    if indents && c.char == ' ' then emptyLines limit deepest rest
    else if indents && c.char == '\t' then none
    else if c.isBreak then
      (emptyLines limit (max deepest c.column) rest).map fun (breaks, left) =>
        (c.char :: breaks, left)
    else some ([], max deepest c.column, c :: rest)

structure BlockScalar where
  text : List Char
  lastBreak : List Char
  emptyLines : List Char
  rest : List Cell

/-- The lines at column `indent`. In a folded scalar a line break between two lines that begin with
no blank stands for a blank, or for nothing if empty lines follow it. -/
def blockLines (literal : Bool) (indent : Nat) :
    Nat → (lastBreak breaks : List Char) → (afterBlank : Bool) → List Cell → Option BlockScalar
  | 0, _, _, _, _ => none
  | fuel + 1, lastBreak, breaks, afterBlank, cells =>
    match cells with
    | [] => some ⟨[], lastBreak, breaks, []⟩
    | c :: _ =>
      if c.column ≠ indent then some ⟨[], lastBreak, breaks, cells⟩
      else do
        let folds := !literal && lastBreak == ['\n'] && !afterBlank && !c.isBlank
        let joint := if !folds then lastBreak else if breaks.isEmpty then [' '] else []
        let line := (cells.takeWhile fun c => !c.isBreak).map Cell.char
        let rest := cells.dropWhile fun c => !c.isBreak
        let (more, _, left) ← emptyLines (some indent) 0 rest.tail
        let s ← blockLines literal indent fuel ((rest.take 1).map Cell.char) more c.isBlank left
        return { s with text := joint ++ breaks ++ line ++ s.text }

/-- Reads a block scalar behind its indicator. `parent` is the indentation around it, if any. -/
def block? (literal : Bool) (parent : Option Nat) (cells : List Cell) :
    Option (List Char × List Cell) := do
  let (chomping, given, rest) ← blockHeader? cells
  let rest ← restOfLine? rest
  let limit := given.map (parent.getD 0 + ·)
  let (breaks, deepest, rest) ← emptyLines limit 0 rest
  let least := match parent with
    | some n => n + 1
    | none => 1
  let indent := limit.getD (max deepest least)
  let s ← blockLines literal indent (rest.length + 1) [] breaks false rest
  let tail := match chomping with
    | .strip => []
    | .clip => s.lastBreak
    | .keep => s.lastBreak ++ s.emptyLines
  return (s.text ++ tail, s.rest)

end LayerCheck.Yaml
