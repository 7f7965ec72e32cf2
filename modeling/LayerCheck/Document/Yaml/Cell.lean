/-!
The characters of a YAML text with their places. Line breaks of all kinds are one cell each; the
carriage return, the line feed, the pair of both and the next-line character all read as a line feed.
-/

namespace LayerCheck.Yaml

structure Cell where
  char : Char
  line : Nat
  column : Nat
  /-- The number of characters before the cell. -/
  index : Nat
deriving DecidableEq, Repr

def isBreak (c : Char) : Bool :=
  c == '\n' || c == '\r' || c == '\u0085' || c == '\u2028' || c == '\u2029'

def breakChar (c : Char) : Char :=
  if c = '\u2028' ∨ c = '\u2029' then c else '\n'

/-- Control characters have no place in a YAML text. -/
def isAllowed (c : Char) : Bool :=
  let n := c.toNat
  n == 9 || n == 10 || n == 13 || (0x20 ≤ n && n ≤ 0x7e) || n == 0x85 ||
    (0xa0 ≤ n && n ≤ 0xfffd) || 0x10000 ≤ n

def cellsFrom (line column index : Nat) : List Char → List Cell
  | [] => []
  | '\r' :: '\n' :: cs => ⟨'\n', line, column, index⟩ :: cellsFrom (line + 1) 0 (index + 2) cs
  | c :: cs =>
    if isBreak c then
      ⟨breakChar c, line, column, index⟩ :: cellsFrom (line + 1) 0 (index + 1) cs
    else
      ⟨c, line, column, index⟩ :: cellsFrom line (column + 1) (index + 1) cs

def cells? (text : String) : Option (List Cell) :=
  if text.toList.all isAllowed then some (cellsFrom 0 0 0 text.toList) else none

namespace Cell

def isBreak (c : Cell) : Bool :=
  Yaml.isBreak c.char

def isBlank (c : Cell) : Bool :=
  c.char == ' ' || c.char == '\t'

def isSpace (c : Cell) : Bool :=
  c.isBlank || c.isBreak

/-- The characters of names: anchors, handles, directives. -/
def isName (c : Cell) : Bool :=
  c.char.isAlphanum || c.char == '_' || c.char == '-'

end Cell

/-- Whether the text ends here or goes on with a blank or a line break. -/
def atSpace : List Cell → Bool
  | [] => true
  | c :: _ => c.isSpace

/-- Whether the next character is one of those given. -/
def startsWith (chars : List Char) : List Cell → Bool
  | [] => false
  | c :: _ => chars.contains c.char

/-- Whether the marks `---` or `...` of a document stand here. -/
def atMark (mark : Char) : List Cell → Bool
  | a :: b :: c :: rest =>
    a.column == 0 && a.char == mark && b.char == mark && c.char == mark && atSpace rest
  | _ => false

def atDocumentMark (cells : List Cell) : Bool :=
  atMark '-' cells || atMark '.' cells

end LayerCheck.Yaml
