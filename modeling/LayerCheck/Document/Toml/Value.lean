import LayerCheck.Document.Basic
import LayerCheck.Document.Numeral
import LayerCheck.Document.Toml.Table

/-!
Keys and values of TOML texts. Each reader takes the characters that are left and gives the rest, or
fails.
-/

namespace LayerCheck.Toml

abbrev Reader := StateT (List Char) Option

namespace Reader

def peek? : Reader (Option Char) :=
  return (← get).head?

/-- Takes the next character if it satisfies `p`. -/
def char? (p : Char → Bool) : Reader (Option Char) := do
  match ← get with
  | c :: rest =>
    if p c then
      set rest
      return some c
    else return none
  | [] => return none

def char (p : Char → Bool) : Reader Char := do
  match ← char? p with
  | some c => return c
  | none => failure

def takeWhile (p : Char → Bool) : Reader (List Char) := do
  let cs ← get
  set (cs.dropWhile p)
  return cs.takeWhile p

/-- Takes the given text if it stands next. -/
def text? (s : String) : Reader Bool := do
  let cs ← get
  if s.toList.isPrefixOf cs then
    set (cs.drop s.length)
    return true
  else return false

def text (s : String) : Reader Unit := do
  if !(← text? s) then failure

/-- Runs a reader, and takes nothing if it fails. -/
def optional {α : Type} (r : Reader α) : Reader (Option α) := fun cs =>
  match r cs with
  | some (a, rest) => some (some a, rest)
  | none => some (none, cs)

def blanks : Reader Unit := do
  let _ ← takeWhile fun c => c == ' ' || c == '\t'

def newline? : Reader Bool := do
  if ← text? "\n" then return true else text? "\r\n"

/-- Tabs and the printable characters. -/
def isPrintable (c : Char) : Bool :=
  c == '\t' || (' ' ≤ c && c != '\x7f')

def comment : Reader Unit := do
  if ← text? "#" then
    let _ ← takeWhile isPrintable

/-- What may follow on the line of a header or an entry. -/
def endOfLine : Reader Unit := do
  blanks
  comment
  if !(← get).isEmpty then
    if !(← newline?) then failure

/-- Blanks, comments and line breaks. -/
def space : Nat → Reader Unit
  | 0 => failure
  | fuel + 1 => do
    blanks
    comment
    if ← newline? then space fuel

/-! ### Strings -/

def code (size : Nat) : Reader Char := do
  let cs ← get
  let n ← Numeral.nat? 16 (cs.take size)
  if (cs.take size).length = size ∧ n.isValidChar then
    set (cs.drop size)
    return Char.ofNat n
  else failure

/-- An escape behind its backslash. -/
def escape : Reader Char := do
  match ← char fun _ => true with
  | 'b' => return '\x08'
  | 'f' => return '\x0c'
  | 'n' => return '\n'
  | 'r' => return '\r'
  | 't' => return '\t'
  | '"' => return '"'
  | '\\' => return '\\'
  | 'u' => code 4
  | 'U' => code 8
  | _ => failure

def basicText : Nat → Reader (List Char)
  | 0 => failure
  | fuel + 1 => do
    match ← char fun _ => true with
    | '"' => return []
    | '\\' =>
      let c ← escape
      return c :: (← basicText fuel)
    | c => if isPrintable c then return c :: (← basicText fuel) else failure

def literalText : Reader (List Char) := do
  let cs ← takeWhile fun c => isPrintable c && c != '\''
  text "'"
  return cs

/-- The line breaks and blanks that an escaped line break swallows. -/
def swallow : Nat → Reader Unit
  | 0 => failure
  | fuel + 1 => do
    blanks
    if ← newline? then swallow fuel

/-- Whether a backslash ends its line, with blanks behind it at most. -/
def endsLine (cs : List Char) : Bool :=
  match cs.dropWhile fun c => c == ' ' || c == '\t' with
  | '\n' :: _ => true
  | '\r' :: '\n' :: _ => true
  | _ => false

/-- The text up to three quotes. Up to two more quotes before them belong to the text. -/
def longText (quote : Char) (escapes : Bool) : Nat → Reader (List Char)
  | 0 => failure
  | fuel + 1 => do
    let cs ← get
    let quotes := (cs.takeWhile (· == quote)).length
    if quotes ≥ 3 then
      if quotes > 5 then failure
      set (cs.drop quotes)
      return List.replicate (quotes - 3) quote
    else if ← newline? then
      return '\n' :: (← longText quote escapes fuel)
    else
      let c ← char isPrintable
      if escapes ∧ c = '\\' then
        if endsLine (← get) then
          swallow fuel
          longText quote escapes fuel
        else
          let c ← escape
          return c :: (← longText quote escapes fuel)
      else
        return c :: (← longText quote escapes fuel)

/-- A line break right behind the opening quotes is dropped. -/
def longString (quote : Char) (escapes : Bool) (fuel : Nat) : Reader (List Char) := do
  let _ ← newline?
  longText quote escapes fuel

/-- A string of any kind. -/
def string (fuel : Nat) : Reader String := do
  if ← text? "\"\"\"" then return String.ofList (← longString '"' true fuel)
  else if ← text? "'''" then return String.ofList (← longString '\'' false fuel)
  else if ← text? "\"" then return String.ofList (← basicText fuel)
  else
    text "'"
    return String.ofList (← literalText)

/-! ### Keys -/

def isBare (c : Char) : Bool :=
  c.isAlphanum || c == '-' || c == '_'

/-- A key without dots: bare, or a string on one line. -/
def simpleKey (fuel : Nat) : Reader String := do
  if ← text? "\"" then return String.ofList (← basicText fuel)
  else if ← text? "'" then return String.ofList (← literalText)
  else
    let cs ← takeWhile isBare
    if cs.isEmpty then failure
    return String.ofList cs

def dottedKey : Nat → Reader (List String)
  | 0 => failure
  | fuel + 1 => do
    blanks
    let k ← simpleKey fuel
    blanks
    if ← text? "." then return k :: (← dottedKey fuel) else return [k]

/-- The bound on the parts of a key and on the nesting of values. -/
def maxDepth : Nat := 80

def key (fuel : Nat) : Reader (List String) := do
  let path ← dottedKey fuel
  if path.length < maxDepth then return path else failure

/-! ### Dates -/

/-- A number of so many digits, at least `lo` and at most `hi`. -/
def twoDigits (lo hi : Nat) : Reader (List Char) := do
  let cs := (← get).take 2
  let n ← Numeral.nat? 10 cs
  if cs.length = 2 ∧ lo ≤ n ∧ n ≤ hi then
    set ((← get).drop 2)
    return cs
  else failure

def isLeap (year : Nat) : Bool :=
  year % 4 == 0 && (year % 100 != 0 || year % 400 == 0)

def daysIn (year month : Nat) : Nat :=
  if month = 2 then if isLeap year then 29 else 28
  else if [4, 6, 9, 11].contains month then 30
  else 31

def date : Reader (List Char) := do
  let year := (← get).take 4
  let y ← Numeral.nat? 10 year
  if year.length ≠ 4 then failure
  set ((← get).drop 4)
  text "-"
  let month ← twoDigits 1 12
  text "-"
  let day ← twoDigits 1 (daysIn y (Numeral.value 10 month))
  return year ++ '-' :: month ++ '-' :: day

/-- The fraction of a second, to nine places and without zeros at the end. -/
def fraction : Reader (List Char) := do
  if ← text? "." then
    let digits ← takeWhile Numeral.isDigit
    if digits.isEmpty then failure
    let kept := ((digits.take 9).reverse.dropWhile (· == '0')).reverse
    return if kept.isEmpty then [] else '.' :: kept
  else return []

def time : Reader (List Char) := do
  let hour ← twoDigits 0 23
  text ":"
  let minute ← twoDigits 0 59
  text ":"
  let second ← twoDigits 0 60
  return hour ++ ':' :: minute ++ ':' :: second ++ (← fraction)

/-- An offset of no minutes has the sign `+`. -/
def offset : Reader (List Char) := do
  if (← char? fun c => c == 'Z' || c == 'z').isSome then return ['Z']
  else
    let sign ← char fun c => c == '+' || c == '-'
    let hour ← twoDigits 0 23
    text ":"
    let minute ← twoDigits 0 59
    let zero := hour == ['0', '0'] && minute == ['0', '0']
    return (if zero then '+' else sign) :: hour ++ ':' :: minute

def dateTime : Reader (List Char) := do
  let day ← date
  match ← optional (do
      let _ ← char fun c => c == 'T' || c == 't' || c == ' '
      time) with
  | none => return day
  | some hours =>
    let zone ← optional offset
    return day ++ 'T' :: hours ++ zone.getD []

/-- A date or a time is an object with this one key. -/
def dateKey : String := "$__toml_private_datetime"

def ofDate (cs : List Char) : Document :=
  .object [(dateKey, .text (String.ofList cs))]

/-! ### Numbers -/

/-- Digits with single underscores between them. -/
def digits (isDigit : Char → Bool) : Nat → Reader (List Char)
  | 0 => failure
  | fuel + 1 => do
    let c ← char isDigit
    let more ← takeWhile isDigit
    if ← text? "_" then return c :: more ++ (← digits isDigit fuel) else return c :: more

def sign : Reader (List Char) :=
  return (← char? fun c => c == '+' || c == '-').toList

/-- A decimal whole number without zeros in front. -/
def decimal (fuel : Nat) : Reader (List Char) := do
  if (← peek?) = some '0' then return [← char fun _ => true] else digits Numeral.isDigit fuel

def exponent (fuel : Nat) : Reader (List Char) := do
  let e ← char fun c => c == 'e' || c == 'E'
  let s ← sign
  return e :: s ++ (← digits Numeral.isDigit fuel)

/-- A number with a fraction or an exponent. One beyond the greatest is refused, one below the least
is null like the infinities. -/
def real (fuel : Nat) : Reader Document := do
  let s ← sign
  let whole ← decimal fuel
  let tail ←
    if ← text? "." then do
      let part ← digits Numeral.isDigit fuel
      let e ← optional (exponent fuel)
      pure ('.' :: part ++ e.getD [])
    else exponent fuel
  let d ← Numeral.decimal? (whole ++ tail)
  if d.overflows then
    if s = ['-'] then return .null else failure
  else return .real (String.ofList (s ++ whole ++ tail))

def special : Reader Document := do
  let _ ← sign
  if ← text? "inf" then return .null
  text "nan"
  return .null

def ofInt (n : Int) : Reader Document :=
  if -Int.pow 2 63 ≤ n ∧ n < Int.pow 2 63 then return .int n else failure

def based (base : Nat) (fuel : Nat) : Reader Document := do
  let cs ← digits (fun c => (Numeral.digit? base c).isSome) fuel
  ofInt (Numeral.value base cs)

def int (fuel : Nat) : Reader Document := do
  if ← text? "0x" then based 16 fuel
  else if ← text? "0o" then based 8 fuel
  else if ← text? "0b" then based 2 fuel
  else
    let s ← sign
    let n := Numeral.value 10 (← decimal fuel)
    ofInt (if s = ['-'] then -n else n)

/-- What begins with a digit or a sign: a date, a time or a number. -/
def numeric (fuel : Nat) : Reader Document := do
  match ← optional dateTime with
  | some cs => return ofDate cs
  | none =>
    match ← optional time with
    | some cs => return ofDate cs
    | none =>
      match ← optional (real fuel) with
      | some d => return d
      | none =>
        match ← optional special with
        | some d => return d
        | none => int fuel

/-! ### Values -/

mutual

/-- A value with at most `depth` brackets around each of its parts. -/
def value (depth : Nat) : Nat → Reader Document
  | 0 => failure
  | fuel + 1 => do
    match ← peek? with
    | none => failure
    | some c =>
      if c = '"' ∨ c = '\'' then return .text (← string fuel)
      else if c = '[' then
        if depth = 0 then failure
        text "["
        return .list (← items (depth - 1) fuel)
      else if c = '\x7b' then
        if depth = 0 then failure
        text "\x7b"
        blanks
        let entries ← inlineEntries (depth - 1) [] fuel
        return toDocument entries
      else if Numeral.isDigit c ∨ c = '+' ∨ c = '-' then numeric fuel
      else if ← text? "true" then return .bool true
      else if ← text? "false" then return .bool false
      else special

/-- The values up to the closing bracket; a comma may stand behind the last one. -/
def items (depth : Nat) : Nat → Reader (List Document)
  | 0 => failure
  | fuel + 1 => do
    space fuel
    if ← text? "]" then return []
    let v ← value depth fuel
    space fuel
    if ← text? "," then return v :: (← items depth fuel)
    else
      text "]"
      return [v]

/-- The entries up to the closing brace. -/
def inlineEntries (depth : Nat) (entries : Entries) : Nat → Reader Entries
  | 0 => failure
  | fuel + 1 => do
    if entries.isEmpty then
      if ← text? "\x7d" then return []
    let path ← key fuel
    text "="
    blanks
    let v ← value depth fuel
    blanks
    let entries ← entries.assign? path v
    if ← text? "," then inlineEntries depth entries fuel
    else
      text "\x7d"
      return entries

end

end Reader

end LayerCheck.Toml
