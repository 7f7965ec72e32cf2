/-!
Numerals: digits in a base, and decimal numbers with fraction and exponent.
-/

namespace LayerCheck.Numeral

def digit? (base : Nat) (c : Char) : Option Nat :=
  let value :=
    if '0' ≤ c ∧ c ≤ '9' then c.toNat - '0'.toNat
    else if 'a' ≤ c ∧ c ≤ 'z' then c.toNat - 'a'.toNat + 10
    else if 'A' ≤ c ∧ c ≤ 'Z' then c.toNat - 'A'.toNat + 10
    else base
  if value < base then some value else none

def isDigit (c : Char) : Bool :=
  '0' ≤ c && c ≤ '9'

/-- The value of a row of digits, most significant first. -/
def value (base : Nat) (digits : List Char) : Nat :=
  digits.foldl (fun n c => base * n + (digit? base c).getD 0) 0

/-- The value of a text that holds digits of the base only, at least one. -/
def nat? (base : Nat) (cs : List Char) : Option Nat :=
  if !cs.isEmpty && cs.all fun c => (digit? base c).isSome then some (value base cs) else none

/-- A decimal number `digits · 10 ^ exponent`. -/
structure Decimal where
  digits : List Char
  exponent : Int
deriving DecidableEq, Repr

def signed (cs : List Char) : Bool × List Char :=
  match cs with
  | '-' :: rest => (true, rest)
  | '+' :: rest => (false, rest)
  | _ => (false, cs)

def exponent? (cs : List Char) : Option Int :=
  match cs with
  | [] => some 0
  | c :: rest =>
    if c = 'e' ∨ c = 'E' then do
      let (negative, digits) := signed rest
      let n ← nat? 10 digits
      return if negative then -(n : Int) else n
    else none

/-- Reads digits, a fraction and an exponent, of which the last two may be missing; a digit stands
on one side of the point at least. -/
def decimal? (cs : List Char) : Option Decimal := do
  let whole := cs.takeWhile isDigit
  let rest := cs.dropWhile isDigit
  let (fraction, rest) :=
    match rest with
    | '.' :: rest => (rest.takeWhile isDigit, rest.dropWhile isDigit)
    | _ => ([], rest)
  if whole.isEmpty && fraction.isEmpty then none
  else return ⟨whole ++ fraction, (← exponent? rest) - fraction.length⟩

/-- The least number that is rounded to infinity in double precision. -/
def overflowBound : Nat :=
  Nat.pow 2 1024 - Nat.pow 2 970

/-- Whether the number is too large for double precision. The number of digits in front of the
point settles it unless that number is close to the bound's. -/
def Decimal.overflows (d : Decimal) : Bool :=
  let digits := d.digits.dropWhile (· = '0')
  let size : Int := digits.length + d.exponent
  if digits.isEmpty || size < 300 then false
  else if size > 320 then true
  else if d.exponent ≥ 0 then
    value 10 digits * Nat.pow 10 d.exponent.toNat ≥ overflowBound
  else
    value 10 digits ≥ overflowBound * Nat.pow 10 (-d.exponent).toNat

end LayerCheck.Numeral
