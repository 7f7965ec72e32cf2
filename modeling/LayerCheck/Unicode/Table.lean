import LayerCheck.Segments

/-!
Tables of code points written as rows of text: ranges `41-5a` and single code points `5f` in
hexadecimal, with blanks between them.
-/

namespace LayerCheck.Unicode.Table

def hexDigit? (c : Char) : Option Nat :=
  if '0' ≤ c ∧ c ≤ '9' then some (c.toNat - '0'.toNat)
  else if 'a' ≤ c ∧ c ≤ 'f' then some (c.toNat - 'a'.toNat + 10)
  else if 'A' ≤ c ∧ c ≤ 'F' then some (c.toNat - 'A'.toNat + 10)
  else none

/-- The value of a row of hexadecimal digits; other characters count as zero. -/
def readHex (s : String) : Nat :=
  s.toList.foldl (fun n c => 16 * n + (hexDigit? c).getD 0) 0

def readRange (s : String) : Nat × Nat :=
  match Segments.split '-' s with
  | [lo, hi] => (readHex lo, readHex hi)
  | _ => (readHex s, readHex s)

def readRanges (rows : List String) : List (Nat × Nat) :=
  rows.flatMap fun row => (Segments.split ' ' row).map readRange

/-- Groups of code points, with `/` between the members of a group. -/
def readOrbits (rows : List String) : List (List Nat) :=
  rows.flatMap fun row =>
    (Segments.split ' ' row).map fun orbit => (Segments.split '/' orbit).map readHex

end LayerCheck.Unicode.Table
