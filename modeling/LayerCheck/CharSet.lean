import LayerCheck.Unicode.Folding
import LayerCheck.Unicode.Name

/-!
Sets of characters, built from ranges of code points by the operations of a bracketed class.
-/

namespace LayerCheck

inductive CharSet where
  | ranges (list : Unicode.Ranges)
  | union (a b : CharSet)
  | inter (a b : CharSet)
  | diff (a b : CharSet)
  | symmDiff (a b : CharSet)
  | compl (a : CharSet)
  | folded (asciiOnly : Bool) (a : CharSet)
deriving Repr

namespace CharSet

/-- The two cases of an ASCII letter; any other character is alone. -/
def asciiOrbit (c : Nat) : List Nat :=
  if 0x41 ≤ c ∧ c ≤ 0x5a then [c, c + 0x20]
  else if 0x61 ≤ c ∧ c ≤ 0x7a then [c, c - 0x20]
  else [c]

/-- A folded set holds a character if the inner set holds some character of its orbit. -/
def contains : CharSet → Nat → Bool
  | ranges l, c => Unicode.inRanges l c
  | union a b, c => a.contains c || b.contains c
  | inter a b, c => a.contains c && b.contains c
  | diff a b, c => a.contains c && !b.contains c
  | symmDiff a b, c => a.contains c != b.contains c
  | compl a, c => !a.contains c
  | folded asciiOnly a, c => (if asciiOnly then asciiOrbit c else Unicode.orbit c).any a.contains

def empty : CharSet := ranges []

def single (c : Nat) : CharSet := ranges [(c, c)]

def any : CharSet := ranges Unicode.everything

def asciiDigits : CharSet := ranges [(0x30, 0x39)]

def asciiSpaces : CharSet := ranges [(0x09, 0x0d), (0x20, 0x20)]

def asciiWord : CharSet := ranges [(0x30, 0x39), (0x41, 0x5a), (0x5f, 0x5f), (0x61, 0x7a)]

/-- The classes that are written `[:name:]` inside a bracketed class. -/
def posix? : String → Option CharSet
  | "alnum" => some (ranges [(0x30, 0x39), (0x41, 0x5a), (0x61, 0x7a)])
  | "alpha" => some (ranges [(0x41, 0x5a), (0x61, 0x7a)])
  | "ascii" => some (ranges [(0x00, 0x7f)])
  | "blank" => some (ranges [(0x09, 0x09), (0x20, 0x20)])
  | "cntrl" => some (ranges [(0x00, 0x1f), (0x7f, 0x7f)])
  | "digit" => some asciiDigits
  | "graph" => some (ranges [(0x21, 0x7e)])
  | "lower" => some (ranges [(0x61, 0x7a)])
  | "print" => some (ranges [(0x20, 0x7e)])
  | "punct" => some (ranges [(0x21, 0x2f), (0x3a, 0x40), (0x5b, 0x60), (0x7b, 0x7e)])
  | "space" => some asciiSpaces
  | "upper" => some (ranges [(0x41, 0x5a)])
  | "word" => some asciiWord
  | "xdigit" => some (ranges [(0x30, 0x39), (0x41, 0x46), (0x61, 0x66)])
  | _ => none

/-- How many ranges the set is written with. -/
def rangeCount : CharSet → Nat
  | ranges l => l.length
  | union a b | inter a b | diff a b | symmDiff a b => a.rangeCount + b.rangeCount
  | compl a => a.rangeCount + 1
  | folded _ a => 2 * a.rangeCount

end CharSet

end LayerCheck
