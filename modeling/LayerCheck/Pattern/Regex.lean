import LayerCheck.CharSet

/-!
Regular expressions and their matching. Positions of a subject are the places between its
characters; an expression turns the set of positions it starts from into the set of positions it
can end at.
-/

namespace LayerCheck.Pattern

/-- What an empty match may ask about the characters before and after it. -/
inductive Look where
  | textStart
  | textEnd
  | lineStart (crlf : Bool)
  | lineEnd (crlf : Bool)
  | wordBoundary (asciiOnly : Bool)
  | notWordBoundary (asciiOnly : Bool)
  | wordStart (asciiOnly : Bool)
  | wordEnd (asciiOnly : Bool)
  | wordStartHalf (asciiOnly : Bool)
  | wordEndHalf (asciiOnly : Bool)
deriving DecidableEq, Repr

inductive Regex where
  | empty
  | set (s : CharSet)
  | look (l : Look)
  | cat (a b : Regex)
  | alt (a b : Regex)
  | repeated (r : Regex) (least : Nat) (most : Option Nat)
deriving Repr

/-- A position, seen through the characters next to it. -/
structure Place where
  before : Option Char
  after : Option Char
deriving DecidableEq, Repr

def isWord (asciiOnly : Bool) (c : Option Char) : Bool :=
  match c with
  | none => false
  | some c =>
    if c.toNat < 0x80 ∨ asciiOnly then CharSet.asciiWord.contains c.toNat
    else Unicode.inRanges Unicode.wordCharacters c.toNat

def Look.holds (l : Look) (p : Place) : Bool :=
  let left (asciiOnly : Bool) := isWord asciiOnly p.before
  let right (asciiOnly : Bool) := isWord asciiOnly p.after
  match l with
  | textStart => p.before.isNone
  | textEnd => p.after.isNone
  | lineStart false => p.before.isNone || p.before == some '\n'
  | lineEnd false => p.after.isNone || p.after == some '\n'
  | lineStart true =>
    p.before.isNone || p.before == some '\n' || (p.before == some '\r' && p.after != some '\n')
  | lineEnd true =>
    p.after.isNone || p.after == some '\r' || (p.after == some '\n' && p.before != some '\r')
  | wordBoundary a => left a != right a
  | notWordBoundary a => left a == right a
  | wordStart a => !left a && right a
  | wordEnd a => left a && !right a
  | wordStartHalf a => !left a
  | wordEndHalf a => !right a

def placesFrom (before : Option Char) : List Char → List Place
  | [] => [⟨before, none⟩]
  | c :: cs => ⟨before, some c⟩ :: placesFrom (some c) cs

/-- The positions of a subject, from its start to its end. -/
def places (subject : List Char) : List Place :=
  placesFrom none subject

/-- One flag for each position of the subject. -/
abbrev Mask := List Bool

namespace Mask

def union (m n : Mask) : Mask :=
  List.zipWith (· || ·) m n

/-- Keeps the positions that satisfy `p`. -/
def filter (p : Place → Bool) (ps : List Place) (m : Mask) : Mask :=
  List.zipWith (fun place b => b && p place) ps m

/-- Moves every position by one character that satisfies `p`. -/
def advance (p : Char → Bool) (ps : List Place) (m : Mask) : Mask :=
  false :: (filter (fun place => place.after.any p) ps m).dropLast

end Mask

/-- The positions reached by `f` applied at least `least` and at most `least + extra` times. -/
def iterate (f : Mask → Mask) : (least extra : Nat) → Mask → Mask
  | 0, 0, m => m
  | 0, extra + 1, m => if m.any id then m.union (iterate f 0 extra (f m)) else m
  | least + 1, extra, m => if m.any id then iterate f least extra (f m) else m

/-- The positions at which a match of the expression can end that starts at a position of the
mask. A subject of `n` characters allows no more than `n + 1` different repetitions. -/
def Regex.reach (ps : List Place) : Regex → Mask → Mask
  | empty, m => m
  | set s, m => m.advance (fun c => s.contains c.toNat) ps
  | look l, m => m.filter l.holds ps
  | cat a b, m => b.reach ps (a.reach ps m)
  | alt a b, m => (a.reach ps m).union (b.reach ps m)
  | repeated r least most, m =>
    let extra := match most with
      | none => ps.length
      | some most => min (most - least) ps.length
    iterate (r.reach ps) (min least ps.length) extra m

/-- Whether the expression matches somewhere in the subject. -/
def Regex.search (r : Regex) (subject : String) : Bool :=
  let ps := places subject.toList
  (r.reach ps (ps.map fun _ => true)).any id

end LayerCheck.Pattern
