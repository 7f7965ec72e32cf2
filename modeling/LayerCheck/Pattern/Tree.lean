import LayerCheck.Pattern.Token

/-!
The expression of a row of tokens, and the limits on how large it may be.
-/

namespace LayerCheck.Pattern

/-- A group that is open: its finished branches, and the branch being read as the part before its
last piece and that piece, which a repetition mark would repeat. -/
structure Frame where
  branches : Option Regex := none
  done : Regex := .empty
  last : Option Regex := none
deriving Repr

namespace Frame

def branch (f : Frame) : Regex :=
  match f.last with
  | none => f.done
  | some r => .cat f.done r

def push (f : Frame) (r : Regex) : Frame :=
  { f with done := f.branch, last := some r }

/-- Ends a piece that cannot be repeated. -/
def settle (f : Frame) : Frame :=
  { f with done := f.branch, last := none }

def value (f : Frame) : Regex :=
  match f.branches with
  | none => f.branch
  | some r => .alt r f.branch

end Frame

/-- The state after one more token: the innermost open group and the ones around it. -/
def step : Frame × List Frame → Token → Option (Frame × List Frame)
  | (f, outer), .set s _ => some (f.push (.set s), outer)
  | (f, outer), .look l => some (f.push (.look l), outer)
  | (f, outer), .flags => some (f.settle, outer)
  | (f, outer), .openGroup => some ({}, f :: outer)
  | (f, g :: outer), .closeGroup => some (g.push f.value, outer)
  | (_, []), .closeGroup => none
  | (f, outer), .bar => some ({ branches := some f.value }, outer)
  | (f, outer), .repetition least most =>
    match f.last with
    | none => none
    | some r => some ({ f with last := some (.repeated r least most) }, outer)

/-- The expression of a row of tokens, if its groups are balanced and each repetition mark has
something to repeat. -/
def tree? (tokens : List Token) : Option Regex :=
  match tokens.foldlM step ({}, []) with
  | some (f, []) => some f.value
  | _ => none

/-! ### Limits -/

/-- The nesting of a group that is open: how many pieces its branch has, the nesting of the pieces
before the last and of the last, and the same for its finished branches. -/
structure Level where
  pieces : Nat := 0
  before : Nat := 0
  last : Nat := 0
  branches : Nat := 0
  deepest : Nat := 0

namespace Level

def branch (l : Level) : Nat :=
  let depth := max l.before l.last
  if l.pieces < 2 then depth else depth + 1

def push (l : Level) (depth : Nat) : Level :=
  { l with pieces := l.pieces + 1, before := max l.before l.last, last := depth }

def split (l : Level) : Level :=
  { branches := l.branches + 1, deepest := max l.deepest l.branch }

def value (l : Level) : Nat :=
  if l.branches = 0 then l.branch else max l.deepest l.branch + 1

end Level

def stepLevel : Level × List Level → Token → Level × List Level
  | (l, outer), .set _ depth => (l.push depth, outer)
  | (l, outer), .look _ => (l.push 0, outer)
  | (l, outer), .flags => (l.push 0, outer)
  | (l, outer), .openGroup => ({}, l :: outer)
  | (l, k :: outer), .closeGroup => (k.push (l.value + 1), outer)
  | (l, []), .closeGroup => (l, [])
  | (l, outer), .bar => (l.split, outer)
  | (l, outer), .repetition _ _ => ({ l with last := l.last + 1 }, outer)

/-- How deep groups, branches, rows of pieces, repetitions and brackets are nested. -/
def nesting (tokens : List Token) : Nat :=
  (tokens.foldl stepLevel ({}, [])).1.value

def maxNesting : Nat := 250

/-- The size of an expression with its counted repetitions written out, in bytes of a compiled
program: a state takes 32. -/
def Regex.weight : Regex → Nat
  | empty => 32
  | look _ => 32
  | set s => if s.rangeCount ≤ 1 then 32 else 32 + 24 * s.rangeCount
  | cat a b => a.weight + b.weight
  | alt a b => a.weight + b.weight + 32
  | repeated r least most =>
    match most with
    | none => (least + 1) * r.weight + 32
    | some most => most * r.weight + 32 * (most - least)

def maxWeight : Nat := 10 * Nat.pow 2 20

end LayerCheck.Pattern
