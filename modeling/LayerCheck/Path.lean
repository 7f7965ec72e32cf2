import LayerCheck.Segments

/-!
Paths keep the text they were written with and are compared by their components, so `a//b`, `a/./b`
and `a/b` are one path while `./a` and `a` are two.
-/

namespace LayerCheck

inductive Component where
  | root
  | current
  | parent
  | name (text : String)
deriving DecidableEq, Repr

namespace Component

/-- The root comes first, then a leading `.`, then `..`, then names. -/
def rank : Component → Nat
  | root => 0
  | current => 1
  | parent => 2
  | name _ => 3

def text : Component → String
  | root => "/"
  | current => "."
  | parent => ".."
  | name s => s

def ofSegment (s : String) : Component :=
  if s = ".." then parent else name s

instance : Ord Component := ⟨compareLex (compareOn rank) (compareOn text)⟩

instance : Std.TransOrd Component :=
  inferInstanceAs (Std.TransCmp (compareLex (compareOn rank) (compareOn text)))

instance : Std.LawfulEqOrd Component where
  eq_of_compare {a b} h := by
    have h : (compareOn rank a b).then (compareOn text a b) = .eq := h
    obtain ⟨hr, ht⟩ := Ordering.then_eq_eq.1 h
    have hr : a.rank = b.rank := Std.LawfulEqOrd.eq_of_compare hr
    have ht : a.text = b.text := Std.LawfulEqOrd.eq_of_compare ht
    cases a <;> cases b <;> simp_all [rank, text]

end Component

structure Path where
  text : String
deriving DecidableEq, Repr

namespace Path

def segments (p : Path) : List String :=
  Segments.split '/' p.text

def isAbsolute (p : Path) : Bool :=
  p.text.toList.head? == some '/'

/-- The component of a segment that is not the first: empty ones and `.` stand for nothing. -/
def interior (s : String) : List Component :=
  if s = "" ∨ s = "." then [] else [.ofSegment s]

def leading (s : String) (isLast : Bool) : List Component :=
  if s = "" then
    if isLast then [] else [.root]
  else if s = "." then [.current]
  else [.ofSegment s]

def components (p : Path) : List Component :=
  match p.segments with
  | [] => []
  | s :: rest => leading s rest.isEmpty ++ rest.flatMap interior

instance : Ord Path := ⟨compareOn components⟩

instance : Std.TransOrd Path :=
  inferInstanceAs (Std.TransCmp (compareOn components))

/-- An absolute path replaces the base; otherwise one `/` stands between the two. -/
def join (base p : Path) : Path :=
  if p.isAbsolute || base.text.isEmpty then p
  else if base.text.toList.getLast? = some '/' then ⟨base.text ++ p.text⟩
  else ⟨base.text ++ "/" ++ p.text⟩

/-- Drops the segments at the end that name nothing. The first segment always stays. -/
def trimTail : List String → List String
  | [] => []
  | s :: rest => s :: (rest.reverse.dropWhile fun t => t == "" || t == ".").reverse

/-- The path without its last component; `none` for the root and for the empty path. -/
def parent? (p : Path) : Option Path :=
  match trimTail p.segments with
  | [] => none
  | [s] => if s = "" then none else some ⟨""⟩
  | s :: rest =>
    match trimTail (s :: rest.dropLast) with
    | [""] => some ⟨"/"⟩
    | kept => some ⟨Segments.join '/' kept⟩

def fileName? (p : Path) : Option String :=
  match p.components.getLast? with
  | some (.name s) => some s
  | _ => none

/-- The text after the last dot of a file name, if something stands before that dot. -/
def extension? (p : Path) : Option String := do
  let name ← p.fileName?
  let parts := Segments.split '.' name
  if parts.length < 2 ∨ parts.dropLast = [""] then none else parts.getLast?

/-- The components of `p` below `base`, if `base` is a component-wise beginning of `p`. -/
def below? (base p : Path) : Option (List Component) :=
  if base.components.isPrefixOf p.components then
    some (p.components.drop base.components.length)
  else
    none

/-- The text of `p` relative to `base`, with `/` between the components. -/
def relative? (base p : Path) : Option String :=
  (below? base p).map fun rest => Segments.join '/' (rest.map Component.text)

/-- The absolute path that goes down from the root through `names`. -/
def ofNames (names : List String) : Path :=
  ⟨"/" ++ Segments.join '/' names⟩

end Path

end LayerCheck
