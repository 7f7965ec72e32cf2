import LayerCheck.OrderedSet
import LayerCheck.Path

/-!
Snapshots of a file system. A snapshot maps the places of files, directories and links, each given by
the names on the way from the root, to what stands there. A snapshot is a tree: whatever it holds stands
in a directory, under a name that can stand there.
-/

namespace LayerCheck

/-- A place in the file system: the names on the way from the root. -/
abbrev Place := List String

inductive FileNode where
  /-- A file with its text, or with none if its bytes are no UTF-8. -/
  | file (text : Option String)
  | directory
  /-- A symbolic link with its target as written. -/
  | link (target : String)
deriving DecidableEq, Repr

/-- A name that can stand in a directory. -/
def isEntryName (name : String) : Bool :=
  name != "" && name != "." && name != ".." && !name.toList.contains '/'

/-- All names on the way to a place can stand in a directory. -/
def Place.Named (p : Place) : Prop :=
  ∀ name ∈ p, isEntryName name

/-- Everything has names, and everything that is not in the root is in a directory. -/
structure IsTree (nodes : OrderedMap Place FileNode) : Prop where
  named : ∀ (p : Place) node, nodes.get? p = some node → p.Named
  held : ∀ (p : Place) node, nodes.get? p = some node →
    p.dropLast = [] ∨ nodes.get? p.dropLast = some .directory

theorem isTree_empty : IsTree ∅ where
  named := by simp
  held := by simp

structure Snapshot where
  nodes : OrderedMap Place FileNode := ∅
  /-- The place that relative paths start from. -/
  working : Place := []
  tree : IsTree nodes := by exact isTree_empty

namespace Snapshot

/-- What stands at a place. The root is always a directory. -/
def get? (s : Snapshot) (p : Place) : Option FileNode :=
  if p.isEmpty then some .directory else s.nodes.get? p

def isDirectory (s : Snapshot) (p : Place) : Bool :=
  s.get? p == some .directory

/-! ### Paths -/

/-- Goes through the segments of a path from `here`. At a link it goes on with `follow`, which is
given the place of the link, its target and the segments that are left. -/
def steps {α : Type} (s : Snapshot) (arrive : Place → α)
    (follow : Place → String → List String → Option α) (here : Place) : List String → Option α
  | [] => some (arrive here)
  | name :: rest =>
    if !s.isDirectory here then none
    else if name = "" ∨ name = "." then steps s arrive follow here rest
    else if name = ".." then steps s arrive follow here.dropLast rest
    else
      match s.get? (here ++ [name]) with
      | none => none
      | some (.link target) => follow here target rest
      | some _ => steps s arrive follow (here ++ [name]) rest

/-- Where the text of a path starts and the segments that it goes on with, read at `here`. An empty
text leads nowhere. -/
def start? (here : Place) (text : String) : Option (Place × List String) :=
  match Segments.split '/' text with
  | [""] => none
  | "" :: rest => some ([], rest)
  | segments => some (here, segments)

/-- The place that segments lead to from `here`, and how many of `links` links are left then. -/
def resolve? (s : Snapshot) : (links : Nat) → Place → List String → Option (Place × Nat)
  | 0, here, path => s.steps (·, 0) (fun _ _ _ => none) here path
  | links + 1, here, path =>
    let follow (here : Place) (target : String) (rest : List String) : Option (Place × Nat) :=
      (start? here target).bind fun (first, segments) => s.resolve? links first (segments ++ rest)
    s.steps (·, links + 1) follow here path

/-- The number of links that a path may lead through. -/
def maxLinks : Nat := 40

/-- The place that a path leads to, links being followed. -/
def place? (s : Snapshot) (p : Path) : Option Place :=
  (start? s.working p.text).bind fun (first, segments) =>
    (s.resolve? maxLinks first segments).map Prod.fst

/-- The path without links, `.` and `..`; the path as it is if it leads nowhere. -/
def canonical (s : Snapshot) (p : Path) : Path :=
  match s.place? p with
  | some place => .ofNames place
  | none => p

def node? (s : Snapshot) (p : Path) : Option FileNode :=
  (s.place? p).bind s.get?

def isFile (s : Snapshot) (p : Path) : Bool :=
  match s.node? p with
  | some (.file _) => true
  | _ => false

/-- The text of a file. Fails on anything that is no text file. -/
def read? (s : Snapshot) (p : Path) : Option String :=
  match s.node? p with
  | some (.file text) => text
  | _ => none

/-! ### Files below a directory -/

/-- The names that lead from a place to another one below it. -/
def below? (base p : Place) : Option (List String) :=
  if base.isPrefixOf p && base.length < p.length then some (p.drop base.length) else none

/-- The name that leads from a place to another one in it. -/
def nameIn? (base p : Place) : Option String :=
  match below? base p with
  | some [name] => some name
  | _ => none

/-- What stands in a directory: its entries, each with its name. -/
def entriesIn (s : Snapshot) (base : Place) : List (String × FileNode) :=
  s.nodes.entries.filterMap fun (p, node) => (nameIn? base p).map (·, node)

/-- The entries of every directory, in an order that is up to the system. -/
structure Listing (s : Snapshot) where
  entries : Place → List (String × FileNode)
  perm : ∀ base, (entries base).Perm (s.entriesIn base)

def listing (s : Snapshot) : s.Listing := ⟨s.entriesIn, fun _ => .refl _⟩

/-- Puts an entry before the first one with a name that is not less. -/
def insertEntry (e : String × FileNode) : List (String × FileNode) → List (String × FileNode)
  | [] => [e]
  | f :: rest => if compare e.1 f.1 = .gt then f :: insertEntry e rest else e :: f :: rest

/-- The entries of a directory in the order of their names. -/
def sortEntries (entries : List (String × FileNode)) : List (String × FileNode) :=
  entries.foldr insertEntry []

/-- The number of names on the longest way from the root. -/
def height (s : Snapshot) : Nat :=
  s.nodes.entries.foldr (fun (p, _) n => max p.length n) 0

/-- Goes through the entries of a directory by name. Each entry is followed by what lies below it, as
deep as `depth` names lead. Links are not followed. -/
def walk {s : Snapshot} (list : s.Listing) : (depth : Nat) → Place → List (List String × FileNode)
  | 0, _ => []
  | depth + 1, base =>
    (sortEntries (list.entries base)).flatMap fun (name, node) =>
      let inside := if node = .directory then walk list depth (base ++ [name]) else []
      ([name], node) :: inside.map fun (names, found) => (name :: names, found)

/-- Everything below a place, links not followed. -/
def under (s : Snapshot) (base : Place) (list : s.Listing := s.listing) :
    List (List String × FileNode) :=
  walk list s.height base

/-- Whether the extension of a name is `py`. A name that is all extension has none. -/
def isPythonName (name : String) : Bool :=
  ['.', 'p', 'y'].isSuffixOf name.toList && name != ".py"

/-- The Python files below a place, each by the names that lead to it. -/
def pythonFiles (s : Snapshot) (base : Place) (list : s.Listing := s.listing) :
    List (List String) :=
  (s.under base list).filterMap fun (names, node) =>
    match node with
    | .file _ => if isPythonName (names.getLastD "") then some names else none
    | _ => none

/-! ### Following links

A file that is found through links has two descriptions: the names that led to it, and its place.
-/

structure Found where
  names : List String
  place : Place
deriving DecidableEq, Repr

/-- Names that end in `.py`, even those that are nothing else. -/
def endsInPy (name : String) : Bool :=
  ['.', 'p', 'y'].isSuffixOf name.toList

/-- Files below a place, links to files and directories being followed as long as links are left. Of a
directory's entries deeper than `depth` none is taken. -/
def follow (s : Snapshot) (depth : Option Nat) : (fuel links : Nat) → Place → List Found
  | 0, _, _ => []
  | fuel + 1, links, base =>
    (s.under base).flatMap fun (names, node) =>
      let name := names.getLastD ""
      if depth.any (· < names.length) then []
      else
        match node with
        | .file _ => if endsInPy name then [⟨names, base ++ names⟩] else []
        | .directory => []
        | .link _ =>
          match s.resolve? links (base ++ names.dropLast) [name] with
          | none => []
          | some (place, left) =>
            match s.get? place with
            | some (.file _) => if endsInPy name then [⟨names, place⟩] else []
            | some .directory =>
              if depth.isSome then []
              else (s.follow depth fuel left place).map fun f => { f with names := names ++ f.names }
            | _ => []

/-- The names among the segments of a path: empty ones and `.` stand for nothing. -/
def namesOf (path : List String) : List String :=
  path.filter fun n => n ≠ "" ∧ n ≠ "."

/-- The files in the directory that `path` leads to from `base`, with the names from `base` on. -/
def filesIn (s : Snapshot) (recursive : Bool) (base : Place) (path : List String) : List Found :=
  match s.resolve? maxLinks base path with
  | none => []
  | some (place, left) =>
    if s.isDirectory place then
      let depth := if recursive then none else some 1
      (s.follow depth (maxLinks + 1) left place).map fun f =>
        { f with names := namesOf path ++ f.names }
    else []

/-! ### Changes -/

/-- Whether a node can be put at a place: the place needs a name and a directory around it, and a
directory stays one. -/
def admits (s : Snapshot) (p : Place) (node : FileNode) : Bool :=
  p.getLast?.any isEntryName && s.isDirectory p.dropLast && (node == .directory || !s.isDirectory p)

theorem isDirectory_iff {s : Snapshot} {p : Place} :
    s.isDirectory p ↔ p = [] ∨ s.nodes.get? p = some .directory := by
  cases p with
  | nil => simp [isDirectory, get?]
  | cons name rest => simp [isDirectory, get?]

theorem get?_insert_place (nodes : OrderedMap Place FileNode) (p q : Place) (node : FileNode) :
    (nodes.insert p node).get? q = if q = p then some node else nodes.get? q := by
  simp [OrderedMap.get?_insert]

theorem named_of_isDirectory (s : Snapshot) {p : Place} (h : s.isDirectory p) : p.Named := by
  rcases isDirectory_iff.1 h with rfl | h
  · simp [Place.Named]
  · exact s.tree.named p _ h

theorem isTree_insert (s : Snapshot) {p : Place} {node : FileNode} (h : s.admits p node) :
    IsTree (s.nodes.insert p node) := by
  simp only [admits, Bool.and_eq_true, Bool.or_eq_true, beq_iff_eq, Bool.not_eq_true',
    Option.any_eq_true] at h
  obtain ⟨⟨⟨name, hlast, hname⟩, hdir⟩, hkeep⟩ := h
  obtain ⟨here, rfl⟩ := List.getLast?_eq_some_iff.1 hlast
  rw [List.dropLast_concat] at hdir
  constructor
  · intro q found hq
    rw [get?_insert_place] at hq
    split at hq
    · rename_i hqp
      subst hqp
      intro n hn
      rcases List.mem_append.1 hn with hn | hn
      · exact s.named_of_isDirectory hdir n hn
      · rw [List.mem_singleton.1 hn]
        exact hname
    · exact s.tree.named q found hq
  · intro q found hq
    have hself : here ≠ here ++ [name] := by simp
    rw [get?_insert_place] at hq
    split at hq
    · rename_i hqp
      rw [hqp, List.dropLast_concat, get?_insert_place, if_neg hself]
      exact isDirectory_iff.1 hdir
    · -- The new node may take the place of the directory of `q` only if it is a directory itself.
      refine (s.tree.held q found hq).imp_right fun hheld => ?_
      rw [get?_insert_place]
      split
      · rename_i hparent
        rw [hparent] at hheld
        have hdirectory : s.isDirectory (here ++ [name]) := isDirectory_iff.2 (.inr hheld)
        rcases hkeep with rfl | hkeep
        · rfl
        · simp [hdirectory] at hkeep
      · exact hheld

/-- The snapshot with a node at a place, if it can be put there. -/
def set (s : Snapshot) (p : Place) (node : FileNode) : Snapshot :=
  if h : s.admits p node then
    { s with nodes := s.nodes.insert p node, tree := s.isTree_insert h }
  else s

theorem isTree_erase (s : Snapshot) {p : Place} (h : ¬s.isDirectory p) :
    IsTree (s.nodes.erase p) := by
  have hget (q : Place) : (s.nodes.erase p).get? q = if q = p then none else s.nodes.get? q := by
    simp [OrderedMap.get?_erase]
  constructor
  · intro q found hq
    rw [hget] at hq
    split at hq
    · contradiction
    · exact s.tree.named q found hq
  · intro q found hq
    rw [hget] at hq
    split at hq
    · contradiction
    · refine (s.tree.held q found hq).imp_right fun hheld => ?_
      have hne : q.dropLast ≠ p := by
        rintro rfl
        exact h (isDirectory_iff.2 (.inr hheld))
      rwa [hget, if_neg hne]

/-- The snapshot without what stands at a place. Directories stay. -/
def unset (s : Snapshot) (p : Place) : Snapshot :=
  if h : s.isDirectory p then s
  else { s with nodes := s.nodes.erase p, tree := s.isTree_erase h }

/-- Makes the directories on a path from `here` that are missing, and gives the place of the last. -/
def makeDirectories (s : Snapshot) (here : Place) : List String → Snapshot × Place
  | [] => (s, here)
  | name :: rest =>
    match s.get? (here ++ [name]) with
    | none => makeDirectories (s.set (here ++ [name]) .directory) (here ++ [name]) rest
    | some _ =>
      match s.resolve? maxLinks here [name] with
      | some (place, _) => makeDirectories s place rest
      | none => makeDirectories s (here ++ [name]) rest

/-- Puts a node at a place where it can be. Directories on the way are made; a file that is written to
a link goes to the place that the link leads to. -/
def put (s : Snapshot) (p : Place) (node : FileNode) : Snapshot :=
  let (s, directory) := s.makeDirectories [] p.dropLast
  let name := p.getLastD ""
  let place := match node, s.resolve? maxLinks directory [name] with
    | .file _, some (place, _) => place
    | _, _ => directory ++ [name]
  s.set place node

/-- The place of a file that is to be made where segments lead from `here`. Its directory must be there
and the place free; a link in the place leads on to another one. -/
def freePlace? (s : Snapshot) : (fuel links : Nat) → Place → List String → Option Place
  | 0, _, _, _ => none
  | fuel + 1, links, here, path =>
    match s.resolve? links here path.dropLast with
    | none => none
    | some (directory, left) =>
      let name := path.getLastD ""
      if s.isDirectory directory && isEntryName name then
        match s.get? (directory ++ [name]), left with
        | none, _ => some (directory ++ [name])
        | some (.link target), left + 1 =>
          (start? directory target).bind fun (first, segments) => s.freePlace? fuel left first segments
        | some _, _ => none
      else none

/-- The place that a text is written to: that of the file at a path, or of one that is to be made. -/
def writePlace? (s : Snapshot) (p : Path) : Option Place :=
  match s.place? p with
  | some place =>
    match s.get? place with
    | some (.file _) => some place
    | _ => none
  | none =>
    (start? s.working p.text).bind fun (first, segments) =>
      s.freePlace? (maxLinks + 1) maxLinks first segments

/-- Writes a text to the file at a path, which need not be there but whose directory must be. -/
def write? (s : Snapshot) (p : Path) (text : String) : Option Snapshot :=
  (s.writePlace? p).map fun place => s.set place (.file (some text))

/-- Removes a file or a link. Fails on directories and where there is nothing. -/
def remove? (s : Snapshot) (p : Place) : Option Snapshot := do
  let (directory, _) ← s.resolve? maxLinks [] p.dropLast
  let place := directory ++ [p.getLastD ""]
  match s.get? place with
  | some (.file _) | some (.link _) => some (s.unset place)
  | _ => none

end Snapshot

end LayerCheck
