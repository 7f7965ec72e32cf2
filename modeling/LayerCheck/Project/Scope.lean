import LayerCheck.Config.Validation
import LayerCheck.Project.Snapshot

/-!
Scopes: the roots of a project and the patterns that leave files out.
-/

namespace LayerCheck

/-- A Python file under a root. -/
structure SourceFile where
  path : Path
  root : Path
  /-- The path from the root on, with `/` between the names. -/
  relative : String
deriving DecidableEq, Repr

structure Scope where
  roots : List Place
  exclude : List Pattern
deriving Repr

namespace Scope

/-- The places of the paths that lead to directories, each of them once. -/
def rootsOf (s : Snapshot) (paths : List Path) : List Place :=
  ((paths.filterMap s.place?).filter s.isDirectory).eraseDups

def make (s : Snapshot) (paths : List Path) (exclude : List String) : Except ConfigError Scope := do
  return ⟨rootsOf s paths, ← exclude.mapM Config.searching⟩

def rootPaths (scope : Scope) : List Path :=
  scope.roots.map Path.ofNames

/-- A file is left out if a pattern of the scope is found in its relative path, or if the pattern
`own` matches at the start of it. -/
def isExcluded (scope : Scope) (own : Option Pattern) (relative : String) : Bool :=
  scope.exclude.any (·.isMatch relative) || own.any (·.isMatch relative)

/-- The file that lies at `names` from a root and at `place`, unless it is left out. -/
def admit? (scope : Scope) (own : Option Pattern) (root : Place) (names : List String)
    (place : Place) : Option SourceFile :=
  let relative := Segments.join '/' names
  if scope.isExcluded own relative then none
  else some { path := .ofNames place, root := .ofNames root, relative }

/-- The Python files under all roots, in the order of the roots and then of the walk below each. -/
def files (scope : Scope) (s : Snapshot) (own : Option Pattern) (list : s.Listing := s.listing) :
    List SourceFile :=
  scope.roots.flatMap fun root =>
    (s.pythonFiles root list).filterMap fun names => scope.admit? own root names (root ++ names)

/-- The file at a path that lies under a root, unless it is left out. -/
def sourceFile? (scope : Scope) (s : Snapshot) (own : Option Pattern) (root path : Path) :
    Option SourceFile := do
  let relative ← Path.relative? root path
  if scope.isExcluded own relative then none
  else some { path := s.canonical path, root, relative }

/-- The segments of a directory as it is configured: slashes around it say nothing. -/
def directorySegments (directory : String) : List String :=
  let slash (s : String) : Bool := s == ""
  (((Segments.split '/' directory).dropWhile slash).reverse.dropWhile slash).reverse

/-- The Python files in the given directories of each root, links being followed. -/
def directoryFiles (scope : Scope) (s : Snapshot) (own : Option Pattern) (directories : List String)
    (recursive : Bool) : List SourceFile :=
  scope.roots.flatMap fun root =>
    directories.flatMap fun directory =>
      (s.filesIn recursive root (directorySegments directory)).filterMap fun f =>
        scope.admit? own root f.names f.place

end Scope

end LayerCheck
