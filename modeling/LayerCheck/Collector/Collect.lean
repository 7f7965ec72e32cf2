import LayerCheck.Collector.Basic
import LayerCheck.Project.Cache
import LayerCheck.Project.Scope

/-!
What a collector collects in a scope, given the facts of the files.
-/

namespace LayerCheck

/-- The elements that the definitions of a file are. -/
def SourceFile.elements (f : SourceFile) (facts : Path → Facts) (keep : Definition → Bool) :
    List Element :=
  ((facts f.path).definitions.filter keep).map (Definition.toElement f.path)

/-- All elements of a scope. -/
def Scope.universe (scope : Scope) (s : Snapshot) (facts : Path → Facts) : ElementSet :=
  .ofList ((scope.files s none).flatMap fun f => f.elements facts fun _ => true)

/-- The files whose definitions a leaf looks at. -/
def Leaf.files (l : Leaf) (scope : Scope) (s : Snapshot) : List SourceFile :=
  match l.test with
  | .fileRegex regex _ _ => (scope.files s l.exclude).filter fun f => regex.isMatch f.relative
  | .directory directories recursive _ => scope.directoryFiles s l.exclude directories recursive
  | _ => scope.files s l.exclude

def Leaf.collect (l : Leaf) (scope : Scope) (s : Snapshot) (facts : Path → Facts) : ElementSet :=
  .ofList ((l.files scope s).flatMap fun f => f.elements facts l.test.admits)

namespace ElementSet

/-- What all sets of a list hold; nothing is said about an empty list. -/
def interAll : List ElementSet → Option ElementSet
  | [] => none
  | set :: rest => some (rest.foldl OrderedSet.inter set)

def union (a b : ElementSet) : ElementSet :=
  a.insertMany b.toList

def unionAll (sets : List ElementSet) : ElementSet :=
  sets.foldl union ∅

/-- The value of a composite. A list without sets asks nothing. -/
@[macro_inline]
def combine (everything : ElementSet) (must anyOf mustNot : List ElementSet) : ElementSet :=
  let alternatives := if anyOf.isEmpty then [] else [unionAll anyOf]
  let selected := (interAll (must ++ alternatives)).getD everything
  mustNot.foldl OrderedSet.diff selected

end ElementSet

namespace Collector

mutual

/-- What a collector collects. -/
def collect (scope : Scope) (s : Snapshot) (facts : Path → Facts) : Collector → ElementSet
  | leaf l => l.collect scope s facts
  | bool must anyOf mustNot =>
    .combine (scope.universe s facts) (collectEach scope s facts must)
      (collectEach scope s facts anyOf) (collectEach scope s facts mustNot)

def collectEach (scope : Scope) (s : Snapshot) (facts : Path → Facts) :
    List Collector → List ElementSet
  | [] => []
  | c :: rest => collect scope s facts c :: collectEach scope s facts rest

end

mutual

/-- The paths whose facts a collector asks for, in the order of asking. -/
def requests (scope : Scope) (s : Snapshot) : Collector → List Path
  | leaf l => (l.files scope s).map (·.path)
  | bool must anyOf mustNot =>
    requestsOfEach scope s must ++ requestsOfEach scope s anyOf ++
      (if must.isEmpty && anyOf.isEmpty then (scope.files s none).map (·.path) else []) ++
      requestsOfEach scope s mustNot

def requestsOfEach (scope : Scope) (s : Snapshot) : List Collector → List Path
  | [] => []
  | c :: rest => requests scope s c ++ requestsOfEach scope s rest

end

end Collector

end LayerCheck
