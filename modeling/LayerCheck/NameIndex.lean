import LayerCheck.Module.Facts

/-!
Dependencies by name. A reference depends on every indexed element whose short name is the reference's
probe, and all references of a file count for each element of the file.
-/

namespace LayerCheck

/-- The elements under each short name. -/
structure NameIndex where
  entries : OrderedMap String ElementSet := ∅

namespace NameIndex

def insert (index : NameIndex) (e : Element) : NameIndex :=
  ⟨index.entries.upsert e.shortName fun set => (set.getD ∅).insert e⟩

def ofList (elements : List Element) : NameIndex :=
  elements.foldl insert {}

/-- The elements that a probe may mean. -/
def candidates (index : NameIndex) (probe : String) : ElementSet :=
  (index.entries.get? probe).getD ∅

/-- The elements that references lead to, with the lines of the references. -/
def targets (index : NameIndex) (references : List Reference) : List (Element × Nat) :=
  references.flatMap fun r => (index.candidates r.probe).toList.map (·, r.line)

/-- The dependencies of an element, those that are equal to an earlier one left out. -/
def edgesFrom (index : NameIndex) (references : List Reference) (source : Element) :
    List Dependency :=
  ((index.targets references).map fun (target, line) => { source, target, line }).foldl
    (fun edges d => if edges.any (compare d · == .eq) then edges else edges ++ [d]) []

/-- The dependencies of several elements, one element after the other. -/
def edges (index : NameIndex) (facts : Path → Facts) (sources : List Element) : List Dependency :=
  sources.flatMap fun source => index.edgesFrom (facts source.file).references source

/-- Passes the dependencies of an element to a sink and counts them. -/
def pass {σ : Type} (index : NameIndex) (facts : Path → Facts) (sink : σ → Dependency → σ)
    (stream : σ × Nat) (source : Element) : σ × Nat :=
  let passed := index.edgesFrom (facts source.file).references source
  (passed.foldl sink stream.1, stream.2 + passed.length)

/-- Passes the dependencies of several elements to a sink, one element after the other. Gives what the
sink made of `start`, and how many dependencies were passed. -/
def forEach {σ : Type} (index : NameIndex) (facts : Path → Facts) (sink : σ → Dependency → σ)
    (sources : List Element) (start : σ) : σ × Nat :=
  sources.foldl (index.pass facts sink) (start, 0)

/-- Adds a dependency to the group of the element that depends. -/
def group (groups : OrderedMap Element (OrderedSet Dependency)) (d : Dependency) :
    OrderedMap Element (OrderedSet Dependency) :=
  groups.upsert d.source fun set => (set.getD ∅).insert d

/-- The dependencies of several elements, grouped by the element that depends. -/
def dependencies (index : NameIndex) (facts : Path → Facts) (sources : List Element) :
    OrderedMap Element (OrderedSet Dependency) :=
  (index.forEach facts group sources ∅).1

end NameIndex

end LayerCheck
