import LayerCheck.Collector.Build
import LayerCheck.Collector.Collect

/-!
Layers with the elements that their collectors collect, and the layer that owns each element.
-/

namespace LayerCheck

structure Layer where
  name : String
  collectors : List Collector
  elements : ElementSet
deriving Inhabited

structure Layers where
  layers : List Layer := []
  /-- The name of the layer that owns each element. -/
  owners : OrderedMap Element String := ∅

namespace Layers

/-- Gives the elements of a layer to it. -/
def own (owners : OrderedMap Element String) (l : Layer) : OrderedMap Element String :=
  l.elements.toList.foldl (fun owners e => owners.insert e l.name) owners

/-- An element that several layers hold belongs to the last of them. -/
def ofLayers (layers : List Layer) : Layers :=
  ⟨layers, layers.foldl own ∅⟩

def layerOf? (l : Layers) (e : Element) : Option String :=
  l.owners.get? e

/-- The elements that belong to a layer. -/
def elements (l : Layers) : List Element :=
  l.owners.keys

def layer? (l : Layers) (name : String) : Option Layer :=
  l.layers.find? (·.name = name)

/-- A layer with what its collectors collect. -/
def fill (scope : Scope) (s : Snapshot) (facts : Path → Facts) (name : String)
    (collectors : List Collector) : Layer :=
  { name
    collectors
    elements := .unionAll (Collector.collectEach scope s facts collectors) }

/-- Builds and fills layers one after the other. What was read before a problem was met stays read. -/
def assembleFrom (scope : Scope) (s : Snapshot) (done : List Layer) (cache : Cache) :
    List LayerEntry → Except ConfigError Layers × Cache
  | [] => (.ok (ofLayers done), cache)
  | entry :: rest =>
    match entry.collectors.mapM Collector.build with
    | .error e => (.error e, cache)
    | .ok collectors =>
      let cache := cache.load s (Collector.requestsOfEach scope s collectors)
      let layer := fill scope s cache.facts entry.name collectors
      assembleFrom scope s (done ++ [layer]) cache rest

def assemble (scope : Scope) (s : Snapshot) (cache : Cache) (entries : List LayerEntry) :
    Except ConfigError Layers × Cache :=
  assembleFrom scope s [] cache entries

end Layers

end LayerCheck
