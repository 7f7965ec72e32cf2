import LayerCheck.Analysis
import LayerCheck.Proofs.Except
import LayerCheck.Proofs.Layer

/-!
Analyses taken apart. What an analysis checks can be said without its cache: layers filled from the
snapshot, where an element belongs to the last layer of the configuration that collects it, and the
dependencies between the elements of layers.
-/

namespace LayerCheck

/-! ### Owners -/

/-- Whether one of the collectors of a layer collects an element. -/
def LayerEntry.collects (scope : Scope) (s : Snapshot) (l : LayerEntry) (e : Element) : Bool :=
  l.collectors.any fun c =>
    match Collector.build c with
    | .ok k => e ∈ k.collect scope s s.facts
    | .error _ => false

namespace Config

/-- The name of the last layer that collects an element. -/
def owner? (c : Config) (scope : Scope) (s : Snapshot) (e : Element) : Option String :=
  (c.layers.reverse.find? (·.collects scope s e)).map (·.name)

end Config

theorem LayerEntry.collects_iff {scope : Scope} {s : Snapshot} {l : LayerEntry} {e : Element} :
    l.collects scope s e ↔
      ∃ c ∈ l.collectors, ∃ k, Collector.build c = .ok k ∧ e ∈ k.collect scope s s.facts := by
  simp only [collects, List.any_eq_true]
  refine exists_congr fun c => and_congr_right fun _ => ?_
  split
  · rename_i k hk
    simp [hk]
  · rename_i hk
    simp [hk]

theorem LayerEntry.isCanonical_of_collects {scope : Scope} {s : Snapshot} {l : LayerEntry}
    {e : Element} (h : l.collects scope s e) : e.IsCanonical := by
  obtain ⟨c, -, k, -, he⟩ := collects_iff.1 h
  exact (Collector.isFilePath_of_mem_collect he).isCanonical

/-- What is found first in lists that agree item by item is the same. -/
theorem map_find?_eq_of_forall₂ {α β γ : Type} {f : α → γ} {g : β → γ} {p : α → Bool} {q : β → Bool}
    {l : List α} {l' : List β} (h : List.Forall₂ (fun a b => f a = g b ∧ p a = q b) l l') :
    (l.find? p).map f = (l'.find? q).map g := by
  induction h with
  | nil => rfl
  | @cons a b l l' hab _ ih =>
    obtain ⟨hvalue, hfound⟩ := hab
    rw [List.find?_cons, List.find?_cons, ← hfound]
    split
    · exact congrArg some hvalue
    · exact ih

namespace Layers

variable {scope : Scope} {s : Snapshot}

/-- A layer is filled with what its entry collects. -/
theorem filled_spec {entry : LayerEntry} {l : Layer} (h : filled scope s entry = .ok l) :
    l.name = entry.name ∧ IsCanonical l ∧ ∀ e, e ∈ l.elements ↔ entry.collects scope s e := by
  obtain ⟨ks, hks, rfl⟩ := Except.map_eq_ok.1 h
  refine ⟨rfl, isCanonical_fill, fun e => ?_⟩
  simp only [mem_elements_fill, LayerEntry.collects_iff, Except.mem_of_mapM_eq_ok hks]
  grind

theorem isCanonical_of_mapM_filled {entries : List LayerEntry} {layers : List Layer}
    (h : entries.mapM (filled scope s) = .ok layers) : ∀ l ∈ layers, IsCanonical l := by
  intro l hl
  obtain ⟨entry, -, hentry⟩ := (Except.mem_of_mapM_eq_ok h).1 hl
  exact (filled_spec hentry).2.1

theorem find?_filled {entries : List LayerEntry} {layers : List Layer}
    (h : List.Forall₂ (fun entry l => filled scope s entry = .ok l) entries layers) (e : Element) :
    (layers.find? fun l => decide (e ∈ l.elements)).map (·.name) =
      (entries.find? (·.collects scope s e)).map (·.name) := by
  refine (map_find?_eq_of_forall₂ (h.imp fun entry l hl => ?_)).symm
  obtain ⟨hname, -, helements⟩ := filled_spec hl
  refine ⟨hname.symm, ?_⟩
  rw [Bool.eq_iff_iff, decide_eq_true_iff, helements]

end Layers

namespace Config

variable {c : Config} {scope : Scope} {s : Snapshot} {layers : List Layer}

theorem isCanonical_of_owner? {e : Element} {name : String} (h : c.owner? scope s e = some name) :
    e.IsCanonical := by
  obtain ⟨entry, hfind, -⟩ := Option.map_eq_some_iff.1 h
  exact LayerEntry.isCanonical_of_collects (by simpa using List.find?_some hfind)

theorem layerOf?_eq_owner? (h : c.layers.mapM (Layers.filled scope s) = .ok layers) {e : Element}
    (he : e.IsCanonical) : (Layers.ofLayers layers).layerOf? e = c.owner? scope s e := by
  rw [Layers.layerOf?_ofLayers (Layers.isCanonical_of_mapM_filled h) he, owner?]
  exact Layers.find?_filled (List.forall₂_reverse_iff.2 (Except.mapM_eq_ok.1 h)) e

/-- The elements of the layers are those that have an owner. -/
theorem mem_elements_iff (h : c.layers.mapM (Layers.filled scope s) = .ok layers) {e : Element} :
    e ∈ (Layers.ofLayers layers).elements ↔ (c.owner? scope s e).isSome := by
  have hkeys := Layers.isCanonical_of_mem_elements (Layers.isCanonical_of_mapM_filled h)
  have hiff (he : e.IsCanonical) :
      e ∈ (Layers.ofLayers layers).elements ↔ (c.owner? scope s e).isSome := by
    rw [← layerOf?_eq_owner? h he, Option.isSome_iff_exists]
    exact OrderedMap.mem_keys_iff Element.lawfulOn_isCanonical hkeys he
  constructor
  · intro he
    exact (hiff (hkeys e he)).1 he
  · intro he
    obtain ⟨name, hname⟩ := Option.isSome_iff_exists.1 he
    exact (hiff (isCanonical_of_owner? hname)).2 he

end Config

/-! ### Analyses without a cache -/

/-- The dependencies between the elements of layers, with the facts of a snapshot. -/
def Layers.dependencies (l : Layers) (s : Snapshot) : List Dependency :=
  (NameIndex.ofList l.elements).edges s.facts l.elements

namespace Analysis

variable {s : Snapshot} {c : Config}

theorem edges_congr {index : NameIndex} {facts facts' : Path → Facts} {sources : List Element}
    (h : ∀ e ∈ sources, facts e.file = facts' e.file) :
    index.edges facts sources = index.edges facts' sources :=
  List.flatMap_congr fun e he => by rw [h e he]

/-- What an analysis checks, each file being read from the snapshot. -/
theorem subject_eq (s : Snapshot) (c : Config) :
    subject s c = (do
      let rules ← Rule.ofRuleset c.ruleset
      let scope ← Scope.make s c.paths c.excludeFiles
      let layers ← c.layers.mapM (Layers.filled scope s)
      return ⟨rules, .ofLayers layers, (Layers.ofLayers layers).dependencies s⟩) := by
  refine congrArg _ (funext fun rules => congrArg _ (funext fun scope => ?_))
  obtain ⟨cache, hcache, hassemble⟩ :=
    Layers.assembleFrom_eq scope (Cache.faithful_empty s) [] c.layers
  rw [Layers.assemble, hassemble]
  cases hlayers : c.layers.mapM (Layers.filled scope s) with
  | error e => rfl
  | ok layers =>
    have hcanonical : ∀ p ∈ requests (Layers.ofLayers layers).elements, p.IsCanonical := by
      intro p hp
      obtain ⟨e, he, rfl⟩ := List.mem_map.1 hp
      exact Layers.isCanonical_of_mem_elements (Layers.isCanonical_of_mapM_filled hlayers) e he
    have hfacts : ∀ e ∈ (Layers.ofLayers layers).elements,
        (cache.load s (requests (Layers.ofLayers layers).elements)).facts e.file = s.facts e.file :=
      fun e he => Cache.facts_load hcache hcanonical (List.mem_map_of_mem he)
    simp only [bind, Except.bind, pure, Except.pure, List.nil_append, edges_congr hfacts]
    rfl

/-- An analysis that succeeds, taken apart. -/
theorem subject_eq_ok {subject : Subject} :
    Analysis.subject s c = .ok subject ↔ ∃ rules scope layers,
      Rule.ofRuleset c.ruleset = .ok rules ∧ Scope.make s c.paths c.excludeFiles = .ok scope ∧
        c.layers.mapM (Layers.filled scope s) = .ok layers ∧
        subject = ⟨rules, .ofLayers layers, (Layers.ofLayers layers).dependencies s⟩ := by
  simp only [subject_eq, Except.bind_eq_ok]
  constructor
  · rintro ⟨rules, hrules, scope, hscope, layers, hlayers, h⟩
    exact ⟨rules, scope, layers, hrules, hscope, hlayers, (Except.ok.inj h).symm⟩
  · rintro ⟨rules, scope, layers, hrules, hscope, hlayers, rfl⟩
    exact ⟨rules, hrules, scope, hscope, layers, hlayers, rfl⟩

theorem run_eq_ok {result : Analysis} :
    run s c = .ok result ↔ ∃ subject, Analysis.subject s c = .ok subject ∧
      check subject.rules subject.layers subject.edges = result :=
  Except.map_eq_ok

end Analysis

end LayerCheck
