import LayerCheck.Layer
import LayerCheck.Proofs.Cache

/-!
Layers and the owners of elements. An element belongs to the last layer that holds it, and what layers
hold does not depend on the cache they were read through.
-/

namespace LayerCheck.Layers

/-! ### Owners -/

/-- Every element of the layer is in a file given by a canonical path. -/
def IsCanonical (l : Layer) : Prop :=
  ∀ e ∈ l.elements, e.IsCanonical

theorem compare_eq_iff {a b : Element} (ha : a.IsCanonical) (hb : b.IsCanonical) :
    compare a b = .eq ↔ a = b :=
  ⟨Element.lawfulOn_isCanonical ha hb, fun h => h ▸ Std.ReflCmp.compare_self⟩

theorem get?_foldl_insert {elements : List Element} (helements : ∀ e ∈ elements, e.IsCanonical)
    (name : String) {owners : OrderedMap Element String} {e : Element} (he : e.IsCanonical) :
    (elements.foldl (fun owners e => owners.insert e name) owners).get? e =
      if e ∈ elements then some name else owners.get? e := by
  induction elements generalizing owners with
  | nil => simp
  | cons x elements ih =>
    obtain ⟨hx, helements⟩ := List.forall_mem_cons.1 helements
    rw [List.foldl_cons, ih helements, OrderedMap.get?_insert]
    by_cases hmem : e ∈ elements
    · simp [hmem]
    · simp [hmem, compare_eq_iff he hx]

theorem get?_own {owners : OrderedMap Element String} {l : Layer} (hl : IsCanonical l) {e : Element}
    (he : e.IsCanonical) :
    (own owners l).get? e = if e ∈ l.elements then some l.name else owners.get? e :=
  get?_foldl_insert hl l.name he

theorem keys_own {owners : OrderedMap Element String} {l : Layer} (hl : IsCanonical l)
    (howners : ∀ e ∈ owners.keys, e.IsCanonical) : ∀ e ∈ (own owners l).keys, e.IsCanonical := by
  have hkeys (elements : List Element) (helements : ∀ e ∈ elements, e.IsCanonical) :
      ∀ e ∈ (elements.foldl (fun owners e => owners.insert e l.name) owners).keys,
        e.IsCanonical := by
    induction elements using List.reverseRecOn with
    | nil => exact howners
    | append_singleton elements x ih =>
      rw [List.foldl_append]
      exact OrderedMap.keys_insert (ih fun e he => helements e (by simp [he])) (helements x (by simp))
  exact hkeys l.elements.toList hl

variable {layers : List Layer}

theorem isCanonical_of_mem_elements (hlayers : ∀ l ∈ layers, IsCanonical l) :
    ∀ e ∈ (ofLayers layers).elements, e.IsCanonical := by
  change ∀ e ∈ (layers.foldl own ∅).keys, e.IsCanonical
  induction layers using List.reverseRecOn with
  | nil => exact fun _ h => absurd h List.not_mem_nil
  | append_singleton layers l ih =>
    rw [List.foldl_append]
    exact keys_own (hlayers l (by simp)) (ih fun x hx => hlayers x (by simp [hx]))

/-- An element belongs to the last layer that holds it. -/
theorem layerOf?_ofLayers (hlayers : ∀ l ∈ layers, IsCanonical l) {e : Element}
    (he : e.IsCanonical) :
    (ofLayers layers).layerOf? e =
      (layers.reverse.find? fun l => decide (e ∈ l.elements)).map (·.name) := by
  change (layers.foldl own ∅).get? e = _
  induction layers using List.reverseRecOn with
  | nil => simp
  | append_singleton layers l ih =>
    rw [List.foldl_append, List.reverse_append, List.foldl_cons, List.foldl_nil,
      get?_own (hlayers l (by simp)) he, ih fun x hx => hlayers x (by simp [hx])]
    by_cases hmem : e ∈ l.elements <;> simp [hmem]

/-- The elements that belong to a layer are those that some layer holds. -/
theorem mem_elements_ofLayers (hlayers : ∀ l ∈ layers, IsCanonical l) {e : Element} :
    e ∈ (ofLayers layers).elements ↔ ∃ l ∈ layers, e ∈ l.elements := by
  have hkeys := isCanonical_of_mem_elements hlayers
  have hiff (he : e.IsCanonical) :
      e ∈ (ofLayers layers).elements ↔ ∃ name, (ofLayers layers).layerOf? e = some name :=
    OrderedMap.mem_keys_iff Element.lawfulOn_isCanonical hkeys he
  constructor
  · intro h
    obtain ⟨name, hname⟩ := (hiff (hkeys e h)).1 h
    rw [layerOf?_ofLayers hlayers (hkeys e h)] at hname
    obtain ⟨l, hfind, -⟩ := Option.map_eq_some_iff.1 hname
    exact ⟨l, List.mem_reverse.1 (List.mem_of_find?_eq_some hfind),
      by simpa using List.find?_some hfind⟩
  · rintro ⟨l, hl, he⟩
    have hcanonical : e.IsCanonical := hlayers l hl e he
    rw [hiff hcanonical, layerOf?_ofLayers hlayers hcanonical]
    have hsome : (layers.reverse.find? fun l => decide (e ∈ l.elements)).isSome := by
      rw [List.find?_isSome]
      exact ⟨l, List.mem_reverse.2 hl, by simpa using he⟩
    obtain ⟨found, hfound⟩ := Option.isSome_iff_exists.1 hsome
    exact ⟨found.name, by rw [hfound, Option.map_some]⟩

/-! ### Assembly -/

/-- The layer of an entry, filled with what the snapshot holds. -/
def filled (scope : Scope) (s : Snapshot) (entry : LayerEntry) : Except ConfigError Layer := do
  return fill scope s s.facts entry.name (← entry.collectors.mapM Collector.build)

variable {scope : Scope} {s : Snapshot}

theorem mem_elements_fill {facts : Path → Facts} {name : String} {ks : List Collector}
    {e : Element} :
    e ∈ (fill scope s facts name ks).elements ↔ ∃ k ∈ ks, e ∈ k.collect scope s facts := by
  rw [fill, Collector.collectEach_eq_map, ElementSet.mem_unionAll (Collector.lawfulOn_isFilePath s)
    (Collector.isFilePath_of_mem_map_collect ks)]
  simp

theorem isCanonical_fill {facts : Path → Facts} {name : String} {ks : List Collector} :
    IsCanonical (fill scope s facts name ks) := by
  intro e he
  obtain ⟨k, -, hk⟩ := mem_elements_fill.1 he
  exact (Collector.isFilePath_of_mem_collect hk).isCanonical

theorem fill_congr {facts facts' : Path → Facts} {name : String} {ks : List Collector}
    (h : ∀ p ∈ Collector.requestsOfEach scope s ks, facts p = facts' p) :
    fill scope s facts name ks = fill scope s facts' name ks := by
  have hcollect : ∀ k ∈ ks, k.collect scope s facts = k.collect scope s facts' := by
    intro k hk
    refine Collector.collect_congr fun p hp => h p ?_
    rw [Collector.requestsOfEach_eq_flatMap]
    exact List.mem_flatMap.2 ⟨k, hk, hp⟩
  rw [fill, fill, Collector.collectEach_eq_map, Collector.collectEach_eq_map,
    List.map_congr_left hcollect]

/-- Layers are filled as if each collector read the snapshot itself. -/
theorem assembleFrom_eq (scope : Scope) {cache : Cache} (hc : cache.Faithful s) (done : List Layer)
    (entries : List LayerEntry) : ∃ cache' : Cache, cache'.Faithful s ∧
      assembleFrom scope s done cache entries =
        ((do return ofLayers (done ++ (← entries.mapM (filled scope s)))), cache') := by
  -- The cache grows from layer to layer; that it stays faithful is what carries the induction.
  induction entries generalizing cache done with
  | nil =>
    refine ⟨cache, hc, ?_⟩
    rw [List.mapM_nil, pure_bind, List.append_nil]
    rfl
  | cons entry entries ih =>
    rw [assembleFrom, List.mapM_cons]
    cases hbuild : entry.collectors.mapM Collector.build with
    | error e => exact ⟨cache, hc, by simp [filled, hbuild, bind, Except.bind]⟩
    | ok ks =>
      have hcanonical : ∀ p ∈ Collector.requestsOfEach scope s ks, p.IsCanonical := by
        intro p hp
        rw [Collector.requestsOfEach_eq_flatMap] at hp
        obtain ⟨k, -, hp⟩ := List.mem_flatMap.1 hp
        exact Collector.isCanonical_of_mem_requests hp
      have hfacts : ∀ p ∈ Collector.requestsOfEach scope s ks,
          (cache.load s (Collector.requestsOfEach scope s ks)).facts p = s.facts p :=
        fun p => Cache.facts_load hc hcanonical
      have hlayer : filled scope s entry = .ok (fill scope s s.facts entry.name ks) := by
        simp [filled, hbuild, bind, Except.bind, pure, Except.pure]
      obtain ⟨cache', hc', hrest⟩ := ih (Cache.faithful_load hc hcanonical)
        (done ++ [fill scope s s.facts entry.name ks])
      refine ⟨cache', hc', ?_⟩
      dsimp only
      rw [fill_congr hfacts, hrest, hlayer]
      cases entries.mapM (filled scope s) with
      | error e => rfl
      | ok rest => simp [bind, Except.bind, pure, Except.pure]

end LayerCheck.Layers
