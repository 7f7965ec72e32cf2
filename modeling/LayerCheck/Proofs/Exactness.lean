import LayerCheck.Proofs.Analysis
import LayerCheck.Proofs.NameIndex
import LayerCheck.Proofs.Rule
import Mathlib.Data.Set.Card

/-!
An analysis is exact. It counts the elements that belong to a layer and the references between them,
and it reports those violations that the ruleset speaks of: none is lost, doubled or laid to another
layer.
-/

namespace LayerCheck

/-! ### What an analysis should find -/

namespace Config

/-- Both ends belong to a layer, and the file of the source has a reference on the line whose probe is
the short name of the target. -/
structure IsEdge (c : Config) (scope : Scope) (s : Snapshot) (d : Dependency) : Prop where
  source : (c.owner? scope s d.source).isSome
  target : (c.owner? scope s d.target).isSome
  reference : ∃ r ∈ (s.facts d.source.file).references,
    r.line = d.line ∧ r.probe = d.target.shortName

/-- What is at odds with the ruleset of a configuration. -/
inductive Violates (c : Config) (scope : Scope) (s : Snapshot) : Violation → Prop where
  /-- A dependency on an element of another layer, which the layer of the source disallows. -/
  | dependency {d : Dependency} {source target : String} {r : RuleEntry}
      (hedge : c.IsEdge scope s d) (hsource : c.owner? scope s d.source = some source)
      (htarget : c.owner? scope s d.target = some target) (hother : source ≠ target)
      (hrule : c.ruleset.get? source = some r) (hdisallow : target ∈ r.disallow) :
      Violates c scope s (.atEdge d .layerDependency (Rule.dependencyMessage source target d))
  /-- A class whose short name the pattern for classes of its layer does not match. -/
  | className {e : Element} {layer raw : String} {r : RuleEntry} {p : Pattern}
      (howner : c.owner? scope s e = some layer) (hkind : e.kind = .cls)
      (hrule : c.ruleset.get? layer = some r) (hraw : r.classNaming = some raw)
      (hp : Pattern.matching? raw = some p) (hmatch : p.isMatch e.shortName = false) :
      Violates c scope s (.atElement e .classNaming (Rule.namingMessage "Class" layer p e))
  /-- A function whose short name the pattern for functions of its layer does not match. -/
  | functionName {e : Element} {layer raw : String} {r : RuleEntry} {p : Pattern}
      (howner : c.owner? scope s e = some layer) (hkind : e.kind = .func)
      (hrule : c.ruleset.get? layer = some r) (hraw : r.functionNaming = some raw)
      (hp : Pattern.matching? raw = some p) (hmatch : p.isMatch e.shortName = false) :
      Violates c scope s (.atElement e .functionNaming (Rule.namingMessage "Function" layer p e))

/-- What is to be said of the analysis of a configuration, given what was checked. -/
structure Exact (c : Config) (scope : Scope) (s : Snapshot) (subject : Analysis.Subject)
    (result : Analysis) : Prop where
  elements : {e | (c.owner? scope s e).isSome}.encard = result.elementsChecked
  edges : {d | c.IsEdge scope s d}.encard = result.edgesChecked
  passed : ∀ d, d ∈ subject.edges ↔ c.IsEdge scope s d
  increasing : result.violations.toList.Pairwise fun v w => Violation.order v w = .lt
  nodup : result.violations.toList.Nodup
  violations : ∀ v, v ∈ result.violations ↔ c.Violates scope s v

end Config

/-! ### Elements and dependencies -/

theorem encard_of_mem_iff {α : Type} {p : α → Prop} {l : List α} (hnodup : l.Nodup)
    (h : ∀ a, a ∈ l ↔ p a) : {a | p a}.encard = l.length := by
  classical
  have hset : {a | p a} = (l.toFinset : Set α) := by
    ext a
    simp [← h]
  rw [hset, Set.encard_coe_eq_coe_finsetCard, List.toFinset_card_of_nodup hnodup]

namespace Config

variable {c : Config} {scope : Scope} {s : Snapshot} {layers : List Layer}

section Layers

variable (h : c.layers.mapM (Layers.filled scope s) = .ok layers)
include h

theorem mem_dependencies_iff {d : Dependency} :
    d ∈ (Layers.ofLayers layers).dependencies s ↔ c.IsEdge scope s d := by
  have hcanonical :=
    Layers.isCanonical_of_mem_elements (Layers.isCanonical_of_mapM_filled h)
  rw [Layers.dependencies, NameIndex.mem_edges hcanonical hcanonical, mem_elements_iff h,
    mem_elements_iff h]
  constructor
  · rintro ⟨hsource, htarget, href⟩
    exact ⟨hsource, htarget, href⟩
  · rintro ⟨hsource, htarget, href⟩
    exact ⟨hsource, htarget, href⟩

theorem nodup_dependencies : ((Layers.ofLayers layers).dependencies s).Nodup := by
  have hcanonical :=
    Layers.isCanonical_of_mem_elements (Layers.isCanonical_of_mapM_filled h)
  exact NameIndex.nodup_edges hcanonical hcanonical (OrderedMap.nodup_keys _)

/-! ### Violations -/

theorem mem_owners_iff {e : Element} {name : String} :
    (e, name) ∈ (Layers.ofLayers layers).owners.entries ↔ c.owner? scope s e = some name := by
  have hkeys := Layers.isCanonical_of_mem_elements (Layers.isCanonical_of_mapM_filled h)
  have hiff (he : e.IsCanonical) :
      (e, name) ∈ (Layers.ofLayers layers).owners.entries ↔ c.owner? scope s e = some name := by
    rw [← layerOf?_eq_owner? h he]
    exact OrderedMap.mem_entries_iff Element.lawfulOn_isCanonical hkeys he
  constructor
  · intro hmem
    exact (hiff (hkeys e (OrderedMap.mem_keys_of_mem hmem))).1 hmem
  · intro howner
    exact (hiff (isCanonical_of_owner? howner)).2 howner

theorem mem_elementViolations_iff {rules : List Rule} {v : Violation} :
    v ∈ Analysis.elementViolations rules (.ofLayers layers) ↔
      ∃ e layer, c.owner? scope s e = some layer ∧
        ∃ rule ∈ rules, rule.checkElement layer e = some v := by
  simp only [Analysis.elementViolations, List.mem_flatMap, List.mem_filterMap, Prod.exists,
    mem_owners_iff h]

theorem mem_edgeViolations_iff {rules : List Rule} {v : Violation} :
    v ∈ ((Layers.ofLayers layers).dependencies s).flatMap
        (Analysis.edgeViolations rules (.ofLayers layers)) ↔
      ∃ d source target, c.IsEdge scope s d ∧ c.owner? scope s d.source = some source ∧
        c.owner? scope s d.target = some target ∧
        ∃ rule ∈ rules, rule.checkEdge source target d = some v := by
  simp only [List.mem_flatMap, mem_dependencies_iff h]
  refine exists_congr fun d => ?_
  constructor
  · rintro ⟨hedge, hv⟩
    obtain ⟨source, hsource⟩ := Option.isSome_iff_exists.1 hedge.source
    obtain ⟨target, htarget⟩ := Option.isSome_iff_exists.1 hedge.target
    rw [Analysis.edgeViolations, layerOf?_eq_owner? h (isCanonical_of_owner? hsource),
      layerOf?_eq_owner? h (isCanonical_of_owner? htarget), hsource, htarget] at hv
    exact ⟨source, target, hedge, hsource, htarget, List.mem_filterMap.1 hv⟩
  · rintro ⟨source, target, hedge, hsource, htarget, hrule⟩
    refine ⟨hedge, ?_⟩
    rw [Analysis.edgeViolations, layerOf?_eq_owner? h (isCanonical_of_owner? hsource),
      layerOf?_eq_owner? h (isCanonical_of_owner? htarget), hsource, htarget]
    exact List.mem_filterMap.2 hrule

end Layers

/-- What is at odds with a ruleset is what its rules find fault with. -/
theorem violates_iff {rules : List Rule} (hrules : Rule.ofRuleset c.ruleset = .ok rules)
    {v : Violation} :
    c.Violates scope s v ↔
      (∃ e layer, c.owner? scope s e = some layer ∧
        ∃ rule ∈ rules, rule.checkElement layer e = some v) ∨
      ∃ d source target, c.IsEdge scope s d ∧ c.owner? scope s d.source = some source ∧
        c.owner? scope s d.target = some target ∧
        ∃ rule ∈ rules, rule.checkEdge source target d = some v := by
  simp only [Rule.exists_checkElement_iff hrules, Rule.exists_checkEdge_iff hrules]
  constructor
  · rintro (⟨hedge, hsource, htarget, hother, hrule, hdisallow⟩ |
      ⟨howner, hkind, hrule, hraw, hp, hmatch⟩ | ⟨howner, hkind, hrule, hraw, hp, hmatch⟩)
    · exact .inr ⟨_, _, _, hedge, hsource, htarget, hother, _, hrule, hdisallow, rfl⟩
    · exact .inl ⟨_, _, howner, _, hrule, _, _, hp, hmatch, .inl ⟨hkind, hraw, rfl⟩⟩
    · exact .inl ⟨_, _, howner, _, hrule, _, _, hp, hmatch, .inr ⟨hkind, hraw, rfl⟩⟩
  · rintro (⟨e, layer, howner, r, hrule, raw, p, hp, hmatch, hv⟩ |
      ⟨d, source, target, hedge, hsource, htarget, hother, r, hrule, hdisallow, rfl⟩)
    · rcases hv with ⟨hkind, hraw, rfl⟩ | ⟨hkind, hraw, rfl⟩
      · exact .className howner hkind hrule hraw hp hmatch
      · exact .functionName howner hkind hrule hraw hp hmatch
    · exact .dependency hedge hsource htarget hother hrule hdisallow

theorem Violates.isCanonical {v : Violation} (h : c.Violates scope s v) : v.IsCanonical := by
  cases h with
  | dependency _ hsource => exact isCanonical_of_owner? hsource
  | className howner => exact isCanonical_of_owner? howner
  | functionName howner => exact isCanonical_of_owner? howner

/-- Checking layers and their dependencies reports what is at odds with the ruleset. -/
theorem mem_violations_iff (h : c.layers.mapM (Layers.filled scope s) = .ok layers)
    {rules : List Rule} (hrules : Rule.ofRuleset c.ruleset = .ok rules) {v : Violation} :
    v ∈ (Analysis.check rules (.ofLayers layers)
        ((Layers.ofLayers layers).dependencies s)).violations ↔ c.Violates scope s v := by
  have hfound (w : Violation) :
      w ∈ Analysis.elementViolations rules (.ofLayers layers) ++
          ((Layers.ofLayers layers).dependencies s).flatMap
            (Analysis.edgeViolations rules (.ofLayers layers)) ↔ c.Violates scope s w := by
    rw [violates_iff hrules, List.mem_append, mem_elementViolations_iff h, mem_edgeViolations_iff h]
  -- Violations are kept apart by comparing them, which tells them apart in canonical files only.
  rw [Analysis.check, OrderedSet.mem_insertMany Violation.lawfulOn_isCanonical (by simp)
    fun w hw => ((hfound w).1 hw).isCanonical]
  simp only [OrderedSet.not_mem_empty, false_or, hfound]

end Config

/-! ### Exactness -/

/-- An analysis that succeeds counts and reports what the configuration asks for. -/
theorem Analysis.exact_of_run {s : Snapshot} {c : Config} {result : Analysis}
    (h : run s c = .ok result) :
    ∃ scope subject, Scope.make s c.paths c.excludeFiles = .ok scope ∧
      Analysis.subject s c = .ok subject ∧ c.Exact scope s subject result := by
  obtain ⟨subject, hsubject, rfl⟩ := run_eq_ok.1 h
  obtain ⟨rules, scope, layers, hrules, hscope, hlayers, rfl⟩ := subject_eq_ok.1 hsubject
  refine ⟨scope, _, hscope, hsubject, ?_⟩
  constructor
  · rw [encard_of_mem_iff (OrderedMap.nodup_keys _) fun e => Config.mem_elements_iff hlayers]
    exact congrArg _ (List.length_map _)
  · exact encard_of_mem_iff (Config.nodup_dependencies hlayers) fun d =>
      Config.mem_dependencies_iff hlayers
  · exact fun d => Config.mem_dependencies_iff hlayers
  · exact OrderedSet.increasing _
  · exact nodup_of_increasing id (OrderedSet.increasing _)
  · exact fun v => Config.mem_violations_iff hlayers hrules

namespace Overlap

/-- A project in which a class and its method refer to a class of another file. -/
def snapshot : Snapshot :=
  ((({} : Snapshot).set ["p"] .directory).set ["p", "a.py"]
    (.file (some "from b import B\nclass A(B):\n    def run(self): pass\n"))).set ["p", "b.py"]
    (.file (some "class B: pass\n"))

/-- Two layers that both collect `a.py`, which belongs to the second of them. -/
def config : Config where
  paths := [⟨"/p"⟩, ⟨"/p/"⟩]
  excludeFiles := []
  layers :=
    [⟨"all", [⟨"file_regex", .ofList [("regex", .text "a|b")]⟩]⟩,
      ⟨"app", [⟨"file_regex", .ofList [("regex", .text "a")]⟩]⟩]
  ruleset := .ofList [("app", { disallow := ["all"], functionNaming := some "do_" })]

theorem exact_of_run_overlap : ∃ result, Analysis.run snapshot config = .ok result ∧
    (result.elementsChecked = 3 ∧ result.edgesChecked = 4 ∧
      result.violations.toList.map (fun v => (v.line, v.column, v.type)) =
        [(1, 1, .layerDependency), (1, 5, .layerDependency), (2, 1, .layerDependency),
          (2, 5, .layerDependency), (3, 5, .functionNaming)]) ∧
    ∃ scope subject, Scope.make snapshot config.paths config.excludeFiles = .ok scope ∧
      Analysis.subject snapshot config = .ok subject ∧
      config.Exact scope snapshot subject result := by
  have hvalue : (Analysis.run snapshot config).toOption.map (fun result =>
      (result.elementsChecked, result.edgesChecked,
        result.violations.toList.map fun v => (v.line, v.column, v.type))) =
      some (3, 4, [(1, 1, .layerDependency), (1, 5, .layerDependency), (2, 1, .layerDependency),
        (2, 5, .layerDependency), (3, 5, .functionNaming)]) := by
    decide +kernel
  cases h : Analysis.run snapshot config with
  | error e => simp [h, Except.toOption] at hvalue
  | ok result =>
    rw [h] at hvalue
    exact ⟨result, rfl, by simpa [Except.toOption] using hvalue, Analysis.exact_of_run h⟩

end Overlap

end LayerCheck
