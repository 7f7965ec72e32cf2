import LayerCheck.Proofs.Analysis
import LayerCheck.Proofs.Build
import LayerCheck.Proofs.Validation

/-!
Why analyses fail. A configuration that was checked can fail only by its collector entries, whatever
the project looks like, and then it fails with the first fault that a pass through the entries meets.
-/

namespace LayerCheck

namespace CollectorEntry

/-! ### Faults of an entry -/

/-- The keys that entries are nested under, in the order in which they are built. -/
def nestingKeys : List String :=
  ["must", "any_of", "must_not"]

/-- The faults of an entry in the order in which they are met. A list that cannot be read as a whole is
one fault and has no entries. -/
def faults (c : CollectorEntry) : List ConfigError :=
  if c.kind = "bool" then
    nestingKeys.flatMap fun key =>
      (Except.fault? (c.nested key)).toList ++ (c.children key).attach.flatMap fun ⟨x, _⟩ => x.faults
  else (Except.fault? c.leaf).toList
termination_by c.depth
decreasing_by exact depth_lt_of_mem_children ‹_›

variable {c x : CollectorEntry}

theorem faults_bool (hkind : c.kind = "bool") :
    c.faults = nestingKeys.flatMap fun key =>
      (Except.fault? (c.nested key)).toList ++ (c.children key).flatMap faults := by
  rw [faults, if_pos hkind]
  simp only [List.flatMap_subtype, List.unattach_attach]

theorem faults_leaf (hkind : c.kind ≠ "bool") : c.faults = (Except.fault? c.leaf).toList := by
  rw [faults, if_neg hkind]

/-- The entry stands in an entry, at any depth. -/
inductive IsWithin (x : CollectorEntry) : CollectorEntry → Prop where
  | self : IsWithin x x
  | nested {c part : CollectorEntry} {key : String} (hkind : c.kind = "bool") (hkey : key ∈ nestingKeys)
      (hpart : part ∈ c.children key) (h : IsWithin x part) : IsWithin x c

theorem IsWithin.faults_subset (h : x.IsWithin c) : x.faults ⊆ c.faults := by
  induction h with
  | self => exact List.Subset.refl _
  | nested hkind hkey hpart _ ih =>
    intro e he
    rw [faults_bool hkind]
    refine List.mem_flatMap.2 ⟨_, hkey, List.mem_append_right _ ?_⟩
    exact List.mem_flatMap.2 ⟨_, hpart, ih he⟩

end CollectorEntry

/-! ### Faults of analyses -/

namespace Collector

open CollectorEntry

/-- A list of entries is read as a whole before its items are built. -/
theorem fault?_nested {c : CollectorEntry} {key : String}
    (h : ∀ x ∈ c.children key, Except.fault? (build x) = x.faults.head?) :
    Except.fault? (c.nested key >>= List.mapM build) =
      ((Except.fault? (c.nested key)).toList ++ (c.children key).flatMap faults).head? := by
  have hitems (xs : List CollectorEntry) (hxs : c.nested key = .ok xs) :
      Except.fault? (xs.mapM build) = ((c.children key).flatMap faults).head? := by
    rw [children_of_nested hxs] at h ⊢
    exact Except.fault?_mapM h
  rw [Except.fault?_bind hitems, List.head?_append, Option.head?_toList]

/-- An entry is refused with its first fault. -/
theorem fault?_build (c : CollectorEntry) : Except.fault? (build c) = c.faults.head? := by
  induction hdepth : c.depth using Nat.strongRecOn generalizing c with
  | ind depth ih =>
    have hparts (key : String) : ∀ x ∈ c.children key, Except.fault? (build x) = x.faults.head? :=
      fun x hx => ih x.depth (hdepth ▸ depth_lt_of_mem_children hx) x rfl
    rw [build_eq]
    split
    · rename_i hkind
      have hcomposite : composite build c = (do
          let must ← c.nested "must" >>= List.mapM build
          let anyOf ← c.nested "any_of" >>= List.mapM build
          let mustNot ← c.nested "must_not" >>= List.mapM build
          return .bool must anyOf mustNot) := by
        simp only [composite, bind_assoc]
      rw [hcomposite, Except.fault?_bind fun _ _ => Except.fault?_bind fun _ _ => Except.fault?_map]
      simp only [fault?_nested (hparts _), faults_bool hkind, nestingKeys, List.flatMap_cons,
        List.flatMap_nil, List.append_nil, List.head?_append]
    · rename_i hkind
      rw [faults_leaf hkind, Except.fault?_map, Option.head?_toList]

end Collector

namespace LayerEntry

/-- The faults of the collectors of a layer, in their order. -/
def faults (l : LayerEntry) : List ConfigError :=
  l.collectors.flatMap CollectorEntry.faults

theorem fault?_filled (scope : Scope) (s : Snapshot) (l : LayerEntry) :
    Except.fault? (Layers.filled scope s l) = l.faults.head? := by
  rw [Layers.filled, Except.fault?_map]
  exact Except.fault?_mapM fun c _ => Collector.fault?_build c

end LayerEntry

namespace Config

/-- The faults of the collectors of all layers, in the order of the layers. -/
def faults (c : Config) : List ConfigError :=
  c.layers.flatMap LayerEntry.faults

variable {c : Config}

/-- There are faults if some entry, be it nested or not, cannot be built. -/
theorem faults_ne_nil_iff :
    c.faults ≠ [] ↔ ∃ l ∈ c.layers, ∃ entry ∈ l.collectors, ∃ x : CollectorEntry,
      x.IsWithin entry ∧ ∃ e, Collector.build x = .error e := by
  have hrefused (x : CollectorEntry) : x.faults ≠ [] ↔ ∃ e, Collector.build x = .error e := by
    simp only [← Except.fault?_eq_some_iff, Collector.fault?_build, ← Option.isSome_iff_exists,
      List.isSome_head?]
  constructor
  · intro h
    obtain ⟨e, he⟩ := List.exists_mem_of_ne_nil _ h
    obtain ⟨l, hl, he⟩ := List.mem_flatMap.1 he
    obtain ⟨entry, hentry, he⟩ := List.mem_flatMap.1 he
    exact ⟨l, hl, entry, hentry, entry, .self, (hrefused entry).1 (List.ne_nil_of_mem he)⟩
  · rintro ⟨l, hl, entry, hentry, x, hx, hfails⟩
    obtain ⟨e, he⟩ := List.exists_mem_of_ne_nil _ ((hrefused x).2 hfails)
    exact List.ne_nil_of_mem (List.mem_flatMap.2 ⟨l, hl,
      List.mem_flatMap.2 ⟨entry, hentry, hx.faults_subset he⟩⟩)

end Config

namespace Analysis

/-- A configuration that was checked fails with the first fault of its collectors. -/
theorem fault?_run {c : Config} (h : c.validate = .ok ()) (s : Snapshot) :
    Except.fault? (run s c) = c.faults.head? := by
  have hlayers (scope : Scope) :
      Except.fault? (c.layers.mapM (Layers.filled scope s)) = c.faults.head? :=
    Except.fault?_mapM fun l _ => LayerEntry.fault?_filled scope s l
  have hrules := Except.fault?_eq_none_iff.2 (Rule.exists_ofRuleset h)
  have hscope := Except.fault?_eq_none_iff.2 (Scope.exists_make h s)
  rw [run, Except.fault?_map, subject_eq, Except.fault?_bind fun _ _ => Except.fault?_bind
    fun scope _ => Except.fault?_map.trans (hlayers scope), hrules, hscope, Option.none_or,
    Option.none_or]

/-- An analysis of a configuration that was read fails by its collector entries only: with the first
fault of a pass through them, the same for every project, and just if one of them is refused. -/
theorem fails_by_collector_entries {content : String} {format : Config.Format} {base : Path}
    {c : Config} (h : Config.parse content format base = .ok c) :
    (∃ rules, Rule.ofRuleset c.ruleset = .ok rules) ∧
      (∀ s, ∃ scope, Scope.make s c.paths c.excludeFiles = .ok scope) ∧
      (∀ s e, run s c = .error e ↔ c.faults.head? = some e) ∧
      (∀ s s' e, run s c = .error e ↔ run s' c = .error e) ∧
      ∀ s, (∃ e, run s c = .error e) ↔ ∃ l ∈ c.layers, ∃ entry ∈ l.collectors,
        ∃ x : CollectorEntry, x.IsWithin entry ∧ ∃ e, Collector.build x = .error e := by
  have hvalid := Config.validate_of_parse h
  have hfirst (s : Snapshot) (e : ConfigError) : run s c = .error e ↔ c.faults.head? = some e := by
    rw [← fault?_run hvalid s, Except.fault?_eq_some_iff]
  refine ⟨Rule.exists_ofRuleset hvalid, Scope.exists_make hvalid, hfirst, fun s s' e => ?_,
    fun s => ?_⟩
  · rw [hfirst s, hfirst s']
  · simp only [hfirst, ← Config.faults_ne_nil_iff, ← Option.isSome_iff_exists,
      List.isSome_head?]

end Analysis

namespace Refused

/-- An unknown collector two lists deep, before a list that is none. -/
def text : String :=
  "[[layers]]\nname='a'\n[[layers.collectors]]\ntype='bool'\nmust_not=5\n" ++
    "[[layers.collectors.any_of]]\ntype='bool'\n[[layers.collectors.any_of.must]]\ntype='nope'\n"

def snapshot : Snapshot :=
  ({} : Snapshot).set ["a.py"] (.file (some "class A: pass\n"))

theorem fails_by_nested_entry : ∃ c e,
    Config.parse text .toml ⟨"/"⟩ = .ok c ∧
      e.message? = some "unknown collector type \x60nope\x60" ∧ c.faults.head? = some e ∧
      Analysis.run snapshot c = .error e ∧ Analysis.run {} c = .error e := by
  have hvalue : (Config.parse text .toml ⟨"/"⟩).toOption.map (fun c =>
      (Except.fault? (Analysis.run snapshot c)).map ConfigError.message?) =
      some (some (some "unknown collector type \x60nope\x60")) := by
    decide +kernel
  cases hparse : Config.parse text .toml ⟨"/"⟩ with
  | error e =>
    rw [hparse] at hvalue
    contradiction
  | ok c =>
    rw [hparse] at hvalue
    obtain ⟨e, hfault, hmessage⟩ := Option.map_eq_some_iff.1 (Option.some.inj hvalue)
    have hrun := Except.fault?_eq_some_iff.1 hfault
    obtain ⟨-, -, hfirst, hsame, -⟩ := Analysis.fails_by_collector_entries hparse
    exact ⟨c, e, rfl, hmessage, (hfirst snapshot e).1 hrun, hrun, (hsame snapshot {} e).1 hrun⟩

end Refused

end LayerCheck
