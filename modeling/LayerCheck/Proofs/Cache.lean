import LayerCheck.Proofs.Collector
import Mathlib.Data.List.Basic

/-!
A cache that was filled from one snapshot answers as the snapshot does, for every path that was asked
for. Collectors look at no other path, so they may be given the facts of the snapshot itself.
-/

namespace LayerCheck

namespace Cache

/-- Whatever the cache holds are the facts that the snapshot has at a canonical path. -/
structure Faithful (c : Cache) (s : Snapshot) : Prop where
  canonical : ∀ p ∈ c.modules.keys, p.IsCanonical
  facts_eq : ∀ p facts, p.IsCanonical → c.modules.get? p = some facts → facts = s.facts p

theorem faithful_empty (s : Snapshot) : Faithful {} s where
  canonical p h := absurd h List.not_mem_nil
  facts_eq p facts _ h := by simp at h

variable {c : Cache} {s : Snapshot}

/-- A cache that was asked for a path knows it, and knows of other paths what it knew before. -/
theorem get?_get {p q : Path} (hc : c.Faithful s) (hp : p.IsCanonical) (hq : q.IsCanonical) :
    (c.get s p).2.modules.get? q = if q = p then some (s.facts p) else c.modules.get? q := by
  have hcompare : compare q p = .eq ↔ q = p :=
    ⟨Path.lawfulOn_isCanonical hq hp, fun h => h ▸ Std.ReflCmp.compare_self⟩
  unfold get
  split
  · rename_i facts hfacts
    rw [hc.facts_eq p facts hp hfacts] at hfacts
    split
    · rename_i heq
      rw [heq, hfacts]
    · rfl
  · simp only [OrderedMap.get?_insert, hcompare]

theorem faithful_get {p : Path} (hc : c.Faithful s) (hp : p.IsCanonical) :
    (c.get s p).2.Faithful s where
  canonical := by
    unfold get
    split
    · exact hc.canonical
    · exact OrderedMap.keys_insert hc.canonical hp
  facts_eq q facts hq h := by
    rw [get?_get hc hp hq] at h
    split at h
    · rename_i heq
      rw [heq, ← Option.some.inj h]
    · exact hc.facts_eq q facts hq h

theorem faithful_load {paths : List Path} (hc : c.Faithful s)
    (hpaths : ∀ p ∈ paths, p.IsCanonical) : (c.load s paths).Faithful s := by
  induction paths generalizing c with
  | nil => exact hc
  | cons p paths ih =>
    obtain ⟨hp, hpaths⟩ := List.forall_mem_cons.1 hpaths
    exact ih (faithful_get hc hp) hpaths

theorem get?_load {paths : List Path} (hc : c.Faithful s) (hpaths : ∀ p ∈ paths, p.IsCanonical)
    {q : Path} (hq : q.IsCanonical) :
    (c.load s paths).modules.get? q = if q ∈ paths then some (s.facts q) else c.modules.get? q := by
  induction paths generalizing c with
  | nil => simp [load]
  | cons p paths ih =>
    obtain ⟨hp, hpaths⟩ := List.forall_mem_cons.1 hpaths
    have hstep : c.load s (p :: paths) = (c.get s p).2.load s paths := rfl
    rw [hstep, ih (faithful_get hc hp) hpaths, get?_get hc hp hq]
    by_cases hmem : q ∈ paths <;> by_cases heq : q = p <;> simp [hmem, heq]

/-- A cache gives the facts of the snapshot for the paths it was asked for. -/
theorem facts_load {paths : List Path} (hc : c.Faithful s) (hpaths : ∀ p ∈ paths, p.IsCanonical)
    {p : Path} (hp : p ∈ paths) : (c.load s paths).facts p = s.facts p := by
  rw [facts, get?_load hc hpaths (hpaths p hp), if_pos hp, Option.getD_some]

end Cache

/-! ### What collectors ask for -/

theorem flatMap_elements_congr {files : List SourceFile} {facts facts' : Path → Facts}
    {keep : Definition → Bool} (h : ∀ f ∈ files, facts f.path = facts' f.path) :
    (files.flatMap fun f => f.elements facts keep) = files.flatMap fun f => f.elements facts' keep := by
  refine List.flatMap_congr fun f hf => ?_
  rw [SourceFile.elements, SourceFile.elements, h f hf]

theorem Scope.universe_congr {scope : Scope} {s : Snapshot} {facts facts' : Path → Facts}
    (h : ∀ f ∈ scope.files s none, facts f.path = facts' f.path) :
    scope.universe s facts = scope.universe s facts' := by
  rw [Scope.universe, Scope.universe, flatMap_elements_congr h]

namespace Collector

variable {scope : Scope} {s : Snapshot}

theorem mem_requests_bool {must anyOf mustNot : List Collector} {p : Path} :
    p ∈ (bool must anyOf mustNot).requests scope s ↔
      (∃ k ∈ must ++ anyOf ++ mustNot, p ∈ k.requests scope s) ∨
        must = [] ∧ anyOf = [] ∧ ∃ f ∈ scope.files s none, f.path = p := by
  have huniverse : (p ∈ if must.isEmpty && anyOf.isEmpty then (scope.files s none).map (·.path)
      else []) ↔ must = [] ∧ anyOf = [] ∧ ∃ f ∈ scope.files s none, f.path = p := by
    by_cases hempty : must = [] ∧ anyOf = []
    · simp [hempty]
    · simp only [Bool.and_eq_true, List.isEmpty_iff, ← and_assoc, hempty, false_and, if_false,
        List.not_mem_nil]
  rw [requests, requestsOfEach_eq_flatMap, requestsOfEach_eq_flatMap, requestsOfEach_eq_flatMap,
    List.mem_append, List.mem_append, huniverse, or_right_comm, ← List.mem_append,
    ← List.flatMap_append, ← List.flatMap_append, List.mem_flatMap]

theorem isCanonical_of_mem_requests {k : Collector} {p : Path} (h : p ∈ k.requests scope s) :
    p.IsCanonical := by
  induction k with
  | leaf l =>
    obtain ⟨f, hf, rfl⟩ := List.mem_map.1 h
    exact (Leaf.isFilePath_of_mem_files hf).isCanonical
  | bool must anyOf mustNot hmust hanyOf hmustNot =>
    rcases mem_requests_bool.1 h with ⟨k, hk, hp⟩ | ⟨-, -, f, hf, rfl⟩
    · simp only [List.mem_append] at hk
      rcases hk with (hk | hk) | hk
      · exact hmust k hk hp
      · exact hanyOf k hk hp
      · exact hmustNot k hk hp
    · exact (Scope.isFilePath_of_mem_files hf).isCanonical

/-- Only the facts of the paths that a collector asks for count. -/
theorem collect_congr {facts facts' : Path → Facts} {k : Collector}
    (h : ∀ p ∈ k.requests scope s, facts p = facts' p) :
    k.collect scope s facts = k.collect scope s facts' := by
  induction k with
  | leaf l =>
    have hfiles : ∀ f ∈ l.files scope s, facts f.path = facts' f.path :=
      fun f hf => h f.path (List.mem_map_of_mem hf)
    rw [collect, collect, Leaf.collect, Leaf.collect, flatMap_elements_congr hfiles]
  | bool must anyOf mustNot hmust hanyOf hmustNot =>
    have hpart (k : Collector) (hk : k ∈ must ++ anyOf ++ mustNot) :
        ∀ p ∈ k.requests scope s, facts p = facts' p :=
      fun p hp => h p (mem_requests_bool.2 (.inl ⟨k, hk, hp⟩))
    have huniverse : must = [] → anyOf = [] →
        scope.universe s facts = scope.universe s facts' := by
      intro hm ha
      refine Scope.universe_congr fun f hf => h f.path ?_
      exact mem_requests_bool.2 (.inr ⟨hm, ha, f, hf, rfl⟩)
    refine OrderedSet.ext fun e => mem_collect_bool_congr (fun hm ha => by rw [huniverse hm ha])
      (.of_forall fun k hk => ?_) (.of_forall fun k hk => ?_) (.of_forall fun k hk => ?_)
    · rw [hmust k hk (hpart k (by simp [hk]))]
    · rw [hanyOf k hk (hpart k (by simp [hk]))]
    · rw [hmustNot k hk (hpart k (by simp [hk]))]

end Collector

end LayerCheck
