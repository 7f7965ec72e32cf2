import LayerCheck.Proofs.Build
import LayerCheck.Proofs.Collector
import Mathlib.Data.Set.List

/-!
Collectors and scopes that differ in the order of what they list, or in how often they list it. They
collect the same, and an entry whose options are alike builds an equivalent collector.
-/

namespace LayerCheck

/-! ### Scopes -/

/-- Two scopes with the same roots and patterns. -/
structure Scope.Similar (scope scope' : Scope) : Prop where
  roots : ∀ root, root ∈ scope.roots ↔ root ∈ scope'.roots
  exclude : ∀ pattern, pattern ∈ scope.exclude ↔ pattern ∈ scope'.exclude

namespace Scope.Similar

variable {scope scope' : Scope} {s : Snapshot} (h : scope.Similar scope')
include h

theorem isExcluded_eq (own : Option Pattern) (relative : String) :
    scope.isExcluded own relative = scope'.isExcluded own relative := by
  have hany : scope.exclude.any (·.isMatch relative) = scope'.exclude.any (·.isMatch relative) := by
    rw [Bool.eq_iff_iff]
    simp only [List.any_eq_true, h.exclude]
  rw [isExcluded, isExcluded, hany]

theorem mem_files_iff {own : Option Pattern} {f : SourceFile} :
    f ∈ scope.files s own ↔ f ∈ scope'.files s own := by
  simp only [Scope.mem_files, h.roots, h.isExcluded_eq]

theorem mem_leaf_files_iff {l : Leaf} {f : SourceFile} :
    f ∈ l.files scope s ↔ f ∈ l.files scope' s := by
  unfold Leaf.files
  split
  · rw [List.mem_filter, List.mem_filter, h.mem_files_iff]
  · simp only [Scope.mem_directoryFiles, h.roots, h.isExcluded_eq]
  · exact h.mem_files_iff

theorem collect_eq (k : Collector) (facts : Path → Facts) :
    k.collect scope s facts = k.collect scope' s facts := by
  refine OrderedSet.ext fun e => ?_
  induction k with
  | leaf l => simp only [Collector.collect, Leaf.mem_collect, h.mem_leaf_files_iff]
  | bool must anyOf mustNot hmust hanyOf hmustNot =>
    have huniverse : e ∈ scope.universe s facts ↔ e ∈ scope'.universe s facts := by
      simp only [Scope.mem_universe, h.mem_files_iff]
    exact Collector.mem_collect_bool_congr (fun _ _ => huniverse) (.of_forall hmust)
      (.of_forall hanyOf) (.of_forall hmustNot)

end Scope.Similar

/-! ### Collectors -/

namespace Collector

/-- Two collectors that collect the same wherever they are used. -/
def Equivalent (k k' : Collector) : Prop :=
  ∀ scope s facts, k.collect scope s facts = k'.collect scope s facts

theorem Equivalent.refl (k : Collector) : k.Equivalent k :=
  fun _ _ _ => rfl

theorem Equivalent.trans {a b c : Collector} (h : a.Equivalent b) (h' : b.Equivalent c) :
    a.Equivalent c :=
  fun scope s facts => (h scope s facts).trans (h' scope s facts)

theorem equivalent_directory {directories directories' : List String} (recursive : Bool)
    (kind : Option ElementKind) (exclude : Option Pattern)
    (h : ∀ directory, directory ∈ directories ↔ directory ∈ directories') :
    (leaf ⟨.directory directories recursive kind, exclude⟩).Equivalent
      (leaf ⟨.directory directories' recursive kind, exclude⟩) := by
  intro scope s facts
  refine OrderedSet.ext fun e => ?_
  simp only [collect, Leaf.mem_collect, Leaf.files, Scope.mem_directoryFiles, h]
  rfl

theorem equivalent_bool {must anyOf mustNot must' anyOf' mustNot' : List Collector}
    (hmust : Matched Equivalent must must') (hanyOf : Matched Equivalent anyOf anyOf')
    (hmustNot : Matched Equivalent mustNot mustNot') :
    (bool must anyOf mustNot).Equivalent (bool must' anyOf' mustNot') := by
  intro scope s facts
  refine OrderedSet.ext fun e => ?_
  have hmem {ks ks' : List Collector} (hks : Matched Equivalent ks ks') :
      Matched (fun k k' => e ∈ k.collect scope s facts ↔ e ∈ k'.collect scope s facts) ks ks' :=
    hks.imp fun k _ k' _ h => by rw [h scope s facts]
  exact mem_collect_bool_congr (fun _ _ => .rfl) (hmem hmust) (hmem hanyOf) (hmem hmustNot)

end Collector

/-! ### Documents of entries -/

namespace Document

/-- Whatever collector a document describes, the other one describes an equivalent one. -/
def SameEntry (d d' : Document) : Prop :=
  ∀ c k, CollectorEntry.ofDocument d = .ok c → Collector.build c = .ok k →
    ∃ c' k', CollectorEntry.ofDocument d' = .ok c' ∧ Collector.build c' = .ok k' ∧ k.Equivalent k'

/-- The documents are as good as each other in a list of entries and in a list of texts. -/
structure SameItem (d d' : Document) : Prop where
  entry : SameEntry d d'
  text : ∀ t, d = .text t → d' = .text t

/-- The documents are as good as each other where such a list is asked for. -/
structure SameValue (d d' : Document) : Prop extends SameItem d d' where
  null : d = .null → d' = .null
  list : ∀ items, d = .list items → ∃ items', d' = .list items' ∧ Matched SameItem items items'

theorem SameItem.refl (d : Document) : SameItem d d where
  entry c k hc hk := ⟨c, k, hc, hk, .refl k⟩
  text _ h := h

theorem SameItem.trans {a b c : Document} (h : SameItem a b) (h' : SameItem b c) : SameItem a c where
  entry x k hx hk := by
    obtain ⟨y, k', hy, hk', heq⟩ := h.entry x k hx hk
    obtain ⟨z, k'', hz, hk'', heq'⟩ := h'.entry y k' hy hk'
    exact ⟨z, k'', hz, hk'', heq.trans heq'⟩
  text t ht := h'.text t (h.text t ht)

theorem SameValue.refl (d : Document) : SameValue d d where
  toSameItem := .refl d
  null h := h
  list items h := ⟨items, h, .of_forall fun d _ => .refl d⟩

theorem SameValue.trans {a b c : Document} (h : SameValue a b) (h' : SameValue b c) :
    SameValue a c where
  toSameItem := h.toSameItem.trans h'.toSameItem
  null ha := h'.null (h.null ha)
  list items ha := by
    obtain ⟨items', hb, hmatched⟩ := h.list items ha
    obtain ⟨items'', hc, hmatched'⟩ := h'.list items' hb
    exact ⟨items'', hc, (hmatched.comp hmatched').imp fun _ _ _ _ ⟨_, hab, hbc⟩ => hab.trans hbc⟩

/-- A list is as good as one with items that match. -/
theorem sameValue_list {items items' : List Document} (h : Matched SameItem items items') :
    SameValue (.list items) (.list items') where
  entry c k hc := by simp [CollectorEntry.ofDocument] at hc
  text t ht := by simp at ht
  null hnull := by simp at hnull
  list found hfound := by
    obtain rfl : items = found := by simpa using hfound
    exact ⟨items', rfl, h⟩

theorem exists_texts_of_matched {texts : List String} {items' : List Document}
    (h : Matched SameItem (texts.map .text) items') :
    ∃ texts' : List String, items' = texts'.map .text ∧ ∀ t, t ∈ texts ↔ t ∈ texts' := by
  have htext (d : Document) (hd : d ∈ items') : ∃ t ∈ texts, d = .text t := by
    obtain ⟨a, ha, hsame⟩ := h.right d hd
    obtain ⟨t, ht, rfl⟩ := List.mem_map.1 ha
    exact ⟨t, ht, hsame.text t rfl⟩
  obtain ⟨texts', rfl⟩ : items' ∈ Set.range (List.map Document.text) := by
    rw [Set.range_list_map]
    intro d hd
    obtain ⟨t, -, rfl⟩ := htext d hd
    exact ⟨t, rfl⟩
  refine ⟨texts', rfl, fun t => ⟨fun ht => ?_, fun ht => ?_⟩⟩
  · obtain ⟨d, hd, hsame⟩ := h.left (.text t) (List.mem_map_of_mem ht)
    obtain ⟨t', ht', heq⟩ := List.mem_map.1 hd
    rw [hsame.text t rfl, Document.text.injEq] at heq
    rwa [← heq]
  · obtain ⟨t', ht', heq⟩ := htext (.text t) (List.mem_map_of_mem ht)
    rwa [Document.text.inj heq]

/-- Of two lists of documents that match, the second one is read and built if the first one is. -/
theorem exists_collectors_of_matched {items items' : List Document}
    (h : Matched SameItem items items') {xs : List CollectorEntry} {ks : List Collector}
    (hxs : items.mapM CollectorEntry.ofDocument = .ok xs) (hks : xs.mapM Collector.build = .ok ks) :
    ∃ xs' ks', items'.mapM CollectorEntry.ofDocument = .ok xs' ∧
      xs'.mapM Collector.build = .ok ks' ∧ Matched Collector.Equivalent ks ks' := by
  have hbuilt := (Except.matched_of_mapM_eq_ok hxs).comp (Except.matched_of_mapM_eq_ok hks)
  have hread (d : Document) (hd : d ∈ items') :
      ∃ x k, CollectorEntry.ofDocument d = .ok x ∧ Collector.build x = .ok k := by
    obtain ⟨a, ha, hsame⟩ := h.right d hd
    obtain ⟨k, -, x, hx, hk⟩ := hbuilt.left a ha
    obtain ⟨x', k', hx', hk', -⟩ := hsame.entry x k hx hk
    exact ⟨x', k', hx', hk'⟩
  obtain ⟨xs', hxs'⟩ := Except.exists_mapM_eq_ok fun d hd =>
    let ⟨x, _, hx, _⟩ := hread d hd
    ⟨x, hx⟩
  have hbuild' (x : CollectorEntry) (hx : x ∈ xs') : ∃ k, Collector.build x = .ok k := by
    obtain ⟨d, hd, hdx⟩ := (Except.mem_of_mapM_eq_ok hxs').1 hx
    obtain ⟨x', k, hx', hk⟩ := hread d hd
    obtain rfl : x = x' := Except.ok.inj (hdx.symm.trans hx')
    exact ⟨k, hk⟩
  obtain ⟨ks', hks'⟩ := Except.exists_mapM_eq_ok hbuild'
  -- From a collector back to its document, across to a matching one, and on to what that builds.
  have hbuilt' := (Except.matched_of_mapM_eq_ok hxs').comp (Except.matched_of_mapM_eq_ok hks')
  refine ⟨xs', ks', hxs', hks', ((hbuilt.symm.comp h).comp hbuilt').imp ?_⟩
  rintro k - k' - ⟨d', ⟨d, ⟨x, hx, hk⟩, hsame⟩, x', hx', hk'⟩
  obtain ⟨y, l, hy, hl, hequivalent⟩ := hsame.entry x k hx hk
  obtain rfl : x' = y := Except.ok.inj (hx'.symm.trans hy)
  obtain rfl : k' = l := Except.ok.inj (hk'.symm.trans hl)
  exact hequivalent

end Document

/-! ### Entries -/

namespace CollectorEntry

/-- The options that hold lists in which neither order nor repetition counts. -/
def listKeys : List String :=
  ["must", "any_of", "must_not", "directories"]

/-- The entries have the same options, up to related values where lists are held. -/
structure RelOptions (r : Document → Document → Prop) (c c' : CollectorEntry) : Prop where
  kind : c.kind = c'.kind
  other : ∀ key ∉ listKeys, c.options.get? key = c'.options.get? key
  lists : ∀ key ∈ listKeys, Option.Rel r (c.options.get? key) (c'.options.get? key)

namespace RelOptions

variable {r r' : Document → Document → Prop} {c c' : CollectorEntry}

theorem refl (hr : ∀ d, r d d) (c : CollectorEntry) : c.RelOptions r c where
  kind := rfl
  other _ _ := rfl
  lists key _ := by
    cases c.options.get? key with
    | none => exact .none
    | some d => exact .some (hr d)

theorem imp (h : c.RelOptions r c') (himp : ∀ d d', r d d' → r' d d') : c.RelOptions r' c' where
  kind := h.kind
  other := h.other
  lists key hkey := by
    have hrel := h.lists key hkey
    generalize c.options.get? key = o at hrel ⊢
    generalize c'.options.get? key = o' at hrel ⊢
    cases hrel with
    | some hrel => exact .some (himp _ _ hrel)
    | none => exact .none

end RelOptions

/-- The entries have the same options, up to lists that are as good as each other. -/
def SameOptions (c c' : CollectorEntry) : Prop :=
  RelOptions Document.SameValue c c'

namespace SameOptions

variable {c c' : CollectorEntry} (h : c.SameOptions c')
include h

theorem agreeAt {key : String} (hkey : key ∉ listKeys) : c.AgreeAt c' key :=
  ⟨h.kind, h.other key hkey⟩

theorem exclude_eq : c.exclude = c'.exclude :=
  (h.agreeAt (by decide)).patternIfAny_eq

theorem elementKind_eq : c.elementKind = c'.elementKind :=
  (h.agreeAt (by decide)).elementKind_eq

/-- Only a leaf for directories reads an option that holds a list. -/
theorem leaf_eq (hkind : c.kind ≠ "directory") : c.leaf = c'.leaf := by
  have hfileRegex : c.fileRegex = c'.fileRegex := by
    rw [fileRegex, fileRegex, (h.agreeAt (by decide)).pattern_eq, h.elementKind_eq,
      (h.agreeAt (by decide)).textIfAny_eq, h.exclude_eq]
  have hclassInherits : c.classInherits = c'.classInherits := by
    rw [classInherits, classInherits, (h.agreeAt (by decide)).text_eq, h.exclude_eq]
  have hclassNameRegex : c.classNameRegex = c'.classNameRegex := by
    rw [classNameRegex, classNameRegex, (h.agreeAt (by decide)).pattern_eq, h.exclude_eq]
  have hfunctionNameRegex : c.functionNameRegex = c'.functionNameRegex := by
    rw [functionNameRegex, functionNameRegex, (h.agreeAt (by decide)).pattern_eq, h.exclude_eq]
  have hdecoratorUsage : c.decoratorUsage = c'.decoratorUsage := by
    rw [decoratorUsage, decoratorUsage, missing, missing, h.kind,
      (h.agreeAt (by decide)).textIfAny_eq, (h.agreeAt (by decide)).patternIfAny_eq, h.exclude_eq]
  have hkind' : c'.kind ≠ "directory" := h.kind ▸ hkind
  rw [leaf, leaf, if_neg hkind, if_neg hkind', ← h.kind, hfileRegex, hclassInherits,
    hclassNameRegex, hfunctionNameRegex, hdecoratorUsage]

theorem exists_value {key : String} (hkey : key ∈ listKeys) {d : Document}
    (hget : c.options.get? key = some d) :
    ∃ d', c'.options.get? key = some d' ∧ Document.SameValue d d' := by
  have hrel := h.lists key hkey
  rw [hget] at hrel
  cases hget' : c'.options.get? key with
  | none => simp [hget'] at hrel
  | some d' => exact ⟨d', rfl, by simpa [hget'] using hrel⟩

theorem absent {key : String} (hkey : key ∈ listKeys)
    (hget : c.options.get? key = none ∨ c.options.get? key = some .null) :
    c'.options.get? key = none ∨ c'.options.get? key = some .null := by
  rcases hget with hget | hget
  · have hrel := h.lists key hkey
    rw [hget] at hrel
    cases hget' : c'.options.get? key with
    | none => exact .inl rfl
    | some d' => simp [hget'] at hrel
  · obtain ⟨d', hget', hsame⟩ := h.exists_value hkey hget
    exact .inr (hsame.null rfl ▸ hget')

/-- A list of texts is read from the other entry with the same members. -/
theorem exists_texts {key : String} (hkey : key ∈ listKeys) {texts : List String}
    (htexts : c.texts key = .ok texts) :
    ∃ texts', c'.texts key = .ok texts' ∧ ∀ t, t ∈ texts ↔ t ∈ texts' := by
  rcases texts_eq_ok.1 htexts with ⟨habsent, rfl⟩ | ⟨t, hget, rfl⟩ | hget
  · exact ⟨[], texts_eq_ok.2 (.inl ⟨h.absent hkey habsent, rfl⟩), fun _ => .rfl⟩
  · obtain ⟨d', hget', hsame⟩ := h.exists_value hkey hget
    rw [hsame.text t rfl] at hget'
    exact ⟨[t], texts_eq_ok.2 (.inr (.inl ⟨t, hget', rfl⟩)), fun _ => .rfl⟩
  · obtain ⟨d', hget', hsame⟩ := h.exists_value hkey hget
    obtain ⟨items', rfl, hmatched⟩ := hsame.list _ rfl
    obtain ⟨texts', rfl, hmem⟩ := Document.exists_texts_of_matched hmatched
    exact ⟨texts', texts_eq_ok.2 (.inr (.inr hget')), hmem⟩

/-- Nested entries build equivalent collectors. -/
theorem exists_nested {key : String} (hkey : key ∈ listKeys) {xs : List CollectorEntry}
    (hxs : c.nested key = .ok xs) {ks : List Collector} (hks : xs.mapM Collector.build = .ok ks) :
    ∃ xs' ks', c'.nested key = .ok xs' ∧ xs'.mapM Collector.build = .ok ks' ∧
      Matched Collector.Equivalent ks ks' := by
  rcases nested_eq_ok.1 hxs with ⟨habsent, rfl⟩ | ⟨items, hget, hitems⟩
  · obtain rfl : ks = [] := by simpa [pure, Except.pure, eq_comm] using hks
    exact ⟨[], [], nested_eq_ok.2 (.inl ⟨h.absent hkey habsent, rfl⟩), rfl, .of_forall (by simp)⟩
  · obtain ⟨d', hget', hsame⟩ := h.exists_value hkey hget
    obtain ⟨items', rfl, hmatched⟩ := hsame.list _ rfl
    obtain ⟨xs', ks', hitems', hks', hequivalent⟩ :=
      Document.exists_collectors_of_matched hmatched hitems hks
    exact ⟨xs', ks', nested_eq_ok.2 (.inr ⟨items', hget', hitems'⟩), hks', hequivalent⟩

theorem exists_leaf {l : Leaf} (hl : c.leaf = .ok l) :
    ∃ l', c'.leaf = .ok l' ∧ (Collector.leaf l).Equivalent (.leaf l') := by
  by_cases hkind : c.kind = "directory"
  · have hleaf (x : CollectorEntry) (hx : x.kind = "directory") : x.leaf = x.directory := by
      simp [leaf, hx]
    rw [hleaf c hkind] at hl
    rw [hleaf c' (h.kind ▸ hkind)]
    obtain ⟨directories, recursive, kind, exclude, ⟨hdirectories, hne⟩, hrecursive, helement,
      hexclude, rfl⟩ := directory_eq_ok.1 hl
    obtain ⟨directories', hdirectories', hmem⟩ := h.exists_texts (by decide) hdirectories
    have hne' : directories' ≠ [] := by
      obtain ⟨t, ht⟩ := List.exists_mem_of_ne_nil _ hne
      exact List.ne_nil_of_mem ((hmem t).1 ht)
    refine ⟨⟨.directory directories' recursive kind, exclude⟩, directory_eq_ok.2 ?_,
      Collector.equivalent_directory recursive kind exclude hmem⟩
    exact ⟨directories', recursive, kind, exclude, ⟨hdirectories', hne'⟩,
      (h.agreeAt (by decide : "recursive" ∉ listKeys)).bool_eq true ▸ hrecursive,
      h.elementKind_eq ▸ helement,
      h.exclude_eq ▸ hexclude, rfl⟩
  · exact ⟨l, h.leaf_eq hkind ▸ hl, .refl _⟩

theorem exists_build {k : Collector} (hk : Collector.build c = .ok k) :
    ∃ k', Collector.build c' = .ok k' ∧ k.Equivalent k' := by
  by_cases hkind : c.kind = "bool"
  · obtain ⟨ms, must, as, anyOf, ns, mustNot, ⟨hms, hmust⟩, ⟨has, hanyOf⟩, ⟨hns, hmustNot⟩, rfl⟩ :=
      (Collector.build_bool_eq_ok hkind).1 hk
    obtain ⟨ms', must', hms', hmust', hmatchedMust⟩ := h.exists_nested (by decide) hms hmust
    obtain ⟨as', anyOf', has', hanyOf', hmatchedAnyOf⟩ := h.exists_nested (by decide) has hanyOf
    obtain ⟨ns', mustNot', hns', hmustNot', hmatchedMustNot⟩ :=
      h.exists_nested (by decide) hns hmustNot
    refine ⟨.bool must' anyOf' mustNot', (Collector.build_bool_eq_ok (h.kind ▸ hkind)).2 ?_,
      Collector.equivalent_bool hmatchedMust hmatchedAnyOf hmatchedMustNot⟩
    exact ⟨ms', must', as', anyOf', ns', mustNot', ⟨hms', hmust'⟩, ⟨has', hanyOf'⟩,
      ⟨hns', hmustNot'⟩, rfl⟩
  · obtain ⟨l, hl, rfl⟩ := (Collector.build_leaf_eq_ok hkind).1 hk
    obtain ⟨l', hl', hequivalent⟩ := h.exists_leaf hl
    exact ⟨.leaf l', (Collector.build_leaf_eq_ok (h.kind ▸ hkind)).2 ⟨l', hl', rfl⟩, hequivalent⟩

end SameOptions

end CollectorEntry

end LayerCheck
