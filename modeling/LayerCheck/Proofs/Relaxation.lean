import LayerCheck.Proofs.Faults
import Mathlib.Algebra.Ring.Parity

/-!
What changes with the exclusions of collectors. A leaf that excludes fewer paths collects more. Below a
list `must_not` it is the other way round, so what a whole tree collects grows if the exclusions shrink
below an even number of such lists and grow below an odd number.
-/

namespace LayerCheck

/-! ### Leaves -/

namespace Scope

variable {scope : Scope} {own own' : Option Pattern} {relative : String}

theorem isExcluded_of_imp (h : own'.any (·.isMatch relative) → own.any (·.isMatch relative))
    (hexcluded : scope.isExcluded own' relative) : scope.isExcluded own relative := by
  simp only [isExcluded, Bool.or_eq_true] at hexcluded ⊢
  exact hexcluded.imp_right h

end Scope

namespace Leaf

variable {scope : Scope} {s : Snapshot} {facts : Path → Facts} {t : Test} {own own' : Option Pattern}

/-- A leaf that excludes fewer paths takes more files. -/
theorem mem_files_of_imp (h : ∀ relative, own'.any (·.isMatch relative) → own.any (·.isMatch relative))
    {f : SourceFile} (hf : f ∈ files ⟨t, own⟩ scope s) : f ∈ files ⟨t, own'⟩ scope s := by
  have hadmitted (relative : String) (hfree : scope.isExcluded own relative = false) :
      scope.isExcluded own' relative = false := by
    rw [Bool.eq_false_iff] at hfree ⊢
    exact fun hexcluded => hfree (Scope.isExcluded_of_imp (h relative) hexcluded)
  have hwalked (g : SourceFile) (hg : g ∈ scope.files s own) : g ∈ scope.files s own' := by
    obtain ⟨root, hroot, names, hnames, hfree, rfl⟩ := Scope.mem_files.1 hg
    exact Scope.mem_files.2 ⟨root, hroot, names, hnames, hadmitted _ hfree, rfl⟩
  cases t with
  | fileRegex regex kind base =>
    obtain ⟨hmem, hmatch⟩ := List.mem_filter.1 hf
    exact List.mem_filter.2 ⟨hwalked f hmem, hmatch⟩
  | directory directories recursive kind =>
    obtain ⟨root, hroot, directory, hdirectory, found, hfound, hfree, rfl⟩ :=
      Scope.mem_directoryFiles.1 hf
    exact Scope.mem_directoryFiles.2
      ⟨root, hroot, directory, hdirectory, found, hfound, hadmitted _ hfree, rfl⟩
  | _ => exact hwalked f hf

theorem mem_collect_of_imp
    (h : ∀ relative, own'.any (·.isMatch relative) → own.any (·.isMatch relative)) {e : Element}
    (he : e ∈ collect ⟨t, own⟩ scope s facts) : e ∈ collect ⟨t, own'⟩ scope s facts := by
  obtain ⟨f, hf, d, hd, hadmits, rfl⟩ := mem_collect.1 he
  exact mem_collect.2 ⟨f, mem_files_of_imp h hf, d, hd, hadmits, rfl⟩

end Leaf

namespace CollectorEntry

variable {c c' : CollectorEntry} {key : String} {n : Nat}

/-! ### Entries without an option -/

/-- The entry with an option left out. -/
def without (c : CollectorEntry) (key : String) : CollectorEntry :=
  { c with options := c.options.erase key }

theorem agreeAt_without {removed : String} (h : key ≠ removed) :
    (c.without removed).AgreeAt c key where
  kind := rfl
  value := by
    rw [without, OrderedMap.get?_erase, if_neg]
    exact fun heq => h (Std.LawfulEqOrd.eq_of_compare heq)

/-- The option with the pattern for the files that a leaf leaves out. -/
def exclusionKey : String := "exclude_files_regex"

theorem exclude_without (c : CollectorEntry) : (c.without exclusionKey).exclude = .ok none := by
  have hget : (c.without exclusionKey).options.get? "exclude_files_regex" = none := by
    rw [without, OrderedMap.get?_erase, exclusionKey, if_pos Std.ReflCmp.compare_self]
  simp [exclude, patternIfAny, textIfAny, text?, hget, bind, Except.bind, pure, Except.pure]

/-- A leaf is made of the options other than its exclusions, and then of these. -/
theorem leaf_eq_without (c : CollectorEntry) :
    c.leaf = do
      let l ← (c.without exclusionKey).leaf
      let own ← c.exclude
      return ⟨l.test, own⟩ := by
  have hkind : (c.without exclusionKey).kind = c.kind := rfl
  have hnone : (c.without exclusionKey).exclude = pure none := c.exclude_without
  have helement : (c.without exclusionKey).elementKind = c.elementKind :=
    (agreeAt_without (by decide)).elementKind_eq
  have htext {key : String} (hkey : key ≠ exclusionKey) :
      (c.without exclusionKey).textIfAny key = c.textIfAny key := (agreeAt_without hkey).textIfAny_eq
  have hpattern {key : String} (hkey : key ≠ exclusionKey) :
      (c.without exclusionKey).pattern key = c.pattern key := (agreeAt_without hkey).pattern_eq
  unfold leaf
  rw [hkind]
  split_ifs
  · rw [fileRegex, fileRegex, hpattern (by decide), helement, htext (by decide), hnone]
    simp only [bind_assoc, pure_bind]
  · rw [classInherits, classInherits, (agreeAt_without (by decide)).text_eq, hnone]
    simp only [bind_assoc, pure_bind]
  · rw [classNameRegex, classNameRegex, hpattern (by decide), hnone]
    simp only [bind_assoc, pure_bind]
  · rw [functionNameRegex, functionNameRegex, hpattern (by decide), hnone]
    simp only [bind_assoc, pure_bind]
  · rw [directory, directory, (agreeAt_without (by decide)).texts_eq, missing, missing, hkind,
      (agreeAt_without (by decide)).bool_eq, helement, hnone]
    simp only [bind_assoc, pure_bind]
    refine bind_congr fun directories => ?_
    by_cases hempty : directories.isEmpty
    · rw [if_pos hempty, if_pos hempty]
      rfl
    · rw [if_neg hempty, if_neg hempty]
      simp only [bind_assoc, pure_bind]
  · rw [decoratorUsage, decoratorUsage, htext (by decide),
      (agreeAt_without (by decide)).patternIfAny_eq, missing, missing, hkind, hnone]
    simp only [bind_assoc, pure_bind]
    refine bind_congr fun name => bind_congr fun regex => ?_
    by_cases hnothing : (name.isNone && regex.isNone) = true
    · rw [if_pos hnothing, if_pos hnothing]
      rfl
    · rw [if_neg hnothing, if_neg hnothing]
      simp only [pure_bind]
  · rfl

/-! ### Relaxed trees -/

/-- The path is one of those that a leaf leaves out by its own pattern. -/
def Excludes (c : CollectorEntry) (relative : String) : Prop :=
  ∃ p, c.exclude = .ok (some p) ∧ p.isMatch relative

theorem excludes_iff {own : Option Pattern} (h : c.exclude = .ok own) {relative : String} :
    c.Excludes relative ↔ own.any (·.isMatch relative) := by
  cases own with
  | none => simp [Excludes, h]
  | some p => simp [Excludes, h]

/-- The entries of two leaves have the same options but for their exclusions, and the second one's can
be read. -/
structure DiffersInExclusion (c c' : CollectorEntry) : Prop where
  same : c.without exclusionKey = c'.without exclusionKey
  readable : ∃ own, c'.exclude = .ok own

/-- Entries of leaves that stand below `n` lists `must_not` and differ in their exclusions only. Below
an even number of these lists the second one excludes no more, below an odd number no less. -/
structure RelaxedLeaf (n : Nat) (c c' : CollectorEntry) : Prop extends c.DiffersInExclusion c' where
  even : Even n → ∀ relative, c'.Excludes relative → c.Excludes relative
  odd : Odd n → ∀ relative, c.Excludes relative → c'.Excludes relative

/-- How many lists `must_not` are above the entries of a list that stands below `n` of them. -/
def levelIn (key : String) (n : Nat) : Nat :=
  if key = "must_not" then n + 1 else n

/-- Trees of entries, nested to any depth and standing below `n` lists `must_not`, that differ in the
exclusions of leaves only, which are relaxed as the number of these lists above each leaf asks. -/
inductive Relaxed : Nat → CollectorEntry → CollectorEntry → Prop where
  | leaf {n : Nat} {c c' : CollectorEntry} (hkind : c.kind ≠ "bool") (h : RelaxedLeaf n c c') :
      Relaxed n c c'
  | bool {n : Nat} {c c' : CollectorEntry} (hkind : c.kind = "bool") (hkind' : c'.kind = "bool")
      (hread : ∀ key ∈ nestingKeys, c'.nested key = .ok (c'.children key))
      (hlength : ∀ key ∈ nestingKeys, (c.children key).length = (c'.children key).length)
      (hparts : ∀ key ∈ nestingKeys, ∀ x x', (x, x') ∈ (c.children key).zip (c'.children key) →
        Relaxed (levelIn key n) x x') : Relaxed n c c'

/-- Composites whose lists are read and relaxed item by item. -/
theorem Relaxed.of_nested (hkind : c.kind = "bool") (hkind' : c'.kind = "bool")
    (h : ∀ key ∈ nestingKeys, ∃ xs xs', c.nested key = .ok xs ∧ c'.nested key = .ok xs' ∧
      List.Forall₂ (Relaxed (levelIn key n)) xs xs') : Relaxed n c c' := by
  apply Relaxed.bool hkind hkind'
  · intro key hkey
    obtain ⟨xs, xs', -, hxs', -⟩ := h key hkey
    rw [children_of_nested hxs', hxs']
  · intro key hkey
    obtain ⟨xs, xs', hxs, hxs', hrelaxed⟩ := h key hkey
    rw [children_of_nested hxs, children_of_nested hxs', hrelaxed.length_eq]
  · intro key hkey x x' hmem
    obtain ⟨xs, xs', hxs, hxs', hrelaxed⟩ := h key hkey
    rw [children_of_nested hxs, children_of_nested hxs'] at hmem
    exact (List.forall₂_iff_zip.1 hrelaxed).2 hmem

/-- An entry that differs in its exclusion makes the same leaf up to that. -/
theorem DiffersInExclusion.exists_leaf (h : c.DiffersInExclusion c') {l : Leaf} (hl : c.leaf = .ok l) :
    ∃ own', c.exclude = .ok l.exclude ∧ c'.exclude = .ok own' ∧ c'.leaf = .ok ⟨l.test, own'⟩ := by
  rw [leaf_eq_without, Except.bind_eq_ok] at hl
  obtain ⟨bare, hbare, hl⟩ := hl
  obtain ⟨own, hown, rfl⟩ := Except.map_eq_ok.1 hl
  obtain ⟨own', hown'⟩ := h.readable
  refine ⟨own', hown, hown', ?_⟩
  rw [leaf_eq_without, ← h.same, hbare]
  exact Except.map_eq_ok.2 ⟨own', hown', rfl⟩

end CollectorEntry

/-! ### What relaxed trees collect -/

namespace Collector

/-- Below an even number `n` of lists `must_not` the second collector collects no less than the first,
below an odd number no more. -/
structure Follows (n : Nat) (k k' : Collector) : Prop where
  even : Even n → ∀ scope s facts, ∀ e ∈ k.collect scope s facts, e ∈ k'.collect scope s facts
  odd : Odd n → ∀ scope s facts, ∀ e ∈ k'.collect scope s facts, e ∈ k.collect scope s facts

/-- Composites are monotone in `must` and `anyOf` and antitone in `mustNot`. Lists that are empty are so
on both sides, so the universe counts for both or for none. -/
theorem mem_collect_bool_mono {scope : Scope} {s : Snapshot} {facts : Path → Facts} {e : Element}
    {must anyOf mustNot must' anyOf' mustNot' : List Collector}
    (hmust : Matched (fun k k' => e ∈ k.collect scope s facts → e ∈ k'.collect scope s facts)
      must must')
    (hanyOf : Matched (fun k k' => e ∈ k.collect scope s facts → e ∈ k'.collect scope s facts)
      anyOf anyOf')
    (hmustNot : Matched (fun k k' => e ∈ k'.collect scope s facts → e ∈ k.collect scope s facts)
      mustNot mustNot')
    (h : e ∈ (bool must anyOf mustNot).collect scope s facts) :
    e ∈ (bool must' anyOf' mustNot').collect scope s facts := by
  rw [mem_collect_bool] at h ⊢
  obtain ⟨huniverse, hall, hsome, hnone⟩ := h
  refine ⟨?_, ?_, ?_, ?_⟩
  · rwa [← hmust.eq_nil_iff, ← hanyOf.eq_nil_iff]
  · intro k' hk'
    obtain ⟨k, hk, himp⟩ := hmust.right k' hk'
    exact himp (hall k hk)
  · rw [← hanyOf.eq_nil_iff]
    apply hsome.imp_right
    rintro ⟨k, hk, hek⟩
    obtain ⟨k', hk', himp⟩ := hanyOf.left k hk
    exact ⟨k', hk', himp hek⟩
  · intro k' hk' hek'
    obtain ⟨k, hk, himp⟩ := hmustNot.right k' hk'
    exact hnone k hk (himp hek')

theorem follows_leaf {n : Nat} {c c' : CollectorEntry} (h : c.RelaxedLeaf n c') {l : Leaf}
    (hl : c.leaf = .ok l) : ∃ l', c'.leaf = .ok l' ∧ Follows n (.leaf l) (.leaf l') := by
  obtain ⟨own', hown, hown', hl'⟩ := h.exists_leaf hl
  have heven := h.even
  have hodd := h.odd
  simp only [CollectorEntry.excludes_iff hown, CollectorEntry.excludes_iff hown'] at heven hodd
  refine ⟨_, hl', ?_, ?_⟩
  · intro hn scope s facts e he
    exact Leaf.mem_collect_of_imp (heven hn) he
  · intro hn scope s facts e he
    exact Leaf.mem_collect_of_imp (hodd hn) he

/-- The parts of a list are one list `must_not` further down or on the same level. -/
theorem follows_bool {n : Nat} {must anyOf mustNot must' anyOf' mustNot' : List Collector}
    (hmust : List.Forall₂ (Follows n) must must') (hanyOf : List.Forall₂ (Follows n) anyOf anyOf')
    (hmustNot : List.Forall₂ (Follows (n + 1)) mustNot mustNot') :
    Follows n (bool must anyOf mustNot) (bool must' anyOf' mustNot') := by
  have hmust := Matched.of_forall₂ hmust
  have hanyOf := Matched.of_forall₂ hanyOf
  have hmustNot := Matched.of_forall₂ hmustNot
  constructor
  · intro hn scope s facts e he
    have hodd : Odd (n + 1) := hn.add_one
    exact mem_collect_bool_mono (hmust.imp fun _ _ _ _ h => h.even hn scope s facts e)
      (hanyOf.imp fun _ _ _ _ h => h.even hn scope s facts e)
      (hmustNot.imp fun _ _ _ _ h => h.odd hodd scope s facts e) he
  · intro hn scope s facts e he
    have heven : Even (n + 1) := hn.add_one
    exact mem_collect_bool_mono (hmust.symm.imp fun _ _ _ _ h => h.odd hn scope s facts e)
      (hanyOf.symm.imp fun _ _ _ _ h => h.odd hn scope s facts e)
      (hmustNot.symm.imp fun _ _ _ _ h => h.even heven scope s facts e) he

/-- Of two relaxed trees the second one is built if the first one is, and follows it. -/
theorem exists_build_of_relaxed {n : Nat} {c c' : CollectorEntry} (h : CollectorEntry.Relaxed n c c')
    {k : Collector} (hk : build c = .ok k) : ∃ k', build c' = .ok k' ∧ Follows n k k' := by
  induction h generalizing k with
  | @leaf n c c' hkind h =>
    obtain ⟨l, hl, rfl⟩ := (build_leaf_eq_ok hkind).1 hk
    obtain ⟨l', hl', hfollows⟩ := follows_leaf h hl
    have hkind' : c'.kind ≠ "bool" := congrArg CollectorEntry.kind h.same ▸ hkind
    exact ⟨.leaf l', (build_leaf_eq_ok hkind').2 ⟨l', hl', rfl⟩, hfollows⟩
  | @bool n c c' hkind hkind' hread hlength hparts ih =>
    obtain ⟨ms, must, as, anyOf, ns, mustNot, ⟨hms, hmust⟩, ⟨has, hanyOf⟩, ⟨hns, hmustNot⟩, rfl⟩ :=
      (build_bool_eq_ok hkind).1 hk
    have hlist (key : String) (hkey : key ∈ CollectorEntry.nestingKeys) {xs : List CollectorEntry}
        (hxs : c.nested key = .ok xs) {ks : List Collector} (hks : xs.mapM build = .ok ks) :
        ∃ ks', (c'.children key).mapM build = .ok ks' ∧
          List.Forall₂ (Follows (CollectorEntry.levelIn key n)) ks ks' := by
      rw [← CollectorEntry.children_of_nested hxs] at hks
      refine Except.exists_mapM_of_forall₂ (List.forall₂_iff_zip.2 ⟨hlength key hkey, ?_⟩) hks
      intro x x' hmem k hbuild
      exact ih key hkey x x' hmem hbuild
    obtain ⟨must', hmust', hfollowsMust⟩ := hlist "must" (by decide) hms hmust
    obtain ⟨anyOf', hanyOf', hfollowsAnyOf⟩ := hlist "any_of" (by decide) has hanyOf
    obtain ⟨mustNot', hmustNot', hfollowsMustNot⟩ := hlist "must_not" (by decide) hns hmustNot
    refine ⟨.bool must' anyOf' mustNot', (build_bool_eq_ok hkind').2 ?_,
      follows_bool hfollowsMust hfollowsAnyOf hfollowsMustNot⟩
    exact ⟨_, must', _, anyOf', _, mustNot', ⟨hread "must" (by decide), hmust'⟩,
      ⟨hread "any_of" (by decide), hanyOf'⟩, ⟨hread "must_not" (by decide), hmustNot'⟩, rfl⟩

/-- Trees whose exclusions shrink below an even number of lists `must_not` and grow below an odd number
collect no less, in every scope. In particular a leaf that is not nested does if its exclusions
shrink. -/
theorem collect_subset_of_relaxed (scope : Scope) (s : Snapshot) (facts : Path → Facts)
    {c c' : CollectorEntry} {k : Collector} (hbuild : build c = .ok k) :
    (CollectorEntry.Relaxed 0 c c' →
      ∃ k', build c' = .ok k' ∧ ∀ e ∈ k.collect scope s facts, e ∈ k'.collect scope s facts) ∧
    (c.kind ≠ "bool" → c.DiffersInExclusion c' →
      (∀ relative, c'.Excludes relative → c.Excludes relative) →
      ∃ k', build c' = .ok k' ∧ ∀ e ∈ k.collect scope s facts, e ∈ k'.collect scope s facts) := by
  have hrelaxed (h : CollectorEntry.Relaxed 0 c c') :
      ∃ k', build c' = .ok k' ∧ ∀ e ∈ k.collect scope s facts, e ∈ k'.collect scope s facts := by
    obtain ⟨k', hk', hfollows⟩ := exists_build_of_relaxed h hbuild
    exact ⟨k', hk', hfollows.even Even.zero scope s facts⟩
  refine ⟨hrelaxed, fun hkind hdiffers hexcludes => hrelaxed (.leaf hkind ?_)⟩
  exact ⟨hdiffers, fun _ => hexcludes, fun hodd => absurd hodd (by decide)⟩

end Collector

namespace Inverted

/-- A file beside a directory with another one, which is a root of its own as well. -/
def snapshot : Snapshot :=
  (((({} : Snapshot).set ["p"] .directory).set ["p", "a.py"] (.file (some ""))).set
    ["p", "t"] .directory).set ["p", "t", "b.py"] (.file (some ""))

def scope : Scope := ⟨[["p"], ["p", "t"]], []⟩

/-- Every file has a class and a function. -/
def facts (_ : Path) : Facts where
  definitions := [⟨.cls, "C", "C", 1, 1, [], []⟩, ⟨.func, "f", "f", 3, 1, [], []⟩]

def excluding (raw : String) : List (String × Document) :=
  if raw = "" then [] else [("exclude_files_regex", .text raw)]

def everything (own : String) : CollectorEntry :=
  ⟨"file_regex", .ofList (("regex", .text "a|b|t") :: excluding own)⟩

def classes (own : String) : CollectorEntry :=
  ⟨"class_name_regex", .ofList (("class_name_regex", .text "C") :: excluding own)⟩

def directory (own : String) : CollectorEntry :=
  ⟨"directory", .ofList (("directories", .text "t") :: excluding own)⟩

/-- Classes that are not in the directory. -/
def outside (middle inner : String) : CollectorEntry where
  kind := "bool"
  options := .ofList [("any_of", .list [(classes middle).toDocument]),
    ("must_not", .list [(directory inner).toDocument])]

/-- Everything but the classes that are not in the directory, each leaf with its exclusions. -/
def tree (outer middle inner : String) : CollectorEntry where
  kind := "bool"
  options := .ofList [("must", .list [(everything outer).toDocument]),
    ("must_not", .list [(outside middle inner).toDocument])]

/-- A leaf that excludes nothing any more, on an even level. -/
theorem relaxedLeaf_even {n : Nat} {c c' : CollectorEntry} (hn : ¬ Odd n)
    (hsame : c.without CollectorEntry.exclusionKey = c'.without CollectorEntry.exclusionKey)
    (hnone : c'.exclude = .ok none) : CollectorEntry.RelaxedLeaf n c c' := by
  refine ⟨⟨hsame, none, hnone⟩, ?_, fun hodd => absurd hodd hn⟩
  intro _ relative hexcludes
  simp [CollectorEntry.excludes_iff hnone] at hexcludes

/-- A leaf that begins to exclude, on an odd level. -/
theorem relaxedLeaf_odd {n : Nat} {c c' : CollectorEntry} (hn : ¬ Even n)
    (hsame : c.without CollectorEntry.exclusionKey = c'.without CollectorEntry.exclusionKey)
    (hnone : c.exclude = .ok none) (hread : ∃ own, c'.exclude = .ok own) :
    CollectorEntry.RelaxedLeaf n c c' := by
  refine ⟨⟨hsame, hread⟩, fun heven => absurd heven hn, ?_⟩
  intro _ relative hexcludes
  simp [CollectorEntry.excludes_iff hnone] at hexcludes

theorem relaxed_outside :
    CollectorEntry.Relaxed 1 (outside "" "t") (outside "b|t/b" "") := by
  have hread : ∃ own, (classes "b|t/b").exclude = .ok own :=
    Except.fault?_eq_none_iff.1 (by decide +kernel)
  have hclasses : CollectorEntry.Relaxed 1 (classes "") (classes "b|t/b") :=
    .leaf (by decide) (relaxedLeaf_odd (by decide) rfl rfl hread)
  have hdirectory : CollectorEntry.Relaxed 2 (directory "t") (directory "") :=
    .leaf (by decide) (relaxedLeaf_even (by decide) rfl rfl)
  apply CollectorEntry.Relaxed.of_nested rfl rfl
  simp only [CollectorEntry.nestingKeys, List.forall_mem_cons]
  exact ⟨⟨[], [], rfl, rfl, .nil⟩, ⟨[_], [_], rfl, rfl, .cons hclasses .nil⟩,
    ⟨[_], [_], rfl, rfl, .cons hdirectory .nil⟩, by simp⟩

theorem relaxed_tree : CollectorEntry.Relaxed 0 (tree "a" "" "t") (tree "" "b|t/b" "") := by
  have heverything : CollectorEntry.Relaxed 0 (everything "a") (everything "") :=
    .leaf (by decide) (relaxedLeaf_even (by decide) rfl rfl)
  apply CollectorEntry.Relaxed.of_nested rfl rfl
  simp only [CollectorEntry.nestingKeys, List.forall_mem_cons]
  exact ⟨⟨[_], [_], rfl, rfl, .cons heverything .nil⟩, ⟨[], [], rfl, rfl, .nil⟩,
    ⟨[_], [_], rfl, rfl, .cons relaxed_outside .nil⟩, by simp⟩

theorem collect_subset_inverted : (∃ k k',
    Collector.build (tree "a" "" "t") = .ok k ∧ Collector.build (tree "" "b|t/b" "") = .ok k' ∧
      (k.collect scope snapshot facts).toList.map (fun e => (e.file.text, e.name)) =
        [("/p/t/b.py", "f")] ∧
      (k'.collect scope snapshot facts).toList.map (fun e => (e.file.text, e.name)) =
        [("/p/a.py", "f"), ("/p/t/b.py", "C"), ("/p/t/b.py", "f")] ∧
      ∀ e ∈ k.collect scope snapshot facts, e ∈ k'.collect scope snapshot facts) ∧
    ∃ k k', Collector.build (directory "t") = .ok k ∧ Collector.build (directory "") = .ok k' ∧
      ∀ e ∈ k.collect scope snapshot facts, e ∈ k'.collect scope snapshot facts := by
  constructor
  · obtain ⟨k, hk, hfirst⟩ : ∃ k, Collector.build (tree "a" "" "t") = .ok k ∧
        (k.collect scope snapshot facts).toList.map (fun e => (e.file.text, e.name)) =
          [("/p/t/b.py", "f")] :=
      Except.exists_of_map_toOption (by decide +kernel)
    obtain ⟨l, hl, hsecond⟩ : ∃ l, Collector.build (tree "" "b|t/b" "") = .ok l ∧
        (l.collect scope snapshot facts).toList.map (fun e => (e.file.text, e.name)) =
          [("/p/a.py", "f"), ("/p/t/b.py", "C"), ("/p/t/b.py", "f")] :=
      Except.exists_of_map_toOption (by decide +kernel)
    obtain ⟨k', hk', hsubset⟩ := (Collector.collect_subset_of_relaxed scope snapshot facts hk).1
      relaxed_tree
    obtain rfl : k' = l := Except.ok.inj (hk'.symm.trans hl)
    exact ⟨k, k', hk, hk', hfirst, hsecond, hsubset⟩
  · obtain ⟨k, hk⟩ : ∃ k, Collector.build (directory "t") = .ok k :=
      Except.fault?_eq_none_iff.1 (by decide +kernel)
    have hrelaxed : CollectorEntry.RelaxedLeaf 0 (directory "t") (directory "") :=
      relaxedLeaf_even (by decide) rfl rfl
    obtain ⟨k', hk', hsubset⟩ := (Collector.collect_subset_of_relaxed scope snapshot facts hk).2
      (by decide) hrelaxed.toDiffersInExclusion (hrelaxed.even (by decide))
    exact ⟨k, k', hk, hk', hsubset⟩

end Inverted

end LayerCheck
