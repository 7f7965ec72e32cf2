import LayerCheck.Collector.Collect
import LayerCheck.Proofs.Except
import LayerCheck.Proofs.Snapshot

/-!
The members of what collectors collect. Every file that a collector looks at is named by the canonical
path of a file of the snapshot, so elements that compare equal are equal, and a composite collects by
asking its parts about each element alone.
-/

namespace LayerCheck

/-! ### Files -/

/-- The path is the canonical path of a file. -/
def Snapshot.IsFilePath (s : Snapshot) (p : Path) : Prop :=
  ∃ place text, s.get? place = some (.file text) ∧ p = .ofNames place

theorem Snapshot.IsFilePath.isCanonical {s : Snapshot} {p : Path} (h : s.IsFilePath p) :
    p.IsCanonical := by
  obtain ⟨place, text, hget, rfl⟩ := h
  exact ⟨place, named_of_get? hget, rfl⟩

namespace Scope

variable {scope : Scope} {s : Snapshot} {own : Option Pattern} {f : SourceFile}

theorem make_eq_ok {paths : List Path} {exclude : List String} :
    make s paths exclude = .ok scope ↔
      exclude.mapM Config.searching = .ok scope.exclude ∧ scope.roots = rootsOf s paths := by
  rw [make, Except.map_eq_ok]
  constructor
  · rintro ⟨patterns, hpatterns, rfl⟩
    exact ⟨hpatterns, rfl⟩
  · rintro ⟨hpatterns, hroots⟩
    exact ⟨scope.exclude, hpatterns, by rw [← hroots]⟩

theorem mem_rootsOf {paths : List Path} {root : Place} :
    root ∈ rootsOf s paths ↔ (∃ p ∈ paths, s.place? p = some root) ∧ s.isDirectory root := by
  simp [rootsOf]

theorem admit?_eq_some_iff {root names place : Place} :
    scope.admit? own root names place = some f ↔
      scope.isExcluded own (Segments.join '/' names) = false ∧
        f = ⟨.ofNames place, .ofNames root, Segments.join '/' names⟩ := by
  unfold admit?
  by_cases h : scope.isExcluded own (Segments.join '/' names) <;> simp [h, eq_comm]

theorem mem_files :
    f ∈ scope.files s own ↔ ∃ root ∈ scope.roots, ∃ names ∈ s.pythonFiles root,
      scope.isExcluded own (Segments.join '/' names) = false ∧
        f = ⟨.ofNames (root ++ names), .ofNames root, Segments.join '/' names⟩ := by
  simp only [files, List.mem_flatMap, List.mem_filterMap, admit?_eq_some_iff]

theorem mem_directoryFiles {directories : List String} {recursive : Bool} :
    f ∈ scope.directoryFiles s own directories recursive ↔
      ∃ root ∈ scope.roots, ∃ directory ∈ directories,
        ∃ found ∈ s.filesIn recursive root (directorySegments directory),
          scope.isExcluded own (Segments.join '/' found.names) = false ∧
            f = ⟨.ofNames found.place, .ofNames root, Segments.join '/' found.names⟩ := by
  simp only [directoryFiles, List.mem_flatMap, List.mem_filterMap, admit?_eq_some_iff]

theorem isFilePath_of_mem_files (h : f ∈ scope.files s own) : s.IsFilePath f.path := by
  obtain ⟨root, -, names, hnames, -, rfl⟩ := mem_files.1 h
  obtain ⟨-, text, hget⟩ := Snapshot.mem_pythonFiles.1 hnames
  exact ⟨root ++ names, text, hget, rfl⟩

theorem isFilePath_of_mem_directoryFiles {directories : List String} {recursive : Bool}
    (h : f ∈ scope.directoryFiles s own directories recursive) : s.IsFilePath f.path := by
  obtain ⟨root, -, directory, -, found, hfound, -, rfl⟩ := mem_directoryFiles.1 h
  obtain ⟨text, hget⟩ := Snapshot.exists_file_of_mem_filesIn hfound
  exact ⟨found.place, text, hget, rfl⟩

theorem isExcluded_eq_false_iff {relative : String} :
    scope.isExcluded own relative = false ↔
      scope.isExcluded none relative = false ∧ own.any (·.isMatch relative) = false := by
  simp only [isExcluded, Option.any_none, Bool.or_false, Bool.or_eq_false_iff]

end Scope

theorem Leaf.isFilePath_of_mem_files {l : Leaf} {scope : Scope} {s : Snapshot} {f : SourceFile}
    (h : f ∈ l.files scope s) : s.IsFilePath f.path := by
  unfold Leaf.files at h
  split at h
  · exact Scope.isFilePath_of_mem_files (List.mem_filter.1 h).1
  · exact Scope.isFilePath_of_mem_directoryFiles h
  · exact Scope.isFilePath_of_mem_files h

/-! ### Leaves and the universe -/

theorem SourceFile.mem_elements {f : SourceFile} {facts : Path → Facts} {keep : Definition → Bool}
    {e : Element} :
    e ∈ f.elements facts keep ↔
      ∃ d ∈ (facts f.path).definitions, keep d ∧ e = d.toElement f.path := by
  simp only [elements, List.mem_map, List.mem_filter, and_assoc, eq_comm]

/-- The elements of files with canonical paths, as a set. -/
theorem mem_ofList_elements {files : List SourceFile} {facts : Path → Facts}
    {keep : Definition → Bool} (h : ∀ f ∈ files, f.path.IsCanonical) {e : Element} :
    e ∈ (OrderedSet.ofList (files.flatMap fun f => f.elements facts keep) : ElementSet) ↔
      ∃ f ∈ files, ∃ d ∈ (facts f.path).definitions, keep d ∧ e = d.toElement f.path := by
  have hcanonical : ∀ x ∈ files.flatMap fun f => f.elements facts keep, x.IsCanonical := by
    intro x hx
    obtain ⟨f, hf, hx⟩ := List.mem_flatMap.1 hx
    obtain ⟨d, -, -, rfl⟩ := SourceFile.mem_elements.1 hx
    exact h f hf
  rw [OrderedSet.mem_ofList Element.lawfulOn_isCanonical hcanonical]
  simp only [List.mem_flatMap, SourceFile.mem_elements]

theorem Leaf.mem_collect {l : Leaf} {scope : Scope} {s : Snapshot} {facts : Path → Facts}
    {e : Element} :
    e ∈ l.collect scope s facts ↔ ∃ f ∈ l.files scope s,
      ∃ d ∈ (facts f.path).definitions, l.test.admits d ∧ e = d.toElement f.path :=
  mem_ofList_elements fun _ hf => (isFilePath_of_mem_files hf).isCanonical

theorem Scope.mem_universe {scope : Scope} {s : Snapshot} {facts : Path → Facts} {e : Element} :
    e ∈ scope.universe s facts ↔ ∃ f ∈ scope.files s none,
      ∃ d ∈ (facts f.path).definitions, e = d.toElement f.path := by
  rw [Scope.universe, mem_ofList_elements fun f hf => (isFilePath_of_mem_files hf).isCanonical]
  simp only [true_and]

/-! ### Set algebra -/

namespace ElementSet

variable {P : Element → Prop} (hP : LawfulOn P)
include hP

theorem mem_union {a b : ElementSet} (ha : ∀ x ∈ a, P x) (hb : ∀ x ∈ b, P x) {e : Element} :
    e ∈ union a b ↔ e ∈ a ∨ e ∈ b :=
  OrderedSet.mem_insertMany hP ha hb

theorem mem_foldl_union {sets : List ElementSet} (hsets : ∀ t ∈ sets, ∀ x ∈ t, P x)
    {start : ElementSet} (hstart : ∀ x ∈ start, P x) {e : Element} :
    e ∈ sets.foldl union start ↔ e ∈ start ∨ ∃ t ∈ sets, e ∈ t := by
  induction sets generalizing start with
  | nil => simp
  | cons t sets ih =>
    obtain ⟨ht, hsets⟩ := List.forall_mem_cons.1 hsets
    have hstep : ∀ x ∈ union start t, P x := by
      intro x hx
      exact ((mem_union hP hstart ht).1 hx).elim (hstart x) (ht x)
    rw [List.foldl_cons, ih hsets hstep, mem_union hP hstart ht]
    simp [or_assoc]

theorem mem_unionAll {sets : List ElementSet} (hsets : ∀ t ∈ sets, ∀ x ∈ t, P x) {e : Element} :
    e ∈ unionAll sets ↔ ∃ t ∈ sets, e ∈ t := by
  rw [unionAll, mem_foldl_union hP hsets (by simp)]
  simp

theorem forall_unionAll {sets : List ElementSet} (hsets : ∀ t ∈ sets, ∀ x ∈ t, P x) :
    ∀ x ∈ unionAll sets, P x := by
  intro x hx
  obtain ⟨t, ht, hxt⟩ := (mem_unionAll hP hsets).1 hx
  exact hsets t ht x hxt

omit hP in
/-- Sets that each keep a part of what is there keep together what every one of them keeps. -/
theorem mem_foldl_of_step {step : ElementSet → ElementSet → ElementSet}
    {kept : Element → ElementSet → Prop}
    (hstep : ∀ a b : ElementSet, (∀ x ∈ a, P x) → (∀ x ∈ b, P x) →
      ∀ e, e ∈ step a b ↔ e ∈ a ∧ kept e b)
    {sets : List ElementSet} (hsets : ∀ t ∈ sets, ∀ x ∈ t, P x) {start : ElementSet}
    (hstart : ∀ x ∈ start, P x) {e : Element} :
    e ∈ sets.foldl step start ↔ e ∈ start ∧ ∀ t ∈ sets, kept e t := by
  induction sets generalizing start with
  | nil => simp
  | cons t sets ih =>
    obtain ⟨ht, hsets⟩ := List.forall_mem_cons.1 hsets
    have hnext : ∀ x ∈ step start t, P x := by
      intro x hx
      exact hstart x ((hstep start t hstart ht x).1 hx).1
    rw [List.foldl_cons, ih hsets hnext, hstep start t hstart ht]
    simp [and_assoc]

/-- The intersection of a list of sets; of no sets it is everything. -/
theorem mem_interAll_getD {sets : List ElementSet} (hsets : ∀ t ∈ sets, ∀ x ∈ t, P x)
    {everything : ElementSet} {e : Element} :
    e ∈ (interAll sets).getD everything ↔ (sets = [] → e ∈ everything) ∧ ∀ t ∈ sets, e ∈ t := by
  cases sets with
  | nil => simp [interAll]
  | cons t sets =>
    obtain ⟨ht, hsets⟩ := List.forall_mem_cons.1 hsets
    rw [interAll, Option.getD_some,
      mem_foldl_of_step (fun _ _ ha hb _ => OrderedSet.mem_inter hP ha hb) hsets ht]
    simp

theorem forall_interAll_getD {sets : List ElementSet} (hsets : ∀ t ∈ sets, ∀ x ∈ t, P x)
    {everything : ElementSet} (heverything : ∀ x ∈ everything, P x) :
    ∀ x ∈ (interAll sets).getD everything, P x := by
  intro x hx
  obtain ⟨hnil, hall⟩ := (mem_interAll_getD hP hsets).1 hx
  cases sets with
  | nil => exact heverything x (hnil rfl)
  | cons t sets => exact hsets t List.mem_cons_self x (hall t List.mem_cons_self)

/-- An element is in the value of a composite if it is in all sets of `must`, in one of `anyOf` if
there are any, and in none of `mustNot`. Everything counts only if the first two ask nothing. -/
theorem mem_combine {everything : ElementSet} {must anyOf mustNot : List ElementSet}
    (heverything : ∀ x ∈ everything, P x) (hmust : ∀ t ∈ must, ∀ x ∈ t, P x)
    (hanyOf : ∀ t ∈ anyOf, ∀ x ∈ t, P x) (hmustNot : ∀ t ∈ mustNot, ∀ x ∈ t, P x) {e : Element} :
    e ∈ combine everything must anyOf mustNot ↔
      (must = [] → anyOf = [] → e ∈ everything) ∧ (∀ t ∈ must, e ∈ t) ∧
        (anyOf = [] ∨ ∃ t ∈ anyOf, e ∈ t) ∧ ∀ t ∈ mustNot, e ∉ t := by
  have hsets : ∀ t ∈ must ++ (if anyOf.isEmpty then [] else [unionAll anyOf]), ∀ x ∈ t, P x := by
    intro t ht x hx
    rcases List.mem_append.1 ht with ht | ht
    · exact hmust t ht x hx
    · split at ht
      · simp at ht
      · rw [List.mem_singleton.1 ht] at hx
        exact forall_unionAll hP hanyOf x hx
  have hselected := forall_interAll_getD hP hsets heverything
  rw [combine, mem_foldl_of_step (fun _ _ ha hb _ => OrderedSet.mem_diff hP ha hb) hmustNot hselected,
    mem_interAll_getD hP hsets, and_assoc]
  by_cases hempty : anyOf = []
  · simp [hempty]
  · simp only [List.isEmpty_iff, hempty, if_false, List.mem_append, List.mem_singleton,
      List.append_eq_nil_iff, List.cons_ne_nil, and_false, false_imp_iff, true_and, false_or,
      or_imp, forall_and, forall_eq, mem_unionAll hP hanyOf, and_assoc, implies_true]

end ElementSet

/-! ### Trees of collectors -/

namespace Collector

/-- What holds of leaves, and of a composite if it holds of its parts, holds of all collectors. -/
@[elab_as_elim, induction_eliminator]
theorem induction {motive : Collector → Prop} (leaf : ∀ l, motive (.leaf l))
    (bool : ∀ must anyOf mustNot, (∀ k ∈ must, motive k) → (∀ k ∈ anyOf, motive k) →
      (∀ k ∈ mustNot, motive k) → motive (.bool must anyOf mustNot)) :
    ∀ k, motive k
  | .leaf l => leaf l
  | .bool must anyOf mustNot =>
    bool must anyOf mustNot (fun k _ => induction leaf bool k) (fun k _ => induction leaf bool k)
      fun k _ => induction leaf bool k

variable {scope : Scope} {s : Snapshot} {facts : Path → Facts}

theorem collectEach_eq_map (ks : List Collector) :
    collectEach scope s facts ks = ks.map (collect scope s facts) := by
  induction ks with
  | nil => rfl
  | cons k ks ih => rw [collectEach, ih, List.map_cons]

theorem requestsOfEach_eq_flatMap (ks : List Collector) :
    requestsOfEach scope s ks = ks.flatMap (requests scope s) := by
  induction ks with
  | nil => rfl
  | cons k ks ih => rw [requestsOfEach, ih, List.flatMap_cons]

theorem lawfulOn_isFilePath (s : Snapshot) : LawfulOn fun e : Element => s.IsFilePath e.file :=
  fun _ _ ha hb => Element.lawfulOn_isCanonical ha.isCanonical hb.isCanonical

theorem isFilePath_of_mem_universe {e : Element} (h : e ∈ scope.universe s facts) :
    s.IsFilePath e.file := by
  obtain ⟨f, hf, d, -, rfl⟩ := Scope.mem_universe.1 h
  exact Scope.isFilePath_of_mem_files hf

/-- Composites whose parts collect in files of the snapshot ask their parts about each element. -/
theorem mem_collect_bool_of_isFilePath {must anyOf mustNot : List Collector} {e : Element}
    (h : ∀ k ∈ must ++ anyOf ++ mustNot, ∀ x ∈ k.collect scope s facts, s.IsFilePath x.file) :
    e ∈ (bool must anyOf mustNot).collect scope s facts ↔
      (must = [] → anyOf = [] → e ∈ scope.universe s facts) ∧
        (∀ k ∈ must, e ∈ k.collect scope s facts) ∧
        (anyOf = [] ∨ ∃ k ∈ anyOf, e ∈ k.collect scope s facts) ∧
        ∀ k ∈ mustNot, e ∉ k.collect scope s facts := by
  have hsets (ks : List Collector) (hks : ks ⊆ must ++ anyOf ++ mustNot) :
      ∀ t ∈ ks.map (collect scope s facts), ∀ x ∈ t, s.IsFilePath x.file := by
    intro t ht
    obtain ⟨k, hk, rfl⟩ := List.mem_map.1 ht
    exact h k (hks hk)
  rw [collect, collectEach_eq_map, collectEach_eq_map, collectEach_eq_map,
    ElementSet.mem_combine (lawfulOn_isFilePath s) (fun _ => isFilePath_of_mem_universe)
      (hsets must (by simp)) (hsets anyOf (by simp)) (hsets mustNot (by simp))]
  simp

/-- Whatever is collected is in a file of the snapshot. -/
theorem isFilePath_of_mem_collect {k : Collector} {e : Element}
    (h : e ∈ k.collect scope s facts) : s.IsFilePath e.file := by
  induction k generalizing e with
  | leaf l =>
    obtain ⟨f, hf, d, -, -, rfl⟩ := Leaf.mem_collect.1 h
    exact Leaf.isFilePath_of_mem_files hf
  | bool must anyOf mustNot hmust hanyOf hmustNot =>
    have hparts : ∀ k ∈ must ++ anyOf ++ mustNot, ∀ x ∈ k.collect scope s facts,
        s.IsFilePath x.file := by
      intro k hk x
      rcases List.mem_append.1 hk with hk | hk
      · exact (List.mem_append.1 hk).elim (fun hk => hmust k hk) fun hk => hanyOf k hk
      · exact hmustNot k hk
    obtain ⟨huniverse, hall, hsome, -⟩ := (mem_collect_bool_of_isFilePath hparts).1 h
    -- A part of `must` or `anyOf` collects the element; without any it is in the universe.
    cases must with
    | cons k ks => exact hmust k List.mem_cons_self (hall k List.mem_cons_self)
    | nil =>
      rcases hsome with hnil | ⟨k, hk, hek⟩
      · exact isFilePath_of_mem_universe (huniverse rfl hnil)
      · exact hanyOf k hk hek

theorem isFilePath_of_mem_map_collect (ks : List Collector) :
    ∀ t ∈ ks.map (collect scope s facts), ∀ x ∈ t, s.IsFilePath x.file := by
  intro t ht
  obtain ⟨k, -, rfl⟩ := List.mem_map.1 ht
  exact fun _ => isFilePath_of_mem_collect

theorem mem_collect_bool {must anyOf mustNot : List Collector} {e : Element} :
    e ∈ (bool must anyOf mustNot).collect scope s facts ↔
      (must = [] → anyOf = [] → e ∈ scope.universe s facts) ∧
        (∀ k ∈ must, e ∈ k.collect scope s facts) ∧
        (anyOf = [] ∨ ∃ k ∈ anyOf, e ∈ k.collect scope s facts) ∧
        ∀ k ∈ mustNot, e ∉ k.collect scope s facts :=
  mem_collect_bool_of_isFilePath fun _ _ _ => isFilePath_of_mem_collect

/-- Composites with matching parts agree on an element. -/
theorem mem_collect_bool_congr {scope' : Scope} {s' : Snapshot} {facts' : Path → Facts}
    {must anyOf mustNot must' anyOf' mustNot' : List Collector} {e : Element}
    (huniverse : must = [] → anyOf = [] →
      (e ∈ scope.universe s facts ↔ e ∈ scope'.universe s' facts'))
    (hmust : Matched (fun k k' => e ∈ k.collect scope s facts ↔ e ∈ k'.collect scope' s' facts')
      must must')
    (hanyOf : Matched (fun k k' => e ∈ k.collect scope s facts ↔ e ∈ k'.collect scope' s' facts')
      anyOf anyOf')
    (hmustNot : Matched (fun k k' => e ∈ k.collect scope s facts ↔ e ∈ k'.collect scope' s' facts')
      mustNot mustNot') :
    e ∈ (bool must anyOf mustNot).collect scope s facts ↔
      e ∈ (bool must' anyOf' mustNot').collect scope' s' facts' := by
  have hnone : Matched
      (fun k k' => e ∉ k.collect scope s facts ↔ e ∉ k'.collect scope' s' facts') mustNot mustNot' :=
    hmustNot.imp fun _ _ _ _ h => not_congr h
  rw [mem_collect_bool, mem_collect_bool, ← hmust.eq_nil_iff, ← hanyOf.eq_nil_iff,
    ← hmust.forall_iff, ← hanyOf.exists_iff, ← hnone.forall_iff]
  refine and_congr_left fun _ => ?_
  exact forall_congr' fun hm => forall_congr' fun ha => huniverse hm ha

end Collector

end LayerCheck
