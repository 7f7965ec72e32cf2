import LayerCheck.Proofs.Build
import LayerCheck.Proofs.Leaf

/-!
Whether collectors stay in the universe of their scope. The walk through a scope and the lists of
directories find files in different ways: a leaf that lists directories also follows links, takes files
named `.py`, and goes upwards where it is told to. It takes nothing else that the walk does not find, so
without these a composite has the value that its parts and the universe give.
-/

namespace LayerCheck

/-! ### Files outside the walk -/

namespace Scope

/-- In the trees below the roots there are no links and no files named `.py`. -/
structure IsPlain (scope : Scope) (s : Snapshot) : Prop where
  linkFree : ∀ root ∈ scope.roots, s.LinkFree root
  named : ∀ root ∈ scope.roots, ∀ names text, s.get? (root ++ names ++ [".py"]) ≠ some (.file text)

variable {scope : Scope} {s : Snapshot} {f : SourceFile}

theorem isPlain_of_forall_entries (hlinks : ∀ e ∈ s.nodes.entries, Snapshot.isLink e.2 = false)
    (hnames : ∀ e ∈ s.nodes.entries, e.1.getLast? ≠ some ".py") : scope.IsPlain s where
  linkFree root _ := Snapshot.linkFree_of_forall_entries hlinks root
  named root _ names text hget := by
    rw [Snapshot.get?_of_ne_nil (by simp)] at hget
    exact hnames _ (Snapshot.mem_entries_iff.2 hget) List.getLast?_concat

theorem mem_files_none {own : Option Pattern} (h : f ∈ scope.files s own) :
    f ∈ scope.files s none := by
  obtain ⟨root, hroot, names, hnames, hadmitted, rfl⟩ := mem_files.1 h
  exact mem_files.2 ⟨root, hroot, names, hnames, (isExcluded_eq_false_iff.1 hadmitted).1, rfl⟩

end Scope

namespace Leaf

variable {l : Leaf} {scope : Scope} {s : Snapshot} {f : SourceFile}

/-- A leaf that lists no directories takes its files from the walk. -/
theorem mem_files_none_of_directories_eq_nil (hl : l.directories = []) (h : f ∈ l.files scope s) :
    f ∈ scope.files s none := by
  unfold files at h
  split at h
  · exact Scope.mem_files_none (List.mem_filter.1 h).1
  · rename_i directories recursive kind htest
    have hnil : directories = [] := by simpa [Leaf.directories, htest] using hl
    simp [Scope.directoryFiles, hnil] at h
  · exact Scope.mem_files_none h

/-- In plain trees a leaf whose directories lead downwards takes its files from the walk. -/
theorem mem_files_none_of_isPlain (hplain : scope.IsPlain s)
    (hup : ∀ directory ∈ l.directories, ".." ∉ Scope.directorySegments directory)
    (h : f ∈ l.files scope s) : f ∈ scope.files s none := by
  obtain ⟨root, names, htakes, rfl⟩ := (mem_files_of_linkFree hplain.linkFree hup).1 h
  obtain ⟨text, hget⟩ := htakes.file
  have hpython : Snapshot.isPythonName (names.getLastD "") :=
    Snapshot.isPythonName_of_endsInPy (hplain.named root htakes.root_mem) hget
      (Test.endsInPy_of_isSource htakes.source)
  have hadmitted := (Scope.isExcluded_eq_false_iff.1 htakes.admitted).1
  exact Scope.mem_files.2 ⟨root, htakes.root_mem, names,
    Snapshot.mem_pythonFiles.2 ⟨hpython, text, hget⟩, hadmitted, rfl⟩

end Leaf

/-! ### Composites over a universe -/

namespace ElementSet

/-- The intersection of `must` and the union of `anyOf`, each of them everything if it is empty,
without the union of `mustNot`. -/
def specified (everything : ElementSet) (must anyOf mustNot : List ElementSet) : ElementSet :=
  let required := (interAll must).getD everything
  let offered := if anyOf.isEmpty then everything else unionAll anyOf
  (required.inter offered).diff (unionAll mustNot)

theorem mem_specified {P : Element → Prop} (hP : LawfulOn P) {everything : ElementSet}
    {must anyOf mustNot : List ElementSet} (heverything : ∀ x ∈ everything, P x)
    (hmust : ∀ t ∈ must, ∀ x ∈ t, P x) (hanyOf : ∀ t ∈ anyOf, ∀ x ∈ t, P x)
    (hmustNot : ∀ t ∈ mustNot, ∀ x ∈ t, P x) {e : Element} :
    e ∈ specified everything must anyOf mustNot ↔
      ((must = [] → e ∈ everything) ∧ ∀ t ∈ must, e ∈ t) ∧
        ((anyOf = [] → e ∈ everything) ∧ (anyOf = [] ∨ ∃ t ∈ anyOf, e ∈ t)) ∧
        ∀ t ∈ mustNot, e ∉ t := by
  have hrequired := forall_interAll_getD hP hmust heverything
  have hoffered : ∀ x ∈ if anyOf.isEmpty then everything else unionAll anyOf, P x := by
    split
    · exact heverything
    · exact forall_unionAll hP hanyOf
  have hmem : e ∈ (if anyOf.isEmpty then everything else unionAll anyOf) ↔
      (anyOf = [] → e ∈ everything) ∧ (anyOf = [] ∨ ∃ t ∈ anyOf, e ∈ t) := by
    by_cases hempty : anyOf = []
    · simp [hempty]
    · simp [hempty, mem_unionAll hP hanyOf]
  have hboth : ∀ x ∈ ((interAll must).getD everything).inter
      (if anyOf.isEmpty then everything else unionAll anyOf), P x :=
    fun x hx => hrequired x ((OrderedSet.mem_inter hP hrequired hoffered).1 hx).1
  rw [specified, OrderedSet.mem_diff hP hboth (forall_unionAll hP hmustNot),
    OrderedSet.mem_inter hP hrequired hoffered, mem_interAll_getD hP hmust, hmem,
    mem_unionAll hP hmustNot, and_assoc]
  simp only [not_exists, not_and]

end ElementSet

namespace Collector

variable {scope : Scope} {s : Snapshot} {facts : Path → Facts}

/-- The value that the parts of a composite and the universe give. -/
def specified (scope : Scope) (s : Snapshot) (facts : Path → Facts)
    (must anyOf mustNot : List Collector) : ElementSet :=
  .specified (scope.universe s facts) (must.map (collect scope s facts))
    (anyOf.map (collect scope s facts)) (mustNot.map (collect scope s facts))

/-- The value also asks for the universe where one of the lists is empty; the composite does so only
where both are. -/
theorem mem_specified_iff {must anyOf mustNot : List Collector} {e : Element} :
    e ∈ specified scope s facts must anyOf mustNot ↔
      e ∈ (bool must anyOf mustNot).collect scope s facts ∧
        (must = [] ∨ anyOf = [] → e ∈ scope.universe s facts) := by
  rw [specified, ElementSet.mem_specified (lawfulOn_isFilePath s) (fun _ => isFilePath_of_mem_universe)
    (isFilePath_of_mem_map_collect must) (isFilePath_of_mem_map_collect anyOf)
    (isFilePath_of_mem_map_collect mustNot), mem_collect_bool]
  have hone : (∃ t ∈ anyOf.map (collect scope s facts), e ∈ t) ↔
      ∃ k ∈ anyOf, e ∈ k.collect scope s facts := by
    simp only [List.mem_map, exists_exists_and_eq_and]
  simp only [List.map_eq_nil_iff, List.forall_mem_map, hone]
  grind

theorem collect_bool_eq_specified {must anyOf mustNot : List Collector}
    (h : ∀ e ∈ (bool must anyOf mustNot).collect scope s facts, e ∈ scope.universe s facts) :
    (bool must anyOf mustNot).collect scope s facts = specified scope s facts must anyOf mustNot :=
  OrderedSet.ext fun e => by
    rw [mem_specified_iff]
    exact ⟨fun he => ⟨he, fun _ => h e he⟩, And.left⟩

/-! ### The universe as a bound -/

/-- The element stands in a file that the walk through the scope does not find, and that a leaf of the
collector takes from a directory it lists. -/
structure Strays (k : Collector) (scope : Scope) (s : Snapshot) (e : Element) : Prop where
  unfound : ∀ f ∈ scope.files s none, f.path ≠ e.file
  listed : ∃ l ∈ k.leaves, l.directories ≠ [] ∧ ∃ f ∈ l.files scope s, f.path = e.file

theorem mem_universe_or_strays {k : Collector} {e : Element} (h : e ∈ k.collect scope s facts) :
    e ∈ scope.universe s facts ∨ k.Strays scope s e := by
  refine of_mem_collect (P := fun x => x ∈ scope.universe s facts ∨ k.Strays scope s x)
    (fun l hl x hx => ?_) (fun x hx => .inl hx) h
  obtain ⟨f, hf, d, hd, -, rfl⟩ := Leaf.mem_collect.1 hx
  by_cases hfound : ∃ g ∈ scope.files s none, g.path = f.path
  · obtain ⟨g, hg, hpath⟩ := hfound
    exact .inl (Scope.mem_universe.2 ⟨g, hg, d, hpath ▸ hd, by rw [hpath]⟩)
  · refine .inr ⟨fun g hg hpath => hfound ⟨g, hg, hpath⟩, l, hl, fun hnil => ?_, f, hf, rfl⟩
    exact hfound ⟨f, Leaf.mem_files_none_of_directories_eq_nil hnil hf, rfl⟩

/-- Where a collector lists directories, the trees are plain and the directories lead downwards. -/
structure StaysInside (k : Collector) (scope : Scope) (s : Snapshot) : Prop where
  plain : k.directories ≠ [] → scope.IsPlain s
  downwards : ∀ directory ∈ k.directories, ".." ∉ Scope.directorySegments directory

theorem StaysInside.not_strays {k : Collector} (h : k.StaysInside scope s) (e : Element) :
    ¬ k.Strays scope s e := by
  rintro ⟨hunfound, l, hl, hne, f, hf, hpath⟩
  have hlisted : l.directories ⊆ k.directories :=
    fun directory hdirectory => List.mem_flatMap.2 ⟨l, hl, hdirectory⟩
  have hplain := h.plain fun hnil => hne (List.subset_nil.1 (hnil ▸ hlisted))
  have hup : ∀ directory ∈ l.directories, ".." ∉ Scope.directorySegments directory :=
    fun directory hdirectory => h.downwards directory (hlisted hdirectory)
  exact hunfound f (Leaf.mem_files_none_of_isPlain hplain hup hf) hpath

/-- Collectors leave the universe only by files that the walk does not find, and none of them does so
in plain trees below directories that lead downwards. There a composite has the value that its parts
and the universe give. -/
theorem bounded_by_universe (scope : Scope) (s : Snapshot) (facts : Path → Facts) (k : Collector) :
    (∀ e ∈ k.collect scope s facts, e ∉ scope.universe s facts → k.Strays scope s e) ∧
      (k.StaysInside scope s →
        (∀ e ∈ k.collect scope s facts, e ∈ scope.universe s facts) ∧
          ∀ must anyOf mustNot, k = bool must anyOf mustNot →
            k.collect scope s facts = specified scope s facts must anyOf mustNot) := by
  refine ⟨fun e he hout => (mem_universe_or_strays he).resolve_left hout, fun hinside => ?_⟩
  have hbound : ∀ e ∈ k.collect scope s facts, e ∈ scope.universe s facts :=
    fun e he => (mem_universe_or_strays he).resolve_right (hinside.not_strays e)
  refine ⟨hbound, ?_⟩
  rintro must anyOf mustNot rfl
  exact collect_bool_eq_specified hbound

end Collector

namespace Hidden

/-- A package beside a hidden directory. -/
def snapshot : Snapshot :=
  (((({} : Snapshot).set ["p"] .directory).set ["p", "b.py"] (.file (some "class B: pass\n"))).set
    ["p", ".hidden"] .directory).set ["p", ".hidden", "c.py"] (.file (some "def f(): pass\n"))

/-- The hidden directory is a root of its own as well. -/
def scope : Scope := ⟨[["p"], ["p", ".hidden"]], []⟩

/-- Whatever does not lie in the hidden directory only. -/
def entry : CollectorEntry where
  kind := "bool"
  options := .ofList [
    ("any_of", .list [.object [("type", .text "directory"), ("directories", .text ".")],
      .object [("type", .text "bool")]]),
    ("must_not", .list [.object [("type", .text "directory"), ("directories", .text "/.hidden/")]])]

theorem isPlain : scope.IsPlain snapshot :=
  Scope.isPlain_of_forall_entries (by decide +kernel) (by decide +kernel)

theorem bounded_beside_hidden : ∃ must anyOf mustNot,
    Collector.build entry = .ok (.bool must anyOf mustNot) ∧
      ((Collector.bool must anyOf mustNot).collect scope snapshot snapshot.facts).toList.map
        (fun e => (e.file.text, e.name)) = [("/p/b.py", "B")] ∧
      (∀ e ∈ (Collector.bool must anyOf mustNot).collect scope snapshot snapshot.facts,
        e ∈ scope.universe snapshot snapshot.facts) ∧
      (Collector.bool must anyOf mustNot).collect scope snapshot snapshot.facts =
        Collector.specified scope snapshot snapshot.facts must anyOf mustNot := by
  have hvalue : (Collector.build entry).toOption.map (fun k => (k.directories,
      (k.collect scope snapshot snapshot.facts).toList.map fun e => (e.file.text, e.name))) =
      some ([".", "/.hidden/"], [("/p/b.py", "B")]) := by
    decide +kernel
  cases hbuild : Collector.build entry with
  | error e =>
    rw [hbuild] at hvalue
    contradiction
  | ok k =>
    rw [hbuild] at hvalue
    obtain ⟨hdirectories, hcollect⟩ := Prod.mk.inj (Option.some.inj hvalue)
    obtain ⟨-, must, -, anyOf, -, mustNot, -, -, -, rfl⟩ :=
      (Collector.build_bool_eq_ok (c := entry) rfl).1 hbuild
    have hinside : (Collector.bool must anyOf mustNot).StaysInside scope snapshot := by
      refine ⟨fun _ => isPlain, ?_⟩
      rw [hdirectories]
      decide
    obtain ⟨hbound, hspecified⟩ := (Collector.bounded_by_universe scope snapshot snapshot.facts
      (.bool must anyOf mustNot)).2 hinside
    exact ⟨must, anyOf, mustNot, rfl, hcollect, hbound, hspecified must anyOf mustNot rfl⟩

end Hidden

namespace Nameless

/-- A file that is named by its extension alone. -/
def snapshot : Snapshot :=
  ((({} : Snapshot).set ["pkg"] .directory).set ["pkg", ".py"]
    (.file (some "class A:\n    pass\n"))).set ["pkg", "b.py"] (.file (some "class B:\n    pass\n"))

def scope : Scope := ⟨[[]], []⟩

def entry : CollectorEntry where
  kind := "bool"
  options := .ofList [("must", .list [
    .object [("type", .text "directory"), ("directories", .list [.text "pkg"])]])]

theorem unbounded_at_nameless : ∃ must,
    Collector.build entry = .ok (.bool must [] []) ∧
      (¬ ∀ e ∈ (Collector.bool must [] []).collect scope snapshot snapshot.facts,
        e ∈ scope.universe snapshot snapshot.facts) ∧
      (Collector.bool must [] []).collect scope snapshot snapshot.facts ≠
        Collector.specified scope snapshot snapshot.facts must [] [] := by
  have hvalue : (Collector.build entry).toOption.map (fun k =>
      (k.collect scope snapshot snapshot.facts).toList.all
        (· ∈ scope.universe snapshot snapshot.facts)) = some false := by
    decide +kernel
  have habsent (key : String) (hkey : entry.options.get? key = none) {xs : List CollectorEntry}
      (h : entry.nested key = .ok xs) : xs = [] := by
    simpa [CollectorEntry.nested_eq_ok, hkey] using h
  cases hbuild : Collector.build entry with
  | error e =>
    rw [hbuild] at hvalue
    contradiction
  | ok k =>
    rw [hbuild] at hvalue
    obtain ⟨ms, must, as, anyOf, ns, mustNot, -, ⟨has, hanyOf⟩, ⟨hns, hmustNot⟩, rfl⟩ :=
      (Collector.build_bool_eq_ok (c := entry) rfl).1 hbuild
    rw [habsent "any_of" (by decide) has] at hanyOf
    rw [habsent "must_not" (by decide) hns] at hmustNot
    obtain rfl : [] = anyOf := Except.ok.inj hanyOf
    obtain rfl : [] = mustNot := Except.ok.inj hmustNot
    have hout : ¬ ∀ e ∈ (Collector.bool must [] []).collect scope snapshot snapshot.facts,
        e ∈ scope.universe snapshot snapshot.facts := by
      intro hall
      have htrue := List.all_eq_true.2 fun e he => decide_eq_true (hall e he)
      exact absurd htrue (Bool.eq_false_iff.1 (Option.some.inj hvalue))
    refine ⟨must, rfl, hout, fun heq => hout fun e he => ?_⟩
    rw [heq, Collector.mem_specified_iff] at he
    exact he.2 (.inr rfl)

end Nameless

end LayerCheck
