import LayerCheck.Proofs.Collector

/-!
The leaves of collectors. What a collector takes is found by its leaves or stands in the universe; and
where there are no links, a leaf takes a file by the names that lead to it from a root.
-/

namespace LayerCheck

/-- The directories that a leaf lists. -/
def Leaf.directories (l : Leaf) : List String :=
  match l.test with
  | .directory directories _ _ => directories
  | _ => []

namespace Collector

variable {scope : Scope} {s : Snapshot} {facts : Path → Facts}

/-! ### Leaves of a tree -/

mutual

def leaves : Collector → List Leaf
  | leaf l => [l]
  | bool must anyOf mustNot => leavesOfEach must ++ leavesOfEach anyOf ++ leavesOfEach mustNot

def leavesOfEach : List Collector → List Leaf
  | [] => []
  | k :: rest => leaves k ++ leavesOfEach rest

end

theorem leavesOfEach_eq_flatMap (ks : List Collector) : leavesOfEach ks = ks.flatMap leaves := by
  induction ks with
  | nil => rfl
  | cons k ks ih => rw [leavesOfEach, ih, List.flatMap_cons]

theorem mem_leaves_bool {must anyOf mustNot : List Collector} {l : Leaf} :
    l ∈ (bool must anyOf mustNot).leaves ↔ ∃ k ∈ must ++ anyOf ++ mustNot, l ∈ k.leaves := by
  rw [leaves, leavesOfEach_eq_flatMap, leavesOfEach_eq_flatMap, leavesOfEach_eq_flatMap]
  simp only [← List.flatMap_append, List.mem_flatMap]

/-- The directories that the leaves of a collector list. -/
def directories (k : Collector) : List String :=
  k.leaves.flatMap Leaf.directories

theorem mem_directories_bool {must anyOf mustNot : List Collector} {directory : String} :
    directory ∈ (bool must anyOf mustNot).directories ↔
      ∃ k ∈ must ++ anyOf ++ mustNot, directory ∈ k.directories := by
  simp only [directories, List.mem_flatMap, mem_leaves_bool]
  grind

/-- What holds of everything that the leaves collect, and of the universe, holds of everything that
is collected. -/
theorem of_mem_collect {P : Element → Prop} {k : Collector} {e : Element}
    (hleaf : ∀ l ∈ k.leaves, ∀ x ∈ l.collect scope s facts, P x)
    (huniverse : ∀ x ∈ scope.universe s facts, P x) (h : e ∈ k.collect scope s facts) : P e := by
  induction k with
  | leaf l => exact hleaf l (by simp [leaves]) e h
  | bool must anyOf mustNot hmust hanyOf hmustNot =>
    have hpart (k : Collector) (hk : k ∈ must ++ anyOf ++ mustNot) :
        ∀ l ∈ k.leaves, ∀ x ∈ l.collect scope s facts, P x :=
      fun l hl => hleaf l (mem_leaves_bool.2 ⟨k, hk, hl⟩)
    obtain ⟨hall, hmustAll, hsome, -⟩ := mem_collect_bool.1 h
    cases must with
    | cons k ks =>
      exact hmust k List.mem_cons_self (hpart k (by simp)) (hmustAll k List.mem_cons_self)
    | nil =>
      rcases hsome with hnil | ⟨k, hk, hek⟩
      · exact huniverse e (hall rfl hnil)
      · exact hanyOf k hk (hpart k (by simp [hk])) hek

end Collector

/-! ### Trees without links -/

namespace Leaf

namespace Test

/-- Names of files that the test of a leaf takes for Python files. -/
def isSource : Test → String → Bool
  | directory .. => Snapshot.endsInPy
  | _ => Snapshot.isPythonName

/-- Whether the test of a leaf looks into the file at the relative path. -/
def looksInto : Test → String → Bool
  | fileRegex regex _ _, relative => regex.isMatch relative
  | directory directories recursive _, relative =>
    directories.any fun directory =>
      Snapshot.isInside recursive (Snapshot.namesOf (Scope.directorySegments directory))
        (Segments.split '/' relative)
  | _, _ => true

theorem endsInPy_of_isSource {t : Test} {name : String} (h : t.isSource name) :
    Snapshot.endsInPy name := by
  cases t with
  | directory directories recursive kind => exact h
  | _ => exact (Snapshot.isPythonName_iff.1 h).1

theorem isSource_of_isPythonName {t : Test} {name : String} (h : Snapshot.isPythonName name) :
    t.isSource name := by
  cases t with
  | directory directories recursive kind => exact (Snapshot.isPythonName_iff.1 h).1
  | _ => exact h

end Test

/-- A leaf takes the file that the names lead to from a root. -/
structure Takes (l : Leaf) (scope : Scope) (s : Snapshot) (root names : Place) : Prop where
  root_mem : root ∈ scope.roots
  file : ∃ text, s.get? (root ++ names) = some (.file text)
  source : l.test.isSource (names.getLastD "")
  looks : l.test.looksInto (Segments.join '/' names)
  admitted : scope.isExcluded l.exclude (Segments.join '/' names) = false

theorem split_join_of_file {s : Snapshot} {root names : Place} {text : Option String}
    (hget : s.get? (root ++ names) = some (.file text))
    (hpy : Snapshot.endsInPy (names.getLastD "")) :
    Segments.split '/' (Segments.join '/' names) = names := by
  refine Segments.split_join (Snapshot.ne_nil_of_endsInPy hpy) fun name hname => ?_
  have hentry := Snapshot.named_of_get? hget name (by simp [hname])
  exact (isEntryName_iff.1 hentry).2.2.2

variable {l : Leaf} {scope : Scope} {s : Snapshot} {f : SourceFile}

theorem mem_directoryFiles_of_linkFree {directories : List String} {recursive : Bool}
    {kind : Option ElementKind} (htest : l.test = .directory directories recursive kind)
    (hlinks : ∀ root ∈ scope.roots, s.LinkFree root)
    (hup : ∀ directory ∈ directories, ".." ∉ Scope.directorySegments directory) :
    f ∈ scope.directoryFiles s l.exclude directories recursive ↔
      ∃ root names, l.Takes scope s root names ∧
        f = ⟨.ofNames (root ++ names), .ofNames root, Segments.join '/' names⟩ := by
  rw [Scope.mem_directoryFiles]
  constructor
  · rintro ⟨root, hroot, directory, hdirectory, found, hfound, hadmitted, rfl⟩
    obtain ⟨hinside, hpy, hplace, text, hget⟩ :=
      (Snapshot.mem_filesIn_of_linkFree (hlinks root hroot) (hup directory hdirectory)).1 hfound
    refine ⟨root, found.names, ⟨hroot, ⟨text, hget⟩, ?_, ?_, hadmitted⟩, by rw [hplace]⟩
    · rwa [htest]
    · rw [htest, Test.looksInto, split_join_of_file hget hpy]
      exact List.any_eq_true.2 ⟨directory, hdirectory, hinside⟩
  · rintro ⟨root, names, ⟨hroot, ⟨text, hget⟩, hsource, hlooks, hadmitted⟩, rfl⟩
    have hpy := Test.endsInPy_of_isSource hsource
    rw [htest, Test.looksInto, split_join_of_file hget hpy] at hlooks
    obtain ⟨directory, hdirectory, hinside⟩ := List.any_eq_true.1 hlooks
    refine ⟨root, hroot, directory, hdirectory, ⟨names, root ++ names⟩, ?_, hadmitted, rfl⟩
    exact (Snapshot.mem_filesIn_of_linkFree (hlinks root hroot) (hup directory hdirectory)).2
      ⟨hinside, hpy, rfl, text, hget⟩

/-- Where there are no links, every leaf takes files by the names that lead to them. -/
theorem mem_files_of_linkFree (hlinks : ∀ root ∈ scope.roots, s.LinkFree root)
    (hup : ∀ directory ∈ l.directories, ".." ∉ Scope.directorySegments directory) :
    f ∈ l.files scope s ↔ ∃ root names, l.Takes scope s root names ∧
      f = ⟨.ofNames (root ++ names), .ofNames root, Segments.join '/' names⟩ := by
  unfold files
  split
  · rename_i regex kind base htest
    simp only [List.mem_filter, Scope.mem_files, Snapshot.mem_pythonFiles]
    constructor
    · rintro ⟨⟨root, hroot, names, ⟨hpython, hfile⟩, hadmitted, rfl⟩, hmatch⟩
      refine ⟨root, names, ⟨hroot, hfile, ?_, ?_, hadmitted⟩, rfl⟩
      · rwa [htest]
      · rwa [htest]
    · rintro ⟨root, names, ⟨hroot, hfile, hsource, hlooks, hadmitted⟩, rfl⟩
      rw [htest] at hsource hlooks
      exact ⟨⟨root, hroot, names, ⟨hsource, hfile⟩, hadmitted, rfl⟩, hlooks⟩
  · rename_i directories recursive kind htest
    have hlisted : l.directories = directories := by simp [Leaf.directories, htest]
    exact mem_directoryFiles_of_linkFree htest hlinks (hlisted ▸ hup)
  · rename_i hfile hdirectory
    obtain ⟨hsource, hlooks⟩ : l.test.isSource = Snapshot.isPythonName ∧
        ∀ relative, l.test.looksInto relative := by
      cases htest : l.test with
      | fileRegex regex kind base => exact absurd htest (hfile regex kind base)
      | directory directories recursive kind =>
        exact absurd htest (hdirectory directories recursive kind)
      | _ => exact ⟨rfl, fun _ => rfl⟩
    simp only [Scope.mem_files, Snapshot.mem_pythonFiles]
    constructor
    · rintro ⟨root, hroot, names, ⟨hpython, hget⟩, hadmitted, rfl⟩
      exact ⟨root, names, ⟨hroot, hget, hsource ▸ hpython, hlooks _, hadmitted⟩, rfl⟩
    · rintro ⟨root, names, ⟨hroot, hget, hpython, -, hadmitted⟩, rfl⟩
      exact ⟨root, hroot, names, ⟨hsource ▸ hpython, hget⟩, hadmitted, rfl⟩

end Leaf

end LayerCheck
