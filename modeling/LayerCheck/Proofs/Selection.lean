import LayerCheck.Proofs.Build
import LayerCheck.Proofs.Leaf

/-!
What a collector selects, said of one definition at a time. In a tree with one root and without links,
a collector that was built from an entry collects those definitions that the options of the entry
select; composites are conjunction, disjunction and negation.
-/

namespace LayerCheck

namespace CollectorEntry

/-! ### Options of an entry -/

/-- The text of an option, if there is one and it is not empty. -/
def given? (c : CollectorEntry) (key : String) : Option String :=
  match c.options.get? key with
  | some (.text s) => if s = "" then none else some s
  | _ => none

def pattern? (c : CollectorEntry) (key : String) : Option Pattern :=
  (c.given? key).bind Pattern.matching?

def elementKind? (c : CollectorEntry) : Option ElementKind :=
  (c.given? "element_type").bind ElementKind.ofText?

def flag (c : CollectorEntry) (key : String) (default : Bool) : Bool :=
  match c.options.get? key with
  | some (.bool b) => b
  | _ => default

def listed (c : CollectorEntry) (key : String) : List String :=
  match c.options.get? key with
  | some (.text s) => [s]
  | some (.list items) => (textItems? items).getD []
  | _ => []

variable {c : CollectorEntry} {key : String}

/-! ### What an entry selects -/

/-- The test of a leaf, on a definition in the file at the relative path. -/
def holds (c : CollectorEntry) (relative : String) (d : Definition) : Bool :=
  if c.kind = "file_regex" then
    (c.pattern? "regex").any (·.isMatch relative) && Leaf.isKind c.elementKind? d &&
      (d.kind != .cls || (c.given? "base_class").all d.inheritsFrom)
  else if c.kind = "class_inherits" then
    d.kind == .cls && (c.given? "base_class").any d.inheritsFrom
  else if c.kind = "class_name_regex" then
    d.kind == .cls && (c.pattern? "class_name_regex").any (·.isMatch d.name)
  else if c.kind = "function_name_regex" then
    d.kind == .func && (c.pattern? "function_name_regex").any (·.isMatch d.name)
  else if c.kind = "directory" then
    (c.listed "directories").any (fun directory =>
      Snapshot.isInside (c.flag "recursive" true)
        (Snapshot.namesOf (Scope.directorySegments directory)) (Segments.split '/' relative)) &&
      Leaf.isKind c.elementKind? d
  else if c.kind = "decorator_usage" then
    d.kind != .var && d.decorators.any fun decorator =>
      c.given? "decorator_name" == some decorator ||
        (c.pattern? "decorator_regex").any (·.isMatch decorator)
  else false

/-- Whether an entry selects a definition in the file at the relative path. -/
def selects (c : CollectorEntry) (relative : String) (d : Definition) : Bool :=
  if c.kind = "bool" then
    (c.children "must").attach.all (fun ⟨x, _⟩ => x.selects relative d) &&
      ((c.children "any_of").isEmpty ||
        (c.children "any_of").attach.any fun ⟨x, _⟩ => x.selects relative d) &&
      (c.children "must_not").attach.all fun ⟨x, _⟩ => !x.selects relative d
  else
    !(c.pattern? "exclude_files_regex").any (·.isMatch relative) && c.holds relative d
termination_by c.depth
decreasing_by all_goals exact depth_lt_of_mem_children ‹_›

theorem selects_bool_iff (hkind : c.kind = "bool") {relative : String} {d : Definition} :
    c.selects relative d ↔
      (∀ x ∈ c.children "must", x.selects relative d) ∧
        (c.children "any_of" = [] ∨ ∃ x ∈ c.children "any_of", x.selects relative d) ∧
        ∀ x ∈ c.children "must_not", ¬x.selects relative d := by
  rw [selects, if_pos hkind]
  simp [and_assoc]

theorem selects_leaf (hkind : c.kind ≠ "bool") (relative : String) (d : Definition) :
    c.selects relative d =
      (!(c.pattern? "exclude_files_regex").any (·.isMatch relative) && c.holds relative d) := by
  rw [selects, if_neg hkind]

/-! ### Reading options -/

theorem given?_of_text? {o : Option String} (h : c.text? key = .ok o) :
    c.given? key = o.filter (· ≠ "") := by
  unfold text? at h
  unfold given?
  split at h
  · rename_i hget
    simp [hget, ← Except.ok.inj h]
  · rename_i hget
    simp [hget, ← Except.ok.inj h]
  · rename_i s hget
    by_cases hs : s = "" <;> simp [hget, ← Except.ok.inj h, hs, Option.filter]
  · contradiction

theorem given?_of_textIfAny {o : Option String} (h : c.textIfAny key = .ok o) : c.given? key = o := by
  obtain ⟨t, ht, rfl⟩ := Except.map_eq_ok.1 h
  exact given?_of_text? ht

theorem given?_of_text {s : String} (h : c.text key = .ok s) : c.given? key = some s := by
  obtain ⟨o, ho, h⟩ := Except.bind_eq_ok.1 h
  rw [given?_of_text? ho]
  cases o with
  | none => contradiction
  | some t =>
    dsimp only at h
    split at h
    · contradiction
    · rename_i hne
      simp [← Except.ok.inj h, hne, Option.filter]

theorem pattern?_of_patternIfAny {p : Option Pattern} (h : c.patternIfAny key = .ok p) :
    c.pattern? key = p := by
  obtain ⟨raw, hraw, h⟩ := Except.bind_eq_ok.1 h
  rw [pattern?, given?_of_textIfAny hraw]
  cases raw with
  | none => exact Except.ok.inj h
  | some raw =>
    obtain ⟨p, hp, rfl⟩ := Except.map_eq_ok.1 h
    exact Config.matching_eq_ok.1 hp

theorem pattern?_of_pattern {p : Pattern} (h : c.pattern key = .ok p) : c.pattern? key = some p := by
  obtain ⟨raw, hraw, hp⟩ := Except.bind_eq_ok.1 h
  rw [pattern?, given?_of_text hraw]
  exact Config.matching_eq_ok.1 hp

theorem elementKind?_of_elementKind {kind : Option ElementKind} (h : c.elementKind = .ok kind) :
    c.elementKind? = kind := by
  obtain ⟨text, htext, h⟩ := Except.bind_eq_ok.1 h
  rw [elementKind?, given?_of_textIfAny htext]
  cases text with
  | none => exact Except.ok.inj h
  | some text =>
    dsimp only at h
    split at h
    · rename_i kind hkind
      rw [← Except.ok.inj h]
      exact hkind
    · contradiction

theorem flag_of_bool {default b : Bool} (h : c.bool key default = .ok b) : c.flag key default = b := by
  unfold bool at h
  unfold flag
  split at h <;> simp_all

theorem listed_of_texts {texts : List String} (h : c.texts key = .ok texts) :
    c.listed key = texts := by
  rcases texts_eq_ok.1 h with ⟨hget | hget, rfl⟩ | ⟨s, hget, rfl⟩ | hget
  · simp [listed, hget]
  · simp [listed, hget]
  · simp [listed, hget]
  · have hitems : textItems? (texts.map .text) = some texts := textItems?_eq_some_iff.2 rfl
    simp [listed, hget, hitems]

end CollectorEntry

/-! ### Leaves -/

/-- The options of an entry say what the leaf that is built from it selects. -/
structure CollectorEntry.Describes (c : CollectorEntry) (l : Leaf) : Prop where
  exclude : l.exclude = c.pattern? "exclude_files_regex"
  holds : ∀ relative d, c.holds relative d = (l.test.looksInto relative && l.test.admits d)

namespace CollectorEntry

variable {c : CollectorEntry} {l : Leaf}

theorem describes_fileRegex (hkind : c.kind = "file_regex") (h : c.fileRegex = .ok l) :
    c.Describes l := by
  simp only [fileRegex, Except.bind_eq_ok] at h
  obtain ⟨regex, hregex, kind, helement, base, hbase, exclude, hexclude, h⟩ := h
  rw [← Except.ok.inj h]
  refine ⟨(pattern?_of_patternIfAny hexclude).symm, fun relative d => ?_⟩
  simp [holds, hkind, pattern?_of_pattern hregex, elementKind?_of_elementKind helement,
    given?_of_textIfAny hbase, Leaf.Test.looksInto, Leaf.Test.admits, Bool.and_assoc]

theorem describes_classInherits (hkind : c.kind = "class_inherits") (h : c.classInherits = .ok l) :
    c.Describes l := by
  simp only [classInherits, Except.bind_eq_ok] at h
  obtain ⟨base, hbase, exclude, hexclude, h⟩ := h
  rw [← Except.ok.inj h]
  refine ⟨(pattern?_of_patternIfAny hexclude).symm, fun relative d => ?_⟩
  simp [holds, hkind, given?_of_text hbase, Leaf.Test.looksInto, Leaf.Test.admits]

theorem describes_classNameRegex (hkind : c.kind = "class_name_regex")
    (h : c.classNameRegex = .ok l) : c.Describes l := by
  simp only [classNameRegex, Except.bind_eq_ok] at h
  obtain ⟨regex, hregex, exclude, hexclude, h⟩ := h
  rw [← Except.ok.inj h]
  refine ⟨(pattern?_of_patternIfAny hexclude).symm, fun relative d => ?_⟩
  simp [holds, hkind, pattern?_of_pattern hregex, Leaf.Test.looksInto, Leaf.Test.admits]

theorem describes_functionNameRegex (hkind : c.kind = "function_name_regex")
    (h : c.functionNameRegex = .ok l) : c.Describes l := by
  simp only [functionNameRegex, Except.bind_eq_ok] at h
  obtain ⟨regex, hregex, exclude, hexclude, h⟩ := h
  rw [← Except.ok.inj h]
  refine ⟨(pattern?_of_patternIfAny hexclude).symm, fun relative d => ?_⟩
  simp [holds, hkind, pattern?_of_pattern hregex, Leaf.Test.looksInto, Leaf.Test.admits]

theorem describes_directory (hkind : c.kind = "directory") (h : c.directory = .ok l) :
    c.Describes l := by
  obtain ⟨directories, recursive, kind, exclude, ⟨hdirectories, -⟩, hrecursive, helement, hexclude,
    rfl⟩ := directory_eq_ok.1 h
  refine ⟨(pattern?_of_patternIfAny hexclude).symm, fun relative d => ?_⟩
  simp [holds, hkind, listed_of_texts hdirectories, flag_of_bool hrecursive,
    elementKind?_of_elementKind helement, Leaf.Test.looksInto, Leaf.Test.admits]

theorem describes_decoratorUsage (hkind : c.kind = "decorator_usage")
    (h : c.decoratorUsage = .ok l) : c.Describes l := by
  simp only [decoratorUsage, Except.bind_eq_ok] at h
  obtain ⟨name, hname, regex, hregex, h⟩ := h
  split at h
  · contradiction
  obtain ⟨exclude, hexclude, h⟩ := Except.bind_eq_ok.1 h
  rw [← Except.ok.inj h]
  refine ⟨(pattern?_of_patternIfAny hexclude).symm, fun relative d => ?_⟩
  simp [holds, hkind, given?_of_textIfAny hname, pattern?_of_patternIfAny hregex,
    Leaf.Test.looksInto, Leaf.Test.admits]

theorem describes_of_leaf (h : c.leaf = .ok l) : c.Describes l := by
  unfold leaf at h
  split at h
  · exact describes_fileRegex ‹_› h
  split at h
  · exact describes_classInherits ‹_› h
  split at h
  · exact describes_classNameRegex ‹_› h
  split at h
  · exact describes_functionNameRegex ‹_› h
  split at h
  · exact describes_directory ‹_› h
  split at h
  · exact describes_decoratorUsage ‹_› h
  · contradiction

end CollectorEntry

/-! ### One tree without links -/

/-- The scope has one root, and in the tree below it there are no links and no files named `.py`. -/
structure Scope.IsPlainTree (scope : Scope) (s : Snapshot) (root : Place) : Prop where
  roots : scope.roots = [root]
  linkFree : s.LinkFree root
  named : ∀ names text, s.get? (root ++ names ++ [".py"]) ≠ some (.file text)

namespace Scope.IsPlainTree

variable {scope : Scope} {s : Snapshot} {root : Place} {f : SourceFile}
  (h : scope.IsPlainTree s root)
include h

theorem isPythonName_of_endsInPy {names : List String} {text : Option String}
    (hget : s.get? (root ++ names) = some (.file text))
    (hpy : Snapshot.endsInPy (names.getLastD "")) : Snapshot.isPythonName (names.getLastD "") :=
  Snapshot.isPythonName_of_endsInPy h.named hget hpy

theorem mem_files :
    f ∈ scope.files s none ↔ ∃ names text, s.get? (root ++ names) = some (.file text) ∧
      Snapshot.endsInPy (names.getLastD "") ∧
      scope.isExcluded none (Segments.join '/' names) = false ∧
      f = ⟨.ofNames (root ++ names), .ofNames root, Segments.join '/' names⟩ := by
  simp only [Scope.mem_files, h.roots, List.mem_singleton, exists_eq_left, Snapshot.mem_pythonFiles]
  constructor
  · rintro ⟨names, ⟨hpython, text, hget⟩, hadmitted, rfl⟩
    exact ⟨names, text, hget, (Snapshot.isPythonName_iff.1 hpython).1, hadmitted, rfl⟩
  · rintro ⟨names, text, hget, hpy, hadmitted, rfl⟩
    exact ⟨names, ⟨h.isPythonName_of_endsInPy hget hpy, text, hget⟩, hadmitted, rfl⟩

/-- Of the files of the scope, a leaf takes those whose relative path it looks at and does not leave
out. -/
theorem mem_leaf_files {l : Leaf}
    (hup : ∀ directory ∈ l.directories, ".." ∉ directorySegments directory) :
    f ∈ l.files scope s ↔ f ∈ scope.files s none ∧ l.exclude.any (·.isMatch f.relative) = false ∧
      l.test.looksInto f.relative := by
  have hlinks : ∀ root ∈ scope.roots, s.LinkFree root := by
    intro root' hroot
    obtain rfl : root' = root := by simpa [h.roots] using hroot
    exact h.linkFree
  rw [Leaf.mem_files_of_linkFree hlinks hup, h.mem_files]
  constructor
  · rintro ⟨root', names, ⟨hroot, ⟨text, hget⟩, hsource, hlooks, hadmitted⟩, rfl⟩
    obtain rfl : root' = root := by simpa [h.roots] using hroot
    obtain ⟨hglobal, hown⟩ := Scope.isExcluded_eq_false_iff.1 hadmitted
    have hpy := Leaf.Test.endsInPy_of_isSource hsource
    exact ⟨⟨names, text, hget, hpy, hglobal, rfl⟩, hown, hlooks⟩
  · rintro ⟨⟨names, text, hget, hpy, hglobal, rfl⟩, hown, hlooks⟩
    have hsource : l.test.isSource (names.getLastD "") :=
      Leaf.Test.isSource_of_isPythonName (h.isPythonName_of_endsInPy hget hpy)
    exact ⟨root, names, ⟨by simp [h.roots], ⟨text, hget⟩, hsource, hlooks,
      Scope.isExcluded_eq_false_iff.2 ⟨hglobal, hown⟩⟩, rfl⟩

theorem eq_of_path_eq {g : SourceFile} (hf : f ∈ scope.files s none) (hg : g ∈ scope.files s none)
    (hpath : f.path = g.path) : f = g := by
  obtain ⟨names, text, hget, -, -, rfl⟩ := h.mem_files.1 hf
  obtain ⟨names', text', hget', -, -, rfl⟩ := h.mem_files.1 hg
  have hplace : root ++ names = root ++ names' := by
    refine Path.ofNames_inj (Snapshot.named_of_get? hget) (Snapshot.named_of_get? hget') ?_
    rw [show Path.ofNames (root ++ names) = .ofNames (root ++ names') from hpath]
    exact Std.ReflCmp.compare_self
  rw [List.append_cancel_left hplace]

end Scope.IsPlainTree

/-! ### Selection -/

/-- Different definitions are different elements of a file. -/
def Facts.Distinct (facts : Facts) : Prop :=
  ∀ d ∈ facts.definitions, ∀ d' ∈ facts.definitions, ∀ file,
    d.toElement file = d'.toElement file → d = d'

namespace Collector

section PlainTree

variable {scope : Scope} {s : Snapshot} {root : Place} {facts : Path → Facts}
  (htree : scope.IsPlainTree s root)
  (hdistinct : ∀ f ∈ scope.files s none, (facts f.path).Distinct)
include htree hdistinct

/-- An element comes from one definition of one file. -/
theorem eq_of_toElement_eq {f g : SourceFile} {d d' : Definition} (hf : f ∈ scope.files s none)
    (hd : d ∈ (facts f.path).definitions) (hg : g ∈ scope.files s none)
    (hd' : d' ∈ (facts g.path).definitions) (heq : d.toElement f.path = d'.toElement g.path) :
    f = g ∧ d = d' := by
  have hfile : f = g := htree.eq_of_path_eq hf hg (congrArg Element.file heq)
  subst hfile
  exact ⟨rfl, hdistinct f hf d hd d' hd' f.path heq⟩

theorem mem_leaf_collect_iff {c : CollectorEntry} {l : Leaf} (hl : c.Describes l)
    (hup : ∀ directory ∈ l.directories, ".." ∉ Scope.directorySegments directory)
    {f : SourceFile} (hf : f ∈ scope.files s none) {d : Definition}
    (hd : d ∈ (facts f.path).definitions) :
    d.toElement f.path ∈ l.collect scope s facts ↔
      (c.pattern? "exclude_files_regex").any (·.isMatch f.relative) = false ∧
        c.holds f.relative d := by
  simp only [Leaf.mem_collect, htree.mem_leaf_files hup, hl.exclude, hl.holds, Bool.and_eq_true]
  constructor
  · rintro ⟨g, ⟨hg, hexclude, hlooks⟩, d', hd', hadmits, heq⟩
    obtain ⟨rfl, rfl⟩ := eq_of_toElement_eq htree hdistinct hf hd hg hd' heq
    exact ⟨hexclude, hlooks, hadmits⟩
  · rintro ⟨hexclude, hlooks, hadmits⟩
    exact ⟨f, ⟨hf, hexclude, hlooks⟩, d, hd, hadmits, rfl⟩

/-- A collector takes a definition of a file if its entry selects it. -/
theorem mem_collect_iff_selects {c : CollectorEntry} {k : Collector} (hbuild : build c = .ok k)
    (hup : ∀ directory ∈ k.directories, ".." ∉ Scope.directorySegments directory)
    {f : SourceFile} (hf : f ∈ scope.files s none) {d : Definition}
    (hd : d ∈ (facts f.path).definitions) :
    d.toElement f.path ∈ k.collect scope s facts ↔ c.selects f.relative d := by
  -- What is nested in an entry is read from a document, so the induction is on the depth of entries.
  induction hdepth : c.depth using Nat.strongRecOn generalizing c k with
  | ind n ih =>
    subst hdepth
    by_cases hkind : c.kind = "bool"
    · obtain ⟨ms, must, as, anyOf, ns, mustNot, ⟨hms, hmust⟩, ⟨has, hanyOf⟩, ⟨hns, hmustNot⟩, rfl⟩ :=
        (build_bool_eq_ok hkind).1 hbuild
      have huniverse : d.toElement f.path ∈ scope.universe s facts :=
        Scope.mem_universe.2 ⟨f, hf, d, hd, rfl⟩
      have hmatched (key : String) (xs : List CollectorEntry) (hnested : c.nested key = .ok xs)
          (ks : List Collector) (hks : xs.mapM build = .ok ks)
          (hmem : ∀ k ∈ ks, k ∈ must ++ anyOf ++ mustNot) :
          Matched (fun x k => x.selects f.relative d ↔ d.toElement f.path ∈ k.collect scope s facts)
            xs ks := by
        refine (Except.matched_of_mapM_eq_ok hks).imp fun x hx k hk hxk => ?_
        refine (ih x.depth (CollectorEntry.depth_lt_of_mem_nested hnested hx) hxk ?_ rfl).symm
        intro directory hdirectory
        exact hup directory (mem_directories_bool.2 ⟨k, hmem k hk, hdirectory⟩)
      have hallOf := hmatched "must" ms hms must hmust (by simp +contextual)
      have hsomeOf := hmatched "any_of" as has anyOf hanyOf (by simp +contextual)
      have hnoneOf := (hmatched "must_not" ns hns mustNot hmustNot (by simp +contextual)).imp
        fun _ _ _ _ h => not_congr h
      rw [mem_collect_bool, CollectorEntry.selects_bool_iff hkind,
        CollectorEntry.children_of_nested hms, CollectorEntry.children_of_nested has,
        CollectorEntry.children_of_nested hns, hallOf.forall_iff, hsomeOf.eq_nil_iff,
        hsomeOf.exists_iff, hnoneOf.forall_iff]
      simp only [huniverse, implies_true, true_and]
    · obtain ⟨l, hl, rfl⟩ := (build_leaf_eq_ok hkind).1 hbuild
      have hdirectories : (leaf l).directories = l.directories := by simp [directories, leaves]
      rw [collect, CollectorEntry.selects_leaf hkind, Bool.and_eq_true, Bool.not_eq_true',
        mem_leaf_collect_iff htree hdistinct (CollectorEntry.describes_of_leaf hl)
          (hdirectories ▸ hup) hf hd]

omit hdistinct in
/-- Whatever is collected is a definition of a file of the scope. -/
theorem exists_of_mem_collect {k : Collector}
    (hup : ∀ directory ∈ k.directories, ".." ∉ Scope.directorySegments directory) {e : Element}
    (he : e ∈ k.collect scope s facts) :
    ∃ f ∈ scope.files s none, ∃ d ∈ (facts f.path).definitions, e = d.toElement f.path := by
  refine of_mem_collect (fun l hl x hx => ?_) (fun x => Scope.mem_universe.1) he
  obtain ⟨f, hf, d, hd, -, rfl⟩ := Leaf.mem_collect.1 hx
  have hleaf : ∀ directory ∈ l.directories, ".." ∉ Scope.directorySegments directory :=
    fun directory hdirectory => hup directory (List.mem_flatMap.2 ⟨l, hl, hdirectory⟩)
  exact ⟨f, ((htree.mem_leaf_files hleaf).1 hf).1, d, hd, rfl⟩

/-- In one tree without links, a collector that was built from an entry collects the definitions that
the entry selects. -/
theorem mem_collect_iff_exists_selects {c : CollectorEntry} {k : Collector}
    (hbuild : build c = .ok k)
    (hup : ∀ directory ∈ k.directories, ".." ∉ Scope.directorySegments directory) (e : Element) :
    e ∈ k.collect scope s facts ↔ ∃ f ∈ scope.files s none, ∃ d ∈ (facts f.path).definitions,
      c.selects f.relative d ∧ e = d.toElement f.path := by
  constructor
  · intro he
    obtain ⟨f, hf, d, hd, rfl⟩ := exists_of_mem_collect htree hup he
    exact ⟨f, hf, d, hd, (mem_collect_iff_selects htree hdistinct hbuild hup hf hd).1 he, rfl⟩
  · rintro ⟨f, hf, d, hd, hselects, rfl⟩
    exact (mem_collect_iff_selects htree hdistinct hbuild hup hf hd).2 hselects

end PlainTree

end Collector

namespace Nested

/-- A tree with a file at its root and one in a directory. -/
def snapshot : Snapshot :=
  (((({} : Snapshot).set ["p"] .directory).set ["p", "a.py"] (.file (some ""))).set
    ["p", "sub"] .directory).set ["p", "sub", "b.py"] (.file (some ""))

def scope : Scope := ⟨[["p"]], []⟩

/-- Every file has a class with a base and a function. -/
def facts (_ : Path) : Facts where
  definitions := [⟨.cls, "C", "C", 1, 1, ["lib.Base"], []⟩, ⟨.func, "f", "f", 3, 1, [], []⟩]

/-- Anything below `sub`, unless it is not a class that inherits from `Base`. -/
def entry : CollectorEntry where
  kind := "bool"
  options := .ofList [
    ("must", .list [.object [("type", .text "directory"), ("directories", .text "sub/")]]),
    ("must_not", .list [.object [("type", .text "bool"), ("must_not", .list [
      .object [("type", .text "class_inherits"), ("base_class", .text "Base")]])]])]

theorem isPlainTree : scope.IsPlainTree snapshot ["p"] where
  roots := rfl
  linkFree := Snapshot.linkFree_of_forall_entries (by decide +kernel) ["p"]
  named names text hget := by
    have hnames : ∀ e ∈ snapshot.nodes.entries, e.1.getLast? ≠ some ".py" := by decide +kernel
    rw [Snapshot.get?_of_ne_nil (by simp)] at hget
    exact hnames _ (Snapshot.mem_entries_iff.2 hget) List.getLast?_concat

theorem mem_collect_nested : ∃ k, Collector.build entry = .ok k ∧
    (k.collect scope snapshot facts).toList.map (fun e => (e.file.text, e.name)) =
      [("/p/sub/b.py", "C")] ∧
    ∀ e, e ∈ k.collect scope snapshot facts ↔ ∃ f ∈ scope.files snapshot none,
      ∃ d ∈ (facts f.path).definitions, entry.selects f.relative d ∧ e = d.toElement f.path := by
  have hvalue : (Collector.build entry).toOption.map (fun k => (k.directories,
      (k.collect scope snapshot facts).toList.map fun e => (e.file.text, e.name))) =
      some (["sub/"], [("/p/sub/b.py", "C")]) := by
    decide +kernel
  have hdistinct (p : Path) : (facts p).Distinct := by
    simp [Facts.Distinct, facts, Definition.toElement]
  cases hbuild : Collector.build entry with
  | error e => simp [hbuild, Except.toOption] at hvalue
  | ok k =>
    obtain ⟨hdirectories, hcollect⟩ : k.directories = ["sub/"] ∧
        (k.collect scope snapshot facts).toList.map (fun e => (e.file.text, e.name)) =
          [("/p/sub/b.py", "C")] := by
      simpa [hbuild, Except.toOption] using hvalue
    have hup : ∀ directory ∈ k.directories, ".." ∉ Scope.directorySegments directory := by
      rw [hdirectories]
      decide
    exact ⟨k, rfl, hcollect, Collector.mem_collect_iff_exists_selects isPlainTree
      (fun f _ => hdistinct f.path) hbuild hup⟩

end Nested

end LayerCheck
