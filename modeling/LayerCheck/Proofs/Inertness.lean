import LayerCheck.Proofs.Analysis
import LayerCheck.Proofs.Build
import LayerCheck.Proofs.Leaf

/-!
Inert files do not influence an analysis: files that are no Python files, that the configuration leaves
out under every root, or that cannot be read as a module.
-/

namespace LayerCheck

/-! ### Snapshots that differ in inert files -/

/-- The directories that the collector of an entry lists. -/
def CollectorEntry.listedDirectories (c : CollectorEntry) : List String :=
  match Collector.build c with
  | .ok k => k.directories
  | .error _ => []

namespace Config

/-- The file at a place is inert: an analysis takes nothing from it. -/
inductive Inert (c : Config) (s : Snapshot) (p : Place) : Prop where
  | otherName (h : Snapshot.endsInPy (p.getLastD "") = false)
  | excluded (h : ∀ root ∈ Scope.rootsOf s c.paths, ∀ names, p = root ++ names →
      ∃ raw ∈ c.excludeFiles, ∃ pattern, Pattern.searching? raw = some pattern ∧
        pattern.isMatch (Segments.join '/' names))
  | noModule {e : SourceError} (h : s.module (.ofNames p) = .error e)

/-- Two snapshots without links that have the same directories, and in which every file that differs
is inert where it is held. -/
structure Alike (c : Config) (s s' : Snapshot) : Prop where
  working : s.working = s'.working
  linkFree : s.LinkFree []
  linkFree' : s'.LinkFree []
  directories : ∀ p, s.isDirectory p = s'.isDirectory p
  inert : ∀ p text, s.get? p = some (.file text) → s.get? p ≠ s'.get? p → c.Inert s p
  inert' : ∀ p text, s'.get? p = some (.file text) → s.get? p ≠ s'.get? p → c.Inert s' p

theorem Alike.symm {c : Config} {s s' : Snapshot} (h : c.Alike s s') : c.Alike s' s where
  working := h.working.symm
  linkFree := h.linkFree'
  linkFree' := h.linkFree
  directories p := (h.directories p).symm
  inert p text hget hne := h.inert' p text hget hne.symm
  inert' p text hget hne := h.inert p text hget hne.symm

/-- No directory that a collector lists leads upwards. -/
def ListsNoParent (c : Config) : Prop :=
  ∀ layer ∈ c.layers, ∀ entry ∈ layer.collectors, ∀ directory ∈ entry.listedDirectories,
    ".." ∉ Scope.directorySegments directory

instance (c : Config) : Decidable c.ListsNoParent :=
  inferInstanceAs (Decidable (∀ layer ∈ c.layers, ∀ entry ∈ layer.collectors,
    ∀ directory ∈ entry.listedDirectories, ".." ∉ Scope.directorySegments directory))

end Config

/-! ### Roots -/

namespace Snapshot

variable {s s' : Snapshot}

/-- A walk to a directory goes through directories only. -/
theorem Leads.of_same_directories (hdirectories : ∀ p, s.isDirectory p = s'.isDirectory p)
    {here place : Place} {path : List String} (h : s.Leads here path place)
    (hplace : s.isDirectory place) : s'.Leads here path place := by
  induction h with
  | arrived => exact .arrived
  | stay hdir hname _ ih => exact .stay (hdirectories _ ▸ hdir) hname (ih hplace)
  | up hdir _ ih => exact .up (hdirectories _ ▸ hdir) (ih hplace)
  | @down here place name rest node hdir hname _ _ hrest ih =>
    have hnext : s'.isDirectory (here ++ [name]) :=
      hdirectories (here ++ [name]) ▸ hrest.isDirectory hplace
    have hget : s'.get? (here ++ [name]) = some .directory := by
      simpa [Snapshot.isDirectory] using hnext
    exact .down (hdirectories here ▸ hdir) hname hget (by simp) (ih hplace)

theorem place?_of_same_directories (hlinks : s.LinkFree []) (hworking : s.working = s'.working)
    (hdirectories : ∀ p, s.isDirectory p = s'.isDirectory p) {p : Path} {place : Place}
    (h : s.place? p = some place) (hplace : s.isDirectory place) : s'.place? p = some place := by
  have hresolve (here : Place) (path : List String)
      (h : (s.resolve? maxLinks here path).map Prod.fst = some place) :
      (s'.resolve? maxLinks here path).map Prod.fst = some place := by
    obtain ⟨⟨found, left⟩, hfound, rfl⟩ := Option.map_eq_some_iff.1 h
    have hleads : s.Leads here path found :=
      leads_of_resolve? (hlinks.append here) (fun _ => hlinks) hfound
    rw [(hleads.of_same_directories hdirectories hplace).resolve? maxLinks]
    rfl
  obtain ⟨⟨first, segments⟩, hstart, h⟩ := Option.bind_eq_some_iff.1 h
  rw [place?, ← hworking, hstart]
  exact hresolve first segments h

/-- The text of a file and the path it is read from say what its facts are. -/
theorem facts_congr {p : Place} {text : Option String} (h : s.get? p = some (.file text))
    (h' : s'.get? p = some (.file text)) : s.facts (.ofNames p) = s'.facts (.ofNames p) := by
  simp only [facts, module, node?_ofNames h (by simp), node?_ofNames h' (by simp)]

end Snapshot

namespace Config.Alike

variable {c : Config} {s s' : Snapshot} {scope : Scope} (h : c.Alike s s')
include h

theorem rootsOf_eq (paths : List Path) : Scope.rootsOf s paths = Scope.rootsOf s' paths := by
  have hplace (p : Path) :
      (s.place? p).filter s.isDirectory = (s'.place? p).filter s'.isDirectory := by
    refine Option.ext fun place => ?_
    simp only [Option.filter_eq_some_iff]
    constructor
    · rintro ⟨hp, hdir⟩
      exact ⟨Snapshot.place?_of_same_directories h.linkFree h.working h.directories hp hdir,
        h.directories place ▸ hdir⟩
    · rintro ⟨hp, hdir⟩
      exact ⟨Snapshot.place?_of_same_directories h.linkFree' h.working.symm h.symm.directories hp hdir,
        h.symm.directories place ▸ hdir⟩
  simp only [Scope.rootsOf, List.filter_filterMap, hplace]

theorem make_eq (exclude : List String) :
    Scope.make s c.paths exclude = Scope.make s' c.paths exclude := by
  rw [Scope.make, Scope.make, h.rootsOf_eq]

/-! ### What is collected -/

/-- A file that an analysis takes a definition from is the same in both snapshots. -/
theorem get?_eq (hscope : Scope.make s c.paths c.excludeFiles = .ok scope) {own : Option Pattern}
    {root names : Place} {text : Option String} (hroot : root ∈ scope.roots)
    (hget : s.get? (root ++ names) = some (.file text))
    (hpy : Snapshot.endsInPy (names.getLastD ""))
    (hadmitted : scope.isExcluded own (Segments.join '/' names) = false) {d : Definition}
    (hd : d ∈ (s.facts (.ofNames (root ++ names))).definitions) :
    s'.get? (root ++ names) = some (.file text) := by
  obtain ⟨hpatterns, hroots⟩ := Scope.make_eq_ok.1 hscope
  -- A file that differs is inert, and each way to be inert is at odds with taking `d` from it.
  by_contra hne
  have hdiffers : s.get? (root ++ names) ≠ s'.get? (root ++ names) := by
    rw [hget]
    exact Ne.symm hne
  cases h.inert _ _ hget hdiffers with
  | otherName hname =>
    have hlast : (root ++ names).getLastD "" = names.getLastD "" := by
      simp [List.getLast?_eq_some_getLast (Snapshot.ne_nil_of_endsInPy hpy)]
    rw [hlast, hpy] at hname
    contradiction
  | excluded hexcluded =>
    obtain ⟨raw, hraw, pattern, hpattern, hmatch⟩ := hexcluded root (hroots ▸ hroot) names rfl
    have hmem : pattern ∈ scope.exclude :=
      (Except.mem_of_mapM_eq_ok hpatterns).2 ⟨raw, hraw, Config.searching_eq_ok.2 hpattern⟩
    have hfound : scope.exclude.any (·.isMatch (Segments.join '/' names)) :=
      List.any_eq_true.2 ⟨pattern, hmem, hmatch⟩
    simp [Scope.isExcluded, hfound] at hadmitted
  | noModule hmodule => simp [Snapshot.facts, hmodule] at hd

theorem mem_leaf_collect (hscope : Scope.make s c.paths c.excludeFiles = .ok scope) {l : Leaf}
    (hup : ∀ directory ∈ l.directories, ".." ∉ Scope.directorySegments directory) {e : Element}
    (he : e ∈ l.collect scope s s.facts) :
    e ∈ l.collect scope s' s'.facts ∧ s.facts e.file = s'.facts e.file := by
  obtain ⟨f, hf, d, hd, hadmits, rfl⟩ := Leaf.mem_collect.1 he
  obtain ⟨root, names, htakes, rfl⟩ :=
    (Leaf.mem_files_of_linkFree (fun root _ => h.linkFree.append root) hup).1 hf
  obtain ⟨text, hget⟩ := htakes.file
  have hget' := h.get?_eq hscope htakes.root_mem hget
    (Leaf.Test.endsInPy_of_isSource htakes.source) htakes.admitted hd
  have hfacts := Snapshot.facts_congr hget hget'
  have hfile := (Leaf.mem_files_of_linkFree (fun root _ => h.linkFree'.append root) hup).2
    ⟨root, names, { htakes with file := ⟨text, hget'⟩ }, rfl⟩
  exact ⟨Leaf.mem_collect.2 ⟨_, hfile, d, hfacts ▸ hd, hadmits, rfl⟩, hfacts⟩

theorem mem_universe (hscope : Scope.make s c.paths c.excludeFiles = .ok scope) {e : Element}
    (he : e ∈ scope.universe s s.facts) :
    e ∈ scope.universe s' s'.facts ∧ s.facts e.file = s'.facts e.file := by
  obtain ⟨f, hf, d, hd, rfl⟩ := Scope.mem_universe.1 he
  obtain ⟨root, hroot, names, hnames, hadmitted, rfl⟩ := Scope.mem_files.1 hf
  obtain ⟨hpython, text, hget⟩ := Snapshot.mem_pythonFiles.1 hnames
  have hget' := h.get?_eq hscope hroot hget (Snapshot.isPythonName_iff.1 hpython).1 hadmitted hd
  have hfacts := Snapshot.facts_congr hget hget'
  have hfile := Scope.mem_files.2
    ⟨root, hroot, names, Snapshot.mem_pythonFiles.2 ⟨hpython, text, hget'⟩, hadmitted, rfl⟩
  exact ⟨Scope.mem_universe.2 ⟨_, hfile, d, hfacts ▸ hd, rfl⟩, hfacts⟩

/-- Every collector collects the same in both snapshots. -/
theorem collect_eq (hscope : Scope.make s c.paths c.excludeFiles = .ok scope) {k : Collector}
    (hup : ∀ directory ∈ k.directories, ".." ∉ Scope.directorySegments directory) :
    k.collect scope s s.facts = k.collect scope s' s'.facts := by
  have hscope' : Scope.make s' c.paths c.excludeFiles = .ok scope := h.make_eq _ ▸ hscope
  refine OrderedSet.ext fun e => ?_
  have huniverse : e ∈ scope.universe s s.facts ↔ e ∈ scope.universe s' s'.facts :=
    ⟨fun he => (h.mem_universe hscope he).1, fun he => (h.symm.mem_universe hscope' he).1⟩
  induction k with
  | leaf l =>
    have hup : ∀ directory ∈ l.directories, ".." ∉ Scope.directorySegments directory := by
      simpa [Collector.directories, Collector.leaves] using hup
    exact ⟨fun he => (h.mem_leaf_collect hscope hup he).1,
      fun he => (h.symm.mem_leaf_collect hscope' hup he).1⟩
  | bool must anyOf mustNot hmust hanyOf hmustNot =>
    have hpart (k : Collector) (hk : k ∈ must ++ anyOf ++ mustNot) :
        ∀ directory ∈ k.directories, ".." ∉ Scope.directorySegments directory :=
      fun directory hd => hup directory (Collector.mem_directories_bool.2 ⟨k, hk, hd⟩)
    refine Collector.mem_collect_bool_congr (fun _ _ => huniverse)
      (.of_forall fun k hk => ?_) (.of_forall fun k hk => ?_) (.of_forall fun k hk => ?_)
    · exact hmust k hk (hpart k (by simp [hk]))
    · exact hanyOf k hk (hpart k (by simp [hk]))
    · exact hmustNot k hk (hpart k (by simp [hk]))

/-- Whatever is collected stands in a file with the same facts in both snapshots. -/
theorem facts_eq (hscope : Scope.make s c.paths c.excludeFiles = .ok scope) {k : Collector}
    (hup : ∀ directory ∈ k.directories, ".." ∉ Scope.directorySegments directory) {e : Element}
    (he : e ∈ k.collect scope s s.facts) : s.facts e.file = s'.facts e.file := by
  have hleaf (l : Leaf) (hl : l ∈ k.leaves) :
      ∀ directory ∈ l.directories, ".." ∉ Scope.directorySegments directory :=
    fun directory hd => hup directory (List.mem_flatMap.2 ⟨l, hl, hd⟩)
  exact Collector.of_mem_collect (fun l hl x hx => (h.mem_leaf_collect hscope (hleaf l hl) hx).2)
    (fun x hx => (h.mem_universe hscope hx).2) he

/-! ### Analyses -/

section Layers

variable (hc : c.ListsNoParent) (hscope : Scope.make s c.paths c.excludeFiles = .ok scope)
include hc

omit h in
theorem not_mem_directorySegments {layer : LayerEntry} (hlayer : layer ∈ c.layers)
    {entry : CollectorEntry} (hentry : entry ∈ layer.collectors) {k : Collector}
    (hk : Collector.build entry = .ok k) :
    ∀ directory ∈ k.directories, ".." ∉ Scope.directorySegments directory := by
  have hlisted : entry.listedDirectories = k.directories := by
    simp [CollectorEntry.listedDirectories, hk]
  exact hlisted ▸ hc layer hlayer entry hentry

include hscope

theorem filled_eq {layer : LayerEntry} (hlayer : layer ∈ c.layers) :
    Layers.filled scope s layer = Layers.filled scope s' layer := by
  unfold Layers.filled
  cases hbuild : layer.collectors.mapM Collector.build with
  | error e => rfl
  | ok ks =>
    have hcollect : ∀ k ∈ ks, k.collect scope s s.facts = k.collect scope s' s'.facts := by
      intro k hk
      obtain ⟨entry, hentry, hk⟩ := (Except.mem_of_mapM_eq_ok hbuild).1 hk
      exact h.collect_eq hscope (not_mem_directorySegments hc hlayer hentry hk)
    have hfill : Layers.fill scope s s.facts layer.name ks =
        Layers.fill scope s' s'.facts layer.name ks := by
      rw [Layers.fill, Layers.fill, Collector.collectEach_eq_map, Collector.collectEach_eq_map,
        List.map_congr_left hcollect]
    exact congrArg Except.ok hfill

theorem dependencies_eq {layers : List Layer}
    (hlayers : c.layers.mapM (Layers.filled scope s) = .ok layers) :
    (Layers.ofLayers layers).dependencies s = (Layers.ofLayers layers).dependencies s' := by
  refine Analysis.edges_congr fun e he => ?_
  obtain ⟨l, hl, he⟩ :=
    (Layers.mem_elements_ofLayers (Layers.isCanonical_of_mapM_filled hlayers)).1 he
  obtain ⟨layer, hlayer, hfilled⟩ := (Except.mem_of_mapM_eq_ok hlayers).1 hl
  obtain ⟨entry, hentry, k, hk, he⟩ :=
    LayerEntry.collects_iff.1 (((Layers.filled_spec hfilled).2.2 e).1 he)
  exact h.facts_eq hscope (not_mem_directorySegments hc hlayer hentry hk) he

end Layers

theorem subject_eq (hc : c.ListsNoParent) : Analysis.subject s c = Analysis.subject s' c := by
  rw [Analysis.subject_eq, Analysis.subject_eq, ← h.make_eq]
  refine congrArg _ (funext fun rules => ?_)
  cases hscope : Scope.make s c.paths c.excludeFiles with
  | error e => rfl
  | ok scope =>
    have hfilled : c.layers.mapM (Layers.filled scope s) = c.layers.mapM (Layers.filled scope s') :=
      Except.mapM_congr fun layer hlayer => h.filled_eq hc hscope hlayer
    change (c.layers.mapM (Layers.filled scope s) >>= _) =
      (c.layers.mapM (Layers.filled scope s') >>= _)
    rw [← hfilled]
    cases hlayers : c.layers.mapM (Layers.filled scope s) with
    | error e => rfl
    | ok layers =>
      -- The layers are the same by now; the dependencies still name the snapshot.
      change Except.ok (Analysis.Subject.mk rules (.ofLayers layers) _) = Except.ok ⟨_, _, _⟩
      rw [h.dependencies_eq hc hscope hlayers]

end Config.Alike

/-! ### One more file -/

namespace Snapshot

section File

variable {s : Snapshot} {p : Place} {text : Option String} (h : s.admits p (.file text))
include h

theorem linkFree_set (hlinks : s.LinkFree []) : (s.set p (.file text)).LinkFree [] := by
  intro names target
  rw [get?_set h]
  split
  · simp
  · exact hlinks names target

theorem eq_of_get?_set_ne {q : Place} (hne : s.get? q ≠ (s.set p (.file text)).get? q) : q = p := by
  by_contra hq
  rw [get?_set h, if_neg hq] at hne
  exact hne rfl

end File

end Snapshot

/-- Putting an inert file into a directory, or in the place of another inert file. -/
theorem Config.alike_set {c : Config} {s : Snapshot} {p : Place} {text : Option String}
    (hlinks : s.LinkFree []) (hadmits : s.admits p (.file text))
    (hold : ∀ found, s.get? p = some (.file found) → c.Inert s p)
    (hnew : c.Inert (s.set p (.file text)) p) : c.Alike s (s.set p (.file text)) where
  working := (Snapshot.working_set s p _).symm
  linkFree := hlinks
  linkFree' := Snapshot.linkFree_set hadmits hlinks
  directories q := (Snapshot.isDirectory_set hadmits q).symm
  inert q found hfile hne := by
    obtain rfl := Snapshot.eq_of_get?_set_ne hadmits hne
    exact hold found hfile
  inert' q found _ hne := by
    obtain rfl := Snapshot.eq_of_get?_set_ne hadmits hne
    exact hnew

theorem Config.inert_set {c : Config} {s : Snapshot} {p : Place} {text : String}
    (hadmits : s.admits p (.file (some text))) (htext : (Syntax.parse text).isOk = false) :
    c.Inert (s.set p (.file (some text))) p := by
  have hnode := Snapshot.node?_ofNames ((Snapshot.get?_set hadmits).trans (if_pos rfl)) (by simp)
  cases hparse : Syntax.parse text with
  | ok m => simp [hparse, Except.isOk, Except.toBool] at htext
  | error e =>
    have hmodule : (s.set p (.file (some text))).module (.ofNames p) =
        .error (.malformed (.ofNames p) e.line) := by
      simp [Snapshot.module, hnode, parseSource, hparse, bind, Except.bind]
    exact .noModule hmodule

/-- Analyses of two snapshots that differ in inert files only have the same outcome. In particular it
does not matter whether a directory has one more file that is no module. -/
theorem Analysis.run_eq_of_alike {c : Config} (hc : c.ListsNoParent) :
    (∀ s s' : Snapshot, c.Alike s s' → run s c = run s' c) ∧
      ∀ (s : Snapshot) (directory : Place) (name text : String), s.LinkFree [] →
        s.isDirectory directory → isEntryName name → s.get? (directory ++ [name]) = none →
        (Syntax.parse text).isOk = false →
        run (s.set (directory ++ [name]) (.file (some text))) c = run s c := by
  have hrun (s s' : Snapshot) (h : c.Alike s s') : run s c = run s' c := by
    rw [run, run, h.subject_eq hc]
  refine ⟨hrun, fun s directory name text hlinks hdirectory hname hfree htext => ?_⟩
  have hadmits : s.admits (directory ++ [name]) (.file (some text)) := by
    have hnone : s.isDirectory (directory ++ [name]) = false := by simp [Snapshot.isDirectory, hfree]
    simp [Snapshot.admits, hname, hdirectory, hnone]
  refine (hrun _ _ (Config.alike_set hlinks hadmits ?_ (Config.inert_set hadmits htext))).symm
  intro found hfound
  rw [hfree] at hfound
  contradiction

namespace Bystander

/-- A project with one class and a file that cannot be decoded. -/
def snapshot : Snapshot :=
  ((({} : Snapshot).set ["p"] .directory).set ["p", "a.py"]
    (.file (some "class A: pass\n"))).set ["p", "raw.py"] (.file none)

/-- Everything but classes named `Z` is in one layer, and names of classes have to start with `B`. -/
def config : Config where
  paths := [⟨"/p"⟩]
  excludeFiles := ["gen"]
  layers := [⟨"all", [⟨"bool", .ofList [("must_not", .list [
    .object [("type", .text "class_name_regex"), ("class_name_regex", .text "Z")]])]⟩]⟩]
  ruleset := .ofList [("all", { classNaming := some "B" })]

theorem linkFree : snapshot.LinkFree [] :=
  Snapshot.linkFree_of_forall_entries (by decide +kernel) []

/-- One more file, which the configuration leaves out. -/
theorem alike_excluded :
    config.Alike snapshot (snapshot.set ["p", "gen.py"] (.file (some "class C: pass\n"))) := by
  have hroots : Scope.rootsOf (snapshot.set ["p", "gen.py"] (.file (some "class C: pass\n")))
      config.paths = [["p"]] := by
    decide +kernel
  refine Config.alike_set linkFree (by decide +kernel) (fun found hfound => ?_) (.excluded ?_)
  · have hnone : snapshot.get? ["p", "gen.py"] = none := by decide +kernel
    rw [hnone] at hfound
    contradiction
  · intro root hroot names hnames
    rw [hroots, List.mem_singleton] at hroot
    subst hroot
    obtain rfl : names = ["gen.py"] := by simpa using hnames.symm
    have hmatch : (Pattern.searching? "gen").any (·.isMatch (Segments.join '/' ["gen.py"])) := by
      decide +kernel
    obtain ⟨pattern, hpattern, hmatch⟩ := (Option.any_eq_true _ _).1 hmatch
    exact ⟨"gen", by simp [config], pattern, hpattern, hmatch⟩

theorem run_eq_of_bystander :
    (Analysis.run snapshot config).toOption.map (fun r => (r.elementsChecked, r.violations.size)) =
      some (1, 1) ∧
    Analysis.run snapshot config =
      Analysis.run (snapshot.set ["p", "gen.py"] (.file (some "class C: pass\n"))) config ∧
    Analysis.run (snapshot.set ["p", "broken.py"] (.file (some "class B(:\n"))) config =
      Analysis.run snapshot config := by
  have hconfig : config.ListsNoParent := by decide +kernel
  obtain ⟨hrun, hadded⟩ := Analysis.run_eq_of_alike hconfig
  refine ⟨by decide +kernel, hrun _ _ alike_excluded, ?_⟩
  exact hadded snapshot ["p"] "broken.py" "class B(:\n" linkFree (by decide +kernel)
    (by decide +kernel) (by decide +kernel) (by decide +kernel)

end Bystander

end LayerCheck
