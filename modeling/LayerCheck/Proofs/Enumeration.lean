import LayerCheck.Proofs.Build
import LayerCheck.Proofs.ByteOrder
import LayerCheck.Proofs.Collector

/-!
The files of a scope, root by root. The walk below a root finds every Python file there once, those
that are left out apart, and goes through them in the order of the bytes of their names, in whatever
order the system lists the entries of directories.
-/

namespace LayerCheck

/-! ### Extensions -/

theorem Snapshot.isPythonName_iff_exists {name : String} :
    isPythonName name ↔ ∃ before, before ≠ [] ∧ name.toList = before ++ ['.', 'p', 'y'] := by
  rw [isPythonName_iff, endsInPy, List.isSuffixOf_iff_suffix]
  constructor
  · rintro ⟨⟨before, hbefore⟩, hname⟩
    refine ⟨before, ?_, hbefore.symm⟩
    rintro rfl
    exact hname (String.toList_inj.1 hbefore.symm)
  · rintro ⟨before, hne, hname⟩
    refine ⟨⟨before, hname.symm⟩, ?_⟩
    rintro rfl
    have hlength := congrArg List.length hname
    simp at hlength
    exact hne hlength

namespace Path

theorem fileName?_ofNames {p : Place} {name : String} (h : Place.Named (p ++ [name])) :
    (ofNames (p ++ [name])).fileName? = some name := by
  have hlast : (ofNames (p ++ [name])).components.getLast? = some (.name name) := by
    rw [components_ofNames h, List.map_append, List.map_singleton, ← List.cons_append,
      List.getLast?_concat]
  simp [fileName?, hlast]

/-- The extension is what stands behind the last dot, if there is something before that dot. -/
theorem extension?_of_splitChars {p : Path} {name : String} (hname : p.fileName? = some name)
    {words : List (List Char)} {w : List Char}
    (hsplit : Segments.splitChars '.' name.toList = words ++ [w]) :
    p.extension? = if words = [] ∨ words = [[]] then none else some (String.ofList w) := by
  have hparts : Segments.split '.' name = words.map String.ofList ++ [String.ofList w] := by
    simp [Segments.split, hsplit]
  have hempty : words.map String.ofList = [""] ↔ words = [[]] := by
    simp [List.map_eq_singleton_iff]
  have hlength : (words.map String.ofList ++ [String.ofList w]).length < 2 ↔ words = [] := by
    rw [← List.length_eq_zero_iff, List.length_append, List.length_map, List.length_singleton]
    omega
  simp only [extension?, hname, Option.bind_eq_bind, Option.bind_some, hparts, hlength,
    List.dropLast_concat, hempty, List.getLast?_concat]

/-- Python files are those with the extension `py`. -/
theorem extension?_ofNames_eq_py_iff {p : Place} {name : String} (h : Place.Named (p ++ [name])) :
    (ofNames (p ++ [name])).extension? = some "py" ↔ Snapshot.isPythonName name := by
  obtain ⟨words, w, hsplit⟩ : ∃ words w, Segments.splitChars '.' name.toList = words ++ [w] :=
    (List.eq_nil_or_concat' _).resolve_left (Segments.splitChars_ne_nil '.' name.toList)
  have hpy : '.' ∉ ['p', 'y'] := by decide
  rw [extension?_of_splitChars (fileName?_ofNames h) hsplit, Snapshot.isPythonName_iff_exists]
  constructor
  · intro hsome
    split at hsome
    · contradiction
    rename_i hwords
    obtain ⟨hne, hone⟩ := not_or.1 hwords
    obtain rfl : w = ['p', 'y'] := String.ofList_inj.1 (Option.some.inj hsome)
    obtain ⟨before, hbefore, hname⟩ := (Segments.splitChars_eq_concat_iff hpy hne).1 hsplit
    refine ⟨before, ?_, hname⟩
    rintro rfl
    exact hone hbefore.symm
  · rintro ⟨before, hbefore, hname⟩
    have hwords : Segments.splitChars '.' name.toList =
        Segments.splitChars '.' before ++ [['p', 'y']] := by
      rw [hname, Segments.splitChars_append_cons, Segments.splitChars_of_not_mem hpy]
    obtain ⟨rfl, hw⟩ := List.append_inj' (hsplit.symm.trans hwords) rfl
    have hone : Segments.splitChars '.' before ≠ [[]] := by
      intro hone
      have hjoined := Segments.intercalate_splitChars '.' before
      rw [hone] at hjoined
      exact hbefore hjoined.symm
    rw [if_neg (not_or.2 ⟨Segments.splitChars_ne_nil '.' before, hone⟩), List.head_eq_of_cons_eq hw]

end Path

theorem Snapshot.mem_pythonFiles_iff_extension {s : Snapshot} {list : s.Listing}
    {root names : Place} :
    names ∈ s.pythonFiles root list ↔ names ≠ [] ∧ (∃ text, s.get? (root ++ names) = some (.file text)) ∧
      (Path.ofNames (root ++ names)).extension? = some "py" := by
  have hextension (text : Option String) (hne : names ≠ [])
      (hget : s.get? (root ++ names) = some (.file text)) :
      (Path.ofNames (root ++ names)).extension? = some "py" ↔
        isPythonName (names.getLastD "") := by
    obtain ⟨here, name, rfl⟩ := (List.eq_nil_or_concat' names).resolve_left hne
    have hnamed := named_of_get? hget
    rw [← List.append_assoc] at hnamed ⊢
    rw [Path.extension?_ofNames_eq_py_iff hnamed]
    simp
  rw [mem_pythonFiles]
  constructor
  · rintro ⟨hpython, text, hget⟩
    have hne : names ≠ [] := ne_nil_of_endsInPy (isPythonName_iff.1 hpython).1
    exact ⟨hne, ⟨text, hget⟩, (hextension text hne hget).2 hpython⟩
  · rintro ⟨hne, ⟨text, hget⟩, hpython⟩
    exact ⟨(hextension text hne hget).1 hpython, text, hget⟩

/-! ### The order of a walk

The entries of each directory are sorted among themselves. A walk then meets all that lies below in the
order of whole paths, since two paths differ first at names that are siblings.
-/

theorem compare_append_left (base p q : Place) : compare (base ++ p) (base ++ q) = compare p q := by
  induction base with
  | nil => rfl
  | cons name base ih =>
    calc compare (name :: (base ++ p)) (name :: (base ++ q))
        = (compare name name).then (compare (base ++ p) (base ++ q)) := List.compareLex_cons_cons
      _ = compare p q := by rw [Std.ReflOrd.compare_self, ih]; rfl

theorem compare_cons_of_lt {name name' : String} (h : compare name name' = .lt) (p q : Place) :
    compare (name :: p) (name' :: q) = .lt := by
  calc compare (name :: p) (name' :: q)
      = (compare name name').then (compare p q) := List.compareLex_cons_cons
    _ = .lt := by rw [h]; rfl

namespace Snapshot

variable {s : Snapshot}

theorem pairwise_insertEntry (e : String × FileNode) {l : List (String × FileNode)}
    (h : l.Pairwise fun x y => compare x.1 y.1 ≠ .gt) :
    (insertEntry e l).Pairwise fun x y => compare x.1 y.1 ≠ .gt := by
  induction l with
  | nil => simp [insertEntry]
  | cons f rest ih =>
    obtain ⟨hf, hrest⟩ := List.pairwise_cons.1 h
    rw [insertEntry]
    split
    · rename_i hgt
      refine List.pairwise_cons.2 ⟨fun x hx => ?_, ih hrest⟩
      rcases List.mem_cons.1 ((perm_insertEntry e rest).mem_iff.1 hx) with rfl | hx
      · rw [Std.OrientedCmp.lt_of_gt hgt]
        decide
      · exact hf x hx
    · rename_i hle
      refine List.pairwise_cons.2 ⟨fun x hx => ?_, h⟩
      rcases List.mem_cons.1 hx with rfl | hx
      · exact hle
      · have := Std.TransCmp.isLE_trans (Ordering.isLE_iff_ne_gt.2 hle)
          (Ordering.isLE_iff_ne_gt.2 (hf x hx))
        exact Ordering.isLE_iff_ne_gt.1 this

theorem pairwise_sortEntries (l : List (String × FileNode)) :
    (sortEntries l).Pairwise fun x y => compare x.1 y.1 ≠ .gt := by
  induction l with
  | nil => exact .nil
  | cons e rest ih => exact pairwise_insertEntry e ih

/-- No two entries of a directory have one name. -/
theorem pairwise_ne_entriesIn (s : Snapshot) (base : Place) :
    (s.entriesIn base).Pairwise fun x y => x.1 ≠ y.1 := by
  refine List.pairwise_filterMap.2 (s.nodes.increasing.imp fun {x y} hlt a ha b hb heq => ?_)
  obtain ⟨name, hx, rfl⟩ := Option.map_eq_some_iff.1 ha
  obtain ⟨name', hy, rfl⟩ := Option.map_eq_some_iff.1 hb
  obtain rfl : name = name' := heq
  rw [nameIn?_eq_some_iff.1 hx, nameIn?_eq_some_iff.1 hy, Std.ReflOrd.compare_self] at hlt
  contradiction

/-- However a directory is listed, its entries are sorted by distinct names. -/
theorem pairwise_siblings (list : s.Listing) (base : Place) :
    (sortEntries (list.entries base)).Pairwise fun x y => compare x.1 y.1 = .lt := by
  have hperm : (sortEntries (list.entries base)).Perm (s.entriesIn base) :=
    (perm_sortEntries _).trans (list.perm base)
  have hne : (sortEntries (list.entries base)).Pairwise fun x y => x.1 ≠ y.1 :=
    (hperm.pairwise_iff fun h => h.symm).2 (s.pairwise_ne_entriesIn base)
  refine ((pairwise_sortEntries _).and hne).imp fun {x y} h => ?_
  cases hcompare : compare x.1 y.1 with
  | lt => rfl
  | eq => exact absurd (Std.LawfulEqOrd.eq_of_compare hcompare) h.2
  | gt => exact absurd hcompare h.1

/-- What the walk takes from one entry starts with the name of it. -/
theorem exists_cons_of_mem_walk_entry {name : String} {node found : FileNode} {names : List String}
    {inside : List (List String × FileNode)}
    (h : (names, found) ∈ ([name], node) :: inside.map fun (names, found) => (name :: names, found)) :
    ∃ rest, names = name :: rest := by
  rcases List.mem_cons.1 h with heq | h
  · exact ⟨[], (Prod.mk.inj heq).1⟩
  · obtain ⟨⟨rest, _⟩, -, heq⟩ := List.mem_map.1 h
    exact ⟨rest, (Prod.mk.inj heq).1.symm⟩

/-- A walk that sorts siblings only meets everything in the order of whole paths. -/
theorem pairwise_walk (list : s.Listing) (depth : Nat) (base : Place) :
    (walk list depth base).Pairwise fun x y => compare x.1 y.1 = .lt := by
  induction depth generalizing base with
  | zero => exact .nil
  | succ depth ih =>
    rw [walk]
    refine List.pairwise_flatMap.2 ⟨?_, ?_⟩
    · rintro ⟨name, node⟩ -
      -- The entry comes before what is inside it, and the names inside go on from its own.
      refine List.pairwise_cons.2 ⟨?_, List.pairwise_map.2 ?_⟩
      · rintro ⟨names, found⟩ hmem
        obtain ⟨⟨rest, found'⟩, hinside, heq⟩ := List.mem_map.1 hmem
        obtain ⟨rfl, rfl⟩ := Prod.mk.inj heq
        split at hinside
        · obtain ⟨hne, -⟩ := mem_walk.1 hinside
          cases rest with
          | nil => contradiction
          | cons next more => exact compare_append_left [name] [] (next :: more)
        · contradiction
      · split
        · refine (ih (base ++ [name])).imp fun {x y} hlt => ?_
          rwa [← compare_append_left [name]] at hlt
        · exact .nil
    · refine (pairwise_siblings list base).imp ?_
      rintro ⟨name, node⟩ ⟨name', node'⟩ hlt ⟨names, found⟩ hx ⟨names', found'⟩ hy
      obtain ⟨rest, rfl⟩ := exists_cons_of_mem_walk_entry hx
      obtain ⟨rest', rfl⟩ := exists_cons_of_mem_walk_entry hy
      exact compare_cons_of_lt hlt rest rest'

theorem pairwise_pythonFiles (list : s.Listing) (base : Place) :
    (s.pythonFiles base list).Pairwise fun p q => compare p q = .lt := by
  refine List.pairwise_filterMap.2
    ((pairwise_walk list s.height base).imp fun {x y} hlt p hp q hq => ?_)
  obtain ⟨p', node⟩ := x
  obtain ⟨q', node'⟩ := y
  cases node with
  | file text =>
    cases node' with
    | file text' =>
      obtain ⟨-, rfl⟩ : isPythonName (p'.getLastD "") ∧ p' = p := by simpa using hp
      obtain ⟨-, rfl⟩ : isPythonName (q'.getLastD "") ∧ q' = q := by simpa using hq
      exact hlt
    | directory => simp at hq
    | link target => simp at hq
  | directory => simp at hp
  | link target => simp at hp

end Snapshot

/-! ### The order of the roots -/

theorem idxOf_lt_of_idxOf_filter_lt {α : Type} [BEq α] [LawfulBEq α] {p : α → Bool} {a b : α}
    {l : List α} (hb : b ∈ l.filter p)
    (h : (l.filter p).idxOf a < (l.filter p).idxOf b) : l.idxOf a < l.idxOf b := by
  induction l with
  | nil => simp at hb
  | cons x l ih =>
    by_cases hx : p x
    · rw [List.filter_cons_of_pos hx] at h hb
      by_cases hbx : b = x
      · simp [hbx] at h
      · have hb : b ∈ l.filter p := (List.mem_cons.1 hb).resolve_left hbx
        by_cases hax : a = x
        · simp [hax, List.idxOf_cons_ne l (Ne.symm hbx)]
        · rw [List.idxOf_cons_ne _ (Ne.symm hax), List.idxOf_cons_ne _ (Ne.symm hbx)] at h ⊢
          have := ih hb (by omega)
          omega
    · rw [List.filter_cons_of_neg hx] at h hb
      have hbx : x ≠ b := fun hxb => hx (hxb ▸ (List.mem_filter.1 hb).2)
      by_cases hax : a = x
      · simp [hax, List.idxOf_cons_ne l hbx]
      · rw [List.idxOf_cons_ne _ (Ne.symm hax), List.idxOf_cons_ne _ hbx]
        have := ih hb h
        omega

/-- Without its repetitions a list goes on in the order in which things first occur. -/
theorem pairwise_idxOf_eraseDups {α : Type} [BEq α] [LawfulBEq α] (l : List α) :
    l.eraseDups.Pairwise fun a b => l.idxOf a < l.idxOf b := by
  induction hn : l.length using Nat.strongRecOn generalizing l with
  | ind n ih =>
    cases l with
    | nil => simp
    | cons x l =>
      rw [List.eraseDups_cons]
      refine List.pairwise_cons.2 ⟨fun b hb => ?_, ?_⟩
      · have hbx : b ≠ x := by simpa using (List.mem_filter.1 (List.mem_eraseDups.1 hb)).2
        simp [List.idxOf_cons_ne l (Ne.symm hbx)]
      · have hlength : (l.filter fun b => !b == x).length < n := by
          have := List.length_filter_le (fun b => !b == x) l
          rw [← hn, List.length_cons]
          omega
        refine (ih _ hlength _ rfl).imp_of_mem fun {a b} ha hb hlt => ?_
        have hax : a ≠ x := by simpa using (List.mem_filter.1 (List.mem_eraseDups.1 ha)).2
        have hbx : b ≠ x := by simpa using (List.mem_filter.1 (List.mem_eraseDups.1 hb)).2
        rw [List.idxOf_cons_ne _ (Ne.symm hax), List.idxOf_cons_ne _ (Ne.symm hbx)]
        exact Nat.succ_lt_succ (idxOf_lt_of_idxOf_filter_lt (List.mem_eraseDups.1 hb) hlt)

theorem Scope.pairwise_rootsOf (s : Snapshot) (paths : List Path) :
    (rootsOf s paths).Pairwise fun root root' =>
      (paths.filterMap s.place?).idxOf root < (paths.filterMap s.place?).idxOf root' := by
  refine (pairwise_idxOf_eraseDups _).imp_of_mem fun {_ _} _ hb hlt => ?_
  exact idxOf_lt_of_idxOf_filter_lt (List.mem_eraseDups.1 hb) hlt

/-! ### The files of a scope -/

/-- The components of a path as bytes. -/
def Path.bytes (p : Path) : List (List UInt8) :=
  p.components.map fun c => utf8 c.text

theorem Path.bytes_ofNames {p : Place} (h : p.Named) :
    (ofNames p).bytes = utf8 "/" :: p.map utf8 := by
  simp [bytes, components_ofNames h, Component.text, Function.comp_def]

namespace Scope

/-- A Python file lies at `names` below a root, and no pattern leaves it out: none of `exclude` is
found in its relative path, and `own` does not match at the start of it. -/
structure Lists (s : Snapshot) (exclude : List String) (own : Option String) (root names : Place) :
    Prop where
  below : names ≠ []
  file : ∃ text, s.get? (root ++ names) = some (.file text)
  python : (Path.ofNames (root ++ names)).extension? = some "py"
  exclude : ∀ raw ∈ exclude, ∀ p, Pattern.searching? raw = some p →
    p.isMatch (Segments.join '/' names) = false
  own : ∀ raw ∈ own, ∀ p, Pattern.matching? raw = some p →
    p.isMatch (Segments.join '/' names) = false

/-- The files below one root: all that are to be listed, each once, in the order of their paths. -/
structure Enumerates (s : Snapshot) (exclude : List String) (own : Option String) (root : Place)
    (files : List SourceFile) : Prop where
  mem_iff : ∀ f, f ∈ files ↔ ∃ names, Lists s exclude own root names ∧
    f = ⟨.ofNames (root ++ names), .ofNames root, Segments.join '/' names⟩
  nodup : files.Nodup
  increasing : files.Pairwise fun f g => f.path.bytes < g.path.bytes

variable {s : Snapshot} {scope : Scope} {exclude : List String} {own : Option String}
  {pattern : Option Pattern}

theorem isExcluded_eq_false_iff_forall (hexclude : exclude.mapM Config.searching = .ok scope.exclude)
    (hown : own.mapM Config.matching = .ok pattern) {relative : String} :
    scope.isExcluded pattern relative = false ↔
      (∀ raw ∈ exclude, ∀ p, Pattern.searching? raw = some p → p.isMatch relative = false) ∧
        ∀ raw ∈ own, ∀ p, Pattern.matching? raw = some p → p.isMatch relative = false := by
  have hglobal (p : Pattern) :
      p ∈ scope.exclude ↔ ∃ raw ∈ exclude, Pattern.searching? raw = some p := by
    simp only [Except.mem_of_mapM_eq_ok hexclude, Config.searching_eq_ok]
  have hlocal (p : Pattern) : p ∈ pattern ↔ ∃ raw ∈ own, Pattern.matching? raw = some p := by
    cases own with
    | none =>
      obtain rfl : none = pattern := Except.ok.inj hown
      simp
    | some raw =>
      obtain ⟨p', hp', rfl⟩ := Except.map_eq_ok.1 hown
      simp [← Config.matching_eq_ok, hp']
  simp only [isExcluded, Bool.or_eq_false_iff, List.any_eq_false, Option.any_eq_false,
    Bool.not_eq_true, ← Option.mem_def, hglobal, hlocal]
  grind

/-- The files of a scope below one of its roots. -/
def filesBelow (scope : Scope) (list : s.Listing) (own : Option Pattern) (root : Place) :
    List SourceFile :=
  (s.pythonFiles root list).filterMap fun names => scope.admit? own root names (root ++ names)

theorem pairwise_filesBelow (scope : Scope) (list : s.Listing) (own : Option Pattern)
    (root : Place) :
    (scope.filesBelow list own root).Pairwise fun f g => f.path.bytes < g.path.bytes := by
  refine List.pairwise_filterMap.2
    ((Snapshot.pairwise_pythonFiles list root).imp_of_mem fun {p q} hp hq hlt f hf g hg => ?_)
  obtain ⟨-, text, hp⟩ := Snapshot.mem_pythonFiles.1 hp
  obtain ⟨-, text', hq⟩ := Snapshot.mem_pythonFiles.1 hq
  obtain ⟨-, rfl⟩ := admit?_eq_some_iff.1 hf
  obtain ⟨-, rfl⟩ := admit?_eq_some_iff.1 hg
  rw [Path.bytes_ofNames (Snapshot.named_of_get? hp), Path.bytes_ofNames (Snapshot.named_of_get? hq)]
  rw [← compare_append_left root] at hlt
  exact List.Lex.cons (Place.map_utf8_lt hlt)

theorem enumerates_filesBelow (hexclude : exclude.mapM Config.searching = .ok scope.exclude)
    (hown : own.mapM Config.matching = .ok pattern) (list : s.Listing) (root : Place) :
    Enumerates s exclude own root (scope.filesBelow list pattern root) where
  mem_iff f := by
    simp only [filesBelow, List.mem_filterMap, Snapshot.mem_pythonFiles_iff_extension,
      admit?_eq_some_iff, isExcluded_eq_false_iff_forall hexclude hown]
    constructor
    · rintro ⟨names, ⟨hne, hfile, hpython⟩, ⟨hglobal, hlocal⟩, rfl⟩
      exact ⟨names, ⟨hne, hfile, hpython, hglobal, hlocal⟩, rfl⟩
    · rintro ⟨names, ⟨hne, hfile, hpython, hglobal, hlocal⟩, rfl⟩
      exact ⟨names, ⟨hne, hfile, hpython⟩, ⟨hglobal, hlocal⟩, rfl⟩
  nodup := by
    refine (pairwise_filesBelow scope list pattern root).imp fun {f g} hlt heq => ?_
    rw [heq] at hlt
    exact List.lt_irrefl _ hlt
  increasing := pairwise_filesBelow scope list pattern root

/-- The files of a scope are those of its roots, root after root, in whatever order directories are
listed. The roots are the directories that the paths lead to, each of them once, in the order in which
they first occur. -/
theorem files_eq_flatten_enumerations {paths : List Path} (hscope : make s paths exclude = .ok scope)
    (hown : own.mapM Config.matching = .ok pattern) (list : s.Listing) :
    (∀ root, root ∈ scope.roots ↔ (∃ p ∈ paths, s.place? p = some root) ∧ s.isDirectory root) ∧
      scope.roots.Pairwise (fun root root' =>
        (paths.filterMap s.place?).idxOf root < (paths.filterMap s.place?).idxOf root') ∧
      ∃ lists, List.Forall₂ (Enumerates s exclude own) scope.roots lists ∧
        scope.files s pattern list = lists.flatten := by
  obtain ⟨hexclude, hroots⟩ := make_eq_ok.1 hscope
  refine ⟨fun root => ?_, ?_, ?_⟩
  · rw [hroots]
    exact mem_rootsOf
  · rw [hroots]
    exact pairwise_rootsOf s paths
  · refine ⟨scope.roots.map (scope.filesBelow list pattern), ?_, List.flatMap_def⟩
    refine List.forall₂_map_right_iff.2 (List.forall₂_same.2 fun root _ => ?_)
    exact enumerates_filesBelow hexclude hown list root

end Scope

namespace Siblings

/-- A directory `a` beside files whose names start with it, among files that are not listed. -/
def snapshot : Snapshot :=
  [(["p", "a", "x.py"], FileNode.file none), (["p", "a.py"], .file none), (["p", "a-b.py"], .file none),
    (["p", "é.py"], .file none), (["p", ".py"], .file none), (["p", "link.py"], .link "a.py"),
    (["p", "d.py", "gen.py"], .file none), (["p", "tests", "t.py"], .file none),
    (["q", "my_tests.py"], .file none)].foldl (fun s (place, node) => s.put place node) {}

/-- Directories are listed backwards. -/
def backwards : snapshot.Listing :=
  ⟨fun base => (snapshot.entriesIn base).reverse, fun _ => List.reverse_perm _⟩

/-- One root is given twice, and one path leads to a file. -/
def paths : List Path := [⟨"/q/"⟩, ⟨"/p"⟩, ⟨"/p/a.py"⟩, ⟨"/q/../p/./"⟩, ⟨"/none"⟩]

theorem enumerated_beside_namesakes : ∃ scope pattern lists,
    Scope.make snapshot paths ["gen"] = .ok scope ∧
      (some "tests").mapM Config.matching = .ok pattern ∧ scope.roots = [["q"], ["p"]] ∧
      List.Forall₂ (Scope.Enumerates snapshot ["gen"] (some "tests")) scope.roots lists ∧
      lists.flatten.map (·.relative) = ["my_tests.py", "a/x.py", "a-b.py", "a.py", "é.py"] := by
  obtain ⟨pattern, hown, -⟩ : ∃ pattern, (some "tests").mapM Config.matching = .ok pattern ∧
      pattern.isSome := Except.exists_of_map_toOption (by decide +kernel)
  obtain ⟨scope, hscope, hvalue⟩ : ∃ scope, Scope.make snapshot paths ["gen"] = .ok scope ∧
      (scope.roots, ((some "tests").mapM Config.matching).toOption.map fun pattern =>
        (scope.files snapshot pattern backwards).map (·.relative)) =
      ([["q"], ["p"]], some ["my_tests.py", "a/x.py", "a-b.py", "a.py", "é.py"]) :=
    Except.exists_of_map_toOption (by decide +kernel)
  rw [hown] at hvalue
  obtain ⟨hroots, hfiles⟩ := Prod.mk.inj hvalue
  obtain ⟨-, -, lists, hlists, heq⟩ := Scope.files_eq_flatten_enumerations hscope hown backwards
  exact ⟨scope, pattern, lists, hscope, hown, hroots, hlists, heq ▸ Option.some.inj hfiles⟩

end Siblings

end LayerCheck
