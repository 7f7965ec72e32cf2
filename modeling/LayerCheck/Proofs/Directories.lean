import LayerCheck.Proofs.Glob
import LayerCheck.Proofs.Universe

/-!
Directories that are listed by their names. In plain trees a directory holds the files of the walk whose
relative paths lead into it, and these are the files that the glob pattern of the directory finds.
-/

namespace LayerCheck

/-! ### Chains of names -/

/-- The directory is given by names with `/` between them, and maybe with slashes around them. -/
structure IsChain (directory : String) (names : List String) : Prop where
  ne_nil : names ≠ []
  named : Place.Named names
  text : ∃ before after, directory.toList =
    List.replicate before '/' ++ (Segments.join '/' names).toList ++ List.replicate after '/'

/-- The text without the slashes around it. -/
def trimSlashes (text : String) : String :=
  .ofList ((text.toList.dropWhile (· == '/')).reverse.dropWhile (· == '/')).reverse

theorem dropWhile_of_head? {α : Type} {p : α → Bool} {l : List α}
    (h : ∀ a ∈ l.head?, p a = false) : l.dropWhile p = l := by
  cases l with
  | nil => rfl
  | cons a l => exact List.dropWhile_cons_of_neg (Bool.eq_false_iff.1 (h a rfl))

theorem dropWhile_replicate_append {α : Type} {p : α → Bool} {a : α} (ha : p a) {l : List α}
    (hl : ∀ b ∈ l.head?, p b = false) (n : Nat) : (List.replicate n a ++ l).dropWhile p = l := by
  induction n with
  | zero => exact dropWhile_of_head? hl
  | succ n ih => simpa [List.replicate_succ, ha] using ih

/-- What stands around a list that neither starts nor ends so is dropped on both sides. -/
theorem trim_replicate {α : Type} {p : α → Bool} {a : α} (ha : p a) {l : List α} (hne : l ≠ [])
    (hhead : ∀ b ∈ l.head?, p b = false) (hlast : ∀ b ∈ l.getLast?, p b = false) (m n : Nat) :
    (((List.replicate m a ++ l ++ List.replicate n a).dropWhile p).reverse.dropWhile p).reverse =
      l := by
  have hstart : ∀ b ∈ (l ++ List.replicate n a).head?, p b = false := by
    rwa [List.head?_append_of_ne_nil _ hne]
  have hend : ∀ b ∈ l.reverse.head?, p b = false := by
    rwa [List.head?_reverse]
  rw [List.append_assoc, dropWhile_replicate_append ha hstart, List.reverse_append,
    List.reverse_replicate, dropWhile_replicate_append ha hend, List.reverse_reverse]

/-! ### Named places -/

namespace Place.Named

variable {names : Place}

theorem up_not_mem (h : names.Named) : ".." ∉ names :=
  fun hmem => (isEntryName_iff.1 (h _ hmem)).2.2.1 rfl

theorem namesOf_eq (h : names.Named) : Snapshot.namesOf names = names := by
  refine List.filter_eq_self.2 fun name hname => ?_
  obtain ⟨hempty, hdot, -⟩ := isEntryName_iff.1 (h name hname)
  simp [hempty, hdot]

theorem nil_not_mem (h : names.Named) : [] ∉ names.map String.toList := by
  intro hmem
  obtain ⟨name, hname, hnil⟩ := List.mem_map.1 hmem
  exact (isEntryName_iff.1 (h name hname)).1 (String.toList_eq_nil_iff.1 hnil)

variable (h : names.Named) (hne : names ≠ [])
include h hne

theorem splitChars_join :
    Segments.splitChars '/' (Segments.join '/' names).toList = names.map String.toList := by
  rw [Segments.toList_join, Segments.splitChars_intercalate (by simpa using hne)]
  intro w hw
  obtain ⟨name, hname, rfl⟩ := List.mem_map.1 hw
  exact h.slash_not_mem hname

theorem toList_join_ne_nil : (Segments.join '/' names).toList ≠ [] := by
  intro hnil
  have hsplit := h.splitChars_join hne
  rw [hnil] at hsplit
  exact h.nil_not_mem (hsplit ▸ List.mem_singleton_self [])

/-- A slash at the start would leave an empty segment there. -/
theorem head?_join {c : Char} (hc : c ∈ (Segments.join '/' names).toList.head?) : c ≠ '/' := by
  rintro rfl
  obtain ⟨rest, hrest⟩ := List.head?_eq_some_iff.1 hc
  refine h.nil_not_mem ?_
  rw [← h.splitChars_join hne, hrest, Segments.splitChars, if_pos rfl]
  exact List.mem_cons_self

theorem getLast?_join {c : Char} (hc : c ∈ (Segments.join '/' names).toList.getLast?) : c ≠ '/' := by
  rintro rfl
  obtain ⟨rest, hrest⟩ := List.getLast?_eq_some_iff.1 hc
  refine h.nil_not_mem ?_
  rw [← h.splitChars_join hne, hrest, Segments.splitChars_append_cons]
  exact List.mem_append_right _ (List.mem_singleton_self [])

end Place.Named

namespace IsChain

variable {directory : String} {names : List String}

theorem directorySegments_eq (h : IsChain directory names) :
    Scope.directorySegments directory = names := by
  obtain ⟨m, n, htext⟩ := h.text
  have hsplit : Segments.split '/' directory = List.replicate m "" ++ names ++ List.replicate n "" := by
    rw [Segments.split, htext, Segments.splitChars_append_replicate,
      Segments.splitChars_replicate_append, h.named.splitChars_join h.ne_nil]
    simp
  have hfull : ∀ name ∈ names, (name == "") = false := by
    intro name hname
    simpa using (isEntryName_iff.1 (h.named name hname)).1
  unfold Scope.directorySegments
  rw [hsplit]
  exact trim_replicate rfl h.ne_nil (fun name hname => hfull name (List.mem_of_mem_head? hname))
    (fun name hname => hfull name (List.mem_of_mem_getLast? hname)) m n

theorem trimSlashes_eq (h : IsChain directory names) :
    trimSlashes directory = Segments.join '/' names := by
  obtain ⟨m, n, htext⟩ := h.text
  rw [trimSlashes, htext, trim_replicate rfl (h.named.toList_join_ne_nil h.ne_nil)
    (fun c hc => beq_false_of_ne (h.named.head?_join h.ne_nil hc))
    (fun c hc => beq_false_of_ne (h.named.getLast?_join h.ne_nil hc)), String.ofList_toList]

end IsChain

/-! ### Relative paths -/

namespace Path

variable {names : List String}

theorem segments_join (h : Place.Named names) (hne : names ≠ []) :
    segments ⟨Segments.join '/' names⟩ = names :=
  Segments.split_join hne fun _ hname => h.slash_not_mem hname

theorem components_join (h : Place.Named names) (hne : names ≠ []) :
    components ⟨Segments.join '/' names⟩ = names.map .name := by
  have hsegments := segments_join h hne
  obtain ⟨name, rest, rfl⟩ := List.exists_cons_of_ne_nil hne
  obtain ⟨hname, hrest⟩ := List.forall_mem_cons.1 h
  obtain ⟨hempty, hdot, hdots, -⟩ := isEntryName_iff.1 hname
  rw [components, hsegments]
  simp [leading, Component.ofSegment, hempty, hdot, hdots, flatMap_interior hrest]

theorem trimTail_eq (h : Place.Named names) : trimTail names = names := by
  cases names with
  | nil => rfl
  | cons name rest =>
    have hfull : ∀ t ∈ rest.reverse.head?, (t == "" || t == ".") = false := by
      intro t ht
      have hmem : t ∈ name :: rest := List.mem_cons_of_mem _ (by simpa using List.mem_of_mem_head? ht)
      obtain ⟨hempty, hdot, -⟩ := isEntryName_iff.1 (h t hmem)
      simp [hempty, hdot]
    rw [trimTail, dropWhile_of_head? hfull, List.reverse_reverse]

/-- The parent of a relative path has all names but the last. -/
theorem exists_parent?_join (h : Place.Named names) (hne : names ≠ []) :
    ∃ parent, parent? ⟨Segments.join '/' names⟩ = some parent ∧
      parent.components = names.dropLast.map .name := by
  have hsegments := segments_join h hne
  obtain ⟨name, rest, rfl⟩ := List.exists_cons_of_ne_nil hne
  have hname : name ≠ "" := (isEntryName_iff.1 (h name List.mem_cons_self)).1
  rw [parent?, hsegments, trimTail_eq h]
  cases rest with
  | nil =>
    have hempty : components ⟨""⟩ = [] := by decide
    exact ⟨⟨""⟩, if_neg hname, hempty⟩
  | cons next rest =>
    have hkept : Place.Named (name :: (next :: rest).dropLast) := by
      intro n hn
      exact h n ((List.cons_subset_cons name (List.dropLast_subset _)) hn)
    refine ⟨⟨Segments.join '/' (name :: (next :: rest).dropLast)⟩, ?_, ?_⟩
    · dsimp only
      rw [trimTail_eq hkept]
      split
      · rename_i hnil
        exact absurd (List.cons.inj hnil).1 hname
      · rfl
    · rw [components_join hkept (by simp)]
      rfl

theorem join_ofNames {root : Place} (hroot : root.Named) (h : Place.Named names) (hne : names ≠ []) :
    (ofNames root).join ⟨Segments.join '/' names⟩ = ofNames (root ++ names) := by
  have hrelative : isAbsolute ⟨Segments.join '/' names⟩ = false := by
    refine beq_false_of_ne fun hhead => ?_
    exact h.head?_join hne hhead rfl
  have hfull : (ofNames root).text.isEmpty = false := by
    simp [ofNames]
  rw [join, hrelative, hfull, Bool.or_self, if_neg Bool.false_ne_true]
  by_cases hnil : root = []
  · subst hnil
    rw [if_pos (by decide)]
    rfl
  · have hlast : (ofNames root).text.toList.getLast? ≠ some '/' := by
      intro hlast
      have htext : (ofNames root).text.toList = ['/'] ++ (Segments.join '/' root).toList := by
        simp [ofNames]
      rw [htext, List.getLast?_append_of_ne_nil _ (hroot.toList_join_ne_nil hnil)] at hlast
      exact hroot.getLast?_join hnil hlast rfl
    rw [if_neg hlast, ofNames, ofNames, Segments.join_append hnil hne]
    simp [String.append_assoc]

theorem segments_ofNames_eq_iff {place p : Place} (hplace : place.Named) (hp : 1 < p.length) :
    (ofNames place).segments = "" :: p ↔ place = p := by
  by_cases hnil : place = []
  · have hsegments : (ofNames []).segments = ["", ""] := by decide
    subst hnil
    rw [hsegments]
    constructor
    · intro h
      rw [← (List.cons.inj h).2] at hp
      simp at hp
    · rintro rfl
      simp at hp
  · rw [segments_ofNames hplace hnil]
    simp

end Path

/-! ### Files in directories -/

/-- The relative path leads into the directory of the names, and ends in it unless all that lies below
is meant. -/
def LiesIn (recursive : Bool) (names : List String) (relative : String) : Prop :=
  if recursive then
    ∃ rest, rest ≠ [] ∧ (Path.mk relative).components = names.map .name ++ rest
  else
    ∃ parent, (Path.mk relative).parent? = some parent ∧ parent.components = names.map .name

theorem liesIn_iff_isInside {recursive : Bool} {directory names : List String}
    (h : Place.Named names) (hne : names ≠ []) :
    LiesIn recursive directory (Segments.join '/' names) ↔
      Snapshot.isInside recursive directory names := by
  have hname {p q : List String} : p.map Component.name = q.map .name ↔ p = q :=
    List.map_inj_right fun _ _ => Component.name.inj
  rw [Snapshot.isInside_iff, LiesIn]
  cases recursive with
  | true =>
    simp only [if_true, true_or, and_true, Path.components_join h hne]
    constructor
    · rintro ⟨rest, hrest, heq⟩
      obtain ⟨before, after, rfl, hbefore, rfl⟩ := List.map_eq_append_iff.1 heq
      rw [hname] at hbefore
      exact ⟨after, by simpa using hrest, by rw [hbefore]⟩
    · rintro ⟨rest, hrest, rfl⟩
      exact ⟨rest.map .name, by simpa using hrest, List.map_append⟩
  | false =>
    obtain ⟨parent, hparent, hcomponents⟩ := Path.exists_parent?_join h hne
    simp only [Bool.false_eq_true, if_false, false_or, hparent, Option.some.injEq, exists_eq_left',
      hcomponents, hname]
    constructor
    · rintro rfl
      refine ⟨[names.getLast hne], ⟨by simp, ?_⟩, rfl⟩
      rw [List.dropLast_append_getLast]
    · rintro ⟨rest, ⟨-, rfl⟩, hlength⟩
      obtain ⟨last, rfl⟩ := List.length_eq_one_iff.1 hlength
      exact List.dropLast_concat

namespace Snapshot

variable {s : Snapshot}

/-- A way through the names of a directory comes to the directory. -/
theorem Resolves.of_append {links left : Nat} {here names more place : Place}
    (hdir : s.isDirectory (here ++ names))
    (h : s.Resolves links here (names ++ more) place left) :
    s.Resolves links (here ++ names) more place left := by
  induction names generalizing here with
  | nil => simpa using h
  | cons name names ih =>
    have hentry : isEntryName name := s.named_of_isDirectory hdir name (by simp)
    obtain ⟨hempty, hdot, hdots, -⟩ := isEntryName_iff.1 hentry
    rw [List.append_cons] at hdir ⊢
    cases h with
    | stay _ hname => exact absurd hname (not_or.2 ⟨hempty, hdot⟩)
    | up => contradiction
    | down _ _ _ _ hrest => exact ih hdir hrest
    | through _ _ hget =>
      have hname := isDirectory_of_append hdir
      simp [isDirectory, hget] at hname

/-- Below a directory without links the files are at the places of their paths. -/
theorem isFile_ofNames_iff {root names : Place} (hroot : s.isDirectory root) (hlinks : s.LinkFree root)
    (hnames : names.Named) (hne : names ≠ []) :
    s.isFile (.ofNames (root ++ names)) ↔ ∃ text, s.get? (root ++ names) = some (.file text) := by
  have hnamed : Place.Named (root ++ names) :=
    List.forall_mem_append.2 ⟨s.named_of_isDirectory hroot, hnames⟩
  constructor
  · intro h
    unfold isFile at h
    split at h
    · rename_i text hnode
      obtain ⟨place, hplace, hget⟩ := Option.bind_eq_some_iff.1 hnode
      obtain ⟨first, segments, left, hstart, hresolves⟩ := place?_eq_some_iff.1 hplace
      rw [start?_ofNames hnamed (by simp [hne])] at hstart
      obtain ⟨rfl, rfl⟩ := Prod.mk.inj (Option.some.inj hstart)
      have hleads := (hresolves.of_append hroot).leads hlinks fun hup => absurd hup hnames.up_not_mem
      rw [hleads.eq_append hnames.up_not_mem, hnames.namesOf_eq] at hget
      exact ⟨text, hget⟩
    · contradiction
  · rintro ⟨text, hget⟩
    simp [isFile, node?_ofNames hget (by simp)]

end Snapshot

namespace Scope

variable {s : Snapshot} {scope : Scope} {own : Option Pattern} {directories : List String}
  {recursive : Bool} {f : SourceFile}

theorem sourceFile?_ofNames {root names : Place} {text : Option String}
    (hget : s.get? (root ++ names) = some (.file text)) :
    scope.sourceFile? s own (.ofNames root) (.ofNames (root ++ names)) =
      scope.admit? own root names (root ++ names) := by
  have hnamed := Snapshot.named_of_get? hget
  have hroot : root.Named := fun name hname => hnamed name (List.mem_append_left _ hname)
  have hrelative : Path.relative? (.ofNames root) (.ofNames (root ++ names)) =
      some (Segments.join '/' names) := by
    simp [Path.relative?, Path.below?, Path.components_ofNames hroot, Path.components_ofNames hnamed,
      List.isPrefixOf_iff_prefix, Component.text, Function.comp_def]
  have hcanonical : s.canonical (.ofNames (root ++ names)) = .ofNames (root ++ names) := by
    simp [Snapshot.canonical, Snapshot.place?_ofNames hget (by simp)]
  simp only [sourceFile?, hrelative, hcanonical, admit?]
  rfl

theorem mem_directoryFiles_of_chains (hlinks : ∀ root ∈ scope.roots, s.LinkFree root)
    (hchains : ∀ directory ∈ directories, ∃ names, IsChain directory names) :
    f ∈ scope.directoryFiles s own directories recursive ↔
      ∃ root ∈ scope.roots, ∃ directory ∈ directories, ∃ names, IsChain directory names ∧
        ∃ found, Snapshot.isInside recursive names found ∧ Snapshot.endsInPy (found.getLastD "") ∧
          (∃ text, s.get? (root ++ found) = some (.file text)) ∧
            scope.admit? own root found (root ++ found) = some f := by
  rw [mem_directoryFiles]
  constructor
  · rintro ⟨root, hroot, directory, hdirectory, found, hfound, hadmitted, rfl⟩
    obtain ⟨names, hchain⟩ := hchains directory hdirectory
    rw [hchain.directorySegments_eq, Snapshot.mem_filesIn_of_linkFree (hlinks root hroot)
      hchain.named.up_not_mem, hchain.named.namesOf_eq] at hfound
    obtain ⟨hinside, hpy, hplace, hfile⟩ := hfound
    refine ⟨root, hroot, directory, hdirectory, names, hchain, found.names, hinside, hpy, hfile, ?_⟩
    exact admit?_eq_some_iff.2 ⟨hadmitted, by rw [hplace]⟩
  · rintro ⟨root, hroot, directory, hdirectory, names, hchain, found, hinside, hpy, hfile, hadmit⟩
    obtain ⟨hadmitted, rfl⟩ := admit?_eq_some_iff.1 hadmit
    refine ⟨root, hroot, directory, hdirectory, ⟨found, root ++ found⟩, ?_, hadmitted, rfl⟩
    rw [hchain.directorySegments_eq, Snapshot.mem_filesIn_of_linkFree (hlinks root hroot)
      hchain.named.up_not_mem, hchain.named.namesOf_eq]
    exact ⟨hinside, hpy, rfl, hfile⟩

/-- The file is one of those below a root that the pattern of one of the directories finds. -/
def Globs (scope : Scope) (s : Snapshot) (own : Option Pattern) (directories : List String)
    (recursive : Bool) (f : SourceFile) : Prop :=
  ∃ root ∈ scope.rootPaths, ∃ directory ∈ directories, ∃ place : Place, place.Named ∧
    Glob.Finds (Glob.ofDirectory (root.join ⟨trimSlashes directory⟩) recursive) (.ofNames place) ∧
      s.isFile (.ofNames place) ∧ scope.sourceFile? s own root (.ofNames place) = some f

/-- The pattern of a chain of names below a root finds the paths that lead into the directory. -/
theorem finds_chain_iff {root names place : Place} {directory : String} (hroot : root.Named)
    (hchain : IsChain directory names) (hplace : place.Named) :
    Glob.Finds (Glob.ofDirectory ((Path.ofNames root).join ⟨trimSlashes directory⟩) recursive)
        (.ofNames place) ↔
      ∃ found, place = root ++ found ∧ Snapshot.isInside recursive names found ∧
        Snapshot.endsInPy (found.getLastD "") := by
  have hdirectory : Place.Named (root ++ names) :=
    List.forall_mem_append.2 ⟨hroot, hchain.named⟩
  have hnames := List.length_pos_iff.2 hchain.ne_nil
  have hsegments (rest : List String) (hne : rest ≠ []) :
      (Path.ofNames place).segments = "" :: (root ++ names ++ rest) ↔
        place = root ++ (names ++ rest) := by
    have hrest := List.length_pos_iff.2 hne
    rw [List.append_assoc]
    exact Path.segments_ofNames_eq_iff hplace (by simp only [List.length_append]; omega)
  rw [hchain.trimSlashes_eq, Path.join_ofNames hroot hchain.named hchain.ne_nil,
    Glob.finds_ofDirectory hdirectory (by simp [hchain.ne_nil])]
  simp only [Snapshot.isInside_iff]
  constructor
  · rintro ⟨rest, hplace, hne, hdepth, hpy⟩
    refine ⟨names ++ rest, (hsegments rest hne).1 hplace, ⟨rest, ⟨hne, rfl⟩, hdepth⟩, ?_⟩
    rwa [Snapshot.getLastD_append_of_ne_nil hne]
  · rintro ⟨_, hplace, ⟨rest, ⟨hne, rfl⟩, hdepth⟩, hpy⟩
    rw [Snapshot.getLastD_append_of_ne_nil hne] at hpy
    exact ⟨rest, (hsegments rest hne).2 hplace, hne, hdepth, hpy⟩

theorem globs_iff_mem_directoryFiles (hdirs : ∀ root ∈ scope.roots, s.isDirectory root)
    (hlinks : ∀ root ∈ scope.roots, s.LinkFree root)
    (hchains : ∀ directory ∈ directories, ∃ names, IsChain directory names) :
    scope.Globs s own directories recursive f ↔
      f ∈ scope.directoryFiles s own directories recursive := by
  rw [mem_directoryFiles_of_chains hlinks hchains]
  simp only [Globs, rootPaths, List.mem_map, exists_exists_and_eq_and]
  constructor
  · rintro ⟨root, hroot, directory, hdirectory, place, hplace, hfinds, hisFile, hsource⟩
    obtain ⟨names, hchain⟩ := hchains directory hdirectory
    have hnamed := s.named_of_isDirectory (hdirs root hroot)
    obtain ⟨found, rfl, hinside, hpy⟩ := (finds_chain_iff hnamed hchain hplace).1 hfinds
    have hfound : found.Named := fun name hname => hplace name (List.mem_append_right _ hname)
    obtain ⟨text, hget⟩ := (Snapshot.isFile_ofNames_iff (hdirs root hroot) (hlinks root hroot) hfound
      (Snapshot.ne_nil_of_endsInPy hpy)).1 hisFile
    rw [sourceFile?_ofNames hget] at hsource
    exact ⟨root, hroot, directory, hdirectory, names, hchain, found, hinside, hpy, ⟨text, hget⟩,
      hsource⟩
  · rintro ⟨root, hroot, directory, hdirectory, names, hchain, found, hinside, hpy, ⟨text, hget⟩,
      hadmit⟩
    have hnamed := s.named_of_isDirectory (hdirs root hroot)
    have hplace := Snapshot.named_of_get? hget
    refine ⟨root, hroot, directory, hdirectory, root ++ found, hplace, ?_, ?_, ?_⟩
    · exact (finds_chain_iff hnamed hchain hplace).2 ⟨found, rfl, hinside, hpy⟩
    · simp [Snapshot.isFile, Snapshot.node?_ofNames hget (by simp)]
    · rwa [sourceFile?_ofNames hget]

theorem mem_directoryFiles_iff_liesIn (hplain : scope.IsPlain s)
    (hchains : ∀ directory ∈ directories, ∃ names, IsChain directory names) :
    f ∈ scope.directoryFiles s own directories recursive ↔ f ∈ scope.files s own ∧
      ∃ directory ∈ directories, ∃ names, IsChain directory names ∧
        LiesIn recursive names f.relative := by
  have hliesIn {root found names : Place} {text : Option String}
      (hget : s.get? (root ++ found) = some (.file text))
      (hpy : Snapshot.endsInPy (found.getLastD "")) :
      LiesIn recursive names (Segments.join '/' found) ↔ Snapshot.isInside recursive names found :=
    liesIn_iff_isInside
      (fun name hname => Snapshot.named_of_get? hget name (List.mem_append_right _ hname))
      (Snapshot.ne_nil_of_endsInPy hpy)
  rw [mem_directoryFiles_of_chains hplain.linkFree hchains, mem_files]
  constructor
  · rintro ⟨root, hroot, directory, hdirectory, names, hchain, found, hinside, hpy, ⟨text, hget⟩,
      hadmit⟩
    obtain ⟨hadmitted, rfl⟩ := admit?_eq_some_iff.1 hadmit
    have hpython := Snapshot.isPythonName_of_endsInPy (hplain.named root hroot) hget hpy
    refine ⟨⟨root, hroot, found, Snapshot.mem_pythonFiles.2 ⟨hpython, text, hget⟩, hadmitted, rfl⟩, ?_⟩
    exact ⟨directory, hdirectory, names, hchain, (hliesIn hget hpy).2 hinside⟩
  · rintro ⟨⟨root, hroot, found, hfound, hadmitted, rfl⟩, directory, hdirectory, names, hchain, hlies⟩
    obtain ⟨hpython, text, hget⟩ := Snapshot.mem_pythonFiles.1 hfound
    have hpy := (Snapshot.isPythonName_iff.1 hpython).1
    exact ⟨root, hroot, directory, hdirectory, names, hchain, found, (hliesIn hget hpy).1 hlies, hpy,
      ⟨text, hget⟩, admit?_eq_some_iff.2 ⟨hadmitted, rfl⟩⟩

end Scope

/-- In plain trees the files of a leaf with directories are those that their patterns find, and they
are those of the walk that lie in the directories. -/
theorem Leaf.files_globbed_and_walked {s : Snapshot} {paths : List Path} {exclude : List String}
    {scope : Scope} (hscope : Scope.make s paths exclude = .ok scope) (hplain : scope.IsPlain s)
    {directories : List String}
    (hchains : ∀ directory ∈ directories, ∃ names, IsChain directory names) (recursive : Bool)
    (kind : Option ElementKind) (own : Option Pattern) (f : SourceFile) :
    (f ∈ (Leaf.mk (.directory directories recursive kind) own).files scope s ↔
        scope.Globs s own directories recursive f) ∧
      (f ∈ (Leaf.mk (.directory directories recursive kind) own).files scope s ↔
        f ∈ scope.files s own ∧ ∃ directory ∈ directories, ∃ names, IsChain directory names ∧
          LiesIn recursive names f.relative) := by
  have hdirs : ∀ root ∈ scope.roots, s.isDirectory root := by
    rw [(Scope.make_eq_ok.1 hscope).2]
    exact fun root hroot => (Scope.mem_rootsOf.1 hroot).2
  exact ⟨(Scope.globs_iff_mem_directoryFiles hdirs hplain.linkFree hchains).symm,
    Scope.mem_directoryFiles_iff_liesIn hplain hchains⟩

namespace Starred

/-- Names that hold what stands for other names in a pattern, and a directory named like a file. -/
def snapshot : Snapshot :=
  [["r[1]", "a*", "b.py"], ["r[1]", "a*", ".c", "d.py"], ["r[1]", "ab", "e.py"],
    ["r[1]", "a*", "x.py", "y.py"], ["r1", "a*", "z.py"]].foldl
      (fun s place => s.put place (.file none)) {}

theorem isChain_starred : IsChain "//a*/" ["a*"] where
  ne_nil := by simp
  named := List.forall_mem_singleton.2 (by decide)
  text := ⟨2, 1, by decide⟩

/-- The leaf that lists the starred directory, with all below it or without. -/
def leaf (recursive : Bool) : Leaf := ⟨.directory ["//a*/"] recursive none, none⟩

theorem globbed_and_walked_starred : ∃ scope, Scope.make snapshot [⟨"/r[1]"⟩] [] = .ok scope ∧
    scope.IsPlain snapshot ∧ (∀ directory ∈ ["//a*/"], ∃ names, IsChain directory names) ∧
    ((leaf true).files scope snapshot).map (·.relative) =
      ["a*/.c/d.py", "a*/b.py", "a*/x.py/y.py"] ∧
    ((leaf false).files scope snapshot).map (·.relative) = ["a*/b.py"] ∧
    ∀ recursive f, (f ∈ (leaf recursive).files scope snapshot ↔
        scope.Globs snapshot none ["//a*/"] recursive f) ∧
      (f ∈ (leaf recursive).files scope snapshot ↔ f ∈ scope.files snapshot none ∧
        ∃ directory ∈ ["//a*/"], ∃ names, IsChain directory names ∧
          LiesIn recursive names f.relative) := by
  obtain ⟨scope, hscope, hvalue⟩ : ∃ scope, Scope.make snapshot [⟨"/r[1]"⟩] [] = .ok scope ∧
      [true, false].map (fun recursive =>
        ((leaf recursive).files scope snapshot).map (·.relative)) =
      [["a*/.c/d.py", "a*/b.py", "a*/x.py/y.py"], ["a*/b.py"]] :=
    Except.exists_of_map_toOption (by decide +kernel)
  obtain ⟨hdeep, hrest⟩ := List.cons.inj hvalue
  have hplain : scope.IsPlain snapshot :=
    Scope.isPlain_of_forall_entries (by decide +kernel) (by decide +kernel)
  have hchains : ∀ directory ∈ ["//a*/"], ∃ names, IsChain directory names :=
    List.forall_mem_singleton.2 ⟨["a*"], isChain_starred⟩
  exact ⟨scope, hscope, hplain, hchains, hdeep, (List.cons.inj hrest).1, fun recursive f =>
    Leaf.files_globbed_and_walked hscope hplain hchains recursive none none f⟩

end Starred

end LayerCheck
