import LayerCheck.Project.Cache
import LayerCheck.Proofs.Canonical
import Mathlib.Data.List.Induction

/-!
What a snapshot holds, by place. Walks and paths find a file at the place it stands at, links being
followed step by step; the files below a directory are those whose places go on from it.
-/

namespace LayerCheck.Snapshot

variable {s : Snapshot}

/-! ### Nodes by place -/

theorem get?_of_ne_nil {p : Place} (h : p ≠ []) : s.get? p = s.nodes.get? p := by
  simp [get?, h]

theorem mem_entries_iff {p : Place} {node : FileNode} :
    (p, node) ∈ s.nodes.entries ↔ s.nodes.get? p = some node :=
  OrderedMap.mem_entries_iff (lawfulOn_of_lawfulEqOrd fun _ => True) (fun _ _ => trivial) trivial

theorem named_of_get? {p : Place} {node : FileNode} (h : s.get? p = some node) : p.Named := by
  by_cases hp : p = []
  · simp [hp, Place.Named]
  · rw [get?_of_ne_nil hp] at h
    exact s.tree.named p node h

/-- Whatever lies on the way to something is a directory. -/
theorem isDirectory_of_get?_append {p q : Place} {node : FileNode} (hq : q ≠ [])
    (h : s.get? (p ++ q) = some node) : s.isDirectory p := by
  induction q using List.reverseRecOn generalizing node with
  | nil => contradiction
  | append_singleton q name ih =>
    rw [← List.append_assoc, get?_of_ne_nil (by simp)] at h
    have hheld := s.tree.held _ _ h
    rw [List.dropLast_concat] at hheld
    have hdir : s.isDirectory (p ++ q) := isDirectory_iff.2 hheld
    by_cases hnil : q = []
    · simpa [hnil] using hdir
    · exact ih hnil (by simpa [isDirectory] using hdir)

/-! ### Entries below a directory -/

theorem below?_eq_some_iff {base p : Place} {names : List String} :
    below? base p = some names ↔ names ≠ [] ∧ p = base ++ names := by
  unfold below?
  constructor
  · intro h
    split at h
    · rename_i hcond
      obtain ⟨hstart, hlength⟩ : base <+: p ∧ base.length < p.length := by simpa using hcond
      obtain ⟨rest, rfl⟩ := hstart
      obtain rfl : rest = names := by simpa using h
      refine ⟨?_, rfl⟩
      rintro rfl
      simp at hlength
    · contradiction
  · rintro ⟨hne, rfl⟩
    have hlength : 0 < names.length := List.length_pos_iff.2 hne
    simp [hlength]

theorem nameIn?_eq_some_iff {base p : Place} {name : String} :
    nameIn? base p = some name ↔ p = base ++ [name] := by
  have hbelow : below? base p = some [name] ↔ p = base ++ [name] :=
    below?_eq_some_iff.trans (and_iff_right (by simp))
  rw [← hbelow, nameIn?]
  split
  · rename_i found hfound
    simp [hfound]
  · rename_i hother
    simpa using hother name

theorem mem_entriesIn {base : Place} {name : String} {node : FileNode} :
    (name, node) ∈ s.entriesIn base ↔ s.get? (base ++ [name]) = some node := by
  rw [get?_of_ne_nil (by simp), ← mem_entries_iff]
  simp [entriesIn, nameIn?_eq_some_iff]

theorem perm_insertEntry (e : String × FileNode) (l : List (String × FileNode)) :
    (insertEntry e l).Perm (e :: l) := by
  induction l with
  | nil => exact .refl _
  | cons f rest ih =>
    rw [insertEntry]
    split
    · exact (ih.cons f).trans (.swap e f rest)
    · exact .refl _

theorem perm_sortEntries (l : List (String × FileNode)) : (sortEntries l).Perm l := by
  induction l with
  | nil => exact .refl _
  | cons e rest ih => exact (perm_insertEntry e _).trans (ih.cons e)

/-- However a directory is listed, its entries are what stands in it. -/
theorem mem_sortEntries {list : s.Listing} {base : Place} {name : String} {node : FileNode} :
    (name, node) ∈ sortEntries (list.entries base) ↔ s.get? (base ++ [name]) = some node := by
  rw [(perm_sortEntries _).mem_iff, (list.perm base).mem_iff, mem_entriesIn]

theorem mem_walk {list : s.Listing} {depth : Nat} {base : Place} {names : List String}
    {node : FileNode} : (names, node) ∈ walk list depth base ↔
      names ≠ [] ∧ names.length ≤ depth ∧ s.get? (base ++ names) = some node := by
  induction depth generalizing base names with
  | zero => cases names <;> simp [walk]
  | succ depth ih =>
    simp only [walk, List.mem_flatMap, Prod.exists, List.mem_cons, List.mem_map, mem_sortEntries]
    constructor
    · rintro ⟨name, found, hget, heq | ⟨below, node', hbelow, heq⟩⟩
      · obtain ⟨rfl, rfl⟩ := Prod.mk.inj heq
        exact ⟨by simp, by simp, hget⟩
      · obtain ⟨rfl, rfl⟩ := Prod.mk.inj heq
        split at hbelow
        · obtain ⟨-, hlength, hget⟩ := ih.1 hbelow
          rw [← List.append_cons] at hget
          exact ⟨by simp, by simpa using hlength, hget⟩
        · contradiction
    · rintro ⟨hne, hlength, hget⟩
      cases names with
      | nil => contradiction
      | cons name rest =>
        by_cases hrest : rest = []
        · subst hrest
          exact ⟨name, node, hget, .inl rfl⟩
        · -- What more names lead to lies in a directory, where the walk goes on.
          rw [List.append_cons] at hget
          have hdir : s.get? (base ++ [name]) = some .directory := by
            simpa [isDirectory] using isDirectory_of_get?_append hrest hget
          have hbelow := ih.2 ⟨hrest, by simpa using hlength, hget⟩
          exact ⟨name, .directory, hdir, .inr ⟨rest, node, by simpa using hbelow, rfl⟩⟩

theorem length_le_height {p : Place} {node : FileNode} (h : s.get? p = some node) :
    p.length ≤ s.height := by
  by_cases hp : p = []
  · simp [hp]
  · rw [get?_of_ne_nil hp, ← mem_entries_iff] at h
    unfold height
    generalize s.nodes.entries = entries at h
    induction entries with
    | nil => contradiction
    | cons e rest ih =>
      rw [List.foldr_cons]
      rcases List.mem_cons.1 h with rfl | h
      · exact Nat.le_max_left ..
      · exact Nat.le_trans (ih h) (Nat.le_max_right ..)

theorem mem_under {list : s.Listing} {base : Place} {names : List String} {node : FileNode} :
    (names, node) ∈ s.under base list ↔ names ≠ [] ∧ s.get? (base ++ names) = some node := by
  rw [under, mem_walk]
  refine and_congr_right fun _ => and_iff_right_of_imp fun hget => ?_
  have hlength := length_le_height hget
  rw [List.length_append] at hlength
  omega

theorem ne_nil_of_endsInPy {names : List String} (h : endsInPy (names.getLastD "")) :
    names ≠ [] := by
  rintro rfl
  simp [endsInPy] at h

theorem isPythonName_iff {name : String} : isPythonName name ↔ endsInPy name ∧ name ≠ ".py" := by
  simp [isPythonName, endsInPy]

/-- Where no file is named `.py`, names that end so are names of Python files. -/
theorem isPythonName_of_endsInPy {base names : Place} {text : Option String}
    (hnamed : ∀ names text, s.get? (base ++ names ++ [".py"]) ≠ some (.file text))
    (hget : s.get? (base ++ names) = some (.file text)) (hpy : endsInPy (names.getLastD "")) :
    isPythonName (names.getLastD "") := by
  refine isPythonName_iff.2 ⟨hpy, fun hlast => ?_⟩
  have hsome : names.getLast? = some ".py" := by
    cases hnames : names.getLast? with
    | none => simp [hnames] at hlast
    | some last => simpa [hnames] using hlast
  obtain ⟨here, rfl⟩ := List.getLast?_eq_some_iff.1 hsome
  exact hnamed here text (by simpa using hget)

theorem mem_pythonFiles {list : s.Listing} {base : Place} {names : List String} :
    names ∈ s.pythonFiles base list ↔ isPythonName (names.getLastD "") ∧
      ∃ text, s.get? (base ++ names) = some (.file text) := by
  simp only [pythonFiles, List.mem_filterMap, Prod.exists]
  constructor
  · rintro ⟨found, node, hmem, hnode⟩
    obtain ⟨-, hget⟩ := mem_under.1 hmem
    cases node with
    | file text =>
      obtain ⟨hpython, rfl⟩ : isPythonName (found.getLastD "") ∧ found = names := by
        simpa using hnode
      exact ⟨hpython, text, hget⟩
    | directory => simp at hnode
    | link target => simp at hnode
  · rintro ⟨hpython, text, hget⟩
    have hne : names ≠ [] := ne_nil_of_endsInPy (isPythonName_iff.1 hpython).1
    exact ⟨names, .file text, mem_under.2 ⟨hne, hget⟩, by simpa using hpython⟩

/-! ### Following paths -/

/-- Segments lead from a place to another one through at most `links` links, of which some are left. -/
inductive Resolves (s : Snapshot) : (links : Nat) → Place → List String → Place → (left : Nat) →
    Prop where
  | arrived {links : Nat} {here : Place} : Resolves s links here [] here links
  | stay {links left : Nat} {here place : Place} {name : String} {rest : List String}
      (hdir : s.isDirectory here) (hname : name = "" ∨ name = ".")
      (hrest : Resolves s links here rest place left) :
      Resolves s links here (name :: rest) place left
  | up {links left : Nat} {here place : Place} {rest : List String} (hdir : s.isDirectory here)
      (hrest : Resolves s links here.dropLast rest place left) :
      Resolves s links here (".." :: rest) place left
  | down {links left : Nat} {here place : Place} {name : String} {rest : List String}
      {node : FileNode} (hdir : s.isDirectory here) (hname : name ≠ "" ∧ name ≠ "." ∧ name ≠ "..")
      (hget : s.get? (here ++ [name]) = some node) (hlink : ∀ target, node ≠ .link target)
      (hrest : Resolves s links (here ++ [name]) rest place left) :
      Resolves s links here (name :: rest) place left
  | through {links left : Nat} {here place first : Place} {name target : String}
      {segments rest : List String} (hdir : s.isDirectory here)
      (hname : name ≠ "" ∧ name ≠ "." ∧ name ≠ "..")
      (hget : s.get? (here ++ [name]) = some (.link target))
      (hstart : start? here target = some (first, segments))
      (hrest : Resolves s links first (segments ++ rest) place left) :
      Resolves s (links + 1) here (name :: rest) place left

theorem resolves_of_steps {links left : Nat}
    {follow : Place → String → List String → Option (Place × Nat)}
    (hfollow : ∀ here target rest place left, follow here target rest = some (place, left) →
      ∃ fewer first segments, links = fewer + 1 ∧ start? here target = some (first, segments) ∧
        s.Resolves fewer first (segments ++ rest) place left)
    {here place : Place} {path : List String}
    (h : s.steps (·, links) follow here path = some (place, left)) :
    s.Resolves links here path place left := by
  induction path generalizing here with
  | nil =>
    obtain ⟨rfl, rfl⟩ := Prod.mk.inj (Option.some.inj h)
    exact .arrived
  | cons name rest ih =>
    rw [steps] at h
    split at h
    · contradiction
    rename_i hdir
    have hdir : s.isDirectory here := by simpa using hdir
    split at h
    · rename_i hname
      exact .stay hdir hname (ih h)
    rename_i hfull
    split at h
    · rename_i hdots
      subst hdots
      exact .up hdir (ih h)
    rename_i hdots
    have hname : name ≠ "" ∧ name ≠ "." ∧ name ≠ ".." :=
      ⟨fun h => hfull (.inl h), fun h => hfull (.inr h), hdots⟩
    split at h
    · contradiction
    · rename_i target hlink
      obtain ⟨fewer, first, segments, rfl, hstart, hrest⟩ := hfollow here target rest place left h
      exact .through hdir hname hlink hstart hrest
    · rename_i node hlink hget
      exact .down hdir hname hget hlink (ih h)

theorem resolves_of_resolve? {links left : Nat} {here place : Place} {path : List String}
    (h : s.resolve? links here path = some (place, left)) : s.Resolves links here path place left := by
  induction links generalizing here path place left with
  | zero => exact resolves_of_steps (by simp) h
  | succ links ih =>
    refine resolves_of_steps (fun here target rest place' left' hfollow => ?_) h
    obtain ⟨⟨first, segments⟩, hstart, hrest⟩ := Option.bind_eq_some_iff.1 hfollow
    exact ⟨links, first, segments, rfl, hstart, ih hrest⟩

namespace Resolves

variable {links left : Nat} {here place : Place} {path : List String}

theorem resolve? (h : s.Resolves links here path place left) :
    s.resolve? links here path = some (place, left) := by
  induction h with
  | @arrived links _ => cases links <;> rfl
  | @stay links _ _ _ _ _ hdir hname _ ih =>
    cases links <;> simpa [Snapshot.resolve?, steps, hdir, hname] using ih
  | @up links _ _ _ _ hdir _ ih => cases links <;> simpa [Snapshot.resolve?, steps, hdir] using ih
  | @down links _ _ _ name _ node hdir hname hget hlink _ ih =>
    obtain ⟨hempty, hdot, hdots⟩ := hname
    cases node with
    | link target => exact absurd rfl (hlink target)
    | file text =>
      cases links <;> simpa [Snapshot.resolve?, steps, hdir, hempty, hdot, hdots, hget] using ih
    | directory =>
      cases links <;> simpa [Snapshot.resolve?, steps, hdir, hempty, hdot, hdots, hget] using ih
  | through hdir hname hget hstart _ ih =>
    obtain ⟨hempty, hdot, hdots⟩ := hname
    simp [Snapshot.resolve?, steps, hdir, hempty, hdot, hdots, hget, hstart, ih]

/-- A way goes on from where another one ends, with the links that are left. -/
theorem append (h : s.Resolves links here path place left) {more : List String} {last : Place}
    {fewer : Nat} (hmore : s.Resolves left place more last fewer) :
    s.Resolves links here (path ++ more) last fewer := by
  induction h with
  | arrived => exact hmore
  | stay hdir hname _ ih => exact .stay hdir hname (ih hmore)
  | up hdir _ ih => exact .up hdir (ih hmore)
  | down hdir hname hget hlink _ ih => exact .down hdir hname hget hlink (ih hmore)
  | through hdir hname hget hstart _ ih =>
    have hrest := ih hmore
    rw [List.append_assoc] at hrest
    exact .through hdir hname hget hstart hrest

end Resolves

theorem resolve?_eq_some_iff {links left : Nat} {here place : Place} {path : List String} :
    s.resolve? links here path = some (place, left) ↔ s.Resolves links here path place left :=
  ⟨resolves_of_resolve?, Resolves.resolve?⟩

theorem place?_eq_some_iff {p : Path} {place : Place} :
    s.place? p = some place ↔ ∃ first segments left,
      start? s.working p.text = some (first, segments) ∧
        s.Resolves maxLinks first segments place left := by
  simp only [place?, Option.bind_eq_some_iff, Option.map_eq_some_iff, Prod.exists,
    resolve?_eq_some_iff]
  grind

/-- Segments lead from a place to another one, without meeting a link. -/
inductive Leads (s : Snapshot) : Place → List String → Place → Prop where
  | arrived {here : Place} : Leads s here [] here
  | stay {here place : Place} {name : String} {rest : List String} (hdir : s.isDirectory here)
      (hname : name = "" ∨ name = ".") (hrest : Leads s here rest place) :
      Leads s here (name :: rest) place
  | up {here place : Place} {rest : List String} (hdir : s.isDirectory here)
      (hrest : Leads s here.dropLast rest place) : Leads s here (".." :: rest) place
  | down {here place : Place} {name : String} {rest : List String} {node : FileNode}
      (hdir : s.isDirectory here) (hname : name ≠ "" ∧ name ≠ "." ∧ name ≠ "..")
      (hget : s.get? (here ++ [name]) = some node) (hlink : ∀ target, node ≠ .link target)
      (hrest : Leads s (here ++ [name]) rest place) : Leads s here (name :: rest) place

namespace Leads

variable {here place : Place} {path : List String}

theorem resolves (h : s.Leads here path place) (links : Nat) :
    s.Resolves links here path place links := by
  induction h with
  | arrived => exact .arrived
  | stay hdir hname _ ih => exact .stay hdir hname ih
  | up hdir _ ih => exact .up hdir ih
  | down hdir hname hget hlink _ ih => exact .down hdir hname hget hlink ih

theorem resolve? (h : s.Leads here path place) (links : Nat) :
    s.resolve? links here path = some (place, links) :=
  (h.resolves links).resolve?

theorem isDirectory (h : s.Leads here path place) (hplace : s.isDirectory place) :
    s.isDirectory here := by
  cases h with
  | arrived => exact hplace
  | stay hdir => exact hdir
  | up hdir => exact hdir
  | down hdir => exact hdir

end Leads

/-- The names on the way to a node lead to it. -/
theorem leads_of_get? {here names : Place} {node : FileNode}
    (hget : s.get? (here ++ names) = some node) (hlink : ∀ target, node ≠ .link target) :
    s.Leads here names (here ++ names) := by
  induction names generalizing here with
  | nil => simpa using Leads.arrived
  | cons name rest ih =>
    have hdir : s.isDirectory here := isDirectory_of_get?_append (by simp) hget
    have hname : isEntryName name := named_of_get? hget name (by simp)
    obtain ⟨hempty, hdot, hdots, -⟩ := isEntryName_iff.1 hname
    rw [List.append_cons] at hget ⊢
    have hnext : ∃ found, s.get? (here ++ [name]) = some found ∧ ∀ target, found ≠ .link target := by
      cases rest with
      | nil => exact ⟨node, by simpa using hget, hlink⟩
      | cons next more =>
        have hdir' : s.isDirectory (here ++ [name]) := isDirectory_of_get?_append (by simp) hget
        exact ⟨.directory, by simpa [isDirectory] using hdir', by simp⟩
    obtain ⟨found, hfound, hfoundLink⟩ := hnext
    exact .down hdir ⟨hempty, hdot, hdots⟩ hfound hfoundLink (ih hget)

theorem start?_ofNames {p : Place} (h : p.Named) (hne : p ≠ []) (here : Place) :
    start? here (Path.ofNames p).text = some ([], p) := by
  have hsegments : Segments.split '/' (Path.ofNames p).text = "" :: p := Path.segments_ofNames h hne
  cases p with
  | nil => contradiction
  | cons name rest => simp [start?, hsegments]

theorem place?_ofNames {p : Place} {node : FileNode} (hget : s.get? p = some node)
    (hlink : ∀ target, node ≠ .link target) : s.place? (.ofNames p) = some p := by
  by_cases hp : p = []
  · subst hp
    have hsegments : Segments.split '/' (Path.ofNames []).text = ["", ""] := by decide
    have hleads : s.Leads [] [""] [] := .stay (isDirectory_iff.2 (.inl rfl)) (.inl rfl) .arrived
    simp [place?, start?, hsegments, hleads.resolve? maxLinks]
  · have hresolve : s.resolve? maxLinks [] p = some (p, maxLinks) :=
      (leads_of_get? hget hlink).resolve? maxLinks
    simp [place?, start?_ofNames (named_of_get? hget) hp, hresolve]

/-- A path of a place leads to what stands there. -/
theorem node?_ofNames {p : Place} {node : FileNode} (hget : s.get? p = some node)
    (hlink : ∀ target, node ≠ .link target) : s.node? (.ofNames p) = some node := by
  simp [node?, place?_ofNames hget hlink, hget]

/-! ### Files found through links -/

/-- Whatever is found is a file at its place. -/
theorem exists_file_of_mem_follow {depth : Option Nat} {fuel links : Nat} {base : Place} {f : Found}
    (h : f ∈ s.follow depth fuel links base) : ∃ text, s.get? f.place = some (.file text) := by
  induction fuel generalizing links base f with
  | zero => simp [follow] at h
  | succ fuel ih =>
    rw [follow, List.mem_flatMap] at h
    obtain ⟨⟨names, node⟩, hmem, h⟩ := h
    have hget := (mem_under.1 hmem).2
    dsimp only at h
    split at h
    · simp at h
    · cases node with
      | file text =>
        dsimp only at h
        split at h
        · rw [List.mem_singleton.1 h]
          exact ⟨text, hget⟩
        · simp at h
      | directory => simp at h
      | link target =>
        dsimp only at h
        split at h
        · simp at h
        · rename_i place left _
          split at h
          · rename_i text hfile
            split at h
            · rw [List.mem_singleton.1 h]
              exact ⟨text, hfile⟩
            · simp at h
          · split at h
            · simp at h
            · obtain ⟨g, hg, rfl⟩ := List.mem_map.1 h
              exact ih (f := g) hg
          · simp at h

theorem exists_file_of_mem_filesIn {recursive : Bool} {base : Place} {path : List String} {f : Found}
    (h : f ∈ s.filesIn recursive base path) : ∃ text, s.get? f.place = some (.file text) := by
  unfold filesIn at h
  split at h
  · simp at h
  · split at h
    · obtain ⟨g, hg, rfl⟩ := List.mem_map.1 h
      exact exists_file_of_mem_follow (f := g) hg
    · simp at h

/-! ### Trees without links -/

/-- Nothing at a place or below it is a link. -/
def LinkFree (s : Snapshot) (base : Place) : Prop :=
  ∀ names target, s.get? (base ++ names) ≠ some (.link target)

def isLink : FileNode → Bool
  | .link _ => true
  | _ => false

/-- A snapshot is without links if none of its entries is a link. -/
theorem linkFree_of_forall_entries (h : ∀ e ∈ s.nodes.entries, isLink e.2 = false) (base : Place) :
    s.LinkFree base := by
  intro names target hget
  by_cases hp : base ++ names = []
  · simp [hp, get?] at hget
  · rw [get?_of_ne_nil hp] at hget
    simpa [isLink] using h _ (mem_entries_iff.2 hget)

theorem LinkFree.append {base : Place} (h : s.LinkFree base) (names : List String) :
    s.LinkFree (base ++ names) := by
  intro more target
  rw [List.append_assoc]
  exact h (names ++ more) target

theorem namesOf_cons (name : String) (rest : List String) :
    namesOf (name :: rest) =
      if name = "" ∨ name = "." then namesOf rest else name :: namesOf rest := by
  by_cases hempty : name = "" <;> by_cases hdot : name = "." <;> simp [namesOf, hempty, hdot]

theorem isDirectory_of_append {p q : Place} (h : s.isDirectory (p ++ q)) : s.isDirectory p := by
  by_cases hq : q = []
  · simpa [hq] using h
  · exact isDirectory_of_get?_append hq (by simpa [isDirectory] using h)

/-- Where there are no links, a way that ends goes through none. -/
theorem Resolves.leads {links left : Nat} {here place : Place} {path : List String}
    (h : s.Resolves links here path place left) (hlinks : s.LinkFree here)
    (hup : ".." ∈ path → s.LinkFree []) : s.Leads here path place := by
  induction h with
  | arrived => exact .arrived
  | stay hdir hname _ ih =>
    exact .stay hdir hname (ih hlinks fun hmem => hup (List.mem_cons_of_mem _ hmem))
  | @up _ _ here _ _ hdir _ ih =>
    -- Upwards is the one step that may leave the tree below `here`.
    have hroot := hup List.mem_cons_self
    exact .up hdir (ih (hroot.append here.dropLast) fun _ => hroot)
  | @down _ _ _ _ name _ _ hdir hname hget hlink _ ih =>
    exact .down hdir hname hget hlink
      (ih (hlinks.append [name]) fun hmem => hup (List.mem_cons_of_mem _ hmem))
  | @through _ _ _ _ _ name target _ _ _ _ hget => exact absurd hget (hlinks [name] target)

theorem leads_of_resolve? {links left : Nat} {here place : Place} {path : List String}
    (hlinks : s.LinkFree here) (hup : ".." ∈ path → s.LinkFree [])
    (h : s.resolve? links here path = some (place, left)) : s.Leads here path place :=
  (resolve?_eq_some_iff.1 h).leads hlinks hup

theorem Leads.eq_append {here place : Place} {path : List String} (h : s.Leads here path place)
    (hup : ".." ∉ path) : place = here ++ namesOf path := by
  induction h with
  | arrived => simp [namesOf]
  | stay _ hname _ ih =>
    rw [namesOf_cons, if_pos hname]
    exact ih fun hmem => hup (List.mem_cons_of_mem _ hmem)
  | up => simp at hup
  | down _ hname _ _ _ ih =>
    rw [namesOf_cons, if_neg (not_or.2 ⟨hname.1, hname.2.1⟩), List.append_cons]
    exact ih fun hmem => hup (List.mem_cons_of_mem _ hmem)

/-- A path leads to the place of its names if that is a directory. -/
theorem leads_of_isDirectory {here : Place} {path : List String} (hup : ".." ∉ path)
    (h : s.isDirectory (here ++ namesOf path)) : s.Leads here path (here ++ namesOf path) := by
  induction path generalizing here with
  | nil => simpa [namesOf] using Leads.arrived
  | cons name rest ih =>
    obtain ⟨hdots, hrest⟩ : ".." ≠ name ∧ ".." ∉ rest := by simpa using hup
    have hhere : s.isDirectory here := isDirectory_of_append h
    rw [namesOf_cons] at h ⊢
    split
    · rename_i hname
      rw [if_pos hname] at h
      exact .stay hhere hname (ih hrest h)
    · rename_i hfull
      rw [if_neg hfull, List.append_cons] at h
      have hnext : s.get? (here ++ [name]) = some .directory := by
        simpa [isDirectory] using isDirectory_of_append h
      obtain ⟨hempty, hdot⟩ := not_or.1 hfull
      rw [List.append_cons]
      exact .down hhere ⟨hempty, hdot, Ne.symm hdots⟩ hnext (by simp) (ih hrest h)

theorem mem_follow_of_linkFree {depth : Option Nat} {fuel links : Nat} {base : Place} {f : Found}
    (hlinks : s.LinkFree base) :
    f ∈ s.follow depth (fuel + 1) links base ↔
      f.names ≠ [] ∧ depth.any (· < f.names.length) = false ∧ endsInPy (f.names.getLastD "") ∧
        f.place = base ++ f.names ∧ ∃ text, s.get? (base ++ f.names) = some (.file text) := by
  rw [follow, List.mem_flatMap]
  constructor
  · rintro ⟨⟨names, node⟩, hmem, h⟩
    obtain ⟨hne, hget⟩ := mem_under.1 hmem
    dsimp only at h
    split at h
    · contradiction
    · rename_i hdepth
      cases node with
      | file text =>
        obtain ⟨hpy, rfl⟩ : endsInPy (names.getLastD "") ∧ f = ⟨names, base ++ names⟩ := by
          simpa using h
        exact ⟨hne, by simpa using hdepth, hpy, rfl, text, hget⟩
      | directory => contradiction
      | link target => exact absurd hget (hlinks names target)
  · rintro ⟨hne, hdepth, hpy, hplace, text, hget⟩
    refine ⟨(f.names, .file text), mem_under.2 ⟨hne, hget⟩, ?_⟩
    simp only [hdepth, hpy, ← hplace]
    simp

/-- Names that lead into a directory: to any depth if it is taken with all below it, and to its own
entries otherwise. -/
def isInside (recursive : Bool) (directory names : List String) : Bool :=
  (below? directory names).any fun rest => recursive || rest.length == 1

theorem isInside_iff {recursive : Bool} {directory names : List String} :
    isInside recursive directory names ↔
      ∃ rest, (rest ≠ [] ∧ names = directory ++ rest) ∧ (recursive ∨ rest.length = 1) := by
  simp only [isInside, Option.any_eq_true, below?_eq_some_iff, Bool.or_eq_true, beq_iff_eq]

/-- A path without steps upwards goes down to the directory of its names. -/
theorem mem_filesIn_iff_mem_follow {recursive : Bool} {base : Place} {path : List String} {f : Found}
    (hlinks : s.LinkFree base) (hup : ".." ∉ path) :
    f ∈ s.filesIn recursive base path ↔ s.isDirectory (base ++ namesOf path) ∧
      ∃ g ∈ s.follow (if recursive then none else some 1) (maxLinks + 1) maxLinks
        (base ++ namesOf path), ⟨namesOf path ++ g.names, g.place⟩ = f := by
  constructor
  · intro h
    unfold filesIn at h
    split at h
    · contradiction
    · rename_i place left hresolve
      split at h
      · rename_i hdir
        have hleads := leads_of_resolve? hlinks (fun hmem => absurd hmem hup) hresolve
        obtain rfl := hleads.eq_append hup
        obtain rfl : maxLinks = left := by simpa [hleads.resolve? maxLinks] using hresolve
        exact ⟨hdir, List.mem_map.1 h⟩
      · contradiction
  · rintro ⟨hdir, h⟩
    rw [filesIn, (leads_of_isDirectory hup hdir).resolve? maxLinks]
    dsimp only
    rw [if_pos hdir]
    exact List.mem_map.2 h

theorem getLastD_append_of_ne_nil {rest : List String} (hne : rest ≠ []) (names : List String) :
    (names ++ rest).getLastD "" = rest.getLastD "" := by
  simp [List.getLast?_eq_some_getLast hne]

/-- The files in a directory of a tree without links are those whose names lead into it. -/
theorem mem_filesIn_of_linkFree {recursive : Bool} {base : Place} {path : List String} {f : Found}
    (hlinks : s.LinkFree base) (hup : ".." ∉ path) :
    f ∈ s.filesIn recursive base path ↔
      isInside recursive (namesOf path) f.names ∧ endsInPy (f.names.getLastD "") ∧
        f.place = base ++ f.names ∧ ∃ text, s.get? (base ++ f.names) = some (.file text) := by
  have hdepth (rest : List String) (hne : rest ≠ []) :
      (if recursive then none else some 1).any (fun n => n < rest.length) = false ↔
        recursive ∨ rest.length = 1 := by
    have hpos : 0 < rest.length := List.length_pos_iff.2 hne
    cases recursive with
    | true => simp
    | false =>
      simp only [Bool.false_eq_true, if_false, Option.any_some, decide_eq_false_iff_not, false_or]
      omega
  rw [mem_filesIn_iff_mem_follow hlinks hup, isInside_iff]
  constructor
  · rintro ⟨-, g, hg, rfl⟩
    obtain ⟨hne, hlength, hpy, hplace, hfile⟩ := (mem_follow_of_linkFree (hlinks.append _)).1 hg
    refine ⟨⟨g.names, ⟨hne, rfl⟩, (hdepth _ hne).1 hlength⟩, ?_, ?_, ?_⟩
    · rwa [getLastD_append_of_ne_nil hne]
    · rwa [← List.append_assoc]
    · rwa [← List.append_assoc]
  · rintro ⟨⟨rest, ⟨hne, hnames⟩, hlength⟩, hpy, hplace, text, hget⟩
    rw [hnames] at hpy hplace hget
    rw [← List.append_assoc] at hplace hget
    refine ⟨isDirectory_of_get?_append hne hget, ⟨rest, f.place⟩, ?_, by rw [← hnames]⟩
    exact (mem_follow_of_linkFree (hlinks.append _)).2
      ⟨hne, (hdepth rest hne).2 hlength, getLastD_append_of_ne_nil hne _ ▸ hpy, hplace, text, hget⟩

/-! ### One more node -/

theorem get?_set {p q : Place} {node : FileNode} (h : s.admits p node) :
    (s.set p node).get? q = if q = p then some node else s.get? q := by
  have hp : p ≠ [] := by
    rintro rfl
    simp [admits] at h
  rw [set, dif_pos h]
  by_cases hq : q = []
  · simp [hq, get?, hp.symm]
  · rw [get?_of_ne_nil hq, get?_of_ne_nil hq]
    exact get?_insert_place s.nodes p q node

theorem working_set (s : Snapshot) (p : Place) (node : FileNode) :
    (s.set p node).working = s.working := by
  unfold set
  split <;> rfl

/-- A file takes the place of no directory. -/
theorem isDirectory_set {p : Place} {text : Option String} (h : s.admits p (.file text))
    (q : Place) : (s.set p (.file text)).isDirectory q = s.isDirectory q := by
  have hdirectory : s.isDirectory p = false := by
    simp only [admits, Bool.and_eq_true, Bool.or_eq_true, Bool.not_eq_true'] at h
    exact h.2.resolve_left (by simp)
  rw [isDirectory, get?_set h]
  split
  · rename_i hq
    rw [hq, hdirectory]
    simp
  · rfl

end LayerCheck.Snapshot
