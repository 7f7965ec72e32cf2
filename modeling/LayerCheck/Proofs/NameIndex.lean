import LayerCheck.NameIndex
import LayerCheck.Proofs.Canonical
import Mathlib.Data.List.Induction
import Mathlib.Data.List.Nodup

/-!
Dependencies by name are exact: each source depends once on each indexed element and line for which
its file has a reference on that line whose probe is the short name of the element.
-/

namespace LayerCheck.NameIndex

/-! ### The index -/

theorem candidates_insert (index : NameIndex) (e : Element) (probe : String) :
    (index.insert e).candidates probe =
      if probe = e.shortName then (index.candidates probe).insert e else index.candidates probe := by
  simp only [candidates, insert, OrderedMap.get?_upsert, Std.LawfulEqOrd.compare_eq_iff_eq]
  split
  · rename_i heq
    rw [heq, Option.getD_some]
  · rfl

/-- The index holds the elements it was made of, each under its short name. -/
theorem mem_candidates {elements : List Element} (h : ∀ e ∈ elements, e.IsCanonical)
    {probe : String} {e : Element} :
    e ∈ (ofList elements).candidates probe ↔ e ∈ elements ∧ e.shortName = probe := by
  induction elements using List.reverseRecOn generalizing e with
  | nil => simp [ofList, candidates]
  | append_singleton elements x ih =>
    have helements : ∀ e ∈ elements, e.IsCanonical := fun e he => h e (by simp [he])
    have hx : x.IsCanonical := h x (by simp)
    have hheld : ∀ y ∈ (ofList elements).candidates probe, y.IsCanonical :=
      fun y hy => helements y ((ih helements).1 hy).1
    have hstep : ofList (elements ++ [x]) = (ofList elements).insert x := by
      simp [ofList]
    rw [hstep, candidates_insert]
    split
    · rename_i heq
      rw [OrderedSet.mem_insert Element.lawfulOn_isCanonical hheld hx, ih helements]
      grind
    · rename_i hne
      rw [ih helements]
      grind

/-- Whatever elements are indexed, candidates are among them. -/
theorem mem_of_mem_candidates {elements : List Element} {probe : String} {e : Element}
    (h : e ∈ (ofList elements).candidates probe) : e ∈ elements ∧ e.shortName = probe := by
  induction elements using List.reverseRecOn with
  | nil => simp [ofList, candidates] at h
  | append_singleton elements x ih =>
    have hstep : ofList (elements ++ [x]) = (ofList elements).insert x := by
      simp [ofList]
    rw [hstep, candidates_insert] at h
    split at h
    · rename_i hprobe
      rcases mem_insertSorted h with rfl | hmem
      · exact ⟨by simp, hprobe.symm⟩
      · exact ⟨by simp [(ih hmem).1], (ih hmem).2⟩
    · exact ⟨by simp [(ih h).1], (ih h).2⟩

/-- Of indexed elements that compare equal, one is a candidate for their short name. -/
theorem exists_candidate {elements : List Element} {e : Element} (h : e ∈ elements) :
    ∃ x ∈ (ofList elements).candidates e.shortName, compare e x = .eq := by
  induction elements using List.reverseRecOn with
  | nil => contradiction
  | append_singleton elements y ih =>
    have hstep : ofList (elements ++ [y]) = (ofList elements).insert y := by
      simp [ofList]
    rw [hstep, candidates_insert]
    rcases List.mem_append.1 h with hmem | hy
    · obtain ⟨x, hx, hex⟩ := ih hmem
      split
      · exact ⟨x, mem_insertSorted_of_mem hx, hex⟩
      · exact ⟨x, hx, hex⟩
    · obtain rfl := List.mem_singleton.1 hy
      rw [if_pos rfl]
      exact exists_mem_insertSorted e _

theorem mem_targets {index : NameIndex} {references : List Reference} {target : Element}
    {line : Nat} :
    (target, line) ∈ index.targets references ↔
      ∃ r ∈ references, r.line = line ∧ target ∈ index.candidates r.probe := by
  simp only [targets, List.mem_flatMap, List.mem_map, Prod.mk.injEq, OrderedSet.mem_toList]
  grind

/-! ### Leaving out what is there already -/

/-- The list with a dependency at its end, unless an equal one is in it. -/
def keepNew (edges : List Dependency) (d : Dependency) : List Dependency :=
  if edges.any (compare d · == .eq) then edges else edges ++ [d]

theorem mem_foldl_keepNew {ds edges : List Dependency} (hds : ∀ d ∈ ds, d.IsCanonical)
    (hedges : ∀ d ∈ edges, d.IsCanonical) {x : Dependency} :
    x ∈ ds.foldl keepNew edges ↔ x ∈ edges ∨ x ∈ ds := by
  induction ds generalizing edges with
  | nil => simp
  | cons d ds ih =>
    obtain ⟨hd, hds⟩ := List.forall_mem_cons.1 hds
    have hmem (y : Dependency) : y ∈ keepNew edges d ↔ y ∈ edges ∨ y = d := by
      unfold keepNew
      split
      · rename_i hold
        simp only [List.any_eq_true, beq_iff_eq] at hold
        obtain ⟨z, hz, hcompare⟩ := hold
        have heq : d = z := Dependency.lawfulOn_isCanonical hd (hedges z hz) hcompare
        grind
      · simp
    have hkept : ∀ y ∈ keepNew edges d, y.IsCanonical := by
      intro y hy
      rcases (hmem y).1 hy with hy | rfl
      · exact hedges y hy
      · exact hd
    rw [List.foldl_cons, ih hds hkept, hmem, List.mem_cons, or_assoc]

theorem mem_of_mem_foldl_keepNew {ds edges : List Dependency} {x : Dependency}
    (h : x ∈ ds.foldl keepNew edges) : x ∈ edges ∨ x ∈ ds := by
  induction ds generalizing edges with
  | nil => exact .inl h
  | cons d ds ih =>
    rcases ih h with hkept | hmem
    · unfold keepNew at hkept
      split at hkept
      · exact .inl hkept
      · rcases List.mem_append.1 hkept with hmem | hd
        · exact .inl hmem
        · exact .inr (by simp [List.mem_singleton.1 hd])
    · exact .inr (List.mem_cons_of_mem d hmem)

/-- What is left out compares equal to something that is kept. -/
theorem exists_mem_foldl_keepNew {ds edges : List Dependency} {d : Dependency}
    (h : d ∈ edges ∨ d ∈ ds) : ∃ x ∈ ds.foldl keepNew edges, compare d x = .eq := by
  induction ds generalizing edges d with
  | nil => exact ⟨d, by simpa using h, Std.ReflCmp.compare_self⟩
  | cons e ds ih =>
    have hkept : ∃ y ∈ keepNew edges e, compare e y = .eq := by
      unfold keepNew
      split
      · rename_i hold
        simpa using hold
      · exact ⟨e, by simp, Std.ReflCmp.compare_self⟩
    have hedges : edges ⊆ keepNew edges e := by
      unfold keepNew
      split <;> simp
    rw [List.foldl_cons]
    rcases h with h | h
    · exact ih (.inl (hedges h))
    · rcases List.mem_cons.1 h with rfl | h
      · obtain ⟨y, hy, hdy⟩ := hkept
        obtain ⟨x, hx, hyx⟩ := ih (.inl hy)
        exact ⟨x, hx, Std.TransCmp.eq_trans hdy hyx⟩
      · exact ih (.inr h)

theorem pairwise_foldl_keepNew (ds : List Dependency) {edges : List Dependency}
    (h : edges.Pairwise (compare · · ≠ .eq)) :
    (ds.foldl keepNew edges).Pairwise (compare · · ≠ .eq) := by
  induction ds generalizing edges with
  | nil => exact h
  | cons d ds ih =>
    refine ih ?_
    unfold keepNew
    split
    · exact h
    · rename_i hnew
      simp only [List.any_eq_true, beq_iff_eq, not_exists, not_and] at hnew
      refine List.pairwise_append.2 ⟨h, List.pairwise_singleton _ d, fun x hx y hy heq => ?_⟩
      rw [List.mem_singleton.1 hy] at heq
      exact hnew x hx (Std.OrientedCmp.eq_symm heq)

/-! ### Edges -/

theorem edgesFrom_eq (index : NameIndex) (references : List Reference) (source : Element) :
    index.edgesFrom references source =
      ((index.targets references).map fun (target, line) => ⟨source, target, line⟩).foldl keepNew [] :=
  rfl

theorem pairwise_edgesFrom (index : NameIndex) (references : List Reference) (source : Element) :
    (index.edgesFrom references source).Pairwise (compare · · ≠ .eq) := by
  rw [edgesFrom_eq]
  exact pairwise_foldl_keepNew _ .nil

theorem nodup_edgesFrom (index : NameIndex) (references : List Reference) (source : Element) :
    (index.edgesFrom references source).Nodup := by
  refine (pairwise_edgesFrom index references source).imp fun {d d'} hne heq => hne ?_
  rw [heq]
  exact Std.ReflCmp.compare_self

theorem source_eq_of_mem_edgesFrom {index : NameIndex} {references : List Reference}
    {source : Element} {d : Dependency} (h : d ∈ index.edgesFrom references source) :
    d.source = source ∧ (d.target, d.line) ∈ index.targets references := by
  rw [edgesFrom_eq] at h
  have hmem := (mem_of_mem_foldl_keepNew h).resolve_left List.not_mem_nil
  obtain ⟨⟨target, line⟩, htarget, rfl⟩ := List.mem_map.1 hmem
  exact ⟨rfl, htarget⟩

theorem exists_mem_edgesFrom {index : NameIndex} {references : List Reference} (source : Element)
    {target : Element} {line : Nat} (h : (target, line) ∈ index.targets references) :
    ∃ d ∈ index.edgesFrom references source, compare ⟨source, target, line⟩ d = .eq := by
  rw [edgesFrom_eq]
  exact exists_mem_foldl_keepNew (.inr (List.mem_map.2 ⟨(target, line), h, rfl⟩))

section Edges

variable {elements : List Element} (helements : ∀ e ∈ elements, e.IsCanonical)
include helements

theorem mem_edgesFrom {references : List Reference} {source : Element} (hsource : source.IsCanonical)
    {d : Dependency} :
    d ∈ (ofList elements).edgesFrom references source ↔
      d.source = source ∧ d.target ∈ elements ∧
        ∃ r ∈ references, r.line = d.line ∧ r.probe = d.target.shortName := by
  have hcanonical : ∀ x ∈ ((ofList elements).targets references).map
      (fun (target, line) => (⟨source, target, line⟩ : Dependency)), x.IsCanonical := by
    intro x hx
    obtain ⟨⟨target, line⟩, hmem, rfl⟩ := List.mem_map.1 hx
    obtain ⟨r, -, -, htarget⟩ := mem_targets.1 hmem
    exact ⟨hsource, helements target ((mem_candidates helements).1 htarget).1⟩
  rw [edgesFrom_eq, mem_foldl_keepNew hcanonical (by simp)]
  simp only [List.not_mem_nil, false_or, List.mem_map, Prod.exists, mem_targets,
    mem_candidates helements]
  constructor
  · rintro ⟨target, line, ⟨r, hr, hline, htarget, hprobe⟩, rfl⟩
    exact ⟨rfl, htarget, r, hr, hline, hprobe.symm⟩
  · rintro ⟨rfl, htarget, r, hr, hline, hprobe⟩
    exact ⟨d.target, d.line, ⟨r, hr, hline, htarget, hprobe.symm⟩, rfl⟩

/-- A source depends on an element, on a line, if a reference of its file on that line has the short
name of the element as its probe. -/
theorem mem_edges {facts : Path → Facts} {sources : List Element}
    (hsources : ∀ e ∈ sources, e.IsCanonical) {d : Dependency} :
    d ∈ (ofList elements).edges facts sources ↔
      d.source ∈ sources ∧ d.target ∈ elements ∧
        ∃ r ∈ (facts d.source.file).references, r.line = d.line ∧ r.probe = d.target.shortName := by
  rw [edges, List.mem_flatMap]
  constructor
  · rintro ⟨source, hsource, hd⟩
    obtain ⟨rfl, htarget, href⟩ := (mem_edgesFrom helements (hsources source hsource)).1 hd
    exact ⟨hsource, htarget, href⟩
  · rintro ⟨hsource, htarget, href⟩
    exact ⟨d.source, hsource,
      (mem_edgesFrom helements (hsources _ hsource)).2 ⟨rfl, htarget, href⟩⟩

theorem nodup_edges {facts : Path → Facts} {sources : List Element}
    (hsources : ∀ e ∈ sources, e.IsCanonical) (hnodup : sources.Nodup) :
    ((ofList elements).edges facts sources).Nodup := by
  refine List.nodup_flatMap.2 ⟨fun source _ => nodup_edgesFrom _ _ source, ?_⟩
  refine hnodup.imp_of_mem fun {a b} ha hb hne d hda hdb => hne ?_
  rw [← ((mem_edgesFrom helements (hsources a ha)).1 hda).1,
    ((mem_edgesFrom helements (hsources b hb)).1 hdb).1]

end Edges

end LayerCheck.NameIndex
