import LayerCheck.Module.Source
import LayerCheck.Proofs.Except
import LayerCheck.Proofs.Segments
import LayerCheck.Proofs.Streaming
import LayerCheck.Proofs.Traversal

/-!
Some references never make a difference to the dependencies of a module. A call of a name goes with a
read of the name at the same line, and no element is found by the text of an attribute.
-/

namespace LayerCheck

/-- Each call is followed by a read of the same name at the same line, and the text of an attribute has
a dot. -/
inductive Accompanied : List Reference → Prop
  | nil : Accompanied []
  | other {r : Reference} {rs : List Reference} (hcall : r.kind ≠ .call)
      (hattribute : r.kind = .attribute → '.' ∈ r.probe.toList) (h : Accompanied rs) :
      Accompanied (r :: rs)
  | call {probe : String} {line : Nat} {rs : List Reference} (h : Accompanied rs) :
      Accompanied (⟨.call, probe, line⟩ :: ⟨.name, probe, line⟩ :: rs)

namespace Accompanied

variable {rs ss : List Reference}

theorem append (h : Accompanied rs) (h' : Accompanied ss) : Accompanied (rs ++ ss) := by
  induction h with
  | nil => exact h'
  | other hcall hattribute _ ih => exact .other hcall hattribute ih
  | call _ ih => exact .call ih

/-- References of another kind need no company. -/
theorem of_forall (h : ∀ r ∈ rs, r.kind ≠ .call ∧ r.kind ≠ .attribute) : Accompanied rs := by
  induction rs with
  | nil => exact .nil
  | cons r rs ih =>
    obtain ⟨⟨hcall, hattribute⟩, hrs⟩ := List.forall_mem_cons.1 h
    exact .other hcall (fun hkind => absurd hkind hattribute) (ih hrs)

theorem load_mem (h : Accompanied rs) {r : Reference} (hr : r ∈ rs) (hkind : r.kind = .call) :
    ⟨.name, r.probe, r.line⟩ ∈ rs := by
  induction h with
  | nil => contradiction
  | other hcall _ _ ih =>
    rcases List.mem_cons.1 hr with rfl | hr
    · contradiction
    · exact List.mem_cons_of_mem _ (ih hr)
  | call _ ih =>
    rcases List.mem_cons.1 hr with rfl | hr
    · simp
    · rcases List.mem_cons.1 hr with rfl | hr
      · contradiction
      · exact List.mem_cons_of_mem _ (List.mem_cons_of_mem _ (ih hr))

theorem dot_mem (h : Accompanied rs) {r : Reference} (hr : r ∈ rs) (hkind : r.kind = .attribute) :
    '.' ∈ r.probe.toList := by
  induction h with
  | nil => contradiction
  | other _ hattribute _ ih =>
    rcases List.mem_cons.1 hr with rfl | hr
    · exact hattribute hkind
    · exact ih hr
  | call _ ih =>
    rcases List.mem_cons.1 hr with rfl | hr
    · contradiction
    · rcases List.mem_cons.1 hr with rfl | hr
      · contradiction
      · exact ih hr

end Accompanied

theorem compositional_accompanied : Syntax.Compositional fun rs _ => Accompanied rs where
  nil := .nil
  append h h' := h.append h'
  read _ _ := .of_forall (by simp)
  unread _ _ := .nil
  qualified _ _ := .other (by simp) (by simp) (.of_forall (by simp))
  called _ := .call .nil
  start _ := .nil
  imported _ _ h := by
    refine .of_forall fun r hr => ?_
    rcases (h r hr).1 with hkind | hkind <;> simp [hkind]

theorem Syntax.Module.accompanied (m : Syntax.Module) : Accompanied m.references :=
  compositional_accompanied.module m

/-! ### Dependencies -/

namespace NameIndex

/-- No element is found by a text with a dot, whatever its name. -/
theorem candidates_eq_empty (elements : List Element) {probe : String} (h : '.' ∈ probe.toList) :
    ((ofList elements).candidates probe).toList = [] := by
  refine List.eq_nil_iff_forall_not_mem.2 fun e he => ?_
  obtain ⟨-, rfl⟩ := mem_of_mem_candidates he
  exact Segments.not_mem_last '.' e.name h

/-- The dependencies that a reference adds to those that are there. -/
def answer (index : NameIndex) (source : Element) (edges : List Dependency) (r : Reference) :
    List Dependency :=
  ((index.candidates r.probe).toList.map fun target => ⟨source, target, r.line⟩).foldl keepNew edges

theorem edgesFrom_eq_foldl_answer (index : NameIndex) (references : List Reference)
    (source : Element) :
    index.edgesFrom references source = references.foldl (index.answer source) [] := by
  rw [edgesFrom_eq, targets, List.map_flatMap, List.foldl_flatMap]
  refine congrArg (references.foldl · []) (funext fun edges => funext fun r => ?_)
  rw [List.map_map]
  rfl

theorem foldl_keepNew_eq {ds edges : List Dependency}
    (h : ∀ d ∈ ds, ∃ x ∈ edges, compare d x = .eq) : ds.foldl keepNew edges = edges := by
  induction ds with
  | nil => rfl
  | cons d ds ih =>
    obtain ⟨hd, hds⟩ := List.forall_mem_cons.1 h
    have hkeep : keepNew edges d = edges := by
      unfold keepNew
      rw [if_pos (by simpa using hd)]
    rw [List.foldl_cons, hkeep, ih hds]

/-- Asking the same again adds nothing. -/
theorem answer_answer (index : NameIndex) (source : Element) (edges : List Dependency)
    {r r' : Reference} (hprobe : r.probe = r'.probe) (hline : r.line = r'.line) :
    index.answer source (index.answer source edges r) r' = index.answer source edges r' := by
  unfold answer
  rw [hprobe, hline]
  exact foldl_keepNew_eq fun d hd => exists_mem_foldl_keepNew (.inr hd)

end NameIndex

/-- The references that are neither calls nor attributes. -/
def Facts.essential (f : Facts) : Facts :=
  { f with references := f.references.filter fun r => r.kind ≠ .call ∧ r.kind ≠ .attribute }

namespace NameIndex

theorem foldl_answer_filter {references : List Reference} (h : Accompanied references)
    (elements : List Element) (source : Element) (edges : List Dependency) :
    references.foldl ((ofList elements).answer source) edges =
      (references.filter fun r => r.kind ≠ .call ∧ r.kind ≠ .attribute).foldl
        ((ofList elements).answer source) edges := by
  induction h generalizing edges with
  | nil => rfl
  | @other r rs hcall hattribute _ ih =>
    by_cases hkind : r.kind = .attribute
    · have hanswer : (ofList elements).answer source edges r = edges := by
        rw [answer, candidates_eq_empty elements (hattribute hkind)]
        rfl
      rw [List.foldl_cons, hanswer, ih, List.filter_cons_of_neg (by simp [hkind])]
    · rw [List.foldl_cons, ih, List.filter_cons_of_pos (by simp [hcall, hkind])]
      rfl
  | @call probe line rs _ ih =>
    have hload : (ofList elements).answer source
        ((ofList elements).answer source edges ⟨.call, probe, line⟩) ⟨.name, probe, line⟩ =
        (ofList elements).answer source edges ⟨.name, probe, line⟩ := answer_answer _ _ _ rfl rfl
    rw [List.foldl_cons, List.foldl_cons, hload, ih, List.filter_cons_of_neg (by simp),
      List.filter_cons_of_pos (by simp)]
    rfl

theorem edgesFrom_essential {f : Facts} (h : Accompanied f.references) (elements : List Element)
    (source : Element) :
    (ofList elements).edgesFrom f.essential.references source =
      (ofList elements).edgesFrom f.references source := by
  rw [edgesFrom_eq_foldl_answer, edgesFrom_eq_foldl_answer]
  exact (foldl_answer_filter h elements source []).symm

end NameIndex

/-- The facts of a file are those of its tree, or none if it has no tree. -/
def Facts.ofTree (m? : Option Syntax.Module) : Facts :=
  (m?.map Facts.ofModule).getD {}

theorem Facts.accompanied_ofTree (m? : Option Syntax.Module) :
    Accompanied (ofTree m?).references := by
  cases m? with
  | none => exact .nil
  | some m => exact m.accompanied

namespace NameIndex

/-- Calls go with reads of the name and attributes find nothing, whatever elements are indexed, so that
the same dependencies are passed in the same order without both. -/
theorem calls_and_attributes_add_nothing (elements : List Element) :
    (∀ m : Syntax.Module, (∀ r ∈ m.references, r.kind = .call →
        ∃ r' ∈ m.references, r'.kind = .name ∧ r'.probe = r.probe ∧ r'.line = r.line) ∧
      ∀ r ∈ m.references, r.kind = .attribute →
        ((ofList elements).candidates r.probe).toList = []) ∧
    ∀ (trees : Path → Option Syntax.Module) (sources : List Element),
      (ofList elements).edges (fun p => (Facts.ofTree (trees p)).essential) sources =
        (ofList elements).edges (fun p => Facts.ofTree (trees p)) sources ∧
      ∀ {σ : Type} (sink : σ → Dependency → σ) (start : σ),
        (ofList elements).forEach (fun p => (Facts.ofTree (trees p)).essential) sink sources start =
          (ofList elements).forEach (fun p => Facts.ofTree (trees p)) sink sources start := by
  refine ⟨fun m => ⟨fun r hr hkind => ?_, fun r hr hkind => ?_⟩, fun trees sources => ?_⟩
  · exact ⟨_, m.accompanied.load_mem hr hkind, rfl, rfl, rfl⟩
  · exact candidates_eq_empty elements (m.accompanied.dot_mem hr hkind)
  · have hedges : (ofList elements).edges (fun p => (Facts.ofTree (trees p)).essential) sources =
        (ofList elements).edges (fun p => Facts.ofTree (trees p)) sources :=
      List.flatMap_congr fun source _ =>
        edgesFrom_essential (Facts.accompanied_ofTree (trees source.file)) elements source
    refine ⟨hedges, fun sink start => ?_⟩
    rw [forEach_eq, forEach_eq, hedges]

theorem calls_and_attributes_add_nothing_namesakes : ∃ m, Syntax.parse "A(B.A)\nA.A(A)" = .ok m ∧
    m.references = [⟨.call, "A", 1⟩, ⟨.name, "A", 1⟩, ⟨.attribute, "B.A", 1⟩, ⟨.name, "B", 1⟩,
      ⟨.attribute, "A.A", 2⟩, ⟨.name, "A", 2⟩, ⟨.name, "A", 2⟩] ∧
    (ofList namesakes).forEach (fun _ => (Facts.ofTree (some m)).essential) (fun n _ => n + 1)
      namesakes 0 = (12, 12) := by
  obtain ⟨m, hm, hfacts⟩ : ∃ m, Syntax.parse "A(B.A)\nA.A(A)" = .ok m ∧
      (m.references, (ofList namesakes).forEach (fun _ => Facts.ofTree (some m)) (fun n _ => n + 1)
        namesakes 0) =
      ([⟨.call, "A", 1⟩, ⟨.name, "A", 1⟩, ⟨.attribute, "B.A", 1⟩, ⟨.name, "B", 1⟩,
        ⟨.attribute, "A.A", 2⟩, ⟨.name, "A", 2⟩, ⟨.name, "A", 2⟩], 12, 12) :=
    Except.exists_of_map_toOption (by decide +kernel)
  obtain ⟨hreferences, hpassed⟩ := Prod.mk.inj hfacts
  have hsame := ((calls_and_attributes_add_nothing namesakes).2 (fun _ => some m) namesakes).2
    (fun n _ => n + 1) 0
  exact ⟨m, hm, hreferences, hsame.trans hpassed⟩

end NameIndex

end LayerCheck
