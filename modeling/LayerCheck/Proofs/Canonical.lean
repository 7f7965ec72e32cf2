import LayerCheck.Project.Snapshot
import LayerCheck.Proofs.OrderedSet
import LayerCheck.Proofs.Segments
import LayerCheck.Violation

/-!
Canonical paths: those that places have. The path of a place gives its names back, so canonical paths
compare equal only if they are one text, and so do elements and violations in such files.
-/

namespace LayerCheck

/-! ### Names of entries -/

theorem isEntryName_iff {name : String} :
    isEntryName name ↔ name ≠ "" ∧ name ≠ "." ∧ name ≠ ".." ∧ '/' ∉ name.toList := by
  simp [isEntryName, and_assoc]

theorem Place.Named.slash_not_mem {p : Place} (h : p.Named) {name : String} (hname : name ∈ p) :
    '/' ∉ name.toList :=
  (isEntryName_iff.1 (h name hname)).2.2.2

namespace Path

theorem text_ofNames {p : Place} (hne : p ≠ []) :
    (ofNames p).text = Segments.join '/' ("" :: p) := by
  rw [← List.singleton_append, Segments.join_append (by simp) hne]
  rfl

theorem segments_ofNames {p : Place} (h : p.Named) (hne : p ≠ []) :
    (ofNames p).segments = "" :: p := by
  rw [segments, text_ofNames hne]
  refine Segments.split_join (by simp) fun s hs => ?_
  rcases List.mem_cons.1 hs with rfl | hs
  · simp
  · exact h.slash_not_mem hs

theorem flatMap_interior {p : Place} (h : p.Named) : p.flatMap interior = p.map .name := by
  induction p with
  | nil => rfl
  | cons n ns ih =>
    obtain ⟨hn, hns⟩ := List.forall_mem_cons.1 h
    obtain ⟨h1, h2, h3, -⟩ := isEntryName_iff.1 hn
    simp [interior, Component.ofSegment, h1, h2, h3, ih hns]

theorem components_ofNames {p : Place} (h : p.Named) :
    (ofNames p).components = .root :: p.map .name := by
  by_cases hne : p = []
  · subst hne
    decide
  · have hrest : p.isEmpty = false := by simpa using hne
    simp [components, segments_ofNames h hne, leading, hne, flatMap_interior h]

/-- A path that leads down from the root, as a place has it. -/
def IsCanonical (p : Path) : Prop :=
  ∃ place : Place, place.Named ∧ p = ofNames place

theorem ofNames_inj {p q : Place} (hp : p.Named) (hq : q.Named)
    (h : compare (ofNames p) (ofNames q) = .eq) : p = q := by
  have h : compare (ofNames p).components (ofNames q).components = .eq := h
  have hcomponents := Std.LawfulEqOrd.eq_of_compare h
  rw [components_ofNames hp, components_ofNames hq] at hcomponents
  have hmap : p.map Component.name = q.map Component.name := (List.cons.inj hcomponents).2
  exact (List.map_inj_right fun _ _ => Component.name.inj).1 hmap

theorem lawfulOn_isCanonical : LawfulOn IsCanonical := by
  rintro _ _ ⟨p, hp, rfl⟩ ⟨q, hq, rfl⟩ h
  rw [ofNames_inj hp hq h]

end Path

/-! ### Elements and violations -/

theorem eq_of_compareLex {α : Type} {f g : α → α → Ordering} {a b : α}
    (h : compareLex f g a b = .eq) : f a b = .eq ∧ g a b = .eq :=
  Ordering.then_eq_eq.1 h

theorem ElementKind.eq_of_compare {a b : ElementKind} (h : compare a b = .eq) : a = b := by
  revert h
  cases a <;> cases b <;> decide

theorem ViolationType.eq_of_compare {a b : ViolationType} (h : compare a b = .eq) : a = b := by
  revert h
  cases a <;> cases b <;> decide

theorem Element.place_eq_of_compare {a b : Element} (h : compare a b = .eq) :
    a.kind = b.kind ∧ a.line = b.line ∧ a.column = b.column := by
  obtain ⟨-, h⟩ := eq_of_compareLex h
  obtain ⟨-, h⟩ := eq_of_compareLex h
  obtain ⟨hkind, h⟩ := eq_of_compareLex h
  obtain ⟨hline, hcolumn⟩ := eq_of_compareLex h
  exact ⟨ElementKind.eq_of_compare hkind, Std.LawfulEqOrd.eq_of_compare hline,
    Std.LawfulEqOrd.eq_of_compare hcolumn⟩

/-- The file of the element is given by a canonical path. -/
def Element.IsCanonical (e : Element) : Prop :=
  e.file.IsCanonical

theorem Element.lawfulOn_isCanonical : LawfulOn Element.IsCanonical := by
  intro a b ha hb h
  obtain ⟨hkind, hline, hcolumn⟩ := Element.place_eq_of_compare h
  obtain ⟨hfile, h⟩ := eq_of_compareLex h
  obtain ⟨hname, -⟩ := eq_of_compareLex h
  have hfile : a.file = b.file := Path.lawfulOn_isCanonical ha hb hfile
  have hname : a.name = b.name := Std.LawfulEqOrd.eq_of_compare hname
  cases a
  cases b
  simp_all

/-- Both ends of the dependency are in files given by canonical paths. -/
def Dependency.IsCanonical (d : Dependency) : Prop :=
  d.source.IsCanonical ∧ d.target.IsCanonical

theorem Dependency.lawfulOn_isCanonical : LawfulOn Dependency.IsCanonical := by
  intro a b ha hb h
  obtain ⟨hsource, h⟩ := eq_of_compareLex h
  obtain ⟨htarget, hline⟩ := eq_of_compareLex h
  have hsource : a.source = b.source := Element.lawfulOn_isCanonical ha.1 hb.1 hsource
  have htarget : a.target = b.target := Element.lawfulOn_isCanonical ha.2 hb.2 htarget
  have hline : a.line = b.line := Std.LawfulEqOrd.eq_of_compare hline
  cases a
  cases b
  simp_all

/-- The file of the violation is given by a canonical path. -/
def Violation.IsCanonical (v : Violation) : Prop :=
  v.file.IsCanonical

theorem Violation.lawfulOn_isCanonical : LawfulOn Violation.IsCanonical := by
  intro a b ha hb h
  obtain ⟨hfile, h⟩ := eq_of_compareLex h
  obtain ⟨hline, h⟩ := eq_of_compareLex h
  obtain ⟨hcolumn, h⟩ := eq_of_compareLex h
  obtain ⟨hname, h⟩ := eq_of_compareLex h
  obtain ⟨hkind, h⟩ := eq_of_compareLex h
  obtain ⟨htype, hmessage⟩ := eq_of_compareLex h
  have hfile : a.file = b.file := Path.lawfulOn_isCanonical ha hb hfile
  have hline : a.line = b.line := Std.LawfulEqOrd.eq_of_compare hline
  have hcolumn : a.column = b.column := Std.LawfulEqOrd.eq_of_compare hcolumn
  have hname : a.elementName = b.elementName := Std.LawfulEqOrd.eq_of_compare hname
  have hkind : a.elementKind = b.elementKind := ElementKind.eq_of_compare hkind
  have htype : a.type = b.type := ViolationType.eq_of_compare htype
  have hmessage : a.message = b.message := Std.LawfulEqOrd.eq_of_compare hmessage
  cases a
  cases b
  simp_all

end LayerCheck
