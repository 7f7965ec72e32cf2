import LayerCheck.Proofs.TextOrder

/-!
The identifiers that a module reads. Each identifier of a text stands in one slot, and it makes a
reference by name if and only if that slot is read. Most places that bind a name are not read.
-/

namespace LayerCheck

namespace Syntax

/-- An identifier of a text and the slot it stands in. -/
structure Occurrence where
  slot : Slot
  name : Name
deriving DecidableEq, Repr

def Mark.occurrence? : Mark → Option Occurrence
  | .name slot _ n => some ⟨slot, n⟩
  | .start _ | .line _ => none

/-- The identifiers of a module in the order of the text, each in its slot. -/
def Module.occurrences (m : Module) : List Occurrence :=
  m.marks.filterMap Mark.occurrence?

/-- The reference that an identifier makes where it is read. -/
def Name.load (n : Name) : Reference :=
  ⟨.name, n.text, n.line⟩

def Mark.load? : Mark → Option Reference
  | .name _ isRead n => if isRead then some n.load else none
  | .start _ | .line _ => none

/-- The references by name alone. -/
def loads (references : List Reference) : List Reference :=
  references.filter fun r => r.kind = .name

@[simp] theorem loads_append (rs ss : List Reference) : loads (rs ++ ss) = loads rs ++ loads ss :=
  List.filter_append ..

/-- References by name come from the names that are read. -/
theorem compositional_loads :
    Compositional fun rs marks => loads rs = marks.filterMap Mark.load? where
  nil := rfl
  append h h' := by rw [loads_append, List.filterMap_append, h, h']
  read _ _ := rfl
  unread _ _ := rfl
  qualified _ _ := rfl
  called _ := rfl
  start _ := rfl
  imported _ _ h := by
    refine List.filter_eq_nil_iff.2 fun r hr => ?_
    rcases (h r hr).1 with hkind | hkind <;> simp [hkind]

/-! ### Occurrences -/

/-- Where the slots say what is read, the names that are read are those in slots that are. -/
theorem filterMap_load?_eq {marks : List Mark} (hproper : ∀ mark ∈ marks, mark.Proper) :
    marks.filterMap Mark.load? =
      ((marks.filterMap Mark.occurrence?).filter (·.slot.isRead)).map (·.name.load) := by
  induction marks with
  | nil => rfl
  | cons mark marks ih =>
    obtain ⟨hmark, hmarks⟩ := List.forall_mem_cons.1 hproper
    cases mark with
    | name slot isRead n =>
      obtain rfl : isRead = slot.isRead := hmark
      cases hread : slot.isRead <;>
        simp [-Slot.isRead, Mark.load?, Mark.occurrence?, hread, ih hmarks]
    | start position => simpa [List.filterMap_cons, Mark.load?, Mark.occurrence?] using ih hmarks
    | line number => simpa [List.filterMap_cons, Mark.load?, Mark.occurrence?] using ih hmarks

theorem Module.map_name_occurrences (m : Module) :
    m.occurrences.map (·.name) = identifiers m.marks := by
  rw [Module.occurrences, identifiers, List.map_filterMap]
  refine congrArg (List.filterMap · m.marks) (funext fun mark => ?_)
  cases mark <;> rfl

end Syntax

open Syntax

/-- The identifiers of a text are words of it, each at a place of its own, and those that stand in slots
that are read make the references by name, one each and in this order. -/
theorem loads_are_read_occurrences {source : String} {m : Module} (h : parse source = .ok m) :
    m.occurrences.Pairwise (·.name.position < ·.name.position) ∧
    (∀ o ∈ m.occurrences, ∃ t ∈ wordsOf (scan source),
      t.text = o.name.text ∧ t.position = o.name.position) ∧
    m.references.filter (fun r => r.kind = .name) =
      (m.occurrences.filter (·.slot.isRead)).map fun o => ⟨.name, o.name.text, o.name.line⟩ := by
  refine ⟨?_, fun o ho => ?_, ?_⟩
  · have hpairwise := pairwise_identifiers h
    rw [← m.map_name_occurrences, List.pairwise_map] at hpairwise
    exact hpairwise
  · refine exists_word_of_mem_identifiers h ?_
    rw [← m.map_name_occurrences]
    exact List.mem_map_of_mem ho
  · exact (compositional_loads.module m).trans
      (filterMap_load?_eq fun mark hmark => (marked_of_parse h).proper hmark)

theorem loads_are_read_occurrences_bindings : ∃ m,
    parse ("def f(p: h): x.y = z = (w := g(k=v))\nfor i, *l in r: global c\nimport a as n\n" ++
      "with o as e: [s for s in z]\nmatch z:\n case P(y=t): pass\ntype A = B\n" ++
      "type F[**q] = C[q, D[d].e]") = .ok m ∧
    (m.occurrences.filter (!·.slot.isRead)).map (·.name.text) =
      ["f", "p", "y", "z", "w", "k", "i", "l", "c", "n", "e", "s", "y", "t", "A"] ∧
    (m.references.filter (fun r => r.kind = .name)).map (·.probe) =
      ["h", "x", "g", "v", "r", "o", "s", "z", "z", "P", "B", "F", "q", "C", "q", "D", "d", "e"] := by
  obtain ⟨m, hm, hnames⟩ : ∃ m,
      parse ("def f(p: h): x.y = z = (w := g(k=v))\nfor i, *l in r: global c\nimport a as n\n" ++
        "with o as e: [s for s in z]\nmatch z:\n case P(y=t): pass\ntype A = B\n" ++
        "type F[**q] = C[q, D[d].e]") = .ok m ∧
      ((m.occurrences.filter (!·.slot.isRead)).map (·.name.text),
        (m.occurrences.filter (·.slot.isRead)).map (·.name.text)) =
      (["f", "p", "y", "z", "w", "k", "i", "l", "c", "n", "e", "s", "y", "t", "A"],
        ["h", "x", "g", "v", "r", "o", "s", "z", "z", "P", "B", "F", "q", "C", "q", "D", "d", "e"]) :=
    Except.exists_of_map_toOption (by decide +kernel)
  obtain ⟨hunread, hread⟩ := Prod.mk.inj hnames
  obtain ⟨-, -, hloads⟩ := loads_are_read_occurrences hm
  refine ⟨m, hm, hunread, ?_⟩
  rw [hloads, List.map_map, ← hread]
  rfl

/-- A name is read though it is bound: in brackets after the `as` of a `with` statement, after the `as` of
a pattern, and before the parameters of a type alias. So is a member of a type with arguments. -/
theorem bound_names_are_read : (∃ m, parse "with a as (b, c): pass" = .ok m ∧
      m.occurrences.map (fun o => (o.slot, o.name.text)) =
        [(.value, "a"), (.aliasPart, "b"), (.aliasPart, "c")] ∧
      m.references = [⟨.name, "a", 1⟩, ⟨.name, "b", 1⟩, ⟨.name, "c", 1⟩]) ∧
    (∃ m, parse "match c:\n case k as l: pass" = .ok m ∧
      m.occurrences.map (fun o => (o.slot, o.name.text)) =
        [(.value, "c"), (.bound .capture, "k"), (.patternAlias, "l")] ∧
      m.references = [⟨.name, "c", 1⟩, ⟨.name, "l", 2⟩]) ∧
    (∃ m, parse "type X[T] = Y" = .ok m ∧
      m.occurrences.map (fun o => (o.slot, o.name.text)) =
        [(.genericAlias, "X"), (.typeParameter, "T"), (.value, "Y")] ∧
      m.references = [⟨.name, "X", 1⟩, ⟨.name, "T", 1⟩, ⟨.name, "Y", 1⟩]) ∧
    ∃ m, parse "x: A[b].c" = .ok m ∧
      m.occurrences.map (fun o => (o.slot, o.name.text)) =
        [(.bound .target, "x"), (.value, "A"), (.value, "b"), (.typeMember, "c")] ∧
      m.references = [⟨.name, "A", 1⟩, ⟨.name, "b", 1⟩, ⟨.name, "c", 1⟩] := by
  have hfacts {source : String} {slots : List (Slot × String)} {references : List Reference}
      (h : (parse source).toOption.map (fun m =>
        (m.occurrences.map fun o => (o.slot, o.name.text), m.references)) = some (slots, references)) :
      ∃ m, parse source = .ok m ∧ m.occurrences.map (fun o => (o.slot, o.name.text)) = slots ∧
        m.references = references := by
    obtain ⟨m, hm, hpair⟩ := Except.exists_of_map_toOption h
    exact ⟨m, hm, Prod.mk.inj hpair⟩
  exact ⟨hfacts (by decide +kernel), hfacts (by decide +kernel), hfacts (by decide +kernel),
    hfacts (by decide +kernel)⟩

end LayerCheck
