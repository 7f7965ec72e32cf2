import LayerCheck.Module.Source
import LayerCheck.Proofs.Canonical
import LayerCheck.Proofs.Outline
import LayerCheck.Proofs.Statements
import LayerCheck.Proofs.Traversal

/-!
The facts of a module come in the order of the text: its classes and functions, its variables, its
references and its imports. Two of its definitions are never at the same place.
-/

namespace LayerCheck

namespace Syntax

/-! ### Places of marks -/

namespace Mark

def lineNumber : Mark → Nat
  | .name _ _ n => n.line
  | .start position => position.line
  | .line number => number

/-- The place of an identifier or of the start of a definition. -/
def position? : Mark → Option Position
  | .name _ _ n => some n.position
  | .start position => some position
  | .line _ => none

def name? : Mark → Option Name
  | .name _ _ n => some n
  | .start _ | .line _ => none

theorem At.lineNumber_eq {mark : Mark} {t : Token} (h : mark.At t) : mark.lineNumber = t.line := by
  cases mark with
  | name slot isRead n => exact congrArg Position.line h.2.1
  | start position => exact congrArg Position.line h
  | line number => exact h

end Mark

/-- The places of marks, in their order. -/
def places (marks : List Mark) : List Position :=
  marks.filterMap Mark.position?

@[simp] theorem places_append (marks more : List Mark) :
    places (marks ++ more) = places marks ++ places more :=
  List.filterMap_append

/-- The identifiers among marks, in their order. -/
def identifiers (marks : List Mark) : List Name :=
  marks.filterMap Mark.name?

@[simp] theorem identifiers_append (marks more : List Mark) :
    identifiers (marks ++ more) = identifiers marks ++ identifiers more :=
  List.filterMap_append

theorem position_identifiers_sublist (marks : List Mark) :
    ((identifiers marks).map (·.position)).Sublist (places marks) := by
  induction marks with
  | nil => exact .slnil
  | cons mark marks ih =>
    cases mark with
    | name slot isRead n => exact ih.cons_cons n.position
    | start position => exact ih.cons position
    | line number => exact ih

theorem places_sublist {marks : List Mark} {at_ : List Token} (h : List.Forall₂ Mark.At marks at_) :
    (places marks).Sublist (at_.map (·.position)) := by
  induction h with
  | nil => exact .slnil
  | @cons mark t _ _ hat _ ih =>
    cases mark with
    | name slot isRead n =>
      have hplace : n.position = t.position := hat.2.1
      simpa [places, Mark.position?, hplace] using ih
    | start position =>
      have hplace : position = t.position := hat
      simpa [places, Mark.position?, hplace] using ih
    | line number => exact ih.cons _

namespace Marked

variable {marks : List Mark} {words : List Token}

theorem pairwise_places (h : Marked marks words) (hwords : words.Pairwise (·.position < ·.position)) :
    (places marks).Pairwise (· < ·) := by
  obtain ⟨at_, hat, hsub⟩ := h
  exact (List.pairwise_map.2 (hwords.sublist hsub)).sublist (places_sublist hat)

theorem pairwise_lineNumber (h : Marked marks words)
    (hwords : words.Pairwise (·.position < ·.position)) :
    marks.Pairwise (·.lineNumber ≤ ·.lineNumber) := by
  obtain ⟨at_, hat, hsub⟩ := h
  have hsorted : at_.Pairwise (·.position < ·.position) := hwords.sublist hsub
  have hlines : at_.map (·.line) = marks.map Mark.lineNumber := by
    clear hsub hsorted
    induction hat with
    | nil => rfl
    | cons hat _ ih => simp [ih, hat.lineNumber_eq]
  have hmap : (marks.map Mark.lineNumber).Pairwise (· ≤ ·) := by
    rw [← hlines, List.pairwise_map]
    exact hsorted.imp Position.line_le_of_lt
  exact List.pairwise_map.1 hmap

end Marked

/-! ### Places of definitions -/

end Syntax

def Definition.place (d : Definition) : Syntax.Position :=
  { line := d.line, column := d.column }

namespace Syntax

mutual

theorem Expr.boundNames_sublist (slot : Slot) :
    (e : Expr) → e.boundNames.Sublist (identifiers (e.marks slot))
  | .binding _ n => .refl _
  | .group shape items => by
    have hitems := fun first rest => boundNamesOf_sublist first rest items
    cases shape with
    | tuple | list | star => exact hitems _ _
    | _ => exact List.nil_sublist _
  | .name _ | .attribute _ _ | .call _ _ => List.nil_sublist _

theorem boundNamesOf_sublist (first rest : Slot) :
    (es : List Expr) → (boundNamesOf es).Sublist (identifiers (marksOf first rest es))
  | [] => .slnil
  | e :: es => by
    rw [boundNamesOf, marksOf, identifiers_append]
    exact (e.boundNames_sublist first).append (boundNamesOf_sublist rest rest es)

end

theorem Step.boundNames_sublist (steps : List Step) :
    (Step.boundNames steps).Sublist (identifiers (steps.flatMap Step.marks)) := by
  induction steps with
  | nil => exact .slnil
  | cons step steps ih =>
    cases step with
    | assign target hint =>
      simp only [Step.boundNames, Step.marks, List.flatMap_cons, identifiers_append,
        List.append_assoc]
      exact (target.boundNames_sublist _).append (ih.trans (List.sublist_append_right _ _))
    | augment target => exact List.nil_sublist _
    | declare target hint => exact List.nil_sublist _

/-- No block opens a scope. -/
theorem Clause.mem_scopeClauses (clause : Clause) : clause ∈ scopeClauses := by
  cases clause <;> decide

@[simp] theorem Stmt.boundNames_block (clause : Clause) (head : List Expr) (body : List Stmt) :
    (Stmt.block clause head body).boundNames = statementBoundNames body := by
  simp [Stmt.boundNames, clause.mem_scopeClauses]

mutual

/-- The variables of a statement come in the order of its marks. -/
theorem Stmt.boundNames_sublist :
    (s : Stmt) → s.boundNames.Sublist (identifiers s.marks)
  | .assignment _ steps values => by
    rw [Stmt.boundNames, Stmt.marks, identifiers_append]
    exact (Step.boundNames_sublist steps).trans (List.sublist_append_left _ _)
  | .block _ head body => by
    rw [Stmt.boundNames_block, Stmt.marks, identifiers_append]
    exact (statementBoundNames_sublist body).trans (List.sublist_append_right _ _)
  | .expression _ _ | .definition _ _ | .importModules _ _ | .importFrom _ _ _ | .simple _ =>
    List.nil_sublist _

theorem statementBoundNames_sublist :
    (body : List Stmt) → (statementBoundNames body).Sublist (identifiers (statementMarks body))
  | [] => .slnil
  | s :: rest => by
    rw [statementBoundNames, statementMarks, identifiers_append]
    exact s.boundNames_sublist.append (statementBoundNames_sublist rest)

end

theorem Head.place_sublist (head : Head) : [head.position].Sublist (places head.marks) := by
  refine List.singleton_sublist.2 (List.mem_filterMap.2 ⟨.start head.position, ?_, rfl⟩)
  simp

mutual

/-- The classes and functions in a statement come in the order of its marks. -/
theorem Stmt.definitions_sublist (aliases : Aliases) (outer : Option String) :
    (s : Stmt) → ((s.definitions aliases outer).map (·.place)).Sublist (places s.marks)
  | .definition head body => by
    rw [Stmt.definitions, Stmt.marks, places_append]
    exact head.place_sublist.append (definitionsOf_sublist aliases _ body)
  | .block _ head body => by
    rw [Stmt.definitions, Stmt.marks, places_append]
    exact (definitionsOf_sublist aliases outer body).trans (List.sublist_append_right _ _)
  | .expression _ _ | .assignment _ _ _ | .importModules _ _ | .importFrom _ _ _ | .simple _ =>
    List.nil_sublist _

theorem definitionsOf_sublist (aliases : Aliases) (outer : Option String) :
    (body : List Stmt) → ((definitionsOf aliases outer body).map (·.place)).Sublist
      (places (statementMarks body))
  | [] => .slnil
  | s :: rest => by
    rw [definitionsOf, statementMarks, List.map_append, places_append]
    exact (s.definitions_sublist aliases outer).append (definitionsOf_sublist aliases outer rest)

end

/-! ### Lines of references and imports -/

/-- The lines are those of marks, some perhaps several times, and they come in the order of the marks. -/
structure FollowsLines (lines : List Nat) (marks : List Mark) : Prop where
  mem : ∀ line ∈ lines, ∃ mark ∈ marks, mark.lineNumber = line
  pairwise : marks.Pairwise (·.lineNumber ≤ ·.lineNumber) → lines.Pairwise (· ≤ ·)

namespace FollowsLines

variable {lines more : List Nat} {marks marks' : List Mark}

theorem nil (marks : List Mark) : FollowsLines [] marks :=
  ⟨by simp, fun _ => .nil⟩

theorem append (h : FollowsLines lines marks) (h' : FollowsLines more marks') :
    FollowsLines (lines ++ more) (marks ++ marks') := by
  refine ⟨fun line hline => ?_, fun hmarks => ?_⟩
  · rcases List.mem_append.1 hline with hline | hline
    · obtain ⟨mark, hmark, rfl⟩ := h.mem line hline
      exact ⟨mark, List.mem_append_left _ hmark, rfl⟩
    · obtain ⟨mark, hmark, rfl⟩ := h'.mem line hline
      exact ⟨mark, List.mem_append_right _ hmark, rfl⟩
  · obtain ⟨hleft, hright, hacross⟩ := List.pairwise_append.1 hmarks
    refine List.pairwise_append.2 ⟨h.pairwise hleft, h'.pairwise hright, fun i hi j hj => ?_⟩
    obtain ⟨mark, hmark, rfl⟩ := h.mem i hi
    obtain ⟨mark', hmark', rfl⟩ := h'.mem j hj
    exact hacross mark hmark mark' hmark'

theorem append_left (h : FollowsLines lines marks) (marks' : List Mark) :
    FollowsLines lines (marks ++ marks') := by
  simpa using h.append (.nil marks')

theorem append_right (h : FollowsLines lines marks) (marks' : List Mark) :
    FollowsLines lines (marks' ++ marks) :=
  (FollowsLines.nil marks').append h

/-- All on the line of one mark. -/
theorem of_forall {mark : Mark} (h : ∀ line ∈ lines, line = mark.lineNumber) :
    FollowsLines lines [mark] := by
  refine ⟨fun line hline => ⟨mark, by simp, (h line hline).symm⟩, fun _ => ?_⟩
  exact List.pairwise_of_forall_mem_list fun i hi j hj => by rw [h i hi, h j hj]

end FollowsLines

/-- The lines of references are those of marks. -/
theorem compositional_followsLines :
    Compositional fun rs marks => FollowsLines (rs.map (·.line)) marks where
  nil := .nil []
  append h h' := by
    rw [List.map_append]
    exact h.append h'
  read _ _ := .of_forall (by simp [Mark.lineNumber])
  unread _ _ := .nil _
  qualified head member :=
    FollowsLines.append_left (.of_forall (by simp [Mark.lineNumber])) [.name .member false member]
  called _ := .of_forall (by simp [Mark.lineNumber])
  start _ := .nil _
  imported line rs h := by
    refine .of_forall fun i hi => ?_
    obtain ⟨r, hr, rfl⟩ := List.mem_map.1 hi
    exact (h r hr).2

mutual

theorem Stmt.imports_follow :
    (s : Stmt) → FollowsLines (s.imports.map (·.line)) s.marks
  | .importModules line names => by
    have hlines : FollowsLines ((Stmt.importModules line names).imports.map (·.line))
        [.line line] := .of_forall (by simp [Stmt.imports, ImportRecord.ofModule, Mark.lineNumber])
    exact hlines.append_left _
  | .importFrom line base names => by
    have hlines : FollowsLines ((Stmt.importFrom line base names).imports.map (·.line))
        [.line line] := .of_forall (by simp [Stmt.imports, ImportRecord.ofMember, Mark.lineNumber])
    exact hlines.append_left _
  | .definition head body => (importsOf_follow body).append_right head.marks
  | .block _ head body => (importsOf_follow body).append_right (valueMarks head)
  | .expression _ _ | .assignment _ _ _ | .simple _ => .nil _

theorem importsOf_follow :
    (body : List Stmt) → FollowsLines ((importsOf body).map (·.line)) (statementMarks body)
  | [] => .nil _
  | s :: rest => by
    rw [importsOf, statementMarks, List.map_append]
    exact s.imports_follow.append (importsOf_follow rest)

end

end Syntax

/-! ### Elements of a module -/

theorem Definition.compare_toElement_ne {d d' : Definition} (file : Path)
    (h : d.kind ≠ d'.kind ∨ d.place < d'.place) :
    compare (d.toElement file) (d'.toElement file) ≠ .eq := by
  intro heq
  obtain ⟨hkind, hline, hcolumn⟩ := Element.place_eq_of_compare heq
  rcases h with h | h
  · exact h hkind
  · have hplace : d.place = d'.place := by
      simp only [Definition.place, Syntax.Position.mk.injEq]
      exact ⟨hline, hcolumn⟩
    exact h.ne hplace

namespace Syntax

theorem kind_ne_var_of_mem_definitionsOf {aliases : Aliases} {m : Module} {d : Definition}
    (h : d ∈ definitionsOf aliases none m) : d.kind = .cls ∨ d.kind = .func := by
  have hsites := Stmt.forall₂_sites aliases [] (.block .suite [] m)
  obtain ⟨a, -, head, -, rfl⟩ := (Matched.of_forall₂ hsites).right d h
  cases hkind : head.kind <;> simp [Head.definition, DefinitionKind.elementKind, hkind]

variable {source : String} {m : Module}

/-- What the tree of a text has is at places of the text, one behind the other. -/
theorem pairwise_places_of_parse (h : parse source = .ok m) : (places m.marks).Pairwise (· < ·) :=
  (marked_of_parse h).pairwise_places (pairwise_words_scan source)

theorem pairwise_lineNumber_of_parse (h : parse source = .ok m) :
    m.marks.Pairwise (·.lineNumber ≤ ·.lineNumber) :=
  (marked_of_parse h).pairwise_lineNumber (pairwise_words_scan source)

theorem pairwise_outline (h : parse source = .ok m) :
    (definitionsOf m.aliases none m).Pairwise (·.place < ·.place) :=
  List.pairwise_map.1 ((pairwise_places_of_parse h).sublist (definitionsOf_sublist m.aliases none m))

/-- The identifiers of a text come one behind the other. -/
theorem pairwise_identifiers (h : parse source = .ok m) :
    (identifiers m.marks).Pairwise (·.position < ·.position) :=
  List.pairwise_map.1 ((pairwise_places_of_parse h).sublist (position_identifiers_sublist m.marks))

theorem pairwise_variables (h : parse source = .ok m) :
    (statementBoundNames m).Pairwise (·.position < ·.position) :=
  (pairwise_identifiers h).sublist (statementBoundNames_sublist m)

/-- The identifiers of a tree are words of its text. -/
theorem exists_word_of_mem_identifiers (h : parse source = .ok m) {n : Name}
    (hn : n ∈ identifiers m.marks) :
    ∃ t ∈ wordsOf (scan source), t.text = n.text ∧ t.position = n.position := by
  obtain ⟨mark, hmark, hname⟩ := List.mem_filterMap.1 hn
  obtain ⟨t, ht, hat⟩ := (marked_of_parse h).exists_of_mem hmark
  cases mark with
  | name slot isRead n' =>
    cases hname
    exact ⟨t, ht, hat.1.symm, hat.2.1.symm⟩
  | start position => contradiction
  | line number => contradiction

theorem pairwise_definitions (h : parse source = .ok m) :
    m.definitions.Pairwise fun d d' => d.kind ≠ d'.kind ∨ d.place < d'.place := by
  refine List.pairwise_append.2 ⟨?_, ?_, ?_⟩
  · exact (pairwise_outline h).imp .inr
  · exact List.pairwise_map.2 ((pairwise_variables h).imp .inr)
  · intro d hd d' hd'
    obtain ⟨n, -, rfl⟩ := List.mem_map.1 hd'
    left
    rcases kind_ne_var_of_mem_definitionsOf hd with hkind | hkind <;>
      simp [hkind, Name.variableDefinition]

end Syntax

/-- In the facts of a text, classes and functions come first and then variables, each in the order of
the text, and so do references and imports. No two definitions are the same element, so that the set of
the elements of a module loses none. -/
theorem facts_in_text_order {source : String} {m : Syntax.Module} (h : Syntax.parse source = .ok m) :
    (∃ outline assigned, m.definitions = outline ++ assigned ∧
      (∀ d ∈ outline, d.kind = .cls ∨ d.kind = .func) ∧ (∀ d ∈ assigned, d.kind = .var) ∧
      outline.Pairwise (fun d d' => d.line < d'.line ∨ d.line = d'.line ∧ d.column < d'.column) ∧
      assigned.Pairwise (fun d d' => d.line < d'.line ∨ d.line = d'.line ∧ d.column < d'.column)) ∧
    m.references.Pairwise (·.line ≤ ·.line) ∧
    m.imports.Pairwise (·.line ≤ ·.line) ∧
    ∀ file, (m.definitions.map (·.toElement file)).Nodup ∧
      (OrderedSet.ofList (m.definitions.map (·.toElement file))).toList.Perm
        (m.definitions.map (·.toElement file)) := by
  refine ⟨⟨_, _, rfl, ?_, ?_, ?_, ?_⟩, ?_, ?_, fun file => ?_⟩
  · exact fun d => Syntax.kind_ne_var_of_mem_definitionsOf
  · intro d hd
    obtain ⟨n, -, rfl⟩ := List.mem_map.1 hd
    rfl
  · exact (Syntax.pairwise_outline h).imp Syntax.Position.lt_iff.1
  · exact List.pairwise_map.2 ((Syntax.pairwise_variables h).imp Syntax.Position.lt_iff.1)
  · exact List.pairwise_map.1
      ((Syntax.compositional_followsLines.module m).pairwise (Syntax.pairwise_lineNumber_of_parse h))
  · exact List.pairwise_map.1
      ((Syntax.importsOf_follow m).pairwise (Syntax.pairwise_lineNumber_of_parse h))
  · have hdistinct : (m.definitions.map (·.toElement file)).Pairwise fun a b => compare a b ≠ .eq :=
      List.pairwise_map.2 ((Syntax.pairwise_definitions h).imp (Definition.compare_toElement_ne file))
    refine ⟨hdistinct.imp fun hne heq => hne ?_, OrderedSet.perm_ofList hdistinct⟩
    rw [heq]
    exact Std.ReflCmp.compare_self

theorem facts_in_text_order_nested : ∃ m,
    Syntax.parse "x = y, [z] = f(\n g.h)\n@d\nasync def f():\n class C: pass\nif x: w = 1" = .ok m ∧
    m.definitions.map (fun d => (d.name, d.line, d.column)) =
      [("f", 4, 1), ("C", 5, 2), ("x", 1, 1), ("y", 1, 5), ("z", 1, 9), ("w", 6, 7)] ∧
    m.references.map (·.line) = [1, 1, 2, 2, 3, 6] ∧
    m.references.Pairwise (·.line ≤ ·.line) ∧
    (OrderedSet.ofList (m.definitions.map (·.toElement ⟨"m.py"⟩))).toList.Perm
      (m.definitions.map (·.toElement ⟨"m.py"⟩)) := by
  obtain ⟨m, hm, hfacts⟩ : ∃ m,
      Syntax.parse "x = y, [z] = f(\n g.h)\n@d\nasync def f():\n class C: pass\nif x: w = 1" = .ok m ∧
      (m.definitions.map (fun d => (d.name, d.line, d.column)), m.references.map (·.line)) =
        ([("f", 4, 1), ("C", 5, 2), ("x", 1, 1), ("y", 1, 5), ("z", 1, 9), ("w", 6, 7)],
          [1, 1, 2, 2, 3, 6]) :=
    Except.exists_of_map_toOption (by decide +kernel)
  obtain ⟨hdefinitions, hlines⟩ := Prod.mk.inj hfacts
  obtain ⟨-, hreferences, -, helements⟩ := facts_in_text_order hm
  exact ⟨m, hm, hdefinitions, hlines, hreferences, (helements ⟨"m.py"⟩).2⟩

end LayerCheck
