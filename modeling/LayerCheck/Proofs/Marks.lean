import LayerCheck.Proofs.Matched
import LayerCheck.Proofs.Words
import LayerCheck.Syntax.Statement

/-!
What a syntax tree finds in its text. Every identifier of a tree stands in a slot of the construct
around it, and the slot alone says whether the identifier is read there. The marks of a tree are its
identifiers with their slots, the words that start its definitions and the lines of its imports.
-/

namespace LayerCheck.Syntax

/-! ### Slots -/

/-- The part of a construct that an identifier stands in. -/
inductive Slot where
  /-- Where a value is expected. -/
  | value
  | bound (role : Role)
  /-- After the dot of an attribute. -/
  | member
  /-- The name of a class or function. -/
  | defined
  /-- After the `as` of an import. -/
  | imported
  /-- In brackets or behind a star, after `as`. -/
  | aliasPart
  /-- After the `as` of a pattern. -/
  | patternAlias
  /-- Alone beside the bar of a pattern. -/
  | alternative
  /-- After a dot in a pattern. -/
  | patternMember
  /-- The name of a type alias, before its parameters. -/
  | genericAlias
  /-- A parameter in the square brackets of a definition or of a type alias. -/
  | typeParameter
  /-- After a dot behind a type that is no expression. -/
  | typeMember
deriving DecidableEq, Repr

namespace Slot

/-- Whether an identifier in the slot is read. -/
def isRead : Slot → Bool
  | value | aliasPart | patternAlias | alternative | patternMember | genericAlias
  | typeParameter | typeMember => true
  | bound _ | member | defined | imported => false

/-- The slot of what stands in brackets or behind a star. -/
def inner : Slot → Slot
  | bound .target => bound .target
  | bound .parameter => bound .parameter
  | bound .aliasName | aliasPart => aliasPart
  | typeParameter => typeParameter
  | _ => value

theorem isRead_inner {slot : Slot} (h : slot.isRead) : slot.inner.isRead := by
  cases slot <;> first | rfl | contradiction

end Slot

namespace Shape

/-- The slot of the first part of a group that stands in a slot. -/
def first (slot : Slot) : Shape → Slot
  | tuple | list | star => slot.inner
  | generic => if slot = .bound .typeAlias then .genericAlias else .value
  | bounded => if slot = .typeParameter then .typeParameter else .value
  | subscript | compound | aliased | dotted | typeMember => .value
  | targets | walrus => .bound .target
  | keyword => .bound .keyword
  | parameter => .bound .parameter
  | patterns | aliasedPattern => .bound .capture
  | alternatives => .alternative
  | declared => .bound .declared
  | typeAlias => .bound .typeAlias
  | typeParameter => .typeParameter

/-- The slot of its other parts. -/
def rest (slot : Slot) : Shape → Slot
  | tuple | list | star => slot.inner
  | targets => .bound .target
  | aliased => .bound .aliasName
  | patterns => .bound .capture
  | aliasedPattern => .patternAlias
  | alternatives => .alternative
  | dotted => .patternMember
  | declared => .bound .declared
  | generic => if slot = .bound .typeAlias then .typeParameter else .value
  | typeMember => .typeMember
  | subscript | compound | walrus | keyword | parameter | typeAlias | typeParameter
  | bounded => .value

end Shape

/-! ### Marks -/

inductive Mark where
  /-- An identifier in its slot, and whether the tree has it as one that is read. -/
  | name (slot : Slot) (isRead : Bool) (n : Name)
  /-- The word that starts a class or function. -/
  | start (position : Position)
  /-- The line of an import. -/
  | line (number : Nat)
deriving DecidableEq, Repr

/-- The mark is at the word. An identifier is read if its slot says so. -/
def Mark.At : Mark → Token → Prop
  | .name slot isRead n, t =>
    n.text = t.text ∧ n.position = t.position ∧ isRead = slot.isRead
  | .start position, t => position = t.position
  | .line number, t => number = t.line

/-- Whether an identifier is read is said by its slot. -/
def Mark.Proper : Mark → Prop
  | .name slot isRead _ => isRead = slot.isRead
  | .start _ | .line _ => True

theorem Mark.At.proper {mark : Mark} {t : Token} (h : mark.At t) : mark.Proper := by
  cases mark with
  | name slot isRead n => exact h.2.2
  | start position => trivial
  | line number => trivial

/-- Whatever word the first mark is at, the other is at it too. -/
def Mark.Yields (a b : Mark) : Prop :=
  ∀ t, a.At t → b.At t

mutual

/-- The identifiers of an expression that stands in a slot. -/
def Expr.marks : Expr → Slot → List Mark
  | .name n, slot => [.name slot true n]
  | .attribute value member, _ => value.marks .value ++ [.name .member false member]
  | .call callee arguments, _ => callee.marks .value ++ marksOf .value .value arguments
  | .binding _ n, slot => [.name slot false n]
  | .group shape parts, slot => marksOf (shape.first slot) (shape.rest slot) parts

/-- The same for expressions of which the first stands in a slot of its own. -/
def marksOf (first rest : Slot) : List Expr → List Mark
  | [] => []
  | e :: es => e.marks first ++ marksOf rest rest es

end

def Step.marks : Step → List Mark
  | .assign target hint => target.marks (.bound .target) ++ hint.toList.flatMap (·.marks .value)
  | .augment target => target.marks (.bound .target)
  | .declare target hint => target.marks (.bound .target) ++ hint.marks .value

def ImportedName.marks (n : ImportedName) : List Mark :=
  n.asName.toList.map (.name .imported false)

def Head.marks (h : Head) : List Mark :=
  h.decorators.flatMap (·.marks .value) ++
    [.start h.position, .name .defined false h.name] ++
    (h.typeParameters ++ h.arguments ++ h.result).flatMap (·.marks .value)

mutual

def Stmt.marks : Stmt → List Mark
  | .expression _ items => items.flatMap (·.marks .value)
  | .assignment _ steps values => steps.flatMap Step.marks ++ values.flatMap (·.marks .value)
  | .importModules line names => .line line :: names.flatMap ImportedName.marks
  | .importFrom line _ names => .line line :: names.flatMap ImportedName.marks
  | .simple parts => parts.flatMap (·.marks .value)
  | .definition head body => head.marks ++ statementMarks body
  | .block _ head body => head.flatMap (·.marks .value) ++ statementMarks body

def statementMarks : List Stmt → List Mark
  | [] => []
  | s :: rest => s.marks ++ statementMarks rest

end

/-- The marks of a module, in the order of the text. -/
def Module.marks (m : Module) : List Mark :=
  statementMarks m

attribute [simp] Slot.isRead Slot.inner Shape.first Shape.rest Expr.marks marksOf Step.marks
  ImportedName.marks Head.marks Stmt.marks statementMarks

@[simp] theorem marksOf_self (slot : Slot) (es : List Expr) :
    marksOf slot slot es = es.flatMap (·.marks slot) := by
  induction es with
  | nil => rfl
  | cons e es ih => simp [marksOf, ih]

@[simp] theorem statementMarks_append (ss ts : List Stmt) :
    statementMarks (ss ++ ts) = statementMarks ss ++ statementMarks ts := by
  induction ss with
  | nil => rfl
  | cons s ss ih => simp [statementMarks, ih]

@[simp] theorem Expr.marks_compound (es : List Expr) :
    (Expr.compound es).marks .value = es.flatMap (·.marks .value) := by
  unfold Expr.compound
  split <;> simp [Expr.marks, Shape.first, Shape.rest]

/-! ### Marks in a text -/

/-- The marks are at some of the words, in this order. -/
def Marked (marks : List Mark) (words : List Token) : Prop :=
  ∃ at_, List.Forall₂ Mark.At marks at_ ∧ at_.Sublist words

namespace Marked

variable {marks more : List Mark} {words words' : List Token}

theorem nil (words : List Token) : Marked [] words :=
  ⟨[], .nil, List.nil_sublist words⟩

theorem eq_nil (h : Marked marks []) : marks = [] := by
  obtain ⟨at_, hat, hsub⟩ := h
  obtain rfl := List.sublist_nil.1 hsub
  exact List.forall₂_nil_right_iff.1 hat

theorem exists_of_mem (h : Marked marks words) {mark : Mark} (hmark : mark ∈ marks) :
    ∃ t ∈ words, mark.At t := by
  obtain ⟨at_, hat, hsub⟩ := h
  obtain ⟨t, ht, hmarkAt⟩ := (Matched.of_forall₂ hat).left mark hmark
  exact ⟨t, hsub.subset ht, hmarkAt⟩

theorem proper (h : Marked marks words) {mark : Mark} (hmark : mark ∈ marks) : mark.Proper := by
  obtain ⟨t, -, hat⟩ := h.exists_of_mem hmark
  exact hat.proper

theorem append (h : Marked marks words) (h' : Marked more words') :
    Marked (marks ++ more) (words ++ words') := by
  obtain ⟨at_, hat, hsub⟩ := h
  obtain ⟨at', hat', hsub'⟩ := h'
  exact ⟨at_ ++ at', List.rel_append hat hat', hsub.append hsub'⟩

theorem left (h : Marked (marks ++ more) words) : Marked marks words := by
  obtain ⟨at_, hat, hsub⟩ := h
  refine ⟨at_.take marks.length, ?_, (List.take_sublist _ at_).trans hsub⟩
  simpa using List.forall₂_take marks.length hat

/-- Marks may be exchanged for others that are at the same words. -/
theorem exchange {others : List Mark} (h : Marked marks words)
    (hothers : List.Forall₂ Mark.Yields marks others) : Marked others words := by
  obtain ⟨at_, hat, hsub⟩ := h
  refine ⟨at_, ?_, hsub⟩
  clear hsub
  induction hothers generalizing at_ with
  | nil => exact hat
  | cons hyields _ ih =>
    obtain ⟨w, ws, hw, hws, rfl⟩ := List.forall₂_cons_left_iff.1 hat
    exact .cons (hyields w hw) (ih ws hws)

end Marked

/-! ### Exchanging slots -/

@[simp] theorem Mark.Yields.refl (m : Mark) : m.Yields m :=
  fun _ h => h

theorem forall₂_yields_refl (marks : List Mark) : List.Forall₂ Mark.Yields marks marks :=
  List.forall₂_same.2 fun m _ => .refl m

theorem yields_of_isRead {slot slot' : Slot} (h : slot.isRead) (h' : slot'.isRead) (b : Bool)
    (n : Name) : (Mark.name slot b n).Yields (.name slot' b n) := by
  rintro t ⟨htext, hposition, rfl⟩
  exact ⟨htext, hposition, by rw [h, h']⟩

theorem yields_bound (role : Role) (n : Name) :
    (Mark.name .value true n).Yields (.name (.bound role) false n) := by
  rintro t ⟨htext, hposition, -⟩
  exact ⟨htext, hposition, rfl⟩

theorem yields_unread (slot : Slot) (n : Name) :
    (Mark.name .value false n).Yields (.name slot false n) := by
  rintro t ⟨-, -, h⟩
  contradiction

mutual

/-- It does not matter in which of the slots that are read an expression stands. -/
theorem Expr.yields_marks {slot slot' : Slot} (h : slot.isRead) (h' : slot'.isRead) :
    (e : Expr) → List.Forall₂ Mark.Yields (e.marks slot) (e.marks slot')
  | .name n => .cons (yields_of_isRead h h' true n) .nil
  | .binding _ n => .cons (yields_of_isRead h h' false n) .nil
  | .attribute _ _ => forall₂_yields_refl _
  | .call _ _ => forall₂_yields_refl _
  | .group shape parts => by
    have hbound {s : Slot} (hs : s.isRead) : s ≠ .bound .typeAlias := by
      rintro rfl
      contradiction
    have hinner := yields_marksOf (Slot.isRead_inner h) (Slot.isRead_inner h')
      (Slot.isRead_inner h) (Slot.isRead_inner h') parts
    have hfirst (s : Slot) : (Shape.bounded.first s).isRead := by
      rw [Shape.first]
      split <;> rfl
    cases shape with
    | tuple => exact hinner
    | list => exact hinner
    | star => exact hinner
    | bounded => exact yields_marksOf (hfirst slot) (hfirst slot') rfl rfl parts
    | _ =>
      simp only [Expr.marks, Shape.first, Shape.rest, hbound h, hbound h']
      exact forall₂_yields_refl _

theorem yields_marksOf {first first' rest rest' : Slot} (hfirst : first.isRead)
    (hfirst' : first'.isRead) (hrest : rest.isRead) (hrest' : rest'.isRead) :
    (es : List Expr) → List.Forall₂ Mark.Yields (marksOf first rest es) (marksOf first' rest' es)
  | [] => .nil
  | e :: es =>
    List.rel_append (e.yields_marks hfirst hfirst') (yields_marksOf hrest hrest' hrest hrest' es)

end

mutual

/-- Where an expression becomes a target, its names are bound. -/
theorem Expr.yields_toTarget? : (e : Expr) → {t : Expr} → e.toTarget? = some t →
    List.Forall₂ Mark.Yields (e.marks .value) (t.marks (.bound .target))
  | .name n, t, h => by
    cases h
    exact .cons (yields_bound .target n) .nil
  | .attribute value member, t, h => by
    cases h
    exact forall₂_yields_refl _
  | .call _ _, t, h => by contradiction
  | .binding _ _, t, h => by contradiction
  | .group shape items, t, h => by
    have hitems := @yields_toTargets? items
    unfold Expr.toTarget? at h
    split at h
    case h_9 => contradiction
    all_goals
      rename_i heq
      cases heq
    · cases h
      exact forall₂_yields_refl _
    · cases h
      exact .cons (yields_bound .target _) .nil
    · cases h
      exact forall₂_yields_refl _
    · cases h
      exact forall₂_yields_refl _
    · obtain ⟨ts, hts, rfl⟩ := Option.map_eq_some_iff.1 h
      exact hitems hts
    · obtain ⟨ts, hts, rfl⟩ := Option.map_eq_some_iff.1 h
      exact hitems hts

theorem yields_toTargets? : (es : List Expr) → {ts : List Expr} →
    Expr.toTarget?.toTargets? es = some ts →
    List.Forall₂ Mark.Yields (marksOf .value .value es) (marksOf (.bound .target) (.bound .target) ts)
  | [], ts, h => by
    cases h
    exact .nil
  | e :: es, ts, h => by
    rw [Expr.toTarget?.toTargets?] at h
    split at h
    · rename_i t ts he hes
      cases h
      exact List.rel_append (e.yields_toTarget? he) (yields_toTargets? es hes)
    · contradiction

end

theorem Expr.yields_toAlias (e : Expr) :
    List.Forall₂ Mark.Yields (e.marks .value) (e.toAlias.marks (.bound .aliasName)) := by
  cases e with
  | name n => exact .cons (yields_bound .aliasName n) .nil
  | group shape parts =>
    have hinner : List.Forall₂ Mark.Yields (marksOf .value .value parts)
        (marksOf .aliasPart .aliasPart parts) := yields_marksOf rfl rfl rfl rfl parts
    cases shape <;> first | exact hinner | exact forall₂_yields_refl _
  | binding role n => exact .cons (yields_unread _ n) .nil
  | _ => exact forall₂_yields_refl _

theorem Expr.yields_toCapture (e : Expr) :
    List.Forall₂ Mark.Yields (e.marks .value) (e.toCapture.marks (.bound .capture)) := by
  cases e with
  | name n => exact .cons (yields_bound .capture n) .nil
  | group shape parts => cases shape <;> exact forall₂_yields_refl _
  | binding role n => exact .cons (yields_unread _ n) .nil
  | _ => exact forall₂_yields_refl _

theorem Expr.yields_toTypeAlias (e : Expr) :
    List.Forall₂ Mark.Yields (e.marks .value) (e.toTypeAlias.marks (.bound .typeAlias)) := by
  cases e with
  | name n => exact .cons (yields_bound .typeAlias n) .nil
  | group shape parts =>
    have hgeneric : List.Forall₂ Mark.Yields (marksOf .value .value parts)
        (marksOf .genericAlias .typeParameter parts) := yields_marksOf rfl rfl rfl rfl parts
    cases shape <;> first | exact hgeneric | exact forall₂_yields_refl _
  | binding role n => exact .cons (yields_unread _ n) .nil
  | _ => exact forall₂_yields_refl _

end LayerCheck.Syntax
