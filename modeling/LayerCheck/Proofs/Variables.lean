import LayerCheck.Proofs.Qualification
import LayerCheck.Proofs.TextOrder
import Mathlib.Data.List.Nodup

/-!
The variables of a module are the identifiers that its assignments give values to, wherever they stand
outside of classes and functions.
-/

namespace LayerCheck

namespace Syntax

/-! ### Assignments -/

/-- The identifier is a target by itself, or one among those in brackets or behind a star. -/
inductive Expr.HasTarget (n : Name) : Expr → Prop
  | name : HasTarget n (.name n)
  | binding (role : Role) : HasTarget n (.binding role n)
  | item {shape : Shape} {items : List Expr} {e : Expr}
      (hshape : shape = .tuple ∨ shape = .list ∨ shape = .star) (he : e ∈ items)
      (h : HasTarget n e) : HasTarget n (.group shape items)

/-- One of the steps assigns a value to the identifier, and so do all steps before it. An annotation may
stand beside the identifier, but neither an annotation alone nor an operator gives it a value. -/
def Step.Assigns (n : Name) (steps : List Step) : Prop :=
  ∃ before target hint after, steps = before ++ .assign target hint :: after ∧
    (∀ step ∈ before, ∃ target hint, step = .assign target hint) ∧ target.HasTarget n

/-- The statement is an assignment of a value to the identifier. -/
def Stmt.Assigns (n : Name) : Stmt → Prop
  | .assignment _ steps _ => Step.Assigns n steps
  | _ => False

/-- The statement at an address below a statement. -/
def Stmt.at? : Stmt → Address → Option Stmt
  | s, [] => some s
  | s, i :: a => (s.body[i]?).bind fun t => t.at? a

/-- A statement outside of classes and functions assigns a value to the identifier. -/
def Stmt.AssignsOutside (s : Stmt) (n : Name) : Prop :=
  ∃ a t, s.at? a = some t ∧ t.Assigns n ∧ ∀ b, b <+: a → b ≠ a → s.headAt? b = none

mutual

theorem Expr.hasTarget_of_mem {n : Name} : (e : Expr) → n ∈ e.boundNames → e.HasTarget n
  | .binding role m, h => by
    obtain rfl := List.mem_singleton.1 h
    exact .binding role
  | .group shape items, h => by
    have hitem (hshape : shape = .tuple ∨ shape = .list ∨ shape = .star)
        (hitems : n ∈ boundNamesOf items) : (Expr.group shape items).HasTarget n := by
      obtain ⟨e, he, htarget⟩ := exists_hasTarget_of_mem items hitems
      exact .item hshape he htarget
    cases shape with
    | tuple => exact hitem (.inl rfl) h
    | list => exact hitem (.inr (.inl rfl)) h
    | star => exact hitem (.inr (.inr rfl)) h
    | _ => contradiction
  | .name _, h | .attribute _ _, h | .call _ _, h => by contradiction

theorem exists_hasTarget_of_mem {n : Name} :
    (es : List Expr) → n ∈ boundNamesOf es → ∃ e ∈ es, e.HasTarget n
  | [], h => by contradiction
  | e :: es, h => by
    rcases List.mem_append.1 h with h | h
    · exact ⟨e, List.mem_cons_self, e.hasTarget_of_mem h⟩
    · obtain ⟨e', he', htarget⟩ := exists_hasTarget_of_mem es h
      exact ⟨e', List.mem_cons_of_mem e he', htarget⟩

end

theorem mem_boundNamesOf {n : Name} {e : Expr} {es : List Expr} (he : e ∈ es) (h : n ∈ e.boundNames) :
    n ∈ boundNamesOf es := by
  induction es with
  | nil => contradiction
  | cons first es ih =>
    rcases List.mem_cons.1 he with rfl | he
    · exact List.mem_append_left _ h
    · exact List.mem_append_right _ (ih he)

/-- A target in a proper tree is bound there. -/
theorem Expr.HasTarget.mem_boundNames {n : Name} {e : Expr} (h : e.HasTarget n)
    (hproper : ∀ mark ∈ e.marks (.bound .target), mark.Proper) : n ∈ e.boundNames := by
  induction h with
  | name =>
    have hread : true = (Slot.bound .target).isRead := hproper _ List.mem_cons_self
    contradiction
  | binding role => exact List.mem_singleton_self n
  | @item shape items e hshape he _ ih =>
    have hmarks : (Expr.group shape items).marks (.bound .target) =
        items.flatMap (·.marks (.bound .target)) := by
      rcases hshape with rfl | rfl | rfl <;> simp
    have hitem : n ∈ boundNamesOf items := by
      refine mem_boundNamesOf he (ih fun mark hmark => hproper mark ?_)
      rw [hmarks]
      exact List.mem_flatMap.2 ⟨e, he, hmark⟩
    rcases hshape with rfl | rfl | rfl <;> exact hitem

theorem Step.not_assigns_cons {n : Name} {step : Step} {steps : List Step}
    (hstep : ∀ target hint, step ≠ .assign target hint) : ¬Step.Assigns n (step :: steps) := by
  rintro ⟨before, target, hint, after, heq, hbefore, -⟩
  cases before with
  | nil =>
    cases heq
    exact hstep target hint rfl
  | cons first before =>
    cases heq
    obtain ⟨target, hint, rfl⟩ := hbefore step List.mem_cons_self
    exact hstep target hint rfl

theorem Step.mem_boundNames {n : Name} {steps : List Step}
    (hproper : ∀ mark ∈ steps.flatMap Step.marks, mark.Proper) :
    n ∈ Step.boundNames steps ↔ Step.Assigns n steps := by
  induction steps with
  | nil => simp [Step.boundNames, Step.Assigns]
  | cons step steps ih =>
    obtain ⟨hstep, hsteps⟩ : (∀ mark ∈ step.marks, mark.Proper) ∧
        ∀ mark ∈ steps.flatMap Step.marks, mark.Proper := by
      simpa [or_imp, forall_and] using hproper
    cases step with
    | assign target hint =>
      rw [Step.boundNames, List.mem_append, ih hsteps]
      constructor
      · rintro (h | ⟨before, target', hint', after, rfl, hbefore, htarget⟩)
        · exact ⟨[], target, hint, steps, rfl, by simp, target.hasTarget_of_mem h⟩
        · refine ⟨.assign target hint :: before, target', hint', after, rfl, ?_, htarget⟩
          exact List.forall_mem_cons.2 ⟨⟨target, hint, rfl⟩, hbefore⟩
      · rintro ⟨before, target', hint', after, heq, hbefore, htarget⟩
        cases before with
        | nil =>
          cases heq
          left
          exact htarget.mem_boundNames fun mark hmark => hstep mark (List.mem_append_left _ hmark)
        | cons first before =>
          cases heq
          exact .inr ⟨before, target', hint', after, rfl, (List.forall_mem_cons.1 hbefore).2, htarget⟩
    | augment target =>
      exact iff_of_false List.not_mem_nil (Step.not_assigns_cons (by simp))
    | declare target hint =>
      exact iff_of_false List.not_mem_nil (Step.not_assigns_cons (by simp))

/-! ### Statements -/

theorem mem_statementBoundNames {n : Name} {body : List Stmt} :
    n ∈ statementBoundNames body ↔ ∃ s ∈ body, n ∈ s.boundNames := by
  induction body with
  | nil => simp [statementBoundNames]
  | cons s rest ih => simp [statementBoundNames, ih]

theorem mem_statementMarks {mark : Mark} {body : List Stmt} :
    mark ∈ statementMarks body ↔ ∃ s ∈ body, mark ∈ s.marks := by
  induction body with
  | nil => simp
  | cons s rest ih => simp [ih]

namespace Stmt

/-- A block assigns what the statements in it assign. -/
theorem assignsOutside_block {n : Name} {clause : Clause} {head : List Expr} {body : List Stmt} :
    (Stmt.block clause head body).AssignsOutside n ↔ ∃ s ∈ body, s.AssignsOutside n := by
  constructor
  · rintro ⟨a, t, hat, hassigns, houtside⟩
    cases a with
    | nil =>
      cases hat
      contradiction
    | cons i a =>
      obtain ⟨s, hget, hs⟩ := Option.bind_eq_some_iff.1 hat
      refine ⟨s, List.mem_of_getElem? hget, a, t, hs, hassigns, fun b hb hne => ?_⟩
      have hnone := houtside (i :: b) ((List.prefix_cons_inj i).2 hb) (by simpa using hne)
      simpa [headAt?, hget] using hnone
  · rintro ⟨s, hs, a, t, hat, hassigns, houtside⟩
    obtain ⟨i, hget⟩ := List.mem_iff_getElem?.1 hs
    refine ⟨i :: a, t, Option.bind_eq_some_iff.2 ⟨s, hget, hat⟩, hassigns, fun b hb hne => ?_⟩
    rcases List.prefix_cons_iff.1 hb with rfl | ⟨c, rfl, hc⟩
    · rfl
    · have hget : (Stmt.block clause head body).body[i]? = some s := hget
      have hnone := houtside c hc (by simpa using hne)
      simpa [headAt?, hget] using hnone

/-- Nothing in a definition is assigned outside of it. -/
theorem not_assignsOutside_definition {n : Name} {head : Head} {body : List Stmt} :
    ¬(Stmt.definition head body).AssignsOutside n := by
  rintro ⟨a, t, hat, hassigns, houtside⟩
  cases a with
  | nil =>
    cases hat
    contradiction
  | cons i a =>
    have hnone := houtside [] List.nil_prefix (by simp)
    contradiction

/-- A statement with no others in it assigns what it assigns itself. -/
theorem assignsOutside_of_body_eq_nil {n : Name} {s : Stmt} (hbody : s.body = []) :
    s.AssignsOutside n ↔ s.Assigns n := by
  constructor
  · rintro ⟨a, t, hat, hassigns, -⟩
    cases a with
    | nil =>
      cases hat
      exact hassigns
    | cons i a => simp [at?, hbody] at hat
  · intro hassigns
    exact ⟨[], s, rfl, hassigns, fun b hb hne => absurd (List.prefix_nil.1 hb) hne⟩

/-- The names that a statement of a proper tree binds are those assigned outside of definitions. -/
theorem mem_boundNames {n : Name} {s : Stmt} (hproper : ∀ mark ∈ s.marks, mark.Proper) :
    n ∈ s.boundNames ↔ s.AssignsOutside n := by
  induction s with
  | step s ih =>
    cases s with
    | assignment text steps values =>
      rw [assignsOutside_of_body_eq_nil rfl]
      exact Step.mem_boundNames fun mark hmark => hproper mark (List.mem_append_left _ hmark)
    | block clause head body =>
      rw [assignsOutside_block, boundNames_block, mem_statementBoundNames]
      refine exists_congr fun s => and_congr_right fun hs => ih s hs fun mark hmark => hproper mark ?_
      exact List.mem_append_right _ (mem_statementMarks.2 ⟨s, hs, hmark⟩)
    | definition head body =>
      exact iff_of_false List.not_mem_nil not_assignsOutside_definition
    | expression | importModules | importFrom | simple =>
      rw [assignsOutside_of_body_eq_nil rfl]
      exact iff_of_false List.not_mem_nil id

end Stmt

/-! ### What is outside of definitions -/

/-- The name wherever it stands. -/
def Name.unplaced (n : Name) : Name :=
  { n with position := {} }

mutual

def Expr.unplaced : Expr → Expr
  | .name n => .name n.unplaced
  | .attribute value member => .attribute value.unplaced member.unplaced
  | .call callee arguments => .call callee.unplaced (unplacedOf arguments)
  | .binding role n => .binding role n.unplaced
  | .group shape parts => .group shape (unplacedOf parts)

def unplacedOf : List Expr → List Expr
  | [] => []
  | e :: rest => e.unplaced :: unplacedOf rest

end

def Step.unplaced : Step → Step
  | .assign target hint => .assign target.unplaced (hint.map Expr.unplaced)
  | .augment target => .augment target.unplaced
  | .declare target hint => .declare target.unplaced hint.unplaced

/-- The dotted name as one word, wherever it stands. -/
def ImportedName.unplaced (n : ImportedName) : ImportedName :=
  { words := [.mk .name "" n.text {} 0 none []], asName := n.asName.map Name.unplaced }

def Head.unplaced (h : Head) : Head :=
  { h with
    name := h.name.unplaced
    position := {}
    decorators := unplacedOf h.decorators
    typeParameters := unplacedOf h.typeParameters
    arguments := unplacedOf h.arguments
    result := unplacedOf h.result }

mutual

/-- The statement wherever it stands, without the bodies of the classes and functions in it. -/
def Stmt.outside : Stmt → Stmt
  | .expression text items => .expression text (unplacedOf items)
  | .assignment text steps values =>
    .assignment text (steps.map Step.unplaced) (unplacedOf values)
  | .importModules _ names => .importModules 0 (names.map ImportedName.unplaced)
  | .importFrom _ base names => .importFrom 0 base (names.map ImportedName.unplaced)
  | .simple parts => .simple (unplacedOf parts)
  | .definition head _ => .definition head.unplaced []
  | .block clause head body => .block clause (unplacedOf head) (outsideOf body)

def outsideOf : List Stmt → List Stmt
  | [] => []
  | s :: rest => s.outside :: outsideOf rest

end

/-- What a module has outside of its classes and functions. -/
def Module.outside (m : Module) : Module :=
  outsideOf m

mutual

theorem Expr.boundNames_unplaced :
    (e : Expr) → e.unplaced.boundNames = e.boundNames.map Name.unplaced
  | .binding _ _ => rfl
  | .group shape items => by
    have hitems := boundNamesOf_unplacedOf items
    cases shape with
    | tuple | list | star => exact hitems
    | _ => rfl
  | .name _ | .attribute _ _ | .call _ _ => rfl

theorem boundNamesOf_unplacedOf :
    (es : List Expr) → boundNamesOf (unplacedOf es) = (boundNamesOf es).map Name.unplaced
  | [] => rfl
  | e :: es => by
    rw [unplacedOf, boundNamesOf, boundNamesOf, List.map_append, e.boundNames_unplaced,
      boundNamesOf_unplacedOf es]

end

theorem Step.boundNames_unplaced (steps : List Step) :
    Step.boundNames (steps.map Step.unplaced) = (Step.boundNames steps).map Name.unplaced := by
  induction steps with
  | nil => rfl
  | cons step steps ih =>
    cases step with
    | assign target hint =>
      simp [Step.unplaced, Step.boundNames, target.boundNames_unplaced, ih]
    | augment target => rfl
    | declare target hint => rfl

mutual

theorem Stmt.boundNames_outside :
    (s : Stmt) → s.outside.boundNames = s.boundNames.map Name.unplaced
  | .assignment _ steps _ => Step.boundNames_unplaced steps
  | .block clause head body => by
    simpa [Stmt.outside] using statementBoundNames_outsideOf body
  | .expression _ _ | .definition _ _ | .importModules _ _ | .importFrom _ _ _ | .simple _ => rfl

theorem statementBoundNames_outsideOf :
    (body : List Stmt) → statementBoundNames (outsideOf body) =
      (statementBoundNames body).map Name.unplaced
  | [] => rfl
  | s :: rest => by
    rw [outsideOf, statementBoundNames, statementBoundNames, List.map_append, s.boundNames_outside,
      statementBoundNames_outsideOf rest]

end

/-! ### Variables of a module -/

/-- The names of the variables of a module, in their order. -/
def Module.variableNames (m : Module) : List String :=
  (m.definitions.filter fun d => d.kind = .var).map (·.name)

theorem Module.filter_kind_definitions (m : Module) :
    (m.definitions.filter fun d => d.kind = .var) =
      (statementBoundNames m).map Name.variableDefinition := by
  have houtline : (definitionsOf m.aliases none m).filter (fun d => d.kind = .var) = [] := by
    refine List.filter_eq_nil_iff.2 fun d hd => ?_
    rcases kind_ne_var_of_mem_definitionsOf hd with hkind | hkind <;> simp [hkind]
  rw [Module.definitions, List.filter_append, houtline, List.nil_append, List.filter_eq_self]
  intro d hd
  obtain ⟨n, -, rfl⟩ := List.mem_map.1 hd
  rfl

theorem Module.variableNames_eq (m : Module) :
    m.variableNames = (statementBoundNames m.outside).map (·.text) := by
  rw [variableNames, filter_kind_definitions, Module.outside, statementBoundNames_outsideOf,
    List.map_map, List.map_map]
  rfl

theorem Name.variableDefinition_injective : Function.Injective Name.variableDefinition := by
  rintro ⟨text, ⟨line, column⟩, _⟩ ⟨text', ⟨line', column'⟩, _⟩ h
  simp only [Name.variableDefinition, Definition.mk.injEq] at h
  simp_all

theorem Module.mem_definitions_variable {m : Module} {n : Name} :
    n.variableDefinition ∈ m.definitions ↔ n ∈ statementBoundNames m := by
  have hfilter : n.variableDefinition ∈ m.definitions ↔
      n.variableDefinition ∈ m.definitions.filter fun d => d.kind = .var := by
    simp [List.mem_filter, Name.variableDefinition]
  rw [hfilter, m.filter_kind_definitions, List.mem_map_of_injective Name.variableDefinition_injective]

variable {source : String} {m : Module}

theorem nodup_definitions (h : parse source = .ok m) : m.definitions.Nodup := by
  refine (pairwise_definitions h).imp fun hne heq => ?_
  subst heq
  rcases hne with hkind | hplace
  · exact hkind rfl
  · exact lt_irrefl _ hplace

end Syntax

open Syntax

/-- An identifier of a text is recorded as a variable, exactly once, if an assignment outside of all
classes and functions gives it a value, and otherwise it is not. The bodies of classes and functions do
not matter for the names of variables. -/
theorem variables_are_assigned_outside {source : String} {m : Module} (h : parse source = .ok m) :
    (∀ n, m.tree.AssignsOutside n → m.definitions.count n.variableDefinition = 1) ∧
    (∀ n, ¬m.tree.AssignsOutside n → m.definitions.count n.variableDefinition = 0) ∧
    (∀ d ∈ m.definitions, d.kind = .var → ∃ (n : Name) (t : Token), d = n.variableDefinition ∧
      t ∈ wordsOf (scan source) ∧ t.text = n.text ∧ t.position = n.position) ∧
    ∀ m' : Module, m'.outside = m.outside → m'.variableNames = m.variableNames := by
  have hproper : ∀ mark ∈ m.tree.marks, mark.Proper :=
    fun mark hmark => (marked_of_parse h).proper (by simpa [Module.marks] using hmark)
  have hmem (n : Name) : n.variableDefinition ∈ m.definitions ↔ m.tree.AssignsOutside n :=
    Module.mem_definitions_variable.trans (Stmt.mem_boundNames hproper)
  refine ⟨fun n hn => ?_, fun n hn => ?_, fun d hd hkind => ?_, fun m' hm' => ?_⟩
  · exact List.count_eq_one_of_mem (nodup_definitions h) ((hmem n).2 hn)
  · exact List.count_eq_zero_of_not_mem fun hmem' => hn ((hmem n).1 hmem')
  · have hvariable : d ∈ (statementBoundNames m).map Name.variableDefinition := by
      rw [← m.filter_kind_definitions]
      exact List.mem_filter.2 ⟨hd, by simpa using hkind⟩
    obtain ⟨n, hn, rfl⟩ := List.mem_map.1 hvariable
    obtain ⟨t, ht, htext, hposition⟩ :=
      exists_word_of_mem_identifiers h ((statementBoundNames_sublist m).subset hn)
    exact ⟨n, t, rfl, ht, htext, hposition⟩
  · rw [m'.variableNames_eq, m.variableNames_eq, hm']

theorem variables_are_assigned_outside_blocks : ∃ m,
    parse ("if a: b = 1\nelif a: c = 1\nelse: d = 1\ntry: e = 1\nexcept* X: f = 1\nelse: g: T = 1\n" ++
      "finally: h = i = 1\nfor k in a: (l, [*n]) = 1\nwhile a:\n with a: o, a.p = 1\n" ++
      "match a:\n case 1: q = 1\nclass C: r = 1\ns: T\nt += 1") = .ok m ∧
    m.variableNames = ["b", "c", "d", "e", "f", "g", "h", "i", "l", "n", "o", "q"] ∧
    (∀ n, m.tree.AssignsOutside n → m.definitions.count n.variableDefinition = 1) ∧
    (∀ n, ¬m.tree.AssignsOutside n → m.definitions.count n.variableDefinition = 0) ∧
    ∀ m' : Module, m'.outside = m.outside →
      m'.variableNames = ["b", "c", "d", "e", "f", "g", "h", "i", "l", "n", "o", "q"] := by
  obtain ⟨m, hm, hnames⟩ : ∃ m,
      parse ("if a: b = 1\nelif a: c = 1\nelse: d = 1\ntry: e = 1\nexcept* X: f = 1\nelse: g: T = 1\n" ++
        "finally: h = i = 1\nfor k in a: (l, [*n]) = 1\nwhile a:\n with a: o, a.p = 1\n" ++
        "match a:\n case 1: q = 1\nclass C: r = 1\ns: T\nt += 1") = .ok m ∧
      m.variableNames = ["b", "c", "d", "e", "f", "g", "h", "i", "l", "n", "o", "q"] :=
    Except.exists_of_map_toOption (by decide +kernel)
  obtain ⟨honce, hnever, -, houtside⟩ := variables_are_assigned_outside hm
  exact ⟨m, hm, hnames, honce, hnever, fun m' hm' => (houtside m' hm').trans hnames⟩

end LayerCheck
