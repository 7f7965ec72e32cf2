import LayerCheck.Proofs.CasePatterns

/-!
What is found where statements are read, up to the tree of a whole text.
-/

namespace LayerCheck.Syntax

/-! ### Imports -/

theorem passes_dottedName (fuel : Nat) (mode : Mode) : Passes (dottedName fuel mode) := by
  have hnames : Reads (do
      let _ ← Reader.name mode
      let _ ← dottedRest fuel mode) fun _ => [] := by
    refine .pass (reads_name mode .value).passes fun _ => ?_
    exact .pass (reads_dottedRest fuel mode .value).passes fun _ => .pure rfl
  exact hnames.withTokens.passes.bind fun _ => .pure _

theorem reads_importedName (fuel : Nat) (mode : Mode) :
    Reads (importedName fuel mode) ImportedName.marks := by
  refine .pass (passes_dottedName fuel mode) fun text => ?_
  refine .pass (passes_skipIf mode _) fun aliased => ?_
  simp only [pure_bind, map_eq_pure_bind, bind_assoc]
  split
  · refine .read (reads_name mode .imported) fun n => ?_
    exact .pure (by simp)
  · exact .pure (by simp)

theorem reads_importedNames (fuel : Nat) (mode : Mode) :
    Reads (importedNames fuel mode) (·.flatMap ImportedName.marks) := by
  induction fuel with
  | zero => exact .unexpected .brackets
  | succ fuel ih =>
    rw [importedNames]
    refine .read (reads_importedName fuel mode) fun first => ?_
    have hlast : Extends ([] ++ first.marks) (pure [first]) (·.flatMap ImportedName.marks) :=
      .pure (by simp)
    refine .pass (keeps_continuing? mode).passes fun t? => ?_
    split
    · split
      · refine .pass passes_skip fun _ => ?_
        refine .pass (keeps_continuing? mode).passes fun t? => ?_
        split
        · split
          · refine .read ih fun rest => ?_
            exact .pure (by simp)
          · exact hlast
        · exact hlast
      · exact hlast
    · exact hlast

theorem reads_importList (fuel : Nat) :
    Reads (importList fuel) (·.flatMap ImportedName.marks) := by
  refine .pass (passes_skipSymbol? "(") fun opened => ?_
  split
  · refine .read (reads_importedNames fuel .brackets) fun names => ?_
    refine .pass (passes_symbol .brackets ")") fun _ => ?_
    exact .pure rfl
  · exact reads_importedNames fuel .line

theorem passes_importDots (fuel : Nat) : Passes (importDots fuel) := by
  induction fuel with
  | zero => exact .pure false
  | succ fuel ih =>
    rw [importDots]
    refine (passes_skipSymbol? ".").bind fun _ => ?_
    refine (passes_skipSymbol? "...").bind fun _ => ?_
    split
    · exact ih.bind fun _ => .pure true
    · exact .pure false

theorem extends_importFrom (fuel line : Nat) :
    Extends [.line line] (importFrom fuel line) Stmt.marks := by
  unfold importFrom
  refine .pass (passes_skipWord? "__future__") fun future => ?_
  split
  · refine .pass (passes_word .line "import") fun _ => ?_
    refine .pass (reads_importList fuel).passes fun _ => ?_
    exact .forget (by simp)
  · refine .pass (passes_importDots fuel) fun relative => ?_
    refine .pass (keeps_nextIsWord "import").passes fun last => ?_
    have hnames (base : String) : Extends [.line line] (do
        Reader.word .line "import"
        if ← Reader.skipSymbol? "*" then return .importFrom line base []
        return .importFrom line base (← importList fuel)) Stmt.marks := by
      refine .pass (passes_word .line "import") fun _ => ?_
      refine .pass (passes_skipSymbol? "*") fun star => ?_
      split
      · exact .pure (by simp)
      · refine .read (reads_importList fuel) fun names => ?_
        exact .pure (by simp)
    simp only [pure_bind, map_eq_pure_bind, bind_assoc]
    split
    · exact hnames ""
    · exact .pass (passes_dottedName fuel .line) fun words => hnames (sourceText words)

/-! ### Assignments -/

theorem yields_targetOf {items : List Expr} {target : Expr} (h : targetOf items = some target) :
    List.Forall₂ Mark.Yields (valueMarks items) (target.marks (.bound .target)) := by
  unfold targetOf at h
  split at h
  · simpa using Expr.yields_toTarget? _ h
  · simpa using Expr.yields_toTarget? _ h

theorem extends_assignmentSteps (fuel : Nat) (items : List Expr) :
    Extends (valueMarks items) (assignmentSteps fuel items) fun out =>
      out.1.flatMap Step.marks ++ valueMarks out.2 := by
  induction fuel generalizing items with
  | zero => exact .unexpected .brackets
  | succ fuel ih =>
    have hdone : Extends (valueMarks items) (pure (([] : List Step), items)) fun out =>
        out.1.flatMap Step.marks ++ valueMarks out.2 := .pure (by simp)
    have hexpressions := readsExpressions fuel
    rw [assignmentSteps]
    refine .pass (keeps_continuing? .line).passes fun t? => ?_
    split
    · split
      · split
        · rename_i target htarget
          refine Extends.exchange ?_ (yields_targetOf htarget)
          refine .pass passes_skip fun _ => ?_
          refine .read (hexpressions.expressionsOrYield _) fun values => ?_
          refine ((ih values).behind _).bind fun out => ?_
          exact .pure (by simp)
        · exact .unexpected .line
      split
      · split
        · rename_i target htarget
          refine Extends.exchange ?_ (yields_targetOf htarget)
          refine .pass passes_skip fun _ => ?_
          refine .read (hexpressions.typeExpression .line true) fun hint => ?_
          refine .pass (keeps_continuing? .line).passes fun next? => ?_
          have hdeclare : Extends (target.marks (.bound .target) ++ hint.marks .value)
              (pure ([Step.declare target hint], ([] : List Expr))) fun out =>
                out.1.flatMap Step.marks ++ valueMarks out.2 := .pure (by simp)
          split
          · split
            · refine .pass passes_skip fun _ => ?_
              refine .read (hexpressions.expressionsOrYield _) fun values => ?_
              refine ((ih values).behind _).bind fun out => ?_
              exact .pure (by simp)
            · exact hdeclare
          · exact hdeclare
        · exact .unexpected .line
      split
      · split
        · rename_i target htarget
          refine Extends.exchange ?_ (yields_targetOf htarget)
          refine .pass passes_skip fun _ => ?_
          refine .read (hexpressions.expressionsOrYield _) fun values => ?_
          refine ((ih values).behind _).bind fun out => ?_
          exact .pure (by simp)
        · exact .unexpected .line
      · exact hdone
    · exact hdone

theorem reads_expressionStatement (fuel : Nat) : Reads (expressionStatement fuel) Stmt.marks := by
  have hsteps : Reads (do
      let items ← expressionsOrYield fuel { mode := .line }
      assignmentSteps fuel items) fun out => out.1.flatMap Step.marks ++ valueMarks out.2 :=
    .read ((readsExpressions fuel).expressionsOrYield _) fun items =>
      extends_assignmentSteps fuel items
  unfold expressionStatement
  refine hsteps.withTokens.bind fun out => ?_
  obtain ⟨⟨steps, values⟩, tokens⟩ := out
  refine .pure ?_
  cases steps with
  | nil => simp
  | cons step steps => simp

/-! ### Simple statements -/

theorem reads_declaredNames (fuel : Nat) :
    Reads (declaredNames fuel) (·.flatMap (·.marks (.bound .declared))) := by
  induction fuel with
  | zero => exact .unexpected .brackets
  | succ fuel ih =>
    rw [declaredNames]
    refine .read (reads_name .line (.bound .declared)) fun n => ?_
    refine .pass (passes_skipIf .line _) fun comma => ?_
    split
    · refine .read ih fun rest => ?_
      exact .pure (by simp)
    · exact .pure (by simp)

theorem reads_assertedExpressions (fuel : Nat) : Reads (assertedExpressions fuel) valueMarks := by
  induction fuel with
  | zero => exact .unexpected .brackets
  | succ fuel ih =>
    rw [assertedExpressions]
    refine .read ((readsExpressions fuel).expression _) fun e => ?_
    refine .pass (passes_skipIf .line _) fun comma => ?_
    split
    · refine .read ih fun rest => ?_
      exact .pure (by simp)
    · exact .pure (by simp)

theorem reads_optionalExpressions (fuel : Nat) : Reads (optionalExpressions fuel) valueMarks := by
  refine .pass (keeps_continuing? .line).passes fun t? => ?_
  split
  · split
    · exact (readsExpressions fuel).expressions _
    · exact .pure rfl
  · exact .pure rfl

theorem reads_typeAlias (fuel : Nat) : Reads (typeAlias fuel) Stmt.marks := by
  refine .pass passes_skip fun _ => ?_
  refine .read ((readsExpressions fuel).typeExpression .line true) fun left => ?_
  refine Extends.exchange ?_ left.yields_toTypeAlias
  refine .pass (passes_symbol .line "=") fun _ => ?_
  refine .read ((readsExpressions fuel).typeExpression .line true) fun right => ?_
  refine .pass (keeps_peek.bind fun _ => .pure _).passes fun ends => ?_
  exact .guard .line (.pure (by simp))

theorem reads_simpleStatement (fuel : Nat) : Reads (simpleStatement fuel) Stmt.marks := by
  have hexpressions := readsExpressions fuel
  have hstatement := reads_expressionStatement fuel
  unfold simpleStatement
  refine .peek fun t => ?_
  split
  · exact hstatement.known
  rename_i hkind
  have hline : Marked [.line t.line] t.words :=
    marked_of_isName (not_not.1 hkind) (show Mark.At (.line t.line) t from rfl)
  split
  · refine .skip hline ?_
    refine .read (reads_importedNames fuel .line) fun names => ?_
    exact .pure (by simp)
  · exact .skip hline (extends_importFrom fuel t.line)
  · exact (Extends.pass passes_skip fun _ => .pure (by simp)).known
  · exact (Extends.pass passes_skip fun _ => .pure (by simp)).known
  · exact (Extends.pass passes_skip fun _ => .pure (by simp)).known
  · refine (Extends.pass passes_skip fun _ => ?_).known
    exact .read (reads_optionalExpressions fuel) fun es => .pure (by simp)
  · refine (Extends.pass passes_skip fun _ => ?_).known
    exact .read (hexpressions.expressions _) fun es => .pure (by simp)
  · refine (Extends.pass passes_skip fun _ => ?_).known
    exact .read (reads_assertedExpressions fuel) fun es => .pure (by simp)
  · refine (Extends.pass passes_skip fun _ => ?_).known
    exact .read (reads_declaredNames fuel) fun names => .pure (by simp)
  · refine (Extends.pass passes_skip fun _ => ?_).known
    exact .read (reads_declaredNames fuel) fun names => .pure (by simp)
  · refine (Extends.pass passes_skip fun _ => ?_).known
    refine .read (reads_optionalExpressions fuel) fun values => ?_
    refine .pass (passes_skipIf .line _) fun cause => ?_
    split
    · exact .read (hexpressions.expression _) fun e => .pure (by simp)
    · exact .pure (by simp)
  · refine (Extends.pass keeps_peekSecond.passes fun second => ?_).known
    dsimp only
    split
    · exact .failed t.line
    · exact hstatement
  · exact ((reads_typeAlias fuel).tryCatch fun _ => hstatement).known
  · exact hstatement.known

theorem reads_simpleStatements (fuel : Nat) : Reads (simpleStatements fuel) statementMarks := by
  induction fuel with
  | zero => exact .unexpected .brackets
  | succ fuel ih =>
    rw [simpleStatements]
    refine .read (reads_simpleStatement fuel) fun s => ?_
    refine .pass keeps_peek.passes fun t => ?_
    split
    · exact .pure (by simp)
    refine .pass (passes_symbol .line ";") fun _ => ?_
    refine .pass keeps_peek.passes fun t => ?_
    split
    · exact .pure (by simp)
    · refine .read ih fun rest => ?_
      exact .pure (by simp)

/-! ### Definitions -/

theorem reads_typeParameters (fuel : Nat) : Reads (typeParameters fuel) valueMarks := by
  refine .pass (passes_skipSymbol? "[") fun opened => ?_
  split
  · refine .read (readsExpressions fuel).typeArguments fun es => ?_
    have hparameters : List.Forall₂ Mark.Yields (marksOf .value .value es)
        (marksOf .typeParameter .typeParameter es) := yields_marksOf rfl rfl rfl rfl es
    rw [marksOf_self] at hparameters
    exact Extends.exchange (.pure (by simp [List.flatMap_map])) hparameters
  · exact .pure rfl

theorem extends_classHead (fuel : Nat) (position : Position) (decorators : List Expr) :
    Extends (valueMarks decorators ++ [.start position]) (classHead fuel position decorators)
      Head.marks := by
  refine .read (reads_name .head .defined) fun n => ?_
  refine .read (reads_typeParameters fuel) fun typeParameters => ?_
  refine .pass (passes_skipSymbol? "(") fun opened => ?_
  simp only [pure_bind]
  split
  · refine .read (readsExpressions fuel).arguments fun arguments => ?_
    exact .pure (by simp)
  · exact .pure (by simp)

theorem extends_functionHead (fuel : Nat) (position : Position) (decorators : List Expr) :
    Extends (valueMarks decorators ++ [.start position]) (functionHead fuel position decorators)
      Head.marks := by
  have hexpressions := readsExpressions fuel
  refine .read (reads_name .head .defined) fun n => ?_
  refine .read (reads_typeParameters fuel) fun typeParameters => ?_
  refine .pass (passes_symbol .head "(") fun _ => ?_
  refine .read (hexpressions.parameters .brackets true ")") fun parameters => ?_
  refine .pass (passes_symbol .brackets ")") fun _ => ?_
  refine .pass (passes_skipSymbol? "->") fun arrow => ?_
  simp only [pure_bind]
  split
  · refine .read (hexpressions.typeExpression .head false) fun result => ?_
    exact .pure (by simp)
  · exact .pure (by simp)

theorem reads_decorators (fuel : Nat) : Reads (decorators fuel) valueMarks := by
  induction fuel with
  | zero => exact .unexpected .brackets
  | succ fuel ih =>
    rw [decorators]
    refine .pass (passes_skipSymbol? "@") fun decorated => ?_
    split
    · refine .read ((readsExpressions fuel).expression _) fun e => ?_
      refine .pass keeps_peek.passes fun t => ?_
      refine .guard .line (.read ih fun rest => ?_)
      exact .pure (by simp)
    · exact .pure rfl

/-! ### Statements with blocks -/

theorem keeps_clauseStarts (indent : Nat) (word : String) : Keeps (clauseStarts indent word) :=
  keeps_peek.bind fun _ => .pure _

theorem reads_matchSubjects (fuel : Nat) : Reads (matchSubjects fuel) valueMarks := by
  refine .pass passes_skip fun _ => ?_
  refine .read ((readsExpressions fuel).expressions _) fun subjects => ?_
  refine .pass (passes_symbol .line ":") fun _ => ?_
  refine .pass keeps_peek.passes fun t => ?_
  exact .guard .line (.pure rfl)

/-- What the readers of statements with blocks find with some fuel. -/
structure ReadsStatements (fuel : Nat) : Prop where
  block : ∀ indent, Reads (block fuel indent) statementMarks
  suite : ∀ indent, Reads (suite fuel indent) statementMarks
  statement : ∀ indent, Reads (statement fuel indent) statementMarks
  forStatement : ∀ indent, Reads (forStatement fuel indent) statementMarks
  withStatement : ∀ indent, Reads (withStatement fuel indent) statementMarks
  definition : ∀ indent decorators,
    Extends (valueMarks decorators) (definition fuel indent decorators) statementMarks
  elseClauses : ∀ indent, Reads (elseClauses fuel indent) statementMarks
  elseClause : ∀ indent, Reads (elseClause fuel indent) statementMarks
  exceptClauses : ∀ indent, Reads (exceptClauses fuel indent) statementMarks
  caseClauses : ∀ indent, Reads (caseClauses fuel indent) statementMarks

section Step

variable {fuel : Nat} (ih : ReadsStatements fuel)
include ih

theorem reads_block (indent : Nat) : Reads (block (fuel + 1) indent) statementMarks := by
  rw [block]
  refine .pass keeps_peek.passes fun t => ?_
  split
  · exact .pure rfl
  · refine .read (ih.statement indent) fun first => ?_
    refine .read (ih.block indent) fun rest => ?_
    exact .pure (by simp)

theorem reads_suite (indent : Nat) : Reads (suite (fuel + 1) indent) statementMarks := by
  rw [suite]
  refine .pass (passes_symbol .head ":") fun _ => ?_
  refine .pass keeps_peek.passes fun t => ?_
  split
  · exact reads_simpleStatements fuel
  · split
    · exact ih.block _
    · exact .pure rfl

theorem reads_forStatement (indent : Nat) :
    Reads (forStatement (fuel + 1) indent) statementMarks := by
  have hexpressions := readsExpressions fuel
  rw [forStatement]
  refine .pass passes_skip fun _ => ?_
  refine .read (hexpressions.targetList .head) fun targets => ?_
  refine .pass (passes_word .head "in") fun _ => ?_
  refine .read (hexpressions.expressions _) fun values => ?_
  refine .read (ih.suite indent) fun body => ?_
  refine .read (ih.elseClause indent) fun others => ?_
  exact .pure (by simp)

theorem reads_withStatement (indent : Nat) :
    Reads (withStatement (fuel + 1) indent) statementMarks := by
  rw [withStatement]
  refine .pass passes_skip fun _ => ?_
  refine .read ((readsExpressions fuel).expressions _) fun items => ?_
  refine .read (ih.suite indent) fun body => ?_
  exact .pure (by simp)

theorem extends_definition (indent : Nat) (decorators : List Expr) :
    Extends (valueMarks decorators) (definition (fuel + 1) indent decorators) statementMarks := by
  have hbody (head : Head) : Extends head.marks (do
      return [.definition head (← suite fuel indent)]) statementMarks := by
    refine .read (ih.suite indent) fun body => ?_
    exact .pure (by simp)
  rw [definition]
  refine .peek fun t => ?_
  have hclass := (extends_classHead fuel t.position decorators).bind hbody
  have hfunction := (extends_functionHead fuel t.position decorators).bind hbody
  -- the definition starts at the first of its words
  refine .skipWord? "class" hclass (.skipWord? "async" ?_ (.skipWord? "def" hfunction ?_))
  · exact .pass (passes_skipWord? "def") fun isDef => .guard .brackets hfunction
  · exact (Extends.refused .brackets).known

theorem reads_elseClause (indent : Nat) : Reads (elseClause (fuel + 1) indent) statementMarks := by
  rw [elseClause]
  refine .pass (keeps_clauseStarts indent "else").passes fun starts => ?_
  split
  · refine .pass passes_skip fun _ => ?_
    refine .read (ih.suite indent) fun body => ?_
    exact .pure (by simp)
  · exact .pure rfl

theorem reads_elseClauses (indent : Nat) :
    Reads (elseClauses (fuel + 1) indent) statementMarks := by
  rw [elseClauses]
  refine .pass (keeps_clauseStarts indent "elif").passes fun starts => ?_
  split
  · refine .pass passes_skip fun _ => ?_
    refine .read ((readsExpressions fuel).expression _) fun condition => ?_
    refine .read (ih.suite indent) fun body => ?_
    refine .read (ih.elseClauses indent) fun others => ?_
    exact .pure (by simp)
  · exact ih.elseClause indent

theorem reads_exceptClauses (indent : Nat) :
    Reads (exceptClauses (fuel + 1) indent) statementMarks := by
  have hbody (clause : Clause) (head : List Expr) : Extends (valueMarks head) (do
      let body ← suite fuel indent
      return .block clause head body :: (← exceptClauses fuel indent)) statementMarks := by
    refine .read (ih.suite indent) fun body => ?_
    refine .read (ih.exceptClauses indent) fun others => ?_
    exact .pure (by simp)
  have hexpressions := readsExpressions fuel
  rw [exceptClauses]
  refine .pass (keeps_clauseStarts indent "except").passes fun starts => ?_
  split
  · refine .pass passes_skip fun _ => ?_
    refine .pass (passes_skipSymbol? "*") fun group => ?_
    refine .pass (keeps_nextIsSymbol ":").passes fun bare => ?_
    simp only [pure_bind]
    split
    · exact hbody _ []
    · refine .read (hexpressions.expression _) fun e => ?_
      refine .pass (passes_skipSymbol? ",") fun comma => ?_
      split
      · refine .read (hexpressions.expression _) fun target => ?_
        exact (hbody _ [e, target]).cast (by simp)
      · exact (hbody _ [e]).cast (by simp)
  · exact .pure rfl

theorem reads_caseClauses (indent : Nat) :
    Reads (caseClauses (fuel + 1) indent) statementMarks := by
  have hbody (head : List Expr) : Extends (valueMarks head) (do
      let body ← suite fuel indent
      return .block .caseBranch head body :: (← caseClauses fuel indent)) statementMarks := by
    refine .read (ih.suite indent) fun body => ?_
    refine .read (ih.caseClauses indent) fun others => ?_
    exact .pure (by simp)
  rw [caseClauses]
  refine .pass keeps_peek.passes fun t => ?_
  split
  · exact .pure rfl
  simp only [pure_bind]
  split
  · refine .pass passes_skip fun _ => ?_
    refine .read (reads_clausePatterns fuel) fun patterns => ?_
    refine .pass (passes_skipWord? "if") fun guarded => ?_
    split
    · refine .read ((readsExpressions fuel).expression _) fun condition => ?_
      exact (hbody [.group .patterns patterns, condition]).cast (by simp)
    · exact (hbody [.group .patterns patterns]).cast (by simp)
  · exact .failed t.line

theorem reads_statement (indent : Nat) : Reads (statement (fuel + 1) indent) statementMarks := by
  have hexpressions := readsExpressions fuel
  have hsimple := reads_simpleStatements fuel
  rw [statement]
  refine .pass keeps_peek.passes fun t => ?_
  dsimp only
  split
  · split
    · refine .pass passes_skip fun _ => ?_
      refine .read (hexpressions.expression _) fun condition => ?_
      refine .read (ih.suite indent) fun body => ?_
      refine .read (ih.elseClauses indent) fun others => ?_
      exact .pure (by simp)
    · refine .pass passes_skip fun _ => ?_
      refine .read (hexpressions.expression _) fun condition => ?_
      refine .read (ih.suite indent) fun body => ?_
      refine .read (ih.elseClause indent) fun others => ?_
      exact .pure (by simp)
    · exact ih.forStatement indent
    · exact ih.withStatement indent
    · refine .pass passes_skip fun _ => ?_
      refine .read (ih.suite indent) fun body => ?_
      refine .read (ih.exceptClauses indent) fun handlers => ?_
      split
      · simp only [pure_bind]
        refine .pass (keeps_clauseStarts indent "finally").passes fun starts => ?_
        split
        · refine .pass passes_skip fun _ => ?_
          refine .read (ih.suite indent) fun last => ?_
          exact .pure (by simp)
        · exact .refused .brackets
      · refine .read (ih.elseClause indent) fun others => ?_
        refine .pass (keeps_clauseStarts indent "finally").passes fun starts => ?_
        simp only [pure_bind]
        split
        · refine .pass passes_skip fun _ => ?_
          refine .read (ih.suite indent) fun last => ?_
          exact .pure (by simp)
        · exact .pure (by simp)
    · exact ih.definition indent []
    · exact ih.definition indent []
    · refine .pass keeps_peekSecond.passes fun second? => ?_
      split
      · split
        · exact ih.definition indent []
        split
        · exact .pass passes_skip fun _ => ih.forStatement indent
        split
        · exact .pass passes_skip fun _ => ih.withStatement indent
        · exact hsimple
      · exact .unexpected .line
    · have hsubjects : Reads (tryCatch (some <$> matchSubjects fuel) fun _ => pure none)
          fun subjects? => valueMarks (subjects?.getD []) :=
        .tryCatch (.map (reads_matchSubjects fuel)) fun _ => .pure rfl
      refine .read hsubjects fun subjects? => ?_
      split
      · exact hsimple
      · refine .pass keeps_peek.passes fun next => ?_
        split
        · split
          · refine .read (ih.caseClauses _) fun clauses => ?_
            exact .pure (by simp)
          · exact .pure (by simp)
        · exact .pure (by simp)
    · exact hsimple
  · split
    · refine .read (reads_decorators fuel) fun decorators => ?_
      exact ih.definition indent decorators
    split
    · exact hsimple
    · exact .fail t.line
  · exact hsimple
  · exact hsimple
  · exact .fail t.line
  · exact .fail t.line

end Step

theorem readsStatements (fuel : Nat) : ReadsStatements fuel := by
  induction fuel with
  | zero => constructor <;> intros <;> exact .unexpected .brackets
  | succ fuel ih =>
    exact {
      block := reads_block ih
      suite := reads_suite ih
      statement := reads_statement ih
      forStatement := reads_forStatement ih
      withStatement := reads_withStatement ih
      definition := extends_definition ih
      elseClauses := reads_elseClauses ih
      elseClause := reads_elseClause ih
      exceptClauses := reads_exceptClauses ih
      caseClauses := reads_caseClauses ih }

/-! ### Whole texts -/

/-- What the tree of a text has is in the text: its identifiers are words of it, in their order, and
each is read or not as its slot says. -/
theorem marked_of_parse {source : String} {m : Module} (h : parse source = .ok m) :
    Marked m.marks (wordsOf (scan source)) := by
  unfold parse at h
  dsimp only at h
  split at h
  · rename_i body rest hrun
    cases h
    exact ((readsStatements _).block 0 _ [] (.start (closed_scanAll _ _ _ _)) hrun).marked
  · contradiction

end LayerCheck.Syntax
