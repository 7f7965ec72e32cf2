import LayerCheck.Proofs.BareExpressions

/-!
Reading statements from bare tokens, up to the tree of a whole text. Texts with the same bare tokens are
accepted alike, and their trees differ in places and in the texts that are cut out of the source only.
-/

namespace LayerCheck.Syntax

variable {label : Token → Nat}

/-! ### Statements without their spacing -/

/-- The name of an import list wherever it stands and however it is spaced. -/
def ImportedName.labelled (label : Token → Nat) (n : ImportedName) : ImportedName :=
  { words := n.words.map (Token.labelled label), asName := n.asName.map Name.unplaced }

/-- A statement, and the same statement wherever it stands and however it is spaced. -/
inductive Stmt.Unspaced (label : Token → Nat) : Stmt → Stmt → Prop where
  | expression {text text' : String} {items items' : List Expr}
      (hitems : items' = items.map Expr.unplaced) :
      Unspaced label (.expression text items) (.expression text' items')
  | assignment {text text' : String} {steps steps' : List Step} {values values' : List Expr}
      (hsteps : steps' = steps.map Step.unplaced) (hvalues : values' = values.map Expr.unplaced) :
      Unspaced label (.assignment text steps values) (.assignment text' steps' values')
  | importModules {line line' : Nat} {names names' : List ImportedName}
      (hnames : names' = names.map (ImportedName.labelled label)) :
      Unspaced label (.importModules line names) (.importModules line' names')
  | importFrom {line line' : Nat} {base base' : String} {names names' : List ImportedName}
      (hnames : names' = names.map (ImportedName.labelled label)) :
      Unspaced label (.importFrom line base names) (.importFrom line' base' names')
  | simple {parts parts' : List Expr} (hparts : parts' = parts.map Expr.unplaced) :
      Unspaced label (.simple parts) (.simple parts')
  | definition {head head' : Head} {body body' : List Stmt} (hhead : head' = head.unplaced)
      (hbody : List.Forall₂ (Unspaced label) body body') :
      Unspaced label (.definition head body) (.definition head' body')
  | block {clause : Clause} {head head' : List Expr} {body body' : List Stmt}
      (hhead : head' = head.map Expr.unplaced) (hbody : List.Forall₂ (Unspaced label) body body') :
      Unspaced label (.block clause head body) (.block clause head' body')

/-! ### Imports -/

theorem reflects_dottedName (fuel : Nat) (mode : Mode) :
    Reflects label (List.map (Token.labelled label)) (dottedName fuel mode) := by
  have hnames : Reflects label (fun u => u) (do
      let _ ← Reader.name mode
      let _ ← dottedRest fuel mode) := by
    refine .read (reflects_name mode) fun _ => ?_
    exact .read (reflects_dottedRest fuel mode) fun _ => .pure rfl
  refine hnames.withTokens.bind ?_
  rintro ⟨_, tokens⟩ ⟨_, _⟩ ⟨-, rfl⟩
  exact .pure rfl

theorem reflects_importedName (fuel : Nat) (mode : Mode) :
    Reflects label (ImportedName.labelled label) (importedName fuel mode) := by
  refine .read (reflects_dottedName fuel mode) fun words => ?_
  refine .read (reflects_skipIf mode fun t => t.isWord_labelled "as") fun aliased => ?_
  simp only [pure_bind, map_eq_pure_bind, bind_assoc]
  split
  · refine .read (reflects_name mode) fun n => ?_
    exact .pure rfl
  · exact .pure rfl

theorem reflects_importedNames (fuel : Nat) (mode : Mode) :
    Reflects label (List.map (ImportedName.labelled label)) (importedNames fuel mode) := by
  induction fuel with
  | zero => exact .unexpected .brackets
  | succ fuel ih =>
    rw [importedNames]
    refine .read (reflects_importedName fuel mode) fun first => ?_
    refine .continuing? mode (.pure rfl) fun t => ?_
    simp only [Token.isSymbol_labelled]
    split
    · refine .read reflects_skip fun _ => ?_
      refine .continuing? mode (.pure rfl) fun t => ?_
      simp only [Token.kind_labelled]
      split
      · exact .read ih fun rest => .pure rfl
      · exact .pure rfl
    · exact .pure rfl

theorem reflects_importList (fuel : Nat) :
    Reflects label (List.map (ImportedName.labelled label)) (importList fuel) := by
  refine .read (reflects_skipSymbol? "(") fun opened => ?_
  split
  · refine .read (reflects_importedNames fuel .brackets) fun names => ?_
    refine .read (reflects_symbol .brackets ")") fun _ => ?_
    exact .pure rfl
  · exact reflects_importedNames fuel .line

theorem reflects_importDots (fuel : Nat) : Reflects label (fun b => b) (importDots fuel) := by
  induction fuel with
  | zero => exact .pure rfl
  | succ fuel ih =>
    rw [importDots]
    refine .read (reflects_skipSymbol? ".") fun _ => ?_
    refine .read (reflects_skipSymbol? "...") fun _ => ?_
    split
    · exact .read ih fun _ => .pure rfl
    · exact .pure rfl

theorem echoes_importFrom (fuel line line' : Nat) :
    Echoes label (Stmt.Unspaced label) (importFrom fuel line) (importFrom fuel line') := by
  unfold importFrom
  refine .read (reflects_skipWord? "__future__") fun future => ?_
  split
  · refine .read (reflects_word .line "import") fun _ => ?_
    exact .read (reflects_importList fuel) fun _ => .pure (.simple rfl)
  · refine .read (reflects_importDots fuel) fun relative => ?_
    refine .read (reflects_nextIsWord "import") fun last => ?_
    have hnames (base base' : String) : Echoes label (Stmt.Unspaced label) (do
        Reader.word .line "import"
        if ← Reader.skipSymbol? "*" then return .importFrom line base []
        return .importFrom line base (← importList fuel)) (do
        Reader.word .line "import"
        if ← Reader.skipSymbol? "*" then return .importFrom line' base' []
        return .importFrom line' base' (← importList fuel)) := by
      refine .read (reflects_word .line "import") fun _ => ?_
      refine .read (reflects_skipSymbol? "*") fun star => ?_
      split
      · exact .pure (.importFrom rfl)
      · exact .read (reflects_importList fuel) fun _ => .pure (.importFrom rfl)
    simp only [pure_bind, map_eq_pure_bind, bind_assoc]
    split
    · exact hnames "" ""
    · exact .read (reflects_dottedName fuel .line) fun words => hnames _ _

/-! ### Assignments -/

/-- The steps of an assignment and the values at its end, wherever they stand. -/
def unplacedAssignment (out : List Step × List Expr) : List Step × List Expr :=
  (out.1.map Step.unplaced, out.2.map Expr.unplaced)

theorem mirrors_assignmentSteps (fuel : Nat) (items : List Expr) :
    Mirrors label unplacedAssignment (assignmentSteps fuel items)
      (assignmentSteps fuel (items.map Expr.unplaced)) := by
  induction fuel generalizing items with
  | zero => exact .unexpected .brackets
  | succ fuel ih =>
    have hexpressions := reflectsExpressions label fuel
    -- each kind of step reads values and goes on with them
    have hvalues (step step' : Step) (hstep : step' = step.unplaced) :
        Mirrors label unplacedAssignment (do
          let out ← assignmentSteps fuel (← expressionsOrYield fuel { mode := .line })
          return (step :: out.1, out.2)) (do
          let out ← assignmentSteps fuel (← expressionsOrYield fuel { mode := .line })
          return (step' :: out.1, out.2)) := by
      refine .read (hexpressions.expressionsOrYield _) fun values => ?_
      refine .read (ih values) fun out => ?_
      exact .pure (by simp [unplacedAssignment, hstep])
    rw [assignmentSteps, assignmentSteps]
    refine .continuing? .line (.pure rfl) fun t => ?_
    simp only [Token.isSymbol_labelled, Token.kind_labelled, Token.text_labelled, targetOf_map_unplaced]
    split
    · cases targetOf items with
      | none => exact .unexpected .line
      | some target => exact .read reflects_skip fun _ => hvalues _ _ rfl
    split
    · cases targetOf items with
      | none => exact .unexpected .line
      | some target =>
        refine .read reflects_skip fun _ => ?_
        refine .read (hexpressions.typeExpression .line true) fun hint => ?_
        refine .continuing? .line (.pure rfl) fun next => ?_
        simp only [Token.isSymbol_labelled]
        split
        · exact .read reflects_skip fun _ => hvalues _ _ rfl
        · exact .pure rfl
    split
    · cases targetOf items with
      | none => exact .unexpected .line
      | some target => exact .read reflects_skip fun _ => hvalues _ _ rfl
    · exact .pure rfl

theorem echoes_expressionStatement (label : Token → Nat) (fuel : Nat) :
    Echoes label (Stmt.Unspaced label) (expressionStatement fuel) (expressionStatement fuel) := by
  have hsteps : Reflects label unplacedAssignment (do
      let items ← expressionsOrYield fuel { mode := .line }
      assignmentSteps fuel items) :=
    .read ((reflectsExpressions label fuel).expressionsOrYield _) fun items =>
      mirrors_assignmentSteps fuel items
  refine hsteps.withTokens.bind ?_
  rintro ⟨⟨steps, values⟩, tokens⟩ ⟨_, tokens'⟩ ⟨rfl, -⟩
  cases steps with
  | nil => exact .pure (.expression rfl)
  | cons step steps => exact .pure (.assignment rfl rfl)

/-! ### Simple statements -/

theorem reflects_declaredNames (fuel : Nat) :
    Reflects label (List.map Expr.unplaced) (declaredNames fuel) := by
  induction fuel with
  | zero => exact .unexpected .brackets
  | succ fuel ih =>
    rw [declaredNames]
    refine .read (reflects_name .line) fun n => ?_
    refine .read (reflects_skipIf .line fun t => t.isSymbol_labelled ",") fun comma => ?_
    split
    · refine .read ih fun rest => ?_
      exact .pure rfl
    · exact .pure rfl

theorem reflects_assertedExpressions (fuel : Nat) :
    Reflects label (List.map Expr.unplaced) (assertedExpressions fuel) := by
  induction fuel with
  | zero => exact .unexpected .brackets
  | succ fuel ih =>
    rw [assertedExpressions]
    refine .read ((reflectsExpressions label fuel).expression _) fun e => ?_
    refine .read (reflects_skipIf .line fun t => t.isSymbol_labelled ",") fun comma => ?_
    split
    · refine .read ih fun rest => ?_
      exact .pure rfl
    · exact .pure rfl

theorem reflects_optionalExpressions (fuel : Nat) :
    Reflects label (List.map Expr.unplaced) (optionalExpressions fuel) := by
  refine .continuing? .line (.pure rfl) fun t => ?_
  simp only [Token.startsExpression_labelled]
  split
  · exact (reflectsExpressions label fuel).expressions _
  · exact .pure rfl

theorem echoes_typeAlias (fuel : Nat) :
    Echoes label (Stmt.Unspaced label) (typeAlias fuel) (typeAlias fuel) := by
  have hends : Reflects label (fun b => b) atStatementEnd :=
    .read reflects_peek fun t => .pure (by simp)
  refine .read reflects_skip fun _ => ?_
  refine .read ((reflectsExpressions label fuel).typeExpression .line true) fun left => ?_
  refine .read (reflects_symbol .line "=") fun _ => ?_
  refine .read ((reflectsExpressions label fuel).typeExpression .line true) fun right => ?_
  refine .read hends fun ends => ?_
  exact .guard .line (.pure (.simple (by simp)))

theorem echoes_simpleStatement (fuel : Nat) :
    Echoes label (Stmt.Unspaced label) (simpleStatement fuel) (simpleStatement fuel) := by
  have hexpressions := reflectsExpressions label fuel
  have hstatement := echoes_expressionStatement label fuel
  have hsimple {r : Reader (List Expr)} (h : Reflects label (List.map Expr.unplaced) r) :
      Echoes label (Stmt.Unspaced label) (do return .simple (← r)) (do return .simple (← r)) :=
    .read h fun _ => .pure (.simple rfl)
  have hdeclared : Echoes label (Stmt.Unspaced label)
      (do return .simple [.group .declared (← declaredNames fuel)])
      (do return .simple [.group .declared (← declaredNames fuel)]) := by
    refine .read (reflects_declaredNames fuel) fun names => ?_
    exact .pure (.simple (by simp))
  unfold simpleStatement
  refine .read reflects_peek fun t => ?_
  simp only [Token.kind_labelled, Token.text_labelled, Token.line_labelled]
  split
  · exact hstatement
  split
  · refine .read reflects_skip fun _ => ?_
    exact .read (reflects_importedNames fuel .line) fun _ => .pure (.importModules rfl)
  · exact .read reflects_skip fun _ => echoes_importFrom fuel t.line 1
  · exact .read reflects_skip fun _ => .pure (.simple rfl)
  · exact .read reflects_skip fun _ => .pure (.simple rfl)
  · exact .read reflects_skip fun _ => .pure (.simple rfl)
  · exact .read reflects_skip fun _ => hsimple (reflects_optionalExpressions fuel)
  · exact .read reflects_skip fun _ => hsimple (hexpressions.expressions _)
  · exact .read reflects_skip fun _ => hsimple (reflects_assertedExpressions fuel)
  · exact .read reflects_skip fun _ => hdeclared
  · exact .read reflects_skip fun _ => hdeclared
  · refine .read reflects_skip fun _ => ?_
    refine .read (reflects_optionalExpressions fuel) fun values => ?_
    refine .read (reflects_skipIf .line fun t => t.isWord_labelled "from") fun cause => ?_
    split
    · refine .read (hexpressions.expression _) fun e => ?_
      exact .pure (.simple (by simp))
    · exact .pure (.simple rfl)
  · refine .read reflects_peekSecond fun second => ?_
    simp only [Option.any_map, Token.isSymbol_labelled]
    split
    · exact .failed t.line 1
    · exact hstatement
  · exact (echoes_typeAlias fuel).tryCatch fun _ _ => hstatement
  · exact hstatement

theorem echoes_simpleStatements (label : Token → Nat) (fuel : Nat) :
    Echoes label (List.Forall₂ (Stmt.Unspaced label)) (simpleStatements fuel)
      (simpleStatements fuel) := by
  induction fuel with
  | zero => exact .unexpected .brackets
  | succ fuel ih =>
    rw [simpleStatements]
    refine (echoes_simpleStatement fuel).bind fun s s' hs => ?_
    refine .read reflects_peek fun t => ?_
    rw [Token.indent_labelled]
    split
    · exact .pure (.cons hs .nil)
    refine .read (reflects_symbol .line ";") fun _ => ?_
    refine .read reflects_peek fun t => ?_
    rw [Token.indent_labelled]
    split
    · exact .pure (.cons hs .nil)
    · exact ih.bind fun rest rest' hrest => .pure (.cons hs hrest)

/-! ### Definitions -/

theorem reflects_typeParameters (fuel : Nat) :
    Reflects label (List.map Expr.unplaced) (typeParameters fuel) := by
  refine .read (reflects_skipSymbol? "[") fun opened => ?_
  split
  · refine .read (reflectsExpressions label fuel).typeArguments fun es => ?_
    exact .pure (by simp)
  · exact .pure rfl

theorem mirrors_classHead (fuel : Nat) (position : Position) (decorators : List Expr) :
    Mirrors label Head.unplaced (classHead fuel position decorators)
      (classHead fuel {} (decorators.map Expr.unplaced)) := by
  refine .read (reflects_name .head) fun n => ?_
  refine .read (reflects_typeParameters fuel) fun typeParameters => ?_
  refine .read (reflects_skipSymbol? "(") fun opened => ?_
  simp only [pure_bind]
  split
  · refine .read (reflectsExpressions label fuel).arguments fun arguments => ?_
    exact .pure (by simp [Head.unplaced, unplacedOf_eq_map])
  · exact .pure (by simp [Head.unplaced, unplacedOf_eq_map])

theorem mirrors_functionHead (fuel : Nat) (position : Position) (decorators : List Expr) :
    Mirrors label Head.unplaced (functionHead fuel position decorators)
      (functionHead fuel {} (decorators.map Expr.unplaced)) := by
  have hexpressions := reflectsExpressions label fuel
  refine .read (reflects_name .head) fun n => ?_
  refine .read (reflects_typeParameters fuel) fun typeParameters => ?_
  refine .read (reflects_symbol .head "(") fun _ => ?_
  refine .read (hexpressions.parameters .brackets true ")") fun parameters => ?_
  refine .read (reflects_symbol .brackets ")") fun _ => ?_
  refine .read (reflects_skipSymbol? "->") fun arrow => ?_
  simp only [pure_bind]
  split
  · refine .read (hexpressions.typeExpression .head false) fun result => ?_
    exact .pure (by simp [Head.unplaced, unplacedOf_eq_map])
  · exact .pure (by simp [Head.unplaced, unplacedOf_eq_map])

theorem reflects_decorators (fuel : Nat) :
    Reflects label (List.map Expr.unplaced) (decorators fuel) := by
  induction fuel with
  | zero => exact .unexpected .brackets
  | succ fuel ih =>
    rw [decorators]
    refine .read (reflects_skipSymbol? "@") fun decorated => ?_
    split
    · refine .read ((reflectsExpressions label fuel).expression _) fun e => ?_
      refine .read reflects_peek fun t => ?_
      rw [Token.indent_labelled]
      exact .guard .line (.read ih fun rest => .pure rfl)
    · exact .pure rfl

/-! ### Statements with blocks -/

theorem reflects_clauseStarts (indent : Nat) (word : String) :
    Reflects label (fun b => b) (clauseStarts indent word) :=
  .read reflects_peek fun t => .pure (by simp)

theorem reflects_matchSubjects (fuel : Nat) :
    Reflects label (List.map Expr.unplaced) (matchSubjects fuel) := by
  refine .read reflects_skip fun _ => ?_
  refine .read ((reflectsExpressions label fuel).expressions _) fun subjects => ?_
  refine .read (reflects_symbol .line ":") fun _ => ?_
  refine .read reflects_peek fun t => ?_
  rw [Token.indent_labelled]
  exact .guard .line (.pure rfl)

/-- The reader gives the same statements on bare tokens, however they are spaced. -/
abbrev EchoesStatements (label : Token → Nat) (r r' : Reader (List Stmt)) : Prop :=
  Echoes label (List.Forall₂ (Stmt.Unspaced label)) r r'

/-- What the readers of statements with blocks do on bare tokens with some fuel. -/
structure ReflectsStatements (label : Token → Nat) (fuel : Nat) : Prop where
  block : ∀ indent, EchoesStatements label (block fuel indent) (block fuel indent)
  suite : ∀ indent, EchoesStatements label (suite fuel indent) (suite fuel indent)
  statement : ∀ indent, EchoesStatements label (statement fuel indent) (statement fuel indent)
  forStatement : ∀ indent,
    EchoesStatements label (forStatement fuel indent) (forStatement fuel indent)
  withStatement : ∀ indent,
    EchoesStatements label (withStatement fuel indent) (withStatement fuel indent)
  definition : ∀ indent decorators, EchoesStatements label (definition fuel indent decorators)
    (definition fuel indent (decorators.map Expr.unplaced))
  elseClauses : ∀ indent, EchoesStatements label (elseClauses fuel indent) (elseClauses fuel indent)
  elseClause : ∀ indent, EchoesStatements label (elseClause fuel indent) (elseClause fuel indent)
  exceptClauses : ∀ indent,
    EchoesStatements label (exceptClauses fuel indent) (exceptClauses fuel indent)
  caseClauses : ∀ indent, EchoesStatements label (caseClauses fuel indent) (caseClauses fuel indent)

section Step

variable {fuel : Nat} (ih : ReflectsStatements label fuel)
include ih

theorem echoes_block (indent : Nat) :
    EchoesStatements label (block (fuel + 1) indent) (block (fuel + 1) indent) := by
  rw [block]
  refine .read reflects_peek fun t => ?_
  rw [Token.isEnd_labelled, Token.indent_labelled]
  split
  · exact .pure .nil
  · refine (ih.statement indent).bind fun first first' hfirst => ?_
    refine (ih.block indent).bind fun rest rest' hrest => ?_
    exact .pure (List.rel_append hfirst hrest)

theorem echoes_suite (indent : Nat) :
    EchoesStatements label (suite (fuel + 1) indent) (suite (fuel + 1) indent) := by
  rw [suite]
  refine .read (reflects_symbol .head ":") fun _ => ?_
  refine .read reflects_peek fun t => ?_
  rw [Token.indent_labelled]
  split
  · exact echoes_simpleStatements label fuel
  · split
    · exact ih.block _
    · exact .pure .nil

/-- The clauses behind a block follow it. -/
theorem EchoesStatements.block {r r' : Reader (List Stmt)} (h :
    EchoesStatements label r r') (indent : Nat)
    (clause : Clause) (head : List Expr) :
    EchoesStatements label (do
      let body ← suite fuel indent
      return .block clause head body :: (← r)) (do
      let body ← suite fuel indent
      return .block clause (head.map Expr.unplaced) body :: (← r')) := by
  refine (ih.suite indent).bind fun body body' hbody => ?_
  exact h.bind fun others others' hothers => .pure (.cons (.block rfl hbody) hothers)

theorem echoes_forStatement (indent : Nat) :
    EchoesStatements label (forStatement (fuel + 1) indent) (forStatement (fuel + 1) indent) := by
  have hexpressions := reflectsExpressions label fuel
  rw [forStatement]
  refine .read reflects_skip fun _ => ?_
  refine .read (hexpressions.targetList .head) fun targets => ?_
  refine .read (reflects_word .head "in") fun _ => ?_
  refine .read (hexpressions.expressions _) fun values => ?_
  have hblock := (ih.elseClause indent).block ih indent .forLoop
  exact (hblock (.group .targets targets :: values)).cast (by simp)

theorem echoes_withStatement (indent : Nat) :
    EchoesStatements label (withStatement (fuel + 1) indent) (withStatement (fuel + 1) indent) := by
  rw [withStatement]
  refine .read reflects_skip fun _ => ?_
  refine .read ((reflectsExpressions label fuel).expressions _) fun items => ?_
  exact (ih.suite indent).bind fun body body' hbody => .pure (.cons (.block rfl hbody) .nil)

theorem echoes_definition (indent : Nat) (decorators : List Expr) :
    EchoesStatements label (definition (fuel + 1) indent decorators)
      (definition (fuel + 1) indent (decorators.map Expr.unplaced)) := by
  have hbody (head : Head) : EchoesStatements label
      (do return [.definition head (← suite fuel indent)])
      (do return [.definition head.unplaced (← suite fuel indent)]) :=
    (ih.suite indent).bind fun body body' hbody => .pure (.cons (.definition rfl hbody) .nil)
  rw [definition, definition]
  refine .read reflects_peek fun t => ?_
  rw [Token.position_labelled]
  refine .read (reflects_skipWord? "class") fun isClass => ?_
  split
  · exact .read (mirrors_classHead fuel t.position decorators) hbody
  · refine .read (reflects_skipWord? "async") fun _ => ?_
    refine .read (reflects_skipWord? "def") fun isDef => ?_
    exact .guard .brackets (.read (mirrors_functionHead fuel t.position decorators) hbody)

theorem echoes_elseClause (indent : Nat) :
    EchoesStatements label (elseClause (fuel + 1) indent) (elseClause (fuel + 1) indent) := by
  rw [elseClause]
  refine .read (reflects_clauseStarts indent "else") fun starts => ?_
  split
  · refine .read reflects_skip fun _ => ?_
    exact (ih.suite indent).bind fun body body' hbody => .pure (.cons (.block rfl hbody) .nil)
  · exact .pure .nil

theorem echoes_elseClauses (indent : Nat) :
    EchoesStatements label (elseClauses (fuel + 1) indent) (elseClauses (fuel + 1) indent) := by
  rw [elseClauses]
  refine .read (reflects_clauseStarts indent "elif") fun starts => ?_
  split
  · refine .read reflects_skip fun _ => ?_
    refine .read ((reflectsExpressions label fuel).expression _) fun condition => ?_
    exact (ih.elseClauses indent).block ih indent .elifBranch [condition]
  · exact ih.elseClause indent

theorem echoes_exceptClauses (indent : Nat) :
    EchoesStatements label (exceptClauses (fuel + 1) indent) (exceptClauses (fuel + 1) indent) := by
  have hblock := (ih.exceptClauses indent).block ih indent
  have hexpressions := reflectsExpressions label fuel
  rw [exceptClauses]
  refine .read (reflects_clauseStarts indent "except") fun starts => ?_
  split
  · refine .read reflects_skip fun _ => ?_
    refine .read (reflects_skipSymbol? "*") fun group => ?_
    refine .read (reflects_nextIsSymbol ":") fun bare => ?_
    simp only [pure_bind]
    split
    · exact hblock _ []
    · refine .read (hexpressions.expression _) fun e => ?_
      refine .read (reflects_skipSymbol? ",") fun comma => ?_
      split
      · refine .read (hexpressions.expression _) fun target => ?_
        exact hblock _ [e, target]
      · exact hblock _ [e]
  · exact .pure .nil

theorem echoes_caseClauses (indent : Nat) :
    EchoesStatements label (caseClauses (fuel + 1) indent) (caseClauses (fuel + 1) indent) := by
  have hblock := (ih.caseClauses indent).block ih indent .caseBranch
  rw [caseClauses]
  refine .read reflects_peek fun t => ?_
  rw [Token.isEnd_labelled, Token.indent_labelled, Token.isWord_labelled]
  split
  · exact .pure .nil
  simp only [pure_bind]
  split
  · refine .read reflects_skip fun _ => ?_
    refine .read (reflects_clausePatterns fuel) fun patterns => ?_
    refine .read (reflects_skipWord? "if") fun guarded => ?_
    split
    · refine .read ((reflectsExpressions label fuel).expression _) fun condition => ?_
      exact (hblock [.group .patterns patterns, condition]).cast (by simp)
    · exact (hblock [.group .patterns patterns]).cast (by simp)
  · exact .failed t.line _

theorem echoes_statement (indent : Nat) :
    EchoesStatements label (statement (fuel + 1) indent) (statement (fuel + 1) indent) := by
  have hexpressions := reflectsExpressions label fuel
  have hsimple := echoes_simpleStatements label fuel
  rw [statement]
  refine .read reflects_peek fun t => ?_
  simp only [Token.kind_labelled, Token.text_labelled, Token.startsExpression_labelled,
    Token.line_labelled]
  split
  · split
    · refine .read reflects_skip fun _ => ?_
      refine .read (hexpressions.expression _) fun condition => ?_
      exact (ih.elseClauses indent).block ih indent .ifBranch [condition]
    · refine .read reflects_skip fun _ => ?_
      refine .read (hexpressions.expression _) fun condition => ?_
      exact (ih.elseClause indent).block ih indent .whileLoop [condition]
    · exact ih.forStatement indent
    · exact ih.withStatement indent
    · refine .read reflects_skip fun _ => ?_
      refine (ih.suite indent).bind fun body body' hbody => ?_
      refine (ih.exceptClauses indent).bind fun handlers handlers' hhandlers => ?_
      have hempty : handlers'.isEmpty = handlers.isEmpty := by cases hhandlers <;> rfl
      have hclauses {others others' last last' : List Stmt}
          (hothers : List.Forall₂ (Stmt.Unspaced label) others others')
          (hlast : List.Forall₂ (Stmt.Unspaced label) last last') :
          List.Forall₂ (Stmt.Unspaced label) (.block .tryBody [] body :: handlers ++ others ++ last)
            (.block .tryBody [] body' :: handlers' ++ others' ++ last') :=
        List.rel_append (List.rel_append (.cons (.block rfl hbody) hhandlers) hothers) hlast
      rw [hempty]
      split
      · simp only [pure_bind]
        refine .read (reflects_clauseStarts indent "finally") fun starts => ?_
        split
        · refine .read reflects_skip fun _ => ?_
          exact (ih.suite indent).bind fun _ _ h => .pure (hclauses .nil (.cons (.block rfl h) .nil))
        · exact .refused .brackets
      · refine (ih.elseClause indent).bind fun others others' hothers => ?_
        refine .read (reflects_clauseStarts indent "finally") fun starts => ?_
        simp only [pure_bind]
        split
        · refine .read reflects_skip fun _ => ?_
          exact (ih.suite indent).bind fun _ _ h =>
            .pure (hclauses hothers (.cons (.block rfl h) .nil))
        · exact .pure (hclauses hothers .nil)
    · exact ih.definition indent []
    · exact ih.definition indent []
    · refine .read reflects_peekSecond fun second? => ?_
      cases second? with
      | none => exact .unexpected .line
      | some second =>
        simp only [Option.map_some, Token.isWord_labelled]
        split
        · exact ih.definition indent []
        split
        · exact .read reflects_skip fun _ => ih.forStatement indent
        split
        · exact .read reflects_skip fun _ => ih.withStatement indent
        · exact hsimple
    · have hsubjects : Reflects label (Option.map (List.map Expr.unplaced))
          (tryCatch (some <$> matchSubjects fuel) fun _ => pure none) := by
        refine .tryCatch (.map ?_) fun _ _ => .pure rfl
        exact (reflects_matchSubjects fuel).imp fun _ _ h => congrArg some h
      refine .read hsubjects fun subjects? => ?_
      cases subjects? with
      | none => exact hsimple
      | some subjects =>
        have hhead : List.Forall₂ (Stmt.Unspaced label) [.block .matchSubject subjects []]
            [.block .matchSubject (subjects.map Expr.unplaced) []] := .cons (.block rfl .nil) .nil
        refine .read reflects_peek fun next => ?_
        rw [Token.indent_labelled]
        split
        · split
          · exact (ih.caseClauses _).bind fun _ _ h => .pure (.cons (.block rfl .nil) h)
          · exact .pure hhead
        · exact .pure hhead
    · exact hsimple
  · split
    · refine .read (reflects_decorators fuel) fun decorators => ?_
      exact ih.definition indent decorators
    split
    · exact hsimple
    · exact .fail t.line 1
  · exact hsimple
  · exact hsimple
  · exact .fail t.line 1
  · exact .fail t.line 1

end Step

theorem reflectsStatements (label : Token → Nat) (fuel : Nat) : ReflectsStatements label fuel := by
  induction fuel with
  | zero => constructor <;> intros <;> exact .unexpected .brackets
  | succ fuel ih =>
    exact {
      block := echoes_block ih
      suite := echoes_suite ih
      statement := echoes_statement ih
      forStatement := echoes_forStatement ih
      withStatement := echoes_withStatement ih
      definition := echoes_definition ih
      elseClauses := echoes_elseClauses ih
      elseClause := echoes_elseClause ih
      exceptClauses := echoes_exceptClauses ih
      caseClauses := echoes_caseClauses ih }

/-! ### Whole texts -/

/-- The tokens of a text without the spacing between them. Which tokens start a line outside of brackets
and how far these are indented stays. -/
def wording (source : String) : List Token :=
  (scan source).map Token.bare

theorem textLength_map_labelled (label : Token → Nat) (tokens : List Token) :
    textLength (tokens.map (Token.labelled label)) = textLength tokens := by
  induction tokens with
  | nil => rfl
  | cons t tokens ih => rw [List.map_cons, textLength, textLength, Token.text_labelled, ih]

/-- However a text is spaced, it is read as the same statements. -/
theorem exists_unspaced_of_parse {label' : Token → Nat} {source source' : String} {m : Module}
    (hsame : (scan source').map (Token.labelled label') = (scan source).map (Token.labelled label))
    (h : parse source = .ok m) : ∃ m' unspaced, parse source' = .ok m' ∧
      List.Forall₂ (Stmt.Unspaced label) m unspaced ∧
        List.Forall₂ (Stmt.Unspaced label') m' unspaced := by
  have hlength : textLength (scan source') = textLength (scan source) := by
    rw [← textLength_map_labelled label', hsame, textLength_map_labelled]
  obtain ⟨rest, hrun⟩ := parse_eq_ok.1 h
  have hblock (label : Token → Nat) :=
    (reflectsStatements label (30 * (textLength (scan source) + 2))).block 0
  have hout := hblock label (ended_scan source)
  have hout' := hblock label' (ended_scan source')
  rw [hrun] at hout
  obtain ⟨unspaced, hm, hbare⟩ := hout.of_ok_left
  -- the bare tokens of both texts are read in one run
  rw [hsame, hbare] at hout'
  obtain ⟨m', rest', hm', hrun'⟩ := hout'.of_ok_right
  refine ⟨m', unspaced, parse_eq_ok.2 ⟨rest', ?_⟩, hm, hm'⟩
  rw [hlength, hrun']

end LayerCheck.Syntax
