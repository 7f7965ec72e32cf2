import LayerCheck.Proofs.ImportGrammar

/-!
The import statements of a tree, in whatever blocks they stand, are written in the text of the tree, one
after the other.
-/

namespace LayerCheck.Syntax

variable {α β : Type}

/-! ### Pieces of a text -/

/-- The pieces stand in the text one after the other. -/
inductive InOrder : List (List Token) → List Token → Prop where
  | nil (text : List Token) : InOrder [] text
  | cons (before piece : List Token) {pieces : List (List Token)} {rest : List Token}
      (h : InOrder pieces rest) : InOrder (piece :: pieces) (before ++ (piece ++ rest))

namespace InOrder

variable {pieces more : List (List Token)} {text text' : List Token}

theorem behind (h : InOrder pieces text) (before : List Token) : InOrder pieces (before ++ text) := by
  cases h with
  | nil => exact .nil _
  | cons earlier piece h =>
    rw [← List.append_assoc]
    exact .cons (before ++ earlier) piece h

theorem append (h : InOrder pieces text) (h' : InOrder more text') :
    InOrder (pieces ++ more) (text ++ text') := by
  induction h with
  | nil text => exact h'.behind text
  | cons before piece _ ih =>
    rw [List.append_assoc, List.append_assoc]
    exact .cons before piece ih

theorem singleton (piece : List Token) : InOrder [piece] piece := by
  simpa using InOrder.cons [] piece (.nil [])

theorem isInfix (h : InOrder pieces text) {piece : List Token} (hpiece : piece ∈ pieces) :
    piece <:+: text := by
  induction h with
  | nil => contradiction
  | cons before first _ ih =>
    rcases List.mem_cons.1 hpiece with rfl | hpiece
    · exact ((List.prefix_append _ _).isInfix).trans (List.suffix_append _ _).isInfix
    · exact (ih hpiece).trans ((List.suffix_append _ _).trans (List.suffix_append _ _)).isInfix

end InOrder

/-! ### Import statements of a text -/

/-- The statements are written in the text, one after the other. -/
def ImportsWritten (text : List Token) (statements : List Stmt) : Prop :=
  ∃ pieces, List.Forall₂ Stmt.ImportWritten statements pieces ∧ InOrder pieces text

namespace ImportsWritten

variable {text text' : List Token} {ss ts : List Stmt}

theorem nil (text : List Token) : ImportsWritten text [] :=
  ⟨[], .nil, .nil text⟩

theorem append (h : ImportsWritten text ss) (h' : ImportsWritten text' ts) :
    ImportsWritten (text ++ text') (ss ++ ts) := by
  obtain ⟨pieces, hwritten, horder⟩ := h
  obtain ⟨more, hwritten', horder'⟩ := h'
  exact ⟨pieces ++ more, List.rel_append hwritten hwritten', horder.append horder'⟩

theorem exists_piece (h : ImportsWritten text ss) {s : Stmt} (hs : s ∈ ss) :
    ∃ used, used <:+: text ∧ s.ImportWritten used := by
  obtain ⟨pieces, hwritten, horder⟩ := h
  obtain ⟨used, hused, hs⟩ := (Matched.of_forall₂ hwritten).left s hs
  exact ⟨used, horder.isInfix hused, hs⟩

end ImportsWritten

theorem Stmt.ImportWritten.importStatements_eq {s : Stmt} {used : List Token}
    (h : s.ImportWritten used) : s.importStatements = [s] := by
  cases h <;> rfl

@[simp] theorem importStatementsOf_append (ss ts : List Stmt) :
    importStatementsOf (ss ++ ts) = importStatementsOf ss ++ importStatementsOf ts := by
  induction ss with
  | nil => rfl
  | cons s ss ih => simp [ih]

/-- On the way from `tokens` to `rest` the statements are written. -/
structure Imported (tokens : List Token) (statements : List Stmt) (rest : List Token) : Prop where
  ended : Ended rest
  found : ∃ used, tokens = used ++ rest ∧ ImportsWritten used statements

theorem Imported.further {tokens rest rest' more : List Token} {statements found : List Stmt}
    (h : Imported tokens statements rest) (hended : Ended rest') (hrest : rest = more ++ rest')
    (hmore : ImportsWritten more found) : Imported tokens (statements ++ found) rest' := by
  obtain ⟨-, used, rfl, hused⟩ := h
  exact ⟨hended, used ++ more, by rw [hrest, List.append_assoc], hused.append hmore⟩

theorem Imported.pass {tokens rest rest' : List Token} {statements : List Stmt} {r : Reader α} {a : α}
    (hr : Passes r) (h : Imported tokens statements rest) (hrun : r.run rest = .ok (a, rest')) :
    Imported tokens statements rest' := by
  obtain ⟨last, hlast, hend, hwords⟩ := h.ended
  obtain ⟨⟨t, ht, -⟩, used, rfl, -⟩ := hr rest [] (.start ⟨last, hlast, hwords⟩) hrun
  rw [List.getLast?_append, ht, Option.some_or] at hlast
  rw [← Option.some.inj hlast] at hend hwords
  simpa using h.further ⟨t, ht, hend, hwords⟩ rfl (.nil used)

/-! ### What readers import -/

/-- Behind the statements found before, the reader finds those of its result. -/
def Finds (before : List Stmt) (r : Reader α) (found : α → List Stmt) : Prop :=
  ∀ tokens statements, Reader.Ensures (Imported tokens (statements ++ before)) r fun a =>
    Imported tokens (statements ++ found a)

/-- The same where the next token is known. -/
def FindsAt (t : Token) (before : List Stmt) (r : Reader α) (found : α → List Stmt) : Prop :=
  ∀ tokens statements, Reader.Ensures
    (fun rest => Imported tokens (statements ++ before) rest ∧ rest.head? = some t) r fun a =>
      Imported tokens (statements ++ found a)

section Rules

variable {before : List Stmt} {r : Reader α} {f : α → Reader β} {found : α → List Stmt}
  {found' : β → List Stmt} {t : Token}

theorem Finds.pure {a : α} (h : before = found a) : Finds before (pure a) found :=
  fun _ _ => Reader.ensures_pure fun _ himported => h ▸ himported

theorem Finds.read (h : Finds [] r found) (hf : ∀ a, Finds (before ++ found a) (f a) found') :
    Finds before (r >>= f) found' := by
  intro tokens statements
  have hfirst := h tokens (statements ++ before)
  simp only [List.append_nil, List.append_assoc] at hfirst
  exact Reader.ensures_bind hfirst fun a => hf a tokens statements

theorem Finds.pass (h : Passes r) (hf : ∀ a, Finds before (f a) found') :
    Finds before (r >>= f) found' :=
  fun tokens statements =>
    Reader.ensures_bind (fun _ _ _ himported => himported.pass h) fun a => hf a tokens statements

theorem Finds.unexpected (mode : Mode) : Finds before (Reader.unexpected mode) found :=
  fun _ _ => Reader.ensures_unexpected mode

theorem Finds.fail (line : Nat) : Finds before (Reader.fail line) found :=
  fun _ _ => Reader.ensures_fail line

theorem Finds.refused (mode : Mode) : Finds before (Reader.unexpected mode >>= f) found' :=
  fun _ _ => Reader.ensures_bind (Q := fun _ _ => False) (Reader.ensures_unexpected mode)
    fun _ _ _ _ hfalse => hfalse.elim

theorem Finds.failed (line : Nat) : Finds before (Reader.fail line >>= f) found' :=
  fun _ _ => Reader.ensures_bind (Q := fun _ _ => False) (Reader.ensures_fail line)
    fun _ _ _ _ hfalse => hfalse.elim

theorem Finds.tryCatch {handle : SyntaxError → Reader α} (h : Finds before r found)
    (hhandle : ∀ e, Finds before (handle e) found) :
    Finds before (MonadExcept.tryCatch r handle) found :=
  fun tokens statements =>
    Reader.ensures_tryCatch (h tokens statements) fun e => hhandle e tokens statements

theorem Finds.guard {c : Prop} [Decidable c] {next : Unit → Reader β} (mode : Mode)
    (h : Finds before (next ()) found') :
    Finds before (if c then next () else Reader.unexpected mode >>= next) found' := by
  split
  · exact h
  · exact .refused mode

theorem Finds.known (h : Finds before r found) : FindsAt t before r found :=
  fun tokens statements =>
    (h tokens statements).imp (fun _ hpre => hpre.1) fun _ _ hpost => hpost

theorem Finds.peek {f : Token → Reader β} (hf : ∀ t, FindsAt t before (f t) found') :
    Finds before (Reader.peek >>= f) found' :=
  fun tokens statements =>
    Reader.ensures_bind Reader.ensures_peek fun t => hf t tokens statements

/-- The tokens that are taken are those of the statement. -/
theorem TakesAt.finds {r : Reader Stmt}
    (h : TakesAt t r fun s used => s.importStatements = [] ∨ s.ImportWritten used) :
    FindsAt t [] r Stmt.importStatements := by
  rintro tokens statements rest s rest' ⟨himported, hhead⟩ hrun
  obtain ⟨hended, used, hrest, hwritten⟩ := h himported.ended hhead hrun
  rw [List.append_nil] at himported
  refine himported.further hended hrest ?_
  rcases hwritten with hnone | hwritten
  · rw [hnone]
    exact .nil used
  · rw [hwritten.importStatements_eq]
    exact ⟨[used], .cons hwritten .nil, .singleton used⟩

end Rules

/-! ### Statements -/

theorem finds_expressionStatement (fuel : Nat) :
    Finds [] (expressionStatement fuel) Stmt.importStatements := by
  have hsteps : Reads (do
      let items ← expressionsOrYield fuel { mode := .line }
      assignmentSteps fuel items) fun out => out.1.flatMap Step.marks ++ valueMarks out.2 :=
    .read ((readsExpressions fuel).expressionsOrYield _) fun items =>
      extends_assignmentSteps fuel items
  refine .pass hsteps.withTokens.passes fun out => .pure ?_
  split <;> simp

theorem finds_typeAlias (fuel : Nat) :
    Finds [] (typeAlias fuel) Stmt.importStatements := by
  have hexpression := (readsExpressions fuel).typeExpression .line true
  refine .pass passes_skip fun _ => ?_
  refine .pass hexpression.passes fun left => ?_
  refine .pass (passes_symbol .line "=") fun _ => ?_
  refine .pass hexpression.passes fun right => ?_
  refine .pass (keeps_peek.bind fun _ => .pure _).passes fun ends => ?_
  exact .guard .line (.pure (by simp))

theorem finds_simpleStatement (fuel : Nat) :
    Finds [] (simpleStatement fuel) Stmt.importStatements := by
  have hexpressions := readsExpressions fuel
  have hstatement := finds_expressionStatement fuel
  unfold simpleStatement
  refine .peek fun t => ?_
  split
  · exact hstatement.known
  rename_i hkind
  have hend : t.isEnd = false := Token.isEnd_of_kind (not_not.1 hkind)
  split
  · rename_i hword
    have himport : t.isWord "import" := by simp [Token.isWord, not_not.1 hkind, hword]
    have htakes : TakesAt t (do
        Reader.skip
        return .importModules t.line (← importedNames fuel .line)) Stmt.ImportWritten :=
      .skip hend ((takes_importedNames fuel .line).bind fun names used hnames =>
        .pure (by simpa using .modules himport hnames))
    exact (htakes.imp fun s used => .inr).finds
  · rename_i hword
    have hfrom : t.isWord "from" := by simp [Token.isWord, not_not.1 hkind, hword]
    have htakes : TakesAt t (do
        Reader.skip
        importFrom fuel t.line) fun s used => s.importStatements = [] ∨ s.ImportWritten used :=
      .skip hend ((takes_importFrom fuel t.line).imp fun s used hwritten => hwritten t hfrom rfl)
    exact htakes.finds
  · exact (Finds.pass passes_skip fun _ => .pure (by simp)).known
  · exact (Finds.pass passes_skip fun _ => .pure (by simp)).known
  · exact (Finds.pass passes_skip fun _ => .pure (by simp)).known
  · refine (Finds.pass passes_skip fun _ => ?_).known
    exact .pass (reads_optionalExpressions fuel).passes fun es => .pure (by simp)
  · refine (Finds.pass passes_skip fun _ => ?_).known
    exact .pass (hexpressions.expressions _).passes fun es => .pure (by simp)
  · refine (Finds.pass passes_skip fun _ => ?_).known
    exact .pass (reads_assertedExpressions fuel).passes fun es => .pure (by simp)
  · refine (Finds.pass passes_skip fun _ => ?_).known
    exact .pass (reads_declaredNames fuel).passes fun names => .pure (by simp)
  · refine (Finds.pass passes_skip fun _ => ?_).known
    exact .pass (reads_declaredNames fuel).passes fun names => .pure (by simp)
  · refine (Finds.pass passes_skip fun _ => ?_).known
    refine .pass (reads_optionalExpressions fuel).passes fun values => ?_
    refine .pass (passes_skipIf .line _) fun cause => ?_
    split
    · exact .pass (hexpressions.expression _).passes fun e => .pure (by simp)
    · exact .pure (by simp)
  · refine (Finds.pass keeps_peekSecond.passes fun second => ?_).known
    dsimp only
    split
    · exact .failed t.line
    · exact hstatement
  · exact ((finds_typeAlias fuel).tryCatch fun _ => hstatement).known
  · exact hstatement.known

/-- The reader finds the statements that import in what it gives. -/
abbrev FindsImports (r : Reader (List Stmt)) : Prop :=
  Finds [] r importStatementsOf

theorem findsImports_simpleStatements (fuel : Nat) : FindsImports (simpleStatements fuel) := by
  induction fuel with
  | zero => exact .unexpected .brackets
  | succ fuel ih =>
    rw [simpleStatements]
    refine .read (finds_simpleStatement fuel) fun s => ?_
    refine .pass keeps_peek.passes fun t => ?_
    split
    · exact .pure (by simp)
    refine .pass (passes_symbol .line ";") fun _ => ?_
    refine .pass keeps_peek.passes fun t => ?_
    split
    · exact .pure (by simp)
    · refine .read ih fun rest => ?_
      exact .pure (by simp)

/-- What the readers of statements with blocks find with some fuel. -/
structure FindsStatements (fuel : Nat) : Prop where
  block : ∀ indent, FindsImports (block fuel indent)
  suite : ∀ indent, FindsImports (suite fuel indent)
  statement : ∀ indent, FindsImports (statement fuel indent)
  forStatement : ∀ indent, FindsImports (forStatement fuel indent)
  withStatement : ∀ indent, FindsImports (withStatement fuel indent)
  definition : ∀ indent decorators, FindsImports (definition fuel indent decorators)
  elseClauses : ∀ indent, FindsImports (elseClauses fuel indent)
  elseClause : ∀ indent, FindsImports (elseClause fuel indent)
  exceptClauses : ∀ indent, FindsImports (exceptClauses fuel indent)
  caseClauses : ∀ indent, FindsImports (caseClauses fuel indent)

theorem passes_classHead (fuel : Nat) (position : Position) (decorators : List Expr) :
    Passes (classHead fuel position decorators) := by
  refine (reads_name .head .defined).passes.bind fun n => ?_
  refine (reads_typeParameters fuel).passes.bind fun typeParameters => ?_
  refine (passes_skipSymbol? "(").bind fun opened => ?_
  simp only [pure_bind]
  split
  · exact (readsExpressions fuel).arguments.passes.bind fun arguments => .pure _
  · exact .pure _

theorem passes_functionHead (fuel : Nat) (position : Position) (decorators : List Expr) :
    Passes (functionHead fuel position decorators) := by
  have hexpressions := readsExpressions fuel
  refine (reads_name .head .defined).passes.bind fun n => ?_
  refine (reads_typeParameters fuel).passes.bind fun typeParameters => ?_
  refine (passes_symbol .head "(").bind fun _ => ?_
  refine (hexpressions.parameters .brackets true ")").passes.bind fun parameters => ?_
  refine (passes_symbol .brackets ")").bind fun _ => ?_
  refine (passes_skipSymbol? "->").bind fun arrow => ?_
  simp only [pure_bind]
  split
  · exact (hexpressions.typeExpression .head false).passes.bind fun result => .pure _
  · exact .pure _

section Step

variable {fuel : Nat} (ih : FindsStatements fuel)
include ih

theorem findsImports_block (indent : Nat) : FindsImports (block (fuel + 1) indent) := by
  rw [block]
  refine .pass keeps_peek.passes fun t => ?_
  split
  · exact .pure (by simp)
  · refine .read (ih.statement indent) fun first => ?_
    refine .read (ih.block indent) fun rest => ?_
    exact .pure (by simp)

theorem findsImports_suite (indent : Nat) : FindsImports (suite (fuel + 1) indent) := by
  rw [suite]
  refine .pass (passes_symbol .head ":") fun _ => ?_
  refine .pass keeps_peek.passes fun t => ?_
  split
  · exact findsImports_simpleStatements fuel
  · split
    · exact ih.block _
    · exact .pure (by simp)

theorem findsImports_forStatement (indent : Nat) :
    FindsImports (forStatement (fuel + 1) indent) := by
  have hexpressions := readsExpressions fuel
  rw [forStatement]
  refine .pass passes_skip fun _ => ?_
  refine .pass (hexpressions.targetList .head).passes fun targets => ?_
  refine .pass (passes_word .head "in") fun _ => ?_
  refine .pass (hexpressions.expressions _).passes fun values => ?_
  refine .read (ih.suite indent) fun body => ?_
  refine .read (ih.elseClause indent) fun others => ?_
  exact .pure (by simp)

theorem findsImports_withStatement (indent : Nat) :
    FindsImports (withStatement (fuel + 1) indent) := by
  rw [withStatement]
  refine .pass passes_skip fun _ => ?_
  refine .pass ((readsExpressions fuel).expressions _).passes fun items => ?_
  refine .read (ih.suite indent) fun body => ?_
  exact .pure (by simp)

theorem findsImports_definition (indent : Nat) (decorators : List Expr) :
    FindsImports (definition (fuel + 1) indent decorators) := by
  have hbody (head : Head) : FindsImports (do
      return [.definition head (← suite fuel indent)]) :=
    .read (ih.suite indent) fun body => .pure (by simp)
  rw [definition]
  refine .pass keeps_peek.passes fun t => ?_
  refine .pass (passes_skipWord? "class") fun isClass => ?_
  split
  · exact .pass (passes_classHead fuel t.position decorators) hbody
  · refine .pass (passes_skipWord? "async") fun _ => ?_
    refine .pass (passes_skipWord? "def") fun isDef => .guard .brackets ?_
    exact .pass (passes_functionHead fuel t.position decorators) hbody

theorem findsImports_elseClause (indent : Nat) :
    FindsImports (elseClause (fuel + 1) indent) := by
  rw [elseClause]
  refine .pass (keeps_clauseStarts indent "else").passes fun starts => ?_
  split
  · refine .pass passes_skip fun _ => ?_
    refine .read (ih.suite indent) fun body => ?_
    exact .pure (by simp)
  · exact .pure (by simp)

theorem findsImports_elseClauses (indent : Nat) :
    FindsImports (elseClauses (fuel + 1) indent) := by
  rw [elseClauses]
  refine .pass (keeps_clauseStarts indent "elif").passes fun starts => ?_
  split
  · refine .pass passes_skip fun _ => ?_
    refine .pass ((readsExpressions fuel).expression _).passes fun condition => ?_
    refine .read (ih.suite indent) fun body => ?_
    refine .read (ih.elseClauses indent) fun others => ?_
    exact .pure (by simp)
  · exact ih.elseClause indent

theorem findsImports_exceptClauses (indent : Nat) :
    FindsImports (exceptClauses (fuel + 1) indent) := by
  have hbody (clause : Clause) (head : List Expr) : FindsImports (do
      let body ← suite fuel indent
      return .block clause head body :: (← exceptClauses fuel indent)) := by
    refine .read (ih.suite indent) fun body => ?_
    refine .read (ih.exceptClauses indent) fun others => ?_
    exact .pure (by simp)
  have hexpressions := readsExpressions fuel
  rw [exceptClauses]
  refine .pass (keeps_clauseStarts indent "except").passes fun starts => ?_
  split
  · refine .pass passes_skip fun _ => ?_
    refine .pass (passes_skipSymbol? "*") fun group => ?_
    refine .pass (keeps_nextIsSymbol ":").passes fun bare => ?_
    simp only [pure_bind]
    split
    · exact hbody _ []
    · refine .pass (hexpressions.expression _).passes fun e => ?_
      refine .pass (passes_skipSymbol? ",") fun comma => ?_
      split
      · exact .pass (hexpressions.expression _).passes fun target => hbody _ [e, target]
      · exact hbody _ [e]
  · exact .pure (by simp)

theorem findsImports_caseClauses (indent : Nat) :
    FindsImports (caseClauses (fuel + 1) indent) := by
  have hbody (head : List Expr) : FindsImports (do
      let body ← suite fuel indent
      return .block .caseBranch head body :: (← caseClauses fuel indent)) := by
    refine .read (ih.suite indent) fun body => ?_
    refine .read (ih.caseClauses indent) fun others => ?_
    exact .pure (by simp)
  rw [caseClauses]
  refine .pass keeps_peek.passes fun t => ?_
  split
  · exact .pure (by simp)
  simp only [pure_bind]
  split
  · refine .pass passes_skip fun _ => ?_
    refine .pass (reads_clausePatterns fuel).passes fun patterns => ?_
    refine .pass (passes_skipWord? "if") fun guarded => ?_
    split
    · exact .pass ((readsExpressions fuel).expression _).passes fun condition => hbody _
    · exact hbody _
  · exact .failed t.line

theorem findsImports_statement (indent : Nat) :
    FindsImports (statement (fuel + 1) indent) := by
  have hexpressions := readsExpressions fuel
  have hsimple := findsImports_simpleStatements fuel
  rw [statement]
  refine .pass keeps_peek.passes fun t => ?_
  dsimp only
  split
  · split
    · refine .pass passes_skip fun _ => ?_
      refine .pass (hexpressions.expression _).passes fun condition => ?_
      refine .read (ih.suite indent) fun body => ?_
      refine .read (ih.elseClauses indent) fun others => ?_
      exact .pure (by simp)
    · refine .pass passes_skip fun _ => ?_
      refine .pass (hexpressions.expression _).passes fun condition => ?_
      refine .read (ih.suite indent) fun body => ?_
      refine .read (ih.elseClause indent) fun others => ?_
      exact .pure (by simp)
    · exact ih.forStatement indent
    · exact ih.withStatement indent
    · refine .pass passes_skip fun _ => ?_
      refine .read (ih.suite indent) fun body => ?_
      refine .read (ih.exceptClauses indent) fun handlers => ?_
      split
      · simp only [pure_bind]
        refine .pass (keeps_clauseStarts indent "finally").passes fun starts => ?_
        split
        · refine .pass passes_skip fun _ => ?_
          refine .read (ih.suite indent) fun last => ?_
          exact .pure (by simp)
        · exact .refused .brackets
      · refine .read (ih.elseClause indent) fun others => ?_
        refine .pass (keeps_clauseStarts indent "finally").passes fun starts => ?_
        simp only [pure_bind]
        split
        · refine .pass passes_skip fun _ => ?_
          refine .read (ih.suite indent) fun last => ?_
          exact .pure (by simp)
        · exact .pure (by simp)
    · exact ih.definition indent []
    · exact ih.definition indent []
    · refine .pass keeps_peekSecond.passes fun second? => ?_
      split
      · split
        · exact ih.definition indent []
        split
        · exact .pass passes_skip fun _ => ih.forStatement indent
        split
        · exact .pass passes_skip fun _ => ih.withStatement indent
        · exact hsimple
      · exact .unexpected .line
    · have hsubjects : Reads (tryCatch (some <$> matchSubjects fuel) fun _ => pure none)
          fun subjects? => valueMarks (subjects?.getD []) :=
        .tryCatch (.map (reads_matchSubjects fuel)) fun _ => .pure rfl
      refine .pass hsubjects.passes fun subjects? => ?_
      split
      · exact hsimple
      · refine .pass keeps_peek.passes fun next => ?_
        split
        · split
          · refine .read (ih.caseClauses _) fun clauses => ?_
            exact .pure (by simp)
          · exact .pure (by simp)
        · exact .pure (by simp)
    · exact hsimple
  · split
    · refine .pass (reads_decorators fuel).passes fun decorators => ?_
      exact ih.definition indent decorators
    split
    · exact hsimple
    · exact .fail t.line
  · exact hsimple
  · exact hsimple
  · exact .fail t.line
  · exact .fail t.line

end Step

theorem findsStatements (fuel : Nat) : FindsStatements fuel := by
  induction fuel with
  | zero => constructor <;> intros <;> exact .unexpected .brackets
  | succ fuel ih =>
    exact {
      block := findsImports_block ih
      suite := findsImports_suite ih
      statement := findsImports_statement ih
      forStatement := findsImports_forStatement ih
      withStatement := findsImports_withStatement ih
      definition := findsImports_definition ih
      elseClauses := findsImports_elseClauses ih
      elseClause := findsImports_elseClause ih
      exceptClauses := findsImports_exceptClauses ih
      caseClauses := findsImports_caseClauses ih }

/-- The import statements of the tree of a text are written in the text, one after the other. -/
theorem importsWritten_of_parse {source : String} {m : Module} (h : parse source = .ok m) :
    ImportsWritten (scan source) (importStatementsOf m) := by
  obtain ⟨rest, hrun⟩ := parse_eq_ok.1 h
  have hstart : Imported (scan source) [] (scan source) :=
    ⟨ended_scan source, [], rfl, .nil []⟩
  obtain ⟨-, used, htext, hused⟩ := (findsStatements _).block 0 (scan source) [] hstart hrun
  rw [htext]
  simpa using hused.append (.nil rest)

end LayerCheck.Syntax
