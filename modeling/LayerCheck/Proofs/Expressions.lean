import LayerCheck.Proofs.Reader

/-!
What is found where expressions are read: the identifiers of the expression, in the order of the text
and each in its slot.
-/

namespace LayerCheck.Syntax

/-- The marks of expressions whose values are read. -/
abbrev valueMarks (es : List Expr) : List Mark :=
  es.flatMap (·.marks .value)

/-- What the readers of expressions find with some fuel. -/
structure ReadsExpressions (fuel : Nat) : Prop where
  expression : ∀ ctx, Reads (expression fuel ctx) (·.marks .value)
  operators : ∀ ctx before,
    Extends (valueMarks before) (operators fuel ctx before) (·.marks .value)
  operand : ∀ ctx exprLevel, Reads (operand fuel ctx exprLevel) (·.marks .value)
  splat : ∀ ctx, Reads (splat fuel ctx) (·.marks .value)
  starred : ∀ ctx e, Extends (e.marks .value) (starred fuel ctx e) (·.marks .value)
  primary : ∀ ctx, Reads (primary fuel ctx) (·.marks .value)
  trailers : ∀ ctx e, Extends (e.marks .value) (trailers fuel ctx e) (·.marks .value)
  atom : ∀ ctx, Reads (atom fuel ctx) (·.marks .value)
  strings : ∀ ctx, Reads (strings fuel ctx) valueMarks
  fields : ∀ P line tokens, Reader.Ensures P (fields fuel line tokens) fun parts rest =>
    P rest ∧ Marked (valueMarks parts) (wordsOfFields tokens)
  collection : ∀ closing shape, shape = .tuple ∨ shape = .list →
    Reads (collection fuel closing shape) (·.marks .value)
  items : ∀ closing, Reads (items fuel closing) valueMarks
  item : Reads (item fuel) (·.marks .value)
  braces : Reads (braces fuel) (·.marks .value)
  entries : Reads (entries fuel) valueMarks
  comprehension : Reads (comprehension fuel) valueMarks
  targetList : ∀ mode, Reads (targetList fuel mode) (·.flatMap (·.marks (.bound .target)))
  arguments : Reads (arguments fuel) valueMarks
  moreArguments : Reads (moreArguments fuel) valueMarks
  argument : Reads (argument fuel) (·.marks .value)
  subscripts : Reads (subscripts fuel) valueMarks
  slice : Reads (slice fuel) valueMarks
  expressions : ∀ ctx, Reads (expressions fuel ctx) valueMarks
  expressionsOrYield : ∀ ctx, Reads (expressionsOrYield fuel ctx) valueMarks
  parameters : ∀ mode annotated closing, Reads (parameters fuel mode annotated closing) valueMarks
  parameter : ∀ mode annotated, Reads (parameter fuel mode annotated) valueMarks
  typeExpression : ∀ mode bounds, Reads (typeExpression fuel mode bounds) (·.marks .value)
  typeRest : ∀ mode bounds e,
    Extends (e.marks .value) (typeRest fuel mode bounds e) (·.marks .value)
  typeArguments : Reads (typeArguments fuel) valueMarks

section Step

variable {fuel : Nat} (ih : ReadsExpressions fuel)
include ih

/-! ### Operators and operands -/

theorem reads_expression (ctx : Context) : Reads (expression (fuel + 1) ctx) (·.marks .value) := by
  rw [expression]
  refine .read (ih.operand ctx true) fun first => ?_
  exact (ih.operators ctx [first]).cast (by simp)

theorem extends_operators (ctx : Context) (before : List Expr) :
    Extends (valueMarks before) (operators (fuel + 1) ctx before) (·.marks .value) := by
  have hafter (exprLevel : Bool) : Extends (valueMarks before)
      (do operators fuel ctx (before ++ [← operand fuel ctx exprLevel])) (·.marks .value) := by
    refine .read (ih.operand ctx exprLevel) fun e => ?_
    exact (ih.operators ctx (before ++ [e])).cast (by simp)
  have hdone : Extends (valueMarks before) (pure (Expr.compound before)) (·.marks .value) :=
    .pure (by simp)
  rw [operators]
  refine .pass (keeps_continuing? ctx.mode).passes fun t? => ?_
  split
  · dsimp only
    split
    · split
      · exact .pass passes_skip fun _ => hafter false
      · exact hdone
    · split
      · exact .pass passes_skip fun _ => hafter true
      · exact .pass passes_skip fun _ => hafter true
      · exact .pass passes_skip fun _ => hafter false
      · refine .pass passes_skip fun _ => ?_
        exact .pass (passes_skipWord? "not") fun _ => hafter false
      · refine .pass keeps_peekSecond.passes fun second => ?_
        split
        · split
          · exact .pass passes_skip fun _ => .pass passes_skip fun _ => hafter false
          · exact hdone
        · exact hdone
      · refine .pass passes_skip fun _ => ?_
        refine .read (ih.operand ctx true) fun target => ?_
        refine (ih.operators ctx _).exchange ?_
        simpa using List.rel_append (forall₂_yields_refl (valueMarks before)) target.yields_toAlias
      · split
        · refine .pass passes_skip fun _ => ?_
          refine .read (ih.expression ctx) fun condition => ?_
          refine .pass (passes_word ctx.mode "else") fun _ => ?_
          refine .read (ih.expression ctx) fun other => ?_
          exact .pure (by simp)
        · exact hdone
      · exact hdone
    · exact hdone
  · exact hdone

theorem reads_operand (ctx : Context) (exprLevel : Bool) :
    Reads (operand (fuel + 1) ctx exprLevel) (·.marks .value) := by
  have hunary (exprLevel : Bool) : Reads (do return .group .compound [← operand fuel ctx exprLevel])
      (Expr.marks · .value) :=
    .read (ih.operand ctx exprLevel) fun e => .pure (by simp)
  rw [operand]
  refine .pass keeps_peek.passes fun t => ?_
  refine .pass keeps_peekSecond.passes fun second => ?_
  split
  · split
    · exact .pass passes_skip fun _ => hunary false
    · exact .pass passes_skip fun _ => hunary false
    · exact .pass passes_skip fun _ => hunary false
    · exact .pass passes_skip fun _ => ih.splat ctx
    · exact ih.primary ctx
  · dsimp only
    split
    · exact .pass passes_skip fun _ => hunary true
    · split
      · refine .pass passes_skip fun _ => ?_
        refine .read (ih.parameters ctx.mode false ":") fun ps => ?_
        refine .pass (passes_symbol ctx.mode ":") fun _ => ?_
        refine .read (ih.expression ctx) fun body => ?_
        exact .pure (by simp)
      · split
        · exact .pass passes_skip fun _ => hunary false
        · split
          · refine .read (reads_name ctx.mode (.bound .target)) fun n => ?_
            refine .pass passes_skip fun _ => ?_
            refine .read (ih.expression ctx) fun value => ?_
            exact .pure (by simp)
          · exact ih.primary ctx
  · exact ih.primary ctx

theorem reads_splat (ctx : Context) : Reads (splat (fuel + 1) ctx) (·.marks .value) := by
  rw [splat]
  refine .read (ih.atom ctx) fun e => ?_
  refine ((ih.starred ctx e).cast (by simp)).bind fun value => ?_
  exact (ih.trailers ctx _).cast (by simp)

theorem extends_starred (ctx : Context) (e : Expr) :
    Extends (e.marks .value) (starred (fuel + 1) ctx e) (·.marks .value) := by
  rw [starred]
  refine .pass (keeps_continuing? ctx.mode).passes fun t? => ?_
  split
  · split
    · refine .pass passes_skip fun _ => ?_
      refine .read (reads_name ctx.mode .member) fun n => ?_
      exact (ih.starred ctx _).cast (by simp)
    · split
      · refine .pass passes_skip fun _ => ?_
        refine .read ih.subscripts fun indices => ?_
        exact (ih.starred ctx _).cast (by simp)
      · exact .pure rfl
  · exact .pure rfl

theorem reads_primary (ctx : Context) : Reads (primary (fuel + 1) ctx) (·.marks .value) := by
  rw [primary]
  refine .read (ih.atom ctx) fun e => ?_
  exact (ih.trailers ctx e).cast (by simp)

theorem extends_trailers (ctx : Context) (e : Expr) :
    Extends (e.marks .value) (trailers (fuel + 1) ctx e) (·.marks .value) := by
  rw [trailers]
  refine .pass (keeps_continuing? ctx.mode).passes fun t? => ?_
  split
  · split
    · refine .pass passes_skip fun _ => ?_
      refine .read (reads_name ctx.mode .member) fun n => ?_
      exact (ih.trailers ctx _).cast (by simp)
    · split
      · refine .pass passes_skip fun _ => ?_
        refine .read ih.arguments fun arguments => ?_
        exact (ih.trailers ctx _).cast (by simp)
      · split
        · refine .pass passes_skip fun _ => ?_
          refine .read ih.subscripts fun indices => ?_
          exact (ih.trailers ctx _).cast (by simp)
        · exact .pure rfl
  · exact .pure rfl

theorem reads_atom (ctx : Context) : Reads (atom (fuel + 1) ctx) (·.marks .value) := by
  have hconstant : Reads (pure Expr.constant) (·.marks .value) := .pure (by simp [Expr.constant])
  rw [atom]
  refine .pass keeps_peek.passes fun t => ?_
  split
  · exact .pass passes_skip fun _ => hconstant
  · refine .read (ih.strings ctx) fun parts => ?_
    exact .pure (by simp)
  · split
    · exact .pass passes_skip fun _ => hconstant
    · exact .pass passes_skip fun _ => hconstant
    · exact .pass passes_skip fun _ => hconstant
    · exact .unexpected ctx.mode
    · exact .unexpected ctx.mode
    · refine .read (reads_name ctx.mode .value) fun n => ?_
      exact .pure (by simp)
  · split
    · exact .pass passes_skip fun _ => hconstant
    · exact .pass passes_skip fun _ => ih.collection ")" .tuple (.inl rfl)
    · exact .pass passes_skip fun _ => ih.collection "]" .list (.inr rfl)
    · exact .pass passes_skip fun _ => ih.braces
    · exact .unexpected ctx.mode
  · exact .unexpected ctx.mode
  · exact .unexpected ctx.mode

/-! ### Strings -/

theorem reads_strings (ctx : Context) : Reads (strings (fuel + 1) ctx) valueMarks := by
  rw [strings]
  refine .peek fun t => ?_
  refine .skipFields (fun P => ih.fields P t.line t.fields) fun parts => ?_
  refine .pass (keeps_continuing? ctx.mode).passes fun next? => ?_
  split
  · split
    · refine .read (ih.strings ctx) fun more => ?_
      exact .pure (by simp)
    · exact .pure rfl
  · exact .pure rfl

theorem ensures_fields (P : List Token → Prop) (line : Nat) (tokens : List (List Token)) :
    Reader.Ensures P (fields (fuel + 1) line tokens) fun parts rest =>
      P rest ∧ Marked (valueMarks parts) (wordsOfFields tokens) := by
  cases tokens with
  | nil =>
    rw [fields]
    exact Reader.ensures_pure fun _ hP => ⟨hP, .nil _⟩
  | cons first rest =>
    have hfield : Reads (do
        let parts ← expressionsOrYield fuel .inBrackets
        let _ ← Reader.skipSymbol? "="
        return parts) valueMarks :=
      (ih.expressionsOrYield .inBrackets).bind fun parts =>
        .pass (passes_skipSymbol? "=") fun _ => .pure rfl
    rw [fields]
    refine Reader.ensures_bind (ensures_onField hfield) fun parts => ?_
    refine Reader.ensures_bind (ih.fields _ line rest) fun more => ?_
    refine Reader.ensures_pure fun tokens hpost => ?_
    obtain ⟨⟨hP, hparts⟩, hmore⟩ := hpost
    refine ⟨hP, ?_⟩
    simpa [wordsOfFields] using hparts.append hmore

/-! ### Items in brackets -/

theorem reads_collection (closing : String) (shape : Shape) (hshape : shape = .tuple ∨ shape = .list) :
    Reads (collection (fuel + 1) closing shape) (·.marks .value) := by
  have hgroup (es : List Expr) : (Expr.group shape es).marks .value = valueMarks es := by
    rcases hshape with rfl | rfl <;> simp
  rw [collection]
  refine .pass (passes_skipSymbol? closing) fun closed => ?_
  split
  · exact .pure (hgroup []).symm
  · refine .read ih.item fun first => ?_
    refine .pass (keeps_nextIsWord "for").passes fun _ => ?_
    refine .pass (keeps_nextIsWord "async").passes fun _ => ?_
    split
    · refine .read ih.comprehension fun clauses => ?_
      refine .pass (passes_symbol .brackets closing) fun _ => ?_
      exact .pure (by simp)
    · refine .read (ih.items closing) fun rest => ?_
      refine .pass (passes_symbol .brackets closing) fun _ => ?_
      exact .pure (by rw [hgroup]; simp)

theorem reads_items (closing : String) : Reads (items (fuel + 1) closing) valueMarks := by
  rw [items]
  refine .pass (passes_skipSymbol? ",") fun comma => ?_
  split
  · refine .pass (keeps_nextIsSymbol closing).passes fun closed => ?_
    split
    · exact .pure rfl
    · refine .read ih.item fun e => ?_
      refine .read (ih.items closing) fun rest => ?_
      exact .pure (by simp)
  · exact .pure rfl

theorem reads_item : Reads (item (fuel + 1)) (·.marks .value) := by
  rw [item]
  refine .pass (passes_skipSymbol? "*") fun star => ?_
  split
  · refine .read (ih.expression .inBrackets) fun e => ?_
    exact .pure (by simp)
  · refine .pass (keeps_nextIsWord "yield").passes fun yields => ?_
    split
    · refine .read (ih.expressionsOrYield .inBrackets) fun parts => ?_
      exact .pure (by simp)
    · exact ih.expression .inBrackets

theorem reads_braces : Reads (braces (fuel + 1)) (·.marks .value) := by
  rw [braces]
  refine .pass (passes_skipSymbol? _) fun closed => ?_
  split
  · exact .pure (by simp [Expr.constant])
  refine .pass (keeps_nextIsSymbol "**").passes fun stars => ?_
  split
  · refine .read ih.entries fun parts => ?_
    refine .pass (passes_symbol .brackets _) fun _ => ?_
    exact .pure (by simp)
  refine .read ih.item fun first => ?_
  refine .pass (passes_skipSymbol? ":") fun colon => ?_
  split
  · refine .read (ih.expression .inBrackets) fun value => ?_
    refine .pass (keeps_nextIsWord "for").passes fun _ => ?_
    refine .pass (keeps_nextIsWord "async").passes fun _ => ?_
    split
    · refine .read ih.comprehension fun clauses => ?_
      refine .pass (passes_symbol .brackets _) fun _ => ?_
      exact .pure (by simp)
    · refine .pass (passes_skipSymbol? ",") fun comma => ?_
      simp only [pure_bind]
      split
      · refine .read ih.entries fun more => ?_
        refine .pass (passes_symbol .brackets _) fun _ => ?_
        exact .pure (by simp)
      · refine .pass (passes_symbol .brackets _) fun _ => ?_
        exact .pure (by simp)
  · refine .pass (keeps_nextIsWord "for").passes fun _ => ?_
    refine .pass (keeps_nextIsWord "async").passes fun _ => ?_
    split
    · refine .read ih.comprehension fun clauses => ?_
      refine .pass (passes_symbol .brackets _) fun _ => ?_
      exact .pure (by simp)
    · refine .read (ih.items _) fun rest => ?_
      refine .pass (passes_symbol .brackets _) fun _ => ?_
      exact .pure (by simp)

theorem reads_entries : Reads (entries (fuel + 1)) valueMarks := by
  rw [entries]
  refine .pass (keeps_nextIsSymbol _).passes fun closed => ?_
  split
  · exact .pure rfl
  have hmore (entry : List Expr) : Extends (valueMarks entry) (do
      if ← Reader.skipSymbol? "," then return entry ++ (← entries fuel)
      return entry) valueMarks := by
    refine .pass (passes_skipSymbol? ",") fun comma => ?_
    split
    · refine .read ih.entries fun rest => ?_
      exact .pure (by simp)
    · exact .pure rfl
  refine .pass (passes_skipSymbol? "**") fun stars => ?_
  simp only [pure_bind]
  split
  · refine .read (ih.expression .inBrackets) fun e => ?_
    exact (hmore [e]).cast (by simp)
  · refine .read (ih.expression .inBrackets) fun key => ?_
    refine .pass (passes_symbol .brackets ":") fun _ => ?_
    refine .read (ih.expression .inBrackets) fun value => ?_
    exact (hmore [key, value]).cast (by simp)

theorem reads_comprehension : Reads (comprehension (fuel + 1)) valueMarks := by
  rw [comprehension]
  refine .pass (passes_skipWord? "if") fun condition => ?_
  split
  · refine .read (ih.expression _) fun e => ?_
    refine .read ih.comprehension fun clauses => ?_
    exact .pure (by simp)
  refine .pass (keeps_nextIsWord "for").passes fun _ => ?_
  refine .pass (keeps_nextIsWord "async").passes fun _ => ?_
  split
  · refine .pass (passes_skipWord? "async") fun _ => ?_
    refine .pass (passes_word .brackets "for") fun _ => ?_
    refine .read (ih.targetList .brackets) fun targets => ?_
    refine .pass (passes_word .brackets "in") fun _ => ?_
    refine .read (ih.expressions _) fun values => ?_
    refine .read ih.comprehension fun clauses => ?_
    exact .pure (by simp)
  · exact .pure rfl

theorem reads_targetList (mode : Mode) :
    Reads (targetList (fuel + 1) mode) (·.flatMap (·.marks (.bound .target))) := by
  rw [targetList]
  refine .read (ih.operand _ false) fun e => ?_
  split
  · rename_i target htarget
    refine Extends.exchange ?_ (e.yields_toTarget? htarget)
    refine .pass (passes_skipSymbol? ",") fun comma => ?_
    split
    · refine .pass (keeps_nextIsWord "in").passes fun last => ?_
      split
      · exact .pure (by simp)
      · refine .read (ih.targetList mode) fun targets => ?_
        exact .pure (by simp)
    · exact .pure (by simp)
  · exact .unexpected mode

/-! ### Arguments and subscripts -/

theorem reads_arguments : Reads (arguments (fuel + 1)) valueMarks := by
  rw [arguments]
  refine .pass (passes_skipSymbol? ")") fun closed => ?_
  split
  · exact .pure rfl
  refine .read ih.argument fun first => ?_
  refine .pass (keeps_nextIsWord "for").passes fun _ => ?_
  refine .pass (keeps_nextIsWord "async").passes fun _ => ?_
  split
  · refine .read ih.comprehension fun clauses => ?_
    refine .pass (passes_symbol .brackets ")") fun _ => ?_
    exact .pure (by simp)
  · refine .read ih.moreArguments fun rest => ?_
    refine .pass (passes_symbol .brackets ")") fun _ => ?_
    exact .pure (by simp)

theorem reads_moreArguments : Reads (moreArguments (fuel + 1)) valueMarks := by
  rw [moreArguments]
  refine .pass (passes_skipSymbol? ",") fun comma => ?_
  split
  · refine .pass (keeps_nextIsSymbol ")").passes fun closed => ?_
    split
    · exact .pure rfl
    · refine .read ih.argument fun e => ?_
      refine .read ih.moreArguments fun rest => ?_
      exact .pure (by simp)
  · exact .pure rfl

theorem reads_argument : Reads (argument (fuel + 1)) (·.marks .value) := by
  rw [argument]
  refine .pass keeps_peek.passes fun t => ?_
  refine .pass keeps_peekSecond.passes fun second => ?_
  split
  · refine .pass passes_skip fun _ => ?_
    refine .read (ih.expression .inBrackets) fun e => ?_
    exact .pure (by simp)
  split
  · refine .read (reads_name .brackets (.bound .keyword)) fun n => ?_
    refine .pass passes_skip fun _ => ?_
    refine .read (ih.expression .inBrackets) fun e => ?_
    exact .pure (by simp)
  · exact ih.expression .inBrackets

theorem reads_subscripts : Reads (subscripts (fuel + 1)) valueMarks := by
  rw [subscripts]
  refine .read ih.slice fun first => ?_
  refine .pass (passes_skipSymbol? ",") fun comma => ?_
  split
  · refine .pass (passes_skipSymbol? "]") fun closed => ?_
    split
    · exact .pure rfl
    · refine .read ih.subscripts fun rest => ?_
      exact .pure (by simp)
  · refine .pass (passes_symbol .brackets "]") fun _ => ?_
    exact .pure rfl

theorem reads_slice : Reads (slice (fuel + 1)) valueMarks := by
  have hbound : Reads (do
      if startsExpression (← Reader.peek) then return [← expression fuel .inBrackets]
      return []) valueMarks := by
    refine .pass keeps_peek.passes fun t => ?_
    split
    · refine .read (ih.expression .inBrackets) fun e => ?_
      exact .pure (by simp)
    · exact .pure rfl
  rw [slice]
  simp only [pure_bind]
  refine .pass (passes_skipSymbol? ":") fun colon => ?_
  split
  · refine .read hbound fun upper => ?_
    refine .pass (passes_skipSymbol? ":") fun colon => ?_
    split
    · refine .read hbound fun step => ?_
      exact .pure (by simp)
    · exact .pure (by simp)
  refine .read (ih.expression .inBrackets) fun lower => ?_
  refine .pass (passes_skipSymbol? ":") fun colon => ?_
  split
  · refine .read hbound fun upper => ?_
    refine .pass (passes_skipSymbol? ":") fun colon => ?_
    split
    · refine .read hbound fun step => ?_
      exact .pure (by simp)
    · exact .pure (by simp)
  · exact .pure (by simp)

theorem reads_expressions (ctx : Context) : Reads (expressions (fuel + 1) ctx) valueMarks := by
  rw [expressions]
  refine .read (ih.expression ctx) fun first => ?_
  have hdone : Extends ([] ++ first.marks .value) (pure [first]) valueMarks := .pure (by simp)
  refine .pass (keeps_continuing? ctx.mode).passes fun t? => ?_
  split
  · split
    · refine .pass passes_skip fun _ => ?_
      refine .pass (keeps_continuing? ctx.mode).passes fun t? => ?_
      split
      · split
        · refine .read (ih.expressions ctx) fun rest => ?_
          exact .pure (by simp)
        · exact hdone
      · exact hdone
    · exact hdone
  · exact hdone

theorem reads_expressionsOrYield (ctx : Context) :
    Reads (expressionsOrYield (fuel + 1) ctx) valueMarks := by
  have hconstant : Reads (pure [Expr.constant]) valueMarks := .pure (by simp [Expr.constant])
  rw [expressionsOrYield]
  refine .pass (passes_skipWord? "yield") fun yields => ?_
  split
  · refine .pass (passes_skipWord? "from") fun delegates => ?_
    split
    · refine .read (ih.expression ctx) fun e => ?_
      exact .pure (by simp)
    · refine .pass (keeps_continuing? ctx.mode).passes fun t? => ?_
      split
      · split
        · refine .read (ih.expressions ctx) fun es => ?_
          exact .pure (by simp)
        · exact hconstant
      · exact hconstant
  · exact ih.expressions ctx

/-! ### Parameters -/

theorem reads_parameters (mode : Mode) (annotated : Bool) (closing : String) :
    Reads (parameters (fuel + 1) mode annotated closing) valueMarks := by
  rw [parameters]
  refine .pass (keeps_nextIsSymbol closing).passes fun closed => ?_
  split
  · exact .pure rfl
  refine .read (ih.parameter mode annotated) fun parts => ?_
  refine .pass (passes_skipSymbol? ",") fun comma => ?_
  split
  · refine .read (ih.parameters mode annotated closing) fun rest => ?_
    exact .pure (by simp)
  · exact .pure rfl

theorem reads_parameter (mode : Mode) (annotated : Bool) :
    Reads (parameter (fuel + 1) mode annotated) valueMarks := by
  have hhint : Reads (do
      if annotated then
        if ← Reader.skipSymbol? ":" then return [← typeExpression fuel mode true]
      return []) valueMarks := by
    dsimp only
    split
    · refine .pass (passes_skipSymbol? ":") fun colon => ?_
      split
      · refine .read (ih.typeExpression mode true) fun e => ?_
        exact .pure (by simp)
      · exact .pure rfl
    · exact .pure rfl
  have hdefault : Reads (do
      if ← Reader.skipSymbol? "=" then return [← expression fuel { mode }]
      return []) valueMarks := by
    refine .pass (passes_skipSymbol? "=") fun equals => ?_
    split
    · refine .read (ih.expression _) fun e => ?_
      exact .pure (by simp)
    · exact .pure rfl
  rw [parameter]
  refine .pass keeps_peek.passes fun t => ?_
  split
  · refine .pass passes_skip fun _ => ?_
    exact .pure rfl
  split
  · refine .pass passes_skip fun _ => ?_
    refine .pass keeps_peek.passes fun t' => ?_
    split
    · exact .pure rfl
    · refine .read (reads_name mode (.bound .parameter)) fun n => ?_
      refine .read hhint fun hint => ?_
      exact .pure (by simp)
  split
  · refine .pass passes_skip fun _ => ?_
    refine .read (ih.collection ")" .tuple (.inl rfl)) fun items => ?_
    split
    · rename_i targets htargets
      refine Extends.exchange ?_ (items.yields_toTarget? htargets)
      refine .read hdefault fun default => ?_
      exact .pure (by simp)
    · exact .unexpected mode
  · refine .read (reads_name mode (.bound .parameter)) fun n => ?_
    refine .read hhint fun hint => ?_
    refine .read hdefault fun default => ?_
    exact .pure (by simp)

/-! ### Types -/

theorem reads_typeExpression (mode : Mode) (bounds : Bool) :
    Reads (typeExpression (fuel + 1) mode bounds) (·.marks .value) := by
  rw [typeExpression]
  refine .pass keeps_peek.passes fun t => ?_
  refine .pass keeps_peekSecond.passes fun second => ?_
  dsimp only
  split
  · refine .pass passes_skip fun _ => ?_
    refine .pass keeps_peekSecond.passes fun third => ?_
    split
    · refine .read (ih.splat _) fun first => ?_
      refine ((ih.operators _ [first]).cast (by simp)).bind fun e => ?_
      exact ih.typeRest mode bounds e
    · refine .read (reads_name mode .value) fun n => ?_
      exact (ih.typeRest mode bounds _).cast (by simp)
  split
  · refine .read (reads_name mode .value) fun n => ?_
    refine .pass passes_skip fun _ => ?_
    refine .read ih.typeArguments fun arguments => ?_
    exact (ih.typeRest mode bounds _).cast (by simp)
  · refine .read (ih.expression _) fun e => ?_
    exact (ih.typeRest mode bounds e).cast (by simp)

theorem extends_typeRest (mode : Mode) (bounds : Bool) (e : Expr) :
    Extends (e.marks .value) (typeRest (fuel + 1) mode bounds e) (·.marks .value) := by
  rw [typeRest]
  refine .pass (keeps_continuing? mode).passes fun t? => ?_
  split
  · split
    · refine .pass passes_skip fun _ => ?_
      refine .read (reads_name mode .typeMember) fun n => ?_
      exact (ih.typeRest mode bounds _).cast (by simp)
    split
    · refine .pass passes_skip fun _ => ?_
      refine .read (ih.typeExpression mode bounds) fun other => ?_
      exact .pure (by simp)
    split
    · refine .pass passes_skip fun _ => ?_
      refine .read (ih.typeExpression mode bounds) fun bound => ?_
      exact .pure (by simp)
    · exact .pure rfl
  · exact .pure rfl

theorem reads_typeArguments : Reads (typeArguments (fuel + 1)) valueMarks := by
  rw [typeArguments]
  refine .read (ih.typeExpression .brackets true) fun first => ?_
  refine .pass (passes_skipSymbol? ",") fun comma => ?_
  split
  · refine .pass (passes_skipSymbol? "]") fun closed => ?_
    split
    · exact .pure (by simp)
    · refine .read ih.typeArguments fun rest => ?_
      exact .pure (by simp)
  · refine .pass (passes_symbol .brackets "]") fun _ => ?_
    exact .pure (by simp)

end Step

theorem readsExpressions (fuel : Nat) : ReadsExpressions fuel := by
  induction fuel with
  | zero =>
    constructor <;> intros
    case fields => exact Reader.ensures_unexpected .brackets
    all_goals exact .unexpected .brackets
  | succ fuel ih =>
    exact {
      expression := reads_expression ih
      operators := extends_operators ih
      operand := reads_operand ih
      splat := reads_splat ih
      starred := extends_starred ih
      primary := reads_primary ih
      trailers := extends_trailers ih
      atom := reads_atom ih
      strings := reads_strings ih
      fields := ensures_fields ih
      collection := reads_collection ih
      items := reads_items ih
      item := reads_item ih
      braces := reads_braces ih
      entries := reads_entries ih
      comprehension := reads_comprehension ih
      targetList := reads_targetList ih
      arguments := reads_arguments ih
      moreArguments := reads_moreArguments ih
      argument := reads_argument ih
      subscripts := reads_subscripts ih
      slice := reads_slice ih
      expressions := reads_expressions ih
      expressionsOrYield := reads_expressionsOrYield ih
      parameters := reads_parameters ih
      parameter := reads_parameter ih
      typeExpression := reads_typeExpression ih
      typeRest := extends_typeRest ih
      typeArguments := reads_typeArguments ih }

end LayerCheck.Syntax
