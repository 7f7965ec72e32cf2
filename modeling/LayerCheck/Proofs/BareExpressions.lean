import LayerCheck.Proofs.BareTokens

/-!
Reading expressions and patterns from bare tokens. Each reader finds the same expression, up to the
places of its names.
-/

namespace LayerCheck.Syntax

variable {label : Token → Nat}

/-- What the readers of expressions do on bare tokens with some fuel. -/
structure ReflectsExpressions (label : Token → Nat) (fuel : Nat) : Prop where
  expression : ∀ ctx, Reflects label Expr.unplaced (expression fuel ctx)
  operators : ∀ ctx before, Mirrors label Expr.unplaced (operators fuel ctx before)
    (operators fuel ctx (before.map Expr.unplaced))
  operand : ∀ ctx exprLevel, Reflects label Expr.unplaced (operand fuel ctx exprLevel)
  splat : ∀ ctx, Reflects label Expr.unplaced (splat fuel ctx)
  starred : ∀ ctx e, Mirrors label Expr.unplaced (starred fuel ctx e) (starred fuel ctx e.unplaced)
  primary : ∀ ctx, Reflects label Expr.unplaced (primary fuel ctx)
  trailers : ∀ ctx e, Mirrors label Expr.unplaced (trailers fuel ctx e) (trailers fuel ctx e.unplaced)
  atom : ∀ ctx, Reflects label Expr.unplaced (atom fuel ctx)
  strings : ∀ ctx, Reflects label (List.map Expr.unplaced) (strings fuel ctx)
  fields : ∀ line tokens, Mirrors label (List.map Expr.unplaced) (fields fuel line tokens)
    (fields fuel 1 (tokens.map (List.map Token.bare)))
  collection : ∀ closing shape, Reflects label Expr.unplaced (collection fuel closing shape)
  items : ∀ closing, Reflects label (List.map Expr.unplaced) (items fuel closing)
  item : Reflects label Expr.unplaced (item fuel)
  braces : Reflects label Expr.unplaced (braces fuel)
  entries : Reflects label (List.map Expr.unplaced) (entries fuel)
  comprehension : Reflects label (List.map Expr.unplaced) (comprehension fuel)
  targetList : ∀ mode, Reflects label (List.map Expr.unplaced) (targetList fuel mode)
  arguments : Reflects label (List.map Expr.unplaced) (arguments fuel)
  moreArguments : Reflects label (List.map Expr.unplaced) (moreArguments fuel)
  argument : Reflects label Expr.unplaced (argument fuel)
  subscripts : Reflects label (List.map Expr.unplaced) (subscripts fuel)
  slice : Reflects label (List.map Expr.unplaced) (slice fuel)
  expressions : ∀ ctx, Reflects label (List.map Expr.unplaced) (expressions fuel ctx)
  expressionsOrYield : ∀ ctx, Reflects label (List.map Expr.unplaced) (expressionsOrYield fuel ctx)
  parameters : ∀ mode annotated closing,
    Reflects label (List.map Expr.unplaced) (parameters fuel mode annotated closing)
  parameter : ∀ mode annotated,
    Reflects label (List.map Expr.unplaced) (parameter fuel mode annotated)
  typeExpression : ∀ mode bounds, Reflects label Expr.unplaced (typeExpression fuel mode bounds)
  typeRest : ∀ mode bounds e, Mirrors label Expr.unplaced (typeRest fuel mode bounds e)
    (typeRest fuel mode bounds e.unplaced)
  typeArguments : Reflects label (List.map Expr.unplaced) (typeArguments fuel)

section Step

variable {fuel : Nat} (ih : ∀ {label : Token → Nat}, ReflectsExpressions label fuel)
include ih

/-! ### Operators and operands -/

theorem reflects_expression (ctx : Context) :
    Reflects label Expr.unplaced (expression (fuel + 1) ctx) := by
  rw [expression]
  refine .read (ih.operand ctx true) fun first => ?_
  exact ih.operators ctx [first]

theorem mirrors_operators (ctx : Context) (before : List Expr) :
    Mirrors label Expr.unplaced (operators (fuel + 1) ctx before)
      (operators (fuel + 1) ctx (before.map Expr.unplaced)) := by
  have hafter (exprLevel : Bool) : Mirrors label Expr.unplaced
      (do operators fuel ctx (before ++ [← operand fuel ctx exprLevel]))
      (do operators fuel ctx (before.map Expr.unplaced ++ [← operand fuel ctx exprLevel])) := by
    refine .read (ih.operand ctx exprLevel) fun e => ?_
    exact (ih.operators ctx (before ++ [e])).cast (by simp)
  have hdone : Mirrors label Expr.unplaced (pure (Expr.compound before))
      (pure (Expr.compound (before.map Expr.unplaced))) := .pure (by simp)
  rw [operators, operators]
  refine .continuing? ctx.mode hdone fun t => ?_
  simp only [Token.kind_labelled, Token.text_labelled]
  split
  · split
    · exact .read reflects_skip fun _ => hafter false
    · exact hdone
  · split
    · exact .read reflects_skip fun _ => hafter true
    · exact .read reflects_skip fun _ => hafter true
    · exact .read reflects_skip fun _ => hafter false
    · refine .read reflects_skip fun _ => ?_
      exact .read (reflects_skipWord? "not") fun _ => hafter false
    · refine .read reflects_peekSecond fun second => ?_
      cases second with
      | none => exact hdone
      | some second =>
        simp only [Option.map_some, Token.isWord_labelled]
        split
        · exact .read reflects_skip fun _ => .read reflects_skip fun _ => hafter false
        · exact hdone
    · refine .read reflects_skip fun _ => ?_
      refine .read (ih.operand ctx true) fun target => ?_
      exact (ih.operators ctx _).cast (by simp)
    · split
      · refine .read reflects_skip fun _ => ?_
        refine .read (ih.expression ctx) fun condition => ?_
        refine .read (reflects_word ctx.mode "else") fun _ => ?_
        refine .read (ih.expression ctx) fun other => ?_
        exact .pure (by simp)
      · exact hdone
    · exact hdone
  · exact hdone

theorem reflects_operand (ctx : Context) (exprLevel : Bool) :
    Reflects label Expr.unplaced (operand (fuel + 1) ctx exprLevel) := by
  have hunary (exprLevel : Bool) :
      Reflects label Expr.unplaced (do return .group .compound [← operand fuel ctx exprLevel]) :=
    .read (ih.operand ctx exprLevel) fun e => .pure (by simp)
  rw [operand]
  refine .read reflects_peek fun t => ?_
  refine .read reflects_peekSecond fun second => ?_
  simp only [Token.kind_labelled, Token.text_labelled, Option.any_map, Token.isSymbol_labelled,
    Token.indent_labelled, Token.startsPrimary_labelled]
  split
  · split
    · exact .read reflects_skip fun _ => hunary false
    · exact .read reflects_skip fun _ => hunary false
    · exact .read reflects_skip fun _ => hunary false
    · exact .read reflects_skip fun _ => ih.splat ctx
    · exact ih.primary ctx
  · split
    · exact .read reflects_skip fun _ => hunary true
    · split
      · refine .read reflects_skip fun _ => ?_
        refine .read (ih.parameters ctx.mode false ":") fun ps => ?_
        refine .read (reflects_symbol ctx.mode ":") fun _ => ?_
        refine .read (ih.expression ctx) fun body => ?_
        exact .pure (by simp)
      · split
        · exact .read reflects_skip fun _ => hunary false
        · split
          · refine .read (reflects_name ctx.mode) fun n => ?_
            refine .read reflects_skip fun _ => ?_
            refine .read (ih.expression ctx) fun value => ?_
            exact .pure (by simp)
          · exact ih.primary ctx
  · exact ih.primary ctx

theorem reflects_splat (ctx : Context) : Reflects label Expr.unplaced (splat (fuel + 1) ctx) := by
  rw [splat]
  refine .read (ih.atom ctx) fun e => ?_
  refine .read (ih.starred ctx e) fun value => ?_
  exact (ih.trailers ctx _).cast (by simp)

theorem mirrors_starred (ctx : Context) (e : Expr) :
    Mirrors label Expr.unplaced (starred (fuel + 1) ctx e) (starred (fuel + 1) ctx e.unplaced) := by
  rw [starred, starred]
  refine .continuing? ctx.mode (.pure rfl) fun t => ?_
  simp only [Token.isSymbol_labelled]
  split
  · refine .read reflects_skip fun _ => ?_
    refine .read (reflects_name ctx.mode) fun n => ?_
    exact ih.starred ctx (.attribute e n)
  · split
    · refine .read reflects_skip fun _ => ?_
      refine .read ih.subscripts fun indices => ?_
      exact (ih.starred ctx (.group .subscript (e :: indices))).cast (by simp)
    · exact .pure rfl

theorem reflects_primary (ctx : Context) : Reflects label Expr.unplaced (primary (fuel + 1) ctx) := by
  rw [primary]
  refine .read (ih.atom ctx) fun e => ?_
  exact ih.trailers ctx e

theorem mirrors_trailers (ctx : Context) (e : Expr) :
    Mirrors label Expr.unplaced (trailers (fuel + 1) ctx e) (trailers (fuel + 1) ctx e.unplaced) := by
  rw [trailers, trailers]
  refine .continuing? ctx.mode (.pure rfl) fun t => ?_
  simp only [Token.isSymbol_labelled]
  split
  · refine .read reflects_skip fun _ => ?_
    refine .read (reflects_name ctx.mode) fun n => ?_
    exact ih.trailers ctx (.attribute e n)
  · split
    · refine .read reflects_skip fun _ => ?_
      refine .read ih.arguments fun arguments => ?_
      exact (ih.trailers ctx (.call e arguments)).cast (by simp)
    · split
      · refine .read reflects_skip fun _ => ?_
        refine .read ih.subscripts fun indices => ?_
        exact (ih.trailers ctx (.group .subscript (e :: indices))).cast (by simp)
      · exact .pure rfl

theorem reflects_atom (ctx : Context) : Reflects label Expr.unplaced (atom (fuel + 1) ctx) := by
  have hconstant : Reflects label Expr.unplaced (pure Expr.constant) := .pure rfl
  rw [atom]
  refine .read reflects_peek fun t => ?_
  simp only [Token.kind_labelled, Token.text_labelled]
  split
  · exact .read reflects_skip fun _ => hconstant
  · refine .read (ih.strings ctx) fun parts => ?_
    exact .pure (by simp)
  · split
    · exact .read reflects_skip fun _ => hconstant
    · exact .read reflects_skip fun _ => hconstant
    · exact .read reflects_skip fun _ => hconstant
    · exact .unexpected ctx.mode
    · exact .unexpected ctx.mode
    · refine .read (reflects_name ctx.mode) fun n => ?_
      exact .pure rfl
  · split
    · exact .read reflects_skip fun _ => hconstant
    · exact .read reflects_skip fun _ => ih.collection ")" .tuple
    · exact .read reflects_skip fun _ => ih.collection "]" .list
    · exact .read reflects_skip fun _ => ih.braces
    · exact .unexpected ctx.mode
  · exact .unexpected ctx.mode
  · exact .unexpected ctx.mode

/-! ### Strings -/

theorem reflects_strings (ctx : Context) :
    Reflects label (List.map Expr.unplaced) (strings (fuel + 1) ctx) := by
  rw [strings]
  refine .read reflects_peek fun t => ?_
  refine .read reflects_skip fun _ => ?_
  rw [Token.line_labelled, Token.fields_labelled]
  refine .read (ih.fields t.line t.fields) fun parts => ?_
  refine .continuing? ctx.mode (.pure rfl) fun next => ?_
  simp only [Token.kind_labelled]
  split
  · refine .read (ih.strings ctx) fun more => ?_
    exact .pure (by simp)
  · exact .pure rfl

theorem mirrors_fields (line : Nat) (tokens : List (List Token)) :
    Mirrors label (List.map Expr.unplaced) (fields (fuel + 1) line tokens)
      (fields (fuel + 1) 1 (tokens.map (List.map Token.bare))) := by
  cases tokens with
  | nil => exact .pure rfl
  | cons first rest =>
    have hfield : Reflects (fun _ => 1) (List.map Expr.unplaced) (do
        let parts ← expressionsOrYield fuel .inBrackets
        let _ ← Reader.skipSymbol? "="
        return parts) :=
      .read (ih.expressionsOrYield .inBrackets) fun parts =>
        .read (reflects_skipSymbol? "=") fun _ => .pure rfl
    rw [List.map_cons, fields, fields]
    refine .read (hfield.onField line first) fun parts => ?_
    refine .read (ih.fields line rest) fun more => ?_
    exact .pure (by simp)

/-! ### Items in brackets -/

theorem reflects_collection (closing : String) (shape : Shape) :
    Reflects label Expr.unplaced (collection (fuel + 1) closing shape) := by
  rw [collection]
  refine .read (reflects_skipSymbol? closing) fun closed => ?_
  split
  · exact .pure (by simp)
  · refine .read ih.item fun first => ?_
    refine .read (reflects_nextIsWord "for") fun _ => ?_
    refine .read (reflects_nextIsWord "async") fun _ => ?_
    split
    · refine .read ih.comprehension fun clauses => ?_
      refine .read (reflects_symbol .brackets closing) fun _ => ?_
      exact .pure (by simp)
    · refine .read (ih.items closing) fun rest => ?_
      refine .read (reflects_symbol .brackets closing) fun _ => ?_
      exact .pure (by simp)

theorem reflects_items (closing : String) :
    Reflects label (List.map Expr.unplaced) (items (fuel + 1) closing) := by
  rw [items]
  refine .read (reflects_skipSymbol? ",") fun comma => ?_
  split
  · refine .read (reflects_nextIsSymbol closing) fun closed => ?_
    split
    · exact .pure rfl
    · refine .read ih.item fun e => ?_
      refine .read (ih.items closing) fun rest => ?_
      exact .pure rfl
  · exact .pure rfl

theorem reflects_item : Reflects label Expr.unplaced (item (fuel + 1)) := by
  rw [item]
  refine .read (reflects_skipSymbol? "*") fun star => ?_
  split
  · refine .read (ih.expression .inBrackets) fun e => ?_
    exact .pure (by simp)
  · refine .read (reflects_nextIsWord "yield") fun yields => ?_
    split
    · refine .read (ih.expressionsOrYield .inBrackets) fun parts => ?_
      exact .pure (by simp)
    · exact ih.expression .inBrackets

theorem reflects_braces : Reflects label Expr.unplaced (braces (fuel + 1)) := by
  rw [braces]
  refine .read (reflects_skipSymbol? _) fun closed => ?_
  split
  · exact .pure rfl
  refine .read (reflects_nextIsSymbol "**") fun stars => ?_
  split
  · refine .read ih.entries fun parts => ?_
    refine .read (reflects_symbol .brackets _) fun _ => ?_
    exact .pure (by simp)
  refine .read ih.item fun first => ?_
  refine .read (reflects_skipSymbol? ":") fun colon => ?_
  split
  · refine .read (ih.expression .inBrackets) fun value => ?_
    refine .read (reflects_nextIsWord "for") fun _ => ?_
    refine .read (reflects_nextIsWord "async") fun _ => ?_
    split
    · refine .read ih.comprehension fun clauses => ?_
      refine .read (reflects_symbol .brackets _) fun _ => ?_
      exact .pure (by simp)
    · refine .read (reflects_skipSymbol? ",") fun comma => ?_
      simp only [pure_bind]
      split
      · refine .read ih.entries fun more => ?_
        refine .read (reflects_symbol .brackets _) fun _ => ?_
        exact .pure (by simp)
      · refine .read (reflects_symbol .brackets _) fun _ => ?_
        exact .pure (by simp)
  · refine .read (reflects_nextIsWord "for") fun _ => ?_
    refine .read (reflects_nextIsWord "async") fun _ => ?_
    split
    · refine .read ih.comprehension fun clauses => ?_
      refine .read (reflects_symbol .brackets _) fun _ => ?_
      exact .pure (by simp)
    · refine .read (ih.items _) fun rest => ?_
      refine .read (reflects_symbol .brackets _) fun _ => ?_
      exact .pure (by simp)

theorem reflects_entries : Reflects label (List.map Expr.unplaced) (entries (fuel + 1)) := by
  have hmore (entry : List Expr) : Mirrors label (List.map Expr.unplaced) (do
      if ← Reader.skipSymbol? "," then return entry ++ (← entries fuel)
      return entry) (do
      if ← Reader.skipSymbol? "," then return entry.map Expr.unplaced ++ (← entries fuel)
      return entry.map Expr.unplaced) := by
    refine .read (reflects_skipSymbol? ",") fun comma => ?_
    split
    · refine .read ih.entries fun rest => ?_
      exact .pure (by simp)
    · exact .pure rfl
  rw [entries]
  refine .read (reflects_nextIsSymbol _) fun closed => ?_
  split
  · exact .pure rfl
  refine .read (reflects_skipSymbol? "**") fun stars => ?_
  simp only [pure_bind]
  split
  · refine .read (ih.expression .inBrackets) fun e => ?_
    exact hmore [e]
  · refine .read (ih.expression .inBrackets) fun key => ?_
    refine .read (reflects_symbol .brackets ":") fun _ => ?_
    refine .read (ih.expression .inBrackets) fun value => ?_
    exact hmore [key, value]

theorem reflects_comprehension :
    Reflects label (List.map Expr.unplaced) (comprehension (fuel + 1)) := by
  rw [comprehension]
  refine .read (reflects_skipWord? "if") fun condition => ?_
  split
  · refine .read (ih.expression _) fun e => ?_
    refine .read ih.comprehension fun clauses => ?_
    exact .pure rfl
  refine .read (reflects_nextIsWord "for") fun _ => ?_
  refine .read (reflects_nextIsWord "async") fun _ => ?_
  split
  · refine .read (reflects_skipWord? "async") fun _ => ?_
    refine .read (reflects_word .brackets "for") fun _ => ?_
    refine .read (ih.targetList .brackets) fun targets => ?_
    refine .read (reflects_word .brackets "in") fun _ => ?_
    refine .read (ih.expressions _) fun values => ?_
    refine .read ih.comprehension fun clauses => ?_
    exact .pure (by simp)
  · exact .pure rfl

theorem reflects_targetList (mode : Mode) :
    Reflects label (List.map Expr.unplaced) (targetList (fuel + 1) mode) := by
  rw [targetList]
  refine .read (ih.operand _ false) fun e => ?_
  rw [e.toTarget?_unplaced]
  cases e.toTarget? with
  | none => exact .unexpected mode
  | some target =>
    refine .read (reflects_skipSymbol? ",") fun comma => ?_
    split
    · refine .read (reflects_nextIsWord "in") fun last => ?_
      split
      · exact .pure rfl
      · refine .read (ih.targetList mode) fun targets => ?_
        exact .pure rfl
    · exact .pure rfl

/-! ### Arguments and subscripts -/

theorem reflects_arguments : Reflects label (List.map Expr.unplaced) (arguments (fuel + 1)) := by
  rw [arguments]
  refine .read (reflects_skipSymbol? ")") fun closed => ?_
  split
  · exact .pure rfl
  refine .read ih.argument fun first => ?_
  refine .read (reflects_nextIsWord "for") fun _ => ?_
  refine .read (reflects_nextIsWord "async") fun _ => ?_
  split
  · refine .read ih.comprehension fun clauses => ?_
    refine .read (reflects_symbol .brackets ")") fun _ => ?_
    exact .pure (by simp)
  · refine .read ih.moreArguments fun rest => ?_
    refine .read (reflects_symbol .brackets ")") fun _ => ?_
    exact .pure rfl

theorem reflects_moreArguments :
    Reflects label (List.map Expr.unplaced) (moreArguments (fuel + 1)) := by
  rw [moreArguments]
  refine .read (reflects_skipSymbol? ",") fun comma => ?_
  split
  · refine .read (reflects_nextIsSymbol ")") fun closed => ?_
    split
    · exact .pure rfl
    · refine .read ih.argument fun e => ?_
      refine .read ih.moreArguments fun rest => ?_
      exact .pure rfl
  · exact .pure rfl

theorem reflects_argument : Reflects label Expr.unplaced (argument (fuel + 1)) := by
  rw [argument]
  refine .read reflects_peek fun t => ?_
  refine .read reflects_peekSecond fun second => ?_
  simp only [Token.isSymbol_labelled, Token.kind_labelled, Token.text_labelled, Option.any_map]
  split
  · refine .read reflects_skip fun _ => ?_
    refine .read (ih.expression .inBrackets) fun e => ?_
    exact .pure (by simp)
  split
  · refine .read (reflects_name .brackets) fun n => ?_
    refine .read reflects_skip fun _ => ?_
    refine .read (ih.expression .inBrackets) fun e => ?_
    exact .pure (by simp)
  · exact ih.expression .inBrackets

theorem reflects_subscripts : Reflects label (List.map Expr.unplaced) (subscripts (fuel + 1)) := by
  rw [subscripts]
  refine .read ih.slice fun first => ?_
  refine .read (reflects_skipSymbol? ",") fun comma => ?_
  split
  · refine .read (reflects_skipSymbol? "]") fun closed => ?_
    split
    · exact .pure rfl
    · refine .read ih.subscripts fun rest => ?_
      exact .pure (by simp)
  · refine .read (reflects_symbol .brackets "]") fun _ => ?_
    exact .pure rfl

theorem reflects_slice : Reflects label (List.map Expr.unplaced) (slice (fuel + 1)) := by
  have hbound : Reflects label (List.map Expr.unplaced) (do
      if startsExpression (← Reader.peek) then return [← expression fuel .inBrackets]
      return []) := by
    refine .read reflects_peek fun t => ?_
    rw [Token.startsExpression_labelled]
    split
    · refine .read (ih.expression .inBrackets) fun e => ?_
      exact .pure rfl
    · exact .pure rfl
  rw [slice]
  simp only [pure_bind]
  refine .read (reflects_skipSymbol? ":") fun colon => ?_
  split
  · refine .read hbound fun upper => ?_
    refine .read (reflects_skipSymbol? ":") fun colon => ?_
    split
    · refine .read hbound fun step => ?_
      exact .pure (by simp)
    · exact .pure (by simp)
  refine .read (ih.expression .inBrackets) fun lower => ?_
  refine .read (reflects_skipSymbol? ":") fun colon => ?_
  split
  · refine .read hbound fun upper => ?_
    refine .read (reflects_skipSymbol? ":") fun colon => ?_
    split
    · refine .read hbound fun step => ?_
      exact .pure (by simp)
    · exact .pure (by simp)
  · exact .pure rfl

theorem reflects_expressions (ctx : Context) :
    Reflects label (List.map Expr.unplaced) (expressions (fuel + 1) ctx) := by
  rw [expressions]
  refine .read (ih.expression ctx) fun first => ?_
  refine .continuing? ctx.mode (.pure rfl) fun t => ?_
  simp only [Token.isSymbol_labelled]
  split
  · refine .read reflects_skip fun _ => ?_
    refine .continuing? ctx.mode (.pure rfl) fun t => ?_
    simp only [Token.startsExpression_labelled]
    split
    · refine .read (ih.expressions ctx) fun rest => ?_
      exact .pure rfl
    · exact .pure rfl
  · exact .pure rfl

theorem reflects_expressionsOrYield (ctx : Context) :
    Reflects label (List.map Expr.unplaced) (expressionsOrYield (fuel + 1) ctx) := by
  rw [expressionsOrYield]
  refine .read (reflects_skipWord? "yield") fun yields => ?_
  split
  · refine .read (reflects_skipWord? "from") fun delegates => ?_
    split
    · refine .read (ih.expression ctx) fun e => ?_
      exact .pure (by simp)
    · refine .continuing? ctx.mode (.pure rfl) fun t => ?_
      simp only [Token.startsExpression_labelled]
      split
      · refine .read (ih.expressions ctx) fun es => ?_
        exact .pure (by simp)
      · exact .pure rfl
  · exact ih.expressions ctx

/-! ### Parameters -/

theorem reflects_parameters (mode : Mode) (annotated : Bool) (closing : String) :
    Reflects label (List.map Expr.unplaced) (parameters (fuel + 1) mode annotated closing) := by
  rw [parameters]
  refine .read (reflects_nextIsSymbol closing) fun closed => ?_
  split
  · exact .pure rfl
  refine .read (ih.parameter mode annotated) fun parts => ?_
  refine .read (reflects_skipSymbol? ",") fun comma => ?_
  split
  · refine .read (ih.parameters mode annotated closing) fun rest => ?_
    exact .pure (by simp)
  · exact .pure rfl

theorem reflects_parameter (mode : Mode) (annotated : Bool) :
    Reflects label (List.map Expr.unplaced) (parameter (fuel + 1) mode annotated) := by
  have hhint : Reflects label (List.map Expr.unplaced) (do
      if annotated then
        if ← Reader.skipSymbol? ":" then return [← typeExpression fuel mode true]
      return []) := by
    dsimp only
    split
    · refine .read (reflects_skipSymbol? ":") fun colon => ?_
      split
      · refine .read (ih.typeExpression mode true) fun e => ?_
        exact .pure rfl
      · exact .pure rfl
    · exact .pure rfl
  have hdefault : Reflects label (List.map Expr.unplaced) (do
      if ← Reader.skipSymbol? "=" then return [← expression fuel { mode }]
      return []) := by
    refine .read (reflects_skipSymbol? "=") fun equals => ?_
    split
    · refine .read (ih.expression _) fun e => ?_
      exact .pure rfl
    · exact .pure rfl
  rw [parameter]
  refine .read reflects_peek fun t => ?_
  simp only [Token.isSymbol_labelled]
  split
  · refine .read reflects_skip fun _ => ?_
    exact .pure rfl
  split
  · refine .read reflects_skip fun _ => ?_
    refine .read reflects_peek fun t' => ?_
    rw [Token.kind_labelled]
    split
    · exact .pure rfl
    · refine .read (reflects_name mode) fun n => ?_
      refine .read hhint fun hint => ?_
      exact .pure (by simp)
  split
  · refine .read reflects_skip fun _ => ?_
    refine .read (ih.collection ")" .tuple) fun items => ?_
    rw [items.toTarget?_unplaced]
    cases items.toTarget? with
    | none => exact .unexpected mode
    | some target =>
      cases target with
      | group shape targets =>
        rw [Option.map_some, Expr.unplaced_group]
        cases shape with
        | tuple =>
          refine .read hdefault fun default => ?_
          exact .pure (by simp)
        | _ => exact .unexpected mode
      | _ => exact .unexpected mode
  · refine .read (reflects_name mode) fun n => ?_
    refine .read hhint fun hint => ?_
    refine .read hdefault fun default => ?_
    exact .pure (by simp)

/-! ### Types -/

theorem reflects_typeExpression (mode : Mode) (bounds : Bool) :
    Reflects label Expr.unplaced (typeExpression (fuel + 1) mode bounds) := by
  rw [typeExpression]
  refine .read reflects_peek fun t => ?_
  refine .read reflects_peekSecond fun second => ?_
  simp only [Token.isSymbol_labelled, Token.isTypeName_labelled, Option.any_map,
    Token.indent_labelled, Token.text_labelled]
  split
  · refine .read reflects_skip fun _ => ?_
    refine .read reflects_peekSecond fun third => ?_
    simp only [Token.extendsExpression_labelled, Option.any_map, Token.indent_labelled]
    split
    · refine .read (ih.splat _) fun first => ?_
      refine .read (ih.operators _ [first]) fun e => ?_
      exact ih.typeRest mode bounds e
    · refine .read (reflects_name mode) fun n => ?_
      exact (ih.typeRest mode bounds _).cast (by simp)
  split
  · refine .read (reflects_name mode) fun n => ?_
    refine .read reflects_skip fun _ => ?_
    refine .read ih.typeArguments fun arguments => ?_
    exact (ih.typeRest mode bounds _).cast (by simp)
  · refine .read (ih.expression _) fun e => ?_
    exact ih.typeRest mode bounds e

theorem mirrors_typeRest (mode : Mode) (bounds : Bool) (e : Expr) :
    Mirrors label Expr.unplaced (typeRest (fuel + 1) mode bounds e)
      (typeRest (fuel + 1) mode bounds e.unplaced) := by
  rw [typeRest, typeRest]
  refine .continuing? mode (.pure rfl) fun t => ?_
  simp only [Token.isSymbol_labelled]
  split
  · refine .read reflects_skip fun _ => ?_
    refine .read (reflects_name mode) fun n => ?_
    exact (ih.typeRest mode bounds _).cast (by simp)
  split
  · refine .read reflects_skip fun _ => ?_
    refine .read (ih.typeExpression mode bounds) fun other => ?_
    exact .pure (by simp)
  split
  · refine .read reflects_skip fun _ => ?_
    refine .read (ih.typeExpression mode bounds) fun bound => ?_
    exact .pure (by simp)
  · exact .pure rfl

theorem reflects_typeArguments :
    Reflects label (List.map Expr.unplaced) (typeArguments (fuel + 1)) := by
  rw [typeArguments]
  refine .read (ih.typeExpression .brackets true) fun first => ?_
  refine .read (reflects_skipSymbol? ",") fun comma => ?_
  split
  · refine .read (reflects_skipSymbol? "]") fun closed => ?_
    split
    · exact .pure rfl
    · refine .read ih.typeArguments fun rest => ?_
      exact .pure rfl
  · refine .read (reflects_symbol .brackets "]") fun _ => ?_
    exact .pure rfl

end Step

theorem reflectsExpressions (label : Token → Nat) (fuel : Nat) :
    ReflectsExpressions label fuel := by
  induction fuel generalizing label with
  | zero =>
    constructor <;> intros
    all_goals exact .unexpected .brackets
  | succ fuel ih =>
    exact {
      expression := reflects_expression (ih _)
      operators := mirrors_operators (ih _)
      operand := reflects_operand (ih _)
      splat := reflects_splat (ih _)
      starred := mirrors_starred (ih _)
      primary := reflects_primary (ih _)
      trailers := mirrors_trailers (ih _)
      atom := reflects_atom (ih _)
      strings := reflects_strings (ih _)
      fields := mirrors_fields (ih _)
      collection := reflects_collection (ih _)
      items := reflects_items (ih _)
      item := reflects_item (ih _)
      braces := reflects_braces (ih _)
      entries := reflects_entries (ih _)
      comprehension := reflects_comprehension (ih _)
      targetList := reflects_targetList (ih _)
      arguments := reflects_arguments (ih _)
      moreArguments := reflects_moreArguments (ih _)
      argument := reflects_argument (ih _)
      subscripts := reflects_subscripts (ih _)
      slice := reflects_slice (ih _)
      expressions := reflects_expressions (ih _)
      expressionsOrYield := reflects_expressionsOrYield (ih _)
      parameters := reflects_parameters (ih _)
      parameter := reflects_parameter (ih _)
      typeExpression := reflects_typeExpression (ih _)
      typeRest := mirrors_typeRest (ih _)
      typeArguments := reflects_typeArguments (ih _) }

/-! ### Patterns -/

theorem reflects_dottedRest (fuel : Nat) (mode : Mode) :
    Reflects label (List.map Name.unplaced) (dottedRest fuel mode) := by
  induction fuel with
  | zero => exact .unexpected .brackets
  | succ fuel ih =>
    rw [dottedRest]
    refine .read (reflects_skipIf mode fun t => t.isSymbol_labelled ".") fun dot => ?_
    split
    · refine .read (reflects_name mode) fun n => ?_
      refine .read ih fun names => ?_
      exact .pure rfl
    · exact .pure rfl

theorem reflects_numberPattern (mode : Mode) : Reflects label (fun u => u) (numberPattern mode) := by
  rw [numberPattern]
  refine .read (reflects_skipSymbol? "-") fun _ => ?_
  refine .read reflects_peek fun t => ?_
  rw [Token.kind_labelled]
  refine .guard mode (.read reflects_skip fun _ => ?_)
  refine .read reflects_peek fun sign => ?_
  rw [Token.isSymbol_labelled, Token.isSymbol_labelled]
  split
  · refine .read reflects_skip fun _ => ?_
    refine .read reflects_peek fun second => ?_
    rw [Token.kind_labelled]
    exact .guard mode reflects_skip
  · exact .pure rfl

/-- What the readers of patterns do on bare tokens with some fuel. -/
structure ReflectsPatterns (label : Token → Nat) (fuel : Nat) : Prop where
  casePattern : ∀ mode, Reflects label Expr.unplaced (casePattern fuel mode)
  aliases : ∀ mode e, Mirrors label Expr.unplaced (aliases fuel mode e) (aliases fuel mode e.unplaced)
  alternatives : ∀ mode, Reflects label Expr.unplaced (alternatives fuel mode)
  simplePattern : ∀ mode, Reflects label Expr.unplaced (simplePattern fuel mode)
  patterns : ∀ closing, Reflects label (List.map Expr.unplaced) (patterns fuel closing)
  entryPatterns : Reflects label (List.map Expr.unplaced) (entryPatterns fuel)

section Step

variable {fuel : Nat} (ih : ReflectsPatterns label fuel)
include ih

theorem reflects_casePattern (mode : Mode) :
    Reflects label Expr.unplaced (casePattern (fuel + 1) mode) := by
  rw [casePattern]
  refine .read reflects_peek fun t => ?_
  refine .read reflects_peekSecond fun second => ?_
  simp only [pure_bind, Token.kind_labelled, Option.any_map, Token.isSymbol_labelled]
  split
  · refine .read (reflects_name mode) fun n => ?_
    refine .read reflects_skip fun _ => ?_
    refine .read (ih.alternatives mode) fun value => ?_
    exact (ih.aliases mode _).cast (by simp)
  · refine .read (ih.alternatives mode) fun value => ?_
    exact (ih.aliases mode _).cast (by simp)

theorem mirrors_aliases (mode : Mode) (e : Expr) :
    Mirrors label Expr.unplaced (aliases (fuel + 1) mode e) (aliases (fuel + 1) mode e.unplaced) := by
  rw [aliases, aliases]
  refine .read (reflects_skipWord? "as") fun aliased => ?_
  split
  · refine .read (reflects_name mode) fun n => ?_
    exact (ih.aliases mode _).cast (by simp)
  · exact .pure rfl

theorem reflects_alternatives (mode : Mode) :
    Reflects label Expr.unplaced (alternatives (fuel + 1) mode) := by
  rw [alternatives]
  refine .read (ih.simplePattern mode) fun first => ?_
  refine .read (reflects_skipSymbol? "|") fun bar => ?_
  split
  · refine .read (ih.alternatives mode) fun rest => ?_
    exact .pure (by simp)
  · exact .pure rfl

theorem reflects_simplePattern (mode : Mode) :
    Reflects label Expr.unplaced (simplePattern (fuel + 1) mode) := by
  have hconstant : Reflects label Expr.unplaced (pure Expr.constant) := .pure rfl
  have hpatterns (closing : String) :
      Reflects label Expr.unplaced (do return .group .patterns (← patterns fuel closing)) :=
    .read (ih.patterns closing) fun ps => .pure (by simp)
  rw [simplePattern]
  refine .read reflects_peek fun t => ?_
  simp only [Token.kind_labelled, Token.text_labelled]
  split
  · refine .read ((reflectsExpressions label fuel).strings _) fun parts => ?_
    exact .pure (by simp)
  · exact .read (reflects_numberPattern mode) fun _ => hconstant
  · split
    · exact .read reflects_skip fun _ => hconstant
    · exact .read reflects_skip fun _ => hconstant
    · exact .read reflects_skip fun _ => hconstant
    · exact .read reflects_skip fun _ => hconstant
    · refine .read (reflects_name mode) fun n => ?_
      refine .read (reflects_dottedRest fuel mode) fun rest => ?_
      refine .read (reflects_skipSymbol? "(") fun opened => ?_
      split
      · refine .read (ih.patterns ")") fun ps => ?_
        exact .pure (by simp)
      · exact .pure (by simp)
  · split
    · exact .read (reflects_numberPattern mode) fun _ => hconstant
    · refine .read reflects_skip fun _ => ?_
      refine .read (reflects_name mode) fun n => ?_
      exact .pure (by simp)
    · refine .read reflects_skip fun _ => ?_
      refine .read (reflects_name mode) fun n => ?_
      exact .pure (by simp)
    · exact .read reflects_skip fun _ => hpatterns ")"
    · exact .read reflects_skip fun _ => hpatterns "]"
    · refine .read reflects_skip fun _ => ?_
      refine .read ih.entryPatterns fun entries => ?_
      exact .pure (by simp)
    · exact .unexpected mode
  · exact .unexpected mode
  · exact .unexpected mode

theorem reflects_patterns (closing : String) :
    Reflects label (List.map Expr.unplaced) (patterns (fuel + 1) closing) := by
  rw [patterns]
  refine .read (reflects_skipSymbol? closing) fun closed => ?_
  split
  · exact .pure rfl
  refine .read (ih.casePattern .brackets) fun first => ?_
  refine .read (reflects_skipSymbol? ",") fun comma => ?_
  split
  · refine .read (ih.patterns closing) fun rest => ?_
    exact .pure rfl
  · refine .read (reflects_symbol .brackets closing) fun _ => ?_
    exact .pure rfl

theorem reflects_entryPatterns :
    Reflects label (List.map Expr.unplaced) (entryPatterns (fuel + 1)) := by
  have hmore (entry : List Expr) : Mirrors label (List.map Expr.unplaced) (do
      if ← Reader.skipSymbol? "," then return entry ++ (← entryPatterns fuel)
      Reader.symbol .brackets "\x7d"
      return entry) (do
      if ← Reader.skipSymbol? "," then return entry.map Expr.unplaced ++ (← entryPatterns fuel)
      Reader.symbol .brackets "\x7d"
      return entry.map Expr.unplaced) := by
    refine .read (reflects_skipSymbol? ",") fun comma => ?_
    split
    · refine .read ih.entryPatterns fun rest => ?_
      exact .pure (by simp)
    · exact .read (reflects_symbol .brackets _) fun _ => .pure rfl
  rw [entryPatterns]
  refine .read (reflects_skipSymbol? _) fun closed => ?_
  split
  · exact .pure rfl
  refine .read reflects_peek fun t => ?_
  refine .read (ih.alternatives .brackets) fun key => ?_
  simp only [pure_bind, Token.isSymbol_labelled]
  split
  · exact hmore [key]
  · refine .read (reflects_symbol .brackets ":") fun _ => ?_
    refine .read (ih.casePattern .brackets) fun value => ?_
    exact (hmore [key, .group .patterns [value]]).cast (by simp)

end Step

theorem reflectsPatterns (label : Token → Nat) (fuel : Nat) : ReflectsPatterns label fuel := by
  induction fuel with
  | zero => constructor <;> intros <;> exact .unexpected .brackets
  | succ fuel ih =>
    exact {
      casePattern := reflects_casePattern ih
      aliases := mirrors_aliases ih
      alternatives := reflects_alternatives ih
      simplePattern := reflects_simplePattern ih
      patterns := reflects_patterns ih
      entryPatterns := reflects_entryPatterns ih }

theorem reflects_clausePatterns (fuel : Nat) :
    Reflects label (List.map Expr.unplaced) (clausePatterns fuel) := by
  induction fuel with
  | zero => exact .unexpected .brackets
  | succ fuel ih =>
    rw [clausePatterns]
    refine .read ((reflectsPatterns label fuel).casePattern .head) fun first => ?_
    refine .read (reflects_skipSymbol? ",") fun comma => ?_
    split
    · refine .read (reflects_nextIsSymbol ":") fun _ => ?_
      refine .read (reflects_nextIsWord "if") fun _ => ?_
      split
      · exact .pure rfl
      · refine .read ih fun rest => ?_
        exact .pure rfl
    · exact .pure rfl

end LayerCheck.Syntax
