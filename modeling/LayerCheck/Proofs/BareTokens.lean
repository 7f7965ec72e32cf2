import LayerCheck.Proofs.ImportGrammar
import LayerCheck.Proofs.Variables

/-!
Tokens without their spacing. Readers go by the kinds and texts of tokens and by the lines that they
start, so on the bare tokens they do what they do on the tokens: both runs fail, or both succeed with
results that differ in places only. The rules below follow the steps of two readers side by side. Bare
tokens may carry a number each, which tells from which token they come.
-/

namespace LayerCheck.Syntax

variable {α β γ δ : Type} {label : Token → Nat}

/-! ### Tokens that are equal -/

mutual

def Token.decEq : (t u : Token) → Decidable (t = u)
  | .mk kind gap text position lineBefore indent fields,
    .mk kind' gap' text' position' lineBefore' indent' fields' =>
    have := decEqFields fields fields'
    decidable_of_iff (kind = kind' ∧ gap = gap' ∧ text = text' ∧ position = position' ∧
      lineBefore = lineBefore' ∧ indent = indent' ∧ fields = fields') (by simp)

def decEqTokens : (tokens tokens' : List Token) → Decidable (tokens = tokens')
  | [], [] => .isTrue rfl
  | [], _ :: _ | _ :: _, [] => .isFalse (by simp)
  | t :: tokens, u :: tokens' =>
    have := t.decEq u
    have := decEqTokens tokens tokens'
    decidable_of_iff (t = u ∧ tokens = tokens') (by simp)

def decEqFields : (fields fields' : List (List Token)) → Decidable (fields = fields')
  | [], [] => .isTrue rfl
  | [], _ :: _ | _ :: _, [] => .isFalse (by simp)
  | tokens :: fields, tokens' :: fields' =>
    have := decEqTokens tokens tokens'
    have := decEqFields fields fields'
    decidable_of_iff (tokens = tokens' ∧ fields = fields') (by simp)

end

instance : DecidableEq Token :=
  Token.decEq

/-! ### Bare tokens -/

mutual

/-- The token without the blank text before it, wherever it stands. -/
def Token.bare : Token → Token
  | .mk kind _ text _ _ indent fields => .mk kind "" text {} 1 indent (bareFields fields)

def bareTokens : List Token → List Token
  | [] => []
  | t :: rest => t.bare :: bareTokens rest

def bareFields : List (List Token) → List (List Token)
  | [] => []
  | tokens :: rest => bareTokens tokens :: bareFields rest

end

/-- The bare token with a number in place of a line. -/
def Token.labelled (label : Token → Nat) (t : Token) : Token :=
  .mk t.kind "" t.text {} (label t) t.indent (t.fields.map (List.map Token.bare))

theorem bareTokens_eq_map (tokens : List Token) : bareTokens tokens = tokens.map Token.bare := by
  induction tokens with
  | nil => rfl
  | cons t tokens ih => rw [bareTokens, ih, List.map_cons]

theorem bareFields_eq_map (fields : List (List Token)) :
    bareFields fields = fields.map (List.map Token.bare) := by
  induction fields with
  | nil => rfl
  | cons tokens fields ih => rw [bareFields, ih, bareTokens_eq_map, List.map_cons]

namespace Token

theorem bare_eq_labelled (t : Token) : t.bare = t.labelled fun _ => 1 := by
  cases t
  simp [bare, labelled, bareFields_eq_map, kind, text, indent, fields]

variable (t : Token)

@[simp] theorem kind_labelled : (t.labelled label).kind = t.kind := by cases t; rfl

@[simp] theorem text_labelled : (t.labelled label).text = t.text := by cases t; rfl

@[simp] theorem position_labelled : (t.labelled label).position = {} := by cases t; rfl

@[simp] theorem line_labelled : (t.labelled label).line = 1 := by cases t; rfl

@[simp] theorem indent_labelled : (t.labelled label).indent = t.indent := by cases t; rfl

@[simp] theorem fields_labelled :
    (t.labelled label).fields = t.fields.map (List.map Token.bare) := by cases t; rfl

@[simp] theorem isSymbol_labelled (text : String) :
    (t.labelled label).isSymbol text = t.isSymbol text := by
  simp [isSymbol]

@[simp] theorem isWord_labelled (text : String) :
    (t.labelled label).isWord text = t.isWord text := by
  simp [isWord]

@[simp] theorem isEnd_labelled : (t.labelled label).isEnd = t.isEnd := by
  simp [isEnd]

@[simp] theorem startsPrimary_labelled : startsPrimary (t.labelled label) = startsPrimary t := by
  simp [startsPrimary]

@[simp] theorem startsExpression_labelled :
    startsExpression (t.labelled label) = startsExpression t := by
  simp [startsExpression]

@[simp] theorem isTypeName_labelled : isTypeName (t.labelled label) = isTypeName t := by
  simp [isTypeName]

@[simp] theorem extendsExpression_labelled :
    extendsExpression (t.labelled label) = extendsExpression t := by
  simp [extendsExpression]

end Token

/-! ### Two readers side by side -/

/-- Both runs fail, or both succeed with related results, and what is left to the second are the bare
tokens that are left to the first. -/
inductive Outcomes (label : Token → Nat) (R : α → β → Prop) :
    Except SyntaxError (α × List Token) → Except SyntaxError (β × List Token) → Prop where
  | ok {a : α} {b : β} {rest : List Token} (h : R a b) (hended : Ended rest) :
      Outcomes label R (.ok (a, rest)) (.ok (b, rest.map (Token.labelled label)))
  | error {e e' : SyntaxError} : Outcomes label R (.error e) (.error e')

namespace Outcomes

variable {R R' : α → β → Prop} {S : γ → δ → Prop} {x : Except SyntaxError (α × List Token)}
  {y : Except SyntaxError (β × List Token)}

theorem of_ok_left {a : α} {rest : List Token} (h : Outcomes label R (.ok (a, rest)) y) :
    ∃ b, R a b ∧ y = .ok (b, rest.map (Token.labelled label)) := by
  cases h with
  | ok h _ => exact ⟨_, h, rfl⟩

theorem of_ok_right {b : β} {rest : List Token} (h : Outcomes label R x (.ok (b, rest))) :
    ∃ a tokens, R a b ∧ x = .ok (a, tokens) := by
  cases h with
  | ok h _ => exact ⟨_, _, h, rfl⟩

theorem imp (h : Outcomes label R x y) (himp : ∀ a b rest, x = .ok (a, rest) → R a b → R' a b) :
    Outcomes label R' x y := by
  cases h with
  | ok h hended => exact .ok (himp _ _ _ rfl h) hended
  | error => exact .error

theorem bind {label' : Token → Nat} {f : α × List Token → Except SyntaxError (γ × List Token)}
    {f' : β × List Token → Except SyntaxError (δ × List Token)} (h : Outcomes label R x y)
    (hf : ∀ a b rest, R a b → Ended rest →
      Outcomes label' S (f (a, rest)) (f' (b, rest.map (Token.labelled label)))) :
    Outcomes label' S (x >>= f) (y >>= f') := by
  cases h with
  | ok h hended => exact hf _ _ _ h hended
  | error => exact .error

theorem tryCatch {handle : SyntaxError → Except SyntaxError (α × List Token)}
    {handle' : SyntaxError → Except SyntaxError (β × List Token)} (h : Outcomes label R x y)
    (hhandle : ∀ e e', Outcomes label R (handle e) (handle' e')) :
    Outcomes label R (MonadExcept.tryCatch x handle) (MonadExcept.tryCatch y handle') := by
  cases h with
  | ok h hended => exact .ok h hended
  | error => exact hhandle _ _

end Outcomes

/-- On the bare tokens the second reader does what the first does on the tokens. -/
def Echoes (label : Token → Nat) (R : α → β → Prop) (r : Reader α) (r' : Reader β) : Prop :=
  ∀ ⦃tokens⦄, Ended tokens →
    Outcomes label R (r.run tokens) (r'.run (tokens.map (Token.labelled label)))

/-- The same where the result of the first reader tells that of the second. -/
abbrev Mirrors (label : Token → Nat) (g : α → β) (r : Reader α) (r' : Reader β) : Prop :=
  Echoes label (fun a b => b = g a) r r'

/-- The reader gives the same on bare tokens, up to `g`. -/
abbrev Reflects (label : Token → Nat) (g : α → α) (r : Reader α) : Prop :=
  Mirrors label g r r

section Rules

variable {R : α → β → Prop} {S : γ → δ → Prop} {r : Reader α} {r' : Reader β} {f : α → Reader γ}
  {f' : β → Reader δ} {g : α → β}

theorem Echoes.imp {R' : α → β → Prop} (h : Echoes label R r r') (himp : ∀ a b, R a b → R' a b) :
    Echoes label R' r r' :=
  fun _ hended => (h hended).imp fun a b _ _ hab => himp a b hab

theorem Echoes.pure {a : α} {b : β} (h : R a b) : Echoes label R (pure a) (pure b) :=
  fun _ hended => .ok h hended

theorem Echoes.bind (h : Echoes label R r r') (hf : ∀ a b, R a b → Echoes label S (f a) (f' b)) :
    Echoes label S (r >>= f) (r' >>= f') := by
  intro tokens hended
  rw [StateT.run_bind, StateT.run_bind]
  exact (h hended).bind fun a b rest hab hrest => hf a b hab hrest

theorem Echoes.read (h : Mirrors label g r r') (hf : ∀ a, Echoes label S (f a) (f' (g a))) :
    Echoes label S (r >>= f) (r' >>= f') :=
  h.bind fun a _ hb => hb ▸ hf a

theorem Echoes.cast {r'' : Reader β} (h :
    Echoes label R r r') (hr : r'' = r') : Echoes label R r r'' :=
  hr ▸ h

theorem Echoes.map {h : α → γ} {h' : β → δ} (hr : Echoes label (fun a b => S (h a) (h' b)) r r') :
    Echoes label S (h <$> r) (h' <$> r') := by
  rw [map_eq_pure_bind, map_eq_pure_bind]
  exact hr.bind fun _ _ hab => .pure hab

theorem Echoes.fail (line line' : Nat) : Echoes label R (Reader.fail line) (Reader.fail line') :=
  fun _ _ => .error

theorem run_unexpected_eq_error (mode : Mode) (tokens : List Token) :
    ∃ e, (Reader.unexpected mode : Reader α).run tokens = .error e := by
  cases h : (Reader.unexpected mode : Reader α).run tokens with
  | ok out => exact absurd h (Reader.run_unexpected_ne_ok mode tokens out)
  | error e => exact ⟨e, rfl⟩

theorem Echoes.unexpected (mode : Mode) :
    Echoes label R (Reader.unexpected mode) (Reader.unexpected mode) := by
  intro tokens _
  obtain ⟨e, he⟩ := run_unexpected_eq_error (α := α) mode tokens
  obtain ⟨e', he'⟩ := run_unexpected_eq_error (α := β) mode (tokens.map (Token.labelled label))
  rw [he, he']
  exact .error

/-- Nothing is read behind a failure. -/
theorem Echoes.refused (mode : Mode) :
    Echoes label S (Reader.unexpected mode >>= f) (Reader.unexpected mode >>= f') :=
  (Echoes.unexpected (R := fun _ _ => False) mode).bind fun _ _ hfalse => hfalse.elim

theorem Echoes.failed (line line' : Nat) :
    Echoes label S (Reader.fail line >>= f) (Reader.fail line' >>= f') :=
  (Echoes.fail (R := fun _ _ => False) line line').bind fun _ _ hfalse => hfalse.elim

/-- Reading goes on only if the condition holds. -/
theorem Echoes.guard {c : Prop} [Decidable c] {next : Unit → Reader γ} {next' : Unit → Reader δ}
    (mode : Mode) (h : Echoes label S (next ()) (next' ())) :
    Echoes label S (if c then next () else Reader.unexpected mode >>= next)
      (if c then next' () else Reader.unexpected mode >>= next') := by
  split
  · exact h
  · exact .refused mode

/-- A reader that failed leaves the tokens where they were. -/
theorem Echoes.tryCatch {handle : SyntaxError → Reader α} {handle' : SyntaxError → Reader β}
    (h : Echoes label R r r') (hhandle : ∀ e e', Echoes label R (handle e) (handle' e')) :
    Echoes label R (MonadExcept.tryCatch r handle) (MonadExcept.tryCatch r' handle') :=
  fun _ hended => (h hended).tryCatch fun e e' => hhandle e e' hended

end Rules

/-! ### Readers of single tokens -/

theorem Ended.ne_nil {tokens : List Token} (h : Ended tokens) : tokens ≠ [] := by
  rintro rfl
  obtain ⟨_, hlast, -⟩ := h
  contradiction

theorem reflects_peek : Reflects label (Token.labelled label) Reader.peek := by
  intro tokens hended
  cases tokens with
  | nil => exact absurd rfl hended.ne_nil
  | cons t tokens => exact .ok rfl hended

theorem reflects_peekSecond :
    Reflects label (Option.map (Token.labelled label)) Reader.peekSecond := by
  intro tokens hended
  exact .ok List.getElem?_map hended

theorem reflects_get :
    Reflects label (List.map (Token.labelled label)) (get : Reader (List Token)) :=
  fun _ hended => .ok rfl hended

theorem reflects_skip : Reflects label (fun u => u) Reader.skip := by
  intro tokens hended
  match tokens with
  | [] => exact .ok rfl hended
  | [t] => exact .ok rfl hended
  | t :: next :: rest =>
    obtain ⟨last, hlast, hend⟩ := hended
    have hrest : Ended (next :: rest) := ⟨last, by simpa using hlast, hend⟩
    exact .ok rfl hrest

theorem reflects_nextIsSymbol (text : String) :
    Reflects label (fun b => b) (Reader.nextIsSymbol text) :=
  .read reflects_peek fun t => .pure (by simp)

theorem reflects_nextIsWord (text : String) : Reflects label (fun b => b) (Reader.nextIsWord text) :=
  .read reflects_peek fun t => .pure (by simp)

theorem reflects_skipSymbol? (text : String) :
    Reflects label (fun b => b) (Reader.skipSymbol? text) := by
  refine .read (reflects_nextIsSymbol text) fun found => ?_
  split
  · exact .read reflects_skip fun _ => .pure rfl
  · exact .pure rfl

theorem reflects_skipWord? (text : String) :
    Reflects label (fun b => b) (Reader.skipWord? text) := by
  refine .read (reflects_nextIsWord text) fun found => ?_
  split
  · exact .read reflects_skip fun _ => .pure rfl
  · exact .pure rfl

theorem reflects_symbol (mode : Mode) (text : String) :
    Reflects label (fun u => u) (Reader.symbol mode text) := by
  refine .read (reflects_skipSymbol? text) fun found => ?_
  split
  · exact .pure rfl
  · exact .unexpected mode

theorem reflects_word (mode : Mode) (text : String) :
    Reflects label (fun u => u) (Reader.word mode text) := by
  refine .read (reflects_skipWord? text) fun found => ?_
  split
  · exact .pure rfl
  · exact .unexpected mode

theorem reflects_name (mode : Mode) : Reflects label Name.unplaced (Reader.name mode) := by
  refine .read reflects_peek fun t => ?_
  by_cases htext : isIdentifier t.text = true
  · have hbare : isIdentifier (t.labelled label).text = true := by rwa [Token.text_labelled]
    rw [dif_pos htext, dif_pos hbare, Token.kind_labelled]
    split
    · exact .read reflects_skip fun _ => .pure (by simp [Name.unplaced])
    · exact .unexpected mode
  · have hbare : ¬isIdentifier (t.labelled label).text = true := by rwa [Token.text_labelled]
    rw [dif_neg htext, dif_neg hbare]
    exact .unexpected mode

theorem reflects_continuing? (mode : Mode) :
    Reflects label (Option.map (Token.labelled label)) (Reader.continuing? mode) := by
  refine .read reflects_peek fun t => .pure ?_
  rw [Token.indent_labelled]
  split <;> rfl

theorem Echoes.continuing? {S : γ → δ → Prop} {f : Option Token → Reader γ}
    {f' : Option Token → Reader δ} (mode : Mode) (hnone : Echoes label S (f none) (f' none))
    (hsome : ∀ t : Token, Echoes label S (f (some t)) (f' (some (t.labelled label)))) :
    Echoes label S (Reader.continuing? mode >>= f) (Reader.continuing? mode >>= f') := by
  refine .read (reflects_continuing? mode) fun t? => ?_
  cases t? with
  | none => exact hnone
  | some t => exact hsome t

theorem reflects_skipIf (mode : Mode) {p : Token → Bool}
    (hp : ∀ t : Token, p (t.labelled label) = p t) :
    Reflects label (fun b => b) (Reader.skipIf mode p) := by
  refine .continuing? mode (.pure rfl) fun t => ?_
  simp only [hp]
  split
  · exact .read reflects_skip fun _ => .pure rfl
  · exact .pure rfl

/-! ### Readers of parts of the tokens -/

theorem Echoes.withTokens {R : α → β → Prop} {r : Reader α} {r' : Reader β}
    (h : Echoes label R r r') :
    Echoes label (fun out out' => R out.1 out'.1 ∧ out'.2 = out.2.map (Token.labelled label))
      (Reader.withTokens r) (Reader.withTokens r') := by
  refine .read reflects_get fun before => ?_
  refine h.bind fun a b hab => ?_
  refine .read reflects_get fun after => .pure ⟨hab, ?_⟩
  simp [List.map_take]

/-- Behind the field the tokens are those from before. In the field they have no numbers. -/
theorem Echoes.onField {R : α → β → Prop} {r : Reader α} {r' : Reader β}
    (h : Echoes (fun _ => 1) R r r') (line : Nat) (tokens : List Token) :
    Echoes label R (Reader.onField line tokens r)
      (Reader.onField 1 (tokens.map Token.bare) r') := by
  intro rest hrest
  have hfield : Ended (tokens ++ [Token.mk .endOfText "" "" { line } line none []]) :=
    ⟨_, List.getLast?_concat, rfl, rfl⟩
  have hbare : tokens.map Token.bare ++ [.mk .endOfText "" "" { line := 1 } 1 none []] =
      (tokens ++ [Token.mk .endOfText "" "" { line } line none []]).map
        (Token.labelled fun _ => 1) := by
    rw [List.map_append, List.map_congr_left fun t _ => t.bare_eq_labelled]
    rfl
  have hread := h hfield
  rw [← hbare] at hread
  refine hread.bind fun a b after hab hafter => ?_
  refine (reflects_peek hafter).bind ?_
  rintro t _ last rfl hlast
  dsimp only
  rw [Token.isEnd_labelled]
  split
  · exact .ok hab hrest
  · exact (Echoes.unexpected (R := fun _ _ => False) .brackets hlast).bind
      fun _ _ _ hfalse _ => hfalse.elim

/-! ### Trees -/

theorem unplacedOf_eq_map (es : List Expr) : unplacedOf es = es.map Expr.unplaced := by
  induction es with
  | nil => rfl
  | cons e es ih => rw [unplacedOf, ih, List.map_cons]

namespace Expr

@[simp] theorem unplaced_name (n : Name) : (name n).unplaced = name n.unplaced := rfl

@[simp] theorem unplaced_attribute (value : Expr) (member : Name) :
    (Expr.attribute value member).unplaced = Expr.attribute value.unplaced member.unplaced := rfl

@[simp] theorem unplaced_call (callee : Expr) (arguments : List Expr) :
    (call callee arguments).unplaced = call callee.unplaced (arguments.map Expr.unplaced) := by
  rw [unplaced, unplacedOf_eq_map]

@[simp] theorem unplaced_binding (role : Role) (n : Name) :
    (binding role n).unplaced = binding role n.unplaced := rfl

@[simp] theorem unplaced_group (shape : Shape) (parts : List Expr) :
    (group shape parts).unplaced = group shape (parts.map Expr.unplaced) := by
  rw [unplaced, unplacedOf_eq_map]

@[simp] theorem unplaced_constant : constant.unplaced = constant := rfl

@[simp] theorem unplaced_compound (parts : List Expr) :
    (compound parts).unplaced = compound (parts.map Expr.unplaced) := by
  match parts with
  | [] => rfl
  | [_] => rfl
  | first :: second :: rest => exact unplaced_group .compound (first :: second :: rest)

@[simp] theorem toAlias_unplaced (e : Expr) : e.unplaced.toAlias = e.toAlias.unplaced := by
  cases e <;> simp [toAlias]

@[simp] theorem toCapture_unplaced (e : Expr) : e.unplaced.toCapture = e.toCapture.unplaced := by
  cases e <;> simp [toCapture]

@[simp] theorem toTypeAlias_unplaced (e : Expr) : e.unplaced.toTypeAlias = e.toTypeAlias.unplaced := by
  cases e <;> simp [toTypeAlias]

@[simp] theorem ofDotted_unplaced (n : Name) (rest : List Name) :
    ofDotted n.unplaced (rest.map Name.unplaced) = (ofDotted n rest).unplaced := by
  cases rest with
  | nil => rfl
  | cons m rest => simp [ofDotted, Function.comp_def]

/-- Behind a star only a name, an attribute or a subscript can be assigned to. -/
theorem toTarget?_star_unplaced (parts : List Expr) :
    (group .star parts).unplaced.toTarget? = (group .star parts).toTarget?.map Expr.unplaced := by
  match parts with
  | [] | [.name _] | [.attribute _ _] | [.call _ _] | [.binding _ _] => simp [toTarget?]
  | [.group shape _] => cases shape <;> simp [toTarget?]
  | first :: second :: rest =>
    have hnone (first second : Expr) (rest : List Expr) :
        (group .star (first :: second :: rest)).toTarget? = none := by
      rw [toTarget?] <;> simp
    rw [unplaced_group, List.map_cons, List.map_cons, hnone, hnone, Option.map_none]

mutual

theorem toTarget?_unplaced : (e : Expr) → e.unplaced.toTarget? = e.toTarget?.map Expr.unplaced
  | .name _ | .attribute _ _ | .call _ _ | .binding _ _ => by simp [toTarget?]
  | .group shape parts => by
    cases shape with
    | tuple | list => simp [toTarget?, toTargets?_map_unplaced parts, Function.comp_def]
    | star => exact toTarget?_star_unplaced parts
    | _ => simp [toTarget?]

theorem toTargets?_map_unplaced : (es : List Expr) →
    toTarget?.toTargets? (es.map Expr.unplaced) =
      (toTarget?.toTargets? es).map (List.map Expr.unplaced)
  | [] => rfl
  | e :: es => by
    rw [List.map_cons, toTarget?.toTargets?, toTarget?.toTargets?, toTarget?_unplaced e,
      toTargets?_map_unplaced es]
    cases e.toTarget? <;> cases toTarget?.toTargets? es <;> rfl

end
end Expr

theorem targetOf_map_unplaced (items : List Expr) :
    targetOf (items.map Expr.unplaced) = (targetOf items).map Expr.unplaced := by
  match items with
  | [] => rfl
  | [e] => exact e.toTarget?_unplaced
  | first :: second :: rest =>
    simpa [targetOf] using (Expr.group .tuple (first :: second :: rest)).toTarget?_unplaced

end LayerCheck.Syntax
