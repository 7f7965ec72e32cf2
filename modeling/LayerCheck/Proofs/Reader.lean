import LayerCheck.Proofs.Except
import LayerCheck.Proofs.Marks

/-!
What readers find in the tokens they take. A reader moves forward in a list of tokens, and the marks
of what it gives are at words of the tokens that it takes, in their order. The rules below follow the
steps of a reader; each reader has one statement.
-/

namespace LayerCheck.Syntax

variable {α β : Type}

namespace Reader

/-! ### Readers as programs -/

theorem run_bind_eq_ok {r : Reader α} {f : α → Reader β} {tokens rest : List Token} {b : β} :
    (r >>= f).run tokens = .ok (b, rest) ↔
      ∃ a between, r.run tokens = .ok (a, between) ∧ (f a).run between = .ok (b, rest) := by
  rw [StateT.run_bind, Except.bind_eq_ok, Prod.exists]

/-- If the tokens satisfy `P` and the reader succeeds, its result and the tokens left satisfy `Q`. -/
def Ensures (P : List Token → Prop) (r : Reader α) (Q : α → List Token → Prop) : Prop :=
  ∀ ⦃tokens a rest⦄, P tokens → r.run tokens = .ok (a, rest) → Q a rest

section Rules

variable {P P' : List Token → Prop} {r : Reader α} {Q Q' : α → List Token → Prop}

theorem ensures_pure {a : α} (h : ∀ tokens, P tokens → Q a tokens) : Ensures P (pure a) Q := by
  intro tokens b rest hP hrun
  cases hrun
  exact h tokens hP

theorem ensures_bind {f : α → Reader β} {R : β → List Token → Prop} (h : Ensures P r Q)
    (hf : ∀ a, Ensures (Q a) (f a) R) : Ensures P (r >>= f) R := by
  intro tokens b rest hP hrun
  obtain ⟨a, between, hr, hrest⟩ := run_bind_eq_ok.1 hrun
  exact hf a (h hP hr) hrest

theorem Ensures.imp (h : Ensures P r Q) (hP : ∀ tokens, P' tokens → P tokens)
    (hQ : ∀ a tokens, Q a tokens → Q' a tokens) : Ensures P' r Q' :=
  fun _ _ _ hpre hrun => hQ _ _ (h (hP _ hpre) hrun)

theorem ensures_fail (line : Nat) : Ensures P (fail line) Q := by
  intro tokens a rest _ hrun
  cases hrun

theorem ensures_tryCatch {handle : SyntaxError → Reader α} (h : Ensures P r Q)
    (hhandle : ∀ e, Ensures P (handle e) Q) : Ensures P (tryCatch r handle) Q := by
  intro tokens a rest hP hrun
  cases hr : r.run tokens with
  | ok out =>
    have hcaught : (tryCatch r handle).run tokens = .ok out := by
      change tryCatch (r.run tokens) (fun e => (handle e).run tokens) = .ok out
      rw [hr]
      rfl
    rw [hcaught] at hrun
    cases hrun
    exact h hP hr
  | error e =>
    have hcaught : (tryCatch r handle).run tokens = (handle e).run tokens := by
      change tryCatch (r.run tokens) (fun e => (handle e).run tokens) = (handle e).run tokens
      rw [hr]
      rfl
    rw [hcaught] at hrun
    exact hhandle e hP hrun

theorem ensures_peek : Ensures P peek fun t tokens => P tokens ∧ tokens.head? = some t := by
  intro tokens t rest hP hrun
  cases tokens with
  | nil => cases hrun
  | cons first more =>
    cases hrun
    exact ⟨hP, rfl⟩

theorem run_unexpected_ne_ok (mode : Mode) (tokens : List Token) (out : α × List Token) :
    (unexpected mode : Reader α).run tokens ≠ .ok out := by
  intro hrun
  obtain ⟨t, _, -, hrun⟩ := run_bind_eq_ok.1 hrun
  split at hrun <;> cases hrun

theorem ensures_unexpected (mode : Mode) : Ensures P (unexpected mode : Reader α) Q :=
  fun tokens a rest _ hrun => absurd hrun (run_unexpected_ne_ok mode tokens (a, rest))

end Rules

end Reader

/-! ### Tokens taken and marks found -/

/-- The list ends with a token that holds no words, such as the one for the end of the text. -/
def Closed (tokens : List Token) : Prop :=
  ∃ t, tokens.getLast? = some t ∧ t.words = []

theorem closed_scanAll (fuel depth : Nat) (p : Position) (cs : List Char) :
    Closed (scanAll fuel depth p cs) := by
  induction fuel generalizing depth p cs with
  | zero => exact ⟨_, rfl, rfl⟩
  | succ fuel ih =>
    rw [scanAll]
    dsimp only
    split
    · exact ⟨_, rfl, rfl⟩
    · obtain ⟨last, hlast, hwords⟩ := ih _ _ _
      exact ⟨last, by rw [List.getLast?_cons, hlast, Option.getD_some], hwords⟩

/-- On the way from `tokens` to `rest` the marks are found. -/
structure Consumed (tokens : List Token) (marks : List Mark) (rest : List Token) : Prop where
  closed : Closed rest
  found : ∃ used, tokens = used ++ rest ∧ Marked marks (wordsOf used)

theorem Consumed.start {tokens : List Token} (h : Closed tokens) : Consumed tokens [] tokens :=
  ⟨h, [], rfl, .nil _⟩

theorem Consumed.exchange {tokens rest : List Token} {marks others : List Mark}
    (h : Consumed tokens marks rest) (hothers : List.Forall₂ Mark.Yields marks others) :
    Consumed tokens others rest := by
  obtain ⟨hclosed, used, rfl, hmarked⟩ := h
  exact ⟨hclosed, used, rfl, hmarked.exchange hothers⟩

theorem Consumed.left {tokens rest : List Token} {marks more : List Mark}
    (h : Consumed tokens (marks ++ more) rest) : Consumed tokens marks rest := by
  obtain ⟨hclosed, used, rfl, hmarked⟩ := h
  exact ⟨hclosed, used, rfl, hmarked.left⟩

theorem Consumed.marked {tokens rest : List Token} {marks : List Mark}
    (h : Consumed tokens marks rest) : Marked marks (wordsOf tokens) := by
  obtain ⟨-, used, rfl, at_, hat, hsub⟩ := h
  refine ⟨at_, hat, ?_⟩
  rw [wordsOf_append]
  exact hsub.trans (List.sublist_append_left _ _)

/-- Where a token is taken, marks at its words are found. The last token has no words. -/
theorem Consumed.skip {tokens rest more : List Token} {marks found : List Mark} {t : Token}
    {u : Unit} (h : Consumed tokens marks rest) (hhead : rest.head? = some t)
    (hrun : Reader.skip.run rest = .ok (u, more)) (hfound : Marked found t.words) :
    Consumed tokens (marks ++ found) more := by
  obtain ⟨⟨last, hlast, hwords⟩, used, rfl, hmarked⟩ := h
  cases rest with
  | nil => contradiction
  | cons first rest =>
    cases hhead
    cases rest with
    | nil =>
      cases hrun
      obtain rfl : t = last := by simpa using hlast
      rw [hwords] at hfound
      rw [hfound.eq_nil, List.append_nil]
      exact ⟨⟨t, rfl, hwords⟩, used, rfl, hmarked⟩
    | cons second rest =>
      cases hrun
      refine ⟨⟨last, by simpa using hlast, hwords⟩, used ++ [t], by simp, ?_⟩
      rw [wordsOf_append]
      exact hmarked.append (by simpa [wordsOf] using hfound)

/-! ### What readers find -/

/-- Behind the marks found before, the reader finds those of its result. -/
def Extends (before : List Mark) (r : Reader α) (found : α → List Mark) : Prop :=
  ∀ tokens marks, Reader.Ensures (Consumed tokens (marks ++ before)) r fun a =>
    Consumed tokens (marks ++ found a)

/-- The same where the next token is known. -/
def ExtendsAt (t : Token) (before : List Mark) (r : Reader α) (found : α → List Mark) : Prop :=
  ∀ tokens marks, Reader.Ensures
    (fun rest => Consumed tokens (marks ++ before) rest ∧ rest.head? = some t) r fun a =>
      Consumed tokens (marks ++ found a)

/-- The reader finds the marks of its result. -/
abbrev Reads (r : Reader α) (found : α → List Mark) : Prop :=
  Extends [] r found

/-- The reader takes tokens at most. -/
def Passes (r : Reader α) : Prop :=
  ∀ tokens marks, Reader.Ensures (Consumed tokens marks) r fun _ => Consumed tokens marks

/-- The reader takes no tokens. -/
def Keeps (r : Reader α) : Prop :=
  ∀ P, Reader.Ensures P r fun _ => P

section Rules

variable {before : List Mark} {r : Reader α} {f : α → Reader β} {found : α → List Mark}
  {found' : β → List Mark} {t : Token}

theorem Keeps.passes (h : Keeps r) : Passes r :=
  fun _ _ => h _

theorem Extends.cast {before' : List Mark} (h : Extends before r found) (hbefore : before' = before) :
    Extends before' r found :=
  hbefore ▸ h

theorem Extends.known (h : Extends before r found) : ExtendsAt t before r found :=
  fun tokens marks => (h tokens marks).imp (fun _ hpre => hpre.1) fun _ _ hpost => hpost

theorem Extends.pure {a : α} (h : before = found a) : Extends before (pure a) found :=
  fun _ _ => Reader.ensures_pure fun _ hconsumed => h ▸ hconsumed

/-- The marks found before may be exchanged. -/
theorem Extends.exchange {before' : List Mark} (h : Extends before r found)
    (hbefore : List.Forall₂ Mark.Yields before' before) : Extends before' r found :=
  fun tokens marks => (h tokens marks).imp
    (fun _ hpre => hpre.exchange (List.rel_append (forall₂_yields_refl _) hbefore))
    fun _ _ hpost => hpost

theorem Extends.forget {a : α} (h : found a = []) : Extends before (Pure.pure a) found :=
  fun _ _ => Reader.ensures_pure fun _ hconsumed => by
    rw [h, List.append_nil]
    exact hconsumed.left

theorem Extends.unexpected (mode : Mode) : Extends before (Reader.unexpected mode) found :=
  fun _ _ => Reader.ensures_unexpected mode

theorem Extends.fail (line : Nat) : Extends before (Reader.fail line) found :=
  fun _ _ => Reader.ensures_fail line

/-- Nothing is read behind a failure. -/
theorem Extends.refused (mode : Mode) : Extends before (Reader.unexpected mode >>= f) found' :=
  fun _ _ => Reader.ensures_bind (Q := fun _ _ => False) (Reader.ensures_unexpected mode)
    fun _ _ _ _ hfalse => hfalse.elim

theorem Extends.failed (line : Nat) : Extends before (Reader.fail line >>= f) found' :=
  fun _ _ => Reader.ensures_bind (Q := fun _ _ => False) (Reader.ensures_fail line)
    fun _ _ _ _ hfalse => hfalse.elim

/-- Reading goes on only if the condition holds. -/
theorem Extends.guard {c : Prop} [Decidable c] {next : Unit → Reader β} (mode : Mode)
    (h : Extends before (next ()) found') :
    Extends before (if c then next () else Reader.unexpected mode >>= next) found' := by
  split
  · exact h
  · exact .refused mode

theorem Extends.tryCatch {handle : SyntaxError → Reader α} (h : Extends before r found)
    (hhandle : ∀ e, Extends before (handle e) found) :
    Extends before (MonadExcept.tryCatch r handle) found :=
  fun tokens marks => Reader.ensures_tryCatch (h tokens marks) fun e => hhandle e tokens marks

theorem Extends.bind (h : Extends before r found) (hf : ∀ a, Extends (found a) (f a) found') :
    Extends before (r >>= f) found' :=
  fun tokens marks => Reader.ensures_bind (h tokens marks) fun a => hf a tokens marks

/-- What was found before stays. -/
theorem Extends.behind (h : Extends before r found) (earlier : List Mark) :
    Extends (earlier ++ before) r fun a => earlier ++ found a := by
  intro tokens marks
  simpa only [List.append_assoc] using h tokens (marks ++ earlier)

theorem Extends.read (h : Reads r found) (hf : ∀ a, Extends (before ++ found a) (f a) found') :
    Extends before (r >>= f) found' := by
  have hbehind : Extends before r fun a => before ++ found a := by
    simpa only [List.append_nil] using h.behind before
  exact hbehind.bind hf

theorem Extends.pass (h : Passes r) (hf : ∀ a, Extends before (f a) found') :
    Extends before (r >>= f) found' :=
  fun tokens marks => Reader.ensures_bind (h tokens _) fun a => hf a tokens marks

theorem Extends.map {g : α → β} (h : Extends before r fun a => found' (g a)) :
    Extends before (g <$> r) found' := by
  rw [map_eq_pure_bind]
  exact h.bind fun a => .pure rfl

theorem Extends.peek {f : Token → Reader β} (hf : ∀ t, ExtendsAt t before (f t) found') :
    Extends before (Reader.peek >>= f) found' :=
  fun tokens marks => Reader.ensures_bind Reader.ensures_peek fun t => hf t tokens marks

/-- Taking the next token finds what is at its words. -/
theorem ExtendsAt.skip {more : List Mark} {f : Unit → Reader β} (hmore : Marked more t.words)
    (hf : Extends (before ++ more) (f ()) found') : ExtendsAt t before (Reader.skip >>= f) found' := by
  refine fun tokens marks => Reader.ensures_bind (Q := fun _ => Consumed tokens (marks ++ (before ++ more)))
    ?_ fun _ => hf tokens marks
  rintro rest u rest' ⟨hconsumed, hhead⟩ hrun
  rw [← List.append_assoc]
  exact hconsumed.skip hhead hrun hmore

theorem Keeps.pure (a : α) : Keeps (pure a : Reader α) :=
  fun _ => Reader.ensures_pure fun _ hP => hP

theorem Keeps.bind (h : Keeps r) (hf : ∀ a, Keeps (f a)) : Keeps (r >>= f) :=
  fun P => Reader.ensures_bind (h P) fun a => hf a P

theorem Passes.pure (a : α) : Passes (Pure.pure a : Reader α) :=
  (Keeps.pure a).passes

theorem Passes.bind (h : Passes r) (hf : ∀ a, Passes (f a)) : Passes (r >>= f) :=
  fun tokens marks => Reader.ensures_bind (h tokens marks) fun a => hf a tokens marks

theorem Passes.unexpected (mode : Mode) : Passes (Reader.unexpected mode : Reader α) :=
  fun _ _ => Reader.ensures_unexpected mode

theorem Passes.guard {c : Prop} [Decidable c] {next : Unit → Reader β} (mode : Mode)
    (h : Passes (next ())) : Passes (if c then next () else Reader.unexpected mode >>= next) := by
  split
  · exact h
  · exact .bind (.unexpected mode) fun _ => h

/-- What is found need not be kept. -/
theorem Extends.passes (h : Reads r found) : Passes r := by
  intro tokens marks
  refine (h tokens marks).imp (fun rest hpre => ?_) fun a rest hpost => hpost.left
  rwa [List.append_nil]

end Rules

/-! ### Readers of single tokens -/

theorem keeps_peek : Keeps Reader.peek :=
  fun _ => Reader.ensures_peek.imp (fun _ hP => hP) fun _ _ hpost => hpost.1

theorem keeps_peekSecond : Keeps Reader.peekSecond := by
  intro P tokens a rest hP hrun
  cases hrun
  exact hP

theorem keeps_nextIsSymbol (text : String) : Keeps (Reader.nextIsSymbol text) :=
  keeps_peek.bind fun _ => .pure _

theorem keeps_nextIsWord (text : String) : Keeps (Reader.nextIsWord text) :=
  keeps_peek.bind fun _ => .pure _

theorem keeps_continuing? (mode : Mode) : Keeps (Reader.continuing? mode) :=
  keeps_peek.bind fun _ => .pure _

theorem passes_skip : Passes Reader.skip := by
  intro tokens marks rest u rest' hconsumed hrun
  cases rest with
  | nil =>
    cases hrun
    exact hconsumed
  | cons t rest => simpa using hconsumed.skip (t := t) rfl hrun (.nil _)

theorem passes_skipSymbol? (text : String) : Passes (Reader.skipSymbol? text) := by
  refine (keeps_nextIsSymbol text).passes.bind fun b => ?_
  split
  · exact passes_skip.bind fun _ => .pure true
  · exact .pure false

theorem passes_skipWord? (text : String) : Passes (Reader.skipWord? text) := by
  refine (keeps_nextIsWord text).passes.bind fun b => ?_
  split
  · exact passes_skip.bind fun _ => .pure true
  · exact .pure false

theorem passes_symbol (mode : Mode) (text : String) : Passes (Reader.symbol mode text) := by
  refine (passes_skipSymbol? text).bind fun b => ?_
  split
  · exact .pure ()
  · exact .unexpected mode

theorem passes_word (mode : Mode) (text : String) : Passes (Reader.word mode text) := by
  refine (passes_skipWord? text).bind fun b => ?_
  split
  · exact .pure ()
  · exact .unexpected mode

theorem passes_skipIf (mode : Mode) (p : Token → Bool) : Passes (Reader.skipIf mode p) := by
  refine (keeps_continuing? mode).passes.bind fun t? => ?_
  split
  · split
    · exact passes_skip.bind fun _ => .pure true
    · exact .pure false
  · exact .pure false

theorem marked_of_isName {t : Token} {mark : Mark} (hkind : t.kind = .name) (h : mark.At t) :
    Marked [mark] t.words := by
  refine ⟨[t], .cons h .nil, ?_⟩
  rw [Token.words_eq, Token.ownWord, if_pos hkind]
  exact List.singleton_sublist.2 (by simp)

/-- A name may be found in any slot. -/
theorem reads_name (mode : Mode) (slot : Slot) :
    Reads (Reader.name mode) fun n => [.name slot slot.isRead n] := by
  refine .peek fun t => ?_
  dsimp only
  split
  · rename_i htext
    split
    · rename_i hkind
      have hat : Mark.At (.name slot slot.isRead ⟨t.text, t.position, htext⟩) t := ⟨rfl, rfl, rfl⟩
      exact .skip (marked_of_isName hkind hat) (.pure rfl)
    · exact (Extends.unexpected mode).known
  · exact (Extends.unexpected mode).known

/-- A word that is taken may start a definition. -/
theorem ExtendsAt.skipWord? {t : Token} {before : List Mark} {f : Bool → Reader β}
    {found : β → List Mark} (text : String)
    (htrue : Extends (before ++ [.start t.position]) (f true) found)
    (hfalse : ExtendsAt t before (f false) found) :
    ExtendsAt t before (Reader.skipWord? text >>= f) found := by
  intro tokens marks rest b rest' hpre hrun
  obtain ⟨more, rfl⟩ : ∃ more, rest = t :: more := List.head?_eq_some_iff.1 hpre.2
  cases hword : t.isWord text with
  | false =>
    have hnext : (Reader.skipWord? text).run (t :: more) = .ok (false, t :: more) := by
      simp [Reader.skipWord?, Reader.nextIsWord, Reader.peek, hword]
      rfl
    rw [StateT.run_bind, hnext] at hrun
    exact hfalse tokens marks hpre hrun
  | true =>
    have hkind : t.kind = .name := by
      simp only [Token.isWord, Bool.and_eq_true, beq_iff_eq] at hword
      exact hword.1
    have hnext : (Reader.skipWord? text).run (t :: more) =
        (Reader.skip >>= fun _ => pure true : Reader Bool).run (t :: more) := by
      simp [Reader.skipWord?, Reader.nextIsWord, Reader.peek, hword]
    have hstep : ExtendsAt t before (Reader.skip >>= fun _ => f true) found :=
      .skip (marked_of_isName hkind (show Mark.At (.start t.position) t from rfl)) htrue
    refine hstep tokens marks hpre ?_
    rw [StateT.run_bind, hnext] at hrun
    simpa using hrun

theorem keeps_get : Keeps (get : Reader (List Token)) := by
  intro P tokens a rest hP hrun
  cases hrun
  exact hP

/-- What a reader finds does not depend on whether its tokens are asked for. -/
theorem Extends.withTokens {before : List Mark} {r : Reader α} {found : α → List Mark}
    (h : Extends before r found) :
    Extends before (Reader.withTokens r) fun out => found out.1 := by
  refine .pass keeps_get.passes fun _ => ?_
  refine h.bind fun a => ?_
  exact .pass keeps_get.passes fun _ => .pure rfl

/-- The fields of a string are read by themselves, and reading goes on behind the string. -/
theorem ensures_onField {P : List Token → Prop} {line : Nat} {tokens : List Token} {r : Reader α}
    {found : α → List Mark} (h : Reads r found) :
    Reader.Ensures P (Reader.onField line tokens r) fun a rest =>
      P rest ∧ Marked (found a) (wordsOf tokens) := by
  obtain ⟨last, hlast⟩ : ∃ t, t = Token.mk .endOfText "" "" { line } line none [] := ⟨_, rfl⟩
  have hwords : wordsOf [last] = [] := by
    rw [hlast]
    rfl
  have hclosed : Closed (tokens ++ [last]) := ⟨last, by simp, by simpa [wordsOf] using hwords⟩
  intro saved a rest hP hrun
  unfold Reader.onField at hrun
  rw [← hlast] at hrun
  obtain ⟨_, _, hget, hrun⟩ := Reader.run_bind_eq_ok.1 hrun
  cases hget
  obtain ⟨_, _, hset, hrun⟩ := Reader.run_bind_eq_ok.1 hrun
  cases hset
  obtain ⟨b, between, hr, hrun⟩ := Reader.run_bind_eq_ok.1 hrun
  obtain ⟨_, _, -, hrun⟩ := Reader.run_bind_eq_ok.1 hrun
  dsimp only at hrun
  split at hrun
  · cases hrun
    have hfound := (h _ [] (Consumed.start hclosed) hr).marked
    rw [wordsOf_append, hwords, List.append_nil] at hfound
    exact ⟨hP, hfound⟩
  · obtain ⟨_, _, hfail, -⟩ := Reader.run_bind_eq_ok.1 hrun
    exact absurd hfail (Reader.run_unexpected_ne_ok _ _ _)

/-- A string is taken, and what is found in its fields is found at its words. -/
theorem ExtendsAt.skipFields {t : Token} {before : List Mark} {r : Reader α} {f : α → Reader β}
    {found : α → List Mark} {found' : β → List Mark}
    (h : ∀ P, Reader.Ensures P r fun a rest => P rest ∧ Marked (found a) (wordsOfFields t.fields))
    (hf : ∀ a, Extends (before ++ found a) (f a) found') :
    ExtendsAt t before (Reader.skip >>= fun _ => r >>= f) found' := by
  intro tokens marks
  have hskip : Reader.Ensures
      (fun rest => Consumed tokens (marks ++ before) rest ∧ rest.head? = some t) Reader.skip
      fun _ rest => ∀ more, Marked more t.words → Consumed tokens (marks ++ before ++ more) rest := by
    rintro rest u rest' ⟨hconsumed, hhead⟩ hrun more hmore
    exact hconsumed.skip hhead hrun hmore
  have hwords {more : List Mark} (hmore : Marked more (wordsOfFields t.fields)) :
      Marked more t.words := by
    rw [Token.words_eq]
    simpa using (Marked.nil t.ownWord).append hmore
  refine Reader.ensures_bind hskip fun _ => Reader.ensures_bind (h _) fun a => ?_
  refine (hf a tokens marks).imp (fun rest hpost => ?_) fun _ _ hpost => hpost
  rw [← List.append_assoc]
  exact hpost.1 _ (hwords hpost.2)

end LayerCheck.Syntax
