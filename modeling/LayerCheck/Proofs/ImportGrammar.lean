import LayerCheck.Proofs.Statements

/-!
How import statements are written: the word they start with, the module they import from and the names
of their list, which may be in parentheses and have commas at its end. The readers of imports take
tokens that are written this way. An import from `__future__` gives no import statement.
-/

namespace LayerCheck.Syntax

variable {α β : Type}

/-! ### How import statements are written -/

def Token.IsIdentifier (t : Token) : Prop :=
  t.kind = .name ∧ isIdentifier t.text = true

/-- Identifiers with dots between them. -/
inductive IsDotted : List Token → Prop where
  | word {t : Token} (h : t.IsIdentifier) : IsDotted [t]
  | dot {t dot : Token} {tokens : List Token} (h : t.IsIdentifier) (hdot : dot.isSymbol ".")
      (hrest : IsDotted tokens) : IsDotted (t :: dot :: tokens)

/-- The name is the identifier at the token. -/
def Name.IsAt (n : Name) (t : Token) : Prop :=
  t.kind = .name ∧ n.text = t.text ∧ n.position = t.position

/-- A name of an import list: a dotted name, and perhaps `as` and an identifier. -/
inductive ImportedName.Written : ImportedName → List Token → Prop where
  | plain {tokens : List Token} (h : IsDotted tokens) : Written ⟨tokens, none⟩ tokens
  | aliased {tokens : List Token} {as_ t : Token} {n : Name} (h : IsDotted tokens)
      (has : as_.isWord "as") (hn : n.IsAt t) : Written ⟨tokens, some n⟩ (tokens ++ [as_, t])

/-- Names with commas between them, and perhaps one at the end. -/
inductive NamesWritten : List ImportedName → List Token → Prop where
  | last {n : ImportedName} {tokens : List Token} (h : n.Written tokens) : NamesWritten [n] tokens
  | trailing {n : ImportedName} {tokens : List Token} {comma : Token} (h : n.Written tokens)
      (hcomma : comma.isSymbol ",") : NamesWritten [n] (tokens ++ [comma])
  | more {n : ImportedName} {names : List ImportedName} {tokens rest : List Token} {comma : Token}
      (h : n.Written tokens) (hcomma : comma.isSymbol ",") (hrest : NamesWritten names rest) :
      NamesWritten (n :: names) (tokens ++ comma :: rest)

/-- An import list, perhaps in parentheses. -/
inductive ListWritten : List ImportedName → List Token → Prop where
  | bare {names : List ImportedName} {tokens : List Token} (h : NamesWritten names tokens) :
      ListWritten names tokens
  | bracketed {names : List ImportedName} {tokens : List Token} {left right : Token}
      (hleft : left.isSymbol "(") (h : NamesWritten names tokens) (hright : right.isSymbol ")") :
      ListWritten names (left :: tokens ++ [right])

def IsDots (tokens : List Token) : Prop :=
  ∀ t ∈ tokens, t.isSymbol "." ∨ t.isSymbol "..."

/-- What stands between `from` and `import`: the dots of a relative import, a dotted name, or both. -/
inductive BaseWritten : String → List Token → Prop where
  | relative {dots : List Token} (hne : dots ≠ []) (hdots : IsDots dots) : BaseWritten "" dots
  | named {dots tokens : List Token} (hdots : IsDots dots) (h : IsDotted tokens) :
      BaseWritten (sourceText tokens) (dots ++ tokens)

/-- A statement that imports, and its tokens. -/
inductive Stmt.ImportWritten : Stmt → List Token → Prop where
  | modules {keyword : Token} {names : List ImportedName} {tokens : List Token}
      (hkeyword : keyword.isWord "import") (h : NamesWritten names tokens) :
      ImportWritten (.importModules keyword.line names) (keyword :: tokens)
  | members {keyword middle : Token} {base : String} {names : List ImportedName}
      {module tokens : List Token} (hkeyword : keyword.isWord "from") (hbase : BaseWritten base module)
      (hfuture : ∀ t ∈ module.head?, ¬t.isWord "__future__") (hmiddle : middle.isWord "import")
      (h : ListWritten names tokens) :
      ImportWritten (.importFrom keyword.line base names) (keyword :: module ++ middle :: tokens)
  | everything {keyword middle star : Token} {base : String} {module : List Token}
      (hkeyword : keyword.isWord "from") (hbase : BaseWritten base module)
      (hfuture : ∀ t ∈ module.head?, ¬t.isWord "__future__") (hmiddle : middle.isWord "import")
      (hstar : star.isSymbol "*") :
      ImportWritten (.importFrom keyword.line base []) (keyword :: module ++ [middle, star])

/-! ### Tokens that readers take -/

/-- The list ends with the token for the end of the text. -/
def Ended (tokens : List Token) : Prop :=
  ∃ t, tokens.getLast? = some t ∧ t.isEnd ∧ t.words = []

theorem ended_scanAll (fuel depth : Nat) (p : Position) (cs : List Char) :
    Ended (scanAll fuel depth p cs) := by
  induction fuel generalizing depth p cs with
  | zero => exact ⟨_, rfl, rfl, rfl⟩
  | succ fuel ih =>
    rw [scanAll]
    dsimp only
    split
    · exact ⟨_, rfl, rfl, rfl⟩
    · obtain ⟨last, hlast, hend⟩ := ih _ _ _
      exact ⟨last, by rw [List.getLast?_cons, hlast, Option.getD_some], hend⟩

theorem ended_scan (source : String) : Ended (scan source) :=
  ended_scanAll _ _ _ _

/-- The tree that is read from the tokens of a text. -/
theorem parse_eq_ok {source : String} {m : Module} : parse source = .ok m ↔
    ∃ rest, (block (30 * (textLength (scan source) + 2)) 0).run (scan source) = .ok (m, rest) := by
  unfold parse
  dsimp only
  split
  · rename_i body rest hrun
    simp [hrun]
  · rename_i e hrun
    simp [hrun]

theorem Token.isEnd_of_isSymbol {t : Token} {text : String} (h : t.isSymbol text) :
    t.isEnd = false := by
  simp only [isSymbol, Bool.and_eq_true, beq_iff_eq] at h
  simp [isEnd, h.1]

theorem Token.kind_of_isWord {t : Token} {text : String} (h : t.isWord text) : t.kind = .name := by
  simp only [isWord, Bool.and_eq_true, beq_iff_eq] at h
  exact h.1

theorem Token.isEnd_of_kind {t : Token} (h : t.kind = .name) : t.isEnd = false := by
  simp [isEnd, h]

/-- The reader takes tokens that are written as its result says. -/
def Takes (r : Reader α) (written : α → List Token → Prop) : Prop :=
  ∀ ⦃tokens a rest⦄, Ended tokens → r.run tokens = .ok (a, rest) →
    Ended rest ∧ ∃ used, tokens = used ++ rest ∧ written a used

/-- The same where the next token is known. -/
def TakesAt (t : Token) (r : Reader α) (written : α → List Token → Prop) : Prop :=
  ∀ ⦃tokens a rest⦄, Ended tokens → tokens.head? = some t → r.run tokens = .ok (a, rest) →
    Ended rest ∧ ∃ used, tokens = used ++ rest ∧ written a used

section Rules

variable {r : Reader α} {f : α → Reader β} {written : α → List Token → Prop}
  {written' : β → List Token → Prop} {t : Token}

theorem Takes.pure {a : α} (h : written a []) : Takes (pure a) written := by
  intro tokens b rest hended hrun
  cases hrun
  exact ⟨hended, [], rfl, h⟩

theorem Takes.unexpected (mode : Mode) : Takes (Reader.unexpected mode : Reader α) written :=
  fun _ _ _ _ hrun => absurd hrun (Reader.run_unexpected_ne_ok mode _ _)

theorem Takes.imp {other : α → List Token → Prop} (h : Takes r written)
    (himp : ∀ a used, written a used → other a used) : Takes r other := by
  intro tokens a rest hended hrun
  obtain ⟨hrest, used, hused, hwritten⟩ := h hended hrun
  exact ⟨hrest, used, hused, himp a used hwritten⟩

theorem Takes.bind (h : Takes r written)
    (hf : ∀ a used, written a used → Takes (f a) fun b more => written' b (used ++ more)) :
    Takes (r >>= f) written' := by
  intro tokens b rest hended hrun
  obtain ⟨a, between, hr, hrest⟩ := Reader.run_bind_eq_ok.1 hrun
  obtain ⟨hbetween, used, rfl, hwritten⟩ := h hended hr
  obtain ⟨hended', more, rfl, hwritten'⟩ := hf a used hwritten hbetween hrest
  exact ⟨hended', used ++ more, by rw [List.append_assoc], hwritten'⟩

theorem TakesAt.imp {other : α → List Token → Prop} (h : TakesAt t r written)
    (himp : ∀ a used, written a used → other a used) : TakesAt t r other := by
  intro tokens a rest hended hhead hrun
  obtain ⟨hrest, used, hused, hwritten⟩ := h hended hhead hrun
  exact ⟨hrest, used, hused, himp a used hwritten⟩

theorem Takes.known (h : Takes r written) : TakesAt t r written :=
  fun _ _ _ hended _ hrun => h hended hrun

/-- The first of the tokens that are taken is the next one. -/
theorem Takes.first (h : Takes r fun a used => (∀ u ∈ used.head?, u = t) → written a used) :
    TakesAt t r written := by
  intro tokens a rest hended hhead hrun
  obtain ⟨hrest, used, rfl, hwritten⟩ := h hended hrun
  refine ⟨hrest, used, rfl, hwritten fun u hu => ?_⟩
  rw [List.head?_append, Option.mem_def.1 hu] at hhead
  exact Option.some.inj hhead

theorem Takes.keep (h : Keeps r) (hf : ∀ a, Takes (f a) written') : Takes (r >>= f) written' := by
  intro tokens b rest hended hrun
  obtain ⟨a, between, hr, hrest⟩ := Reader.run_bind_eq_ok.1 hrun
  obtain rfl : between = tokens := h (· = tokens) rfl hr
  exact hf a hended hrest

theorem Takes.peek {f : Token → Reader β} (hf : ∀ t, TakesAt t (f t) written') :
    Takes (Reader.peek >>= f) written' := by
  intro tokens b rest hended hrun
  obtain ⟨t, between, hpeek, hrest⟩ := Reader.run_bind_eq_ok.1 hrun
  obtain ⟨rfl, hhead⟩ := Reader.ensures_peek (P := (· = tokens)) rfl hpeek
  exact hf t hended hhead hrest

/-- Any token but the last is taken. -/
theorem TakesAt.skip {f : Unit → Reader β} (hend : t.isEnd = false)
    (hf : Takes (f ()) fun b more => written' b (t :: more)) :
    TakesAt t (Reader.skip >>= f) written' := by
  intro tokens b rest hended hhead hrun
  obtain ⟨u, between, hskip, hrest⟩ := Reader.run_bind_eq_ok.1 hrun
  obtain ⟨more, rfl⟩ := List.head?_eq_some_iff.1 hhead
  obtain ⟨last, hlast, hisEnd, hwords⟩ := hended
  cases more with
  | nil =>
    obtain rfl : t = last := by simpa using hlast
    rw [hend] at hisEnd
    contradiction
  | cons next more =>
    cases hskip
    have hbetween : Ended (next :: more) := ⟨last, by simpa using hlast, hisEnd, hwords⟩
    obtain ⟨hended', used, hused, hwritten⟩ := hf hbetween hrest
    exact ⟨hended', t :: used, by rw [hused, List.cons_append], hwritten⟩

theorem Takes.continuing? {f : Option Token → Reader β} (mode : Mode)
    (hnone : Takes (f none) written') (hsome : ∀ t, TakesAt t (f (some t)) written') :
    Takes (Reader.continuing? mode >>= f) written' := by
  simp only [Reader.continuing?, bind_assoc, pure_bind]
  refine .peek fun t => ?_
  split
  · exact hnone.known
  · exact hsome t

theorem Takes.withTokens (h : Takes r written) :
    Takes (Reader.withTokens r) fun out used => written out.1 used ∧ out.2 = used := by
  intro tokens out rest hended hrun
  obtain ⟨_, _, hget, hrun⟩ := Reader.run_bind_eq_ok.1 hrun
  cases hget
  obtain ⟨a, between, hr, hrun⟩ := Reader.run_bind_eq_ok.1 hrun
  obtain ⟨_, _, hget, hrun⟩ := Reader.run_bind_eq_ok.1 hrun
  cases hget
  cases hrun
  obtain ⟨hended', used, rfl, hwritten⟩ := h hended hr
  refine ⟨hended', used, rfl, hwritten, ?_⟩
  simp

end Rules

/-! ### Readers of single tokens -/

section Tokens

variable {f : Bool → Reader β} {written : β → List Token → Prop}

theorem takes_name (mode : Mode) :
    Takes (Reader.name mode) fun n used => ∃ t, used = [t] ∧ t.IsIdentifier ∧ n.IsAt t := by
  refine .peek fun t => ?_
  dsimp only
  split
  · rename_i htext
    split
    · rename_i hkind
      exact .skip (Token.isEnd_of_kind hkind) (.pure ⟨t, rfl, ⟨hkind, htext⟩, hkind, rfl, rfl⟩)
    · exact (Takes.unexpected mode).known
  · exact (Takes.unexpected mode).known

/-- A token is taken if it is the one that is asked for. -/
theorem Takes.skipIf (mode : Mode) {p : Token → Bool} (hp : ∀ t, p t → t.isEnd = false)
    (htrue : ∀ t, p t → Takes (f true) fun b more => written b (t :: more))
    (hfalse : Takes (f false) written) : Takes (Reader.skipIf mode p >>= f) written := by
  simp only [Reader.skipIf, bind_assoc]
  refine .continuing? mode (by simpa using hfalse) fun t => ?_
  dsimp only
  split
  · rename_i ht
    simp only [bind_assoc, pure_bind]
    exact .skip (hp t ht) (htrue t ht)
  · simpa using hfalse.known

theorem Takes.skipSymbol? (text : String)
    (htrue : ∀ t : Token, t.isSymbol text → Takes (f true) fun b more => written b (t :: more))
    (hfalse : Takes (f false) written) : Takes (Reader.skipSymbol? text >>= f) written := by
  simp only [Reader.skipSymbol?, Reader.nextIsSymbol, bind_assoc, pure_bind]
  refine .peek fun t => ?_
  split
  · rename_i ht
    simp only [bind_assoc, pure_bind]
    exact .skip (Token.isEnd_of_isSymbol ht) (htrue t ht)
  · simpa using hfalse.known

theorem Takes.skipWord? (text : String)
    (htrue : ∀ t : Token, t.isWord text → Takes (f true) fun b more => written b (t :: more))
    (hfalse : ∀ t : Token, ¬t.isWord text → TakesAt t (f false) written) :
    Takes (Reader.skipWord? text >>= f) written := by
  simp only [Reader.skipWord?, Reader.nextIsWord, bind_assoc, pure_bind]
  refine .peek fun t => ?_
  split
  · rename_i ht
    simp only [bind_assoc, pure_bind]
    exact .skip (Token.isEnd_of_kind (Token.kind_of_isWord ht)) (htrue t ht)
  · rename_i ht
    simpa using hfalse t ht

theorem takes_symbol (mode : Mode) (text : String) :
    Takes (Reader.symbol mode text) fun _ used => ∃ t : Token, used = [t] ∧ t.isSymbol text := by
  refine .skipSymbol? text (fun t ht => ?_) ?_
  · exact .pure ⟨t, rfl, ht⟩
  · exact .unexpected mode

theorem takes_word (mode : Mode) (text : String) :
    Takes (Reader.word mode text) fun _ used => ∃ t : Token, used = [t] ∧ t.isWord text := by
  refine .skipWord? text (fun t ht => ?_) fun _ _ => ?_
  · exact .pure ⟨t, rfl, ht⟩
  · exact (Takes.unexpected mode).known

end Tokens

/-! ### Readers of imports -/

/-- Behind an identifier the rest of a dotted name makes it longer. -/
theorem takes_dottedRest (fuel : Nat) (mode : Mode) :
    Takes (dottedRest fuel mode) fun _ used => ∀ t : Token, t.IsIdentifier → IsDotted (t :: used) := by
  induction fuel with
  | zero => exact .unexpected .brackets
  | succ fuel ih =>
    rw [dottedRest]
    refine .skipIf mode (fun _ => Token.isEnd_of_isSymbol) (fun dot hdot => ?_) ?_
    · refine (takes_name mode).bind ?_
      rintro n _ ⟨u, rfl, hu, -⟩
      refine ih.bind fun names used hused => .pure fun t ht => ?_
      simpa using .dot ht hdot (hused u hu)
    · exact .pure fun t ht => .word ht

theorem takes_dotted (fuel : Nat) (mode : Mode) :
    Takes (do
      let _ ← Reader.name mode
      let _ ← dottedRest fuel mode) fun _ used => IsDotted used := by
  refine (takes_name mode).bind ?_
  rintro n _ ⟨t, rfl, ht, -⟩
  refine (takes_dottedRest fuel mode).bind fun names used hused => .pure ?_
  simpa using hused t ht

theorem takes_dottedName (fuel : Nat) (mode : Mode) :
    Takes (dottedName fuel mode) fun words used => IsDotted used ∧ words = used := by
  refine (takes_dotted fuel mode).withTokens.bind ?_
  rintro ⟨_, tokens⟩ used ⟨hdotted, rfl⟩
  exact .pure (by simpa using hdotted)

theorem takes_importedName (fuel : Nat) (mode : Mode) :
    Takes (importedName fuel mode) ImportedName.Written := by
  refine (takes_dottedName fuel mode).bind ?_
  rintro _ used ⟨hdotted, rfl⟩
  refine .skipIf mode (fun _ h => Token.isEnd_of_kind (Token.kind_of_isWord h)) (fun as_ has => ?_) ?_
  · simp only [map_eq_pure_bind, bind_assoc, pure_bind]
    refine (takes_name mode).bind ?_
    rintro n _ ⟨t, rfl, -, hn⟩
    exact .pure (.aliased hdotted has hn)
  · exact .pure (by simpa using .plain hdotted)

theorem takes_importedNames (fuel : Nat) (mode : Mode) :
    Takes (importedNames fuel mode) NamesWritten := by
  induction fuel with
  | zero => exact .unexpected .brackets
  | succ fuel ih =>
    rw [importedNames]
    refine (takes_importedName fuel mode).bind fun first used hfirst => ?_
    have hlast : Takes (pure [first]) fun names more => NamesWritten names (used ++ more) :=
      .pure (by simpa using .last hfirst)
    refine .continuing? mode hlast fun t => ?_
    dsimp only
    split
    · rename_i hcomma
      refine .skip (Token.isEnd_of_isSymbol hcomma) ?_
      have htrailing : Takes (pure [first]) fun names more => NamesWritten names (used ++ t :: more) :=
        .pure (.trailing hfirst hcomma)
      refine .continuing? mode htrailing fun next => ?_
      dsimp only
      split
      · refine (ih.bind fun names more hnames => .pure ?_).known
        simpa using .more hfirst hcomma hnames
      · exact htrailing.known
    · exact hlast.known

theorem takes_importList (fuel : Nat) : Takes (importList fuel) ListWritten := by
  refine .skipSymbol? "(" (fun left hleft => ?_) ?_
  · refine (takes_importedNames fuel .brackets).bind fun names used hnames => ?_
    refine (takes_symbol .brackets ")").bind ?_
    rintro _ _ ⟨right, rfl, hright⟩
    exact .pure (.bracketed hleft hnames hright)
  · exact (takes_importedNames fuel .line).imp fun _ _ => .bare

theorem takes_importDots (fuel : Nat) :
    Takes (importDots fuel) fun relative used => IsDots used ∧ (relative → used ≠ []) := by
  induction fuel with
  | zero => exact .pure (by simp [IsDots])
  | succ fuel ih =>
    rw [importDots]
    have hmore {dots : List Token} (hdots : IsDots dots) (hne : dots ≠ []) :
        Takes (do
          let _ ← importDots fuel
          return true) fun relative used => IsDots (dots ++ used) ∧ (relative → dots ++ used ≠ []) := by
      refine ih.bind fun _ used hused => .pure ⟨?_, by simp [hne]⟩
      simpa [IsDots, or_imp, forall_and] using ⟨hdots, hused.1⟩
    refine .skipSymbol? "." (fun one hone => ?_) ?_
    · refine .skipSymbol? "..." (fun three hthree => ?_) ?_
      · exact @hmore [one, three] (by simp [IsDots, hone, hthree]) (by simp)
      · exact @hmore [one] (by simp [IsDots, hone]) (by simp)
    · refine .skipSymbol? "..." (fun three hthree => ?_) ?_
      · exact @hmore [three] (by simp [IsDots, hthree]) (by simp)
      · exact .pure (by simp [IsDots])

theorem BaseWritten.ne_nil {base : String} {module : List Token} (h : BaseWritten base module) :
    module ≠ [] := by
  cases h with
  | relative hne hdots => exact hne
  | named hdots h => cases h <;> simp

mutual

/-- The statements that import in a statement, in the order of the text. -/
def Stmt.importStatements : Stmt → List Stmt
  | .importModules line names => [.importModules line names]
  | .importFrom line base names => [.importFrom line base names]
  | .definition _ body => importStatementsOf body
  | .block _ _ body => importStatementsOf body
  | .expression _ _ | .assignment _ _ _ | .simple _ => []

def importStatementsOf : List Stmt → List Stmt
  | [] => []
  | s :: rest => s.importStatements ++ importStatementsOf rest

end

attribute [simp] Stmt.importStatements importStatementsOf

/-- Behind the word `from`. -/
theorem takes_importFrom (fuel line : Nat) :
    Takes (importFrom fuel line) fun s used => ∀ keyword : Token, keyword.isWord "from" →
      keyword.line = line → s.importStatements = [] ∨ s.ImportWritten (keyword :: used) := by
  unfold importFrom
  refine .skipWord? "__future__" (fun future _ => ?_) fun next hnext => ?_
  · refine (takes_word .line "import").bind fun _ _ _ => ?_
    exact (takes_importList fuel).bind fun _ _ _ => .pure fun _ _ _ => .inl rfl
  · -- The module starts with the next token, which is not `__future__`.
    have hnames {base : String} {module : List Token} (hbase : BaseWritten base module) :
        Takes (do
          Reader.word .line "import"
          if ← Reader.skipSymbol? "*" then return Stmt.importFrom line base []
          return Stmt.importFrom line base (← importList fuel)) fun s used =>
            (∀ t ∈ (module ++ used).head?, t = next) → ∀ keyword : Token, keyword.isWord "from" →
              keyword.line = line →
                s.importStatements = [] ∨ s.ImportWritten (keyword :: (module ++ used)) := by
      have hfuture {used : List Token} (h : ∀ t ∈ (module ++ used).head?, t = next) :
          ∀ t ∈ module.head?, ¬t.isWord "__future__" := by
        intro t ht
        rw [h t (by simp [List.head?_append, Option.mem_def.1 ht])]
        exact hnext
      refine (takes_word .line "import").bind ?_
      rintro _ _ ⟨middle, rfl, hmiddle⟩
      refine .skipSymbol? "*" (fun star hstar => ?_) ?_
      · refine .pure fun hfirst keyword hkeyword hline => .inr ?_
        rw [← hline]
        exact .everything hkeyword hbase (hfuture hfirst) hmiddle hstar
      · refine (takes_importList fuel).bind fun names used hlist => .pure ?_
        refine fun hfirst keyword hkeyword hline => .inr ?_
        rw [← hline]
        simpa using .members hkeyword hbase (hfuture hfirst) hmiddle hlist
    refine Takes.first ?_
    refine (takes_importDots fuel).bind fun relative dots hdots => ?_
    refine .keep (keeps_nextIsWord "import") fun last => ?_
    simp only [pure_bind, map_eq_pure_bind, bind_assoc]
    split
    · rename_i hlast
      have hrelative : relative := by simp_all
      exact hnames (.relative (hdots.2 hrelative) hdots.1)
    · refine (takes_dottedName fuel .line).bind ?_
      rintro _ used ⟨hdotted, rfl⟩
      simpa only [List.append_assoc] using hnames (.named hdots.1 hdotted)

end LayerCheck.Syntax
