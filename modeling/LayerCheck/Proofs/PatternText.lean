import LayerCheck.Pattern.Token
import Mathlib.Data.List.TakeWhile

/-!
Patterns in a group. A text that is a pattern has the same tokens when it stands in a group, except that
the parenthesis behind it may belong to a comment; then the group is not closed.
-/

namespace LayerCheck.Pattern

/-! ### Texts with a parenthesis behind them -/

/-- The second text is the first one, perhaps with a parenthesis behind it. -/
inductive Closes : List Char → List Char → Prop where
  | nil : Closes [] []
  | paren : Closes [] [')']
  | cons (c : Char) {cs cs' : List Char} (h : Closes cs cs') : Closes (c :: cs) (c :: cs')

/-- The pairs have the same first part. -/
def Keeping {α β : Type} (R : β → β → Prop) (a a' : α × β) : Prop :=
  a'.1 = a.1 ∧ R a.2 a'.2

/-- What is read from one text is read from the other. -/
def Carries {α : Type} (R : α → α → Prop) (x x' : Option α) : Prop :=
  ∀ a, x = some a → ∃ a', x' = some a' ∧ R a a'

section Rules

variable {α β : Type} {R : α → α → Prop} {S : β → β → Prop}

theorem Carries.none {x : Option α} : Carries R .none x :=
  fun _ h => nomatch h

theorem Carries.some {a a' : α} (h : R a a') : Carries R (some a) (some a') := by
  intro b hb
  cases hb
  exact ⟨a', rfl, h⟩

theorem Carries.bind {x x' : Option α} {f f' : α → Option β} (hx : Carries R x x')
    (hf : ∀ a a', R a a' → Carries S (f a) (f' a')) : Carries S (x.bind f) (x'.bind f') := by
  intro b hb
  obtain ⟨a, ha, hb⟩ := Option.bind_eq_some_iff.1 hb
  obtain ⟨a', ha', haa'⟩ := hx a ha
  obtain ⟨b', hb', hbb'⟩ := hf a a' haa' b hb
  exact ⟨b', Option.bind_eq_some_iff.2 ⟨a', ha', hb'⟩, hbb'⟩

theorem Carries.known {γ : Type} {x : Option γ} {f f' : γ → Option β}
    (hf : ∀ a, Carries S (f a) (f' a)) : Carries S (x.bind f) (x.bind f') := by
  cases x with
  | none => exact .none
  | some a => exact hf a

theorem Carries.map {x x' : Option α} {f f' : α → β} (hx : Carries R x x')
    (hf : ∀ a a', R a a' → S (f a) (f' a')) : Carries S (x.map f) (x'.map f') := by
  intro b hb
  obtain ⟨a, ha, rfl⟩ := Option.map_eq_some_iff.1 hb
  obtain ⟨a', ha', haa'⟩ := hx a ha
  exact ⟨f' a', Option.map_eq_some_iff.2 ⟨a', ha', rfl⟩, hf a a' haa'⟩

/-- Behind a first part that both have, reading goes on from both rests. -/
theorem Carries.keep {γ : Type} {x x' : Option (γ × α)} {f f' : γ × α → Option β}
    (hx : Carries (Keeping R) x x') (hf : ∀ c a a', R a a' → Carries S (f (c, a)) (f' (c, a'))) :
    Carries S (x.bind f) (x'.bind f') := by
  refine .bind hx ?_
  rintro ⟨_, a⟩ ⟨c, a'⟩ ⟨rfl, ha⟩
  exact hf c a a' ha

theorem Carries.guard {c : Prop} [Decidable c] {x x' y y' : Option α} (hx : Carries R x x')
    (hy : Carries R y y') : Carries R (if c then x else y) (if c then x' else y') := by
  split
  · exact hx
  · exact hy

end Rules

variable {f : Flags} {cs cs' rest : List Char}

theorem closes_append (cs : List Char) : Closes cs (cs ++ [')']) := by
  induction cs with
  | nil => exact .paren
  | cons c cs ih => exact .cons c ih

theorem Closes.length_le (h : Closes cs cs') : cs.length ≤ cs'.length := by
  induction h with
  | nil => exact Nat.le_refl _
  | paren => exact Nat.zero_le _
  | cons c _ ih => exact Nat.succ_le_succ ih

/-- The first text has the characters that the second one starts with, parentheses apart. -/
theorem Closes.of_cons {c : Char} (h : Closes cs (c :: cs')) (hc : c ≠ ')') :
    ∃ rest, cs = c :: rest ∧ Closes rest cs' := by
  cases h with
  | paren => contradiction
  | cons _ h => exact ⟨_, rfl, h⟩

/-! ### Blanks -/

theorem Closes.skipBlanksAux (h : Closes cs cs') (inComment : Bool) :
    Closes (skipBlanksAux inComment cs) (skipBlanksAux inComment cs') := by
  induction h generalizing inComment with
  | nil => exact .nil
  | paren =>
    cases inComment with
    | true => exact .nil
    | false =>
      simp only [Pattern.skipBlanksAux]
      split
      · exact .nil
      · split
        · exact .nil
        · exact .paren
  | cons c h ih =>
    cases inComment with
    | true => exact ih _
    | false =>
      simp only [Pattern.skipBlanksAux]
      split
      · exact ih true
      · split
        · exact ih false
        · exact .cons c h

theorem Closes.skip (h : Closes cs cs') (f : Flags) : Closes (f.skip cs) (f.skip cs') := by
  unfold Flags.skip
  split
  · exact h.skipBlanksAux false
  · exact h

theorem length_skipBlanksAux_le (inComment : Bool) (cs : List Char) :
    (skipBlanksAux inComment cs).length ≤ cs.length := by
  induction cs generalizing inComment with
  | nil => simp [skipBlanksAux]
  | cons c cs ih =>
    cases inComment with
    | true => exact Nat.le_succ_of_le (ih _)
    | false =>
      simp only [skipBlanksAux]
      split
      · exact Nat.le_succ_of_le (ih true)
      · split
        · exact Nat.le_succ_of_le (ih false)
        · exact Nat.le_refl _

theorem length_skip_le (f : Flags) (cs : List Char) : (f.skip cs).length ≤ cs.length := by
  unfold Flags.skip
  split
  · exact length_skipBlanksAux_le false cs
  · exact Nat.le_refl _

theorem Closes.dropWhile (h : Closes cs cs') (p : Char → Bool) :
    Closes (cs.dropWhile p) (cs'.dropWhile p) := by
  induction h with
  | nil => exact .nil
  | paren =>
    rw [List.dropWhile_cons]
    split
    · exact .nil
    · exact .paren
  | cons c h ih =>
    rw [List.dropWhile_cons, List.dropWhile_cons]
    split
    · exact ih
    · exact .cons c h

/-! ### Escapes -/

theorem Closes.readHexDigits (h : Closes cs cs') (n : Nat) :
    Carries (Keeping Closes) (readHexDigits f n cs) (readHexDigits f n cs') := by
  induction n generalizing cs cs' with
  | zero => exact .some ⟨rfl, h⟩
  | succ n ih =>
    cases h with
    | nil | paren => exact .none
    | cons c h =>
      refine .known fun _ => .bind (ih (h.skip f)) ?_
      rintro ⟨digits, rest⟩ ⟨_, rest'⟩ ⟨rfl, hrest⟩
      exact .some ⟨rfl, hrest⟩

theorem Closes.readBraced {fuel fuel' : Nat} (h : Closes cs cs') (hfuel : fuel ≤ fuel') :
    Carries (Keeping Closes) (readBraced f fuel cs) (readBraced f fuel' cs') := by
  induction fuel generalizing fuel' cs cs' with
  | zero => exact .none
  | succ fuel ih =>
    obtain ⟨fuel', rfl⟩ : ∃ n, fuel' = n + 1 := ⟨fuel' - 1, by omega⟩
    have hskip := h.skip f
    simp only [Pattern.readBraced]
    generalize f.skip cs = ds at hskip
    generalize f.skip cs' = ds' at hskip
    cases hskip with
    | nil | paren => exact .none
    | cons c h =>
      by_cases hc : c = '\x7d'
      · subst hc
        exact .some ⟨rfl, h⟩
      · simp only
        refine .keep (ih h (by omega)) fun body rest rest' hrest => ?_
        exact .some ⟨rfl, hrest⟩

theorem Closes.readHexEscape (h : Closes cs cs') (width : Nat) :
    Carries (Keeping (Keeping Closes)) (readHexEscape f width cs) (readHexEscape f width cs') := by
  have hdigits {ds ds' : List Char} (h : Closes ds ds') := Closes.readHexDigits (f := f) h width
  have hskip := h.skip f
  unfold Pattern.readHexEscape
  generalize f.skip cs = ds at hskip
  generalize f.skip cs' = ds' at hskip
  cases hskip with
  | nil | paren =>
    refine .keep (hdigits (by constructor)) fun digits rest rest' hrest => ?_
    exact .known fun _ => .some ⟨rfl, rfl, hrest⟩
  | cons c h =>
    by_cases hc : c = '\x7b'
    · subst hc
      refine .keep (h.readBraced (Nat.succ_le_succ h.length_le)) fun digits rest rest' hrest => ?_
      exact .guard .none (.known fun _ => .some ⟨rfl, rfl, hrest.skip f⟩)
    · simp only [List.cons.injEq, hc, false_and, imp_self, implies_true]
      refine .keep (hdigits (.cons c h)) fun digits rest rest' hrest => ?_
      exact .known fun _ => .some ⟨rfl, rfl, hrest⟩

theorem Closes.readUnicodeClass (h : Closes cs cs') (negated : Bool) :
    Carries (Keeping Closes) (readUnicodeClass f negated cs) (readUnicodeClass f negated cs') := by
  have hskip := h.skip f
  unfold Pattern.readUnicodeClass
  dsimp only
  refine .guard .none ?_
  generalize f.skip cs = ds at hskip
  generalize f.skip cs' = ds' at hskip
  cases hskip with
  | nil | paren => exact .none
  | cons c h =>
    by_cases hc : c = '\x7b'
    · subst hc
      refine .keep (h.readBraced (Nat.succ_le_succ h.length_le)) fun body rest rest' hrest => ?_
      exact .known fun _ => .known fun _ => .some ⟨rfl, hrest⟩
    · simp only
      exact .known fun _ => .guard .none (.known fun _ => .some ⟨rfl, h.skip f⟩)

theorem Closes.readWordBoundary (h : Closes cs cs') :
    Carries (Keeping Closes) (readWordBoundary f cs) (readWordBoundary f cs') := by
  unfold Pattern.readWordBoundary
  cases h with
  | nil => exact .some ⟨rfl, .nil⟩
  | paren => exact .some ⟨rfl, .paren⟩
  | @cons c inner inner' h =>
    by_cases hc : c = '\x7b'
    · subst hc
      have hskip := h.skip f
      simp only
      generalize f.skip inner = ds at hskip
      generalize f.skip inner' = ds' at hskip
      cases hskip with
      | nil | paren => exact .none
      | cons d _ =>
        refine .guard (.some ⟨rfl, .cons _ h⟩) ?_
        refine .keep (h.readBraced (Nat.succ_le_succ h.length_le)) fun body rest rest' hrest => ?_
        dsimp only
        split
        · exact .some ⟨rfl, hrest⟩
        · exact .some ⟨rfl, hrest⟩
        · exact .some ⟨rfl, hrest⟩
        · exact .some ⟨rfl, hrest⟩
        · exact .none
    · simp only [List.cons.injEq, hc, false_and, imp_self, implies_true]
      exact .some ⟨rfl, .cons c h⟩

theorem Closes.readEscape (h : Closes cs cs') :
    Carries (Keeping Closes) (readEscape f cs) (readEscape f cs') := by
  cases h with
  | nil | paren => exact .none
  | cons c h =>
    unfold Pattern.readEscape
    dsimp only
    split
    · exact .known fun _ => .some ⟨rfl, h⟩
    · split
      case h_1 | h_2 | h_3 =>
        refine .map (h.readHexEscape _) ?_
        rintro ⟨d, byte, rest⟩ ⟨_, _, rest'⟩ ⟨rfl, rfl, hrest⟩
        exact ⟨rfl, hrest⟩
      case h_4 | h_5 =>
        refine .map (h.readUnicodeClass _) ?_
        rintro ⟨s, rest⟩ ⟨_, rest'⟩ ⟨rfl, hrest⟩
        exact ⟨rfl, hrest⟩
      case h_14 =>
        refine .map h.readWordBoundary ?_
        rintro ⟨l, rest⟩ ⟨_, rest'⟩ ⟨rfl, hrest⟩
        exact ⟨rfl, hrest⟩
      case h_18 => exact .guard (.some ⟨rfl, h⟩) .none
      all_goals exact .some ⟨rfl, h⟩

/-! ### Classes -/

theorem addLeadingHyphens_of_head? (h : cs.head? ≠ some '-') (fuel : Nat) (b : Bracket) :
    addLeadingHyphens f fuel b cs = (b, cs) := by
  cases fuel with
  | zero => rfl
  | succ fuel =>
    rw [addLeadingHyphens]
    rintro rest rfl
    exact h rfl

theorem Closes.addLeadingHyphens {fuel fuel' : Nat} (h : Closes cs cs') (hfuel : cs.length ≤ fuel)
    (hfuel' : cs'.length ≤ fuel') (b : Bracket) :
    Keeping Closes (addLeadingHyphens f fuel b cs) (addLeadingHyphens f fuel' b cs') := by
  induction fuel generalizing fuel' b cs cs' with
  | zero =>
    obtain rfl : cs = [] := List.length_eq_zero_iff.1 (Nat.le_zero.1 hfuel)
    have hhead : cs'.head? ≠ some '-' := by cases h <;> simp
    rw [addLeadingHyphens_of_head? hhead]
    exact ⟨rfl, h⟩
  | succ fuel ih =>
    by_cases hhead : cs.head? = some '-'
    · obtain ⟨rest, rfl⟩ := List.head?_eq_some_iff.1 hhead
      cases h with
      | cons _ h =>
        obtain ⟨fuel', rfl⟩ : ∃ n, fuel' = n + 1 := ⟨fuel' - 1, by simp at hfuel'; omega⟩
        refine ih (h.skip f) ?_ ?_ _
        · exact Nat.le_trans (length_skip_le f _) (Nat.le_of_succ_le_succ hfuel)
        · exact Nat.le_trans (length_skip_le f _) (Nat.le_of_succ_le_succ hfuel')
    · have hhead' : cs'.head? ≠ some '-' := by cases h <;> simp_all
      rw [addLeadingHyphens_of_head? hhead, addLeadingHyphens_of_head? hhead']
      exact ⟨rfl, h⟩

theorem Closes.openBracket (h : Closes cs cs') :
    Carries (Keeping Closes) (openBracket f cs) (openBracket f cs') := by
  have hhyphens {ds ds' : List Char} (h : Closes ds ds') (b : Bracket) :=
    h.addLeadingHyphens (f := f) (Nat.le_refl _) (Nat.le_refl _) b
  have hskip := h.skip f
  unfold Pattern.openBracket
  generalize f.skip cs = ds at hskip
  generalize f.skip cs' = ds' at hskip
  cases hskip with
  | nil | paren => exact .none
  | @cons c ds ds' h =>
    by_cases hc : c = '^'
    case' pos =>
      subst hc
      specialize hhyphens (h.skip f) { negated := true }
      simp only
      generalize Pattern.addLeadingHyphens f _ _ (f.skip ds) = x at hhyphens ⊢
      generalize Pattern.addLeadingHyphens f _ _ (f.skip ds') = x' at hhyphens ⊢
    case' neg =>
      specialize hhyphens (h.cons c) { negated := false }
      simp only [List.cons.injEq, hc, false_and, imp_self, implies_true]
      generalize Pattern.addLeadingHyphens f _ _ (c :: ds) = x at hhyphens ⊢
      generalize Pattern.addLeadingHyphens f _ _ (c :: ds') = x' at hhyphens ⊢
    all_goals
      obtain ⟨b, es⟩ := x
      obtain ⟨_, es'⟩ := x'
      obtain ⟨rfl, hes⟩ := hhyphens
      dsimp only at hes ⊢
      cases hes with
      | nil | paren => exact .none
      | @cons d es es' hes =>
        by_cases hd : d = ']'
        · subst hd
          refine .guard ?_ (.some ⟨rfl, hes.cons _⟩)
          have hskip := hes.skip f
          generalize f.skip es = gs at hskip
          generalize f.skip es' = gs' at hskip
          cases hskip with
          | nil | paren => exact .none
          | cons g hgs => exact .some ⟨rfl, hgs.cons g⟩
        · simp only [List.cons.injEq, hd, false_and, imp_self, implies_true]
          exact .some ⟨rfl, hes.cons d⟩

theorem Closes.takeWhile (h : Closes cs cs') {p : Char → Bool} (hne : cs.dropWhile p ≠ []) :
    cs'.takeWhile p = cs.takeWhile p := by
  induction h with
  | nil => rfl
  | paren => contradiction
  | cons c h ih =>
    rw [List.takeWhile_cons, List.takeWhile_cons]
    split
    · rename_i hc
      rw [ih (by simpa [hc] using hne)]
    · rfl

/-- Both texts have a result, and it is the same, or neither has one. -/
def Agrees {α : Type} (R : α → α → Prop) (x x' : Option α) : Prop :=
  (x = none ∧ x' = none) ∨ ∃ a a', x = some a ∧ x' = some a' ∧ R a a'

theorem Agrees.known {α β : Type} {R : α → α → Prop} {x : Option β} {f f' : β → Option α}
    (hf : ∀ b, Agrees R (f b) (f' b)) : Agrees R (x.bind f) (x.bind f') := by
  cases x with
  | none => exact .inl ⟨rfl, rfl⟩
  | some b => exact hf b

theorem Closes.readPosix (h : Closes cs cs') :
    Agrees (Keeping Closes) (readPosix f cs) (readPosix f cs') := by
  unfold Pattern.readPosix
  cases h with
  | nil | paren => exact .inl ⟨rfl, rfl⟩
  | cons c h =>
    by_cases hc : c = ':'
    · subst hc
      cases h with
      | nil | paren => exact .inl ⟨rfl, rfl⟩
      | @cons d ds ds' h =>
        by_cases hd : d = '^'
        case' pos =>
          subst hd
          simp only
          generalize ds = es at h ⊢
          generalize ds' = es' at h ⊢
        case' neg =>
          simp only [List.cons.injEq, hd, false_and, imp_self, implies_true]
          replace h := h.cons d
          generalize d :: ds = es at h ⊢
          generalize d :: ds' = es' at h ⊢
        all_goals
          have hname := h.takeWhile (p := (· ≠ ':'))
          have hdrop := h.dropWhile (· ≠ ':')
          generalize es.dropWhile (· ≠ ':') = gs at hname hdrop ⊢
          generalize es'.dropWhile (· ≠ ':') = gs' at hdrop ⊢
          cases hdrop with
          | nil | paren => exact .inl ⟨rfl, rfl⟩
          | cons g hgs =>
            rw [hname (List.cons_ne_nil _ _)]
            by_cases hg : g = ':'
            · subst hg
              cases hgs with
              | nil | paren => exact .inl ⟨rfl, rfl⟩
              | cons k hks =>
                by_cases hk : k = ']'
                · subst hk
                  exact .known fun s => .inr ⟨_, _, rfl, rfl, rfl, hks⟩
                · simp only [List.cons.injEq, hk, false_and, and_false, imp_self, implies_true]
                  exact .inl ⟨rfl, rfl⟩
            · simp only [List.cons.injEq, hg, false_and, imp_self, implies_true]
              exact .inl ⟨rfl, rfl⟩
    · simp only [List.cons.injEq, hc, false_and, imp_self, implies_true]
      exact .inl ⟨rfl, rfl⟩

theorem Closes.readClassItem (h : Closes cs cs') :
    Carries (Keeping Closes) (readClassItem f cs) (readClassItem f cs') := by
  cases h with
  | nil | paren => exact .none
  | cons c h =>
    by_cases hc : c = '\\'
    · subst hc
      exact h.readEscape
    · simp only [Pattern.readClassItem]
      exact .some ⟨rfl, h⟩

theorem Closes.readRange (h : Closes cs cs') :
    Carries (Keeping Closes) (readRange f cs) (readRange f cs') := by
  unfold Pattern.readRange
  refine .keep h.readClassItem fun first rest rest' hrest => ?_
  have hskip := hrest.skip f
  dsimp only
  generalize f.skip rest = ds at hskip
  generalize f.skip rest' = ds' at hskip
  cases hskip with
  | nil | paren => exact .none
  | @cons c ds ds' h =>
    by_cases hc : c = '-'
    · subst hc
      have hskip' := h.skip f
      simp only
      generalize f.skip ds = es at hskip'
      generalize f.skip ds' = es' at hskip'
      cases hskip' with
      | nil | paren => exact .none
      | cons d hes =>
        by_cases hd : d = ']' ∨ d = '-'
        · rcases hd with rfl | rfl <;> exact .known fun _ => .some ⟨rfl, h.cons _⟩
        · rw [not_or] at hd
          simp only [List.cons.injEq, hd.1, hd.2, false_and, imp_self, implies_true]
          refine .bind (hes.cons d).readClassItem ?_
          rintro ⟨second, rest⟩ ⟨_, rest'⟩ ⟨rfl, hrest⟩
          exact .known fun _ => .known fun _ => .guard (.some ⟨rfl, hrest⟩) .none
    · simp only [List.cons.injEq, hc, false_and, imp_self, implies_true]
      exact .known fun _ => .some ⟨rfl, h.cons c⟩

theorem Closes.readClass {fuel fuel' : Nat} (h : Closes cs cs') (hfuel : fuel ≤ fuel') (b : Bracket)
    (outer : List Bracket) :
    Carries (Keeping (Keeping Closes)) (readClass f fuel b outer cs) (readClass f fuel' b outer cs') := by
  induction fuel generalizing fuel' cs cs' b outer with
  | zero => exact .none
  | succ fuel ih =>
    obtain ⟨fuel', rfl⟩ : ∃ n, fuel' = n + 1 := ⟨fuel' - 1, by omega⟩
    have hskip := h.skip f
    have hle : fuel ≤ fuel' := by omega
    simp only [Pattern.readClass]
    generalize f.skip cs = ds at hskip
    generalize f.skip cs' = ds' at hskip
    cases hskip with
    | nil | paren => exact .none
    | @cons c ds ds' h =>
      by_cases hleft : c = '['
      · subst hleft
        rcases h.readPosix (f := f) with ⟨hnone, hnone'⟩ | ⟨⟨s, rest⟩, ⟨_, rest'⟩, hsome, hsome', rfl, hrest⟩
        · simp only [hnone, hnone']
          refine .keep h.openBracket fun inner rest rest' hrest => ?_
          exact ih hrest hle _ _
        · simp only [hsome, hsome']
          exact .known fun _ => ih hrest hle _ _
      by_cases hright : c = ']'
      · subst hright
        refine .known fun _ => ?_
        cases outer with
        | nil => exact .some ⟨rfl, rfl, h⟩
        | cons b outer => exact ih h hle _ _
      by_cases hop : ∃ es, ds = c :: es ∧ c ∈ ['&', '-', '~']
      · obtain ⟨es, rfl, hop⟩ := hop
        cases h with
        | cons _ h =>
          simp only [List.mem_cons, List.not_mem_nil, or_false] at hop
          rcases hop with rfl | rfl | rfl
          · exact ih h hle _ _
          · exact ih h hle _ _
          · exact ih h hle _ _
      · have hop' : ¬∃ es, ds' = c :: es ∧ c ∈ ['&', '-', '~'] := by
          rintro ⟨es', rfl, hc⟩
          obtain ⟨es, rfl, -⟩ := h.of_cons (by rintro rfl; simp at hc)
          exact hop ⟨es, rfl, hc⟩
        have hother (op : Char) (hmem : op ∈ ['&', '-', '~']) (es : List Char) :
            ¬(c = op ∧ ds = op :: es) := by
          rintro ⟨rfl, rfl⟩
          exact hop ⟨es, rfl, hmem⟩
        have hother' (op : Char) (hmem : op ∈ ['&', '-', '~']) (es : List Char) :
            ¬(c = op ∧ ds' = op :: es) := by
          rintro ⟨rfl, rfl⟩
          exact hop' ⟨es, rfl, hmem⟩
        simp only [List.cons.injEq, hleft, hright, false_and, imp_self, implies_true,
          hother '&' (by simp), hother '-' (by simp), hother '~' (by simp),
          hother' '&' (by simp), hother' '-' (by simp), hother' '~' (by simp)]
        refine .bind (h.cons c).readRange ?_
        rintro ⟨s, rest⟩ ⟨_, rest'⟩ ⟨rfl, hrest⟩
        exact ih hrest hle _ _

/-! ### Repetitions -/

theorem Closes.dropLazyMark (h : Closes cs cs') : Closes (dropLazyMark cs) (dropLazyMark cs') := by
  cases h with
  | nil => exact .nil
  | paren => exact .paren
  | cons c h =>
    by_cases hc : c = '?'
    · subst hc
      exact h
    · simp only [Pattern.dropLazyMark, List.cons.injEq, hc, false_and, imp_self, implies_true]
      exact h.cons c

theorem digits_of_head? (h : ∀ c ∈ cs.head?, ¬c.isDigit) (fuel : Nat) :
    readCount.digits f fuel cs = ([], cs) := by
  cases fuel with
  | zero => rfl
  | succ fuel =>
    cases cs with
    | nil => rfl
    | cons c cs => simp [readCount.digits, h c rfl]

theorem Closes.digits {fuel fuel' : Nat} (h : Closes cs cs') (hfuel : cs.length ≤ fuel)
    (hfuel' : cs'.length ≤ fuel') :
    Keeping Closes (readCount.digits f fuel cs) (readCount.digits f fuel' cs') := by
  induction fuel generalizing fuel' cs cs' with
  | zero =>
    obtain rfl : cs = [] := List.length_eq_zero_iff.1 (Nat.le_zero.1 hfuel)
    have hhead : ∀ c ∈ cs'.head?, ¬c.isDigit := by cases h <;> simp
    rw [digits_of_head? hhead]
    exact ⟨rfl, h⟩
  | succ fuel ih =>
    cases h with
    | nil =>
      rw [digits_of_head? (by simp), digits_of_head? (by simp)]
      exact ⟨rfl, .nil⟩
    | paren =>
      rw [digits_of_head? (by simp), digits_of_head? (by simp)]
      exact ⟨rfl, .paren⟩
    | cons c h =>
      by_cases hc : c.isDigit
      · obtain ⟨fuel', rfl⟩ : ∃ n, fuel' = n + 1 := ⟨fuel' - 1, by simp at hfuel'; omega⟩
        obtain ⟨hds, hrest⟩ := ih (h.skip f)
          (Nat.le_trans (length_skip_le f _) (Nat.le_of_succ_le_succ hfuel))
          (Nat.le_trans (length_skip_le f _) (Nat.le_of_succ_le_succ hfuel'))
        simp only [readCount.digits, hc, if_true]
        exact ⟨congrArg (c :: ·) hds, hrest⟩
      · rw [digits_of_head? (by simpa using hc), digits_of_head? (by simpa using hc)]
        exact ⟨rfl, h.cons c⟩

theorem Closes.readCount (h : Closes cs cs') :
    Carries (Keeping Closes) (readCount f cs) (readCount f cs') := by
  have hdigits := (h.dropWhile Unicode.isWhiteSpace).digits (f := f) (List.length_dropWhile_le _ cs)
    (List.length_dropWhile_le _ cs')
  unfold Pattern.readCount
  generalize readCount.digits f cs.length _ = x at hdigits ⊢
  generalize readCount.digits f cs'.length _ = x' at hdigits ⊢
  obtain ⟨ds, rest⟩ := x
  obtain ⟨_, rest'⟩ := x'
  obtain ⟨rfl, hrest⟩ := hdigits
  exact .guard .none (.some ⟨rfl, (hrest.dropWhile _).skip f⟩)

theorem Closes.readMost (h : Closes cs cs') (least : Nat) :
    Carries (Keeping Closes) (readMost f least cs) (readMost f least cs') := by
  have hcount {ds ds' : List Char} (h : Closes ds ds') : Carries (Keeping Closes)
      ((Pattern.readCount f ds).map fun out => (some out.1, out.2))
      ((Pattern.readCount f ds').map fun out => (some out.1, out.2)) :=
    h.readCount.map fun _ _ hn => ⟨congrArg some hn.1, hn.2⟩
  cases h with
  | nil => exact .some ⟨rfl, .nil⟩
  | paren => exact .some ⟨rfl, .paren⟩
  | @cons c ds ds' h =>
    by_cases hc : c = ','
    · subst hc
      have hskip := h.skip f
      simp only [Pattern.readMost]
      generalize f.skip ds = es at hskip
      generalize f.skip ds' = es' at hskip
      cases hskip with
      | nil => exact hcount .nil
      | paren => exact hcount .paren
      | cons d hes =>
        by_cases hd : d = '\x7d'
        · subst hd
          exact .some ⟨rfl, hes.cons _⟩
        · simp only [List.cons.injEq, hd, false_and, imp_self, implies_true]
          exact hcount (hes.cons d)
    · simp only [Pattern.readMost, List.cons.injEq, hc, false_and, imp_self, implies_true]
      exact .some ⟨rfl, h.cons c⟩

theorem Closes.readRepetition (h : Closes cs cs') :
    Carries (Keeping (Keeping Closes)) (readRepetition f cs) (readRepetition f cs') := by
  unfold Pattern.readRepetition
  refine .bind (h.skip f).readCount ?_
  rintro ⟨least, rest⟩ ⟨_, rest'⟩ ⟨rfl, hrest⟩
  refine .keep (hrest.readMost _) fun most rest rest' hrest => ?_
  dsimp only at hrest ⊢
  cases hrest with
  | nil | paren => exact .none
  | cons c h =>
    by_cases hc : c = '\x7d'
    · subst hc
      exact .guard .none (.some ⟨rfl, rfl, (h.skip f).dropLazyMark⟩)
    · simp only [List.cons.injEq, hc, false_and, imp_self, implies_true]
      exact .none

/-! ### Groups -/

theorem Closes.readFlags (h : Closes cs cs') (seen : List Char) :
    Carries (Keeping (Keeping (Keeping Closes))) (readFlags f seen cs) (readFlags f seen cs') := by
  induction h generalizing f seen with
  | nil | paren => exact .none
  | cons c h ih =>
    unfold Pattern.readFlags
    refine .guard (.guard .none (.some ⟨rfl, rfl, rfl, h⟩)) (.guard .none (.guard (ih _) ?_))
    exact .known fun _ => ih _

theorem drop_length_takeWhile (p : Char → Bool) (cs : List Char) :
    cs.drop (cs.takeWhile p).length = cs.dropWhile p := by
  induction cs with
  | nil => rfl
  | cons c cs ih =>
    by_cases hc : p c
    · simp [hc, ih]
    · simp [hc]

theorem Closes.readGroupName (h : Closes cs cs') :
    Carries (Keeping Closes) (readGroupName cs) (readGroupName cs') := by
  have hname := h.takeWhile (p := (· ≠ '>'))
  have hdrop := h.dropWhile (· ≠ '>')
  unfold Pattern.readGroupName
  simp only [drop_length_takeWhile]
  generalize cs.dropWhile (· ≠ '>') = ds at hname hdrop ⊢
  generalize cs'.dropWhile (· ≠ '>') = ds' at hdrop ⊢
  cases hdrop with
  | nil | paren => cases cs.takeWhile (· ≠ '>') <;> exact .none
  | cons d h =>
    rw [hname (List.cons_ne_nil _ _)]
    cases cs.takeWhile (· ≠ '>') with
    | nil => exact .none
    | cons n name =>
      by_cases hd : d = '>'
      · subst hd
        exact .guard (.some ⟨rfl, h⟩) .none
      · simp only [List.cons.injEq, hd, false_and, imp_self, implies_true]
        exact .none

/-! ### The whole pattern -/

/-- The same inside of further groups. -/
def Reading.within (r : Reading) (around : List Flags) : Reading :=
  { r with outer := r.outer ++ around }

/-- The texts are read on alike, the second inside of further groups. -/
def Alike (around : List Flags) (a a' : Token × Reading × List Char) : Prop :=
  a'.1 = a.1 ∧ a'.2.1 = a.2.1.within around ∧ Closes a.2.2 a'.2.2

variable {r : Reading}

theorem Closes.enterNamed (h : Closes cs cs') (around : List Flags) :
    Carries (Alike around) (r.enterNamed cs) ((r.within around).enterNamed cs') := by
  unfold Reading.enterNamed
  refine .keep h.readGroupName fun name rest rest' hrest => ?_
  exact .guard .none (.some ⟨rfl, rfl, hrest⟩)

theorem Closes.readOpen (h : Closes cs cs') (around : List Flags) :
    Carries (Alike around) (r.readOpen cs) ((r.within around).readOpen cs') := by
  have hskip := h.skip r.flags
  have hskip' : (r.within around).flags.skip cs' = r.flags.skip cs' := rfl
  unfold Reading.readOpen
  rw [hskip']
  generalize r.flags.skip cs = ds at hskip
  generalize r.flags.skip cs' = ds' at hskip
  cases hskip with
  | nil => exact .some ⟨rfl, rfl, .nil⟩
  | paren => exact .some ⟨rfl, rfl, .paren⟩
  | @cons c ds ds' h =>
    by_cases hc : c = '?'
    · subst hc
      by_cases hnamed : ∃ es, ds = 'P' :: '<' :: es
      · obtain ⟨es, rfl⟩ := hnamed
        cases h with
        | cons _ h =>
          cases h with
          | cons _ h => exact h.enterNamed around
      by_cases hangle : ∃ es, ds = '<' :: es
      · obtain ⟨es, rfl⟩ := hangle
        cases h with
        | cons _ h =>
          cases h with
          | nil => exact Closes.nil.enterNamed around
          | paren => exact Closes.paren.enterNamed around
          | cons d h =>
            by_cases hd : d = '=' ∨ d = '!'
            · rcases hd with rfl | rfl <;> exact .none
            · rw [not_or] at hd
              simp only [List.cons.injEq, hd.1, hd.2, false_and, imp_self, implies_true]
              exact (h.cons d).enterNamed around
      · have hnamed' : ¬∃ es, ds' = 'P' :: '<' :: es := by
          rintro ⟨es', rfl⟩
          obtain ⟨ds, rfl, hds⟩ := h.of_cons (by decide)
          obtain ⟨es, rfl, -⟩ := hds.of_cons (by decide)
          exact hnamed ⟨es, rfl⟩
        have hangle' : ¬∃ es, ds' = '<' :: es := by
          rintro ⟨es', rfl⟩
          obtain ⟨es, rfl, -⟩ := h.of_cons (by decide)
          exact hangle ⟨es, rfl⟩
        rw [not_exists] at hnamed hangle hnamed' hangle'
        simp only
        refine .bind (h.readFlags (f := r.flags) []) ?_
        rintro ⟨flags, seen, stop, rest⟩ ⟨_, _, _, rest'⟩ ⟨rfl, rfl, rfl, hrest⟩
        exact .guard (.some ⟨rfl, rfl, hrest⟩) (.guard .none (.some ⟨rfl, rfl, hrest⟩))
    · simp only [List.cons.injEq, hc, false_and, imp_self, implies_true]
      exact .some ⟨rfl, rfl, h.cons c⟩

/-- One token is read alike. -/
theorem Closes.next (h : Closes cs cs') (c : Char) (around : List Flags) :
    Carries (Alike around) (r.next c cs) ((r.within around).next c cs') := by
  unfold Reading.next
  split
  · exact h.readOpen around
  · cases hr : r.outer with
    | nil => exact .none
    | cons flags outer =>
      simp only [Reading.within, hr, List.cons_append]
      exact .some ⟨rfl, rfl, h⟩
  · exact .some ⟨rfl, rfl, h⟩
  · refine .keep h.openBracket fun b rest rest' hrest => ?_
    refine .bind (hrest.readClass (Nat.succ_le_succ hrest.length_le) _ _) ?_
    rintro ⟨s, depth, rest⟩ ⟨_, _, rest'⟩ ⟨rfl, rfl, hrest⟩
    exact .some ⟨rfl, rfl, hrest⟩
  · exact .some ⟨rfl, rfl, h.dropLazyMark⟩
  · exact .some ⟨rfl, rfl, h.dropLazyMark⟩
  · exact .some ⟨rfl, rfl, h.dropLazyMark⟩
  · refine .bind h.readRepetition ?_
    rintro ⟨least, most, rest⟩ ⟨_, _, rest'⟩ ⟨rfl, rfl, hrest⟩
    exact .some ⟨rfl, rfl, hrest⟩
  · refine .keep h.readEscape fun p rest rest' hrest => ?_
    exact .known fun _ => .some ⟨rfl, rfl, hrest⟩
  · exact .known fun _ => .some ⟨rfl, rfl, h⟩

theorem skip_nil (f : Flags) : f.skip [] = [] := by
  unfold Flags.skip
  split <;> rfl

/-- With a group around it and a parenthesis behind it, a text has the same tokens and one more. -/
theorem Closes.tokens {fuel fuel' : Nat} {ts ts' : List Token} {flags : Flags} (h : Closes cs cs')
    (hread : r.tokens fuel cs = some ts) (hread' : (r.within [flags]).tokens fuel' cs' = some ts') :
    ts' = ts ++ [.closeGroup] := by
  induction fuel generalizing fuel' r cs cs' ts ts' with
  | zero => contradiction
  | succ fuel ih =>
    cases fuel' with
    | zero => contradiction
    | succ fuel' =>
      have hskip := h.skip r.flags
      have hskip' : (r.within [flags]).flags.skip cs' = r.flags.skip cs' := rfl
      rw [Reading.tokens] at hread hread'
      rw [hskip'] at hread'
      generalize r.flags.skip cs = ds at hread hskip
      generalize r.flags.skip cs' = ds' at hread' hskip
      cases hskip with
      | nil => simp [Reading.within] at hread'
      | paren =>
        obtain ⟨houter, rfl⟩ : r.outer = [] ∧ [] = ts := by simpa using hread
        have hnext : (r.within [flags]).next ')' [] =
            some (.closeGroup, { r with flags, outer := [] }, []) := by
          simp [Reading.next, Reading.within, houter]
        simp only [hnext, Option.bind_eq_bind, Option.bind_some, Option.bind_eq_some_iff, Option.pure_def,
          Option.some.injEq] at hread'
        obtain ⟨more, hmore, rfl⟩ := hread'
        cases fuel' with
        | zero => contradiction
        | succ fuel' =>
          obtain rfl : [] = more := by simpa [Reading.tokens, skip_nil] using hmore
          rfl
      | cons c h =>
        simp only [Option.bind_eq_bind, Option.bind_eq_some_iff, Option.pure_def, Option.some.injEq] at hread hread'
        obtain ⟨⟨t, r₁, rest⟩, hnext, more, hmore, rfl⟩ := hread
        obtain ⟨⟨t', r₁', rest'⟩, hnext', more', hmore', rfl⟩ := hread'
        obtain ⟨x, hx, hxt, hxr, hrest⟩ := h.next c [flags] _ hnext
        cases hnext'.symm.trans hx
        obtain rfl : t' = t := hxt
        obtain rfl : r₁' = r₁.within [flags] := hxr
        rw [ih hrest hmore hmore', List.cons_append]

end LayerCheck.Pattern
