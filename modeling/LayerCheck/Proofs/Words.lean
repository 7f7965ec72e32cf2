import LayerCheck.Syntax.Token
import Mathlib.Data.Prod.Lex
import Mathlib.Order.Basic

/-!
The words of a text come in the order of the text: scanning moves forward, and each word starts where
nothing before it reaches. Words in the replacement fields of strings are counted in.
-/

namespace LayerCheck.Syntax

/-! ### Places -/

namespace Position

/-- Places are ordered by their lines and then by their columns. -/
instance : LinearOrder Position :=
  LinearOrder.lift' (fun p => toLex (p.line, p.column)) fun p q h => by
    obtain ⟨hline, hcolumn⟩ := Prod.mk.inj (toLex_inj.1 h)
    cases p
    cases q
    simp_all

theorem lt_iff {p q : Position} :
    p < q ↔ p.line < q.line ∨ p.line = q.line ∧ p.column < q.column :=
  Prod.Lex.toLex_lt_toLex

theorem line_le_of_lt {p q : Position} (h : p < q) : p.line ≤ q.line := by
  rcases lt_iff.1 h with hline | ⟨hline, -⟩ <;> omega

theorem lt_advance (p : Position) (c : Char) : p < p.advance c := by
  have hsize := c.utf8Size_pos
  unfold advance
  split <;> simp [lt_iff]
  omega

theorem le_after (p : Position) (cs : List Char) : p ≤ p.after cs := by
  induction cs generalizing p with
  | nil => exact le_refl p
  | cons c cs ih => exact (lt_advance p c).le.trans (ih (p.advance c))

theorem lt_after_cons (p : Position) (c : Char) (cs : List Char) : p < p.after (c :: cs) :=
  (lt_advance p c).trans_le (le_after (p.advance c) cs)

end Position

/-! ### Words -/

/-- The token itself, if it is a word. -/
def Token.ownWord (t : Token) : List Token :=
  if t.kind = .name then [t] else []

mutual

/-- The words of a token: itself, or those of the replacement fields in it. -/
def Token.words : Token → List Token
  | .mk kind gap text position lineBefore indent fields =>
    Token.ownWord (.mk kind gap text position lineBefore indent fields) ++ wordsOfFields fields

def wordsOf : List Token → List Token
  | [] => []
  | t :: ts => t.words ++ wordsOf ts

def wordsOfFields : List (List Token) → List Token
  | [] => []
  | ts :: rest => wordsOf ts ++ wordsOfFields rest

end

theorem Token.words_eq (t : Token) : t.words = t.ownWord ++ wordsOfFields t.fields := by
  cases t
  rfl

theorem wordsOf_append (ts us : List Token) : wordsOf (ts ++ us) = wordsOf ts ++ wordsOf us := by
  induction ts with
  | nil => rfl
  | cons t ts ih => simp [wordsOf, ih]

theorem wordsOfFields_append (ts us : List (List Token)) :
    wordsOfFields (ts ++ us) = wordsOfFields ts ++ wordsOfFields us := by
  induction ts with
  | nil => rfl
  | cons t ts ih => simp [wordsOfFields, ih]

/-- The words stand one after the other between two places. -/
structure Spans (p : Position) (words : List Token) (q : Position) : Prop where
  le : p ≤ q
  inside : ∀ w ∈ words, p ≤ w.position ∧ w.position < q
  increasing : words.Pairwise (·.position < ·.position)

namespace Spans

variable {p q r : Position} {words more : List Token}

theorem nil (h : p ≤ q) : Spans p [] q :=
  ⟨h, by simp, .nil⟩

theorem append (h : Spans p words q) (h' : Spans q more r) : Spans p (words ++ more) r where
  le := h.le.trans h'.le
  inside w hw := by
    rcases List.mem_append.1 hw with hw | hw
    · exact ⟨(h.inside w hw).1, (h.inside w hw).2.trans_le h'.le⟩
    · exact ⟨h.le.trans (h'.inside w hw).1, (h'.inside w hw).2⟩
  increasing := by
    refine List.pairwise_append.2 ⟨h.increasing, h'.increasing, fun v hv w hw => ?_⟩
    exact (h.inside v hv).2.trans_le (h'.inside w hw).1

theorem from_earlier (h : Spans q words r) (hpq : p ≤ q) : Spans p words r :=
  (nil hpq).append h

end Spans

/-! ### Scanning -/

/-- What the scanners give with some fuel spans the text they move over. -/
structure ScansInOrder (fuel : Nat) : Prop where
  string : ∀ {style started p cs fields q rest},
    scanString style fuel started p cs = some (fields, q, rest) → Spans p (wordsOfFields fields) q
  field : ∀ {p cs fields q rest},
    scanField fuel p cs = some (fields, q, rest) → Spans p (wordsOfFields fields) q
  specifier : ∀ {p cs fields q rest},
    scanSpecifier fuel p cs = some (fields, q, rest) → Spans p (wordsOfFields fields) q
  fieldTokens : ∀ {depth lambdas p cs tokens q rest},
    scanFieldTokens fuel depth lambdas p cs = some (tokens, q, rest) → Spans p (wordsOf tokens) q
  token : ∀ {gap lineBefore indent p cs t q rest},
    scanToken fuel gap lineBefore indent p cs = (t, q, rest) → Spans p t.words q

/-- A word is alone in the text it stands for. -/
theorem spans_word (gap : String) (p : Position) (lineBefore : Nat) (indent : Option Nat) (c : Char)
    (cs : List Char) :
    Spans p (Token.words (.mk .name gap (String.ofList (c :: cs)) p lineBefore indent []))
      (p.after (c :: cs)) where
  le := p.le_after _
  inside w hw := by
    obtain rfl : w = _ := by simpa [Token.words, Token.ownWord, Token.kind, wordsOfFields] using hw
    exact ⟨le_refl p, p.lt_after_cons c cs⟩
  increasing := by simp [Token.words, Token.ownWord, Token.kind, wordsOfFields]

section Step

variable {fuel : Nat} (ih : ScansInOrder fuel) {p q : Position} {cs rest : List Char}
include ih

theorem spans_scanString {style : StringStyle} {started : Bool} {fields : List (List Token)}
    (h : scanString style (fuel + 1) started p cs = some (fields, q, rest)) :
    Spans p (wordsOfFields fields) q := by
  cases cs with
  | nil => simp [scanString] at h
  | cons c cs =>
    have hnext := (Position.lt_advance p c).le
    unfold scanString at h
    split at h
    · split at h
      all_goals exact (ih.string h).from_earlier (p.le_after _)
    split at h
    · split at h
      · split at h
        · split at h
          · cases h
            exact .nil (p.le_after _)
          · exact (ih.string h).from_earlier hnext
        · contradiction
      · cases h
        exact .nil hnext
    split at h
    · split at h
      · exact (ih.string h).from_earlier (p.le_after _)
      · split at h
        · contradiction
        · rename_i hfield
          split at h
          · contradiction
          · rename_i hmore
            cases h
            rw [wordsOfFields_append]
            exact ((ih.field hfield).append (ih.string hmore)).from_earlier hnext
    split at h
    · split at h
      · exact (ih.string h).from_earlier (p.le_after _)
      · contradiction
    split at h
    · contradiction
    · exact (ih.string h).from_earlier hnext

theorem spans_scanField {fields : List (List Token)}
    (h : scanField (fuel + 1) p cs = some (fields, q, rest)) :
    Spans p (wordsOfFields fields) q := by
  unfold scanField at h
  split at h
  · contradiction
  · rename_i tokens p₁ rest₁ htokens
    have hspan := ih.fieldTokens htokens
    split at h
    rename_i p₂ rest₂ hmark
    have hle : p₁ ≤ p₂ := by
      split at hmark
      · split at hmark
        · cases hmark
          exact p₁.le_after _
        · cases hmark
          exact le_refl p₁
      · cases hmark
        exact le_refl p₁
    have hend (gap : List Char) (c : Char) : p₁ ≤ (p₂.after gap).advance c :=
      hle.trans ((p₂.le_after gap).trans (Position.lt_advance _ c).le)
    dsimp only at h
    split at h
    · cases h
      rw [wordsOfFields, wordsOfFields]
      exact hspan.append (.nil (hend _ _))
    · split at h
      · contradiction
      · rename_i hspecifier
        cases h
        exact hspan.append ((ih.specifier hspecifier).from_earlier (hend _ _))
    · contradiction

theorem spans_scanSpecifier {fields : List (List Token)}
    (h : scanSpecifier (fuel + 1) p cs = some (fields, q, rest)) :
    Spans p (wordsOfFields fields) q := by
  cases cs with
  | nil => simp [scanSpecifier] at h
  | cons c cs =>
    have hnext := (Position.lt_advance p c).le
    unfold scanSpecifier at h
    split at h
    · cases h
      exact .nil hnext
    split at h
    · contradiction
    split at h
    · split at h
      · contradiction
      · rename_i hfield
        split at h
        · contradiction
        · rename_i hmore
          cases h
          rw [wordsOfFields_append]
          exact ((ih.field hfield).append (ih.specifier hmore)).from_earlier hnext
    · exact (ih.specifier h).from_earlier hnext

theorem spans_scanFieldTokens {depth lambdas : Nat} {tokens : List Token}
    (h : scanFieldTokens (fuel + 1) depth lambdas p cs = some (tokens, q, rest)) :
    Spans p (wordsOf tokens) q := by
  unfold scanFieldTokens at h
  dsimp only at h
  rcases ite_eq_iff.1 h with ⟨-, h⟩ | ⟨-, h⟩
  · cases h
    exact .nil (p.le_after _)
  · split at h
    · contradiction
    · rename_i hmore
      cases h
      rw [wordsOf]
      exact ((ih.token rfl).append (ih.fieldTokens hmore)).from_earlier (p.le_after _)

theorem spans_scanToken {gap : String} {lineBefore : Nat} {indent : Option Nat} {t : Token}
    (h : scanToken (fuel + 1) gap lineBefore indent p cs = (t, q, rest)) : Spans p t.words q := by
  unfold scanToken at h
  dsimp only at h
  split at h
  · split at h
    · rename_i hstring
      cases h
      exact (ih.string hstring).from_earlier (p.le_after _)
    · cases h
      exact .nil (p.le_after _)
  · split at h
    · cases h
      exact .nil (p.le_after _)
    · split at h
      · cases h
        exact spans_word ..
      · rcases ite_eq_iff.1 h with ⟨-, h⟩ | ⟨-, h⟩
        · cases h
          exact .nil (p.le_after _)
        · split at h
          all_goals
            cases h
            exact .nil (p.le_after _)

end Step

theorem scansInOrder (fuel : Nat) : ScansInOrder fuel := by
  induction fuel with
  | zero =>
    constructor
    case token =>
      intro gap lineBefore indent p cs t q rest h
      rw [scanToken] at h
      cases h
      exact .nil (p.le_after cs)
    all_goals simp [scanString, scanField, scanSpecifier, scanFieldTokens]
  | succ fuel ih =>
    exact ⟨spans_scanString ih, spans_scanField ih, spans_scanSpecifier ih, spans_scanFieldTokens ih,
      spans_scanToken ih⟩

theorem spans_scanAll (fuel depth : Nat) (p : Position) (cs : List Char) :
    ∃ q, Spans p (wordsOf (scanAll fuel depth p cs)) q := by
  induction fuel generalizing depth p cs with
  | zero => exact ⟨p, .nil (le_refl p)⟩
  | succ fuel ih =>
    rw [scanAll]
    dsimp only
    split
    · exact ⟨p, .nil (le_refl p)⟩
    · obtain ⟨q, hq⟩ := ih _ _ _
      exact ⟨q, (((scansInOrder (fuel + 1)).token rfl).append hq).from_earlier (p.le_after _)⟩

/-- The words of a text start one after the other. -/
theorem pairwise_words_scan (source : String) :
    (wordsOf (scan source)).Pairwise (·.position < ·.position) := by
  obtain ⟨q, hq⟩ := spans_scanAll (source.length + 1) 0 {} source.toList
  exact hq.increasing

end LayerCheck.Syntax
