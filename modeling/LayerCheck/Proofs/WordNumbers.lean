import LayerCheck.Proofs.BareTokens

/-!
The words of a text by their numbers. The numbers do not depend on the spacing of the text, and a word
that stands among its tokens has its place from its number. So bare tokens that carry the numbers of
words are the same for two texts that differ in their spacing, and they tell where they come from in
either of them.
-/

namespace LayerCheck.Syntax

/-- The number of a word among the words of a text. -/
def wordNumber (text : List Token) (t : Token) : Nat :=
  (wordsOf text).idxOf t

mutual

theorem Token.kind_of_mem_words : (t : Token) → ∀ w ∈ t.words, w.kind = .name
  | .mk kind gap text position lineBefore indent fields, w, hw => by
    rw [Token.words] at hw
    rcases List.mem_append.1 hw with hw | hw
    · unfold Token.ownWord at hw
      split at hw
      · rename_i hkind
        rw [List.mem_singleton.1 hw]
        exact hkind
      · contradiction
    · exact kind_of_mem_wordsOfFields fields w hw

theorem kind_of_mem_wordsOf : (tokens : List Token) → ∀ w ∈ wordsOf tokens, w.kind = .name
  | [], w, hw => absurd hw List.not_mem_nil
  | t :: tokens, w, hw => by
    rcases List.mem_append.1 hw with hw | hw
    · exact t.kind_of_mem_words w hw
    · exact kind_of_mem_wordsOf tokens w hw

theorem kind_of_mem_wordsOfFields :
    (fields : List (List Token)) → ∀ w ∈ wordsOfFields fields, w.kind = .name
  | [], w, hw => absurd hw List.not_mem_nil
  | tokens :: fields, w, hw => by
    rcases List.mem_append.1 hw with hw | hw
    · exact kind_of_mem_wordsOf tokens w hw
    · exact kind_of_mem_wordsOfFields fields w hw

end

mutual

theorem Token.length_words_bare : (t : Token) → t.bare.words.length = t.words.length
  | .mk kind gap text position lineBefore indent fields => by
    rw [Token.bare, Token.words, Token.words, List.length_append, List.length_append,
      length_wordsOfFields_bare fields]
    cases kind <;> rfl

theorem length_wordsOf_bare : (tokens : List Token) →
    (wordsOf (bareTokens tokens)).length = (wordsOf tokens).length
  | [] => rfl
  | t :: tokens => by
    rw [bareTokens, wordsOf, wordsOf, List.length_append, List.length_append, t.length_words_bare,
      length_wordsOf_bare tokens]

theorem length_wordsOfFields_bare : (fields : List (List Token)) →
    (wordsOfFields (bareFields fields)).length = (wordsOfFields fields).length
  | [] => rfl
  | tokens :: fields => by
    rw [bareFields, wordsOfFields, wordsOfFields, List.length_append, List.length_append,
      length_wordsOf_bare tokens, length_wordsOfFields_bare fields]

end

theorem length_wordsOf_eq {tokens tokens' : List Token}
    (h : tokens'.map Token.bare = tokens.map Token.bare) :
    (wordsOf tokens').length = (wordsOf tokens).length := by
  rw [← length_wordsOf_bare tokens', ← length_wordsOf_bare tokens, bareTokens_eq_map,
    bareTokens_eq_map, h]

theorem nodup_wordsOf_scan (source : String) : (wordsOf (scan source)).Nodup := by
  refine (pairwise_words_scan source).imp ?_
  rintro t _ hlt rfl
  exact lt_irrefl _ hlt

/-- A word of a text comes behind the words of what stands before it. -/
theorem wordNumber_of_append {before after : List Token} {t : Token} (hkind : t.kind = .name)
    (h : (wordsOf (before ++ t :: after)).Nodup) :
    wordNumber (before ++ t :: after) t = (wordsOf before).length := by
  have hwords : wordsOf (before ++ t :: after) =
      wordsOf before ++ t :: (wordsOfFields t.fields ++ wordsOf after) := by
    simp [wordsOf_append, wordsOf, Token.words_eq, Token.ownWord, hkind]
  rw [hwords] at h
  have hbefore : t ∉ wordsOf before := fun hmem =>
    (List.nodup_append.1 h).2.2 t hmem t List.mem_cons_self rfl
  rw [wordNumber, hwords, List.idxOf_append_of_notMem hbefore, List.idxOf_cons_self, Nat.add_zero]

theorem wordNumber_of_kind_ne {text : List Token} {t : Token} (hkind : t.kind ≠ .name) :
    wordNumber text t = (wordsOf text).length :=
  List.idxOf_eq_length fun hmem => hkind (kind_of_mem_wordsOf text t hmem)

/-! ### Texts with the same bare tokens -/

theorem Token.labelled_eq {label label' : Token → Nat} {t t' : Token} (h : t'.bare = t.bare)
    (hlabel : label' t' = label t) : t'.labelled label' = t.labelled label := by
  rw [t.bare_eq_labelled, t'.bare_eq_labelled] at h
  simp only [Token.labelled, Token.mk.injEq] at h ⊢
  simp [h, hlabel]

/-- In texts with the same bare tokens the words have the same numbers. -/
theorem map_labelled_wordNumber {before before' rest rest' : List Token}
    (hbefore : before'.map Token.bare = before.map Token.bare)
    (hrest : rest'.map Token.bare = rest.map Token.bare) (h : (wordsOf (before ++ rest)).Nodup)
    (h' : (wordsOf (before' ++ rest')).Nodup) :
    rest'.map (Token.labelled (wordNumber (before' ++ rest'))) =
      rest.map (Token.labelled (wordNumber (before ++ rest))) := by
  -- each step moves a token to what stands before
  induction rest generalizing before before' rest' with
  | nil => rw [List.map_eq_nil_iff.1 hrest, List.map_nil, List.map_nil]
  | cons t rest ih =>
    obtain ⟨t', rest', rfl, hbare, hmore⟩ := List.map_eq_cons_iff.1 hrest
    have hkind : t'.kind = t.kind := by
      rw [t.bare_eq_labelled, t'.bare_eq_labelled] at hbare
      simpa using congrArg Token.kind hbare
    have hnumber : wordNumber (before' ++ t' :: rest') t' = wordNumber (before ++ t :: rest) t := by
      by_cases hname : t.kind = .name
      · rw [wordNumber_of_append hname h, wordNumber_of_append (hkind.trans hname) h',
          length_wordsOf_eq hbefore]
      · rw [wordNumber_of_kind_ne hname, wordNumber_of_kind_ne (hkind ▸ hname)]
        apply length_wordsOf_eq
        rw [List.map_append, List.map_append, hbefore, hrest]
    have hlonger : (before' ++ [t']).map Token.bare = (before ++ [t]).map Token.bare := by
      simp [hbefore, hbare]
    have htail := ih hlonger hmore (by simpa using h) (by simpa using h')
    rw [List.map_cons, List.map_cons, Token.labelled_eq hbare hnumber]
    simpa using htail

/-- What reaches behind a word has more words than what stands before it. -/
theorem length_wordsOf_lt {before after before' after' : List Token} {t : Token}
    (hsame : (before' ++ after').map Token.bare = (before ++ t :: after).map Token.bare)
    (hkind : t.kind = .name) (hlt : before.length < before'.length) :
    (wordsOf before).length < (wordsOf before').length := by
  have htake : (before'.take (before.length + 1)).map Token.bare = (before ++ [t]).map Token.bare := by
    have hcut := congrArg (List.take (before.length + 1)) hsame
    rw [← List.map_take, ← List.map_take, List.take_append_of_le_length hlt,
      List.take_length_add_append] at hcut
    exact hcut
  have hwords : (wordsOf (before'.take (before.length + 1))).length =
      (wordsOf before).length + (wordsOf [t]).length := by
    rw [length_wordsOf_eq htake, wordsOf_append, List.length_append]
  have hone : 0 < (wordsOf [t]).length := by
    simp [wordsOf, Token.words_eq, Token.ownWord, hkind]
  calc (wordsOf before).length
      < (wordsOf (before'.take (before.length + 1))).length := by omega
    _ ≤ (wordsOf (before'.take (before.length + 1))).length +
        (wordsOf (before'.drop (before.length + 1))).length := Nat.le_add_right _ _
    _ = (wordsOf before').length := by
        rw [← List.length_append, ← wordsOf_append, List.take_append_drop]

/-- Words with the same number stand at the same place. -/
theorem length_eq_of_length_wordsOf {before after before' after' : List Token} {t t' : Token}
    (hsame : (before' ++ t' :: after').map Token.bare = (before ++ t :: after).map Token.bare)
    (hkind : t.kind = .name) (hkind' : t'.kind = .name)
    (hwords : (wordsOf before').length = (wordsOf before).length) : before'.length = before.length := by
  rcases Nat.lt_trichotomy before'.length before.length with hlt | heq | hlt
  · have hfewer := length_wordsOf_lt hsame.symm hkind' hlt
    omega
  · exact heq
  · have hmore := length_wordsOf_lt hsame hkind hlt
    omega

end LayerCheck.Syntax
