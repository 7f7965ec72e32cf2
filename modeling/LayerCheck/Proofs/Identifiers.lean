import LayerCheck.Syntax.Identifier

/-!
What identifiers hold and what they do not.
-/

namespace LayerCheck.Syntax

theorem ne_empty_of_isIdentifier {s : String} (h : isIdentifier s) : s ≠ "" := by
  rintro rfl
  contradiction

theorem not_mem_of_isIdentifier {s : String} (h : isIdentifier s) {c : Char}
    (hstart : isIdentifierStart c = false) (hcontinue : isIdentifierContinue c = false) :
    c ∉ s.toList := by
  intro hmem
  unfold isIdentifier at h
  split at h
  · contradiction
  · rename_i first rest hchars
    obtain ⟨hfirst, hrest⟩ : isIdentifierStart first ∧ ∀ d ∈ rest, isIdentifierContinue d := by
      simpa using h
    rw [hchars] at hmem
    rcases List.mem_cons.1 hmem with rfl | hmem
    · simp [hstart] at hfirst
    · simp [hrest c hmem] at hcontinue

theorem dot_not_mem_of_isIdentifier {s : String} (h : isIdentifier s) : '.' ∉ s.toList :=
  not_mem_of_isIdentifier h (by decide) (by decide)

/-- An identifier holds no white space; the four characters are those of `Char.isWhitespace`. -/
theorem isWhitespace_of_mem_isIdentifier {s : String} (h : isIdentifier s) {c : Char}
    (hc : c ∈ s.toList) : c.isWhitespace = false := by
  rw [Bool.eq_false_iff]
  intro hblank
  have hcases : c = ' ' ∨ c = '\t' ∨ c = '\r' ∨ c = '\n' := by
    simpa [Char.isWhitespace, or_assoc] using hblank
  rcases hcases with rfl | rfl | rfl | rfl <;>
    exact not_mem_of_isIdentifier h (by decide) (by decide) hc

end LayerCheck.Syntax
