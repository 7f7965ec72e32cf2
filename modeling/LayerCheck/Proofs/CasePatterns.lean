import LayerCheck.Proofs.Expressions

/-!
What is found where the patterns of `case` clauses are read: the captures, and beside them the names
that are read although some of them look like captures.
-/

namespace LayerCheck.Syntax

/-- The marks of patterns in which a single name captures. -/
abbrev captureMarks (es : List Expr) : List Mark :=
  es.flatMap (·.marks (.bound .capture))

@[simp] theorem Expr.marks_ofDotted (n : Name) (rest : List Name) :
    (Expr.ofDotted n rest).marks .value =
      .name .value true n :: rest.map (.name .patternMember true) := by
  cases rest <;> simp [Expr.ofDotted, List.flatMap_map, ← List.map_eq_flatMap]

theorem reads_dottedRest (fuel : Nat) (mode : Mode) (slot : Slot) :
    Reads (dottedRest fuel mode) fun names => names.map (.name slot slot.isRead) := by
  induction fuel with
  | zero => exact .unexpected .brackets
  | succ fuel ih =>
    rw [dottedRest]
    refine .pass (passes_skipIf mode _) fun dot => ?_
    split
    · refine .read (reads_name mode slot) fun n => ?_
      refine .read ih fun names => ?_
      exact .pure (by simp)
    · exact .pure rfl

theorem passes_numberPattern (mode : Mode) : Passes (numberPattern mode) := by
  rw [numberPattern]
  refine (passes_skipSymbol? "-").bind fun _ => ?_
  refine keeps_peek.passes.bind fun t => ?_
  refine .guard mode (passes_skip.bind fun _ => ?_)
  refine keeps_peek.passes.bind fun sign => ?_
  split
  · refine passes_skip.bind fun _ => ?_
    refine keeps_peek.passes.bind fun second => ?_
    exact .guard mode passes_skip
  · exact .pure ()

/-- What the readers of patterns find with some fuel. -/
structure ReadsPatterns (fuel : Nat) : Prop where
  casePattern : ∀ mode, Reads (casePattern fuel mode) (·.marks (.bound .capture))
  aliases : ∀ mode e,
    Extends (e.marks (.bound .capture)) (aliases fuel mode e) (·.marks (.bound .capture))
  alternatives : ∀ mode, Reads (alternatives fuel mode) (·.marks .value)
  simplePattern : ∀ mode, Reads (simplePattern fuel mode) (·.marks .value)
  patterns : ∀ closing, Reads (patterns fuel closing) captureMarks
  entryPatterns : Reads (entryPatterns fuel) valueMarks

section Step

variable {fuel : Nat} (ih : ReadsPatterns fuel)
include ih

theorem reads_casePattern (mode : Mode) :
    Reads (casePattern (fuel + 1) mode) (·.marks (.bound .capture)) := by
  rw [casePattern]
  refine .pass keeps_peek.passes fun t => ?_
  refine .pass keeps_peekSecond.passes fun second => ?_
  simp only [pure_bind]
  split
  · refine .read (reads_name mode (.bound .capture)) fun n => ?_
    refine .pass passes_skip fun _ => ?_
    refine .read (ih.alternatives mode) fun value => ?_
    refine (ih.aliases mode _).exchange ?_
    simpa using value.yields_toCapture
  · refine .read (ih.alternatives mode) fun value => ?_
    exact (ih.aliases mode _).exchange value.yields_toCapture

theorem extends_aliases (mode : Mode) (e : Expr) :
    Extends (e.marks (.bound .capture)) (aliases (fuel + 1) mode e) (·.marks (.bound .capture)) := by
  rw [aliases]
  refine .pass (passes_skipWord? "as") fun aliased => ?_
  split
  · refine .read (reads_name mode .patternAlias) fun n => ?_
    exact (ih.aliases mode _).cast (by simp)
  · exact .pure rfl

theorem reads_alternatives (mode : Mode) :
    Reads (alternatives (fuel + 1) mode) (·.marks .value) := by
  rw [alternatives]
  refine .read (ih.simplePattern mode) fun first => ?_
  refine .pass (passes_skipSymbol? "|") fun bar => ?_
  split
  · refine .read (ih.alternatives mode) fun rest => ?_
    refine (Extends.pure rfl).exchange ?_
    simpa using List.rel_append (first.yields_marks rfl rfl) (rest.yields_marks rfl rfl)
  · exact .pure rfl

theorem reads_simplePattern (mode : Mode) :
    Reads (simplePattern (fuel + 1) mode) (·.marks .value) := by
  have hconstant : Reads (pure Expr.constant) (·.marks .value) := .pure (by simp [Expr.constant])
  have hpatterns (closing : String) :
      Reads (do return .group .patterns (← patterns fuel closing)) (Expr.marks · .value) :=
    .read (ih.patterns closing) fun ps => .pure (by simp)
  rw [simplePattern]
  refine .pass keeps_peek.passes fun t => ?_
  split
  · refine .read ((readsExpressions fuel).strings _) fun parts => ?_
    exact .pure (by simp)
  · exact .pass (passes_numberPattern mode) fun _ => hconstant
  · split
    · exact .pass passes_skip fun _ => hconstant
    · exact .pass passes_skip fun _ => hconstant
    · exact .pass passes_skip fun _ => hconstant
    · exact .pass passes_skip fun _ => hconstant
    · refine .read (reads_name mode .value) fun n => ?_
      refine .read (reads_dottedRest fuel mode .patternMember) fun rest => ?_
      refine .pass (passes_skipSymbol? "(") fun opened => ?_
      split
      · refine .read (ih.patterns ")") fun ps => ?_
        exact .pure (by simp)
      · exact .pure (by simp)
  · split
    · exact .pass (passes_numberPattern mode) fun _ => hconstant
    · refine .pass passes_skip fun _ => ?_
      refine .read (reads_name mode (.bound .capture)) fun n => ?_
      exact .pure (by simp)
    · refine .pass passes_skip fun _ => ?_
      refine .read (reads_name mode (.bound .capture)) fun n => ?_
      exact .pure (by simp)
    · exact .pass passes_skip fun _ => hpatterns ")"
    · exact .pass passes_skip fun _ => hpatterns "]"
    · refine .pass passes_skip fun _ => ?_
      refine .read ih.entryPatterns fun entries => ?_
      exact .pure (by simp)
    · exact .unexpected mode
  · exact .unexpected mode
  · exact .unexpected mode

theorem reads_patterns (closing : String) : Reads (patterns (fuel + 1) closing) captureMarks := by
  rw [patterns]
  refine .pass (passes_skipSymbol? closing) fun closed => ?_
  split
  · exact .pure rfl
  refine .read (ih.casePattern .brackets) fun first => ?_
  refine .pass (passes_skipSymbol? ",") fun comma => ?_
  split
  · refine .read (ih.patterns closing) fun rest => ?_
    exact .pure (by simp)
  · refine .pass (passes_symbol .brackets closing) fun _ => ?_
    exact .pure (by simp)

theorem reads_entryPatterns : Reads (entryPatterns (fuel + 1)) valueMarks := by
  have hmore (entry : List Expr) : Extends (valueMarks entry) (do
      if ← Reader.skipSymbol? "," then return entry ++ (← entryPatterns fuel)
      Reader.symbol .brackets "\x7d"
      return entry) valueMarks := by
    refine .pass (passes_skipSymbol? ",") fun comma => ?_
    split
    · refine .read ih.entryPatterns fun rest => ?_
      exact .pure (by simp)
    · exact .pass (passes_symbol .brackets _) fun _ => .pure rfl
  rw [entryPatterns]
  refine .pass (passes_skipSymbol? _) fun closed => ?_
  split
  · exact .pure rfl
  refine .pass keeps_peek.passes fun t => ?_
  refine .read (ih.alternatives .brackets) fun key => ?_
  simp only [pure_bind]
  split
  · exact (hmore [key]).cast (by simp)
  · refine .pass (passes_symbol .brackets ":") fun _ => ?_
    refine .read (ih.casePattern .brackets) fun value => ?_
    exact (hmore [key, .group .patterns [value]]).cast (by simp)

end Step

theorem readsPatterns (fuel : Nat) : ReadsPatterns fuel := by
  induction fuel with
  | zero => constructor <;> intros <;> exact .unexpected .brackets
  | succ fuel ih =>
    exact {
      casePattern := reads_casePattern ih
      aliases := extends_aliases ih
      alternatives := reads_alternatives ih
      simplePattern := reads_simplePattern ih
      patterns := reads_patterns ih
      entryPatterns := reads_entryPatterns ih }

theorem reads_clausePatterns (fuel : Nat) : Reads (clausePatterns fuel) captureMarks := by
  induction fuel with
  | zero => exact .unexpected .brackets
  | succ fuel ih =>
    rw [clausePatterns]
    refine .read ((readsPatterns fuel).casePattern .head) fun first => ?_
    refine .pass (passes_skipSymbol? ",") fun comma => ?_
    split
    · refine .pass (keeps_nextIsSymbol ":").passes fun _ => ?_
      refine .pass (keeps_nextIsWord "if").passes fun _ => ?_
      split
      · exact .pure (by simp)
      · refine .read ih fun rest => ?_
        exact .pure (by simp)
    · exact .pure (by simp)

end LayerCheck.Syntax
