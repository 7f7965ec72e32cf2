import LayerCheck.Module.References
import LayerCheck.Proofs.BareStatements
import LayerCheck.Proofs.Identifiers
import LayerCheck.Proofs.ImportAgreement
import LayerCheck.Proofs.WordNumbers

/-!
Spacing and the references of a module. Texts that differ in the spacing between their tokens make the
same references in the same order, with the same probes. Only what is cut out of an imported name with
dots can differ: it has the blanks in it that stand at its place in the text.
-/

namespace LayerCheck

/-- The reference wherever it stands. -/
def Reference.unplaced (r : Reference) : Reference :=
  { r with line := 1 }

namespace Syntax

/-! ### Names with dots -/

theorem sourceText_dotted {first dot : Token} {rest : List Token}
    (h : IsDotted (first :: dot :: rest)) : ∃ more,
      sourceText (first :: dot :: rest) = first.text ++ (dot.gap ++ String.singleton '.' ++ more) := by
  cases h with
  | dot _ hdot _ =>
    simp only [Token.isSymbol, Bool.and_eq_true, beq_iff_eq] at hdot
    refine ⟨String.join (rest.map fun t => t.gap ++ t.text), ?_⟩
    simp [sourceText, hdot.2]

/-- The text before the first dot ends with the blanks before it. -/
theorem IsDotted.first_sourceText {first dot : Token} {rest : List Token}
    (h : IsDotted (first :: dot :: rest)) :
    Segments.first '.' (sourceText (first :: dot :: rest)) =
      first.text ++ Segments.first '.' dot.gap := by
  obtain ⟨more, hmore⟩ := sourceText_dotted h
  have hfirst : '.' ∉ first.text.toList := by
    cases h with
    | dot h => exact dot_not_mem_of_isIdentifier h.2
  rw [hmore, Segments.first_append hfirst, Segments.first_append_sep]

/-! ### Names of imports in a text -/

theorem NamesWritten.exists_written {names : List ImportedName} {tokens : List Token}
    (h : NamesWritten names tokens) {n : ImportedName} (hn : n ∈ names) :
    ∃ part, part <:+: tokens ∧ n.Written part := by
  induction h with
  | @last n' tokens h =>
    obtain rfl := List.mem_singleton.1 hn
    exact ⟨tokens, List.infix_rfl, h⟩
  | @trailing n' tokens comma h =>
    obtain rfl := List.mem_singleton.1 hn
    exact ⟨tokens, List.infix_append_left, h⟩
  | @more n' names tokens rest comma h _ _ ih =>
    rcases List.mem_cons.1 hn with rfl | hn
    · exact ⟨tokens, List.infix_append_left, h⟩
    · obtain ⟨part, hpart, hwritten⟩ := ih hn
      exact ⟨part, hpart.trans ((List.suffix_cons comma rest).isInfix.trans
        (List.suffix_append tokens _).isInfix), hwritten⟩

theorem ListWritten.exists_written {names : List ImportedName} {tokens : List Token}
    (h : ListWritten names tokens) {n : ImportedName} (hn : n ∈ names) :
    ∃ part, part <:+: tokens ∧ n.Written part := by
  cases h with
  | bare h => exact h.exists_written hn
  | @bracketed tokens left right _ h _ =>
    obtain ⟨part, hpart, hwritten⟩ := h.exists_written hn
    exact ⟨part, hpart.trans ⟨[left], [right], by simp⟩, hwritten⟩

/-- The names in the list of an import statement. -/
def Stmt.importedNames : Stmt → List ImportedName
  | .importModules _ names | .importFrom _ _ names => names
  | _ => []

theorem Stmt.ImportWritten.exists_written {s : Stmt} {tokens : List Token} (h : s.ImportWritten tokens)
    {n : ImportedName} (hn : n ∈ s.importedNames) : ∃ part, part <:+: tokens ∧ n.Written part := by
  cases h with
  | @modules keyword names tokens _ h =>
    obtain ⟨part, hpart, hwritten⟩ := h.exists_written hn
    exact ⟨part, hpart.trans (List.suffix_cons keyword tokens).isInfix, hwritten⟩
  | @members keyword middle base names module tokens _ _ _ _ h =>
    obtain ⟨part, hpart, hwritten⟩ := h.exists_written hn
    exact ⟨part, hpart.trans ⟨keyword :: module ++ [middle], [], by simp⟩, hwritten⟩
  | everything => contradiction

/-- The words of the name are a dotted name of the text. -/
structure ImportedName.StandsIn (text : List Token) (n : ImportedName) : Prop where
  dotted : IsDotted n.words
  within : n.words <:+: text

theorem ImportedName.Written.standsIn {n : ImportedName} {part text : List Token} (h : n.Written part)
    (hpart : part <:+: text) : n.StandsIn text := by
  cases h with
  | plain h => exact ⟨h, hpart⟩
  | aliased h => exact ⟨h, (List.prefix_append _ _).isInfix.trans hpart⟩

/-! ### Probes with spacing -/

/-- The texts that are cut out of a name with dots, where they are not an identifier of it: the first
word of a module together with blanks before the dot, and the whole name of a member. -/
inductive Uncut (text : List Token) : ReferenceKind → String → Prop where
  | blank {first dot : Token} {rest : List Token} (htext : first :: dot :: rest <:+: text)
      (h : IsDotted (first :: dot :: rest)) (hblank : Segments.first '.' dot.gap ≠ "") :
      Uncut text .plainImport (first.text ++ Segments.first '.' dot.gap)
  | dots {first dot : Token} {rest : List Token} (htext : first :: dot :: rest <:+: text)
      (h : IsDotted (first :: dot :: rest)) :
      Uncut text .fromImport (sourceText (first :: dot :: rest))

/-- A name with dots stands at a place of the text. -/
structure DottedAt (text : List Token) (i : Nat) (first dot : Token) (rest : List Token) : Prop where
  dotted : IsDotted (first :: dot :: rest)
  here : first :: dot :: rest <+: text.drop i

theorem DottedAt.isInfix {text : List Token} {i : Nat} {first dot : Token} {rest : List Token}
    (h : DottedAt text i first dot rest) : first :: dot :: rest <:+: text :=
  h.here.isInfix.trans (List.drop_suffix i text).isInfix

/-- What two texts cut out of the name with dots that stands at one place in both. -/
inductive Recut (text text' : List Token) : ReferenceKind → String → String → Prop where
  | blank {i : Nat} {first dot first' dot' : Token} {rest rest' : List Token}
      (h : DottedAt text i first dot rest) (h' : DottedAt text' i first' dot' rest')
      (hblank : Segments.first '.' dot'.gap ≠ Segments.first '.' dot.gap) :
      Recut text text' .plainImport (first.text ++ Segments.first '.' dot.gap)
        (first'.text ++ Segments.first '.' dot'.gap)
  | dots {i : Nat} {first dot first' dot' : Token} {rest rest' : List Token}
      (h : DottedAt text i first dot rest) (h' : DottedAt text' i first' dot' rest')
      (hlength : rest'.length = rest.length) :
      Recut text text' .fromImport (sourceText (first :: dot :: rest))
        (sourceText (first' :: dot' :: rest'))

/-- Where two texts cut out different probes, one of them is no identifier. -/
theorem Recut.uncut {text text' : List Token} {kind : ReferenceKind} {probe probe' : String}
    (h : Recut text text' kind probe probe') : Uncut text kind probe ∨ Uncut text' kind probe' := by
  cases h with
  | @blank i first dot first' dot' rest rest' h h' hblank =>
    by_cases hempty : Segments.first '.' dot.gap = ""
    · right
      exact .blank h'.isInfix h'.dotted fun hempty' => hblank (hempty'.trans hempty.symm)
    · left
      exact .blank h.isInfix h.dotted hempty
  | dots h => exact .inl (.dots h.isInfix h.dotted)

/-- The same reference in a text that is spaced in another way. -/
structure Respaced (text text' : List Token) (r r' : Reference) : Prop where
  kind : r'.kind = r.kind
  /-- The probe stays as it is unless one of the texts cuts it out of a name with dots. -/
  unchanged : ¬Uncut text r.kind r.probe → ¬Uncut text' r'.kind r'.probe → r'.probe = r.probe
  probe : r'.probe = r.probe ∨ Recut text text' r.kind r.probe r'.probe

theorem Respaced.of_eq {text text' : List Token} {r r' : Reference} (hkind : r'.kind = r.kind)
    (hprobe : r'.probe = r.probe) : Respaced text text' r r' :=
  ⟨hkind, fun _ _ => hprobe, .inl hprobe⟩

theorem Recut.respaced {text text' : List Token} {kind : ReferenceKind} {probe probe' : String}
    (h : Recut text text' kind probe probe') (line line' : Nat) :
    Respaced text text' ⟨kind, probe, line⟩ ⟨kind, probe', line'⟩ where
  kind := rfl
  unchanged hcut hcut' := by
    rcases h.uncut with huncut | huncut
    · contradiction
    · contradiction
  probe := .inr h

/-! ### Texts with the same words -/

section Texts

variable {source source' : String} (hsame : wording source' = wording source)
include hsame

/-- The bare tokens of both texts, with their numbers. -/
theorem map_labelled_scan : (scan source').map (Token.labelled (wordNumber (scan source'))) =
    (scan source).map (Token.labelled (wordNumber (scan source))) :=
  @map_labelled_wordNumber [] [] _ _ rfl hsame (nodup_wordsOf_scan source) (nodup_wordsOf_scan source')

/-- Tokens that start with words of the same number stand at one place of both texts. -/
theorem exists_place {first first' : Token} {rest rest' : List Token} (hkind : first.kind = .name)
    (hkind' : first'.kind = .name) (h : first :: rest <:+: scan source)
    (h' : first' :: rest' <:+: scan source')
    (hnumber : wordNumber (scan source') first' = wordNumber (scan source) first) :
    ∃ i, first :: rest <+: (scan source).drop i ∧ first' :: rest' <+: (scan source').drop i := by
  obtain ⟨before, after, htext⟩ := h
  obtain ⟨before', after', htext'⟩ := h'
  rw [List.append_assoc, List.cons_append] at htext htext'
  have hnodup := nodup_wordsOf_scan source
  have hnodup' := nodup_wordsOf_scan source'
  have hbare : (scan source').map Token.bare = (scan source).map Token.bare := hsame
  rw [← htext] at hnumber hnodup hbare ⊢
  rw [← htext'] at hnumber hnodup' hbare ⊢
  rw [wordNumber_of_append hkind hnodup, wordNumber_of_append hkind' hnodup'] at hnumber
  have hplace := length_eq_of_length_wordsOf hbare hkind hkind' hnumber
  refine ⟨before.length, ?_, ?_⟩
  · rw [List.drop_left]
    exact List.prefix_append (first :: rest) after
  · rw [← hplace, List.drop_left]
    exact List.prefix_append (first' :: rest') after'

/-- A name without an alias is referred to by what is cut out of its words. -/
theorem respaced_words {words words' : List Token} (hdotted : IsDotted words)
    (hdotted' : IsDotted words') (h : words <:+: scan source) (h' : words' <:+: scan source')
    (hwords : words'.map (Token.labelled (wordNumber (scan source'))) =
      words.map (Token.labelled (wordNumber (scan source)))) (line line' : Nat) :
    Respaced (scan source) (scan source')
      ⟨.plainImport, Segments.first '.' (sourceText words), line⟩
      ⟨.plainImport, Segments.first '.' (sourceText words'), line'⟩ ∧
    Respaced (scan source) (scan source') ⟨.fromImport, sourceText words, line⟩
      ⟨.fromImport, sourceText words', line'⟩ := by
  cases hdotted with
  | @word t _ =>
    obtain ⟨t', _, rfl, htoken, hnil⟩ := List.map_eq_cons_iff.1 hwords
    rw [List.map_eq_nil_iff.1 hnil]
    have htext : t'.text = t.text := by simpa using congrArg Token.text htoken
    have hsource : sourceText [t'] = sourceText [t] := by simp [sourceText, htext]
    rw [hsource]
    exact ⟨.of_eq rfl rfl, .of_eq rfl rfl⟩
  | @dot first dot rest hfirst hdot hrest =>
    have hdotted := IsDotted.dot hfirst hdot hrest
    obtain ⟨first', _, rfl, htoken, hmore⟩ := List.map_eq_cons_iff.1 hwords
    obtain ⟨dot', rest', rfl, -, hlast⟩ := List.map_eq_cons_iff.1 hmore
    have htext : first'.text = first.text := by simpa using congrArg Token.text htoken
    have hkind : first'.kind = first.kind := by simpa using congrArg Token.kind htoken
    have hlength : rest'.length = rest.length := by simpa using congrArg List.length hlast
    obtain ⟨i, hplace, hplace'⟩ := exists_place hsame hfirst.1 (hkind.trans hfirst.1) h h'
      (congrArg Token.lineBefore htoken)
    refine ⟨?_, (Recut.dots ⟨hdotted, hplace⟩ ⟨hdotted', hplace'⟩ hlength).respaced line line'⟩
    rw [hdotted.first_sourceText, hdotted'.first_sourceText]
    by_cases hblank : Segments.first '.' dot'.gap = Segments.first '.' dot.gap
    · exact .of_eq rfl (by rw [htext, hblank])
    · exact (Recut.blank ⟨hdotted, hplace⟩ ⟨hdotted', hplace'⟩ hblank).respaced line line'

theorem respaced_name {n n' : ImportedName} (hn : n.StandsIn (scan source))
    (hn' : n'.StandsIn (scan source'))
    (hbare : n'.labelled (wordNumber (scan source')) = n.labelled (wordNumber (scan source)))
    (line line' : Nat) :
    Respaced (scan source) (scan source') ⟨.plainImport, n.moduleProbe, line⟩
      ⟨.plainImport, n'.moduleProbe, line'⟩ ∧
    Respaced (scan source) (scan source') ⟨.fromImport, n.memberProbe, line⟩
      ⟨.fromImport, n'.memberProbe, line'⟩ := by
  obtain ⟨hwords, halias⟩ := ImportedName.mk.inj hbare
  unfold ImportedName.moduleProbe ImportedName.memberProbe
  cases hname : n.asName with
  | none =>
    rw [hname] at halias
    rw [Option.map_eq_none_iff.1 halias]
    exact respaced_words hsame hn.dotted hn'.dotted hn.within hn'.within hwords line line'
  | some a =>
    rw [hname] at halias
    obtain ⟨a', hname', ha⟩ := Option.map_eq_some_iff.1 halias
    have htext : a'.unplaced.text = a.unplaced.text := congrArg Name.text ha
    rw [hname']
    exact ⟨.of_eq rfl htext, .of_eq rfl htext⟩

end Texts

/-! ### References -/

theorem Expr.ownReferences_unplaced (e : Expr) :
    e.unplaced.ownReferences = e.ownReferences.map Reference.unplaced := by
  cases e with
  | «attribute» value member => cases value <;> rfl
  | call callee arguments => cases callee <;> rfl
  | _ => rfl

mutual

theorem Expr.references_unplaced :
    (e : Expr) → e.unplaced.references = e.references.map Reference.unplaced
  | .name n => Expr.ownReferences_unplaced (.name n)
  | .attribute value member => by
    have hown := Expr.ownReferences_unplaced (.attribute value member)
    rw [Expr.unplaced_attribute] at hown ⊢
    rw [Expr.references, Expr.references, List.map_append, hown, value.references_unplaced]
  | .call callee arguments => by
    have hown := Expr.ownReferences_unplaced (.call callee arguments)
    rw [Expr.unplaced_call] at hown ⊢
    rw [Expr.references, Expr.references, List.map_append, List.map_append, hown,
      callee.references_unplaced, referencesOf_map_unplaced arguments]
  | .binding _ _ => rfl
  | .group shape parts => by
    rw [Expr.unplaced_group, Expr.references, Expr.references, referencesOf_map_unplaced parts]

theorem referencesOf_map_unplaced : (es : List Expr) →
    referencesOf (es.map Expr.unplaced) = (referencesOf es).map Reference.unplaced
  | [] => rfl
  | e :: es => by
    rw [List.map_cons, referencesOf, referencesOf, List.map_append, e.references_unplaced,
      referencesOf_map_unplaced es]

end

theorem Step.references_unplaced (step : Step) :
    step.unplaced.references = step.references.map Reference.unplaced := by
  cases step with
  | assign target hint =>
    cases hint <;>
      simp [Step.unplaced, Step.references, target.references_unplaced, ← referencesOf_map_unplaced]
  | augment target => exact target.references_unplaced
  | declare target hint =>
    simp [Step.unplaced, Step.references, target.references_unplaced, hint.references_unplaced]

theorem Head.references_unplaced (head : Head) :
    head.unplaced.references = head.references.map Reference.unplaced := by
  simp [Head.unplaced, Head.references, unplacedOf_eq_map, referencesOf_map_unplaced]

theorem forall₂_respaced_of_map_eq {text text' : List Token} {rs rs' : List Reference}
    (h : rs'.map Reference.unplaced = rs.map Reference.unplaced) :
    List.Forall₂ (Respaced text text') rs rs' := by
  induction rs generalizing rs' with
  | nil =>
    rw [List.map_eq_nil_iff.1 h]
    exact .nil
  | cons r rs ih =>
    obtain ⟨r', rs', rfl, hr, hrest⟩ := List.map_eq_cons_iff.1 h
    have hkind : r'.unplaced.kind = r.unplaced.kind := congrArg Reference.kind hr
    have hprobe : r'.unplaced.probe = r.unplaced.probe := congrArg Reference.probe hr
    exact .cons (.of_eq hkind hprobe) (ih hrest)

/-- Expressions that differ in their places make the same references. -/
theorem forall₂_respaced_referencesOf {text text' : List Token} {es es' : List Expr}
    (h : es'.map Expr.unplaced = es.map Expr.unplaced) :
    List.Forall₂ (Respaced text text') (referencesOf es) (referencesOf es') := by
  apply forall₂_respaced_of_map_eq
  rw [← referencesOf_map_unplaced, ← referencesOf_map_unplaced, h]

/-- The names that the statements import stand in the text. -/
def NamesIn (text : List Token) (statements : List Stmt) : Prop :=
  ∀ s ∈ statements, ∀ n ∈ s.importedNames, n.StandsIn text

theorem namesIn_append {text : List Token} {ss ts : List Stmt} :
    NamesIn text (ss ++ ts) ↔ NamesIn text ss ∧ NamesIn text ts :=
  List.forall_mem_append

theorem namesIn_of_parse {source : String} {m : Module} (h : parse source = .ok m) :
    NamesIn (scan source) (importStatementsOf m) := by
  intro s hs n hn
  obtain ⟨used, hused, hwritten⟩ := (importsWritten_of_parse h).exists_piece hs
  obtain ⟨part, hpart, hn⟩ := hwritten.exists_written hn
  exact hn.standsIn (hpart.trans hused)

section Statements

variable {source source' : String}

theorem forall₂_respaced_names (hsame : wording source' = wording source)
    {names names' : List ImportedName}
    (hnames : ∀ n ∈ names, n.StandsIn (scan source))
    (hnames' : ∀ n ∈ names', n.StandsIn (scan source'))
    (hbare : names'.map (ImportedName.labelled (wordNumber (scan source'))) =
      names.map (ImportedName.labelled (wordNumber (scan source)))) (line line' : Nat) :
    List.Forall₂ (Respaced (scan source) (scan source'))
      (names.map fun n => ⟨.plainImport, n.moduleProbe, line⟩)
      (names'.map fun n => ⟨.plainImport, n.moduleProbe, line'⟩) ∧
    List.Forall₂ (Respaced (scan source) (scan source'))
      (names.map fun n => ⟨.fromImport, n.memberProbe, line⟩)
      (names'.map fun n => ⟨.fromImport, n.memberProbe, line'⟩) := by
  induction names generalizing names' with
  | nil =>
    rw [List.map_eq_nil_iff.1 hbare]
    exact ⟨.nil, .nil⟩
  | cons n names ih =>
    obtain ⟨n', names', rfl, hn, hrest⟩ := List.map_eq_cons_iff.1 hbare
    obtain ⟨hfirst, hmore⟩ := List.forall_mem_cons.1 hnames
    obtain ⟨hfirst', hmore'⟩ := List.forall_mem_cons.1 hnames'
    obtain ⟨hplain, hfrom⟩ := respaced_name hsame hfirst hfirst' hn line line'
    obtain ⟨hplains, hfroms⟩ := ih hmore hmore' hrest
    exact ⟨.cons hplain hplains, .cons hfrom hfroms⟩

mutual

/-- Statements with the same bare tokens make the same references. -/
theorem Stmt.Unspaced.references (hsame : wording source' = wording source) :
    (s : Stmt) → {s' unspaced : Stmt} → s.Unspaced (wordNumber (scan source)) unspaced →
    s'.Unspaced (wordNumber (scan source')) unspaced →
    NamesIn (scan source) s.importStatements → NamesIn (scan source') s'.importStatements →
    List.Forall₂ (Respaced (scan source) (scan source')) s.references s'.references
  | .expression _ _, _, _, .expression h, .expression h', _, _ =>
    forall₂_respaced_referencesOf (h'.symm.trans h)
  | .assignment _ _ _, _, _, .assignment h hvalues, .assignment h' hvalues', _, _ => by
    refine List.rel_append ?_ (forall₂_respaced_referencesOf (hvalues'.symm.trans hvalues))
    apply forall₂_respaced_of_map_eq
    have hunplaced (steps : List Step) : (steps.flatMap Step.references).map Reference.unplaced =
        (steps.map Step.unplaced).flatMap Step.references := by
      simp [List.map_flatMap, List.flatMap_map, Step.references_unplaced]
    rw [hunplaced, hunplaced, ← h, ← h']
  | .importModules _ _, _, _, .importModules h, .importModules h', hnames, hnames' =>
    (forall₂_respaced_names hsame (hnames _ List.mem_cons_self) (hnames' _ List.mem_cons_self)
      (h'.symm.trans h) _ _).1
  | .importFrom _ _ _, _, _, .importFrom h, .importFrom h', hnames, hnames' =>
    (forall₂_respaced_names hsame (hnames _ List.mem_cons_self) (hnames' _ List.mem_cons_self)
      (h'.symm.trans h) _ _).2
  | .simple _, _, _, .simple h, .simple h', _, _ =>
    forall₂_respaced_referencesOf (h'.symm.trans h)
  | .definition _ body, _, _, .definition h hbody, .definition h' hbody', hnames, hnames' => by
    refine List.rel_append ?_ (forall₂_statementReferences hsame body hbody hbody' hnames hnames')
    apply forall₂_respaced_of_map_eq
    rw [← Head.references_unplaced, ← Head.references_unplaced, ← h, ← h']
  | .block _ _ body, _, _, .block h hbody, .block h' hbody', hnames, hnames' =>
    List.rel_append (forall₂_respaced_referencesOf (h'.symm.trans h))
      (forall₂_statementReferences hsame body hbody hbody' hnames hnames')

theorem forall₂_statementReferences (hsame : wording source' = wording source) :
    (body : List Stmt) → {body' unspaced : List Stmt} →
    List.Forall₂ (Stmt.Unspaced (wordNumber (scan source))) body unspaced →
    List.Forall₂ (Stmt.Unspaced (wordNumber (scan source'))) body' unspaced →
    NamesIn (scan source) (importStatementsOf body) →
    NamesIn (scan source') (importStatementsOf body') →
    List.Forall₂ (Respaced (scan source) (scan source')) (statementReferences body)
      (statementReferences body')
  | [], _, _, .nil, .nil, _, _ => .nil
  | s :: rest, _, _, .cons hs hrest, .cons hs' hrest', hnames, hnames' => by
    obtain ⟨hfirst, hmore⟩ := namesIn_append.1 hnames
    obtain ⟨hfirst', hmore'⟩ := namesIn_append.1 hnames'
    exact List.rel_append (Stmt.Unspaced.references hsame s hs hs' hfirst hfirst')
      (forall₂_statementReferences hsame rest hrest hrest' hmore hmore')

end

/-- However a text is spaced, it makes the same references. -/
theorem forall₂_references_of_wording (hsame : wording source' = wording source) {m : Module}
    (h : parse source = .ok m) :
    ∃ m', parse source' = .ok m' ∧
      List.Forall₂ (Respaced (scan source) (scan source')) m.references m'.references := by
  obtain ⟨m', unspaced, hm', hm, hrest⟩ := exists_unspaced_of_parse (map_labelled_scan hsame) h
  refine ⟨m', hm', ?_⟩
  exact forall₂_statementReferences hsame m hm hrest (namesIn_of_parse h) (namesIn_of_parse hm')

end Statements

end Syntax

end LayerCheck
