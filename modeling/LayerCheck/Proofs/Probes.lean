import LayerCheck.Proofs.NameIndex
import LayerCheck.Proofs.Spacing
import LayerCheck.Proofs.TextOrder

/-!
Probes and the words of the text. Names, calls and attributes are referred to by identifiers of the
text, whatever stands between them, and so are imports under an alias. The probe of another import is cut
out of the text of its name, together with blanks before the first dot.
-/

namespace LayerCheck.Syntax

/-! ### Words of the text -/

/-- The text is that of an identifier in the source. -/
structure IsWordOf (source s : String) : Prop where
  word : ∃ t ∈ wordsOf (scan source), t.text = s
  isIdentifier : isIdentifier s
  ne_empty : s ≠ ""
  no_dot : '.' ∉ s.toList
  no_blank : ∀ c ∈ s.toList, c.isWhitespace = false

theorem isWordOf_of_mem {source : String} {t : Token} (ht : t ∈ wordsOf (scan source))
    (h : isIdentifier t.text) : IsWordOf source t.text where
  word := ⟨t, ht, rfl⟩
  isIdentifier := h
  ne_empty := ne_empty_of_isIdentifier h
  no_dot := dot_not_mem_of_isIdentifier h
  no_blank _ hc := isWhitespace_of_mem_isIdentifier h hc

theorem mem_wordsOf {t : Token} {tokens : List Token} (h : t ∈ tokens) (hkind : t.kind = .name) :
    t ∈ wordsOf tokens := by
  induction tokens with
  | nil => contradiction
  | cons u tokens ih =>
    rw [wordsOf, List.mem_append]
    rcases List.mem_cons.1 h with rfl | h
    · left
      simp [Token.words_eq, Token.ownWord, hkind]
    · exact .inr (ih h)

theorem isWordOf_of_mem_identifiers {source : String} {m : Module} (h : parse source = .ok m) {n : Name}
    (hn : n ∈ identifiers m.marks) : IsWordOf source n.text := by
  obtain ⟨t, ht, htext, -⟩ := exists_word_of_mem_identifiers h hn
  rw [← htext]
  exact isWordOf_of_mem ht (htext ▸ n.isIdentifier)

/-! ### Names, calls and attributes -/

/-- The probe is a name, or two names with a dot between them for an attribute. -/
structure NamedBy (names : List Name) (r : Reference) : Prop where
  single : r.kind = .name ∨ r.kind = .call → ∃ n ∈ names, r.probe = n.text
  double : r.kind = .attribute → ∃ head ∈ names, ∃ member ∈ names,
    r.probe = head.text ++ "." ++ member.text

theorem NamedBy.mono {names more : List Name} {r : Reference} (h : NamedBy names r)
    (hsub : names ⊆ more) : NamedBy more r where
  single hkind := by
    obtain ⟨n, hn, hprobe⟩ := h.single hkind
    exact ⟨n, hsub hn, hprobe⟩
  double hkind := by
    obtain ⟨head, hhead, member, hmember, hprobe⟩ := h.double hkind
    exact ⟨head, hsub hhead, member, hsub hmember, hprobe⟩

theorem compositional_namedBy :
    Compositional fun rs marks => ∀ r ∈ rs, NamedBy (identifiers marks) r where
  nil := by simp
  append h h' r hr := by
    rw [identifiers_append]
    rcases List.mem_append.1 hr with hr | hr
    · exact (h r hr).mono (List.subset_append_left _ _)
    · exact (h' r hr).mono (List.subset_append_right _ _)
  read slot n := by
    rw [List.forall_mem_singleton]
    exact ⟨fun _ => ⟨n, by simp [identifiers, Mark.name?], rfl⟩, by simp⟩
  unread _ _ := by simp
  qualified head member := by
    rw [List.forall_mem_cons, List.forall_mem_singleton]
    refine ⟨⟨by simp, fun _ => ⟨head, ?_, member, ?_, rfl⟩⟩, ⟨fun _ => ⟨head, ?_, rfl⟩, by simp⟩⟩ <;>
      simp [identifiers, Mark.name?]
  called callee := by
    rw [List.forall_mem_cons, List.forall_mem_singleton]
    refine ⟨⟨fun _ => ⟨callee, ?_, rfl⟩, by simp⟩, ⟨fun _ => ⟨callee, ?_, rfl⟩, by simp⟩⟩ <;>
      simp [identifiers, Mark.name?]
  start _ := by simp
  imported _ _ h r hr := by
    rcases (h r hr).1 with hkind | hkind
    · exact ⟨by simp [hkind], by simp [hkind]⟩
    · exact ⟨by simp [hkind], by simp [hkind]⟩

/-! ### Imports -/

theorem IsDotted.isWordOf_first {source : String} {first : Token} {rest : List Token}
    (h : IsDotted (first :: rest)) (htext : first :: rest <:+: scan source) :
    IsWordOf source first.text := by
  have hmem : first ∈ scan source := htext.subset List.mem_cons_self
  cases h with
  | word h => exact isWordOf_of_mem (mem_wordsOf hmem h.1) h.2
  | dot h => exact isWordOf_of_mem (mem_wordsOf hmem h.1) h.2

theorem IsDotted.probe_first {source : String} {tokens : List Token} (h : IsDotted tokens)
    (htext : tokens <:+: scan source) :
    IsWordOf source (Segments.first '.' (sourceText tokens)) ∨
      Uncut (scan source) .plainImport (Segments.first '.' (sourceText tokens)) := by
  cases tokens with
  | nil => contradiction
  | cons first rest =>
    have hfirst := h.isWordOf_first htext
    cases rest with
    | nil =>
      left
      have hsingle : sourceText [first] = first.text := by simp [sourceText]
      rwa [hsingle, Segments.first_of_not_mem hfirst.no_dot]
    | cons dot rest =>
      rw [h.first_sourceText]
      by_cases hblank : Segments.first '.' dot.gap = ""
      · left
        rwa [hblank, String.append_empty]
      · exact .inr (.blank htext h hblank)

theorem IsDotted.probe_whole {source : String} {tokens : List Token} (h : IsDotted tokens)
    (htext : tokens <:+: scan source) :
    IsWordOf source (sourceText tokens) ∨ Uncut (scan source) .fromImport (sourceText tokens) := by
  cases tokens with
  | nil => contradiction
  | cons first rest =>
    cases rest with
    | nil =>
      left
      have hsingle : sourceText [first] = first.text := by simp [sourceText]
      rw [hsingle]
      exact h.isWordOf_first htext
    | cons dot rest => exact .inr (.dots htext h)

/-- An alias is an identifier of the text, so only the written name of an import can be cut. -/
theorem ImportedName.Written.probe {source : String} {n : ImportedName} {tokens : List Token}
    (h : n.Written tokens) (htext : tokens <:+: scan source) :
    (IsWordOf source n.moduleProbe ∨ Uncut (scan source) .plainImport n.moduleProbe) ∧
    (IsWordOf source n.memberProbe ∨ Uncut (scan source) .fromImport n.memberProbe) := by
  cases h with
  | plain h => exact ⟨h.probe_first htext, h.probe_whole htext⟩
  | @aliased tokens as_ t a _ _ ha =>
    obtain ⟨hkind, hname, -⟩ := ha
    have hmem : t ∈ scan source := htext.subset (by simp)
    have halias : IsWordOf source a.text := by
      rw [hname]
      exact isWordOf_of_mem (mem_wordsOf hmem hkind) (hname ▸ a.isIdentifier)
    exact ⟨.inl halias, .inl halias⟩

/-- The probe of an import is an identifier of the text, or it is cut out of a name with dots. -/
theorem Stmt.ImportWritten.probe {source : String} {s : Stmt} {tokens : List Token}
    (h : s.ImportWritten tokens) (htext : tokens <:+: scan source) :
    ∀ r ∈ s.references, IsWordOf source r.probe ∨ Uncut (scan source) r.kind r.probe := by
  have hnames (n : ImportedName) (hn : n ∈ s.importedNames) :
      (IsWordOf source n.moduleProbe ∨ Uncut (scan source) .plainImport n.moduleProbe) ∧
      (IsWordOf source n.memberProbe ∨ Uncut (scan source) .fromImport n.memberProbe) := by
    obtain ⟨part, hpart, hwritten⟩ := h.exists_written hn
    exact hwritten.probe (hpart.trans htext)
  intro r hr
  cases h with
  | modules =>
    obtain ⟨n, hn, rfl⟩ := List.mem_map.1 hr
    exact (hnames n hn).1
  | members =>
    obtain ⟨n, hn, rfl⟩ := List.mem_map.1 hr
    exact (hnames n hn).2
  | everything => contradiction

/-- How the probe of a reference comes from words of the text. -/
structure FromWords (source : String) (r : Reference) : Prop where
  single : r.kind = .name ∨ r.kind = .call → IsWordOf source r.probe
  double : r.kind = .attribute → ∃ head member, IsWordOf source head ∧ IsWordOf source member ∧
    r.probe = head ++ "." ++ member
  imported : r.kind.isImport → IsWordOf source r.probe ∨ Uncut (scan source) r.kind r.probe

theorem fromWords_of_parse {source : String} {m : Module} (h : parse source = .ok m) {r : Reference}
    (hr : r ∈ m.references) : FromWords source r where
  single hkind := by
    obtain ⟨n, hn, hprobe⟩ := (compositional_namedBy.module m r hr).single hkind
    rw [hprobe]
    exact isWordOf_of_mem_identifiers h hn
  double hkind := by
    obtain ⟨head, hhead, member, hmember, hprobe⟩ :=
      (compositional_namedBy.module m r hr).double hkind
    exact ⟨head.text, member.text, isWordOf_of_mem_identifiers h hhead,
      isWordOf_of_mem_identifiers h hmember, hprobe⟩
  imported hkind := by
    have himport : r ∈ importReferences m.references := List.mem_filter.2 ⟨hr, hkind⟩
    rw [Module.references, importReferences_statementReferences] at himport
    obtain ⟨s, hs, hr⟩ := List.mem_flatMap.1 himport
    obtain ⟨tokens, htext, hwritten⟩ := (importsWritten_of_parse h).exists_piece hs
    exact hwritten.probe htext r hr

/-- Names and calls are referred to by an identifier of the text and attributes by two, with a dot
between them. Imports are referred to by an identifier unless their name has dots: then blanks before
the first dot stay with the first word, and a member keeps its dots. With other spacing the text makes
the same references by the same probes, those that are cut out of a name with dots apart: they have the
spacing of that name in each text. -/
theorem probes_are_words {source : String} {m : Module} (h : parse source = .ok m) :
    (∀ r ∈ m.references, FromWords source r) ∧
    ∀ source', wording source' = wording source → ∃ m', parse source' = .ok m' ∧
      List.Forall₂ (Respaced (scan source) (scan source')) m.references m'.references :=
  ⟨fun _ hr => fromWords_of_parse h hr, fun _ hsame => forall₂_references_of_wording hsame h⟩

/-- Blanks around the dots of imported names, an alias, a call and an attribute across a line end. -/
def spacedNames : String :=
  "import a . b, c .d as e\nfrom f import g . h, i\nj (k\n . l)"

/-- The same with other blanks and with the line end in the brackets elsewhere. -/
def respacedNames : String :=
  "import a.b,c  .d as e\nfrom f import g. h,i\nj(\n  k.l )"

theorem probes_are_words_spaced : ∃ m, parse spacedNames = .ok m ∧
    m.references.map (fun r => (r.kind, r.probe)) =
      [(.plainImport, "a "), (.plainImport, "e"), (.fromImport, "g . h"), (.fromImport, "i"),
        (.call, "j"), (.name, "j"), (.attribute, "k.l"), (.name, "k")] ∧
    (∀ r ∈ m.references, FromWords spacedNames r) ∧
    wording respacedNames = wording spacedNames ∧
    ∃ m', parse respacedNames = .ok m' ∧
      List.Forall₂ (Respaced (scan spacedNames) (scan respacedNames)) m.references m'.references := by
  obtain ⟨m, hm, hprobes⟩ : ∃ m, parse spacedNames = .ok m ∧
      m.references.map (fun r => (r.kind, r.probe)) =
        [(.plainImport, "a "), (.plainImport, "e"), (.fromImport, "g . h"), (.fromImport, "i"),
          (.call, "j"), (.name, "j"), (.attribute, "k.l"), (.name, "k")] :=
    Except.exists_of_map_toOption (by decide +kernel)
  have hsame : wording respacedNames = wording spacedNames := by decide +kernel
  obtain ⟨hwords, hspacing⟩ := probes_are_words hm
  exact ⟨m, hm, hprobes, hwords, hsame, hspacing respacedNames hsame⟩

def moduleElement : Element :=
  { file := ⟨"b.py"⟩, name := "a", kind := .cls, line := 1, column := 1 }

/-- With a blank before its dot, a module is not referred to by an identifier, and what it leads to is
another. -/
theorem blank_before_dot_changes_probe : ∃ m m',
    parse "import a.b" = .ok m ∧ m.references = [⟨.plainImport, "a", 1⟩] ∧
    parse "import a . b" = .ok m' ∧ m'.references = [⟨.plainImport, "a ", 1⟩] ∧
    ¬IsWordOf "import a . b" "a " ∧
    ((NameIndex.ofList [moduleElement]).candidates "a").toList = [moduleElement] ∧
    ((NameIndex.ofList [moduleElement]).candidates "a ").toList = [] := by
  obtain ⟨m, hm, hreferences⟩ : ∃ m, parse "import a.b" = .ok m ∧
      m.references = [⟨.plainImport, "a", 1⟩] := Except.exists_of_map_toOption (by decide +kernel)
  obtain ⟨m', hm', hreferences'⟩ : ∃ m, parse "import a . b" = .ok m ∧
      m.references = [⟨.plainImport, "a ", 1⟩] := Except.exists_of_map_toOption (by decide +kernel)
  refine ⟨m, m', hm, hreferences, hm', hreferences', fun h => ?_, by decide +kernel, by decide +kernel⟩
  exact absurd (h.no_blank ' ' (by simp)) (by decide)

end LayerCheck.Syntax
