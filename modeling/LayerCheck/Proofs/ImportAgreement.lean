import LayerCheck.Module.Source
import LayerCheck.Proofs.Except
import LayerCheck.Proofs.Identifiers
import LayerCheck.Proofs.ImportStatements
import LayerCheck.Proofs.Segments

/-!
The imports of a module and its references to what it imports. Both lists come from the names in the
lists of its import statements, one entry for each name, in the order of the text. Imports of everything
and imports from `__future__` list no names.
-/

namespace LayerCheck

def ReferenceKind.isImport : ReferenceKind → Bool
  | .plainImport | .fromImport => true
  | .call | .attribute | .name => false

/-- The kind of the references that an import makes. -/
def ImportKind.reference : ImportKind → ReferenceKind
  | .plain => .plainImport
  | .from => .fromImport

namespace Syntax

/-! ### Names in import lists -/

/-- The tokens are an import statement with a list of names, and the record is that of a name in it. -/
inductive Lists : List Token → ImportedName → ImportRecord → Prop where
  | modules {keyword : Token} {names : List ImportedName} {tokens : List Token} {n : ImportedName}
      (hkeyword : keyword.isWord "import") (h : NamesWritten names tokens) (hn : n ∈ names) :
      Lists (keyword :: tokens) n (.ofModule keyword.line n)
  | members {keyword middle : Token} {base : String} {names : List ImportedName}
      {module tokens : List Token} {n : ImportedName} (hkeyword : keyword.isWord "from")
      (hbase : BaseWritten base module) (hfuture : ∀ t ∈ module.head?, ¬t.isWord "__future__")
      (hmiddle : middle.isWord "import") (h : ListWritten names tokens) (hn : n ∈ names) :
      Lists (keyword :: module ++ middle :: tokens) n (.ofMember keyword.line base n)

/-- The tokens are an import statement, and the records are those of the names in its list. -/
inductive Records : List Token → List ImportRecord → Prop where
  | modules {keyword : Token} {names : List ImportedName} {tokens : List Token}
      (hkeyword : keyword.isWord "import") (h : NamesWritten names tokens) :
      Records (keyword :: tokens) (names.map (.ofModule keyword.line))
  | members {keyword middle : Token} {base : String} {names : List ImportedName}
      {module tokens : List Token} (hkeyword : keyword.isWord "from") (hbase : BaseWritten base module)
      (hfuture : ∀ t ∈ module.head?, ¬t.isWord "__future__") (hmiddle : middle.isWord "import")
      (h : ListWritten names tokens) :
      Records (keyword :: module ++ middle :: tokens) (names.map (.ofMember keyword.line base))
  | everything {keyword middle star : Token} {base : String} {module : List Token}
      (hkeyword : keyword.isWord "from") (hbase : BaseWritten base module)
      (hmiddle : middle.isWord "import") (hstar : star.isSymbol "*") :
      Records (keyword :: module ++ [middle, star]) []

/-- The records are those of import statements of the text, statement by statement as they are written. -/
def Recorded (text : List Token) (records : List ImportRecord) : Prop :=
  ∃ statements lists, InOrder statements text ∧ List.Forall₂ Records statements lists ∧
    records = lists.flatten

theorem Token.not_isSymbol_of_kind {t : Token} (h : t.kind = .name) (text : String) :
    ¬t.isSymbol text := by
  simp [Token.isSymbol, h]

theorem Token.not_isSymbol_of_isSymbol {t : Token} {text other : String} (h : t.isSymbol text)
    (hne : text ≠ other) : ¬t.isSymbol other := by
  simp only [Token.isSymbol, Bool.and_eq_true, beq_iff_eq] at h
  simp [Token.isSymbol, h.2, hne]

def NoStar (tokens : List Token) : Prop :=
  ∀ t ∈ tokens, ¬t.isSymbol "*"

@[simp] theorem noStar_append {tokens more : List Token} :
    NoStar (tokens ++ more) ↔ NoStar tokens ∧ NoStar more :=
  List.forall_mem_append

@[simp] theorem noStar_cons {t : Token} {tokens : List Token} :
    NoStar (t :: tokens) ↔ ¬t.isSymbol "*" ∧ NoStar tokens :=
  List.forall_mem_cons

@[simp] theorem noStar_nil : NoStar [] :=
  fun _ h => absurd h List.not_mem_nil

theorem IsDotted.noStar {tokens : List Token} (h : IsDotted tokens) : NoStar tokens := by
  induction h with
  | word h => simp [Token.not_isSymbol_of_kind h.1]
  | dot h hdot _ ih =>
    simp [Token.not_isSymbol_of_kind h.1, Token.not_isSymbol_of_isSymbol hdot, ih]

theorem ImportedName.Written.noStar {n : ImportedName} {tokens : List Token} (h : n.Written tokens) :
    NoStar tokens := by
  cases h with
  | plain h => exact h.noStar
  | aliased h has hn =>
    simp [h.noStar, Token.not_isSymbol_of_kind (Token.kind_of_isWord has),
      Token.not_isSymbol_of_kind hn.1]

theorem NamesWritten.noStar {names : List ImportedName} {tokens : List Token}
    (h : NamesWritten names tokens) : NoStar tokens := by
  induction h with
  | last h => exact h.noStar
  | trailing h hcomma => simp [h.noStar, Token.not_isSymbol_of_isSymbol hcomma]
  | more h hcomma _ ih => simp [h.noStar, Token.not_isSymbol_of_isSymbol hcomma, ih]

theorem ListWritten.noStar {names : List ImportedName} {tokens : List Token}
    (h : ListWritten names tokens) : NoStar tokens := by
  cases h with
  | bare h => exact h.noStar
  | bracketed hleft h hright =>
    simp [h.noStar, Token.not_isSymbol_of_isSymbol hleft, Token.not_isSymbol_of_isSymbol hright]

theorem IsDots.noStar {tokens : List Token} (h : IsDots tokens) : NoStar tokens := by
  intro t ht
  rcases h t ht with hdot | hdot <;> exact Token.not_isSymbol_of_isSymbol hdot (by decide)

theorem BaseWritten.noStar {base : String} {tokens : List Token} (h : BaseWritten base tokens) :
    NoStar tokens := by
  cases h with
  | relative _ hdots => exact hdots.noStar
  | named hdots h => simp [hdots.noStar, h.noStar]

/-- A statement with a list of names does not import everything. -/
theorem Lists.noStar {tokens : List Token} {n : ImportedName} {record : ImportRecord}
    (h : Lists tokens n record) : NoStar tokens := by
  cases h with
  | modules hkeyword h =>
    simp [h.noStar, Token.not_isSymbol_of_kind (Token.kind_of_isWord hkeyword)]
  | members hkeyword hbase _ hmiddle h =>
    simp [hbase.noStar, h.noStar, Token.not_isSymbol_of_kind (Token.kind_of_isWord hkeyword),
      Token.not_isSymbol_of_kind (Token.kind_of_isWord hmiddle)]

theorem Lists.not_future {tokens : List Token} {n : ImportedName} {record : ImportRecord}
    (h : Lists tokens n record) (hkind : record.kind = .from) :
    ∀ t ∈ tokens[1]?, ¬t.isWord "__future__" := by
  cases h with
  | modules => contradiction
  | members _ hbase hfuture =>
    obtain ⟨first, rest, rfl⟩ := List.exists_cons_of_ne_nil hbase.ne_nil
    simpa using hfuture

/-! ### Two walks -/

mutual

theorem Expr.isImport_references : (e : Expr) → ∀ r ∈ e.references, r.kind.isImport = false
  | .name n, r, hr => by
    rw [List.mem_singleton.1 hr]
    rfl
  | .attribute value member, r, hr => by
    rcases List.mem_append.1 hr with hr | hr
    · cases value <;> simp_all [Expr.ownReferences, ReferenceKind.isImport]
    · exact value.isImport_references r hr
  | .call callee arguments, r, hr => by
    rcases List.mem_append.1 hr with hr | hr
    · rcases List.mem_append.1 hr with hr | hr
      · cases callee <;> simp_all [Expr.ownReferences, ReferenceKind.isImport]
      · exact callee.isImport_references r hr
    · exact isImport_referencesOf arguments r hr
  | .binding _ _, r, hr => absurd hr List.not_mem_nil
  | .group _ parts, r, hr => isImport_referencesOf parts r hr

theorem isImport_referencesOf : (es : List Expr) → ∀ r ∈ referencesOf es, r.kind.isImport = false
  | [], r, hr => absurd hr List.not_mem_nil
  | e :: es, r, hr => by
    rcases List.mem_append.1 hr with hr | hr
    · exact e.isImport_references r hr
    · exact isImport_referencesOf es r hr

end

/-- The references to what is imported. -/
def importReferences (references : List Reference) : List Reference :=
  references.filter (·.kind.isImport)

@[simp] theorem importReferences_append (rs ss : List Reference) :
    importReferences (rs ++ ss) = importReferences rs ++ importReferences ss :=
  List.filter_append ..

@[simp] theorem importReferences_referencesOf (es : List Expr) :
    importReferences (referencesOf es) = [] := by
  refine List.filter_eq_nil_iff.2 fun r hr => ?_
  simp [isImport_referencesOf es r hr]

theorem importReferences_steps (steps : List Step) :
    importReferences (steps.flatMap Step.references) = [] := by
  refine List.filter_eq_nil_iff.2 fun r hr => ?_
  obtain ⟨step, -, hr⟩ := List.mem_flatMap.1 hr
  have hkind : r.kind.isImport = false := by
    cases step with
    | assign target hint =>
      rcases List.mem_append.1 hr with hr | hr
      · exact target.isImport_references r hr
      · exact isImport_referencesOf _ r hr
    | augment target => exact target.isImport_references r hr
    | declare target hint =>
      rcases List.mem_append.1 hr with hr | hr
      · exact target.isImport_references r hr
      · exact hint.isImport_references r hr
  simp [hkind]

mutual

/-- A statement refers to imports by the import statements in it. -/
theorem Stmt.importReferences_eq : (s : Stmt) →
    importReferences s.references = s.importStatements.flatMap Stmt.references
  | .expression _ items => importReferences_referencesOf items
  | .assignment _ steps values => by simp [Stmt.references, importReferences_steps]
  | .importModules line names => by
    simp [Stmt.references, importReferences, ReferenceKind.isImport]
  | .importFrom line base names => by
    simp [Stmt.references, importReferences, ReferenceKind.isImport]
  | .simple parts => importReferences_referencesOf parts
  | .definition head body => by
    simpa [Stmt.references, Head.references] using importReferences_statementReferences body
  | .block _ head body => by
    simpa [Stmt.references] using importReferences_statementReferences body

theorem importReferences_statementReferences : (body : List Stmt) →
    importReferences (statementReferences body) =
      (importStatementsOf body).flatMap Stmt.references
  | [] => rfl
  | s :: rest => by
    rw [statementReferences, importReferences_append, s.importReferences_eq,
      importReferences_statementReferences rest, importStatementsOf, List.flatMap_append]

end

mutual

/-- A statement imports by the import statements in it. -/
theorem Stmt.imports_eq : (s : Stmt) → s.imports = s.importStatements.flatMap Stmt.imports
  | .importModules _ _ | .importFrom _ _ _ => by simp
  | .definition _ body => importsOf_eq body
  | .block _ _ body => importsOf_eq body
  | .expression _ _ | .assignment _ _ _ | .simple _ => rfl

theorem importsOf_eq : (body : List Stmt) →
    importsOf body = (importStatementsOf body).flatMap Stmt.imports
  | [] => rfl
  | s :: rest => by
    rw [importsOf, s.imports_eq, importsOf_eq rest, importStatementsOf, List.flatMap_append]

end

/-! ### Records and references -/

/-- What the two entries for one imported name have in common. -/
structure Agree (text : List Token) (record : ImportRecord) (reference : Reference) : Prop where
  kind : reference.kind = record.kind.reference
  line : reference.line = record.line
  asName : ∀ a, record.asName = some a → reference.probe = a
  plain : record.kind = .plain → record.asName = none →
    reference.probe = Segments.first '.' record.module
  /-- The name stands in the list of an import statement of the text, which imports neither everything
  nor from `__future__`. A member that is a single identifier is referred to as it is bound. -/
  listed : ∃ tokens n, tokens <:+: text ∧ Lists tokens n record ∧ NoStar tokens ∧
    (record.kind = .from → (∀ t ∈ tokens[1]?, ¬t.isWord "__future__") ∧
      (record.asName = none → isIdentifier n.text → reference.probe = record.boundName))

/-- A member is bound by its own name, from whatever module it is imported. -/
theorem boundName_ofMember {n : ImportedName} (line : Nat) (base : String) (hn : n.asName = none)
    (hid : isIdentifier n.text) : (ImportRecord.ofMember line base n).boundName = n.text := by
  have hdot := dot_not_mem_of_isIdentifier hid
  simp only [ImportRecord.boundName, ImportRecord.ofMember, hn, Option.map_none]
  split
  · exact Segments.last_of_not_mem hdot
  · exact Segments.last_append base hdot

theorem agree_ofModule {text tokens : List Token} {n : ImportedName} {line : Nat}
    (htext : tokens <:+: text) (h : Lists tokens n (.ofModule line n)) :
    Agree text (.ofModule line n) ⟨.plainImport, n.moduleProbe, line⟩ where
  kind := rfl
  line := rfl
  asName := by
    intro a ha
    obtain ⟨given, halias, rfl⟩ := Option.map_eq_some_iff.1 ha
    simp [ImportedName.moduleProbe, halias]
  plain := by
    intro _ hnone
    have halias : n.asName = none := Option.map_eq_none_iff.1 hnone
    simp [ImportedName.moduleProbe, halias, ImportRecord.ofModule]
  listed := ⟨tokens, n, htext, h, h.noStar, fun hkind => ImportKind.noConfusion hkind⟩

theorem agree_ofMember {text tokens : List Token} {n : ImportedName} {line : Nat} {base : String}
    (htext : tokens <:+: text) (h : Lists tokens n (.ofMember line base n)) :
    Agree text (.ofMember line base n) ⟨.fromImport, n.memberProbe, line⟩ where
  kind := rfl
  line := rfl
  asName := by
    intro a ha
    obtain ⟨given, halias, rfl⟩ := Option.map_eq_some_iff.1 ha
    simp [ImportedName.memberProbe, halias]
  plain := fun hkind => ImportKind.noConfusion hkind
  listed := by
    refine ⟨tokens, n, htext, h, h.noStar, fun hkind => ⟨h.not_future hkind, ?_⟩⟩
    intro hnone hid
    have halias : n.asName = none := Option.map_eq_none_iff.1 hnone
    rw [boundName_ofMember line base halias hid]
    simp [ImportedName.memberProbe, halias]

/-- The two walks agree at each import statement of the text. -/
theorem Stmt.ImportWritten.forall₂_agree {s : Stmt} {text tokens : List Token}
    (h : s.ImportWritten tokens) (htext : tokens <:+: text) :
    List.Forall₂ (Agree text) s.imports s.references := by
  cases h with
  | modules hkeyword h =>
    simp only [Stmt.imports, Stmt.references, List.forall₂_map_left_iff, List.forall₂_map_right_iff,
      List.forall₂_same]
    exact fun n hn => agree_ofModule htext (.modules hkeyword h hn)
  | members hkeyword hbase hfuture hmiddle h =>
    simp only [Stmt.imports, Stmt.references, List.forall₂_map_left_iff, List.forall₂_map_right_iff,
      List.forall₂_same]
    exact fun n hn => agree_ofMember htext (.members hkeyword hbase hfuture hmiddle h hn)
  | everything => exact .nil

theorem Stmt.ImportWritten.records {s : Stmt} {tokens : List Token} (h : s.ImportWritten tokens) :
    Records tokens s.imports := by
  cases h with
  | modules hkeyword h => exact .modules hkeyword h
  | members hkeyword hbase hfuture hmiddle h => exact .members hkeyword hbase hfuture hmiddle h
  | everything hkeyword hbase _ hmiddle hstar => exact .everything hkeyword hbase hmiddle hstar

theorem ImportsWritten.recorded {text : List Token} {ss : List Stmt} (h : ImportsWritten text ss) :
    Recorded text (ss.flatMap Stmt.imports) := by
  obtain ⟨pieces, hwritten, horder⟩ := h
  refine ⟨pieces, ss.map Stmt.imports, horder, ?_, List.flatMap_def ..⟩
  rw [List.forall₂_map_right_iff]
  exact hwritten.flip.imp fun _ _ => Stmt.ImportWritten.records

theorem forall₂_flatMap {α β γ : Type} {R : β → γ → Prop} {f : α → List β} {g : α → List γ}
    {as : List α} (h : ∀ a ∈ as, List.Forall₂ R (f a) (g a)) :
    List.Forall₂ R (as.flatMap f) (as.flatMap g) := by
  induction as with
  | nil => exact .nil
  | cons a as ih =>
    rw [List.flatMap_cons, List.flatMap_cons]
    exact List.rel_append (h a List.mem_cons_self) (ih fun b hb => h b (List.mem_cons_of_mem a hb))

/-- The imports of a module and its references to what it imports agree one by one. The imports are
those of the import statements of its text, name by name. -/
theorem forall₂_imports_references {source : String} {m : Module} (h : parse source = .ok m) :
    List.Forall₂ (Agree (scan source)) m.imports (importReferences m.references) ∧
      Recorded (scan source) m.imports := by
  have himports : m.imports = (importStatementsOf m).flatMap Stmt.imports := importsOf_eq m
  have hreferences : importReferences m.references = (importStatementsOf m).flatMap Stmt.references :=
    importReferences_statementReferences m
  rw [himports, hreferences]
  have hwritten := importsWritten_of_parse h
  constructor
  · apply forall₂_flatMap
    intro s hs
    obtain ⟨tokens, htext, hs⟩ := hwritten.exists_piece hs
    exact hs.forall₂_agree htext
  · exact hwritten.recorded

/-- Imports of modules and of members, relative, in parentheses, under aliases and in blocks, and
imports that list no names. -/
def mixedImports : String :=
  "from __future__ import z\nimport a.b, c as d\ndef f():\n  from .. import (g, h as i,)\n" ++
    "  if x:\n    from ...j.k import l; from m import *\nfrom n.o import p as q, r.s"

theorem forall₂_imports_references_mixed : ∃ m, parse mixedImports = .ok m ∧
    m.imports.map (·.boundName) = ["a.b", "d", "g", "i", "l", "q", "s"] ∧
    (importReferences m.references).map (·.probe) = ["a", "d", "g", "i", "l", "q", "r.s"] ∧
    List.Forall₂ (Agree (scan mixedImports)) m.imports (importReferences m.references) ∧
    Recorded (scan mixedImports) m.imports := by
  obtain ⟨m, hm, hnames⟩ : ∃ m, parse mixedImports = .ok m ∧
      (m.imports.map (·.boundName), (importReferences m.references).map (·.probe)) =
        (["a.b", "d", "g", "i", "l", "q", "s"], ["a", "d", "g", "i", "l", "q", "r.s"]) :=
    Except.exists_of_map_toOption (by decide +kernel)
  obtain ⟨hbound, hprobes⟩ := Prod.mk.inj hnames
  exact ⟨m, hm, hbound, hprobes, forall₂_imports_references hm⟩

end Syntax

end LayerCheck
