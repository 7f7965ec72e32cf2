import LayerCheck.Proofs.Collector
import LayerCheck.Proofs.Identifiers
import LayerCheck.Proofs.Outline
import LayerCheck.Proofs.Rule

/-!
Qualified names. A definition is named by those around it, with dots between the names, so its short
name is the name it was defined with. Collectors and rules that ask for names agree therefore, although
the ones look at the definition and the others at the element.
-/

namespace LayerCheck

namespace Syntax

/-! ### Names without dots -/

theorem Name.dot_not_mem (n : Name) : '.' ∉ n.text.toList :=
  dot_not_mem_of_isIdentifier n.isIdentifier

theorem Stmt.isIdentifier_of_mem_enclosing {s : Stmt} {a : Address} {name : String}
    (h : name ∈ s.enclosing a) : isIdentifier name := by
  induction a generalizing s with
  | nil => simp [enclosing] at h
  | cons i a ih =>
    rw [enclosing, List.mem_append] at h
    rcases h with h | h
    · obtain ⟨head, -, rfl⟩ := Option.map_eq_some_iff.1 (Option.mem_toList.1 h)
      exact head.name.isIdentifier
    · cases hget : s.body[i]? with
      | none => simp [hget] at h
      | some t => exact ih (by simpa [hget] using h)

/-- The name that a class or function gets behind those around it. -/
theorem Stmt.DefinesAt.qualifiedName_eq {aliases : Aliases} {s : Stmt} {a : Address} {d : Definition}
    (h : s.DefinesAt aliases [] a d) :
    d.qualifiedName = Segments.join '.' (s.enclosing a ++ [d.name]) := by
  obtain ⟨head, -, rfl⟩ := h
  exact Stmt.qualify_dotted? (s.enclosing a) head.name.text

theorem Stmt.DefinesAt.isIdentifier {aliases : Aliases} {path : List String} {s : Stmt} {a : Address}
    {d : Definition} (h : s.DefinesAt aliases path a d) : Syntax.isIdentifier d.name := by
  obtain ⟨head, -, rfl⟩ := h
  exact head.name.isIdentifier

theorem Stmt.DefinesAt.name_eq {aliases : Aliases} {path : List String} {s : Stmt} {a : Address}
    {d : Definition} (h : s.DefinesAt aliases path a d) {head : Head}
    (hhead : s.headAt? a = some head) : d.name = head.name.text := by
  obtain ⟨head', hhead', rfl⟩ := h
  rw [Option.some.inj (hhead.symm.trans hhead')]
  rfl

/-- A qualified name falls apart into the names it was built from. -/
theorem Stmt.DefinesAt.split_qualifiedName {aliases : Aliases} {s : Stmt} {a : Address}
    {d : Definition} (h : s.DefinesAt aliases [] a d) :
    Segments.split '.' d.qualifiedName = s.enclosing a ++ [d.name] := by
  rw [h.qualifiedName_eq]
  refine Segments.split_join (by simp) fun name hname => ?_
  rcases List.mem_append.1 hname with hname | hname
  · exact dot_not_mem_of_isIdentifier (Stmt.isIdentifier_of_mem_enclosing hname)
  · rw [List.mem_singleton.1 hname]
    exact dot_not_mem_of_isIdentifier h.isIdentifier

theorem Stmt.DefinesAt.split_prefix_enclosing {aliases : Aliases} {s : Stmt} {a : Address}
    {d : Definition} (h : s.DefinesAt aliases [] a d) {w rest : String}
    (hname : d.qualifiedName = w ++ "." ++ rest) : Segments.split '.' w <+: s.enclosing a := by
  have hsplit : s.enclosing a ++ [d.name] = Segments.split '.' w ++ Segments.split '.' rest := by
    rw [← h.split_qualifiedName, hname]
    exact Segments.split_append '.' w rest
  obtain ⟨more, last, hrest⟩ : ∃ more last, Segments.split '.' rest = more ++ [last] :=
    (List.eq_nil_or_concat' _).resolve_left (Segments.split_ne_nil '.' rest)
  rw [hrest, ← List.append_assoc] at hsplit
  exact ⟨more, (List.append_inj' hsplit rfl).1.symm⟩

/-! ### Definitions by their number -/

/-- The module as one statement. -/
abbrev Module.tree (m : Module) : Stmt :=
  .block .suite [] m

/-- The definition that the module has under a number, and the address of its class or function. -/
structure Module.Defines (m : Module) (sites : List Address) (i : Nat) (a : Address) (d : Definition) :
    Prop where
  site : sites[i]? = some a
  definition : m.definitions[i]? = some d

/-- The classes and functions of a module in the order of the text, and how they are qualified. -/
structure Module.Outlines (m : Module) (sites : List Address) : Prop where
  increasing : sites.Pairwise (· < ·)
  mem_iff : ∀ a, a ∈ sites ↔ ∃ head, m.tree.headAt? a = some head
  /-- The first definitions of a module are those at the sites. -/
  defines : ∀ i a, sites[i]? = some a → ∃ d head, m.Defines sites i a d ∧
    m.tree.headAt? a = some head ∧ d.kind = head.kind.elementKind ∧ d.name = head.name.text ∧
      d.line = head.position.line ∧ d.column = head.position.column
  /-- The others are variables. -/
  others : ∀ i d, m.definitions[i]? = some d → (d.kind = .var ↔ sites.length ≤ i)
  nested : ∀ i j a b d p, m.Defines sites i a d → m.Defines sites j b p → m.tree.Encloses b a →
    j < i ∧ d.qualifiedName = p.qualifiedName ++ "." ++ d.name
  outermost : ∀ i a d, m.Defines sites i a d → (∀ b ∈ sites, b <+: a → b = a) →
    d.qualifiedName = d.name
  beginnings : ∀ i a d w rest, m.Defines sites i a d → d.qualifiedName = w ++ "." ++ rest →
    ∃ j b p, j < i ∧ m.Defines sites j b p ∧ p.qualifiedName = w

namespace Module

variable {m : Module}

theorem definitions_eq (m : Module) :
    m.definitions = m.tree.definitions m.aliases none ++
      (statementBoundNames m).map Name.variableDefinition :=
  rfl

theorem forall₂_sites (m : Module) : List.Forall₂ (m.tree.DefinesAt m.aliases [])
    m.tree.sites (m.tree.definitions m.aliases none) :=
  Stmt.forall₂_sites m.aliases [] m.tree

theorem definesAt_of_defines {i : Nat} {a : Address} {d : Definition}
    (h : m.Defines m.tree.sites i a d) : m.tree.DefinesAt m.aliases [] a d := by
  obtain ⟨hsite, hdefinition⟩ := h
  obtain ⟨hlt, rfl⟩ := List.getElem?_eq_some_iff.1 hsite
  have hlength := m.forall₂_sites.length_eq
  rw [definitions_eq, List.getElem?_append_left (by omega)] at hdefinition
  obtain ⟨hlt', rfl⟩ := List.getElem?_eq_some_iff.1 hdefinition
  exact m.forall₂_sites.get hlt hlt'

theorem exists_defines {i : Nat} {a : Address} (h : m.tree.sites[i]? = some a) :
    ∃ d, m.Defines m.tree.sites i a d := by
  obtain ⟨hlt, -⟩ := List.getElem?_eq_some_iff.1 h
  have hlength := m.forall₂_sites.length_eq
  refine ⟨(m.tree.definitions m.aliases none).get ⟨i, by omega⟩, h, ?_⟩
  rw [definitions_eq, List.getElem?_append_left (by omega), List.get_eq_getElem]
  exact List.getElem?_eq_getElem _

theorem lt_of_around {i j : Nat} {a b : Address} (hi : m.tree.sites[i]? = some a)
    (hj : m.tree.sites[j]? = some b) (hba : b <+: a) (hne : b ≠ a) : j < i := by
  obtain ⟨hilt, rfl⟩ := List.getElem?_eq_some_iff.1 hi
  obtain ⟨hjlt, rfl⟩ := List.getElem?_eq_some_iff.1 hj
  have hlt : m.tree.sites[j] < m.tree.sites[i] := Address.lt_of_around hba hne
  rcases Nat.lt_trichotomy j i with h | rfl | h
  · exact h
  · contradiction
  · have hgt := List.pairwise_iff_getElem.1 m.tree.pairwise_sites i j hilt hjlt h
    exact absurd hgt (List.lt_asymm hlt)

theorem outlines (m : Module) : m.Outlines m.tree.sites where
  increasing := m.tree.pairwise_sites
  mem_iff a := Stmt.mem_sites
  defines i a h := by
    obtain ⟨d, hd⟩ := exists_defines h
    obtain ⟨head, hhead, rfl⟩ := definesAt_of_defines hd
    exact ⟨_, head, hd, hhead, rfl, rfl, rfl, rfl⟩
  others i d h := by
    have hlength := m.forall₂_sites.length_eq
    rcases Nat.lt_or_ge i m.tree.sites.length with hlt | hge
    · obtain ⟨a, ha⟩ : ∃ a, m.tree.sites[i]? = some a := ⟨_, List.getElem?_eq_getElem hlt⟩
      obtain ⟨head, -, rfl⟩ := definesAt_of_defines ⟨ha, h⟩
      have hkind : head.kind.elementKind ≠ .var := by
        cases head.kind <;> simp [DefinitionKind.elementKind]
      exact iff_of_false hkind (by omega)
    · rw [definitions_eq, List.getElem?_append_right (by omega)] at h
      obtain ⟨n, -, rfl⟩ := List.mem_map.1 (List.mem_of_getElem? h)
      exact iff_of_true rfl hge
  nested i j a b d p hd hp h := by
    refine ⟨lt_of_around hd.site hp.site h.isPrefix h.ne, ?_⟩
    obtain ⟨head, hhead⟩ := h.defines
    have hdefines := definesAt_of_defines hp
    rw [(definesAt_of_defines hd).qualifiedName_eq, hdefines.qualifiedName_eq,
      Stmt.enclosing_of_encloses h hhead, hdefines.name_eq hhead,
      Segments.join_append (by simp) (by simp)]
    rfl
  outermost i a d hd h := by
    have hnone : m.tree.enclosing a = [] := by
      refine Stmt.enclosing_eq_nil fun b hb hne => ?_
      refine Option.eq_none_iff_forall_ne_some.2 fun head hhead => hne ?_
      exact h b (Stmt.mem_sites.2 ⟨head, hhead⟩) hb
    rw [(definesAt_of_defines hd).qualifiedName_eq, hnone]
    rfl
  beginnings i a d w rest hd h := by
    have hbeginning := (definesAt_of_defines hd).split_prefix_enclosing h
    obtain ⟨b, head, hba, hne, hhead, hw⟩ :=
      Stmt.exists_of_prefix_enclosing (Segments.split_ne_nil '.' w) hbeginning
    obtain ⟨j, hj⟩ := List.mem_iff_getElem?.1 (Stmt.mem_sites.2 ⟨head, hhead⟩)
    obtain ⟨p, hp⟩ := exists_defines hj
    have hdefines := definesAt_of_defines hp
    refine ⟨j, b, p, lt_of_around hd.site hj hba hne, hp, ?_⟩
    rw [hdefines.qualifiedName_eq, hdefines.name_eq hhead, ← hw, Segments.join_split]

/-- The part of a qualified name behind its last dot is the name that was defined. -/
theorem shortName_toElement {d : Definition} (h : d ∈ m.definitions) (file : Path) :
    (d.toElement file).shortName = d.name := by
  rw [definitions_eq, List.mem_append] at h
  rcases h with h | h
  · obtain ⟨a, -, hdefines⟩ := (Matched.of_forall₂ m.forall₂_sites).right d h
    simp [Element.shortName, Definition.toElement, Segments.last, hdefines.split_qualifiedName]
  · obtain ⟨n, -, rfl⟩ := List.mem_map.1 h
    exact Segments.last_of_not_mem n.dot_not_mem

end Module

end Syntax

/-! ### Collectors and rules -/

/-- What is defined at a path is defined in a module. -/
theorem Snapshot.exists_module_of_mem_facts {s : Snapshot} {p : Path} {d : Definition}
    (h : d ∈ (s.facts p).definitions) : ∃ m : Syntax.Module, d ∈ m.definitions := by
  unfold facts at h
  split at h
  · exact ⟨_, h⟩
  · contradiction

theorem Snapshot.shortName_of_mem_facts {s : Snapshot} {p : Path} {d : Definition}
    (h : d ∈ (s.facts p).definitions) (file : Path) : (d.toElement file).shortName = d.name := by
  obtain ⟨m, hd⟩ := exists_module_of_mem_facts h
  exact m.shortName_toElement hd file

/-- The kind of collector that asks for the names of classes or of functions, and the option with the
pattern of the names. -/
def Syntax.DefinitionKind.nameOption : DefinitionKind → String
  | .cls => "class_name_regex"
  | .function => "function_name_regex"

/-- The pattern that a rule has for the names of classes or of functions. -/
def RuleEntry.naming (r : RuleEntry) : Syntax.DefinitionKind → Option String
  | .cls => r.classNaming
  | .function => r.functionNaming

/-- The leaf that asks for names. -/
def Leaf.ofNames (p : Pattern) : Syntax.DefinitionKind → Leaf
  | .cls => ⟨.classNameRegex p, none⟩
  | .function => ⟨.functionNameRegex p, none⟩

/-- The entry asks for names that match a pattern, in all files. -/
structure CollectorEntry.NamesBy (c : CollectorEntry) (kind : Syntax.DefinitionKind) (raw : String) :
    Prop where
  collects : c.kind = kind.nameOption
  pattern : c.options.get? kind.nameOption = some (.text raw)
  exclude : c.options.get? "exclude_files_regex" = none

variable {kind : Syntax.DefinitionKind} {raw : String} {p : Pattern}

theorem CollectorEntry.NamesBy.build_eq {c : CollectorEntry} (h : c.NamesBy kind raw) (hraw : raw ≠ "")
    (hp : Pattern.matching? raw = some p) : Collector.build c = .ok (.leaf (.ofNames p kind)) := by
  have hpattern : c.pattern kind.nameOption = .ok p := by
    have htext : c.text kind.nameOption = .ok raw := by
      simp [text, text?, h.pattern, hraw, bind, Except.bind]
    exact Except.bind_eq_ok.2 ⟨raw, htext, Config.matching_eq_ok.2 hp⟩
  have hexclude : c.exclude = .ok none := by
    simp [CollectorEntry.exclude, patternIfAny, textIfAny, text?, h.exclude, bind, Except.bind, pure,
      Except.pure]
  have hcollects := h.collects
  cases kind with
  | cls =>
    have hleaf : c.leaf = c.classNameRegex := by
      simp [leaf, hcollects, Syntax.DefinitionKind.nameOption]
    refine (Collector.build_leaf_eq_ok (by simp [hcollects, Syntax.DefinitionKind.nameOption])).2
      ⟨_, hleaf.trans ?_, rfl⟩
    exact Except.bind_eq_ok.2 ⟨p, hpattern, Except.map_eq_ok.2 ⟨none, hexclude, rfl⟩⟩
  | function =>
    have hleaf : c.leaf = c.functionNameRegex := by
      simp [leaf, hcollects, Syntax.DefinitionKind.nameOption]
    refine (Collector.build_leaf_eq_ok (by simp [hcollects, Syntax.DefinitionKind.nameOption])).2
      ⟨_, hleaf.trans ?_, rfl⟩
    exact Except.bind_eq_ok.2 ⟨p, hpattern, Except.map_eq_ok.2 ⟨none, hexclude, rfl⟩⟩

theorem Leaf.admits_ofNames {d : Definition} :
    (Leaf.ofNames p kind).test.admits d ↔ d.kind = kind.elementKind ∧ p.isMatch d.name := by
  cases kind <;> simp [Leaf.ofNames, Test.admits, Syntax.DefinitionKind.elementKind]

theorem Leaf.files_ofNames (scope : Scope) (s : Snapshot) :
    (Leaf.ofNames p kind).files scope s = scope.files s none := by
  cases kind <;> rfl

/-- The name that a leaf looks at is the short name of the element. -/
theorem Leaf.mem_collect_ofNames {scope : Scope} {s : Snapshot} {e : Element}
    (he : e ∈ scope.universe s s.facts) (hkind : e.kind = kind.elementKind) :
    e ∈ (Leaf.ofNames p kind).collect scope s s.facts ↔ p.isMatch e.shortName := by
  simp only [Leaf.mem_collect, Leaf.files_ofNames, Leaf.admits_ofNames]
  constructor
  · rintro ⟨f, -, d, hd, ⟨-, hmatch⟩, rfl⟩
    rwa [Snapshot.shortName_of_mem_facts hd]
  · intro hmatch
    obtain ⟨f, hf, d, hd, rfl⟩ := Scope.mem_universe.1 he
    rw [Snapshot.shortName_of_mem_facts hd] at hmatch
    exact ⟨f, hf, d, hd, ⟨hkind, hmatch⟩, rfl⟩

theorem Rule.forall_checkElement_eq_none_iff {ruleset : OrderedMap String RuleEntry} {rules : List Rule}
    (hrules : ofRuleset ruleset = .ok rules) {layer : String} {r : RuleEntry}
    (hr : ruleset.get? layer = some r) (hnaming : r.naming kind = some raw)
    (hp : Pattern.matching? raw = some p) {e : Element} (hkind : e.kind = kind.elementKind) :
    (∀ rule ∈ rules, rule.checkElement layer e = none) ↔ p.isMatch e.shortName := by
  have hflagged : (∃ v, ∃ rule ∈ rules, rule.checkElement layer e = some v) ↔
      p.isMatch e.shortName = false := by
    simp only [exists_checkElement_iff hrules, hr, Option.some.injEq, exists_eq_left']
    constructor
    · rintro ⟨v, raw', p', hp', hmatch, hnamed⟩
      have hnaming' : r.naming kind = some raw' := by
        rcases hnamed with ⟨hcls, hraw, -⟩ | ⟨hfunc, hraw, -⟩
        · rw [hkind] at hcls
          cases kind with
          | cls => exact hraw
          | function => contradiction
        · rw [hkind] at hfunc
          cases kind with
          | cls => contradiction
          | function => exact hraw
      obtain rfl : raw = raw' := Option.some.inj (hnaming.symm.trans hnaming')
      rwa [Option.some.inj (hp.symm.trans hp')]
    · intro hmatch
      cases kind with
      | cls => exact ⟨_, raw, p, hp, hmatch, .inl ⟨hkind, hnaming, rfl⟩⟩
      | function => exact ⟨_, raw, p, hp, hmatch, .inr ⟨hkind, hnaming, rfl⟩⟩
  rw [← Bool.not_eq_false, ← hflagged]
  constructor
  · rintro h ⟨v, rule, hrule, hv⟩
    rw [h rule hrule] at hv
    contradiction
  · intro h rule hrule
    exact Option.eq_none_iff_forall_ne_some.2 fun v hv => h ⟨v, rule, hrule, hv⟩

/-- Qualified names are built from the names around a definition and lead back to its own name, so
that collectors of names take exactly the elements that rules of names let pass. -/
theorem qualified_names_agree :
    (∀ m : Syntax.Module, (∃ sites, m.Outlines sites) ∧
      ∀ d ∈ m.definitions, ∀ file, (d.toElement file).shortName = d.name) ∧
    ∀ (kind : Syntax.DefinitionKind) (raw : String) (entry : CollectorEntry), raw ≠ "" →
      (Pattern.matching? raw).isSome → entry.NamesBy kind raw →
        ∃ collector, Collector.build entry = .ok collector ∧
          ∀ (scope : Scope) (s : Snapshot) ruleset rules layer r, Rule.ofRuleset ruleset = .ok rules →
            ruleset.get? layer = some r → r.naming kind = some raw →
              ∀ e ∈ scope.universe s s.facts, e.kind = kind.elementKind →
                (e ∈ collector.collect scope s s.facts ↔
                  ∀ rule ∈ rules, rule.checkElement layer e = none) := by
  refine ⟨fun m => ⟨⟨_, m.outlines⟩, fun d hd => m.shortName_toElement hd⟩, ?_⟩
  intro kind raw entry hraw hvalid hentry
  obtain ⟨p, hp⟩ := Option.isSome_iff_exists.1 hvalid
  refine ⟨_, hentry.build_eq hraw hp, ?_⟩
  intro scope s ruleset rules layer r hrules hr hnaming e he hkind
  rw [Rule.forall_checkElement_eq_none_iff hrules hr hnaming hp hkind]
  exact Leaf.mem_collect_ofNames he hkind

namespace Methods

/-- A function in a block of a class, and one beside the class. -/
def source : String :=
  "class A:\n    if x:\n        def f(self): pass\ndef g(): pass\nv = A\n"

def snapshot : Snapshot :=
  ({} : Snapshot).set ["a.py"] (.file (some source))

def scope : Scope := ⟨[[]], []⟩

def entry : CollectorEntry where
  kind := "function_name_regex"
  options := .ofList [("function_name_regex", .text "[a-f]")]

def rule : RuleEntry := { functionNaming := some "[a-f]" }

def ruleset : OrderedMap String RuleEntry := .ofList [("core", rule)]

theorem namesBy : entry.NamesBy .function "[a-f]" where
  collects := rfl
  pattern := rfl
  exclude := rfl

theorem names_agree_of_methods : ∃ m sites collector rules,
    parseSource ⟨"/a.py"⟩ source = .ok m ∧
      m.definitions.map (·.qualifiedName) = ["A", "A.f", "g", "v"] ∧ m.Outlines sites ∧
      Collector.build entry = .ok collector ∧ Rule.ofRuleset ruleset = .ok rules ∧
      (collector.collect scope snapshot snapshot.facts).toList.map (·.name) = ["A.f"] ∧
      ∀ e ∈ scope.universe snapshot snapshot.facts, e.kind = .func →
        (e ∈ collector.collect scope snapshot snapshot.facts ↔
          ∀ rule ∈ rules, rule.checkElement "core" e = none) := by
  obtain ⟨m, hm, hdefinitions⟩ : ∃ m, parseSource ⟨"/a.py"⟩ source = .ok m ∧
      m.definitions.map (·.qualifiedName) = ["A", "A.f", "g", "v"] :=
    Except.exists_of_map_toOption (by decide +kernel)
  obtain ⟨k, hk, hcollect⟩ : ∃ k, Collector.build entry = .ok k ∧
      (k.collect scope snapshot snapshot.facts).toList.map (·.name) = ["A.f"] :=
    Except.exists_of_map_toOption (by decide +kernel)
  obtain ⟨rules, hrules, -⟩ : ∃ rules, Rule.ofRuleset ruleset = .ok rules ∧ rules.length = 1 :=
    Except.exists_of_map_toOption (by decide +kernel)
  obtain ⟨hmodules, hnames⟩ := qualified_names_agree
  obtain ⟨sites, hsites⟩ := (hmodules m).1
  obtain ⟨collector, hbuild, hagree⟩ :=
    hnames .function "[a-f]" entry (by decide) (by decide +kernel) namesBy
  obtain rfl : k = collector := Except.ok.inj (hk.symm.trans hbuild)
  exact ⟨m, sites, k, rules, hm, hdefinitions, hsites, hbuild, hrules, hcollect,
    hagree scope snapshot ruleset rules "core" rule hrules (by decide) rfl⟩

end Methods

end LayerCheck
