import LayerCheck.Proofs.Except
import LayerCheck.Proofs.ImportAgreement
import LayerCheck.Proofs.OrderedSet
import LayerCheck.Proofs.Qualification

/-!
Inheritance. A base of a class is a name, or a chain of members on a name, and the last import that
binds the name says what it stands for. A class inherits from a target whose segments are the last ones
of a base.
-/

namespace LayerCheck

/-- The segments of the target are the last ones of the base. -/
theorem Definition.baseEndsIn_iff {target base : String} :
    Definition.baseEndsIn target base ↔ Segments.split '.' target <:+ Segments.split '.' base := by
  have hends : Definition.baseEndsIn target base ↔
      base = target ∨ ∃ before, base = before ++ String.singleton '.' ++ target := by
    simp only [Definition.baseEndsIn, Bool.or_eq_true, beq_iff_eq, List.isSuffixOf_iff_suffix]
    refine or_congr_right ⟨?_, ?_⟩
    · rintro ⟨before, hbase⟩
      refine ⟨String.ofList before, String.toList_inj.1 ?_⟩
      simp [← hbase]
    · rintro ⟨before, rfl⟩
      exact ⟨before.toList, by simp⟩
  rw [hends]
  constructor
  · rintro (rfl | ⟨before, rfl⟩)
    · exact List.suffix_rfl
    · rw [Segments.split_append]
      exact List.suffix_append ..
  · rintro ⟨before, hsplit⟩
    have hbase := congrArg (Segments.join '.') hsplit
    rw [Segments.join_split] at hbase
    by_cases hbefore : before = []
    · left
      rw [← hbase, hbefore, List.nil_append, Segments.join_split]
    · right
      refine ⟨Segments.join '.' before, ?_⟩
      rw [← hbase, Segments.join_append hbefore (Segments.split_ne_nil '.' target), Segments.join_split]

namespace Syntax

/-! ### Chains of members -/

/-- A name and the members taken from it one after the other. -/
def Expr.chain (head : Name) (members : List Name) : Expr :=
  members.foldl .attribute (.name head)

theorem Expr.chain_concat (head : Name) (members : List Name) (member : Name) :
    chain head (members ++ [member]) = .attribute (chain head members) member :=
  List.foldl_concat ..

/-- What a name stands for under the imports. -/
def standsFor (aliases : Aliases) (name : String) : String :=
  (aliases.get? name).getD name

/-- No name stands for the empty text. -/
def NonemptyTargets (aliases : Aliases) : Prop :=
  ∀ name, aliases.get? name ≠ some ""

theorem nonemptyTargets_empty : NonemptyTargets ∅ := by
  intro name h
  simp at h

theorem Name.text_ne_empty (n : Name) : n.text ≠ "" :=
  ne_empty_of_isIdentifier n.isIdentifier

theorem standsFor_ne_empty {aliases : Aliases} (h : NonemptyTargets aliases) (n : Name) :
    standsFor aliases n.text ≠ "" := by
  unfold standsFor
  cases hget : aliases.get? n.text with
  | none => exact n.text_ne_empty
  | some target =>
    intro hempty
    exact h n.text (hget.trans (congrArg some hempty))

/-- In a chain only the head is resolved. -/
theorem Expr.resolved_chain {aliases : Aliases} (h : NonemptyTargets aliases) (head : Name)
    (members : List Name) : (chain head members).resolved aliases =
      Segments.join '.' (standsFor aliases head.text :: members.map (·.text)) := by
  induction members using List.reverseRecOn with
  | nil => rfl
  | append_singleton members member ih =>
    have hne := Segments.join_ne_empty '.' (standsFor_ne_empty h head) (members.map (·.text))
    have hlast : (chain head (members ++ [member])).resolved aliases =
        (chain head members).resolved aliases ++ "." ++ member.text := by
      simp [chain_concat, resolved, ih, hne]
    rw [hlast, ih, List.map_append, ← List.cons_append, Segments.join_append (by simp) (by simp)]
    rfl

theorem Expr.exists_chain {aliases : Aliases} : (e : Expr) → e.resolved aliases ≠ "" →
    ∃ head members, e = chain head members
  | .name n, _ => ⟨n, [], rfl⟩
  | .attribute value member, h => by
    have hvalue : value.resolved aliases ≠ "" := by
      intro hempty
      simp [resolved, hempty] at h
    obtain ⟨head, members, rfl⟩ := value.exists_chain hvalue
    exact ⟨head, members ++ [member], (chain_concat head members member).symm⟩
  | .call _ _, h | .binding _ _, h | .group _ _, h => absurd rfl h

theorem Expr.dotted_eq (e : Expr) : e.dotted = e.resolved ∅ := by
  fun_induction dotted e with
  | case1 n => rfl
  | case2 value member head hempty ih =>
    rw [resolved, ← ih]
    exact (if_pos hempty).symm
  | case3 value member head hne ih =>
    rw [resolved, ← ih]
    exact (if_neg hne).symm
  | case4 e hname hattribute =>
    cases e with
    | name n => exact absurd rfl (hname n)
    | «attribute» value member => exact absurd rfl (hattribute value member)
    | _ => rfl

/-- Under the imports the head of an expression is replaced, and nothing else. -/
theorem Expr.resolved_eq {aliases : Aliases} (h : NonemptyTargets aliases) {e : Expr}
    (he : e.dotted ≠ "") : ∃ head members, e = chain head members ∧
      e.dotted = Segments.join '.' (head.text :: members.map (·.text)) ∧
      e.resolved aliases = Segments.join '.' (standsFor aliases head.text :: members.map (·.text)) := by
  rw [e.dotted_eq] at he ⊢
  obtain ⟨head, members, rfl⟩ := e.exists_chain he
  exact ⟨head, members, rfl, resolved_chain nonemptyTargets_empty head members,
    resolved_chain h head members⟩

theorem Expr.resolved_eq_empty_iff {aliases : Aliases} (h : NonemptyTargets aliases) (e : Expr) :
    e.resolved aliases = "" ↔ e.dotted = "" := by
  rw [e.dotted_eq, ← not_iff_not]
  constructor
  · intro he
    obtain ⟨head, members, rfl⟩ := e.exists_chain he
    rw [resolved_chain nonemptyTargets_empty]
    exact Segments.join_ne_empty '.' (standsFor_ne_empty nonemptyTargets_empty head) _
  · intro he
    obtain ⟨head, members, rfl⟩ := e.exists_chain he
    rw [resolved_chain h]
    exact Segments.join_ne_empty '.' (standsFor_ne_empty h head) _

/-! ### Modules that are imported -/

theorem IsDotted.sourceText_ne_empty {tokens : List Token} (h : IsDotted tokens) :
    sourceText tokens ≠ "" := by
  cases h with
  | word h => simpa [sourceText] using ne_empty_of_isIdentifier h.2
  | dot h => simp [sourceText, ne_empty_of_isIdentifier h.2]

theorem ImportedName.Written.text_ne_empty {n : ImportedName} {tokens : List Token}
    (h : n.Written tokens) : n.text ≠ "" := by
  cases h with
  | plain h => exact h.sourceText_ne_empty
  | aliased h => exact h.sourceText_ne_empty

theorem NamesWritten.text_ne_empty {names : List ImportedName} {tokens : List Token}
    (h : NamesWritten names tokens) : ∀ n ∈ names, n.text ≠ "" := by
  induction h with
  | last h => simpa using h.text_ne_empty
  | trailing h => simpa using h.text_ne_empty
  | more h _ _ ih => exact List.forall_mem_cons.2 ⟨h.text_ne_empty, ih⟩

theorem ListWritten.text_ne_empty {names : List ImportedName} {tokens : List Token}
    (h : ListWritten names tokens) : ∀ n ∈ names, n.text ≠ "" := by
  cases h with
  | bare h => exact h.text_ne_empty
  | bracketed _ h => exact h.text_ne_empty

theorem Stmt.ImportWritten.module_ne_empty {s : Stmt} {tokens : List Token} (h : s.ImportWritten tokens) :
    ∀ r ∈ s.imports, r.module ≠ "" := by
  cases h with
  | modules _ h =>
    intro r hr
    obtain ⟨n, hn, rfl⟩ := List.mem_map.1 hr
    exact h.text_ne_empty n hn
  | members _ _ _ _ h =>
    intro r hr
    obtain ⟨n, hn, rfl⟩ := List.mem_map.1 hr
    have hname := h.text_ne_empty n hn
    simp only [ImportRecord.ofMember]
    split
    · exact hname
    · simp [hname]
  | everything => simp [Stmt.imports]

theorem module_ne_empty_of_parse {source : String} {m : Module} (h : parse source = .ok m) :
    ∀ r ∈ m.imports, r.module ≠ "" := by
  intro r hr
  have hmem : r ∈ importsOf m := hr
  rw [importsOf_eq] at hmem
  obtain ⟨s, hs, hr⟩ := List.mem_flatMap.1 hmem
  obtain ⟨tokens, -, hwritten⟩ := (importsWritten_of_parse h).exists_piece hs
  exact hwritten.module_ne_empty r hr

/-- The last import that binds a name. -/
def lastImport? (records : List ImportRecord) (name : String) : Option ImportRecord :=
  records.reverse.find? (·.boundName = name)

theorem get?_ofImports (records : List ImportRecord) (name : String) :
    (Aliases.ofImports records).get? name = (lastImport? records name).map (·.module) := by
  rw [Aliases.ofImports, OrderedMap.get?_ofList, ← List.map_reverse, List.find?_map, Option.map_map]
  rfl

theorem nonemptyTargets_of_parse {source : String} {m : Module} (h : parse source = .ok m) :
    NonemptyTargets m.aliases := by
  intro name hget
  rw [Module.aliases, get?_ofImports, Option.map_eq_some_iff] at hget
  obtain ⟨r, hr, hempty⟩ := hget
  have hmem : r ∈ m.imports := List.mem_reverse.1 (List.mem_of_find?_eq_some hr)
  exact module_ne_empty_of_parse h r hmem hempty

/-! ### Bases -/

/-- What a name stands for in a module: the module of the last import that binds it, or itself. -/
def Module.standsFor (m : Module) (name : String) : String :=
  ((lastImport? m.imports name).map (·.module)).getD name

theorem Module.standsFor_eq (m : Module) (name : String) :
    m.standsFor name = Syntax.standsFor m.aliases name := by
  rw [Module.standsFor, Syntax.standsFor, Module.aliases, get?_ofImports]

theorem mem_basesOf {aliases : Aliases} (h : NonemptyTargets aliases) {arguments : List Expr}
    {base : String} : base ∈ basesOf aliases arguments ↔
      ∃ head members, Expr.chain head members ∈ arguments ∧
        base = Segments.join '.' (standsFor aliases head.text :: members.map (·.text)) := by
  simp only [basesOf, List.mem_filter, List.mem_map, Bool.not_eq_true', String.isEmpty_eq_false_iff]
  constructor
  · rintro ⟨⟨e, he, rfl⟩, hne⟩
    obtain ⟨head, members, rfl⟩ := e.exists_chain hne
    exact ⟨head, members, he, Expr.resolved_chain h head members⟩
  · rintro ⟨head, members, hmem, rfl⟩
    exact ⟨⟨_, hmem, Expr.resolved_chain h head members⟩,
      Segments.join_ne_empty '.' (standsFor_ne_empty h head) _⟩

/-- A class inherits from what its bases end in, when their heads are resolved by the last import of the
name; and resolving changes nothing but the head. -/
theorem inheritsFrom_iff_suffix :
    (∀ {source : String} {m : Module}, parse source = .ok m →
      ∀ {i : Nat} {a : Address} {d : Definition} {head : Head}, m.Defines m.tree.sites i a d →
        m.tree.headAt? a = some head → head.kind = .cls → ∀ target : String,
          (d.inheritsFrom target ↔ ∃ first members, Expr.chain first members ∈ head.arguments ∧
            Segments.split '.' target <:+
              Segments.split '.' (Segments.join '.' (m.standsFor first.text :: members.map (·.text))))) ∧
    ∀ (e : Expr) (aliases : Aliases), (∀ name, aliases.get? name ≠ some "") →
      (e.resolved aliases = "" ↔ e.dotted = "") ∧
      (e.dotted ≠ "" → ∃ first members, e = Expr.chain first members ∧
        e.dotted = Segments.join '.' (first.text :: members.map (·.text)) ∧
        e.resolved aliases =
          Segments.join '.' ((aliases.get? first.text).getD first.text :: members.map (·.text))) := by
  refine ⟨?_, fun e aliases h => ⟨e.resolved_eq_empty_iff h, fun he => e.resolved_eq h he⟩⟩
  intro source m h i a d head hd hhead hkind target
  have hbases : d.bases = basesOf m.aliases head.arguments := by
    obtain ⟨head', hhead', rfl⟩ := Module.definesAt_of_defines hd
    obtain rfl : head = head' := Option.some.inj (hhead.symm.trans hhead')
    simp [Head.definition, hkind]
  rw [Definition.inheritsFrom, hbases, List.any_eq_true]
  simp only [mem_basesOf (nonemptyTargets_of_parse h), Definition.baseEndsIn_iff, m.standsFor_eq]
  constructor
  · rintro ⟨base, ⟨first, members, hmem, rfl⟩, hsuffix⟩
    exact ⟨first, members, hmem, hsuffix⟩
  · rintro ⟨first, members, hmem, hsuffix⟩
    exact ⟨_, ⟨first, members, hmem, rfl⟩, hsuffix⟩

/-- A name that is imported twice, the second time in a block behind the class. -/
def rebound : String :=
  "import a.b as c\nclass D(c.Model, f().Base, metaclass=E): pass\nif g:\n  from h import BaseModel as c\n"

theorem inheritsFrom_iff_suffix_rebound : ∃ m d head, parse rebound = .ok m ∧
    m.Defines m.tree.sites 0 [1] d ∧ m.tree.headAt? [1] = some head ∧ head.kind = .cls ∧
    (∃ first members, Expr.chain first members ∈ head.arguments ∧
      Segments.split '.' "BaseModel.Model" <:+
        Segments.split '.' (Segments.join '.' (m.standsFor first.text :: members.map (·.text)))) ∧
    ¬∃ first members, Expr.chain first members ∈ head.arguments ∧
      Segments.split '.' "b.Model" <:+
        Segments.split '.' (Segments.join '.' (m.standsFor first.text :: members.map (·.text))) := by
  obtain ⟨m, hm, hfacts⟩ : ∃ m, parse rebound = .ok m ∧
      (m.tree.sites[0]?, (m.tree.headAt? [1]).map (·.kind), m.definitions[0]?.map fun d =>
        (d.inheritsFrom "BaseModel.Model", d.inheritsFrom "b.Model")) =
      (some [1], some .cls, some (true, false)) :=
    Except.exists_of_map_toOption (by decide +kernel)
  simp only [Prod.mk.injEq, Option.map_eq_some_iff] at hfacts
  obtain ⟨hsite, ⟨head, hhead, hkind⟩, d, hd, hyes, hno⟩ := hfacts
  have hiff := inheritsFrom_iff_suffix.1 hm ⟨hsite, hd⟩ hhead hkind
  exact ⟨m, d, head, hm, ⟨hsite, hd⟩, hhead, hkind, (hiff _).1 hyes,
    fun h => Bool.eq_false_iff.1 hno ((hiff _).2 h)⟩

end Syntax

end LayerCheck
