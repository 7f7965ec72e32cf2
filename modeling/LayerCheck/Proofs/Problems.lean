import LayerCheck.Proofs.Validation

/-!
What is wrong with a configuration. The check of a configuration passes exactly if its layers are named
and told apart, its rules mention layers that there are, and the scope and the rules can be made of it.
Otherwise it tells the first of all problems in the order of the configuration.
-/

namespace LayerCheck

theorem Rule.forall_matching_of_ofRuleset {ruleset : OrderedMap String RuleEntry} {rules : List Rule}
    (h : ofRuleset ruleset = .ok rules) {e : String × RuleEntry} (he : e ∈ ruleset.entries) :
    ∀ raw ∈ e.2.classNaming.toList ++ e.2.functionNaming.toList, ∃ p, Config.matching raw = .ok p := by
  obtain ⟨parts, hparts, -⟩ := Except.map_eq_ok.1 h
  obtain ⟨part, -, hpart⟩ := (Except.matched_of_mapM_eq_ok hparts).left e he
  obtain ⟨classes, hclasses, hpart⟩ := Except.bind_eq_ok.1 hpart
  obtain ⟨functions, hfunctions, -⟩ := Except.map_eq_ok.1 hpart
  intro raw hraw
  rcases List.mem_append.1 hraw with hraw | hraw
  · obtain ⟨p, -, hp⟩ := (Except.matched_of_mapM_eq_ok hclasses).left raw hraw
    exact ⟨p, hp⟩
  · obtain ⟨p, -, hp⟩ := (Except.matched_of_mapM_eq_ok hfunctions).left raw hraw
    exact ⟨p, hp⟩

namespace Config

/-! ### All problems -/

/-- Patterns that do not compile, in their order. -/
def patternProblems (compile : String → Option Pattern) (raws : List String) : List ConfigError :=
  (raws.filter fun raw => (compile raw).isNone).map .invalidPattern

/-- What is wrong with the name of the layer at a position: it is blank, or a layer before has it. -/
def nameProblems (layers : List LayerEntry) (position : Nat) (l : LayerEntry) : List ConfigError :=
  (if l.name.toList.all Unicode.isWhiteSpace then [.invalid .blankLayerName] else []) ++
    if l.name ∈ (layers.take position).map (·.name) then [.invalid (.duplicateLayer l.name)] else []

/-- What is wrong with the rules of a layer: the layer, the layers that they disallow, and the patterns
for classes and functions. -/
def ruleProblems (names : List String) (layer : String) (r : RuleEntry) : List ConfigError :=
  (if layer ∈ names then [] else [.invalid (.undefinedLayer layer)]) ++
    (r.disallow.filter (· ∉ names)).map (fun target => .invalid (.disallowsUndefined layer target)) ++
    patternProblems Pattern.matching? (r.classNaming.toList ++ r.functionNaming.toList)

/-- Everything that is wrong with a configuration: layers in their order, then patterns of files to leave
out, then rules in the order of the layers' names. -/
def problems (c : Config) : List ConfigError :=
  c.layers.zipIdx.flatMap (fun p => nameProblems c.layers p.2 p.1) ++
    patternProblems Pattern.searching? c.excludeFiles ++
    c.ruleset.entries.flatMap fun e => ruleProblems (c.layers.map (·.name)) e.1 e.2

/-! ### The first problem -/

theorem head?_patternProblems {compile : String → Option Pattern}
    {check : String → Except ConfigError Pattern}
    (h : ∀ raw, Except.fault? (check raw) =
      if (compile raw).isNone then some (.invalidPattern raw) else none)
    (raws : List String) :
    Except.fault? (raws.forM fun raw => discard (check raw)) =
      (patternProblems compile raws).head? := by
  have hitem (raw : String) :
      Except.fault? (discard (check raw)) = (patternProblems compile [raw]).head? := by
    rw [Except.fault?_discard, h]
    by_cases hnone : (compile raw).isNone <;> simp [patternProblems, hnone]
  have hall : patternProblems compile raws = raws.flatMap fun raw => patternProblems compile [raw] := by
    induction raws with
    | nil => rfl
    | cons raw raws ih =>
      rw [List.flatMap_cons, ← ih]
      simp only [patternProblems, ← List.map_append, ← List.filter_append, List.singleton_append]
  rw [hall]
  exact Except.fault?_forM fun raw _ => hitem raw

theorem fault?_matching (raw : String) : Except.fault? (matching raw) =
    if (Pattern.matching? raw).isNone then some (.invalidPattern raw) else none := by
  unfold matching
  cases Pattern.matching? raw <;> rfl

theorem fault?_searching (raw : String) : Except.fault? (searching raw) =
    if (Pattern.searching? raw).isNone then some (.invalidPattern raw) else none := by
  unfold searching
  cases Pattern.searching? raw <;> rfl

/-- The names of layers behind others, which were seen already. -/
theorem fault?_checkNames {before layers : List LayerEntry} {seen : List String}
    (hseen : ∀ name, name ∈ seen ↔ name ∈ before.map (·.name)) :
    Except.fault? (checkNames seen layers) =
      ((layers.zipIdx before.length).flatMap fun p =>
        nameProblems (before ++ layers) p.2 p.1).head? := by
  induction layers generalizing before seen with
  | nil => rfl
  | cons l layers ih =>
    have hnext : ∀ name, name ∈ l.name :: seen ↔ name ∈ (before ++ [l]).map (·.name) := by
      intro name
      simp [hseen, or_comm]
    have hrest := ih hnext
    rw [List.length_append, List.append_assoc] at hrest
    have hblank : isBlank l.name ↔ l.name.toList.all Unicode.isWhiteSpace := Iff.rfl
    have htake : (before ++ l :: layers).take before.length = before := List.take_left
    rw [checkNames, List.zipIdx_cons, List.flatMap_cons, List.head?_append]
    dsimp only [nameProblems]
    rw [htake]
    by_cases hname : isBlank l.name
    · rw [if_pos hname, if_pos (hblank.1 hname)]
      rfl
    rw [if_neg hname, if_neg (mt hblank.2 hname), List.nil_append]
    by_cases hdouble : l.name ∈ seen
    · rw [if_pos (by simpa using hdouble), if_pos ((hseen _).1 hdouble)]
      rfl
    · rw [if_neg (by simpa using hdouble), if_neg (mt (hseen _).2 hdouble)]
      exact hrest

theorem fault?_checkRule (names : List String) (layer : String) (r : RuleEntry) :
    Except.fault? (checkRule names layer r) = (ruleProblems names layer r).head? := by
  unfold checkRule ruleProblems
  by_cases hlayer : layer ∈ names
  · have hundefined : r.disallow.find? (fun target => !names.contains target) =
        (r.disallow.filter (· ∉ names)).head? := by
      rw [List.head?_filter]
      congr 1
      funext target
      simp
    rw [if_neg (by simpa using hlayer), if_pos hlayer, List.nil_append, List.head?_append,
      List.head?_map, ← hundefined]
    dsimp only
    cases r.disallow.find? fun target => !names.contains target with
    | some target => rfl
    | none => exact head?_patternProblems fault?_matching _
  · rw [if_pos (by simpa using hlayer), if_neg hlayer]
    rfl

theorem fault?_validate (c : Config) : Except.fault? c.validate = c.problems.head? := by
  have hnames : Except.fault? (checkNames [] c.layers) =
      (c.layers.zipIdx.flatMap fun p => nameProblems ([] ++ c.layers) p.2 p.1).head? :=
    fault?_checkNames (by simp)
  rw [validate, Except.fault?_bind fun _ _ => Except.fault?_bind fun _ _ =>
    Except.fault?_forM fun e _ => fault?_checkRule _ e.1 e.2, hnames,
    head?_patternProblems fault?_searching, problems, List.head?_append, List.head?_append,
    Option.or_assoc]
  rfl

/-! ### Configurations without problems -/

theorem checkNames_eq_ok {seen : List String} {layers : List LayerEntry} :
    checkNames seen layers = .ok () ↔
      (∀ l ∈ layers, ∃ c ∈ l.name.toList, Unicode.isWhiteSpace c = false) ∧
        (layers.map (·.name)).Nodup ∧ ∀ l ∈ layers, l.name ∉ seen := by
  induction layers generalizing seen with
  | nil => simp [checkNames]
  | cons l layers ih =>
    have hblank : isBlank l.name = false ↔ ∃ c ∈ l.name.toList, Unicode.isWhiteSpace c = false := by
      simp [isBlank]
    rw [checkNames, List.forall_mem_cons, List.forall_mem_cons, List.map_cons, List.nodup_cons,
      ← hblank]
    by_cases hname : isBlank l.name
    · simp [hname]
    by_cases hdouble : l.name ∈ seen
    · simp [hname, hdouble]
    -- The name that was seen last is one that none of the layers behind may have.
    have hseen : (∀ x ∈ layers, x.name ∉ l.name :: seen) ↔
        l.name ∉ layers.map (·.name) ∧ ∀ x ∈ layers, x.name ∉ seen := by
      simp only [List.mem_cons, not_or, List.mem_map, not_exists, not_and]
      exact forall₂_and
    rw [if_neg hname, if_neg (by simpa using hdouble), ih, hseen]
    simp only [hname, hdouble]
    grind

/-- The conditions on a configuration. The last ones are those of what is made of it: the scope, in a
file system `s`, and the rules. -/
structure IsValid (c : Config) (s : Snapshot) : Prop where
  named : ∀ l ∈ c.layers, ∃ ch ∈ l.name.toList, Unicode.isWhiteSpace ch = false
  distinct : (c.layers.map (·.name)).Nodup
  scope : ∃ scope, Scope.make s c.paths c.excludeFiles = .ok scope
  defined : ∀ e ∈ c.ruleset.entries, ∀ name ∈ e.1 :: e.2.disallow, ∃ l ∈ c.layers, l.name = name
  rules : ∃ rules, Rule.ofRuleset c.ruleset = .ok rules

theorem validate_eq_ok_iff_isValid (c : Config) (s : Snapshot) :
    c.validate = .ok () ↔ c.IsValid s := by
  constructor
  · intro h
    obtain ⟨hnames, -, hrules⟩ := validate_eq_ok.1 h
    obtain ⟨hnamed, hdistinct, -⟩ := checkNames_eq_ok.1 hnames
    refine ⟨hnamed, hdistinct, Scope.exists_make h s, ?_, Rule.exists_ofRuleset h⟩
    intro e he name hname
    obtain ⟨hlayer, htargets, -⟩ := checkRule_eq_ok.1 (hrules e he)
    rcases List.mem_cons.1 hname with rfl | hname
    · exact List.mem_map.1 hlayer
    · exact List.mem_map.1 (htargets name hname)
  · intro h
    have hdefined (e : String × RuleEntry) (he : e ∈ c.ruleset.entries) (name : String)
        (hname : name ∈ e.1 :: e.2.disallow) : name ∈ c.layers.map (·.name) :=
      List.mem_map.2 (h.defined e he name hname)
    obtain ⟨scope, hscope⟩ := h.scope
    obtain ⟨patterns, hpatterns, -⟩ := Except.map_eq_ok.1 hscope
    obtain ⟨rules, hrules⟩ := h.rules
    refine validate_eq_ok.2 ⟨checkNames_eq_ok.2 ⟨h.named, h.distinct, by simp⟩, ?_, ?_⟩
    · intro raw hraw
      obtain ⟨p, -, hp⟩ := (Except.matched_of_mapM_eq_ok hpatterns).left raw hraw
      exact ⟨p, hp⟩
    · intro e he
      refine checkRule_eq_ok.2 ⟨hdefined e he e.1 List.mem_cons_self, ?_,
        Rule.forall_matching_of_ofRuleset hrules he⟩
      exact fun target htarget => hdefined e he target (List.mem_cons_of_mem _ htarget)

/-- The check passes exactly if the configuration is valid, in whatever file system. It fails exactly
with the first problem, and the rules are gone through by increasing names of layers. -/
theorem validate_exact (c : Config) :
    (∀ s, c.validate = .ok () ↔ c.IsValid s) ∧
      (∀ e, c.validate = .error e ↔ c.problems.head? = some e) ∧ c.ruleset.keys.Pairwise (· < ·) := by
  refine ⟨c.validate_eq_ok_iff_isValid, ?_, ?_⟩
  · intro e
    rw [← fault?_validate, Except.fault?_eq_some_iff]
  · apply List.pairwise_map.2
    exact c.ruleset.increasing.imp fun h => compareOfLessAndEq_eq_lt.1 h

end Config

end LayerCheck
