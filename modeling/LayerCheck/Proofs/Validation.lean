import LayerCheck.Config.Format
import LayerCheck.Project.Scope
import LayerCheck.Proofs.Except
import LayerCheck.Rule

/-!
What a configuration that was checked can be used for. The checks compile every pattern that the scope
and the rules are made of, so neither of them can fail afterwards.
-/

namespace LayerCheck

namespace Config

/-- Rules pass if they are for a layer that there is, mention no others, and their patterns compile. -/
theorem checkRule_eq_ok {names : List String} {layer : String} {r : RuleEntry} :
    checkRule names layer r = .ok () ↔
      layer ∈ names ∧ (∀ target ∈ r.disallow, target ∈ names) ∧
        ∀ raw ∈ r.classNaming.toList ++ r.functionNaming.toList, ∃ p, matching raw = .ok p := by
  unfold checkRule
  by_cases hlayer : layer ∈ names
  · rw [if_neg (by simpa using hlayer)]
    dsimp only
    split
    · rename_i target hfind
      have htarget : target ∉ names := by simpa using List.find?_some hfind
      have hmem : target ∈ r.disallow := List.mem_of_find?_eq_some hfind
      exact ⟨fun h => by contradiction, fun h => absurd (h.2.1 target hmem) htarget⟩
    · rename_i hfind
      have hall : ∀ target ∈ r.disallow, target ∈ names := by simpa using hfind
      simp only [Except.forM_eq_ok, Except.discard_eq_ok]
      exact ⟨fun h => ⟨hlayer, hall, h⟩, fun h => h.2.2⟩
  · rw [if_pos (by simpa using hlayer)]
    exact ⟨fun h => by contradiction, fun h => absurd h.1 hlayer⟩

theorem validate_eq_ok {c : Config} :
    c.validate = .ok () ↔ checkNames [] c.layers = .ok () ∧
      (∀ raw ∈ c.excludeFiles, ∃ p, searching raw = .ok p) ∧
      ∀ e ∈ c.ruleset.entries, checkRule (c.layers.map (·.name)) e.1 e.2 = .ok () := by
  simp only [validate, Except.check_bind_eq_ok, Except.forM_eq_ok, Except.discard_eq_ok]

theorem decode_eq_ok {base : Path} {d : Document} {c : Config} :
    decode base d = .ok c ↔ ofDocument? base d = some c ∧ c.validate = .ok () := by
  unfold decode
  cases hread : ofDocument? base d with
  | none => simp
  | some read =>
    dsimp only
    rw [Except.check_bind_eq_ok]
    constructor
    · rintro ⟨hvalid, hread⟩
      obtain rfl := Except.ok.inj hread
      exact ⟨rfl, hvalid⟩
    · rintro ⟨hread, hvalid⟩
      obtain rfl := Option.some.inj hread
      exact ⟨hvalid, rfl⟩

theorem parse_eq_ok {content : String} {format : Format} {base : Path} {c : Config} :
    parse content format base = .ok c ↔
      ∃ d, format.read? content = some d ∧ decode base d = .ok c := by
  unfold parse
  cases format.read? content <;> simp

theorem validate_of_parse {content : String} {format : Format} {base : Path} {c : Config}
    (h : parse content format base = .ok c) : c.validate = .ok () := by
  obtain ⟨d, -, hdecode⟩ := parse_eq_ok.1 h
  exact (decode_eq_ok.1 hdecode).2

end Config

theorem Scope.exists_make {c : Config} (h : c.validate = .ok ()) (s : Snapshot) :
    ∃ scope, Scope.make s c.paths c.excludeFiles = .ok scope := by
  obtain ⟨patterns, hpatterns⟩ := Except.exists_mapM_eq_ok (Config.validate_eq_ok.1 h).2.1
  exact ⟨_, Except.map_eq_ok.2 ⟨patterns, hpatterns, rfl⟩⟩

namespace Rule

theorem exists_ofEntry {layer : String} {r : RuleEntry}
    (h : ∀ raw ∈ r.classNaming.toList ++ r.functionNaming.toList, ∃ p, Config.matching raw = .ok p) :
    ∃ rules, ofEntry layer r = .ok rules := by
  obtain ⟨hclasses, hfunctions⟩ := List.forall_mem_append.1 h
  obtain ⟨classes, hclasses⟩ := Except.exists_mapM_eq_ok hclasses
  obtain ⟨functions, hfunctions⟩ := Except.exists_mapM_eq_ok hfunctions
  exact ⟨_, Except.bind_eq_ok.2 ⟨classes, hclasses, Except.map_eq_ok.2 ⟨functions, hfunctions, rfl⟩⟩⟩

theorem exists_ofRuleset {c : Config} (h : c.validate = .ok ()) :
    ∃ rules, ofRuleset c.ruleset = .ok rules := by
  have hentry : ∀ e ∈ c.ruleset.entries, ∃ rules, ofEntry e.1 e.2 = .ok rules := fun e he =>
    exists_ofEntry (Config.checkRule_eq_ok.1 ((Config.validate_eq_ok.1 h).2.2 e he)).2.2
  obtain ⟨rules, hrules⟩ := Except.exists_mapM_eq_ok hentry
  exact ⟨rules.flatten, Except.map_eq_ok.2 ⟨rules, hrules, rfl⟩⟩

end Rule

end LayerCheck
