import LayerCheck.Proofs.Build
import LayerCheck.Rule

/-!
The rules of a ruleset, and what they find at one dependency or one element.
-/

namespace LayerCheck

namespace Rule

/-- The rules that an entry asks for at its layer. -/
inductive Asks (layer : String) (r : RuleEntry) : Rule → Prop where
  | dependency (h : r.disallow ≠ []) : Asks layer r (.layerDependency layer (.ofList r.disallow))
  | classes {raw : String} {p : Pattern} (hraw : r.classNaming = some raw)
      (hp : Pattern.matching? raw = some p) : Asks layer r (.classNaming layer p)
  | functions {raw : String} {p : Pattern} (hraw : r.functionNaming = some raw)
      (hp : Pattern.matching? raw = some p) : Asks layer r (.functionNaming layer p)

theorem mem_of_mapM_matching {raw : Option String} {ps : List Pattern}
    (h : raw.toList.mapM Config.matching = .ok ps) {p : Pattern} :
    p ∈ ps ↔ ∃ text, raw = some text ∧ Pattern.matching? text = some p := by
  simp [Except.mem_of_mapM_eq_ok h, Config.matching_eq_ok]

theorem mem_ofEntry {layer : String} {r : RuleEntry} {rules : List Rule}
    (h : ofEntry layer r = .ok rules) {rule : Rule} : rule ∈ rules ↔ Asks layer r rule := by
  simp only [ofEntry, Except.bind_eq_ok] at h
  obtain ⟨classes, hclasses, functions, hfunctions, h⟩ := h
  obtain rfl := Except.ok.inj h
  simp only [List.mem_append, List.mem_map, mem_of_mapM_matching hclasses,
    mem_of_mapM_matching hfunctions]
  constructor
  · rintro ((hmem | ⟨p, ⟨raw, hraw, hp⟩, rfl⟩) | ⟨p, ⟨raw, hraw, hp⟩, rfl⟩)
    · split at hmem
      · simp at hmem
      · rename_i hne
        rw [List.mem_singleton.1 hmem]
        exact .dependency (by simpa using hne)
    · exact .classes hraw hp
    · exact .functions hraw hp
  · rintro (hne | ⟨hraw, hp⟩ | ⟨hraw, hp⟩)
    · exact .inl (.inl (by simp [hne]))
    · exact .inl (.inr ⟨_, ⟨_, hraw, hp⟩, rfl⟩)
    · exact .inr ⟨_, ⟨_, hraw, hp⟩, rfl⟩

/-- The rules of a ruleset are those that its entries ask for. -/
theorem mem_ofRuleset {ruleset : OrderedMap String RuleEntry} {rules : List Rule}
    (h : ofRuleset ruleset = .ok rules) {rule : Rule} :
    rule ∈ rules ↔ ∃ layer r, ruleset.get? layer = some r ∧ Asks layer r rule := by
  obtain ⟨groups, hgroups, rfl⟩ := Except.map_eq_ok.1 h
  have hentry (layer : String) (r : RuleEntry) :
      (layer, r) ∈ ruleset.entries ↔ ruleset.get? layer = some r :=
    OrderedMap.mem_entries_iff (lawfulOn_of_lawfulEqOrd fun _ => True) (fun _ _ => trivial) trivial
  simp only [List.mem_flatten, Except.mem_of_mapM_eq_ok hgroups, Prod.exists, hentry]
  constructor
  · rintro ⟨group, ⟨layer, r, hget, hgroup⟩, hrule⟩
    exact ⟨layer, r, hget, (mem_ofEntry hgroup).1 hrule⟩
  · rintro ⟨layer, r, hget, hasks⟩
    obtain ⟨group, -, hgroup⟩ :=
      (Except.matched_of_mapM_eq_ok hgroups).left (layer, r) ((hentry layer r).2 hget)
    exact ⟨group, ⟨layer, r, hget, hgroup⟩, (mem_ofEntry hgroup).2 hasks⟩

section Checks

variable {ruleset : OrderedMap String RuleEntry} {rules : List Rule}
  (h : ofRuleset ruleset = .ok rules) {v : Violation}
include h

/-- A dependency is found fault with exactly if the rules of its source's layer disallow the other
layer that its target belongs to. -/
theorem exists_checkEdge_iff {source target : String} {d : Dependency} :
    (∃ rule ∈ rules, rule.checkEdge source target d = some v) ↔
      source ≠ target ∧ ∃ r, ruleset.get? source = some r ∧ target ∈ r.disallow ∧
        v = .atEdge d .layerDependency (dependencyMessage source target d) := by
  have hcontains (r : RuleEntry) :
      (OrderedSet.ofList r.disallow).contains target ↔ target ∈ r.disallow := by
    have hlawful := lawfulOn_of_lawfulEqOrd fun _ : String => True
    rw [OrderedSet.contains_iff hlawful (fun _ _ => trivial) trivial,
      OrderedSet.mem_ofList hlawful fun _ _ => trivial]
  constructor
  · rintro ⟨rule, hrule, hv⟩
    obtain ⟨layer, r, hget, hasks⟩ := (mem_ofRuleset h).1 hrule
    cases hasks with
    | dependency hne =>
      simp only [checkEdge, hcontains] at hv
      split at hv
      · rename_i hcond
        obtain ⟨rfl, hother, hmem⟩ := hcond
        exact ⟨hother, r, hget, hmem, (Option.some.inj hv).symm⟩
      · contradiction
    | classes => simp [checkEdge] at hv
    | functions => simp [checkEdge] at hv
  · rintro ⟨hother, r, hget, hmem, rfl⟩
    refine ⟨.layerDependency source (.ofList r.disallow), (mem_ofRuleset h).2 ⟨source, r, hget, ?_⟩, ?_⟩
    · exact .dependency (List.ne_nil_of_mem hmem)
    · rw [checkEdge, if_pos ⟨rfl, hother, (hcontains r).2 hmem⟩]

/-- An element is found fault with exactly if its short name does not match the pattern that its
layer has for elements of its kind. -/
theorem exists_checkElement_iff {layer : String} {e : Element} :
    (∃ rule ∈ rules, rule.checkElement layer e = some v) ↔
      ∃ r, ruleset.get? layer = some r ∧ ∃ raw p, Pattern.matching? raw = some p ∧
        p.isMatch e.shortName = false ∧
        (e.kind = .cls ∧ r.classNaming = some raw ∧
            v = .atElement e .classNaming (namingMessage "Class" layer p e) ∨
          e.kind = .func ∧ r.functionNaming = some raw ∧
            v = .atElement e .functionNaming (namingMessage "Function" layer p e)) := by
  constructor
  · rintro ⟨rule, hrule, hv⟩
    obtain ⟨own, r, hget, hasks⟩ := (mem_ofRuleset h).1 hrule
    cases hasks with
    | dependency hne => simp [checkElement] at hv
    | classes hraw hp =>
      simp only [checkElement] at hv
      split at hv
      · rename_i hcond
        obtain ⟨rfl, hkind, hmatch⟩ := hcond
        exact ⟨r, hget, _, _, hp, by simpa using hmatch,
          .inl ⟨hkind, hraw, (Option.some.inj hv).symm⟩⟩
      · contradiction
    | functions hraw hp =>
      simp only [checkElement] at hv
      split at hv
      · rename_i hcond
        obtain ⟨rfl, hkind, hmatch⟩ := hcond
        exact ⟨r, hget, _, _, hp, by simpa using hmatch,
          .inr ⟨hkind, hraw, (Option.some.inj hv).symm⟩⟩
      · contradiction
  · rintro ⟨r, hget, raw, p, hp, hmatch, ⟨hkind, hraw, rfl⟩ | ⟨hkind, hraw, rfl⟩⟩
    · refine ⟨.classNaming layer p, (mem_ofRuleset h).2 ⟨layer, r, hget, .classes hraw hp⟩, ?_⟩
      rw [checkElement, if_pos ⟨rfl, hkind, by simp [hmatch]⟩]
    · refine ⟨.functionNaming layer p, (mem_ofRuleset h).2 ⟨layer, r, hget, .functions hraw hp⟩, ?_⟩
      rw [checkElement, if_pos ⟨rfl, hkind, by simp [hmatch]⟩]

end Checks

end Rule

end LayerCheck
