import LayerCheck.Proofs.Exactness
import LayerCheck.Proofs.History
import LayerCheck.Proofs.Qualification
import LayerCheck.Report

/-!
The lines of the text report. Where paths have no line break, a violation takes one line, and a
further one for each line break in its message. Names of elements bring in none, so a break comes from
the configuration: it stands in the name of a layer or in the pattern of a rule, which messages quote
as they are.
-/

namespace LayerCheck

/-! ### Line breaks -/

/-- The text has no line break. -/
def Unbroken (s : String) : Prop :=
  '\n' ∉ s.toList

instance (s : String) : Decidable (Unbroken s) :=
  inferInstanceAs (Decidable ('\n' ∉ s.toList))

theorem Unbroken.count_eq_zero {s : String} (h : Unbroken s) : s.toList.count '\n' = 0 :=
  List.count_eq_zero.2 h

/-- What stands in a text without line breaks has none. -/
theorem Unbroken.of_infix {s t : String} (h : Unbroken t) (hst : s.toList <:+: t.toList) :
    Unbroken s :=
  fun hbreak => h (hst.subset hbreak)

theorem unbroken_join {parts : List String} :
    Unbroken (String.join parts) ↔ ∀ part ∈ parts, Unbroken part := by
  simp [Unbroken]

theorem infix_join {part : String} {parts : List String} (h : part ∈ parts) :
    part.toList <:+: (String.join parts).toList := by
  rw [String.toList_join, List.flatMap_def]
  exact List.infix_of_mem_flatten (List.mem_map_of_mem h)

/-- A text whose parts are unbroken, or else in a list, is broken by those of the list alone. -/
theorem unbroken_join_iff {texts parts : List String}
    (h : ∀ part ∈ parts, Unbroken part ∨ part ∈ texts) :
    Unbroken (String.join parts) ↔
      ∀ text ∈ texts, text.toList <:+: (String.join parts).toList → Unbroken text := by
  constructor
  · intro hjoin text _ hinfix
    exact hjoin.of_infix hinfix
  · intro htexts
    rw [unbroken_join]
    intro part hpart
    rcases h part hpart with hunbroken | hlisted
    · exact hunbroken
    · exact htexts part hlisted (infix_join hpart)

theorem break_not_mem_toDigits (n : Nat) : '\n' ∉ Nat.toDigits 10 n := by
  intro hbreak
  have hdigit := Nat.isDigit_of_mem_toDigits (by decide) (by decide) hbreak
  contradiction

theorem ElementKind.unbroken_text (k : ElementKind) : Unbroken k.text := by
  cases k <;> decide

theorem Syntax.unbroken_of_isIdentifier {s : String} (h : isIdentifier s) : Unbroken s :=
  not_mem_of_isIdentifier h (by decide) (by decide)

theorem Path.unbroken_ofNames {names : List String} (h : ∀ name ∈ names, Unbroken name) :
    Unbroken (Path.ofNames names).text := by
  have hnames : '\n' ∉ (Segments.join '/' names).toList := Segments.not_mem_join (by decide) h
  simpa [Unbroken, ofNames] using hnames

/-! ### Lines of reports -/

namespace Report

/-- The lines of a text. A line break at its end begins no line. -/
def lines (text : String) : List String :=
  if (Segments.split '\n' text).getLast? = some "" then (Segments.split '\n' text).dropLast
  else Segments.split '\n' text

theorem lines_append (text rest : String) :
    lines (text ++ "\n" ++ rest) = Segments.split '\n' text ++ lines rest := by
  have hsplit : Segments.split '\n' (text ++ "\n" ++ rest) =
      Segments.split '\n' text ++ Segments.split '\n' rest := Segments.split_append '\n' text rest
  have hrest := Segments.split_ne_nil '\n' rest
  rw [lines, lines, hsplit, List.getLast?_append_of_ne_nil _ hrest,
    List.dropLast_append_of_ne_nil hrest]
  split
  · rfl
  · rfl

/-- The lines of a report are those of its violations, one after the other. -/
theorem lines_render (violations : List Violation) :
    lines (render violations .text) = violations.flatMap fun v => Segments.split '\n' v.display := by
  induction violations with
  | nil => decide
  | cons v violations ih =>
    have hrender : render (v :: violations) .text = v.display ++ "\n" ++ render violations .text := by
      simp [render, textLines]
    rw [hrender, lines_append, ih, List.flatMap_cons]

/-- Each line break within a violation makes a line more. -/
theorem length_lines_render (violations : List Violation) :
    (lines (render violations .text)).length =
      violations.length + (violations.map fun v => v.display.toList.count '\n').sum := by
  rw [lines_render]
  induction violations with
  | nil => rfl
  | cons v violations ih =>
    rw [List.flatMap_cons, List.length_append, ih, Segments.length_split, List.map_cons, List.sum_cons,
      List.length_cons]
    omega

/-- The text report has as many lines as violations, and each line tells the violation of its number. -/
structure LinePerViolation (violations : List Violation) : Prop where
  length : (lines (render violations .text)).length = violations.length
  line : ∀ (i : Nat) (v : Violation), violations[i]? = some v →
    (lines (render violations .text))[i]? =
      some s!"{v.file.text}:{v.line} - {v.message} ({v.elementKind.text} {v.elementName})"

theorem lines_render_of_unbroken {violations : List Violation}
    (h : ∀ v ∈ violations, Unbroken v.display) :
    lines (render violations .text) = violations.map Violation.display := by
  have hone : ∀ v ∈ violations, Segments.split '\n' v.display = [v.display] :=
    fun v hv => Segments.split_of_not_mem (h v hv)
  rw [lines_render, List.flatMap_congr hone, List.map_eq_flatMap]

theorem linePerViolation_iff {violations : List Violation} :
    LinePerViolation violations ↔ ∀ v ∈ violations, Unbroken v.display := by
  constructor
  · intro h
    -- The lines beyond one for each violation are counted by the line breaks.
    have hlength := h.length
    rw [length_lines_render] at hlength
    have hsum : (violations.map fun v => v.display.toList.count '\n').sum = 0 := by omega
    intro v hv
    have hcount : v.display.toList.count '\n' = 0 :=
      List.sum_eq_zero_iff_forall_eq_nat.1 hsum _ (List.mem_map_of_mem hv)
    exact List.count_eq_zero.1 hcount
  · intro h
    have hlines := lines_render_of_unbroken h
    constructor
    · rw [hlines, List.length_map]
    · intro i v hv
      rw [hlines, List.getElem?_map, hv]
      rfl

end Report

/-! ### Elements -/

namespace Syntax

/-- A qualified name has dots and the letters of identifiers. -/
theorem Module.unbroken_qualifiedName {m : Module} {d : Definition} (h : d ∈ m.definitions) :
    Unbroken d.qualifiedName := by
  rw [definitions_eq, List.mem_append] at h
  rcases h with h | h
  · obtain ⟨a, -, hdefines⟩ := (Matched.of_forall₂ m.forall₂_sites).right d h
    rw [hdefines.qualifiedName_eq]
    apply Segments.not_mem_join (by decide)
    intro name hname
    rcases List.mem_append.1 hname with hname | hname
    · exact unbroken_of_isIdentifier (Stmt.isIdentifier_of_mem_enclosing hname)
    · rw [List.mem_singleton.1 hname]
      exact unbroken_of_isIdentifier hdefines.isIdentifier
  · obtain ⟨n, -, rfl⟩ := List.mem_map.1 h
    exact unbroken_of_isIdentifier n.isIdentifier

end Syntax

/-- No file stands at a path with a line break. -/
def Snapshot.UnbrokenFiles (s : Snapshot) : Prop :=
  ∀ place text, s.get? place = some (.file text) → ∀ name ∈ place, Unbroken name

theorem Snapshot.unbrokenFiles_of_keys {s : Snapshot}
    (h : ∀ place ∈ s.nodes.keys, ∀ name ∈ place, Unbroken name) : s.UnbrokenFiles := by
  intro place text hget name hname
  have hne : place ≠ [] := List.ne_nil_of_mem hname
  rw [get?_of_ne_nil hne, ← mem_entries_iff] at hget
  exact h place (OrderedMap.mem_keys_of_mem hget) name hname

namespace Config

variable {c : Config} {scope : Scope} {s : Snapshot} {e : Element}

theorem exists_collect_of_owner? {layer : String} (h : c.owner? scope s e = some layer) :
    ∃ k : Collector, e ∈ k.collect scope s s.facts := by
  obtain ⟨entry, hfind, -⟩ := Option.map_eq_some_iff.1 h
  have hcollects : entry.collects scope s e := by simpa using List.find?_some hfind
  obtain ⟨-, -, k, -, he⟩ := LayerEntry.collects_iff.1 hcollects
  exact ⟨k, he⟩

theorem unbroken_name_of_owner? {layer : String} (h : c.owner? scope s e = some layer) :
    Unbroken e.name := by
  obtain ⟨k, he⟩ := exists_collect_of_owner? h
  obtain ⟨p, -, d, hd, rfl⟩ := Collector.exists_request_of_mem_collect he
  obtain ⟨m, hm⟩ := Snapshot.exists_module_of_mem_facts hd
  exact m.unbroken_qualifiedName hm

theorem unbroken_file_of_owner? (hfiles : s.UnbrokenFiles) {layer : String}
    (h : c.owner? scope s e = some layer) : Unbroken e.file.text := by
  obtain ⟨k, he⟩ := exists_collect_of_owner? h
  obtain ⟨place, text, hget, hfile⟩ := Collector.isFilePath_of_mem_collect he
  rw [hfile]
  exact Path.unbroken_ofNames (hfiles place text hget)

/-! ### What messages quote -/

/-- The texts of a configuration that messages quote: names of layers and patterns for names. -/
def quotable (c : Config) : List String :=
  c.layers.map (·.name) ++
    c.ruleset.entries.flatMap fun e => e.2.classNaming.toList ++ e.2.functionNaming.toList

theorem mem_quotable_of_owner? {layer : String} (h : c.owner? scope s e = some layer) :
    layer ∈ c.quotable := by
  obtain ⟨entry, hfind, rfl⟩ := Option.map_eq_some_iff.1 h
  have hentry : entry ∈ c.layers := by simpa using List.mem_of_find?_eq_some hfind
  exact List.mem_append_left _ (List.mem_map_of_mem hentry)

theorem mem_quotable_of_naming {layer raw : String} {r : RuleEntry}
    (hrule : c.ruleset.get? layer = some r)
    (hraw : r.classNaming = some raw ∨ r.functionNaming = some raw) : raw ∈ c.quotable := by
  obtain ⟨key, -, hentry⟩ := OrderedMap.exists_of_get? hrule
  apply List.mem_append_right
  apply List.mem_flatMap.2
  refine ⟨(key, r), hentry, ?_⟩
  simpa using hraw

end Config

theorem Pattern.raw_of_matching? {raw : String} {p : Pattern} (h : matching? raw = some p) :
    p.raw = raw := by
  obtain ⟨-, -, rfl⟩ := Option.map_eq_some_iff.1 h
  rfl

namespace Rule

theorem dependencyMessage_eq (source target : String) (d : Dependency) :
    dependencyMessage source target d =
      String.join ["Layer '", source, "' is not allowed to depend on layer '", target, "' (",
        d.source.name, " -> ", d.target.name, ")"] := by
  rw [← String.toList_inj]
  simp [dependencyMessage, toString]

theorem namingMessage_eq (what layer : String) (regex : Pattern) (e : Element) :
    namingMessage what layer regex e =
      String.join [what, " '", e.name, "' in layer '", layer, "' does not match naming pattern '",
        regex.raw, "'"] := by
  rw [← String.toList_inj]
  simp [namingMessage, toString]

end Rule

/-! ### Line breaks of a violation -/

/-- Nothing but its message breaks the line of a violation. -/
theorem Violation.count_display {v : Violation} (hfile : Unbroken v.file.text)
    (hname : Unbroken v.elementName) :
    v.display.toList.count '\n' = v.message.toList.count '\n' := by
  have hline := List.count_eq_zero.2 (break_not_mem_toDigits v.line)
  have hkind := v.elementKind.unbroken_text.count_eq_zero
  have hparts : v.display = String.join [v.file.text, ":", toString v.line, " - ", v.message, " (",
      v.elementKind.text, " ", v.elementName, ")"] := by
    rw [← String.toList_inj]
    simp [display, toString]
  rw [hparts, String.toList_join]
  simp [hfile.count_eq_zero, hname.count_eq_zero, hline, hkind]

namespace Config.Violates

variable {c : Config} {scope : Scope} {s : Snapshot} {v : Violation}

theorem unbroken_file (hfiles : s.UnbrokenFiles) (h : c.Violates scope s v) :
    Unbroken v.file.text := by
  cases h with
  | dependency _ hsource => exact unbroken_file_of_owner? hfiles hsource
  | className howner => exact unbroken_file_of_owner? hfiles howner
  | functionName howner => exact unbroken_file_of_owner? hfiles howner

theorem unbroken_elementName (h : c.Violates scope s v) : Unbroken v.elementName := by
  cases h with
  | dependency _ hsource => exact unbroken_name_of_owner? hsource
  | className howner => exact unbroken_name_of_owner? howner
  | functionName howner => exact unbroken_name_of_owner? howner

theorem exists_parts_naming {what layer : String} {p : Pattern} {e : Element} (hwhat : Unbroken what)
    (howner : c.owner? scope s e = some layer) (hraw : p.raw ∈ c.quotable) :
    ∃ parts, Rule.namingMessage what layer p e = String.join parts ∧
      ∀ part ∈ parts, Unbroken part ∨ part ∈ c.quotable := by
  refine ⟨_, Rule.namingMessage_eq what layer p e, ?_⟩
  simp only [List.forall_mem_cons]
  exact ⟨.inl hwhat, .inl (by decide), .inl (unbroken_name_of_owner? howner), .inl (by decide),
    .inr (mem_quotable_of_owner? howner), .inl (by decide), .inr hraw, .inl (by decide), by simp⟩

/-- Each part of a message is fixed, the name of an element, or quoted from the configuration. -/
theorem exists_parts (h : c.Violates scope s v) : ∃ parts, v.message = String.join parts ∧
    ∀ part ∈ parts, Unbroken part ∨ part ∈ c.quotable := by
  cases h with
  | dependency hedge hsource htarget =>
    refine ⟨_, Rule.dependencyMessage_eq _ _ _, ?_⟩
    simp only [List.forall_mem_cons]
    exact ⟨.inl (by decide), .inr (mem_quotable_of_owner? hsource), .inl (by decide),
      .inr (mem_quotable_of_owner? htarget), .inl (by decide), .inl (unbroken_name_of_owner? hsource),
      .inl (by decide), .inl (unbroken_name_of_owner? htarget), .inl (by decide), by simp⟩
  | className howner hkind hrule hraw hp =>
    rw [← Pattern.raw_of_matching? hp] at hraw
    exact exists_parts_naming (by decide) howner (mem_quotable_of_naming hrule (.inl hraw))
  | functionName howner hkind hrule hraw hp =>
    rw [← Pattern.raw_of_matching? hp] at hraw
    exact exists_parts_naming (by decide) howner (mem_quotable_of_naming hrule (.inr hraw))

theorem unbroken_message_iff (h : c.Violates scope s v) :
    Unbroken v.message ↔
      ∀ text ∈ c.quotable, text.toList <:+: v.message.toList → Unbroken text := by
  obtain ⟨parts, hmessage, hparts⟩ := h.exists_parts
  rw [hmessage]
  exact unbroken_join_iff hparts

end Config.Violates

/-! ### Reports of analyses -/

namespace Analysis

variable {s : Snapshot} {c : Config} {result : Analysis}

theorem exists_violates_of_run (h : run s c = .ok result) :
    ∃ scope, ∀ v ∈ result.violations.toList, c.Violates scope s v := by
  obtain ⟨subject, hsubject, rfl⟩ := run_eq_ok.1 h
  obtain ⟨rules, scope, layers, hrules, -, hlayers, rfl⟩ := subject_eq_ok.1 hsubject
  exact ⟨scope, fun v hv => (Config.mem_violations_iff hlayers hrules).1 hv⟩

/-- In a project whose files have no line break in their paths, the text report has one line for each
violation just if no message quotes a text with a line break, so always if the configuration has no
such text. Otherwise each line break of a message makes a line more. -/
theorem line_per_violation_iff (hfiles : s.UnbrokenFiles) (h : run s c = .ok result) :
    (Report.LinePerViolation result.violations.toList ↔
      ∀ v ∈ result.violations.toList, ∀ text ∈ c.quotable,
        text.toList <:+: v.message.toList → Unbroken text) ∧
    ((∀ text ∈ c.quotable, Unbroken text) → Report.LinePerViolation result.violations.toList) ∧
    (Report.lines (Report.render result.violations.toList .text)).length =
      result.violations.toList.length +
        (result.violations.toList.map fun v => v.message.toList.count '\n').sum := by
  obtain ⟨scope, hviolates⟩ := exists_violates_of_run h
  have hcount : ∀ v ∈ result.violations.toList,
      v.display.toList.count '\n' = v.message.toList.count '\n' := by
    intro v hv
    exact v.count_display ((hviolates v hv).unbroken_file hfiles) (hviolates v hv).unbroken_elementName
  have hdisplay : ∀ v ∈ result.violations.toList, Unbroken v.display ↔
      ∀ text ∈ c.quotable, text.toList <:+: v.message.toList → Unbroken text := by
    intro v hv
    rw [← (hviolates v hv).unbroken_message_iff, Unbroken, Unbroken, ← List.count_eq_zero, hcount v hv,
      List.count_eq_zero]
  have hiff : Report.LinePerViolation result.violations.toList ↔
      ∀ v ∈ result.violations.toList, ∀ text ∈ c.quotable,
        text.toList <:+: v.message.toList → Unbroken text := by
    rw [Report.linePerViolation_iff]
    exact forall₂_congr hdisplay
  refine ⟨hiff, ?_, ?_⟩
  · intro hquotable
    exact hiff.2 fun v _ text htext _ => hquotable text htext
  · rw [Report.length_lines_render, List.map_congr_left hcount]

end Analysis

namespace Multiline

def snapshot (source : String) : Snapshot :=
  ({} : Snapshot).set ["a.py"] (.file (some source))

theorem unbrokenFiles (source : String) : (snapshot source).UnbrokenFiles := by
  have hkeys : (snapshot source).nodes.keys = [["a.py"]] := rfl
  apply Snapshot.unbrokenFiles_of_keys
  rw [hkeys]
  decide

/-- A layer of classes whose names have to match a pattern. -/
def config (pattern : String) : Config where
  paths := [⟨"/"⟩]
  excludeFiles := []
  layers := [⟨"a", [⟨"class_name_regex", .ofList [("class_name_regex", .text "A")]⟩]⟩]
  ruleset := .ofList [("a", { classNaming := some pattern })]

/-- Two classes, on two lines. -/
def source : String := "class A: pass\nclass AB: pass\n"

theorem line_per_misnamed_class : ∃ result, (snapshot source).UnbrokenFiles ∧
    Analysis.run (snapshot source) (config "B") = .ok result ∧ (config "B").quotable = ["a", "B"] ∧
      result.violations.toList.map (·.elementName) = ["A", "AB"] ∧
      Report.LinePerViolation result.violations.toList := by
  obtain ⟨result, hrun, hnames⟩ : ∃ result,
      Analysis.run (snapshot source) (config "B") = .ok result ∧
        result.violations.toList.map (·.elementName) = ["A", "AB"] :=
    Except.exists_of_map_toOption (by decide +kernel)
  have hquotable : (config "B").quotable = ["a", "B"] := by decide
  obtain ⟨-, hlines, -⟩ := Analysis.line_per_violation_iff (unbrokenFiles source) hrun
  refine ⟨result, unbrokenFiles source, hrun, hquotable, hnames, hlines ?_⟩
  rw [hquotable]
  decide

/-- The same configuration as a text, with a line break in the pattern. -/
def content : String :=
  "layers:\n- name: a\n  collectors:\n  - type: class_name_regex\n    class_name_regex: A\n" ++
    "ruleset:\n  a:\n    class_naming:\n      regex: \"B\\nC\"\n"

/-- The pattern is quoted with its line break, so one violation takes two lines. -/
theorem two_lines_for_one_violation : ∃ c result,
    Config.parse content .yaml ⟨"/"⟩ = .ok c ∧ (snapshot "class A: pass\n").UnbrokenFiles ∧
      Analysis.run (snapshot "class A: pass\n") c = .ok result ∧
      result.violations.toList.length = 1 ∧
      Report.lines (Report.render result.violations.toList .text) =
        ["/a.py:1 - Class 'A' in layer 'a' does not match naming pattern 'B", "C' (class A)"] ∧
      ¬Report.LinePerViolation result.violations.toList := by
  obtain ⟨c, hparse, hvalue⟩ : ∃ c, Config.parse content .yaml ⟨"/"⟩ = .ok c ∧
      ((Analysis.run (snapshot "class A: pass\n") c).toOption.map fun result =>
        (result.violations.toList.length,
          Report.lines (Report.render result.violations.toList .text))) =
      some (1, ["/a.py:1 - Class 'A' in layer 'a' does not match naming pattern 'B",
        "C' (class A)"]) :=
    Except.exists_of_map_toOption (by decide +kernel)
  obtain ⟨result, hrun, hresult⟩ := Except.exists_of_map_toOption hvalue
  obtain ⟨hone, hlines⟩ := Prod.mk.inj hresult
  refine ⟨c, result, hparse, unbrokenFiles _, hrun, hone, hlines, ?_⟩
  intro h
  have hlength := h.length
  rw [hlines, hone] at hlength
  exact absurd hlength (by simp)

end Multiline

end LayerCheck
