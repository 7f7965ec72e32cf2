import LayerCheck.Command.Basic
import LayerCheck.Proofs.Writing

/-!
What a command leaves behind. The exit code, the standard output and the file for the report tell the
same: whether the analysis succeeded, and whether it found violations.
-/

namespace LayerCheck

/-! ### Texts of violations -/

theorem Violation.toList_display (v : Violation) : ∃ front, v.display.toList = front ++ [')'] := by
  refine ⟨(s!"{v.file.text}:{v.line} - {v.message} ({v.elementKind.text} {v.elementName}").toList, ?_⟩
  rw [display, String.toList_append]
  rfl

namespace Report

theorem toList_textLines {violations : List Violation} (h : violations ≠ []) :
    ∃ front, (textLines violations).toList = front ++ [')', '\n'] := by
  obtain ⟨earlier, v, rfl⟩ : ∃ earlier v, violations = earlier ++ [v] :=
    ⟨violations.dropLast, violations.getLast h, (List.dropLast_append_getLast h).symm⟩
  obtain ⟨front, hfront⟩ := v.toList_display
  refine ⟨(textLines earlier).toList ++ front, ?_⟩
  simp [textLines, String.toList_join, String.toList_append, hfront]

/-- The line for no violations ends in a full stop, the line of a violation in a bracket. -/
theorem textLines_ne_sentinel {violations : List Violation} (h : violations ≠ []) :
    textLines violations ≠ "No violations detected.\n" := by
  intro heq
  obtain ⟨front, hfront⟩ := toList_textLines h
  have hlast : (front ++ [')', '\n']).dropLast.getLast? = some '.' := by
    rw [← hfront, heq]
    decide
  simp at hlast

theorem render_ne_empty {violations : List Violation} {format : Format}
    (h : format = .text → violations ≠ []) : render violations format ≠ "" := by
  intro heq
  cases format with
  | text =>
    obtain ⟨front, hfront⟩ := toList_textLines (h rfl)
    have hnil : (textLines violations).toList = [] := congrArg String.toList heq
    simp [hfront] at hnil
  | json =>
    cases violations with
    | nil => simp [render, jsonArray] at heq
    | cons v rest => simp [render, jsonArray] at heq
  | html =>
    have hepilog : htmlEpilog = "" := (String.append_eq_empty_iff.1 heq).2
    exact absurd hepilog (by decide)

theorem render_text_eq_empty_iff {violations : List Violation} :
    render violations .text = "" ↔ violations = [] := by
  constructor
  · intro heq
    by_contra hne
    exact render_ne_empty (fun _ => hne) heq
  · rintro rfl
    decide

theorem render?_eq_none_iff {isText : Path → Bool} {violations : List Violation} {format : Format} :
    render? isText violations format = none ↔
      ¬(format = .json → ∀ v ∈ violations, isText v.file) := by
  simp [render?]

theorem render?_eq_some_iff {isText : Path → Bool} {violations : List Violation} {format : Format}
    {report : String} : render? isText violations format = some report ↔
      (format = .json → ∀ v ∈ violations, isText v.file) ∧ report = render violations format := by
  by_cases h : format = .json → ∀ v ∈ violations, isText v.file
  · have hall : ¬(format = .json ∧ ¬violations.all (isText ·.file)) := by simpa using h
    rw [render?, if_neg hall, Option.some.injEq, and_iff_right h]
    exact eq_comm
  · simp [render?_eq_none_iff.2 h, h]

end Report

namespace Command

/-! ### Reports -/

/-- The text of a report on violations, if there is one. -/
def reportText (violations : List Violation) (format : Report.Format) : String :=
  if format = .text ∧ violations = [] then "No violations detected.\n"
  else Report.render violations format

theorem reportText_ne_empty (violations : List Violation) (format : Report.Format) :
    reportText violations format ≠ "" := by
  unfold reportText
  split
  · decide
  · rename_i hsome
    exact Report.render_ne_empty fun hformat hnil => hsome ⟨hformat, hnil⟩

theorem reportText_text_eq_iff {violations : List Violation} :
    reportText violations .text = "No violations detected.\n" ↔ violations = [] := by
  constructor
  · intro h
    by_contra hne
    rw [reportText, if_neg fun hnil => hne hnil.2] at h
    exact Report.textLines_ne_sentinel hne h
  · rintro rfl
    rfl

/-- The report on a result, in the format asked for. -/
def Options.report (o : Options) (result : Analysis) : String :=
  reportText result.violations.toList (o.format.getD .text)

/-- The report on a result has a text: no path that is not text has to stand in JSON. -/
def CanRender (host : Host) (o : Options) (result : Analysis) : Prop :=
  o.format.getD .text = .json → ∀ v ∈ result.violations.toList, host.isText v.file

theorem reportText?_eq_none_iff {host : Host} {o : Options} {result : Analysis} :
    reportText? host result.violations.toList (o.format.getD .text) = none ↔
      ¬CanRender host o result :=
  Option.map_eq_none_iff.trans Report.render?_eq_none_iff

theorem reportText?_eq_some_iff {host : Host} {o : Options} {result : Analysis} {report : String} :
    reportText? host result.violations.toList (o.format.getD .text) = some report ↔
      CanRender host o result ∧ report = o.report result := by
  have hempty : (o.format.getD .text = .text ∧
      Report.render result.violations.toList (o.format.getD .text) = "") ↔
        o.format.getD .text = .text ∧ result.violations.toList = [] := by
    refine and_congr_right fun hformat => ?_
    rw [hformat, Report.render_text_eq_empty_iff]
  simp only [reportText?, Option.map_eq_some_iff, Report.render?_eq_some_iff, and_assoc,
    exists_and_left, exists_eq_left, CanRender, Options.report, reportText, hempty]
  exact and_congr_right fun _ => eq_comm

/-! ### Deliveries -/

/-- All of a report arrives: on the standard output, or at the place that the path given leads to. -/
structure CanDeliver (host : Host) (s : Snapshot) (output : Option Path) (report : String) :
    Prop where
  printed : output = none → host.print report = .whole
  saved : ∀ p, output = some p → (s.writePlace? p).isSome ∧ host.save p report = .whole

/-- All that the delivery of a report can come to. What arrives is a beginning of the report. -/
inductive Delivery (host : Host) (s : Snapshot) (output : Option Path) (report : String) :
    Except Error (String × Snapshot) → Prop where
  | printed (hp : output = none) (h : CanDeliver host s output report) :
      Delivery host s output report (.ok (report, s))
  | unprinted {shown : String} (hp : output = none) (h : ¬CanDeliver host s output report)
      (hshown : shown.toList <+: report.toList) :
      Delivery host s output report (.error (.unprintable shown))
  | saved {p : Path} {files : Snapshot} (hp : output = some p) (h : CanDeliver host s output report)
      (hfiles : s.write? p report = some files) : Delivery host s output report (.ok ("", files))
  | unsaved {p : Path} {kept : Option String} (hp : output = some p)
      (h : ¬CanDeliver host s output report) (hkept : ∀ text ∈ kept, text.toList <+: report.toList) :
      Delivery host s output report (.error (.unwritable p kept))

theorem Receipt.isPrefix_of_kept? {text kept : String} {receipt : Receipt}
    (h : receipt.kept? text = some kept) : kept.toList <+: text.toList := by
  cases receipt with
  | whole =>
    obtain rfl : text = kept := Option.some.inj h
    exact List.prefix_refl _
  | cut count =>
    obtain rfl := Option.some.inj h
    rw [String.toList_ofList]
    exact List.take_prefix count text.toList
  | refused => contradiction

theorem Receipt.isPrefix_getD_kept? (text : String) (receipt : Receipt) :
    ((receipt.kept? text).getD "").toList <+: text.toList := by
  cases h : receipt.kept? text with
  | none => exact List.nil_prefix
  | some kept => exact isPrefix_of_kept? h

theorem delivery_deliver (host : Host) (s : Snapshot) (output : Option Path) (report : String) :
    Delivery host s output report (deliver host s output report) := by
  unfold deliver
  cases output with
  | none =>
    dsimp only
    split
    · rename_i hwhole
      exact .printed rfl ⟨fun _ => hwhole, by simp⟩
    · rename_i receipt hcut
      exact .unprinted rfl (fun h => hcut (h.printed rfl)) (Receipt.isPrefix_getD_kept? report _)
  | some p =>
    dsimp only
    split
    · rename_i hnone
      have hplace : s.writePlace? p = none := Option.map_eq_none_iff.1 hnone
      exact .unsaved rfl (fun h => by simpa [hplace] using (h.saved p rfl).1) (by simp)
    · rename_i files hfiles hwhole
      obtain ⟨place, hplace, -⟩ := Option.map_eq_some_iff.1 hfiles
      refine .saved rfl ⟨by simp, fun q hq => ?_⟩ hfiles
      obtain rfl := Option.some.inj hq
      exact ⟨by simp [hplace], hwhole⟩
    · rename_i files hfiles hcut
      exact .unsaved rfl (fun h => hcut (h.saved p rfl).2) fun text => Receipt.isPrefix_of_kept?

/-! ### Outcomes -/

/-- There is a working directory, the configuration is found and read, and the analysis of it
succeeds. -/
def Analyzes (s : Snapshot) (o : Options) (result : Analysis) : Prop :=
  s.isDirectory s.working ∧
    ∃ file, configPath s o.config = .ok file ∧ Analysis.runFile s file = .ok result

theorem Analyzes.unique {s : Snapshot} {o : Options} {result result' : Analysis}
    (h : Analyzes s o result) (h' : Analyzes s o result') : result = result' := by
  obtain ⟨-, file, hfile, hrun⟩ := h
  obtain ⟨-, file', hfile', hrun'⟩ := h'
  obtain rfl := Except.ok.inj (hfile.symm.trans hfile')
  exact Except.ok.inj (hrun.symm.trans hrun')

/-- The report on a result has a text, and all of it arrives. -/
def Reports (host : Host) (s : Snapshot) (o : Options) (result : Analysis) : Prop :=
  CanRender host o result ∧ CanDeliver host s o.output (o.report result)

/-- All that the command can come to. -/
inductive Outcome (host : Host) (s : Snapshot) (o : Options) : Except Error Done → Prop where
  | homeless (h : ∀ result, ¬Analyzes s o result) : Outcome host s o (.error .noWorkingDirectory)
  | refused {e : ConfigError} (h : ∀ result, ¬Analyzes s o result) :
      Outcome host s o (.error (.config e))
  | unrendered {result : Analysis} (h : Analyzes s o result) (hrender : ¬CanRender host o result) :
      Outcome host s o (.error .unrenderable)
  | undelivered {result : Analysis} {e : Error} (h : Analyzes s o result)
      (hrender : CanRender host o result)
      (he : Delivery host s o.output (o.report result) (.error e)) : Outcome host s o (.error e)
  | delivered {result : Analysis} {output : String} {files : Snapshot} (h : Analyzes s o result)
      (hrender : CanRender host o result)
      (hdone : Delivery host s o.output (o.report result) (.ok (output, files))) :
      Outcome host s o (.ok ⟨output, !result.violations.toList.isEmpty, files⟩)

theorem analysis_eq_ok_iff {s : Snapshot} {o : Options} {found : Analysis} :
    analysis s o = .ok found ↔ Analyzes s o found := by
  unfold analysis Analyzes
  by_cases hdir : s.isDirectory s.working
  · cases hpath : configPath s o.config with
    | error e => simp [hdir, Except.mapError, bind, Except.bind]
    | ok file =>
      cases hrun : Analysis.runFile s file <;> simp [hdir, hrun, Except.mapError, bind, Except.bind]
  · simp [hdir]

theorem analysis_eq_error {s : Snapshot} {o : Options} {e : Error} (h : analysis s o = .error e) :
    e = .noWorkingDirectory ∨ ∃ problem, e = .config problem := by
  unfold analysis at h
  split at h
  · cases hpath : configPath s o.config with
    | error problem =>
      simp only [hpath, Except.mapError, bind, Except.bind, Except.error.injEq] at h
      exact .inr ⟨problem, h.symm⟩
    | ok file =>
      cases hrun : Analysis.runFile s file with
      | error problem =>
        simp only [hpath, hrun, Except.mapError, bind, Except.bind, Except.error.injEq] at h
        exact .inr ⟨problem, h.symm⟩
      | ok found => simp [hpath, hrun, Except.mapError, bind, Except.bind] at h
  · exact .inl (Except.error.inj h).symm

theorem outcome_analyze (host : Host) (s : Snapshot) (o : Options) :
    Outcome host s o (analyze host s o) := by
  unfold analyze
  cases hresult : analysis s o with
  | error e =>
    have hfails (found : Analysis) : ¬Analyzes s o found := by
      intro hfound
      rw [← analysis_eq_ok_iff, hresult] at hfound
      contradiction
    rcases analysis_eq_error hresult with rfl | ⟨problem, rfl⟩
    · exact .homeless hfails
    · exact .refused hfails
  | ok found =>
    have h : Analyzes s o found := analysis_eq_ok_iff.1 hresult
    dsimp only [bind, Except.bind]
    split
    · rename_i hnone
      exact .unrendered h (reportText?_eq_none_iff.1 hnone)
    · rename_i report hsome
      obtain ⟨hrender, rfl⟩ := reportText?_eq_some_iff.1 hsome
      have hdelivery := delivery_deliver host s o.output (o.report found)
      cases hdone : deliver host s o.output (o.report found) with
      | error e =>
        rw [hdone] at hdelivery
        exact .undelivered h hrender hdelivery
      | ok left =>
        rw [hdone] at hdelivery
        exact .delivered h hrender hdelivery

/-! ### Agreement -/

/-- The report is on the standard output and the files are as they were, or it is in the file at the
path given, all else being as it was, and nothing is on the standard output. -/
structure Delivered (s : Snapshot) (o : Options) (report : String) (outcome : Except Error Done) :
    Prop where
  nonempty : report ≠ ""
  printed : o.output = none → standardOutput outcome = report ∧ filesAfter s outcome = s
  saved : ∀ p, o.output = some p →
    standardOutput outcome = "" ∧ s.Written (filesAfter s outcome) p report

/-- No more than a beginning of the report is where it should be, and all else is as it was. -/
structure Undelivered (s : Snapshot) (o : Options) (report : String)
    (outcome : Except Error Done) : Prop where
  printed : o.output = none →
    (standardOutput outcome).toList <+: report.toList ∧ filesAfter s outcome = s
  saved : ∀ p, o.output = some p → standardOutput outcome = "" ∧ (filesAfter s outcome = s ∨
    ∃ kept, kept.toList <+: report.toList ∧ s.Written (filesAfter s outcome) p kept)

/-- The exit code, the standard output and the files after a command tell the same. -/
structure Agreement (host : Host) (s : Snapshot) (o : Options) (outcome : Except Error Done) :
    Prop where
  clean : exitCode outcome = 0 ↔
    ∃ result, Analyzes s o result ∧ Reports host s o result ∧ result.violations.toList = []
  violated : exitCode outcome = 1 ↔
    ∃ result, Analyzes s o result ∧ Reports host s o result ∧ result.violations.toList ≠ []
  failed : exitCode outcome = 2 ↔ ¬∃ result, Analyzes s o result ∧ Reports host s o result
  untouched : (∀ result, ¬Analyzes s o result) →
    standardOutput outcome = "" ∧ filesAfter s outcome = s
  unrendered : ∀ result, Analyzes s o result → ¬CanRender host o result →
    standardOutput outcome = "" ∧ filesAfter s outcome = s
  undelivered : ∀ result, Analyzes s o result → exitCode outcome = 2 →
    Undelivered s o (o.report result) outcome
  delivered : ∀ result, Analyzes s o result → exitCode outcome ≠ 2 →
    Delivered s o (o.report result) outcome
  sentinel : ∀ result, Analyzes s o result → exitCode outcome ≠ 2 → o.format.getD .text = .text →
    (o.report result = "No violations detected.\n" ↔ exitCode outcome = 0)

namespace Outcome

variable {host : Host} {s : Snapshot} {o : Options} {outcome : Except Error Done}
  (h : Outcome host s o outcome)
include h

theorem exitCode_ne_two_iff :
    exitCode outcome ≠ 2 ↔ ∃ result, Analyzes s o result ∧ Reports host s o result := by
  cases h with
  | homeless hfails =>
    refine iff_of_false (by simp [exitCode]) ?_
    rintro ⟨result, hresult, -⟩
    exact hfails result hresult
  | refused hfails =>
    refine iff_of_false (by simp [exitCode]) ?_
    rintro ⟨result, hresult, -⟩
    exact hfails result hresult
  | unrendered hfound hrender =>
    refine iff_of_false (by simp [exitCode]) ?_
    rintro ⟨result, hresult, hreports⟩
    obtain rfl := hresult.unique hfound
    exact hrender hreports.1
  | undelivered hfound _ he =>
    refine iff_of_false (by simp [exitCode]) ?_
    rintro ⟨result, hresult, hreports⟩
    obtain rfl := hresult.unique hfound
    cases he with
    | unprinted _ hcut => exact hcut hreports.2
    | unsaved _ hcut => exact hcut hreports.2
  | delivered hfound hrender hdone =>
    refine iff_of_true ?_ ⟨_, hfound, hrender, ?_⟩
    · rw [exitCode]
      split <;> decide
    · cases hdone with
      | printed _ hcan => exact hcan
      | saved _ hcan => exact hcan

/-- Where the report was given out, the exit code tells whether there are violations. -/
theorem exitCode_eq {result : Analysis} (hresult : Analyzes s o result)
    (hcode : exitCode outcome ≠ 2) :
    exitCode outcome = if result.violations.toList = [] then 0 else 1 := by
  cases h with
  | homeless => exact absurd rfl hcode
  | refused => exact absurd rfl hcode
  | unrendered => exact absurd rfl hcode
  | undelivered => exact absurd rfl hcode
  | delivered hfound =>
    obtain rfl := hresult.unique hfound
    rw [exitCode]
    by_cases hnil : result.violations.toList = [] <;> simp [hnil]

theorem exitCode_eq_iff {code : Nat} (hcode : code ≠ 2) :
    exitCode outcome = code ↔ ∃ result, Analyzes s o result ∧ Reports host s o result ∧
      code = if result.violations.toList = [] then 0 else 1 := by
  constructor
  · rintro rfl
    obtain ⟨result, hresult, hreports⟩ := h.exitCode_ne_two_iff.1 hcode
    exact ⟨result, hresult, hreports, h.exitCode_eq hresult hcode⟩
  · rintro ⟨result, hresult, hreports, rfl⟩
    exact h.exitCode_eq hresult (h.exitCode_ne_two_iff.2 ⟨result, hresult, hreports⟩)

/-- Until there is a report, nothing is given out. -/
theorem untouched (hfails : ∀ result, Analyzes s o result → ¬CanRender host o result) :
    standardOutput outcome = "" ∧ filesAfter s outcome = s := by
  cases h with
  | homeless => exact ⟨rfl, rfl⟩
  | refused => exact ⟨rfl, rfl⟩
  | unrendered => exact ⟨rfl, rfl⟩
  | undelivered hfound hrender => exact absurd hrender (hfails _ hfound)
  | delivered hfound hrender => exact absurd hrender (hfails _ hfound)

theorem undelivered_report {result : Analysis} (hresult : Analyzes s o result)
    (hcode : exitCode outcome = 2) : Undelivered s o (o.report result) outcome := by
  cases h with
  | homeless hfails => exact absurd hresult (hfails result)
  | refused hfails => exact absurd hresult (hfails result)
  | unrendered =>
    constructor
    · intro _
      exact ⟨List.nil_prefix, rfl⟩
    · intro p _
      exact ⟨rfl, .inl rfl⟩
  | undelivered hfound hrender he =>
    obtain rfl := hresult.unique hfound
    cases he with
    | unprinted hp _ hshown =>
      exact ⟨fun _ => ⟨hshown, rfl⟩, by simp [hp]⟩
    | @unsaved p kept hp _ hkept =>
      refine ⟨by simp [hp], fun q hq => ⟨rfl, ?_⟩⟩
      obtain rfl := Option.some.inj (hp.symm.trans hq)
      cases kept with
      | none => exact .inl rfl
      | some kept =>
        cases hfiles : s.write? p kept with
        | none =>
          left
          simp [filesAfter, hfiles]
        | some files =>
          refine .inr ⟨kept, hkept kept rfl, ?_⟩
          simpa [filesAfter, hfiles] using Snapshot.written_of_write? hfiles
  | delivered =>
    rw [exitCode] at hcode
    split at hcode <;> omega

theorem delivered_report {result : Analysis} (hresult : Analyzes s o result)
    (hcode : exitCode outcome ≠ 2) : Delivered s o (o.report result) outcome := by
  cases h with
  | homeless => exact absurd rfl hcode
  | refused => exact absurd rfl hcode
  | unrendered => exact absurd rfl hcode
  | undelivered => exact absurd rfl hcode
  | delivered hfound _ hdone =>
    obtain rfl := hresult.unique hfound
    refine ⟨reportText_ne_empty _ _, fun hnone => ?_, fun p hsome => ?_⟩
    · cases hdone with
      | printed => exact ⟨rfl, rfl⟩
      | saved hp => exact nomatch hp.symm.trans hnone
    · cases hdone with
      | printed hp => exact nomatch hp.symm.trans hsome
      | saved hp _ hfiles =>
        obtain rfl := Option.some.inj (hp.symm.trans hsome)
        exact ⟨rfl, Snapshot.written_of_write? hfiles⟩

theorem agreement : Agreement host s o outcome where
  clean := by
    rw [h.exitCode_eq_iff (by decide)]
    simp
  violated := by
    rw [h.exitCode_eq_iff (by decide)]
    simp
  failed := by rw [← h.exitCode_ne_two_iff, not_not]
  untouched hfails := h.untouched fun result hresult => absurd hresult (hfails result)
  unrendered result hresult hrender := by
    apply h.untouched
    intro found hfound
    rwa [hfound.unique hresult]
  undelivered _ := h.undelivered_report
  delivered _ := h.delivered_report
  sentinel result hresult hcode hformat := by
    rw [h.exitCode_eq hresult hcode, Options.report, hformat, reportText_text_eq_iff]
    simp

end Outcome

/-- The exit code, the streams and the report of every request for an analysis agree, whatever the host
makes of the report, and no list of violations is told in the words that say there are none. -/
theorem run_agrees {args : List String} {o : Options} (h : request? args = some (.analyze o))
    (host : Host) (s : Snapshot) :
    Agreement host s o (run s args host) ∧
      ∀ violations, violations ≠ [] → Report.render violations .text ≠ "No violations detected.\n" := by
  refine ⟨?_, fun violations => Report.textLines_ne_sentinel⟩
  rw [run, h]
  exact (outcome_analyze host s o).agreement

end Command

namespace Misnamed

/-- A class whose name does not match. -/
def snapshot : Snapshot :=
  ((({} : Snapshot).set ["a.py"] (.file (some "class A: pass\n"))).set ["latest"] (.link "out")).set
    ["deply.toml"] (.file (some ("[[layers]]\nname='a'\n[[layers.collectors]]\ntype='bool'\n" ++
      "[ruleset.a.class_naming]\nregex='B'\n")))

/-- The report goes to where a link leads, and there is nothing yet. -/
def options : Command.Options := { output := some ⟨"latest"⟩ }

/-- A host on which the standard output is closed and paths with an `a` are no text. -/
def host : Command.Host where
  isText p := !p.text.toList.contains 'a'
  print _ := .cut 3

theorem run_agrees_with_violation :
    Command.exitCode (Command.run snapshot ["analyze", "-o", "latest"] host) = 1 ∧
      (∃ result, Command.Analyzes snapshot options result ∧ Command.Delivered snapshot options
        (options.report result) (Command.run snapshot ["analyze", "-o", "latest"] host)) ∧
      Command.exitCode (Command.run snapshot ["analyze"] host) = 2 ∧
      Command.exitCode (Command.run snapshot ["analyze", "-r", "json", "-o", "latest"] host) = 2 := by
  have hcode : Command.exitCode (Command.run snapshot ["analyze", "-o", "latest"] host) = 1 := by
    decide +kernel
  have hrequest : Command.request? ["analyze", "-o", "latest"] = some (.analyze options) := by decide
  obtain ⟨hagreement, -⟩ := Command.run_agrees hrequest host snapshot
  obtain ⟨result, hresult, -⟩ := hagreement.violated.1 hcode
  refine ⟨hcode, ⟨result, hresult, hagreement.delivered result hresult (by rw [hcode]; decide)⟩, ?_⟩
  decide +kernel

end Misnamed

end LayerCheck
