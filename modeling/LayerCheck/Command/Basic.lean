import LayerCheck.Analysis
import LayerCheck.Command.Arguments

/-!
The command: it finds the configuration, analyzes the project and gives the report to the standard
output or to a file. Giving it out may fail, for reasons that lie with the host.
-/

namespace LayerCheck.Command

/-! ### The host -/

/-- What becomes of a text that is given out. -/
inductive Receipt where
  | whole
  /-- Writing fails when the first `count` characters have arrived. -/
  | cut (count : Nat)
  /-- Writing fails before anything is changed. -/
  | refused
deriving DecidableEq, Repr

/-- The part of a text that arrives. -/
def Receipt.kept? (text : String) : Receipt → Option String
  | .whole => some text
  | .cut count => some (.ofList (text.toList.take count))
  | .refused => none

/-- What the system that a command runs on decides. By default nothing fails. -/
structure Host where
  /-- Whether the bytes of a path are UTF-8. -/
  isText : Path → Bool := fun _ => true
  print : String → Receipt := fun _ => .whole
  save : Path → String → Receipt := fun _ _ => .whole

/-! ### Results -/

inductive Error where
  | usage
  /-- The working directory is gone. -/
  | noWorkingDirectory
  | config (e : ConfigError)
  /-- The report has no text in the format asked for. -/
  | unrenderable
  /-- The report cannot be printed, but for the part that is `shown`. -/
  | unprintable (shown : String)
  /-- The report cannot be written to the file, but for the part that is `kept` if it could be opened. -/
  | unwritable (output : Path) (kept : Option String)
deriving Repr

/-- What a command leaves behind when it succeeds. -/
structure Done where
  output : String
  hasViolations : Bool
  files : Snapshot

def versionText : String := "deply 0.3.0\n"

def helpText : String :=
  "Usage: deply [-v...] [analyze --config <PATH> --report-format <FORMAT> --output <PATH>]\n"

/-! ### Analyses -/

/-- The names of configuration files, in the order in which they are looked for. -/
def configNames : List String :=
  ["deply.yaml", "deply.yml", "deply.toml"]

/-- The path of the configuration: the one given, or a file in the working directory. -/
def configPath (s : Snapshot) (given : Option Path) : Except ConfigError Path :=
  match given with
  | some p => .ok p
  | none =>
    let directory := Path.ofNames s.working
    match (configNames.map fun name => directory.join ⟨name⟩).find? s.isFile with
    | some p => .ok p
    | none => .error (.notFound directory)

/-- The analysis of the project that the configuration describes. -/
def analysis (s : Snapshot) (o : Options) : Except Error Analysis :=
  if s.isDirectory s.working then do
    let file ← (configPath s o.config).mapError .config
    (Analysis.runFile s file).mapError .config
  else .error .noWorkingDirectory

/-- The text of an empty list of violations says that there are none. -/
def reportText? (host : Host) (violations : List Violation) (format : Report.Format) :
    Option String :=
  (Report.render? host.isText violations format).map fun report =>
    if format = .text ∧ report = "" then "No violations detected.\n" else report

/-- Gives a report to the standard output or to a file: what is printed then, and the files. -/
def deliver (host : Host) (s : Snapshot) (output : Option Path) (report : String) :
    Except Error (String × Snapshot) :=
  match output with
  | none =>
    match host.print report with
    | .whole => .ok (report, s)
    | receipt => .error (.unprintable ((receipt.kept? report).getD ""))
  | some p =>
    match s.write? p report, host.save p report with
    | none, _ => .error (.unwritable p none)
    | some files, .whole => .ok ("", files)
    | some _, receipt => .error (.unwritable p (receipt.kept? report))

def analyze (host : Host) (s : Snapshot) (o : Options) : Except Error Done := do
  let violations := (← analysis s o).violations.toList
  match reportText? host violations (o.format.getD .text) with
  | none => .error .unrenderable
  | some report =>
    let (output, files) ← deliver host s o.output report
    return ⟨output, !violations.isEmpty, files⟩

/-! ### Commands -/

/-- Runs a command on a snapshot of the file system. That the version or the help cannot be printed is
no error. -/
def run (s : Snapshot) (args : List String) (host : Host := {}) : Except Error Done :=
  let shown (text : String) : Done := ⟨((host.print text).kept? text).getD "", false, s⟩
  match request? args with
  | none => .error .usage
  | some .version => .ok (shown versionText)
  | some .help => .ok (shown helpText)
  | some (.analyze o) => analyze host s o

/-- 0 without violations, 1 with some, 2 after an error. -/
def exitCode : Except Error Done → Nat
  | .ok done => if done.hasViolations then 1 else 0
  | .error _ => 2

/-- What stands on the standard output in the end. -/
def standardOutput : Except Error Done → String
  | .ok done => done.output
  | .error (.unprintable shown) => shown
  | .error _ => ""

/-- The files that a command on `s` leaves behind. After an error they are as they were, unless a part
of the report is in its file. -/
def filesAfter (s : Snapshot) : Except Error Done → Snapshot
  | .ok done => done.files
  | .error (.unwritable p (some kept)) => (s.write? p kept).getD s
  | .error _ => s

def Error.code? : Error → Option String
  | .config e => some e.code
  | _ => none

end LayerCheck.Command
