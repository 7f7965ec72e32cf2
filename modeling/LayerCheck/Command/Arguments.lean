import LayerCheck.Path
import LayerCheck.Report

/-!
The arguments of the command line. Reading fails on anything that is no request.
-/

namespace LayerCheck.Command

structure Options where
  config : Option Path := none
  format : Option Report.Format := none
  output : Option Path := none
deriving DecidableEq, Repr

inductive Request where
  | version
  | help
  | analyze (o : Options)
deriving DecidableEq, Repr

/-- The options that take a value. -/
inductive Setting where
  | config
  | format
  | output
deriving DecidableEq, Repr

namespace Setting

def ofLong? : String → Option Setting
  | "config" => some config
  | "report-format" => some format
  | "output" => some output
  | _ => none

def ofShort? : Char → Option Setting
  | 'c' => some config
  | 'r' => some format
  | 'o' => some output
  | _ => none

end Setting

/-- The names of formats on the command line are written in lower case. -/
def formatOf? : String → Option Report.Format
  | "text" => some .text
  | "json" => some .json
  | "html" => some .html
  | _ => none

/-- Paths are not empty, and each option is given once. -/
def Options.set? (o : Options) (setting : Setting) (value : String) : Option Options :=
  match setting with
  | .config => if o.config.isSome || value == "" then none else some { o with config := some ⟨value⟩ }
  | .output => if o.output.isSome || value == "" then none else some { o with output := some ⟨value⟩ }
  | .format =>
    if o.format.isSome then none
    else (formatOf? value).map fun f => { o with format := some f }

/-- What an argument looks like. -/
inductive Shape where
  /-- Nothing but values follows. -/
  | escape
  | long (name : String) (value : Option String)
  | short (letters : List Char)
  | word (text : String)
deriving DecidableEq, Repr

def longShape (cs : List Char) : Shape :=
  let name := String.ofList (cs.takeWhile (· ≠ '='))
  match cs.dropWhile (· ≠ '=') with
  | [] => .long name none
  | _ :: value => .long name (some (String.ofList value))

def shape (arg : String) : Shape :=
  match arg.toList with
  | ['-', '-'] => .escape
  | '-' :: '-' :: cs => longShape cs
  | '-' :: c :: cs => .short (c :: cs)
  | _ => .word arg

/-- What the letters of a short argument ask for. -/
inductive Letters where
  | nothing
  | version
  | help
  /-- An option, with the letters behind it as its value if there are any. -/
  | setting (s : Setting) (value : Option String)
deriving DecidableEq, Repr

/-- A value may be set off by `=`. -/
def attached : List Char → Option String
  | [] => none
  | '=' :: cs => some (String.ofList cs)
  | cs => some (String.ofList cs)

/-- Reads letters up to the first one that says more than to be verbose. -/
def letters? (inCommand : Bool) : List Char → Option Letters
  | [] => some .nothing
  | c :: cs =>
    if c = 'v' then letters? inCommand cs
    else if c = 'h' then some .help
    else if c = 'V' ∧ !inCommand then some .version
    else if inCommand then (Setting.ofShort? c).map fun s => .setting s (attached cs)
    else none

/-- The arguments behind the command. `pending` is an option that waits for its value. -/
def analyzeRequest? (o : Options) : (pending : Option Setting) → List String → Option Request
  | none, [] => some (.analyze o)
  | some _, [] => none
  | pending, arg :: rest =>
    match pending, shape arg with
    | some s, .word value => do analyzeRequest? (← o.set? s value) none rest
    | some _, _ => none
    | none, .word _ => none
    | none, .escape => if rest.isEmpty then some (.analyze o) else none
    | none, .long name value =>
      match Setting.ofLong? name, value with
      | some s, some value => do analyzeRequest? (← o.set? s value) none rest
      | some s, none => analyzeRequest? o (some s) rest
      | none, some _ => none
      | none, none =>
        if name = "verbose" then analyzeRequest? o none rest
        else if name = "help" then some .help
        else none
    | none, .short letters =>
      match letters? true letters with
      | some .nothing => analyzeRequest? o none rest
      | some .help => some .help
      | some (.setting s (some value)) => do analyzeRequest? (← o.set? s value) none rest
      | some (.setting s none) => analyzeRequest? o (some s) rest
      | _ => none

/-- The arguments from the first one on. Without a command the project is analyzed. -/
def request? : List String → Option Request
  | [] => some (.analyze {})
  | arg :: rest =>
    match shape arg with
    | .word name =>
      if name = "analyze" then analyzeRequest? {} none rest
      else if name = "help" then some .help
      else none
    | .escape => if rest.isEmpty then some (.analyze {}) else none
    | .long "verbose" none => request? rest
    | .long "version" none => some .version
    | .long "help" none => some .help
    | .long _ _ => none
    | .short letters =>
      match letters? false letters with
      | some .nothing => request? rest
      | some .version => some .version
      | some .help => some .help
      | _ => none

end LayerCheck.Command
