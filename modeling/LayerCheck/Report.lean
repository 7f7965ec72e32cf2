import LayerCheck.Report.Markup
import LayerCheck.Report.Quoted
import LayerCheck.Violation

/-!
Reports: a list of violations as text, as JSON or as an HTML page, in the order given.
-/

namespace LayerCheck.Report

inductive Format where
  | text
  | json
  | html
deriving DecidableEq, Repr

/-- Names of formats are read without regard to ASCII case; a name that is none is given back in
lower case. -/
def Format.ofName (name : String) : Except String Format :=
  match name.map Char.toLower with
  | "text" => .ok text
  | "json" => .ok json
  | "html" => .ok html
  | other => .error other

def Format.unknownMessage (name : String) : String :=
  s!"unknown report format `{name}`"

def textLines (violations : List Violation) : String :=
  String.join (violations.map fun v => v.display ++ "\n")

/-- The fields of a violation with their values as JSON. -/
def jsonFields (v : Violation) : List (String × String) :=
  [("file", Quoted.literal v.file.text),
   ("line", toString v.line),
   ("column", toString v.column),
   ("element_name", Quoted.literal v.elementName),
   ("element_kind", Quoted.literal v.elementKind.text),
   ("violation_type", Quoted.literal v.type.text),
   ("message", Quoted.literal v.message)]

def jsonObject (v : Violation) : String :=
  let fields := (jsonFields v).map fun (key, value) => "    " ++ Quoted.literal key ++ ": " ++ value
  "  \x7b\n" ++ ",\n".intercalate fields ++ "\n  \x7d"

def jsonArray : List Violation → String
  | [] => "[]"
  | violations => "[\n" ++ ",\n".intercalate (violations.map jsonObject) ++ "\n]"

def htmlProlog : String :=
  "<!DOCTYPE html>\n<html>\n<head>\n<meta charset=\"utf-8\">\n<title>deply report</title>\n</head>\n" ++
  "<body>\n<h1>Violations</h1>\n<table>\n<tr><th>File</th><th>Line</th><th>Column</th>" ++
  "<th>Element</th><th>Kind</th><th>Type</th><th>Message</th></tr>\n"

def htmlEpilog : String :=
  "</table>\n</body>\n</html>\n"

def htmlCells (v : Violation) : List String :=
  [v.file.text, toString v.line, toString v.column, v.elementName, v.elementKind.text, v.type.text,
    v.message]

def htmlPage (violations : List Violation) : String :=
  htmlProlog ++ String.join (violations.map fun v => Markup.row (htmlCells v)) ++ htmlEpilog

def render (violations : List Violation) : Format → String
  | .text => textLines violations
  | .json => jsonArray violations
  | .html => htmlPage violations

/-- The report, given which paths are text. JSON can hold no others. -/
def render? (isText : Path → Bool) (violations : List Violation) (format : Format) : Option String :=
  if format = .json ∧ ¬violations.all (isText ·.file) then none else some (render violations format)

end LayerCheck.Report
