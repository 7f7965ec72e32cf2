/-!
Text inside an HTML cell: `&`, `<` and `>` are escaped, all other characters stand for themselves.
-/

namespace LayerCheck.Report.Markup

def escape (c : Char) : List Char :=
  if c = '&' then "&amp;".toList
  else if c = '<' then "&lt;".toList
  else if c = '>' then "&gt;".toList
  else [c]

def encode (s : String) : String :=
  String.ofList (s.toList.flatMap escape)

def cell (content : String) : String :=
  "<td>" ++ encode content ++ "</td>"

def row (cells : List String) : String :=
  "<tr>" ++ String.join (cells.map cell) ++ "</tr>\n"

end LayerCheck.Report.Markup
