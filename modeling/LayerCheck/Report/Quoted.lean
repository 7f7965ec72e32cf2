/-!
JSON string literals: the quote, the backslash and the control characters are escaped, all other
characters stand for themselves.
-/

namespace LayerCheck.Report.Quoted

def hexDigits (n : Nat) : List Char :=
  [Nat.digitChar (n / 16), Nat.digitChar (n % 16)]

def escape (c : Char) : List Char :=
  if c = '"' then ['\\', '"']
  else if c = '\\' then ['\\', '\\']
  else if c = '\n' then ['\\', 'n']
  else if c = '\r' then ['\\', 'r']
  else if c = '\t' then ['\\', 't']
  else if c = '\x08' then ['\\', 'b']
  else if c = '\x0c' then ['\\', 'f']
  else if c.toNat < 0x20 then ['\\', 'u', '0', '0'] ++ hexDigits c.toNat
  else [c]

def encode (s : List Char) : List Char :=
  s.flatMap escape

/-- The literal of a text, with its quotes. -/
def literal (s : String) : String :=
  String.ofList ('"' :: encode s.toList ++ ['"'])

end LayerCheck.Report.Quoted
