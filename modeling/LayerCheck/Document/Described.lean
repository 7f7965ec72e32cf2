import LayerCheck.Document.Basic
import LayerCheck.Unicode.Name

/-!
How a value is named in an error message: by its kind, and by the value itself if it is a scalar.
-/

namespace LayerCheck.Document

/-- Characters that leave no mark of their own: controls, formats, separators other than the blank,
characters without a meaning, and those that extend the character before them. -/
def isInvisible (c : Char) : Bool :=
  c != ' ' && (["C", "Z"].any fun name => inCategory name c) ||
    Unicode.inRanges ((Unicode.property? "Grapheme_Extend").getD []) c.toNat
where
  inCategory (name : String) (c : Char) : Bool :=
    Unicode.inRanges ((Unicode.category? name).getD []) c.toNat

def escapeVisible (c : Char) : List Char :=
  if c = '"' then ['\\', '"']
  else if c = '\\' then ['\\', '\\']
  else if c = '\n' then ['\\', 'n']
  else if c = '\r' then ['\\', 'r']
  else if c = '\t' then ['\\', 't']
  else if c = '\x00' then ['\\', '0']
  else if ' ' ≤ c ∧ c ≤ '~' then [c]
  else if isInvisible c then ['\\', 'u', '\x7b'] ++ Nat.toDigits 16 c.toNat ++ ['\x7d']
  else [c]

/-- A text between quotes, with escapes for what cannot be seen. -/
def quoteVisible (s : String) : String :=
  String.ofList ('"' :: s.toList.flatMap escapeVisible ++ ['"'])

def describe : Document → String
  | .null => "null"
  | .bool b => "boolean \x60" ++ (if b then "true" else "false") ++ "\x60"
  | .int n => "integer \x60" ++ (if n < 0 then "-" else "") ++ Nat.repr n.natAbs ++ "\x60"
  | .real numeral => "floating point \x60" ++ numeral ++ "\x60"
  | .text s => "string " ++ quoteVisible s
  | .list _ => "sequence"
  | .object _ => "map"

end LayerCheck.Document
