import LayerCheck.Unicode.Name

/-!
Identifiers of Python: a letter or underscore, then letters, digits, marks and underscores, with
the letters of Unicode.
-/

namespace LayerCheck.Syntax

def isIdentifierStart (c : Char) : Bool :=
  c.isAlpha || c == '_' || (c.toNat ≥ 0x80 && Unicode.inRanges Unicode.identifierStart c.toNat)

def isIdentifierContinue (c : Char) : Bool :=
  c.isAlphanum || c == '_' ||
    (c.toNat ≥ 0x80 && Unicode.inRanges Unicode.identifierContinue c.toNat)

def isIdentifier (s : String) : Bool :=
  match s.toList with
  | [] => false
  | c :: cs => isIdentifierStart c && cs.all isIdentifierContinue

end LayerCheck.Syntax
