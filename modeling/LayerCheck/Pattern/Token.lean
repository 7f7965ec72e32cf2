import LayerCheck.Pattern.Regex

/-!
The tokens of a pattern: single characters and assertions with the flags in force already applied,
parentheses, bars and repetition marks. Reading fails on anything that is not a pattern.
-/

namespace LayerCheck.Pattern

/-- The flags that are written `i`, `m`, `s`, `u`, `x` and `R`. -/
structure Flags where
  ignoreCase : Bool := false
  multiLine : Bool := false
  dotMatchesNewline : Bool := false
  unicode : Bool := true
  ignoreSpace : Bool := false
  crlf : Bool := false
deriving DecidableEq, Repr

inductive Token where
  /-- One character of the set. `depth` is the nesting of the brackets it was written with. -/
  | set (s : CharSet) (depth : Nat)
  | look (l : Look)
  | openGroup
  | closeGroup
  | bar
  | repetition (least : Nat) (most : Option Nat)
  /-- A change of flags, which cannot be repeated. -/
  | flags
deriving Repr

/-- What an escape stands for. Literals remember whether they were written as a byte `\xNN`. -/
inductive Primitive where
  | literal (c : Char) (byte : Bool)
  | set (s : CharSet)
  | look (l : Look)
deriving Repr

def skipBlanksAux : (inComment : Bool) → List Char → List Char
  | _, [] => []
  | true, c :: cs => skipBlanksAux (c ≠ '\n') cs
  | false, c :: cs =>
    if c = '#' then skipBlanksAux true cs
    else if Unicode.isWhiteSpace c then skipBlanksAux false cs
    else c :: cs

/-- Drops blanks and comments where the flag `x` is set. -/
def Flags.skip (f : Flags) (cs : List Char) : List Char :=
  if f.ignoreSpace then skipBlanksAux false cs else cs

def Flags.fold (f : Flags) (s : CharSet) : CharSet :=
  if f.ignoreCase then .folded (!f.unicode) s else s

/-- The set of one character. Outside Unicode mode a byte above ASCII is no character. -/
def Flags.literal (f : Flags) (c : Char) (byte : Bool) : Option CharSet :=
  if !f.unicode && byte && c.toNat ≥ 0x80 then none
  else if !f.unicode && c.toNat ≥ 0x80 then some (.single c.toNat)
  else some (f.fold (.single c.toNat))

/-- The complement of a set. Outside Unicode mode it would hold what is no character. -/
def Flags.negate (f : Flags) (negated : Bool) (s : CharSet) : Option CharSet :=
  if !negated then some s
  else if f.unicode then some (.compl s)
  else none

def Flags.dot (f : Flags) : Option CharSet :=
  if !f.unicode then none
  else if f.dotMatchesNewline then some .any
  else if f.crlf then some (.compl (.ranges [(0x0a, 0x0a), (0x0d, 0x0d)]))
  else some (.compl (.single 0x0a))

/-! ### Escapes -/

def metaCharacters : List Char := "\\.+*?()|[]{}^$#&-~".toList

def isEscapable (c : Char) : Bool :=
  metaCharacters.contains c ||
    (c.toNat < 0x80 && !c.isAlphanum && c ≠ '<' && c ≠ '>')

def perl? (f : Flags) (c : Char) : Option (Option CharSet) :=
  let class_ (unicode : Unicode.Ranges) (ascii : CharSet) (negated : Bool) : Option CharSet :=
    f.negate negated (if f.unicode then .ranges unicode else ascii)
  match c with
  | 'd' => some (class_ Unicode.decimalDigits .asciiDigits false)
  | 'D' => some (class_ Unicode.decimalDigits .asciiDigits true)
  | 's' => some (class_ Unicode.whiteSpace .asciiSpaces false)
  | 'S' => some (class_ Unicode.whiteSpace .asciiSpaces true)
  | 'w' => some (class_ Unicode.wordCharacters .asciiWord false)
  | 'W' => some (class_ Unicode.wordCharacters .asciiWord true)
  | _ => none

def codePoint? (digits : List Char) : Option Char :=
  let n := Unicode.Table.readHex (String.ofList digits)
  if n.isValidChar then some (Char.ofNat n) else none

/-- The next `n` hexadecimal digits; blanks are skipped after each if the flag `x` is set. -/
def readHexDigits (f : Flags) : Nat → List Char → Option (List Char × List Char)
  | 0, cs => some ([], cs)
  | n + 1, c :: cs => do
    let _ ← Unicode.Table.hexDigit? c
    let (digits, rest) ← readHexDigits f n (f.skip cs)
    return (c :: digits, rest)
  | _ + 1, [] => none

/-- The characters up to a closing brace, and what follows it. -/
def readBraced (f : Flags) : (fuel : Nat) → List Char → Option (List Char × List Char)
  | 0, _ => none
  | fuel + 1, cs =>
    match f.skip cs with
    | [] => none
    | '\x7d' :: rest => some ([], rest)
    | c :: rest => do
      let (body, rest) ← readBraced f fuel rest
      return (c :: body, rest)

def readHexEscape (f : Flags) (width : Nat) (cs : List Char) : Option (Char × Bool × List Char) :=
  match f.skip cs with
  | '\x7b' :: cs => do
    let (digits, rest) ← readBraced f (cs.length + 1) cs
    if digits.isEmpty ∨ digits.any (fun c => (Unicode.Table.hexDigit? c).isNone) then none
    else return (← codePoint? digits, false, f.skip rest)
  | cs => do
    let (digits, rest) ← readHexDigits f width cs
    return (← codePoint? digits, width == 2, rest)

/-- Cuts a text at the first occurrence of `sep`. -/
def cutAt? (sep : List Char) : List Char → Option (List Char × List Char)
  | [] => none
  | c :: cs =>
    if sep.isPrefixOf (c :: cs) then some ([], (c :: cs).drop sep.length)
    else (cutAt? sep cs).map fun (l, r) => (c :: l, r)

/-- A property in braces: `name`, `name=value`, `name:value` or `name!=value`. The flag says
whether the relation is negated. -/
def readProperty (body : List Char) : Option (Bool × Unicode.Ranges) :=
  let valued (l r : List Char) := Unicode.valued (String.ofList l) (String.ofList r)
  match cutAt? "!=".toList body with
  | some (l, r) => (valued l r).map (true, ·)
  | none =>
    match cutAt? [':'] body with
    | some (l, r) => (valued l r).map (false, ·)
    | none =>
      match cutAt? ['='] body with
      | some (l, r) => (valued l r).map (false, ·)
      | none => (Unicode.named (String.ofList body)).map (false, ·)

def readUnicodeClass (f : Flags) (negated : Bool) (cs : List Char) :
    Option (CharSet × List Char) := do
  if !f.unicode then none
  match f.skip cs with
  | [] => none
  | '\x7b' :: cs =>
    let (body, rest) ← readBraced f (cs.length + 1) cs
    let (flipped, ranges) ← readProperty body
    return (← f.negate (negated != flipped) (f.fold (.ranges ranges)), rest)
  | c :: rest =>
    let ranges ← Unicode.named (String.singleton c)
    if c = '\\' then none
    else return (← f.negate negated (f.fold (.ranges ranges)), f.skip rest)

/-- The word boundary that `\b` stands for, with the name in braces that may follow it. Braces
that start with no letter are left for a repetition. -/
def readWordBoundary (f : Flags) (cs : List Char) : Option (Look × List Char) :=
  let ascii := !f.unicode
  let isNameChar (c : Char) : Bool := c.isAlpha || c == '-'
  match cs with
  | '\x7b' :: inner =>
    match f.skip inner with
    | [] => none
    | c :: _ =>
      if !isNameChar c then some (.wordBoundary ascii, cs)
      else do
        let (body, rest) ← readBraced f (inner.length + 1) inner
        match String.ofList body with
        | "start" => some (.wordStart ascii, rest)
        | "end" => some (.wordEnd ascii, rest)
        | "start-half" => some (.wordStartHalf ascii, rest)
        | "end-half" => some (.wordEndHalf ascii, rest)
        | _ => none
  | cs => some (.wordBoundary ascii, cs)

/-- Reads what follows a backslash. -/
def readEscape (f : Flags) : List Char → Option (Primitive × List Char)
  | [] => none
  | c :: cs =>
    let ascii := !f.unicode
    match perl? f c with
    | some s => do return (.set (← s), cs)
    | none =>
      match c with
      | 'x' => (readHexEscape f 2 cs).map fun (c, byte, rest) => (.literal c byte, rest)
      | 'u' => (readHexEscape f 4 cs).map fun (c, _, rest) => (.literal c false, rest)
      | 'U' => (readHexEscape f 8 cs).map fun (c, _, rest) => (.literal c false, rest)
      | 'p' => (readUnicodeClass f false cs).map fun (s, rest) => (.set s, rest)
      | 'P' => (readUnicodeClass f true cs).map fun (s, rest) => (.set s, rest)
      | 'a' => some (.literal '\x07' false, cs)
      | 'f' => some (.literal '\x0c' false, cs)
      | 't' => some (.literal '\t' false, cs)
      | 'n' => some (.literal '\n' false, cs)
      | 'r' => some (.literal '\r' false, cs)
      | 'v' => some (.literal '\x0b' false, cs)
      | 'A' => some (.look .textStart, cs)
      | 'z' => some (.look .textEnd, cs)
      | 'b' => (readWordBoundary f cs).map fun (l, rest) => (.look l, rest)
      | 'B' => some (.look (.notWordBoundary ascii), cs)
      | '<' => some (.look (.wordStart ascii), cs)
      | '>' => some (.look (.wordEnd ascii), cs)
      | c => if isEscapable c then some (.literal c false, cs) else none

/-! ### Bracketed classes -/

inductive SetOperation where
  | intersection
  | difference
  | symmetricDifference
deriving DecidableEq, Repr

def SetOperation.apply : SetOperation → CharSet → CharSet → CharSet
  | intersection => .inter
  | difference => .diff
  | symmetricDifference => .symmDiff

/-- A bracket that is open: what was read of it, with the operation that waits for its right side.
`count` and `depth` are the number and the nesting of the items since that operation. -/
structure Bracket where
  negated : Bool
  pending : Option (SetOperation × CharSet × Nat) := none
  items : CharSet := .empty
  count : Nat := 0
  depth : Nat := 0
deriving Repr

namespace Bracket

def add (b : Bracket) (s : CharSet) (depth : Nat) : Bracket :=
  { b with items := .union b.items s, count := b.count + 1, depth := max b.depth depth }

/-- The nesting of the items as one union. -/
def itemsDepth (b : Bracket) : Nat :=
  if b.count < 2 then b.depth else b.depth + 1

/-- The set read so far, with the waiting operation done. -/
def value (f : Flags) (b : Bracket) : CharSet × Nat :=
  match b.pending with
  | none => (b.items, b.itemsDepth)
  | some (op, left, depth) => (op.apply (f.fold left) (f.fold b.items), max depth b.itemsDepth + 1)

def setOperation (f : Flags) (op : SetOperation) (b : Bracket) : Bracket :=
  let (left, depth) := b.value f
  { negated := b.negated, pending := some (op, left, depth) }

/-- The set of a bracket that is closed. -/
def close (f : Flags) (b : Bracket) : Option (CharSet × Nat) := do
  let (s, depth) := b.value f
  return (← f.negate b.negated (f.fold s), depth + 1)

end Bracket

def addLeadingHyphens (f : Flags) : (fuel : Nat) → Bracket → List Char → Bracket × List Char
  | 0, b, cs => (b, cs)
  | fuel + 1, b, cs =>
    match cs with
    | '-' :: rest => addLeadingHyphens f fuel (b.add (f.fold (.single '-'.toNat)) 0) (f.skip rest)
    | cs => (b, cs)

/-- Reads what follows an opening bracket: a caret, hyphens, and a closing bracket that is the first
item and so stands for itself. -/
def openBracket (f : Flags) (cs : List Char) : Option (Bracket × List Char) :=
  let (negated, cs) := match f.skip cs with
    | '^' :: rest => (true, f.skip rest)
    | cs => (false, cs)
  let (b, cs) := addLeadingHyphens f cs.length { negated } cs
  match cs with
  | [] => none
  | ']' :: rest =>
    if b.count = 0 then
      match f.skip rest with
      | [] => none
      | rest => some (b.add (f.fold (.single ']'.toNat)) 0, rest)
    else some (b, cs)
  | cs => some (b, cs)

/-- Reads `:name:]` after an opening bracket. -/
def readPosix (f : Flags) (cs : List Char) : Option (Option CharSet × List Char) :=
  match cs with
  | ':' :: cs =>
    let (negated, cs) := match cs with
      | '^' :: rest => (true, rest)
      | cs => (false, cs)
    match cs.dropWhile (· ≠ ':') with
    | ':' :: ']' :: rest => do
      let s ← CharSet.posix? (String.ofList (cs.takeWhile (· ≠ ':')))
      return (f.negate negated (f.fold s), rest)
    | _ => none
  | _ => none

def readClassItem (f : Flags) : List Char → Option (Primitive × List Char)
  | [] => none
  | '\\' :: cs => readEscape f cs
  | c :: cs => some (.literal c false, cs)

/-- The code point of an end of a range. Outside Unicode mode classes hold ASCII only. -/
def Primitive.codePoint? (f : Flags) : Primitive → Option Nat
  | literal c _ => if !f.unicode && c.toNat ≥ 0x80 then none else some c.toNat
  | _ => none

def Primitive.classSet? (f : Flags) : Primitive → Option CharSet
  | literal c byte => (codePoint? f (literal c byte)).map .single
  | set s => some s
  | look _ => none

/-- Reads one item of a class: a character, a range or an escape. -/
def readRange (f : Flags) (cs : List Char) : Option (CharSet × List Char) := do
  let (first, rest) ← readClassItem f cs
  match f.skip rest with
  | [] => none
  | '-' :: after =>
    match f.skip after with
    | [] => none
    | ']' :: _ | '-' :: _ => return (← first.classSet? f, f.skip rest)
    | after =>
      let (second, rest) ← readClassItem f after
      let lo ← first.codePoint? f
      let hi ← second.codePoint? f
      if lo ≤ hi then return (.ranges [(lo, hi)], rest) else none
  | rest => return (← first.classSet? f, rest)

/-- Reads a class after its opening bracket, up to the bracket that closes it. -/
def readClass (f : Flags) :
    (fuel : Nat) → Bracket → List Bracket → List Char → Option (CharSet × Nat × List Char)
  | 0, _, _, _ => none
  | fuel + 1, b, outer, cs =>
    match f.skip cs with
    | [] => none
    | '[' :: rest =>
      match readPosix f rest with
      | some (s, rest) => do readClass f fuel (b.add (← s) 0) outer rest
      | none => do
        let (inner, rest) ← openBracket f rest
        readClass f fuel inner (b :: outer) rest
    | ']' :: rest => do
      let (s, depth) ← b.close f
      match outer with
      | [] => return (s, depth, rest)
      | b :: outer => readClass f fuel (b.add s depth) outer rest
    | '&' :: '&' :: rest => readClass f fuel (b.setOperation f .intersection) outer rest
    | '-' :: '-' :: rest => readClass f fuel (b.setOperation f .difference) outer rest
    | '~' :: '~' :: rest => readClass f fuel (b.setOperation f .symmetricDifference) outer rest
    | cs => do
      let (s, rest) ← readRange f cs
      readClass f fuel (b.add s 0) outer rest

/-! ### Repetitions -/

/-- Reads a decimal number with blanks around it. -/
def readCount (f : Flags) (cs : List Char) : Option (Nat × List Char) :=
  let rec digits : (fuel : Nat) → List Char → List Char × List Char
    | 0, cs => ([], cs)
    | fuel + 1, cs =>
      match cs with
      | c :: rest =>
        if c.isDigit then
          let (ds, rest) := digits fuel (f.skip rest)
          (c :: ds, rest)
        else ([], cs)
      | [] => ([], cs)
  let (ds, rest) := digits cs.length (cs.dropWhile Unicode.isWhiteSpace)
  let n := ds.foldl (fun n c => 10 * n + (c.toNat - '0'.toNat)) 0
  if ds.isEmpty ∨ n ≥ Nat.pow 2 32 then none
  else some (n, f.skip (rest.dropWhile Unicode.isWhiteSpace))

def dropLazyMark : List Char → List Char
  | '?' :: rest => rest
  | rest => rest

/-- Reads the upper bound after the lower one; without a comma both are the same. -/
def readMost (f : Flags) (least : Nat) : List Char → Option (Option Nat × List Char)
  | ',' :: rest =>
    match f.skip rest with
    | '\x7d' :: rest => some (none, '\x7d' :: rest)
    | rest => (readCount f rest).map fun (most, rest) => (some most, rest)
  | rest => some (some least, rest)

/-- Reads a counted repetition after its opening brace. -/
def readRepetition (f : Flags) (cs : List Char) : Option (Nat × Option Nat × List Char) := do
  let (least, rest) ← readCount f (f.skip cs)
  let (most, rest) ← readMost f least rest
  match rest with
  | '\x7d' :: rest =>
    if most.any (· < least) then none else return (least, most, dropLazyMark (f.skip rest))
  | _ => none

/-! ### Groups -/

def Flags.set (f : Flags) (letter : Char) (on : Bool) : Option Flags :=
  match letter with
  | 'i' => some { f with ignoreCase := on }
  | 'm' => some { f with multiLine := on }
  | 's' => some { f with dotMatchesNewline := on }
  | 'u' => some { f with unicode := on }
  | 'x' => some { f with ignoreSpace := on }
  | 'R' => some { f with crlf := on }
  | 'U' => some f
  | _ => none

/-- Reads flags up to `:` or `)`, and gives back that character. No flag may stand twice, and
something must follow a `-`. -/
def readFlags (f : Flags) (seen : List Char) : List Char → Option (Flags × List Char × Char × List Char)
  | [] => none
  | c :: cs =>
    if c = ':' ∨ c = ')' then
      if seen.head? = some '-' then none else some (f, seen, c, cs)
    else if seen.contains c then none
    else if c = '-' then readFlags f (c :: seen) cs
    else do readFlags (← f.set c (!seen.contains '-')) (c :: seen) cs

def isNameStart (c : Char) : Bool :=
  c == '_' || Unicode.inRanges Unicode.alphabetic c.toNat

def isNameContinue (c : Char) : Bool :=
  isNameStart c || c == '.' || c == '[' || c == ']' || Unicode.inRanges Unicode.numbers c.toNat

/-- Reads the name of a group up to `>`. -/
def readGroupName (cs : List Char) : Option (String × List Char) :=
  let name := cs.takeWhile (· ≠ '>')
  match name, cs.drop name.length with
  | c :: rest, '>' :: after =>
    if isNameStart c && rest.all isNameContinue then some (String.ofList name, after) else none
  | _, _ => none

/-- The flags of the groups that are open, innermost first, and the names given so far. -/
structure Reading where
  flags : Flags := {}
  outer : List Flags := []
  names : List String := []
deriving Repr

def Reading.enter (r : Reading) (flags : Flags) : Reading :=
  { r with flags, outer := r.flags :: r.outer }

/-- Reads a name for a group, which must be new. -/
def Reading.enterNamed (r : Reading) (cs : List Char) : Option (Token × Reading × List Char) := do
  let (name, rest) ← readGroupName cs
  if r.names.contains name then none
  else return (.openGroup, { r.enter r.flags with names := name :: r.names }, rest)

/-- Reads what follows an opening parenthesis. -/
def Reading.readOpen (r : Reading) (cs : List Char) : Option (Token × Reading × List Char) :=
  match r.flags.skip cs with
  | '?' :: 'P' :: '<' :: cs => r.enterNamed cs
  | '?' :: '<' :: cs =>
    match cs with
    | '=' :: _ | '!' :: _ => none
    | cs => r.enterNamed cs
  | '?' :: cs => do
    let (flags, seen, stop, rest) ← readFlags r.flags [] cs
    if stop = ':' then return (.openGroup, r.enter flags, rest)
    else if seen.isEmpty then none
    else return (.flags, { r with flags }, rest)
  | cs => some (.openGroup, r.enter r.flags, cs)

/-! ### The whole pattern -/

def Primitive.token? (f : Flags) : Primitive → Option Token
  | literal c byte => (f.literal c byte).map (.set · 0)
  | set s => some (.set s 0)
  | look l => some (.look l)

/-- The token of a character that opens nothing. -/
def Flags.single (f : Flags) (c : Char) : Option Token :=
  match c with
  | '.' => f.dot.map (.set · 0)
  | '^' => some (.look (if f.multiLine then .lineStart f.crlf else .textStart))
  | '$' => some (.look (if f.multiLine then .lineEnd f.crlf else .textEnd))
  | c => Primitive.token? f (.literal c false)

/-- One token, with the state and the characters after it. -/
def Reading.next (r : Reading) (c : Char) (cs : List Char) : Option (Token × Reading × List Char) :=
  match c with
  | '(' => r.readOpen cs
  | ')' =>
    match r.outer with
    | [] => none
    | flags :: outer => some (.closeGroup, { r with flags, outer }, cs)
  | '|' => some (.bar, r, cs)
  | '[' => do
    let (b, rest) ← openBracket r.flags cs
    let (s, depth, rest) ← readClass r.flags (rest.length + 1) b [] rest
    return (.set s depth, r, rest)
  | '?' => some (.repetition 0 (some 1), r, dropLazyMark cs)
  | '*' => some (.repetition 0 none, r, dropLazyMark cs)
  | '+' => some (.repetition 1 none, r, dropLazyMark cs)
  | '\x7b' => do
    let (least, most, rest) ← readRepetition r.flags cs
    return (.repetition least most, r, rest)
  | '\\' => do
    let (p, rest) ← readEscape r.flags cs
    return (← p.token? r.flags, r, rest)
  | c => do return (← r.flags.single c, r, cs)

def Reading.tokens : (fuel : Nat) → Reading → List Char → Option (List Token)
  | 0, _, _ => none
  | fuel + 1, r, cs =>
    match r.flags.skip cs with
    | [] => if r.outer.isEmpty then some [] else none
    | c :: cs => do
      let (t, r, rest) ← r.next c cs
      return t :: (← r.tokens fuel rest)

/-- The tokens of a pattern; `none` if the text is no pattern. -/
def tokens? (pattern : String) : Option (List Token) :=
  Reading.tokens (pattern.length + 1) {} pattern.toList

end LayerCheck.Pattern
