import LayerCheck.Document.Basic
import LayerCheck.Document.Numeral
import Mathlib.Data.List.Forall2
import Mathlib.Data.List.TakeWhile

/-!
JSON as a notation for documents: the texts that stand for a document, and a reader. Whatever text
stands for a document is read back as that document, so a text stands for one document at most.
-/

namespace LayerCheck.Json

/-! ### The grammar -/

def isBlank (c : Char) : Bool :=
  c = ' ' || c = '\t' || c = '\n' || c = '\r'

def Blank (cs : List Char) : Prop :=
  ∀ c ∈ cs, isBlank c

instance (cs : List Char) : Decidable (Blank cs) :=
  List.decidableBAll (fun c => isBlank c) cs

/-- The character that a letter behind a backslash stands for. -/
def shorthand? : Char → Option Char
  | '"' => some '"'
  | '\\' => some '\\'
  | '/' => some '/'
  | 'b' => some '\x08'
  | 'f' => some '\x0c'
  | 'n' => some '\n'
  | 'r' => some '\r'
  | 't' => some '\t'
  | _ => none

def isHighHalf (n : Nat) : Bool :=
  0xd800 ≤ n && n < 0xdc00

def isLowHalf (n : Nat) : Bool :=
  0xdc00 ≤ n && n < 0xe000

/-- The number of the character that two halves are written for. -/
def joined (high low : Nat) : Nat :=
  0x10000 + (high - 0xd800) * 0x400 + (low - 0xdc00)

/-- The texts of a character in a string. -/
inductive CharText : Char → List Char → Prop
  | plain {c : Char} (hc : 0x20 ≤ c.toNat) (hquote : c ≠ '"') (hslash : c ≠ '\\') : CharText c [c]
  | short {c letter : Char} (h : shorthand? letter = some c) : CharText c ['\\', letter]
  | unit {c d₁ d₂ d₃ d₄ : Char} (h : Numeral.nat? 16 [d₁, d₂, d₃, d₄] = some c.toNat) :
      CharText c ['\\', 'u', d₁, d₂, d₃, d₄]
  | halves {c d₁ d₂ d₃ d₄ e₁ e₂ e₃ e₄ : Char} {high low : Nat}
      (hhigh : Numeral.nat? 16 [d₁, d₂, d₃, d₄] = some high) (h : isHighHalf high)
      (hlow : Numeral.nat? 16 [e₁, e₂, e₃, e₄] = some low) (h' : isLowHalf low)
      (hc : c.toNat = joined high low) :
      CharText c ['\\', 'u', d₁, d₂, d₃, d₄, '\\', 'u', e₁, e₂, e₃, e₄]

/-- The texts of characters in a row. -/
inductive CharsText : List Char → List Char → Prop
  | nil : CharsText [] []
  | cons {c : Char} {s t cs : List Char} (hc : CharText c t) (hs : CharsText s cs) :
      CharsText (c :: s) (t ++ cs)

def StringText (s : String) (cs : List Char) : Prop :=
  ∃ inner, CharsText s.toList inner ∧ cs = '"' :: (inner ++ ['"'])

/-- The texts of a name with the colon behind it. -/
def NameText (name : String) (cs : List Char) : Prop :=
  ∃ t a b, StringText name t ∧ Blank a ∧ Blank b ∧ cs = t ++ (a ++ ':' :: b)

def isDigits (cs : List Char) : Bool :=
  !cs.isEmpty && cs.all Char.isDigit

/-- Digits without a zero in front, unless it stands alone. -/
def isWhole (cs : List Char) : Bool :=
  isDigits cs && (cs = ['0'] || cs.head? != some '0')

/-- An exponent or nothing. -/
def isExponent : List Char → Bool
  | [] => true
  | mark :: cs =>
    (mark = 'e' || mark = 'E') &&
      (isDigits cs || (cs.head? = some '+' || cs.head? = some '-') && isDigits cs.tail)

/-- A fraction and an exponent, of which each may be missing. -/
def isTail (cs : List Char) : Bool :=
  isExponent cs ||
    (cs.head? = some '.' && isDigits (cs.tail.takeWhile Char.isDigit) &&
      isExponent (cs.tail.dropWhile Char.isDigit))

def sign (negative : Bool) : List Char :=
  if negative then ['-'] else []

/-- The number that is written with these parts. -/
def number (negative : Bool) (digits tail : List Char) : Document :=
  if tail.isEmpty then
    .int (if negative then -(Nat.ofDigitChars 10 digits 0) else Nat.ofDigitChars 10 digits 0)
  else .real (String.ofList (sign negative ++ (digits ++ tail)))

/-- Texts with commas between them and blanks around each, or blanks only. -/
inductive Row : List (List Char) → List Char → Prop
  | empty {a : List Char} (ha : Blank a) : Row [] a
  | last {a t b : List Char} (ha : Blank a) (hb : Blank b) : Row [t] (a ++ (t ++ b))
  | more {a t b t' cs : List Char} {ts : List (List Char)} (ha : Blank a) (hb : Blank b)
      (hrest : Row (t' :: ts) cs) : Row (t :: t' :: ts) (a ++ (t ++ (b ++ ',' :: cs)))

/-- A named value, each with its text. -/
structure Member where
  name : String
  label : List Char
  value : Document
  text : List Char

inductive ValueText : Document → List Char → Prop
  | null : ValueText .null "null".toList
  | bool (b : Bool) : ValueText (.bool b) (toString b).toList
  | number {negative : Bool} {digits tail : List Char} (hdigits : isWhole digits)
      (htail : isTail tail) :
      ValueText (number negative digits tail) (sign negative ++ (digits ++ tail))
  | text {s : String} {cs : List Char} (h : StringText s cs) : ValueText (.text s) cs
  | list {items : List (Document × List Char)} {cs : List Char}
      (hvalues : ∀ x ∈ items, ValueText x.1 x.2) (hrow : Row (items.map (·.2)) cs) :
      ValueText (.list (items.map (·.1))) ('[' :: (cs ++ [']']))
  | object {members : List Member} {cs : List Char}
      (hnames : ∀ m ∈ members, NameText m.name m.label)
      (hvalues : ∀ m ∈ members, ValueText m.value m.text)
      (hrow : Row (members.map fun m => m.label ++ m.text) cs) :
      ValueText (.object (members.map fun m => (m.name, m.value))) ('\x7b' :: (cs ++ ['\x7d']))

/-- The texts of a document. -/
def IsText (d : Document) (s : String) : Prop :=
  ∃ a t b, Blank a ∧ ValueText d t ∧ Blank b ∧ s.toList = a ++ (t ++ b)

/-! ### The reader -/

def skipBlanks (cs : List Char) : List Char :=
  cs.dropWhile isBlank

def unit? : List Char → Option (Nat × List Char)
  | d₁ :: d₂ :: d₃ :: d₄ :: cs => (Numeral.nat? 16 [d₁, d₂, d₃, d₄]).map (·, cs)
  | _ => none

/-- Reads the digits behind `\u`, and the second half where they are a first one. -/
def codePoint? (cs : List Char) : Option (Char × List Char) := do
  let (n, cs) ← unit? cs
  if isHighHalf n then
    match cs with
    | '\\' :: 'u' :: cs =>
      let (low, cs) ← unit? cs
      if isLowHalf low then return (Char.ofNat (joined n low), cs) else none
    | _ => none
  else if isLowHalf n then none
  else return (Char.ofNat n, cs)

def char? : List Char → Option (Char × List Char)
  | '\\' :: 'u' :: cs => codePoint? cs
  | '\\' :: letter :: cs => (shorthand? letter).map (·, cs)
  | c :: cs => if 0x20 ≤ c.toNat then some (c, cs) else none
  | [] => none

/-- Reads characters up to the quote that ends them. -/
def chars? : Nat → List Char → Option (List Char × List Char)
  | 0, _ => none
  | fuel + 1, cs =>
    if cs.head? = some '"' then some ([], cs.tail)
    else do
      let (c, cs) ← char? cs
      let (s, cs) ← chars? fuel cs
      return (c :: s, cs)

def string? (fuel : Nat) : List Char → Option (String × List Char)
  | '"' :: cs => do
    let (s, cs) ← chars? fuel cs
    return (String.ofList s, cs)
  | _ => none

def number? (cs : List Char) : Option Document :=
  let negative : Bool := cs.head? = some '-'
  let unsigned := if negative then cs.tail else cs
  let digits := unsigned.takeWhile Char.isDigit
  let tail := unsigned.dropWhile Char.isDigit
  if isWhole digits && isTail tail then some (number negative digits tail) else none

def word? (cs : List Char) : Option Document :=
  if cs = "null".toList then some .null
  else if cs = "true".toList then some (.bool true)
  else if cs = "false".toList then some (.bool false)
  else none

/-- The characters of words and numbers. -/
def isWordChar (c : Char) : Bool :=
  c.isAlphanum || c = '+' || c = '-' || c = '.'

def scalar? (cs : List Char) : Option (Document × List Char) := do
  let word := cs.takeWhile isWordChar
  let d ← (number? word).or (word? word)
  return (d, cs.dropWhile isWordChar)

section Rows

variable {α : Type} (item? : List Char → Option (α × List Char))

/-- Reads items as long as a comma follows. -/
def row? : Nat → List Char → Option (List α × List Char)
  | 0, _ => none
  | fuel + 1, cs => do
    let (x, cs) ← item? (skipBlanks cs)
    let cs := skipBlanks cs
    if cs.head? = some ',' then
      let (xs, cs) ← row? fuel cs.tail
      return (x :: xs, cs)
    else return ([x], cs)

/-- Reads a row together with the bracket behind it. -/
def enclosed? (close : Char) (fuel : Nat) (cs : List Char) : Option (List α × List Char) :=
  if (skipBlanks cs).head? = some close then some ([], (skipBlanks cs).tail)
  else do
    let (xs, cs) ← row? item? fuel cs
    if cs.head? = some close then return (xs, cs.tail) else none

end Rows

def member? (fuel : Nat) (value? : List Char → Option (Document × List Char)) (cs : List Char) :
    Option ((String × Document) × List Char) := do
  let (name, cs) ← string? fuel cs
  let cs := skipBlanks cs
  if cs.head? = some ':' then
    let (d, cs) ← value? (skipBlanks cs.tail)
    return ((name, d), cs)
  else none

def value? : Nat → List Char → Option (Document × List Char)
  | 0, _ => none
  | fuel + 1, cs =>
    match cs with
    | '"' :: _ => do
      let (s, cs) ← string? fuel cs
      return (.text s, cs)
    | '[' :: cs => do
      let (items, cs) ← enclosed? (value? fuel) ']' fuel cs
      return (.list items, cs)
    | '\x7b' :: cs => do
      let (entries, cs) ← enclosed? (member? fuel (value? fuel)) '\x7d' fuel cs
      return (.object entries, cs)
    | cs => scalar? cs

/-- The document of a text. No value is longer than the text, which bounds the reader's depth. -/
def read? (s : String) : Option Document := do
  let (d, cs) ← value? s.toList.length (skipBlanks s.toList)
  if (skipBlanks cs).isEmpty then some d else none

/-! ### Blanks and ends -/

theorem skipBlanks_append {a : List Char} (ha : Blank a) (cs : List Char) :
    skipBlanks (a ++ cs) = skipBlanks cs :=
  List.dropWhile_append_of_pos ha

/-- Nothing follows that could be a part of a word. -/
def Ends (cs : List Char) : Prop :=
  ∀ c ∈ cs.head?, isWordChar c = false

/-- The text begins with something other than a blank or a closing bracket. -/
def Starts (cs : List Char) : Prop :=
  ∃ c ∈ cs.head?, isBlank c = false ∧ c ≠ ']' ∧ c ≠ '\x7d'

theorem isWordChar_of_isBlank {c : Char} (h : isBlank c) : isWordChar c = false := by
  simp only [isBlank, Bool.or_eq_true, decide_eq_true_eq] at h
  rcases h with ((rfl | rfl) | rfl) | rfl <;> decide

theorem starts_of_isWordChar {c : Char} {cs : List Char} (h : isWordChar c) : Starts (c :: cs) := by
  refine ⟨c, rfl, ?_, ?_, ?_⟩
  · by_contra hblank
    rw [isWordChar_of_isBlank (by simpa using hblank)] at h
    contradiction
  · intro hc
    subst hc
    contradiction
  · intro hc
    subst hc
    contradiction

theorem Ends.append {a cs : List Char} (ha : Blank a) (hcs : Ends cs) : Ends (a ++ cs) := by
  cases a with
  | nil => exact hcs
  | cons c a =>
    intro x hx
    obtain rfl : c = x := by simpa using hx
    exact isWordChar_of_isBlank (ha c List.mem_cons_self)

theorem Starts.head?_append {t : List Char} (ht : Starts t) (cs : List Char) :
    (t ++ cs).head? = t.head? := by
  obtain ⟨c, hc, -⟩ := ht
  simp [List.head?_append, Option.mem_def.1 hc]

theorem Starts.skipBlanks_append {t : List Char} (ht : Starts t) (cs : List Char) :
    skipBlanks (t ++ cs) = t ++ cs := by
  obtain ⟨c, hc, hblank, -⟩ := ht
  obtain ⟨t, rfl⟩ := List.head?_eq_some_iff.1 hc
  exact List.dropWhile_cons_of_neg (by simp [hblank])

/-! ### Reading strings -/

theorem codePoint?_of_nat? {c d₁ d₂ d₃ d₄ : Char}
    (h : Numeral.nat? 16 [d₁, d₂, d₃, d₄] = some c.toNat) (rest : List Char) :
    codePoint? (d₁ :: d₂ :: d₃ :: d₄ :: rest) = some (c, rest) := by
  have hvalid : c.toNat < 0xd800 ∨ 0xdfff < c.toNat ∧ c.toNat < 0x110000 := c.valid
  have hhigh : isHighHalf c.toNat = false := by
    simp only [isHighHalf, Bool.and_eq_false_iff, decide_eq_false_iff_not]
    omega
  have hlow : isLowHalf c.toNat = false := by
    simp only [isLowHalf, Bool.and_eq_false_iff, decide_eq_false_iff_not]
    omega
  simp [codePoint?, unit?, h, hhigh, hlow]

theorem codePoint?_of_halves {c d₁ d₂ d₃ d₄ e₁ e₂ e₃ e₄ : Char} {high low : Nat}
    (hhigh : Numeral.nat? 16 [d₁, d₂, d₃, d₄] = some high) (h : isHighHalf high)
    (hlow : Numeral.nat? 16 [e₁, e₂, e₃, e₄] = some low) (h' : isLowHalf low)
    (hc : c.toNat = joined high low) (rest : List Char) :
    codePoint? (d₁ :: d₂ :: d₃ :: d₄ :: '\\' :: 'u' :: e₁ :: e₂ :: e₃ :: e₄ :: rest) =
      some (c, rest) := by
  simp [codePoint?, unit?, hhigh, h, hlow, h', ← hc]

theorem char?_of_charText {c : Char} {t : List Char} (h : CharText c t) (rest : List Char) :
    char? (t ++ rest) = some (c, rest) := by
  cases h with
  | plain hc hquote hslash => simp [char?, hslash, hc]
  | @short letter h =>
    have hletter : letter ≠ 'u' := by
      intro hu
      subst hu
      simp [shorthand?] at h
    rw [List.cons_append, List.singleton_append, char?, h]
    · rfl
    · exact hletter
  | unit h => exact codePoint?_of_nat? h rest
  | halves hhigh h hlow h' hc => exact codePoint?_of_halves hhigh h hlow h' hc rest

theorem CharText.head?_ne {c : Char} {t : List Char} (h : CharText c t) (rest : List Char) :
    (t ++ rest).head? ≠ some '"' ∧ 0 < t.length := by
  cases h with
  | plain hc hquote hslash => simp [hquote]
  | short | unit | halves => simp

theorem chars?_of_charsText {s cs : List Char} (h : CharsText s cs) {fuel : Nat}
    (hfuel : cs.length < fuel) (rest : List Char) :
    chars? fuel (cs ++ '"' :: rest) = some (s, rest) := by
  induction h generalizing fuel with
  | nil =>
    obtain ⟨fuel, rfl⟩ := Nat.exists_eq_add_one_of_ne_zero (Nat.ne_of_gt hfuel)
    simp [chars?]
  | @cons c s t cs hc _ ih =>
    obtain ⟨fuel, rfl⟩ := Nat.exists_eq_add_one_of_ne_zero (Nat.ne_zero_of_lt hfuel)
    obtain ⟨hhead, hlength⟩ := hc.head?_ne (cs ++ '"' :: rest)
    have hrest : cs.length < fuel := by
      rw [List.length_append] at hfuel
      omega
    rw [List.append_assoc, chars?, if_neg hhead, char?_of_charText hc]
    simp [ih hrest]

theorem string?_of_stringText {s : String} {t : List Char} (h : StringText s t) {fuel : Nat}
    (hfuel : t.length ≤ fuel + 1) (rest : List Char) :
    string? fuel (t ++ rest) = some (s, rest) := by
  obtain ⟨inner, hinner, rfl⟩ := h
  have hlength : inner.length < fuel := by
    simp only [List.length_cons, List.length_append] at hfuel
    omega
  simp [string?, chars?_of_charsText hinner hlength]

/-! ### Reading words and numbers -/

theorem takeWhile_append_of_head? {p : Char → Bool} {cs rest : List Char} (hcs : ∀ c ∈ cs, p c)
    (hrest : ∀ c ∈ rest.head?, p c = false) :
    (cs ++ rest).takeWhile p = cs ∧ (cs ++ rest).dropWhile p = rest := by
  rw [List.takeWhile_append_of_pos hcs, List.dropWhile_append_of_pos hcs]
  cases rest with
  | nil => simp
  | cons c rest => simp [hrest c rfl]

theorem isDigits_of_isWhole {cs : List Char} (h : isWhole cs) : isDigits cs :=
  (Bool.and_eq_true_iff.1 h).1

theorem isWordChar_of_isDigits {cs : List Char} (h : isDigits cs) : ∀ c ∈ cs, isWordChar c := by
  intro c hc
  have hdigit : c.isDigit := List.all_eq_true.1 (Bool.and_eq_true_iff.1 h).2 c hc
  simp [isWordChar, Char.isAlphanum, hdigit]

theorem isWordChar_of_isExponent {cs : List Char} (h : isExponent cs) :
    ∀ c ∈ cs, isWordChar c := by
  cases cs with
  | nil => simp
  | cons mark cs =>
    simp only [isExponent, Bool.and_eq_true, Bool.or_eq_true, decide_eq_true_eq] at h
    obtain ⟨hmark, hdigits⟩ := h
    rw [List.forall_mem_cons]
    constructor
    · rcases hmark with rfl | rfl <;> decide
    · rcases hdigits with hdigits | ⟨hsign, hdigits⟩
      · exact isWordChar_of_isDigits hdigits
      · cases cs with
        | nil => simp
        | cons c cs =>
          rw [List.forall_mem_cons]
          refine ⟨?_, isWordChar_of_isDigits hdigits⟩
          simp only [List.head?_cons, Option.some.injEq] at hsign
          rcases hsign with rfl | rfl <;> decide

theorem isWordChar_of_isTail {cs : List Char} (h : isTail cs) : ∀ c ∈ cs, isWordChar c := by
  simp only [isTail, Bool.and_eq_true, Bool.or_eq_true, decide_eq_true_eq] at h
  rcases h with h | ⟨⟨hpoint, hdigits⟩, hexponent⟩
  · exact isWordChar_of_isExponent h
  · obtain ⟨cs, rfl⟩ := List.head?_eq_some_iff.1 hpoint
    rw [List.forall_mem_cons, ← List.takeWhile_append_dropWhile (p := Char.isDigit) (l := cs),
      List.forall_mem_append]
    exact ⟨by decide, isWordChar_of_isDigits hdigits, isWordChar_of_isExponent hexponent⟩

theorem isDigit_of_isTail {cs : List Char} (h : isTail cs) : ∀ c ∈ cs.head?, c.isDigit = false := by
  cases cs with
  | nil => simp
  | cons c cs =>
    simp only [isTail, isExponent, Bool.and_eq_true, Bool.or_eq_true, decide_eq_true_eq,
      List.head?_cons, Option.some.injEq] at h
    intro x hx
    obtain rfl : c = x := by simpa using hx
    rcases h with ⟨rfl | rfl, -⟩ | ⟨⟨rfl, -⟩, -⟩ <;> decide

theorem number?_sign_append {negative : Bool} {digits tail : List Char} (hdigits : isWhole digits)
    (htail : isTail tail) :
    number? (sign negative ++ (digits ++ tail)) = some (number negative digits tail) := by
  have hall : ∀ c ∈ digits, c.isDigit := by
    simp only [isWhole, isDigits, Bool.and_eq_true, List.all_eq_true] at hdigits
    exact hdigits.1.2
  obtain ⟨htake, hdrop⟩ := takeWhile_append_of_head? hall (isDigit_of_isTail htail)
  cases negative with
  | true => simp [number?, sign, htake, hdrop, hdigits, htail]
  | false =>
    have hsign : (digits ++ tail).head? ≠ some '-' := by
      cases digits with
      | nil => simp [isWhole, isDigits] at hdigits
      | cons c digits =>
        intro hc
        obtain rfl : c = '-' := by simpa using hc
        simpa using hall '-' List.mem_cons_self
    rw [sign, if_neg Bool.false_ne_true, List.nil_append]
    generalize digits ++ tail = cs at hsign htake hdrop ⊢
    simp [number?, hsign, htake, hdrop, hdigits, htail]

theorem scalar?_append {d : Document} {t rest : List Char}
    (hread : (number? t).or (word? t) = some d) (ht : ∀ c ∈ t, isWordChar c) (hrest : Ends rest) :
    scalar? (t ++ rest) = some (d, rest) := by
  obtain ⟨htake, hdrop⟩ := takeWhile_append_of_head? ht hrest
  simp [scalar?, htake, hdrop, hread]

/-! ### Reading rows -/

/-- The reader takes the text for the value, whatever ends it. -/
structure Reads {α : Type} (item? : List Char → Option (α × List Char)) (t : List Char) (x : α) :
    Prop where
  starts : Starts t
  read : ∀ rest, Ends rest → item? (t ++ rest) = some (x, rest)

theorem Row.length_le {ts : List (List Char)} {cs : List Char} (h : Row ts cs) :
    ts.length ≤ cs.length + 1 ∧ ∀ t ∈ ts, t.length ≤ cs.length := by
  induction h with
  | empty => simp
  | @last a t b _ _ =>
    refine ⟨by simp, ?_⟩
    intro x hx
    rw [List.mem_singleton.1 hx]
    simp only [List.length_append]
    omega
  | @more a t b t' cs ts _ _ _ ih =>
    obtain ⟨hcount, hsizes⟩ := ih
    simp only [List.length_cons, List.length_append] at hcount ⊢
    refine ⟨by omega, ?_⟩
    intro x hx
    rcases List.mem_cons.1 hx with rfl | hx
    · omega
    · have hsize := hsizes x hx
      omega

theorem Row.head?_skipBlanks {t : List Char} {ts : List (List Char)} {cs : List Char}
    (h : Row (t :: ts) cs) (ht : Starts t) (rest : List Char) :
    (skipBlanks (cs ++ rest)).head? = t.head? := by
  cases h with
  | last ha _ | more ha _ _ =>
    simp only [List.append_assoc]
    rw [skipBlanks_append ha, ht.skipBlanks_append, ht.head?_append]

section Rows

variable {α : Type} {item? : List Char → Option (α × List Char)} {close : Char}

theorem row?_of_row {ts : List (List Char)} {cs : List Char} (h : Row ts cs) (hne : ts ≠ [])
    {xs : List α} (hitems : List.Forall₂ (Reads item?) ts xs) {fuel : Nat}
    (hfuel : ts.length ≤ fuel) (hcomma : close ≠ ',') (hblank : isBlank close = false)
    (hword : isWordChar close = false) (rest : List Char) :
    row? item? fuel (cs ++ close :: rest) = some (xs, close :: rest) := by
  have hclose : skipBlanks (close :: rest) = close :: rest := by simp [skipBlanks, hblank]
  induction h generalizing xs fuel with
  | empty => contradiction
  | @last a t b ha hb =>
    obtain ⟨fuel, rfl⟩ := Nat.exists_eq_add_one_of_ne_zero (Nat.ne_zero_of_lt hfuel)
    cases hitems with
    | cons hx hxs =>
      cases hxs
      have hends : Ends (b ++ close :: rest) := Ends.append hb (by simp [Ends, hword])
      simp only [List.append_assoc]
      rw [row?, skipBlanks_append ha, hx.starts.skipBlanks_append, hx.read _ hends]
      simp [skipBlanks_append hb, hclose, hcomma]
  | @more a t b t' cs ts ha hb _ ih =>
    obtain ⟨fuel, rfl⟩ := Nat.exists_eq_add_one_of_ne_zero (Nat.ne_zero_of_lt hfuel)
    cases hitems with
    | cons hx hxs =>
      have hends : Ends (b ++ ',' :: (cs ++ close :: rest)) := Ends.append hb (by simp [Ends]; decide)
      have hskip : skipBlanks (',' :: (cs ++ close :: rest)) = ',' :: (cs ++ close :: rest) := by
        simp [skipBlanks, isBlank]
      simp only [List.append_assoc, List.cons_append]
      rw [row?, skipBlanks_append ha, hx.starts.skipBlanks_append, hx.read _ hends]
      simp [skipBlanks_append hb, hskip, ih (by simp) hxs (Nat.le_of_succ_le_succ hfuel)]

theorem enclosed?_of_row {ts : List (List Char)} {cs : List Char} (h : Row ts cs) {xs : List α}
    (hitems : List.Forall₂ (Reads item?) ts xs) {fuel : Nat} (hfuel : ts.length ≤ fuel)
    (hclose : close = ']' ∨ close = '\x7d') (rest : List Char) :
    enclosed? item? close fuel (cs ++ close :: rest) = some (xs, rest) := by
  have hcomma : close ≠ ',' := by rcases hclose with rfl | rfl <;> decide
  have hblank : isBlank close = false := by rcases hclose with rfl | rfl <;> decide
  have hword : isWordChar close = false := by rcases hclose with rfl | rfl <;> decide
  by_cases hne : ts = []
  · subst hne
    cases hitems
    cases h with
    | empty ha =>
      have hskip : skipBlanks (cs ++ close :: rest) = close :: rest := by
        rw [skipBlanks_append ha]
        simp [skipBlanks, hblank]
      simp [enclosed?, hskip]
  · have hhead : (skipBlanks (cs ++ close :: rest)).head? ≠ some close := by
      obtain ⟨t, ts, rfl⟩ := List.exists_cons_of_ne_nil hne
      cases hitems with
      | cons hx _ =>
        obtain ⟨c, hc, -, hlist, hobject⟩ := hx.starts
        rw [h.head?_skipBlanks hx.starts, Option.mem_def.1 hc]
        intro hcc
        rcases hclose with rfl | rfl
        · exact hlist (Option.some.inj hcc)
        · exact hobject (Option.some.inj hcc)
    rw [enclosed?, if_neg hhead, row?_of_row h hne hitems hfuel hcomma hblank hword]
    simp

end Rows

/-! ### Reading values -/

theorem reads_member? {fuel : Nat} {read : List Char → Option (Document × List Char)} {name : String}
    {label t : List Char} {d : Document} (hname : NameText name label) (hfuel : label.length ≤ fuel)
    (hvalue : Reads read t d) : Reads (member? fuel read) (label ++ t) (name, d) := by
  obtain ⟨q, a, b, hq, ha, hb, rfl⟩ := hname
  have hstring (rest : List Char) : string? fuel (q ++ rest) = some (name, rest) := by
    apply string?_of_stringText hq
    rw [List.length_append] at hfuel
    omega
  obtain ⟨inner, -, rfl⟩ := hq
  refine ⟨⟨'"', rfl, by decide⟩, ?_⟩
  intro rest hrest
  have hskip : skipBlanks (':' :: (b ++ (t ++ rest))) = ':' :: (b ++ (t ++ rest)) := by
    simp [skipBlanks, isBlank]
  rw [List.append_assoc, List.append_assoc, member?, hstring]
  simp [skipBlanks_append ha, hskip, skipBlanks_append hb, hvalue.starts.skipBlanks_append,
    hvalue.read rest hrest]

theorem reads_scalar {d : Document} {t : List Char} (hread : (number? t).or (word? t) = some d)
    (hne : t ≠ []) (ht : ∀ c ∈ t, isWordChar c) (fuel : Nat) : Reads (value? (fuel + 1)) t d := by
  obtain ⟨c, t, rfl⟩ := List.exists_cons_of_ne_nil hne
  have hc : isWordChar c := ht c List.mem_cons_self
  refine ⟨starts_of_isWordChar hc, ?_⟩
  intro rest hrest
  have hscalar := scalar?_append hread ht hrest
  rw [List.cons_append] at hscalar ⊢
  rw [value?, hscalar]
  -- A word begins with none of the characters that values of the other kinds begin with.
  all_goals
    intro cs hcs
    rw [(List.cons.inj hcs).1] at hc
    contradiction

/-- Every text of a value is read as that value. The induction is on the way the text is made up, and
a value inside of another one has the shorter text. -/
theorem reads_value? {d : Document} {t : List Char} (h : ValueText d t) {fuel : Nat}
    (hfuel : t.length ≤ fuel) : Reads (value? fuel) t d := by
  induction h generalizing fuel with
  | null =>
    obtain ⟨fuel, rfl⟩ := Nat.exists_eq_add_one_of_ne_zero (Nat.ne_zero_of_lt hfuel)
    exact reads_scalar rfl (by decide) (List.all_eq_true.1 rfl) fuel
  | bool b =>
    cases b with
    | true | false =>
      obtain ⟨fuel, rfl⟩ := Nat.exists_eq_add_one_of_ne_zero (Nat.ne_zero_of_lt hfuel)
      exact reads_scalar rfl (by decide) (List.all_eq_true.1 rfl) fuel
  | @number negative digits tail hdigits htail =>
    have hne : sign negative ++ (digits ++ tail) ≠ [] := by
      have hdigits' := isDigits_of_isWhole hdigits
      intro heq
      simp_all [isDigits]
    obtain ⟨fuel, rfl⟩ : ∃ n, fuel = n + 1 :=
      Nat.exists_eq_add_one_of_ne_zero
        (Nat.ne_zero_of_lt (Nat.lt_of_lt_of_le (List.length_pos_iff.2 hne) hfuel))
    apply reads_scalar
    · rw [number?_sign_append hdigits htail, Option.some_or]
    · exact hne
    · simp only [List.forall_mem_append]
      refine ⟨?_, isWordChar_of_isDigits (isDigits_of_isWhole hdigits), isWordChar_of_isTail htail⟩
      apply List.all_eq_true.1
      cases negative <;> rfl
  | @text s t h =>
    obtain ⟨inner, hinner, rfl⟩ := h
    obtain ⟨fuel, rfl⟩ := Nat.exists_eq_add_one_of_ne_zero (Nat.ne_zero_of_lt hfuel)
    refine ⟨⟨'"', rfl, by decide⟩, ?_⟩
    intro rest _
    have hread := string?_of_stringText ⟨inner, hinner, rfl⟩ hfuel rest
    rw [List.cons_append] at hread ⊢
    rw [value?, hread]
    rfl
  | @list items cs hvalues hrow ih =>
    obtain ⟨fuel, rfl⟩ := Nat.exists_eq_add_one_of_ne_zero (Nat.ne_zero_of_lt hfuel)
    obtain ⟨hlength, htexts⟩ := hrow.length_le
    have hcs : cs.length + 1 ≤ fuel := by simpa using hfuel
    have hitems : List.Forall₂ (Reads (value? fuel)) (items.map (·.2)) (items.map (·.1)) := by
      simp only [List.forall₂_map_left_iff, List.forall₂_map_right_iff, List.forall₂_same]
      intro x hx
      apply ih x hx
      have hsize := htexts x.2 (List.mem_map_of_mem hx)
      omega
    refine ⟨⟨'[', rfl, by decide⟩, ?_⟩
    intro rest _
    have hread := enclosed?_of_row hrow hitems (hlength.trans hcs) (.inl rfl) rest
    simp [value?, hread]
  | @object members cs hnames hvalues hrow ih =>
    obtain ⟨fuel, rfl⟩ := Nat.exists_eq_add_one_of_ne_zero (Nat.ne_zero_of_lt hfuel)
    obtain ⟨hlength, htexts⟩ := hrow.length_le
    have hcs : cs.length + 1 ≤ fuel := by simpa using hfuel
    have hitems : List.Forall₂ (Reads (member? fuel (value? fuel)))
        (members.map fun m => m.label ++ m.text) (members.map fun m => (m.name, m.value)) := by
      simp only [List.forall₂_map_left_iff, List.forall₂_map_right_iff, List.forall₂_same]
      intro m hm
      have hsize := htexts _ (List.mem_map_of_mem hm)
      rw [List.length_append] at hsize
      exact reads_member? (hnames m hm) (by omega) (ih m hm (by omega))
    refine ⟨⟨'\x7b', rfl, by decide⟩, ?_⟩
    intro rest _
    have hread := enclosed?_of_row hrow hitems (hlength.trans hcs) (.inr rfl) rest
    simp [value?, hread]

theorem read?_of_isText {d : Document} {s : String} (h : IsText d s) : read? s = some d := by
  obtain ⟨a, t, b, ha, ht, hb, hs⟩ := h
  have hlength : t.length ≤ s.toList.length := by
    rw [hs, List.length_append, List.length_append]
    omega
  obtain ⟨hstarts, hread⟩ := reads_value? ht hlength
  have hnil : Ends [] := by simp [Ends]
  have hends : Ends b := by simpa using Ends.append hb hnil
  have hskip : skipBlanks b = [] := List.dropWhile_eq_nil_iff.2 hb
  simp only [read?]
  rw [hs, skipBlanks_append ha, hstarts.skipBlanks_append, ← hs, hread b hends]
  simp [hskip]

example : read? " [-1, 2.50e+3, \"\\u00e9\\ud83d\\ude00\\n\", \x7b\"a\" : null\x7d]\n" =
    some (.list [.int (-1), .real "2.50e+3", .text "é😀\n", .object [("a", .null)]]) := by
  rfl

theorem IsText.unique {d d' : Document} {s : String} (h : IsText d s) (h' : IsText d' s) : d = d' :=
  Option.some.inj ((read?_of_isText h).symm.trans (read?_of_isText h'))

end LayerCheck.Json
