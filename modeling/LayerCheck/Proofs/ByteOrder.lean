import LayerCheck.Project.Snapshot
import Mathlib.Data.List.Lex

/-!
The order of names is that of their bytes. A character is spelled by more bytes the larger it is, the
first of which tells how many there are, so that texts compare by their bytes in UTF-8 as they do by
their characters, and places name by name.
-/

namespace LayerCheck

/-- The bytes of a text in UTF-8. -/
def utf8 (s : String) : List UInt8 :=
  s.toUTF8.data.toList

theorem utf8_eq_flatMap (s : String) : utf8 s = s.toList.flatMap String.utf8EncodeChar := by
  have hencode : s.toByteArray = s.toList.utf8Encode := by
    rw [← String.toByteArray_ofList, String.ofList_toList]
  simp [utf8, String.toUTF8, hencode, List.utf8Encode]

/-! ### Spelling one character -/

/-- A number spelled with `more` bytes of six bits each behind a first byte, which `lead` marks. -/
def spelled (lead : Nat) : (more : Nat) → Nat → List UInt8
  | 0, n => [UInt8.ofNat (lead + n)]
  | more + 1, n => spelled lead more (n / 64) ++ [UInt8.ofNat (128 + n % 64)]

/-- What the first byte holds of a number that is spelled with `more` others. -/
def firstPart : (more : Nat) → Nat → Nat
  | 0, n => n
  | more + 1, n => firstPart more (n / 64)

theorem spelled_lt_spelled {lead more m n : Nat} (h : m < n) (hn : lead + firstPart more n < 256)
    (u w : List UInt8) : spelled lead more m ++ u < spelled lead more n ++ w := by
  induction more generalizing m n u w with
  | zero =>
    rw [firstPart] at hn
    have hbyte : UInt8.ofNat (lead + m) < UInt8.ofNat (lead + n) := by
      rw [UInt8.lt_iff_toNat_lt, UInt8.toNat_ofNat', UInt8.toNat_ofNat']
      omega
    exact List.Lex.rel hbyte
  | succ more ih =>
    rw [spelled, spelled, List.append_assoc, List.append_assoc]
    -- Either the bytes before the last one decide, or they are the same.
    by_cases hquotient : m / 64 < n / 64
    · exact ih hquotient hn _ _
    · have hsame : m / 64 = n / 64 := by omega
      have hbyte : UInt8.ofNat (128 + m % 64) < UInt8.ofNat (128 + n % 64) := by
        rw [UInt8.lt_iff_toNat_lt, UInt8.toNat_ofNat', UInt8.toNat_ofNat']
        omega
      rw [hsame]
      exact List.append_left_lt (List.Lex.rel hbyte)

theorem exists_spelled_eq_cons (lead more n : Nat) :
    ∃ rest, spelled lead more n = UInt8.ofNat (lead + firstPart more n) :: rest := by
  induction more generalizing n with
  | zero => exact ⟨[], rfl⟩
  | succ more ih =>
    obtain ⟨rest, hrest⟩ := ih (n / 64)
    exact ⟨rest ++ [UInt8.ofNat (128 + n % 64)], by rw [spelled, hrest, List.cons_append, firstPart]⟩

/-- How many bytes stand behind the first one of a character. -/
def moreBytes (n : Nat) : Nat :=
  if n < 0x80 then 0 else if n < 0x800 then 1 else if n < 0x10000 then 2 else 3

/-- The mark of the first byte, given how many others there are. -/
def leadMark : (more : Nat) → Nat
  | 0 => 0
  | 1 => 0xc0
  | 2 => 0xe0
  | _ => 0xf0

theorem moreBytes_cases (n : Nat) :
    moreBytes n = 0 ∧ n < 0x80 ∨ moreBytes n = 1 ∧ 0x80 ≤ n ∧ n < 0x800 ∨
      moreBytes n = 2 ∧ 0x800 ≤ n ∧ n < 0x10000 ∨ moreBytes n = 3 ∧ 0x10000 ≤ n := by
  unfold moreBytes
  split_ifs <;> omega

theorem toNat_val_lt (c : Char) : c.val.toNat < 0x110000 := by
  rcases c.valid with h | h
  · omega
  · omega

theorem utf8EncodeChar_eq (c : Char) :
    String.utf8EncodeChar c =
      spelled (leadMark (moreBytes c.val.toNat)) (moreBytes c.val.toNat) c.val.toNat := by
  have hc := toNat_val_lt c
  unfold String.utf8EncodeChar
  generalize c.val.toNat = n at hc ⊢
  dsimp only
  rcases moreBytes_cases n with ⟨hmore, h⟩ | ⟨hmore, h, h'⟩ | ⟨hmore, h, h'⟩ | ⟨hmore, h⟩
  · rw [hmore, if_pos (by omega)]
    simp [leadMark, spelled]
  · have hfirst : n / 64 % 32 + 192 = 192 + n / 64 := by omega
    rw [hmore, if_neg (by omega), if_pos (by omega), hfirst]
    simp [leadMark, spelled, Nat.add_comm]
  · have hfirst : n / 4096 % 16 + 224 = 224 + n / 64 / 64 := by omega
    rw [hmore, if_neg (by omega), if_neg (by omega), if_pos (by omega), hfirst]
    simp [leadMark, spelled, Nat.add_comm]
  · have hfirst : n / 262144 % 8 + 240 = 240 + n / 64 / 64 / 64 := by omega
    have hsecond : n / 4096 = n / 64 / 64 := by omega
    rw [hmore, if_neg (by omega), if_neg (by omega), if_neg (by omega), hfirst, hsecond]
    simp [leadMark, spelled, Nat.add_comm]

theorem moreBytes_mono {m n : Nat} (h : m < n) : moreBytes m ≤ moreBytes n := by
  have hm := moreBytes_cases m
  have hn := moreBytes_cases n
  omega

theorem firstByte_lt {n : Nat} (h : n < 0x110000) :
    leadMark (moreBytes n) + firstPart (moreBytes n) n < 256 := by
  rcases moreBytes_cases n with ⟨hmore, h⟩ | ⟨hmore, h⟩ | ⟨hmore, h⟩ | ⟨hmore, h⟩ <;>
    simp only [hmore, leadMark, firstPart] <;> omega

/-- First bytes lie below the marks of those with more bytes behind them. -/
theorem firstByte_lt_leadMark {m n : Nat} (h : moreBytes m < moreBytes n) :
    leadMark (moreBytes m) + firstPart (moreBytes m) m < leadMark (moreBytes n) := by
  rcases moreBytes_cases m with ⟨hm, hbound⟩ | ⟨hm, hbound⟩ | ⟨hm, hbound⟩ | ⟨hm, hbound⟩ <;>
    rcases moreBytes_cases n with ⟨hn, -⟩ | ⟨hn, -⟩ | ⟨hn, -⟩ | ⟨hn, -⟩ <;>
      simp only [hm, hn, leadMark, firstPart] at h ⊢ <;> omega

theorem utf8EncodeChar_lt {c d : Char} (h : c < d) (u w : List UInt8) :
    String.utf8EncodeChar c ++ u < String.utf8EncodeChar d ++ w := by
  have hlt : c.val.toNat < d.val.toNat := h
  have hbyte := firstByte_lt (toNat_val_lt d)
  rw [utf8EncodeChar_eq, utf8EncodeChar_eq]
  rcases Nat.lt_or_eq_of_le (moreBytes_mono hlt) with hmore | hmore
  · obtain ⟨rest, hrest⟩ := exists_spelled_eq_cons (leadMark (moreBytes c.val.toNat))
      (moreBytes c.val.toNat) c.val.toNat
    obtain ⟨rest', hrest'⟩ := exists_spelled_eq_cons (leadMark (moreBytes d.val.toNat))
      (moreBytes d.val.toNat) d.val.toNat
    have hfirst := firstByte_lt_leadMark hmore
    rw [hrest, hrest']
    refine List.Lex.rel ?_
    rw [UInt8.lt_iff_toNat_lt, UInt8.toNat_ofNat', UInt8.toNat_ofNat']
    omega
  · rw [hmore]
    exact spelled_lt_spelled hlt hbyte u w

/-! ### Texts and places -/

theorem flatMap_utf8EncodeChar_lt {cs ds : List Char} (h : List.Lex (· < ·) cs ds) :
    cs.flatMap String.utf8EncodeChar < ds.flatMap String.utf8EncodeChar := by
  induction h with
  | @nil d ds =>
    obtain ⟨rest, hrest⟩ := exists_spelled_eq_cons (leadMark (moreBytes d.val.toNat))
      (moreBytes d.val.toNat) d.val.toNat
    rw [List.flatMap_cons, utf8EncodeChar_eq, hrest]
    exact List.Lex.nil
  | cons _ ih => exact List.append_left_lt ih
  | rel hchar => exact utf8EncodeChar_lt hchar _ _

theorem utf8_lt_utf8 {a b : String} (h : compare a b = .lt) : utf8 a < utf8 b := by
  rw [utf8_eq_flatMap, utf8_eq_flatMap]
  exact flatMap_utf8EncodeChar_lt (String.lt_iff.1 (compareOfLessAndEq_eq_lt.1 h))

/-- Places in increasing order are in increasing order of the bytes of their names. -/
theorem Place.map_utf8_lt {p q : Place} (h : compare p q = .lt) : p.map utf8 < q.map utf8 := by
  induction p generalizing q with
  | nil =>
    cases q with
    | nil => contradiction
    | cons name rest => exact List.Lex.nil
  | cons name rest ih =>
    cases q with
    | nil => contradiction
    | cons name' rest' =>
      have hthen : (compare name name').then (compare rest rest') = .lt :=
        List.compareLex_cons_cons.symm.trans h
      rcases Ordering.then_eq_lt.1 hthen with hlt | ⟨heq, hrest⟩
      · exact List.Lex.rel (utf8_lt_utf8 hlt)
      · rw [Std.LawfulEqOrd.eq_of_compare heq]
        exact List.Lex.cons (ih hrest)

end LayerCheck
