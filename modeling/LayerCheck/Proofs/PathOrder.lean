import LayerCheck.Proofs.ByteOrder
import LayerCheck.Proofs.Canonical
import LayerCheck.Proofs.Representatives
import Mathlib.Data.Prod.Lex
import Mathlib.Order.Compare
import Mathlib.Tactic.MkIffOfInductiveProp

/-!
The order of elements and violations. Their fields are compared one after the other, paths component by
component and texts byte by byte, so that they are ordered as keys made of numbers are. The key leaves
nothing out but how a path is spelled, and sets hold one of several spellings.
-/

namespace LayerCheck

/-! ### Keys -/

/-- Values are compared as their keys are ordered. -/
def Follows {α β : Type} [LinearOrder β] (order : α → α → Ordering) (key : α → β) : Prop :=
  ∀ a b, order a b = cmp (key a) (key b)

namespace Follows

variable {α β γ δ : Type} [LinearOrder β] [LinearOrder γ] {order : α → α → Ordering} {key : α → β}

theorem eq_iff (h : Follows order key) {a b : α} : order a b = .eq ↔ key a = key b := by
  rw [h a b, cmp_eq_eq_iff]

theorem lt_iff (h : Follows order key) {a b : α} : order a b = .lt ↔ key a < key b := by
  rw [h a b, cmp_eq_lt_iff]

theorem gt_iff (h : Follows order key) {a b : α} : order a b = .gt ↔ key b < key a := by
  rw [h a b, cmp_eq_gt_iff]

theorem of_lt [Std.OrientedCmp order] (hlt : ∀ a b, order a b = .lt → key a < key b)
    (heq : ∀ a b, order a b = .eq → key a = key b) : Follows order key := by
  intro a b
  cases h : order a b with
  | lt => exact ((cmp_eq_lt_iff _ _).2 (hlt a b h)).symm
  | eq => exact ((cmp_eq_eq_iff _ _).2 (heq a b h)).symm
  | gt => exact ((cmp_eq_gt_iff _ _).2 (hlt b a (Std.OrientedCmp.lt_of_gt h))).symm

/-- Values that are compared by a part of them follow the key of that part. -/
theorem on [Ord α] (h : Follows compare key) (part : δ → α) :
    Follows (compareOn part) fun a => key (part a) :=
  fun a b => h (part a) (part b)

/-- One part after the other is compared as pairs of keys are. -/
theorem lex {order' : α → α → Ordering} {key' : α → γ} [Std.OrientedCmp order]
    [Std.OrientedCmp order'] (h : Follows order key) (h' : Follows order' key') :
    Follows (compareLex order order') fun a => toLex (key a, key' a) := by
  apply of_lt
  · intro a b hlt
    apply Prod.Lex.toLex_lt_toLex.2
    rcases Ordering.then_eq_lt.1 hlt with hfirst | ⟨hfirst, hsecond⟩
    · exact .inl (h.lt_iff.1 hfirst)
    · exact .inr ⟨h.eq_iff.1 hfirst, h'.lt_iff.1 hsecond⟩
  · intro a b heq
    obtain ⟨hfirst, hsecond⟩ := eq_of_compareLex heq
    rw [h.eq_iff.1 hfirst, h'.eq_iff.1 hsecond]

theorem list [Ord α] [Std.OrientedOrd α] (h : Follows compare key) :
    Follows (compare : List α → List α → Ordering) (List.map key) := by
  have hcons (a b : α) (l l' : List α) :
      compare (a :: l) (b :: l') = (compare a b).then (compare l l') := List.compareLex_cons_cons
  apply of_lt
  · intro l l' hlt
    induction l generalizing l' with
    | nil =>
      cases l' with
      | nil => contradiction
      | cons b l' => exact List.Lex.nil
    | cons a l ih =>
      cases l' with
      | nil => contradiction
      | cons b l' =>
        rw [hcons] at hlt
        rcases Ordering.then_eq_lt.1 hlt with hfirst | ⟨hfirst, hrest⟩
        · exact List.Lex.rel (h.lt_iff.1 hfirst)
        · rw [List.map_cons, List.map_cons, h.eq_iff.1 hfirst]
          exact List.Lex.cons (ih l' hrest)
  · intro l l' heq
    induction l generalizing l' with
    | nil =>
      cases l' with
      | nil => rfl
      | cons b l' => contradiction
    | cons a l ih =>
      cases l' with
      | nil => contradiction
      | cons b l' =>
        rw [hcons] at heq
        obtain ⟨hfirst, hrest⟩ := Ordering.then_eq_eq.1 heq
        rw [List.map_cons, List.map_cons, h.eq_iff.1 hfirst, ih l' hrest]

end Follows

theorem follows_nat : Follows (compare : Nat → Nat → Ordering) id := by
  apply Follows.of_lt
  · intro a b h
    exact Nat.compare_eq_lt.1 h
  · intro a b h
    exact Nat.compare_eq_eq.1 h

/-- The bytes of a text in UTF-8, as numbers. -/
def byteValues (s : String) : List ℕ :=
  (utf8 s).map UInt8.toNat

theorem follows_byteValues : Follows (compare : String → String → Ordering) byteValues := by
  apply Follows.of_lt
  · intro a b h
    exact List.map_lt (fun _ _ => UInt8.lt_iff_toNat_lt.1) (utf8_lt_utf8 h)
  · intro a b h
    rw [Std.LawfulEqOrd.eq_of_compare h]

/-! ### Spellings of a path -/

/-- The root comes before a leading dot, that before steps upwards, and those before names, which are
ordered by their bytes. -/
def Component.key (c : Component) : ℕ ×ₗ List ℕ :=
  toLex (c.rank, byteValues c.text)

theorem Component.follows_key : Follows (compare : Component → Component → Ordering) key :=
  (follows_nat.on rank).lex (follows_byteValues.on text)

namespace Path

def key (p : Path) : List (ℕ ×ₗ List ℕ) :=
  p.components.map Component.key

theorem follows_key : Follows (compare : Path → Path → Ordering) key :=
  Component.follows_key.list.on components

/-- The paths are equal component by component. -/
def Same (p q : Path) : Prop :=
  p.components = q.components

instance (p q : Path) : Decidable (p.Same q) :=
  inferInstanceAs (Decidable (p.components = q.components))

theorem key_eq_iff {p q : Path} : p.key = q.key ↔ p.Same q := by
  rw [← follows_key.eq_iff]
  exact Std.LawfulEqOrd.compare_eq_iff_eq (a := p.components)

theorem components_eq {p : Path} {s : String} {rest : List String} (h : p.segments = s :: rest) :
    p.components = leading s rest.isEmpty ++ rest.flatMap interior := by
  rw [components, h]

theorem segments_slash (a b : String) :
    (⟨a ++ "/" ++ b⟩ : Path).segments = Segments.split '/' a ++ Segments.split '/' b :=
  Segments.split_append '/' a b

/-- A segment in the middle that is empty or a dot says nothing. -/
theorem same_of_interior_eq_nil (a inner b : String) (hslash : '/' ∉ inner.toList)
    (hinner : interior inner = []) : Same ⟨a ++ "/" ++ inner ++ "/" ++ b⟩ ⟨a ++ "/" ++ b⟩ := by
  have hone : Segments.split '/' inner = [inner] := Segments.split_of_not_mem hslash
  have hleft : (⟨a ++ "/" ++ inner ++ "/" ++ b⟩ : Path).segments =
      Segments.split '/' a ++ [inner] ++ Segments.split '/' b := by
    rw [segments_slash, ← hone]
    exact congrArg (· ++ _) (Segments.split_append '/' a inner)
  obtain ⟨s, rest, hs⟩ := List.exists_cons_of_ne_nil (Segments.split_ne_nil '/' a)
  have hb : Segments.split '/' b ≠ [] := Segments.split_ne_nil '/' b
  have hright := segments_slash a b
  rw [hs] at hleft hright
  have hbehind : (rest ++ inner :: Segments.split '/' b).isEmpty = false := by simp
  have hbehind' : (rest ++ Segments.split '/' b).isEmpty = false := by simp [hb]
  rw [Same, components_eq hleft, components_eq hright]
  simp [hinner, hbehind, hbehind']

theorem same_double_slash (a b : String) : Same ⟨a ++ "//" ++ b⟩ ⟨a ++ "/" ++ b⟩ := by
  have htext : a ++ "/" ++ "" ++ "/" ++ b = a ++ ("/" ++ "" ++ "/") ++ b := by
    simp only [String.append_assoc]
  have h := same_of_interior_eq_nil a "" b (by simp) (by decide)
  rw [htext] at h
  exact h

theorem same_slash_dot (a b : String) : Same ⟨a ++ "/./" ++ b⟩ ⟨a ++ "/" ++ b⟩ := by
  have htext : a ++ "/" ++ "." ++ "/" ++ b = a ++ ("/" ++ "." ++ "/") ++ b := by
    simp only [String.append_assoc]
  have h := same_of_interior_eq_nil a "." b (by decide) (by decide)
  rw [htext] at h
  exact h

/-- A dot at the beginning is a component of its own, where it is not there already. -/
theorem same_dot_slash_iff (a : String) :
    Same ⟨"./" ++ a⟩ ⟨a⟩ ↔ (Segments.split '/' a).head? = some "." := by
  obtain ⟨s, rest, hs⟩ := List.exists_cons_of_ne_nil (Segments.split_ne_nil '/' a)
  have hdot : (⟨"./" ++ a⟩ : Path).segments = "." :: s :: rest := by
    rw [← hs]
    exact segments_slash "." a
  rw [Same, components_eq hdot, components_eq (p := ⟨a⟩) hs, hs]
  have hlead : leading "." (s :: rest).isEmpty = [.current] := rfl
  rw [hlead, List.flatMap_cons, List.head?_cons, Option.some_inj]
  by_cases hsdot : s = "."
  · subst hsdot
    simp [leading, interior]
  · by_cases hempty : s = ""
    · subst hempty
      cases rest with
      | nil => simp [leading, interior]
      | cons t rest => simp [leading, interior]
    · by_cases hup : s = ".." <;> simp [leading, Component.ofSegment, hsdot, hempty, hup]

end Path

/-! ### Elements -/

theorem ElementKind.rank_inj {a b : ElementKind} : a.rank = b.rank ↔ a = b := by
  cases a <;> cases b <;> decide

theorem ElementKind.follows_rank : Follows (compare : ElementKind → ElementKind → Ordering) rank :=
  follows_nat.on rank

theorem ViolationType.rank_inj {a b : ViolationType} : a.rank = b.rank ↔ a = b := by
  cases a <;> cases b <;> decide

theorem ViolationType.follows_rank :
    Follows (compare : ViolationType → ViolationType → Ordering) rank :=
  follows_nat.on rank

theorem byteValues_inj {a b : String} : byteValues a = byteValues b ↔ a = b := by
  rw [← follows_byteValues.eq_iff]
  exact Std.LawfulEqOrd.compare_eq_iff_eq

namespace Element

/-- All fields are equal, the paths component by component. -/
@[mk_iff]
structure Same (a b : Element) : Prop where
  file : a.file.Same b.file
  name : a.name = b.name
  kind : a.kind = b.kind
  line : a.line = b.line
  column : a.column = b.column

/-- The fields in their order. -/
def key (e : Element) : List (ℕ ×ₗ List ℕ) ×ₗ List ℕ ×ₗ ℕ ×ₗ ℕ ×ₗ ℕ :=
  toLex (e.file.key, toLex (byteValues e.name, toLex (e.kind.rank, toLex (e.line, e.column))))

theorem follows_key : Follows (compare : Element → Element → Ordering) key :=
  (Path.follows_key.on file).lex <| (follows_byteValues.on name).lex <|
    (ElementKind.follows_rank.on kind).lex <| (follows_nat.on line).lex (follows_nat.on column)

theorem key_eq_iff {a b : Element} : a.key = b.key ↔ a.Same b := by
  simp only [key, EmbeddingLike.apply_eq_iff_eq, Prod.mk.injEq, Path.key_eq_iff, byteValues_inj,
    ElementKind.rank_inj, same_iff]

end Element

namespace Violation

/-- All fields are equal, the paths component by component. -/
@[mk_iff]
structure Same (v w : Violation) : Prop where
  file : v.file.Same w.file
  line : v.line = w.line
  column : v.column = w.column
  elementName : v.elementName = w.elementName
  elementKind : v.elementKind = w.elementKind
  type : v.type = w.type
  message : v.message = w.message

/-- The fields in their order. -/
def key (v : Violation) :
    List (ℕ ×ₗ List ℕ) ×ₗ ℕ ×ₗ ℕ ×ₗ List ℕ ×ₗ ℕ ×ₗ ℕ ×ₗ List ℕ :=
  toLex (v.file.key, toLex (v.line, toLex (v.column, toLex (byteValues v.elementName,
    toLex (v.elementKind.rank, toLex (v.type.rank, byteValues v.message))))))

theorem follows_key : Follows (compare : Violation → Violation → Ordering) key :=
  (Path.follows_key.on file).lex <| (follows_nat.on line).lex <| (follows_nat.on column).lex <|
    (follows_byteValues.on elementName).lex <| (ElementKind.follows_rank.on elementKind).lex <|
    (ViolationType.follows_rank.on type).lex (follows_byteValues.on message)

theorem key_eq_iff {v w : Violation} : v.key = w.key ↔ v.Same w := by
  simp only [key, EmbeddingLike.apply_eq_iff_eq, Prod.mk.injEq, Path.key_eq_iff, byteValues_inj,
    ElementKind.rank_inj, ViolationType.rank_inj, same_iff]

end Violation

/-! ### Ordered sets -/

/-- Values are in a total order up to `same`, that of their keys, and ordered sets of them hold one of
each class. -/
structure OrderedUpTo {α β : Type} [Ord α] [Std.TransOrd α] [LinearOrder β] (same : α → α → Prop)
    (key : α → β) : Prop where
  equivalence : Equivalence same
  eq_iff : ∀ a b, compare a b = .eq ↔ same a b
  lt_iff : ∀ a b, compare a b = .lt ↔ key a < key b
  gt_iff : ∀ a b, compare a b = .gt ↔ key b < key a
  key_eq_iff : ∀ a b, key a = key b ↔ same a b
  represents : ∀ l, OrderedSet.Represents same l (.ofList l)
  perm : ∀ l l', l.Perm l' →
    List.Forall₂ same (OrderedSet.ofList l).toList (OrderedSet.ofList l').toList

theorem orderedUpTo_of_follows {α β : Type} [Ord α] [Std.TransOrd α] [LinearOrder β]
    {same : α → α → Prop} {key : α → β} (hkey : Follows compare key)
    (hsame : ∀ a b, key a = key b ↔ same a b) : OrderedUpTo same key := by
  have hcompare : (fun a b => compare a b = .eq) = same := by
    funext a b
    rw [hkey.eq_iff, hsame]
  constructor
  · constructor
    · intro a
      exact (hsame a a).1 rfl
    · intro a b hab
      exact (hsame b a).1 ((hsame a b).2 hab).symm
    · intro a b c hab hbc
      exact (hsame a c).1 (((hsame a b).2 hab).trans ((hsame b c).2 hbc))
  · intro a b
    rw [hkey.eq_iff, hsame]
  · intro a b
    exact hkey.lt_iff
  · intro a b
    exact hkey.gt_iff
  · exact hsame
  · intro l
    rw [← hcompare]
    exact OrderedSet.represents_ofList l
  · intro l l' hperm
    rw [← hcompare]
    exact OrderedSet.forall₂_ofList_of_perm hperm

/-- Elements and violations are ordered up to the spelling of paths. Slashes may be doubled and dots
stand between them, but a dot at the beginning makes another path. -/
theorem ordered_up_to_spelling :
    OrderedUpTo Element.Same Element.key ∧ OrderedUpTo Violation.Same Violation.key ∧
      (∀ a b, Path.Same ⟨a ++ "//" ++ b⟩ ⟨a ++ "/" ++ b⟩) ∧
      (∀ a b, Path.Same ⟨a ++ "/./" ++ b⟩ ⟨a ++ "/" ++ b⟩) ∧
      ∀ a, Path.Same ⟨"./" ++ a⟩ ⟨a⟩ ↔ (Segments.split '/' a).head? = some "." := by
  refine ⟨?_, ?_, Path.same_double_slash, Path.same_slash_dot, Path.same_dot_slash_iff⟩
  · apply orderedUpTo_of_follows Element.follows_key
    intro a b
    exact Element.key_eq_iff
  · apply orderedUpTo_of_follows Violation.follows_key
    intro v w
    exact Violation.key_eq_iff

namespace Respelled

/-- Two elements, each of them twice in files whose paths are spelled in two ways or are two paths. -/
def elements : List Element :=
  [⟨⟨"a//b.py"⟩, "f", .func, 1, 1⟩, ⟨⟨"a.py"⟩, "g", .func, 1, 1⟩, ⟨⟨"a/./b.py"⟩, "f", .func, 1, 1⟩,
    ⟨⟨"./a.py"⟩, "g", .func, 1, 1⟩]

theorem one_of_each_class :
    (OrderedSet.ofList elements).toList.map (·.file.text) = ["./a.py", "a/./b.py", "a.py"] ∧
      (OrderedSet.ofList elements.reverse).toList.map (·.file.text) = ["./a.py", "a//b.py", "a.py"] ∧
      List.Forall₂ Element.Same (OrderedSet.ofList elements).toList
        (OrderedSet.ofList elements.reverse).toList :=
  ⟨by decide +kernel, by decide +kernel,
    ordered_up_to_spelling.1.perm elements elements.reverse (List.reverse_perm elements).symm⟩

end Respelled

end LayerCheck
