import LayerCheck.Collector.Build
import LayerCheck.Proofs.Except
import LayerCheck.Proofs.OrderedSet
import Mathlib.Data.List.Induction

/-!
Collectors built from entries. Entries that are nested in an entry are less deep than it, so the depth
that a build is given always suffices, and a composite is built from its parts.
-/

namespace LayerCheck

theorem Config.matching_eq_ok {raw : String} {p : Pattern} :
    Config.matching raw = .ok p ↔ Pattern.matching? raw = some p := by
  unfold Config.matching
  split <;> simp_all

theorem Config.searching_eq_ok {raw : String} {p : Pattern} :
    Config.searching raw = .ok p ↔ Pattern.searching? raw = some p := by
  unfold Config.searching
  split <;> simp_all

/-! ### Depth -/

namespace Document

theorem depth_le_depthOfItems {d : Document} {items : List Document} (h : d ∈ items) :
    d.depth ≤ depthOfItems items := by
  induction items with
  | nil => contradiction
  | cons x items ih =>
    rw [depthOfItems]
    rcases List.mem_cons.1 h with rfl | h
    · exact Nat.le_max_left _ _
    · exact Nat.le_trans (ih h) (Nat.le_max_right _ _)

theorem depth_le_depthOfEntries {e : String × Document} {entries : List (String × Document)}
    (h : e ∈ entries) : e.2.depth ≤ depthOfEntries entries := by
  induction entries with
  | nil => contradiction
  | cons x entries ih =>
    rw [depthOfEntries]
    rcases List.mem_cons.1 h with rfl | h
    · exact Nat.le_max_left _ _
    · exact Nat.le_trans (ih h) (Nat.le_max_right _ _)

theorem depthOfEntries_le {entries : List (String × Document)} {n : Nat}
    (h : ∀ e ∈ entries, e.2.depth ≤ n) : depthOfEntries entries ≤ n := by
  induction entries with
  | nil => exact Nat.zero_le n
  | cons x entries ih =>
    obtain ⟨hx, hentries⟩ := List.forall_mem_cons.1 h
    exact Nat.max_le.2 ⟨hx, ih hentries⟩

end Document

namespace CollectorEntry

variable {c x : CollectorEntry} {key : String}

theorem depth_lt_of_ofDocument {d : Document} (h : ofDocument d = .ok c) : c.depth < d.depth := by
  unfold ofDocument at h
  split at h
  · rename_i entries
    split at h
    · rw [← Except.ok.inj h, Document.depth, Nat.lt_succ_iff]
      refine Document.depthOfEntries_le fun e he => ?_
      obtain ⟨y, hy, hvalue⟩ := OrderedMap.exists_of_mem_ofList he
      rw [← hvalue]
      exact Document.depth_le_depthOfEntries (List.mem_filter.1 hy).1
    · contradiction
    · contradiction
  · contradiction

/-- The entries are of one kind and have one value for an option. -/
structure AgreeAt (c c' : CollectorEntry) (key : String) : Prop where
  kind : c.kind = c'.kind
  value : c.options.get? key = c'.options.get? key

namespace AgreeAt

variable {c' : CollectorEntry}

section OneOption

variable (h : c.AgreeAt c' key)
include h

theorem text?_eq : c.text? key = c'.text? key := by
  rw [text?, text?, wrong, wrong, h.kind, h.value]

theorem bool_eq (default : Bool) : c.bool key default = c'.bool key default := by
  rw [bool, bool, wrong, wrong, h.kind, h.value]

theorem texts_eq : c.texts key = c'.texts key := by
  rw [texts, texts, wrong, wrong, h.kind, h.value]

theorem textIfAny_eq : c.textIfAny key = c'.textIfAny key := by
  rw [textIfAny, textIfAny, h.text?_eq]

theorem patternIfAny_eq : c.patternIfAny key = c'.patternIfAny key := by
  rw [patternIfAny, patternIfAny, h.textIfAny_eq]

theorem text_eq : c.text key = c'.text key := by
  rw [text, text, missing, missing, h.kind, h.text?_eq]

theorem pattern_eq : c.pattern key = c'.pattern key := by
  rw [pattern, pattern, h.text_eq]

end OneOption

theorem elementKind_eq (h : c.AgreeAt c' "element_type") : c.elementKind = c'.elementKind := by
  unfold elementKind wrong
  rw [h.kind, h.textIfAny_eq]

end AgreeAt

/-- The list that nested entries are read from. -/
theorem nested_eq_ok {xs : List CollectorEntry} :
    c.nested key = .ok xs ↔
      (c.options.get? key = none ∨ c.options.get? key = some .null) ∧ xs = [] ∨
        ∃ items, c.options.get? key = some (.list items) ∧ items.mapM ofDocument = .ok xs := by
  unfold nested
  split
  · rename_i hget
    simp [hget, eq_comm]
  · rename_i hget
    simp [hget, eq_comm]
  · rename_i items hget
    cases hitems : items.mapM ofDocument with
    | error e => simp [hget, hitems, Except.mapError]
    | ok ys => simp [hget, hitems, Except.mapError]
  · rename_i d hnull hlist hget
    cases d with
    | null => exact (hnull rfl).elim
    | list items => exact (hlist items rfl).elim
    | _ => simp [hget]

theorem textItems?_eq_some_iff {items : List Document} {texts : List String} :
    textItems? items = some texts ↔ items = texts.map .text := by
  induction items generalizing texts with
  | nil => cases texts <;> simp [textItems?]
  | cons d items ih =>
    cases d with
    | text s =>
      have hcons : textItems? (.text s :: items) = (textItems? items).map (s :: ·) := by
        rw [textItems?, List.mapM_cons, Option.map_eq_bind]
        rfl
      cases texts <;> simp [hcons, ih, and_comm]
    | _ => cases texts <;> simp [textItems?, List.mapM_cons]

/-- The option that a list of texts is read from. -/
theorem texts_eq_ok {texts : List String} :
    c.texts key = .ok texts ↔
      (c.options.get? key = none ∨ c.options.get? key = some .null) ∧ texts = [] ∨
        (∃ s, c.options.get? key = some (.text s) ∧ texts = [s]) ∨
        c.options.get? key = some (.list (texts.map .text)) := by
  unfold CollectorEntry.texts
  split
  · rename_i hget
    simp [hget, eq_comm]
  · rename_i hget
    simp [hget, eq_comm]
  · rename_i s hget
    simp [hget, eq_comm]
  · rename_i items hget
    cases hitems : textItems? items with
    | none =>
      have hne : items ≠ texts.map .text := by
        rw [Ne, ← textItems?_eq_some_iff, hitems]
        simp
      simp [hget, hne]
    | some found =>
      obtain rfl := textItems?_eq_some_iff.1 hitems
      have hinj : found.map Document.text = texts.map .text ↔ found = texts :=
        List.map_inj_right fun _ _ => Document.text.inj
      simp [hget, hinj]
  · rename_i d hnull htext hlist hget
    cases d with
    | null => exact (hnull rfl).elim
    | text s => exact (htext s rfl).elim
    | list items => exact (hlist items rfl).elim
    | _ => simp [hget]

theorem depth_lt_of_mem_nested {xs : List CollectorEntry} (h : c.nested key = .ok xs)
    (hx : x ∈ xs) : x.depth < c.depth := by
  rcases nested_eq_ok.1 h with ⟨-, rfl⟩ | ⟨items, hget, hitems⟩
  · contradiction
  · obtain ⟨d, hd, hdocument⟩ := (Except.mem_of_mapM_eq_ok hitems).1 hx
    obtain ⟨k, -, hentry⟩ := OrderedMap.exists_of_get? hget
    calc
      x.depth < d.depth := depth_lt_of_ofDocument hdocument
      _ ≤ Document.depthOfItems items := Document.depth_le_depthOfItems hd
      _ < (Document.list items).depth := Nat.lt_succ_self _
      _ ≤ c.depth := Document.depth_le_depthOfEntries hentry

/-- The entries that are nested under a key, none if they cannot be read. -/
def children (c : CollectorEntry) (key : String) : List CollectorEntry :=
  (c.nested key).toOption.getD []

theorem children_of_nested {xs : List CollectorEntry} (h : c.nested key = .ok xs) :
    c.children key = xs := by
  simp [children, h, Except.toOption]

theorem depth_lt_of_mem_children (h : x ∈ c.children key) : x.depth < c.depth := by
  cases hnested : c.nested key with
  | error e => simp [children, hnested, Except.toOption] at h
  | ok xs =>
    rw [children_of_nested hnested] at h
    exact depth_lt_of_mem_nested hnested h

theorem directory_eq_ok {l : Leaf} :
    c.directory = .ok l ↔ ∃ directories recursive kind exclude,
      (c.texts "directories" = .ok directories ∧ directories ≠ []) ∧
      c.bool "recursive" true = .ok recursive ∧ c.elementKind = .ok kind ∧ c.exclude = .ok exclude ∧
      ⟨.directory directories recursive kind, exclude⟩ = l := by
  rw [directory, Except.bind_eq_ok]
  constructor
  · rintro ⟨directories, hdirectories, h⟩
    split at h
    · contradiction
    rename_i hne
    simp only [Except.bind_eq_ok] at h
    obtain ⟨recursive, hrecursive, kind, hkind, exclude, hexclude, h⟩ := h
    exact ⟨directories, recursive, kind, exclude, ⟨hdirectories, by simpa using hne⟩, hrecursive,
      hkind, hexclude, Except.ok.inj h⟩
  · rintro ⟨directories, recursive, kind, exclude, ⟨hdirectories, hne⟩, hrecursive, hkind, hexclude,
      rfl⟩
    refine ⟨directories, hdirectories, ?_⟩
    rw [if_neg (by simpa using hne)]
    simp only [Except.bind_eq_ok]
    exact ⟨recursive, hrecursive, kind, hkind, exclude, hexclude, rfl⟩

end CollectorEntry

/-! ### Composites -/

namespace Collector

variable {c : CollectorEntry}

/-- The composite of an entry, whose parts are built by `part`. -/
def composite (part : CollectorEntry → Except ConfigError Collector) (c : CollectorEntry) :
    Except ConfigError Collector := do
  let must ← (← c.nested "must").mapM part
  let anyOf ← (← c.nested "any_of").mapM part
  let mustNot ← (← c.nested "must_not").mapM part
  return .bool must anyOf mustNot

theorem composite_congr {part part' : CollectorEntry → Except ConfigError Collector}
    (h : ∀ key xs, c.nested key = .ok xs → ∀ x ∈ xs, part x = part' x) :
    composite part c = composite part' c := by
  have hlist (key : String) :
      (c.nested key >>= List.mapM part) = (c.nested key >>= List.mapM part') := by
    cases hnested : c.nested key with
    | error e => rfl
    | ok xs => exact Except.mapM_congr (h key xs hnested)
  simp only [composite, ← bind_assoc, hlist]

theorem buildWithin_succ (n : Nat) (c : CollectorEntry) :
    buildWithin (n + 1) c =
      if c.kind = "bool" then composite (buildWithin n) c else do return .leaf (← c.leaf) := by
  rw [buildWithin]
  rfl

theorem buildWithin_eq_of_lt {n m : Nat} (hn : c.depth < n) (hm : c.depth < m) :
    buildWithin n c = buildWithin m c := by
  induction n generalizing m c with
  | zero => contradiction
  | succ n ih =>
    obtain ⟨m, rfl⟩ : ∃ k, m = k + 1 := Nat.exists_eq_add_one.2 (Nat.zero_lt_of_lt hm)
    have hparts : composite (buildWithin n) c = composite (buildWithin m) c := by
      refine composite_congr fun key xs hnested x hx => ?_
      -- A part is less deep than the entry, so what is left on either side suffices for it.
      have hdepth : x.depth < c.depth := CollectorEntry.depth_lt_of_mem_nested hnested hx
      exact ih (by omega) (by omega)
    rw [buildWithin_succ, buildWithin_succ, hparts]

/-- A composite is built from its parts, a leaf by itself. -/
theorem build_eq (c : CollectorEntry) :
    build c = if c.kind = "bool" then composite build c else do return .leaf (← c.leaf) := by
  have hparts : composite (buildWithin c.depth) c = composite build c := by
    refine composite_congr fun key xs hnested x hx => ?_
    exact buildWithin_eq_of_lt (CollectorEntry.depth_lt_of_mem_nested hnested hx) (Nat.lt_succ_self _)
  rw [build, buildWithin_succ, hparts]

theorem build_leaf_eq_ok (hkind : c.kind ≠ "bool") {k : Collector} :
    build c = .ok k ↔ ∃ l, c.leaf = .ok l ∧ Collector.leaf l = k := by
  rw [build_eq, if_neg hkind, Except.map_eq_ok]

theorem build_bool_eq_ok (hkind : c.kind = "bool") {k : Collector} :
    build c = .ok k ↔ ∃ ms must as anyOf ns mustNot,
      (c.nested "must" = .ok ms ∧ ms.mapM build = .ok must) ∧
      (c.nested "any_of" = .ok as ∧ as.mapM build = .ok anyOf) ∧
      (c.nested "must_not" = .ok ns ∧ ns.mapM build = .ok mustNot) ∧
      bool must anyOf mustNot = k := by
  rw [build_eq, if_pos hkind]
  simp only [composite, Except.bind_eq_ok]
  constructor
  · rintro ⟨ms, hms, must, hmust, as, has, anyOf, hanyOf, ns, hns, mustNot, hmustNot, hk⟩
    exact ⟨ms, must, as, anyOf, ns, mustNot, ⟨hms, hmust⟩, ⟨has, hanyOf⟩, ⟨hns, hmustNot⟩,
      Except.ok.inj hk⟩
  · rintro ⟨ms, must, as, anyOf, ns, mustNot, ⟨hms, hmust⟩, ⟨has, hanyOf⟩, ⟨hns, hmustNot⟩, rfl⟩
    exact ⟨ms, hms, must, hmust, as, has, anyOf, hanyOf, ns, hns, mustNot, hmustNot, rfl⟩

end Collector

end LayerCheck
