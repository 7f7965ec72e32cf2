import LayerCheck.Module.Definitions
import LayerCheck.Proofs.Segments
import Mathlib.Data.List.Forall2
import Mathlib.Data.List.Lex

/-!
The outline of a module. A statement has an address: the numbers of the statements on the way to it,
from the module down. The classes and functions of a module are defined at its sites, which come in the
order of their addresses, and a definition is qualified by the names of those around it.
-/

namespace LayerCheck.Syntax

abbrev Address := List Nat

/-- What stands around an address comes before it. -/
theorem Address.lt_of_around {a b : Address} (h : b <+: a) (hne : b ≠ a) : b < a := by
  obtain ⟨c, rfl⟩ := h
  cases c with
  | nil => simp at hne
  | cons i c =>
    have hlt : b ++ [] < b ++ i :: c := List.append_left_lt (List.nil_lt_cons i c)
    rwa [List.append_nil] at hlt

namespace Stmt

/-- The statements in a statement. -/
def body : Stmt → List Stmt
  | .definition _ body => body
  | .block _ _ body => body
  | _ => []

/-- The head of a class or function definition. -/
def head? : Stmt → Option Head
  | .definition head _ => some head
  | _ => none

/-- The head of the definition at an address below a statement. The statement itself is at the empty
address. -/
def headAt? : Stmt → Address → Option Head
  | s, [] => s.head?
  | s, i :: a => (s.body[i]?).bind fun t => t.headAt? a

/-- The names of the definitions on the way to an address, the one there apart. -/
def enclosing : Stmt → Address → List String
  | _, [] => []
  | s, i :: a =>
    (s.head?.map (·.name.text)).toList ++ ((s.body[i]?).map fun t => t.enclosing a).getD []

mutual

/-- The addresses of the class and function definitions below a statement, itself included. -/
def sites : Stmt → List Address
  | .definition _ body => [] :: sitesFrom 0 body
  | .block _ _ body => sitesFrom 0 body
  | .expression _ _ | .assignment _ _ _ | .importModules _ _ | .importFrom _ _ _ | .simple _ => []

/-- The same for statements that are numbered from `i` on. -/
def sitesFrom (i : Nat) : List Stmt → List Address
  | [] => []
  | s :: rest => s.sites.map (i :: ·) ++ sitesFrom (i + 1) rest

end

theorem sizeOf_lt_of_mem_body {s t : Stmt} (h : t ∈ s.body) : sizeOf t < sizeOf s := by
  cases s with
  | definition head body =>
    have hlt : sizeOf t < sizeOf body := List.sizeOf_lt_of_mem h
    simp only [definition.sizeOf_spec]
    omega
  | block clause head body =>
    have hlt : sizeOf t < sizeOf body := List.sizeOf_lt_of_mem h
    simp only [block.sizeOf_spec]
    omega
  | _ => contradiction

/-- What holds of a statement if it holds of those in it holds of all statements. -/
@[elab_as_elim, induction_eliminator]
theorem induction {motive : Stmt → Prop} (step : ∀ s : Stmt, (∀ t ∈ s.body, motive t) → motive s)
    (s : Stmt) : motive s :=
  step s fun t _ => induction step t
termination_by s
decreasing_by exact sizeOf_lt_of_mem_body ‹_›

theorem sites_eq (s : Stmt) :
    s.sites = (s.head?.map fun _ => []).toList ++ sitesFrom 0 s.body := by
  cases s <;> rfl

/-- What the definitions in a statement are qualified by. -/
def inner (outer : Option String) (s : Stmt) : Option String :=
  match s.head? with
  | none => outer
  | some head => some (qualify outer head.name.text)

theorem definitions_eq (aliases : Aliases) (outer : Option String) (s : Stmt) :
    s.definitions aliases outer = (s.head?.map (·.definition aliases outer)).toList ++
      definitionsOf aliases (s.inner outer) s.body := by
  cases s <;> simp [definitions, head?, body, inner, definitionsOf, Head.definition]

/-! ### Sites -/

theorem mem_sitesFrom {i : Nat} {body : List Stmt} {a : Address} :
    a ∈ sitesFrom i body ↔ ∃ k t c, body[k]? = some t ∧ a = (i + k) :: c ∧ c ∈ t.sites := by
  induction body generalizing i with
  | nil => simp [sitesFrom]
  | cons s rest ih =>
    rw [sitesFrom, List.mem_append, ih, List.mem_map]
    constructor
    · rintro (⟨c, hc, rfl⟩ | ⟨k, t, c, hget, rfl, hc⟩)
      · exact ⟨0, s, c, rfl, rfl, hc⟩
      · exact ⟨k + 1, t, c, hget, by rw [Nat.add_right_comm, Nat.add_assoc], hc⟩
    · rintro ⟨k, t, c, hget, rfl, hc⟩
      cases k with
      | zero =>
        obtain rfl : s = t := Option.some.inj hget
        exact .inl ⟨c, hc, rfl⟩
      | succ k => exact .inr ⟨k, t, c, hget, by rw [Nat.add_right_comm, Nat.add_assoc], hc⟩

/-- The sites are the addresses of definitions. -/
theorem mem_sites {s : Stmt} {a : Address} : a ∈ s.sites ↔ ∃ head, s.headAt? a = some head := by
  induction s generalizing a with
  | step s ih =>
    rw [sites_eq, List.mem_append, mem_sitesFrom]
    cases a with
    | nil => simp [headAt?]
    | cons i c =>
      have hself : i :: c ∉ (s.head?.map fun _ => []).toList := by simp
      simp only [hself, false_or, Nat.zero_add, List.cons.injEq, headAt?, Option.bind_eq_some_iff]
      constructor
      · rintro ⟨_, t, _, hget, ⟨rfl, rfl⟩, hc⟩
        obtain ⟨head, hhead⟩ := (ih t (List.mem_of_getElem? hget)).1 hc
        exact ⟨head, t, hget, hhead⟩
      · rintro ⟨head, t, hget, hhead⟩
        exact ⟨i, t, c, hget, ⟨rfl, rfl⟩, (ih t (List.mem_of_getElem? hget)).2 ⟨head, hhead⟩⟩

theorem pairwise_sitesFrom {i : Nat} {body : List Stmt}
    (h : ∀ t ∈ body, t.sites.Pairwise (· < ·)) : (sitesFrom i body).Pairwise (· < ·) := by
  induction body generalizing i with
  | nil => exact .nil
  | cons s rest ih =>
    obtain ⟨hs, hrest⟩ := List.forall_mem_cons.1 h
    rw [sitesFrom, List.pairwise_append]
    refine ⟨?_, ih hrest, ?_⟩
    · exact List.pairwise_map.2 (hs.imp fun hlt => List.Lex.cons hlt)
    · intro a ha b hb
      obtain ⟨c, -, rfl⟩ := List.mem_map.1 ha
      obtain ⟨k, t, c', -, rfl, -⟩ := mem_sitesFrom.1 hb
      exact List.Lex.rel (by omega)

/-- The sites come in the order of their addresses, so what encloses a definition comes before it. -/
theorem pairwise_sites (s : Stmt) : s.sites.Pairwise (· < ·) := by
  induction s with
  | step s ih =>
    rw [sites_eq, List.pairwise_append]
    refine ⟨?_, pairwise_sitesFrom ih, ?_⟩
    · cases s.head? <;> simp
    · intro a ha b hb
      obtain ⟨k, t, c, -, rfl, -⟩ := mem_sitesFrom.1 hb
      obtain rfl : [] = a := by
        cases hhead : s.head? with
        | none => simp [hhead] at ha
        | some head => simpa [hhead, eq_comm] using ha
      exact List.Lex.nil

/-! ### Names -/

/-- Names with dots between them, if there are any. -/
def dotted? : List String → Option String
  | [] => none
  | names => some (Segments.join '.' names)

theorem qualify_dotted? (path : List String) (name : String) :
    qualify (dotted? path) name = Segments.join '.' (path ++ [name]) := by
  cases path with
  | nil => rfl
  | cons first rest =>
    rw [Segments.join_append (by simp) (by simp)]
    rfl

theorem inner_dotted? (path : List String) (s : Stmt) :
    s.inner (dotted? path) = dotted? (path ++ (s.head?.map (·.name.text)).toList) := by
  unfold inner
  cases s.head? with
  | none => simp
  | some head =>
    dsimp only
    rw [qualify_dotted?]
    cases path <;> rfl

/-- The definition is that of the class or function at an address below a statement which stands in
the definitions of `path`. -/
def DefinesAt (aliases : Aliases) (path : List String) (s : Stmt) (a : Address) (d : Definition) :
    Prop :=
  ∃ head, s.headAt? a = some head ∧ d = head.definition aliases (dotted? (path ++ s.enclosing a))

theorem definesAt_cons {aliases : Aliases} {path : List String} {s t : Stmt} {i : Nat} {a : Address}
    {d : Definition} (hget : s.body[i]? = some t) :
    DefinesAt aliases path s (i :: a) d ↔
      DefinesAt aliases (path ++ (s.head?.map (·.name.text)).toList) t a d := by
  simp [DefinesAt, headAt?, enclosing, hget]

theorem forall₂_sitesFrom {aliases : Aliases} {path : List String} {i : Nat} {body : List Stmt}
    (h : ∀ t ∈ body, List.Forall₂ (DefinesAt aliases path t) t.sites
      (t.definitions aliases (dotted? path))) :
    List.Forall₂ (fun a d => ∃ k t c, a = (i + k) :: c ∧ body[k]? = some t ∧
        DefinesAt aliases path t c d)
      (sitesFrom i body) (definitionsOf aliases (dotted? path) body) := by
  induction body generalizing i with
  | nil => exact .nil
  | cons s rest ih =>
    obtain ⟨hs, hrest⟩ := List.forall_mem_cons.1 h
    rw [sitesFrom, definitionsOf]
    refine List.rel_append ?_ ((ih hrest).imp ?_)
    · refine List.forall₂_map_left_iff.2 (hs.imp fun c d hd => ?_)
      exact ⟨0, s, c, rfl, rfl, hd⟩
    · rintro a d ⟨k, t, c, rfl, hget, hd⟩
      exact ⟨k + 1, t, c, by rw [Nat.add_right_comm, Nat.add_assoc], hget, hd⟩

/-- The definitions of classes and functions are those at the sites, one after the other. -/
theorem forall₂_sites (aliases : Aliases) (path : List String) (s : Stmt) :
    List.Forall₂ (DefinesAt aliases path s) s.sites (s.definitions aliases (dotted? path)) := by
  induction s generalizing path with
  | step s ih =>
    rw [sites_eq, definitions_eq, inner_dotted?]
    refine List.rel_append ?_ ((forall₂_sitesFrom fun t ht => ih t ht _).imp ?_)
    · cases hhead : s.head? with
      | none => exact .nil
      | some head => exact .cons ⟨head, hhead, by simp [enclosing]⟩ .nil
    · rintro a d ⟨k, t, c, rfl, hget, hd⟩
      rw [Nat.zero_add]
      exact (definesAt_cons hget).2 hd

/-! ### Enclosing definitions -/

theorem enclosing_eq_nil {s : Stmt} {a : Address}
    (h : ∀ b, b <+: a → b ≠ a → s.headAt? b = none) : s.enclosing a = [] := by
  induction a generalizing s with
  | nil => rfl
  | cons i a ih =>
    have hhead : s.head? = none := h [] List.nil_prefix (by simp)
    cases hget : s.body[i]? with
    | none => simp [enclosing, hhead, hget]
    | some t =>
      have hrest : t.enclosing a = [] := by
        refine ih fun b hb hne => ?_
        have hnone := h (i :: b) ((List.prefix_cons_inj i).2 hb) (by simpa using hne)
        simpa [headAt?, hget] using hnone
      simp [enclosing, hhead, hget, hrest]

/-- The definition at `b` is the innermost one around the address `a`. -/
structure Encloses (s : Stmt) (b a : Address) : Prop where
  isPrefix : b <+: a
  ne : b ≠ a
  defines : ∃ head, s.headAt? b = some head
  innermost : ∀ c, b <+: c → c <+: a → c ≠ b → c ≠ a → s.headAt? c = none

theorem enclosing_of_encloses {s : Stmt} {b a : Address} {head : Head} (h : Encloses s b a)
    (hhead : s.headAt? b = some head) : s.enclosing a = s.enclosing b ++ [head.name.text] := by
  obtain ⟨⟨c, rfl⟩, hne, -, hinner⟩ := h
  induction b generalizing s with
  | nil =>
    cases c with
    | nil => contradiction
    | cons i c =>
      -- Below the statement itself nothing is defined on the way.
      have hself : s.head? = some head := hhead
      cases hget : s.body[i]? with
      | none => simp [enclosing, hself, hget]
      | some t =>
        have hrest : t.enclosing c = [] := by
          refine enclosing_eq_nil fun d hd hdc => ?_
          have hnone := hinner (i :: d) List.nil_prefix ((List.prefix_cons_inj i).2 hd) (by simp)
            (by simpa using hdc)
          simpa [headAt?, hget] using hnone
        simp [enclosing, hself, hget, hrest]
  | cons i b ih =>
    obtain ⟨t, hget, hthead⟩ := Option.bind_eq_some_iff.1 hhead
    have hrest : t.enclosing (b ++ c) = t.enclosing b ++ [head.name.text] := by
      refine ih hthead (by simpa using hne) fun d hbd hda hdb hdne => ?_
      have hnone := hinner (i :: d) ((List.prefix_cons_inj i).2 hbd)
        ((List.prefix_cons_inj i).2 hda) (by simpa using hdb) (by simpa using hdne)
      simpa [headAt?, hget] using hnone
    simp [enclosing, hget, hrest]

/-- A beginning of the names around an address belongs to a definition around it. -/
theorem exists_of_prefix_enclosing {s : Stmt} {a : Address} {names : List String} (hne : names ≠ [])
    (h : names <+: s.enclosing a) :
    ∃ b head, b <+: a ∧ b ≠ a ∧ s.headAt? b = some head ∧
      names = s.enclosing b ++ [head.name.text] := by
  induction a generalizing s names with
  | nil => exact absurd (List.prefix_nil.1 h) hne
  | cons i a ih =>
    -- Either the statement itself is meant, or names are left for the way below it.
    obtain ⟨here, hhere⟩ : ∃ here, (s.head?.map (·.name.text)).toList = here := ⟨_, rfl⟩
    rw [enclosing, hhere] at h
    by_cases hself : names <+: here
    · cases hhead : s.head? with
      | none =>
        rw [hhead] at hhere
        rw [← hhere] at hself
        exact absurd (List.prefix_nil.1 hself) hne
      | some head =>
        rw [hhead] at hhere
        rw [← hhere] at hself
        obtain ⟨rest, rfl, hrest⟩ := (List.prefix_cons_iff.1 hself).resolve_left hne
        obtain rfl := List.prefix_nil.1 hrest
        exact ⟨[], head, List.nil_prefix, by simp, hhead, rfl⟩
    · obtain ⟨below, rfl⟩ : here <+: names :=
        (List.prefix_or_prefix_of_prefix h (List.prefix_append here _)).resolve_left hself
      have hbelow : below ≠ [] := by
        rintro rfl
        exact hself (by simp)
      cases hget : s.body[i]? with
      | none =>
        rw [hget] at h
        exact absurd (List.prefix_nil.1 ((List.prefix_append_right_inj here).1 h)) hbelow
      | some t =>
        rw [hget] at h
        obtain ⟨b, head, hb, hba, hhead, rfl⟩ := ih hbelow ((List.prefix_append_right_inj here).1 h)
        refine ⟨i :: b, head, (List.prefix_cons_inj i).2 hb, by simpa using hba, ?_, ?_⟩
        · simpa [headAt?, hget] using hhead
        · simp [enclosing, hget, hhere]

end Stmt

end LayerCheck.Syntax
