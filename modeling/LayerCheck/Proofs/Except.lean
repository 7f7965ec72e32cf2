import LayerCheck.Proofs.Matched

/-!
Computations that may fail. A step that succeeds is taken apart into the steps before it, and a list
that is read as a whole into its items. What fails first is what a computation fails with.
-/

namespace LayerCheck.Except

variable {ε α β : Type}

theorem bind_eq_ok {x : Except ε α} {f : α → Except ε β} {b : β} :
    x >>= f = .ok b ↔ ∃ a, x = .ok a ∧ f a = .ok b := by
  cases x with
  | error e => simp [bind, Except.bind]
  | ok a => simp [bind, Except.bind]

theorem map_eq_ok {x : Except ε α} {f : α → β} {b : β} :
    (do return f (← x)) = .ok b ↔ ∃ a, x = .ok a ∧ f a = b := by
  rw [bind_eq_ok]
  simp [pure, Except.pure]

/-- What comes after a check is done if the check passes. -/
theorem check_bind_eq_ok {x : Except ε Unit} {f : Unit → Except ε β} {b : β} :
    x >>= f = .ok b ↔ x = .ok () ∧ f () = .ok b :=
  bind_eq_ok.trans ⟨fun ⟨_, hx, hf⟩ => ⟨hx, hf⟩, fun ⟨hx, hf⟩ => ⟨(), hx, hf⟩⟩

theorem mapM_eq_ok {f : α → Except ε β} {as : List α} {bs : List β} :
    as.mapM f = .ok bs ↔ List.Forall₂ (fun a b => f a = .ok b) as bs := by
  induction as generalizing bs with
  | nil => simp [pure, Except.pure, eq_comm]
  | cons a as ih =>
    simp only [List.mapM_cons, bind_eq_ok, ih, List.forall₂_cons_left_iff]
    simp [pure, Except.pure, eq_comm]

theorem matched_of_mapM_eq_ok {f : α → Except ε β} {as : List α} {bs : List β}
    (h : as.mapM f = .ok bs) : Matched (fun a b => f a = .ok b) as bs :=
  .of_forall₂ (mapM_eq_ok.1 h)

theorem mem_of_mapM_eq_ok {f : α → Except ε β} {as : List α} {bs : List β} (h : as.mapM f = .ok bs)
    {b : β} : b ∈ bs ↔ ∃ a ∈ as, f a = .ok b := by
  refine ⟨(matched_of_mapM_eq_ok h).right b, ?_⟩
  rintro ⟨a, ha, hab⟩
  obtain ⟨b', hb', hab'⟩ := (matched_of_mapM_eq_ok h).left a ha
  rwa [Except.ok.inj (hab.symm.trans hab')]

/-- Lists are read alike if their items are. -/
theorem mapM_eq_of_forall₂ {γ : Type} {f : α → Except ε β} {g : γ → Except ε β} {as : List α}
    {cs : List γ} (h : List.Forall₂ (fun a c => f a = g c) as cs) : as.mapM f = cs.mapM g := by
  induction h with
  | nil => rfl
  | cons hac _ ih => rw [List.mapM_cons, List.mapM_cons, hac, ih]

theorem mapM_congr {f g : α → Except ε β} {as : List α} (h : ∀ a ∈ as, f a = g a) :
    as.mapM f = as.mapM g :=
  mapM_eq_of_forall₂ (List.forall₂_same.2 h)

/-- A list is read as a whole if each of its items is. -/
theorem exists_mapM_eq_ok {f : α → Except ε β} {as : List α} (h : ∀ a ∈ as, ∃ b, f a = .ok b) :
    ∃ bs, as.mapM f = .ok bs := by
  induction as with
  | nil => exact ⟨[], rfl⟩
  | cons a as ih =>
    obtain ⟨⟨b, hb⟩, has⟩ := List.forall_mem_cons.1 h
    obtain ⟨bs, hbs⟩ := ih has
    exact ⟨b :: bs, mapM_eq_ok.2 (.cons hb (mapM_eq_ok.1 hbs))⟩

/-- A list is read if its items are read where those of another list are, with related results. -/
theorem exists_mapM_of_forall₂ {γ : Type} {f : α → Except ε β} {g : γ → Except ε β} {r : β → β → Prop}
    {as : List α} {cs : List γ} {bs : List β}
    (h : List.Forall₂ (fun a c => ∀ b, f a = .ok b → ∃ b', g c = .ok b' ∧ r b b') as cs)
    (hbs : as.mapM f = .ok bs) : ∃ bs', cs.mapM g = .ok bs' ∧ List.Forall₂ r bs bs' := by
  simp only [mapM_eq_ok] at hbs ⊢
  induction h generalizing bs with
  | nil =>
    obtain rfl := List.forall₂_nil_left_iff.1 hbs
    exact ⟨[], .nil, .nil⟩
  | cons hac _ ih =>
    obtain ⟨b, rest, hb, hrest, rfl⟩ := List.forall₂_cons_left_iff.1 hbs
    obtain ⟨b', hb', hr⟩ := hac b hb
    obtain ⟨rest', hrest', hrs⟩ := ih hrest
    exact ⟨b' :: rest', .cons hb' hrest', .cons hr hrs⟩

theorem forM_eq_ok {f : α → Except ε Unit} {as : List α} :
    as.forM f = .ok () ↔ ∀ a ∈ as, f a = .ok () := by
  induction as with
  | nil => simp [pure, Except.pure]
  | cons a as ih =>
    have hstep : (a :: as).forM f = (f a >>= fun _ => as.forM f) := rfl
    rw [hstep, check_bind_eq_ok, ih, List.forall_mem_cons]

theorem discard_eq_ok {x : Except ε α} : discard x = .ok () ↔ ∃ a, x = .ok a := by
  cases x with
  | error e => simp [discard, Functor.discard, Functor.mapConst, Except.map]
  | ok a => simp [discard, Functor.discard, Functor.mapConst, Except.map]

/-- A value that is computed from a result comes from a success. -/
theorem exists_of_map_toOption {x : Except ε α} {f : α → β} {b : β}
    (h : x.toOption.map f = some b) : ∃ a, x = .ok a ∧ f a = b := by
  cases x with
  | error e => contradiction
  | ok a => exact ⟨a, rfl, Option.some.inj h⟩

/-! ### First faults -/

/-- What a computation fails with. -/
def fault? : Except ε α → Option ε
  | .error e => some e
  | .ok _ => none

theorem fault?_eq_some_iff {x : Except ε α} {e : ε} : fault? x = some e ↔ x = .error e := by
  cases x <;> simp [fault?]

theorem fault?_eq_none_iff {x : Except ε α} : fault? x = none ↔ ∃ a, x = .ok a := by
  cases x <;> simp [fault?]

/-- A later step fails only if the one before it does not. -/
theorem fault?_bind {x : Except ε α} {f : α → Except ε β} {later : Option ε}
    (h : ∀ a, x = .ok a → fault? (f a) = later) : fault? (x >>= f) = (fault? x).or later := by
  cases x with
  | error e => rfl
  | ok a => exact h a rfl

theorem fault?_map {x : Except ε α} {f : α → β} : fault? (do return f (← x)) = fault? x := by
  cases x <;> rfl

/-- A list fails with the first of all faults of its items. -/
theorem fault?_mapM {f : α → Except ε β} {faults : α → List ε} {as : List α}
    (h : ∀ a ∈ as, fault? (f a) = (faults a).head?) :
    fault? (as.mapM f) = (as.flatMap faults).head? := by
  induction as with
  | nil => rfl
  | cons a as ih =>
    obtain ⟨ha, has⟩ := List.forall_mem_cons.1 h
    rw [List.mapM_cons, fault?_bind fun _ _ => fault?_map.trans (ih has), ha, List.flatMap_cons,
      List.head?_append]

theorem fault?_discard {x : Except ε α} : fault? (discard x) = fault? x := by
  cases x <;> rfl

/-- A pass through a list fails with the first of all faults of its items. -/
theorem fault?_forM {f : α → Except ε Unit} {faults : α → List ε} {as : List α}
    (h : ∀ a ∈ as, fault? (f a) = (faults a).head?) :
    fault? (as.forM f) = (as.flatMap faults).head? := by
  induction as with
  | nil => rfl
  | cons a as ih =>
    obtain ⟨ha, has⟩ := List.forall_mem_cons.1 h
    have hstep : (a :: as).forM f = (f a >>= fun _ => as.forM f) := rfl
    rw [hstep, fault?_bind fun _ _ => ih has, ha, List.flatMap_cons, List.head?_append]

end LayerCheck.Except

namespace LayerCheck.Option

variable {α β : Type}

theorem mapM_eq_some {f : α → Option β} {as : List α} {bs : List β} :
    as.mapM f = some bs ↔ List.Forall₂ (fun a b => f a = some b) as bs := by
  induction as generalizing bs with
  | nil => simp [eq_comm]
  | cons a as ih =>
    simp only [List.mapM_cons, List.forall₂_cons_left_iff, ← ih]
    cases f a with
    | none => simp
    | some b => cases as.mapM f <;> simp [eq_comm]

/-- Items that were written are read again. -/
theorem mapM_map_eq_some {f : β → Option α} {g : α → β} {as : List α}
    (h : ∀ a ∈ as, f (g a) = some a) : (as.map g).mapM f = some as := by
  rw [mapM_eq_some, List.forall₂_map_left_iff]
  exact List.forall₂_same.2 h

theorem exists_of_mem_mapM {f : α → Option β} {as : List α} {bs : List β} (h : as.mapM f = some bs)
    {b : β} (hb : b ∈ bs) : ∃ a ∈ as, f a = some b :=
  (Matched.of_forall₂ (mapM_eq_some.1 h)).right b hb

end LayerCheck.Option
