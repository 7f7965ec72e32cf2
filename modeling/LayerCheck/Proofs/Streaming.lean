import LayerCheck.Proofs.NameIndex

/-!
Streams of dependencies are exact for elements in files of any name. Elements are one if they compare
equal, so a stream passes each dependency of a source once up to comparing equal, and grouping the
stream by its sources loses nothing.
-/

namespace LayerCheck.NameIndex

/-! ### One source -/

theorem countP_eq_one {α : Type} {p : α → Bool} {l : List α}
    (hone : l.Pairwise fun a b => p a → ¬p b) (hsome : ∃ a ∈ l, p a) : l.countP p = 1 := by
  induction l with
  | nil => simp at hsome
  | cons a l ih =>
    obtain ⟨ha, hl⟩ := List.pairwise_cons.1 hone
    by_cases hpa : p a
    · have hnone : l.countP p = 0 := List.countP_eq_zero.2 fun b hb => ha b hb hpa
      simp [hpa, hnone]
    · have hrest : ∃ b ∈ l, p b := by simpa [hpa] using hsome
      simp [hpa, ih hl hrest]

theorem compare_dependency_eq_iff {d d' : Dependency} :
    compare d d' = .eq ↔
      compare d.source d'.source = .eq ∧ compare d.target d'.target = .eq ∧ d.line = d'.line := by
  change Dependency.order d d' = .eq ↔ _
  simp [Dependency.order, compareLex, compareOn, Ordering.then_eq_eq]

/-- What a source passes on is exact: all of it is asked for by a reference, and each reference to an
indexed element is answered by one dependency, though others may ask for the same. -/
structure PassesExactly (elements : List Element) (references : List Reference) (source : Element)
    (passed : List Dependency) : Prop where
  asked : ∀ d ∈ passed, d.source = source ∧ d.target ∈ elements ∧
    ∃ r ∈ references, r.line = d.line ∧ r.probe = d.target.shortName
  once : ∀ target ∈ elements, ∀ r ∈ references, r.probe = target.shortName →
    passed.countP (fun d => compare d ⟨source, target, r.line⟩ == .eq) = 1

section Source

variable {elements : List Element} {references : List Reference} {source : Element}

theorem asked_of_mem_edgesFrom {d : Dependency}
    (h : d ∈ (ofList elements).edgesFrom references source) :
    d.source = source ∧ d.target ∈ elements ∧
      ∃ r ∈ references, r.line = d.line ∧ r.probe = d.target.shortName := by
  obtain ⟨hsource, htarget⟩ := source_eq_of_mem_edgesFrom h
  obtain ⟨r, hr, hline, hcandidate⟩ := mem_targets.1 htarget
  obtain ⟨hindexed, hname⟩ := mem_of_mem_candidates hcandidate
  exact ⟨hsource, hindexed, r, hr, hline, hname.symm⟩

theorem exists_edgesFrom {target : Element} (htarget : target ∈ elements) {r : Reference}
    (hr : r ∈ references) (hprobe : r.probe = target.shortName) :
    ∃ d ∈ (ofList elements).edgesFrom references source,
      compare d ⟨source, target, r.line⟩ = .eq := by
  obtain ⟨x, hx, hcompare⟩ := exists_candidate htarget
  have hasked : (x, r.line) ∈ (ofList elements).targets references :=
    mem_targets.2 ⟨r, hr, rfl, hprobe ▸ hx⟩
  obtain ⟨d, hd, hxd⟩ := exists_mem_edgesFrom source hasked
  have htargets : compare (⟨source, target, r.line⟩ : Dependency) ⟨source, x, r.line⟩ = .eq :=
    compare_dependency_eq_iff.2 ⟨Std.ReflCmp.compare_self, hcompare, rfl⟩
  exact ⟨d, hd, Std.OrientedCmp.eq_symm (Std.TransCmp.eq_trans htargets hxd)⟩

theorem passesExactly_edgesFrom :
    PassesExactly elements references source ((ofList elements).edgesFrom references source) where
  asked _ hd := asked_of_mem_edgesFrom hd
  once target htarget r hr hprobe := by
    apply countP_eq_one
    · refine (pairwise_edgesFrom _ references source).imp fun {d d'} hne hd hd' => hne ?_
      exact Std.TransCmp.eq_trans (beq_iff_eq.1 hd) (Std.OrientedCmp.eq_symm (beq_iff_eq.1 hd'))
    · obtain ⟨d, hd, hcompare⟩ := exists_edgesFrom htarget hr hprobe
      exact ⟨d, hd, beq_iff_eq.2 hcompare⟩

end Source

/-! ### Streams -/

section Stream

variable (index : NameIndex) (facts : Path → Facts)

theorem foldl_pass {σ : Type} (sink : σ → Dependency → σ) (sources : List Element)
    (stream : σ × Nat) :
    sources.foldl (index.pass facts sink) stream =
      ((index.edges facts sources).foldl sink stream.1,
        stream.2 + (index.edges facts sources).length) := by
  induction sources generalizing stream with
  | nil => simp [edges]
  | cons source sources ih =>
    rw [List.foldl_cons, ih]
    simp [pass, edges, List.foldl_append, Nat.add_assoc]

/-- The sink sees the dependencies of one source after the other, and each of them is counted. -/
theorem forEach_eq {σ : Type} (sink : σ → Dependency → σ) (sources : List Element) (start : σ) :
    index.forEach facts sink sources start =
      ((index.edges facts sources).foldl sink start, (index.edges facts sources).length) := by
  rw [forEach, foldl_pass, Nat.zero_add]

theorem pairwise_edges {sources : List Element} (h : sources.Pairwise (compare · · ≠ .eq)) :
    (index.edges facts sources).Pairwise (compare · · ≠ .eq) := by
  refine List.pairwise_flatMap.2 ⟨fun source _ => pairwise_edgesFrom index _ source, ?_⟩
  refine h.imp fun {a b} hne d hd d' hd' heq => hne ?_
  rw [← (source_eq_of_mem_edgesFrom hd).1, ← (source_eq_of_mem_edgesFrom hd').1]
  exact (compare_dependency_eq_iff.1 heq).1

end Stream

/-! ### Groups -/

section Groups

variable (groups : OrderedMap Element (OrderedSet Dependency))

theorem get?_group (d : Dependency) (e : Element) :
    (group groups d).get? e =
      if compare e d.source = .eq then some (((groups.get? e).getD ∅).insert d) else groups.get? e := by
  rw [group, OrderedMap.get?_upsert]
  split
  · rename_i heq
    rw [OrderedMap.get?_congr heq]
  · rfl

theorem isSome_get?_foldl_group (ds : List Dependency) (e : Element) :
    ((ds.foldl group groups).get? e).isSome ↔
      (groups.get? e).isSome ∨ ∃ d ∈ ds, compare e d.source = .eq := by
  induction ds generalizing groups with
  | nil => simp
  | cons d ds ih =>
    rw [List.foldl_cons, ih, get?_group]
    by_cases heq : compare e d.source = .eq <;> simp [heq]

theorem contains_foldl_group (ds : List Dependency) (e : Element) (x : Dependency) :
    (((ds.foldl group groups).get? e).getD ∅).contains x ↔
      ((groups.get? e).getD ∅).contains x ∨
        ∃ d ∈ ds, compare e d.source = .eq ∧ compare x d = .eq := by
  induction ds generalizing groups with
  | nil => simp
  | cons d ds ih =>
    rw [List.foldl_cons, ih, get?_group]
    by_cases heq : compare e d.source = .eq
    · simp only [heq, if_true, Option.getD_some, OrderedSet.contains_insert, List.mem_cons,
        exists_eq_or_imp, true_and]
      grind
    · simp [heq]

end Groups

/-! ### Exactness -/

/-- What is to be said of the stream of dependencies of sources, where `passed` gives what each of them
passes on. Sources, targets and dependencies are one if they compare equal. -/
structure StreamsExactly (elements : List Element) (facts : Path → Facts) (sources : List Element)
    (passed : Element → List Dependency) : Prop where
  each : ∀ source ∈ sources,
    PassesExactly elements (facts source.file).references source (passed source)
  stream : ∀ {σ : Type} (sink : σ → Dependency → σ) (start : σ),
    (ofList elements).forEach facts sink sources start =
      ((sources.flatMap passed).foldl sink start, (sources.flatMap passed).length)
  distinct : sources.Pairwise (compare · · ≠ .eq) →
    (sources.flatMap passed).Pairwise (compare · · ≠ .eq)
  keys : ∀ e, (((ofList elements).dependencies facts sources).get? e).isSome ↔
    ∃ source ∈ sources, compare e source = .eq ∧ passed source ≠ []
  values : ∀ e set, ((ofList elements).dependencies facts sources).get? e = some set →
    ∀ d, set.contains d ↔
      compare e d.source = .eq ∧ ∃ x ∈ sources.flatMap passed, compare d x = .eq

/-- Whatever elements are indexed and whatever their files refer to, streams of dependencies are
exact. -/
theorem exists_streamsExactly (elements : List Element) (facts : Path → Facts)
    (sources : List Element) : ∃ passed, StreamsExactly elements facts sources passed := by
  have hdependencies : (ofList elements).dependencies facts sources =
      ((ofList elements).edges facts sources).foldl group ∅ := by
    rw [dependencies, forEach_eq]
  refine ⟨fun source => (ofList elements).edgesFrom (facts source.file).references source, ?_⟩
  constructor
  · exact fun source _ => passesExactly_edgesFrom
  · exact fun sink start => forEach_eq _ facts sink sources start
  · exact pairwise_edges _ facts
  · intro e
    rw [hdependencies, isSome_get?_foldl_group, edges]
    simp only [OrderedMap.get?_empty, Option.isSome_none, Bool.false_eq_true, false_or,
      List.mem_flatMap]
    constructor
    · rintro ⟨d, ⟨source, hsource, hd⟩, heq⟩
      rw [(asked_of_mem_edgesFrom hd).1] at heq
      exact ⟨source, hsource, heq, List.ne_nil_of_mem hd⟩
    · rintro ⟨source, hsource, heq, hne⟩
      obtain ⟨d, hd⟩ := List.exists_mem_of_ne_nil _ hne
      exact ⟨d, ⟨source, hsource, hd⟩, by rwa [(asked_of_mem_edgesFrom hd).1]⟩
  · intro e set hset d
    have hcontains := contains_foldl_group ∅ ((ofList elements).edges facts sources) e d
    rw [← hdependencies, hset, Option.getD_some, OrderedMap.get?_empty, Option.getD_none,
      OrderedSet.contains_empty] at hcontains
    rw [hcontains]
    simp only [Bool.false_eq_true, false_or]
    -- The group of `e` holds the dependencies of the sources that compare equal to `e`.
    constructor
    · rintro ⟨x, hx, hex, hdx⟩
      have hsources := Std.OrientedCmp.eq_symm (compare_dependency_eq_iff.1 hdx).1
      exact ⟨Std.TransCmp.eq_trans hex hsources, x, hx, hdx⟩
    · rintro ⟨hed, x, hx, hdx⟩
      have hsources := (compare_dependency_eq_iff.1 hdx).1
      exact ⟨x, hx, Std.TransCmp.eq_trans hed hsources, hdx⟩

section Example

/-- A class, the same class by another spelling of its path, and a nested class of the same short
name. -/
def namesakes : List Element :=
  [⟨⟨"/p/a.py"⟩, "A", .cls, 1, 1⟩, ⟨⟨"/p//a.py"⟩, "A", .cls, 1, 1⟩, ⟨⟨"b.py"⟩, "B.A", .cls, 2, 5⟩]

/-- Each of the three sources passes two targets on two lines; two of the sources are one. -/
example : let facts (_ : Path) : Facts := { references :=
      [⟨.fromImport, "A", 1⟩, ⟨.call, "A", 4⟩, ⟨.name, "A", 4⟩, ⟨.attribute, "B.A", 4⟩] }
    (ofList namesakes).forEach facts (fun n _ => n + 1) namesakes 0 = (12, 12) ∧
      ((ofList namesakes).dependencies facts namesakes).entries.map
        (fun group => (group.1.name, group.2.size)) = [("A", 4), ("B.A", 4)] := by
  decide +kernel

end Example

end LayerCheck.NameIndex
