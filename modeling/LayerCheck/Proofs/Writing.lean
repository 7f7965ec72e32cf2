import LayerCheck.Proofs.Snapshot

/-!
Texts that are written to a path. Whatever a snapshot holds stays where it is, so a text that was
written is read again at its path, and nothing but the file that the path leads to has changed.
-/

namespace LayerCheck.Snapshot

variable {s s' : Snapshot}

/-! ### Snapshots that grow -/

/-- Everything stays where it is. Files may have another text, and there may be more of them. -/
structure Grows (s s' : Snapshot) : Prop where
  working : s'.working = s.working
  directory : ∀ p, s.isDirectory p → s'.isDirectory p
  link : ∀ p target, s.get? p = some (.link target) → s'.get? p = some (.link target)
  file : ∀ p text, s.get? p = some (.file text) → ∃ text', s'.get? p = some (.file text')

theorem Resolves.of_grows {links left : Nat} {here place : Place} {path : List String}
    (h : s.Resolves links here path place left) (hs : s.Grows s') :
    s'.Resolves links here path place left := by
  induction h with
  | arrived => exact .arrived
  | stay hdir hname _ ih => exact .stay (hs.directory _ hdir) hname ih
  | up hdir _ ih => exact .up (hs.directory _ hdir) ih
  | @down _ _ here _ name _ node hdir hname hget hlink _ ih =>
    cases node with
    | link target => exact absurd rfl (hlink target)
    | directory =>
      have hnext : s'.isDirectory (here ++ [name]) := hs.directory _ (by simp [isDirectory, hget])
      exact .down (hs.directory _ hdir) hname (by simpa [isDirectory] using hnext) (by simp) ih
    | file text =>
      obtain ⟨text', hget'⟩ := hs.file _ text hget
      exact .down (hs.directory _ hdir) hname hget' (by simp) ih
  | through hdir hname hget hstart _ ih =>
    exact .through (hs.directory _ hdir) hname (hs.link _ _ hget) hstart ih

theorem grows_set {p : Place} {text : Option String} (h : s.admits p (.file text))
    (hlink : ∀ target, s.get? p ≠ some (.link target)) : s.Grows (s.set p (.file text)) where
  working := working_set s p _
  directory q hq := by rwa [isDirectory_set h]
  link q target hq := by
    rw [get?_set h, if_neg]
    · exact hq
    · rintro rfl
      exact hlink target hq
  file q found hq := by
    rw [get?_set h]
    split
    · exact ⟨text, rfl⟩
    · exact ⟨found, hq⟩

/-! ### Places to write to -/

/-- A place is free in a directory: at the end of a way, or where the link at its end leads to. -/
theorem freePlace?_cases {fuel links : Nat} {here place : Place} {path : List String}
    (h : s.freePlace? (fuel + 1) links here path = some place) :
    ∃ directory left start name, path = start ++ [name] ∧ s.Resolves links here start directory left ∧
      s.isDirectory directory ∧ isEntryName name ∧
      (s.get? (directory ++ [name]) = none ∧ place = directory ++ [name] ∨
        ∃ target first segments fewer, s.get? (directory ++ [name]) = some (.link target) ∧
          left = fewer + 1 ∧ start? directory target = some (first, segments) ∧
          s.freePlace? fuel fewer first segments = some place) := by
  rw [freePlace?] at h
  split at h
  · contradiction
  rename_i directory left hresolve
  dsimp only at h
  split at h
  · rename_i hcond
    obtain ⟨hdirectory, hname⟩ := Bool.and_eq_true_iff.1 hcond
    have hne : path ≠ [] := by
      rintro rfl
      simp [isEntryName] at hname
    have hpath : path = path.dropLast ++ [path.getLastD ""] := by
      simp [List.getLast?_eq_some_getLast hne, List.dropLast_append_getLast hne]
    refine ⟨directory, left, path.dropLast, path.getLastD "", hpath, resolves_of_resolve? hresolve,
      hdirectory, hname, ?_⟩
    split at h
    · rename_i hfree
      exact .inl ⟨hfree, (Option.some.inj h).symm⟩
    · rename_i target fewer hlink
      obtain ⟨⟨first, segments⟩, hstart, hrest⟩ := Option.bind_eq_some_iff.1 h
      exact .inr ⟨target, first, segments, fewer, hlink, rfl, hstart, hrest⟩
    · contradiction
  · contradiction

theorem free_of_freePlace? {fuel links : Nat} {here place : Place} {path : List String}
    (h : s.freePlace? fuel links here path = some place) :
    s.get? place = none ∧ ∃ directory name,
      place = directory ++ [name] ∧ s.isDirectory directory ∧ isEntryName name := by
  induction fuel generalizing links here path with
  | zero => contradiction
  | succ fuel ih =>
    obtain ⟨directory, left, start, name, -, -, hdirectory, hname, hfree | hlink⟩ :=
      freePlace?_cases h
    · obtain ⟨hnone, rfl⟩ := hfree
      exact ⟨hnone, directory, name, rfl, hdirectory, hname⟩
    · obtain ⟨target, first, segments, fewer, -, -, -, hrest⟩ := hlink
      exact ih hrest

/-- Once there is a file at the place, the way leads to it. -/
theorem resolves_of_freePlace? {fuel links : Nat} {here place : Place} {path : List String}
    {text : Option String} (h : s.freePlace? fuel links here path = some place) (hs : s.Grows s')
    (hfile : s'.get? place = some (.file text)) : ∃ left, s'.Resolves links here path place left := by
  induction fuel generalizing links here path with
  | zero => contradiction
  | succ fuel ih =>
    obtain ⟨directory, left, start, name, rfl, hstart, hdirectory, hname, hend⟩ := freePlace?_cases h
    obtain ⟨hempty, hdot, hdots, -⟩ := isEntryName_iff.1 hname
    have hdirectory := hs.directory directory hdirectory
    have hway := hstart.of_grows hs
    rcases hend with ⟨-, rfl⟩ | ⟨target, first, segments, fewer, hlink, rfl, hsegments, hrest⟩
    · have hlast : s'.Resolves left directory [name] (directory ++ [name]) left :=
        .down hdirectory ⟨hempty, hdot, hdots⟩ hfile (by simp) .arrived
      exact ⟨left, hway.append hlast⟩
    · obtain ⟨fewest, hrest⟩ := ih hrest
      have hlast : s'.Resolves (fewer + 1) directory [name] place fewest :=
        .through hdirectory ⟨hempty, hdot, hdots⟩ (hs.link _ _ hlink) hsegments (by simpa using hrest)
      exact ⟨fewest, hway.append hlast⟩

theorem admits_file {directory : Place} {name : String} (hdirectory : s.isDirectory directory)
    (hname : isEntryName name) (hother : s.isDirectory (directory ++ [name]) = false)
    (text : Option String) : s.admits (directory ++ [name]) (.file text) := by
  simp [admits, hname, hdirectory, hother]

theorem admits_of_get?_file {p : Place} {found : Option String} (h : s.get? p = some (.file found))
    (text : Option String) : s.admits p (.file text) := by
  have hne : p ≠ [] := by
    rintro rfl
    simp [get?] at h
  obtain ⟨directory, name, rfl⟩ : ∃ directory name, p = directory ++ [name] :=
    ⟨p.dropLast, p.getLast hne, (List.dropLast_append_getLast hne).symm⟩
  have hname : isEntryName name := named_of_get? h name (by simp)
  have hdirectory : s.isDirectory directory := isDirectory_of_get?_append (by simp) h
  exact admits_file hdirectory hname (by simp [isDirectory, h]) text

/-- A text that is written goes to the place that its path leads to from then on. -/
theorem writePlace?_spec {p : Path} {place : Place} (h : s.writePlace? p = some place)
    (text : Option String) :
    s.admits place (.file text) ∧ (s.set place (.file text)).place? p = some place := by
  unfold writePlace? at h
  split at h
  · rename_i found hplace
    split at h
    · rename_i old hfile
      obtain rfl := Option.some.inj h
      have hadmits := admits_of_get?_file hfile text
      have hgrows := grows_set hadmits (by simp [hfile])
      obtain ⟨first, segments, left, hstart, hway⟩ := place?_eq_some_iff.1 hplace
      rw [← hgrows.working] at hstart
      exact ⟨hadmits, place?_eq_some_iff.2 ⟨first, segments, left, hstart, hway.of_grows hgrows⟩⟩
    · contradiction
  · obtain ⟨⟨first, segments⟩, hstart, hfree⟩ := Option.bind_eq_some_iff.1 h
    obtain ⟨hnone, directory, name, rfl, hdirectory, hname⟩ := free_of_freePlace? hfree
    have hadmits := admits_file hdirectory hname (by simp [isDirectory, hnone]) text
    have hgrows := grows_set hadmits (by simp [hnone])
    have hfile : (s.set (directory ++ [name]) (.file text)).get? (directory ++ [name]) =
        some (.file text) := by
      rw [get?_set hadmits, if_pos rfl]
    obtain ⟨left, hway⟩ := resolves_of_freePlace? hfree hgrows hfile
    rw [← hgrows.working] at hstart
    exact ⟨hadmits, place?_eq_some_iff.2 ⟨first, segments, left, hstart, hway⟩⟩

/-- The text is in the file that the path leads to, and nothing else has changed. -/
structure Written (s s' : Snapshot) (p : Path) (text : String) : Prop where
  text : s'.read? p = some text
  working : s'.working = s.working
  others : ∃ place, s'.place? p = some place ∧ ∀ q, q ≠ place → s'.get? q = s.get? q

theorem written_of_write? {p : Path} {text : String} (h : s.write? p text = some s') :
    s.Written s' p text := by
  obtain ⟨place, hplace, rfl⟩ := Option.map_eq_some_iff.1 h
  obtain ⟨hadmits, hleads⟩ := writePlace?_spec hplace (some text)
  have hget (q : Place) := get?_set (q := q) hadmits
  refine ⟨?_, working_set s place _, place, hleads, fun q hq => ?_⟩
  · simp [read?, node?, hleads, hget]
  · rw [hget, if_neg hq]

end LayerCheck.Snapshot
