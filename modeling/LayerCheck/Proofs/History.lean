import LayerCheck.Analysis
import LayerCheck.Proofs.Layer
import LayerCheck.Proofs.NameIndex
import Mathlib.Data.Finset.Card

/-!
Histories of a cache. Between two requests files may be made, edited and removed; of every path the
cache keeps what the first request for it has read. So the elements of layers and the dependencies
between them rest on one read of each file, even if files have changed since they were collected.
-/

namespace LayerCheck

theorem Path.compare_eq_iff {p q : Path} : compare p q = .eq ↔ p.components = q.components := by
  change compare p.components q.components = .eq ↔ _
  exact Std.LawfulEqOrd.compare_eq_iff_eq

/-! ### Requests -/

/-- A request for the facts of a path, with the files as they are at that moment. -/
structure Request where
  files : Snapshot
  path : Path

namespace Request

/-- What a read gives at the moment of a request: the facts of a module, and no facts at all where there
is no module to read. -/
inductive Reads (r : Request) : Facts → Prop where
  | module {text : String} {m : Syntax.Module} (h : r.files.module r.path = .ok (text, m)) :
      Reads r (.ofModule m)
  | nothing {e : SourceError} (h : r.files.module r.path = .error e) : Reads r {}

def facts (r : Request) : Facts :=
  r.files.facts r.path

theorem reads_iff {r : Request} {facts : Facts} : r.Reads facts ↔ facts = r.facts := by
  unfold Request.facts Snapshot.facts
  constructor
  · rintro (h | h) <;> simp [h]
  · rintro rfl
    split
    · rename_i text m h
      exact .module h
    · rename_i e h
      exact .nothing h

/-- The first request of a history for a path. Paths with the same components are one path. -/
def first? (history : List Request) (p : Path) : Option Request :=
  history.find? fun r => compare p r.path == .eq

/-- The facts of a path are those that the first request for it has read. -/
def FirstRead (history : List Request) (p : Path) (facts : Facts) : Prop :=
  ∃ first, first? history p = some first ∧ first.Reads facts

theorem firstRead_iff {history : List Request} {p : Path} {facts : Facts} :
    FirstRead history p facts ↔ (first? history p).map Request.facts = some facts := by
  simp only [FirstRead, reads_iff, Option.map_eq_some_iff, @eq_comm _ facts]

end Request

/-! ### One request -/

namespace Cache

/-- The paths that a cache knows, by their components. -/
def known (c : Cache) : Finset (List Component) :=
  (c.modules.keys.map Path.components).toFinset

variable {c : Cache} {s : Snapshot} {p : Path}

theorem exists_of_mem_known {x : List Component} (h : x ∈ c.known) :
    ∃ k ∈ c.modules.keys, k.components = x := by
  simpa [known] using h

theorem mem_known_iff : p.components ∈ c.known ↔ ∃ facts, c.modules.get? p = some facts := by
  simp only [known, List.mem_toFinset, List.mem_map]
  constructor
  · rintro ⟨k, hk, hcomponents⟩
    obtain ⟨⟨k, facts⟩, hmem, rfl⟩ := List.mem_map.1 hk
    refine ⟨facts, ?_⟩
    rw [OrderedMap.get?_congr (Path.compare_eq_iff.2 hcomponents.symm)]
    exact OrderedMap.get?_of_mem hmem
  · rintro ⟨facts, hfacts⟩
    obtain ⟨k, hk, hmem⟩ := OrderedMap.exists_of_get? hfacts
    exact ⟨k, OrderedMap.mem_keys_of_mem hmem, (Path.compare_eq_iff.1 hk).symm⟩

theorem get_of_some {facts : Facts} (h : c.modules.get? p = some facts) : c.get s p = (facts, c) := by
  simp [get, h]

theorem get_of_none (h : c.modules.get? p = none) :
    c.get s p = (s.facts p, ⟨c.modules.insert p (s.facts p), c.parseCount + 1⟩) := by
  simp [get, h]

theorem fst_get (c : Cache) (s : Snapshot) (p : Path) :
    (c.get s p).1 = (c.modules.get? p).getD (s.facts p) := by
  cases h : c.modules.get? p with
  | none => rw [get_of_none h, Option.getD_none]
  | some facts => rw [get_of_some h, Option.getD_some]

/-- What a cache knows stays; a path that is new to it gets the facts of this moment. -/
theorem get?_snd_get (c : Cache) (s : Snapshot) (p q : Path) :
    (c.get s p).2.modules.get? q =
      (c.modules.get? q).or (if compare q p = .eq then some (s.facts p) else none) := by
  cases h : c.modules.get? p with
  | none =>
    rw [get_of_none h, OrderedMap.get?_insert]
    split
    · rename_i heq
      rw [OrderedMap.get?_congr heq, h, Option.none_or]
    · rw [Option.or_none]
  | some facts =>
    rw [get_of_some h]
    split
    · rename_i heq
      rw [OrderedMap.get?_congr heq, h, Option.some_or]
    · rw [Option.or_none]

theorem known_get (c : Cache) (s : Snapshot) (p : Path) :
    (c.get s p).2.known = insert p.components c.known := by
  have hsame (k : Path) : k.components ∈ (c.get s p).2.known ↔
      k.components = p.components ∨ k.components ∈ c.known := by
    simp only [mem_known_iff, get?_snd_get, ← Path.compare_eq_iff]
    cases c.modules.get? k with
    | none => simp
    | some facts => simp
  ext x
  rw [Finset.mem_insert]
  constructor
  · intro h
    obtain ⟨k, -, rfl⟩ := exists_of_mem_known h
    exact (hsame k).1 h
  · rintro (rfl | h)
    · exact (hsame p).2 (.inl rfl)
    · obtain ⟨k, -, rfl⟩ := exists_of_mem_known h
      exact (hsame k).2 (.inr h)

theorem parseCount_get (c : Cache) (s : Snapshot) (p : Path) :
    (c.get s p).2.parseCount + c.known.card = c.parseCount + (c.get s p).2.known.card := by
  rw [known_get]
  cases h : c.modules.get? p with
  | none =>
    have hnew : p.components ∉ c.known := by simp [mem_known_iff, h]
    have hcount : (c.get s p).2.parseCount = c.parseCount + 1 := by rw [get_of_none h]
    rw [hcount, Finset.card_insert_of_notMem hnew]
    omega
  | some facts =>
    have hold : p.components ∈ c.known := mem_known_iff.2 ⟨facts, h⟩
    rw [get_of_some h, Finset.insert_eq_of_mem hold]

/-! ### Histories -/

/-- The cache after a history of requests. -/
def after (c : Cache) (history : List Request) : Cache :=
  history.foldl (fun c r => (c.get r.files r.path).2) c

/-- The answers to a history of requests, one after the other. -/
def answers (c : Cache) : List Request → List Facts
  | [] => []
  | r :: rest => (c.get r.files r.path).1 :: answers (c.get r.files r.path).2 rest

theorem after_cons (c : Cache) (r : Request) (history : List Request) :
    c.after (r :: history) = (c.get r.files r.path).2.after history := rfl

theorem after_append (c : Cache) (history more : List Request) :
    c.after (history ++ more) = (c.after history).after more :=
  List.foldl_append

/-- Asking for paths while nothing changes is a history too. -/
theorem load_eq_after (c : Cache) (s : Snapshot) (paths : List Path) :
    c.load s paths = c.after (paths.map (⟨s, ·⟩)) := by
  rw [load, after, List.foldl_map]

/-- After a history a cache knows what it knew before, and of other paths what was read first. -/
theorem get?_after (c : Cache) (history : List Request) (p : Path) :
    (c.after history).modules.get? p =
      (c.modules.get? p).or ((Request.first? history p).map Request.facts) := by
  induction history generalizing c with
  | nil => simp [after, Request.first?]
  | cons r history ih =>
    rw [after_cons, ih, get?_snd_get, Option.or_assoc]
    congr 1
    by_cases h : compare p r.path = .eq
    · simp [Request.first?, h, Request.facts]
    · simp [Request.first?, h]

theorem known_after (c : Cache) (history : List Request) :
    (c.after history).known = c.known ∪ (history.map (·.path.components)).toFinset := by
  induction history generalizing c with
  | nil => simp [after]
  | cons r history ih =>
    rw [after_cons, ih, known_get, List.map_cons, List.toFinset_cons, Finset.insert_union,
      Finset.union_insert]

/-- A file is read for every path that becomes known, and for no other request. -/
theorem parseCount_after (c : Cache) (history : List Request) :
    (c.after history).parseCount + c.known.card = c.parseCount + (c.after history).known.card := by
  induction history generalizing c with
  | nil => rfl
  | cons r history ih =>
    have hfirst := parseCount_get c r.files r.path
    have hrest := ih (c.get r.files r.path).2
    rw [after_cons]
    omega

/-- Each answer is what the cache holds in the end. -/
theorem answers_eq (c : Cache) (history : List Request) :
    c.answers history = history.map fun r => (c.after history).facts r.path := by
  induction history generalizing c with
  | nil => rfl
  | cons r history ih =>
    have hnow : (c.after (r :: history)).facts r.path = (c.get r.files r.path).1 := by
      rw [facts, after_cons, get?_after, get?_snd_get, if_pos Std.ReflCmp.compare_self, fst_get]
      cases c.modules.get? r.path with
      | none => rfl
      | some facts => rfl
    rw [answers, ih, List.map_cons, hnow, after_cons]

theorem exists_get?_load {paths : List Path} (h : p ∈ paths) :
    ∃ facts, (c.load s paths).modules.get? p = some facts := by
  rw [← mem_known_iff, load_eq_after, known_after, Finset.mem_union, List.mem_toFinset]
  exact .inr (List.mem_map.2 ⟨⟨s, p⟩, List.mem_map_of_mem h, rfl⟩)

/-- A cache that knows all paths of a history learns nothing from it. -/
theorem parseCount_after_of_known {history : List Request}
    (h : ∀ r ∈ history, r.path.components ∈ c.known) :
    (c.after history).parseCount = c.parseCount := by
  have hknown : (c.after history).known = c.known := by
    rw [known_after, Finset.union_eq_left]
    intro x hx
    obtain ⟨r, hr, rfl⟩ := List.mem_map.1 (List.mem_toFinset.1 hx)
    exact h r hr
  have hcount := parseCount_after c history
  rw [hknown] at hcount
  omega

/-- The cache has a definition for the element, in the file of the element. -/
def Grounds (c : Cache) (e : Element) : Prop :=
  ∃ facts, c.modules.get? e.file = some facts ∧ ∃ d ∈ facts.definitions, e = d.toElement e.file

theorem Grounds.after {e : Element} (h : c.Grounds e) (history : List Request) :
    (c.after history).Grounds e := by
  obtain ⟨facts, hfacts, hd⟩ := h
  exact ⟨facts, by rw [get?_after, hfacts, Option.some_or], hd⟩

end Cache

/-! ### Layers assembled through a cache -/

/-- Whatever is collected is a definition of a file that was asked for, and is kept under its path. -/
theorem Collector.exists_request_of_mem_collect {scope : Scope} {s : Snapshot} {facts : Path → Facts}
    {k : Collector} {e : Element} (h : e ∈ k.collect scope s facts) :
    ∃ p ∈ k.requests scope s, ∃ d ∈ (facts p).definitions, e = d.toElement p := by
  induction k with
  | leaf l =>
    obtain ⟨f, hf, d, hd, -, rfl⟩ := Leaf.mem_collect.1 h
    exact ⟨f.path, List.mem_map_of_mem hf, d, hd, rfl⟩
  | bool must anyOf mustNot hmust hanyOf hmustNot =>
    have hpart (k : Collector) (hk : k ∈ must ++ anyOf ++ mustNot)
        (h : ∃ p ∈ k.requests scope s, ∃ d ∈ (facts p).definitions, e = d.toElement p) :
        ∃ p ∈ (bool must anyOf mustNot).requests scope s,
          ∃ d ∈ (facts p).definitions, e = d.toElement p := by
      obtain ⟨p, hp, hd⟩ := h
      exact ⟨p, mem_requests_bool.2 (.inl ⟨k, hk, hp⟩), hd⟩
    obtain ⟨huniverse, hall, hsome, -⟩ := mem_collect_bool.1 h
    -- The universe is asked for just if neither `must` nor `anyOf` has a part.
    cases must with
    | cons k ks => exact hpart k (by simp) (hmust k List.mem_cons_self (hall k List.mem_cons_self))
    | nil =>
      rcases hsome with rfl | ⟨k, hk, hek⟩
      · obtain ⟨f, hf, d, hd, rfl⟩ := Scope.mem_universe.1 (huniverse rfl rfl)
        exact ⟨f.path, mem_requests_bool.2 (.inr ⟨rfl, rfl, f, hf, rfl⟩), d, hd, rfl⟩
      · exact hpart k (by simp [hk]) (hanyOf k hk hek)

namespace Layers

variable {scope : Scope} {s : Snapshot} {cache : Cache}

/-- A layer whose elements have definitions in the cache. -/
structure Grounded (cache : Cache) (l : Layer) : Prop where
  canonical : IsCanonical l
  grounds : ∀ e ∈ l.elements, cache.Grounds e

theorem Grounded.load {l : Layer} (h : Grounded cache l) (s : Snapshot) (paths : List Path) :
    Grounded (cache.load s paths) l where
  canonical := h.canonical
  grounds e he := by
    rw [Cache.load_eq_after]
    exact (h.grounds e he).after _

theorem grounded_fill (cache : Cache) (name : String) (ks : List Collector) :
    Grounded (cache.load s (Collector.requestsOfEach scope s ks))
      (fill scope s (cache.load s (Collector.requestsOfEach scope s ks)).facts name ks) where
  canonical := isCanonical_fill
  grounds e he := by
    obtain ⟨k, hk, he⟩ := mem_elements_fill.1 he
    obtain ⟨p, hp, d, hd, rfl⟩ := Collector.exists_request_of_mem_collect he
    have hasked : p ∈ Collector.requestsOfEach scope s ks := by
      rw [Collector.requestsOfEach_eq_flatMap]
      exact List.mem_flatMap.2 ⟨k, hk, hp⟩
    obtain ⟨facts, hfacts⟩ := Cache.exists_get?_load (c := cache) (s := s) hasked
    rw [Cache.facts, hfacts, Option.getD_some] at hd
    exact ⟨facts, hfacts, d, hd, rfl⟩

/-- Assembling layers asks the cache for some paths, those of all elements among them. -/
theorem exists_load_of_assembleFrom {done : List Layer} {entries : List LayerEntry} {layers : Layers}
    {cache' : Cache} (hdone : ∀ l ∈ done, Grounded cache l)
    (h : assembleFrom scope s done cache entries = (.ok layers, cache')) :
    ∃ paths, cache' = cache.load s paths ∧ ∃ filled, layers = ofLayers filled ∧
      ∀ l ∈ filled, Grounded cache' l := by
  induction entries generalizing cache done with
  | nil =>
    obtain ⟨hlayers, rfl⟩ := Prod.mk.inj h
    exact ⟨[], rfl, done, (Except.ok.inj hlayers).symm, hdone⟩
  | cons entry entries ih =>
    rw [assembleFrom] at h
    split at h
    · simp at h
    · rename_i ks _
      dsimp only at h
      have hnext : ∀ l ∈ done ++ [fill scope s
            (cache.load s (Collector.requestsOfEach scope s ks)).facts entry.name ks],
          Grounded (cache.load s (Collector.requestsOfEach scope s ks)) l := by
        intro l hl
        rcases List.mem_append.1 hl with hl | hl
        · exact (hdone l hl).load s _
        · rw [List.mem_singleton.1 hl]
          exact grounded_fill cache entry.name ks
      obtain ⟨paths, hcache, hfilled⟩ := ih hnext h
      refine ⟨Collector.requestsOfEach scope s ks ++ paths, ?_, hfilled⟩
      rw [hcache, Cache.load, Cache.load, Cache.load, List.foldl_append]

/-! ### One read for elements and dependencies -/

/-- The elements of layers and the dependencies that a later cache gives for them come from the reads
of a history: for each element one read has its definition and the references of its file. -/
structure ShareReads (layers : Layers) (history : List Request) (later : Cache) : Prop where
  count : later.parseCount = (Cache.after {} history).parseCount
  read : ∀ e ∈ layers.elements, ∃ facts, Request.FirstRead history e.file facts ∧
    (∃ d ∈ facts.definitions, e = d.toElement e.file) ∧
    ∀ target line,
      ⟨e, target, line⟩ ∈ (NameIndex.ofList layers.elements).edges later.facts layers.elements ↔
        target ∈ layers.elements ∧
          ∃ r ∈ facts.references, r.line = line ∧ r.probe = target.shortName

theorem shareReads_of_grounded {filled : List Layer} {history analysing : List Request}
    (hfilled : ∀ l ∈ filled, Grounded (Cache.after {} history) l)
    (hanalysing : analysing.map (·.path) = Analysis.requests (ofLayers filled).elements) :
    (ofLayers filled).ShareReads history ((Cache.after {} history).after analysing) := by
  have hlayers : ∀ l ∈ filled, IsCanonical l := fun l hl => (hfilled l hl).canonical
  have hcanonical := isCanonical_of_mem_elements hlayers
  have hgrounds : ∀ e ∈ (ofLayers filled).elements, (Cache.after {} history).Grounds e := by
    intro e he
    obtain ⟨l, hl, he⟩ := (mem_elements_ofLayers hlayers).1 he
    exact (hfilled l hl).grounds e he
  constructor
  · refine Cache.parseCount_after_of_known fun r hr => ?_
    have hpath : r.path ∈ Analysis.requests (ofLayers filled).elements :=
      hanalysing ▸ List.mem_map_of_mem hr
    obtain ⟨e, he, hfile⟩ := List.mem_map.1 hpath
    obtain ⟨facts, hfacts, -⟩ := hgrounds e he
    exact Cache.mem_known_iff.2 ⟨facts, hfile ▸ hfacts⟩
  · intro e he
    obtain ⟨facts, hfacts, hd⟩ := hgrounds e he
    have hlater : ((Cache.after {} history).after analysing).facts e.file = facts := by
      rw [Cache.facts, Cache.get?_after, hfacts, Option.some_or, Option.getD_some]
    refine ⟨facts, ?_, hd, fun target line => ?_⟩
    · rw [Request.firstRead_iff, ← hfacts, Cache.get?_after, OrderedMap.get?_empty, Option.none_or]
    · rw [NameIndex.mem_edges hcanonical hcanonical, hlater]
      simp [he]

end Layers

/-- Every answer to a history is what the first request for its path has read, and there were as many
reads as there are different paths. -/
structure Cache.ReadsOnce (history : List Request) : Prop where
  answers : List.Forall₂ (fun r facts => Request.FirstRead history r.path facts) history
    (Cache.answers {} history)
  count : (Cache.after {} history).parseCount = (history.map (·.path.components)).toFinset.card

theorem Cache.readsOnce (history : List Request) : ReadsOnce history where
  answers := by
    rw [answers_eq, List.forall₂_map_right_iff, List.forall₂_same]
    intro r hr
    have hsome : (Request.first? history r.path).isSome := by
      rw [Request.first?, List.find?_isSome]
      exact ⟨r, hr, by simp [Std.ReflCmp.compare_self]⟩
    obtain ⟨first, hfirst⟩ := Option.isSome_iff_exists.1 hsome
    rw [Request.firstRead_iff, Cache.facts, get?_after, OrderedMap.get?_empty, Option.none_or, hfirst]
    rfl
  count := by
    have hempty : known {} = ∅ := rfl
    have hcount := parseCount_after {} history
    rwa [known_after, hempty, Finset.empty_union, Finset.card_empty, Nat.add_zero, Nat.zero_add]
      at hcount

/-- A cache reads each path once, whatever happens to the files between requests. So once layers are
assembled through a cache, finding the dependencies of their elements reads no file, and each element
and its dependencies come from one read, whatever the files have become. -/
theorem Cache.one_read_of_each_path :
    (∀ history : List Request, ReadsOnce history) ∧
      ∀ (scope : Scope) (s : Snapshot) (earlier : List Request) (entries : List LayerEntry)
        (layers : Layers) (cache : Cache),
        Layers.assemble scope s (Cache.after {} earlier) entries = (.ok layers, cache) →
        ∃ collecting : List Request, (∀ r ∈ collecting, r.files = s) ∧
          cache = Cache.after {} (earlier ++ collecting) ∧
          ∀ analysing : List Request, analysing.map (·.path) = Analysis.requests layers.elements →
            layers.ShareReads (earlier ++ collecting) (cache.after analysing) := by
  refine ⟨readsOnce, fun scope s earlier entries layers cache h => ?_⟩
  obtain ⟨paths, hcache, filled, rfl, hfilled⟩ := Layers.exists_load_of_assembleFrom (by simp) h
  rw [load_eq_after, ← after_append] at hcache
  subst hcache
  refine ⟨paths.map (⟨s, ·⟩), by simp, rfl, fun analysing hanalysing => ?_⟩
  exact Layers.shareReads_of_grounded hfilled hanalysing

namespace Vanishing

/-- A project with a class that its own file refers to. -/
def snapshot : Snapshot :=
  ((({} : Snapshot).set ["p"] .directory).set ["p", "a.py"]
    (.file (some "class A: pass\nA\n"))).set ["p", "b.py"] (.file (some "import a\n"))

def entries : List LayerEntry :=
  [⟨"all", [⟨"class_name_regex", .ofList [("class_name_regex", .text "A")]⟩]⟩]

/-- A request for one of the files, in another spelling, before anything is collected. -/
def earlier : List Request :=
  [⟨snapshot, ⟨"/p//b.py"⟩⟩]

/-- Requests after all files are gone. -/
def analysing (paths : List Path) : List Request :=
  paths.map (⟨{}, ·⟩)

theorem one_read_before_vanishing : ∃ layers cache,
    Layers.assemble ⟨[["p"]], []⟩ snapshot (Cache.after {} earlier) entries = (.ok layers, cache) ∧
    (cache.parseCount = 2 ∧ layers.elements.map (·.name) = ["A"] ∧
      ((NameIndex.ofList layers.elements).edges
        (cache.after (analysing (Analysis.requests layers.elements))).facts
        layers.elements).map (·.line) = [2]) ∧
    ∃ collecting : List Request, (∀ r ∈ collecting, r.files = snapshot) ∧
      layers.ShareReads (earlier ++ collecting)
        (cache.after (analysing (Analysis.requests layers.elements))) := by
  have hvalue : (Layers.assemble ⟨[["p"]], []⟩ snapshot (Cache.after {} earlier) entries).1.toOption.map
      (fun layers =>
        let cache := (Layers.assemble ⟨[["p"]], []⟩ snapshot (Cache.after {} earlier) entries).2
        (cache.parseCount, layers.elements.map (·.name),
          ((NameIndex.ofList layers.elements).edges
            (cache.after (analysing (Analysis.requests layers.elements))).facts
            layers.elements).map (·.line))) =
      some (2, ["A"], [2]) := by
    decide +kernel
  cases h : Layers.assemble ⟨[["p"]], []⟩ snapshot (Cache.after {} earlier) entries with
  | mk result cache =>
    cases result with
    | error e => simp [h, Except.toOption] at hvalue
    | ok layers =>
      obtain ⟨collecting, hcollecting, -, hshare⟩ :=
        Cache.one_read_of_each_path.2 _ _ _ _ layers cache h
      refine ⟨layers, cache, rfl, by simpa [h, Except.toOption] using hvalue, collecting, hcollecting,
        hshare _ ?_⟩
      rw [analysing, List.map_map]
      exact List.map_id _

end Vanishing

end LayerCheck
