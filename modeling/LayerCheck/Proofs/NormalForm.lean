import LayerCheck.Proofs.Build
import LayerCheck.Proofs.Validation

/-!
The normal form of configurations. A configuration that was read, from a base directory with an absolute
path, is written as a document in which nothing is left to a default. Reading that document gives the
configuration back, wherever its paths start from and whether or not it stands under the root key.
-/

namespace LayerCheck

namespace OrderedMap

variable {ν : Type}

theorem lookup_entries (m : OrderedMap String ν) (k : String) : m.entries.lookup k = m.get? k := by
  rw [get?]
  induction m.entries with
  | nil => rfl
  | cons e l ih =>
    rw [List.lookup_cons, valueAt_cons, ih]
    by_cases hk : k = e.1
    · simp [hk]
    · rw [beq_false_of_ne hk, if_neg (by simpa using hk)]

theorem filter_entries (m : OrderedMap String ν) (k : String) :
    m.entries.filter (fun e => e.1 != k) = (m.erase k).entries := by
  apply List.filter_congr
  intro e _
  rw [Bool.eq_iff_iff, bne_iff_ne, bne_iff_ne]
  exact not_congr ⟨fun h => by simp [h], fun h => (Std.LawfulEqOrd.eq_of_compare h).symm⟩

end OrderedMap

/-! ### Collectors -/

namespace CollectorEntry

/-- The type of the entry is not among its options. -/
def Untyped (c : CollectorEntry) : Prop :=
  c.options.get? typeKey = none

theorem untyped_of_ofDocument {d : Document} {c : CollectorEntry} (h : ofDocument d = .ok c) :
    c.Untyped := by
  unfold ofDocument at h
  split at h
  · rename_i entries
    split at h
    · obtain rfl := Except.ok.inj h
      simp [Untyped, OrderedMap.get?_ofList]
    · contradiction
    · contradiction
  · contradiction

theorem ofDocument_toDocument {c : CollectorEntry} (h : c.Untyped) :
    ofDocument c.toDocument = .ok c := by
  obtain ⟨kind, options⟩ := c
  -- The type is the only entry that the document adds to the options.
  have hget (k : String) :
      (OrderedMap.ofList ((typeKey, .text kind) :: options.entries)).get? k =
        (options.get? k).or (if typeKey = k then some (.text kind) else none) := by
    rw [OrderedMap.get?_ofList_cons, OrderedMap.ofList_entries]
  have htype : (OrderedMap.ofList ((typeKey, .text kind) :: options.entries)).get? typeKey =
      some (.text kind) := by
    rw [hget, show options.get? typeKey = none from h]
    simp
  have herase : (OrderedMap.ofList ((typeKey, .text kind) :: options.entries)).erase typeKey =
      options := by
    refine OrderedMap.ext (lawfulOn_of_lawfulEqOrd fun _ => True) (by simp) (by simp) fun k _ => ?_
    rw [OrderedMap.get?_erase, hget]
    by_cases hk : k = typeKey
    · simp [hk, show options.get? typeKey = none from h]
    · simp [hk, Ne.symm hk]
  simp only [toDocument, Document.ofEntries, ofDocument, OrderedMap.lookup_entries, htype,
    OrderedMap.filter_entries, herase, OrderedMap.ofList_entries]

end CollectorEntry

namespace Config

/-! ### Layers and rules -/

theorem listOf?_map {α : Type} {read? : Document → Option α} {write : α → Document} {as : List α}
    (h : ∀ a ∈ as, read? (write a) = some a) : listOf? read? (.list (as.map write)) = some as :=
  Option.mapM_map_eq_some h

theorem listOf?_ofTexts (texts : List String) : listOf? textOf? (.ofTexts texts) = some texts :=
  listOf?_map fun _ _ => rfl

theorem layerOf?_layerDocument {l : LayerEntry} (h : ∀ c ∈ l.collectors, c.Untyped) :
    layerOf? (layerDocument l) = some l := by
  have hcollectors : listOf? collectorOf? (.list (l.collectors.map CollectorEntry.toDocument)) =
      some l.collectors :=
    listOf?_map fun c hc => by
      rw [collectorOf?, CollectorEntry.ofDocument_toDocument (h c hc)]
      rfl
  change (do
    let collectors ← default? [] (listOf? collectorOf?)
      (some (.list (l.collectors.map CollectorEntry.toDocument)))
    return { name := l.name, collectors }) = some l
  rw [default?, hcollectors]
  rfl

theorem optional?_namingDocument (regex : Option String) :
    optional? namingOf? (some (namingDocument regex)) = some regex := by
  cases regex <;> rfl

theorem ruleOf?_ruleDocument (r : RuleEntry) : ruleOf? (ruleDocument r) = some r := by
  change (do
    let disallow ← default? [] (listOf? textOf?) (some (.ofTexts r.disallow))
    let classNaming ← optional? namingOf? (some (namingDocument r.classNaming))
    let functionNaming ← optional? namingOf? (some (namingDocument r.functionNaming))
    return { disallow, classNaming, functionNaming }) = some r
  rw [default?, listOf?_ofTexts, optional?_namingDocument, optional?_namingDocument]
  rfl

theorem rulesetOf?_map (m : OrderedMap String RuleEntry) :
    rulesetOf? (.object (m.entries.map fun e => (e.1, ruleDocument e.2))) = some m := by
  unfold rulesetOf?
  dsimp only
  rw [Option.mapM_map_eq_some]
  · change some (OrderedMap.ofList m.entries) = some m
    rw [OrderedMap.ofList_entries]
  · intro e _
    have hrule : optional? ruleOf? (some (ruleDocument e.2)) = some (some e.2) :=
      congrArg (Option.map some) (ruleOf?_ruleDocument e.2)
    dsimp only
    rw [hrule]
    rfl

/-! ### Paths -/

theorem isAbsolute_append {s t : String} (h : Path.isAbsolute ⟨s⟩) : Path.isAbsolute ⟨s ++ t⟩ := by
  simp only [Path.isAbsolute, beq_iff_eq, String.toList_append, List.head?_append] at h ⊢
  rw [h, Option.some_or]

theorem isAbsolute_join {base p : Path} (h : base.isAbsolute) : (base.join p).isAbsolute := by
  unfold Path.join
  split
  · rename_i hcases
    rcases Bool.or_eq_true_iff.1 hcases with hp | hempty
    · exact hp
    · have htext : base.text = "" := by simpa using hempty
      simp [Path.isAbsolute, htext] at h
  · split
    · exact isAbsolute_append h
    · exact isAbsolute_append (isAbsolute_append h)

theorem join_of_isAbsolute {base p : Path} (h : p.isAbsolute) : base.join p = p := by
  simp [Path.join, h]

theorem isAbsolute_of_mem_pathsFrom {base : Path} (h : base.isAbsolute) {paths : List String} :
    ∀ p ∈ pathsFrom base paths, p.isAbsolute := by
  intro p hp
  unfold pathsFrom at hp
  split at hp
  · rwa [List.mem_singleton.1 hp]
  · obtain ⟨text, -, rfl⟩ := List.mem_map.1 hp
    exact isAbsolute_join h

/-! ### Configurations -/

/-- The configuration names its roots by absolute paths, and no option is called like the type. -/
structure IsNormal (c : Config) : Prop where
  paths_ne_nil : c.paths ≠ []
  absolute : ∀ p ∈ c.paths, p.isAbsolute
  untyped : ∀ l ∈ c.layers, ∀ entry ∈ l.collectors, entry.Untyped

theorem exists_of_mem_listOf? {α : Type} {read? : Document → Option α} {d : Document} {as : List α}
    (h : listOf? read? d = some as) {a : α} (ha : a ∈ as) : ∃ item, read? item = some a := by
  unfold listOf? at h
  split at h
  · obtain ⟨item, -, hitem⟩ := Option.exists_of_mem_mapM h ha
    exact ⟨item, hitem⟩
  · contradiction

theorem exists_of_mem_optional? {α : Type} {read? : Document → Option α} {field : Option Document}
    {as : Option (List α)} (h : optional? (listOf? read?) field = some as) {a : α}
    (ha : a ∈ as.getD []) : ∃ item, read? item = some a := by
  unfold optional? at h
  split at h
  · obtain rfl := Option.some.inj h
    contradiction
  · obtain rfl := Option.some.inj h
    contradiction
  · obtain ⟨items, hitems, rfl⟩ := Option.map_eq_some_iff.1 h
    exact exists_of_mem_listOf? hitems ha

theorem untyped_of_collectorOf? {d : Document} {entry : CollectorEntry}
    (h : collectorOf? d = some entry) : entry.Untyped := by
  unfold collectorOf? at h
  cases hread : CollectorEntry.ofDocument d with
  | error e => simp [hread, Except.toOption] at h
  | ok read =>
    rw [hread] at h
    rw [← Option.some.inj h]
    exact CollectorEntry.untyped_of_ofDocument hread

theorem untyped_of_layerOf? {d : Document} {l : LayerEntry} (h : layerOf? d = some l) :
    ∀ entry ∈ l.collectors, entry.Untyped := by
  unfold layerOf? at h
  obtain ⟨fields, -, h⟩ := Option.bind_eq_some_iff.1 h
  split at h
  · rename_i name collectors
    simp only [Option.bind_eq_bind, Option.bind_eq_some_iff] at h
    obtain ⟨text, -, entries, hentries, h⟩ := h
    obtain rfl := Option.some.inj h
    intro entry hentry
    cases collectors with
    | none =>
      obtain rfl : [] = entries := Option.some.inj hentries
      contradiction
    | some items =>
      obtain ⟨item, hitem⟩ := exists_of_mem_listOf? hentries hentry
      exact untyped_of_collectorOf? hitem
  · contradiction

theorem isNormal_of_ofDocument? {base : Path} (hbase : base.isAbsolute) {d : Document} {c : Config}
    (h : ofDocument? base d = some c) : c.IsNormal := by
  unfold ofDocument? at h
  obtain ⟨fields, hfields, h⟩ := Option.bind_eq_some_iff.1 h
  split at h
  · simp only [Option.bind_eq_bind, Option.bind_eq_some_iff] at h
    obtain ⟨paths, hpaths, excludeFiles, hexcludeFiles, layers, hlayers, ruleset, hruleset, h⟩ := h
    obtain rfl := Option.some.inj h
    constructor
    · unfold pathsFrom
      split <;> simp_all
    · exact isAbsolute_of_mem_pathsFrom hbase
    · intro l hl
      obtain ⟨item, hitem⟩ := exists_of_mem_optional? hlayers hl
      exact untyped_of_layerOf? hitem
  · contradiction

/-- Only an object under the root key stands for the whole document. -/
theorem body_of_get? {d v : Document} (h : d.get? rootKey = some v) (hv : v.isObject) : body d = v := by
  unfold body
  split
  · contradiction
  · rw [h]
    exact if_pos hv

theorem body_toDocument (c : Config) : body c.toDocument = c.toDocument := by
  have hget : c.toDocument.get? rootKey = none := by
    simp [toDocument, Document.get?, OrderedMap.get?_ofList, rootKey]
  unfold body
  split
  · contradiction
  · rw [hget]

theorem ofDocument?_of_body {c : Config} (h : c.IsNormal) {d : Document}
    (hbody : body d = c.toDocument) (base : Path) : ofDocument? base d = some c := by
  have hpaths : pathsFrom base (c.paths.map Path.text) = c.paths := by
    rw [pathsFrom, if_neg (by simpa using h.paths_ne_nil), List.map_map]
    exact (List.map_congr_left fun p hp => join_of_isAbsolute (h.absolute p hp)).trans (List.map_id _)
  have hlayers : listOf? layerOf? (.list (c.layers.map layerDocument)) = some c.layers :=
    listOf?_map fun l hl => layerOf?_layerDocument (h.untyped l hl)
  unfold ofDocument?
  rw [hbody]
  change (do
    let paths ← (listOf? textOf? (.ofTexts (c.paths.map Path.text))).map some
    let excludeFiles ← (listOf? textOf? (.ofTexts c.excludeFiles)).map some
    let layers ← (listOf? layerOf? (.list (c.layers.map layerDocument))).map some
    let ruleset ← (rulesetOf? (.object (c.ruleset.entries.map fun e => (e.1, ruleDocument e.2)))).map
      some
    return {
      paths := pathsFrom base (paths.getD [])
      excludeFiles := excludeFiles.getD []
      layers := layers.getD []
      ruleset := ruleset.getD ∅ }) = some c
  rw [listOf?_ofTexts, listOf?_ofTexts, hlayers, rulesetOf?_map]
  change some { c with paths := pathsFrom base (c.paths.map Path.text) } = some c
  rw [hpaths]

/-! ### Reading what was written -/

/-- A configuration that was read, from an absolute base directory, is read again from the document it
is written as, with any base directory, alone or under the root key. -/
theorem decode_toDocument_of_parse {content : String} {format : Format} {base : Path} {c : Config}
    (hbase : base.isAbsolute) (h : parse content format base = .ok c) (other : Path) :
    decode other c.toDocument = .ok c ∧
      ∀ d : Document, d.get? rootKey = some c.toDocument → decode other d = .ok c := by
  obtain ⟨d, -, hdecode⟩ := parse_eq_ok.1 h
  obtain ⟨hread, hvalid⟩ := decode_eq_ok.1 hdecode
  have hnormal := isNormal_of_ofDocument? hbase hread
  constructor
  · exact decode_eq_ok.2 ⟨ofDocument?_of_body hnormal c.body_toDocument other, hvalid⟩
  · intro d hd
    exact decode_eq_ok.2 ⟨ofDocument?_of_body hnormal (body_of_get? hd rfl) other, hvalid⟩

end Config

namespace Abridged

/-- A layer as a list of its fields, another one without collectors, and a name of its own for what is
disallowed. -/
def text : String :=
  "[deply]\npaths=['s']\nlayers=[['a',[\x7btype='bool',must=[\x7btype='x'\x7d]\x7d]],\x7bname='b'\x7d]\n" ++
    "[deply.ruleset.a]\ndisallow_layer_dependencies=['b']\n"

theorem decode_toDocument_abridged : ∃ c, Config.parse text .toml ⟨"/p"⟩ = .ok c ∧
    (c.paths, c.layers.map (·.name), c.ruleset.entries) =
      ([⟨"/p/s"⟩], ["a", "b"], [("a", { disallow := ["b"] })]) ∧
    Config.decode ⟨"."⟩ c.toDocument = .ok c ∧
    Config.decode ⟨""⟩ (.object [(Config.rootKey, c.toDocument)]) = .ok c := by
  obtain ⟨c, hparse, hvalue⟩ : ∃ c, Config.parse text .toml ⟨"/p"⟩ = .ok c ∧
      (c.paths, c.layers.map (·.name), c.ruleset.entries) =
        ([⟨"/p/s"⟩], ["a", "b"], [("a", { disallow := ["b"] })]) :=
    Except.exists_of_map_toOption (by decide +kernel)
  have hget : (Document.object [(Config.rootKey, c.toDocument)]).get? Config.rootKey =
      some c.toDocument := by
    simp [Document.get?, OrderedMap.get?_ofList]
  exact ⟨c, hparse, hvalue, (Config.decode_toDocument_of_parse rfl hparse ⟨"."⟩).1,
    (Config.decode_toDocument_of_parse rfl hparse ⟨""⟩).2 _ hget⟩

end Abridged

end LayerCheck
