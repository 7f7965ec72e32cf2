import LayerCheck.Proofs.Analysis
import LayerCheck.Proofs.Equivalence
import Mathlib.Data.List.Find

/-!
The order of a configuration does not matter. Paths, patterns, collectors, nested entries, directories
and disallowed layers may be permuted and repeated, and so may layers be permuted that have no element
in common: an analysis that succeeds has the same result.
-/

namespace LayerCheck

/-! ### Rearranged configurations -/

/-- The document with its lists rearranged: items are permuted or repeated, or are rearranged in turn,
and so are the lists that options of an entry hold. -/
inductive Document.Rearranged : Document → Document → Prop where
  | refl (d : Document) : Rearranged d d
  | trans {a b c : Document} (h : Rearranged a b) (h' : Rearranged b c) : Rearranged a c
  | items {l l' : List Document} (h : ∀ d, d ∈ l ↔ d ∈ l') : Rearranged (.list l) (.list l')
  | item (before after : List Document) {d d' : Document} (h : Rearranged d d') :
      Rearranged (.list (before ++ d :: after)) (.list (before ++ d' :: after))
  | option (before after : List (String × Document)) {key : String} {d d' : Document}
      (hkey : key ∈ CollectorEntry.listKeys) (h : Rearranged d d') :
      Rearranged (.object (before ++ (key, d) :: after)) (.object (before ++ (key, d') :: after))

/-- The entry has rearranged lists in its options for such lists, and the same other options. -/
def CollectorEntry.Rearranged (c c' : CollectorEntry) : Prop :=
  RelOptions Document.Rearranged c c'

structure LayerEntry.Rearranged (l l' : LayerEntry) : Prop where
  name : l.name = l'.name
  collectors : Matched CollectorEntry.Rearranged l.collectors l'.collectors

structure RuleEntry.Rearranged (r r' : RuleEntry) : Prop where
  disallow : ∀ target, target ∈ r.disallow ↔ target ∈ r'.disallow
  classNaming : r.classNaming = r'.classNaming
  functionNaming : r.functionNaming = r'.functionNaming

/-- The lists of the configuration hold the same, in another order or more often. Layers keep their
order. -/
structure Config.Rearranged (c c' : Config) : Prop where
  paths : ∀ p, p ∈ c.paths ↔ p ∈ c'.paths
  excludeFiles : ∀ raw, raw ∈ c.excludeFiles ↔ raw ∈ c'.excludeFiles
  layers : List.Forall₂ LayerEntry.Rearranged c.layers c'.layers
  ruleset : List.Forall₂ (fun e e' => e.1 = e'.1 ∧ RuleEntry.Rearranged e.2 e'.2)
    c.ruleset.entries c'.ruleset.entries

/-! ### Documents -/

namespace Document

/-- The entries of two objects have the same keys, with related values where lists are held and the
same values everywhere else. -/
def RelEntries (r : Document → Document → Prop) (entries entries' : List (String × Document)) : Prop :=
  List.Forall₂ (fun e e' => e.1 = e'.1 ∧ r e.2 e'.2 ∧
    (e.1 ∉ CollectorEntry.listKeys → e.2 = e'.2)) entries entries'

namespace RelEntries

variable {r : Document → Document → Prop} {entries entries' : List (String × Document)}
  (h : RelEntries r entries entries')
include h

theorem lookup_eq {key : String} (hkey : key ∉ CollectorEntry.listKeys) :
    entries.lookup key = entries'.lookup key := by
  induction h with
  | nil => rfl
  | @cons e e' entries entries' hee' _ ih =>
    obtain ⟨heq, -, hvalue⟩ := hee'
    rw [List.lookup_cons, List.lookup_cons, ← heq, ih]
    split
    · rename_i hfound
      -- The key is none of those for lists, so here the values are not just related.
      rw [hvalue (beq_iff_eq.1 hfound ▸ hkey)]
    · rfl

theorem filter (p : String → Bool) :
    RelEntries r (entries.filter fun e => p e.1) (entries'.filter fun e => p e.1) := by
  induction h with
  | nil => exact .nil
  | @cons e e' entries entries' hee' _ ih =>
    rw [List.filter_cons, List.filter_cons, ← hee'.1]
    split
    · exact .cons hee' ih
    · exact ih

theorem relOptions (kind : String) :
    CollectorEntry.RelOptions r ⟨kind, .ofList entries⟩ ⟨kind, .ofList entries'⟩ where
  kind := rfl
  other key hkey := by
    have hrel : Option.Rel Eq ((OrderedMap.ofList entries).get? key)
        ((OrderedMap.ofList entries').get? key) :=
      OrderedMap.rel_get?_ofList (h.imp fun e e' hee' => ⟨hee'.1, fun heq => hee'.2.2 (heq ▸ hkey)⟩)
    generalize (OrderedMap.ofList entries).get? key = o at hrel ⊢
    generalize (OrderedMap.ofList entries').get? key = o' at hrel ⊢
    cases hrel with
    | some heq => rw [heq]
    | none => rfl
  lists key _ :=
    OrderedMap.rel_get?_ofList (h.imp fun e e' hee' => ⟨hee'.1, fun _ => hee'.2.1⟩)

end RelEntries

theorem sameEntry_object {entries entries' : List (String × Document)}
    (h : RelEntries SameValue entries entries') : SameEntry (.object entries) (.object entries') := by
  intro c k hc hk
  have htype : CollectorEntry.typeKey ∉ CollectorEntry.listKeys := by decide
  unfold CollectorEntry.ofDocument at hc
  dsimp only at hc
  split at hc
  · rename_i kind hkind
    obtain rfl := Except.ok.inj hc
    have hoptions := (h.filter fun key => key != CollectorEntry.typeKey).relOptions kind
    obtain ⟨k', hk', hequivalent⟩ := CollectorEntry.SameOptions.exists_build hoptions hk
    refine ⟨_, k', ?_, hk', hequivalent⟩
    simp only [CollectorEntry.ofDocument, ← h.lookup_eq htype, hkind]
  · contradiction
  · contradiction

theorem Rearranged.sameValue {d d' : Document} (h : Rearranged d d') : SameValue d d' := by
  induction h with
  | refl d => exact .refl d
  | trans _ _ ih ih' => exact ih.trans ih'
  | items h =>
    exact sameValue_list ⟨fun a ha => ⟨a, (h a).1 ha, .refl a⟩, fun b hb => ⟨b, (h b).2 hb, .refl b⟩⟩
  | item before after _ ih =>
    have hrefl (l : List Document) : List.Forall₂ SameItem l l :=
      List.forall₂_same.2 fun d _ => .refl d
    exact sameValue_list (.of_forall₂
      (List.rel_append (hrefl before) (.cons ih.toSameItem (hrefl after))))
  | @option before after key d d' hkey _ ih =>
    have hrefl (l : List (String × Document)) : RelEntries SameValue l l :=
      List.forall₂_same.2 fun e _ => ⟨rfl, .refl e.2, fun _ => rfl⟩
    have hentries :
        RelEntries SameValue (before ++ (key, d) :: after) (before ++ (key, d') :: after) :=
      List.rel_append (hrefl before) (.cons ⟨rfl, ih, fun h => absurd hkey h⟩ (hrefl after))
    exact ⟨⟨sameEntry_object hentries, by simp⟩, by simp, by simp⟩

end Document

theorem CollectorEntry.Rearranged.sameOptions {c c' : CollectorEntry} (h : c.Rearranged c') :
    c.SameOptions c' :=
  RelOptions.imp h fun _ _ => Document.Rearranged.sameValue

/-! ### Scopes, rules and layers -/

theorem Rule.ofEntry_eq {layer : String} {r r' : RuleEntry} (h : r.Rearranged r') :
    ofEntry layer r = ofEntry layer r' := by
  have hempty : r.disallow.isEmpty = r'.disallow.isEmpty := by
    rw [Bool.eq_iff_iff, List.isEmpty_iff, List.isEmpty_iff]
    simp only [List.eq_nil_iff_forall_not_mem, h.disallow]
  have hset : OrderedSet.ofList r.disallow = OrderedSet.ofList r'.disallow := by
    have hlawful := lawfulOn_of_lawfulEqOrd fun _ : String => True
    refine OrderedSet.ext fun target => ?_
    rw [OrderedSet.mem_ofList hlawful fun _ _ => trivial,
      OrderedSet.mem_ofList hlawful fun _ _ => trivial, h.disallow]
  rw [ofEntry, ofEntry, hempty, hset, h.classNaming, h.functionNaming]

theorem Rule.ofRuleset_eq {ruleset ruleset' : OrderedMap String RuleEntry}
    (h : List.Forall₂ (fun e e' => e.1 = e'.1 ∧ RuleEntry.Rearranged e.2 e'.2)
      ruleset.entries ruleset'.entries) : ofRuleset ruleset = ofRuleset ruleset' := by
  rw [ofRuleset, ofRuleset, Except.mapM_eq_of_forall₂ (h.imp fun e e' hee' => ?_)]
  dsimp only
  rw [hee'.1, ofEntry_eq hee'.2]

namespace Config.Rearranged

variable {c c' : Config} {s : Snapshot} (h : c.Rearranged c')
include h

theorem exists_make {scope : Scope} (hscope : Scope.make s c.paths c.excludeFiles = .ok scope) :
    ∃ scope', Scope.make s c'.paths c'.excludeFiles = .ok scope' ∧ scope.Similar scope' := by
  obtain ⟨hpatterns, hroots⟩ := Scope.make_eq_ok.1 hscope
  obtain ⟨patterns', hpatterns'⟩ :
      ∃ patterns', c'.excludeFiles.mapM Config.searching = .ok patterns' := by
    refine Except.exists_mapM_eq_ok fun raw hraw => ?_
    have hmem : raw ∈ c.excludeFiles := (h.excludeFiles raw).2 hraw
    obtain ⟨p, -, hp⟩ := (Except.matched_of_mapM_eq_ok hpatterns).left raw hmem
    exact ⟨p, hp⟩
  refine ⟨⟨Scope.rootsOf s c'.paths, patterns'⟩, Scope.make_eq_ok.2 ⟨hpatterns', rfl⟩, ?_, ?_⟩
  · intro root
    simp only [hroots, Scope.mem_rootsOf, h.paths]
  · intro pattern
    simp only [Except.mem_of_mapM_eq_ok hpatterns, Except.mem_of_mapM_eq_ok hpatterns',
      h.excludeFiles]

end Config.Rearranged

namespace LayerEntry.Rearranged

variable {l l' : LayerEntry} {scope scope' : Scope} {s : Snapshot} (h : l.Rearranged l')
include h

theorem exists_builds {ks : List Collector} (hks : l.collectors.mapM Collector.build = .ok ks) :
    Matched (fun c c' => ∃ k k', Collector.build c = .ok k ∧ Collector.build c' = .ok k' ∧
      k.Equivalent k') l.collectors l'.collectors := by
  refine h.collectors.imp fun c hc c' _ hcc' => ?_
  obtain ⟨k, -, hk⟩ := (Except.matched_of_mapM_eq_ok hks).left c hc
  obtain ⟨k', hk', hequivalent⟩ := hcc'.sameOptions.exists_build hk
  exact ⟨k, k', hk, hk', hequivalent⟩

/-- The rearranged layer can be filled as well, and it collects the same. -/
theorem exists_filled (hscope : scope.Similar scope') {filled : Layer}
    (hfilled : Layers.filled scope s l = .ok filled) :
    (∃ filled', Layers.filled scope' s l' = .ok filled') ∧
      ∀ e, l.collects scope s e = l'.collects scope' s e := by
  obtain ⟨ks, hks, -⟩ := Except.map_eq_ok.1 hfilled
  have hbuilds := h.exists_builds hks
  constructor
  · obtain ⟨ks', hks'⟩ : ∃ ks', l'.collectors.mapM Collector.build = .ok ks' := by
      refine Except.exists_mapM_eq_ok fun c' hc' => ?_
      obtain ⟨c, -, k, k', -, hk', -⟩ := hbuilds.right c' hc'
      exact ⟨k', hk'⟩
    exact ⟨_, Except.map_eq_ok.2 ⟨ks', hks', rfl⟩⟩
  · intro e
    rw [Bool.eq_iff_iff, collects_iff, collects_iff]
    refine (hbuilds.imp ?_).exists_iff
    rintro c - c' - ⟨k, k', hk, hk', hequivalent⟩
    simp [hk, hk', hscope.collect_eq, hequivalent scope' s s.facts]

end LayerEntry.Rearranged

/-! ### Owners -/

namespace Config

variable {c c' : Config} {s : Snapshot} {scope scope' : Scope} {layers layers' : List Layer}

theorem owners_eq (h : c.layers.mapM (Layers.filled scope s) = .ok layers)
    (h' : c'.layers.mapM (Layers.filled scope' s) = .ok layers')
    (howner : ∀ e, c.owner? scope s e = c'.owner? scope' s e) :
    (Layers.ofLayers layers).owners = (Layers.ofLayers layers').owners := by
  have hkeys := Layers.isCanonical_of_mem_elements (Layers.isCanonical_of_mapM_filled h)
  have hkeys' := Layers.isCanonical_of_mem_elements (Layers.isCanonical_of_mapM_filled h')
  refine OrderedMap.ext Element.lawfulOn_isCanonical hkeys hkeys' fun e he => ?_
  exact (layerOf?_eq_owner? h he).trans ((howner e).trans (layerOf?_eq_owner? h' he).symm)

/-- Layers that are rearranged one by one can be filled as well, and each element keeps its owner. -/
theorem Rearranged.exists_layers (h : c.Rearranged c') (hscope : scope.Similar scope')
    (hlayers : c.layers.mapM (Layers.filled scope s) = .ok layers) :
    (∃ layers', c'.layers.mapM (Layers.filled scope' s) = .ok layers') ∧
      ∀ e, c.owner? scope s e = c'.owner? scope' s e := by
  have hfilled (l : LayerEntry) (hl : l ∈ c.layers) : ∃ x, Layers.filled scope s l = .ok x := by
    obtain ⟨x, -, hx⟩ := (Except.matched_of_mapM_eq_ok hlayers).left l hl
    exact ⟨x, hx⟩
  constructor
  · refine Except.exists_mapM_eq_ok fun l' hl' => ?_
    obtain ⟨l, hl, hll'⟩ := (Matched.of_forall₂ h.layers).right l' hl'
    obtain ⟨x, hx⟩ := hfilled l hl
    exact (hll'.exists_filled hscope hx).1
  · intro e
    refine map_find?_eq_of_forall₂ (List.forall₂_reverse_iff.2 ?_)
    have hpairs := (List.forall₂_and_left _ _).2 ⟨hfilled, h.layers⟩
    refine hpairs.imp ?_
    rintro l l' ⟨⟨x, hx⟩, hll'⟩
    exact ⟨hll'.name, (hll'.exists_filled hscope hx).2 e⟩

/-- No element is collected by two different layers. -/
def LayersDisjoint (c : Config) (s : Snapshot) : Prop :=
  ∀ scope, Scope.make s c.paths c.excludeFiles = .ok scope →
    ∀ l ∈ c.layers, ∀ l' ∈ c.layers, ∀ e, l.collects scope s e → l'.collects scope s e → l = l'

/-- The order of layers does not matter where only one layer collects the element. -/
theorem owner?_eq_of_perm (hperm : c.layers.Perm c'.layers) {e : Element}
    (hone : ∀ l ∈ c.layers, ∀ l' ∈ c.layers, l.collects scope s e → l'.collects scope s e → l = l') :
    c.owner? scope s e = c'.owner? scope s e := by
  -- The owner is the last layer that collects the element, hence the first one from the end.
  have hreverse : c.layers.reverse.Perm c'.layers.reverse :=
    (List.reverse_perm c.layers).trans (hperm.trans (List.reverse_perm c'.layers).symm)
  rw [owner?, owner?, List.find?_eq_find?_of_perm hreverse]
  rintro l ⟨hl, hcollects⟩ l' ⟨hl', hcollects'⟩
  exact hone l (List.mem_reverse.1 hl) l' (List.mem_reverse.1 hl') hcollects hcollects'

end Config

/-! ### Analyses -/

namespace Analysis

variable {s : Snapshot} {c c' : Config} {result : Analysis}

theorem check_congr {rules : List Rule} {l l' : Layers} (h : l.owners = l'.owners)
    (edges : List Dependency) : check rules l edges = check rules l' edges := by
  obtain ⟨layers, owners⟩ := l
  obtain ⟨layers', owners'⟩ := l'
  obtain rfl : owners = owners' := h
  rfl

theorem dependencies_congr {l l' : Layers} (h : l.owners = l'.owners) :
    l.dependencies s = l'.dependencies s := by
  rw [Layers.dependencies, Layers.dependencies, Layers.elements, Layers.elements, h]

/-- What an analysis finds depends on its rules and on the owners of elements only. -/
theorem run_of_owner?_eq (h : run s c = .ok result)
    (hrules : Rule.ofRuleset c.ruleset = Rule.ofRuleset c'.ruleset)
    (hsame : ∀ scope layers, Scope.make s c.paths c.excludeFiles = .ok scope →
      c.layers.mapM (Layers.filled scope s) = .ok layers →
      ∃ scope' layers', Scope.make s c'.paths c'.excludeFiles = .ok scope' ∧
        c'.layers.mapM (Layers.filled scope' s) = .ok layers' ∧
        ∀ e, c.owner? scope s e = c'.owner? scope' s e) : run s c' = .ok result := by
  obtain ⟨subject, hsubject, rfl⟩ := run_eq_ok.1 h
  obtain ⟨rules, scope, layers, hok, hscope, hlayers, rfl⟩ := subject_eq_ok.1 hsubject
  obtain ⟨scope', layers', hscope', hlayers', howner⟩ := hsame scope layers hscope hlayers
  have howners := Config.owners_eq hlayers hlayers' howner
  have hsubject' := subject_eq_ok.2 ⟨rules, scope', layers', hrules ▸ hok, hscope', hlayers', rfl⟩
  refine run_eq_ok.2 ⟨_, hsubject', ?_⟩
  rw [dependencies_congr howners, check_congr howners]

theorem run_of_lists_rearranged (h : run s c = .ok result) (hc : c.Rearranged c') :
    run s c' = .ok result := by
  refine run_of_owner?_eq h (Rule.ofRuleset_eq hc.ruleset) fun scope layers hscope hlayers => ?_
  obtain ⟨scope', hscope', hsimilar⟩ := hc.exists_make hscope
  obtain ⟨⟨layers', hlayers'⟩, howner⟩ := hc.exists_layers hsimilar hlayers
  exact ⟨scope', layers', hscope', hlayers', howner⟩

theorem run_of_layers_perm (h : run s c = .ok result) (hdisjoint : c.LayersDisjoint s)
    {layers : List LayerEntry} (hperm : c.layers.Perm layers) :
    run s { c with layers } = .ok result := by
  refine run_of_owner?_eq h rfl fun scope found hscope hfound => ?_
  obtain ⟨found', hfound'⟩ : ∃ found', layers.mapM (Layers.filled scope s) = .ok found' := by
    refine Except.exists_mapM_eq_ok fun l hl => ?_
    obtain ⟨x, -, hx⟩ := (Except.matched_of_mapM_eq_ok hfound).left l (hperm.mem_iff.2 hl)
    exact ⟨x, hx⟩
  refine ⟨scope, found', hscope, hfound', fun e => Config.owner?_eq_of_perm hperm ?_⟩
  exact fun l hl l' hl' => hdisjoint scope hscope l hl l' hl' e

/-- An analysis that succeeds has the same result after the lists of its configuration are rearranged,
and also after its layers are permuted if no two of them collect the same element. -/
theorem run_of_rearranged (h : run s c = .ok result) :
    (∀ c', c.Rearranged c' → run s c' = .ok result) ∧
      (c.LayersDisjoint s → ∀ layers c', c.layers.Perm layers →
        Config.Rearranged { c with layers } c' → run s c' = .ok result) := by
  constructor
  · exact fun c' hc => run_of_lists_rearranged h hc
  · intro hdisjoint layers c' hperm hc
    exact run_of_lists_rearranged (run_of_layers_perm h hdisjoint hperm) hc

end Analysis

namespace Shuffled

/-- A project in which a class refers to a class of its library. -/
def snapshot : Snapshot :=
  (((({} : Snapshot).set ["p"] .directory).set ["p", "a.py"]
    (.file (some "from lib.b import B\nclass A(B): pass\n"))).set ["p", "lib"] .directory).set
    ["p", "lib", "b.py"] (.file (some "class B: pass\n"))

def library (directories : List Document) : LayerEntry :=
  ⟨"library", [⟨"bool", .ofList [("must", .list [
    .object [("type", .text "directory"), ("directories", .list directories)]])]⟩]⟩

def app : LayerEntry :=
  ⟨"app", [⟨"class_name_regex", .ofList [("class_name_regex", .text "A")]⟩]⟩

def config : Config where
  paths := [⟨"/p"⟩, ⟨"/p/lib"⟩]
  excludeFiles := ["gen", "tmp"]
  layers := [library [.text "lib", .text "more"], app]
  ruleset := .ofList [("app", { disallow := ["library", "tests"] })]

/-- Both layers have changed places, and every list with two items is turned around and repeats one. -/
def shuffled : Config where
  paths := [⟨"/p/lib"⟩, ⟨"/p"⟩, ⟨"/p"⟩]
  excludeFiles := ["tmp", "gen", "tmp"]
  layers := [app, library [.text "more", .text "lib", .text "lib"]]
  ruleset := .ofList [("app", { disallow := ["tests", "library", "library"] })]

theorem rearranged_library {directories directories' : List Document}
    (h : ∀ d, d ∈ directories ↔ d ∈ directories') :
    (library directories).Rearranged (library directories') where
  name := rfl
  collectors := by
    have hkeys : "must" ∈ CollectorEntry.listKeys ∧ "directories" ∈ CollectorEntry.listKeys := by
      decide
    have hmust := Document.Rearranged.item [] []
      (.option [("type", .text "directory")] [] hkeys.2 (.items h))
    refine .of_forall₂ (.cons (Document.RelEntries.relOptions (.cons ?_ .nil) "bool") .nil)
    exact ⟨rfl, hmust, fun hkey => absurd hkeys.1 hkey⟩

theorem rearranged_app : app.Rearranged app where
  name := rfl
  collectors := .of_forall fun c _ => .refl .refl c

theorem rearranged : Config.Rearranged
    { config with layers := [app, library [.text "lib", .text "more"]] } shuffled where
  paths p := by grind [config, shuffled]
  excludeFiles raw := by grind [config, shuffled]
  layers := .cons rearranged_app (.cons (rearranged_library fun d => by grind) .nil)
  ruleset := .cons ⟨rfl, ⟨fun target => by grind, rfl, rfl⟩⟩ .nil

/-- The library holds `B` and the other layer holds `A`. -/
theorem layersDisjoint : config.LayersDisjoint snapshot := by
  intro scope hscope
  have hvalue : (do
      let scope ← Scope.make snapshot config.paths config.excludeFiles
      let x ← Layers.filled scope snapshot (library [.text "lib", .text "more"])
      let y ← Layers.filled scope snapshot app
      return x.elements.toList.all (· ∉ y.elements.toList)).toOption = some true := by
    decide +kernel
  have hdisjoint (e : Element)
      (h : (library [.text "lib", .text "more"]).collects scope snapshot e)
      (h' : app.collects scope snapshot e) : False := by
    rw [hscope] at hvalue
    cases hx : Layers.filled scope snapshot (library [.text "lib", .text "more"]) with
    | error e => simp [hx, Except.toOption, bind, Except.bind] at hvalue
    | ok x =>
      cases hy : Layers.filled scope snapshot app with
      | error e => simp [hx, hy, Except.toOption, bind, Except.bind] at hvalue
      | ok y =>
        have hall : ∀ e ∈ x.elements.toList, e ∉ y.elements.toList := by
          simpa [hx, hy, Except.toOption, bind, Except.bind, pure, Except.pure] using hvalue
        exact hall e (((Layers.filled_spec hx).2.2 e).2 h) (((Layers.filled_spec hy).2.2 e).2 h')
  intro l hl l' hl' e h h'
  rcases List.mem_pair.1 hl with rfl | rfl <;> rcases List.mem_pair.1 hl' with rfl | rfl
  · rfl
  · exact (hdisjoint e h h').elim
  · exact (hdisjoint e h' h).elim
  · rfl

theorem run_of_shuffled : ∃ result, Analysis.run snapshot config = .ok result ∧
    (result.elementsChecked = 2 ∧ result.edgesChecked = 2 ∧ result.violations.size = 2) ∧
    Analysis.run snapshot shuffled = .ok result := by
  have hvalue : (Analysis.run snapshot config).toOption.map (fun result =>
      (result.elementsChecked, result.edgesChecked, result.violations.size)) = some (2, 2, 2) := by
    decide +kernel
  cases h : Analysis.run snapshot config with
  | error e => simp [h, Except.toOption] at hvalue
  | ok result =>
    rw [h] at hvalue
    refine ⟨result, rfl, by simpa [Except.toOption] using hvalue, ?_⟩
    exact (Analysis.run_of_rearranged h).2 layersDisjoint _ shuffled (.swap _ _ []) rearranged

end Shuffled

end LayerCheck
