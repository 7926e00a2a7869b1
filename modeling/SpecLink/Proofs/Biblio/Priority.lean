import SpecLink.Project
import SpecLink.Proofs.Biblio.History
import SpecLink.Proofs.Resolver.Run

/-!
# Which of several entries counts

The entries of one key come from a project, from data files and from shards, in whatever order the
calls on a store bring them. Every call adds its entries behind those that are there (`adds_run`),
so the store is a record of the whole history, and the entry that counts is the first one of least
order in it. Main statement: `entry_of_calls`.
-/
namespace SpecLink

theorem Specref.order_of_parse {text source : String} {order : UInt32}
    {contents : Specref.Contents} (parsed : Specref.parse text source order = .ok contents) :
    ∀ e ∈ contents.entries, e.order = order := by
  rw [Specref.parse, bind_ok_iff] at parsed
  obtain ⟨records, -, same⟩ := parsed
  obtain rfl := Except.ok.inj same
  intro e member
  obtain ⟨record, -, entry⟩ := List.mem_filterMap.1 member
  rw [Specref.entryOf?] at entry
  split at entry
  · cases entry
  · obtain ⟨title, -, rfl⟩ := Option.map_eq_some_iff.1 entry
    rfl

namespace BiblioStore

section Preference

/-- Of entries in the order of their addition, the first one of least order: those before it have
a greater order, those behind it no smaller one. -/
def FirstLeast (e : BiblioEntry) (added : List BiblioEntry) : Prop :=
  ∃ earlier later, added = earlier ++ e :: later ∧
    (∀ d ∈ earlier, e.order < d.order) ∧ ∀ d ∈ later, e.order ≤ d.order

variable {e : BiblioEntry} {entries newer older : List BiblioEntry}

theorem preferred_eq_none_iff : preferred entries = none ↔ entries = [] := by
  cases entries with
  | nil => simp [preferred]
  | cons latest rest =>
    simp only [preferred, reduceCtorEq, iff_false]
    cases preferred rest with
    | none => simp
    | some best =>
      simp only
      split <;> simp

theorem exists_split_of_preferred (found : preferred entries = some e) :
    ∃ newer older, entries = newer ++ e :: older ∧
      (∀ d ∈ newer, e.order ≤ d.order) ∧ ∀ d ∈ older, e.order < d.order := by
  induction entries generalizing e with
  | nil => cases found
  | cons latest rest ih =>
    rw [preferred] at found
    cases best : preferred rest with
    | none =>
      rw [best] at found
      obtain rfl := Option.some.inj found
      obtain rfl := preferred_eq_none_iff.1 best
      exact ⟨[], [], rfl, by simp, by simp⟩
    | some b =>
      rw [best] at found
      simp only at found
      obtain ⟨newer, older, rfl, weak, strict⟩ := ih best
      split at found
      next less =>
        -- The latest entry beats the best of the others, and so all of them.
        obtain rfl := Option.some.inj found
        refine ⟨[], _, rfl, by simp, fun d member => ?_⟩
        rcases List.mem_append.1 member with member | member
        · exact UInt32.lt_of_lt_of_le less (weak d member)
        · rcases List.mem_cons.1 member with rfl | member
          · exact less
          · exact UInt32.lt_trans less (strict d member)
      next notLess =>
        obtain rfl := Option.some.inj found
        refine ⟨latest :: newer, older, rfl, fun d member => ?_, strict⟩
        rcases List.mem_cons.1 member with rfl | member
        · exact UInt32.not_lt.1 notLess
        · exact weak d member

theorem preferred_append_cons (weak : ∀ d ∈ newer, e.order ≤ d.order)
    (strict : ∀ d ∈ older, e.order < d.order) : preferred (newer ++ e :: older) = some e := by
  induction newer with
  | nil =>
    rw [List.nil_append, preferred]
    cases best : preferred older with
    | none => rfl
    | some b =>
      obtain ⟨before, behind, rfl, -, -⟩ := exists_split_of_preferred best
      exact if_pos (strict b (by simp))
  | cons latest rest ih =>
    rw [List.cons_append, preferred, ih fun d member => weak d (List.mem_cons_of_mem latest member)]
    exact if_neg (UInt32.not_lt.2 (weak latest List.mem_cons_self))

/-- A store prefers the first entry of least order. It holds its entries the other way round. -/
theorem preferred_reverse_eq_some_iff :
    preferred entries.reverse = some e ↔ FirstLeast e entries := by
  constructor
  · intro found
    obtain ⟨newer, older, same, weak, strict⟩ := exists_split_of_preferred found
    refine ⟨older.reverse, newer.reverse, ?_, by simpa using strict, by simpa using weak⟩
    rw [← List.reverse_reverse entries, same]
    simp
  · rintro ⟨earlier, later, rfl, strict, weak⟩
    have split : (earlier ++ e :: later).reverse = later.reverse ++ e :: earlier.reverse := by simp
    rw [split]
    apply preferred_append_cons
    · simpa using weak
    · simpa using strict

theorem exists_firstLeast (nonempty : entries ≠ []) : ∃ e, FirstLeast e entries := by
  cases found : preferred entries.reverse with
  | none => exact absurd (List.reverse_eq_nil_iff.1 (preferred_eq_none_iff.1 found)) nonempty
  | some e => exact ⟨e, preferred_reverse_eq_some_iff.1 found⟩

/-- No order comes before zero. -/
theorem firstLeast_of_head? {before own behind : List BiblioEntry} (first : own.head? = some e)
    (least : e.order = 0) (greater : ∀ d ∈ before, 0 < d.order) :
    FirstLeast e (before ++ own ++ behind) := by
  obtain ⟨rest, rfl⟩ := List.head?_eq_some_iff.1 first
  refine ⟨before, rest ++ behind, by simp, ?_, ?_⟩
  · rw [least]
    exact greater
  · rw [least]
    exact fun d _ => UInt32.zero_le

end Preference

/-- The calls that a store takes. -/
inductive Call where
  | addEntry (e : BiblioEntry)
  | addAlias (name target : String)
  | addSpecref (text source : String) (order : UInt32)
  | lookup (request : BiblioRequest) (status : Status)

/-- The store after a call, whether that answers or fails. -/
def Call.after (store : BiblioStore) : Call → BiblioStore
  | .addEntry e => store.addEntry e
  | .addAlias name target => store.addAlias name target
  | .addSpecref text source order => ((BiblioStore.addSpecref text source order).on store).2
  | .lookup request status => ((BiblioStore.lookup request status).on store).2

/-- The store after some calls, the first one first. -/
def run (calls : List Call) (store : BiblioStore) : BiblioStore := calls.foldl Call.after store

/-- The entries of a shard, none if it cannot be read. -/
def shardEntries (source : DataSource) (shard : String) : List BiblioEntry :=
  match readShard source shard with
  | .ok entries => entries
  | .error _ => []

/-- The shards that were asked for between two stores, the first one first. -/
def askedSince (before after : BiblioStore) : List String :=
  (after.loaded.filter fun shard => !before.loaded.contains shard).reverse

/-- The entries that a call adds: its own, or those of the shards that it is the first to ask for. -/
def Call.additions (store : BiblioStore) : Call → List BiblioEntry
  | .addEntry e => [e]
  | .addAlias .. => []
  | .addSpecref text source order =>
    match Specref.parse text source order with
    | .ok contents => contents.entries
    | .error _ => []
  | .lookup request status =>
    (askedSince store ((Call.lookup request status).after store)).flatMap
      (shardEntries store.source)

/-- The entries that calls add, each to the store that the calls before it leave. -/
def additionsAlong (store : BiblioStore) : List Call → List BiblioEntry
  | [] => []
  | c :: rest => c.additions store ++ additionsAlong (c.after store) rest

/-- The entries of a store in the order of their addition. -/
def held (store : BiblioStore) : List BiblioEntry := (store.entries.map Prod.snd).reverse

/-- Every entry lies under its own key in lowercase. -/
def Keyed (store : BiblioStore) : Prop :=
  ∀ filed ∈ store.entries, filed.1 = Text.lowercase filed.2.key

/-- The second store is the first with some entries added, in this order. -/
structure Adds (store : BiblioStore) (added : List BiblioEntry) (later : BiblioStore) : Prop where
  source : later.source = store.source
  entries : later.entries =
    (added.map fun e => (Text.lowercase e.key, e)).reverse ++ store.entries

section Additions

variable {store later third : BiblioStore} {added more : List BiblioEntry}

theorem Adds.refl (store : BiblioStore) : Adds store [] store := ⟨rfl, rfl⟩

theorem Adds.trans (first : Adds store added later) (second : Adds later more third) :
    Adds store (added ++ more) third where
  source := second.source.trans first.source
  entries := by
    rw [second.entries, first.entries]
    simp

theorem Adds.held (adds : Adds store added later) : later.held = store.held ++ added := by
  simp [BiblioStore.held, adds.entries, Function.comp_def]

theorem Adds.keyed (adds : Adds store added later) (keyed : store.Keyed) : later.Keyed := by
  intro filed member
  rw [adds.entries, List.mem_append, List.mem_reverse, List.mem_map] at member
  rcases member with ⟨e, -, rfl⟩ | member
  · rfl
  · exact keyed filed member

theorem adds_addEntry (store : BiblioStore) (e : BiblioEntry) :
    Adds store [e] (store.addEntry e) := by
  obtain ⟨aliases, knownKeys, same, -⟩ := store.addEntry_eq e
  rw [same]
  exact ⟨rfl, rfl⟩

theorem adds_addContents (store : BiblioStore) (contents : Specref.Contents) :
    Adds store contents.entries (store.addContents contents) := by
  obtain ⟨aliases, knownKeys, same⟩ := store.addContents_eq contents
  rw [same]
  exact ⟨rfl, rfl⟩

theorem adds_opened (store : BiblioStore) (key : String) :
    Adds store (store.incoming key) (store.opened key) := by
  obtain ⟨knownKeys, same, -⟩ := store.opened_eq key
  exact ⟨opened_source store key, by rw [same]⟩

theorem incoming_eq (store : BiblioStore) (key : String) : store.incoming key =
    if store.loaded.contains (LinkText.shardName key) then []
    else shardEntries store.source (LinkText.shardName key) := rfl

theorem askedSince_opened (kept : store.loaded ⊆ later.loaded) (key : String) :
    askedSince store (later.opened key) = askedSince store later ++
      if later.loaded.contains (LinkText.shardName key) then [] else [LinkText.shardName key] := by
  rw [askedSince, opened_loaded, asked, askedSince]
  split
  next => rw [List.append_nil]
  next fresh =>
    have new : store.loaded.contains (LinkText.shardName key) = false :=
      Bool.eq_false_iff.2 fun listed =>
        fresh (List.contains_iff_mem.2 (kept (List.contains_iff_mem.1 listed)))
    rw [List.filter_cons_of_pos (by rw [new]; rfl), List.reverse_cons]

/-- The second store is the first with some shards loaded. -/
structure Fills (store later : BiblioStore) : Prop where
  loaded : store.loaded ⊆ later.loaded
  adds : Adds store ((askedSince store later).flatMap (shardEntries store.source)) later

theorem fills_refl (store : BiblioStore) : Fills store store := by
  have none : askedSince store store = [] := by simp [askedSince]
  refine ⟨List.Subset.refl _, ?_⟩
  rw [none]
  exact .refl store

theorem Fills.opened (fills : Fills store later) (key : String) :
    Fills store (later.opened key) where
  loaded := List.Subset.trans fills.loaded (later.subset_opened_loaded key)
  adds := by
    have added := fills.adds.trans (adds_opened later key)
    rw [incoming_eq, fills.adds.source] at added
    rw [askedSince_opened fills.loaded, List.flatMap_append]
    split
    next listed => rwa [if_pos listed] at added
    next fresh => rwa [if_neg fresh, ← List.flatMap_singleton (shardEntries store.source)] at added

/-- A call adds its entries behind those that are there. -/
theorem adds_after (store : BiblioStore) (c : Call) :
    Adds store (c.additions store) (c.after store) := by
  cases c with
  | addEntry e => exact adds_addEntry store e
  | addAlias name target => exact ⟨rfl, rfl⟩
  | addSpecref text source order =>
    simp only [Call.additions, Call.after, BiblioStore.addSpecref, Action.on_bind,
      Action.on_ofExcept]
    cases Specref.parse text source order with
    | error failure => exact .refl store
    | ok contents => exact adds_addContents store contents
  | lookup request status =>
    -- A lookup adds by its loads alone, and each load adds what its shard holds.
    have opens : Composes (Action.Preserves (Fills store)) :=
      composes_preserves fun key _ fills => fills.opened key
    exact (opens.lookup request status store (fills_refl store)).adds

theorem adds_run (store : BiblioStore) (calls : List Call) :
    Adds store (additionsAlong store calls) (run calls store) := by
  induction calls generalizing store with
  | nil => exact .refl store
  | cons c rest ih => exact (adds_after store c).trans (ih (c.after store))

end Additions

section Lookup

/-- Of some entries those under a lowercase key. -/
def withKey (key : String) (entries : List BiblioEntry) : List BiblioEntry :=
  entries.filter fun e => Text.lowercase e.key == key

variable {store : BiblioStore} {request : BiblioRequest} {e : BiblioEntry}

theorem Keyed.entriesFor (keyed : store.Keyed) (key : String) :
    store.entriesFor key = (withKey key store.held).reverse := by
  rw [BiblioStore.entriesFor, withKey, held, ← List.filter_reverse, List.reverse_reverse,
    List.filter_map]
  congr 1
  refine List.filter_congr fun filed member => ?_
  rw [Function.comp_apply, keyed filed member]

theorem Keyed.entryFor?_eq_some_iff (keyed : store.Keyed) (key : String) :
    store.entryFor? key = some e ↔
      FirstLeast e (withKey key (store.held ++ store.incoming key)) := by
  have adds := adds_opened store key
  rw [entryFor?, entryUnder?, (adds.keyed keyed).entriesFor, adds.held,
    preferred_reverse_eq_some_iff]

/-- A lookup that takes obsolete entries as they are goes no further than its own key. -/
theorem lookup_of_entryFor? (whole : request.allowObsolete = true)
    (opens : store.opening request.lookupKey = .ok ())
    (found : store.entryFor? request.lookupKey = some e) (status : Status) :
    (lookup request status).on store =
      (.ok (some e, none), store.opened request.lookupKey) := by
  rw [entryFor?] at found
  simp only [lookup, find, findKey, findDirect, findExact, Action.on_bind, loadShard_on, opens,
    Action.on_get, Action.on_pure, found, whole, if_true, deliver, remark, ite_self]

theorem entryFor?_withNames (store : BiblioStore) (aliases : List (String × String))
    (knownKeys : List String) (key : String) :
    ({ store with aliases, knownKeys } : BiblioStore).entryFor? key = store.entryFor? key := by
  rw [entryFor?, entryFor?, entryUnder?, entryUnder?, entriesFor_opened, entriesFor_opened]
  rfl

/-- The first entry of least order is the answer, in spite of all that its key may stand for. -/
theorem Keyed.lookup_after_run (keyed : store.Keyed) (calls : List Call)
    (whole : request.allowObsolete = true)
    (opens : (run calls store).opening request.lookupKey = .ok ())
    (first : FirstLeast e (withKey request.lookupKey
      (store.held ++ additionsAlong store calls ++ (run calls store).incoming request.lookupKey)))
    (status : Status) (aliases : List (String × String)) (knownKeys : List String) :
    ((lookup request status).on { run calls store with aliases, knownKeys }).1 =
      .ok (some e, none) := by
  have adds := adds_run store calls
  rw [← adds.held, ← (adds.keyed keyed).entryFor?_eq_some_iff,
    ← entryFor?_withNames _ aliases knownKeys] at first
  -- Neither the names nor the known keys tell whether the shard loads.
  have opens : ({ run calls store with aliases, knownKeys } : BiblioStore).opening
      request.lookupKey = .ok () := opens
  rw [lookup_of_entryFor? whole opens first status]

end Lookup

/-- The entries of a store lie under their own keys and behind those of any project. -/
structure OfDatabase (store : BiblioStore) : Prop where
  keyed : store.Keyed
  order : ∀ e ∈ store.held, 0 < e.order

section Projects

variable {store later : BiblioStore}

theorem OfDatabase.adds {added : List BiblioEntry} (database : store.OfDatabase)
    (adds : Adds store added later) (order : ∀ e ∈ added, 0 < e.order) : later.OfDatabase where
  keyed := adds.keyed database.keyed
  order e member := by
    rw [adds.held, List.mem_append] at member
    rcases member with member | member
    · exact database.order e member
    · exact order e member

theorem ofDatabase_ofSource (source : DataSource) : (ofSource source).OfDatabase := by
  have empty : OfDatabase { source } := ⟨by simp [Keyed], by simp [held]⟩
  refine empty.adds (adds_addEntry _ requirementLevels) fun e member => ?_
  rw [List.mem_singleton.1 member]
  decide

theorem adds_addKeyList (listed : store.addKeyList = .ok later) : Adds store [] later := by
  have known (keys : List String) (s : BiblioStore) :
      Adds s [] (keys.foldl (fun s key => s.know (Text.lowercase key)) s) := by
    induction keys generalizing s with
    | nil => exact .refl s
    | cons key rest ih =>
      have first : Adds s [] (s.know (Text.lowercase key)) := ⟨rfl, rfl⟩
      exact first.trans (ih _)
  rw [addKeyList, bind_ok_iff] at listed
  obtain ⟨file, -, listed⟩ := listed
  cases file with
  | none => exact Except.ok.inj listed ▸ .refl store
  | some contents =>
    obtain ⟨keys, -, same⟩ := (bind_ok_iff _ _ _).1 listed
    exact Except.ok.inj same ▸ known keys store

theorem adds_addDataFile {name : String} (added : store.addDataFile name = .ok later) :
    ∃ entries, Adds store entries later ∧ ∀ e ∈ entries, e.order = BiblioOrder.specref := by
  rw [addDataFile] at added
  split at added
  · exact ⟨[], Except.ok.inj added ▸ .refl store, by simp⟩
  · obtain ⟨file, -, added⟩ := (bind_ok_iff _ _ _).1 added
    cases file with
    | none => exact ⟨[], Except.ok.inj added ▸ .refl store, by simp⟩
    | some text =>
      obtain ⟨contents, parsed, same⟩ := (bind_ok_iff _ _ _).1 added
      obtain rfl := Except.ok.inj same
      exact ⟨_, adds_addContents store contents, Specref.order_of_parse parsed⟩

theorem ofDatabase_load {source : DataSource} (opened : load source = .ok store) :
    store.OfDatabase := by
  rw [load, bind_ok_iff] at opened
  obtain ⟨listed, keys, files⟩ := opened
  have known : listed.OfDatabase :=
    (ofDatabase_ofSource source).adds (adds_addKeyList keys) (by simp)
  refine holds_of_foldlM (fun s next name database added => ?_) known files
  obtain ⟨entries, adds, order⟩ := adds_addDataFile added
  refine database.adds adds fun e member => ?_
  rw [order e member]
  decide

theorem addOwnBiblio_ok {tree : FileTree} {root : String}
    (own : tree.isFile (Project.biblioPath root) = true)
    (added : (Project.addOwnBiblio tree root).on store = (.ok (), later)) : ∃ text contents,
      tree.readText (Project.biblioPath root) = .ok text ∧
      Specref.parse text (Project.biblioPath root) BiblioOrder.project = .ok contents ∧
      later = store.addContents contents := by
  rw [Project.addOwnBiblio, if_pos own, Action.on_bind_ok_iff] at added
  obtain ⟨text, _, fetched, added⟩ := added
  obtain ⟨read, rfl⟩ := Action.on_ofExcept_ok_iff.1 fetched
  rw [Action.on_bind_ok_iff] at added
  obtain ⟨_, _, added, ended⟩ := added
  obtain ⟨-, rfl⟩ := Action.on_pure_ok_iff.1 ended
  rw [addSpecref, Action.on_bind_ok_iff] at added
  obtain ⟨contents, _, taken, added⟩ := added
  obtain ⟨parsed, rfl⟩ := Action.on_ofExcept_ok_iff.1 taken
  rw [Action.on_bind_ok_iff] at added
  obtain ⟨_, _, changed, ended⟩ := added
  obtain ⟨-, rfl⟩ := Action.on_pure_ok_iff.1 ended
  exact ⟨text, contents, read, parsed, (Prod.mk.inj changed).2.symm⟩

/-- A project's own bibliography is added to that of its data. -/
theorem biblio_of_resolver {p : SpecLink.Project} {tree : FileTree} {metadata : Metadata}
    {r : Resolver} (made : p.resolver tree metadata = .ok r)
    (own : tree.isFile (Project.biblioPath p.root) = true) : ∃ data text contents specs,
      load p.source = .ok data ∧ tree.readText (Project.biblioPath p.root) = .ok text ∧
      Specref.parse text (Project.biblioPath p.root) BiblioOrder.project = .ok contents ∧
      r.biblio = ({ data with specs } : BiblioStore).addContents contents := by
  rw [Project.resolver, bind_ok_iff] at made
  obtain ⟨start, loaded, made⟩ := made
  rw [Resolver.load, bind_ok_iff] at loaded
  obtain ⟨anchors, -, loaded⟩ := loaded
  obtain ⟨data, opened, same⟩ := (bind_ok_iff _ _ _).1 loaded
  obtain rfl := Except.ok.inj same
  -- What is read from the metadata does not touch the bibliography.
  have before : (Resolver.ofStores anchors data p.config metadata).biblio =
      { data with specs := anchors.specs } :=
    @Resolver.holds_ofStores (fun r => r.biblio = { data with specs := anchors.specs }) _ _ _ _ rfl
      (fun _ _ kept => kept) (fun _ _ _ kept => kept) fun _ _ kept => kept
  cases outcome : (Project.addOwnBiblio tree p.root).on
      (Resolver.ofStores anchors data p.config metadata).biblio with
  | mk added biblio =>
    rw [outcome] at made
    obtain ⟨_, rfl, same⟩ := (bind_ok_iff _ _ _).1 made
    obtain rfl := Except.ok.inj same
    rw [before] at outcome
    obtain ⟨text, contents, read, parsed, rfl⟩ := addOwnBiblio_ok own outcome
    exact ⟨data, text, contents, anchors.specs, opened, read, parsed, rfl⟩

/-- Whatever calls a store has taken, failed ones included: if some entry under a key has been added
by then, or is in the shard of the key, a lookup of the key that takes obsolete entries as they are
answers with the one of least order, of several with the first one that was added. What the key
stands for and what other keys are known makes no difference. So an entry of a project's own
bibliography, of several with one key the first, comes before those of all data. -/
theorem entry_of_calls :
    (∀ store : BiblioStore, store.Keyed → ∀ calls request status,
      let later := run calls store
      let candidates := withKey request.lookupKey
        (store.held ++ additionsAlong store calls ++ later.incoming request.lookupKey)
      request.allowObsolete = true → later.opening request.lookupKey = .ok () → candidates ≠ [] →
      ∃ e, FirstLeast e candidates ∧ ∀ aliases knownKeys,
        ((lookup request status).on { later with aliases, knownKeys }).1 = .ok (some e, none)) ∧
    ∀ (p : SpecLink.Project) (tree : FileTree) (metadata : Metadata) (r : Resolver),
      p.resolver tree metadata = .ok r → tree.isFile (Project.biblioPath p.root) = true →
      ∃ text contents, tree.readText (Project.biblioPath p.root) = .ok text ∧
        Specref.parse text (Project.biblioPath p.root) BiblioOrder.project = .ok contents ∧
        ∀ calls request status e, (withKey request.lookupKey contents.entries).head? = some e →
          request.allowObsolete = true →
          (run calls r.biblio).opening request.lookupKey = .ok () →
          ((lookup request status).on (run calls r.biblio)).1 = .ok (some e, none) := by
  constructor
  · intro store keyed calls request status later candidates whole opens nonempty
    obtain ⟨e, first⟩ := exists_firstLeast nonempty
    exact ⟨e, first, keyed.lookup_after_run calls whole opens first status⟩
  · intro p tree metadata r made own
    obtain ⟨data, text, contents, specs, opened, read, parsed, same⟩ := biblio_of_resolver made own
    refine ⟨text, contents, read, parsed, fun calls request status e first whole opens => ?_⟩
    have database := ofDatabase_load opened
    have adds : Adds { data with specs } contents.entries r.biblio :=
      same ▸ adds_addContents _ contents
    -- The data comes before the project's own entries but with greater orders, the rest behind.
    have least : FirstLeast e (withKey request.lookupKey
        (r.biblio.held ++ additionsAlong r.biblio calls ++
          (run calls r.biblio).incoming request.lookupKey)) := by
      rw [adds.held, withKey, List.append_assoc, List.filter_append, List.filter_append]
      apply firstLeast_of_head? first
      · have listed := List.mem_filter.1 (List.mem_of_mem_head? first)
        exact Specref.order_of_parse parsed e listed.1
      · exact fun d member => database.order d (List.mem_filter.1 member).1
    exact (adds.keyed database.keyed).lookup_after_run calls whole opens least status _ _

/-- A project that describes an entry of its data anew, in two spellings. -/
def renewingProject : SpecLink.Project where
  config := { version := 1, dataDir := "" }
  root := ""
  source := .ofFiles (.ofList [(AnchorStore.specsFile, "\x7b\x7d"),
    ("biblio/more.json", "\x7b\"foo\":\x7b\"title\":\"Foo of a file\"\x7d\x7d"),
    (shardPath "fo", "%L foo\n%T Foo of a shard\n")])

def renewingTree : FileTree where
  nodes := .ofList [("/biblio.json", .file (some ("\x7b\"FOO\":\x7b\"title\":\"Own\"," ++
    "\"obsoletedBy\":[\"bar\"]\x7d,\"Foo\":\x7b\"title\":\"Other\"\x7d\x7d")))]

def renewingCalls : List Call :=
  [.lookup { key := "food" } .current, .addAlias "foo" "bar",
    .addEntry { key := "Foo", title := "Late", order := BiblioOrder.project }]

/-- The project's own entry counts, though others were added before and behind it. Without it the
entry that was added last has the least order. -/
theorem entry_of_renewing :
    let request : BiblioRequest := { key := " Foo", allowObsolete := true }
    let titleAfter (store : BiblioStore) := ((lookup request .current).on
      (run renewingCalls store)).1.map fun answer => answer.1.map BiblioEntry.title
    (∃ r, renewingProject.resolver renewingTree {} = .ok r ∧
      titleAfter r.biblio = .ok (some "Own")) ∧
    (ofSource renewingProject.source).Keyed ∧
    titleAfter (ofSource renewingProject.source) = .ok (some "Late") := by
  intro request titleAfter
  obtain ⟨stores, projects⟩ := entry_of_calls
  constructor
  · have loads : (renewingProject.resolver renewingTree {}).map (fun r =>
        (run renewingCalls r.biblio).opening request.lookupKey) = .ok (.ok ()) := by decide +kernel
    have titled : ((renewingTree.readText (Project.biblioPath renewingProject.root)).bind fun text =>
        Specref.parse text (Project.biblioPath renewingProject.root) BiblioOrder.project).map
          (fun contents => (withKey request.lookupKey contents.entries).head?.map
            BiblioEntry.title) = .ok (some "Own") := by decide +kernel
    cases made : renewingProject.resolver renewingTree {} with
    | error failure =>
      rw [made] at loads
      cases loads
    | ok r =>
      rw [made] at loads
      obtain ⟨text, contents, read, parsed, wins⟩ :=
        projects renewingProject renewingTree {} r made (by decide +kernel)
      rw [read, Except.bind, parsed] at titled
      obtain ⟨e, first, title⟩ := Option.map_eq_some_iff.1 (Except.ok.inj titled)
      refine ⟨r, rfl, ?_⟩
      simp only [titleAfter]
      rw [wins renewingCalls request .current e first rfl (Except.ok.inj loads)]
      simp [Except.map, title]
  · have keyed := (ofDatabase_ofSource renewingProject.source).keyed
    refine ⟨keyed, ?_⟩
    obtain ⟨e, first, answered⟩ := stores _ keyed renewingCalls request .current rfl
      (by decide +kernel) (by decide +kernel)
    have late : (preferred (withKey request.lookupKey ((ofSource renewingProject.source).held ++
        additionsAlong (ofSource renewingProject.source) renewingCalls ++
          (run renewingCalls (ofSource renewingProject.source)).incoming
            request.lookupKey)).reverse).map BiblioEntry.title = some "Late" := by decide +kernel
    rw [preferred_reverse_eq_some_iff.2 first] at late
    simp only [titleAfter]
    rw [answered (run renewingCalls (ofSource renewingProject.source)).aliases
      (run renewingCalls (ofSource renewingProject.source)).knownKeys]
    simpa [Except.map] using late

end Projects

end BiblioStore

end SpecLink
