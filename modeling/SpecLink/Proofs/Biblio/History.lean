import SpecLink.Proofs.Biblio.Refer
import SpecLink.Proofs.Biblio.Shards
import SpecLink.Proofs.Text.Shard

/-!
# The bibliography and earlier lookups

A lookup leaves shards behind, and with them keys that are known. If the shards hold only keys of
their own, the entry under a key does not depend on which shards were loaded before; what does are
the numbered keys that are known of a name (`find_on`), and those only become more. Main statement:
`lookup_again`, by which a key without an entry never gets one.
-/
namespace SpecLink

theorem LinkText.shardName_lowercase (key : String) :
    LinkText.shardName (Text.lowercase key) = LinkText.shardName key := by
  simp only [shardName, Text.lowercase, String.toList_ofList, Text.lowercaseAfter_lowercaseAfter]

namespace Refer

theorem preferredAlias_of_setField {e changed : BiblioEntry} {code : Char} {value : String}
    (set : setField e code value = some changed) : changed.preferredAlias = e.preferredAlias := by
  unfold setField at set
  -- Each code sets one field, and none of them the name.
  split at set <;> cases set <;> rfl

/-- Entries of the refer format prefer no other name. -/
theorem preferredAlias_of_parse {text source : String} {entries : List BiblioEntry}
    (parsed : parse text source = .ok entries) : ∀ e ∈ entries, e.preferredAlias = none :=
  fun e member => (holds_of_parse (fun e => e.preferredAlias = none) rfl
    (fun _ _ _ _ none set => (preferredAlias_of_setField set).trans none) parsed e
    member).1

end Refer

/-- The entry that an answer has without a stand-in. -/
def BiblioAnswer.genuine? : BiblioAnswer → Option BiblioEntry
  | .found e => some e
  | .succeeded _ successor => some successor
  | _ => none

namespace BiblioStore

/-- Each shard of a source holds only entries whose keys belong to it. -/
def ShardsSorted (source : DataSource) : Prop :=
  ∀ key entries, readShard source (LinkText.shardName key) = .ok entries →
    ∀ e ∈ entries, LinkText.shardName e.key = LinkText.shardName key

theorem readShard_eq (source : DataSource) (shard : String) : readShard source shard =
    match source.fetch (shardPath shard) with
    | .error failure => .error failure
    | .ok none => .ok []
    | .ok (some contents) => Refer.parse contents (shardPath shard) := by
  rw [readShard]
  cases source.fetch (shardPath shard) with
  | error failure => rfl
  | ok file => cases file <;> rfl

theorem preferredAlias_of_readShard {source : DataSource} {shard : String}
    {entries : List BiblioEntry} (read : readShard source shard = .ok entries) :
    ∀ e ∈ entries, e.preferredAlias = none := by
  rw [readShard_eq] at read
  split at read
  next => cases read
  next =>
    obtain rfl : [] = entries := Except.ok.inj read
    exact fun e member => absurd member List.not_mem_nil
  next => exact Refer.preferredAlias_of_parse read

section Opened

variable (store : BiblioStore) (key : String)

/-- What the shard of a key adds to a store that has not loaded it. -/
def incoming : List BiblioEntry :=
  if store.loaded.contains (LinkText.shardName key) then []
  else
    match readShard store.source (LinkText.shardName key) with
    | .ok entries => entries
    | .error _ => []

/-- The store that has asked for the shard of a key. -/
def asked : BiblioStore :=
  if store.loaded.contains (LinkText.shardName key) then store
  else { store with loaded := LinkText.shardName key :: store.loaded }

/-- The store once the shard of a key is loaded. -/
def opened : BiblioStore := (store.incoming key).foldl addEntry (store.asked key)

/-- Whether the shard of a key loads. -/
def opening : Except Failure Unit :=
  if store.loaded.contains (LinkText.shardName key) then .ok ()
  else (readShard store.source (LinkText.shardName key)).map fun _ => ()

theorem loadShard_on : (loadShard key).on store = (store.opening key, store.opened key) := by
  simp only [loadShard, Action.on_bind, Action.on_get, opening, opened, incoming, asked]
  by_cases loaded : store.loaded.contains (LinkText.shardName key) = true
  · simp only [loaded, if_true, Action.on_pure, List.foldl_nil]
  · simp only [loaded, Bool.false_eq_true, if_false, Action.on_bind, Action.on_set,
      Action.on_ofExcept, readShard_eq]
    cases store.source.fetch (shardPath (LinkText.shardName key)) with
    | error failure => rfl
    | ok file =>
      cases file with
      | none => rfl
      | some contents =>
        simp only [Action.on_bind, Action.on_ofExcept]
        cases Refer.parse contents (shardPath (LinkText.shardName key)) <;> rfl

/-- An entry goes in front of the others; its key and the name that it prefers become known. -/
theorem addEntry_eq (e : BiblioEntry) : ∃ aliases knownKeys,
    store.addEntry e = { store with
      entries := (Text.lowercase e.key, e) :: store.entries, aliases, knownKeys } ∧
    store.knownKeys ⊆ knownKeys ∧ (e.preferredAlias = none → aliases = store.aliases) := by
  rw [addEntry]
  cases e.preferredAlias with
  | none => exact ⟨_, _, rfl, List.subset_cons_self _ _, fun _ => rfl⟩
  | some name =>
    have named (aliases : List (String × String)) : some name = none → aliases = store.aliases :=
      fun unnamed => absurd unnamed (Option.some_ne_none name)
    simp only [addPreferredAlias]
    split
    · exact ⟨_, _, rfl, List.subset_cons_self _ _, named _⟩
    · split
      · refine ⟨_, _, rfl, fun known member => ?_, named _⟩
        exact List.mem_cons_of_mem _ (List.mem_cons_of_mem _ member)
      · refine ⟨_, _, rfl, fun known member => ?_, named _⟩
        exact List.mem_cons_of_mem _ (List.mem_cons_of_mem _ member)

theorem foldl_addEntry_eq (entries : List BiblioEntry) : ∃ aliases knownKeys,
    entries.foldl addEntry store = { store with
      entries := (entries.map fun e => (Text.lowercase e.key, e)).reverse ++ store.entries
      aliases, knownKeys } ∧
    store.knownKeys ⊆ knownKeys ∧
    ((∀ e ∈ entries, e.preferredAlias = none) → aliases = store.aliases) := by
  induction entries generalizing store with
  | nil => exact ⟨_, _, rfl, List.Subset.refl _, fun _ => rfl⟩
  | cons e rest ih =>
    obtain ⟨first, known, added, more, kept⟩ := store.addEntry_eq e
    obtain ⟨aliases, knownKeys, same, grown, unchanged⟩ := ih (store.addEntry e)
    rw [added] at same grown unchanged
    refine ⟨aliases, knownKeys, ?_, List.Subset.trans more grown, fun unnamed => ?_⟩
    · rw [List.foldl_cons, added, same]
      simp
    · rw [unchanged fun other member => unnamed other (List.mem_cons_of_mem e member),
        kept (unnamed e List.mem_cons_self)]

/-- The contents of a file go in front of what is there, its aliases included. -/
theorem addContents_eq (contents : Specref.Contents) : ∃ aliases knownKeys,
    store.addContents contents = { store with
      entries := (contents.entries.map fun e => (Text.lowercase e.key, e)).reverse ++ store.entries
      aliases, knownKeys } := by
  have aliased (names : List (String × String)) (s : BiblioStore) : ∃ aliases knownKeys,
      names.foldl (fun s a => s.addAlias a.1 a.2) s = { s with aliases, knownKeys } := by
    induction names generalizing s with
    | nil => exact ⟨_, _, rfl⟩
    | cons a rest ih => exact ih (s.addAlias a.1 a.2)
  obtain ⟨_, _, added, -⟩ := store.foldl_addEntry_eq contents.entries
  obtain ⟨aliases, knownKeys, named⟩ :=
    aliased contents.aliases (contents.entries.foldl addEntry store)
  exact ⟨aliases, knownKeys, by rw [addContents, named, added]⟩

theorem preferredAlias_of_mem_incoming : ∀ e ∈ store.incoming key, e.preferredAlias = none := by
  rw [incoming]
  split
  · exact fun e member => absurd member List.not_mem_nil
  · split
    next entries read => exact preferredAlias_of_readShard read
    next => exact fun e member => absurd member List.not_mem_nil

theorem asked_knownKeys : (store.asked key).knownKeys = store.knownKeys := by
  rw [asked]
  split <;> rfl

/-- Loading a shard adds entries and known keys, and notes the shard. -/
theorem opened_eq : ∃ knownKeys, store.opened key = { store.asked key with
    entries := ((store.incoming key).map fun e => (Text.lowercase e.key, e)).reverse ++ store.entries
    knownKeys } ∧ store.knownKeys ⊆ knownKeys := by
  obtain ⟨aliases, knownKeys, same, grown, kept⟩ :=
    (store.asked key).foldl_addEntry_eq (store.incoming key)
  rw [kept (store.preferredAlias_of_mem_incoming key)] at same
  have entries : (store.asked key).entries = store.entries := by
    rw [asked]
    split <;> rfl
  exact ⟨knownKeys, by rw [opened, same, entries], store.asked_knownKeys key ▸ grown⟩

@[simp] theorem opened_source : (store.opened key).source = store.source := by
  obtain ⟨knownKeys, same, -⟩ := store.opened_eq key
  rw [same, asked]
  split <;> rfl

@[simp] theorem opened_aliases : (store.opened key).aliases = store.aliases := by
  obtain ⟨knownKeys, same, -⟩ := store.opened_eq key
  rw [same, asked]
  split <;> rfl

theorem subset_opened_knownKeys : store.knownKeys ⊆ (store.opened key).knownKeys := by
  obtain ⟨knownKeys, same, grown⟩ := store.opened_eq key
  rw [same]
  exact grown

theorem opened_loaded : (store.opened key).loaded = (store.asked key).loaded := by
  obtain ⟨knownKeys, same, -⟩ := store.opened_eq key
  rw [same]

@[simp] theorem opened_specs : (store.opened key).specs = store.specs := by
  obtain ⟨knownKeys, same, -⟩ := store.opened_eq key
  rw [same, asked]
  split <;> rfl

theorem subset_opened_loaded : store.loaded ⊆ (store.opened key).loaded := by
  rw [opened_loaded, asked]
  split
  · exact List.Subset.refl _
  · exact List.subset_cons_self _ _

theorem entriesFor_opened (other : String) : (store.opened key).entriesFor other =
    ((store.incoming key).filter fun e => Text.lowercase e.key == other).reverse ++
      store.entriesFor other := by
  obtain ⟨knownKeys, same, -⟩ := store.opened_eq key
  rw [entriesFor, same, entriesFor, List.filter_append, List.map_append, List.filter_reverse,
    List.map_reverse, List.filter_map, List.map_map]
  simp [Function.comp_def]

end Opened

/-- What every opening of a shard keeps survives a lookup and all its parts. -/
theorem composes_preserves {holds : BiblioStore → Prop}
    (opens : ∀ key store, holds store → holds (store.opened key)) :
    Composes (Action.Preserves holds) where
  answer := Action.preserves_pure
  read _ each store h := each store store h
  chain := Action.preserves_bind
  load key store h := by
    rw [loadShard_on]
    exact opens key store h

section Sorted

variable {store : BiblioStore} {key other : String}

theorem opened_of_shardName_eq (same : LinkText.shardName key = LinkText.shardName other) :
    store.opened key = store.opened other := by
  rw [opened, opened, incoming, incoming, asked, asked, same]

theorem contains_opened (store : BiblioStore) (key : String) :
    (store.opened key).loaded.contains (LinkText.shardName key) = true := by
  rw [opened_loaded, asked]
  split
  next present => exact present
  next => simp

/-- A shard is loaded once. -/
theorem opened_of_contains (loaded : store.loaded.contains (LinkText.shardName key) = true) :
    store.opened key = store := by
  rw [opened, incoming, asked, if_pos loaded, if_pos loaded, List.foldl_nil]

theorem opened_opened (store : BiblioStore) (key : String) :
    (store.opened key).opened key = store.opened key :=
  opened_of_contains (contains_opened store key)

/-- Loading one shard leaves open what another one has to add. -/
theorem incoming_opened (apart : LinkText.shardName key ≠ LinkText.shardName other) :
    (store.opened other).incoming key = store.incoming key := by
  have listed : (store.opened other).loaded.contains (LinkText.shardName key) =
      store.loaded.contains (LinkText.shardName key) := by
    rw [opened_loaded, asked]
    split
    · rfl
    · simp [apart]
  rw [incoming, incoming, listed, opened_source]

/-- What a sorted shard adds belongs to it. -/
theorem shardName_of_mem_incoming (sorted : ShardsSorted store.source) {e : BiblioEntry}
    (member : e ∈ store.incoming key) : LinkText.shardName e.key = LinkText.shardName key := by
  rw [incoming] at member
  split at member
  · exact absurd member List.not_mem_nil
  · split at member
    next entries read => exact sorted key entries read e member
    next => exact absurd member List.not_mem_nil

/-- The entries under a key do not depend on which other shards are loaded. -/
theorem entriesFor_opened_opened (sorted : ShardsSorted store.source) (key other : String) :
    ((store.opened other).opened key).entriesFor key = (store.opened key).entriesFor key := by
  by_cases same : LinkText.shardName key = LinkText.shardName other
  · rw [opened_of_shardName_eq same, opened_opened, opened_of_shardName_eq same]
  · have foreign : (store.incoming other).filter (fun e => Text.lowercase e.key == key) = [] := by
      refine List.filter_eq_nil_iff.2 fun e member fits => same ?_
      rw [← beq_iff_eq.1 fits, LinkText.shardName_lowercase]
      exact shardName_of_mem_incoming sorted member
    rw [entriesFor_opened, entriesFor_opened, entriesFor_opened, incoming_opened same, foreign,
      List.reverse_nil, List.nil_append]

end Sorted

theorem mem_versions_iff {store : BiblioStore} {base key : String} :
    key ∈ store.versions base ↔ key ∈ store.knownKeys ∧ isVersionOf base key = true :=
  SortedSet.mem_ofList.trans List.mem_filter

/-- The entry under a key, once its shard is loaded. -/
def entryFor? (store : BiblioStore) (key : String) : Option BiblioEntry :=
  (store.opened key).entryUnder? key

/-- The second store is what lookups may have made of the first: it answers for every key alike, and
knows no fewer keys. -/
structure Follows (store other : BiblioStore) : Prop where
  source : other.source = store.source
  aliases : other.aliases = store.aliases
  entryFor : ∀ key, other.entryFor? key = store.entryFor? key
  known : store.knownKeys ⊆ other.knownKeys

namespace Follows

variable {store other third : BiblioStore}

theorem refl (store : BiblioStore) : Follows store store :=
  ⟨rfl, rfl, fun _ => rfl, List.Subset.refl _⟩

theorem trans (first : Follows store other) (second : Follows other third) :
    Follows store third where
  source := second.source.trans first.source
  aliases := second.aliases.trans first.aliases
  entryFor key := (second.entryFor key).trans (first.entryFor key)
  known := List.Subset.trans first.known second.known

theorem opened (follows : Follows store other) (sorted : ShardsSorted store.source) (key : String) :
    Follows store (other.opened key) where
  source := by rw [opened_source, follows.source]
  aliases := by rw [opened_aliases, follows.aliases]
  entryFor asked := by
    rw [← follows.entryFor, entryFor?, entryFor?, entryUnder?, entryUnder?,
      entriesFor_opened_opened (follows.source ▸ sorted)]
  known := List.Subset.trans follows.known (subset_opened_knownKeys _ _)

/-- What a lookup leaves follows what it met and all that this follows. -/
theorem lookup (sorted : ShardsSorted store.source) (request : BiblioRequest) (status : Status) :
    Action.Preserves (Follows store) (lookup request status) :=
  (composes_preserves fun key _ follows => follows.opened sorted key).lookup request status

theorem aliasTarget? (follows : Follows store other) (key : String) :
    other.aliasTarget? key = store.aliasTarget? key := by
  rw [BiblioStore.aliasTarget?, BiblioStore.aliasTarget?, follows.aliases]

/-- A name of which numbered keys are known keeps them. -/
theorem versions (follows : Follows store other) {base : String}
    (numbered : store.versions base ≠ []) : other.versions base ≠ [] := by
  obtain ⟨key, member⟩ := List.exists_mem_of_ne_nil _ numbered
  obtain ⟨known, version⟩ := mem_versions_iff.1 member
  exact List.ne_nil_of_mem (mem_versions_iff.2 ⟨follows.known known, version⟩)

end Follows

section Lookup

/-- The entry under a key or under the key that it stands for. -/
def directFor? (store : BiblioStore) (key : String) : Option BiblioEntry :=
  store.entryFor? key <|> (store.aliasTarget? key).bind store.entryFor?

/-- What a key comes to before succession, if the numbered keys are those that `mid` knows. -/
def keyAnswer (store mid : BiblioStore) (key : String) : BiblioAnswer :=
  match store.directFor? key with
  | some e => .found e
  | none =>
    match unversioned? key with
    | none => .missing
    | some base =>
      match store.directFor? base with
      | none => .missing
      | some e =>
        if (mid.versions base).isEmpty then .found e else .wrongVersion (mid.versions base)

/-- What an entry comes to once its successor is looked up. -/
def followed (store : BiblioStore) (e : BiblioEntry) : BiblioAnswer :=
  match e.supersededBy with
  | none => .found e
  | some next =>
    match store.directFor? next with
    | some successor => .succeeded e successor
    | none => .noSuccessor e next

/-- What a key comes to, if the numbered keys are those that `mid` knows. -/
def answerFor (store mid : BiblioStore) (key : String) (allowObsolete : Bool) : BiblioAnswer :=
  match store.keyAnswer mid key with
  | .found e => if allowObsolete then .found e else store.followed e
  | answer => answer

variable {store : BiblioStore}

theorem Follows.directFor? {other : BiblioStore} (follows : Follows store other) (key : String) :
    other.directFor? key = store.directFor? key := by
  have same : other.entryFor? = store.entryFor? := funext follows.entryFor
  rw [BiblioStore.directFor?, BiblioStore.directFor?, same, follows.aliasTarget?]

theorem Follows.answerFor {other : BiblioStore} (follows : Follows store other)
    (mid : BiblioStore) (key : String) (allowObsolete : Bool) :
    other.answerFor mid key allowObsolete = store.answerFor mid key allowObsolete := by
  simp only [BiblioStore.answerFor, keyAnswer, followed, follows.directFor?]

theorem findExact_on (loads : ShardsLoad store.source) (key : String) :
    (findExact key).on store = (.ok (store.entryFor? key), store.opened key) := by
  obtain ⟨entries, read⟩ := loads key
  have opens : store.opening key = .ok () := by
    rw [opening, read]
    split <;> rfl
  simp only [findExact, Action.on_bind, loadShard_on, opens, Action.on_get, Action.on_pure,
    entryFor?]

/-- The store once a key, and the key that it stands for, have been looked up. -/
def searched (store : BiblioStore) (key : String) : BiblioStore := ((findDirect key).on store).2

theorem findDirect_on (loads : ShardsLoad store.source) (sorted : ShardsSorted store.source)
    (key : String) : Follows store (store.searched key) ∧
      (store.searched key).loaded.contains (LinkText.shardName key) = true ∧
      (findDirect key).on store = (.ok (store.directFor? key), store.searched key) := by
  have first : Follows store (store.opened key) := (Follows.refl store).opened sorted key
  have listed := contains_opened store key
  simp only [searched, findDirect, Action.on_bind, findExact_on loads, directFor?]
  cases store.entryFor? key with
  | some e => exact ⟨first, listed, rfl⟩
  | none =>
    simp only [Action.on_bind, Action.on_get, first.aliasTarget?]
    cases store.aliasTarget? key with
    | none => exact ⟨first, listed, rfl⟩
    | some target =>
      simp only [findExact_on (first.source ▸ loads), first.entryFor]
      refine ⟨first.opened sorted target, List.contains_iff_mem.2 ?_, rfl⟩
      exact subset_opened_loaded _ target (List.contains_iff_mem.1 listed)

/-- A lookup answers from the stores that its steps leave, of which the numbered keys that are known
after the first step are the only thing that matters. -/
theorem findKey_on (loads : ShardsLoad store.source) (sorted : ShardsSorted store.source)
    (key : String) : ∃ after, Follows (store.searched key) after ∧
      (findKey key).on store = (.ok (store.keyAnswer (store.searched key) key), after) := by
  obtain ⟨first, -, ran⟩ := findDirect_on loads sorted key
  simp only [findKey, Action.on_bind, ran, keyAnswer]
  cases store.directFor? key with
  | some e => exact ⟨_, .refl _, rfl⟩
  | none =>
    cases unversioned? key with
    | none => exact ⟨_, .refl _, rfl⟩
    | some base =>
      obtain ⟨second, -, again⟩ :=
        findDirect_on (first.source ▸ loads) (first.source ▸ sorted) base
      refine ⟨_, second, ?_⟩
      simp only [Action.on_bind, Action.on_get, again, first.directFor?]
      cases store.directFor? base <;> rfl

theorem follow_on (loads : ShardsLoad store.source) (sorted : ShardsSorted store.source)
    (e : BiblioEntry) : ∃ after, Follows store after ∧
      (follow e).on store = (.ok (store.followed e), after) := by
  rw [follow, followed]
  cases e.supersededBy with
  | none => exact ⟨store, .refl store, rfl⟩
  | some next =>
    obtain ⟨follows, -, ran⟩ := findDirect_on loads sorted next
    refine ⟨_, follows, ?_⟩
    simp only [Action.on_bind, ran]
    cases store.directFor? next <;> rfl

theorem find_on (loads : ShardsLoad store.source) (sorted : ShardsSorted store.source)
    (key : String) (allowObsolete : Bool) : ∃ after, Follows (store.searched key) after ∧
      (find key allowObsolete).on store =
        (.ok (store.answerFor (store.searched key) key allowObsolete), after) := by
  obtain ⟨after, second, ran⟩ := findKey_on loads sorted key
  have behind := (findDirect_on loads sorted key).1.trans second
  simp only [find, Action.on_bind, ran, answerFor]
  cases store.keyAnswer (store.searched key) key with
  | succeeded | noSuccessor | wrongVersion | missing => exact ⟨after, second, rfl⟩
  | found e =>
    cases allowObsolete with
    | true => exact ⟨after, second, rfl⟩
    | false =>
      -- The successor is looked up in what the search for the entry left.
      obtain ⟨last, third, ends⟩ := follow_on (behind.source ▸ loads) (behind.source ▸ sorted) e
      have same : after.followed e = store.followed e := by
        simp only [followed, behind.directFor?]
      rw [same] at ends
      exact ⟨last, second.trans third, ends⟩

/-- A key without an entry has none either when more numbered keys are known. -/
theorem genuine?_answerFor_eq_none {mid later : BiblioStore} (follows : Follows mid later)
    {key : String} {allowObsolete : Bool}
    (empty : (store.answerFor mid key allowObsolete).genuine? = none) :
    (store.answerFor later key allowObsolete).genuine? = none := by
  rw [answerFor, keyAnswer] at empty ⊢
  cases direct : store.directFor? key with
  | some e =>
    rw [direct] at empty
    exact empty
  | none =>
    rw [direct] at empty
    cases numbered : unversioned? key with
    | none => rfl
    | some base =>
      rw [numbered] at empty
      simp only at empty ⊢
      cases bare : store.directFor? base with
      | none => rfl
      | some e =>
        rw [bare] at empty
        simp only at empty ⊢
        cases known : later.versions base with
        -- The key is refused for the numbered ones.
        | cons version others => rfl
        | nil =>
          have unknown : mid.versions base = [] :=
            Decidable.byContradiction fun listed => follows.versions listed known
          rw [unknown] at empty
          exact empty

theorem deliver_of_strict (store : BiblioStore) {request : BiblioRequest}
    (strict : request.standIn = false) (status : Status) (answer : BiblioAnswer) :
    store.deliver request status answer = answer.genuine? := by
  cases answer <;> simp [deliver, BiblioAnswer.genuine?, strict]

/-- A lookup without an entry, unless it wants a stand-in, has none when it is made again after
others. -/
theorem lookup_again (loads : ShardsLoad store.source) (sorted : ShardsSorted store.source)
    {request : BiblioRequest} (strict : request.standIn = false) {status : Status}
    {remark : Option Diagnostic} {next later : BiblioStore}
    (missed : (lookup request status).on store = (.ok (none, remark), next))
    (follows : Follows next later) :
    ∃ remark after, (lookup request status).on later = (.ok (none, remark), after) := by
  have first := (findDirect_on loads sorted request.lookupKey).1
  obtain ⟨after, second, ran⟩ := find_on loads sorted request.lookupKey request.allowObsolete
  simp only [lookup, Action.on_bind, ran, Action.on_get, Action.on_pure,
    deliver_of_strict _ strict] at missed
  obtain ⟨answered, rfl⟩ := Prod.mk.inj missed
  have none := congrArg Prod.fst (Except.ok.inj answered)
  -- The later store is behind every store that the first lookup met.
  have behind : Follows store later := (first.trans second).trans follows
  have first' := (findDirect_on (behind.source ▸ loads) (behind.source ▸ sorted)
    request.lookupKey).1
  obtain ⟨after', second', again⟩ := find_on (behind.source ▸ loads) (behind.source ▸ sorted)
    request.lookupKey request.allowObsolete
  have still := genuine?_answerFor_eq_none ((second.trans follows).trans first') none
  rw [← behind.answerFor] at still
  simp only [lookup, Action.on_bind, again, Action.on_get, Action.on_pure,
    deliver_of_strict _ strict, still]
  exact ⟨_, _, rfl⟩

end Lookup

end BiblioStore

end SpecLink
