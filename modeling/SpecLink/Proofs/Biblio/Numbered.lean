import Mathlib.Data.List.Basic
import SpecLink.Proofs.Biblio.History
import SpecLink.Proofs.Sorted

/-!
# Numbered keys and earlier lookups

A key with a number stands for the key without it unless numbered keys of that name are known, and
keys become known with their shards. The numbered keys of a name with two letters or digits at least
are all in one shard, which the lookup itself asks for first; those of a shorter name are in several,
and which of them are known depends on earlier lookups. Main statement: `entry_of_histories`.
-/
namespace SpecLink.BiblioStore

variable {base store : BiblioStore} {key name : String}

section Names

theorem eq_append_of_isVersionOf (numbered : isVersionOf name key = true) :
    ∃ number, key = name ++ "-" ++ number := by
  rw [isVersionOf] at numbered
  split at numbered
  next number cut =>
    refine ⟨number, ?_⟩
    obtain ⟨rest, split, rfl⟩ := Option.map_eq_some_iff.1 cut
    rw [← String.toList_inj, String.toList_append, String.toList_ofList,
      List.isPrefixOf?_eq_some_iff_append_eq.1 split]
  next => cases numbered

theorem eq_append_of_unversioned? (numbered : unversioned? key = some name) :
    ∃ number, key = name ++ number := by
  rw [unversioned?] at numbered
  split at numbered
  next before cut =>
    split at numbered
    · cases numbered
    · obtain rfl := Option.some.inj numbered
      -- Read backwards, the key is its number, a hyphen and the name.
      have whole := List.takeWhile_append_dropWhile (p := Text.isDecimalDigit)
        (l := key.toList.reverse)
      rw [cut] at whole
      generalize key.toList.reverse.takeWhile Text.isDecimalDigit = digits at whole
      refine ⟨String.ofList ('-' :: digits.reverse), ?_⟩
      rw [← String.toList_inj, String.toList_append, String.toList_ofList, String.toList_ofList,
        ← List.reverse_reverse key.toList, ← whole, List.reverse_append, List.reverse_cons,
        List.append_assoc, List.singleton_append]
  next => cases numbered

theorem versions_eq_nil_iff :
    store.versions name = [] ↔ ∀ k ∈ store.knownKeys, isVersionOf name k = false := by
  rw [List.eq_nil_iff_forall_not_mem]
  simp only [mem_versions_iff, not_and, Bool.not_eq_true]

end Names

section Known

theorem mem_knownKeys_foldl {entries : List BiblioEntry}
    (unnamed : ∀ e ∈ entries, e.preferredAlias = none) (store : BiblioStore) :
    key ∈ (entries.foldl addEntry store).knownKeys ↔
      key ∈ store.knownKeys ∨ ∃ e ∈ entries, Text.lowercase e.key = key := by
  induction entries generalizing store with
  | nil => simp
  | cons e rest ih =>
    have own : e.preferredAlias = none := unnamed e List.mem_cons_self
    have added : (store.addEntry e).knownKeys = Text.lowercase e.key :: store.knownKeys := by
      simp only [addEntry, own, know]
    rw [List.foldl_cons, ih fun other member => unnamed other (List.mem_cons_of_mem e member),
      added]
    simp only [List.mem_cons, exists_eq_or_imp, or_assoc]
    constructor
    · rintro (rfl | known | later)
      · exact .inr (.inl rfl)
      · exact .inl known
      · exact .inr (.inr later)
    · rintro (known | rfl | later)
      · exact .inr (.inl known)
      · exact .inl rfl
      · exact .inr (.inr later)

/-- With a shard its keys become known, and no others. -/
theorem mem_opened_knownKeys (store : BiblioStore) (shard key : String) :
    key ∈ (store.opened shard).knownKeys ↔
      key ∈ store.knownKeys ∨ ∃ e ∈ store.incoming shard, Text.lowercase e.key = key := by
  refine (mem_knownKeys_foldl (store.preferredAlias_of_mem_incoming shard) _).trans ?_
  simp only [asked_knownKeys]

/-- Whether a key is known once its shard is loaded does not depend on the other shards. -/
theorem mem_opened_opened_knownKeys (sorted : ShardsSorted store.source) (key shard : String) :
    key ∈ ((store.opened shard).opened key).knownKeys ↔ key ∈ (store.opened key).knownKeys := by
  by_cases same : LinkText.shardName key = LinkText.shardName shard
  · rw [opened_of_shardName_eq same, opened_opened, opened_of_shardName_eq same]
  · have foreign : ¬ ∃ e ∈ store.incoming shard, Text.lowercase e.key = key := by
      rintro ⟨e, member, lower⟩
      refine same ?_
      rw [← lower, LinkText.shardName_lowercase]
      exact shardName_of_mem_incoming sorted member
    rw [mem_opened_knownKeys, mem_opened_knownKeys, mem_opened_knownKeys, incoming_opened same,
      or_iff_left foreign]

/-- The store answers like the base and differs from it only in the shards that it has loaded. -/
structure Stocks (base store : BiblioStore) : Prop extends Follows base store where
  specs : store.specs = base.specs
  fills : ∀ key, key ∈ (store.opened key).knownKeys ↔ key ∈ (base.opened key).knownKeys

theorem Stocks.opened (stocks : Stocks base store) (sorted : ShardsSorted base.source)
    (shard : String) : Stocks base (store.opened shard) where
  toFollows := stocks.toFollows.opened sorted shard
  specs := by rw [opened_specs, stocks.specs]
  fills key := by
    rw [mem_opened_opened_knownKeys (stocks.source ▸ sorted), stocks.fills]

theorem composes_stocks (sorted : ShardsSorted base.source) :
    Composes (Action.Preserves (Stocks base)) :=
  composes_preserves fun key _ stocks => stocks.opened sorted key

/-- If a name has two letters or digits at least, a lookup of one of its numbered keys knows of the
others, whatever was loaded before. -/
theorem Stocks.versions_eq_nil_iff (stocks : Stocks base store)
    (loaded : store.loaded.contains (LinkText.shardName key) = true)
    (numbered : unversioned? key = some name) (full : '_' ∉ (LinkText.shardName name).toList) :
    store.versions name = [] ↔
      ∀ k ∈ (base.opened key).knownKeys, isVersionOf name k = false := by
  -- All numbered keys of the name are in the shard of the key.
  have shard {k : String} (version : isVersionOf name k = true) :
      LinkText.shardName k = LinkText.shardName key := by
    obtain ⟨number, rfl⟩ := eq_append_of_isVersionOf version
    obtain ⟨own, rfl⟩ := eq_append_of_unversioned? numbered
    rw [String.append_assoc, LinkText.shardName_append full, LinkText.shardName_append full]
  have alike {k : String} (version : isVersionOf name k = true) :
      k ∈ store.knownKeys ↔ k ∈ (base.opened key).knownKeys := by
    rw [← opened_of_shardName_eq (shard version), ← stocks.fills,
      opened_of_contains (shard version ▸ loaded)]
  rw [BiblioStore.versions_eq_nil_iff]
  constructor
  · intro none k known
    refine Bool.eq_false_iff.2 fun version => ?_
    exact Bool.eq_false_iff.1 (none k ((alike version).2 known)) version
  · intro none k known
    refine Bool.eq_false_iff.2 fun version => ?_
    exact Bool.eq_false_iff.1 (none k ((alike version).1 known)) version

end Known

section Shelves

/-- The source with the given shards and no other file. -/
def shelves (shards : List (String × String)) : DataSource :=
  .ofFiles (.ofList (shards.map fun s => (shardPath s.1, s.2)))

/-- Whether each shard can be read and holds only entries of its own. -/
def tidy (shards : List (String × String)) : Bool :=
  shards.all fun s =>
    match Refer.parse s.2 (shardPath s.1) with
    | .ok entries => entries.all fun e => LinkText.shardName e.key == s.1
    | .error _ => false

theorem readShard_shelves (shards : List (String × String)) (shard : String) :
    readShard (shelves shards) shard = .ok [] ∨
      ∃ s ∈ shards, s.1 = shard ∧
        readShard (shelves shards) shard = Refer.parse s.2 (shardPath shard) := by
  rw [readShard_eq, shelves, DataSource.ofFiles]
  simp only
  cases file : (SortedMap.ofList (shards.map fun s => (shardPath s.1, s.2))).get?
      (shardPath shard) with
  | none => exact .inl rfl
  | some contents =>
    obtain ⟨s, member, same⟩ := List.mem_map.1 (SortedMap.mem_of_get?_ofList file)
    obtain ⟨path, rfl⟩ := Prod.mk.inj same
    exact .inr ⟨s, member, shardPath_injective path, rfl⟩

theorem shards_of_tidy {shards : List (String × String)} (fine : tidy shards = true) :
    ShardsLoad (shelves shards) ∧ ShardsSorted (shelves shards) := by
  have each (key : String) : ∃ entries, readShard (shelves shards) (LinkText.shardName key) =
      .ok entries ∧ ∀ e ∈ entries, LinkText.shardName e.key = LinkText.shardName key := by
    rcases readShard_shelves shards (LinkText.shardName key) with none | ⟨s, member, same, read⟩
    · exact ⟨[], none, fun e listed => absurd listed List.not_mem_nil⟩
    · have own := List.all_eq_true.1 fine s member
      rw [same, ← read] at own
      split at own
      next entries parsed =>
        exact ⟨entries, parsed, fun e listed => beq_iff_eq.1 (List.all_eq_true.1 own e listed)⟩
      next => cases own
  constructor
  · intro key
    obtain ⟨entries, read, -⟩ := each key
    exact ⟨entries, read⟩
  · intro key entries found
    obtain ⟨others, read, own⟩ := each key
    obtain rfl : others = entries := Except.ok.inj (read.symm.trans found)
    exact own

end Shelves

section Histories

/-- The store after lookups, the first one first. -/
def lookups (history : List (BiblioRequest × Status)) (store : BiblioStore) : BiblioStore :=
  history.foldl (fun s call => ((lookup call.1 call.2).on s).2) store

/-- The entry that a request gets after other lookups. -/
def entryAfter (store : BiblioStore) (history : List (BiblioRequest × Status))
    (request : BiblioRequest) (status : Status) : Except Failure (Option BiblioEntry) :=
  ((lookup request status).on (lookups history store)).1.map Prod.fst

/-- The numbered keys of a name that a lookup knows of after other lookups. -/
def versionsAfter (store : BiblioStore) (history : List (BiblioRequest × Status))
    (key name : String) : List String :=
  ((lookups history store).searched key).versions name

theorem stocks_lookups (sorted : ShardsSorted base.source)
    (history : List (BiblioRequest × Status)) (stocks : Stocks base store) :
    Stocks base (lookups history store) := by
  induction history generalizing store with
  | nil => exact stocks
  | cons call rest ih => exact ih ((composes_stocks sorted).lookup call.1 call.2 store stocks)

/-- Of the numbered keys that are known it matters only whether there are any. -/
theorem deliver_answerFor_congr {mid other after last : BiblioStore} {request : BiblioRequest}
    (specs : after.specs = last.specs)
    (alike : ∀ name, unversioned? request.lookupKey = some name →
      (mid.versions name = [] ↔ other.versions name = []))
    (store : BiblioStore) (status : Status) :
    after.deliver request status
        (store.answerFor mid request.lookupKey request.allowObsolete) =
      last.deliver request status
        (store.answerFor other request.lookupKey request.allowObsolete) := by
  have standIn : after.standIn request.lookupKey status = last.standIn request.lookupKey status := by
    simp only [BiblioStore.standIn, specs]
  have deliver (answer : BiblioAnswer) :
      after.deliver request status answer = last.deliver request status answer := by
    cases answer <;> simp only [BiblioStore.deliver, standIn]
  rw [deliver, answerFor, answerFor, keyAnswer, keyAnswer]
  cases store.directFor? request.lookupKey with
  | some e => rfl
  | none =>
    cases numbered : unversioned? request.lookupKey with
    | none => rfl
    | some name =>
      simp only
      cases store.directFor? name with
      | none => rfl
      | some e =>
        have same : (mid.versions name).isEmpty = (other.versions name).isEmpty :=
          Bool.eq_iff_iff.2 (by simpa only [List.isEmpty_iff] using alike name numbered)
        simp only [same]
        -- Which versions the key is refused for does not show in the entry.
        cases (other.versions name).isEmpty <;> rfl

/-- A lookup after others answers as the store that they met, but for the numbered keys that are
known by then. -/
theorem entryAfter_eq (loads : ShardsLoad store.source) (sorted : ShardsSorted store.source)
    (history : List (BiblioRequest × Status)) (request : BiblioRequest) (status : Status) :
    let mid := (lookups history store).searched request.lookupKey
    Stocks store mid ∧ mid.loaded.contains (LinkText.shardName request.lookupKey) = true ∧
    ∃ after : BiblioStore, after.specs = store.specs ∧
      store.entryAfter history request status =
        .ok (after.deliver request (request.status.getD status)
          (store.answerFor mid request.lookupKey request.allowObsolete)) := by
  have stocks : Stocks store (lookups history store) :=
    stocks_lookups sorted history ⟨.refl store, rfl, fun _ => Iff.rfl⟩
  have loads' := stocks.source ▸ loads
  have sorted' := stocks.source ▸ sorted
  obtain ⟨-, listed, -⟩ := findDirect_on loads' sorted' request.lookupKey
  obtain ⟨after, -, ran⟩ := find_on loads' sorted' request.lookupKey request.allowObsolete
  have last : Stocks store after := ((composes_stocks sorted).find _ _).after stocks ran
  refine ⟨(composes_stocks sorted).findDirect _ _ stocks, listed, after, last.specs, ?_⟩
  simp only [entryAfter, lookup, Action.on_bind, ran, Action.on_get, Action.on_pure,
    stocks.toFollows.answerFor]
  rfl

/-- Where every shard can be read and holds only entries of its own, a lookup answers, and with the
same entry whatever was looked up before. The exception are numbered keys of a name with fewer than
two letters or digits, if the earlier lookups differ in whether any numbered key of it is known. -/
theorem entry_of_histories (loads : ShardsLoad store.source) (sorted : ShardsSorted store.source)
    (earlier others : List (BiblioRequest × Status)) (request : BiblioRequest) (status : Status) :
    (∃ e, store.entryAfter earlier request status = .ok e) ∧
    (store.entryAfter earlier request status = store.entryAfter others request status ∨
      ∃ name, unversioned? request.lookupKey = some name ∧
        '_' ∈ (LinkText.shardName name).toList ∧
        ¬(store.versionsAfter earlier request.lookupKey name = [] ↔
          store.versionsAfter others request.lookupKey name = [])) := by
  obtain ⟨stocks, loaded, after, specs, answers⟩ :=
    store.entryAfter_eq loads sorted earlier request status
  obtain ⟨stocks', loaded', after', specs', answers'⟩ :=
    store.entryAfter_eq loads sorted others request status
  refine ⟨⟨_, answers⟩, ?_⟩
  by_cases alike : ∀ name, unversioned? request.lookupKey = some name →
      (store.versionsAfter earlier request.lookupKey name = [] ↔
        store.versionsAfter others request.lookupKey name = [])
  · left
    rw [answers, answers', deliver_answerFor_congr (specs.trans specs'.symm) alike]
  · right
    obtain ⟨name, numbered, differ⟩ : ∃ name, unversioned? request.lookupKey = some name ∧ _ := by
      simpa only [not_forall, exists_prop] using alike
    refine ⟨name, numbered, Decidable.byContradiction fun full => differ ?_, differ⟩
    -- With a full shard name, all numbered keys are in the shard that either lookup asks for.
    exact (stocks.versions_eq_nil_iff loaded numbered full).trans
      (stocks'.versions_eq_nil_iff loaded' numbered full).symm

/-- A name of three letters, with a number in the same shard. -/
def wideShelves : List (String × String) := [("fo", "%L foo\n%T Foo\n\n%L foo-1\n%T Foo 1\n")]

/-- A number that is not there is refused, whether or not the others have been looked up. -/
theorem entryAfter_wideShelves :
    let store := ofSource (shelves wideShelves)
    let history := [({ key := "foo-1" }, .current), ({ key := "bar-7", standIn := true }, .snapshot)]
    store.entryAfter history { key := "foo-2" } .current = .ok none ∧
    store.entryAfter [] { key := "foo-2" } .current = .ok none := by
  intro store history
  obtain ⟨loads, sorted⟩ := shards_of_tidy (by decide +kernel : tidy wideShelves = true)
  have alone : store.entryAfter [] { key := "foo-2" } .current = .ok none := by decide +kernel
  obtain ⟨-, same | ⟨name, numbered, few, -⟩⟩ :=
    store.entry_of_histories loads sorted history [] { key := "foo-2" } .current
  · exact ⟨same.trans alone, alone⟩
  · -- The name has two letters.
    have foo : unversioned? (BiblioRequest.lookupKey { key := "foo-2" }) = some "foo" := by
      decide +kernel
    obtain rfl : "foo" = name := Option.some.inj (foo.symm.trans numbered)
    exact absurd few (by decide +kernel)

/-- A name of one letter, with a number in another shard. -/
def narrowShelves : List (String × String) :=
  [("x_", "%L x\n%T X\n"), ("x1", "%L x-1\n%T X, first\n")]

/-- Whether a number of a short name is refused depends on what was looked up before. -/
theorem entryAfter_narrowShelves :
    let store := ofSource (shelves narrowShelves)
    load (shelves narrowShelves) = .ok store ∧ ShardsLoad store.source ∧ ShardsSorted store.source ∧
    (store.entryAfter [] { key := "x-2" } .current).map (·.map BiblioEntry.key) = .ok (some "x") ∧
    store.entryAfter [({ key := "x-1" }, .current)] { key := "x-2" } .current = .ok none := by
  obtain ⟨loads, sorted⟩ := shards_of_tidy (by decide +kernel : tidy narrowShelves = true)
  exact ⟨rfl, loads, sorted, by decide +kernel, by decide +kernel⟩

end Histories

end SpecLink.BiblioStore
