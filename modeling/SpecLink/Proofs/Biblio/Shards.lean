import SpecLink.Biblio.Store
import SpecLink.Proofs.Action

/-!
# Lazy loading of the bibliography

A lookup loads up to four shards, and what holds of every load of a shard holds of a lookup
(`Composes.lookup`). So it fails only by a shard that cannot be read, and by that of its own key for
sure. Main statements: `failsOnly_lookup` and `lookup_failed`.
-/
namespace SpecLink.BiblioStore

/-- Every shard has a file of its own. -/
theorem shardPath_injective : Function.Injective shardPath := by
  intro a b same
  have chars : ("biblio/biblio-" ++ a ++ ".data").toList =
      ("biblio/biblio-" ++ b ++ ".data").toList := congrArg String.toList same
  rw [String.toList_append, String.toList_append, String.toList_append, String.toList_append,
    List.append_left_inj, List.append_right_inj] at chars
  exact String.toList_inj.1 chars

/-- The entries of a shard, none if it has no file. -/
def readShard (source : DataSource) (shard : String) : Except Failure (List BiblioEntry) := do
  match ← source.fetch (shardPath shard) with
  | none => return []
  | some contents => Refer.parse contents (shardPath shard)

/-- Every shard of a source can be read. -/
def ShardsLoad (source : DataSource) : Prop :=
  ∀ key, ∃ entries, readShard source (LinkText.shardName key) = .ok entries

theorem shardsLoad_ofFiles_empty : ShardsLoad (.ofFiles ∅) := fun _ => ⟨[], rfl⟩

/-- The failure comes of a shard that cannot be read. -/
def Unreadable (source : DataSource) (failure : Failure) : Prop :=
  ∃ key, readShard source (LinkText.shardName key) = .error failure

theorem ShardsLoad.not_unreadable {source : DataSource} (loads : ShardsLoad source)
    (failure : Failure) : ¬ Unreadable source failure := by
  rintro ⟨key, failed⟩
  obtain ⟨entries, read⟩ := loads key
  rw [read] at failed
  cases failed

/-- The property of reading from a given source. -/
def ReadsFrom (source : DataSource) (store : BiblioStore) : Prop := store.source = source

theorem addEntry_source (store : BiblioStore) (entry : BiblioEntry) :
    (store.addEntry entry).source = store.source := by
  rw [addEntry]
  cases entry.preferredAlias with
  | none => rfl
  | some name =>
    simp only [addPreferredAlias]
    split
    · rfl
    · split <;> rfl

theorem foldl_addEntry_source (entries : List BiblioEntry) (store : BiblioStore) :
    (entries.foldl addEntry store).source = store.source := by
  induction entries generalizing store with
  | nil => rfl
  | cons e rest ih => rw [List.foldl_cons, ih, addEntry_source]

/-- A property of actions that holds of answers and of loads of shards and passes on to what is made
of these. What an action reads itself is not the source; that is left to the loads. -/
structure Composes (property : ∀ {α : Type}, Action BiblioStore α → Prop) : Prop where
  answer : ∀ {α : Type} (a : α), property (pure a : Action BiblioStore α)
  read : ∀ {α : Type} {next : BiblioStore → Action BiblioStore α},
    (∀ store source, next { store with source } = next store) →
    (∀ store, property (next store)) → property (get >>= next)
  chain : ∀ {α β : Type} {action : Action BiblioStore α} {next : α → Action BiblioStore β},
    property action → (∀ a, property (next a)) → property (action >>= next)
  load : ∀ key, property (loadShard key)

namespace Composes

variable {property : ∀ {α : Type}, Action BiblioStore α → Prop} (composes : Composes property)

include composes

theorem findExact (key : String) : property (findExact key) :=
  composes.chain (composes.load key) fun _ =>
    composes.read (fun _ _ => rfl) fun _ => composes.answer _

theorem findDirect (key : String) : property (findDirect key) := by
  refine composes.chain (composes.findExact key) fun entry => ?_
  cases entry with
  | some e => exact composes.answer _
  | none =>
    refine composes.read (fun _ _ => rfl) fun store => ?_
    cases store.aliasTarget? key with
    | some target => exact composes.findExact target
    | none => exact composes.answer _

theorem findKey (key : String) : property (findKey key) := by
  refine composes.chain (composes.findDirect key) fun entry => ?_
  cases entry with
  | some e => exact composes.answer _
  | none =>
    cases unversioned? key with
    | none => exact composes.answer _
    | some base =>
      refine composes.read (fun _ _ => rfl) fun store => ?_
      refine composes.chain (composes.findDirect base) fun entry => ?_
      cases entry <;> exact composes.answer _

theorem follow (e : BiblioEntry) : property (follow e) := by
  rw [BiblioStore.follow]
  cases e.supersededBy with
  | none => exact composes.answer _
  | some next =>
    refine composes.chain (composes.findDirect next) fun entry => ?_
    cases entry <;> exact composes.answer _

theorem find (key : String) (allowObsolete : Bool) : property (find key allowObsolete) := by
  refine composes.chain (composes.findKey key) fun answer => ?_
  cases answer with
  | found e =>
    -- A successor is looked up like any other key.
    cases allowObsolete with
    | true => exact composes.answer _
    | false => exact composes.follow e
  | succeeded | noSuccessor | wrongVersion | missing => exact composes.answer _

/-- A lookup is made of answers, of loads of shards, and of reads of what is loaded. -/
theorem lookup (request : BiblioRequest) (status : Status) : property (lookup request status) :=
  composes.chain (composes.find _ _) fun _ =>
    composes.read (fun _ _ => rfl) fun _ => composes.answer _

end Composes

section Lookup

variable {source : DataSource}

theorem failsOnly_loadShard (key : String) :
    Action.FailsOnly (ReadsFrom source) (Unreadable source) (loadShard key) := by
  intro store same
  simp only [loadShard, Action.on_bind, Action.on_get]
  split
  · exact Action.failsOnly_pure () store same
  · -- The load fails with what reading the shard fails with.
    simp only [Action.on_bind, Action.on_set, Action.on_ofExcept]
    cases fetched : store.source.fetch (shardPath (LinkText.shardName key)) with
    | error failure =>
      refine ⟨fun other failed => ⟨key, ?_⟩, same⟩
      obtain rfl : failure = other := Except.error.inj failed
      rw [← same, readShard, fetched]
      rfl
    | ok file =>
      cases file with
      | none => exact Action.failsOnly_pure () _ same
      | some contents =>
        simp only [Action.on_bind, Action.on_ofExcept]
        cases parsed : Refer.parse contents (shardPath (LinkText.shardName key)) with
        | error failure =>
          refine ⟨fun other failed => ⟨key, ?_⟩, same⟩
          obtain rfl : failure = other := Except.error.inj failed
          rw [← same, readShard, fetched]
          simp only [Bind.bind, Except.bind, parsed]
        | ok entries =>
          refine Action.failsOnly_modify (fun s kept => ?_) _ same
          exact (foldl_addEntry_source entries s).trans kept

theorem composes_failsOnly :
    Composes (Action.FailsOnly (ReadsFrom source) (Unreadable source)) where
  answer := Action.failsOnly_pure
  read _ each := Action.failsOnly_bind Action.failsOnly_get each
  chain := Action.failsOnly_bind
  load := failsOnly_loadShard

/-- A lookup fails only by a shard that cannot be read. -/
theorem failsOnly_lookup (request : BiblioRequest) (status : Status) :
    Action.FailsOnly (ReadsFrom source) (Unreadable source) (lookup request status) :=
  composes_failsOnly.lookup request status

/-- If every shard can be read, a lookup answers. -/
theorem lookup_answers {store : BiblioStore} (loads : ShardsLoad store.source)
    (request : BiblioRequest) (status : Status) :
    ∃ answer, ((lookup request status).on store).1 = .ok answer := by
  have reads : ReadsFrom store.source store := rfl
  have fails := (failsOnly_lookup request status store reads).1
  cases outcome : ((lookup request status).on store).1 with
  | ok answer => exact ⟨answer, rfl⟩
  | error failure => exact absurd (fails failure outcome) (loads.not_unreadable failure)

end Lookup

/-- A lookup fails with the shard of its key if that is not loaded yet and cannot be read. -/
theorem lookup_failed {store : BiblioStore} {request : BiblioRequest} {status : Status}
    {failure : Failure}
    (unloaded : store.loaded.contains (LinkText.shardName request.lookupKey) = false)
    (failed : readShard store.source (LinkText.shardName request.lookupKey) = .error failure) :
    ((lookup request status).on store).1 = .error failure := by
  have load : ((loadShard request.lookupKey).on store).1 = .error failure := by
    simp only [loadShard, Action.on_bind, Action.on_get, unloaded, Bool.false_eq_true, if_false,
      Action.on_set, Action.on_ofExcept]
    rw [readShard, bind_error_iff] at failed
    rcases failed with failed | ⟨file, fetched, parsed⟩
    · rw [failed]
    · rw [fetched]
      cases file with
      | none => cases parsed
      | some contents =>
        simp only at parsed
        simp only [Action.on_bind, Action.on_ofExcept, parsed]
  -- Every step of the lookup begins with the one before it.
  have exactly : ((findExact request.lookupKey).on store).1 = .error failure :=
    Action.bind_failed load _
  have direct : ((findDirect request.lookupKey).on store).1 = .error failure :=
    Action.bind_failed exactly _
  have key : ((findKey request.lookupKey).on store).1 = .error failure :=
    Action.bind_failed direct _
  have found : ((find request.lookupKey request.allowObsolete).on store).1 = .error failure :=
    Action.bind_failed key _
  exact Action.bind_failed found _

end SpecLink.BiblioStore
