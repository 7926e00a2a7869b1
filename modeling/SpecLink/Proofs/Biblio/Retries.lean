import SpecLink.Proofs.Biblio.History

/-!
# Shards that cannot be read

A shard counts as loaded from the moment it is asked for, whether it can be read or not. The lookup
that is the first to ask for it fails; every later one, the same lookup included, goes on as if there
were no entries in it. Main statement: `failure_met_once`.
-/
namespace SpecLink.BiblioStore

/-- The outcome of an action that keeps the source and the marks of loaded shards, and that fails only
by a shard which it is the first to ask for. -/
structure Met {α : Type} (before : BiblioStore) (outcome : Except Failure α × BiblioStore) : Prop where
  source : outcome.2.source = before.source
  loaded : before.loaded ⊆ outcome.2.loaded
  failure : ∀ failure, outcome.1 = .error failure →
    ∃ key, LinkText.shardName key ∉ before.loaded ∧ LinkText.shardName key ∈ outcome.2.loaded ∧
      readShard before.source (LinkText.shardName key) = .error failure

/-- The action meets the failure of a shard only if nobody has asked for the shard before. -/
def MeetsOnce {α : Type} (action : Action BiblioStore α) : Prop :=
  ∀ store, Met store (action.on store)

/-- The second source differs from the first in one shard at most. -/
def SameBut (shard : String) (source other : DataSource) : Prop :=
  ∀ name, name ≠ shard → other.fetch (shardPath name) = source.fetch (shardPath name)

/-- Once the shard counts as loaded, the action does not depend on what the source has of it. -/
def Overlooks (shard : String) (other : DataSource) {α : Type} (action : Action BiblioStore α) :
    Prop :=
  ∀ store : BiblioStore, shard ∈ store.loaded → SameBut shard store.source other →
    action.on { store with source := other } =
      ((action.on store).1, { (action.on store).2 with source := other })

section Loads

variable (store : BiblioStore) (key : String)

theorem meetsOnce_loadShard : MeetsOnce (loadShard key) := by
  intro store
  rw [loadShard_on]
  refine ⟨opened_source store key, store.subset_opened_loaded key, fun failure failed => ?_⟩
  simp only [opening] at failed
  split at failed
  · cases failed
  next unasked =>
    refine ⟨key, fun listed => unasked (List.contains_iff_mem.2 listed),
      List.contains_iff_mem.1 (contains_opened store key), ?_⟩
    cases read : readShard store.source (LinkText.shardName key) with
    | ok entries =>
      rw [read] at failed
      cases failed
    | error other =>
      rw [read] at failed
      rw [Except.error.inj failed]

theorem addEntry_withSource (other : DataSource) (e : BiblioEntry) :
    ({ store with source := other } : BiblioStore).addEntry e =
      { store.addEntry e with source := other } := by
  rw [addEntry, addEntry]
  cases e.preferredAlias with
  | none => rfl
  | some name =>
    have target : ({ store with source := other } : BiblioStore).aliasTarget? (Text.lowercase name) =
        store.aliasTarget? (Text.lowercase name) := rfl
    simp only [addPreferredAlias, target]
    split
    · rfl
    · split <;> rfl

theorem foldl_addEntry_withSource (other : DataSource) (entries : List BiblioEntry) :
    entries.foldl addEntry { store with source := other } =
      { entries.foldl addEntry store with source := other } := by
  induction entries generalizing store with
  | nil => rfl
  | cons e rest ih => rw [List.foldl_cons, addEntry_withSource, ih, List.foldl_cons]

theorem readShard_of_sameBut {shard : String} {source other : DataSource}
    (same : SameBut shard source other) {name : String} (apart : name ≠ shard) :
    readShard other name = readShard source name := by
  rw [readShard, readShard, same name apart]

theorem overlooks_loadShard (shard : String) (other : DataSource) :
    Overlooks shard other (loadShard key) := by
  intro store listed same
  rw [loadShard_on, loadShard_on]
  simp only [opening, opened, incoming, asked]
  by_cases loaded : store.loaded.contains (LinkText.shardName key) = true
  · simp only [loaded, if_true, List.foldl_nil]
  · -- What is read now is not the shard in question.
    have apart : LinkText.shardName key ≠ shard := by
      rintro rfl
      exact loaded (List.contains_iff_mem.2 listed)
    simp only [loaded, Bool.false_eq_true, if_false, readShard_of_sameBut same apart]
    rw [← foldl_addEntry_withSource]

end Loads

theorem MeetsOnce.chain {α β : Type} {action : Action BiblioStore α}
    {next : α → Action BiblioStore β} (first : MeetsOnce action)
    (second : ∀ a, MeetsOnce (next a)) : MeetsOnce (action >>= next) := by
  intro store
  have met := first store
  rw [Action.on_bind]
  cases ran : action.on store with
  | mk answer after =>
    rw [ran] at met
    cases answer with
    | error failure =>
      refine ⟨met.source, met.loaded, fun other same => met.failure other ?_⟩
      rw [Except.error.inj same]
    | ok a =>
      have later := second a after
      refine ⟨later.source.trans met.source, List.Subset.trans met.loaded later.loaded,
        fun failure failed => ?_⟩
      -- A shard that the second action is the first to ask for is new to the first one as well.
      obtain ⟨key, fresh, listed, read⟩ := later.failure failure failed
      exact ⟨key, fun before => fresh (met.loaded before), listed, met.source ▸ read⟩

theorem composes_meetsOnce : Composes MeetsOnce where
  answer _ _ := ⟨rfl, List.Subset.refl _, fun _ failed => by cases failed⟩
  read _ each store := each store store
  chain := MeetsOnce.chain
  load := meetsOnce_loadShard

theorem composes_overlooks (shard : String) (other : DataSource) :
    Composes fun action => Overlooks shard other action ∧ MeetsOnce action where
  answer a := ⟨fun _ _ _ => rfl, composes_meetsOnce.answer a⟩
  read blind each := by
    refine ⟨fun store listed same => ?_, composes_meetsOnce.read blind fun s => (each s).2⟩
    have read := (each store).1 store listed same
    simp only [Action.on_bind, Action.on_get, blind, read]
  chain {_ _ action _} first second := by
    refine ⟨fun store listed same => ?_, first.2.chain fun a => (second a).2⟩
    have met := first.2 store
    have overlooked := first.1 store listed same
    rw [Action.on_bind, Action.on_bind, overlooked]
    generalize action.on store = outcome at met
    obtain ⟨answer, after⟩ := outcome
    cases answer with
    | error failure => rfl
    | ok a => exact (second a).1 after (met.loaded listed) (met.source ▸ same)
  load key := ⟨overlooks_loadShard key shard other, meetsOnce_loadShard key⟩

/-- What operations make of a store. -/
inductive Later (store : BiblioStore) : BiblioStore → Prop
  | refl : Later store store
  | lookup {s : BiblioStore} (request : BiblioRequest) (status : Status) :
    Later store s → Later store ((lookup request status).on s).2
  | addEntry {s : BiblioStore} (e : BiblioEntry) : Later store s → Later store (s.addEntry e)
  | addAlias {s : BiblioStore} (name target : String) :
    Later store s → Later store (s.addAlias name target)
  | addSpecref {s : BiblioStore} (text source : String) (order : UInt32) :
    Later store s → Later store ((addSpecref text source order).on s).2
  | specs {s : BiblioStore} (specs : SpecTable) : Later store s → Later store { s with specs }

theorem addContents_marks (store : BiblioStore) (contents : Specref.Contents) :
    (store.addContents contents).source = store.source ∧
      (store.addContents contents).loaded = store.loaded := by
  obtain ⟨aliases, knownKeys, added⟩ := store.addContents_eq contents
  rw [added]
  exact ⟨rfl, rfl⟩

/-- Operations neither change the source nor forget that a shard has been asked for. -/
theorem Later.marks {store later : BiblioStore} (after : Later store later) :
    later.source = store.source ∧ store.loaded ⊆ later.loaded := by
  induction after with
  | refl => exact ⟨rfl, List.Subset.refl _⟩
  | @lookup s request status _ ih =>
    have met := composes_meetsOnce.lookup request status s
    exact ⟨met.source.trans ih.1, List.Subset.trans ih.2 met.loaded⟩
  | @addEntry s e _ ih =>
    obtain ⟨aliases, knownKeys, added, -⟩ := s.addEntry_eq e
    rw [added]
    exact ih
  | addAlias name target _ ih => exact ih
  | @addSpecref s text source order _ ih =>
    simp only [BiblioStore.addSpecref, Action.on_bind, Action.on_ofExcept]
    cases Specref.parse text source order with
    | error failure => exact ih
    | ok contents =>
      obtain ⟨source, loaded⟩ := s.addContents_marks contents
      exact ⟨source.trans ih.1, fun shard listed => loaded ▸ ih.2 listed⟩
  | specs specs _ ih => exact ih

/-- A lookup that fails does so by a shard that nobody has asked for before. Whatever is done with the
store from then on, no lookup, the same one included, depends any more on what the source has of that
shard, and none fails but by another shard that nobody has asked for by then. -/
theorem failure_met_once {store next : BiblioStore} {request : BiblioRequest} {status : Status}
    {failure : Failure} (failed : (lookup request status).on store = (.error failure, next)) :
    ∃ key, LinkText.shardName key ∉ store.loaded ∧
      readShard store.source (LinkText.shardName key) = .error failure ∧
      ∀ later, Later next later → ∀ again status,
        (∀ other, SameBut (LinkText.shardName key) store.source other →
          ((lookup again status).on { later with source := other }).1 =
            ((lookup again status).on later).1) ∧
        ∀ fault, ((lookup again status).on later).1 = .error fault →
          ∃ another, LinkText.shardName another ≠ LinkText.shardName key ∧
            LinkText.shardName another ∉ later.loaded ∧
            readShard store.source (LinkText.shardName another) = .error fault := by
  have met := composes_meetsOnce.lookup request status store
  rw [failed] at met
  obtain ⟨key, fresh, listed, read⟩ := met.failure failure rfl
  refine ⟨key, fresh, read, fun later after again status => ?_⟩
  obtain ⟨kept, marks⟩ := after.marks
  have source : later.source = store.source := kept.trans met.source
  refine ⟨fun other same => ?_, fun fault broken => ?_⟩
  · have overlooked := ((composes_overlooks _ other).lookup again status).1 later (marks listed)
      (source ▸ same)
    rw [overlooked]
  · obtain ⟨another, unasked, -, torn⟩ :=
      (composes_meetsOnce.lookup again status later).failure fault broken
    refine ⟨another, fun same => ?_, unasked, source ▸ torn⟩
    exact unasked (same ▸ marks listed)

/-- A malformed first line of a shard. -/
def torn (shard line : String) : Failure := .parse (.referLine line) (shardPath shard) (some 1)

/-- A store in which `foo` stands for `bar`, with a malformed shard for either. -/
def tornStore : BiblioStore :=
  (ofSource (.ofFiles (.ofList [(shardPath "ba", "bar"), (shardPath "fo", "foo")]))).addAlias
    "foo" "bar"

/-- The lookup of an alias fails by one shard, and when it is made again by the other. -/
theorem failures_of_alias :
    let lookUp := lookup { key := "foo" } .current
    (lookUp.on tornStore).1 = .error (torn "fo" "foo") ∧
    (lookUp.on (lookUp.on tornStore).2).1 = .error (torn "ba" "bar") ∧
    ∃ key another, LinkText.shardName another ≠ LinkText.shardName key ∧
      readShard tornStore.source (LinkText.shardName key) = .error (torn "fo" "foo") ∧
      readShard tornStore.source (LinkText.shardName another) = .error (torn "ba" "bar") := by
  intro lookUp
  have first : (lookUp.on tornStore).1 = .error (torn "fo" "foo") := by decide +kernel
  have second : (lookUp.on (lookUp.on tornStore).2).1 = .error (torn "ba" "bar") := by
    decide +kernel
  obtain ⟨key, -, read, later⟩ := failure_met_once (Prod.ext first rfl)
  obtain ⟨another, apart, -, broken⟩ := (later _ .refl { key := "foo" } .current).2 _ second
  exact ⟨first, second, key, another, apart, read, broken⟩

/-- The failure of a shard does not come back: made again, the lookup finds no entry, or gives a
stand-in. -/
theorem failure_not_met_again :
    let store := ofSource (.ofFiles (.ofList [(shardPath "fo", "foo")]))
    let asking (standIn : Bool) := lookup { key := "foo", standIn } .current
    ((asking false).on store).1 = .error (torn "fo" "foo") ∧
    ((asking false).on ((asking false).on store).2).1 =
      .ok (none, some ⟨.linkError, "Couldn't find 'foo' in bibliography data.", none⟩) ∧
    ((asking true).on store).1 = .error (torn "fo" "foo") ∧
    ((asking true).on ((asking true).on store).2).1 =
      .ok (some { key := "foo", title := "foo", generated := true }, none) := by
  refine ⟨by decide +kernel, by decide +kernel, by decide +kernel, by decide +kernel⟩

end SpecLink.BiblioStore
