import SpecLink.Anchor.Store
import SpecLink.Proofs.Action
import SpecLink.Proofs.Text.Shard

/-!
# Lazy loading of anchors

A lookup opens one shard, and what it answers is read off the opened store (`find_on`). If the
shards hold only texts of their own, the answers do not depend on which shards were opened before
(`matching_opened_opened`); the headings of a spec are the same from the cache as from their file
(`headingsFor_readInto`).
-/
namespace SpecLink.AnchorStore

/-- Every shard has a file of its own. -/
theorem shardPath_injective : Function.Injective shardPath := by
  intro a b same
  have chars : ("anchors/anchors-" ++ a ++ ".json").toList =
      ("anchors/anchors-" ++ b ++ ".json").toList := congrArg String.toList same
  rw [String.toList_append, String.toList_append, String.toList_append, String.toList_append,
    List.append_left_inj, List.append_right_inj] at chars
  exact String.toList_inj.1 chars

/-- The store once the shard of a key is open. A shard that cannot be read changes nothing. -/
def opened (store : AnchorStore) (key : String) : AnchorStore :=
  if store.loaded.contains (LinkText.shardName key) then store
  else
    match readShard store.source (LinkText.shardName key) with
    | .ok candidates =>
      { store.addAll candidates with loaded := LinkText.shardName key :: store.loaded }
    | .error _ => store

/-- Whether the shard of a key opens. -/
def opening (store : AnchorStore) (key : String) : Except Failure Unit :=
  if store.loaded.contains (LinkText.shardName key) then .ok ()
  else (readShard store.source (LinkText.shardName key)).map fun _ => ()

theorem loadShard_on (store : AnchorStore) (key : String) :
    (loadShard key).on store = (store.opening key, store.opened key) := by
  simp only [loadShard, Action.on_bind, Action.on_get]
  by_cases present : store.loaded.contains (LinkText.shardName key) = true
  · simp only [opening, opened, present, if_true, Action.on_pure]
  · simp only [opening, opened, present]
    cases readShard store.source (LinkText.shardName key) <;> rfl

/-- A lookup answers from the opened store, if the shard opens. -/
theorem find_on (store : AnchorStore) (kind : LinkKind) (text : String) :
    (find kind text).on store =
      ((store.opening (LinkText.normalize text)).map fun _ =>
          (store.opened (LinkText.normalize text)).matching kind (LinkText.normalize text),
        store.opened (LinkText.normalize text)) := by
  simp only [find, Action.on_bind, loadShard_on, Action.on_get, Action.on_pure]
  cases store.opening (LinkText.normalize text) <;> rfl

section Opened

variable (store : AnchorStore) (key : String)

theorem opened_eq : store.opened key =
    { store with anchors := (store.opened key).anchors, loaded := (store.opened key).loaded } := by
  rw [opened]
  split
  · rfl
  · split <;> rfl

@[simp] theorem opened_source : (store.opened key).source = store.source := by rw [opened_eq]

@[simp] theorem opened_specs : (store.opened key).specs = store.specs := by rw [opened_eq]

@[simp] theorem opened_headings : (store.opened key).headings = store.headings := by rw [opened_eq]

@[simp] theorem opened_ownShortname : (store.opened key).ownShortname = store.ownShortname := by
  rw [opened_eq]

end Opened

/-- Every shard of a source can be read. -/
def ShardsLoad (source : DataSource) : Prop :=
  ∀ key, ∃ candidates, readShard source (LinkText.shardName key) = .ok candidates

/-- Each shard of a source holds only texts whose normal form belongs to it; candidates are read
with their texts in normal form. -/
def ShardsSorted (source : DataSource) : Prop :=
  ∀ key candidates, readShard source (LinkText.shardName key) = .ok candidates →
    ∀ c ∈ candidates, LinkText.shardName c.text = LinkText.shardName key

/-- The failure comes of a shard that cannot be read. -/
def Unreadable (source : DataSource) (failure : Failure) : Prop :=
  ∃ key, readShard source (LinkText.shardName key) = .error failure

theorem ShardsLoad.not_unreadable {source : DataSource} (loads : ShardsLoad source)
    (failure : Failure) : ¬ Unreadable source failure := by
  rintro ⟨key, failed⟩
  obtain ⟨candidates, read⟩ := loads key
  rw [read] at failed
  cases failed

theorem unreadable_of_opening {store : AnchorStore} {key : String} {failure : Failure}
    (failed : store.opening key = .error failure) : Unreadable store.source failure := by
  rw [opening] at failed
  split at failed
  · cases failed
  · refine ⟨key, ?_⟩
    cases read : readShard store.source (LinkText.shardName key) with
    | ok candidates =>
      rw [read] at failed
      cases failed
    | error other =>
      rw [read] at failed
      obtain rfl := Except.error.inj failed
      rfl

/-- What opening the shard of a key adds to a store. -/
def incoming (store : AnchorStore) (key : String) : List Candidate :=
  if store.loaded.contains (LinkText.shardName key) then []
  else
    match readShard store.source (LinkText.shardName key) with
    | .ok candidates => candidates.map store.filed
    | .error _ => []

theorem opened_anchors (store : AnchorStore) (key : String) :
    (store.opened key).anchors = store.anchors ++ store.incoming key := by
  rw [opened, incoming]
  split
  · exact (List.append_nil _).symm
  · split
    · rfl
    · exact (List.append_nil _).symm

theorem filed_text (store : AnchorStore) (c : Candidate) :
    (store.filed c).text = LinkText.normalize c.text := by
  rw [filed]
  split
  · rw [withhold]
    split <;> rfl
  · rfl

theorem exists_of_mem_incoming {store : AnchorStore} {key : String} {c : Candidate}
    (member : c ∈ store.incoming key) : ∃ candidates,
      readShard store.source (LinkText.shardName key) = .ok candidates ∧
      ∃ raw ∈ candidates, store.filed raw = c := by
  rw [incoming] at member
  split at member
  · exact absurd member List.not_mem_nil
  · split at member
    next candidates read => exact ⟨candidates, read, List.mem_map.1 member⟩
    next => exact absurd member List.not_mem_nil

theorem readShard_ofFiles_empty (shard : String) :
    readShard (.ofFiles ∅) shard = .ok [] := rfl

theorem shardsLoad_ofFiles_empty : ShardsLoad (.ofFiles ∅) :=
  fun _ => ⟨[], readShard_ofFiles_empty _⟩

theorem incoming_of_source_empty {store : AnchorStore} (empty : store.source = .ofFiles ∅)
    (key : String) : store.incoming key = [] := by
  rw [incoming, empty, readShard_ofFiles_empty]
  split
  · rfl
  · rfl

/-- What a sorted shard adds belongs to it. -/
theorem shardName_of_mem_incoming {store : AnchorStore} (sorted : ShardsSorted store.source)
    {key : String} {c : Candidate} (member : c ∈ store.incoming key) :
    LinkText.shardName c.text = LinkText.shardName key := by
  obtain ⟨candidates, read, raw, listed, rfl⟩ := exists_of_mem_incoming member
  rw [filed_text, LinkText.shardName_normalize]
  exact sorted key candidates read raw listed

/-- Opening one shard leaves open what another one has to add. -/
theorem incoming_opened {store : AnchorStore} {key other : String}
    (apart : LinkText.shardName key ≠ LinkText.shardName other) :
    (store.opened other).incoming key = store.incoming key := by
  -- Only its own shard decides whether a key has one to add.
  have listed : (store.opened other).loaded.contains (LinkText.shardName key) =
      store.loaded.contains (LinkText.shardName key) := by
    rw [opened]
    split
    · rfl
    · split
      · simp [apart]
      · rfl
  have filedSame : (store.opened other).filed = store.filed := by
    funext c
    rw [filed, filed, opened_ownShortname]
  rw [incoming, incoming, listed, opened_source, filedSame]

theorem opened_of_shardName_eq {store : AnchorStore} {key other : String}
    (same : LinkText.shardName key = LinkText.shardName other) :
    store.opened key = store.opened other := by
  rw [opened, opened, same]

theorem opened_opened (store : AnchorStore) (key : String) :
    (store.opened key).opened key = store.opened key := by
  by_cases present : store.loaded.contains (LinkText.shardName key) = true
  · have kept : store.opened key = store := if_pos present
    rw [kept, kept]
  · cases read : readShard store.source (LinkText.shardName key) with
    | ok candidates =>
      have listed : (store.opened key).loaded.contains (LinkText.shardName key) = true := by
        rw [opened, if_neg present, read]
        simp
      exact if_pos listed
    | error failure =>
      -- Nothing was listed, so the shard is tried again, with the same outcome.
      have kept : store.opened key = store := by rw [opened, if_neg present, read]
      rw [kept, kept]

/-- What is found under a key does not depend on which other shards are open. -/
theorem matching_opened_opened {store : AnchorStore} (sorted : ShardsSorted store.source)
    (kind : LinkKind) (key other : String) :
    ((store.opened other).opened key).matching kind key = (store.opened key).matching kind key := by
  by_cases same : LinkText.shardName key = LinkText.shardName other
  -- One shard, which is opened only once.
  · rw [opened_of_shardName_eq same, opened_opened, opened_of_shardName_eq same]
  -- Two shards, of which the other one has nothing under the key.
  · have foreign : (store.incoming other).filter (fun c => c.text == key && kind.accepts c.kind)
        = [] := by
      refine List.filter_eq_nil_iff.2 fun c member fits => same ?_
      have text : c.text = key := beq_iff_eq.1 (Bool.and_eq_true _ _ ▸ fits).1
      rw [← text]
      exact shardName_of_mem_incoming sorted member
    simp only [matching, opened_anchors, List.filter_append, incoming_opened same, foreign,
      List.append_nil]

/-- The headings of a spec, from the cache or else from their file. -/
def headingsFor (store : AnchorStore) (spec : String) : Except Failure HeadingTable :=
  match store.headings.get? spec with
  | some table => .ok table
  | none => readHeadings store.source spec

/-- The store once the headings of a spec are in the cache. A file that cannot be read changes
nothing. -/
def readInto (store : AnchorStore) (spec : String) : AnchorStore :=
  match store.headings.get? spec with
  | some _ => store
  | none =>
    match readHeadings store.source spec with
    | .ok table => { store with headings := store.headings.insert spec table }
    | .error _ => store

theorem headingsOf_on (store : AnchorStore) (spec : String) :
    (headingsOf spec).on store = (store.headingsFor spec, store.readInto spec) := by
  simp only [headingsOf, headingsFor, readInto, Action.on_bind, Action.on_get]
  cases store.headings.get? spec with
  | some table => rfl
  | none =>
    simp only [Action.on_bind, Action.on_ofExcept]
    cases readHeadings store.source spec <;> rfl

theorem readInto_eq (store : AnchorStore) (spec : String) :
    store.readInto spec = { store with headings := (store.readInto spec).headings } := by
  rw [readInto]
  split
  · rfl
  · split <;> rfl

/-- The cache answers for every spec what the file would. -/
theorem headingsFor_readInto (store : AnchorStore) (spec other : String) :
    (store.readInto spec).headingsFor other = store.headingsFor other := by
  have source : (store.readInto spec).source = store.source := by rw [readInto_eq]
  rw [headingsFor, headingsFor, source, readInto]
  cases cached : store.headings.get? spec with
  | some table => rfl
  | none =>
    cases read : readHeadings store.source spec with
    | error failure => rfl
    | ok table =>
      -- The table in the cache is the one that was read from the file.
      by_cases same : other = spec
      · simp [same, cached, read]
      · simp [SortedMap.get?_insert, same]

theorem opened_readInto (store : AnchorStore) (spec key : String) :
    (store.readInto spec).opened key =
      { store.opened key with headings := (store.readInto spec).headings } := by
  rw [readInto_eq, opened, opened]
  simp only
  split
  · rfl
  · split <;> rfl

/-- Two stores answer every lookup alike, whatever they have loaded. -/
structure Agrees (store other : AnchorStore) : Prop where
  source : other.source = store.source
  specs : other.specs = store.specs
  matching : ∀ kind key,
    (other.opened key).matching kind key = (store.opened key).matching kind key
  headings : ∀ spec, other.headingsFor spec = store.headingsFor spec

namespace Agrees

theorem refl (store : AnchorStore) : Agrees store store :=
  ⟨rfl, rfl, fun _ _ => rfl, fun _ => rfl⟩

theorem opened {store other : AnchorStore} (agrees : Agrees store other)
    (sorted : ShardsSorted store.source) (key : String) : Agrees store (other.opened key) where
  source := by rw [opened_source, agrees.source]
  specs := by rw [opened_specs, agrees.specs]
  matching kind asked :=
    (matching_opened_opened (agrees.source ▸ sorted) kind asked key).trans
      (agrees.matching kind asked)
  headings spec := by
    rw [← agrees.headings, headingsFor, headingsFor, opened_headings, opened_source]

theorem readInto {store other : AnchorStore} (agrees : Agrees store other) (spec : String) :
    Agrees store (other.readInto spec) where
  source := by rw [readInto_eq, agrees.source]
  specs := by rw [readInto_eq, agrees.specs]
  matching kind key := by
    rw [← agrees.matching, opened_readInto]
    rfl
  headings asked := by rw [headingsFor_readInto, agrees.headings]

end Agrees

end SpecLink.AnchorStore
