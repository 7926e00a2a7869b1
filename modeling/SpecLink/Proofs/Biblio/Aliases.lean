import SpecLink.Proofs.Biblio.Answers
import SpecLink.Proofs.Biblio.Numbered

/-!
# Keys that stand for others

A key without an entry of its own is looked up under the key that it stands for. There the search
ends: what that key stands for in turn, or what its name without a number comes to, is not asked.
Main statement: `lookup_of_alias`.
-/
namespace SpecLink.BiblioStore

variable {store mid : BiblioStore} {key target : String} {e : BiblioEntry}

/-- What a settled answer is worth does not depend on the key that was asked for, nor on the store
that is left. -/
theorem lookup_congr {own other : BiblioRequest} (quiet : own.quiet = other.quiet)
    (same : ((find own.lookupKey own.allowObsolete).on store).1 =
      ((find other.lookupKey other.allowObsolete).on mid).1)
    (settled : ∀ answer, ((find own.lookupKey own.allowObsolete).on store).1 = .ok answer →
      answer.Settled) (status : Status) :
    ((lookup own status).on store).1 = ((lookup other status).on mid).1 := by
  simp only [lookup, Action.on_bind]
  cases first : (find own.lookupKey own.allowObsolete).on store with
  | mk answer after =>
    cases second : (find other.lookupKey other.allowObsolete).on mid with
    | mk result last =>
      rw [first, second] at same
      rw [first] at settled
      obtain rfl : answer = result := same
      cases answer with
      | error failure => rfl
      | ok answer =>
        simp only [Action.on_get, Action.on_pure, quiet]
        cases answer with
        | found | succeeded | noSuccessor => rfl
        | wrongVersion | missing => cases settled _ rfl

/-- A lookup of the key adds no entry under a key of another shard: its own shard has been asked for
before, or all shards hold only entries of their own. -/
def Confined (store : BiblioStore) (key : String) : Prop :=
  store.loaded.contains (LinkText.shardName key) = true ∨ ShardsSorted store.source

section Alias

theorem Confined.entryFor?_opened (confined : store.Confined key) (other : String) :
    (store.opened key).entryFor? other = store.entryFor? other := by
  rcases confined with loaded | sorted
  · rw [opened_of_contains loaded]
  · exact ((Follows.refl store).opened sorted key).entryFor other

/-- An entry is followed alike whether or not a key was looked up before its own. -/
theorem Confined.follow_eq (confined : store.Confined key) (loads : ShardsLoad store.source)
    (e : BiblioEntry) (target : String) :
    ((follow e).on ((store.opened key).opened target)).1 =
      ((follow e).on (store.opened target)).1 := by
  rcases confined with loaded | sorted
  · rw [opened_of_contains loaded]
  · have near : Follows store (store.opened target) := (Follows.refl store).opened sorted target
    have far : Follows store ((store.opened key).opened target) :=
      ((Follows.refl store).opened sorted key).opened sorted target
    obtain ⟨_, -, first⟩ := follow_on (far.source ▸ loads) (far.source ▸ sorted) e
    obtain ⟨_, -, second⟩ := follow_on (near.source ▸ loads) (near.source ▸ sorted) e
    rw [first, second]
    simp only [followed, far.directFor?, near.directFor?]

theorem findDirect_of_entryFor? (loads : ShardsLoad store.source)
    (found : store.entryFor? key = some e) :
    (findDirect key).on store = (.ok (some e), store.opened key) := by
  simp only [findDirect, Action.on_bind, findExact_on loads, found, Action.on_pure]

/-- A key without an entry comes to the entry of the key that it stands for, or to none. -/
theorem findDirect_of_alias (loads : ShardsLoad store.source)
    (absent : store.entryFor? key = none) (named : store.aliasTarget? key = some target) :
    (findDirect key).on store =
      (.ok ((store.opened key).entryFor? target), (store.opened key).opened target) := by
  have loads' : ShardsLoad (store.opened key).source := by rwa [opened_source]
  have named' : (store.opened key).aliasTarget? key = some target := by
    rw [aliasTarget?, opened_aliases]
    exact named
  simp only [findDirect, Action.on_bind, findExact_on loads, absent, Action.on_get, named',
    findExact_on loads']

theorem find_of_findDirect (found : (findDirect key).on store = (.ok (some e), mid))
    (allowObsolete : Bool) : (find key allowObsolete).on store =
      if allowObsolete then (.ok (.found e), mid) else (follow e).on mid := by
  simp only [find, findKey, Action.on_bind, found, Action.on_pure]
  cases allowObsolete <;> rfl

/-- If two keys lead to one entry, and that is followed alike, they get the same. -/
theorem lookup_of_findDirect {own other : BiblioRequest} {third last : BiblioStore}
    (quiet : own.quiet = other.quiet) (wanted : own.allowObsolete = other.allowObsolete)
    (first : (findDirect own.lookupKey).on store = (.ok (some e), third))
    (second : (findDirect other.lookupKey).on mid = (.ok (some e), last))
    (followed : ((follow e).on third).1 = ((follow e).on last).1) (status : Status) :
    ((lookup own status).on store).1 = ((lookup other status).on mid).1 := by
  have found := find_of_findDirect first own.allowObsolete
  have again := find_of_findDirect second other.allowObsolete
  rw [wanted] at found
  cases obsolete : other.allowObsolete with
  | true =>
    -- The entry is taken as it is.
    rw [obsolete, if_pos rfl] at found again
    apply lookup_congr quiet
    · rw [wanted, obsolete, found, again]
    · intro answer answered
      rw [wanted, obsolete, found] at answered
      exact Except.ok.inj answered ▸ trivial
  | false =>
    rw [obsolete, if_neg Bool.false_ne_true] at found again
    apply lookup_congr quiet
    · rw [wanted, obsolete, found, again, followed]
    · intro answer answered
      rw [wanted, obsolete, found] at answered
      exact settled_of_follow (Prod.ext answered rfl)

/-- An entry without a successor, or one that is wanted as it is, is returned without a word. -/
theorem lookup_of_taken {request : BiblioRequest}
    (found : (findDirect request.lookupKey).on store = (.ok (some e), mid))
    (taken : request.allowObsolete = true ∨ e.supersededBy = none) (status : Status) :
    ((lookup request status).on store).1 = .ok (some e, none) := by
  have answered : (find request.lookupKey request.allowObsolete).on store = (.ok (.found e), mid) := by
    rw [find_of_findDirect found]
    split
    · rfl
    next wanted =>
      have single : e.supersededBy = none := taken.resolve_left wanted
      simp only [follow, single, Action.on_pure]
  simp only [lookup, Action.on_bind, answered, Action.on_get, Action.on_pure, deliver, remark,
    ite_self]

end Alias

/-- If all shards can be read, a key without an entry that stands for another one gets what that
gets, with the same report, once its own shard is loaded, and at once if that adds no entry under a
key of another shard. This goes as long as there is an entry under the other key, and it is this entry
unless that is obsolete. If there is none the search ends: unless the key itself has a number it gets
nothing, whatever the other key would get. -/
theorem lookup_of_alias {store : BiblioStore} (loads : ShardsLoad store.source)
    (own other : BiblioRequest) (alike : own = { other with key := own.key })
    (absent : store.entryFor? own.lookupKey = none)
    (named : store.aliasTarget? own.lookupKey = some other.lookupKey) (status : Status) :
    let mid := store.opened own.lookupKey
    (∀ e, mid.entryFor? other.lookupKey = some e →
      ((lookup own status).on store).1 = ((lookup other status).on mid).1 ∧
      (store.Confined own.lookupKey →
        ((lookup own status).on store).1 = ((lookup other status).on store).1) ∧
      (own.allowObsolete = true ∨ e.supersededBy = none →
        ((lookup own status).on store).1 = .ok (some e, none))) ∧
    (mid.entryFor? other.lookupKey = none → unversioned? own.lookupKey = none →
      own.standIn = false → ∃ remark, ((lookup own status).on store).1 = .ok (none, remark)) := by
  intro mid
  have loads' : ShardsLoad mid.source := by rwa [opened_source]
  have direct := findDirect_of_alias loads absent named
  constructor
  · intro e found
    rw [found] at direct
    have quiet : own.quiet = other.quiet := by rw [alike]
    have wanted : own.allowObsolete = other.allowObsolete := by rw [alike]
    refine ⟨?_, fun confined => ?_, fun taken => lookup_of_taken direct taken status⟩
    · exact lookup_of_findDirect quiet wanted direct (findDirect_of_entryFor? loads' found) rfl status
    · rw [confined.entryFor?_opened] at found
      apply lookup_of_findDirect quiet wanted direct (findDirect_of_entryFor? loads found)
      exact confined.follow_eq loads e other.lookupKey
  · intro missing single strict
    rw [missing] at direct
    have unfound : (find own.lookupKey own.allowObsolete).on store =
        (.ok .missing, (store.opened own.lookupKey).opened other.lookupKey) := by
      simp only [find, findKey, Action.on_bind, direct, single, Action.on_pure]
    simp only [lookup, Action.on_bind, unfound, Action.on_get, Action.on_pure,
      deliver_of_strict _ strict]
    exact ⟨_, rfl⟩

/-- An entry that an entry of the shelves replaces. -/
def oldEntry : BiblioEntry := { key := "old", title := "Old", supersededBy := some "foo" }

/-- A key that stands for that of an obsolete entry, and one that stands for the first. -/
def chainedStore : BiblioStore :=
  (((ofSource (shelves wideShelves)).addEntry oldEntry).addAlias "Bar" "OLD").addAlias "baz" "bar"

/-- The title of the entry that a key gets, and whether there is a report. -/
def titleOf (store : BiblioStore) (key : String) : Except Failure (Option String × Bool) :=
  ((lookup { key } .current).on store).1.map fun answer =>
    (answer.1.map BiblioEntry.title, answer.2.isSome)

/-- The first key gets the successor of the obsolete entry with the report about it, or the obsolete
entry itself if that is wanted; the second key gets nothing. -/
theorem lookup_of_chained :
    ((lookup { key := " BAR" } .current).on chainedStore).1 =
      ((lookup { key := "old" } .current).on chainedStore).1 ∧
    chainedStore.titleOf "old" = .ok (some "Foo", true) ∧
    ((lookup { key := "bar", allowObsolete := true } .current).on chainedStore).1 =
      .ok (some oldEntry, none) ∧
    ∃ remark, ((lookup { key := "baz" } .current).on chainedStore).1 = .ok (none, remark) := by
  obtain ⟨loads, sorted⟩ := shards_of_tidy (by decide +kernel : tidy wideShelves = true)
  have loads : ShardsLoad chainedStore.source := loads
  refine ⟨?_, by decide +kernel, ?_, ?_⟩
  · obtain ⟨found, -⟩ := lookup_of_alias loads { key := " BAR" } { key := "old" } rfl
      (by decide +kernel) (by decide +kernel) .current
    exact (found oldEntry (by decide +kernel)).2.1 (.inr sorted)
  · obtain ⟨found, -⟩ := lookup_of_alias loads { key := "bar", allowObsolete := true }
      { key := "old", allowObsolete := true } rfl (by decide +kernel) (by decide +kernel) .current
    exact (found oldEntry (by decide +kernel)).2.2 (.inl rfl)
  · obtain ⟨-, missed⟩ := lookup_of_alias loads { key := "baz" } { key := "bar" } rfl
      (by decide +kernel) (by decide +kernel) .current
    exact missed (by decide +kernel) (by decide +kernel) rfl

theorem shardsLoad_shelves {shards : List (String × String)}
    (readable : ∀ s ∈ shards, (Refer.parse s.2 (shardPath s.1)).toOption.isSome = true) :
    ShardsLoad (shelves shards) := by
  intro key
  rcases readShard_shelves shards (LinkText.shardName key) with none | ⟨s, member, same, read⟩
  · exact ⟨[], none⟩
  · have parses := readable s member
    rw [same, ← read] at parses
    cases outcome : readShard (shelves shards) (LinkText.shardName key) with
    | ok entries => exact ⟨entries, rfl⟩
    | error failure =>
      rw [outcome] at parses
      cases parses

/-- A shard with an entry of another one. -/
def strayShelves : List (String × String) := [("a_", "%L b\n%T B\n")]

/-- Where a key stands for one that stands for a third in turn, the first key does not get what the
second one gets. Nor do a key and the one that it stands for get the same if the entry is in the
shard of the first, which a lookup of the second does not load. -/
theorem titleOf_chained_ne :
    (ShardsLoad chainedStore.source ∧ chainedStore.entryFor? "baz" = none ∧
      chainedStore.aliasTarget? "baz" = some "bar" ∧
      chainedStore.titleOf "baz" = .ok (none, true) ∧
      chainedStore.titleOf "bar" = .ok (some "Foo", true)) ∧
    let stray := (ofSource (shelves strayShelves)).addAlias "a" "b"
    ShardsLoad stray.source ∧ stray.entryFor? "a" = none ∧ stray.aliasTarget? "a" = some "b" ∧
      stray.titleOf "a" = .ok (some "B", false) ∧ stray.titleOf "b" = .ok (none, true) := by
  constructor
  · have loads : ShardsLoad (shelves wideShelves) := shardsLoad_shelves (by decide +kernel)
    exact ⟨loads, by decide +kernel, by decide +kernel, by decide +kernel, by decide +kernel⟩
  · have loads : ShardsLoad (shelves strayShelves) := shardsLoad_shelves (by decide +kernel)
    exact ⟨loads, by decide +kernel, by decide +kernel, by decide +kernel, by decide +kernel⟩

end SpecLink.BiblioStore
