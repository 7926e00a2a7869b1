import Mathlib.Data.List.Basic
import SpecLink.Proofs.Biblio.Answers
import SpecLink.Proofs.Biblio.Numbered
import SpecLink.Proofs.Biblio.Priority
import SpecLink.Proofs.Biblio.Retries
import SpecLink.Proofs.Text.EditDistance

/-!
# What is suggested for a key without an entry

Suggestions are made from the keys that are known, and a key is known from the key list, as one that
stands for another, or with an entry (`Reached.knows`). The first two do not lead to an entry, so a
key without one can be suggested for itself, and then it comes first. Main statement:
`own_key_suggested_iff`.
-/
namespace SpecLink.BiblioStore

variable {source : DataSource} {listed : List String} {store after mid : BiblioStore}
  {key name : String}

section Known

/-- The key is in the key list, stands for another key, or has an entry. -/
def Mentioned (listed : List String) (store : BiblioStore) (key : String) : Prop :=
  key ∈ listed ∨ (store.aliasTarget? key).isSome = true ∨ ∃ e, (key, e) ∈ store.entries

/-- The known keys are those of the key list and those that the store itself has. -/
def Knows (listed : List String) (store : BiblioStore) : Prop :=
  ∀ key, key ∈ store.knownKeys ↔ Mentioned listed store key

theorem isSome_aliasTarget? :
    (store.aliasTarget? key).isSome = true ↔ ∃ target, (key, target) ∈ store.aliases := by
  simp [aliasTarget?]

theorem Knows.addAlias (knows : Knows listed store) (name target : String) :
    Knows listed (store.addAlias name target) := by
  intro key
  have before := knows key
  simp only [Mentioned, isSome_aliasTarget?] at before ⊢
  simp only [BiblioStore.addAlias, know, List.mem_cons, before, Prod.mk.injEq]
  grind

theorem Knows.addPreferredAlias (knows : Knows listed store) (key name : String) :
    Knows listed (store.addPreferredAlias key name) := by
  intro k
  have before := knows k
  rw [BiblioStore.addPreferredAlias]
  split
  · exact before
  · split
    next taken =>
      -- The name stands for another key already, so it is known either way.
      simp only [know, List.mem_cons]
      constructor
      · rintro (rfl | known)
        · exact .inr (.inl taken)
        · exact before.1 known
      · exact fun mentioned => .inr (before.2 mentioned)
    next =>
      simp only [Mentioned, isSome_aliasTarget?] at before ⊢
      simp only [know, List.mem_cons, before, Prod.mk.injEq]
      grind

theorem addPreferredAlias_entries (store : BiblioStore) (key name : String) :
    (store.addPreferredAlias key name).entries = store.entries := by
  rw [BiblioStore.addPreferredAlias]
  split
  · rfl
  · split <;> rfl

/-- An entry makes its key known. -/
theorem Knows.file (knows : Knows listed store) (key : String) (e : BiblioEntry) :
    Knows listed { store.know key with entries := (key, e) :: store.entries } := by
  intro k
  have before := knows k
  simp only [Mentioned, isSome_aliasTarget?] at before ⊢
  simp only [know, List.mem_cons, before, Prod.mk.injEq]
  grind

theorem Knows.addEntry (knows : Knows listed store) (e : BiblioEntry) :
    Knows listed (store.addEntry e) := by
  rw [BiblioStore.addEntry]
  cases e.preferredAlias with
  | none => exact knows.file _ e
  | some name =>
    have named := knows.addPreferredAlias (Text.lowercase e.key) (Text.lowercase name)
    simp only [← store.addPreferredAlias_entries (Text.lowercase e.key) (Text.lowercase name)]
    exact named.file _ e

theorem Knows.foldl_addEntry (entries : List BiblioEntry) {store : BiblioStore}
    (knows : Knows listed store) : Knows listed (entries.foldl BiblioStore.addEntry store) := by
  induction entries generalizing store with
  | nil => exact knows
  | cons e rest ih => exact ih (knows.addEntry e)

theorem Knows.addContents (knows : Knows listed store) (contents : Specref.Contents) :
    Knows listed (store.addContents contents) := by
  rw [BiblioStore.addContents]
  generalize contents.aliases = aliases
  have start := knows.foldl_addEntry contents.entries
  generalize contents.entries.foldl BiblioStore.addEntry store = s at start
  induction aliases generalizing s with
  | nil => exact start
  | cons a rest ih => exact ih _ (start.addAlias a.1 a.2)

theorem Knows.opened (knows : Knows listed store) (key : String) :
    Knows listed (store.opened key) := by
  apply Knows.foldl_addEntry
  rw [asked]
  split
  · exact knows
  · exact knows

theorem composes_knows (listed : List String) : Composes (Action.Preserves (Knows listed)) :=
  composes_preserves fun key _ knows => knows.opened key

theorem knows_ofSource (source : DataSource) : Knows [] (ofSource source) := by
  have bare : Knows [] ({ source } : BiblioStore) := by
    intro key
    simp [Mentioned, aliasTarget?]
  exact bare.addEntry requirementLevels

/-- The keys of the key list of a source, if there is one. -/
def listedKeys (source : DataSource) : Except Failure (List String) := do
  match ← source.fetch keysFile with
  | none => return []
  | some contents => return (← readDataFile Json.texts? keysFile contents).map Text.lowercase

theorem foldl_know (keys : List String) (store : BiblioStore) :
    keys.foldl know store = { store with knownKeys := keys.reverse ++ store.knownKeys } := by
  induction keys generalizing store with
  | nil => rfl
  | cons key rest ih => simp [ih, know]

theorem addKeyList_eq (store : BiblioStore) : store.addKeyList =
    (listedKeys store.source).map fun keys => keys.foldl know store := by
  simp only [addKeyList, listedKeys, Bind.bind, Except.bind]
  cases store.source.fetch keysFile with
  | error failure => rfl
  | ok file =>
    cases file with
    | none => rfl
    | some contents =>
      simp only
      cases readDataFile Json.texts? keysFile contents with
      | error failure => rfl
      | ok keys => simp [Except.map, pure, Except.pure, List.foldl_map]

theorem Knows.addDataFile {name : String} (knows : Knows listed store)
    (added : store.addDataFile name = .ok after) : Knows listed after := by
  rw [BiblioStore.addDataFile] at added
  split at added
  · exact Except.ok.inj added ▸ knows
  · obtain ⟨file, -, rest⟩ := (bind_ok_iff _ _ _).1 added
    cases file with
    | none => exact Except.ok.inj rest ▸ knows
    | some contents =>
      obtain ⟨read, -, rest⟩ := (bind_ok_iff _ _ _).1 rest
      exact Except.ok.inj rest ▸ knows.addContents read

theorem knows_load (loaded : load source = .ok store) (list : listedKeys source = .ok listed) :
    Knows listed store := by
  obtain ⟨start, listing, files⟩ := (bind_ok_iff _ _ _).1 loaded
  have own : (ofSource source).source = source := addEntry_source _ _
  rw [addKeyList_eq, own, list] at listing
  obtain rfl : listed.foldl know (ofSource source) = start := Except.ok.inj listing
  refine holds_of_foldlM (fun _ _ _ knows added => Knows.addDataFile knows added) ?_ files
  intro key
  have before := knows_ofSource source key
  simp only [foldl_know, List.mem_append, List.mem_reverse, before, Mentioned]
  simp [aliasTarget?]

/-- What operations make of the bibliography of a source, or of one that has the built-in entries
alone and reads no key list. -/
inductive Reached (source : DataSource) : List String → BiblioStore → Prop
  | bare {store : BiblioStore} : Later (ofSource source) store → Reached source [] store
  | loaded {origin store : BiblioStore} {listed : List String} : load source = .ok origin →
    listedKeys source = .ok listed → Later origin store → Reached source listed store

theorem Knows.later (knows : Knows listed store) (later : Later store after) :
    Knows listed after := by
  induction later with
  | refl => exact knows
  | lookup request status _ ih => exact (composes_knows listed).lookup request status _ ih
  | addEntry e _ ih => exact ih.addEntry e
  | addAlias name target _ ih => exact ih.addAlias name target
  | @addSpecref s text source order _ ih =>
    simp only [BiblioStore.addSpecref, Action.on_bind, Action.on_ofExcept]
    cases Specref.parse text source order with
    | error failure => exact ih
    | ok contents => exact ih.addContents contents
  | specs specs _ ih => exact ih

theorem Reached.knows (reached : Reached source listed store) : Knows listed store := by
  cases reached with
  | bare later => exact (knows_ofSource source).later later
  | loaded loaded list later => exact (knows_load loaded list).later later

end Known

section Suggest

theorem mem_suggest {limit : Nat} {other : String} (suggested : other ∈ store.suggest key limit) :
    other ∈ store.knownKeys := by
  obtain ⟨⟨distance, _⟩, listed, rfl⟩ := List.mem_map.1 suggested
  obtain ⟨k, near, same⟩ := List.mem_map.1 (List.mem_mergeSort.1 (List.mem_of_mem_take listed))
  cases same
  exact (List.mem_filter.1 (SortedSet.mem_ofList.1 near)).1

/-- In the order of distance, the first item is no farther than any other. -/
theorem exists_nearest {ranked : List (Nat × String)} {item : Nat × String} (listed : item ∈ ranked) :
    ∃ nearest rest, (ranked.mergeSort fun a b => a.1 ≤ b.1) = nearest :: rest ∧
      nearest ∈ ranked ∧ nearest.1 ≤ item.1 := by
  have ascending : (ranked.mergeSort fun a b => a.1 ≤ b.1).Pairwise
      fun a b => decide (a.1 ≤ b.1) = true := by
    apply List.pairwise_mergeSort
    · simp only [decide_eq_true_eq]
      omega
    · simp only [Bool.or_eq_true, decide_eq_true_eq]
      omega
  have kept (other : Nat × String) :
      other ∈ (ranked.mergeSort fun a b => a.1 ≤ b.1) ↔ other ∈ ranked := List.mem_mergeSort
  cases sorted : ranked.mergeSort fun a b => a.1 ≤ b.1 with
  | nil =>
    have none : item ∈ ([] : List (Nat × String)) := sorted ▸ (kept item).2 listed
    simp at none
  | cons nearest rest =>
    rw [sorted] at ascending kept
    refine ⟨nearest, rest, rfl, (kept nearest).1 List.mem_cons_self, ?_⟩
    rcases List.mem_cons.1 ((kept item).2 listed) with rfl | behind
    · exact le_refl _
    · simpa using List.rel_of_pairwise_cons ascending behind

/-- A key that is known comes before all others, as the only one without distance. -/
theorem head?_suggest {limit : Nat} (known : key ∈ store.knownKeys) (room : 0 < limit) :
    (store.suggest key limit).head? = some key := by
  have none : Text.editDistance key key = 0 := (Text.editDistance_eq_zero_iff key key).2 rfl
  simp only [suggest]
  generalize near : (SortedSet.ofList (store.knownKeys.filter fun k =>
    Text.editDistance key k ≤ max (key.length / 3) 2)).members = members
  have own : key ∈ members := by
    rw [← near]
    refine SortedSet.mem_ofList.2 (List.mem_filter.2 ⟨known, ?_⟩)
    simp [none]
  obtain ⟨nearest, rest, sorted, member, least⟩ :=
    exists_nearest (List.mem_map_of_mem (f := fun k => (Text.editDistance key k, k)) own)
  obtain ⟨k, -, rfl⟩ := List.mem_map.1 member
  obtain rfl : key = k := by
    rw [← Text.editDistance_eq_zero_iff]
    simp only [none] at least
    omega
  rw [sorted]
  simp [List.take_cons room]

/-- A key is suggested for itself if and only if it is known. -/
theorem mem_suggest_self_iff {limit : Nat} (room : 0 < limit) :
    key ∈ store.suggest key limit ↔ key ∈ store.knownKeys :=
  ⟨mem_suggest, fun known => List.mem_of_head? (head?_suggest known room)⟩

end Suggest

section Lookup

open SpecLink.Action

/-- The report that a key has no entry, with suggestions if there are any. -/
def missingReport (key : String) (keys : List String) : Diagnostic :=
  let hint := match keys with
    | [] => ""
    | keys => " Did you mean:" ++ String.join (keys.map ("\n  " ++ ·))
  ⟨.linkError, s!"Couldn't find '{key}' in bibliography data." ++ hint, none⟩

/-- The report that there are only other versions. -/
def versionReport (key : String) (versions : List String) : Diagnostic :=
  ⟨.fatal, s!"A biblio link references {key}, but only " ++ phrase versions ++
    " exists in the bibliography data.", none⟩

variable {answer : BiblioAnswer} {allowObsolete : Bool} {request : BiblioRequest}

theorem entryFor?_of_findDirect (searched : (findDirect key).on store = (.ok none, after)) :
    store.entryFor? key = none := by
  obtain ⟨found, _, first, rest⟩ := on_bind_ok_iff.1 searched
  obtain ⟨rfl, -⟩ := findExact_ok first
  cases own : store.entryFor? key with
  | none => rfl
  | some e =>
    rw [own] at rest
    cases (on_pure_ok_iff.1 rest).1

/-- A lookup without an entry has found none under the key nor under the one that it stands for. The
versions that it names are those known by then. -/
theorem unsettled_cases (answered : (find key allowObsolete).on store = (.ok answer, after))
    (unsettled : ¬answer.Settled) :
    (findDirect key).on store = (.ok none, store.searched key) ∧
      (answer = .missing ∨ ∃ base, unversioned? key = some base ∧
        answer = .wrongVersion ((store.searched key).versions base)) := by
  rcases find_cases answered with ⟨e, mid, -, -, followed⟩ | ⟨found, -⟩
  · exact absurd (settled_of_follow followed) unsettled
  obtain ⟨direct, mid, searched, rest⟩ := on_bind_ok_iff.1 found
  have same : store.searched key = mid := congrArg Prod.snd searched
  rw [same, searched]
  cases direct with
  | some e =>
    obtain ⟨rfl, -⟩ := on_pure_ok_iff.1 rest
    exact absurd trivial unsettled
  | none =>
    refine ⟨rfl, ?_⟩
    simp only at rest
    split at rest
    · obtain ⟨rfl, -⟩ := on_pure_ok_iff.1 rest
      exact .inl rfl
    next base numbered =>
      obtain ⟨_, _, read, rest⟩ := on_bind_ok_iff.1 rest
      rw [on_get] at read
      cases read
      obtain ⟨bare, _, -, rest⟩ := on_bind_ok_iff.1 rest
      cases bare with
      | none =>
        obtain ⟨rfl, -⟩ := on_pure_ok_iff.1 rest
        exact .inl rfl
      | some e =>
        obtain ⟨rfl, -⟩ := on_pure_ok_iff.1 rest
        split at unsettled
        · exact absurd trivial unsettled
        next listed => exact .inr ⟨base, numbered, by simp [listed]⟩

/-- Where a key has no entry once its shard is loaded, no store that shows the same entries has any
under it. -/
theorem Follows.not_mem_entries {other : BiblioStore} (follows : Follows store other)
    (absent : store.entryFor? key = none) (e : BiblioEntry) : (key, e) ∉ other.entries := by
  rw [← follows.entryFor, entryFor?, entryUnder?, preferred_eq_none_iff, entriesFor_opened,
    List.append_eq_nil_iff] at absent
  intro member
  have under : e ∈ other.entriesFor key := by
    simp only [entriesFor, List.mem_map, List.mem_filter]
    exact ⟨(key, e), ⟨member, by simp⟩, rfl⟩
  rw [absent.2] at under
  simp at under

/-- A lookup that finds no entry names its own key exactly if that is known by then: among the
suggestions, and there in front, or among the other versions, if it is one itself. The key is known
from the key list, as one that stands for another, or because an entry came with the shard of
another key, and the last cannot be if all shards hold only entries of their own. -/
theorem own_key_suggested_iff (reached : Reached source listed store) (loud : request.quiet = false)
    (strict : request.standIn = false)
    (answered : (find request.lookupKey request.allowObsolete).on store = (.ok answer, after))
    (unsettled : ¬answer.Settled) (status : Status) :
    let key := request.lookupKey
    let mid := store.searched key
    (∃ keys report, (lookup request status).on store = (.ok (none, some report), after) ∧
      ((report = missingReport key keys ∧ (key ∈ keys ↔ Mentioned listed after key) ∧
          (key ∈ keys → keys.head? = some key)) ∨
        (report = versionReport key keys ∧ ∃ base, unversioned? key = some base ∧
          (key ∈ keys ↔ isVersionOf base key = true ∧ Mentioned listed mid key)))) ∧
    (ShardsSorted store.source → ∀ e, (key, e) ∉ mid.entries ∧ (key, e) ∉ after.entries) := by
  intro key mid
  obtain ⟨direct, outcomes⟩ := unsettled_cases answered unsettled
  constructor
  · have ran : (lookup request status).on store =
        (.ok (after.deliver request (request.status.getD status) answer,
          after.remark request answer), after) := by
      simp only [lookup, Action.on_bind, answered, Action.on_get, Action.on_pure, loud,
        Bool.false_eq_true, if_false]
    rcases outcomes with rfl | ⟨base, numbered, rfl⟩
    · -- The suggestions are made from what the whole lookup has left.
      have known := ((composes_knows listed).find _ _).after reached.knows answered
      refine ⟨after.suggest key 5, missingReport key (after.suggest key 5), ?_, .inl ⟨rfl, ?_, ?_⟩⟩
      · rw [ran]
        simp only [deliver, remark, strict, Bool.false_eq_true, if_false]
        rfl
      · rw [mem_suggest_self_iff (by decide), known]
      · intro suggested
        exact head?_suggest (mem_suggest suggested) (by decide)
    · -- The versions are gathered before the key without a number is looked up.
      have known := ((composes_knows listed).findDirect _).after reached.knows direct
      refine ⟨mid.versions base, versionReport key (mid.versions base), ?_,
        .inr ⟨rfl, base, numbered, ?_⟩⟩
      · rw [ran]
        simp only [deliver, remark, strict, Bool.false_eq_true, if_false]
        rfl
      · rw [mem_versions_iff, known, and_comm]
  · intro sorted e
    have follows : Composes (Action.Preserves (Follows store)) :=
      composes_preserves fun key _ follows => follows.opened sorted key
    have absent := entryFor?_of_findDirect direct
    constructor
    · exact ((follows.findDirect _).after (.refl store) direct).not_mem_entries absent e
    · exact ((follows.find _ _).after (.refl store) answered).not_mem_entries absent e

/-- A store in which `foo` stands for a key without an entry. -/
def danglingStore : BiblioStore := (ofSource (.ofFiles ∅)).addAlias "foo" "bar"

/-- A key that stands for nothing that is there is suggested for itself. -/
theorem suggested_for_dangling :
    ∃ keys after, (lookup { key := " Foo" } .current).on danglingStore =
      (.ok (none, some (missingReport "foo" keys)), after) ∧ keys.head? = some "foo" := by
  have reached : Reached (.ofFiles ∅) [] danglingStore := .bare (.addAlias "foo" "bar" .refl)
  have key : BiblioRequest.lookupKey { key := " Foo" } = "foo" := by decide +kernel
  have missed : ((find "foo" false).on danglingStore).1 = .ok .missing := by decide +kernel
  have stands : (((find "foo" false).on danglingStore).2.aliasTarget? "foo").isSome = true := by
    decide +kernel
  obtain ⟨⟨keys, report, ran, outcome⟩, -⟩ := own_key_suggested_iff reached rfl rfl
    (Prod.ext (key ▸ missed) rfl : (find (BiblioRequest.lookupKey { key := " Foo" }) false).on
      danglingStore = _) (fun settled => settled) .current
  rw [key] at outcome
  rcases outcome with ⟨rfl, own, first⟩ | ⟨-, base, numbered, -⟩
  · exact ⟨keys, _, ran, first (own.2 (.inr (.inl stands)))⟩
  · have unnumbered : unversioned? "foo" = none := by decide +kernel
    rw [unnumbered] at numbered
    cases numbered

/-- A key of the key list that has no entry is suggested for itself, and where there is an entry
without a number a listed number is refused for itself. -/
theorem pointed_back :
    let listing (keys : String) := DataSource.ofFiles (.ofList [(keysFile, keys)])
    (do ((lookup { key := "foo" } .current).on (← load (listing "[\"foo\"]"))).1) = .ok (none,
      some ⟨.linkError, "Couldn't find 'foo' in bibliography data. Did you mean:\n  foo", none⟩) ∧
    (do
      let store ← load (listing "[\"foo-1\", \"foo-2\"]")
      ((lookup { key := "foo-1" } .current).on
        (store.addEntry { key := "foo", title := "Foo" })).1) = .ok (none, some ⟨.fatal,
      "A biblio link references foo-1, but only foo-1 and foo-2 exists in the bibliography data.",
      none⟩) := by
  constructor <;> decide +kernel

end Lookup

end SpecLink.BiblioStore
