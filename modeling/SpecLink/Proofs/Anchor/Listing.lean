import SpecLink.Proofs.Anchor.Shards
import SpecLink.Proofs.Text.Normal

/-!
# Lookups of anchors and the data

A lookup loads the shard of its text and files what it finds there under normal forms. The same can
be read off the shard at once: the anchors under all spellings of the text, in the order of the
file. Main statement: `find_of_run`, by which every lookup answers so, whatever was asked for
before, unless its shard cannot be read.
-/
namespace SpecLink.AnchorStore

/-- Calls of a store: an anchor is added, or anchors are looked up. -/
inductive Call where
  | add (c : Candidate)
  | find (kind : LinkKind) (text : String)

/-- The store after a call, which may have failed. -/
def Call.after (store : AnchorStore) : Call → AnchorStore
  | .add c => store.add c
  | .find kind text => ((AnchorStore.find kind text).on store).2

/-- The store after some calls, the first one first. -/
def run (calls : List Call) (store : AnchorStore) : AnchorStore := calls.foldl Call.after store

/-- The records of a shard by their texts. A shard without a file has none. -/
def records (source : DataSource) (shard : String) :
    Except Failure (SortedMap (List AnchorRecord)) := do
  match ← source.fetch (shardPath shard) with
  | none => return ∅
  | some contents => readDataFile AnchorRecord.shardOfJson? (shardPath shard) contents

/-- The anchors that a shard lists for a text and a kind of link: those of its records whose kinds
are known and satisfy the link, under every text with the same normal form. -/
def listed (shard : SortedMap (List AnchorRecord)) (kind : LinkKind) (text : String) :
    List Candidate :=
  (shard.entries.filter fun e => LinkText.normalize e.1 == LinkText.normalize text).flatMap fun e =>
    (e.2.filterMap (AnchorRecord.candidate? e.1)).filter fun c => kind.accepts c.kind

/-- Every text in a shard has a normal form that belongs to the shard. -/
def TextsSorted (source : DataSource) : Prop :=
  ∀ key shard, records source (LinkText.shardName key) = .ok shard →
    ∀ e ∈ shard.entries, LinkText.shardName (LinkText.normalize e.1) = LinkText.shardName key

/-- The stores of a source before anything is asked of them. -/
inductive Opened (source : DataSource) : AnchorStore → Prop where
  | load {store : AnchorStore} (loaded : load source = .ok store) : Opened source store
  | withSpecs (specs : SpecTable) : Opened source { source, specs }

/-- A store that was opened, then grew and answered in any order. -/
inductive InUse : AnchorStore → Prop
  | opened {source : DataSource} {store : AnchorStore} (opened : Opened source store) : InUse store
  | add {store : AnchorStore} (inUse : InUse store) (c : Candidate) : InUse (store.add c)
  | addSpec {store : AnchorStore} (inUse : InUse store) (id : String) (spec : SpecInfo) :
    InUse (store.addSpec id spec)
  | suppress {store : AnchorStore} (inUse : InUse store) (shortname : String) :
    InUse (store.suppress shortname)
  | find {store : AnchorStore} (inUse : InUse store) (kind : LinkKind) (text : String) :
    InUse ((AnchorStore.find kind text).on store).2
  | headingsOf {store : AnchorStore} (inUse : InUse store) (spec : String) :
    InUse ((AnchorStore.headingsOf spec).on store).2

section Records

variable {source : DataSource} {key : String}

theorem readShard_eq (source : DataSource) (shard : String) :
    readShard source shard = (records source shard).map AnchorRecord.candidates := by
  rw [readShard, records]
  cases source.fetch (shardPath shard) with
  | error failure => rfl
  | ok file =>
    cases file with
    | none => rfl
    | some contents => rfl

theorem text_of_mem_filterMap {text : String} {items : List AnchorRecord} {c : Candidate}
    (member : c ∈ items.filterMap (AnchorRecord.candidate? text)) :
    c.text = LinkText.normalize text := by
  obtain ⟨record, -, made⟩ := List.mem_filterMap.1 member
  obtain ⟨kind, -, rfl⟩ := Option.map_eq_some_iff.1 made
  rfl

theorem text_of_mem_candidates {shard : SortedMap (List AnchorRecord)} {c : Candidate}
    (member : c ∈ AnchorRecord.candidates shard) :
    ∃ e ∈ shard.entries, c.text = LinkText.normalize e.1 := by
  obtain ⟨e, listed, inEntry⟩ := List.mem_flatMap.1 member
  exact ⟨e, listed, text_of_mem_filterMap inEntry⟩

theorem TextsSorted.shardsSorted (sorted : TextsSorted source) : ShardsSorted source := by
  intro key candidates read c member
  rw [readShard_eq] at read
  cases records : records source (LinkText.shardName key) with
  | error failure =>
    rw [records] at read
    cases read
  | ok shard =>
    rw [records] at read
    obtain rfl := Except.ok.inj read
    obtain ⟨e, listed, text⟩ := text_of_mem_candidates member
    rw [text]
    exact sorted key shard records e listed

/-- A shard's candidates under a text are those listed for it. -/
theorem filter_candidates (shard : SortedMap (List AnchorRecord)) (kind : LinkKind)
    (text : String) :
    ((AnchorRecord.candidates shard).filter fun c =>
      c.text == LinkText.normalize text && kind.accepts c.kind) = listed shard kind text := by
  rw [AnchorRecord.candidates, listed]
  induction shard.entries with
  | nil => rfl
  | cons e rest ih =>
    have here : ((e.2.filterMap (AnchorRecord.candidate? e.1)).filter fun c =>
        c.text == LinkText.normalize text && kind.accepts c.kind) =
          if LinkText.normalize e.1 == LinkText.normalize text then
            (e.2.filterMap (AnchorRecord.candidate? e.1)).filter fun c => kind.accepts c.kind
          else [] := by
      split
      next spelled =>
        refine List.filter_congr fun c member => ?_
        rw [text_of_mem_filterMap member, spelled, Bool.true_and]
      next other =>
        refine List.filter_eq_nil_iff.2 fun c member => ?_
        rw [text_of_mem_filterMap member, Bool.eq_false_iff.2 other, Bool.false_and]
        exact Bool.false_ne_true
    rw [List.flatMap_cons, List.filter_append, ih, here, List.filter_cons]
    split
    · rfl
    · rfl

/-- Candidates of a shard have their texts in normal form already. -/
theorem map_filed_candidates {store : AnchorStore} (unnamed : store.ownShortname = none)
    (shard : SortedMap (List AnchorRecord)) :
    (AnchorRecord.candidates shard).map store.filed = AnchorRecord.candidates shard := by
  have kept : (AnchorRecord.candidates shard).map store.filed =
      (AnchorRecord.candidates shard).map id := by
    refine List.map_congr_left fun c member => ?_
    obtain ⟨e, -, text⟩ := text_of_mem_candidates member
    have normal : LinkText.normalize c.text = c.text := by rw [text, LinkText.normalize_normalize]
    rw [filed, unnamed]
    simp only [normal, id]
  rw [kept, List.map_id]

theorem Opened.eq {store : AnchorStore} (opened : Opened source store) :
    ∃ specs, store = { source, specs } := by
  cases opened with
  | withSpecs specs => exact ⟨specs, rfl⟩
  | load loaded =>
    rw [AnchorStore.load, bind_ok_iff] at loaded
    obtain ⟨file, -, loaded⟩ := loaded
    cases file with
    | none => cases loaded
    | some contents =>
      obtain ⟨specs, -, loaded⟩ := (bind_ok_iff _ _ _).1 loaded
      obtain rfl := Except.ok.inj loaded
      exact ⟨specs, rfl⟩

/-- Once its shard is open, a store that was just opened has the anchors that are listed. -/
theorem matching_opened {store : AnchorStore} (opened : Opened source store)
    {shard : SortedMap (List AnchorRecord)} {text : String}
    (read : records source (LinkText.shardName (LinkText.normalize text)) = .ok shard)
    (kind : LinkKind) : (store.opened (LinkText.normalize text)).matching kind
      (LinkText.normalize text) = listed shard kind text := by
  obtain ⟨specs, rfl⟩ := opened.eq
  have incoming : AnchorStore.incoming { source, specs } (LinkText.normalize text) =
      AnchorRecord.candidates shard := by
    rw [AnchorStore.incoming, if_neg (by simp), readShard_eq, read]
    exact map_filed_candidates rfl shard
  rw [matching, opened_anchors, incoming, List.nil_append, filter_candidates]

end Records

theorem withhold_text (shortname : String) (c : Candidate) :
    (withhold shortname c).text = c.text := by
  rw [withhold]
  split <;> rfl

/-- A store holds its anchors under normal forms. -/
theorem InUse.isNormal {store : AnchorStore} (inUse : InUse store) :
    ∀ c ∈ store.anchors, LinkText.IsNormal c.text.toList := by
  have filed (store : AnchorStore) (c : Candidate) :
      LinkText.IsNormal (store.filed c).text.toList := by
    rw [filed_text, LinkText.normalize, String.toList_ofList]
    exact LinkText.isNormal_normalizeChars c.text.toList
  induction inUse with
  | opened opened =>
    obtain ⟨specs, rfl⟩ := opened.eq
    exact fun c member => absurd member List.not_mem_nil
  | @add store _ added ih =>
    intro c member
    rcases List.mem_append.1 member with before | new
    · exact ih c before
    · obtain ⟨raw, -, rfl⟩ := List.mem_map.1 new
      exact filed store raw
  | addSpec _ id spec ih => exact ih
  | suppress _ shortname ih =>
    intro c member
    simp only [AnchorStore.suppress] at member
    split at member
    · exact ih c member
    · obtain ⟨raw, listed, rfl⟩ := List.mem_map.1 member
      rw [withhold_text]
      exact ih raw listed
  | @find store _ kind text ih =>
    rw [find_on, opened_anchors]
    intro c member
    rcases List.mem_append.1 member with before | new
    · exact ih c before
    · obtain ⟨_, -, raw, -, rfl⟩ := exists_of_mem_incoming new
      exact filed store raw
  | headingsOf _ spec ih =>
    rw [headingsOf_on, readInto_eq]
    exact ih

/-- A store has the answers that another one has, and has loaded nothing that cannot be read. -/
structure Reads (base store : AnchorStore) : Prop extends Agrees base store where
  readable : ∀ shard ∈ store.loaded, ∃ candidates, readShard base.source shard = .ok candidates

theorem Reads.opened {base store : AnchorStore} (reads : Reads base store)
    (sorted : ShardsSorted base.source) (key : String) : Reads base (store.opened key) where
  toAgrees := reads.toAgrees.opened sorted key
  readable := by
    rw [AnchorStore.opened]
    split
    · exact reads.readable
    · split
      next candidates read =>
        intro shard member
        rcases List.mem_cons.1 member with rfl | member
        · exact ⟨candidates, reads.source ▸ read⟩
        · exact reads.readable shard member
      next => exact reads.readable

/-- Lookups change nothing about the answers. -/
theorem Reads.run {base store : AnchorStore} (reads : Reads base store)
    (sorted : ShardsSorted base.source) (asked : List (LinkKind × String)) :
    Reads base (run (asked.map fun q => .find q.1 q.2) store) := by
  induction asked generalizing store with
  | nil => exact reads
  | cons q rest ih =>
    have step : Reads base (Call.after store (.find q.1 q.2)) := by
      rw [Call.after, find_on]
      exact reads.opened sorted _
    exact ih step

section Find

variable {store : AnchorStore} {kind : LinkKind} {text : String}

theorem find_on_of_error {failure : Failure}
    (absent : LinkText.shardName (LinkText.normalize text) ∉ store.loaded)
    (failed : readShard store.source (LinkText.shardName (LinkText.normalize text)) =
      .error failure) : (find kind text).on store = (.error failure, store) := by
  have absent' :
      ¬ store.loaded.contains (LinkText.shardName (LinkText.normalize text)) = true := by
    rwa [List.contains_iff_mem]
  rw [find_on, opening, AnchorStore.opened, if_neg absent', if_neg absent', failed]
  rfl

theorem find_answer_of_ok {candidates : List Candidate}
    (read : readShard store.source (LinkText.shardName (LinkText.normalize text)) =
      .ok candidates) : ((find kind text).on store).1 =
        .ok ((store.opened (LinkText.normalize text)).matching kind (LinkText.normalize text)) := by
  have opens : store.opening (LinkText.normalize text) = .ok () := by
    rw [opening, read]
    split <;> rfl
  rw [find_on, opens]
  rfl

/-- Whatever was looked up before, a lookup answers with the anchors that the shard of its text
lists, unless that shard cannot be read. Then it fails and leaves the store as it was, so that every
later lookup goes as it would have gone without it. -/
theorem find_of_run {source : DataSource} (opened : Opened source store)
    (sorted : TextsSorted source) (asked : List (LinkKind × String)) (kind : LinkKind)
    (text : String) :
    let reached := run (asked.map fun q => .find q.1 q.2) store
    let read := records source (LinkText.shardName (LinkText.normalize text))
    (∀ failure, read = .error failure → (find kind text).on reached = (.error failure, reached)) ∧
    ∀ shard, read = .ok shard →
      ((find kind text).on reached).1 = .ok (listed shard kind text) := by
  intro reached read
  have sourced : store.source = source := by
    obtain ⟨specs, rfl⟩ := opened.eq
    rfl
  have fresh : Reads store store := ⟨.refl store, by
    obtain ⟨specs, rfl⟩ := opened.eq
    nofun⟩
  have reads : Reads store reached := fresh.run (sourced ▸ sorted.shardsSorted) asked
  have reread : reached.source = source := reads.source.trans sourced
  have candidates : readShard source (LinkText.shardName (LinkText.normalize text)) =
      read.map AnchorRecord.candidates := readShard_eq _ _
  refine ⟨fun failure failed => ?_, fun shard loads => ?_⟩
  · rw [failed] at candidates
    refine find_on_of_error (fun loaded => ?_) (reread ▸ candidates)
    -- What was loaded could be read, and the data does not change.
    obtain ⟨others, readable⟩ := reads.readable _ loaded
    rw [sourced, candidates] at readable
    cases readable
  · rw [loads] at candidates
    rw [find_answer_of_ok (reread ▸ candidates), reads.matching, matching_opened opened loads]

end Find

/-- Two shards: one lists a text in two spellings and a record of an unknown kind, the other one is
broken. -/
def crates : DataSource where
  name := "crates"
  fetch path := .ok <|
    if path = shardPath "bo" then
      some <| "\x7b\"Boxes\":[\x7b\"kind\":\"crate\",\"spec_id\":\"a\",\"shortname\":\"a\"\x7d," ++
        "\x7b\"kind\":\"value\",\"spec_id\":\"a\",\"shortname\":\"a\"\x7d]," ++
        "\"boxes\":[\x7b\"kind\":\"dfn\",\"spec_id\":\"b\",\"shortname\":\"b\"\x7d]\x7d"
    else if path = shardPath "cr" then some "["
    else none
  list _ := []

/-- The shard that is not broken. -/
def boxShard : SortedMap (List AnchorRecord) :=
  ⟨[("Boxes", [⟨"crate", "a", "a", none, [], true, true, none, none⟩,
      ⟨"value", "a", "a", none, [], true, true, none, none⟩]),
    ("boxes", [⟨"dfn", "b", "b", none, [], true, true, none, none⟩])], by decide⟩

/-- An anchor of that shard. -/
def boxesAnchor (kind : DefinitionKind) (spec : String) : Candidate where
  text := "boxes"
  kind
  origin := .external spec spec none {}
  scope := ∅
  exported := true
  normative := true

theorem records_crates_bo : records crates "bo" = .ok boxShard := by decide +kernel

theorem records_crates_cr :
    records crates "cr" = .error (.parse .dataFile (shardPath "cr") none) := by decide +kernel

theorem textsSorted_crates : TextsSorted crates := by
  intro key shard read
  by_cases boxes : shardPath (LinkText.shardName key) = shardPath "bo"
  · rw [shardPath_injective boxes] at read ⊢
    obtain rfl := Except.ok.inj (records_crates_bo.symm.trans read)
    decide +kernel
  · by_cases broken : shardPath (LinkText.shardName key) = shardPath "cr"
    · rw [shardPath_injective broken, records_crates_cr] at read
      cases read
    · simp only [records, crates, if_neg boxes, if_neg broken] at read
      obtain rfl := Except.ok.inj read
      exact fun e member => absurd member List.not_mem_nil

/-- The broken shard does not keep the store from the other one, which counts once. -/
theorem find_of_run_crates :
    let asked : List (LinkKind × String) :=
      [(.maybe, "crate"), (.exact .dfn, "BOXES"), (.maybe, "box")]
    let reached := run (asked.map fun q => .find q.1 q.2) { source := crates }
    ((find .maybe " Boxes").on reached).1 =
        .ok [boxesAnchor .value "a", boxesAnchor .dfn "b"] ∧
      (find .maybe "crates").on reached =
        (.error (.parse .dataFile (shardPath "cr") none), reached) := by
  intro asked reached
  have opened : Opened crates { source := crates } := .withSpecs ∅
  obtain ⟨-, boxes⟩ := find_of_run opened textsSorted_crates asked .maybe " Boxes"
  obtain ⟨broken, -⟩ := find_of_run opened textsSorted_crates asked .maybe "crates"
  have bo : LinkText.shardName (LinkText.normalize " Boxes") = "bo" := by decide +kernel
  have cr : LinkText.shardName (LinkText.normalize "crates") = "cr" := by decide +kernel
  have anchors : listed boxShard .maybe " Boxes" =
      [boxesAnchor .value "a", boxesAnchor .dfn "b"] := by decide +kernel
  rw [bo] at boxes
  rw [cr] at broken
  exact ⟨anchors ▸ boxes boxShard records_crates_bo, broken _ records_crates_cr⟩

end SpecLink.AnchorStore
