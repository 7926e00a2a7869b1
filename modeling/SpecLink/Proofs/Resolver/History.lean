import SpecLink.Proofs.Resolver.Contract

/-!
# Answers and earlier lookups

A lookup loads shards and headings, but what it leaves behind does not show in the answers of later
ones. Two resolvers are alike if they differ only in what they have loaded, reported and recorded;
calls lead from a resolver to ones alike, and those answer alike. Main statement:
`answers_of_runs_eq`.
-/
namespace SpecLink.Resolver

/-- The second resolver takes links like the first, and answers like it whatever it has loaded. -/
structure Alike (r s : Resolver) : Prop where
  begun : s.phase ≠ .collecting
  isSealed : s.definitions.isSealed = true
  definitions : s.definitions = r.definitions
  defaults : s.defaults = r.defaults
  ignoredSpecs : s.ignoredSpecs = r.ignoredSpecs
  replacedSpecs : s.replacedSpecs = r.replacedSpecs
  defaultStatus : s.defaultStatus = r.defaultStatus
  shortname : s.shortname = r.shortname
  versionedName : s.versionedName = r.versionedName
  anchors : AnchorStore.Agrees r.anchors s.anchors
  biblio : s.biblio.source = r.biblio.source

namespace Alike

variable {r s : Resolver}

theorem refl {metadata : Metadata} (reached : Reachable metadata r)
    (begun : r.phase ≠ .collecting) : Alike r r :=
  ⟨begun, reached.consistent.isSealed begun, rfl, rfl, rfl, rfl, rfl, rfl, rfl, .refl _, rfl⟩

theorem stable (sorted : AnchorStore.ShardsSorted r.anchors.source) : Stable (Alike r) := by
  intro s t change alike
  cases change with
  | begin _ => exact { alike with begun := by simp }
  | opened key => exact { alike with anchors := alike.anchors.opened sorted key }
  | readInto spec => exact { alike with anchors := alike.anchors.readInto spec }
  | lookup request =>
    -- The bibliography may load shards, but keeps reading from its source.
    have looked := BiblioStore.failsOnly_lookup request s.defaultStatus s.biblio alike.biblio
    exact { alike with biblio := looked.2 }
  | noted messages usages => exact { alike with }

theorem after (alike : Alike r s) (sorted : AnchorStore.ShardsSorted r.anchors.source)
    (c : Call) : Alike r (c.after s) := by
  have kept : Stable (Alike r) := stable sorted
  cases c with
  -- Definitions come too late, and the collection has ended already.
  | define d =>
    rw [Call.after, define_on_of_begun alike.begun]
    exact alike
  | finish =>
    rw [Call.after, finish_of_begun alike.begun]
    exact alike
  | resolve request => exact kept.preserves_resolve request s alike
  | cite request => exact kept.preserves_cite request s alike
  | findSection spec id status => exact kept.preserves_findSection spec id status s alike

theorem run (alike : Alike r s) (sorted : AnchorStore.ShardsSorted r.anchors.source)
    (calls : List Call) : Alike r (Resolver.run calls s) := by
  induction calls generalizing s with
  | nil => exact alike
  | cons c rest ih => exact ih (alike.after sorted c)

theorem search_eq {base store : AnchorStore} (agrees : AnchorStore.Agrees base store)
    (sorted : AnchorStore.ShardsSorted base.source) (definitions : DefinitionIndex)
    (kind : LinkKind) (texts : List String) {reference : AnchorStore}
    (reads : AnchorStore.Agrees base reference) :
    search definitions kind store texts = search definitions kind reference texts := by
  induction texts generalizing store reference with
  | nil => rfl
  | cons text rest ih =>
    -- Both stores have what the base finds under the text, and still agree with it afterwards.
    have here : hits definitions (store.opened (LinkText.normalize text)) kind
        (LinkText.normalize text) =
        hits definitions (reference.opened (LinkText.normalize text)) kind
          (LinkText.normalize text) := by
      rw [hits_eq_append, hits_eq_append, agrees.matching, reads.matching]
    rw [search, search, here, ih (agrees.opened sorted _) (reads.opened sorted _)]

theorem outcome_eq (alike : Alike r s) (sorted : AnchorStore.ShardsSorted r.anchors.source)
    (request : LinkRequest) : s.outcome request = r.outcome request := by
  have query : s.queryOf request = r.queryOf request := by
    rw [queryOf, queryOf, alike.defaults, alike.defaultStatus]
  have policy : s.policy = r.policy := by
    rw [Resolver.policy, Resolver.policy, alike.ignoredSpecs, alike.replacedSpecs,
      alike.shortname, alike.versionedName, alike.anchors.specs]
  have found (q : LinkQuery) : s.found q = r.found q := by
    rw [Resolver.found, Resolver.found, alike.definitions]
    exact search_eq alike.anchors sorted r.definitions q.kind q.texts (.refl _)
  rw [outcome, outcome, query, verdict, verdict, policy, found]

theorem resolve_eq (alike : Alike r s) (sorted : AnchorStore.ShardsSorted r.anchors.source)
    (anchorsLoad : AnchorStore.ShardsLoad r.anchors.source)
    (entriesLoad : BiblioStore.ShardsLoad r.biblio.source) (request : LinkRequest) :
    ((resolve request).on s).1 = r.outcome request := by
  rw [← alike.outcome_eq sorted]
  exact resolve_eq_outcome alike.begun alike.isSealed (alike.anchors.source ▸ anchorsLoad)
    (alike.biblio ▸ entriesLoad) request

end Alike

theorem findSection_answer (r : Resolver) (spec id : String) (status : Option Status) :
    ((findSection spec id status).on r).1 =
      (r.anchors.headingsFor (Text.lowercase (Text.trim spec))).bind fun table =>
        table.find id (status.getD r.defaultStatus) := by
  simp only [findSection, onAnchors, Action.on_bind, Action.on_within, AnchorStore.headingsOf_on]
  -- The use of the spec is recorded behind the answer.
  cases r.anchors.headingsFor (Text.lowercase (Text.trim spec)) with
  | error failure => rfl
  | ok table =>
    simp only [Action.on_get, Action.on_ofExcept, Except.bind]
    cases table.find id (status.getD r.defaultStatus) <;> rfl

theorem Alike.findSection_eq {r s : Resolver} (alike : Alike r s) (spec id : String)
    (status : Option Status) :
    ((findSection spec id status).on s).1 = ((findSection spec id status).on r).1 := by
  rw [findSection_answer, findSection_answer, alike.anchors.headings, alike.defaultStatus]

/-- What a resolver answers does not depend on the calls before. -/
theorem answers_of_runs_eq {metadata : Metadata} {r : Resolver} (reached : Reachable metadata r)
    (begun : r.phase ≠ .collecting) (anchorsLoad : AnchorStore.ShardsLoad r.anchors.source)
    (sorted : AnchorStore.ShardsSorted r.anchors.source)
    (entriesLoad : BiblioStore.ShardsLoad r.biblio.source) (calls others : List Call) :
    (∀ request, ((resolve request).on (run calls r)).1 = ((resolve request).on (run others r)).1) ∧
    ∀ spec id status, ((findSection spec id status).on (run calls r)).1 =
      ((findSection spec id status).on (run others r)).1 := by
  -- Both runs are compared with the resolver that they start from.
  have after (calls : List Call) : Alike r (run calls r) :=
    (Alike.refl reached begun).run sorted calls
  constructor
  · intro request
    rw [(after calls).resolve_eq sorted anchorsLoad entriesLoad,
      (after others).resolve_eq sorted anchorsLoad entriesLoad]
  · intro spec id status
    rw [(after calls).findSection_eq, (after others).findSection_eq]

theorem sorted_sample : AnchorStore.ShardsSorted (sample shelf).anchors.source := by
  intro key candidates read c member
  rcases readShard_shelf key with ⟨shard, full⟩ | empty
  · obtain rfl : [boxesAnchor] = candidates := Except.ok.inj (full.symm.trans read)
    rw [List.mem_singleton.1 member, shard]
    decide +kernel
  · obtain rfl : [] = candidates := Except.ok.inj (empty.symm.trans read)
    exact absurd member List.not_mem_nil

/-- A link gets the same answer when it is the first to load the shard as when it is not. -/
theorem answers_of_sample_eq :
    ((resolve { kind := .exact .dfn, text := "box" }).on
      (run [.resolve { kind := .maybe, text := "boxes" }, .cite { key := "box" }] (sample shelf))).1 =
    ((resolve { kind := .exact .dfn, text := "box" }).on (run [] (sample shelf))).1 :=
  (answers_of_runs_eq (reachable_sample shelf) begun_sample anchorsLoad_sample sorted_sample
    entriesLoad_sample [.resolve { kind := .maybe, text := "boxes" }, .cite { key := "box" }] []).1
    { kind := .exact .dfn, text := "box" }

end SpecLink.Resolver
