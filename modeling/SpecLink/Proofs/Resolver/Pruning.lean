import SpecLink.Proofs.Resolver.Contract

/-!
# Anchors that cannot be chosen

A database is pruned by taking out every anchor that no link without a spec may go to: those that
are not exported and those of ignored specs. A link that finds its target in the pruned database
finds the same in the full one, if any anchor or definition is left where the full one has its first
candidates. Otherwise it finds nothing there, because a text with candidates ends the search even if
none of them can be chosen. Main statements: `resolve_of_pruned` and
`resolve_full_ne_resolve_pruned`.
-/
namespace SpecLink

/-- The candidate stays in a database that is pruned of some specs. -/
def Candidate.staysWithout (ignored : List String) (c : Candidate) : Bool :=
  match c.origin with
  | .document .. => true
  | .external specId .. => c.exported && !ignored.contains specId

/-- The second list is the first without some candidates that are pruned. -/
structure Thinned (ignored : List String) (full thin : List Candidate) : Prop where
  subset : ∀ c ∈ thin, c ∈ full
  stay : thin.filter (Candidate.staysWithout ignored) =
    full.filter (Candidate.staysWithout ignored)

namespace Thinned

variable {ignored : List String} {full thin : List Candidate}

theorem refl (list : List Candidate) : Thinned ignored list list := ⟨fun _ member => member, rfl⟩

theorem append {full' thin' : List Candidate} (left : Thinned ignored full thin)
    (right : Thinned ignored full' thin') : Thinned ignored (full ++ full') (thin ++ thin') where
  subset c member := by
    rcases List.mem_append.1 member with member | member
    · exact List.mem_append_left _ (left.subset c member)
    · exact List.mem_append_right _ (right.subset c member)
  stay := by rw [List.filter_append, List.filter_append, left.stay, right.stay]

theorem filter (thinned : Thinned ignored full thin) (fits : Candidate → Bool) :
    Thinned ignored (full.filter fits) (thin.filter fits) where
  subset c member := by
    obtain ⟨present, fit⟩ := List.mem_filter.1 member
    exact List.mem_filter.2 ⟨thinned.subset c present, fit⟩
  stay := by
    rw [List.filter_comm, thinned.stay, List.filter_comm]

theorem mem_of_stays (thinned : Thinned ignored full thin) {c : Candidate} (member : c ∈ full)
    (stays : c.staysWithout ignored = true) : c ∈ thin := by
  have listed : c ∈ full.filter (Candidate.staysWithout ignored) :=
    List.mem_filter.2 ⟨member, stays⟩
  rw [← thinned.stay] at listed
  exact (List.mem_filter.1 listed).1

end Thinned

section Selection

variable {p : LinkPolicy} {q : LinkQuery}

/-- A link without a spec goes to nothing that is pruned. -/
theorem LinkPolicy.Eligible.stays {found : List Candidate} {c : Candidate}
    (eligible : p.Eligible q found c) (unspecified : q.spec = none) :
    c.staysWithout p.ignoredSpecs = true := by
  obtain ⟨-, permitted⟩ := eligible
  cases origin : c.origin with
  | document => simp [Candidate.staysWithout, origin]
  | external specId shortname level urls =>
    rw [origin] at permitted
    have exported : c.exported = true := by
      have wanted := permitted.wanted
      rwa [LinkQuery.WantsAnchor, unspecified] at wanted
    simp [Candidate.staysWithout, origin, exported, permitted.notIgnored]

variable {full thin : List Candidate}

theorem Thinned.passing_eq (thinned : Thinned p.ignoredSpecs full thin)
    (noReplaced : p.replacedSpecs = []) (unspecified : q.spec = none) :
    Selection.passing p q full = Selection.passing p q thin := by
  -- Without replacements a candidate passes or not whatever else was found.
  have alone : p.passes q full = p.passes q thin := by
    funext c
    simp [LinkPolicy.passes, LinkPolicy.droppedFor, LinkPolicy.droppedSpecs, noReplaced]
  -- To pass, a candidate has to stay.
  have stay (list : List Candidate) : list.filter (p.passes q thin) =
      (list.filter (Candidate.staysWithout p.ignoredSpecs)).filter (p.passes q thin) := by
    rw [List.filter_filter]
    refine List.filter_congr fun c _ => ?_
    rw [Bool.eq_iff_iff, Bool.and_eq_true, iff_self_and]
    exact fun passes => ((LinkPolicy.passes_iff p q thin c).1 passes).stays unspecified
  rw [Selection.passing, Selection.passing, alone, stay full, stay thin, thinned.stay]

theorem Thinned.select_ok_iff (thinned : Thinned p.ignoredSpecs full thin)
    (noReplaced : p.replacedSpecs = []) (unspecified : q.spec = none) {choice : Choice} :
    Selection.select p q full = .ok choice ↔ Selection.select p q thin = .ok choice := by
  rw [Selection.select_ok_iff, Selection.select_ok_iff, thinned.passing_eq noReplaced unspecified]

end Selection

namespace AnchorStore

/-- The second store has read the same shards as the first, of the same database without what is
pruned. -/
structure Pruned (ignored : List String) (full pruned : AnchorStore) : Prop where
  specs : pruned.specs = full.specs
  ownShortname : pruned.ownShortname = full.ownShortname
  loaded : pruned.loaded = full.loaded
  anchors : ∃ raw : List Candidate, full.anchors = raw.map full.filed ∧
    pruned.anchors = (raw.filter (Candidate.staysWithout ignored)).map full.filed
  shards : ∀ key, readShard pruned.source (LinkText.shardName key) =
    (readShard full.source (LinkText.shardName key)).map
      (List.filter (Candidate.staysWithout ignored))

variable {ignored : List String} {full pruned : AnchorStore}

/-- An anchor that a store exports was exported in the database. -/
theorem staysWithout_of_filed {c : Candidate}
    (stays : (full.filed c).staysWithout ignored = true) : c.staysWithout ignored = true := by
  cases origin : c.origin with
  | document => simp [Candidate.staysWithout, origin]
  | external specId shortname level urls =>
    rw [filed] at stays
    split at stays
    · rw [withhold] at stays
      split at stays
      · simp [Candidate.staysWithout, origin] at stays
      · simpa [Candidate.staysWithout, origin] using stays
    · simpa [Candidate.staysWithout, origin] using stays

theorem Pruned.thinned (pruning : Pruned ignored full pruned) :
    Thinned ignored full.anchors pruned.anchors := by
  obtain ⟨raw, fullAnchors, prunedAnchors⟩ := pruning.anchors
  rw [fullAnchors, prunedAnchors]
  refine ⟨fun c member => ?_, ?_⟩
  · obtain ⟨read, listed, rfl⟩ := List.mem_map.1 member
    exact List.mem_map_of_mem (List.mem_filter.1 listed).1
  · rw [List.filter_map, List.filter_map, List.filter_filter]
    congr 1
    -- What stays as it is filed stays as it is read.
    refine List.filter_congr fun c _ => ?_
    rw [Bool.eq_iff_iff, Bool.and_eq_true, and_iff_left_iff_imp]
    exact staysWithout_of_filed

theorem Pruned.opened (pruning : Pruned ignored full pruned) (key : String) :
    Pruned ignored (full.opened key) (pruned.opened key) := by
  have shard := pruning.shards key
  rw [AnchorStore.opened, AnchorStore.opened, pruning.loaded]
  split
  · exact pruning
  · cases read : readShard full.source (LinkText.shardName key) with
    | error failure =>
      -- A shard that cannot be read cannot be read in the pruned database either.
      rw [read] at shard
      rw [shard]
      exact pruning
    | ok candidates =>
      rw [read] at shard
      rw [shard]
      obtain ⟨raw, fullAnchors, prunedAnchors⟩ := pruning.anchors
      have sameFiled : pruned.filed = full.filed := by
        funext c
        rw [filed, filed, pruning.ownShortname]
      refine { pruning with loaded := rfl, anchors := ⟨raw ++ candidates, ?_, ?_⟩ }
      · simp only [addAll, fullAnchors, List.map_append]
        rfl
      · simp only [addAll, prunedAnchors, sameFiled, List.filter_append, List.map_append]
        rfl

theorem Pruned.suppress (pruning : Pruned ignored full pruned) (unnamed : full.ownShortname = none)
    (shortname : String) :
    Pruned ignored (full.suppress shortname) (pruned.suppress shortname) := by
  rw [AnchorStore.suppress, AnchorStore.suppress]
  split
  · exact pruning
  · -- Without an own spec so far, to name one only adds to how anchors are filed.
    obtain ⟨raw, fullAnchors, prunedAnchors⟩ := pruning.anchors
    have filedPlain (c : Candidate) :
        full.filed c = { c with text := LinkText.normalize c.text } := by
      rw [filed, unnamed]
    refine { pruning with ownShortname := rfl, anchors := ⟨raw, ?_, ?_⟩ }
    · rw [fullAnchors, List.map_map]
      exact List.map_congr_left fun c _ => congrArg (withhold _) (filedPlain c)
    · rw [prunedAnchors, List.map_map]
      exact List.map_congr_left fun c _ => congrArg (withhold _) (filedPlain c)

end AnchorStore

namespace Resolver

/-- The second resolver is the first one over the database without the anchors that are not exported
and those of ignored specs. -/
structure Pruned (full pruned : Resolver) : Prop where
  same : pruned = { full with anchors := pruned.anchors }
  anchors : AnchorStore.Pruned full.ignoredSpecs full.anchors pruned.anchors

/-- Over a pruned database, a document has the same resolver but for its anchors. -/
theorem Pruned.ofStores {full pruned : AnchorStore} (biblio : BiblioStore) (config : Config)
    (metadata : Metadata) (unnamed : full.ownShortname = none)
    (pruning : AnchorStore.Pruned (ofStores full biblio config metadata).ignoredSpecs full pruned) :
    Pruned (ofStores full biblio config metadata) (ofStores pruned biblio config metadata) := by
  have moved {store : AnchorStore} (specs : store.specs = full.specs) :=
    ofStores_anchors store specs biblio config metadata
  have anchors {store : AnchorStore} (specs : store.specs = full.specs) :
      (Resolver.ofStores store biblio config metadata).anchors =
        store.suppress metadata.shortname := by
    rw [moved specs]
  refine ⟨by rw [moved pruning.specs], ?_⟩
  rw [anchors rfl, anchors pruning.specs]
  exact pruning.suppress unnamed metadata.shortname

/-- Changes that do not look at the anchors keep a resolver and the one over the pruned database
together. -/
theorem Pruned.map {full pruned : Resolver} (pruning : Pruned full pruned)
    (change : Resolver → Resolver)
    (blind : ∀ r store, change { r with anchors := store } = { change r with anchors := store })
    (ignored : (change full).ignoredSpecs = full.ignoredSpecs) :
    Pruned (change full) (change pruned) := by
  have anchors (r : Resolver) : (change r).anchors = r.anchors := by
    have unchanged : (change { r with anchors := r.anchors }).anchors = r.anchors := by rw [blind]
    exact unchanged
  refine ⟨?_, ?_⟩
  · rw [anchors pruned, ← blind, ← pruning.same]
  · rw [ignored, anchors, anchors]
    exact pruning.anchors

theorem Pruned.define {full pruned : Resolver} (pruning : Pruned full pruned) (d : Definition) :
    Pruned ((define d).on full).2 ((define d).on pruned).2 := by
  refine pruning.map (fun r => ((Resolver.define d).on r).2) (fun r store => ?_) ?_ <;>
  · simp only [Resolver.define, Action.on_bind, Action.on_get]
    split <;> rfl

theorem Pruned.finish {full pruned : Resolver} (pruning : Pruned full pruned) :
    Pruned full.finish pruned.finish := by
  refine pruning.map Resolver.finish (fun r store => ?_) ?_ <;>
  · simp only [Resolver.finish]
    split <;> rfl

theorem hits_thinned {ignored : List String} {full pruned : AnchorStore}
    (pruning : AnchorStore.Pruned ignored full pruned) (definitions : DefinitionIndex)
    (kind : LinkKind) (key : String) :
    Thinned ignored (hits definitions full kind key) (hits definitions pruned kind key) :=
  ((Thinned.refl definitions.candidates).append pruning.thinned).filter _

/-- If the candidates of a search do not all get lost, pruning only makes them fewer. -/
theorem search_thinned {ignored : List String} {full pruned : AnchorStore}
    (pruning : AnchorStore.Pruned ignored full pruned) (definitions : DefinitionIndex)
    (kind : LinkKind) (texts : List String)
    (left : ∃ c ∈ search definitions kind full texts, c.staysWithout ignored = true) :
    Thinned ignored (search definitions kind full texts) (search definitions kind pruned texts) := by
  induction texts generalizing full pruned with
  | nil => exact Thinned.refl []
  | cons text rest ih =>
    have opened := pruning.opened (LinkText.normalize text)
    have thinned := hits_thinned opened definitions kind (LinkText.normalize text)
    rw [search] at left ⊢
    rw [search]
    cases fullHits : hits definitions (full.opened (LinkText.normalize text)) kind
        (LinkText.normalize text) with
    | nil =>
      -- Where the full database has nothing the pruned one has nothing, and both go on.
      rw [fullHits] at left thinned
      have none : hits definitions (pruned.opened (LinkText.normalize text)) kind
          (LinkText.normalize text) = [] :=
        List.eq_nil_iff_forall_not_mem.2 fun c member =>
          List.not_mem_nil (thinned.subset c member)
      rw [none]
      exact ih opened left
    | cons first others =>
      rw [fullHits] at left thinned
      obtain ⟨c, member, stays⟩ := left
      -- What is left keeps the search in the pruned database from going on.
      have some : c ∈ hits definitions (pruned.opened (LinkText.normalize text)) kind
          (LinkText.normalize text) := thinned.mem_of_stays member stays
      cases prunedHits : hits definitions (pruned.opened (LinkText.normalize text)) kind
          (LinkText.normalize text) with
      | nil =>
        rw [prunedHits] at some
        exact absurd some List.not_mem_nil
      | cons d more =>
        rw [prunedHits] at thinned
        exact thinned

theorem search_singleton (definitions : DefinitionIndex) (kind : LinkKind) (store : AnchorStore)
    (text : String) : search definitions kind store [text] =
      hits definitions (store.opened (LinkText.normalize text)) kind (LinkText.normalize text) := by
  rw [search]
  split
  next none => rw [none, search]
  next => rfl

theorem spec_queryOf {r : Resolver} (noDefaults : r.defaults = {}) {request : LinkRequest}
    (unspecified : request.spec = none) : (r.queryOf request).spec = none := by
  rw [queryOf_of_defaults_empty noDefaults, LinkRequest.query, unspecified]
  rfl

/-- A link without a spec that finds its target in the pruned database finds the same in the full
one if some of the first candidates there stay, and else nothing. The second cannot happen to a kind
that is sought under one text alone. -/
theorem resolve_of_pruned {metadata : Metadata} {full pruned : Resolver}
    (reached : Reachable metadata full) (pruning : Pruned full pruned)
    (noDefaults : full.defaults = {}) (noReplaced : full.replacedSpecs = [])
    (anchorsLoad : AnchorStore.ShardsLoad full.anchors.source)
    (entriesLoad : BiblioStore.ShardsLoad full.biblio.source) {request : LinkRequest}
    (unspecified : request.spec = none) {link : ResolvedLink}
    (answered : ((resolve request).on pruned).1 = .ok link) :
    let q := full.queryOf request
    ((∃ c ∈ full.found q, c.staysWithout full.ignoredSpecs = true) →
      ((resolve request).on full).1 = .ok link) ∧
    ((∀ c ∈ full.found q, c.staysWithout full.ignoredSpecs = false) →
      ∃ stage, ((resolve request).on full).1 = .error (.notFound q.kind q.text stage)) ∧
    (q.kind.usesVariants = false → ((resolve request).on full).1 = .ok link) := by
  intro q
  have consistent := reached.consistent
  have phase : pruned.phase = full.phase := by rw [pruning.same]
  have definitions : pruned.definitions = full.definitions := by rw [pruning.same]
  have query : pruned.queryOf request = q := by rw [pruning.same]; rfl
  have policy : pruned.policy = full.policy := by
    rw [pruning.same, Resolver.policy, Resolver.policy, pruning.anchors.specs]
  have unnamed : q.spec = none := spec_queryOf noDefaults unspecified
  have begun : full.phase ≠ .collecting := by
    intro collecting
    rw [resolve_of_collecting (phase.trans collecting)] at answered
    cases answered
  have answer : ((resolve request).on full).1 = full.outcome request :=
    resolve_eq_outcome begun (consistent.isSealed begun) anchorsLoad entriesLoad request
  obtain ⟨ordinary, choice, selected, rfl⟩ := outcome_ok_iff.1 <|
    outcome_of_resolve (by rw [phase, definitions]; exact consistent.isSealed) answered
  rw [query] at ordinary selected
  rw [policy] at selected
  -- If some of the first candidates stay, both searches stop at their text, and what may be chosen
  -- there is the same.
  have stays (left : ∃ c ∈ full.found q, c.staysWithout full.ignoredSpecs = true) :
      ((resolve request).on full).1 = .ok choice.link := by
    have thinned : Thinned full.ignoredSpecs (full.found q) (pruned.found q) := by
      rw [found, found, definitions]
      exact search_thinned pruning.anchors full.definitions q.kind q.texts left
    rw [answer]
    exact outcome_ok_iff.2
      ⟨ordinary, choice, (thinned.select_ok_iff noReplaced unnamed).2 selected, rfl⟩
  refine ⟨stays, fun lost => ?_, fun literal => stays ?_⟩
  · -- Otherwise no candidate is eligible, and no choice is made.
    cases result : Selection.select full.policy q (full.found q) with
    | ok other =>
      obtain ⟨member, eligible⟩ := Selection.eligible_of_select result
      have kept := (lost _ member).symm.trans (eligible.stays unnamed)
      cases kept
    | error stage =>
      refine ⟨stage, ?_⟩
      rw [answer, outcome, if_neg (by rw [ordinary]; decide), verdict, result]
  · -- A kind without variants is sought under one text, where the full database has the target, too.
    obtain ⟨member, eligible⟩ := Selection.eligible_of_select selected
    have texts : q.texts = [q.text] := by simp [LinkQuery.texts, literal]
    rw [found, texts, search_singleton, definitions] at member
    refine ⟨choice.link.candidate, ?_, eligible.stays unnamed⟩
    rw [found, texts, search_singleton]
    exact (hits_thinned (pruning.anchors.opened _) _ _ _).subset _ member

theorem pruned_sample : Pruned (sample shelf) (sample (.ofFiles ∅)) := by
  have anchors : AnchorStore.Pruned []
      (AnchorStore.addAll { source := shelf } [flexAnchor 1 "flex-1", flexAnchor 2 "flex-2"])
      (AnchorStore.addAll { source := .ofFiles ∅ }
        [flexAnchor 1 "flex-1", flexAnchor 2 "flex-2"]) := by
    refine ⟨rfl, rfl, rfl, ⟨[flexAnchor 1 "flex-1", flexAnchor 2 "flex-2"], rfl, ?_⟩, fun key => ?_⟩
    · decide +kernel
    · show AnchorStore.readShard (.ofFiles ∅) _ = (AnchorStore.readShard shelf _).map _
      rcases readShard_shelf key with ⟨-, read⟩ | read
      · rw [read]
        rfl
      · rw [read]
        rfl
  have started : Pruned _ _ := Pruned.ofStores { source := .ofFiles ∅ }
    { version := 1, dataDir := "" } {} rfl anchors
  simp only [sample, run, List.foldl_cons, List.foldl_nil, Call.after]
  exact (started.define { id := "box", texts := "box" }).finish

/-- A link to the term under its own name does not come across the anchor on the shelf. -/
theorem resolve_box_eq :
    ((resolve { kind := .exact .dfn, text := "Box" }).on (sample (.ofFiles ∅))).1 =
      .ok ⟨"#box", ⟨"box", .dfn, .document "box" none, ∅, true, true⟩⟩ ∧
    ((resolve { kind := .exact .dfn, text := "Box" }).on (sample shelf)).1 =
      .ok ⟨"#box", ⟨"box", .dfn, .document "box" none, ∅, true, true⟩⟩ := by
  have answered : ((resolve { kind := .exact .dfn, text := "Box" }).on (sample (.ofFiles ∅))).1 =
      .ok ⟨"#box", ⟨"box", .dfn, .document "box" none, ∅, true, true⟩⟩ := by decide +kernel
  have full := resolve_of_pruned (reachable_sample shelf) pruned_sample (by decide +kernel)
    (by decide +kernel) anchorsLoad_sample entriesLoad_sample rfl answered
  exact ⟨answered, full.1 (by decide +kernel)⟩

/-- The anchor on the shelf hides the term from its plural: the search ends at the text that has the
anchor, though the anchor is not exported. -/
theorem resolve_full_ne_resolve_pruned :
    Reachable {} (sample shelf) ∧ Pruned (sample shelf) (sample (.ofFiles ∅)) ∧
    (sample shelf).defaults = {} ∧ (sample shelf).replacedSpecs = [] ∧
    AnchorStore.ShardsLoad (sample shelf).anchors.source ∧
    BiblioStore.ShardsLoad (sample shelf).biblio.source ∧
    (∃ link, ((resolve { kind := .exact .dfn, text := "boxes" }).on (sample (.ofFiles ∅))).1 =
      .ok link) ∧
    ((resolve { kind := .exact .dfn, text := "boxes" }).on (sample shelf)).1 =
      .error (.notFound (.exact .dfn) "boxes" .exported) := by
  have answered : ((resolve { kind := .exact .dfn, text := "boxes" }).on (sample (.ofFiles ∅))).1 =
      .ok ⟨"#box", ⟨"box", .dfn, .document "box" none, ∅, true, true⟩⟩ := by decide +kernel
  have refused : ((resolve { kind := .exact .dfn, text := "boxes" }).on (sample shelf)).1 =
      .error (.notFound (.exact .dfn) "boxes" .exported) := by decide +kernel
  exact ⟨reachable_sample shelf, pruned_sample, by decide +kernel, by decide +kernel,
    anchorsLoad_sample, entriesLoad_sample, ⟨_, answered⟩, refused⟩

end Resolver

end SpecLink
