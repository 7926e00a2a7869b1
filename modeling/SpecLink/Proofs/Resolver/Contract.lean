import SpecLink.Proofs.Resolver.Run
import SpecLink.Proofs.Resolver.Search
import SpecLink.Proofs.Selection.Winner

/-!
# What a resolver answers

When a request is answered with a link, and with which: a link is found if any candidate is
eligible, and of several the selection prefers definitions of the document, then the greatest level
of a short name, then the order of the candidates. Main statements:
`resolve_ok_iff_exists_eligible` and `candidate_of_resolve`.
-/
namespace SpecLink.Resolver

theorem isCustomProperty_iff (q : LinkQuery) : q.isCustomProperty = true ↔
    (q.kind = .propdesc ∨ q.kind = .exact .property ∨ q.kind = .exact .descriptor) ∧
      Text.startsWith "--" q.text = true := by
  simp only [LinkQuery.isCustomProperty, Bool.and_eq_true, Bool.or_eq_true, beq_iff_eq, or_assoc]

theorem outcome_ok_iff {r : Resolver} {request : LinkRequest} {link : ResolvedLink} :
    r.outcome request = .ok link ↔ (r.queryOf request).isCustomProperty = false ∧
      ∃ choice, Selection.select r.policy (r.queryOf request) (r.found (r.queryOf request)) =
        .ok choice ∧ choice.link = link := by
  rw [outcome, verdict]
  cases (r.queryOf request).isCustomProperty with
  | true => simp
  | false => cases Selection.select r.policy (r.queryOf request) (r.found (r.queryOf request)) <;> simp

/-- A link goes to a candidate that was found and is eligible. -/
theorem eligible_of_resolve {r : Resolver}
    (closed : r.phase ≠ .collecting → r.definitions.isSealed = true) {request : LinkRequest}
    {link : ResolvedLink} (answered : ((resolve request).on r).1 = .ok link) :
    link.candidate ∈ r.found (r.queryOf request) ∧
      r.policy.Eligible (r.queryOf request) (r.found (r.queryOf request)) link.candidate := by
  obtain ⟨-, choice, selected, rfl⟩ := outcome_ok_iff.1 (outcome_of_resolve closed answered)
  exact Selection.eligible_of_select selected

/-- Where every shard can be read, a request that finds an eligible candidate is answered with a
link. -/
theorem exists_link_of_eligible {r : Resolver} (begun : r.phase ≠ .collecting)
    (closed : r.definitions.isSealed = true) (anchorsLoad : AnchorStore.ShardsLoad r.anchors.source)
    (entriesLoad : BiblioStore.ShardsLoad r.biblio.source) {request : LinkRequest}
    (ordinary : (r.queryOf request).isCustomProperty = false) {c : Candidate}
    (found : c ∈ r.found (r.queryOf request))
    (eligible : r.policy.Eligible (r.queryOf request) (r.found (r.queryOf request)) c) :
    ∃ link, ((resolve request).on r).1 = .ok link := by
  obtain ⟨choice, selected⟩ := Selection.exists_select_iff.2 ⟨c, found, eligible⟩
  refine ⟨choice.link, ?_⟩
  rw [resolve_eq_outcome begun closed anchorsLoad entriesLoad]
  exact outcome_ok_iff.2 ⟨ordinary, choice, selected, rfl⟩

/-- Where every shard can be read, a request is answered with a link exactly if some candidate that
it finds is eligible. Custom properties are never found. -/
theorem resolve_ok_iff_exists_eligible {metadata : Metadata} {r : Resolver}
    (reached : Reachable metadata r) (begun : r.phase ≠ .collecting)
    (anchorsLoad : AnchorStore.ShardsLoad r.anchors.source)
    (entriesLoad : BiblioStore.ShardsLoad r.biblio.source) (request : LinkRequest) :
    let q := r.queryOf request
    let answer := ((resolve request).on r).1
    r.policy.shortname = Text.lowercase (Text.trim metadata.shortname) ∧
    r.policy.versionedName = Text.lowercase metadata.versionedName ∧
    if (q.kind = .propdesc ∨ q.kind = .exact .property ∨ q.kind = .exact .descriptor) ∧
        Text.startsWith "--" q.text = true then
      answer = .error (.notFound q.kind q.text .text)
    else
      (∃ link, answer = .ok link) ↔ ∃ c ∈ r.found q, r.policy.Eligible q (r.found q) c := by
  intro q answer
  have consistent := reached.consistent
  have answered : answer = r.outcome request :=
    resolve_eq_outcome begun (consistent.isSealed begun) anchorsLoad entriesLoad request
  refine ⟨consistent.shortname, consistent.versionedName, ?_⟩
  split
  next custom =>
    rw [answered, outcome, if_pos ((isCustomProperty_iff q).2 custom)]
  next custom =>
    -- Every other request answers with the choice among its candidates, if there is one.
    have ordinary : q.isCustomProperty = false :=
      Bool.eq_false_iff.2 fun isCustom => custom ((isCustomProperty_iff q).1 isCustom)
    rw [answered, ← Selection.exists_select_iff]
    simp only [outcome_ok_iff]
    constructor
    · rintro ⟨_, -, choice, selected, -⟩
      exact ⟨choice, selected⟩
    · rintro ⟨choice, selected⟩
      exact ⟨choice.link, ordinary, choice, selected, rfl⟩

/-- A source with one anchor, which is not exported. -/
def shelf : DataSource where
  name := "shelf"
  fetch path := .ok <|
    if path = AnchorStore.shardPath "bo" then
      some <| "\x7b\"boxes\":[\x7b\"kind\":\"dfn\",\"spec_id\":\"box-1\"," ++
        "\"shortname\":\"box\",\"exported\":false\x7d]\x7d"
    else none
  list _ := []

/-- The anchor on the shelf. -/
def boxesAnchor : Candidate where
  text := "boxes"
  kind := .dfn
  origin := .external "box-1" "box" none {}
  scope := ∅
  exported := false
  normative := true

theorem readShard_shelf (key : String) :
    (LinkText.shardName key = "bo" ∧
      AnchorStore.readShard shelf (LinkText.shardName key) = .ok [boxesAnchor]) ∨
    AnchorStore.readShard shelf (LinkText.shardName key) = .ok [] := by
  by_cases here : AnchorStore.shardPath (LinkText.shardName key) = AnchorStore.shardPath "bo"
  · have shard : LinkText.shardName key = "bo" := AnchorStore.shardPath_injective here
    rw [shard]
    exact .inl ⟨rfl, by rfl⟩
  · refine .inr ?_
    simp only [AnchorStore.readShard, shelf, if_neg here]
    rfl

/-- An anchor for the property `flex` in one level of a spec. -/
def flexAnchor (level : UInt32) (specId : String) : Candidate where
  text := "flex"
  kind := .property
  origin := .external specId "flex" (some ⟨level, []⟩) ⟨some ("/" ++ specId), none⟩
  scope := ∅
  exported := true
  normative := true

/-- A document that defines the term `box`, over two levels of a property and a source of more
anchors. -/
def sample (source : DataSource) : Resolver :=
  run [.define { id := "box", texts := "box" }, .finish] <|
    ofStores (AnchorStore.addAll { source } [flexAnchor 1 "flex-1", flexAnchor 2 "flex-2"])
      { source := .ofFiles ∅ } { version := 1, dataDir := "" } {}

theorem reachable_sample (source : DataSource) : Reachable {} (sample source) :=
  .call .finish (.call (.define { id := "box", texts := "box" }) (.ofStores _ _ _))

theorem begun_sample : (sample shelf).phase ≠ .collecting := by decide +kernel

theorem anchorsLoad_sample : AnchorStore.ShardsLoad (sample shelf).anchors.source := by
  intro key
  rcases readShard_shelf key with ⟨-, read⟩ | read
  · exact ⟨_, read⟩
  · exact ⟨_, read⟩

theorem entriesLoad_sample : BiblioStore.ShardsLoad (sample shelf).biblio.source :=
  fun _ => ⟨[], rfl⟩

/-- A link to a property finds it in another spec. -/
theorem resolve_flex_ok :
    ∃ link, ((resolve { kind := .propdesc, text := "Flex" }).on (sample shelf)).1 = .ok link := by
  have contract := resolve_ok_iff_exists_eligible (reachable_sample shelf) begun_sample
    anchorsLoad_sample entriesLoad_sample { kind := .propdesc, text := "Flex" }
  have ordinary := contract.2.2
  rw [if_neg (by decide +kernel)] at ordinary
  exact ordinary.2 (by decide +kernel)

section Winner

variable {metadata : Metadata} {r : Resolver} {q : LinkQuery}

theorem found_eq_hits (r : Resolver) (q : LinkQuery) : r.found q = [] ∨
    ∃ store key, r.found q = hits r.definitions store q.kind key := by
  rcases @search_cases (fun _ => True) (fun _ _ => id) r.definitions q.kind r.anchors trivial
    q.texts with empty | ⟨store, key, -, same⟩
  · exact .inl empty
  · exact .inr ⟨store, key, same⟩

/-- All candidates of a query stand under one text and satisfy its kind. -/
theorem exists_text_of_found (r : Resolver) (q : LinkQuery) :
    ∃ key, ∀ c ∈ r.found q, c.text = key ∧ q.kind.accepts c.kind = true := by
  rcases found_eq_hits r q with empty | ⟨store, key, same⟩
  · exact ⟨"", fun c member => absurd (empty ▸ member) List.not_mem_nil⟩
  · refine ⟨key, fun c member => ?_⟩
    rw [same, hits, List.mem_filter, Bool.and_eq_true, beq_iff_eq] at member
    exact member.2

/-- A definition of the document stands before every anchor and in the order of insertion. -/
theorem find?_found_of_find?_candidates (consistent : Consistent metadata r) {d : Candidate}
    (first : r.definitions.candidates.find?
      (fun c => decide (c ∈ r.found q ∧ q.WantsScope c)) = some d) :
    (r.found q).find? (fun c => c.isLocal && decide (q.WantsScope c)) = some d := by
  rcases found_eq_hits r q with empty | ⟨store, key, same⟩
  · have fits := List.find?_some first
    rw [decide_eq_true_eq, empty] at fits
    exact absurd fits.1 List.not_mem_nil
  · rw [same] at first ⊢
    have own : (r.definitions.candidates.filter fun c => c.text == key && q.kind.accepts c.kind).find?
        (fun c => c.isLocal && decide (q.WantsScope c)) = some d := by
      rw [List.find?_filter, ← first]
      refine List.find?_congr fun c member => ?_
      -- An indexed definition is found exactly if it stands under the text and has a right kind.
      have listed : c ∈ hits r.definitions store q.kind key ↔
          (c.text == key && q.kind.accepts c.kind) = true := by
        rw [hits, List.mem_filter, List.mem_append]
        exact ⟨fun found => found.2, fun fits => ⟨.inl member, fits⟩⟩
      simp only [listed, consistent.own c member, Bool.true_and, decide_eq_true_eq]
    -- The definitions of the document come first among the candidates.
    rw [hits_eq_append, List.find?_append, own]
    rfl

/-- A definition under the first text of a query is among its candidates. -/
theorem mem_found_of_mem_definitions {c : Candidate} (indexed : c ∈ r.definitions.candidates)
    {text : String} {others : List String} (first : q.texts = text :: others)
    (same : LinkText.normalize text = c.text) (accepted : q.kind.accepts c.kind = true) :
    c ∈ r.found q := by
  have listed : c ∈ hits r.definitions (r.anchors.opened c.text) q.kind c.text := by
    refine List.mem_filter.2 ⟨List.mem_append_left _ indexed, ?_⟩
    rw [beq_self_eq_true, accepted]
    rfl
  rw [Resolver.found, first, search, same]
  split
  next none =>
    rw [none] at listed
    exact absurd listed List.not_mem_nil
  next => exact listed

/-- Where every shard can be read, a link that finds a definition with its scope goes to one. -/
theorem resolve_of_indexed (consistent : Consistent metadata r) (begun : r.phase ≠ .collecting)
    (anchorsLoad : AnchorStore.ShardsLoad r.anchors.source)
    (entriesLoad : BiblioStore.ShardsLoad r.biblio.source) {request : LinkRequest}
    (ordinary : (r.queryOf request).isCustomProperty = false) {c : Candidate}
    (indexed : c ∈ r.definitions.candidates) (found : c ∈ r.found (r.queryOf request))
    (wanted : (r.queryOf request).WantsScope c) :
    ∃ link, ((resolve request).on r).1 = .ok link ∧
      link.candidate ∈ r.definitions.candidates ∧ link.candidate ∈ r.found (r.queryOf request) ∧
      ∃ id line, link.candidate.origin = .document id line ∧ link.url = "#" ++ id := by
  have eligible : r.policy.Eligible (r.queryOf request) (r.found (r.queryOf request)) c :=
    (LinkPolicy.eligible_iff_of_isLocal (consistent.own c indexed)).2 wanted
  obtain ⟨choice, selected⟩ := Selection.exists_select_iff.2 ⟨c, found, eligible⟩
  have any : (r.definitions.candidates.find? fun c =>
      decide (c ∈ r.found (r.queryOf request) ∧ (r.queryOf request).WantsScope c)).isSome = true :=
    List.find?_isSome.2 ⟨c, indexed, by simp [found, wanted]⟩
  obtain ⟨first, earliest⟩ := Option.isSome_iff_exists.1 any
  have fits := List.find?_some earliest
  rw [decide_eq_true_eq] at fits
  obtain ⟨rfl, target⟩ := Selection.link_of_select_local selected
    (find?_found_of_find?_candidates consistent earliest)
  refine ⟨choice.link, ?_, List.mem_of_find?_eq_some earliest, fits.1, target⟩
  rw [resolve_eq_outcome begun (consistent.isSealed begun) anchorsLoad entriesLoad]
  exact outcome_ok_iff.2 ⟨ordinary, choice, selected, rfl⟩

theorem mem_found_of_mem_candidates {c d : Candidate} (found : c ∈ r.found q)
    (indexed : d ∈ r.definitions.candidates) (kind : d.kind = c.kind) (text : d.text = c.text) :
    d ∈ r.found q := by
  rcases found_eq_hits r q with empty | ⟨store, key, same⟩
  · rw [empty] at found
    exact absurd found List.not_mem_nil
  · rw [same, hits, List.mem_filter] at found ⊢
    rw [kind, text]
    exact ⟨List.mem_append_left _ indexed, found.2⟩

/-- A link goes to the earliest definition of the document that has the scope. Without one it goes
to an anchor: of the eligible ones, those of the greatest level if all share a short name, and of
these the first property if properties or descriptors are sought and there is one, else the first.
An anchor is never preferred to a definition with its kind, text and scope, and no place is sought
outside a list. -/
theorem candidate_of_resolve (reached : Reachable metadata r) :
    (∀ q cs links, Selection.survivors r.policy q cs = .ok links →
      (Selection.choose q links).isSome = true) ∧
    ∀ {request : LinkRequest} {link : ResolvedLink}, ((resolve request).on r).1 = .ok link →
      let q := r.queryOf request
      let found := r.found q
      let eligible := found.filter fun c => decide (r.policy.Eligible q found c)
      let contenders := Selection.contenders eligible
      (∀ d, r.definitions.candidates.find? (fun c => decide (c ∈ found ∧ q.WantsScope c)) = some d →
        link.candidate = d ∧ ∃ id line, d.origin = .document id line ∧ link.url = "#" ++ id) ∧
      ((∀ c ∈ found, c.isLocal = true → ¬ q.WantsScope c) →
        link.candidate.isLocal = false ∧
        ∃ inside : Selection.winnerIndex q contenders < contenders.length,
          link.candidate = contenders[Selection.winnerIndex q contenders]) ∧
      (link.candidate.isLocal = false → ∀ d ∈ r.definitions.candidates,
        ¬ (d.kind = link.candidate.kind ∧ d.text = link.candidate.text ∧
          d.scope = link.candidate.scope)) := by
  refine ⟨fun q cs links left => ?_, fun {request link} answered => ?_⟩
  · obtain ⟨rfl, nonempty⟩ := (Selection.survivors_ok_iff r.policy q cs links).1 left
    exact Selection.choose_isSome q nonempty
  intro q found eligible contenders
  have consistent := reached.consistent
  -- The link is what the selection chose among the candidates that were found.
  obtain ⟨-, choice, selected, rfl⟩ :=
    outcome_ok_iff.1 (outcome_of_resolve consistent.isSealed answered)
  refine ⟨fun d first => ?_, fun foreign => ?_, fun external d indexed claim => ?_⟩
  · exact Selection.link_of_select_local selected (find?_found_of_find?_candidates consistent first)
  · obtain ⟨inside, same⟩ := Selection.candidate_of_select_external selected foreign
    obtain ⟨member, eligible⟩ := Selection.eligible_of_select selected
    refine ⟨Bool.eq_false_iff.2 fun own => foreign _ member own eligible.1, inside, same⟩
  · obtain ⟨member, eligible⟩ := Selection.eligible_of_select selected
    have present : d ∈ found := mem_found_of_mem_candidates member indexed claim.1 claim.2.1
    have scope : q.WantsScope d := by
      rw [LinkQuery.WantsScope, claim.2.2]
      exact eligible.1
    -- The definition has the scope, so some definition is chosen before every anchor.
    have any : (found.find? (fun c => c.isLocal && decide (q.WantsScope c))).isSome = true :=
      List.find?_isSome.2 ⟨d, present, by simp [consistent.own d indexed, scope]⟩
    obtain ⟨first, own⟩ := Option.isSome_iff_exists.1 any
    obtain ⟨same, -⟩ := Selection.link_of_select_local selected own
    have isLocal := List.find?_some own
    rw [← same, external] at isLocal
    cases isLocal

/-- The greater level is chosen, though it stands behind. -/
theorem resolve_flex_eq :
    ((resolve { kind := .propdesc, text := "Flex" }).on (sample shelf)).1 =
      .ok ⟨"/flex-2", flexAnchor 2 "flex-2"⟩ ∧ (flexAnchor 2 "flex-2").isLocal = false := by
  have answered : ((resolve { kind := .propdesc, text := "Flex" }).on (sample shelf)).1 =
      .ok ⟨"/flex-2", flexAnchor 2 "flex-2"⟩ := by decide +kernel
  obtain ⟨-, external, -⟩ := (candidate_of_resolve (reachable_sample shelf)).2 answered
  exact ⟨answered, (external (by decide +kernel)).1⟩

end Winner

end SpecLink.Resolver
