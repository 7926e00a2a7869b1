import SpecLink.Proofs.Anchor.Shards
import SpecLink.Proofs.Biblio.Shards
import SpecLink.Proofs.Selection.Eligibility
import SpecLink.Resolver

/-!
# The search for a target

What a request comes to, apart from everything that the resolver reports, records and loads on the
way: `search` gathers candidates and `outcome` selects among them. Main statements: `resolve_cases`,
by which a resolver answers with the outcome unless data cannot be read, and its two consequences
`resolve_eq_outcome` and `outcome_of_resolve`.
-/
namespace SpecLink.Resolver

/-- The candidates under a text in normal form, those of the document first. -/
def hits (definitions : DefinitionIndex) (store : AnchorStore) (kind : LinkKind) (key : String) :
    List Candidate :=
  (definitions.candidates ++ store.anchors).filter fun c => c.text == key && kind.accepts c.kind

/-- The candidates under the first of some texts that has any. The shard of each text is opened
before it is looked at. -/
def search (definitions : DefinitionIndex) (kind : LinkKind) :
    AnchorStore → List String → List Candidate
  | _, [] => []
  | store, text :: rest =>
    match hits definitions (store.opened (LinkText.normalize text)) kind (LinkText.normalize text) with
    | [] => search definitions kind (store.opened (LinkText.normalize text)) rest
    | found => found

/-- The candidates of a query. -/
def found (r : Resolver) (q : LinkQuery) : List Candidate :=
  search r.definitions q.kind r.anchors q.texts

/-- What a query comes to among its candidates. -/
def verdict (r : Resolver) (q : LinkQuery) (cs : List Candidate) : Except Failure ResolvedLink :=
  match Selection.select r.policy q cs with
  | .ok choice => .ok choice.link
  | .error stage => .error (.notFound q.kind q.text stage)

/-- What a request comes to. -/
def outcome (r : Resolver) (request : LinkRequest) : Except Failure ResolvedLink :=
  if (r.queryOf request).isCustomProperty then
    .error (.notFound (r.queryOf request).kind (r.queryOf request).text .text)
  else r.verdict (r.queryOf request) (r.found (r.queryOf request))

/-- A search has a target, or it has none and says so. -/
theorem notFound_of_outcome {r : Resolver} {request : LinkRequest} {failure : Failure}
    (failed : r.outcome request = .error failure) :
    ∃ kind text stage, failure = .notFound kind text stage := by
  rw [outcome, verdict] at failed
  split at failed
  · exact ⟨_, _, _, (Except.error.inj failed).symm⟩
  · split at failed
    · cases failed
    · exact ⟨_, _, _, (Except.error.inj failed).symm⟩

theorem lookup_empty (text : String) (kind : LinkKind) (scope : SortedSet) :
    DefaultTable.lookup {} text kind scope = none := by
  have blank : (DefaultTable.textsOf kind text).find?
      (fun t => !(DefaultTable.rulesFor {} t).isEmpty) = none :=
    List.find?_eq_none.2 fun t _ => by simp [DefaultTable.rulesFor]
  rw [DefaultTable.lookup, DefaultTable.consulted, blank]
  rfl

theorem queryOf_of_defaults_empty {r : Resolver} (noDefaults : r.defaults = {})
    (request : LinkRequest) : r.queryOf request = request.query r.defaultStatus := by
  simp only [queryOf, LinkQuery.ofRequest, noDefaults, lookup_empty, ite_self]

theorem hits_eq_append (definitions : DefinitionIndex) (store : AnchorStore) (kind : LinkKind)
    (key : String) : hits definitions store kind key =
      (definitions.candidates.filter fun c => c.text == key && kind.accepts c.kind) ++
        store.matching kind key :=
  List.filter_append _ _

/-- The candidates of a search stand under one text, in a store that keeps what opening shards
keeps. -/
theorem search_cases {holds : AnchorStore → Prop}
    (opens : ∀ store key, holds store → holds (store.opened key)) (definitions : DefinitionIndex)
    (kind : LinkKind) {store : AnchorStore} (h : holds store) (texts : List String) :
    search definitions kind store texts = [] ∨ ∃ opened key, holds opened ∧
      search definitions kind store texts = hits definitions opened kind key := by
  induction texts generalizing store with
  | nil => exact .inl rfl
  | cons text rest ih =>
    have here := opens store (LinkText.normalize text) h
    rw [search]
    split
    · exact ih here
    · exact .inr ⟨_, _, here, rfl⟩

theorem candidatesFor_on {r : Resolver} (closed : r.definitions.isSealed = true) (kind : LinkKind)
    (text : String) : (candidatesFor kind text).on r =
      ((r.anchors.opening (LinkText.normalize text)).map fun _ =>
          hits r.definitions (r.anchors.opened (LinkText.normalize text)) kind
            (LinkText.normalize text),
        { r with anchors := r.anchors.opened (LinkText.normalize text) }) := by
  simp only [candidatesFor, onAnchors, DefinitionIndex.find, closed, if_true, Action.on_bind,
    Action.on_get, Action.on_ofExcept, Action.on_within, AnchorStore.find_on, hits_eq_append]
  cases r.anchors.opening (LinkText.normalize text) <;> rfl

/-- Gathering answers with what a search finds, if it answers, and changes the anchors alone. -/
theorem gather_on {r : Resolver} (closed : r.definitions.isSealed = true) (kind : LinkKind)
    (texts : List String) : ∃ answer store,
      (gather kind texts).on r = (answer, { r with anchors := store }) ∧
      store.specs = r.anchors.specs ∧
      (answer = .ok (search r.definitions kind r.anchors texts) ∨
        ∃ failure, answer = .error failure ∧
          AnchorStore.Unreadable r.anchors.source failure) := by
  induction texts generalizing r with
  | nil => exact ⟨_, r.anchors, rfl, rfl, .inl rfl⟩
  | cons text rest ih =>
    rw [gather, Action.on_bind, candidatesFor_on closed]
    cases opening : r.anchors.opening (LinkText.normalize text) with
    | error failure =>
      exact ⟨_, _, rfl, AnchorStore.opened_specs _ _,
        .inr ⟨failure, rfl, AnchorStore.unreadable_of_opening opening⟩⟩
    | ok _ =>
      -- The shard is open, and its text either has candidates or leaves the rest to try.
      simp only [Except.map, search]
      cases hits r.definitions (r.anchors.opened (LinkText.normalize text)) kind
          (LinkText.normalize text) with
      | cons c more => exact ⟨_, _, rfl, AnchorStore.opened_specs _ _, .inl rfl⟩
      | nil =>
        obtain ⟨answer, store, ran, specs, answered⟩ :=
          ih (r := { r with anchors := r.anchors.opened (LinkText.normalize text) }) closed
        refine ⟨answer, store, ran, specs.trans (AnchorStore.opened_specs _ _), ?_⟩
        rwa [AnchorStore.opened_source] at answered

section Record

variable {source : DataSource}

/-- The bibliography reads from a given source. -/
def CitesFrom (source : DataSource) (r : Resolver) : Prop := BiblioStore.ReadsFrom source r.biblio

theorem failsOnly_noting {sort : Failure → Prop} {change : Resolver → Resolver}
    (keeps : ∀ r, (change r).biblio = r.biblio) :
    Action.FailsOnly (CitesFrom source) sort (modify change : Action Resolver PUnit) := by
  refine Action.failsOnly_modify fun r cites => ?_
  rw [CitesFrom, keeps]
  exact cites

theorem failsOnly_lookUpBiblio (request : BiblioRequest) :
    Action.FailsOnly (CitesFrom source) (BiblioStore.Unreadable source)
      (lookUpBiblio request) := by
  refine Action.failsOnly_bind Action.failsOnly_get fun r => ?_
  refine Action.failsOnly_bind (fun s cites => ?_) fun answer => ?_
  · exact BiblioStore.failsOnly_lookup request r.defaultStatus s.biblio cites
  · obtain ⟨entry, remark⟩ := answer
    cases remark with
    | none => exact Action.failsOnly_pure _
    | some d =>
      exact Action.failsOnly_bind (failsOnly_noting fun r => rfl) fun _ => Action.failsOnly_pure _

theorem failsOnly_recordTarget (query : LinkQuery) (normative : Bool) (target : Candidate) :
    Action.FailsOnly (CitesFrom source) (BiblioStore.Unreadable source)
      (recordTarget query normative target) := by
  rw [recordTarget]
  cases target.origin with
  | document id line => exact Action.failsOnly_pure _
  | external specId shortname level urls =>
    refine Action.failsOnly_bind (failsOnly_noting fun r => rfl) fun _ => ?_
    refine Action.failsOnly_bind (failsOnly_lookUpBiblio _) fun entry => ?_
    cases entry with
    | none => exact Action.failsOnly_pure _
    | some e => exact failsOnly_noting fun r => rfl

theorem reportChoice_biblio (request : LinkRequest) (choice : Choice) (r : Resolver) :
    (reportChoice request choice r).biblio = r.biblio := by
  rw [reportChoice]
  cases choice.warning with
  | none => rfl
  | some text =>
    simp only
    split <;> rfl

end Record

theorem beginResolving_on {r : Resolver} (begun : r.phase ≠ .collecting) (text : String) :
    (beginResolving text).on r = (.ok (), { r with phase := .resolving }) := by
  obtain ⟨phase⟩ := r
  cases phase with
  | collecting => exact absurd rfl begun
  | complete | resolving => rfl

/-- What is left to do for a request once its candidates are gathered. -/
def conclude (request : LinkRequest) (q : LinkQuery) (cs : List Candidate) :
    Action Resolver ResolvedLink := do
  match Selection.select (← get).policy q cs with
  | .error stage =>
    modify (reportFailure request q stage)
    throw (.notFound q.kind q.text stage)
  | .ok choice =>
    modify (reportChoice request choice)
    recordTarget q request.normative choice.link.candidate
    return choice.link

theorem conclude_cases (r : Resolver) (request : LinkRequest) (q : LinkQuery)
    (cs : List Candidate) : ((conclude request q cs).on r).1 = r.verdict q cs ∨
      ∃ failure, ((conclude request q cs).on r).1 = .error failure ∧
        BiblioStore.Unreadable r.biblio.source failure := by
  simp only [conclude, verdict, Action.on_bind, Action.on_get]
  cases Selection.select r.policy q cs with
  | error stage => exact .inl rfl
  | ok choice =>
    -- The link is known; only the entry that it cites may be out of reach.
    have cites : CitesFrom r.biblio.source (reportChoice request choice r) := by
      rw [CitesFrom, reportChoice_biblio, BiblioStore.ReadsFrom]
    obtain ⟨failed, -⟩ := failsOnly_recordTarget q request.normative choice.link.candidate _ cites
    simp only [Action.on_bind, Action.on_modify]
    cases recorded : (recordTarget q request.normative choice.link.candidate).on
        (reportChoice request choice r) with
    | mk answer s =>
      cases answer with
      | ok _ => exact .inl rfl
      | error failure =>
        rw [recorded] at failed
        exact .inr ⟨failure, rfl, failed failure rfl⟩

theorem resolve_eq (request : LinkRequest) : resolve request = (do
    beginResolving request.text
    let q := (← get).queryOf request
    if q.isCustomProperty then throw (.notFound q.kind q.text .text)
    conclude request q (← gather q.kind q.texts)) := rfl

theorem queryOf_begun (r : Resolver) (request : LinkRequest) :
    ({ r with phase := .resolving } : Resolver).queryOf request = r.queryOf request := rfl

/-- What is left to do for a request once its query is known. -/
def settle (request : LinkRequest) (q : LinkQuery) : Action Resolver ResolvedLink :=
  if q.isCustomProperty then throw (.notFound q.kind q.text .text)
  else do conclude request q (← gather q.kind q.texts)

theorem resolve_on_of_begun {r : Resolver} (begun : r.phase ≠ .collecting)
    (request : LinkRequest) : (resolve request).on r =
      (settle request (r.queryOf request)).on { r with phase := .resolving } := by
  cases custom : (r.queryOf request).isCustomProperty with
  | true =>
    simp only [resolve_eq, settle, Action.on_bind, beginResolving_on begun, Action.on_get,
      queryOf_begun, custom, if_true, Action.on_throw]
  | false =>
    simp only [resolve_eq, settle, Action.on_bind, beginResolving_on begun, Action.on_get,
      queryOf_begun, custom, Bool.false_eq_true, if_false]

/-- Custom properties are refused before anything is looked up. -/
theorem resolve_on_of_custom {r : Resolver} (begun : r.phase ≠ .collecting) {request : LinkRequest}
    (custom : (r.queryOf request).isCustomProperty = true) : (resolve request).on r =
      (.error (.notFound (r.queryOf request).kind (r.queryOf request).text .text),
        { r with phase := .resolving }) := by
  rw [resolve_on_of_begun begun, settle, if_pos custom, Action.on_throw]

/-- Every other request gathers its candidates and is left to `conclude`, unless it comes to a shard
that cannot be read. -/
theorem resolve_on {r : Resolver} (begun : r.phase ≠ .collecting)
    (closed : r.definitions.isSealed = true) {request : LinkRequest}
    (ordinary : (r.queryOf request).isCustomProperty = false) :
    ∃ opened : Resolver, (∃ anchors, opened = { r with phase := .resolving, anchors }) ∧
      opened.policy = r.policy ∧
      ((resolve request).on r =
          (conclude request (r.queryOf request) (r.found (r.queryOf request))).on opened ∨
        ∃ failure, (resolve request).on r = (.error failure, opened) ∧
          AnchorStore.Unreadable r.anchors.source failure) := by
  obtain ⟨answer, store, ran, specs, answered⟩ :=
    gather_on (r := { r with phase := .resolving }) closed (r.queryOf request).kind
      (r.queryOf request).texts
  refine ⟨{ r with phase := .resolving, anchors := store }, ⟨store, rfl⟩, ?_, ?_⟩
  · -- The shards that were opened do not matter to the policy.
    simp only [Resolver.policy, specs]
  · rw [resolve_on_of_begun begun, settle, if_neg (Bool.eq_false_iff.1 ordinary), Action.on_bind,
      ran]
    rcases answered with rfl | ⟨failure, rfl, unreadable⟩
    · exact .inl rfl
    · exact .inr ⟨failure, rfl, unreadable⟩

/-- A resolver answers a request with its outcome, unless it comes to a shard that cannot be read. -/
theorem resolve_cases {r : Resolver} (begun : r.phase ≠ .collecting)
    (closed : r.definitions.isSealed = true) (request : LinkRequest) :
    ((resolve request).on r).1 = r.outcome request ∨
      ∃ failure, ((resolve request).on r).1 = .error failure ∧
        (AnchorStore.Unreadable r.anchors.source failure ∨
          BiblioStore.Unreadable r.biblio.source failure) := by
  rw [outcome]
  cases custom : (r.queryOf request).isCustomProperty with
  | true =>
    rw [resolve_on_of_custom begun custom]
    exact .inl rfl
  | false =>
    obtain ⟨opened, ⟨store, rfl⟩, policy, concluded | ⟨failure, ran, unreadable⟩⟩ :=
      resolve_on begun closed custom
    · have verdict : ({ r with phase := .resolving, anchors := store } : Resolver).verdict =
          r.verdict := by
        funext q cs
        rw [Resolver.verdict, policy, Resolver.verdict]
      rw [concluded, if_neg Bool.false_ne_true, ← verdict]
      rcases conclude_cases { r with phase := .resolving, anchors := store } request
          (r.queryOf request) (r.found (r.queryOf request)) with same | ⟨failure, failed, unreadable⟩
      · exact .inl same
      · exact .inr ⟨failure, failed, .inr unreadable⟩
    · rw [ran]
      exact .inr ⟨failure, rfl, .inl unreadable⟩

theorem resolve_eq_outcome {r : Resolver} (begun : r.phase ≠ .collecting)
    (closed : r.definitions.isSealed = true) (anchorsLoad : AnchorStore.ShardsLoad r.anchors.source)
    (entriesLoad : BiblioStore.ShardsLoad r.biblio.source) (request : LinkRequest) :
    ((resolve request).on r).1 = r.outcome request := by
  rcases resolve_cases begun closed request with same | ⟨failure, -, unreadable | unreadable⟩
  · exact same
  · exact absurd unreadable (anchorsLoad.not_unreadable failure)
  · exact absurd unreadable (entriesLoad.not_unreadable failure)

/-- While definitions are collected a request is refused, and nothing changes. -/
theorem resolve_of_collecting {r : Resolver} (collecting : r.phase = .collecting)
    (request : LinkRequest) :
    (resolve request).on r = (.error (.phase (.collecting request.text)), r) := by
  simp only [resolve, beginResolving, Action.on_bind, Action.on_get, collecting, Action.on_throw]

/-- A link that a resolver answers with is the outcome of its request. -/
theorem outcome_of_resolve {r : Resolver}
    (closed : r.phase ≠ .collecting → r.definitions.isSealed = true) {request : LinkRequest}
    {link : ResolvedLink} (answered : ((resolve request).on r).1 = .ok link) :
    r.outcome request = .ok link := by
  by_cases collecting : r.phase = .collecting
  · rw [resolve_of_collecting collecting] at answered
    cases answered
  · rcases resolve_cases collecting (closed collecting) request with same | ⟨failure, failed, -⟩
    · exact same ▸ answered
    · rw [failed] at answered
      cases answered

end SpecLink.Resolver
