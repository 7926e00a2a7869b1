import SpecLink.Proofs.Resolver.Rules

/-!
# Rules for other specs

A link that names its spec goes there or nowhere, whatever rules the document has. But a rule is
found by text and kind alone: one for another spec may be found for the link, and then it counts for
the kind, the scope and the status that are looked for. Main statement: `resolve_onlyRulesFor`, by
which rules for other specs come between a link and its spec in no other way.
-/
namespace SpecLink

namespace DefaultTable

/-- The rules for one spec. -/
def only (table : DefaultTable) (specId : String) : DefaultTable :=
  ⟨table.rules.filter fun entry => entry.2.specId == specId⟩

theorem rulesFor_only (table : DefaultTable) (specId text : String) :
    (table.only specId).rulesFor text =
      (table.rulesFor text).filter fun rule => rule.specId == specId := by
  rw [rulesFor, rulesFor, only, List.filter_map, List.filter_filter, List.filter_filter]
  simp only [Function.comp_apply, Bool.and_comm]

variable {table : DefaultTable} {specId text : String} {kind : LinkKind} {scope : SortedSet}

theorem consulted_eq_nil_iff : table.consulted kind text = [] ↔
    ∀ spelling ∈ textsOf kind text, table.rulesFor spelling = [] := by
  rw [consulted]
  cases first : (textsOf kind text).find? fun t => !(table.rulesFor t).isEmpty with
  | none =>
    have blank := List.find?_eq_none.1 first
    simp only [true_iff]
    intro spelling member
    simpa using blank spelling member
  | some t =>
    have some := List.find?_some first
    have member := List.mem_of_find?_eq_some first
    simp only [Bool.not_eq_true', List.isEmpty_eq_false_iff] at some
    exact ⟨fun none => absurd none some, fun blank => blank t member⟩

/-- A rule for the spec at the spelling that counts keeps the others from counting. -/
theorem consulted_only (own : ∃ rule ∈ table.consulted kind text, rule.specId = specId) :
    (table.only specId).consulted kind text =
      (table.consulted kind text).filter fun rule => rule.specId == specId := by
  obtain ⟨rule, listed, same⟩ := own
  rw [consulted] at listed ⊢
  rw [consulted]
  cases first : (textsOf kind text).find? fun t => !(table.rulesFor t).isEmpty with
  | none =>
    rw [first] at listed
    exact absurd listed List.not_mem_nil
  | some t =>
    rw [first] at listed
    -- Spellings without rules have none for the spec, and this one has the given one.
    obtain ⟨-, before, after, split, blank⟩ := List.find?_eq_some_iff_append.1 first
    have here : (textsOf kind text).find?
        (fun t => !((table.only specId).rulesFor t).isEmpty) = some t := by
      refine List.find?_eq_some_iff_append.2 ⟨?_, before, after, split, fun u member => ?_⟩
      · rw [rulesFor_only, Bool.not_eq_true', List.isEmpty_eq_false_iff]
        exact List.ne_nil_of_mem (List.mem_filter.2 ⟨listed, beq_iff_eq.2 same⟩)
      · have none := blank u member
        simp only [Bool.not_not, List.isEmpty_iff] at none ⊢
        rw [rulesFor_only, none, List.filter_nil]
    rw [here]
    exact rulesFor_only table specId t

/-- Without the rules for other specs a lookup has the same result, unless it has one of them, or has
none because all rules at the spelling that counts are for other specs. -/
theorem lookup_only (table : DefaultTable) (specId text : String) (kind : LinkKind)
    (scope : SortedSet) :
    (table.only specId).lookup text kind scope = table.lookup text kind scope ∨
    (∃ rule, table.lookup text kind scope = some rule ∧ rule.specId ≠ specId) ∨
    (table.lookup text kind scope = none ∧ table.consulted kind text ≠ [] ∧
      ∀ rule ∈ table.consulted kind text, rule.specId ≠ specId) := by
  by_cases own : ∃ rule ∈ table.consulted kind text, rule.specId = specId
  · have narrowed := consulted_only own
    cases found : table.lookup text kind scope with
    | none =>
      refine .inl ?_
      rw [lookup, narrowed, List.find?_eq_none]
      exact fun rule member => List.find?_eq_none.1 found rule (List.mem_filter.1 member).1
    | some rule =>
      by_cases same : rule.specId = specId
      · refine .inl ?_
        rw [lookup, narrowed]
        -- The rules before it suit no better for being fewer.
        obtain ⟨suits, before, after, split, without⟩ := List.find?_eq_some_iff_append.1 found
        rw [split, List.filter_append, List.filter_cons, if_pos (beq_iff_eq.2 same)]
        refine List.find?_eq_some_iff_append.2 ⟨suits, _, _, rfl, fun other member => ?_⟩
        exact without other (List.mem_filter.1 member).1
      · exact .inr (.inl ⟨rule, rfl, same⟩)
  · push Not at own
    cases found : table.lookup text kind scope with
    | some rule => exact .inr (.inl ⟨rule, rfl, own rule (List.mem_of_find?_eq_some found)⟩)
    | none =>
      by_cases some : table.consulted kind text = []
      · refine .inl ?_
        have blank : (table.only specId).consulted kind text = [] := by
          rw [consulted_eq_nil_iff] at some ⊢
          intro spelling member
          rw [rulesFor_only, some spelling member, List.filter_nil]
        rw [lookup, blank]
        rfl
      · exact .inr (.inr ⟨rfl, some, own⟩)

end DefaultTable

attribute [ext] LinkQuery

namespace Resolver

open SpecLink.Action

section Commutes

/-! Once the query of a request is known, the rules play no part in what it comes to. -/

variable (table : DefaultTable)

theorem commutes_gather (kind : LinkKind) (texts : List String) :
    Commutes (fun r : Resolver => { r with defaults := table }) (gather kind texts) := by
  induction texts with
  | nil => exact commutes_pure _
  | cons text rest ih =>
    refine commutes_bind ?_ fun found => ?_
    · refine commutes_get_bind (fun r => rfl) fun r => ?_
      refine commutes_bind (commutes_ofExcept _) fun own => ?_
      exact commutes_bind (commutes_within (fun r => rfl) fun r store => rfl) fun foreign =>
        commutes_pure _
    · cases found with
      | nil => exact ih
      | cons c more => exact commutes_pure _

theorem commutes_recordTarget (query : LinkQuery) (normative : Bool) (target : Candidate) :
    Commutes (fun r : Resolver => { r with defaults := table })
      (recordTarget query normative target) := by
  rw [recordTarget]
  cases target.origin with
  | document id line => exact commutes_pure _
  | external specId shortname level urls =>
    refine commutes_bind (commutes_modify fun r => rfl) fun _ => ?_
    refine commutes_bind (fun r => lookUpBiblio_defaults table r _) fun entry => ?_
    cases entry with
    | none => exact commutes_pure _
    | some e => exact commutes_modify fun r => rfl

theorem commutes_conclude (request : LinkRequest) (q : LinkQuery) (cs : List Candidate) :
    Commutes (fun r : Resolver => { r with defaults := table }) (conclude request q cs) := by
  refine commutes_get_bind (fun r => rfl) fun r => ?_
  cases Selection.select r.policy q cs with
  | error stage =>
    refine commutes_bind (commutes_modify fun s => ?_) fun _ => commutes_throw _
    simp only [reportFailure]
    split <;> rfl
  | ok choice =>
    refine commutes_bind (commutes_modify fun s => ?_) fun _ => ?_
    · simp only [reportChoice]
      cases choice.warning with
      | none => rfl
      | some text =>
        simp only
        split <;> rfl
    · exact commutes_bind (commutes_recordTarget table q _ _) fun _ => commutes_pure _

theorem commutes_settle (request : LinkRequest) (q : LinkQuery) :
    Commutes (fun r : Resolver => { r with defaults := table }) (settle request q) := by
  rw [settle]
  split
  · exact commutes_throw _
  · exact commutes_bind (commutes_gather table _ _) fun cs => commutes_conclude table request q cs

end Commutes

/-- The resolver without its rules for other specs. -/
def onlyRulesFor (r : Resolver) (specId : String) : Resolver :=
  { r with defaults := r.defaults.only specId }

/-- Rules for other specs count for the request: one of them is found for it, or none is found
because only such rules stand under the spelling of its text that counts. -/
inductive Disturbed (r : Resolver) (request : LinkRequest) (specId : String) : Prop where
  | narrowed (rule : DefaultRule)
      (found : r.defaults.lookup (LinkText.normalize request.text) request.kind request.cleanScope =
        some rule)
      (foreign : rule.specId ≠ specId)
  | hidden
      (unfound : r.defaults.lookup (LinkText.normalize request.text) request.kind
        request.cleanScope = none)
      (listed : r.defaults.consulted request.kind (LinkText.normalize request.text) ≠ [])
      (foreign : ∀ rule ∈ r.defaults.consulted request.kind (LinkText.normalize request.text),
        rule.specId ≠ specId)

variable {r : Resolver} {request : LinkRequest} {spec : String}

/-- No rule changes the text of a query, nor a spec that the request names. -/
theorem queryOf_named (r : Resolver) (named : request.spec = some spec) :
    (r.queryOf request).text = LinkText.normalize request.text ∧
      (r.queryOf request).spec = some (Text.lowercase (Text.trim spec)) := by
  simp only [queryOf, LinkQuery.ofRequest]
  split
  · exact ⟨rfl, by rw [LinkRequest.query, named, Option.map_some]⟩
  · split
    · exact ⟨rfl, by rw [LinkQuery.refine, LinkRequest.query, named, Option.map_some,
        Option.getD_some]⟩
    · exact ⟨rfl, by rw [LinkRequest.query, named, Option.map_some]⟩

/-- Of the rules only the one that is found counts for a query. -/
theorem queryOf_of_lookup_eq {table : DefaultTable}
    (same : table.lookup (LinkText.normalize request.text) request.kind request.cleanScope =
      r.defaults.lookup (LinkText.normalize request.text) request.kind request.cleanScope) :
    ({ r with defaults := table } : Resolver).queryOf request = r.queryOf request := by
  simp only [queryOf, LinkQuery.ofRequest]
  split
  · rfl
  · rw [LinkRequest.query, same]

/-- A request with a spec of its own has the same query without the rules for other specs, unless it
leaves its status open and these rules count for it. -/
theorem queryOf_onlyRulesFor (r : Resolver) (named : request.spec = some spec) (specId : String) :
    (r.onlyRulesFor specId).queryOf request = r.queryOf request ∨
      (request.status = none ∧ r.Disturbed request specId) := by
  cases status : request.status with
  | some value =>
    have full : ((request.query r.defaultStatus).spec.isSome && request.status.isSome) = true := by
      simp [LinkRequest.query, named, status]
    exact .inl (by rw [queryOf, queryOf, onlyRulesFor, LinkQuery.ofRequest, LinkQuery.ofRequest,
      if_pos full, if_pos full])
  | none =>
    rcases r.defaults.lookup_only specId (LinkText.normalize request.text) request.kind
        request.cleanScope with same | ⟨rule, found, foreign⟩ | ⟨unfound, listed, foreign⟩
    · exact .inl (queryOf_of_lookup_eq same)
    · exact .inr ⟨rfl, .narrowed rule found foreign⟩
    · exact .inr ⟨rfl, .hidden unfound listed foreign⟩

theorem defaults_of_resolve (r : Resolver) (request : LinkRequest) :
    ((resolve request).on r).2.defaults = r.defaults := by
  have stable : Stable fun s => s.defaults = r.defaults := by
    intro s t change same
    cases change <;> exact same
  exact stable.preserves_resolve request r rfl

/-- What a request comes to depends on the rules through its query alone. -/
theorem resolve_onlyRulesFor_of_same_query {specId : String}
    (same : (r.onlyRulesFor specId).queryOf request = r.queryOf request) :
    (resolve request).on (r.onlyRulesFor specId) =
      (((resolve request).on r).1, ((resolve request).on r).2.onlyRulesFor specId) := by
  by_cases collecting : r.phase = .collecting
  · rw [resolve_of_collecting collecting,
      resolve_of_collecting (r := r.onlyRulesFor specId) collecting]
  · have settled := commutes_settle (r.defaults.only specId) request (r.queryOf request)
      { r with phase := .resolving }
    rw [← resolve_on_of_begun collecting] at settled
    rw [resolve_on_of_begun (r := r.onlyRulesFor specId) collecting, same]
    refine settled.trans ?_
    rw [onlyRulesFor, defaults_of_resolve]

/-- The rules for other specs never change the spec or the text that is looked for where a link names
its spec. Without them the resolver answers, reports and records the same, except possibly where the
link leaves its status open and they change the kind, the scope or the status that is looked for. -/
theorem resolve_onlyRulesFor (r : Resolver) (named : request.spec = some spec) :
    let specId := Text.lowercase (Text.trim spec)
    let query := r.queryOf request
    let own := (r.onlyRulesFor specId).queryOf request
    query.spec = some specId ∧ own.spec = some specId ∧ query.text = own.text ∧
      ((resolve request).on (r.onlyRulesFor specId) =
          (((resolve request).on r).1, ((resolve request).on r).2.onlyRulesFor specId) ∨
        request.status = none ∧ r.Disturbed request specId ∧
          (query.kind ≠ own.kind ∨ query.scope ≠ own.scope ∨ query.status ≠ own.status)) := by
  intro specId query own
  obtain ⟨text, toSpec⟩ := queryOf_named r named
  obtain ⟨ownText, toOwn⟩ := queryOf_named (r.onlyRulesFor specId) named
  have sameText : query.text = own.text := text.trans ownText.symm
  refine ⟨toSpec, toOwn, sameText, ?_⟩
  rcases queryOf_onlyRulesFor r named specId with same | ⟨statusOpen, disturbed⟩
  · exact .inl (resolve_onlyRulesFor_of_same_query same)
  · by_cases same : own = query
    · exact .inl (resolve_onlyRulesFor_of_same_query same)
    · refine .inr ⟨statusOpen, disturbed, ?_⟩
      by_contra alike
      push Not at alike
      obtain ⟨kind, scope, status⟩ := alike
      have sameSpec : query.spec = own.spec := toSpec.trans toOwn.symm
      exact same (LinkQuery.ext kind sameText sameSpec status scope).symm

/-- A term of the first of two specs. -/
def firstTerm (text : String) : Candidate where
  text
  kind := .dfn
  origin := .external "spec-a" "spec-a" none ⟨some ("/spec-a#" ++ text), none⟩
  scope := ∅
  exported := true
  normative := true

/-- The sealed resolver of a document with some link defaults over two terms. -/
def overFirstTerms (linkDefaults : List String) : Resolver :=
  run [.finish] (ofStores
    (AnchorStore.addAll { source := .ofFiles ∅ } [firstTerm "box", firstTerm "crate"])
    { source := .ofFiles ∅ } { version := 1, dataDir := "" } { linkDefaults })

/-- The rule for the crate of the link's spec keeps those for another spec from counting. -/
theorem resolve_onlyRulesFor_crates :
    let r := overFirstTerms ["spec-a (dfn) crate, spec-b (value) box/crate"]
    let request : LinkRequest := { kind := .maybe, text := "Crates", spec := some " Spec-A" }
    r.defaults.size = 3 ∧ (r.onlyRulesFor "spec-a").defaults.size = 1 ∧
    ((resolve request).on r).1 = .ok ⟨"/spec-a#crate", firstTerm "crate"⟩ ∧
    (resolve request).on (r.onlyRulesFor "spec-a") =
      (((resolve request).on r).1, ((resolve request).on r).2.onlyRulesFor "spec-a") := by
  intro r request
  refine ⟨by decide +kernel, by decide +kernel, by decide +kernel, ?_⟩
  have name : Text.lowercase (Text.trim " Spec-A") = "spec-a" := by decide +kernel
  have alike : (r.onlyRulesFor "spec-a").queryOf request = r.queryOf request := by decide +kernel
  have named : request.spec = some " Spec-A" := rfl
  obtain ⟨-, -, -, same | ⟨-, -, changed⟩⟩ := resolve_onlyRulesFor r named
  · rwa [name] at same
  · rw [name, alike] at changed
    simp at changed

/-- A rule for the value of another spec makes a link to the term of its own spec one to a value. -/
theorem notFound_of_foreign_rule :
    let r := overFirstTerms ["spec-b (value) box"]
    let request : LinkRequest := { kind := .maybe, text := "box", spec := some "spec-a" }
    r.phase = .complete ∧ r.definitions.isSealed = true ∧
    Text.lowercase (Text.trim "spec-a") = "spec-a" ∧
    ((resolve request).on r).1 = .error (.notFound (.exact .value) "box" .text) ∧
    ((resolve request).on (r.onlyRulesFor "spec-a")).1 =
      .ok ⟨"/spec-a#box", firstTerm "box"⟩ := by
  decide +kernel

end Resolver

end SpecLink
