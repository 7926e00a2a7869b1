import SpecLink.Proofs.Resolver.Phases
import SpecLink.Proofs.Text.Variants

/-!
# Documents with one rule for links

A block of link defaults adds rules to a document's resolver and changes nothing else, up to the
first request for a link. A single rule is found by the spellings of a link's text, and it refines
what the link asks for. Main statements: `run_of_block` and `queryOf_of_consults`.
-/
namespace SpecLink

theorem Defaults.lowercase_specId_of_parseBlock {lines : List String} {firstLine : Option Nat}
    {rules : List DefaultRule} (parsed : parseBlock lines firstLine = .ok rules) :
    ∀ rule ∈ rules, Text.lowercase rule.specId = rule.specId := by
  rw [parseBlock, bind_ok_iff] at parsed
  obtain ⟨records, -, parsed⟩ := parsed
  obtain ⟨parts, read, parsed⟩ := (bind_ok_iff _ _ _).1 parsed
  obtain rfl : parts.flatten = rules := Except.ok.inj parsed
  intro rule member
  obtain ⟨part, listed, inPart⟩ := List.mem_flatten.1 member
  obtain ⟨record, -, made⟩ := exists_of_mem_mapM read part listed
  simp only [rulesOfRecord, bind_ok_iff] at made
  obtain ⟨_, -, kind, -, spec, -, term, -, status, -, made⟩ := made
  obtain rfl := Except.ok.inj made
  obtain ⟨scope, -, rfl⟩ := List.mem_map.1 inPart
  exact Text.lowercase_lowercase spec

/-- A single rule is found for a link exactly if its term is a spelling of the link's text and the
rule suits the link. -/
theorem DefaultTable.lookup_eq_some_iff {rule found : DefaultRule} {text : String} {kind : LinkKind}
    {scope : SortedSet} : (addAll {} [rule]).lookup text kind scope = some found ↔
      found = rule ∧ LinkText.normalize rule.term ∈ textsOf kind text ∧
        rule.suits kind scope = true := by
  have rules (t : String) : (addAll {} [rule]).rulesFor t =
      if LinkText.normalize rule.term = t then [rule] else [] := by
    by_cases same : LinkText.normalize rule.term = t
    · simp [addAll, add, rulesFor, same]
    · simp [addAll, add, rulesFor, same]
  have consulted : (addAll {} [rule]).consulted kind text =
      if LinkText.normalize rule.term ∈ textsOf kind text then [rule] else [] := by
    rw [DefaultTable.consulted]
    cases first : (textsOf kind text).find? fun t => !((addAll {} [rule]).rulesFor t).isEmpty with
    | none =>
      -- No spelling has a rule, the term of the rule included.
      have blank := List.find?_eq_none.1 first
      rw [if_neg]
      intro spelled
      have empty := blank _ spelled
      rw [rules, if_pos rfl] at empty
      exact empty rfl
    | some t =>
      have nonempty := List.find?_some first
      have same : LinkText.normalize rule.term = t := by
        by_contra other
        rw [rules, if_neg other] at nonempty
        cases nonempty
      simp only [rules, if_pos same]
      rw [if_pos (same ▸ List.mem_of_find?_eq_some first)]
  rw [lookup, consulted]
  by_cases spelled : LinkText.normalize rule.term ∈ textsOf kind text
  · rw [if_pos spelled]
    cases suits : rule.suits kind scope with
    | true => simp [suits, spelled, eq_comm]
    | false => simp [suits]
  · rw [if_neg spelled]
    simp [spelled]

namespace Resolver

variable {metadata : Metadata} {r : Resolver}

theorem ofStores_of_block (anchors : AnchorStore) (biblio : BiblioStore) (config : Config)
    (noValues : metadata.linkDefaults = []) (noLines : metadata.linkDefaultLines = [])
    {line : String} {rules : List DefaultRule}
    (parsed : Defaults.parseBlock [line] none = .ok rules) :
    ofStores anchors biblio config { metadata with linkDefaultLines := [line] } =
      { ofStores anchors biblio config metadata with defaults := DefaultTable.addAll {} rules } := by
  have started : start anchors biblio config { metadata with linkDefaultLines := [line] } =
      start anchors biblio config metadata := by
    simp only [start, Metadata.versionedName, Metadata.defaultStatus]
  have blank : (start anchors biblio config metadata).defaults = {} := by simp only [start]
  rw [ofStores, ofStores, started]
  simp only [noValues, noLines, List.foldl_nil, takeOverBlock, List.isEmpty_cons, List.isEmpty_nil,
    if_true, Bool.false_eq_true, if_false, parsed, takeOver, addDefaults, blank]
  -- The block of ignored specs is read after it, and does not touch the rules.
  split
  · rfl
  · cases Defaults.parseIgnoredSpecs metadata.ignoredSpecLines none <;> rfl

theorem resolving_of_resolve (begun : r.phase ≠ .collecting) (request : LinkRequest) :
    ((resolve request).on r).2.phase = .resolving := by
  have later : (resolve request).on r = (resolve request).on { r with phase := .resolving } := by
    simp only [resolve_eq, Action.on_bind, beginResolving_on begun,
      beginResolving_on (r := { r with phase := .resolving }) nofun]
  have stable : Stable fun s => s.phase = .resolving := by
    intro s t change resolving
    cases change with
    | begin => rfl
    | opened | readInto | lookup | noted => exact resolving
  rw [later]
  exact stable.preserves_resolve request { r with phase := .resolving } rfl

theorem resolving_of_run (reached : Reachable metadata r) (resolving : r.phase = .resolving)
    (calls : List Call) : (run calls r).phase = .resolving := by
  induction calls generalizing r with
  | nil => exact resolving
  | cons c rest ih =>
    have moves := (follows_after reached.consistent c).moves
    rw [resolving] at moves
    refine ih (reached.call c) ?_
    generalize (c.after r).phase = next at moves
    cases moves
    rfl

section Defaults

variable (table : DefaultTable)

theorem lookUpBiblio_defaults (r : Resolver) (request : BiblioRequest) :
    (lookUpBiblio request).on { r with defaults := table } =
      (((lookUpBiblio request).on r).1,
        { ((lookUpBiblio request).on r).2 with defaults := table }) := by
  rw [lookUpBiblio_on, lookUpBiblio_on]

/-- Until links are resolved, the rules play no part in what a call does. -/
theorem after_defaults {c : Call} (early : ∀ request, c = .resolve request → r.phase = .collecting) :
    c.after { r with defaults := table } = { c.after r with defaults := table } := by
  cases c with
  | define d =>
    simp only [Call.after, define, Action.on_bind, Action.on_get]
    split <;> rfl
  | finish =>
    simp only [Call.after, finish]
    split <;> rfl
  | resolve request =>
    have collecting := early request rfl
    simp only [Call.after, resolve_of_collecting collecting,
      resolve_of_collecting (r := { r with defaults := table }) collecting]
  | cite request =>
    simp only [Call.after, cite, Action.on_bind, lookUpBiblio_defaults]
    cases (lookUpBiblio request).on r with
    | mk answer s =>
      cases answer with
      | error failure => rfl
      | ok entry => cases entry <;> rfl
  | findSection spec id status =>
    simp only [Call.after, findSection, onAnchors, Action.on_bind, Action.on_within,
      AnchorStore.headingsOf_on]
    cases r.anchors.headingsFor (Text.lowercase (Text.trim spec)) with
    | error failure => rfl
    | ok headings =>
      simp only [Action.on_get, Action.on_ofExcept]
      cases headings.find id (status.getD r.defaultStatus) <;> rfl

theorem run_defaults (reached : Reachable metadata r) (calls : List Call)
    (early : (run calls r).phase ≠ .resolving) :
    run calls { r with defaults := table } = { run calls r with defaults := table } := by
  induction calls generalizing r with
  | nil => rfl
  | cons c rest ih =>
    have here : c.after { r with defaults := table } = { c.after r with defaults := table } := by
      apply after_defaults
      -- Had this been an answered request, the resolver would be resolving to the end.
      rintro request rfl
      by_contra begun
      exact early (resolving_of_run (reached.call (.resolve request))
        (resolving_of_resolve begun request) rest)
    have there := ih (reached.call c) early
    rw [run, List.foldl_cons, here]
    exact there

end Defaults

/-- A document that differs by a block of link defaults gets the same resolver but for its rules, as
long as no link has been asked for. -/
theorem run_of_block (anchors : AnchorStore) (biblio : BiblioStore) (config : Config)
    (noValues : metadata.linkDefaults = []) (noLines : metadata.linkDefaultLines = [])
    {line : String} {rules : List DefaultRule}
    (parsed : Defaults.parseBlock [line] none = .ok rules) (calls : List Call)
    (early : (run calls (ofStores anchors biblio config metadata)).phase ≠ .resolving) :
    run calls (ofStores anchors biblio config { metadata with linkDefaultLines := [line] }) =
      { run calls (ofStores anchors biblio config metadata) with
        defaults := DefaultTable.addAll {} rules } := by
  rw [ofStores_of_block anchors biblio config noValues noLines parsed]
  exact run_defaults _ (.ofStores anchors biblio config) calls early

/-- A single rule is found for a request: the request leaves something open, and its text and kind
are those of the rule. -/
structure Consults (r : Resolver) (request : LinkRequest) (rule : DefaultRule) : Prop where
  leftOpen : (r.queryOf request).spec = none ∨ request.status = none
  spelled : LinkText.normalize rule.term ∈
    DefaultTable.textsOf (r.queryOf request).kind (r.queryOf request).text
  suits : rule.suits (r.queryOf request).kind (r.queryOf request).scope = true

variable {request : LinkRequest} {rule : DefaultRule}

/-- A rule refines the requests that it is found for. -/
theorem queryOf_of_consults (noDefaults : r.defaults = {}) (consults : r.Consults request rule) :
    ({ r with defaults := DefaultTable.addAll {} [rule] } : Resolver).queryOf request =
      (r.queryOf request).refine request.status r.defaultStatus rule := by
  obtain ⟨leftOpen, spelled, suits⟩ := consults
  rw [queryOf_of_defaults_empty noDefaults] at leftOpen spelled suits ⊢
  have notBoth : ¬ ((request.query r.defaultStatus).spec.isSome && request.status.isSome) = true := by
    rcases leftOpen with none | none
    · simp [none]
    · simp [none]
  have found := DefaultTable.lookup_eq_some_iff.2 ⟨rfl, spelled, suits⟩
  simp only [queryOf, LinkQuery.ofRequest, if_neg notBoth, found]

/-- A rule leaves alone the requests that it is not found for. -/
theorem queryOf_of_not_consults (noDefaults : r.defaults = {})
    (without : ¬ r.Consults request rule) :
    ({ r with defaults := DefaultTable.addAll {} [rule] } : Resolver).queryOf request =
      r.queryOf request := by
  have plain := queryOf_of_defaults_empty noDefaults request
  rw [plain, queryOf, LinkQuery.ofRequest]
  simp only
  split
  · rfl
  next leftOpen =>
    split
    next found here =>
      -- The table holds one rule, so it is this one that was found.
      refine absurd ?_ without
      obtain ⟨-, spelled, suits⟩ := DefaultTable.lookup_eq_some_iff.1 here
      rw [Bool.and_eq_true, not_and_or, Option.not_isSome_iff_eq_none,
        Option.not_isSome_iff_eq_none] at leftOpen
      rw [← plain] at leftOpen spelled suits
      exact ⟨leftOpen, spelled, suits⟩
    next => rfl

/-- A rule without a status narrows a request by its kind and, unless the request names one, by its
spec. -/
theorem refine_eq (noDefaults : r.defaults = {}) (lower : Text.lowercase rule.specId = rule.specId)
    (noStatus : rule.status = none)
    (scope : ∀ value, rule.scope = some value → value ∈ (r.queryOf request).scope) :
    (r.queryOf request).refine request.status r.defaultStatus rule =
      { r.queryOf request with
        kind := .exact rule.kind, spec := some ((r.queryOf request).spec.getD rule.specId) } := by
  have status : (request.status <|> none).getD r.defaultStatus = (r.queryOf request).status := by
    rw [queryOf_of_defaults_empty noDefaults, LinkRequest.query]
    cases request.status <;> rfl
  have scopeKept : (r.queryOf request).scopeWith rule = (r.queryOf request).scope := by
    rw [LinkQuery.scopeWith]
    cases named : rule.scope with
    | none => rfl
    | some value =>
      have member := scope value named
      simp only
      rw [if_neg]
      intro empty
      rw [SortedSet.isEmpty_iff.1 empty] at member
      exact SortedSet.not_mem_empty value member
  simp only [LinkQuery.refine, lower, noStatus, scopeKept, status]

end Resolver

end SpecLink
