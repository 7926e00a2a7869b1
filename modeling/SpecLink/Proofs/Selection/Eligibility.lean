import Mathlib.Data.List.Basic
import SpecLink.Proofs.Action
import SpecLink.Selection

/-!
# Candidates that a link may go to

What the filters of a selection leave, said of one candidate at a time: `Eligible` does not depend
on the order of the filters, nor on where the selection stops. Main statements: `survivors_ok_iff`
and `passing_ne_nil_iff`.
-/
namespace SpecLink

namespace LinkQuery

/-- A query without a scope wants a candidate without one, any other a candidate that is for all
that the query is for. -/
def WantsScope (q : LinkQuery) (c : Candidate) : Prop :=
  if q.scope = ∅ then c.scope = ∅ else ∀ term ∈ q.scope, term ∈ c.scope

/-- A query that names a spec wants its anchors, by id or short name; one that names none wants
exported anchors. -/
def WantsAnchor (q : LinkQuery) (specId shortname : String) (exported : Bool) : Prop :=
  match q.spec with
  | some spec => spec = specId ∨ spec = shortname
  | none => exported = true

theorem fitsScope_iff (q : LinkQuery) (c : Candidate) :
    q.fitsScope c = true ↔ q.WantsScope c := by
  by_cases unscoped : q.scope = ∅
  · rw [WantsScope, if_pos unscoped, fitsScope, if_pos (SortedSet.isEmpty_iff.2 unscoped),
      SortedSet.isEmpty_iff]
  · rw [WantsScope, if_neg unscoped, fitsScope, if_neg (mt SortedSet.isEmpty_iff.1 unscoped),
      SortedSet.isSubset_iff]

instance (q : LinkQuery) : DecidablePred q.WantsScope :=
  fun c => decidable_of_iff _ (q.fitsScope_iff c)

theorem fitsSpec_of_document {q : LinkQuery} {c : Candidate} {id : String} {line : Option UInt32}
    (origin : c.origin = .document id line) : q.fitsSpec c = true := by
  simp [fitsSpec, Candidate.isLocal, origin]

theorem fitsSpec_iff_of_external {q : LinkQuery} {c : Candidate} {specId shortname : String}
    {level : Option SpecLevel} {urls : AnchorUrls}
    (origin : c.origin = .external specId shortname level urls) :
    q.fitsSpec c = true ↔ q.WantsAnchor specId shortname c.exported := by
  cases named : q.spec with
  | none => simp [fitsSpec, WantsAnchor, Candidate.isLocal, origin, named]
  | some spec =>
    simp [fitsSpec, WantsAnchor, Candidate.isLocal, Candidate.specId?, Candidate.shortname?, origin,
      named, eq_comm (a := spec)]

end LinkQuery

namespace LinkPolicy

/-- Of the candidates that were found, one of a spec is wanted. -/
def Offers (q : LinkQuery) (found : List Candidate) (specId : String) : Prop :=
  ∃ c ∈ found, q.WantsScope c ∧
    ∃ shortname level urls, c.origin = .external specId shortname level urls ∧
      q.WantsAnchor specId shortname c.exported

/-- A spec gives way to a replacement that is on offer, or to the document if that replaces it. -/
def GivesWay (p : LinkPolicy) (q : LinkQuery) (found : List Candidate) (specId : String) : Prop :=
  ∃ replacement, (specId, replacement) ∈ p.replacedSpecs ∧
    (replacement = p.versionedName ∨ Offers q found replacement)

/-- There is a URL for a status: a draft stands in for a missing snapshot, a snapshot for a missing
draft only if the spec publishes no draft at all. -/
def HasUrl (p : LinkPolicy) (status : Status) (specId : String) (urls : AnchorUrls) : Prop :=
  match status with
  | .current => urls.current ≠ none ∨ (urls.snapshot ≠ none ∧
      ∀ spec, p.specs.get? specId = some spec → spec.currentUrl = none)
  | .snapshot => urls.snapshot ≠ none ∨ urls.current ≠ none

/-- A link may go to an anchor, given all candidates that were found. -/
structure PermitsAnchor (p : LinkPolicy) (q : LinkQuery) (found : List Candidate)
    (specId shortname : String) (exported : Bool) (urls : AnchorUrls) : Prop where
  wanted : q.WantsAnchor specId shortname exported
  notIgnored : specId ∉ p.ignoredSpecs
  /-- The anchor is not in the published copy of the document itself. -/
  notOwn : p.shortname ≠ "" → shortname ≠ p.shortname
  /-- A query that names its spec wants it even if replaced. -/
  notReplaced : q.spec = none → ¬ p.GivesWay q found specId
  hasUrl : p.HasUrl q.status specId urls

/-- A link may go to a candidate, given all that were found. -/
def Eligible (p : LinkPolicy) (q : LinkQuery) (found : List Candidate) (c : Candidate) : Prop :=
  q.WantsScope c ∧
    match c.origin with
    | .document .. => True
    | .external specId shortname _ urls =>
      p.PermitsAnchor q found specId shortname c.exported urls

/-- The candidates that fit a query's scope and spec. -/
def placed (q : LinkQuery) (found : List Candidate) : List Candidate :=
  (found.filter q.fitsScope).filter q.fitsSpec

theorem mem_placed {q : LinkQuery} {found : List Candidate} {c : Candidate} :
    c ∈ placed q found ↔ c ∈ found ∧ q.fitsScope c = true ∧ q.fitsSpec c = true := by
  simp only [placed, List.mem_filter, and_assoc]

theorem specId_mem_placed_iff (q : LinkQuery) (found : List Candidate) (specId : String) :
    specId ∈ (placed q found).filterMap Candidate.specId? ↔ Offers q found specId := by
  simp only [List.mem_filterMap, mem_placed, Offers]
  constructor
  · rintro ⟨c, ⟨present, scope, spec⟩, same⟩
    -- Only anchors have a spec.
    cases origin : c.origin with
    | document id line => simp [Candidate.specId?, origin] at same
    | external otherId shortname level urls =>
      obtain rfl : otherId = specId := by simpa [Candidate.specId?, origin] using same
      exact ⟨c, present, (q.fitsScope_iff c).1 scope, shortname, level, urls, origin,
        (LinkQuery.fitsSpec_iff_of_external origin).1 spec⟩
  · rintro ⟨c, present, scope, shortname, level, urls, origin, spec⟩
    exact ⟨c, ⟨present, (q.fitsScope_iff c).2 scope,
      (LinkQuery.fitsSpec_iff_of_external origin).2 spec⟩, by simp [Candidate.specId?, origin]⟩

theorem mem_droppedSpecs_iff (p : LinkPolicy) (q : LinkQuery) (found : List Candidate)
    (specId : String) :
    specId ∈ p.droppedSpecs (placed q found) ↔ p.GivesWay q found specId := by
  simp only [droppedSpecs, List.mem_map, List.mem_filter, List.contains_iff_mem, List.mem_cons,
    specId_mem_placed_iff, GivesWay]
  constructor
  · rintro ⟨⟨old, replacement⟩, ⟨listed, offered⟩, rfl⟩
    exact ⟨replacement, listed, offered⟩
  · rintro ⟨replacement, listed, offered⟩
    exact ⟨(specId, replacement), ⟨listed, offered⟩, rfl⟩

/-- The specs that a query drops, given all candidates that were found. -/
def droppedFor (p : LinkPolicy) (q : LinkQuery) (found : List Candidate) : List String :=
  if q.spec.isNone then p.droppedSpecs (placed q found) else []

theorem mem_droppedFor_iff (p : LinkPolicy) (q : LinkQuery) (found : List Candidate)
    (specId : String) :
    specId ∈ p.droppedFor q found ↔ q.spec = none ∧ p.GivesWay q found specId := by
  cases named : q.spec with
  | none => simp [droppedFor, named, mem_droppedSpecs_iff]
  | some spec => simp [droppedFor, named]

theorem urlFor_isSome_iff (p : LinkPolicy) (status : Status) {c : Candidate}
    {specId shortname : String} {level : Option SpecLevel} {urls : AnchorUrls}
    (origin : c.origin = .external specId shortname level urls) :
    (p.urlFor status c).isSome = true ↔ p.HasUrl status specId urls := by
  obtain ⟨current, snapshot⟩ := urls
  cases status with
  | current =>
    cases current with
    | some url => simp [urlFor, HasUrl, origin]
    | none =>
      cases snapshot <;> cases known : p.specs.get? specId <;>
        simp [urlFor, HasUrl, origin, publishesDraft, known]
  | snapshot => cases snapshot <;> cases current <;> simp [urlFor, HasUrl, origin]

/-- The candidate passes every filter. -/
def passes (p : LinkPolicy) (q : LinkQuery) (found : List Candidate) (c : Candidate) : Bool :=
  q.fitsScope c && q.fitsSpec c && p.allows (p.droppedFor q found) c && (p.urlFor q.status c).isSome

/-- A candidate passes every filter exactly if it is eligible. -/
theorem passes_iff (p : LinkPolicy) (q : LinkQuery) (found : List Candidate) (c : Candidate) :
    p.passes q found c = true ↔ p.Eligible q found c := by
  simp only [passes, Bool.and_eq_true, LinkQuery.fitsScope_iff, Eligible, and_assoc,
    and_congr_right_iff]
  intro scope
  -- A definition of the document passes every filter but the first; an anchor meets each condition
  -- at a filter of its own.
  cases origin : c.origin with
  | document id line =>
    simp [LinkQuery.fitsSpec_of_document origin, allows, urlFor, origin]
  | external specId shortname level urls =>
    -- A disjunction with an empty short name says what holds if there is one.
    have allowed : p.allows (p.droppedFor q found) c = true ↔
        specId ∉ p.ignoredSpecs ∧ (q.spec = none → ¬ p.GivesWay q found specId) ∧
          (p.shortname ≠ "" → shortname ≠ p.shortname) := by
      simp only [allows, origin, Bool.and_eq_true, Bool.not_eq_true', Bool.or_eq_true,
        List.contains_eq_mem, decide_eq_false_iff_not, mem_droppedFor_iff, not_and, and_assoc,
        String.isEmpty_iff, bne_iff_ne, or_iff_not_imp_left, ne_eq]
    rw [LinkQuery.fitsSpec_iff_of_external origin, allowed, urlFor_isSome_iff p q.status origin]
    constructor
    · rintro ⟨wanted, ⟨notIgnored, notReplaced, notOwn⟩, hasUrl⟩
      exact ⟨wanted, notIgnored, notOwn, notReplaced, hasUrl⟩
    · rintro ⟨wanted, notIgnored, notOwn, notReplaced, hasUrl⟩
      exact ⟨wanted, ⟨notIgnored, notReplaced, notOwn⟩, hasUrl⟩

theorem eligible_iff_of_isLocal {p : LinkPolicy} {q : LinkQuery} {found : List Candidate}
    {c : Candidate} (own : c.isLocal = true) : p.Eligible q found c ↔ q.WantsScope c := by
  cases origin : c.origin with
  | document id line => simp [Eligible, origin]
  | external => simp [Candidate.isLocal, origin] at own

instance (p : LinkPolicy) (q : LinkQuery) (found : List Candidate) :
    DecidablePred (p.Eligible q found) := fun c => decidable_of_iff _ (passes_iff p q found c)

end LinkPolicy

namespace Selection

open LinkPolicy

theorem ensure_ok_iff {α : Type} (stage : SearchStage) (items found : List α) :
    ensure stage items = .ok found ↔ found = items ∧ items ≠ [] := by
  cases items <;> simp [ensure, eq_comm]

/-- The links to the candidates that pass every filter. -/
def passing (p : LinkPolicy) (q : LinkQuery) (found : List Candidate) : List ResolvedLink :=
  (found.filter (p.passes q found)).filterMap (p.link? q.status)

theorem allowed_placed (p : LinkPolicy) (q : LinkQuery) (found : List Candidate) :
    (p.allowed q (placed q found)).filterMap (p.link? q.status) = passing p q found := by
  -- One filter after another is one filter by all of their conditions.
  simp only [passing, LinkPolicy.allowed, placed, List.filter_filter, List.filterMap_filter]
  congr 1
  funext c
  simp only [passes, droppedFor, placed, List.filter_filter, link?]
  cases url : p.urlFor q.status c with
  | none => simp
  | some text => simp [and_assoc, and_comm]

/-- The selection goes on to the end exactly if some candidate passes every filter. -/
theorem survivors_ok_iff (p : LinkPolicy) (q : LinkQuery) (found : List Candidate)
    (links : List ResolvedLink) :
    survivors p q found = .ok links ↔ links = passing p q found ∧ passing p q found ≠ [] := by
  rw [← allowed_placed]
  simp only [survivors, bind_ok_iff, ensure_ok_iff]
  constructor
  · rintro ⟨_, ⟨rfl, -⟩, _, ⟨rfl, -⟩, _, ⟨rfl, -⟩, _, ⟨rfl, -⟩, same, left⟩
    exact ⟨same, left⟩
  · rintro ⟨same, left⟩
    -- What a later filter leaves was left by every filter before it.
    have allowedLeft : p.allowed q (placed q found) ≠ [] := fun none => left (by rw [none]; rfl)
    have placedLeft : placed q found ≠ [] := fun none =>
      allowedLeft (by rw [none]; rfl)
    have scopedLeft : found.filter q.fitsScope ≠ [] := fun none =>
      placedLeft (by rw [placed, none]; rfl)
    have foundLeft : found ≠ [] := fun none => scopedLeft (by rw [none]; rfl)
    exact ⟨found, ⟨rfl, foundLeft⟩, _, ⟨rfl, scopedLeft⟩, _, ⟨rfl, placedLeft⟩, _,
      ⟨rfl, allowedLeft⟩, same, left⟩

/-- The links that pass are those to the eligible candidates, in their order. -/
theorem map_candidate_passing (p : LinkPolicy) (q : LinkQuery) (found : List Candidate) :
    (passing p q found).map ResolvedLink.candidate =
      found.filter fun c => decide (p.Eligible q found c) := by
  have same (c : Candidate) : decide (p.Eligible q found c) = p.passes q found c :=
    decide_eq_decide.2 (passes_iff p q found c).symm |>.trans (Bool.decide_coe _)
  simp only [same, passing, List.map_filterMap, List.filterMap_filter]
  -- Both sides run over the candidates: a link is made of each that passes, since it has a URL.
  rw [← List.filterMap_eq_filter]
  congr 1
  funext c
  cases passed : p.passes q found c with
  | false => simp [Option.guard, passed]
  | true =>
    have hasUrl : (p.urlFor q.status c).isSome = true := by
      simp only [passes, Bool.and_eq_true] at passed
      exact passed.2
    obtain ⟨url, known⟩ := Option.isSome_iff_exists.1 hasUrl
    simp [Option.guard, passed, link?, known]

theorem url_of_mem_passing {p : LinkPolicy} {q : LinkQuery} {found : List Candidate}
    {link : ResolvedLink} (member : link ∈ passing p q found) :
    p.urlFor q.status link.candidate = some link.url := by
  obtain ⟨c, -, made⟩ := List.mem_filterMap.1 member
  obtain ⟨url, known, rfl⟩ := Option.map_eq_some_iff.1 made
  exact known

theorem passing_ne_nil_iff (p : LinkPolicy) (q : LinkQuery) (found : List Candidate) :
    passing p q found ≠ [] ↔ ∃ c ∈ found, p.Eligible q found c := by
  rw [← not_iff_not, not_not, ← List.map_eq_nil_iff (f := ResolvedLink.candidate),
    map_candidate_passing, List.filter_eq_nil_iff]
  simp

end Selection

end SpecLink
