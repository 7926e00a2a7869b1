import Mathlib.Data.Fintype.Card
import Mathlib.Data.Set.Finite.List
import SpecLink.Proofs.Resolver.Contract
import SpecLink.Proofs.Reading

/-!
# Replaced specs

A spec gives way to its replacement if that is among the candidates. Which replacements are on offer
is read off all candidates, those that are dropped themselves among them, so a choice may come out
empty. Main statement: `emptied_by_replacement`, by which that takes a replacement that links are kept
from or replacements in a circle.
-/
namespace SpecLink

open Relation

/-- Where each of finitely many has another one behind it, the way runs in a circle. -/
theorem exists_circle {α : Type} {behind : α → α → Prop} {items : List α} {start : α}
    (member : start ∈ items) (next : ∀ a ∈ items, ∃ b ∈ items, behind a b) :
    ∃ a, TransGen behind a a := by
  by_contra straight
  have finite : Finite {a // a ∈ items} := (List.finite_toSet items).to_subtype
  -- Without a circle some item is the last one, and it has nothing behind it.
  let Later : {a // a ∈ items} → {a // a ∈ items} → Prop := fun b a => TransGen behind a.1 b.1
  have transitive : IsTrans _ Later := ⟨fun _ _ _ first second => TransGen.trans second first⟩
  have irreflexive : Std.Irrefl Later := ⟨fun a circle => straight ⟨a.1, circle⟩⟩
  have founded : WellFounded Later := Finite.wellFounded_of_trans_of_irrefl Later
  obtain ⟨last, -, final⟩ := founded.has_min Set.univ ⟨⟨start, member⟩, trivial⟩
  obtain ⟨b, listed, step⟩ := next last.1 last.2
  exact final ⟨b, listed⟩ trivial (.single step)

namespace LinkPolicy

variable {p : LinkPolicy} {q : LinkQuery} {cs : List Candidate} {c : Candidate}

/-- Links are kept from a candidate whatever else is on offer: its spec is ignored, or its short name
is the document's own. -/
def Blocks (p : LinkPolicy) (c : Candidate) : Prop :=
  (∃ spec, c.specId? = some spec ∧ spec ∈ p.ignoredSpecs) ∨
    (p.shortname ≠ "" ∧ c.shortname? = some p.shortname)

/-- The second spec replaces the first one and is on offer. -/
def YieldsTo (p : LinkPolicy) (cs : List Candidate) (old new : String) : Prop :=
  (old, new) ∈ p.replacedSpecs ∧ ∃ c ∈ cs, c.specId? = some new

/-- The candidate is of a spec that another one on offer replaces. -/
def Replaced (p : LinkPolicy) (cs : List Candidate) (c : Candidate) : Prop :=
  ∃ old new, c.specId? = some old ∧ p.YieldsTo cs old new

theorem mem_droppedSpecs_iff_yieldsTo
    (elsewhere : ∀ pair ∈ p.replacedSpecs, pair.2 ≠ p.versionedName) {spec : String} :
    spec ∈ p.droppedSpecs cs ↔ ∃ new, p.YieldsTo cs spec new := by
  simp only [droppedSpecs, List.mem_map, List.mem_filter, List.contains_iff_mem, List.mem_cons,
    List.mem_filterMap, YieldsTo]
  constructor
  · rintro ⟨⟨old, new⟩, ⟨listed, own | offered⟩, rfl⟩
    · exact absurd own (elsewhere _ listed)
    · exact ⟨new, listed, offered⟩
  · rintro ⟨new, listed, offered⟩
    exact ⟨(spec, new), ⟨listed, .inr offered⟩, rfl⟩

theorem allows_eq_false_iff {dropped : List String} : p.allows dropped c = false ↔
    p.Blocks c ∨ ∃ spec, c.specId? = some spec ∧ spec ∈ dropped := by
  cases origin : c.origin with
  | document id line =>
    simp [allows, Blocks, Candidate.specId?, Candidate.shortname?, origin]
  | external specId shortname level urls =>
    simp only [allows, Blocks, Candidate.specId?, Candidate.shortname?, origin, Option.some.injEq,
      exists_eq_left', Bool.and_eq_false_iff, Bool.not_eq_false', List.contains_iff_mem,
      Bool.or_eq_false_iff, bne_eq_false_iff_eq, String.isEmpty_eq_false_iff, ne_eq]
    -- The three tests come in another order than the reasons.
    tauto

instance (p : LinkPolicy) : DecidablePred p.Blocks :=
  fun c => decidable_of_iff (p.allows [] c = false) (by simp [allows_eq_false_iff])

theorem allowed_eq_nil_iff (elsewhere : ∀ pair ∈ p.replacedSpecs, pair.2 ≠ p.versionedName) :
    p.allowed q cs = [] ↔ ∀ c ∈ cs, p.Blocks c ∨ (q.spec = none ∧ p.Replaced cs c) := by
  simp only [allowed, List.filter_eq_nil_iff, Bool.not_eq_true, allows_eq_false_iff]
  refine forall₂_congr fun c _ => or_congr_right ?_
  cases named : q.spec with
  | some spec => simp
  | none => simp [Replaced, mem_droppedSpecs_iff_yieldsTo elsewhere]

/-- If each candidate that is not blocked is replaced, one is replaced by a spec with blocked
candidates only, or specs replace each other in a circle. -/
theorem blocked_or_circle (member : c ∈ cs) (free : ¬ p.Blocks c)
    (replaced : ∀ d ∈ cs, ¬ p.Blocks d → p.Replaced cs d) :
    (∃ d ∈ cs, ¬ p.Blocks d ∧ ∃ old new, d.specId? = some old ∧ p.YieldsTo cs old new ∧
      ∀ e ∈ cs, e.specId? = some new → p.Blocks e) ∨
    ∃ spec, TransGen (p.YieldsTo cs) spec spec := by
  classical
  by_cases stuck : ∃ d ∈ cs, ¬ p.Blocks d ∧ ∃ old new, d.specId? = some old ∧
      p.YieldsTo cs old new ∧ ∀ e ∈ cs, e.specId? = some new → p.Blocks e
  · exact .inl stuck
  refine .inr ?_
  -- Every spec with a candidate that is not blocked yields to another such spec.
  let open' := (cs.filter fun d => ¬ p.Blocks d).filterMap Candidate.specId?
  have mem_open (spec : String) : spec ∈ open' ↔
      ∃ d ∈ cs, ¬ p.Blocks d ∧ d.specId? = some spec := by
    simp only [open', List.mem_filterMap, List.mem_filter, decide_eq_true_eq, and_assoc]
  obtain ⟨start, _, named, -⟩ := replaced c member free
  refine exists_circle ((mem_open start).2 ⟨c, member, free, named⟩) fun old listed => ?_
  obtain ⟨d, among, unblocked, known⟩ := (mem_open old).1 listed
  obtain ⟨spec, new, same, step⟩ := replaced d among unblocked
  obtain rfl : old = spec := Option.some.inj (known.symm.trans same)
  by_contra none
  refine stuck ⟨d, among, unblocked, old, new, known, step, fun e inList isNew => ?_⟩
  by_contra way
  exact none ⟨new, (mem_open new).2 ⟨e, inList, way, isNew⟩, step⟩

end LinkPolicy

namespace Selection

theorem ensure_error_iff {α : Type} {stage reached : SearchStage} {items : List α} :
    ensure stage items = .error reached ↔ items = [] ∧ stage = reached := by
  cases items <;> simp [ensure]

/-- A search that ends at the ignored specs got there with candidates, and none of them was left. -/
theorem allowed_eq_nil_of_select {p : LinkPolicy} {q : LinkQuery} {found : List Candidate}
    (ended : select p q found = .error .ignoredSpecs) :
    LinkPolicy.placed q found ≠ [] ∧ p.allowed q (LinkPolicy.placed q found) = [] := by
  have surviving : survivors p q found = .error .ignoredSpecs := by
    rcases (bind_error_iff _ _ _).1 ended with failed | ⟨links, -, failed⟩
    · exact failed
    · split at failed <;> cases failed
  -- The filters in front of this one fail with stages of their own.
  have specStage : q.specStage ≠ .ignoredSpecs := by
    rw [LinkQuery.specStage]
    split <;> decide
  simp only [survivors, bind_error_iff, ensure_error_iff, ensure_ok_iff, reduceCtorEq, and_false,
    false_or, or_false, specStage, exists_const] at surviving
  obtain ⟨_, ⟨rfl, -⟩, _, ⟨rfl, -⟩, _, ⟨rfl, left⟩, none, -⟩ := surviving
  exact ⟨left, none⟩

end Selection

namespace Resolver

/-- If links speak of ignored specs, candidates got as far as that, and none was left. -/
theorem allowed_eq_nil_of_resolve {metadata : Metadata} {r : Resolver}
    (reached : Reachable metadata r) (anchors : r.anchors.source.Candid)
    (biblio : r.biblio.source.Candid) {request : LinkRequest} {kind : LinkKind} {text : String}
    (failed : ((resolve request).on r).1 = .error (.notFound kind text .ignoredSpecs)) :
    LinkPolicy.placed (r.queryOf request) (r.found (r.queryOf request)) ≠ [] ∧
      r.policy.allowed (r.queryOf request)
        (LinkPolicy.placed (r.queryOf request) (r.found (r.queryOf request))) = [] := by
  have begun : r.phase ≠ .collecting := by
    intro collecting
    rw [resolve_of_collecting collecting] at failed
    cases failed
  rcases resolve_cases begun (reached.consistent.isSealed begun) request with
    same | ⟨failure, other, unreadable⟩
  · rw [same, outcome] at failed
    split at failed
    next custom => cases failed
    next ordinary =>
      rw [verdict] at failed
      split at failed
      next choice selected => cases failed
      next stage selected =>
        cases failed
        exact Selection.allowed_eq_nil_of_select selected
  · -- Data that cannot be read does not fail like that.
    rw [other] at failed
    cases failed
    rcases unreadable with unreadable | unreadable
    · exact absurd (AnchorStore.failsWith_of_unreadable unreadable) anchors.not_failsWith
    · exact absurd (BiblioStore.failsWith_of_unreadable unreadable) biblio.not_failsWith

/-- Nothing is left of some candidates exactly if links are kept from each, or its spec is replaced
by one that is on offer and the query names no spec. Where a candidate is not kept from links, this
takes a spec whose replacement has only candidates that are, or replacements in a circle. If links
speak of ignored specs, nothing was left of the candidates that fit. -/
theorem emptied_by_replacement {metadata : Metadata} {r : Resolver}
    (reached : Reachable metadata r)
    (elsewhere : ∀ pair ∈ r.replacedSpecs, pair.2 ≠ r.versionedName) :
    let p := r.policy
    (∀ q cs, p.allowed q cs = [] ↔ ∀ c ∈ cs, p.Blocks c ∨ (q.spec = none ∧ p.Replaced cs c)) ∧
    (∀ q cs, (∃ c ∈ cs, ¬ p.Blocks c) → p.allowed q cs = [] →
      (∃ d ∈ cs, ¬ p.Blocks d ∧ ∃ old new, d.specId? = some old ∧ p.YieldsTo cs old new ∧
        ∀ e ∈ cs, e.specId? = some new → p.Blocks e) ∨
      ∃ spec, TransGen (p.YieldsTo cs) spec spec) ∧
    (r.anchors.source.Candid → r.biblio.source.Candid → ∀ request kind text,
      ((resolve request).on r).1 = .error (.notFound kind text .ignoredSpecs) →
      let q := r.queryOf request
      let cs := LinkPolicy.placed q (r.found q)
      cs ≠ [] ∧ ∀ c ∈ cs, p.Blocks c ∨ (q.spec = none ∧ p.Replaced cs c)) := by
  intro p
  refine ⟨fun q cs => LinkPolicy.allowed_eq_nil_iff elsewhere, ?_, ?_⟩
  · rintro q cs ⟨c, member, free⟩ none
    have reasons := (LinkPolicy.allowed_eq_nil_iff elsewhere).1 none
    exact LinkPolicy.blocked_or_circle member free fun d listed unblocked =>
      ((reasons d listed).resolve_left unblocked).2
  · intro anchors biblio request kind text failed q cs
    obtain ⟨left, none⟩ := allowed_eq_nil_of_resolve reached anchors biblio failed
    exact ⟨left, (LinkPolicy.allowed_eq_nil_iff elsewhere).1 none⟩

/-- An anchor for the value `block`. -/
def blockAnchor (specId : String) : Candidate where
  text := "block"
  kind := .value
  origin := .external specId specId none ⟨some ("/" ++ specId), none⟩
  scope := ∅
  exported := true
  normative := true

/-- Two specs with one anchor each. -/
def displays (ignoredSpecs : List String) (replacedSpecs : List (String × String)) : Resolver :=
  run [.finish] <| ofStores
    (AnchorStore.addAll { source := .ofFiles ∅ } [blockAnchor "css21", blockAnchor "css-display-3"])
    { source := .ofFiles ∅ } { version := 1, dataDir := "", ignoredSpecs, replacedSpecs } {}

/-- A spec is dropped for a replacement that is ignored. -/
theorem emptied_of_displays :
    let r := displays ["css-display-3"] [("css21", "css-display-3")]
    let q := r.queryOf { kind := .exact .value, text := "block" }
    let cs := [blockAnchor "css21", blockAnchor "css-display-3"]
    (∀ pair ∈ r.replacedSpecs, pair.2 ≠ r.versionedName) ∧ LinkPolicy.placed q (r.found q) = cs ∧
      ∀ c ∈ cs, r.policy.Blocks c ∨ (q.spec = none ∧ r.policy.Replaced cs c) := by
  intro r q cs
  have reached : Reachable {} r := .call .finish (.ofStores _ _ _)
  have elsewhere : ∀ pair ∈ r.replacedSpecs, pair.2 ≠ r.versionedName := by decide +kernel
  have failed : ((resolve { kind := .exact .value, text := "block" }).on r).1 =
      .error (.notFound (.exact .value) "block" .ignoredSpecs) := by decide +kernel
  have placed : LinkPolicy.placed q (r.found q) = cs := by decide +kernel
  obtain ⟨-, reasons⟩ := (emptied_by_replacement reached elsewhere).2.2
    (DataSource.candid_ofFiles ∅) (DataSource.candid_ofFiles ∅) _ _ _ failed
  rw [placed] at reasons
  exact ⟨elsewhere, placed, reasons⟩

/-- Nothing is left although links are kept from one of the two specs at most: the other gives way to
it, or they give way to each other. -/
theorem emptied_despite_free :
    let ignoring := displays ["css-display-3"] [("css21", "css-display-3")]
    let circling := displays [] [("css21", "css-display-3"), ("css-display-3", "css21")]
    let q : LinkQuery := ⟨.exact .value, "block", none, .current, ∅⟩
    let cs := [blockAnchor "css21", blockAnchor "css-display-3"]
    ∀ r ∈ [ignoring, circling], (∀ pair ∈ r.replacedSpecs, pair.2 ≠ r.versionedName) ∧
      (∃ c ∈ cs, ¬ r.policy.Blocks c) ∧ r.policy.allowed q cs = [] ∧
      ((resolve { kind := .exact .value, text := "block" }).on r).1 =
        .error (.notFound (.exact .value) "block" .ignoredSpecs) := by
  decide +kernel

end Resolver

end SpecLink
