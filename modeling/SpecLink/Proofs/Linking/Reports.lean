import SpecLink.Proofs.Linking.Reaching
import SpecLink.Proofs.Resolver.Reports

/-!
# Reports of links that fail

A link that fails is reported by one error, whichever of its exits it takes, unless it is of a sort
that may fail unnoticed (`OptsOut`). Main statement: `report_of_pass`.
-/
namespace SpecLink

theorem LinkKind.eq_of_accepts {kind : LinkKind} {d : DefinitionKind} (accepted : kind.accepts d = true)
    (styled : d = .property ∨ d = .descriptor) : kind = .propdesc ∨ kind = .exact d := by
  cases kind with
  | exact asked => exact .inr (congrArg _ (beq_iff_eq.1 accepted))
  | propdesc => exact .inl rfl
  | functionish | idl | idlName | elementSub | maybe | codelike =>
    -- No other shorthand includes what a style sheet declares.
    rcases styled with rfl | rfl <;> exact absurd accepted (by decide)

theorem LinkQuery.text_ofRequest (defaults : DefaultTable) (status : Status) (request : LinkRequest) :
    (LinkQuery.ofRequest defaults status request).text = LinkText.normalize request.text := by
  simp only [LinkQuery.ofRequest]
  split
  · rfl
  · split <;> rfl

/-- A rule narrows the kind of a request, if it touches it at all. -/
theorem LinkQuery.kind_ofRequest (defaults : DefaultTable) (status : Status) (request : LinkRequest) :
    (LinkQuery.ofRequest defaults status request).kind = request.kind ∨
      ∃ kind, (LinkQuery.ofRequest defaults status request).kind = .exact kind ∧
        request.kind.accepts kind = true := by
  simp only [LinkQuery.ofRequest]
  split
  · exact .inl rfl
  · split
    next rule found =>
      have suits := List.find?_some found
      rw [DefaultRule.suits, Bool.and_eq_true] at suits
      exact .inr ⟨rule.kind, rfl, suits.1⟩
    next => exact .inl rfl

theorem Element.allowError_of_linkRequest {el : Element} {request : LinkRequest}
    (made : el.linkRequest = .ok request) : request.allowError = !el.hasClass "no-error" := by
  rw [linkRequest, bind_ok_iff] at made
  obtain ⟨kind, -, made⟩ := made
  obtain ⟨status, -, made⟩ := (bind_ok_iff _ _ _).1 made
  obtain rfl := Except.ok.inj made
  rfl

namespace Resolver

open SpecLink.Action

/-- A link to a term that may fail unnoticed: it asks for that, it is a guess, or its target is of a
sort that no data lists in full. -/
inductive Unnoticed (r : Resolver) (el : Element) (request : LinkRequest) : Prop
  | silenced (classed : el.hasClass "no-error" = true)
  | guess (asked : request.kind = .maybe)
  | extendedAttribute (sought : (r.queryOf request).kind = .exact .extendedAttribute)
  | custom (asked : request.kind = .propdesc ∨ request.kind = .exact .property ∨
      request.kind = .exact .descriptor)
    (hyphens : Text.startsWith "--" (LinkText.normalize request.text) = true)

/-- A link whose failure need not be reported. -/
inductive OptsOut (r : Resolver) (el : Element) : Prop
  | term {request : LinkRequest} (notEntry : el.attr? "data-link-type" ≠ some "biblio")
    (notSection : el.attr? "data-link-type" ≠ some "section")
    (made : el.linkRequest = .ok request) (unnoticed : Unnoticed r el request)
  | entry (asked : el.attr? "data-link-type" = some "biblio")
    (tolerant : (el.attr? "data-okay-to-fail").isSome = true)

/-- All that is reported between two resolvers is one error. -/
def Complains (r s : Resolver) : Prop :=
  ∃ d : Diagnostic, d.severity.IsError ∧ s.messages = r.messages.report d

variable {anchors biblio : DataSource}
variable {r s : Resolver} {el result : Element}

theorem unnoticed_of_custom {request : LinkRequest}
    (custom : (r.queryOf request).isCustomProperty = true) : Unnoticed r el request := by
  obtain ⟨kind, hyphens⟩ := (isCustomProperty_iff _).1 custom
  rw [queryOf, LinkQuery.text_ofRequest] at hyphens
  refine .custom ?_ hyphens
  rcases LinkQuery.kind_ofRequest r.defaults r.defaultStatus request with same | ⟨exact, narrowed, accepted⟩
  · rwa [queryOf, same] at kind
  · -- The rule that was found has a kind that the link asks for.
    rw [queryOf, narrowed] at kind
    simp only [reduceCtorEq, LinkKind.exact.injEq, false_or] at kind
    rcases LinkKind.eq_of_accepts accepted kind with propdesc | same
    · exact .inl propdesc
    · rcases kind with rfl | rfl
      · exact .inr (.inl same)
      · exact .inr (.inr same)

theorem unnoticed_of_not_reports {request : LinkRequest} (made : el.linkRequest = .ok request)
    (silent : reportsFailure request (r.queryOf request) = false) : Unnoticed r el request := by
  rw [reportsFailure, Bool.and_eq_false_iff, Bool.and_eq_false_iff, bne_eq_false_iff_eq,
    bne_eq_false_iff_eq, Element.allowError_of_linkRequest made, Bool.not_eq_false'] at silent
  rcases silent with (classed | asked) | sought
  · exact .silenced classed
  · exact .guess asked
  · exact .extendedAttribute sought

/-- Whichever way a link fails, it is reported unless it may fail unnoticed. -/
theorem Exit.complains {answer : Except Failure (Element × LinkOutcome)} (exit : Exit r el answer s)
    (failed : answer = .ok (result, .failed)) (links : Links anchors biblio r)
    (anchorsCandid : anchors.Candid) (entriesCandid : biblio.Candid) :
    OptsOut r el ∨ Complains r s := by
  cases exit with
  | term | entry | «section» => cases (Prod.mk.inj (Except.ok.inj failed)).2
  | termBroken | entryBroken | sectionBroken => cases failed
  | refused error => exact .inr ⟨⟨_, _, el.line⟩, error, rfl⟩
  | @noTerm request kind text stage _ notEntry notSection made ran =>
    cases custom : (r.queryOf request).isCustomProperty with
    | true => exact .inl (.term notEntry notSection made (unnoticed_of_custom custom))
    | false =>
      have log := messages_of_notFound links.begun links.closed
        (links.reads.anchors ▸ anchorsCandid) (links.reads.biblio ▸ entriesCandid) custom
        (congrArg Prod.fst ran)
      rw [ran] at log
      cases reports : reportsFailure request (r.queryOf request) with
      | true => exact .inr ⟨_, .inr rfl, by rw [log, if_pos reports]⟩
      | false => exact .inl (.term notEntry notSection made (unnoticed_of_not_reports made reports))
  | noEntry asked _ quiet ran =>
    cases tolerant : (el.attr? "data-okay-to-fail").isSome with
    | true => exact .inl (.entry asked tolerant)
    | false =>
      have report := exists_report_of_cite (quiet.trans tolerant) (congrArg Prod.fst ran)
      rw [ran] at report
      exact .inr report
  | noSection ran =>
    -- The search itself keeps the log, so the report that follows is the only one.
    have kept : Logs r.messages _ := (preserves_logs_findSection r.messages _ _ _).after rfl ran
    exact .inr ⟨_, .inr rfl, congrArg (MessageLog.report · _) kept⟩

theorem stable_queryOf (r : Resolver) : Stable fun s => s.queryOf = r.queryOf := by
  intro s t change same
  cases change <;> exact same

theorem OptsOut.of_queryOf (optsOut : OptsOut s el) (same : s.queryOf = r.queryOf) : OptsOut r el := by
  cases optsOut with
  | entry asked tolerant => exact .entry asked tolerant
  | term notEntry notSection made unnoticed =>
    refine .term notEntry notSection made ?_
    cases unnoticed with
    | silenced classed => exact .silenced classed
    | guess asked => exact .guess asked
    | extendedAttribute sought => exact .extendedAttribute (same ▸ sought)
    | custom asked hyphens => exact .custom asked hyphens

variable {metadata : Metadata} {els first rest : List Element} {report : LinkReport}

/-- In a pass that comes to its end, every element whose link fails is reported by one error while it
is linked, unless it may fail unnoticed by what it asks for and by the rules of the document. -/
theorem report_of_pass (reached : Reachable metadata r) (begun : r.phase ≠ .collecting)
    (anchorsCandid : r.anchors.source.Candid) (entriesCandid : r.biblio.source.Candid)
    (ended : (linkElements els r).1.outcome = .ok report) (split : els = first ++ el :: rest)
    (unlinked : el.isLinked = false) :
    ∃ result, ∃ outcome : LinkOutcome, ∃ s,
      (linkElements els r).1.elements[first.length]? = some result ∧
      (linkElement el).on (linkElements first r).2 = (.ok (result, outcome), s) ∧
      (outcome = .failed → OptsOut r el ∨ Complains (linkElements first r).2 s) := by
  subst split
  obtain ⟨result, count, s, turn, place⟩ := exists_turn_of_mem ended
  cases turn with
  | stay linked => simp [linked] at unlinked
  | link _ ran =>
    refine ⟨result, _, s, place, ran, ?_⟩
    rintro rfl
    -- The elements before it leave a resolver that links over the same data by the same rules.
    have links := Stable.linkElements stable_links first (reached.links begun)
    have same : (linkElements first r).2.queryOf = r.queryOf :=
      Stable.linkElements (stable_queryOf r) first rfl
    exact ((exit_of_linkElement ran).complains rfl links anchorsCandid entriesCandid).imp_left
      fun optsOut => optsOut.of_queryOf same

/-- The second of two links has no target, and is reported. -/
theorem report_of_auto :
    let r := bare.finish
    let els := [linkToAutoFor "width", linkToAutoFor "height"]
    (linkElements els r).1.outcome = .ok { failed := 2 } ∧
    ∃ result s, (linkElements els r).1.elements[1]? = some result ∧
      (linkElement (linkToAutoFor "height")).on (linkElements [linkToAutoFor "width"] r).2 =
        (.ok (result, .failed), s) ∧
      (OptsOut r (linkToAutoFor "height") ∨
        Complains (linkElements [linkToAutoFor "width"] r).2 s) := by
  intro r els
  have ended : (linkElements els r).1.outcome = .ok { failed := 2 } := by decide +kernel
  have reads : Reads (.ofFiles ∅) (.ofFiles ∅) r := (reads_ofStores { source := .ofFiles ∅ }
    { source := .ofFiles ∅ } { version := 1, dataDir := "" } {}).run [.finish]
  have anchorsCandid : r.anchors.source.Candid := by
    rw [reads.anchors]
    exact DataSource.candid_ofFiles ∅
  have entriesCandid : r.biblio.source.Candid := by
    rw [reads.biblio]
    exact DataSource.candid_ofFiles ∅
  have reached : Reachable {} r := .call .finish (.ofStores _ _ _)
  have split : els = [linkToAutoFor "width"] ++ linkToAutoFor "height" :: [] := rfl
  obtain ⟨result, outcome, s, place, ran, reported⟩ := report_of_pass reached (by decide +kernel)
    anchorsCandid entriesCandid ended split (by decide +kernel)
  have failed : (((linkElement (linkToAutoFor "height")).on
      (linkElements [linkToAutoFor "width"] r).2).1.map Prod.snd) = .ok .failed := by decide +kernel
  rw [ran] at failed
  obtain rfl := Except.ok.inj failed
  exact ⟨ended, result, s, place, ran, reported rfl⟩

end Resolver

end SpecLink
