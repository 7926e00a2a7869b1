import SpecLink.Proofs.Resolver.Reports
import SpecLink.Proofs.Selection.Narrowing

/-!
# The report on a link

A request for a link is reported on at most once, whatever becomes of it: by an error if its search
ends without a target, by a warning if its target was not the only one. What is cited along with it
is looked up without a word. Main statement: `exists_report_of_resolve`, which says when there is a
report and of what severity.
-/
namespace SpecLink

namespace Selection

theorem length_finalists_le (links : List ResolvedLink) :
    (finalists links).length ≤ links.length := by
  rw [finalists]
  split
  · exact List.length_filter_le _ _
  · exact le_rfl

/-- A choice comes with a warning only if it is one of several. -/
theorem two_le_length_of_warning {q : LinkQuery} {links : List ResolvedLink} {choice : Choice}
    (chosen : choose q links = some choice) (warned : choice.warning ≠ none) :
    2 ≤ links.length := by
  rw [choose] at chosen
  cases own : links.filter (fun r => r.candidate.isLocal) with
  | cons first others =>
    rw [own] at chosen
    obtain rfl := Option.some.inj chosen
    have more : others ≠ [] := by
      rintro rfl
      exact warned rfl
    have front : 0 < others.length := List.length_pos_iff.2 more
    calc 2 ≤ (first :: others).length := by rw [List.length_cons]; omega
      _ ≤ links.length := own ▸ List.length_filter_le _ _
  | nil =>
    rw [own] at chosen
    obtain ⟨link, -, rfl⟩ := Option.map_eq_some_iff.1 chosen
    have several : ¬ (finalists links).length ≤ 1 := fun few => warned (if_pos few)
    calc 2 ≤ (finalists links).length := by omega
      _ ≤ links.length := length_finalists_le links

end Selection

namespace Resolver

open SpecLink.Action

/-- The report that is due on what a selection came to. -/
def reportOn (request : LinkRequest) (q : LinkQuery) :
    Except SearchStage Choice → Option Diagnostic
  | .error stage =>
    if reportsFailure request q then
      some ⟨.linkError, q.failureMessage stage, request.line⟩
    else none
  | .ok choice =>
    if request.allowError then
      choice.warning.map fun text => ⟨.warning, text, request.line⟩
    else none

/-- Nothing else is reported once candidates are gathered. -/
theorem messages_of_conclude (r : Resolver) (request : LinkRequest) (q : LinkQuery)
    (cs : List Candidate) : ((conclude request q cs).on r).2.messages =
      (reportOn request q (Selection.select r.policy q cs)).elim r.messages r.messages.report := by
  cases selected : Selection.select r.policy q cs with
  | error stage =>
    rw [messages_of_conclude_error selected, reportOn]
    split <;> rfl
  | ok choice =>
    rw [messages_of_conclude_ok selected, logOf, reportOn]
    cases choice.warning with
    | none => simp
    | some text =>
      simp only
      split <;> rfl

/-- The candidates that are gathered for a request; none if it is refused before the search, or if
the search comes to a shard that cannot be read. -/
def gathered (r : Resolver) (request : LinkRequest) : List Candidate :=
  if r.phase = .collecting ∨ (r.queryOf request).isCustomProperty = true then []
  else
    match ((gather (r.queryOf request).kind (r.queryOf request).texts).on
        { r with phase := .resolving }).1 with
    | .ok cs => cs
    | .error _ => []

/-- The candidates of a request that pass every filter. -/
def passed (r : Resolver) (request : LinkRequest) : List Candidate :=
  (r.gathered request).filter fun c =>
    decide (r.policy.Eligible (r.queryOf request) (r.gathered request) c)

theorem gather_opens (r : Resolver) (kind : LinkKind) (texts : List String) :
    ∃ store : AnchorStore, ((gather kind texts).on r).2 = { r with anchors := store } ∧
      store.specs = r.anchors.specs := by
  let Opens (s : Resolver) : Prop :=
    ∃ store : AnchorStore, s = { r with anchors := store } ∧ store.specs = r.anchors.specs
  have opens (s : Resolver) (key : String) (h : Opens s) :
      Opens { s with anchors := s.anchors.opened key } := by
    obtain ⟨store, rfl, specs⟩ := h
    exact ⟨_, rfl, (AnchorStore.opened_specs _ _).trans specs⟩
  exact preserves_gather_of_opened opens kind texts r ⟨r.anchors, rfl, rfl⟩

/-- A request is left to `conclude` with its candidates, or it fails without a report. -/
theorem resolve_gathered (r : Resolver) (request : LinkRequest) :
    (∃ s : Resolver, s.policy = r.policy ∧ s.messages = r.messages ∧ s.biblio = r.biblio ∧
      (resolve request).on r =
        (conclude request (r.queryOf request) (r.gathered request)).on s) ∨
    (r.gathered request = [] ∧ ((resolve request).on r).2.messages = r.messages) := by
  by_cases refused : r.phase = .collecting ∨ (r.queryOf request).isCustomProperty = true
  · refine .inr ⟨if_pos refused, ?_⟩
    by_cases collecting : r.phase = .collecting
    · rw [resolve_of_collecting collecting]
    · rw [resolve_on_of_custom collecting (refused.resolve_left collecting)]
  · obtain ⟨begun, ordinary⟩ := not_or.1 refused
    obtain ⟨store, opened, specs⟩ := gather_opens { r with phase := .resolving }
      (r.queryOf request).kind (r.queryOf request).texts
    rw [gathered, if_neg refused, resolve_on_of_begun begun, settle, if_neg ordinary, on_bind]
    cases ran : (gather (r.queryOf request).kind (r.queryOf request).texts).on
        { r with phase := .resolving } with
    | mk answer s =>
      rw [ran] at opened
      obtain rfl : s = { r with phase := .resolving, anchors := store } := opened
      cases answer with
      | error failure => exact .inr ⟨rfl, rfl⟩
      | ok cs =>
        refine .inl ⟨{ r with phase := .resolving, anchors := store }, ?_, rfl, rfl, rfl⟩
        simp only [policy, specs]

variable {r : Resolver} {request : LinkRequest}

theorem map_candidate_passing_gathered (r : Resolver) (request : LinkRequest) :
    (Selection.passing r.policy (r.queryOf request) (r.gathered request)).map
      ResolvedLink.candidate = r.passed request :=
  Selection.map_candidate_passing _ _ _

/-- A choice among the gathered candidates goes to one that passes, and warns only if several do. -/
theorem passed_of_select {choice : Choice} (selected : Selection.select r.policy
      (r.queryOf request) (r.gathered request) = .ok choice) :
    choice.link.candidate ∈ r.passed request ∧
      (choice.warning ≠ none → 2 ≤ (r.passed request).length) := by
  obtain ⟨listed, eligible⟩ := Selection.eligible_of_select selected
  refine ⟨List.mem_filter.2 ⟨listed, decide_eq_true eligible⟩, fun warned => ?_⟩
  rw [← map_candidate_passing_gathered, List.length_map]
  exact Selection.two_le_length_of_warning (Selection.select_ok_iff.1 selected).2 warned

theorem passed_eq_nil_of_select {stage : SearchStage} (failed : Selection.select r.policy
      (r.queryOf request) (r.gathered request) = .error stage) : r.passed request = [] := by
  rw [← map_candidate_passing_gathered, List.map_eq_nil_iff]
  by_contra left
  obtain ⟨choice, selected⟩ :=
    Selection.exists_select_iff.2 ((Selection.passing_ne_nil_iff _ _ _).1 left)
  rw [failed] at selected
  cases selected

theorem reportOn_of_silent (silent : request.allowError = false) (q : LinkQuery)
    (selected : Except SearchStage Choice) : reportOn request q selected = none := by
  cases selected with
  | error stage =>
    have unreported : reportsFailure request q = false := by rw [reportsFailure, silent]; rfl
    rw [reportOn, unreported, if_neg Bool.false_ne_true]
  | ok choice => rw [reportOn, silent, if_neg Bool.false_ne_true]

theorem linkError_of_reportOn {q : LinkQuery} {stage : SearchStage} {d : Diagnostic}
    (told : reportOn request q (.error stage) = some d) :
    d.severity = .linkError ∧ request.kind ≠ .maybe := by
  rw [reportOn] at told
  split at told
  next reported =>
    obtain rfl := Option.some.inj told
    simp only [reportsFailure, Bool.and_eq_true, bne_iff_ne] at reported
    exact ⟨rfl, reported.1.2⟩
  next => cases told

theorem warning_of_reportOn {q : LinkQuery} {choice : Choice} {d : Diagnostic}
    (told : reportOn request q (.ok choice) = some d) :
    d.severity = .warning ∧ choice.warning ≠ none := by
  rw [reportOn] at told
  split at told
  · obtain ⟨text, warning, rfl⟩ := Option.map_eq_some_iff.1 told
    exact ⟨rfl, warning ▸ Option.some_ne_none text⟩
  · cases told

/-- A request for a link makes at most one report, and none if it asks for none. An error is
reported only if no target is found and the link is no guess, a warning only if several candidates
pass every filter. Where one does, a target is found, unless the entry to cite cannot be read; and of
that entry nothing is reported. -/
theorem exists_report_of_resolve (r : Resolver) (request : LinkRequest) :
    let answer := ((resolve request).on r).1
    (∃ told : Option Diagnostic,
      ((resolve request).on r).2.messages = told.elim r.messages r.messages.report ∧
      (request.allowError = false → told = none) ∧
      (∀ d, told = some d →
        (d.severity = .linkError ∧ request.kind ≠ .maybe ∧
          ∃ kind text stage, answer = .error (.notFound kind text stage)) ∨
        (d.severity = .warning ∧ 2 ≤ (r.passed request).length)) ∧
      (r.passed request ≠ [] →
        (∀ d, told = some d → d.severity = .warning) ∧
        ((∃ link, answer = .ok link ∧ link.candidate ∈ r.passed request) ∨
          ∃ failure, answer = .error failure ∧
            BiblioStore.Unreadable r.biblio.source failure))) ∧
    ∀ (s : Resolver) (query : LinkQuery) (normative : Bool) (target : Candidate),
      ((recordTarget query normative target).on s).2.messages = s.messages := by
  intro answer
  refine ⟨?_, fun s query normative target =>
    preserves_logs_recordTarget s.messages query normative target s rfl⟩
  rcases resolve_gathered r request with ⟨s, policy, messages, biblio, ran⟩ | ⟨none, kept⟩
  · have reported := messages_of_conclude s request (r.queryOf request) (r.gathered request)
    have answered := conclude_cases s request (r.queryOf request) (r.gathered request)
    rw [policy, messages, ← ran] at reported
    rw [verdict, policy, biblio, ← ran] at answered
    refine ⟨_, reported, fun silent => reportOn_of_silent silent _ _, ?_⟩
    cases selected : Selection.select r.policy (r.queryOf request) (r.gathered request) with
    | error stage =>
      have blank := passed_eq_nil_of_select selected
      refine ⟨fun d told => .inl ?_, fun some => absurd blank some⟩
      obtain ⟨error, noGuess⟩ := linkError_of_reportOn told
      refine ⟨error, noGuess, (r.queryOf request).kind, (r.queryOf request).text, stage, ?_⟩
      simp only [answer, ran, conclude, on_bind, on_get, policy, selected, on_modify, on_throw]
    | ok choice =>
      obtain ⟨member, several⟩ := passed_of_select selected
      rw [selected] at answered
      refine ⟨fun d told => .inr ?_, fun _ => ⟨fun d told => (warning_of_reportOn told).1, ?_⟩⟩
      · obtain ⟨warning, warned⟩ := warning_of_reportOn told
        exact ⟨warning, several warned⟩
      · exact answered.imp_left fun same => ⟨choice.link, same, member⟩
  · have blank : r.passed request = [] := by rw [passed, none, List.filter_nil]
    refine ⟨.none, kept, fun _ => rfl, fun d told => ?_, fun some => absurd blank some⟩
    cases told

end Resolver

end SpecLink
