import SpecLink.Proofs.Reading
import SpecLink.Proofs.Resolver.Contract

/-!
# What a resolver reports

A request that is answered with a choice reports the warning of that choice and nothing else: the
entry that the link cites is looked up without a word. A request without a target is reported unless
it asks not to be, and an entry that is not found is reported unless the lookup is quiet. Main
statements: `messages_of_resolve`, `messages_of_notFound` and `exists_report_of_cite`.
-/
namespace SpecLink

/-- The severities of what keeps a link from its target. -/
def Severity.IsError (severity : Severity) : Prop := severity = .fatal ∨ severity = .linkError

theorem BiblioStore.remark_of_quiet {request : BiblioRequest} (quiet : request.quiet = true)
    {status : Status} {store : BiblioStore} {entry : Option BiblioEntry} {remark : Option Diagnostic}
    (answered : ((lookup request status).on store).1 = .ok (entry, remark)) : remark = none := by
  rw [lookup, Action.on_bind] at answered
  cases looked : (find request.lookupKey request.allowObsolete).on store with
  | mk answer changed =>
    rw [looked] at answered
    cases answer with
    | error failure => cases answered
    | ok found =>
      simp only [Action.on_bind, Action.on_get, quiet, if_true, Action.on_pure] at answered
      exact (Prod.mk.inj (Except.ok.inj answered)).2.symm

/-- What is not delivered is remarked on. -/
theorem BiblioStore.exists_remark_of_deliver_eq_none {store : BiblioStore}
    {request : BiblioRequest} {status : Status} {answer : BiblioAnswer}
    (none : store.deliver request status answer = none) :
    ∃ d, store.remark request answer = some d ∧ d.severity.IsError := by
  cases answer with
  | found e => cases none
  | succeeded obsolete successor => cases none
  | noSuccessor obsolete key => exact ⟨_, rfl, .inl rfl⟩
  | wrongVersion versions =>
    have strict : ¬request.standIn = true := fun standIn => by simp [deliver, standIn] at none
    rw [BiblioStore.remark, if_neg strict]
    exact ⟨_, rfl, .inl rfl⟩
  | missing =>
    have strict : ¬request.standIn = true := fun standIn => by simp [deliver, standIn] at none
    rw [BiblioStore.remark, if_neg strict]
    exact ⟨_, rfl, .inr rfl⟩

/-- An entry that is neither found nor stood in for is remarked on. -/
theorem BiblioStore.exists_remark_of_none {request : BiblioRequest} (loud : request.quiet = false)
    {status : Status} {store : BiblioStore} {remark : Option Diagnostic}
    (answered : ((lookup request status).on store).1 = .ok (none, remark)) :
    ∃ d, remark = some d ∧ d.severity.IsError := by
  rw [lookup, Action.on_bind] at answered
  cases looked : (find request.lookupKey request.allowObsolete).on store with
  | mk answer changed =>
    rw [looked] at answered
    cases answer with
    | error failure => cases answered
    | ok found =>
      simp only [Action.on_bind, Action.on_get, loud, Bool.false_eq_true, if_false,
        Action.on_pure] at answered
      obtain ⟨delivered, rfl⟩ := Prod.mk.inj (Except.ok.inj answered)
      exact exists_remark_of_deliver_eq_none delivered

namespace Resolver

open SpecLink.Action

/-- The log of a resolver is a given one. -/
def Logs (log : MessageLog) (r : Resolver) : Prop := r.messages = log

theorem preserves_logs_lookUpBiblio (log : MessageLog) {request : BiblioRequest}
    (quiet : request.quiet = true) : Preserves (Logs log) (lookUpBiblio request) := by
  intro r logs
  rw [lookUpBiblio_on]
  cases looked : ((BiblioStore.lookup request r.defaultStatus).on r.biblio).1 with
  | error failure => exact logs
  | ok found =>
    obtain ⟨entry, remark⟩ := found
    rw [BiblioStore.remark_of_quiet quiet looked]
    exact logs

theorem preserves_logs_recordTarget (log : MessageLog) (query : LinkQuery) (normative : Bool)
    (target : Candidate) : Preserves (Logs log) (recordTarget query normative target) := by
  rw [recordTarget]
  cases target.origin with
  | document id line => exact preserves_pure _
  | external specId shortname level urls =>
    refine preserves_bind (preserves_modify fun r logs => logs) fun _ => ?_
    refine preserves_bind (preserves_logs_lookUpBiblio log rfl) fun entry => ?_
    cases entry with
    | none => exact preserves_pure _
    | some e => exact preserves_modify fun r logs => logs

/-- The log after a choice is reported. -/
def logOf (log : MessageLog) (request : LinkRequest) (choice : Choice) : MessageLog :=
  match choice.warning with
  | some text => if request.allowError then log.report ⟨.warning, text, request.line⟩ else log
  | none => log

theorem reportChoice_messages (request : LinkRequest) (choice : Choice) (r : Resolver) :
    (reportChoice request choice r).messages = logOf r.messages request choice := by
  rw [reportChoice, logOf]
  cases choice.warning with
  | none => rfl
  | some text =>
    simp only
    split <;> rfl

/-- Once candidates are gathered, a choice among them reports its warning, and the entry that it
cites nothing. -/
theorem messages_of_conclude_ok {r : Resolver} {q : LinkQuery} {cs : List Candidate}
    {choice : Choice} (selected : Selection.select r.policy q cs = .ok choice)
    (request : LinkRequest) :
    ((conclude request q cs).on r).2.messages = logOf r.messages request choice := by
  have reported : Logs (logOf r.messages request choice) (reportChoice request choice r) :=
    reportChoice_messages request choice r
  have kept := preserves_logs_recordTarget (logOf r.messages request choice) q request.normative
    choice.link.candidate _ reported
  simp only [conclude, on_bind, on_get, selected, on_modify]
  cases recorded : (recordTarget q request.normative choice.link.candidate).on
      (reportChoice request choice r) with
  | mk answer s =>
    rw [recorded] at kept
    cases answer with
    | ok _ => exact kept
    | error failure => exact kept

theorem reportFailure_messages (request : LinkRequest) (q : LinkQuery) (stage : SearchStage)
    (r : Resolver) : (reportFailure request q stage r).messages =
      if reportsFailure request q then
        r.messages.report ⟨.linkError, q.failureMessage stage, request.line⟩
      else r.messages := by
  rw [reportFailure]
  split <;> rfl

theorem messages_of_conclude_error {r : Resolver} {q : LinkQuery} {cs : List Candidate}
    {stage : SearchStage} (failed : Selection.select r.policy q cs = .error stage)
    (request : LinkRequest) : ((conclude request q cs).on r).2.messages =
      if reportsFailure request q then
        r.messages.report ⟨.linkError, q.failureMessage stage, request.line⟩
      else r.messages := by
  simp only [conclude, on_bind, on_get, failed, on_modify, on_throw]
  exact reportFailure_messages request q stage r

/-- A request that is answered with a choice reports its warning, and nothing else. -/
theorem messages_of_resolve {r : Resolver} (begun : r.phase ≠ .collecting)
    (closed : r.definitions.isSealed = true) (anchorsLoad : AnchorStore.ShardsLoad r.anchors.source)
    {request : LinkRequest} (ordinary : (r.queryOf request).isCustomProperty = false)
    {choice : Choice} (selected : Selection.select r.policy (r.queryOf request)
      (r.found (r.queryOf request)) = .ok choice) :
    ((resolve request).on r).2.messages = logOf r.messages request choice := by
  obtain ⟨opened, ⟨store, rfl⟩, policy, concluded | ⟨failure, -, unreadable⟩⟩ :=
    resolve_on begun closed ordinary
  · rw [concluded]
    exact messages_of_conclude_ok (policy ▸ selected) request
  · exact absurd unreadable (anchorsLoad.not_unreadable failure)

/-- A request that comes to no target is reported, and nothing else, unless it is not to be. -/
theorem messages_of_notFound {r : Resolver} (begun : r.phase ≠ .collecting)
    (closed : r.definitions.isSealed = true) (anchorsCandid : r.anchors.source.Candid)
    (entriesCandid : r.biblio.source.Candid) {request : LinkRequest}
    (ordinary : (r.queryOf request).isCustomProperty = false) {kind : LinkKind} {text : String}
    {stage : SearchStage}
    (failed : ((resolve request).on r).1 = .error (.notFound kind text stage)) :
    ((resolve request).on r).2.messages =
      if reportsFailure request (r.queryOf request) then
        r.messages.report ⟨.linkError, (r.queryOf request).failureMessage stage, request.line⟩
      else r.messages := by
  obtain ⟨opened, ⟨store, rfl⟩, policy, concluded | ⟨failure, ran, unreadable⟩⟩ :=
    resolve_on begun closed ordinary
  · rw [concluded] at failed ⊢
    -- Candid data is not what the failure comes of, so nothing was selected.
    rcases conclude_cases { r with phase := .resolving, anchors := store } request
        (r.queryOf request) (r.found (r.queryOf request)) with same | ⟨failure, answered, unreadable⟩
    · rw [same, verdict] at failed
      cases selected : Selection.select
          ({ r with phase := .resolving, anchors := store } : Resolver).policy (r.queryOf request)
          (r.found (r.queryOf request)) with
      | ok choice => simp [selected] at failed
      | error last =>
        simp only [selected, Except.error.injEq, Failure.notFound.injEq] at failed
        obtain ⟨-, -, rfl⟩ := failed
        exact messages_of_conclude_error selected request
    · rw [answered] at failed
      obtain rfl := Except.error.inj failed
      exact absurd (BiblioStore.failsWith_of_unreadable unreadable) entriesCandid.not_failsWith
  · rw [ran] at failed
    obtain rfl : failure = .notFound kind text stage := Except.error.inj failed
    exact absurd (AnchorStore.failsWith_of_unreadable unreadable) anchorsCandid.not_failsWith

/-- A citation that comes to no entry is reported, unless it is quiet. -/
theorem exists_report_of_cite {r : Resolver} {request : BiblioRequest}
    (loud : request.quiet = false)
    (answered : ((cite request).on r).1 = .ok none) :
    ∃ d : Diagnostic, d.severity.IsError ∧
      ((cite request).on r).2.messages = r.messages.report d := by
  simp only [cite, on_bind, lookUpBiblio_on] at answered ⊢
  cases looked : ((BiblioStore.lookup request r.defaultStatus).on r.biblio).1 with
  | error failure =>
    rw [looked] at answered
    cases answered
  | ok found =>
    obtain ⟨entry, remark⟩ := found
    rw [looked] at answered
    cases entry with
    | some e => cases answered
    | none =>
      obtain ⟨d, rfl, error⟩ := BiblioStore.exists_remark_of_none loud looked
      exact ⟨d, error, rfl⟩

theorem preserves_logs_findSection (log : MessageLog) (spec id : String) (status : Option Status) :
    Preserves (Logs log) (findSection spec id status) := by
  refine preserves_bind (preserves_within fun r logs => logs) fun table => ?_
  refine preserves_bind preserves_get fun r => ?_
  refine preserves_bind (preserves_ofExcept _) fun heading => ?_
  exact preserves_bind (preserves_modify fun r logs => logs) fun _ => preserves_pure _

end Resolver

end SpecLink
