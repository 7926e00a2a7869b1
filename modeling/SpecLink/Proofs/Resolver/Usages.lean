import SpecLink.Proofs.Reading
import SpecLink.Proofs.Resolver.Contract
import SpecLink.Proofs.Usages

/-!
# What a resolver notes as used

Every call adds its own uses to the usages and nothing else: a link uses the spec of its target and
cites it, a citation cites its entry, and a section uses its spec. Main statement: `usages_of_run`,
by which the usages of a resolver are a summary of the uses of all its calls.
-/
namespace SpecLink.Resolver

open SpecLink.Action

/-- The search of a link, without what is reported and recorded of it. -/
def seek (request : LinkRequest) : Action Resolver ResolvedLink := do
  beginResolving request.text
  let q := (← get).queryOf request
  if q.isCustomProperty then throw (.notFound q.kind q.text .text)
  let cs ← gather q.kind q.texts
  Action.ofExcept ((← get).verdict q cs)

/-- The entry that a lookup gives. -/
def entryGiven? (r : Resolver) (request : BiblioRequest) : Option BiblioEntry :=
  match ((BiblioStore.lookup request r.defaultStatus).on r.biblio).1 with
  | .ok (entry, _) => entry
  | .error _ => none

/-- The uses of a target: its spec, and the entry that the spec is cited by. -/
def usesOfTarget (r : Resolver) (query : LinkQuery) (normative : Bool) (target : Candidate) :
    List Use :=
  match target.origin with
  | .document .. => []
  | .external specId .. =>
    let normative := normative && target.normative
    let entry := r.entryGiven?
      { key := specId, status := some query.status, standIn := true, quiet := true }
    .spec specId normative :: entry.toList.map fun e => .citation ⟨e, normative⟩

/-- What a call uses. A link counts once its target is found, even if the entry for it then cannot
be looked up. -/
def Call.uses (r : Resolver) : Call → List Use
  | .define _ => []
  | .finish => []
  | .resolve request =>
    match ((seek request).on r).1 with
    | .ok link => r.usesOfTarget (r.queryOf request) request.normative link.candidate
    | .error _ => []
  | .cite request =>
    (r.entryGiven? request).toList.map fun e => .citation ⟨e, request.normative⟩
  | .findSection spec id status =>
    match ((Resolver.findSection spec id status).on r).1 with
    | .ok _ => [.spec (Text.lowercase (Text.trim spec)) false]
    | .error _ => []

/-- What calls use, the first one first, each with the resolver that the calls before it leave. -/
def usesAlong (r : Resolver) : List Call → List Use
  | [] => []
  | c :: rest => c.uses r ++ usesAlong (c.after r) rest

section Resolve

/-- The second resolver differs from the first in its anchors alone. -/
def SameButAnchors (r s : Resolver) : Prop := ∃ anchors, s = { r with anchors }

theorem SameButAnchors.refl (r : Resolver) : SameButAnchors r r := ⟨r.anchors, rfl⟩

theorem preserves_gather_sameButAnchors (r : Resolver) (kind : LinkKind) (texts : List String) :
    Preserves (SameButAnchors r) (gather kind texts) := by
  refine preserves_gather_of_opened (fun s key same => ?_) kind texts
  obtain ⟨anchors, rfl⟩ := same
  exact ⟨_, rfl⟩

theorem usages_recordTarget (r : Resolver) (query : LinkQuery) (normative : Bool)
    (target : Candidate) : ((recordTarget query normative target).on r).2.usages =
      (r.usesOfTarget query normative target).foldl Usages.record r.usages := by
  rw [recordTarget, usesOfTarget]
  cases target.origin with
  | document id line => rfl
  | external specId shortname level urls =>
    simp only [on_bind, on_modify, lookUpBiblio_on, entryGiven?]
    -- The lookup goes by what the resolver was before the spec was recorded.
    have same : (recordSpec specId (normative && target.normative) r).defaultStatus =
        r.defaultStatus := rfl
    have store : (recordSpec specId (normative && target.normative) r).biblio = r.biblio := rfl
    rw [same, store]
    cases ((BiblioStore.lookup _ r.defaultStatus).on r.biblio).1 with
    | error failure => rfl
    | ok found =>
      obtain ⟨entry, remark⟩ := found
      cases entry <;> rfl

theorem usesOfTarget_report {r s : Resolver} (notes : ∃ messages, s = { r with messages })
    (query : LinkQuery) (normative : Bool) (target : Candidate) :
    s.usesOfTarget query normative target = r.usesOfTarget query normative target := by
  obtain ⟨messages, rfl⟩ := notes
  rfl

theorem reportChoice_eq (request : LinkRequest) (choice : Choice) (r : Resolver) :
    ∃ messages, reportChoice request choice r = { r with messages } := by
  rw [reportChoice]
  cases choice.warning with
  | none => exact ⟨_, rfl⟩
  | some text =>
    simp only
    split
    · exact ⟨_, rfl⟩
    · exact ⟨_, rfl⟩

theorem usages_reportFailure (request : LinkRequest) (query : LinkQuery) (stage : SearchStage)
    (r : Resolver) : (reportFailure request query stage r).usages = r.usages := by
  rw [reportFailure]
  split <;> rfl

/-- What a search comes to decides about the uses of what is left to do. -/
theorem usages_conclude (r : Resolver) (request : LinkRequest) (q : LinkQuery)
    (cs : List Candidate) : ((conclude request q cs).on r).2.usages =
      (match r.verdict q cs with
        | .ok link => r.usesOfTarget q request.normative link.candidate
        | .error _ => []).foldl Usages.record r.usages := by
  simp only [conclude, verdict, on_bind, on_get]
  cases Selection.select r.policy q cs with
  | error stage => exact usages_reportFailure request q stage r
  | ok choice =>
    obtain ⟨messages, reported⟩ := reportChoice_eq request choice r
    have noted := usages_recordTarget (reportChoice request choice r) q request.normative
      choice.link.candidate
    rw [usesOfTarget_report ⟨messages, reported⟩] at noted
    have usages : (reportChoice request choice r).usages = r.usages := by rw [reported]
    rw [usages] at noted
    simp only [on_bind, on_modify]
    cases recorded : (recordTarget q request.normative choice.link.candidate).on
        (reportChoice request choice r) with
    | mk answer s =>
      rw [recorded] at noted
      cases answer with
      | ok _ => exact noted
      | error failure => exact noted

/-- A link fails in its search and uses nothing, or its search ends and the rest is left to
`conclude`. -/
theorem resolve_seek (r : Resolver) (request : LinkRequest) :
    (∃ failure s, (resolve request).on r = (.error failure, s) ∧ s.usages = r.usages ∧
      ((seek request).on r).1 = .error failure) ∨
    ∃ s cs, SameButAnchors { r with phase := .resolving } s ∧
      (resolve request).on r = (conclude request (r.queryOf request) cs).on s ∧
      ((seek request).on r).1 = s.verdict (r.queryOf request) cs := by
  by_cases collecting : r.phase = .collecting
  · refine .inl ⟨_, _, resolve_of_collecting collecting request, rfl, ?_⟩
    simp [seek, beginResolving, on_bind, collecting]
  by_cases custom : (r.queryOf request).isCustomProperty = true
  · refine .inl ⟨_, _, resolve_on_of_custom collecting custom, rfl, ?_⟩
    simp only [seek, on_bind, beginResolving_on collecting, on_get, queryOf_begun, custom, if_true,
      on_throw]
  · have kept := preserves_gather_sameButAnchors { r with phase := .resolving }
      (r.queryOf request).kind (r.queryOf request).texts _ (.refl _)
    simp only [resolve_eq, seek, on_bind, beginResolving_on collecting, on_get, queryOf_begun,
      custom, Bool.false_eq_true, if_false]
    cases gathered : (gather (r.queryOf request).kind (r.queryOf request).texts).on
        { r with phase := .resolving } with
    | mk answer s =>
      rw [gathered] at kept
      cases answer with
      | error failure =>
        obtain ⟨anchors, rfl⟩ := kept
        exact .inl ⟨_, _, rfl, rfl, rfl⟩
      | ok cs => exact .inr ⟨s, cs, kept, rfl, rfl⟩

theorem usages_resolve (r : Resolver) (request : LinkRequest) :
    ((resolve request).on r).2.usages =
      ((Call.resolve request).uses r).foldl Usages.record r.usages := by
  rw [Call.uses]
  rcases resolve_seek r request with ⟨failure, s, ran, kept, sought⟩ | ⟨s, cs, same, ran, sought⟩
  · rw [ran, sought]
    exact kept
  · obtain ⟨anchors, rfl⟩ := same
    rw [ran, sought, usages_conclude]
    rfl

/-- The target that a link is answered with is the one that its search comes to. -/
theorem seek_of_resolve {r : Resolver} {request : LinkRequest} {link : ResolvedLink}
    (answered : ((resolve request).on r).1 = .ok link) : ((seek request).on r).1 = .ok link := by
  rcases resolve_seek r request with ⟨failure, s, ran, -, -⟩ | ⟨s, cs, -, ran, sought⟩
  · rw [ran] at answered
    cases answered
  · rw [ran] at answered
    rw [sought]
    rcases conclude_cases s request (r.queryOf request) cs with same | ⟨failure, failed, -⟩
    · exact same ▸ answered
    · rw [failed] at answered
      cases answered

end Resolve

theorem usages_cite (r : Resolver) (request : BiblioRequest) :
    ((cite request).on r).2.usages =
      ((Call.cite request).uses r).foldl Usages.record r.usages := by
  rw [cite_on, Call.uses, entryGiven?]
  cases ((BiblioStore.lookup request r.defaultStatus).on r.biblio).1 with
  | error failure => rfl
  | ok found =>
    obtain ⟨entry, remark⟩ := found
    cases entry <;> rfl

theorem usages_findSection (r : Resolver) (spec id : String) (status : Option Status) :
    ((findSection spec id status).on r).2.usages =
      ((Call.findSection spec id status).uses r).foldl Usages.record r.usages := by
  simp only [Call.uses, findSection, onAnchors, on_bind, on_within, AnchorStore.headingsOf_on]
  cases r.anchors.headingsFor (Text.lowercase (Text.trim spec)) with
  | error failure => rfl
  | ok table =>
    simp only [on_get, on_ofExcept]
    cases table.find id (status.getD r.defaultStatus) <;> rfl

/-- A call adds its own uses to the usages. -/
theorem usages_after (r : Resolver) (c : Call) :
    (c.after r).usages = (c.uses r).foldl Usages.record r.usages := by
  cases c with
  | define d =>
    simp only [Call.after, define, on_bind, on_get]
    split <;> rfl
  | finish =>
    simp only [Call.after, finish]
    split <;> rfl
  | resolve request => exact usages_resolve r request
  | cite request => exact usages_cite r request
  | findSection spec id status => exact usages_findSection r spec id status

theorem usages_run (r : Resolver) (calls : List Call) :
    (run calls r).usages = (usesAlong r calls).foldl Usages.record r.usages := by
  induction calls generalizing r with
  | nil => rfl
  | cons c rest ih =>
    rw [usesAlong, List.foldl_append, ← usages_after]
    exact ih (c.after r)

/-- The uses of a link are those of the target that it is answered with, or none if it is answered
with the failure of its search. -/
theorem uses_resolve (r : Resolver) (request : LinkRequest) :
    (∀ link, ((resolve request).on r).1 = .ok link → (Call.resolve request).uses r =
      r.usesOfTarget (r.queryOf request) request.normative link.candidate) ∧
    (r.biblio.source.Candid → ∀ kind text stage,
      ((resolve request).on r).1 = .error (.notFound kind text stage) →
        (Call.resolve request).uses r = []) := by
  constructor
  · intro link answered
    rw [Call.uses, seek_of_resolve answered]
  · intro candid kind text stage failed
    rw [Call.uses]
    rcases resolve_seek r request with ⟨failure, s, -, -, sought⟩ | ⟨s, cs, same, ran, sought⟩
    · rw [sought]
    · obtain ⟨anchors, rfl⟩ := same
      rw [ran] at failed
      rcases conclude_cases _ request (r.queryOf request) cs with
        answered | ⟨failure, broken, unreadable⟩
      · rw [sought, ← answered, failed]
      · -- The entry could not be looked up, which a candid source does not report like this.
        rw [broken] at failed
        obtain rfl := Except.error.inj failed
        exact absurd (BiblioStore.failsWith_of_unreadable unreadable) candid.not_failsWith

theorem usesAlong_append (calls more : List Call) (r : Resolver) :
    usesAlong r (calls ++ more) = usesAlong r calls ++ usesAlong (run calls r) more := by
  induction calls generalizing r with
  | nil => rfl
  | cons c rest ih =>
    rw [List.cons_append, usesAlong, usesAlong, ih, List.append_assoc]
    rfl

theorem sums_run {r : Resolver} (unused : r.usages = {}) (calls : List Call) :
    (run calls r).usages.Sums (usesAlong r calls) := by
  rw [usages_run, unused]
  exact Usages.sums_empty.foldl (usesAlong r calls)

/-- The usages of a resolver that starts with none say what its calls used. Each spec is listed
once, in the order of first use, and is normative if some use of it is. The name of each entry is on
one of two lists and there once: on the normative one if some citation of it is normative, in the
order of the first of these, and otherwise on the informative one, in the order of the first
citation; in either case it is the entry of the first citation that is listed. What is listed as
normative stays so. -/
theorem usages_of_run {r : Resolver} (unused : r.usages = {}) (calls : List Call) :
    let u := (run calls r).usages
    let cs := Use.citations (usesAlong r calls)
    u.specs = Use.flagged (Use.specUses (usesAlong r calls)) ∧
    u.normativeEntries.map some =
      (Citation.normatives cs).map (fun c => Citation.firstNamed? cs c.name) ∧
    u.informativeEntries = (Citation.informatives cs).map Citation.entry ∧
    ((u.normativeEntries ++ u.informativeEntries).map fun e => Text.lowercase e.displayKey).Nodup ∧
    ∀ more, u.normativeEntries ⊆ (run (calls ++ more) r).usages.normativeEntries := by
  intro u cs
  have sums := sums_run unused calls
  refine ⟨sums.specs, sums.normativeEntries, sums.informativeEntries, ?_, fun more => ?_⟩
  · rw [sums.map_names]
    exact sums.nodup_names
  · have later := sums_run unused (calls ++ more)
    rw [usesAlong_append] at later
    exact sums.normativeEntries_subset later

/-- Nothing is used before the first call. -/
theorem usages_ofStores (anchors : AnchorStore) (biblio : BiblioStore) (config : Config)
    (metadata : Metadata) : (ofStores anchors biblio config metadata).usages = {} :=
  @holds_ofStores (fun r => r.usages = {}) _ _ _ _ rfl (fun _ _ unused => unused)
    (fun _ _ _ unused => unused) fun _ _ unused => unused

/-- A link to a property in a note, a citation, and a link to the property that counts. -/
def citingCalls : List Call :=
  [.finish, .resolve { kind := .propdesc, text := "flex", normative := false },
    .cite { key := "RFC2119" }, .resolve { kind := .propdesc, text := "flex" }]

/-- The spec that is linked to in a note first is normative in the end. -/
theorem usages_of_citing :
    let r := ofStores (.addAll { source := .ofFiles ∅ } [flexAnchor 2 "flex-2"])
      (.ofSource (.ofFiles ∅)) { version := 1, dataDir := "" } {}
    r.usages = {} ∧
    (run citingCalls r).usages.specs = [("flex-2", true)] ∧
    (run citingCalls r).usages.normativeEntries.map (Option.map BiblioEntry.key ∘ some) =
      [some "flex-2"] ∧
    (run citingCalls r).usages.informativeEntries.map BiblioEntry.key = ["rfc2119"] := by
  intro r
  have unused : r.usages = {} := usages_ofStores _ _ _ _
  obtain ⟨specs, normative, informative, -⟩ := usages_of_run unused citingCalls
  refine ⟨unused, ?_, ?_, ?_⟩
  · rw [specs]
    decide +kernel
  · rw [← List.map_map, normative]
    decide +kernel
  · rw [informative]
    decide +kernel

end SpecLink.Resolver
