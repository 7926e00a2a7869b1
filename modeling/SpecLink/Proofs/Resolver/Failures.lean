import SpecLink.Proofs.Resolver.Usages

/-!
# What failed links leave behind

A link that fails is not used, and its target is not cited. But the spec of a target is noted before
its entry is looked up, and stays noted if the entry is out of reach. Main statement:
`usages_of_failed`.
-/
namespace SpecLink.Resolver

open SpecLink.Action

/-- The request by which a link cites the spec that it goes to. -/
def targetRequest (query : LinkQuery) (specId : String) : BiblioRequest :=
  { key := specId, status := some query.status, standIn := true, quiet := true }

/-- The target is in another spec, and looking up the entry of that spec fails. -/
def OutOfReach (r : Resolver) (query : LinkQuery) (target : Candidate) (failure : Failure)
    (specId : String) : Prop :=
  (∃ shortname level urls, target.origin = .external specId shortname level urls) ∧
    ((BiblioStore.lookup (targetRequest query specId) r.defaultStatus).on r.biblio).1 =
      .error failure

variable {r s : Resolver} {query : LinkQuery} {failure : Failure}

theorem recordTarget_failed {normative : Bool} {target : Candidate}
    (failed : (recordTarget query normative target).on r = (.error failure, s)) :
    ∃ specId, r.OutOfReach query target failure specId := by
  rw [recordTarget] at failed
  cases origin : target.origin with
  | document id line =>
    rw [origin] at failed
    cases (Prod.mk.inj failed).1
  | external specId shortname level urls =>
    refine ⟨specId, ⟨shortname, level, urls, origin⟩, ?_⟩
    rw [origin] at failed
    -- Nothing but the lookup can fail.
    rcases on_bind_error_iff.1 failed with noted | ⟨_, t, noted, failed⟩
    · cases (Prod.mk.inj noted).1
    obtain rfl := (Prod.mk.inj noted).2
    rcases on_bind_error_iff.1 failed with missed | ⟨entry, _, -, cited⟩
    · rw [lookUpBiblio_on] at missed
      exact (map_error_iff _ _ _).1 (Prod.mk.inj missed).1
    · cases entry <;> cases (Prod.mk.inj cited).1

theorem conclude_failed {request : LinkRequest} {cs : List Candidate}
    (failed : (conclude request query cs).on r = (.error failure, s)) :
    r.verdict query cs = .error failure ∨ ∃ link specId, r.verdict query cs = .ok link ∧
      r.OutOfReach query link.candidate failure specId := by
  rw [conclude, on_bind, on_get] at failed
  simp only at failed
  rw [verdict]
  cases selected : Selection.select r.policy query cs with
  | error stage =>
    rw [selected] at failed
    exact .inl (Prod.mk.inj failed).1
  | ok choice =>
    rw [selected] at failed
    refine .inr ⟨choice.link, ?_⟩
    rcases on_bind_error_iff.1 failed with noted | ⟨_, t, noted, failed⟩
    · cases (Prod.mk.inj noted).1
    obtain rfl := (Prod.mk.inj noted).2
    rcases on_bind_error_iff.1 failed with recorded | ⟨_, _, -, answered⟩
    · obtain ⟨specId, outside, broken⟩ := recordTarget_failed recorded
      -- The report of the choice does not matter to the lookup.
      obtain ⟨messages, same⟩ := reportChoice_eq request choice r
      rw [same] at broken
      exact ⟨specId, rfl, outside, broken⟩
    · cases (Prod.mk.inj answered).1

/-- A link fails in its search, or its target is known and the entry of the target's spec is out of
reach. -/
theorem resolve_failed_cases {request : LinkRequest}
    (failed : (resolve request).on r = (.error failure, s)) :
    ((seek request).on r).1 = .error failure ∨ ∃ link specId,
      ((seek request).on r).1 = .ok link ∧
      r.OutOfReach (r.queryOf request) link.candidate failure specId := by
  rcases resolve_seek r request with ⟨fault, t, ran, -, sought⟩ | ⟨t, cs, same, ran, sought⟩
  · rw [ran] at failed
    exact .inl (by rw [sought, (Prod.mk.inj failed).1])
  · obtain ⟨anchors, rfl⟩ := same
    rw [ran] at failed
    rw [sought]
    exact conclude_failed failed

/-- A link that fails leaves the references as they were, and the specs too, unless its search ended
with a target in another spec whose entry cannot be looked up: then that spec is noted, and nothing
else. If every shard of the bibliography can be read, a link that fails leaves no trace. -/
theorem usages_of_failed {request : LinkRequest}
    (failed : (resolve request).on r = (.error failure, s)) :
    s.usages.normativeEntries = r.usages.normativeEntries ∧
    s.usages.informativeEntries = r.usages.informativeEntries ∧
    (((seek request).on r).1 = .error failure ∧ s.usages = r.usages ∨
      ∃ link specId, ((seek request).on r).1 = .ok link ∧
        r.OutOfReach (r.queryOf request) link.candidate failure specId ∧
        BiblioStore.Unreadable r.biblio.source failure ∧
        s.usages =
          r.usages.recordSpec specId (request.normative && link.candidate.normative)) ∧
    (BiblioStore.ShardsLoad r.biblio.source → s.usages = r.usages) := by
  have noted := usages_resolve r request
  rw [failed, Call.uses] at noted
  simp only at noted
  rcases resolve_failed_cases failed with sought | ⟨link, specId, sought, out⟩
  · rw [sought] at noted
    have kept : s.usages = r.usages := noted
    exact ⟨by rw [kept], by rw [kept], .inl ⟨sought, kept⟩, fun _ => kept⟩
  · obtain ⟨⟨shortname, level, urls, origin⟩, broken⟩ := out
    have unreadable : BiblioStore.Unreadable r.biblio.source failure :=
      (BiblioStore.failsOnly_lookup _ r.defaultStatus r.biblio rfl).1 failure broken
    have recorded : s.usages =
        r.usages.recordSpec specId (request.normative && link.candidate.normative) := by
      rw [targetRequest] at broken
      simp only [sought, usesOfTarget, origin, entryGiven?, broken] at noted
      exact noted
    refine ⟨by rw [recorded]; rfl, by rw [recorded]; rfl, .inr ?_, fun loads => ?_⟩
    · exact ⟨link, specId, sought, ⟨⟨shortname, level, urls, origin⟩, broken⟩, unreadable, recorded⟩
    · exact absurd unreadable (loads.not_unreadable failure)

/-- The resolver of a document over one property, with the given shard for the property's spec. -/
def overFlex (shard : String) : Resolver :=
  (ofStores (.addAll { source := .ofFiles ∅ } [flexAnchor 2 "flex-2"])
    (.ofSource (.ofFiles (.ofList [(BiblioStore.shardPath "fl", shard)])))
    { version := 1, dataDir := "" } {}).finish

/-- A link without a target changes nothing about a spec and an entry that are used. -/
theorem usages_of_gone :
    let r := run [.resolve { kind := .propdesc, text := "flex" }]
      (overFlex "%L flex-2\n%T Flexible boxes")
    let missed := (resolve { kind := .propdesc, text := "gone" }).on r
    missed.1 = .error (.notFound .propdesc "gone" .text) ∧
    missed.2.usages.specs = [("flex-2", true)] ∧
    missed.2.usages.normativeEntries.map BiblioEntry.title = ["Flexible boxes"] := by
  intro r missed
  have failed : missed.1 = .error (.notFound .propdesc "gone" .text) := by decide +kernel
  obtain ⟨references, -, spared, -⟩ := usages_of_failed (Prod.ext failed rfl)
  rcases spared with ⟨-, kept⟩ | ⟨link, specId, sought, -⟩
  · refine ⟨failed, ?_, ?_⟩
    · rw [kept]
      decide +kernel
    · rw [references]
      decide +kernel
  · have none : ((seek { kind := .propdesc, text := "gone" }).on r).1 =
        .error (.notFound .propdesc "gone" .text) := by decide +kernel
    rw [none] at sought
    cases sought

/-- The spec of a target whose entry is in a malformed shard is noted, though the link fails. -/
theorem trace_of_failed :
    let r := overFlex "flex"
    let missed := (resolve { kind := .propdesc, text := "flex" }).on r
    missed.1 = .error (.parse (.referLine "flex") (BiblioStore.shardPath "fl") (some 1)) ∧
    r.usages.specs = [] ∧ missed.2.usages.specs = [("flex-2", true)] := by
  refine ⟨by decide +kernel, by decide +kernel, by decide +kernel⟩

end SpecLink.Resolver
