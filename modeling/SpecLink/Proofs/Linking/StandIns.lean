import SpecLink.Proofs.Biblio.Answers
import SpecLink.Proofs.Biblio.Numbered
import SpecLink.Proofs.Linking.Requests
import SpecLink.Proofs.Resolver.Failures

/-!
# Stand-ins

A lookup that asks for a stand-in gets an entry, with one exception: a key that leads to an obsolete
entry whose successor is not there gets nothing. So the spec of every link is among the references,
and every tolerant citation has its entry, as long as the lookup does not end like that. Main
statement: `delivered_of_standIn`.
-/
namespace SpecLink

namespace BiblioStore

/-- The key leads to an obsolete entry that the request does not want as it is, and there is no entry
under the key of the successor. -/
def Stranded (store : BiblioStore) (request : BiblioRequest) : Prop :=
  request.allowObsolete = false ∧ ∃ obsolete next mid,
    (findKey request.lookupKey).on store = (.ok (.found obsolete), mid) ∧
    obsolete.supersededBy = some next ∧ ((findDirect next).on mid).1 = .ok none

section Lookup

open SpecLink.Action

variable {store after : BiblioStore} {key : String} {answer : BiblioAnswer}

/-- A lookup misses a successor exactly if its key is stranded. -/
theorem find_noSuccessor_iff {request : BiblioRequest}
    (ran : (find request.lookupKey request.allowObsolete).on store = (.ok answer, after)) :
    (∃ obsolete next, answer = .noSuccessor obsolete next) ↔ store.Stranded request := by
  rcases find_cases ran with ⟨e, mid, found, wanted, followed⟩ | ⟨found, taken⟩
  · rcases follow_cases followed with
      ⟨single, rfl⟩ | ⟨next, superseded, ⟨successor, looked, rfl⟩ | ⟨looked, rfl⟩⟩
    · simp [Stranded, found, single]
    · simp [Stranded, found, superseded, looked]
    · simp [Stranded, found, wanted, superseded, looked]
  · rcases findKey_cases found with ⟨e, rfl⟩ | ⟨versions, rfl⟩ | rfl
    · have whole : request.allowObsolete = true := taken.resolve_right (Option.some_ne_none e)
      simp [Stranded, whole]
    · simp [Stranded, found]
    · simp [Stranded, found]

theorem deliver_eq_none_iff {request : BiblioRequest} (standIn : request.standIn = true)
    (status : Status) : store.deliver request status answer = none ↔
      ∃ obsolete next, answer = .noSuccessor obsolete next := by
  cases answer <;> simp [deliver, standIn]

/-- A request for a stand-in is answered without an entry exactly if its key is stranded. -/
theorem lookup_of_standIn (loads : ShardsLoad store.source) {request : BiblioRequest}
    (standIn : request.standIn = true) (status : Status) : ∃ entry remark,
      ((lookup request status).on store).1 = .ok (entry, remark) ∧
      (entry = none ↔ store.Stranded request) := by
  obtain ⟨⟨entry, remark⟩, answered⟩ := lookup_answers loads request status
  refine ⟨entry, remark, answered, ?_⟩
  obtain ⟨answer, mid, found, rest⟩ := on_bind_ok_iff.1 (Prod.ext answered rfl)
  obtain rfl := congrArg Prod.fst (on_pure_ok_iff.1 rest).1
  exact (deliver_eq_none_iff standIn _).trans (find_noSuccessor_iff found)

end Lookup

end BiblioStore

namespace Resolver

open SpecLink.Action

variable {r s : Resolver}

theorem cite_of_standIn (loads : BiblioStore.ShardsLoad r.biblio.source) {request : BiblioRequest}
    (standIn : request.standIn = true) : ∃ entry,
      ((cite request).on r).1 = .ok entry ∧ (entry = none ↔ r.biblio.Stranded request) := by
  obtain ⟨entry, remark, answered, stranded⟩ :=
    r.biblio.lookup_of_standIn loads standIn r.defaultStatus
  refine ⟨entry, ?_, stranded⟩
  rw [cite_on, answered]
  rfl

/-- An entry is listed, or the one that was cited under its name before. -/
def Lists (u : Usages) (e : BiblioEntry) : Prop :=
  ∃ listed ∈ u.normativeEntries ++ u.informativeEntries,
    Text.lowercase listed.displayKey = Text.lowercase e.displayKey

/-- The entry of a target's spec is listed once the link is resolved. -/
theorem lists_of_resolve {uses : List Use} (sums : r.usages.Sums uses) {request : LinkRequest}
    {link : ResolvedLink} (resolved : (resolve request).on r = (.ok link, s)) {specId : String}
    (outside : link.candidate.specId? = some specId) {e : BiblioEntry}
    (given : r.entryGiven? (targetRequest (r.queryOf request) specId) = some e) :
    Lists s.usages e := by
  have answered : ((resolve request).on r).1 = .ok link := congrArg Prod.fst resolved
  have cited : Use.citation ⟨e, request.normative && link.candidate.normative⟩ ∈
      (Call.resolve request).uses r := by
    rw [(uses_resolve r request).1 link answered, usesOfTarget]
    cases origin : link.candidate.origin with
    | document => simp [Candidate.specId?, origin] at outside
    | external id shortname level urls =>
      obtain rfl : id = specId := by simpa [Candidate.specId?, origin] using outside
      rw [targetRequest] at given
      simp [given]
  -- The names of all citations are listed, of the last ones too.
  have noted := usages_resolve r request
  rw [resolved] at noted
  have later := sums.foldl ((Call.resolve request).uses r)
  rw [← noted] at later
  have named : Text.lowercase e.displayKey ∈ s.usages.normative ++ s.usages.informative :=
    later.mem_names_iff.2
      ⟨_, List.mem_filterMap.2 ⟨_, List.mem_append_right _ cited, rfl⟩, rfl⟩
  rw [← later.map_names] at named
  exact List.mem_map.1 named

/-- A tolerant citation leaves its element without an entry exactly if it is stranded. -/
theorem linkElement_of_tolerant (loads : BiblioStore.ShardsLoad r.biblio.source) {el : Element}
    (asked : el.attr? "data-link-type" = some "biblio")
    (tolerant : (el.attr? "data-okay-to-fail").isSome = true) : ∃ result outcome,
      ((linkElement el).on r).1 = .ok (result, outcome) ∧
      (outcome = .failed ↔
        ∀ request, el.citation? = some request → r.biblio.Stranded request) := by
  have cited (request : BiblioRequest) (asks : el.citation? = some request) : ∃ entry,
      ((cite request).on r).1 = .ok entry ∧ (entry = none ↔ r.biblio.Stranded request) :=
    cite_of_standIn loads ((Element.standIn_of_citation? asks).trans tolerant)
  have answers : ∃ answer, ((linkElement el).on r).1 = .ok answer := by
    rw [linkElement_on, draft_of_entry asked]
    cases asks : el.citation? with
    | none =>
      obtain ⟨text, refused⟩ := linkEntry_of_citation?_eq_none asks
      rw [refused]
      exact ⟨_, rfl⟩
    | some request =>
      obtain ⟨entry, given, -⟩ := cited request asks
      rw [linkEntry_on asks, given]
      exact ⟨_, rfl⟩
  obtain ⟨⟨result, outcome⟩, answered⟩ := answers
  refine ⟨result, outcome, answered, fun failed request asks => ?_, fun stranded => ?_⟩
  · subst failed
    obtain ⟨-, targetless⟩ := linkElement_failed_iff.1 answered
    obtain ⟨entry, given, none⟩ := cited request asks
    exact none.1 (Except.ok.inj (given.symm.trans (targetless.entry asked request asks)))
  · have targetless : Targetless r el := by
      refine ⟨fun _ request asks => ?_, fun other => ?_, fun other => absurd asked other⟩
      · obtain ⟨entry, given, none⟩ := cited request asks
        rw [given, none.2 (stranded request asks)]
      · simp [asked] at other
    have failed := linkElement_failed_iff.2 ⟨rfl, targetless⟩
    exact congrArg Prod.snd (Except.ok.inj (answered.symm.trans failed))

/-- If every shard of the bibliography can be read, a lookup that wants a stand-in gets an entry, the
spec of a resolved link is listed with the entry that it is cited by, and an element that says well
what it cites gets its entry if it is tolerant. In each case there is one exception, a key that is
stranded, and then there is no entry. -/
theorem delivered_of_standIn {source : DataSource} (loads : BiblioStore.ShardsLoad source) :
    (∀ store : BiblioStore, store.source = source → ∀ request status, request.standIn = true →
      ∃ entry remark, ((BiblioStore.lookup request status).on store).1 = .ok (entry, remark) ∧
        (entry = none ↔ store.Stranded request)) ∧
    ∀ r : Resolver, r.usages = {} → r.biblio.source = source → ∀ calls,
      let s := run calls r
      (∀ request link t specId, (resolve request).on s = (.ok link, t) →
        link.candidate.specId? = some specId →
        let citing := targetRequest (s.queryOf request) specId
        (∃ e, s.entryGiven? citing = some e ∧ Lists t.usages e) ∨ s.biblio.Stranded citing) ∧
      ∀ el : Element, el.attr? "data-link-type" = some "biblio" →
        (el.attr? "data-okay-to-fail").isSome = true →
        ∃ result outcome, ((linkElement el).on s).1 = .ok (result, outcome) ∧
          (outcome = .failed ↔
            ∀ request, el.citation? = some request → s.biblio.Stranded request) := by
  constructor
  · rintro store rfl request status standIn
    exact store.lookup_of_standIn loads standIn status
  · rintro r unused rfl calls s
    have reads : Reads r.anchors.source r.biblio.source s := Reads.run ⟨rfl, rfl⟩ calls
    have loads : BiblioStore.ShardsLoad s.biblio.source := reads.biblio ▸ loads
    refine ⟨?_, fun el asked tolerant => linkElement_of_tolerant loads asked tolerant⟩
    intro request link t specId resolved outside citing
    have standIn : citing.standIn = true := rfl
    obtain ⟨entry, remark, answered, none⟩ :=
      s.biblio.lookup_of_standIn loads standIn s.defaultStatus
    have given : s.entryGiven? citing = entry := by rw [entryGiven?, answered]
    cases entry with
    | none => exact .inr (none.1 rfl)
    | some e => exact .inl ⟨e, given, lists_of_resolve (sums_run unused calls) resolved outside given⟩

/-- A document over one property whose spec is not in the bibliography, which knows of an obsolete
entry without a successor. -/
def overOld : Resolver :=
  ofStores (.addAll { source := .ofFiles ∅ } [flexAnchor 2 "flex-2"])
    ((BiblioStore.ofSource (.ofFiles ∅)).addEntry
      { key := "old", title := "Old", supersededBy := some "new" })
    { version := 1, dataDir := "" } {}

/-- The link of an element to a bibliography entry that may be missing. -/
def tolerantLink (text : String) : Element :=
  { tag := "a", text, attributes := .ofList [("data-link-type", "biblio"), ("data-okay-to-fail", "")] }

/-- A spec without an entry is listed with a stand-in, and a tolerant citation gets one. -/
theorem delivered_of_overOld :
    let s := run [.finish] overOld
    let linked := (resolve { kind := .propdesc, text := "flex" }).on s
    linked.1.map (fun link => link.candidate.specId?) = .ok (some "flex-2") ∧
    Lists linked.2.usages { key := "flex-2", title := "flex-2", generated := true } ∧
    ∃ result outcome, ((linkElement (tolerantLink "gone")).on s).1 = .ok (result, outcome) ∧
      outcome ≠ .failed := by
  intro s linked
  have target : linked.1.map (fun link => link.candidate.specId?) = .ok (some "flex-2") := by
    decide +kernel
  obtain ⟨entries, resolvers⟩ := delivered_of_standIn BiblioStore.shardsLoad_ofFiles_empty
  obtain ⟨links, elements⟩ := resolvers overOld (usages_ofStores _ _ _ _) rfl [.finish]
  -- A request that is given an entry is not stranded.
  have found (request : BiblioRequest) (standIn : request.standIn = true)
      (given : (s.entryGiven? request).isSome = true) : ¬ s.biblio.Stranded request := by
    intro stranded
    obtain ⟨entry, remark, answered, none⟩ :=
      entries s.biblio rfl request s.defaultStatus standIn
    rw [entryGiven?, answered, none.2 stranded] at given
    cases given
  refine ⟨target, ?_, ?_⟩
  · cases answered : linked.1 with
    | error failure =>
      rw [answered] at target
      cases target
    | ok link =>
      rw [answered] at target
      have resolved : linked = (.ok link, linked.2) := Prod.ext answered rfl
      rcases links _ link linked.2 "flex-2" resolved (Except.ok.inj target) with
        ⟨e, given, lists⟩ | stranded
      · have own : s.entryGiven? (targetRequest (s.queryOf { kind := .propdesc, text := "flex" })
            "flex-2") = some { key := "flex-2", title := "flex-2", generated := true } := by
          decide +kernel
        rw [own] at given
        rwa [Option.some.inj given]
      · exact absurd stranded (found _ rfl (by decide +kernel))
  · obtain ⟨result, outcome, answered, failed⟩ := elements (tolerantLink "gone") rfl rfl
    refine ⟨result, outcome, answered, fun same => ?_⟩
    have asks : (tolerantLink "gone").citation? =
        some { key := "gone", standIn := true, quiet := true } := by decide +kernel
    exact found _ rfl (by decide +kernel) (failed.1 same _ asks)

/-- A stranded key gets nothing, though a stand-in is wanted, and a tolerant citation fails. -/
theorem stranded_of_overOld :
    let s := run [.finish] overOld
    BiblioStore.ShardsLoad s.biblio.source ∧
    ((BiblioStore.lookup { key := "old", standIn := true } .current).on s.biblio).1 =
      .ok (none, some ⟨.fatal, "[old] claims to be obsoleted by [new], which doesn't exist. " ++
        "Either change the reference, or use [old obsolete] to ignore the obsoletion chain.", none⟩) ∧
    ((linkElement (tolerantLink "old")).on s).1 =
      .ok ((tolerantLink "old").markFailed, .failed) := by
  intro s
  refine ⟨BiblioStore.shardsLoad_ofFiles_empty, by decide +kernel, by decide +kernel⟩

end Resolver

end SpecLink
