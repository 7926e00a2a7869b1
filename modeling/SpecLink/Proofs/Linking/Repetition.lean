import SpecLink.Proofs.Biblio.History
import SpecLink.Proofs.Linking.Interruption
import SpecLink.Proofs.Linking.Requests
import SpecLink.Proofs.Resolver.History

/-!
# Passes over what a pass has linked

A pass leaves shards and headings behind, and marks on the links that failed. Neither helps a link
that failed: what it asks for is still not there when it is linked again by what any later lookups
have made of the resolver (`Targetless.again`). Main statement: `second_of_pass`, by which a second
pass over the same data changes nothing.
-/
namespace SpecLink.Resolver

open SpecLink.Action

/-- Every file of two sources can be read, and each shard holds only what belongs to it. -/
structure Orderly (anchors biblio : DataSource) : Prop where
  anchorsLoad : AnchorStore.ShardsLoad anchors
  anchorsSorted : AnchorStore.ShardsSorted anchors
  headingsLoad : ∀ spec, ∃ table, AnchorStore.readHeadings anchors spec = .ok table
  entriesLoad : BiblioStore.ShardsLoad biblio
  entriesSorted : BiblioStore.ShardsSorted biblio

theorem Orderly.not_unreadable {anchors biblio : DataSource} (orderly : Orderly anchors biblio)
    (failure : Failure) : ¬ Unreadable anchors biblio failure := by
  intro unreadable
  cases unreadable with
  | anchors shard => exact orderly.anchorsLoad.not_unreadable failure shard
  | entries shard => exact orderly.entriesLoad.not_unreadable failure shard
  | @headings spec failed =>
    obtain ⟨table, read⟩ := orderly.headingsLoad spec
    rw [read] at failed
    cases failed

theorem Turn.preserves {holds : Resolver → Prop} (stable : Stable holds) {r s : Resolver}
    {el result : Element} {count : LinkReport} (turn : Turn r el result count s) (h : holds r) :
    holds s := by
  cases turn with
  | stay => exact h
  | link _ ran => exact (stable.preserves_linkElement el).after h ran

/-- The second resolver answers for terms and sections like a base, and for entries like the first
one, of which it has seen the lookups. -/
structure Resumes (base r s : Resolver) : Prop where
  alike : Alike base s
  entries : BiblioStore.Follows r.biblio s.biblio

section Again

variable {base r s t : Resolver} {el result : Element} {els : List Element}
  {count report : LinkReport}
variable (orderly : Orderly base.anchors.source base.biblio.source)
include orderly

theorem stable_resumes : Stable (Resumes base r) := by
  intro s t change resumes
  refine ⟨Alike.stable orderly.anchorsSorted change resumes.alike, ?_⟩
  cases change with
  | begin | opened | readInto | noted => exact resumes.entries
  | lookup request =>
    have sorted : BiblioStore.ShardsSorted r.biblio.source :=
      (resumes.entries.source.symm.trans resumes.alike.biblio) ▸ orderly.entriesSorted
    exact BiblioStore.Follows.lookup sorted request s.defaultStatus s.biblio resumes.entries

/-- A citation without an entry has none for a resolver that has seen its lookup and more. -/
theorem cite_again (alike : Alike base r) {request : BiblioRequest}
    (strict : request.standIn = false)
    (missing : ((cite request).on r).1 = .ok none)
    (resumes : Resumes base ((cite request).on r).2 t) : ((cite request).on t).1 = .ok none := by
  have sameStatus : t.defaultStatus = r.defaultStatus :=
    resumes.alike.defaultStatus.trans alike.defaultStatus.symm
  have seen := resumes.entries
  rw [cite_on] at missing seen ⊢
  cases looked : (BiblioStore.lookup request r.defaultStatus).on r.biblio with
  | mk answer next =>
    rw [looked] at missing seen
    cases answer with
    | error failure => cases missing
    | ok found =>
      obtain ⟨entry, remark⟩ := found
      obtain rfl : entry = none := Except.ok.inj missing
      obtain ⟨remark, after, again⟩ := BiblioStore.lookup_again
        (alike.biblio ▸ orderly.entriesLoad) (alike.biblio ▸ orderly.entriesSorted) strict looked seen
      rw [sameStatus, again]
      rfl

/-- What an element asks for in vain is not there either for a resolver that has seen more. -/
theorem Targetless.again (alike : Alike base r) (targetless : Targetless r el)
    (strict : el.attr? "data-okay-to-fail" = none)
    (resumes : Resumes base ((linkElement el).on r).2 t) : Targetless t el where
  entry asked request asks := by
    have noStandIn : request.standIn = false := by
      rw [Element.standIn_of_citation? asks, strict]
      rfl
    rw [linkElement_on, draft_of_entry asked, linkEntry_on asks] at resumes
    exact cite_again orderly alike noStandIn (targetless.entry asked request asks) resumes
  «section» asked request asks := by
    rw [resumes.alike.findSection_eq, ← alike.findSection_eq]
    exact targetless.section asked request asks
  term notEntry notSection request asks := by
    rw [resumes.alike.resolve_eq orderly.anchorsSorted orderly.anchorsLoad orderly.entriesLoad,
      ← alike.resolve_eq orderly.anchorsSorted orderly.anchorsLoad orderly.entriesLoad]
    exact targetless.term notEntry notSection request asks

/-- What an element has become stays as it is when a resolver that has seen its turn comes to it
again, and only a failed link counts. -/
theorem Turn.again {seen : Resolver} (turn : Turn r el result count s) (alike : Alike base r)
    (strict : el.attr? "data-okay-to-fail" = none)
    (behind : BiblioStore.Follows s.biblio seen.biblio) (resumes : Resumes base seen t) :
    ∃ after, Turn t result result { failed := count.failed } after ∧ Resumes base seen after := by
  cases turn with
  | stay linked => exact ⟨t, .stay linked, resumes⟩
  | @link _ outcome _ unlinked ran =>
    have frame := (exit_of_linkElement ran).frame rfl
    cases outcome with
    | failed =>
      obtain ⟨rfl, targetless⟩ := linkElement_failed_iff.1 (congrArg Prod.fst ran)
      have still : Targetless t el.markFailed := (targetless.again orderly alike strict
        ⟨resumes.alike, by rw [ran]; exact behind.trans resumes.entries⟩).markFailed
      have failed := linkElement_failed_iff.2 ⟨rfl, still⟩
      rw [Element.markFailed_markFailed] at failed
      exact ⟨_, .link (el.isLinked_markFailed.trans unlinked) (Prod.ext failed rfl),
        Stable.preserves_linkElement (stable_resumes orderly) _ t resumes⟩
    | term => exact ⟨t, .stay (frame.resolved nofun).1, resumes⟩
    | entry => exact ⟨t, .stay (frame.resolved nofun).1, resumes⟩
    | «section» => exact ⟨t, .stay (frame.resolved nofun).1, resumes⟩

/-- A pass over what a pass has linked, by a resolver that has seen the first one, comes to its end
and leaves every element as it is. -/
theorem linkElements_again (alike : Alike base r)
    (strict : ∀ el ∈ els, el.attr? "data-okay-to-fail" = none)
    (ended : (linkElements els r).1.outcome = .ok report)
    (resumes : Resumes base (linkElements els r).2 t) :
    (linkElements (linkElements els r).1.elements t).1 =
      ⟨(linkElements els r).1.elements, .ok { failed := report.failed }⟩ := by
  induction els generalizing r t report with
  | nil =>
    obtain rfl : {} = report := Except.ok.inj ended
    rfl
  | cons el rest ih =>
    obtain ⟨result, count, s, others, turn, later, rfl⟩ := exists_turn_of_ended ended
    rw [turn.linkElements_cons] at resumes ⊢
    have alikeAfter : Alike base s := turn.preserves (Alike.stable orderly.anchorsSorted) alike
    -- The rest of the first pass has seen this turn, and the second pass has seen all of it.
    have seen : Resumes base s (linkElements rest s).2 :=
      Stable.linkElements (stable_resumes orderly) rest ⟨alikeAfter, .refl _⟩
    obtain ⟨after, second, resumes⟩ :=
      turn.again orderly alike (strict el List.mem_cons_self) seen.entries resumes
    have strictRest := fun other member => strict other (List.mem_cons_of_mem el member)
    rw [LinkPass.after, second.linkElements_cons, ih alikeAfter strictRest later resumes]
    simp [LinkPass.after, LinkReport.add, Except.map]

end Again

variable {metadata : Metadata} {r : Resolver} {els : List Element}

/-- If every file can be read and each shard holds only what belongs to it, and no link puts up with
failure, then a pass comes to its end, and a second pass over its elements by the same resolver
comes to its end too, leaves every element as it is, resolves nothing and fails as often. -/
theorem second_of_pass (reached : Reachable metadata r) (begun : r.phase ≠ .collecting)
    (orderly : Orderly r.anchors.source r.biblio.source)
    (strict : ∀ el ∈ els, el.attr? "data-okay-to-fail" = none) :
    let first := linkElements els r
    let second := linkElements first.1.elements first.2
    ∃ report, first.1.outcome = .ok report ∧ second.1.elements = first.1.elements ∧
      second.1.outcome = .ok { failed := report.failed } := by
  intro first second
  have alike : Alike r r := .refl reached begun
  have ended : ∃ report, first.1.outcome = .ok report := by
    cases outcome : first.1.outcome with
    | ok report => exact ⟨report, rfl⟩
    | error failure =>
      have broken := unreadable_of_failed (reached.links begun) outcome
      exact absurd broken (orderly.not_unreadable failure)
  obtain ⟨report, ended⟩ := ended
  have resumes : Resumes r first.2 first.2 :=
    ⟨Stable.linkElements (Alike.stable orderly.anchorsSorted) els alike, .refl _⟩
  have again : second.1 = ⟨first.1.elements, .ok { failed := report.failed }⟩ :=
    linkElements_again orderly alike strict ended resumes
  exact ⟨report, ended, by rw [again], by rw [again]⟩

theorem orderly_sample : Orderly (sample shelf).anchors.source (sample shelf).biblio.source where
  anchorsLoad := anchorsLoad_sample
  anchorsSorted := sorted_sample
  headingsLoad spec := by
    -- The only file on the shelf is a shard of anchors.
    have other : AnchorStore.headingsPath spec ≠ AnchorStore.shardPath "bo" := by
      intro same
      have start : ("headings/headings-" ++ spec ++ ".json").toList.head? = some 'h' := by
        rw [String.toList_append, String.toList_append]
        rfl
      exact absurd (start.symm.trans (congrArg (·.toList.head?) same)) (by decide)
    have missing : (sample shelf).anchors.source.fetch (AnchorStore.headingsPath spec) = .ok none :=
      congrArg Except.ok (if_neg other)
    refine ⟨{ spec }, ?_⟩
    rw [AnchorStore.readHeadings, missing]
    rfl
  entriesLoad := entriesLoad_sample
  entriesSorted key entries read e member := by
    obtain rfl : [] = entries := Except.ok.inj read
    exact absurd member List.not_mem_nil

/-- A link of each kind that fails, and one that resolves. -/
def mixedLinks : List Element :=
  [{ tag := "a", text := "boxes" },
    { tag := "a", attributes := .ofList [("data-link-type", "biblio")], text := "[[gone-2]]" },
    { tag := "a", attributes := .ofList [("data-link-spec", "flex"), ("data-link-type", "section")],
      text := "intro" },
    { tag := "a", attributes := .ofList [("data-link-type", "propdesc")], text := "flex" }]

/-- The three links that fail in a pass fail in the next one, and the fourth keeps its target. -/
theorem second_of_mixed :
    let first := linkElements mixedLinks (sample shelf)
    let second := linkElements first.1.elements first.2
    first.1.outcome = .ok { resolved := 1, failed := 3 } ∧
    second.1.elements = first.1.elements ∧ second.1.outcome = .ok { failed := 3 } := by
  have ended : (linkElements mixedLinks (sample shelf)).1.outcome =
      .ok { resolved := 1, failed := 3 } := by decide +kernel
  have strict : ∀ el ∈ mixedLinks, el.attr? "data-okay-to-fail" = none := by decide +kernel
  obtain ⟨report, outcome, elements, again⟩ :=
    second_of_pass (reachable_sample shelf) begun_sample orderly_sample strict
  rw [ended] at outcome
  obtain rfl := Except.ok.inj outcome
  exact ⟨ended, elements, again⟩

end SpecLink.Resolver
