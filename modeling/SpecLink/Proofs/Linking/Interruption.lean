import SpecLink.Proofs.Linking.Frame
import SpecLink.Proofs.Linking.Reports

/-!
# Passes that break off

A pass comes to its end unless it meets data that cannot be read (`Unreadable`), and malformed data
that a link asks for first always ends it (`Stumbles`). Main statement: `ending_of_pass`.
-/
namespace SpecLink

theorem HeadingTable.noSection_of_find {table : HeadingTable} {id : String} {status : Status}
    {failure : Failure} (failed : table.find id status = .error failure) : failure.NoSection := by
  have missing (found : Option Heading)
      (failed : found.elim (Except.error (.unknownSection table.spec (keyOf id))) Except.ok =
        .error failure) : failure.NoSection := by
    cases found with
    | some heading => cases failed
    | none => exact Except.error.inj failed ▸ .unknown _ _
  rw [find] at failed
  split at failed
  next => exact missing _ failed
  next => exact Except.error.inj failed ▸ .ambiguous _ _ _
  next => exact missing _ failed

namespace Resolver

open SpecLink.Action

/-- The failure comes of data that cannot be read: a shard of anchors, the headings of a spec or a
shard of the bibliography. -/
inductive Unreadable (anchors biblio : DataSource) (failure : Failure) : Prop
  | anchors (shard : AnchorStore.Unreadable anchors failure)
  | headings {spec : String} (failed : AnchorStore.readHeadings anchors spec = .error failure)
  | entries (shard : BiblioStore.Unreadable biblio failure)

variable {anchors biblio : DataSource} {r : Resolver} {el : Element}

theorem Unreadable.failsWith {failure : Failure} (unreadable : Unreadable anchors biblio failure) :
    anchors.FailsWith failure ∨ biblio.FailsWith failure := by
  cases unreadable with
  | anchors shard => exact .inl (AnchorStore.failsWith_of_unreadable shard)
  | headings failed => exact .inl (AnchorStore.failsWith_of_readHeadings failed)
  | entries shard => exact .inr (BiblioStore.failsWith_of_unreadable shard)

theorem failsOnly_cite (request : BiblioRequest) :
    FailsOnly (CitesFrom biblio) (BiblioStore.Unreadable biblio) (cite request) := by
  refine failsOnly_bind (failsOnly_lookUpBiblio request) fun entry => ?_
  cases entry with
  | none => exact failsOnly_pure _
  | some e => exact failsOnly_bind (failsOnly_noting fun _ => rfl) fun _ => failsOnly_pure _

theorem readHeadings_of_findSection {spec id : String} {status : Option Status} {failure : Failure}
    {s : Resolver} (ran : (findSection spec id status).on r = (.error failure, s))
    (broken : ¬ failure.NoSection) :
    ∃ name, AnchorStore.readHeadings r.anchors.source name = .error failure := by
  have failed := congrArg Prod.fst ran
  simp only [findSection, onAnchors, on_bind, on_within, AnchorStore.headingsOf_on] at failed
  cases read : r.anchors.headingsFor (Text.lowercase (Text.trim spec)) with
  | error other =>
    rw [read] at failed
    obtain rfl : other = failure := Except.error.inj failed
    -- What is in the cache was read, so the failure comes of the file.
    rw [AnchorStore.headingsFor] at read
    split at read
    next => cases read
    next => exact ⟨_, read⟩
  | ok table =>
    simp only [read, on_get, on_ofExcept] at failed
    split at failed
    next => cases failed
    next other t missing =>
      obtain rfl : other = failure := Except.error.inj failed
      exact absurd (HeadingTable.noSection_of_find (congrArg Prod.fst missing)) broken

/-- Linking an element fails only by data that cannot be read. -/
theorem Exit.unreadable {answer : Except Failure (Element × LinkOutcome)} {s : Resolver}
    (exit : Exit r el answer s) {failure : Failure} (failed : answer = .error failure)
    (links : Links anchors biblio r) : Unreadable anchors biblio failure := by
  cases exit with
  | refused | term | noTerm | entry | noEntry | «section» | noSection => cases failed
  | @termBroken request _ _ ran broken =>
    obtain rfl := Except.error.inj failed
    -- The outcome of a search is a link or that there is none, and both are other exits.
    rcases resolve_cases links.begun links.closed request with same | ⟨other, answered, unreadable⟩
    · rw [ran] at same
      obtain ⟨kind, text, stage, notFound⟩ := notFound_of_outcome same.symm
      exact absurd notFound (broken kind text stage)
    · rw [ran] at answered
      obtain rfl := Except.error.inj answered
      rcases unreadable with shard | shard
      · exact .anchors (links.reads.anchors ▸ shard)
      · exact .entries (links.reads.biblio ▸ shard)
  | @entryBroken request _ _ ran =>
    obtain rfl := Except.error.inj failed
    exact .entries ((failsOnly_cite request r links.reads.biblio).1 _ (congrArg Prod.fst ran))
  | sectionBroken ran broken =>
    obtain rfl := Except.error.inj failed
    obtain ⟨name, failed⟩ := readHeadings_of_findSection ran broken
    exact .headings (links.reads.anchors ▸ failed)

/-- The data that a link asks for first is there and malformed. -/
inductive Stumbles (r : Resolver) (el : Element) : Failure → Prop
  | term {request : LinkRequest} {fault : ParseFault} {file : String} {line : Option Nat}
    (notEntry : el.attr? "data-link-type" ≠ some "biblio")
    (notSection : el.attr? "data-link-type" ≠ some "section")
    (made : el.linkRequest = .ok request)
    (ordinary : (r.queryOf request).isCustomProperty = false)
    (shard : r.anchors.opening (r.queryOf request).text = .error (.parse fault file line)) :
    Stumbles r el (.parse fault file line)
  | entry {status : Option Status} {fault : ParseFault} {file : String} {line : Option Nat}
    (asked : el.attr? "data-link-type" = some "biblio")
    (sort : el.attr? "data-biblio-type" = none ∨ el.attr? "data-biblio-type" = some "normative" ∨
      el.attr? "data-biblio-type" = some "informative")
    (read : el.readAttr "data-biblio-status" Status.read = .ok status)
    (unloaded : r.biblio.loaded.contains
      (LinkText.shardName (Text.lowercase (Text.trim (citedKey el.linkText)))) = false)
    (shard : BiblioStore.readShard r.biblio.source
      (LinkText.shardName (Text.lowercase (Text.trim (citedKey el.linkText)))) =
        .error (.parse fault file line)) : Stumbles r el (.parse fault file line)
  | «section» {spec : String} {status : Option Status} {fault : ParseFault} {file : String}
    {line : Option Nat} (asked : el.attr? "data-link-type" = some "section")
    (given : el.attr? "data-link-spec" = some spec)
    (read : el.readAttr "data-link-status" Status.read = .ok status)
    (headings : r.anchors.headingsFor (Text.lowercase (Text.trim spec)) =
      .error (.parse fault file line)) : Stumbles r el (.parse fault file line)

theorem resolve_failed (links : Links anchors biblio r) {request : LinkRequest} {failure : Failure}
    (ordinary : (r.queryOf request).isCustomProperty = false)
    (shard : r.anchors.opening (r.queryOf request).text = .error failure) :
    ((resolve request).on r).1 = .error failure := by
  have normal : LinkText.normalize (r.queryOf request).text = (r.queryOf request).text := by
    rw [queryOf, LinkQuery.text_ofRequest, LinkText.normalize_normalize]
  obtain ⟨others, texts, -⟩ := LinkQuery.texts_eq_cons normal
  have closed : ({ r with phase := .resolving } : Resolver).definitions.isSealed = true := links.closed
  -- The search begins with the literal text, whose shard does not open.
  have gathered : ((gather (r.queryOf request).kind (r.queryOf request).texts).on
      { r with phase := .resolving }).1 = .error failure := by
    rw [texts, gather]
    refine bind_failed ?_ _
    rw [candidatesFor_on closed, normal, shard]
    rfl
  cases ran : (gather (r.queryOf request).kind (r.queryOf request).texts).on
      { r with phase := .resolving } with
  | mk answer s =>
    rw [ran] at gathered
    obtain rfl : answer = .error failure := gathered
    simp only [resolve_eq, on_bind, beginResolving_on links.begun, on_get, queryOf_begun, ordinary,
      Bool.false_eq_true, if_false, ran]

theorem cite_failed {request : BiblioRequest} {key : String} (asked : request.lookupKey = key)
    {failure : Failure} (unloaded : r.biblio.loaded.contains (LinkText.shardName key) = false)
    (shard : BiblioStore.readShard r.biblio.source (LinkText.shardName key) = .error failure) :
    ((cite request).on r).1 = .error failure := by
  subst asked
  have looked : ((lookUpBiblio request).on r).1 = .error failure := by
    rw [lookUpBiblio_on, BiblioStore.lookup_failed unloaded shard]
    rfl
  exact bind_failed looked _

theorem failed_of_stumbles (links : Links anchors biblio r) {failure : Failure}
    (stumbles : Stumbles r el failure) : ((linkElement el).on r).1 = .error failure := by
  have drafted : ((draft el).on r).1 = .error failure := by
    cases stumbles with
    | term notEntry notSection made ordinary shard =>
      rw [draft_of_term notEntry notSection]
      simp only [linkTerm, made, on_bind, on_attempt, resolve_failed links ordinary shard]
      rfl
    | @entry status fault file line asked sort read unloaded shard =>
      have cited (normative : Bool) :
          ((linkEntryAs el normative).on r).1 = .error (.parse fault file line) := by
        rw [linkEntryAs, read]
        refine bind_failed (cite_failed ?_ unloaded shard) _
        rfl
      rw [draft_of_entry asked, linkEntry]
      rcases sort with none | normative | informative
      · simp only [none, cited]
      · simp only [normative, cited]
      · simp only [informative, cited]
    | «section» asked given read headings =>
      rw [draft_of_section asked]
      simp only [linkSection, given, read, on_bind, on_attempt, findSection, onAnchors, on_within,
        AnchorStore.headingsOf_on, headings]
      rfl
  rw [linkElement_on, drafted]
  rfl

variable {metadata : Metadata} {els : List Element}

/-- After a pass that comes to its end, every element has a target or the mark of a failed link. -/
theorem settled_of_ended {report : LinkReport}
    (ended : (linkElements els r).1.outcome = .ok report) :
    ∀ result ∈ (linkElements els r).1.elements,
      result.isLinked = true ∨ result.attr? "data-link-failed" = some "" := by
  induction els generalizing r report with
  | nil => exact fun _ member => absurd member List.not_mem_nil
  | cons el rest ih =>
    -- The first element has its turn, and the rest is a pass of the resolver that it leaves.
    obtain ⟨result, count, s, others, turn, later, -⟩ := exists_turn_of_ended ended
    rw [turn.linkElements_cons]
    intro other member
    rcases List.mem_cons.1 member with rfl | member
    · cases linked : el.isLinked with
      | true =>
        cases turn with
        | stay => exact .inl linked
        | link unlinked => simp [linked] at unlinked
      | false =>
        obtain ⟨outcome, -, -, frame⟩ := turn.frame linked
        by_cases failed : outcome = .failed
        · rw [frame.failed failed]
          exact .inr (by simp)
        · exact .inl (frame.resolved failed).1
    · exact ih later other member

theorem unreadable_of_failed (links : Links anchors biblio r) {failure : Failure}
    (failed : (linkElements els r).1.outcome = .error failure) :
    Unreadable anchors biblio failure := by
  obtain ⟨first, el, rest, rfl, -, -, broken, -⟩ := exists_of_failed failed
  have met : Links anchors biblio (linkElements first r).2 :=
    Stable.linkElements stable_links first links
  exact (exit_of_linkElement (Prod.ext broken rfl)).unreadable rfl met

/-- Whatever data there is, a pass either comes to its end, with a target or a mark on every element,
or it breaks off at an element without a target, which stays as it is with all behind it, and then
data could not be read; a fault of phases never ends it. If all data can be read, it comes to its end.
If the data that an element asks for first is malformed, it does not come past that element. -/
theorem ending_of_pass (reached : Reachable metadata r) (begun : r.phase ≠ .collecting)
    (els : List Element) :
    let pass := (linkElements els r).1
    ((∃ report, pass.outcome = .ok report ∧ ∀ result ∈ pass.elements,
        result.isLinked = true ∨ result.attr? "data-link-failed" = some "") ∨
      ∃ failure first el rest, pass.outcome = .error failure ∧
        Unreadable r.anchors.source r.biblio.source failure ∧
        els = first ++ el :: rest ∧ el.isLinked = false ∧
        (∃ report, (linkElements first r).1.outcome = .ok report) ∧
        pass.elements = (linkElements first r).1.elements ++ el :: rest) ∧
    (r.anchors.source.Timely → r.biblio.source.Timely →
      ∀ fault, pass.outcome ≠ .error (.phase fault)) ∧
    (AnchorStore.ShardsLoad r.anchors.source →
      (∀ spec, ∃ table, AnchorStore.readHeadings r.anchors.source spec = .ok table) →
      BiblioStore.ShardsLoad r.biblio.source → ∃ report, pass.outcome = .ok report) ∧
    ∀ first el rest report failure, els = first ++ el :: rest → el.isLinked = false →
      (linkElements first r).1.outcome = .ok report →
      Stumbles (linkElements first r).2 el failure → pass.outcome = .error failure := by
  intro pass
  have links := reached.links begun
  refine ⟨?_, fun anchorsTimely entriesTimely fault failed => ?_,
    fun anchorsLoad headingsLoad entriesLoad => ?_, ?_⟩
  · cases outcome : pass.outcome with
    | ok report => exact .inl ⟨report, rfl, settled_of_ended outcome⟩
    | error failure =>
      obtain ⟨first, el, rest, split, unlinked, ended, -, elements⟩ := exists_of_failed outcome
      exact .inr ⟨failure, first, el, rest, rfl, unreadable_of_failed links outcome, split,
        unlinked, ended, elements⟩
  · rcases (unreadable_of_failed links failed).failsWith with fails | fails
    · exact anchorsTimely.not_failsWith fails
    · exact entriesTimely.not_failsWith fails
  · cases outcome : pass.outcome with
    | ok report => exact ⟨report, rfl⟩
    | error failure =>
      -- There is nothing that the pass could have broken off at.
      cases unreadable_of_failed links outcome with
      | anchors shard => exact absurd shard (anchorsLoad.not_unreadable failure)
      | entries shard => exact absurd shard (entriesLoad.not_unreadable failure)
      | @headings spec failed =>
        obtain ⟨table, read⟩ := headingsLoad spec
        rw [read] at failed
        cases failed
  · rintro first el rest report failure rfl unlinked ended stumbles
    have met : Links r.anchors.source r.biblio.source (linkElements first r).2 :=
      Stable.linkElements stable_links first links
    exact failed_of_linkElement ended unlinked (failed_of_stumbles met stumbles)

/-- A source with a shard of anchors that is malformed. -/
def tornShelf : DataSource := .ofFiles (.ofList [(AnchorStore.shardPath "te", "[")])

/-- The resolver of a document over the torn shelf, which defines one term. -/
def overTornShelf : Resolver :=
  run [.define { id := "other", texts := "other" }, .finish] <|
    ofStores { source := tornShelf } { source := tornShelf } { version := 1, dataDir := "" } {}

/-- Two links to a term, and between them one whose shard is torn. -/
def aroundTorn : List Element :=
  [{ tag := "a", text := "other" }, { tag := "a", text := "term" }, { tag := "a", text := "other" }]

/-- The pass breaks off because data could not be read. -/
theorem ending_of_torn :
    overTornShelf.phase ≠ .collecting ∧
    ∃ failure, (linkElements aroundTorn overTornShelf).1.outcome = .error failure ∧
      Unreadable overTornShelf.anchors.source overTornShelf.biblio.source failure := by
  have reached : Reachable {} overTornShelf :=
    .call .finish (.call (.define { id := "other", texts := "other" }) (.ofStores _ _ _))
  have begun : overTornShelf.phase ≠ .collecting := by decide +kernel
  have broken : (linkElements aroundTorn overTornShelf).1.outcome =
      .error (.parse .dataFile "anchors/anchors-te.json" none) := by decide +kernel
  refine ⟨begun, ?_⟩
  rcases (ending_of_pass reached begun aroundTorn).1 with ⟨report, ended, -⟩ |
    ⟨failure, first, el, rest, failed, unreadable, -⟩
  · rw [broken] at ended
    cases ended
  · exact ⟨failure, failed, unreadable⟩

/-- A malformed shard ends the pass, though no phase is at fault. The link that asks for it is not
marked, and the one behind it, whose target is known, is not linked. -/
theorem broken_off_by_shard :
    overTornShelf.phase = .complete ∧
    (linkElements aroundTorn overTornShelf).1.outcome =
      .error (.parse .dataFile "anchors/anchors-te.json" none) ∧
    (linkElements aroundTorn overTornShelf).1.elements.map
        (fun el => (el.attr? "href", el.attr? "data-link-failed")) =
      [(some "#other", none), (none, none), (none, none)] ∧
    (linkElements aroundTorn overTornShelf).2.messages.reports = [] := by
  refine ⟨by decide +kernel, by decide +kernel, by decide +kernel, by decide +kernel⟩

end Resolver

end SpecLink
