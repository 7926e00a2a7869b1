import SpecLink.Proofs.Linking.Reaching

/-!
# What linking does to elements

An element is marked or gets a target, and whichever exit its link takes, all else stays as it was
(`Frame`). Main statements: `frame_of_pass` for a whole list of elements and the report on it, and
`mark_of_pass` for the marks of links that fail.
-/
namespace SpecLink

namespace Element

variable (el : Element)

@[simp] theorem attr?_setAttr (name value other : String) :
    (el.setAttr name value).attr? other = if other = name then some value else el.attr? other :=
  SortedMap.get?_insert _ _ _ _

@[simp] theorem tag_setAttr (name value : String) : (el.setAttr name value).tag = el.tag := rfl

@[simp] theorem text_setAttr (name value : String) : (el.setAttr name value).text = el.text := rfl

@[simp] theorem line_setAttr (name value : String) : (el.setAttr name value).line = el.line := rfl

@[simp] theorem attr?_promote (name : String) : el.promote.attr? name = el.attr? name := by
  rw [promote]
  split <;> rfl

@[simp] theorem text_promote : el.promote.text = el.text := by
  rw [promote]
  split <;> rfl

@[simp] theorem line_promote : el.promote.line = el.line := by
  rw [promote]
  split <;> rfl

/-- Only shorthands change their tag. -/
theorem tag_promote : el.promote.tag = el.tag ∨
    (el.tag = "bs-link" ∨ el.tag = "i") ∧ el.promote.tag = "a" := by
  rw [promote]
  split
  next shorthand =>
    rw [Bool.or_eq_true, beq_iff_eq, beq_iff_eq] at shorthand
    exact .inr ⟨shorthand, rfl⟩
  next => exact .inl rfl

end Element

namespace Resolver

open SpecLink.Action

/-- What linking leaves of an element without a target as it was. -/
structure Frame (el result : Element) (outcome : LinkOutcome) : Prop where
  line : result.line = el.line
  attributes : ∀ name, name ≠ "href" → name ≠ "data-link-failed" → name ≠ "data-biblio-display" →
    result.attr? name = el.attr? name
  /-- A link that fails gets its mark and nothing else. -/
  failed : outcome = .failed → result = el.setAttr "data-link-failed" ""
  /-- A link that resolves gets a target and leaves the mark to whoever set it. -/
  resolved : outcome ≠ .failed → result.isLinked = true ∧
    result.attr? "data-link-failed" = el.attr? "data-link-failed"
  tag : result.tag = el.tag ∨ (el.tag = "bs-link" ∨ el.tag = "i") ∧ result.tag = "a"
  /-- Only a text that says nothing of its own gives way. -/
  text : result.text = el.text ∨
    el.attr? "data-link-type" = some "biblio" ∧ Text.isBlankText el.text = true ∨
    el.attr? "data-link-type" = some "section" ∧
      (Text.trim el.text = "" ∨ Text.trim el.text = Text.trim el.linkText)

section Frame

variable {r s : Resolver} {el result : Element} {outcome : LinkOutcome}

theorem isLinked_linkTo (el : Element) (url : String) : (el.linkTo url).isLinked = true := by
  simp [Element.isLinked, Element.attr?_linkTo]

/-- An element that cites an entry has a new text only if its own was blank. -/
theorem linkToEntry_eq (el : Element) (name : String) :
    ∃ text, (text = el.text ∨ Text.isBlankText el.text = true) ∧
      linkToEntry el name = ((({ el with text } : Element).setAttr "href"
        ("#biblio-" ++ Text.lowercase name)).setAttr "data-biblio-display" name).promote := by
  rw [linkToEntry]
  split
  next blank => exact ⟨_, .inr blank, rfl⟩
  next => exact ⟨el.text, .inl rfl, rfl⟩

/-- An element that links to a section has a new text only if its own was blank or the id. -/
theorem linkToSection_eq (el : Element) (id : String) (heading : Heading) :
    ∃ text, (text = el.text ∨ Text.trim el.text = "" ∨ Text.trim el.text = id) ∧
      linkToSection el id heading = ({ el with text } : Element).linkTo heading.url := by
  simp only [linkToSection]
  split
  next empty =>
    rw [Bool.or_eq_true, String.isEmpty_iff, beq_iff_eq] at empty
    exact ⟨_, .inr empty, rfl⟩
  next => exact ⟨el.text, .inl rfl, rfl⟩

/-- Whichever exit a link takes, all but what it writes stays as it was. -/
theorem Exit.frame {answer : Except Failure (Element × LinkOutcome)} (exit : Exit r el answer s)
    (answered : answer = .ok (result, outcome)) : Frame el result outcome := by
  cases exit with
  | termBroken | entryBroken | sectionBroken => cases answered
  | refused | noTerm | noEntry | noSection =>
    obtain ⟨rfl, rfl⟩ := Prod.mk.inj (Except.ok.inj answered)
    exact
      { line := rfl
        attributes := fun name _ unmarked _ => by simp [Element.markFailed, unmarked]
        failed := fun _ => rfl
        resolved := fun succeeded => absurd rfl succeeded
        tag := .inl rfl
        text := .inl rfl }
  | term =>
    obtain ⟨rfl, rfl⟩ := Prod.mk.inj (Except.ok.inj answered)
    exact
      { line := by simp [Element.linkTo]
        attributes := fun name notTarget _ _ => by simp [Element.linkTo, notTarget]
        failed := fun failed => by cases failed
        resolved := fun _ => ⟨isLinked_linkTo el _, by simp [Element.linkTo]⟩
        tag := Element.tag_promote _
        text := .inl (by simp [Element.linkTo]) }
  | entry name asked =>
    obtain ⟨rfl, rfl⟩ := Prod.mk.inj (Except.ok.inj answered)
    obtain ⟨text, origin, same⟩ := linkToEntry_eq el name
    rw [same]
    exact
      { line := by simp
        attributes := fun name notTarget _ notShown => by
          simp only [Element.attr?_promote, Element.attr?_setAttr, if_neg notTarget, if_neg notShown]
          rfl
        failed := fun failed => by cases failed
        resolved := fun _ => ⟨by simp [Element.isLinked], by
          simp only [Element.attr?_promote, Element.attr?_setAttr]
          rfl⟩
        tag := Element.tag_promote _
        text := by
          rcases origin with rfl | blank
          · exact .inl (by simp)
          · exact .inr (.inl ⟨asked, blank⟩) }
  | @«section» spec status heading _ asked =>
    obtain ⟨rfl, rfl⟩ := Prod.mk.inj (Except.ok.inj answered)
    obtain ⟨text, origin, same⟩ := linkToSection_eq el (Text.trim el.linkText) heading
    rw [same]
    exact
      { line := by simp [Element.linkTo]
        attributes := fun name notTarget _ _ => by
          simp only [Element.linkTo, Element.attr?_promote, Element.attr?_setAttr, if_neg notTarget]
          rfl
        failed := fun failed => by cases failed
        resolved := fun _ => ⟨isLinked_linkTo _ _, by
          simp only [Element.linkTo, Element.attr?_promote, Element.attr?_setAttr]
          rfl⟩
        tag := Element.tag_promote _
        text := by
          rcases origin with rfl | uninformative
          · exact .inl (by simp [Element.linkTo])
          · exact .inr (.inr ⟨asked, uninformative⟩) }

theorem isLinked_setAttr_mark (el : Element) :
    (el.setAttr "data-link-failed" "").isLinked = el.isLinked := by
  simp [Element.isLinked]

/-- What a link adds to the report, by whether it has a target afterwards. -/
theorem Frame.counts (frame : Frame el result outcome) (unlinked : el.isLinked = false) :
    outcome.count.resolved = (if result.isLinked then 1 else 0) ∧
    outcome.count.resolved + outcome.count.failed = 1 ∧
    outcome.count.biblio + outcome.count.sections ≤ outcome.count.resolved := by
  by_cases failed : outcome = .failed
  · rw [frame.failed failed, isLinked_setAttr_mark, unlinked, failed]
    decide
  · rw [(frame.resolved failed).1]
    cases outcome with
    | failed => exact absurd rfl failed
    | term | entry | «section» => decide

end Frame

variable {els : List Element} {r : Resolver} {report : LinkReport}

/-- An element without a target that has its turn in a pass is framed. -/
theorem Turn.frame {s : Resolver} {el result : Element} {count : LinkReport}
    (turn : Turn r el result count s) (unlinked : el.isLinked = false) :
    ∃ outcome, (linkElement el).on r = (.ok (result, outcome), s) ∧ count = outcome.count ∧
      Frame el result outcome := by
  cases turn with
  | stay linked => simp [linked] at unlinked
  | link _ ran => exact ⟨_, ran, rfl, (exit_of_linkElement ran).frame rfl⟩

/-- The report counts the links, and among them those that have a target afterwards. -/
theorem counts_of_ended (ended : (linkElements els r).1.outcome = .ok report) :
    report.resolved + report.failed = els.countP (fun el => !el.isLinked) ∧
    report.resolved = (els.zip (linkElements els r).1.elements).countP
      (fun pair => !pair.1.isLinked && pair.2.isLinked) ∧
    report.biblio + report.sections ≤ report.resolved := by
  induction els generalizing r report with
  | nil =>
    obtain rfl : {} = report := Except.ok.inj ended
    exact ⟨rfl, rfl, Nat.le_refl _⟩
  | cons el rest ih =>
    obtain ⟨result, count, s, others, turn, later, rfl⟩ := exists_turn_of_ended ended
    obtain ⟨total, resolved, kinds⟩ := ih later
    rw [turn.linkElements_cons]
    simp only [LinkPass.after, LinkReport.add, List.zip_cons_cons, List.countP_cons]
    cases linked : el.isLinked with
    | true =>
      -- An element that has a target already is not counted.
      cases turn with
      | stay => simp [total, ← resolved, kinds]
      | link unlinked => simp [linked] at unlinked
    | false =>
      obtain ⟨outcome, -, rfl, frame⟩ := turn.frame linked
      obtain ⟨here, one, atMost⟩ := frame.counts linked
      simp only [Bool.not_false, Bool.true_and, if_true, ← total, ← resolved]
      omega

/-- A pass that comes to its end keeps the number and the order of the elements, and leaves alone
those that have a target. Every other element is linked by the resolver that the elements before it
leave, and keeps all but what a link writes: one that fails gets its mark and nothing else, one that
resolves gets a target. The report counts the one and the other. -/
theorem frame_of_pass (ended : (linkElements els r).1.outcome = .ok report) :
    let results := (linkElements els r).1.elements
    results.length = els.length ∧
    (∀ first el rest, els = first ++ el :: rest →
      ∃ result, results[first.length]? = some result ∧
        (el.isLinked = true → result = el) ∧
        (el.isLinked = false → ∃ outcome s,
          (linkElement el).on (linkElements first r).2 = (.ok (result, outcome), s) ∧
          Frame el result outcome)) ∧
    report.resolved + report.failed = els.countP (fun el => !el.isLinked) ∧
    report.resolved = (els.zip results).countP
      (fun pair => !pair.1.isLinked && pair.2.isLinked) ∧
    report.biblio + report.sections ≤ report.resolved := by
  intro results
  refine ⟨length_linkElements els r, ?_, counts_of_ended ended⟩
  rintro first el rest rfl
  obtain ⟨result, count, s, turn, place⟩ := exists_turn_of_mem ended
  refine ⟨result, place, fun linked => ?_, fun unlinked => ?_⟩
  · cases turn with
    | stay => rfl
    | link unlinked => simp [linked] at unlinked
  · obtain ⟨outcome, ran, -, frame⟩ := turn.frame unlinked
    exact ⟨outcome, s, ran, frame⟩

/-- A pass with a link that resolves, a link that fails and an element that has a target. -/
theorem frame_of_auto :
    let r := ((collect [autoFor "width"]).on bare).2.finish
    let els := [linkToAutoFor "width", linkToAutoFor "height", (linkToAutoFor "height").linkTo "#"]
    (linkElements els r).1.outcome = .ok { resolved := 1, failed := 1 } ∧
    (linkElements els r).1.elements.length = 3 ∧
    (∃ result outcome, (linkElements els r).1.elements[1]? = some result ∧
      Frame (linkToAutoFor "height") result outcome) ∧
    (linkElements els r).1.elements[2]? = some ((linkToAutoFor "height").linkTo "#") := by
  intro r els
  have ended : (linkElements els r).1.outcome = .ok { resolved := 1, failed := 1 } := by
    decide +kernel
  obtain ⟨length, places, -⟩ := frame_of_pass ended
  obtain ⟨result, here, -, framed⟩ := places [linkToAutoFor "width"] _ _ rfl
  obtain ⟨outcome, -, -, frame⟩ := framed (by decide +kernel)
  obtain ⟨last, there, stays, -⟩ :=
    places [linkToAutoFor "width", linkToAutoFor "height"] _ _ rfl
  exact ⟨ended, length, ⟨result, outcome, here, frame⟩, stays (by decide +kernel) ▸ there⟩

/-- In a pass that comes to its end, an element that had no target has one afterwards if its link
resolved, and then it carries the mark of a failed link exactly if it came with it. If its link failed
it carries the mark and has no target. -/
theorem mark_of_pass (ended : (linkElements els r).1.outcome = .ok report) {first rest : List Element}
    {el : Element} (split : els = first ++ el :: rest) (unlinked : el.isLinked = false) :
    ∃ result, ∃ outcome : LinkOutcome, ∃ s,
      (linkElements els r).1.elements[first.length]? = some result ∧
      (linkElement el).on (linkElements first r).2 = (.ok (result, outcome), s) ∧
      (outcome ≠ .failed → result.isLinked = true ∧
        result.attr? "data-link-failed" = el.attr? "data-link-failed") ∧
      (outcome = .failed → result.attr? "data-link-failed" = some "" ∧ result.isLinked = false) := by
  subst split
  obtain ⟨result, count, s, turn, place⟩ := exists_turn_of_mem ended
  obtain ⟨outcome, ran, -, frame⟩ := turn.frame unlinked
  refine ⟨result, outcome, s, place, ran, frame.resolved, fun failed => ?_⟩
  rw [frame.failed failed, isLinked_setAttr_mark]
  exact ⟨by simp, unlinked⟩

/-- A link that comes without the mark has a target afterwards and no mark. -/
theorem mark_of_auto :
    let r := ((collect [autoFor "width"]).on bare).2.finish
    (linkElements [linkToAutoFor "height", linkToAutoFor "width"] r).1.outcome =
      .ok { resolved := 1, failed := 1 } ∧
    ∃ result, ∃ outcome : LinkOutcome,
      (linkElements [linkToAutoFor "height", linkToAutoFor "width"] r).1.elements[1]? =
        some result ∧ (outcome ≠ .failed → result.isLinked = true ∧
          result.attr? "data-link-failed" = none) := by
  intro r
  have ended : (linkElements [linkToAutoFor "height", linkToAutoFor "width"] r).1.outcome =
      .ok { resolved := 1, failed := 1 } := by decide +kernel
  have split : [linkToAutoFor "height", linkToAutoFor "width"] =
      [linkToAutoFor "height"] ++ linkToAutoFor "width" :: [] := rfl
  obtain ⟨result, outcome, -, place, -, resolved, -⟩ :=
    mark_of_pass ended split (by decide +kernel)
  exact ⟨ended, result, outcome, place, resolved⟩

/-- A link that failed once is linked again, and keeps the mark beside its target. -/
theorem resolved_with_mark :
    (linkElements [linkToAutoFor "width"] bare.finish).1.elements =
      [(linkToAutoFor "width").markFailed] ∧
    let second := (linkElements [(linkToAutoFor "width").markFailed]
      ((collect [autoFor "width"]).on bare).2.finish).1
    second.outcome = .ok { resolved := 1 } ∧
      second.elements.map (fun el => (el.attr? "href", el.attr? "data-link-failed")) =
        [(some "#auto", some "")] := by
  refine ⟨by decide +kernel, by decide +kernel, by decide +kernel⟩

end Resolver

end SpecLink
