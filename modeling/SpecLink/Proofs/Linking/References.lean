import SpecLink.Project
import SpecLink.Proofs.Linking.Requests
import SpecLink.Proofs.Resolver.Usages
import SpecLink.Proofs.Text.AsciiCase

/-!
# References of a linked document

Whatever a link does, it adds uses to the usages and takes none away (`Grows`), so an entry that is
cited once is among the references in the end. A link to it goes by the name that it is listed under
there. Main statement: `reference_of_link`.
-/
namespace SpecLink.Resolver

open SpecLink.Action

/-- The usages of the second resolver are those of the first one and some more. -/
def Grows (r s : Resolver) : Prop :=
  ∃ uses : List Use, s.usages = uses.foldl Usages.record r.usages

namespace Grows

variable {r s t : Resolver}

theorem refl (r : Resolver) : Grows r r := ⟨[], rfl⟩

theorem trans (first : Grows r s) (second : Grows s t) : Grows r t := by
  obtain ⟨uses, grown⟩ := first
  obtain ⟨more, grown'⟩ := second
  exact ⟨uses ++ more, by rw [grown', grown, List.foldl_append]⟩

theorem of_resolve {request : LinkRequest} {answer : Except Failure ResolvedLink}
    (ran : (resolve request).on r = (answer, s)) : Grows r s :=
  ⟨_, by rw [← usages_resolve, ran]⟩

theorem of_cite {request : BiblioRequest} {answer : Except Failure (Option BiblioEntry)}
    (ran : (cite request).on r = (answer, s)) : Grows r s :=
  ⟨_, by rw [← usages_cite, ran]⟩

theorem of_findSection {spec id : String} {status : Option Status}
    {answer : Except Failure Heading} (ran : (findSection spec id status).on r = (answer, s)) :
    Grows r s :=
  ⟨_, by rw [← usages_findSection r spec id status, ran]⟩

theorem of_linkElement {el : Element} {answer : Except Failure (Element × LinkOutcome)}
    (ran : (linkElement el).on r = (answer, s)) : Grows r s := by
  cases exit_of_linkElement ran with
  | refused => exact .refl r
  | term ran | noTerm _ _ _ ran | termBroken ran => exact .of_resolve ran
  | entry _ _ ran | noEntry _ _ _ ran | entryBroken ran => exact .of_cite ran
  | «section» _ ran | sectionBroken ran => exact .of_findSection ran
  | noSection found => exact (Grows.of_findSection found).trans ⟨[], rfl⟩

/-- A pass takes no use away. -/
theorem of_linkElements (els : List Element) (r : Resolver) : Grows r (linkElements els r).2 := by
  induction els generalizing r with
  | nil => exact .refl r
  | cons el rest ih =>
    rcases turn_or_failure r el with ⟨result, count, s, turn⟩ | ⟨unlinked, failure, s, ran⟩
    · rw [turn.linkElements_cons]
      cases turn with
      | stay => exact ih r
      | link _ ran => exact (Grows.of_linkElement ran).trans (ih s)
    · rw [linkElements_cons_of_failed unlinked ran]
      exact .of_linkElement ran

/-- A pass keeps the uses of each of its links. -/
theorem of_turn {first rest : List Element} {el result : Element} {count report : LinkReport}
    (ended : (linkElements (first ++ el :: rest) r).1.outcome = .ok report)
    (turn : Turn (linkElements first r).2 el result count s) :
    Grows s (linkElements (first ++ el :: rest) r).2 := by
  induction first generalizing r report with
  | nil =>
    have first : Turn r el result count s := turn
    rw [List.nil_append, first.linkElements_cons]
    exact of_linkElements rest s
  | cons head others ih =>
    obtain ⟨_, _, t, report, here, ended, -⟩ := exists_turn_of_ended ended
    rw [here.linkElements_cons] at turn
    rw [List.cons_append, here.linkElements_cons]
    exact ih ended turn

end Grows

/-- A citation and the list of references call an entry by the same name, up to case. -/
theorem lowercase_citedName (e : BiblioEntry) (key : String) :
    Text.lowercase (citedName e key) = Text.lowercase e.displayKey := by
  rw [citedName, BiblioEntry.displayKey]
  cases e.preferredAlias with
  | some name => rfl
  | none =>
    simp only [Option.getD_none]
    split
    next same =>
      rw [← Text.lowercase_asciiLowercase key, ← beq_iff_eq.1 same, Text.lowercase_asciiLowercase]
    next => rfl

theorem attr?_linkToEntry (el : Element) (name : String) :
    (linkToEntry el name).attr? "href" = some ("#biblio-" ++ Text.lowercase name) := by
  obtain ⟨text, -, same⟩ := linkToEntry_eq el name
  rw [same]
  simp

variable {r s : Resolver} {el result : Element}

/-- A link to an entry cites it, and its target is the name of the citation. -/
theorem exists_citation_of_link (asked : el.attr? "data-link-type" = some "biblio")
    {outcome : LinkOutcome} (ran : (linkElement el).on r = (.ok (result, outcome), s))
    (resolved : outcome ≠ .failed) :
    ∃ c : Citation, result.attr? "href" = some ("#biblio-" ++ c.name) ∧
      s.usages = r.usages.record (.citation c) := by
  rw [linkElement_on, draft_of_entry asked] at ran
  cases asks : el.citation? with
  | none =>
    obtain ⟨text, refused⟩ := linkEntry_of_citation?_eq_none asks
    rw [refused, refuse_on] at ran
    exact absurd (Prod.mk.inj (Except.ok.inj (Prod.mk.inj ran).1)).2.symm resolved
  | some request =>
    rw [linkEntry_on asks, cite_on] at ran
    cases looked : ((BiblioStore.lookup request r.defaultStatus).on r.biblio).1 with
    | error failure =>
      rw [looked] at ran
      cases (Prod.mk.inj ran).1
    | ok found =>
      obtain ⟨entry, remark⟩ := found
      rw [looked] at ran
      obtain ⟨answered, rfl⟩ := Prod.mk.inj ran
      cases entry with
      | none => exact absurd (Prod.mk.inj (Except.ok.inj answered)).2.symm resolved
      | some e =>
        obtain ⟨rfl, -⟩ := Prod.mk.inj (Except.ok.inj answered)
        refine ⟨⟨e, request.normative⟩, ?_, rfl⟩
        rw [attr?_linkToEntry, lowercase_citedName]
        rfl

/-- Nothing is used while definitions are collected. -/
theorem preserves_usages_collect (els : List Element) :
    Preserves (fun r : Resolver => r.usages = {}) (collect els) := by
  refine preserves_collect (fun d => ?_) (fun _ _ _ _ unused => unused) els 0
  refine preserves_bind preserves_get fun r => ?_
  simp only
  split
  · exact preserves_throw _
  · exact preserves_within fun s unused => unused

theorem usages_resolver {p : Project} {tree : FileTree} {metadata : Metadata} {r : Resolver}
    (opened : p.resolver tree metadata = .ok r) : r.usages = {} := by
  rw [Project.resolver, bind_ok_iff] at opened
  obtain ⟨start, loaded, opened⟩ := opened
  obtain ⟨_, -, same⟩ := (bind_ok_iff _ _ _).1 opened
  obtain rfl := Except.ok.inj same
  rw [load, bind_ok_iff] at loaded
  obtain ⟨anchors, -, loaded⟩ := loaded
  obtain ⟨biblio, -, same⟩ := (bind_ok_iff _ _ _).1 loaded
  obtain rfl := Except.ok.inj same
  exact usages_ofStores anchors biblio p.config metadata

/-- Every link to an entry that a document has after linking goes to one of its references, and to
no other: exactly one entry of the two lists goes by the name in the target. -/
theorem reference_of_link {p : Project} {tree : FileTree} {document : Document}
    {linked : LinkedDocument} (answered : p.link tree document = .ok linked)
    {first rest : List Element} (split : document.links = first ++ el :: rest)
    (unlinked : el.isLinked = false) (asked : el.attr? "data-link-type" = some "biblio")
    (place : linked.document.links[first.length]? = some result) (resolved : result.isLinked = true) :
    ∃ k, result.attr? "href" = some ("#biblio-" ++ k) ∧
      (linked.normativeReferences ++ linked.informativeReferences).countP
        (fun e => Text.lowercase e.displayKey == k) = 1 := by
  rw [Project.link, bind_ok_iff] at answered
  obtain ⟨start, opened, answered⟩ := answered
  rw [linkDocument, bind_ok_iff] at answered
  obtain ⟨count, collected, answered⟩ := answered
  obtain ⟨report, ended, same⟩ := (bind_ok_iff _ _ _).1 answered
  obtain rfl := Except.ok.inj same
  have unused : (((collect document.definitions).on start).2.finish).usages = {} := by
    have kept := preserves_usages_collect document.definitions start (usages_resolver opened)
    rw [finish]
    split
    · exact kept
    · exact kept
  generalize ((collect document.definitions).on start).2.finish = r at unused ended place
  rw [split] at ended place ⊢
  obtain ⟨other, count, s, turn, there⟩ := exists_turn_of_mem ended
  obtain rfl : other = result := Option.some.inj (there.symm.trans place)
  obtain ⟨outcome, ran, -, frame⟩ := turn.frame unlinked
  have succeeded : outcome ≠ .failed := by
    intro failed
    rw [frame.failed failed, isLinked_setAttr_mark, unlinked] at resolved
    cases resolved
  obtain ⟨c, href, cited⟩ := exists_citation_of_link asked ran succeeded
  refine ⟨c.name, href, ?_⟩
  -- The citation stands between the uses of the links before it and those of the links behind it.
  obtain ⟨before, first⟩ := Grows.of_linkElements first r
  obtain ⟨behind, last⟩ := Grows.of_turn ended turn
  have sums := Usages.sums_empty.foldl (before ++ .citation c :: behind)
  rw [List.foldl_append, ← unused, ← first, List.foldl_cons, ← cited, ← last] at sums
  exact sums.countP_entries (by simp [Use.citations, Use.citation?])

/-- A project whose data is a table of one spec. -/
def loneProject : Project where
  config := { version := 1, dataDir := "" }
  root := ""
  source := .ofFiles (.ofList [(AnchorStore.specsFile, "\x7b\"dom\":\x7b\"title\":\"DOM\"\x7d\x7d")])

/-- A link to an entry, in the author's spelling. -/
def citingLink : Element where
  tag := "a"
  attributes := .ofList [("data-biblio-type", "normative"), ("data-link-type", "biblio")]
  text := "[[!RFC2119]]"

/-- The link goes to the one reference of its document, in spite of its capitals. -/
theorem reference_of_citing :
    ∃ linked result, loneProject.link {} { links := [citingLink] } = .ok linked ∧
      linked.document.links[0]? = some result ∧ result.isLinked = true ∧
      ∃ k, result.attr? "href" = some ("#biblio-" ++ k) ∧
        (linked.normativeReferences ++ linked.informativeReferences).countP
          (fun e => Text.lowercase e.displayKey == k) = 1 := by
  have check : (loneProject.link {} { links := [citingLink] }).map
      (fun linked => linked.document.links[0]?.map Element.isLinked) = .ok (some true) := by
    decide +kernel
  cases answered : loneProject.link {} { links := [citingLink] } with
  | error failure => simp [answered, Except.map] at check
  | ok linked =>
    rw [answered] at check
    obtain ⟨result, place, resolved⟩ := Option.map_eq_some_iff.1 (Except.ok.inj check)
    have split : [citingLink] = [] ++ citingLink :: [] := rfl
    exact ⟨linked, result, rfl, place, resolved,
      reference_of_link answered split (by decide +kernel) (by decide +kernel) place resolved⟩

end SpecLink.Resolver
