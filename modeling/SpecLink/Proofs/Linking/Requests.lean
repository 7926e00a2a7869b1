import SpecLink.Proofs.Linking.Frame
import SpecLink.Proofs.Sorted

/-!
# What links ask for

A link asks for a term, a bibliography entry or a section. What it asks for is read off its
attributes, where the mark of a failed link does not matter, and the link fails exactly if that is
not there or if the attributes say it wrongly. Main statements: `linkElement_failed_iff` and
`linkEntry_on`.
-/
namespace SpecLink

/-- A section of a spec that a link asks for. -/
structure SectionRequest where
  spec : String
  id : String
  status : Option Status

namespace Element

/-- Whether an element cites normatively, if it says so in a known way. -/
def citesNormatively? (el : Element) : Option Bool :=
  match el.attr? "data-biblio-type" with
  | some "normative" => some true
  | some "informative" | none => some false
  | some _ => none

/-- The entry that an element asks for, unless it does so wrongly. -/
def citation? (el : Element) : Option BiblioRequest := do
  let normative ← el.citesNormatively?
  let status ← (el.readAttr "data-biblio-status" Status.read).toOption
  return {
    key := Resolver.citedKey el.linkText
    status, normative
    standIn := (el.attr? "data-okay-to-fail").isSome
    quiet := (el.attr? "data-okay-to-fail").isSome
    allowObsolete := (el.attr? "data-biblio-obsolete").isSome }

/-- The section that an element asks for, unless it does so wrongly. -/
def sectionRequest? (el : Element) : Option SectionRequest := do
  let spec ← el.attr? "data-link-spec"
  let status ← (el.readAttr "data-link-status" Status.read).toOption
  return { spec, id := Text.trim el.linkText, status }

theorem standIn_of_citation? {el : Element} {request : BiblioRequest}
    (asks : el.citation? = some request) :
    request.standIn = (el.attr? "data-okay-to-fail").isSome := by
  rw [citation?] at asks
  obtain ⟨normative, -, asks⟩ := Option.bind_eq_some_iff.1 asks
  obtain ⟨status, -, asks⟩ := Option.bind_eq_some_iff.1 asks
  obtain rfl := Option.some.inj asks
  rfl

section Mark

/-! The mark of a failed link says nothing about what the link asks for. -/

variable (el : Element)

theorem attr?_markFailed {name : String} (other : name ≠ "data-link-failed") :
    el.markFailed.attr? name = el.attr? name := by
  simp [markFailed, other]

theorem isLinked_markFailed : el.markFailed.isLinked = el.isLinked := by
  rw [isLinked, isLinked, el.attr?_markFailed (by decide)]

theorem markFailed_markFailed : el.markFailed.markFailed = el.markFailed := by
  simp only [markFailed, setAttr, SortedMap.insert_insert]

theorem linkText_markFailed : el.markFailed.linkText = el.linkText := by
  rw [linkText, linkText, el.attr?_markFailed (by decide)]
  rfl

theorem readAttr_markFailed {α : Type} {name : String} (other : name ≠ "data-link-failed")
    (read : String → Except Failure α) :
    el.markFailed.readAttr name read = el.readAttr name read := by
  rw [readAttr, readAttr, el.attr?_markFailed other]

theorem hasClass_markFailed (name : String) : el.markFailed.hasClass name = el.hasClass name := by
  rw [hasClass, hasClass, el.attr?_markFailed (by decide)]

theorem linkRequest_markFailed : el.markFailed.linkRequest = el.linkRequest := by
  have normative : el.markFailed.isNormative = el.isNormative := by
    rw [isNormative, isNormative, funext el.hasClass_markFailed]
  have spec : el.markFailed.linkSpec? = el.linkSpec? := by
    rw [linkSpec?, linkSpec?, el.attr?_markFailed (by decide)]
  have scope : el.markFailed.scopeAttr "data-link-for" = el.scopeAttr "data-link-for" := by
    rw [scopeAttr, scopeAttr, el.attr?_markFailed (by decide)]
  rw [linkRequest, linkRequest, el.readAttr_markFailed (by decide),
    el.readAttr_markFailed (by decide), normative, spec, scope, hasClass_markFailed,
    linkText_markFailed]
  rfl

theorem citation?_markFailed : el.markFailed.citation? = el.citation? := by
  rw [citation?, citation?, citesNormatively?, citesNormatively?, linkText_markFailed,
    el.readAttr_markFailed (by decide), el.attr?_markFailed (by decide),
    el.attr?_markFailed (by decide), el.attr?_markFailed (by decide)]

theorem sectionRequest?_markFailed : el.markFailed.sectionRequest? = el.sectionRequest? := by
  rw [sectionRequest?, sectionRequest?, linkText_markFailed, el.readAttr_markFailed (by decide),
    el.attr?_markFailed (by decide)]

end Mark

end Element

namespace Resolver

open SpecLink.Action

variable {r s : Resolver} {el result : Element}

theorem refuse_on (el : Element) (severity : Severity) (text : String) (r : Resolver) :
    (refuse el severity text).on r = (.ok (el, .failed), r.report severity text el.line) := rfl

theorem linkEntry_cases (el : Element) :
    (∃ normative, el.citesNormatively? = some normative ∧ linkEntry el = linkEntryAs el normative) ∨
    el.citesNormatively? = none ∧ ∃ text, linkEntry el = refuse el .fatal text := by
  rw [linkEntry, Element.citesNormatively?]
  cases el.attr? "data-biblio-type" with
  | none => exact .inl ⟨false, rfl, rfl⟩
  | some word =>
    by_cases normative : word = "normative"
    · subst normative
      exact .inl ⟨true, rfl, rfl⟩
    by_cases informative : word = "informative"
    · subst informative
      exact .inl ⟨false, rfl, rfl⟩
    · refine .inr ⟨?_, ?_⟩
      · simp
      · exact ⟨_, by simp only; rfl⟩

/-- An element that asks wrongly for an entry is refused. -/
theorem linkEntry_of_citation?_eq_none (wrong : el.citation? = none) :
    ∃ text, linkEntry el = refuse el .fatal text := by
  rw [Element.citation?] at wrong
  rcases linkEntry_cases el with ⟨normative, sort, same⟩ | ⟨-, refused⟩
  · rw [same, linkEntryAs]
    cases read : el.readAttr "data-biblio-status" Status.read with
    | error failure => exact ⟨_, rfl⟩
    | ok status => simp [sort, read, Except.toOption] at wrong
  · exact refused

/-- The entry that an element asks for is cited, and the element links to it if it is there. -/
theorem linkEntry_on {request : BiblioRequest} (asks : el.citation? = some request) (r : Resolver) :
    (linkEntry el).on r =
      (((cite request).on r).1.map fun entry =>
        match entry with
        | some e => (linkToEntry el (citedName e request.key), .entry)
        | none => (el, .failed),
        ((cite request).on r).2) := by
  rw [Element.citation?] at asks
  obtain ⟨normative, sort, asks⟩ := Option.bind_eq_some_iff.1 asks
  obtain ⟨status, read, asks⟩ := Option.bind_eq_some_iff.1 asks
  obtain rfl := Option.some.inj asks
  rcases linkEntry_cases el with ⟨_, sort', same⟩ | ⟨wrong, -⟩
  · obtain rfl := Option.some.inj (sort.symm.trans sort')
    rw [same, linkEntryAs]
    cases attr : el.readAttr "data-biblio-status" Status.read with
    | error failure => simp [attr, Except.toOption] at read
    | ok given =>
      obtain rfl : given = status := by simpa [attr, Except.toOption] using read
      simp only [on_bind]
      split
      next entry s ran => cases entry <;> simp [ran, Except.map]
      next failure s ran => simp [ran, Except.map]
  · rw [wrong] at sort
    cases sort

/-- An element that asks wrongly for a section is refused. -/
theorem linkSection_of_sectionRequest?_eq_none (wrong : el.sectionRequest? = none) :
    ∃ severity text, linkSection el = refuse el severity text := by
  rw [Element.sectionRequest?] at wrong
  rw [linkSection]
  cases given : el.attr? "data-link-spec" with
  | none => exact ⟨_, _, rfl⟩
  | some spec =>
    cases read : el.readAttr "data-link-status" Status.read with
    | error failure => exact ⟨_, _, rfl⟩
    | ok status => simp [given, read, Except.toOption] at wrong

theorem linkEntry_failed_iff : ((linkEntry el).on r).1 = .ok (result, .failed) ↔ result = el ∧
    ∀ request, el.citation? = some request → ((cite request).on r).1 = .ok none := by
  cases asks : el.citation? with
  | none =>
    obtain ⟨text, refused⟩ := linkEntry_of_citation?_eq_none asks
    simp [refused, refuse_on, eq_comm]
  | some request =>
    simp only [linkEntry_on asks, Option.some.injEq, forall_eq']
    cases ((cite request).on r).1 with
    | error failure => simp [Except.map]
    | ok entry => cases entry <;> simp [Except.map, eq_comm]

theorem linkSection_failed_iff : ((linkSection el).on r).1 = .ok (result, .failed) ↔ result = el ∧
    ∀ request, el.sectionRequest? = some request → ∃ failure : Failure, failure.NoSection ∧
      ((findSection request.spec request.id request.status).on r).1 = .error failure := by
  cases asks : el.sectionRequest? with
  | none =>
    obtain ⟨severity, text, refused⟩ := linkSection_of_sectionRequest?_eq_none asks
    simp [refused, refuse_on, eq_comm]
  | some request =>
    rw [Element.sectionRequest?] at asks
    obtain ⟨spec, given, asks⟩ := Option.bind_eq_some_iff.1 asks
    obtain ⟨status, read, asks⟩ := Option.bind_eq_some_iff.1 asks
    obtain rfl := Option.some.inj asks
    rw [linkSection]
    cases attr : el.readAttr "data-link-status" Status.read with
    | error failure => simp [attr, Except.toOption] at read
    | ok same =>
      obtain rfl : same = status := by simpa [attr, Except.toOption] using read
      simp only [given, on_bind, on_attempt, Option.some.injEq, forall_eq']
      cases ran : (findSection spec (Text.trim el.linkText) same).on r with
      | mk answer s =>
        cases answer with
        | ok heading => simp
        | error failure =>
          -- The two failures that say that there is no such section are caught.
          cases failure with
          | unknownSection spec id =>
            simp [refuse_on, eq_comm, Failure.NoSection.unknown]
          | ambiguousSection spec id pages =>
            simp [refuse_on, eq_comm, Failure.NoSection.ambiguous]
          | _ =>
            simp only [on_throw, reduceCtorEq, Except.error.injEq, false_iff]
            rintro ⟨-, failure, missing, rfl⟩
            cases missing

theorem linkTerm_failed_iff : ((linkTerm el).on r).1 = .ok (result, .failed) ↔ result = el ∧
    ∀ request, el.linkRequest = .ok request → ∃ kind text stage,
      ((resolve request).on r).1 = .error (.notFound kind text stage) := by
  rw [linkTerm]
  cases el.linkRequest with
  | error failure => simp [refuse_on, eq_comm]
  | ok request =>
    simp only [on_bind, on_attempt, Except.ok.injEq, forall_eq']
    cases (resolve request).on r with
    | mk answer s =>
      cases answer with
      | ok link => simp
      | error failure =>
        cases failure with
        | notFound kind text stage => simp [eq_comm]
        | _ => simp

/-- What an element asks for is not there, or it asks wrongly. -/
structure Targetless (r : Resolver) (el : Element) : Prop where
  entry : el.attr? "data-link-type" = some "biblio" →
    ∀ request, el.citation? = some request → ((cite request).on r).1 = .ok none
  «section» : el.attr? "data-link-type" = some "section" →
    ∀ request, el.sectionRequest? = some request → ∃ failure : Failure, failure.NoSection ∧
      ((findSection request.spec request.id request.status).on r).1 = .error failure
  term : el.attr? "data-link-type" ≠ some "biblio" → el.attr? "data-link-type" ≠ some "section" →
    ∀ request, el.linkRequest = .ok request → ∃ kind text stage,
      ((resolve request).on r).1 = .error (.notFound kind text stage)

theorem draft_failed_iff :
    ((draft el).on r).1 = .ok (result, .failed) ↔ result = el ∧ Targetless r el := by
  by_cases entry : el.attr? "data-link-type" = some "biblio"
  · rw [draft_of_entry entry, linkEntry_failed_iff]
    exact and_congr_right fun _ => ⟨fun missing =>
      ⟨fun _ => missing, fun «section» => by simp [entry] at «section»,
        fun notEntry => absurd entry notEntry⟩, fun targetless => targetless.entry entry⟩
  by_cases «section» : el.attr? "data-link-type" = some "section"
  · rw [draft_of_section «section», linkSection_failed_iff]
    exact and_congr_right fun _ => ⟨fun missing =>
      ⟨fun asked => absurd asked entry, fun _ => missing,
        fun _ notSection => absurd «section» notSection⟩,
      fun targetless => targetless.section «section»⟩
  · rw [draft_of_term entry «section», linkTerm_failed_iff]
    exact and_congr_right fun _ => ⟨fun missing =>
      ⟨fun asked => absurd asked entry, fun asked => absurd asked «section», fun _ _ => missing⟩,
      fun targetless => targetless.term entry «section»⟩

/-- A link fails exactly if what it asks for is not there, and then the element gets its mark. -/
theorem linkElement_failed_iff :
    ((linkElement el).on r).1 = .ok (result, .failed) ↔
      result = el.markFailed ∧ Targetless r el := by
  rw [linkElement_on]
  constructor
  · intro failed
    cases drafted : ((draft el).on r).1 with
    | error failure => simp [drafted, Except.map] at failed
    | ok answer =>
      obtain ⟨linked, outcome⟩ := answer
      rw [drafted] at failed
      cases outcome with
      | failed =>
        obtain ⟨rfl, targetless⟩ := draft_failed_iff.1 drafted
        exact ⟨(Prod.mk.inj (Except.ok.inj failed)).1.symm, targetless⟩
      | term | entry | «section» => cases failed
  · rintro ⟨rfl, targetless⟩
    simp only [draft_failed_iff.2 ⟨rfl, targetless⟩]
    rfl

/-- The mark of a failed link does not help it. -/
theorem Targetless.markFailed (targetless : Targetless r el) : Targetless r el.markFailed := by
  refine ⟨?_, ?_, ?_⟩
  · rw [el.attr?_markFailed (by decide), Element.citation?_markFailed]
    exact targetless.entry
  · rw [el.attr?_markFailed (by decide), Element.sectionRequest?_markFailed]
    exact targetless.section
  · rw [el.attr?_markFailed (by decide), Element.linkRequest_markFailed]
    exact targetless.term

end Resolver

end SpecLink
