import SpecLink.Linking

/-!
# The exits of a link

All that linking an element can come to, and which lookup it comes of (`Exit`). What holds of links
is read off this list. Main statement: `exit_of_linkElement`.
-/
namespace SpecLink

/-- A section that is asked for is on no page, or on several. -/
inductive Failure.NoSection : Failure → Prop
  | unknown (spec id : String) : NoSection (.unknownSection spec id)
  | ambiguous (spec id : String) (pages : List String) : NoSection (.ambiguousSection spec id pages)

namespace Resolver

open SpecLink.Action

/-- The link of an element by its kind. An element without a target stays as it is. -/
def draft (el : Element) : Action Resolver (Element × LinkOutcome) :=
  match el.attr? "data-link-type" with
  | some "biblio" => linkEntry el
  | some "section" => linkSection el
  | _ => linkTerm el

theorem draft_of_entry {el : Element} (asked : el.attr? "data-link-type" = some "biblio") :
    draft el = linkEntry el := by
  simp only [draft, asked]

theorem draft_of_section {el : Element} (asked : el.attr? "data-link-type" = some "section") :
    draft el = linkSection el := by
  simp only [draft, asked]

theorem draft_of_term {el : Element} (notEntry : el.attr? "data-link-type" ≠ some "biblio")
    (notSection : el.attr? "data-link-type" ≠ some "section") : draft el = linkTerm el := by
  rw [draft]
  split
  next asked => exact absurd asked notEntry
  next asked => exact absurd asked notSection
  next => rfl

/-- An element whose link failed gets its mark. -/
def marked : Element × LinkOutcome → Element × LinkOutcome
  | (linked, .failed) => (linked.markFailed, .failed)
  | answer => answer

theorem bind_marked (action : Action Resolver (Element × LinkOutcome)) : (do
    let (linked, outcome) ← action
    match outcome with
    | .failed => return (linked.markFailed, .failed)
    | _ => return (linked, outcome)) = action >>= fun answer => pure (marked answer) := by
  refine congrArg (action >>= ·) (funext fun answer => ?_)
  obtain ⟨linked, outcome⟩ := answer
  cases outcome <;> rfl

/-- To mark an element does nothing to the resolver. -/
theorem linkElement_on (el : Element) (r : Resolver) :
    (linkElement el).on r = (((draft el).on r).1.map marked, ((draft el).on r).2) := by
  have same : linkElement el = draft el >>= fun answer => pure (marked answer) := by
    rw [linkElement]
    split
    next asked => exact draft_of_entry asked ▸ bind_marked (linkEntry el)
    next asked => exact draft_of_section asked ▸ bind_marked (linkSection el)
    next notEntry notSection => exact draft_of_term notEntry notSection ▸ bind_marked (linkTerm el)
  rw [same, on_bind]
  cases (draft el).on r with
  | mk answer s => cases answer <;> rfl

/-- What linking an element answers with and the resolver that it leaves, by the lookup that the link
is for. -/
inductive Exit (r : Resolver) (el : Element) :
    Except Failure (Element × LinkOutcome) → Resolver → Prop
  /-- The element does not say what it links to. -/
  | refused {severity : Severity} {text : String}
    (error : severity = .fatal ∨ severity = .linkError) :
    Exit r el (.ok (el.markFailed, .failed)) (r.report severity text el.line)
  | term {request : LinkRequest} {link : ResolvedLink} {s : Resolver}
    (ran : (resolve request).on r = (.ok link, s)) :
    Exit r el (.ok (el.linkTo link.url, .term)) s
  | noTerm {request : LinkRequest} {kind : LinkKind} {text : String} {stage : SearchStage}
    {s : Resolver} (notEntry : el.attr? "data-link-type" ≠ some "biblio")
    (notSection : el.attr? "data-link-type" ≠ some "section") (made : el.linkRequest = .ok request)
    (ran : (resolve request).on r = (.error (.notFound kind text stage), s)) :
    Exit r el (.ok (el.markFailed, .failed)) s
  | termBroken {request : LinkRequest} {failure : Failure} {s : Resolver}
    (ran : (resolve request).on r = (.error failure, s))
    (broken : ∀ kind text stage, failure ≠ .notFound kind text stage) : Exit r el (.error failure) s
  | entry {request : BiblioRequest} {e : BiblioEntry} {s : Resolver} (name : String)
    (asked : el.attr? "data-link-type" = some "biblio")
    (ran : (cite request).on r = (.ok (some e), s)) :
    Exit r el (.ok (linkToEntry el name, .entry)) s
  | noEntry {request : BiblioRequest} {s : Resolver}
    (asked : el.attr? "data-link-type" = some "biblio")
    (standIn : request.standIn = (el.attr? "data-okay-to-fail").isSome)
    (quiet : request.quiet = (el.attr? "data-okay-to-fail").isSome)
    (ran : (cite request).on r = (.ok none, s)) : Exit r el (.ok (el.markFailed, .failed)) s
  | entryBroken {request : BiblioRequest} {failure : Failure} {s : Resolver}
    (ran : (cite request).on r = (.error failure, s)) : Exit r el (.error failure) s
  | «section» {spec : String} {status : Option Status} {heading : Heading} {s : Resolver}
    (asked : el.attr? "data-link-type" = some "section")
    (ran : (findSection spec (Text.trim el.linkText) status).on r = (.ok heading, s)) :
    Exit r el (.ok (linkToSection el (Text.trim el.linkText) heading, .section)) s
  | noSection {spec id : String} {status : Option Status} {failure : Failure} {s : Resolver}
    (ran : (findSection spec id status).on r = (.error failure, s)) :
    Exit r el (.ok (el.markFailed, .failed)) (s.report .linkError failure.message el.line)
  | sectionBroken {spec id : String} {status : Option Status} {failure : Failure} {s : Resolver}
    (ran : (findSection spec id status).on r = (.error failure, s)) (broken : ¬ failure.NoSection) :
    Exit r el (.error failure) s

variable (r : Resolver) {el : Element}

theorem exit_of_linkTerm (notEntry : el.attr? "data-link-type" ≠ some "biblio")
    (notSection : el.attr? "data-link-type" ≠ some "section") :
    Exit r el (((linkTerm el).on r).1.map marked) ((linkTerm el).on r).2 := by
  rw [linkTerm]
  cases made : el.linkRequest with
  | error failure => exact .refused (.inl rfl)
  | ok request =>
    simp only [on_bind, on_attempt]
    cases ran : (resolve request).on r with
    | mk answer s =>
      simp only
      -- A request without a target is caught here, any other failure is passed on.
      split
      next link => exact .term ran
      next kind text stage => exact .noTerm notEntry notSection made ran
      next failure broken => exact .termBroken ran broken

theorem exit_of_linkEntry (asked : el.attr? "data-link-type" = some "biblio") :
    Exit r el (((linkEntry el).on r).1.map marked) ((linkEntry el).on r).2 := by
  -- Whether a citation is normative makes no difference to its exits.
  have cited (normative : Bool) :
      Exit r el (((linkEntryAs el normative).on r).1.map marked) ((linkEntryAs el normative).on r).2 := by
    rw [linkEntryAs]
    cases el.readAttr "data-biblio-status" Status.read with
    | error failure => exact .refused (.inl rfl)
    | ok status =>
      simp only [on_bind]
      split
      next entry s ran =>
        cases entry with
        | some e => exact .entry _ asked ran
        | none => exact .noEntry asked rfl rfl ran
      next failure s ran => exact .entryBroken ran
  rw [linkEntry]
  split
  next => exact cited true
  next => exact cited false
  next => exact cited false
  next => exact .refused (.inl rfl)

theorem exit_of_linkSection (asked : el.attr? "data-link-type" = some "section") :
    Exit r el (((linkSection el).on r).1.map marked) ((linkSection el).on r).2 := by
  rw [linkSection]
  cases el.attr? "data-link-spec" with
  | none => exact .refused (.inr rfl)
  | some spec =>
    simp only
    cases el.readAttr "data-link-status" Status.read with
    | error failure => exact .refused (.inl rfl)
    | ok status =>
      simp only [on_bind, on_attempt]
      cases ran : (findSection spec (Text.trim el.linkText) status).on r with
      | mk answer s =>
        cases answer with
        | ok heading => exact .section asked ran
        | error failure =>
          -- Only these two say that the headings were read and the section is not among them.
          cases failure with
          | unknownSection spec id => exact .noSection ran
          | ambiguousSection spec id pages => exact .noSection ran
          | _ => exact .sectionBroken ran fun missing => by cases missing

/-- Linking an element comes to one of the exits. -/
theorem exit_of_linkElement {r s : Resolver} {answer : Except Failure (Element × LinkOutcome)}
    (ran : (linkElement el).on r = (answer, s)) : Exit r el answer s := by
  rw [linkElement_on] at ran
  obtain ⟨rfl, rfl⟩ := Prod.mk.inj ran
  by_cases entry : el.attr? "data-link-type" = some "biblio"
  · rw [draft_of_entry entry]
    exact exit_of_linkEntry r entry
  by_cases «section» : el.attr? "data-link-type" = some "section"
  · rw [draft_of_section «section»]
    exact exit_of_linkSection r «section»
  · rw [draft_of_term entry «section»]
    exact exit_of_linkTerm r entry «section»

end Resolver

end SpecLink
