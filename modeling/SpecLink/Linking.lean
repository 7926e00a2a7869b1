import SpecLink.Autolink

/-!
# Linking a document's elements

Definitions are collected from elements, then links are resolved in order. A link that resolves gets
a target, one that does not is reported and marked. Any failure other than a link without a target
ends the pass; the links before it keep their targets.
-/
namespace SpecLink

/-- Counts of a linking pass. -/
structure LinkReport where
  definitions : Nat := 0
  resolved : Nat := 0
  failed : Nat := 0
  /-- Resolved links to bibliography entries. -/
  biblio : Nat := 0
  /-- Resolved links to sections. -/
  sections : Nat := 0
  deriving DecidableEq, Repr

namespace LinkReport

def add (a b : LinkReport) : LinkReport where
  definitions := a.definitions + b.definitions
  resolved := a.resolved + b.resolved
  failed := a.failed + b.failed
  biblio := a.biblio + b.biblio
  sections := a.sections + b.sections

def toJson (r : LinkReport) : Json := .record [
  ("definitions", .nat r.definitions),
  ("resolved", .nat r.resolved),
  ("failed", .nat r.failed),
  ("biblio", .nat r.biblio),
  ("sections", .nat r.sections)]

end LinkReport

/-- What became of a link. -/
inductive LinkOutcome where
  | failed
  | term
  | entry
  | section
  deriving DecidableEq, Repr

/-- What a link adds to the report. -/
def LinkOutcome.count : LinkOutcome → LinkReport
  | .failed => { failed := 1 }
  | .term => { resolved := 1 }
  | .entry => { resolved := 1, biblio := 1 }
  | .section => { resolved := 1, sections := 1 }

namespace Resolver

/-- An element that stays without a target, with a report. -/
def refuse (el : Element) (severity : Severity) (text : String) :
    Action Resolver (Element × LinkOutcome) := do
  modify fun r => r.report severity text el.line
  return (el, .failed)

/-- Adds the definition that an element makes and answers with the number of definitions added. A
bad definition is reported and left out. -/
def collectElement (el : Element) : Action Resolver Nat := do
  match el.definition? with
  | .ok none => return 0
  | .error failure =>
    modify fun r => r.report .fatal failure.message el.line
    return 0
  | .ok (some d) =>
    match ← (define d).attempt with
    -- One element counts once, however many texts it is known by.
    | .ok _ => return 1
    -- To define in the wrong phase is the caller's mistake and not the document's.
    | .error (.phase fault) => throw (.phase fault)
    | .error failure =>
      modify fun r => r.report .fatal failure.message el.line
      return 0

/-- Adds the definitions that elements make and answers with their number. -/
def collect (els : List Element) : Action Resolver Nat :=
  els.foldlM (fun n el => do return n + (← collectElement el)) 0

/-- Links an element to a term. -/
def linkTerm (el : Element) : Action Resolver (Element × LinkOutcome) := do
  match el.linkRequest with
  | .error failure => refuse el .fatal (failure.message ++ ":\n  " ++ el.describe)
  | .ok request =>
    match ← (resolve request).attempt with
    | .ok link => return (el.linkTo link.url, .term)
    -- Whatever there is to report has been reported.
    | .error (.notFound ..) => return (el, .failed)
    | .error failure => throw failure

/-- The key between the brackets of a citation `[[key]]` or `[[!key]]`. -/
def citedKey (written : String) : String :=
  let opened := Text.dropPairs '[' (Text.trim written).toList
  let closed := (Text.dropPairs ']' opened.reverse).reverse
  Text.trim (String.ofList (closed.dropWhile (· == '!')))

/-- What an entry is called in a citation: the name that it prefers, or its key as the author writes
it. -/
def citedName (e : BiblioEntry) (key : String) : String :=
  match e.preferredAlias with
  | some name => name
  | none => if Text.asciiLowercase e.key == Text.asciiLowercase key then key else e.key

/-- The element with the entry that it cites. -/
def linkToEntry (el : Element) (name : String) : Element :=
  let shown := if Text.isBlankText el.text then { el with text := s!"[{name}]" } else el
  ((shown.setAttr "href" ("#biblio-" ++ Text.lowercase name)).setAttr
    "data-biblio-display" name).promote

/-- Cites the entry that an element asks for. -/
def linkEntryAs (el : Element) (normative : Bool) : Action Resolver (Element × LinkOutcome) := do
  match el.readAttr "data-biblio-status" Status.read with
  | .error failure => refuse el .fatal failure.message
  | .ok status =>
    let key := citedKey el.linkText
    let tolerant := (el.attr? "data-okay-to-fail").isSome
    let entry ← cite {
      key, status, normative
      standIn := tolerant
      quiet := tolerant
      allowObsolete := (el.attr? "data-biblio-obsolete").isSome }
    match entry with
    | some e => return (linkToEntry el (citedName e key), .entry)
    | none => return (el, .failed)

/-- Links an element to a bibliography entry. -/
def linkEntry (el : Element) : Action Resolver (Element × LinkOutcome) := do
  match el.attr? "data-biblio-type" with
  | some "normative" => linkEntryAs el true
  | some "informative" | none => linkEntryAs el false
  | some other => refuse el .fatal <|
      s!"Unknown data-biblio-type value '{other}' on {el.describe}. " ++
        "Only 'normative' and 'informative' allowed."

/-- The text of a link to a section. -/
def sectionText (h : Heading) : String :=
  match h.number with
  | some number => s!"§ {number} {h.text}"
  | none => s!"§ {h.text}"

/-- The element with the section that it links to. A text that says no more than the id gives way to
the heading. -/
def linkToSection (el : Element) (id : String) (h : Heading) : Element :=
  let text := Text.trim el.text
  let shown := if text.isEmpty || text == id then { el with text := sectionText h } else el
  shown.linkTo h.url

/-- Links an element to a section of another spec. -/
def linkSection (el : Element) : Action Resolver (Element × LinkOutcome) := do
  match el.attr? "data-link-spec" with
  | none => refuse el .linkError ("Section autolink is missing its spec: " ++ el.describe)
  | some spec =>
    match el.readAttr "data-link-status" Status.read with
    | .error failure => refuse el .fatal failure.message
    | .ok status =>
      let id := Text.trim el.linkText
      match ← (findSection spec id status).attempt with
      | .ok heading => return (linkToSection el id heading, .section)
      | .error failure =>
        match failure with
        -- Unreadable heading data ends the pass.
        | .unknownSection .. | .ambiguousSection .. => refuse el .linkError failure.message
        | _ => throw failure

/-- Links an element without a target. -/
def linkElement (el : Element) : Action Resolver (Element × LinkOutcome) := do
  let (linked, outcome) ← match el.attr? "data-link-type" with
    | some "biblio" => linkEntry el
    | some "section" => linkSection el
    | _ => linkTerm el
  match outcome with
  | .failed => return (linked.markFailed, .failed)
  | _ => return (linked, outcome)

/-- The elements after a linking pass, and its report or the failure that ended it. -/
structure LinkPass where
  elements : List Element := []
  outcome : Except Failure LinkReport := .ok {}

/-- Puts an element in front of a pass. -/
def LinkPass.after (el : Element) (count : LinkReport) (pass : LinkPass) : LinkPass :=
  ⟨el :: pass.elements, pass.outcome.map count.add⟩

/-- Links elements in order. Elements that have a target are left alone. -/
def linkElements : List Element → Resolver → LinkPass × Resolver
  | [], r => ({}, r)
  | el :: rest, r =>
    if el.isLinked then
      let (pass, r) := linkElements rest r
      (pass.after el {}, r)
    else
      match (linkElement el).on r with
      | (.ok (linked, outcome), r) =>
        let (pass, r) := linkElements rest r
        (pass.after linked outcome.count, r)
      -- This element and those after it stay as they are.
      | (.error failure, r) => (⟨el :: rest, .error failure⟩, r)

end Resolver

end SpecLink
