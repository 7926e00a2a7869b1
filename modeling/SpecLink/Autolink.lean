import SpecLink.Element
import SpecLink.Resolver
import SpecLink.Text.TopLevel

/-!
# Definitions and links as elements

What the attributes of an element say: an element that defines a term is read as a definition, an
element that links to one as a request. An attribute that is missing and one that is empty may say
different things.
-/
namespace SpecLink

namespace Element

/-- The values of a list between commas; a comma between parentheses belongs to its value. -/
def scopeValues (value : String) : List String :=
  ((Text.splitTopLevel ',' value).map Text.trim).filter fun v => !v.isEmpty

/-- The terms that an attribute lists. -/
def scopeAttr (el : Element) (name : String) : SortedSet :=
  .ofList (scopeValues ((el.attr? name).getD ""))

/-- The linking text of an element: its own text, unless an attribute gives another. -/
def linkText (el : Element) : String := (el.attr? "data-lt").getD el.text

/-- Reads an attribute, if it is there. -/
def readAttr {α : Type} (el : Element) (name : String) (read : String → Except Failure α) :
    Except Failure (Option α) :=
  match el.attr? name with
  | some value => (read value).map some
  | none => .ok none

/-- The id without blanks around it, unless it is blank. -/
def id? (el : Element) : Option String := do
  let id := Text.trim (← el.attr? "id")
  if id.isEmpty then none else some id

/-- The definition that an element makes. An element of class `no-ref` makes none. -/
def definition? (el : Element) : Except Failure (Option Definition) := do
  if el.hasClass "no-ref" then return none
  let kind := (← el.readAttr "data-dfn-type" DefinitionKind.read).getD .dfn
  match el.id? with
  | none => throw (.parse (.noId el.describe) "document" (el.line.map UInt32.toNat))
  | some id => return some {
      id, kind
      texts := el.linkText
      localTexts := el.attr? "data-local-lt"
      scope := el.scopeAttr "data-dfn-for"
      line := el.line }

/-- Classes of prose that is not normative. -/
def informativeClasses : List String := ["note", "example", "non-normative", "informative"]

/-- A link of the element counts as normative. -/
def isNormative (el : Element) : Bool := !informativeClasses.any el.hasClass

/-- The kind of link that an element asks for if it does not say. -/
def defaultLinkKind (el : Element) : LinkKind := if el.tag == "i" then .maybe else .exact .dfn

/-- The spec that a link names, unless it is blank. -/
def linkSpec? (el : Element) : Option String := do
  let spec := Text.trim (← el.attr? "data-link-spec")
  if spec.isEmpty then none else some spec

/-- The request that an element makes. -/
def linkRequest (el : Element) : Except Failure LinkRequest := do
  let kind := (← el.readAttr "data-link-type" LinkKind.read).getD el.defaultLinkKind
  let status ← el.readAttr "data-link-status" Status.read
  return {
    kind, status
    text := el.linkText
    spec := el.linkSpec?
    scope := el.scopeAttr "data-link-for"
    allowError := !el.hasClass "no-error"
    line := el.line
    normative := el.isNormative }

/-- The element as a link: shorthands get the tag of a link. -/
def promote (el : Element) : Element :=
  if el.tag == "bs-link" || el.tag == "i" then { el with tag := "a" } else el

/-- The element with its target. -/
def linkTo (el : Element) (url : String) : Element := (el.setAttr "href" url).promote

/-- The element marked as a link without a target. -/
def markFailed (el : Element) : Element := el.setAttr "data-link-failed" ""

def isLinked (el : Element) : Bool := (el.attr? "href").isSome

end Element

end SpecLink
