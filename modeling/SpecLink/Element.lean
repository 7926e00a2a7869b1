import SpecLink.Json.Record
import SpecLink.Text.Basic

/-!
# Elements

What linking knows of an element of a document: its tag, its attributes, its text and its line.
-/
namespace SpecLink

structure Element where
  tag : String
  attributes : SortedMap String := ∅
  text : String := ""
  line : Option UInt32 := none
  deriving DecidableEq

namespace Element

def attr? (el : Element) (name : String) : Option String := el.attributes.get? name

def setAttr (el : Element) (name value : String) : Element :=
  { el with attributes := el.attributes.insert name value }

def removeAttr (el : Element) (name : String) : Element :=
  { el with attributes := el.attributes.erase name }

/-- The class is one of the words of the attribute `class`. -/
def hasClass (el : Element) (name : String) : Bool :=
  match el.attr? "class" with
  | some value => (Text.words value).contains name
  | none => false

/-- The element as it is shown in messages: the shorthand it was written as, or markup. -/
def describe (el : Element) : String :=
  match el.attr? "bs-autolink-syntax" with
  | some written => written
  | none =>
    let attributes := el.attributes.entries.map fun e => " " ++ e.1 ++ "=\"" ++ e.2 ++ "\""
    "<" ++ el.tag ++ String.join attributes ++ ">" ++ el.text ++ "</" ++ el.tag ++ ">"

def toJson (el : Element) : Json := .record [
  ("tag", .text el.tag),
  ("attributes", .record (el.attributes.entries.map fun e => (e.1, .text e.2))),
  ("text", .text el.text),
  ("line", .option (fun n => .nat n.toNat) el.line)]

def ofJson? (j : Json) : Option Element := do
  match ← j.slots? ["tag", "attributes", "text", "line"] with
  | [tag, attributes, text, line] =>
    return {
      tag := ← tag.required Json.text?
      attributes := ← attributes.withDefault ∅ (Json.map? Json.text?)
      text := ← text.withDefault "" Json.text?
      line := ← line.orNone Json.word? }
  | _ => none

end Element

end SpecLink
