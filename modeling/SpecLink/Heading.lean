import SpecLink.Failure
import SpecLink.Json.Record

/-!
# Section headings

The headings of a spec are listed by fragment. A spec of one page gives each fragment its headings
by status; a spec of several pages gives a fragment the pages that have it, and each page with its
fragment the headings.
-/
namespace SpecLink

structure Heading where
  number : Option String := none
  spec : Option String := none
  text : String
  url : String
  deriving DecidableEq, Repr

namespace Heading

def toJson (h : Heading) : Json := .record [
  ("number", .option .text h.number),
  ("spec", .option .text h.spec),
  ("text", .text h.text),
  ("url", .text h.url)]

def ofJson? (j : Json) : Option Heading := do
  match ← j.slots? ["number", "spec", "text", "url"] with
  | [number, spec, text, url] =>
    return {
      number := ← number.orNone Json.text?
      spec := ← spec.orNone Json.text?
      text := ← text.required Json.text?
      url := ← url.required Json.text? }
  | _ => none

end Heading

/-- What is known about a fragment. -/
inductive HeadingEntry where
  /-- The pages that have the fragment, each as a key of its own. -/
  | pages (keys : List String)
  | statuses (current snapshot : Option Heading)
  deriving DecidableEq, Repr

namespace HeadingEntry

def toJson : HeadingEntry → Json
  | .pages keys => .list .text keys
  | .statuses current snapshot => .record [
    ("current", .option Heading.toJson current),
    ("snapshot", .option Heading.toJson snapshot)]

/-- Reads an entry inside `depth` open containers. Its form is not named, so the whole value must be
readable: an array lists pages, an object gives headings. -/
def ofJson? (depth : Nat) (j : Json) : Option HeadingEntry := do
  if !j.isReadable (127 - depth) then none
  else
    match j with
    | .array _ => return .pages (← j.texts?)
    | .object _ =>
      match ← j.slots? ["current", "snapshot"] with
      | [current, snapshot] =>
        return .statuses (← current.orNone Heading.ofJson?) (← snapshot.orNone Heading.ofJson?)
      | _ => none
    | _ => none

end HeadingEntry

/-- The headings of one spec. -/
structure HeadingTable where
  spec : String
  entries : SortedMap HeadingEntry := ∅
  deriving DecidableEq

namespace HeadingTable

def isEmpty (table : HeadingTable) : Bool := table.entries.isEmpty

/-- The entries of a file of headings. -/
def entriesOfJson? (j : Json) : Option (SortedMap HeadingEntry) :=
  j.map? (HeadingEntry.ofJson? 1)

/-- The key of a section: a fragment gets the number sign that it lacks, a page stays. -/
def keyOf (id : String) : String :=
  if Text.startsWith "#" id || Text.startsWith "/" id then id else "#" ++ id

/-- The heading for a status, or the other one if it is missing. -/
def choose (status : Status) (current snapshot : Option Heading) : Option Heading :=
  match status with
  | .current => current <|> snapshot
  | .snapshot => snapshot <|> current

/-- The heading of the entry under a key that must not be a list of pages. -/
def headingAt? (table : HeadingTable) (status : Status) (key : String) : Option Heading :=
  match table.entries.get? key with
  | some (.statuses current snapshot) => choose status current snapshot
  | _ => none

/-- The heading of a section. A fragment that is not on exactly one page is ambiguous. -/
def find (table : HeadingTable) (id : String) (status : Status) : Except Failure Heading :=
  let key := keyOf id
  let unknown := Failure.unknownSection table.spec key
  match table.entries.get? key with
  -- A list of one page leads on to that page's own entry, once.
  | some (.pages [page]) => (table.headingAt? status page).elim (.error unknown) .ok
  | some (.pages pages) => .error (.ambiguousSection table.spec key (pages.map (table.spec ++ ·)))
  | _ => (table.headingAt? status key).elim (.error unknown) .ok

end HeadingTable

end SpecLink
