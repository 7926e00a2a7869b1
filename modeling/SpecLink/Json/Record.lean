import SpecLink.Json.Basic
import SpecLink.SortedMap
import SpecLink.SortedSet

/-!
# Reading values of a known shape

A record is an object whose known members occur at most once, or an array that gives them by
position; members with other names are skipped unread. A name from a fixed list may also be written
as an object with that one member, null.
-/
namespace SpecLink.Json

variable {α β : Type}

def text? : Json → Option String
  | .string text => text
  | _ => none

def bool? : Json → Option Bool
  | .bool value => some value
  | _ => none

/-- A 32-bit word: digits alone, without sign, point or exponent. -/
def word? : Json → Option UInt32
  | .number numeral =>
    if numeral.toList.all Char.isDigit then Text.readWord? numeral else none
  | _ => none

def list? (read : Json → Option α) : Json → Option (List α)
  | .array items => items.mapM read
  | _ => none

def texts? : Json → Option (List String) := list? text?

def textSet? (j : Json) : Option SortedSet := j.texts?.map SortedSet.ofList

def pair? (first : Json → Option α) (second : Json → Option β) : Json → Option (α × β)
  | .array [a, b] => do return (← first a, ← second b)
  | _ => none

/-- Reads null as a missing value. -/
def nullable? (read : Json → Option α) : Json → Option (Option α)
  | .null => some none
  | j => (read j).map some

/-- An object read as a map. Of members with one name the last counts, but all must be readable. -/
def map? (read : Json → Option α) : Json → Option (SortedMap α)
  | .object members => do
    let entries ← members.mapM fun m => do return (← m.1, ← read m.2)
    return .ofList entries
  | _ => none

/-- A name that `named` knows. -/
def name? (named : String → Option α) : Json → Option α
  | .string (some s) => named s
  | .object [(some s, .null)] => named s
  | _ => none

/-- What a record has for one of its members. -/
inductive Slot where
  | value (j : Json)
  /-- An object without the member. -/
  | omitted
  /-- An array that ends before the member. -/
  | cut

namespace Slot

def required (slot : Slot) (read : Json → Option α) : Option α :=
  match slot with
  | .value j => read j
  | _ => none

/-- A missing member has the given value. -/
def withDefault (slot : Slot) (missing : α) (read : Json → Option α) : Option α :=
  match slot with
  | .value j => read j
  | _ => some missing

/-- The member may be null or left out of an object; an array must have it. -/
def optional (slot : Slot) (read : Json → Option α) : Option (Option α) :=
  match slot with
  | .value j => nullable? read j
  | .omitted => some none
  | .cut => none

/-- The member may be null or missing in every form. -/
def orNone (slot : Slot) (read : Json → Option α) : Option (Option α) :=
  slot.withDefault none (nullable? read)

end Slot

/-- The items of an array by position. -/
def positional : List String → List Json → List Slot
  | [], _ => []
  | _ :: names, item :: items => .value item :: positional names items
  | _ :: names, [] => .cut :: positional names []

/-- The slots of the named members, in the order of the names. -/
def slots? (names : List String) : Json → Option (List Slot)
  | .object members =>
    let written := members.map Prod.fst
    if written.contains none || names.any fun name => written.count (some name) > 1 then none
    else some <| names.map fun name =>
      match members.lookup (some name) with
      | some j => .value j
      | none => .omitted
  | .array items => if items.length ≤ names.length then some (positional names items) else none
  | _ => none

end SpecLink.Json
