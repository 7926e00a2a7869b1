import SpecLink.Json.Numeral

/-!
# JSON values

A value as it was written: members keep their order and repetitions, numbers their numeral. A string
whose escapes leave a surrogate without its partner denotes no text; it can be skipped, not read.
-/
namespace SpecLink

inductive Json where
  | null
  | bool (value : Bool)
  | number (numeral : String)
  /-- The text of a string, or none if an unpaired surrogate leaves it without one. -/
  | string (text : Option String)
  | array (items : List Json)
  | object (members : List (Option String × Json))
  deriving Inhabited

namespace Json

def text (s : String) : Json := .string (some s)

def nat (n : Nat) : Json := .number n.repr

/-- An object whose member names are given as texts. -/
def record (members : List (String × Json)) : Json :=
  .object (members.map fun m => (some m.1, m.2))

/-- An optional value, written as null if it is missing. -/
def option {α : Type} (write : α → Json) : Option α → Json
  | some a => write a
  | none => .null

def list {α : Type} (write : α → Json) (items : List α) : Json := .array (items.map write)

mutual

/-- The whole value can be read: strings have a text, numbers are finite, and at most `room`
containers are open at once. -/
def isReadable : Json → (room : Nat) → Bool
  | .null, _ => true
  | .bool _, _ => true
  | .number numeral, _ => Numeral.isFiniteText numeral
  | .string text, _ => text.isSome
  | .array _, 0 => false
  | .array items, room + 1 => areReadable items room
  | .object _, 0 => false
  | .object members, room + 1 => areReadableMembers members room

def areReadable : List Json → (room : Nat) → Bool
  | [], _ => true
  | item :: rest, room => item.isReadable room && areReadable rest room

def areReadableMembers : List (Option String × Json) → (room : Nat) → Bool
  | [], _ => true
  | (name, value) :: rest, room =>
    name.isSome && value.isReadable room && areReadableMembers rest room

end

end Json

end SpecLink
