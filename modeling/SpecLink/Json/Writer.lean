import SpecLink.Json.Basic

/-!
# Writing JSON texts

Two layouts: compact, without any blank, and indented by two blanks per level. Only quotes,
backslashes and control characters are escaped.
-/
namespace SpecLink.Json

/-- One character of a string. -/
def escapeChar (c : Char) : List Char :=
  if c == '"' || c == '\\' then ['\\', c]
  else if c == '\x08' then ['\\', 'b']
  else if c == '\x0c' then ['\\', 'f']
  else if c == '\n' then ['\\', 'n']
  else if c == '\r' then ['\\', 'r']
  else if c == '\t' then ['\\', 't']
  else if c.toNat < 32 then
    ['\\', 'u', '0', '0', Nat.digitChar (c.toNat / 16), Nat.digitChar (c.toNat % 16)]
  else [c]

/-- A string between quotes. One without a text is written as an unpaired surrogate. -/
def writeText : Option String → String
  | some s => String.ofList ('"' :: s.toList.flatMap escapeChar ++ ['"'])
  | none => "\"\\ud800\""

mutual

def write : Json → String
  | .null => "null"
  | .bool value => if value then "true" else "false"
  | .number numeral => numeral
  | .string text => writeText text
  | .array items => "[" ++ ",".intercalate (writeItems items) ++ "]"
  | .object members => "\x7b" ++ ",".intercalate (writeMembers members) ++ "\x7d"

def writeItems : List Json → List String
  | [] => []
  | item :: rest => item.write :: writeItems rest

def writeMembers : List (Option String × Json) → List String
  | [] => []
  | (name, value) :: rest => (writeText name ++ ":" ++ value.write) :: writeMembers rest

end

/-- The line break before a part at the given depth. -/
def newline (depth : Nat) : String := String.ofList ('\n' :: List.replicate (2 * depth) ' ')

/-- Parts at depth `depth + 1` between brackets. -/
def block (left right : String) (depth : Nat) (parts : List String) : String :=
  if parts.isEmpty then left ++ right
  else left ++ newline (depth + 1) ++ ("," ++ newline (depth + 1)).intercalate parts ++
    newline depth ++ right

mutual

/-- The indented layout of a value that starts at the given depth. -/
def writeIndented (depth : Nat) : Json → String
  | .null => "null"
  | .bool value => if value then "true" else "false"
  | .number numeral => numeral
  | .string text => writeText text
  | .array items => block "[" "]" depth (indentedItems (depth + 1) items)
  | .object members => block "\x7b" "\x7d" depth (indentedMembers (depth + 1) members)

def indentedItems (depth : Nat) : List Json → List String
  | [] => []
  | item :: rest => item.writeIndented depth :: indentedItems depth rest

def indentedMembers (depth : Nat) : List (Option String × Json) → List String
  | [] => []
  | (name, value) :: rest =>
    (writeText name ++ ": " ++ value.writeIndented depth) :: indentedMembers depth rest

end

/-- The indented layout of a whole text. -/
def writePretty (value : Json) : String := value.writeIndented 0

end SpecLink.Json
