import SpecLink.Json.Basic

/-!
# Reading JSON texts

A text is read in two passes over its characters and tokens, each a fold of one step that can
refuse. The first pass cuts the text into tokens, the second keeps the open containers on a stack.
-/
namespace SpecLink.Json

/-- A bracket, a separator, or a value without parts. -/
inductive Token where
  | openArray
  | closeArray
  | openObject
  | closeObject
  | comma
  | colon
  | scalar (value : Json)

def hexDigit? (c : Char) : Option Nat :=
  if c.isDigit then some (c.toNat - '0'.toNat)
  else if 'a' ≤ c && c ≤ 'f' then some (c.toNat - 'a'.toNat + 10)
  else if 'A' ≤ c && c ≤ 'F' then some (c.toNat - 'A'.toNat + 10)
  else none

/-- The 16-bit unit that four hexadecimal digits denote. -/
def unit? (a b c d : Char) : Option Nat := do
  return ((← hexDigit? a) * 16 + (← hexDigit? b)) * 256 + (← hexDigit? c) * 16 + (← hexDigit? d)

def isHighSurrogate (unit : Nat) : Bool := 0xD800 ≤ unit && unit < 0xDC00

def isLowSurrogate (unit : Nat) : Bool := 0xDC00 ≤ unit && unit < 0xE000

/-- The character behind a backslash escape of one letter. -/
def escapedChar? : Char → Option Char
  | '"' => some '"'
  | '\\' => some '\\'
  | '/' => some '/'
  | 'b' => some '\x08'
  | 'f' => some '\x0c'
  | 'n' => some '\n'
  | 'r' => some '\r'
  | 't' => some '\t'
  | _ => none

/-- What has been read of a string: its characters in reverse, a high surrogate that waits for its
partner, and whether every surrogate so far found one. -/
structure Unescaped where
  done : List Char := []
  waiting : Option Nat := none
  paired : Bool := true

namespace Unescaped

def push (u : Unescaped) (c : Char) : Unescaped :=
  ⟨c :: u.done, none, u.paired && u.waiting.isNone⟩

def pushUnit (u : Unescaped) (unit : Nat) : Unescaped :=
  if isLowSurrogate unit then
    match u.waiting with
    | some high =>
      ⟨Char.ofNat (0x10000 + (high - 0xD800) * 0x400 + (unit - 0xDC00)) :: u.done, none, u.paired⟩
    | none => { u with paired := false }
  else if isHighSurrogate unit then ⟨u.done, some unit, u.paired && u.waiting.isNone⟩
  else u.push (Char.ofNat unit)

def text? (u : Unescaped) : Option String :=
  if u.paired && u.waiting.isNone then some (String.ofList u.done.reverse) else none

end Unescaped

/-- Reads what stands between the quotes of a string. Refuses unknown escapes and raw control
characters. -/
def unescape (u : Unescaped) : List Char → Option Unescaped
  | [] => some u
  | '\\' :: 'u' :: a :: b :: c :: d :: rest => do unescape (u.pushUnit (← unit? a b c d)) rest
  | '\\' :: c :: rest => do unescape (u.push (← escapedChar? c)) rest
  | c :: rest => if c == '\\' || c.toNat < 32 then none else unescape (u.push c) rest

/-- A word or numeral that stands without quotes. -/
def bareValue? (cs : List Char) : Option Json :=
  let written := String.ofList cs
  if written == "null" then some .null
  else if written == "true" then some (.bool true)
  else if written == "false" then some (.bool false)
  else (Numeral.parse? cs).map fun _ => .number written

/-- Where the first pass stands. The characters of an unfinished token are kept in reverse. -/
inductive Lexer where
  | between
  | bare (read : List Char)
  | quoted (read : List Char) (escaping : Bool)

def isBareChar (c : Char) : Bool := c.isAlphanum || c == '+' || c == '-' || c == '.'

/-- One character outside of any token. -/
def lexBetween (done : List Token) (c : Char) : Option (Lexer × List Token) :=
  if c == ' ' || c == '\n' || c == '\t' || c == '\r' then some (.between, done)
  else if c == '"' then some (.quoted [] false, done)
  else if c == '[' then some (.between, .openArray :: done)
  else if c == ']' then some (.between, .closeArray :: done)
  else if c == '\x7b' then some (.between, .openObject :: done)
  else if c == '\x7d' then some (.between, .closeObject :: done)
  else if c == ',' then some (.between, .comma :: done)
  else if c == ':' then some (.between, .colon :: done)
  else if isBareChar c then some (.bare [c], done)
  else none

def lexStep (state : Lexer × List Token) (c : Char) : Option (Lexer × List Token) :=
  match state with
  | (.between, done) => lexBetween done c
  | (.bare read, done) =>
    if isBareChar c then some (.bare (c :: read), done)
    else do lexBetween (.scalar (← bareValue? read.reverse) :: done) c
  | (.quoted read true, done) => some (.quoted (c :: read) false, done)
  | (.quoted read false, done) =>
    if c == '"' then do
      let u ← unescape {} read.reverse
      return (.between, .scalar (.string u.text?) :: done)
    else some (.quoted (c :: read) (c == '\\'), done)

def tokens? (cs : List Char) : Option (List Token) := do
  match ← cs.foldlM lexStep (.between, []) with
  | (.between, done) => return done.reverse
  | (.bare read, done) => return (.scalar (← bareValue? read.reverse) :: done).reverse
  | (.quoted .., _) => none

/-- A container that is not closed yet, with what it holds in reverse. -/
inductive Open where
  | array (items : List Json)
  | object (members : List (Option String × Json))
  | member (members : List (Option String × Json)) (name : Option String)

/-- What the next token may be. -/
inductive Expected where
  | value
  | itemOrClose
  | name
  | nameOrClose
  | colon
  | separator
  | finished (value : Json)

structure Builder where
  stack : List Open := []
  expected : Expected := .value

namespace Builder

/-- Puts a finished value into the innermost open container. -/
def place (stack : List Open) (value : Json) : Option Builder :=
  match stack with
  | [] => some ⟨[], .finished value⟩
  | .array items :: rest => some ⟨.array (value :: items) :: rest, .separator⟩
  | .member members name :: rest => some ⟨.object ((name, value) :: members) :: rest, .separator⟩
  | .object _ :: _ => none

/-- Starts or finishes a value. -/
def begin (stack : List Open) : Token → Option Builder
  | .scalar value => place stack value
  | .openArray => some ⟨.array [] :: stack, .itemOrClose⟩
  | .openObject => some ⟨.object [] :: stack, .nameOrClose⟩
  | _ => none

def step (b : Builder) (token : Token) : Option Builder :=
  match b.expected, b.stack, token with
  | .value, stack, token => begin stack token
  | .itemOrClose, .array items :: rest, .closeArray => place rest (.array items.reverse)
  | .itemOrClose, stack, token => begin stack token
  | .name, .object members :: rest, .scalar (.string name) =>
    some ⟨.member members name :: rest, .colon⟩
  | .nameOrClose, .object members :: rest, .scalar (.string name) =>
    some ⟨.member members name :: rest, .colon⟩
  | .nameOrClose, .object members :: rest, .closeObject => place rest (.object members.reverse)
  | .colon, stack, .colon => some ⟨stack, .value⟩
  | .separator, .array items :: rest, .comma => some ⟨.array items :: rest, .value⟩
  | .separator, .array items :: rest, .closeArray => place rest (.array items.reverse)
  | .separator, .object members :: rest, .comma => some ⟨.object members :: rest, .name⟩
  | .separator, .object members :: rest, .closeObject => place rest (.object members.reverse)
  | _, _, _ => none

end Builder

/-- The value that a whole text denotes. -/
def parse? (s : String) : Option Json := do
  match (← (← tokens? s.toList).foldlM Builder.step {}).expected with
  | .finished value => return value
  | _ => none

end SpecLink.Json
