/-!
# Splitting outside parentheses

A list inside a text is split at a separator that stands outside parentheses, so that pieces may
hold the separator between parentheses. A closing parenthesis without partner is an ordinary
character.
-/
namespace SpecLink.Text

/-- The number of open parentheses after one more character. -/
def depthAfter (depth : Nat) (c : Char) : Nat :=
  -- Subtraction stops at zero, so a partnerless closing parenthesis changes nothing.
  if c == '(' then depth + 1 else if c == ')' then depth - 1 else depth

/-- Puts a character in front of the first piece. -/
def extendFirst (c : Char) : List (List Char) → List (List Char)
  | [] => [[c]]
  | piece :: rest => (c :: piece) :: rest

/-- The pieces of the characters, inside the given number of open parentheses. -/
def splitOutside (sep : Char) (depth : Nat) : List Char → List (List Char)
  | [] => [[]]
  | c :: rest =>
    if c == sep && depth == 0 then [] :: splitOutside sep 0 rest
    else extendFirst c (splitOutside sep (depthAfter depth c) rest)

/-- The pieces of a text between separators outside parentheses. The separator is no parenthesis. -/
def splitTopLevel (sep : Char) (s : String) : List String :=
  (splitOutside sep 0 s.toList).map String.ofList

end SpecLink.Text
