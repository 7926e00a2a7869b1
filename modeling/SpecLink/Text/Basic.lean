import SpecLink.Text.Ranges

/-!
# Blanks, words and lines

Texts are cut at blanks (Unicode white space), at line feeds and at single characters. Each function
on strings is the function of the same name on lists of characters, where the laws are stated.
-/
namespace SpecLink.Text

/-- Code points of white space. -/
def blankRanges : List (Nat × Nat) := [
  (0x9, 0xD), (0x20, 0x20), (0x85, 0x85), (0xA0, 0xA0), (0x1680, 0x1680), (0x2000, 0x200A),
  (0x2028, 0x2029), (0x202F, 0x202F), (0x205F, 0x205F), (0x3000, 0x3000)]

def isBlank (c : Char) : Bool := inRanges blankRanges c

/-- The characters from the first that is not blank. -/
def dropBlanks (cs : List Char) : List Char := cs.dropWhile isBlank

/-- The characters up to the last that is not blank. -/
def dropBlanksEnd (cs : List Char) : List Char := (dropBlanks cs.reverse).reverse

/-- The characters without blanks at either end. -/
def trimChars (cs : List Char) : List Char := dropBlanksEnd (dropBlanks cs)

def trimStart (s : String) : String := String.ofList (dropBlanks s.toList)

def trimEnd (s : String) : String := String.ofList (dropBlanksEnd s.toList)

def trim (s : String) : String := String.ofList (trimChars s.toList)

/-- The text holds nothing but blanks. -/
def isBlankText (s : String) : Bool := s.toList.all isBlank

/-- The maximal runs of characters that are not blank, in order. -/
def wordChars (cs : List Char) : List (List Char) :=
  (cs.splitOnP isBlank).filter fun word => !word.isEmpty

def words (s : String) : List String := (wordChars s.toList).map String.ofList

/-- The pieces between the occurrences of a character, empty ones included. -/
def splitAt (sep : Char) (s : String) : List String :=
  (s.toList.splitOnP (· == sep)).map String.ofList

/-- The text starts with the given one. -/
def startsWith (start s : String) : Bool := start.toList.isPrefixOf s.toList

/-- What follows the given start of a text. -/
def stripStart? (start s : String) : Option String :=
  (start.toList.isPrefixOf? s.toList).map String.ofList

/-- What precedes the given end of a text. -/
def stripEnd? (ending s : String) : Option String :=
  (ending.toList.isSuffixOf? s.toList).map String.ofList

/-- A line without the carriage return that may stand before its line feed. -/
def withoutReturn (line : String) : String := (stripEnd? "\r" line).getD line

/-- The lines of a text. A line feed ends a line, with or without a carriage return before it; a
final line feed begins no other line. -/
def lines (s : String) : List String :=
  let pieces := splitAt '\n' s
  let ended := pieces.dropLast.map withoutReturn
  -- A line that no line feed ends keeps its carriage return.
  let rest := pieces.getLastD ""
  if rest.isEmpty then ended else ended ++ [rest]

/-- Drops a character written twice from the front, as often as it stands there. -/
def dropPairs (c : Char) : List Char → List Char
  | a :: b :: rest => if a == c && b == c then dropPairs c rest else a :: b :: rest
  | cs => cs

/-- The text before the first occurrence of a character and the text after it. -/
def cutAt? (sep : Char) (s : String) : Option (String × String) :=
  match s.toList.dropWhile (· != sep) with
  | [] => none
  | _ :: after => some (String.ofList (s.toList.takeWhile (· != sep)), String.ofList after)

/-- ASCII letters become small; all other characters stay. -/
def asciiLowercase (s : String) : String := String.ofList (s.toList.map Char.toLower)

/-- ASCII letters become capital; all other characters stay. -/
def asciiUppercase (s : String) : String := String.ofList (s.toList.map Char.toUpper)

end SpecLink.Text
