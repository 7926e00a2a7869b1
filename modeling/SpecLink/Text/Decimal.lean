/-!
# Decimal numerals

Natural numbers bounded by the largest 32-bit word, as they stand in spec levels and line numbers.
-/
namespace SpecLink.Text

/-- The number that a numeral denotes after one more digit. -/
def appendDigit (n : Nat) (digit : Char) : Nat := 10 * n + (digit.toNat - '0'.toNat)

/-- The number that decimal digits denote. -/
def digitsValue (cs : List Char) : Nat := cs.foldl appendDigit 0

/-- Reads a word: an optional plus sign, then one or more ASCII digits. Leading zeros are allowed,
numbers above the largest word are not. -/
def readWord? (s : String) : Option UInt32 :=
  let digits := match s.toList with
    | '+' :: rest => rest
    | cs => cs
  if digits.isEmpty || !digits.all Char.isDigit then none
  else
    let n := digitsValue digits
    if n < UInt32.size then some (UInt32.ofNat n) else none

/-- The shortest numeral of a word. -/
def showWord (n : UInt32) : String := n.toNat.repr

end SpecLink.Text
