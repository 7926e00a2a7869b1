import SpecLink.Text.Decimal

/-!
# Numerals

The written form of a number in JSON, and whether the number is in the range of binary64. A numeral
is valued in two roundings, as readers do that trade the last bit for speed: its leading digits, as
many as 64 bits hold, are rounded, and so is their product with a rounded power of ten. Near the end
of the range this is not the number nearest to the numeral.
-/
namespace SpecLink.Json

/-- The parts of a numeral as they are written. -/
structure Numeral where
  negative : Bool
  /-- The digits before the point. -/
  whole : List Char
  /-- The digits after the point; none if there is no point. -/
  fraction : List Char
  exponent : Int
  deriving DecidableEq

namespace Numeral

/-- The exponent at the end of a numeral; zero if nothing is written. -/
def exponent? : List Char → Option Int
  | [] => some 0
  | e :: rest =>
    if e != 'e' && e != 'E' then none
    else
      let (down, digits) := match rest with
        | '-' :: ds => (true, ds)
        | '+' :: ds => (false, ds)
        | ds => (false, ds)
      if digits.isEmpty || !digits.all Char.isDigit then none
      else
        let size : Int := (Text.digitsValue digits : Nat)
        some (if down then -size else size)

/-- Reads a numeral. Leading zeros and empty groups of digits are refused. -/
def parse? (written : List Char) : Option Numeral := do
  let (negative, unsigned) := match written with
    | '-' :: rest => (true, rest)
    | cs => (false, cs)
  let whole := unsigned.takeWhile Char.isDigit
  if whole.isEmpty || (whole.length > 1 && whole.head? == some '0') then none
  match unsigned.dropWhile Char.isDigit with
  | '.' :: rest =>
    let fraction := rest.takeWhile Char.isDigit
    if fraction.isEmpty then none
    return ⟨negative, whole, fraction, ← exponent? (rest.dropWhile Char.isDigit)⟩
  | rest => return ⟨negative, whole, [], ← exponent? rest⟩

/-- Appends digits to a number while it stays below `2 ^ 64`, and gives the digits left over. -/
def takeDigits (n : Nat) : List Char → Nat × List Char
  | [] => (n, [])
  | digit :: rest =>
    if Text.appendDigit n digit < 2 ^ 64 then takeDigits (Text.appendDigit n digit) rest
    else (n, digit :: rest)

/-- The leading digits as a whole number, and the power of ten that it is multiplied with. -/
def scaled (n : Numeral) : Nat × Int :=
  -- Digits left over before the point still count as places, those behind it do not.
  let (lead, places) := takeDigits 0 n.whole
  let (lead, ignored) := takeDigits lead n.fraction
  (lead, n.exponent + places.length - (n.fraction.length - ignored.length : Nat))

/-- The nearest number of at most 53 significant bits; of two, the one whose last bit is zero. -/
def roundBits (n : Nat) : Nat :=
  let unit := Nat.pow 2 (n.log2 - 52)
  let below := n / unit
  let rest := n % unit
  let up := 2 * rest > unit || (2 * rest == unit && below % 2 == 1)
  (if up then below + 1 else below) * unit

/-- Magnitudes from here on round to infinity in binary64. -/
def overflowLimit : Nat := Nat.pow 2 1024 - Nat.pow 2 970

/-- The value of the numeral is finite. -/
def isFinite (n : Numeral) : Bool :=
  let (lead, scale) := n.scaled
  -- No power of ten above the 308th is finite, and a division cannot overflow.
  lead == 0 || scale < 0 ||
    (scale ≤ 308 && roundBits lead * roundBits (Nat.pow 10 scale.toNat) < overflowLimit)

/-- The text is a numeral of finite value. -/
def isFiniteText (written : String) : Bool :=
  match parse? written.toList with
  | some n => n.isFinite
  | none => false

end Numeral

end SpecLink.Json
