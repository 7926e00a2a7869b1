import SpecLink.Json.Reader
import SpecLink.Proofs.Text.Decimal

/-!
# Numerals as they are written

The digits of a natural number are a numeral, finite if the number is a word, and numerals consist
of characters that stand without quotes. Main statements: `parse?_toDigits`, `isFiniteText_word` and
`bareValue?_numeral`.
-/
namespace SpecLink.Json

theorem isBareChar_of_isDigit {c : Char} (digit : c.isDigit = true) : isBareChar c = true := by
  simp [isBareChar, Char.isAlphanum, digit]

theorem all_isBareChar_of_isDigit {cs : List Char} (digits : cs.all Char.isDigit = true) :
    cs.all isBareChar = true :=
  List.all_eq_true.2 fun c member => isBareChar_of_isDigit (List.all_eq_true.1 digits c member)

namespace Numeral

/-- The digits of a natural number are a numeral without sign, fraction and exponent. -/
theorem parse?_toDigits (n : Nat) :
    parse? (Nat.toDigits 10 n) = some ⟨false, Nat.toDigits 10 n, [], 0⟩ := by
  have digits := Text.all_isDigit_toDigits n
  have nonempty : (Nat.toDigits 10 n).isEmpty = false :=
    List.isEmpty_eq_false_iff.2 Nat.toDigits_ne_nil
  have canonical : ((Nat.toDigits 10 n).length > 1 &&
      (Nat.toDigits 10 n).head? == some '0') = false := by
    rcases Nat.eq_zero_or_pos n with rfl | positive
    · rfl
    · rw [Bool.and_eq_false_iff, beq_eq_false_iff_ne]
      exact .inr (Text.head?_toDigits positive)
  simp only [parse?]
  split
  next rest signed =>
    rw [signed, List.all_cons] at digits
    exact absurd (Bool.and_eq_true_iff.1 digits).1 (by decide)
  next unsigned =>
    have whole : (Nat.toDigits 10 n ++ []).takeWhile Char.isDigit = Nat.toDigits 10 n ++ [] :=
      List.takeWhile_append_of_pos (List.all_eq_true.1 digits)
    have rest : (Nat.toDigits 10 n ++ []).dropWhile Char.isDigit = [] :=
      List.dropWhile_append_of_pos (List.all_eq_true.1 digits)
    rw [List.append_nil] at whole rest
    rw [whole, rest, nonempty, canonical]
    rfl

theorem takeDigits_nil (n : Nat) : takeDigits n [] = (n, []) := rfl

theorem takeDigits_cons (n : Nat) (digit : Char) (rest : List Char) :
    takeDigits n (digit :: rest) =
      if Text.appendDigit n digit < Nat.pow 2 64 then takeDigits (Text.appendDigit n digit) rest
      else (n, digit :: rest) := rfl

theorem takeDigits_of_lt {lead : Nat} {digits : List Char}
    (bounded : digits.foldl Text.appendDigit lead < Nat.pow 2 64) :
    takeDigits lead digits = (digits.foldl Text.appendDigit lead, []) := by
  induction digits generalizing lead with
  | nil => rfl
  | cons digit rest ih =>
    have grows (n : Nat) (cs : List Char) : n ≤ cs.foldl Text.appendDigit n := by
      induction cs generalizing n with
      | nil => exact Nat.le_refl n
      | cons c cs ih => exact Nat.le_trans (by simp only [Text.appendDigit]; omega) (ih _)
    rw [takeDigits_cons, if_pos (Nat.lt_of_le_of_lt (grows _ rest) bounded), ih bounded]
    rfl

theorem roundBits_of_lt {n : Nat} (small : n < Nat.pow 2 53) : roundBits n = n := by
  have low : n.log2 - 52 = 0 := by
    rcases Nat.eq_zero_or_pos n with rfl | positive
    · decide
    · have := (Nat.log2_lt (Nat.ne_of_gt positive)).2 small
      omega
  simp [roundBits, low, Nat.mod_one]

/-- The digits of a word denote a finite number. -/
theorem isFiniteText_word (n : UInt32) : isFiniteText n.toNat.repr = true := by
  have bound : n.toNat < 2 ^ 32 := n.toNat_lt
  have value : (Nat.toDigits 10 n.toNat).foldl Text.appendDigit 0 = n.toNat :=
    Text.digitsValue_toDigits n.toNat
  have lead : takeDigits 0 (Nat.toDigits 10 n.toNat) = (n.toNat, []) := by
    rw [takeDigits_of_lt (by rw [value]; exact Nat.lt_trans bound (by decide)), value]
  have finite : n.toNat < overflowLimit := Nat.lt_trans bound (by decide +kernel)
  simp [isFiniteText, parse?_toDigits, isFinite, scaled, lead, takeDigits_nil,
    roundBits_of_lt (Nat.lt_trans bound (by decide)), roundBits_of_lt (n := 1) (by decide), finite]

theorem all_isBareChar_of_exponent? {cs : List Char} {size : Int}
    (read : exponent? cs = some size) : cs.all isBareChar = true := by
  cases cs with
  | nil => rfl
  | cons e rest =>
    have bareDigits {digits : List Char}
        (accepted : ¬ (digits.isEmpty || !digits.all Char.isDigit) = true) :
        digits.all isBareChar = true :=
      all_isBareChar_of_isDigit (by simp_all)
    simp only [exponent?, Option.ite_none_left_eq_some] at read
    obtain ⟨known, accepted, -⟩ := read
    have letter : e = 'e' ∨ e = 'E' := by simpa [Decidable.or_iff_not_imp_left] using known
    have bareLetter : isBareChar e = true := by rcases letter with rfl | rfl <;> decide
    rw [List.all_cons, bareLetter, Bool.true_and]
    -- What follows the letter is digits, perhaps behind a sign.
    split at accepted
    · exact (List.all_cons ..).trans (bareDigits accepted)
    · exact (List.all_cons ..).trans (bareDigits accepted)
    · exact bareDigits accepted

theorem all_isBareChar_of_digits {cs : List Char}
    (bareRest : (cs.dropWhile Char.isDigit).all isBareChar = true) : cs.all isBareChar = true := by
  rw [← List.takeWhile_append_dropWhile (l := cs) (p := Char.isDigit), List.all_append,
    all_isBareChar_of_isDigit List.all_takeWhile, bareRest]
  rfl

/-- No character of a numeral has to stand between quotes. -/
theorem all_isBareChar_of_parse? {cs : List Char} {n : Numeral} (read : parse? cs = some n) :
    cs.all isBareChar = true := by
  have withPoint {unsigned rest : List Char} {size : Int}
      (point : unsigned.dropWhile Char.isDigit = '.' :: rest)
      (exponent : exponent? (rest.dropWhile Char.isDigit) = some size) :
      unsigned.all isBareChar = true := by
    have bareRest := all_isBareChar_of_digits (all_isBareChar_of_exponent? exponent)
    exact all_isBareChar_of_digits (by rw [point, List.all_cons, bareRest]; decide)
  have withoutPoint {unsigned : List Char} {size : Int}
      (exponent : exponent? (unsigned.dropWhile Char.isDigit) = some size) :
      unsigned.all isBareChar = true :=
    all_isBareChar_of_digits (all_isBareChar_of_exponent? exponent)
  simp only [parse?, Option.bind_eq_bind, Option.bind_none, Option.ite_none_left_eq_some] at read
  obtain ⟨-, read⟩ := read
  split at read
  next rest point =>
    obtain ⟨-, read⟩ := Option.ite_none_left_eq_some.1 read
    obtain ⟨size, exponent, -⟩ := Option.bind_eq_some_iff.1 read
    split at point
    · exact (List.all_cons ..).trans (withPoint point exponent)
    · exact withPoint point exponent
  next =>
    obtain ⟨size, exponent, -⟩ := Option.bind_eq_some_iff.1 read
    split at exponent
    · exact (List.all_cons ..).trans (withoutPoint exponent)
    · exact withoutPoint exponent

end Numeral

/-- A numeral is read as a number, since it is none of the words. -/
theorem bareValue?_numeral {numeral : String} {n : Numeral}
    (read : Numeral.parse? numeral.toList = some n) :
    bareValue? numeral.toList = some (.number numeral) := by
  have notWord (word : String) (noNumeral : Numeral.parse? word.toList = none) :
      (numeral == word) = false := by
    rw [beq_eq_false_iff_ne]
    rintro rfl
    rw [noNumeral] at read
    cases read
  simp only [bareValue?, String.ofList_toList, notWord "null" (by decide),
    notWord "true" (by decide), notWord "false" (by decide), Bool.false_eq_true, if_false, read,
    Option.map_some]

end SpecLink.Json
