import SpecLink.Text.Decimal

/-!
# Decimal numerals read back

The shortest numeral of a number is made of digits, begins with a zero only if it is one, and
denotes the number. Main statement: `readWord?_showWord`.
-/
namespace SpecLink.Text

@[simp] theorem digitsValue_toDigits (n : Nat) : digitsValue (Nat.toDigits 10 n) = n :=
  Nat.ofDigitChars_ten_toDigits

theorem isDigit_of_mem_toDigits {n : Nat} {c : Char} (member : c ∈ Nat.toDigits 10 n) :
    c.isDigit = true :=
  Nat.isDigit_of_mem_toDigits (by decide) (by decide) member

theorem all_isDigit_toDigits (n : Nat) : (Nat.toDigits 10 n).all Char.isDigit = true :=
  List.all_eq_true.2 fun _ => isDigit_of_mem_toDigits

theorem head?_toDigits {n : Nat} (positive : 0 < n) : (Nat.toDigits 10 n).head? ≠ some '0' := by
  -- The first digit of a longer numeral is that of a tenth of the number.
  induction n using Nat.strongRecOn with
  | ind n ih =>
    by_cases short : n < 10
    · have check : ∀ d < 10, 0 < d → [Nat.digitChar d].head? ≠ some '0' := by decide
      rw [Nat.toDigits_of_lt_base short]
      exact check n short positive
    · have long : 10 ≤ n := Nat.not_lt.1 short
      have shorter := ih (n / 10) (by omega) (by omega)
      obtain ⟨first, rest, digits⟩ :=
        List.exists_cons_of_ne_nil (Nat.toDigits_ne_nil (n := n / 10) (b := 10))
      rw [Nat.toDigits_of_base_le (by decide) long]
      rw [digits] at shorter ⊢
      exact shorter

/-- A numeral ends where something other than a digit follows. -/
theorem toDigits_append_inj {n m : Nat} {mark : Char} (notDigit : mark.isDigit = false)
    {s t : List Char} (same : Nat.toDigits 10 n ++ mark :: s = Nat.toDigits 10 m ++ mark :: t) :
    n = m ∧ s = t := by
  have digits (k : Nat) (rest : List Char) :
      (Nat.toDigits 10 k ++ mark :: rest).takeWhile Char.isDigit = Nat.toDigits 10 k := by
    rw [List.takeWhile_append_of_pos fun _ => isDigit_of_mem_toDigits]
    simp [notDigit]
  have numerals : Nat.toDigits 10 n = Nat.toDigits 10 m := by
    rw [← digits n s, same, digits]
  have numbers : n = m := by
    rw [← digitsValue_toDigits n, numerals, digitsValue_toDigits]
  rw [numerals] at same
  exact ⟨numbers, (List.cons.inj (List.append_cancel_left same)).2⟩

theorem readWord?_of_digits {s : String} (digits : s.toList.all Char.isDigit = true)
    (nonempty : s.toList ≠ []) (bounded : digitsValue s.toList < UInt32.size) :
    readWord? s = some (.ofNat (digitsValue s.toList)) := by
  simp only [readWord?]
  split
  next rest signed =>
    rw [signed, List.all_cons] at digits
    exact absurd (Bool.and_eq_true_iff.1 digits).1 (by decide)
  next unsigned =>
    rw [if_neg, if_pos bounded]
    simp [List.isEmpty_eq_false_iff.2 nonempty, digits]

/-- A word comes back from its numeral. -/
@[simp] theorem readWord?_showWord (n : UInt32) : readWord? (showWord n) = some n := by
  have numeral : (showWord n).toList = Nat.toDigits 10 n.toNat := Nat.toList_repr
  rw [readWord?_of_digits (by rw [numeral, all_isDigit_toDigits])
    (by rw [numeral]; exact Nat.toDigits_ne_nil)
    (by rw [numeral, digitsValue_toDigits]; exact n.toNat_lt),
    numeral, digitsValue_toDigits, UInt32.ofNat_toNat]

end SpecLink.Text
