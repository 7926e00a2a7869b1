import SpecLink.Proofs.Text.Lowercase

/-!
# Texts that differ in the case of ASCII letters

An ASCII letter and its small form are alike to everything that lowercase looks at, also to the
context that decides between the two small sigmas. Main statement: `lowercase_asciiLowercase`.
-/
namespace SpecLink.Text

/-- Two characters that lowercase does not tell apart. -/
structure SameLetter (c d : Char) : Prop where
  sigma : (c == 'Σ') = (d == 'Σ')
  dottedI : (c == 'İ') = (d == 'İ')
  image : lowercaseChar c = lowercaseChar d
  ignorable : isCaseIgnorable c = isCaseIgnorable d
  cased : isCased c = isCased d

/-- No range of case-ignorable characters holds an ASCII letter. -/
theorem isCaseIgnorable_of_letter {c : Char}
    (letter : 0x41 ≤ c.toNat ∧ c.toNat ≤ 0x5A ∨ 0x61 ≤ c.toNat ∧ c.toNat ≤ 0x7A) :
    isCaseIgnorable c = false := by
  have apart : ∀ range ∈ caseIgnorableRanges,
      range.2 < 0x41 ∨ 0x5A < range.1 ∧ range.2 < 0x61 ∨ 0x7A < range.1 := by decide +kernel
  refine Bool.eq_false_iff.2 fun ignorable => ?_
  obtain ⟨range, listed, inside⟩ := (inRanges_iff _ _).1 ignorable
  have := apart range listed
  omega

theorem sameLetter_capital : ∀ n < 26, SameLetter (Char.ofNat (0x41 + n)).toLower
    (Char.ofNat (0x41 + n)) := by
  have check : ∀ n < 26, ((Char.ofNat (0x41 + n)).toLower == 'Σ') = (Char.ofNat (0x41 + n) == 'Σ') ∧
      ((Char.ofNat (0x41 + n)).toLower == 'İ') = (Char.ofNat (0x41 + n) == 'İ') ∧
      lowercaseChar (Char.ofNat (0x41 + n)).toLower = lowercaseChar (Char.ofNat (0x41 + n)) ∧
      isCased (Char.ofNat (0x41 + n)).toLower = isCased (Char.ofNat (0x41 + n)) ∧
      (Char.ofNat (0x41 + n)).toNat = 0x41 + n ∧
      (Char.ofNat (0x41 + n)).toLower.toNat = 0x61 + n := by decide +kernel
  intro n small
  obtain ⟨sigma, dottedI, image, cased, capital, little⟩ := check n small
  refine ⟨sigma, dottedI, image, ?_, cased⟩
  rw [isCaseIgnorable_of_letter (by omega), isCaseIgnorable_of_letter (by omega)]

theorem sameLetter_toLower (c : Char) : SameLetter c.toLower c := by
  by_cases capital : 0x41 ≤ c.toNat ∧ c.toNat ≤ 0x5A
  · have same := sameLetter_capital (c.toNat - 0x41) (by omega)
    rwa [Nat.add_sub_cancel' capital.1, Char.ofNat_toNat] at same
  · -- Only capitals of ASCII have a small form of their own here.
    have same : c.toLower = c := by
      refine toLower_eq_self ?_
      simp only [covers, Bool.eq_false_iff, ne_eq, Bool.and_eq_true, decide_eq_true_eq]
      omega
    rw [same]
    exact ⟨rfl, rfl, rfl, rfl, rfl⟩

theorem meetsCased_toLower (context : List Char) :
    meetsCased (context.map Char.toLower) = meetsCased context := by
  induction context with
  | nil => rfl
  | cons c rest ih =>
    have same := sameLetter_toLower c
    rw [meetsCased, meetsCased] at ih ⊢
    rw [List.map_cons, List.dropWhile_cons, List.dropWhile_cons, same.ignorable]
    cases isCaseIgnorable c with
    | true => exact ih
    | false => exact same.cased

theorem lowercaseAfter_toLower (before cs : List Char) :
    lowercaseAfter (before.map Char.toLower) (cs.map Char.toLower) = lowercaseAfter before cs := by
  induction cs generalizing before with
  | nil => rfl
  | cons c rest ih =>
    have same := sameLetter_toLower c
    have later := ih (c :: before)
    rw [List.map_cons] at later
    rw [List.map_cons, lowercaseAfter, lowercaseAfter, later, same.sigma, same.dottedI, same.image,
      meetsCased_toLower, meetsCased_toLower]

/-- The case of ASCII letters does not matter to lowercase. -/
theorem lowercase_asciiLowercase (s : String) : lowercase (asciiLowercase s) = lowercase s := by
  rw [lowercase, lowercase, asciiLowercase, String.toList_ofList]
  exact congrArg String.ofList (lowercaseAfter_toLower [] s.toList)

end SpecLink.Text
