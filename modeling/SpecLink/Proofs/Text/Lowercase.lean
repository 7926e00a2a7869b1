import SpecLink.Text.Lowercase

/-!
# Lowercase text is settled

The lowercase of a text has nothing left to make lowercase. The tables decide this by ranges: the
lowercase forms of a run of characters fall outside every run, or between its steps. Main statement:
`lowercaseAfter_lowercaseAfter`.
-/
namespace SpecLink.Text

/-- A code point that a run of the table lists. -/
def covers (n : Nat) (run : Nat × Nat × Nat × Nat) : Bool :=
  run.1 ≤ n && n ≤ run.2.1 && (n - run.1) % run.2.2.1 == 0

/-- The lowercase forms of the first run are not listed by the second: they lie before or behind it,
or at the odd places of a run of every other character. -/
def misses (r s : Nat × Nat × Nat × Nat) : Bool :=
  (r.2.2.2 + (r.2.1 - r.1)).blt s.1 || s.2.1.blt r.2.2.2 ||
    (s.2.2.1.beq 2 && (r.2.2.1.beq 2 || r.1.beq r.2.1) && ((r.2.2.2 + s.1) % 2).beq 1)

/-- The two exceptions of the table as runs: the capitals of ASCII and the dotted capital I. -/
def exceptions : List (Nat × Nat × Nat × Nat) := [(0x41, 0x5A, 1, 0x61), (0x130, 0x130, 1, 0x69)]

/-- Stretches of code points, so that each run lies in one of them. -/
def stretches : List (Nat × Nat) := [
  (0, 0x17D), (0x17E, 0x1AF), (0x1B0, 0x1F7), (0x1F8, 0x2FF), (0x300, 0x3FF), (0x400, 0xFFF),
  (0x1000, 0x1EFF), (0x1F00, 0x1FAF), (0x1FB0, 0x20FF), (0x2100, 0x2BFF), (0x2C00, 0x2C6F),
  (0x2C70, 0x9FFF), (0xA000, 0xA76F), (0xA770, 0xA7A9), (0xA7AA, 0xFFFF), (0x10000, 0x10FFFF)]

def liesIn (stretch : Nat × Nat) (s : Nat × Nat × Nat × Nat) : Bool :=
  stretch.1.ble s.1 && s.2.1.ble stretch.2

/-- The lowercase forms of the run lie before or behind the stretch. -/
def avoids (r : Nat × Nat × Nat × Nat) (stretch : Nat × Nat) : Bool :=
  (r.2.2.2 + (r.2.1 - r.1)).blt stretch.1 || stretch.2.blt r.2.2.2

theorem misses_of_avoids {r s : Nat × Nat × Nat × Nat} {stretch : Nat × Nat}
    (avoids : avoids r stretch = true) (inside : liesIn stretch s = true) : misses r s = true := by
  simp only [Text.avoids, liesIn, Bool.or_eq_true, Bool.and_eq_true, Nat.blt_eq, Nat.ble_eq]
    at avoids inside
  simp only [misses, Bool.or_eq_true, Nat.blt_eq]
  omega

/-- Most runs avoid a stretch as a whole, so few pairs are left to compare. -/
theorem all_avoid_or_miss : (stretches.all fun stretch => lowercaseRuns.all fun r =>
    avoids r stretch || ((exceptions ++ lowercaseRuns).filter (liesIn stretch)).all (misses r)) =
      true := by
  decide +kernel

theorem all_misses :
    (lowercaseRuns.all fun r => (exceptions ++ lowercaseRuns).all fun s => misses r s) = true := by
  have placed : ((exceptions ++ lowercaseRuns).all fun s => stretches.any fun stretch =>
      liesIn stretch s) = true := by decide +kernel
  simp only [List.all_eq_true]
  intro r listed s member
  obtain ⟨stretch, known, inside⟩ := List.any_eq_true.1 (List.all_eq_true.1 placed s member)
  have either := List.all_eq_true.1 (List.all_eq_true.1 all_avoid_or_miss stretch known) r listed
  rcases Bool.or_eq_true_iff.1 either with avoided | missed
  · exact misses_of_avoids avoided inside
  · exact List.all_eq_true.1 missed s (List.mem_filter.2 ⟨member, inside⟩)

theorem covers_eq_false_of_misses {r s : Nat × Nat × Nat × Nat} {n : Nat}
    (apart : misses r s = true) (listed : covers n r = true) :
    covers (r.2.2.2 + (n - r.1)) s = false := by
  obtain ⟨first, last, step, target⟩ := r
  obtain ⟨start, stop, stride, image⟩ := s
  simp only [covers, misses, Bool.or_eq_true, Bool.and_eq_true, Nat.blt_eq, Nat.beq_eq,
    decide_eq_true_eq, beq_iff_eq] at apart listed
  simp only [covers, Bool.eq_false_iff, ne_eq, Bool.and_eq_true, decide_eq_true_eq, beq_iff_eq]
  rintro ⟨inside, onStride⟩
  rcases apart with (before | behind) | ⟨⟨rfl, every⟩, odd⟩
  · omega
  · omega
  · rcases every with rfl | rfl <;> omega

theorem toNat_ofNat_or (n : Nat) : (Char.ofNat n).toNat = n ∨ Char.ofNat n = '\x00' := by
  by_cases valid : n.isValidChar
  · have read : Char.ofNat n = Char.ofNatAux n valid := dif_pos valid
    rw [read]
    exact .inl rfl
  · exact .inr (dif_neg valid)

theorem toLower_eq_self {c : Char} (small : covers c.toNat (0x41, 0x5A, 1, 0x61) = false) :
    c.toLower = c := by
  have between : ¬ (0x41 ≤ c.toNat ∧ c.toNat ≤ 0x5A) := by
    simp only [covers, Bool.eq_false_iff, ne_eq, Bool.and_eq_true, decide_eq_true_eq] at small
    exact fun inside => small ⟨inside, by simp [Nat.mod_one]⟩
  exact dif_neg between

theorem lowercaseChar_of_not_ascii {c : Char} (beyond : ¬ c.toNat < 128) :
    lowercaseChar c = match lowercaseRuns.find? (covers c.toNat) with
      | some (first, _, _, target) => Char.ofNat (target + (c.toNat - first))
      | none => c := if_neg beyond

/-- A character of lowercase text. -/
structure Settled (c : Char) : Prop where
  ne_sigma : c ≠ 'Σ'
  ne_dottedI : c ≠ 'İ'
  same : lowercaseChar c = c

theorem settled_of_uncovered {c : Char}
    (unlisted : ∀ run ∈ exceptions ++ lowercaseRuns, covers c.toNat run = false) : Settled c where
  ne_sigma := by
    rintro rfl
    exact absurd (unlisted (0x3A3, 0x3AB, 1, 0x3C3) (by decide +kernel)) (by decide)
  ne_dottedI := by
    rintro rfl
    exact absurd (unlisted (0x130, 0x130, 1, 0x69) (by decide +kernel)) (by decide)
  same := by
    by_cases ascii : c.toNat < 128
    · have lower : lowercaseChar c = c.toLower := if_pos ascii
      exact lower.trans (toLower_eq_self (unlisted _ List.mem_cons_self))
    · have absent : lowercaseRuns.find? (covers c.toNat) = none :=
        List.find?_eq_none.2 fun run member =>
          Bool.eq_false_iff.1 (unlisted run (List.mem_append_right exceptions member))
      rw [lowercaseChar_of_not_ascii ascii, absent]

theorem settled_ascii : ∀ n < 128, Settled (Char.ofNat n).toLower := by
  have check : ∀ n < 128, (Char.ofNat n).toLower ≠ 'Σ' ∧ (Char.ofNat n).toLower ≠ 'İ' ∧
      lowercaseChar (Char.ofNat n).toLower = (Char.ofNat n).toLower := by decide
  -- Decided for all of ASCII at once.
  intro n small
  obtain ⟨notSigma, notI, same⟩ := check n small
  exact ⟨notSigma, notI, same⟩

theorem settled_lowercaseChar {c : Char} (notSigma : c ≠ 'Σ') (notDottedI : c ≠ 'İ') :
    Settled (lowercaseChar c) := by
  by_cases ascii : c.toNat < 128
  · have lower : lowercaseChar c = c.toLower := if_pos ascii
    rw [lower, ← Char.ofNat_toNat c]
    exact settled_ascii c.toNat ascii
  · -- Beyond ASCII a character is its own lowercase or the image of a run, which no run lists.
    have image := lowercaseChar_of_not_ascii ascii
    cases listed : lowercaseRuns.find? (covers c.toNat) with
    | none =>
      have same : lowercaseChar c = c := by rw [image, listed]
      rw [same]
      exact ⟨notSigma, notDottedI, same⟩
    | some run =>
      have lower : lowercaseChar c = Char.ofNat (run.2.2.2 + (c.toNat - run.1)) := by
        rw [image, listed]
      rw [lower]
      rcases toNat_ofNat_or (run.2.2.2 + (c.toNat - run.1)) with valid | null
      · refine settled_of_uncovered fun other member => ?_
        rw [valid]
        have apart := List.all_eq_true.1 (List.all_eq_true.1 all_misses run
          (List.mem_of_find?_eq_some listed)) other member
        exact covers_eq_false_of_misses apart (List.find?_some listed)
      · rw [null]
        exact settled_ascii 0 (by decide)

/-- Lowercase text consists of settled characters. -/
theorem settled_of_mem_lowercaseAfter {before cs : List Char} {c : Char}
    (member : c ∈ lowercaseAfter before cs) : Settled c := by
  induction cs generalizing before with
  | nil => exact absurd member List.not_mem_nil
  | cons first rest ih =>
    rcases List.mem_append.1 member with image | later
    · split at image
      next sigma =>
        -- A final sigma at the end of a word, a common one elsewhere.
        have either : c = 'ς' ∨ c = 'σ' := by
          rw [List.mem_singleton.1 image]
          split <;> simp
        rcases either with rfl | rfl <;> exact ⟨by decide, by decide, by decide +kernel⟩
      next notSigma =>
        split at image
        next dotted =>
          rcases List.mem_cons.1 image with rfl | image
          · exact ⟨by decide, by decide, by decide⟩
          · rw [List.mem_singleton.1 image]
            exact ⟨by decide, by decide, by decide +kernel⟩
        next notDotted =>
          rw [List.mem_singleton.1 image]
          exact settled_lowercaseChar (mt beq_iff_eq.2 notSigma) (mt beq_iff_eq.2 notDotted)
    · exact ih later

theorem lowercaseAfter_of_settled (before : List Char) {cs : List Char}
    (settled : ∀ c ∈ cs, Settled c) : lowercaseAfter before cs = cs := by
  induction cs generalizing before with
  | nil => rfl
  | cons first rest ih =>
    have this := settled first List.mem_cons_self
    rw [lowercaseAfter, if_neg (mt beq_iff_eq.1 this.ne_sigma),
      if_neg (mt beq_iff_eq.1 this.ne_dottedI), this.same,
      ih _ fun c member => settled c (List.mem_cons_of_mem first member)]
    rfl

/-- What is lowercase stays as it is, whatever stands before it. -/
theorem lowercaseAfter_lowercaseAfter (outer before cs : List Char) :
    lowercaseAfter outer (lowercaseAfter before cs) = lowercaseAfter before cs :=
  lowercaseAfter_of_settled outer fun _ member => settled_of_mem_lowercaseAfter member

theorem lowercase_of_settled {s : String} (settled : ∀ c ∈ s.toList, Settled c) :
    lowercase s = s := by
  rw [lowercase, lowercaseAfter_of_settled [] settled, String.ofList_toList]

@[simp] theorem lowercase_lowercase (s : String) : lowercase (lowercase s) = lowercase s := by
  simp only [lowercase, String.toList_ofList, lowercaseAfter_lowercaseAfter]

end SpecLink.Text
