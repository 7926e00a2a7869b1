import SpecLink.Proofs.Text.Blanks
import SpecLink.Proofs.Text.Shard

/-!
# The normal form of texts

A text in normal form is empty or a row of words with one space between two of them, all settled and
without curly apostrophes; normalization makes such a text and leaves it as it is. Main statements:
`normalize_normalize` and `normalize_ne_empty`.
-/
namespace SpecLink.Text

/-- Words with one space between two of them, read from inside or outside of a word. The last word
is not followed by a blank. -/
def spaced : Bool → List Char → Bool
  | inside, [] => inside
  | inside, c :: rest =>
    if isBlank c then inside && c == ' ' && spaced false rest else spaced true rest

/-- The character is neither a blank nor a curly apostrophe. -/
def isPlain (c : Char) : Bool := !isBlank c && c != '\u2019'

/-- Lowercase forms are neither blanks nor curly apostrophes. -/
theorem images_plain : (lowercaseRuns.all fun run =>
    ((0x2019, 0x2019) :: blankRanges).all fun range =>
      (run.2.2.2 + (run.2.1 - run.1)).blt range.1 || range.2.blt run.2.2.2) = true := by
  decide +kernel

theorem isPlain_lowercaseChar {c : Char} (plain : isPlain c = true) :
    isPlain (lowercaseChar c) = true := by
  by_cases ascii : c.toNat < 128
  · have check : ∀ n < 128, isPlain (Char.ofNat n) = true →
        isPlain (Char.ofNat n).toLower = true := by decide +kernel
    have lower : lowercaseChar c = c.toLower := if_pos ascii
    rw [lower, ← Char.ofNat_toNat c]
    apply check c.toNat ascii
    rwa [Char.ofNat_toNat]
  · rw [lowercaseChar_of_not_ascii ascii]
    cases listed : lowercaseRuns.find? (covers c.toNat) with
    | none => exact plain
    | some run =>
      obtain ⟨first, last, step, target⟩ := run
      simp only
      rcases toNat_ofNat_or (target + (c.toNat - first)) with valid | null
      · -- The form lies in the image of its run, which no blank is in.
        have covered := List.find?_some listed
        have apart := List.all_eq_true.1 images_plain _ (List.mem_of_find?_eq_some listed)
        simp only [covers, Bool.and_eq_true, decide_eq_true_eq] at covered
        have outside : ∀ range ∈ (0x2019, 0x2019) :: blankRanges,
            ¬ (range.1 ≤ target + (c.toNat - first) ∧ target + (c.toNat - first) ≤ range.2) := by
          intro range member
          have misses := List.all_eq_true.1 apart range member
          simp only [Bool.or_eq_true, Nat.blt_eq] at misses
          omega
        rw [isPlain, Bool.and_eq_true, Bool.not_eq_true', bne_iff_ne]
        constructor
        · rw [Bool.eq_false_iff]
          intro blank
          obtain ⟨range, member, low, high⟩ := (inRanges_iff blankRanges _).1 blank
          rw [valid] at low high
          exact outside range (List.mem_cons_of_mem _ member) ⟨low, high⟩
        · intro curly
          have code : target + (c.toNat - first) = 0x2019 := by rw [← valid, curly]; rfl
          have away := outside (0x2019, 0x2019) List.mem_cons_self
          rw [code] at away
          exact away ⟨Nat.le_refl _, Nat.le_refl _⟩
      · rw [null]
        decide

theorem isPlain_iff {c : Char} : isPlain c = true ↔ isBlank c = false ∧ c ≠ '\u2019' := by
  simp [isPlain]

/-- A plain character becomes one or two plain ones, a space stays as it is. -/
theorem lowercaseAfter_cons_eq (before : List Char) (c : Char) (rest : List Char) :
    ∃ image, lowercaseAfter before (c :: rest) = image ++ lowercaseAfter (c :: before) rest ∧
      (isPlain c = true → image ≠ [] ∧ ∀ d ∈ image, isPlain d = true) ∧
      (c = ' ' → image = [' ']) := by
  refine ⟨_, rfl, ?_, ?_⟩
  · intro plain
    refine ⟨?_, List.all_eq_true.1 ?_⟩
    · split
      · exact List.cons_ne_nil _ _
      · split <;> exact List.cons_ne_nil _ _
    · split
      · split <;> decide +kernel
      · split
        · decide +kernel
        · simp [isPlain_lowercaseChar plain]
  · rintro rfl
    rw [if_neg (by decide), if_neg (by decide)]
    decide

theorem lowercaseAfter_plain (before : List Char) {cs : List Char}
    (plain : ∀ c ∈ cs, c = ' ' ∨ isPlain c = true) :
    ∀ c ∈ lowercaseAfter before cs, c = ' ' ∨ isPlain c = true := by
  induction cs generalizing before with
  | nil => exact fun c member => absurd member List.not_mem_nil
  | cons first rest ih =>
    obtain ⟨image, split, ofPlain, ofSpace⟩ := lowercaseAfter_cons_eq before first rest
    rw [split]
    intro c member
    rcases List.mem_append.1 member with here | later
    · rcases plain first List.mem_cons_self with space | firstPlain
      · rw [ofSpace space] at here
        exact .inl (List.mem_singleton.1 here)
      · exact .inr ((ofPlain firstPlain).2 c here)
    · exact ih (first :: before) (fun d inRest => plain d (List.mem_cons_of_mem first inRest)) c later

theorem spaced_append {inside : Bool} {word rest : List Char} (nonempty : word ≠ [])
    (nonblank : ∀ c ∈ word, isBlank c = false) : spaced inside (word ++ rest) = spaced true rest := by
  induction word generalizing inside with
  | nil => exact absurd rfl nonempty
  | cons c others ih =>
    rw [List.cons_append, spaced, nonblank c List.mem_cons_self, if_neg Bool.false_ne_true]
    cases others with
    | nil => rfl
    | cons d more =>
      exact ih (List.cons_ne_nil d more) fun e member => nonblank e (List.mem_cons_of_mem c member)

theorem spaced_lowercaseAfter {inside : Bool} (before : List Char) {cs : List Char}
    (single : spaced inside cs = true) (straight : ∀ c ∈ cs, c ≠ '\u2019') :
    spaced inside (lowercaseAfter before cs) = true := by
  induction cs generalizing inside before with
  | nil => exact single
  | cons c rest ih =>
    have straightRest : ∀ d ∈ rest, d ≠ '\u2019' := fun d member =>
      straight d (List.mem_cons_of_mem c member)
    obtain ⟨image, split, plain, space⟩ := lowercaseAfter_cons_eq before c rest
    rw [split]
    rw [spaced] at single
    cases blank : isBlank c with
    | true =>
      simp only [blank, if_true, Bool.and_eq_true, beq_iff_eq] at single
      obtain ⟨⟨rfl, same⟩, after⟩ := single
      rw [space same, List.singleton_append, spaced]
      simp only [← same, blank, if_true, beq_self_eq_true, Bool.true_and]
      exact ih (c :: before) after straightRest
    | false =>
      simp only [blank, Bool.false_eq_true, if_false] at single
      obtain ⟨nonempty, nonblank⟩ :=
        plain (isPlain_iff.2 ⟨blank, straight c List.mem_cons_self⟩)
      rw [spaced_append nonempty fun d member => (isPlain_iff.1 (nonblank d member)).1]
      exact ih (c :: before) single straightRest

/-- A list of words with neither empty ones nor blanks. -/
def AreWords (words : List (List Char)) : Prop :=
  ∀ word ∈ words, word ≠ [] ∧ ∀ c ∈ word, isBlank c = false

theorem spaced_intercalate {words : List (List Char)} (some : words ≠ [])
    (areWords : AreWords words) : spaced false ([' '].intercalate words) = true := by
  induction words with
  | nil => exact absurd rfl some
  | cons word others ih =>
    obtain ⟨nonempty, nonblank⟩ := areWords word List.mem_cons_self
    cases others with
    | nil =>
      rw [List.intercalate_singleton, ← List.append_nil word, spaced_append nonempty nonblank]
      rfl
    | cons next others =>
      have blank : isBlank ' ' = true := by decide
      rw [List.intercalate_cons_cons, List.append_assoc, spaced_append nonempty nonblank,
        List.singleton_append, spaced]
      simp only [blank, if_true, beq_self_eq_true, Bool.true_and]
      exact ih (List.cons_ne_nil _ _) fun w member => areWords w (List.mem_cons_of_mem word member)

theorem areWords_wordChars (cs : List Char) : AreWords (wordChars cs) := by
  intro word member
  constructor
  · have nonempty := (List.mem_filter.1 member).2
    simpa using nonempty
  · intro c inside
    have kept : c ∈ (wordChars cs).flatten := List.mem_flatten.2 ⟨word, member, inside⟩
    rw [LinkText.flatten_wordChars, List.mem_filter, Bool.not_eq_true'] at kept
    exact kept.2

/-- The pieces of a spaced text between its blanks are those between its spaces, and only the first
may be empty, if it goes on with a word. -/
theorem splitOnP_of_spaced {inside : Bool} {cs : List Char} (single : spaced inside cs = true) :
    cs.splitOnP isBlank = cs.splitOn ' ' ∧ (∀ piece ∈ (cs.splitOnP isBlank).tail, piece ≠ []) ∧
      (inside = false → ∀ piece ∈ cs.splitOnP isBlank, piece ≠ []) := by
  induction cs generalizing inside with
  | nil =>
    have within : inside = true := single
    refine ⟨rfl, ?_, ?_⟩
    · simp
    · simp [within]
  | cons c rest ih =>
    rw [spaced] at single
    rw [List.splitOnP_cons_eq_if_modifyHead, List.splitOn_cons_eq_if_modifyHead]
    cases blank : isBlank c with
    | true =>
      simp only [blank, if_true, Bool.and_eq_true] at single ⊢
      obtain ⟨⟨within, space⟩, after⟩ := single
      obtain ⟨same, -, nonempty⟩ := ih after
      rw [if_pos space, same]
      refine ⟨rfl, ?_, ?_⟩
      · rw [List.tail_cons, ← same]
        exact nonempty rfl
      · simp [within]
    | false =>
      simp only [blank, Bool.false_eq_true, if_false] at single ⊢
      obtain ⟨same, nonempty, -⟩ := ih single
      have other : ¬ (c == ' ') = true := by
        intro space
        rw [beq_iff_eq.1 space] at blank
        exact absurd blank (by decide)
      rw [if_neg other, ← same]
      obtain ⟨first, others, pieces⟩ := List.exists_cons_of_ne_nil (List.splitOnP_ne_nil isBlank rest)
      rw [pieces] at nonempty ⊢
      refine ⟨rfl, nonempty, fun _ piece member => ?_⟩
      rcases List.mem_cons.1 member with rfl | later
      · exact List.cons_ne_nil c first
      · exact nonempty piece later

theorem intercalate_wordChars {cs : List Char} (single : spaced false cs = true) :
    [' '].intercalate (wordChars cs) = cs := by
  obtain ⟨same, -, nonempty⟩ := splitOnP_of_spaced single
  have all : wordChars cs = cs.splitOnP isBlank := by
    refine List.filter_eq_self.2 fun piece member => ?_
    simpa using nonempty rfl piece member
  rw [all, same, List.intercalate_splitOn]

theorem getLast?_of_spaced {inside : Bool} {cs : List Char} (single : spaced inside cs = true) :
    ∀ c ∈ cs.getLast?, isBlank c = false := by
  induction cs generalizing inside with
  | nil => exact fun c last => absurd last (by simp)
  | cons first rest ih =>
    intro c last
    rw [spaced] at single
    cases rest with
    | nil =>
      obtain rfl : first = c := by simpa using last
      rw [Bool.eq_false_iff]
      intro blank
      simp [blank, spaced] at single
    | cons second rest =>
      have later : c ∈ (second :: rest).getLast? := by simpa using last
      split at single
      · exact ih (Bool.and_eq_true_iff.1 single).2 c later
      · exact ih single c later

end SpecLink.Text

namespace SpecLink.LinkText

open Text

/-- The text is in normal form. -/
structure IsNormal (cs : List Char) : Prop where
  single : cs = [] ∨ spaced false cs = true
  plain : ∀ c ∈ cs, c = ' ' ∨ isPlain c = true
  settled : ∀ c ∈ cs, Settled c

theorem IsNormal.head?_nonblank {cs : List Char} (normal : IsNormal cs) :
    ∀ c ∈ cs.head?, isBlank c = false := by
  intro c first
  cases cs with
  | nil => cases first
  | cons d rest =>
    obtain rfl : d = c := by simpa using first
    have single := normal.single.resolve_left (List.cons_ne_nil d rest)
    rw [Bool.eq_false_iff]
    intro blank
    simp [spaced, blank] at single

/-- A text in normal form has no blanks at its ends. -/
theorem IsNormal.trimChars_eq {cs : List Char} (normal : IsNormal cs) : trimChars cs = cs := by
  refine trimChars_eq_self normal.head?_nonblank ?_
  rcases normal.single with rfl | single
  · exact fun c last => absurd last (by simp)
  · exact getLast?_of_spaced single

theorem IsNormal.newline_not_mem {cs : List Char} (normal : IsNormal cs) : '\n' ∉ cs := by
  intro member
  rcases normal.plain _ member with space | plain
  · cases space
  · exact absurd plain (by decide)

theorem isPlain_straighten {c : Char} (nonblank : isBlank (straighten c) = false) :
    isPlain (straighten c) = true := by
  refine isPlain_iff.2 ⟨nonblank, ?_⟩
  rw [straighten]
  split
  · decide
  next other => exact fun curly => other (beq_iff_eq.2 curly)

theorem mem_intercalate {words : List (List Char)} {c : Char}
    (member : c ∈ [' '].intercalate words) : c = ' ' ∨ ∃ word ∈ words, c ∈ word := by
  induction words with
  | nil => exact absurd member List.not_mem_nil
  | cons word others ih =>
    cases others with
    | nil =>
      rw [List.intercalate_singleton] at member
      exact .inr ⟨word, List.mem_cons_self, member⟩
    | cons next others =>
      rw [List.intercalate_cons_cons] at member
      rcases List.mem_append.1 member with here | later
      · rcases List.mem_append.1 here with inWord | space
        · exact .inr ⟨word, List.mem_cons_self, inWord⟩
        · exact .inl (List.mem_singleton.1 space)
      · rcases ih later with space | ⟨other, listed, inOther⟩
        · exact .inl space
        · exact .inr ⟨other, List.mem_cons_of_mem word listed, inOther⟩

theorem isNormal_normalizeChars (cs : List Char) : IsNormal (normalizeChars cs) := by
  have areWords := areWords_wordChars (cs.map straighten)
  have plain : ∀ c ∈ [' '].intercalate (wordChars (cs.map straighten)),
      c = ' ' ∨ isPlain c = true := by
    intro c member
    rcases mem_intercalate member with space | ⟨word, listed, inside⟩
    · exact .inl space
    · have kept : c ∈ (wordChars (cs.map straighten)).flatten :=
        List.mem_flatten.2 ⟨word, listed, inside⟩
      rw [flatten_wordChars] at kept
      obtain ⟨raw, -, rfl⟩ := List.mem_map.1 (List.mem_filter.1 kept).1
      exact .inr (isPlain_straighten ((areWords word listed).2 _ inside))
  refine ⟨?_, lowercaseAfter_plain [] plain, fun c member => settled_of_mem_lowercaseAfter member⟩
  rw [normalizeChars]
  by_cases none : wordChars (cs.map straighten) = []
  · left
    rw [none]
    rfl
  · right
    apply spaced_lowercaseAfter [] (spaced_intercalate none areWords)
    intro c member
    rcases plain c member with rfl | isPlain
    · decide
    · exact (isPlain_iff.1 isPlain).2

theorem map_straighten {cs : List Char} (plain : ∀ c ∈ cs, c = ' ' ∨ isPlain c = true) :
    cs.map straighten = cs := by
  rw [List.map_congr_left (g := id), List.map_id]
  intro c member
  apply if_neg
  rw [beq_iff_eq]
  rcases plain c member with rfl | isPlain
  · decide
  · exact (isPlain_iff.1 isPlain).2

theorem normalizeChars_of_isNormal {cs : List Char} (normal : IsNormal cs) :
    normalizeChars cs = cs := by
  have words : [' '].intercalate (wordChars cs) = cs := by
    rcases normal.single with rfl | single
    · rfl
    · exact intercalate_wordChars single
  rw [normalizeChars, map_straighten normal.plain, words,
    lowercaseAfter_of_settled [] normal.settled]

@[simp] theorem normalize_normalize (s : String) : normalize (normalize s) = normalize s := by
  rw [normalize, normalize, String.toList_ofList,
    normalizeChars_of_isNormal (isNormal_normalizeChars s.toList)]

/-- A text that is not blank has a normal form that is not empty. -/
theorem normalize_ne_empty {s : String} (nonblank : isBlankText s = false) :
    normalize s ≠ "" := by
  obtain ⟨c, member, notBlank⟩ : ∃ c ∈ s.toList, isBlank c = false := by
    simpa [isBlankText] using nonblank
  have straight : isBlank (straighten c) = false := by
    rw [straighten]
    split
    · decide
    · exact notBlank
  have kept : straighten c ∈ (wordChars (s.toList.map straighten)).flatten := by
    rw [flatten_wordChars, List.mem_filter, straight]
    exact ⟨List.mem_map_of_mem member, rfl⟩
  -- The character stands in a word, so the spaced words are not nothing.
  have some : wordChars (s.toList.map straighten) ≠ [] := by
    intro none
    rw [none] at kept
    exact absurd kept List.not_mem_nil
  have single := spaced_intercalate some (areWords_wordChars (s.toList.map straighten))
  intro empty
  have none : normalizeChars s.toList = [] := by
    rw [← String.toList_ofList (l := normalizeChars s.toList)]
    exact congrArg String.toList empty
  rw [normalizeChars] at none
  cases text : [' '].intercalate (wordChars (s.toList.map straighten)) with
  | nil =>
    rw [text] at single
    cases single
  | cons first rest =>
    rw [text, lowercaseAfter] at none
    obtain ⟨image, -⟩ := List.append_eq_nil_iff.1 none
    split at image
    · cases image
    · split at image
      · cases image
      · cases image

end SpecLink.LinkText
