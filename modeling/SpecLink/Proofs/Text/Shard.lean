import SpecLink.LinkText
import SpecLink.Proofs.Text.Lowercase

/-!
# Shards of texts

A text and its normal form belong to one shard. The letters and digits that name a shard are read
off a text character by character, and nothing that the normal form changes is among them. Main
statement: `shardName_normalize`.
-/
namespace SpecLink.LinkText

open Text

/-- The letters and digits that a character gives a shard's name. -/
def shardLetters (c : Char) : List Char := (lowercaseAfter [] [c]).filter isShardChar

/-- No character gives more or less for what stands around it: the two forms of sigma are the same
to a shard. -/
theorem filter_isShardChar_lowercaseAfter (before cs : List Char) :
    (lowercaseAfter before cs).filter isShardChar = cs.flatMap shardLetters := by
  induction cs generalizing before with
  | nil => rfl
  | cons c rest ih =>
    rw [List.flatMap_cons, ← ih (c :: before), lowercaseAfter, List.filter_append, shardLetters,
      lowercaseAfter]
    congr 1
    -- Only the form of a sigma depends on what stands before it.
    by_cases sigma : c = 'Σ'
    · subst sigma
      simp only [beq_self_eq_true, if_true]
      split <;> decide +kernel
    · simp [sigma, lowercaseAfter]

theorem shardLetters_blank {c : Char} (blank : isBlank c = true) : shardLetters c = [] := by
  -- The blanks are few enough to try them all.
  have check : ∀ range ∈ blankRanges, ∀ k < range.2 + 1 - range.1,
      shardLetters (Char.ofNat (range.1 + k)) = [] := by decide +kernel
  obtain ⟨range, member, low, high⟩ := (inRanges_iff blankRanges c).1 blank
  have listed := check range member (c.toNat - range.1) (by omega)
  rwa [Nat.add_sub_cancel' low, Char.ofNat_toNat] at listed

theorem shardLetters_straighten (c : Char) : shardLetters (straighten c) = shardLetters c := by
  rw [straighten]
  split
  next curly =>
    rw [beq_iff_eq.1 curly]
    decide +kernel
  next => rfl

theorem flatten_wordChars (cs : List Char) :
    (wordChars cs).flatten = cs.filter fun c => !isBlank c := by
  have pieces : (cs.splitOnP isBlank).flatten = cs.filter fun c => !isBlank c := by
    induction cs with
    | nil => rfl
    | cons c rest ih =>
      rw [List.splitOnP_cons_eq_if_modifyHead]
      obtain ⟨first, others, split⟩ := List.exists_cons_of_ne_nil
        (List.splitOnP_ne_nil isBlank rest)
      rw [split] at ih ⊢
      by_cases blank : isBlank c = true
      · simp [blank, ← ih]
      · simp [blank, ← ih]
  -- The empty pieces that are no words add nothing.
  rw [← pieces, wordChars]
  induction cs.splitOnP isBlank with
  | nil => rfl
  | cons word others ih =>
    cases word with
    | nil => simpa using ih
    | cons c word => simpa using ih

theorem flatMap_shardLetters_intercalate (words : List (List Char)) :
    ([' '].intercalate words).flatMap shardLetters = words.flatten.flatMap shardLetters := by
  induction words with
  | nil => rfl
  | cons word others ih =>
    cases others with
    | nil => simp
    | cons next others =>
      have gap : shardLetters ' ' = [] := by decide
      rw [List.intercalate_cons_cons, List.flatMap_append, List.flatMap_append, ih]
      simp [gap]

/-- The shard of a text's normal form is the shard of the text. -/
theorem shardName_normalize (text : String) : shardName (normalize text) = shardName text := by
  have letters : (lowercaseAfter [] (normalizeChars text.toList)).filter isShardChar =
      (lowercaseAfter [] text.toList).filter isShardChar := by
    calc (lowercaseAfter [] (normalizeChars text.toList)).filter isShardChar
      _ = ([' '].intercalate (wordChars (text.toList.map straighten))).flatMap shardLetters := by
        rw [normalizeChars, lowercaseAfter_lowercaseAfter, filter_isShardChar_lowercaseAfter]
      _ = ((text.toList.map straighten).filter fun c => !isBlank c).flatMap shardLetters := by
        rw [flatMap_shardLetters_intercalate, flatten_wordChars]
      -- Blanks give no letters.
      _ = (text.toList.map straighten).flatMap shardLetters := by
        induction text.toList.map straighten with
        | nil => rfl
        | cons c rest ih =>
          by_cases blank : isBlank c = true
          · simp [blank, ih, shardLetters_blank]
          · simp [blank, ih]
      _ = text.toList.flatMap shardLetters := by
        simp only [List.flatMap_map, shardLetters_straighten]
      _ = (lowercaseAfter [] text.toList).filter isShardChar := by
        rw [filter_isShardChar_lowercaseAfter]
  rw [shardName, shardName, normalize, String.toList_ofList, letters]

/-- What may stand in the name of a shard: a small letter, a digit or an underscore. -/
def IsSign (c : Char) : Prop := ('a' ≤ c ∧ c ≤ 'z') ∨ ('0' ≤ c ∧ c ≤ '9') ∨ c = '_'

theorem isSign_of_isShardChar {c : Char} (letter : isShardChar c = true) : IsSign c ∧ c ≠ '_' := by
  constructor
  · rcases Bool.or_eq_true_iff.1 letter with lower | digit
    · obtain ⟨low, high⟩ := Bool.and_eq_true_iff.1 lower
      exact .inl ⟨of_decide_eq_true low, of_decide_eq_true high⟩
    · obtain ⟨low, high⟩ := Bool.and_eq_true_iff.1 digit
      exact .inr (.inl ⟨of_decide_eq_true low, of_decide_eq_true high⟩)
  · rintro rfl
    exact absurd letter (by decide)

/-- The name of a shard is two signs, with underscores behind the letters and digits. -/
theorem exists_signs (key : String) : ∃ a b, shardName key = String.ofList [a, b] ∧
    IsSign a ∧ IsSign b ∧ (a = '_' → b = '_') := by
  have letters : ∀ c ∈ ((lowercaseAfter [] key.toList).filter isShardChar).take 2,
      IsSign c ∧ c ≠ '_' := fun c member =>
    isSign_of_isShardChar (List.mem_filter.1 (List.mem_of_mem_take member)).2
  have few : (((lowercaseAfter [] key.toList).filter isShardChar).take 2).length ≤ 2 :=
    List.length_take_le 2 _
  have blank : IsSign '_' := .inr (.inr rfl)
  rw [shardName]
  generalize ((lowercaseAfter [] key.toList).filter isShardChar).take 2 = signs at letters few
  match signs with
  | [] => exact ⟨'_', '_', rfl, blank, blank, fun _ => rfl⟩
  | [a] =>
    obtain ⟨sign, -⟩ := letters a (by simp)
    exact ⟨a, '_', rfl, sign, blank, fun _ => rfl⟩
  | [a, b] =>
    obtain ⟨sign, full⟩ := letters a (by simp)
    exact ⟨a, b, rfl, sign, (letters b (by simp)).1, fun under => absurd under full⟩
  | _ :: _ :: _ :: _ => simp at few

/-- A text that begins with a key of two letters or digits at least belongs to the shard of that
key. -/
theorem shardName_append {key : String} (full : '_' ∉ (shardName key).toList) (rest : String) :
    shardName (key ++ rest) = shardName key := by
  have letters (s : String) :
      (lowercaseAfter [] s.toList).filter isShardChar = s.toList.flatMap shardLetters :=
    filter_isShardChar_lowercaseAfter [] s.toList
  have enough : 2 ≤ (key.toList.flatMap shardLetters).length := by
    refine Nat.le_of_not_lt fun few => full ?_
    rw [shardName, letters, String.toList_ofList]
    -- A name with fewer letters is filled up.
    refine List.mem_append_right _ (List.mem_replicate.2 ⟨?_, rfl⟩)
    rw [List.length_take]
    omega
  rw [shardName, shardName, letters, letters, String.toList_append, List.flatMap_append,
    List.take_append_of_le_length enough]

end SpecLink.LinkText
