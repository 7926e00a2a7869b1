import SpecLink.LinkRequest
import SpecLink.Proofs.Text.Lines
import SpecLink.Proofs.Text.Normal

/-!
# Spellings of a text

The literal text comes first among its spellings, and none of the others comes back to it: a
singular has fewer letters than its text, and normalization adds none. Main statements:
`variants_eq_cons` and `normalize_ne_of_mem_singulars`.
-/
namespace SpecLink

namespace LinkText

open Text

theorem foldl_addSpelling_eq_cons (spellings : List String) (first : String) (found : List String) :
    ∃ others, spellings.foldl addSpelling (first :: found) = first :: others ∧
      ∀ text ∈ others, text ∈ found ∨ text ∈ spellings := by
  induction spellings generalizing found with
  | nil => exact ⟨found, rfl, fun text member => .inl member⟩
  | cons spelling rest ih =>
    rw [List.foldl_cons, addSpelling]
    split
    · obtain ⟨others, same, origin⟩ := ih found
      refine ⟨others, same, fun text member => ?_⟩
      rcases origin text member with before | later
      · exact .inl before
      · exact .inr (List.mem_cons_of_mem spelling later)
    · obtain ⟨others, same, origin⟩ := ih (found ++ [spelling])
      refine ⟨others, same, fun text member => ?_⟩
      rcases origin text member with before | later
      · rcases List.mem_append.1 before with before | new
        · exact .inl before
        · exact .inr (List.mem_singleton.1 new ▸ List.mem_cons_self)
      · exact .inr (List.mem_cons_of_mem spelling later)

/-- The literal text comes first among its spellings, all others are singulars. -/
theorem variants_eq_cons (s : String) : ∃ others, variants s = normalize s :: others ∧
    ∀ text ∈ others, text ∈ singulars (normalize s) := by
  rw [variants]
  split
  · exact ⟨[], rfl, fun text member => absurd member List.not_mem_nil⟩
  · obtain ⟨others, same, origin⟩ := foldl_addSpelling_eq_cons (singulars (normalize s)) (normalize s) []
    refine ⟨others, same, fun text member => ?_⟩
    rcases origin text member with none | singular
    · exact absurd none List.not_mem_nil
    · exact singular

/-- The characters of a text that are not blank. -/
def letters (cs : List Char) : List Char := cs.filter fun c => !isBlank c

theorem letters_intercalate (words : List (List Char)) :
    letters ([' '].intercalate words) = letters words.flatten := by
  induction words with
  | nil => rfl
  | cons word others ih =>
    cases others with
    | nil => simp
    | cons next others =>
      have gap : letters [' '] = [] := by decide
      simp only [letters] at ih gap
      rw [letters, letters, List.intercalate_cons_cons, List.filter_append, List.filter_append, ih,
        gap, List.append_nil, ← List.filter_append, ← List.flatten_cons]

/-- Normalization takes nothing but blanks from settled text. -/
theorem letters_normalizeChars {cs : List Char} (plain : ∀ c ∈ cs, c = ' ' ∨ isPlain c = true)
    (settled : ∀ c ∈ cs, Settled c) : letters (normalizeChars cs) = letters cs := by
  have kept : ∀ c ∈ [' '].intercalate (wordChars cs), Settled c := by
    intro c member
    rcases mem_intercalate member with rfl | ⟨word, listed, inside⟩
    · exact ⟨by decide, by decide, by decide⟩
    · have within : c ∈ (wordChars cs).flatten := List.mem_flatten.2 ⟨word, listed, inside⟩
      rw [flatten_wordChars] at within
      exact settled c (List.mem_filter.1 within).1
  rw [normalizeChars, map_straighten plain, lowercaseAfter_of_settled [] kept, letters_intercalate,
    flatten_wordChars, letters, List.filter_filter]
  simp only [Bool.and_self, letters]

/-- The endings that are cut off without a letter in their place. -/
def cutEndings : List String := ["es", "'s", "s", "'"]

/-- A singular is its text without an ending, or with a `y` in the place of `ies`. -/
theorem mem_singulars_iff {text singular : String} : singular ∈ singulars text ↔
    (∃ stem, text = stem ++ "ies" ∧ stem ++ "y" = singular) ∨
      ∃ ending ∈ cutEndings, text = singular ++ ending := by
  have listed : singular ∈ singulars text ↔
      (stripEnd? "ies" text).map (· ++ "y") = some singular ∨
        ∃ ending ∈ cutEndings, stripEnd? ending text = some singular := by
    simp [singulars, cutEndings, eq_comm]
  simp only [listed, Option.map_eq_some_iff, stripEnd?_eq_some_iff]

/-- A singular is the beginning of its text, with a `y` in the place of three letters. -/
theorem exists_of_mem_singulars {text singular : String} (member : singular ∈ singulars text) :
    ∃ stem ending, text.toList = stem ++ ending ∧ ending ≠ [] ∧ letters ending = ending ∧
      (singular.toList = stem ∨ singular.toList = stem ++ ['y'] ∧ 1 < ending.length) := by
  rcases mem_singulars_iff.1 member with ⟨stem, rfl, rfl⟩ | ⟨ending, isEnding, rfl⟩
  · refine ⟨stem.toList, _, String.toList_append .., by decide, by decide, .inr ⟨?_, by decide⟩⟩
    rw [String.toList_append]
    rfl
  · have solid : ∀ ending ∈ cutEndings,
        ending.toList ≠ [] ∧ letters ending.toList = ending.toList := by decide
    obtain ⟨nonempty, nonblank⟩ := solid ending isEnding
    exact ⟨singular.toList, _, String.toList_append .., nonempty, nonblank, .inl rfl⟩

/-- No singular of a text in normal form has that text as its normal form. -/
theorem normalize_ne_of_mem_singulars {text singular : String} (normal : IsNormal text.toList)
    (member : singular ∈ singulars text) : normalize singular ≠ text := by
  obtain ⟨stem, ending, split, nonempty, nonblank, made⟩ := exists_of_mem_singulars member
  have stemPlain : ∀ c ∈ stem, c = ' ' ∨ isPlain c = true := fun c inStem =>
    normal.plain c (split ▸ List.mem_append_left ending inStem)
  have stemSettled : ∀ c ∈ stem, Settled c := fun c inStem =>
    normal.settled c (split ▸ List.mem_append_left ending inStem)
  have full : letters text.toList = letters stem ++ ending := by
    have parts : letters (stem ++ ending) = letters stem ++ letters ending :=
      List.filter_append stem ending
    rw [split, parts, nonblank]
  have long : 0 < ending.length := List.length_pos_iff.2 nonempty
  intro same
  have chars : normalizeChars singular.toList = text.toList := by
    rw [← same, normalize, String.toList_ofList]
  -- Both sides have the letters of the text, of which the singular has fewer.
  rcases made with made | ⟨made, longer⟩
  · have kept := letters_normalizeChars stemPlain stemSettled
    rw [← made, chars, full, made] at kept
    have count := congrArg List.length kept
    rw [List.length_append] at count
    omega
  · have yPlain : isPlain 'y' = true := by decide
    have ySettled : Settled 'y' := ⟨by decide, by decide, by decide⟩
    have kept : letters (normalizeChars (stem ++ ['y'])) = letters (stem ++ ['y']) := by
      apply letters_normalizeChars
      · intro c inSingular
        rcases List.mem_append.1 inSingular with inStem | last
        · exact stemPlain c inStem
        · exact .inr (List.mem_singleton.1 last ▸ yPlain)
      · intro c inSingular
        rcases List.mem_append.1 inSingular with inStem | last
        · exact stemSettled c inStem
        · exact List.mem_singleton.1 last ▸ ySettled
    have one : (letters ['y']).length = 1 := by decide
    rw [← made, chars, full, made] at kept
    have count := congrArg List.length kept
    simp only [letters, List.filter_append, List.length_append] at count one
    omega

end LinkText

/-- The literal text comes first among the texts of a query. -/
theorem LinkQuery.texts_eq_cons {q : LinkQuery} (normal : LinkText.normalize q.text = q.text) :
    ∃ others, q.texts = q.text :: others ∧
      ∀ text ∈ others, text ∈ LinkText.singulars q.text := by
  rw [texts]
  split
  · obtain ⟨others, same, singulars⟩ := LinkText.variants_eq_cons q.text
    rw [normal] at same singulars
    exact ⟨others, same, singulars⟩
  · exact ⟨[], rfl, fun text member => absurd member List.not_mem_nil⟩

end SpecLink
