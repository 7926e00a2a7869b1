import Mathlib.Data.List.DropRight
import SpecLink.Text.Basic

/-!
# Texts without blanks at their ends

Main statement: `trim_trim`.
-/
namespace SpecLink.Text

theorem dropBlanksEnd_eq (cs : List Char) : dropBlanksEnd cs = cs.rdropWhile isBlank := rfl

theorem dropBlanks_eq_self_iff {cs : List Char} :
    dropBlanks cs = cs ↔ ∀ c ∈ cs.head?, isBlank c = false := by
  cases cs with
  | nil => simp [dropBlanks]
  | cons first rest =>
    simp only [dropBlanks, List.dropWhile_eq_self_iff, List.head?_cons, Option.mem_def]
    simp

/-- To cut blanks off the end brings none to the front. -/
theorem dropBlanks_dropBlanksEnd {cs : List Char} (clean : dropBlanks cs = cs) :
    dropBlanks (dropBlanksEnd cs) = dropBlanksEnd cs := by
  rw [dropBlanks_eq_self_iff] at clean ⊢
  rw [dropBlanksEnd_eq]
  obtain ⟨cut, whole⟩ := List.rdropWhile_prefix isBlank (l := cs)
  intro c first
  apply clean c
  rw [← whole]
  cases left : cs.rdropWhile isBlank with
  | nil => simp [left] at first
  | cons d rest => simpa [left] using first

theorem trimChars_trimChars (cs : List Char) : trimChars (trimChars cs) = trimChars cs := by
  have clean : dropBlanks (dropBlanks cs) = dropBlanks cs := List.dropWhile_idempotent _ cs
  rw [trimChars, trimChars, dropBlanks_dropBlanksEnd clean, dropBlanksEnd_eq, dropBlanksEnd_eq,
    List.rdropWhile_idempotent]

@[simp] theorem trim_trim (s : String) : trim (trim s) = trim s := by
  simp only [trim, String.toList_ofList, trimChars_trimChars]

theorem trimChars_eq_self {cs : List Char} (front : ∀ c ∈ cs.head?, isBlank c = false)
    (back : ∀ c ∈ cs.getLast?, isBlank c = false) : trimChars cs = cs := by
  rw [trimChars, dropBlanks_eq_self_iff.2 front, dropBlanksEnd_eq, List.rdropWhile_eq_self_iff]
  intro nonempty
  rw [back _ (List.getLast?_eq_getLast_of_ne_nil nonempty)]
  exact Bool.false_ne_true

theorem trimChars_of_nonblank {cs : List Char} (nonblank : ∀ c ∈ cs, isBlank c = false) :
    trimChars cs = cs :=
  trimChars_eq_self (fun c first => nonblank c (List.mem_of_mem_head? first))
    fun c last => nonblank c (List.mem_of_getLast? last)

theorem getLast?_of_trimChars {cs : List Char} (trimmed : trimChars cs = cs) :
    ∀ c ∈ cs.getLast?, isBlank c = false := by
  intro c last
  rw [← trimmed, trimChars, dropBlanksEnd_eq] at last
  obtain ⟨nonempty, rfl⟩ := List.mem_getLast?_eq_getLast last
  simpa using List.rdropWhile_last_not _ _ nonempty

theorem dropBlanksEnd_append {cs : List Char} (last : ∀ c ∈ cs.getLast?, isBlank c = false)
    (more : List Char) : dropBlanksEnd (cs ++ more) = cs ++ dropBlanksEnd more := by
  have front : dropBlanks cs.reverse = cs.reverse :=
    dropBlanks_eq_self_iff.2 fun c first => last c (by simpa using first)
  rw [dropBlanks] at front
  rw [dropBlanksEnd, dropBlanks, List.reverse_append, List.dropWhile_append, front, dropBlanksEnd,
    dropBlanks]
  split
  next empty =>
    rw [List.isEmpty_iff.1 empty]
    simp
  next => simp

theorem dropBlanks_trimChars (cs : List Char) : dropBlanks (trimChars cs) = trimChars cs :=
  dropBlanks_dropBlanksEnd (List.dropWhile_idempotent _ cs)

/-- Blanks behind a text without blanks at its ends are cut off where they stand. -/
theorem trimChars_append {cs : List Char} (nonempty : cs ≠ []) (trimmed : trimChars cs = cs)
    (more : List Char) : trimChars (cs ++ more) = cs ++ dropBlanksEnd more := by
  have front : dropBlanks (cs ++ more) = cs ++ more := by
    have clean := dropBlanks_trimChars cs
    rw [trimmed, dropBlanks_eq_self_iff] at clean
    rw [dropBlanks_eq_self_iff, List.head?_append_of_ne_nil _ nonempty]
    exact clean
  rw [trimChars, front, dropBlanksEnd_append (getLast?_of_trimChars trimmed)]

theorem trimChars_append_of_isBlank {c : Char} (blank : isBlank c = true) (cs : List Char) :
    trimChars (cs ++ [c]) = trimChars cs := by
  rw [trimChars, trimChars, dropBlanks, List.dropWhile_append]
  split
  next empty =>
    rw [dropBlanks, List.isEmpty_iff.1 empty, List.dropWhile_cons_of_pos blank, List.dropWhile_nil]
  next => rw [dropBlanksEnd_eq, List.rdropWhile_concat_pos _ _ _ blank, dropBlanksEnd_eq, dropBlanks]

end SpecLink.Text
