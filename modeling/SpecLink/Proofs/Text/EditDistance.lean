import SpecLink.Text.EditDistance

/-!
# Texts without distance

An entry of the table is zero if and only if the two parts that it compares are equal: only a
diagonal of equal characters keeps a zero. Main statement: `editDistance_eq_zero_iff`.
-/
namespace SpecLink.Text

/-- The row compares what has been read with the text before it and ever more characters of the list,
and is zero where they are equal. -/
inductive Marks (read : List Char) : List Char → List Char → List Nat → Prop
  | nil {before : List Char} : Marks read before [] []
  | cons {before bs : List Char} {b : Char} {entry : Nat} {row : List Nat} :
    (entry = 0 ↔ read = before ++ [b]) → Marks read (before ++ [b]) bs row →
      Marks read before (b :: bs) (entry :: row)

variable {read before bs : List Char} {row : List Nat} {first : Nat}

/-- Before anything is read, no entry may be zero. -/
theorem marks_of_positive (size : row.length = bs.length) (positive : ∀ n ∈ row, 0 < n) :
    Marks [] before bs row := by
  induction bs generalizing before row with
  | nil =>
    obtain rfl := List.length_eq_zero_iff.1 size
    exact .nil
  | cons b rest ih =>
    cases row with
    | nil => simp at size
    | cons entry others =>
      have here : 0 < entry := positive entry List.mem_cons_self
      apply Marks.cons
      · simp only [List.nil_eq, List.append_eq_nil_iff, List.cons_ne_nil, and_false, iff_false]
        omega
      · apply ih
        · simpa using size
        · exact fun n member => positive n (List.mem_cons_of_mem entry member)

/-- What is to the left does not matter for the zeros of the next row. -/
theorem marks_distanceRow {diagonal : Nat} (marks : Marks read before bs row)
    (corner : diagonal = 0 ↔ read = before) (a : Char) (left : Nat) :
    Marks (read ++ [a]) before bs (distanceRow a left diagonal bs row) := by
  induction marks generalizing left diagonal with
  | nil => exact .nil
  | @cons before bs b above row zero _ ih =>
    refine .cons ?_ (ih zero _)
    have grown : read ++ [a] = before ++ [b] ↔ a = b ∧ read = before := by
      simp only [← List.concat_eq_append, List.concat_inj, and_comm]
    -- The neighbours above and to the left count one more, so the corner alone can be zero.
    rw [grown, ← corner, Nat.min_eq_zero_iff, Nat.min_eq_zero_iff]
    by_cases same : a = b
    · simp [same]
    · simp [same]

theorem Marks.getLastD_eq_zero_iff (marks : Marks read before bs row)
    (start : first = 0 ↔ read = before) : row.getLastD first = 0 ↔ read = before ++ bs := by
  induction marks generalizing first with
  | nil => simpa using start
  | cons zero _ ih =>
    rw [List.getLastD_cons, ih zero]
    simp

theorem distanceFrom_eq_zero_iff (marks : Marks read [] bs row) (start : first = 0 ↔ read = [])
    (as : List Char) : distanceFrom bs first row as = 0 ↔ read ++ as = bs := by
  induction as generalizing read row first with
  | nil =>
    rw [distanceFrom, marks.getLastD_eq_zero_iff start]
    simp
  | cons a rest ih =>
    rw [distanceFrom, ih (marks_distanceRow marks start a _)]
    · simp
    · simp

/-- Only equal texts have no distance. -/
theorem editDistance_eq_zero_iff (s t : String) : editDistance s t = 0 ↔ s = t := by
  have marks : Marks [] [] t.toList ((List.range t.toList.length).map (· + 1)) := by
    apply marks_of_positive
    · simp
    · simp
  rw [editDistance, distanceFrom_eq_zero_iff marks (by simp), List.nil_append, String.toList_inj]

end SpecLink.Text
