import SpecLink.Proofs.Text.Blanks

/-!
# The lines of a text

Behind a line feed the lines of a text begin anew, so texts that end their lines have the lines of
their parts. Main statements: `lines_append` and `lines_line`.
-/
namespace SpecLink.Text

/-- At the end of the text a line begins: the text is empty or ends in a line feed. -/
def AtLineStart (s : String) : Prop := s = "" ∨ ∃ front, s = front ++ "\n"

theorem stripEnd?_eq_some_iff {ending s rest : String} :
    stripEnd? ending s = some rest ↔ s = rest ++ ending := by
  rw [stripEnd?, Option.map_eq_some_iff, ← String.toList_inj, String.toList_append]
  constructor
  · rintro ⟨front, cut, rfl⟩
    rw [String.toList_ofList]
    exact (List.isSuffixOf?_eq_some_iff_append_eq.1 cut).symm
  · intro split
    exact ⟨rest.toList, List.isSuffixOf?_eq_some_iff_append_eq.2 split.symm, String.ofList_toList⟩

/-- A carriage return at the end of a line is cut off with its blanks. -/
theorem trim_withoutReturn (line : String) : trim (withoutReturn line) = trim line := by
  rw [withoutReturn]
  cases cut : stripEnd? "\r" line with
  | none => rfl
  | some rest =>
    rw [stripEnd?_eq_some_iff.1 cut, Option.getD_some, trim, trim, String.toList_append]
    exact congrArg String.ofList (trimChars_append_of_isBlank (by decide) rest.toList).symm

/-- No piece holds a character at which the list is cut. -/
theorem not_of_mem_splitOnP {cut : Char → Bool} {cs piece : List Char}
    (member : piece ∈ cs.splitOnP cut) : ∀ c ∈ piece, cut c = false := by
  induction cs generalizing piece with
  | nil =>
    obtain rfl : piece = [] := by simpa using member
    exact fun c inPiece => absurd inPiece List.not_mem_nil
  | cons first rest ih =>
    rw [List.splitOnP_cons_eq_if_modifyHead] at member
    split at member
    · rcases List.mem_cons.1 member with rfl | later
      · exact fun c inPiece => absurd inPiece List.not_mem_nil
      · exact ih later
    next kept =>
      obtain ⟨front, others, pieces⟩ :=
        List.exists_cons_of_ne_nil (List.splitOnP_ne_nil cut rest)
      rw [pieces] at member ih
      rcases List.mem_cons.1 member with rfl | later
      · exact List.forall_mem_cons.2 ⟨Bool.eq_false_iff.2 kept, ih List.mem_cons_self⟩
      · exact ih (List.mem_cons_of_mem front later)

theorem splitAt_append (front rest : String) :
    splitAt '\n' (front ++ "\n" ++ rest) = splitAt '\n' front ++ splitAt '\n' rest := by
  have feed : "\n".toList = ['\n'] := by decide
  rw [splitAt, splitAt, splitAt, String.toList_append, String.toList_append, feed, List.append_assoc,
    List.singleton_append, List.splitOnP_append_cons _ _ (by decide), List.map_append]

theorem lines_of_ended (front rest : String) :
    lines (front ++ "\n" ++ rest) = (splitAt '\n' front).map withoutReturn ++ lines rest := by
  have nonempty : splitAt '\n' rest ≠ [] := by
    rw [splitAt, ne_eq, List.map_eq_nil_iff]
    exact List.splitOnP_ne_nil _ _
  have last : (splitAt '\n' front ++ splitAt '\n' rest).getLastD "" =
      (splitAt '\n' rest).getLastD "" := by
    rw [List.getLastD_eq_getLast?, List.getLastD_eq_getLast?, List.getLast?_append_of_ne_nil _ nonempty]
  simp only [lines, splitAt_append, List.dropLast_append_of_ne_nil nonempty, last, List.map_append]
  split
  · rfl
  · rw [List.append_assoc]

/-- A text that ends its lines is followed by the lines of the next one. -/
theorem lines_append {front : String} (ended : AtLineStart front) (rest : String) :
    lines (front ++ rest) = lines front ++ lines rest := by
  rcases ended with rfl | ⟨start, rfl⟩
  · rw [String.empty_append]
    rfl
  · have alone := lines_of_ended start ""
    rw [String.append_empty] at alone
    have none : lines "" = [] := by decide
    rw [lines_of_ended, alone, none, List.append_nil]

/-- A line, ended by its line feed, is one line of the text that starts with it. -/
theorem lines_line {line : String} (oneLine : '\n' ∉ line.toList) (rest : String) :
    lines (line ++ "\n" ++ rest) = withoutReturn line :: lines rest := by
  have alone : splitAt '\n' line = [line] := by
    rw [splitAt, List.splitOnP_eq_singleton fun c member => ?_]
    · simp
    · simpa using fun same : c = '\n' => oneLine (same ▸ member)
  rw [lines_of_ended, alone, List.map_singleton, List.singleton_append]

end SpecLink.Text
