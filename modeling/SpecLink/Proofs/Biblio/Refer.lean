import Mathlib.Logic.Relation
import SpecLink.Biblio.Refer
import SpecLink.Proofs.Action
import SpecLink.Proofs.Text.Lines
import SpecLink.Proofs.Text.Lowercase

/-!
# Records of the refer format

Lines are read one after the other, and a blank line closes the record that is open. So two texts
with a blank line between them are read like each of them alone, but for the numbers of the lines of
the second one; comments change nothing but those numbers. Main statement: `parse_recordwise`.
-/
namespace SpecLink

/-- The failure, if it is about a line, with that line moved down. -/
def Failure.moved (lines : Nat) : Failure → Failure
  | .parse fault source line => .parse fault source (line.map (· + lines))
  | failure => failure

namespace Refer

/-- Blanks aside, the text of the line starts like a comment. -/
def IsComment (line : String) : Prop :=
  Text.startsWith "#" (Text.trim line) = true ∨ Text.startsWith "%#" (Text.trim line) = true

/-- A comment, with its line feed, comes in where a line begins. -/
inductive AddsComment : String → String → Prop
  | add {before comment : String} (lineStart : Text.AtLineStart before)
    (oneLine : '\n' ∉ comment.toList) (isComment : IsComment comment) (after : String) :
    AddsComment (before ++ after) (before ++ (comment ++ "\n" ++ after))

/-- Reads lines of which the first has the given number. -/
def Reading.readLines (source : String) (number : Nat) (r : Reading) (lines : List String) :
    Except Failure Reading :=
  (lines.zipIdx number).foldlM (readLine source) r

/-- The reading with other entries finished before its own. -/
def Reading.onto (r : Reading) (entries : List BiblioEntry) : Reading :=
  { r with entries := r.entries ++ entries }

/-- What comes of reading further down, behind other entries. -/
def furtherDown (lines : Nat) (entries : List BiblioEntry) :
    Except Failure Reading → Except Failure Reading
  | .ok r => .ok (r.onto entries)
  | .error failure => .error (failure.moved lines)

section Reading

variable {r : Reading} {source : String} {number : Nat} {lines : List String}

theorem parse_eq (text source : String) : parse text source = do
    return (← Reading.readLines source 1 {} (Text.lines text)).close.entries.reverse := rfl

theorem readLines_cons (source : String) (number : Nat) (r : Reading) (line : String)
    (rest : List String) : Reading.readLines source number r (line :: rest) =
      (r.readLine source (line, number)).bind fun next =>
        next.readLines source (number + 1) rest := rfl

theorem readLines_append (source : String) (number : Nat) (r : Reading) (front rest : List String) :
    Reading.readLines source number r (front ++ rest) =
      (r.readLines source number front).bind fun next =>
        next.readLines source (number + front.length) rest := by
  rw [Reading.readLines, List.zipIdx_append, List.foldlM_append]
  rfl

theorem close_onto (r : Reading) (entries : List BiblioEntry) :
    (r.onto entries).close = r.close.onto entries := by
  obtain ⟨own, - | e⟩ := r
  · rfl
  · simp only [Reading.onto, Reading.close]
    split
    · rfl
    · rfl

/-- A line is read alike wherever it stands. -/
theorem readLine_furtherDown (source : String) (lines : Nat) (entries : List BiblioEntry)
    (r : Reading) (line : String) (number : Nat) :
    (r.onto entries).readLine source (line, number + lines) =
      furtherDown lines entries (r.readLine source (line, number)) := by
  rw [Reading.readLine, Reading.readLine]
  cases classify line with
  | blank => exact congrArg Except.ok (close_onto r entries)
  | comment => rfl
  | malformed => rfl
  | field code value =>
    have record : (r.onto entries).record = r.record := rfl
    simp only [record]
    cases setField (r.record.getD emptyRecord) code value with
    | none => rfl
    | some e => rfl

theorem readLines_furtherDown (source : String) (down : Nat) (entries : List BiblioEntry)
    (r : Reading) (number : Nat) (lines : List String) :
    (r.onto entries).readLines source (number + down) lines =
      furtherDown down entries (r.readLines source number lines) := by
  induction lines generalizing r number with
  | nil => rfl
  | cons line rest ih =>
    rw [readLines_cons, readLines_cons, readLine_furtherDown]
    cases r.readLine source (line, number) with
    | error failure => rfl
    | ok next =>
      rw [furtherDown, Except.bind, Except.bind, Nat.add_right_comm]
      exact ih next (number + 1)

theorem record_close (r : Reading) : r.close.record = none := by
  rw [Reading.close]
  cases record : r.record with
  | none => exact record
  | some e => rfl

/-- Two texts with a blank line between them are read one by one. -/
theorem parse_append {front : String} (ended : Text.AtLineStart front) (rest source : String) :
    parse (front ++ "\n" ++ rest) source = do
      let entries ← parse front source
      let others ← (parse rest source).mapError (Failure.moved ((Text.lines front).length + 1))
      return entries ++ others := by
  have lines : Text.lines (front ++ "\n" ++ rest) = Text.lines front ++ "" :: Text.lines rest := by
    have blank : Text.lines ("" ++ "\n" ++ rest) = "" :: Text.lines rest :=
      Text.lines_line (by decide) rest
    rw [String.empty_append] at blank
    rw [String.append_assoc, Text.lines_append ended, blank]
  rw [parse_eq, parse_eq, parse_eq, lines, readLines_append]
  cases Reading.readLines source 1 {} (Text.lines front) with
  | error failure => rfl
  | ok r =>
    have closes : r.readLine source ("", 1 + (Text.lines front).length) = .ok r.close := rfl
    have fresh : r.close = Reading.onto {} r.close.entries := by
      rw [Reading.onto, List.nil_append, ← record_close r]
    have down : 1 + (Text.lines front).length + 1 = 1 + ((Text.lines front).length + 1) := by omega
    rw [Except.bind, readLines_cons, closes, Except.bind, fresh, down, readLines_furtherDown]
    cases Reading.readLines source 1 {} (Text.lines rest) with
    | error failure => rfl
    | ok s =>
      have entries : (s.onto r.close.entries).close.entries = s.close.entries ++ r.close.entries := by
        rw [close_onto, Reading.onto]
      simp [furtherDown, entries, Except.mapError, bind, Except.bind, pure, Except.pure]

/-- A line begins behind its blanks as it does when it is trimmed. -/
theorem exists_dropBlanks_eq {start line : String}
    (starts : Text.startsWith start (Text.trim line) = true) :
    ∃ rest, Text.dropBlanks line.toList = start.toList ++ rest := by
  rw [Text.startsWith, List.isPrefixOf_iff_prefix, Text.trim, String.toList_ofList] at starts
  obtain ⟨rest, split⟩ := starts.trans (List.rdropWhile_prefix Text.isBlank _)
  exact ⟨rest, split.symm⟩

theorem classify_of_isComment {line : String} (isComment : IsComment line) :
    classify line = .comment := by
  rcases isComment with number | percent
  · obtain ⟨rest, split⟩ := exists_dropBlanks_eq number
    have start : "#".toList = ['#'] := by decide
    rw [classify, split, start]
    rfl
  · obtain ⟨rest, split⟩ := exists_dropBlanks_eq percent
    have start : "%#".toList = ['%', '#'] := by decide
    rw [classify, split, start]
    rfl

theorem isComment_withoutReturn {line : String} (isComment : IsComment line) :
    IsComment (Text.withoutReturn line) := by
  rwa [IsComment, Text.trim_withoutReturn]

/-- A comment that comes in changes no entry. -/
theorem parse_ok_iff_of_addsComment {s t : String} (adds : AddsComment s t) (source : String)
    (entries : List BiblioEntry) : parse s source = .ok entries ↔ parse t source = .ok entries := by
  obtain @⟨before, comment, lineStart, oneLine, isComment, after⟩ := adds
  rw [parse_eq, parse_eq, Text.lines_append lineStart, Text.lines_append lineStart,
    Text.lines_line oneLine, readLines_append, readLines_append]
  cases Reading.readLines source 1 {} (Text.lines before) with
  | error failure => rw [Except.bind, Except.bind]
  | ok r =>
    have passes : r.readLine source
        (Text.withoutReturn comment, 1 + (Text.lines before).length) = .ok r := by
      rw [Reading.readLine, classify_of_isComment (isComment_withoutReturn isComment)]
    have same : r = r.onto [] := by rw [Reading.onto, List.append_nil]
    have down := readLines_furtherDown source 1 [] r (1 + (Text.lines before).length)
      (Text.lines after)
    rw [← same] at down
    rw [Except.bind, Except.bind, readLines_cons, passes, Except.bind, down]
    cases r.readLines source (1 + (Text.lines before).length) (Text.lines after) with
    | error failure => exact iff_of_false nofun nofun
    | ok next =>
      rw [furtherDown, Reading.onto, List.append_nil]

/-- An error is about a line. -/
theorem exists_line_of_readLine {line : String × Nat} {failure : Failure}
    (failed : r.readLine source line = .error failure) :
    ∃ fault, failure = .parse fault source (some line.2) := by
  rw [Reading.readLine] at failed
  split at failed
  next blank => cases failed
  next comment => cases failed
  next malformed => exact ⟨_, (Except.error.inj failed).symm⟩
  next field =>
    split at failed
    · cases failed
    · exact ⟨_, (Except.error.inj failed).symm⟩

/-- A bibliography is read line by line, and fails with the first one that is malformed. -/
theorem exists_line_of_parse {text : String} {failure : Failure}
    (failed : parse text source = .error failure) :
    ∃ fault line, failure = .parse fault source (some line) := by
  have folded (lines : List String) (r : Reading) (number : Nat)
      (failed : r.readLines source number lines = .error failure) :
      ∃ fault line, failure = .parse fault source (some line) := by
    induction lines generalizing r number with
    | nil => cases failed
    | cons line rest ih =>
      rcases (bind_error_iff _ _ _).1 ((readLines_cons _ _ _ _ _).symm.trans failed) with
        here | ⟨next, -, later⟩
      · obtain ⟨fault, rfl⟩ := exists_line_of_readLine here
        exact ⟨fault, number, rfl⟩
      · exact ih next (number + 1) later
  rw [parse_eq, bind_error_iff] at failed
  rcases failed with failed | ⟨r, -, failed⟩
  · exact folded _ _ _ failed
  · cases failed

end Reading

section Records

variable {holds : BiblioEntry → Prop}

/-- The property holds of the open record and of the finished entries, which are valid. -/
structure Reading.Keeps (holds : BiblioEntry → Prop) (r : Reading) : Prop where
  entries : ∀ e ∈ r.entries, holds e ∧ e.isValid = true
  record : ∀ e, r.record = some e → holds e

theorem Reading.Keeps.close {r : Reading} (keeps : r.Keeps holds) : r.close.Keeps holds := by
  rw [Reading.close]
  cases record : r.record with
  | none => exact keeps
  | some e =>
    refine ⟨fun other member => ?_, fun other opened => by cases opened⟩
    simp only at member
    split at member
    next valid =>
      rcases List.mem_cons.1 member with rfl | member
      · exact ⟨keeps.record _ record, valid⟩
      · exact keeps.entries other member
    next => exact keeps.entries other member

theorem Reading.Keeps.readLine
    (sets : ∀ e code value changed, holds e → setField e code value = some changed → holds changed)
    (start : holds emptyRecord) {r next : Reading} {source : String} {line : String × Nat}
    (keeps : r.Keeps holds) (read : r.readLine source line = .ok next) : next.Keeps holds := by
  rw [Reading.readLine] at read
  split at read
  next => exact Except.ok.inj read ▸ keeps.close
  next => exact Except.ok.inj read ▸ keeps
  next => cases read
  next code value _ =>
    split at read
    next e set =>
      obtain rfl := Except.ok.inj read
      refine ⟨keeps.entries, fun other same => ?_⟩
      obtain rfl := Option.some.inj same
      refine sets _ code value _ ?_ set
      cases record : r.record with
      | none => exact start
      | some e => exact keeps.record e record
    next => cases read

/-- What every field leaves of a record as it is holds of all entries. -/
theorem holds_of_parse (holds : BiblioEntry → Prop) (start : holds emptyRecord)
    (sets : ∀ e code value changed, holds e → setField e code value = some changed → holds changed)
    {text source : String} {entries : List BiblioEntry} (parsed : parse text source = .ok entries) :
    ∀ e ∈ entries, holds e ∧ e.isValid = true := by
  rw [parse, bind_ok_iff] at parsed
  obtain ⟨r, read, same⟩ := parsed
  obtain rfl := Except.ok.inj same
  have empty : Reading.Keeps holds {} :=
    ⟨fun e member => absurd member List.not_mem_nil, fun e opened => by cases opened⟩
  have keeps : r.Keeps holds :=
    holds_of_foldlM (fun _ _ _ keeps read => Reading.Keeps.readLine sets start keeps read) empty read
  exact fun e member => keeps.close.entries e (List.mem_reverse.1 member)

theorem lowercase_key_of_setField {e changed : BiblioEntry} {code : Char} {value : String}
    (lower : Text.lowercase e.key = e.key) (set : setField e code value = some changed) :
    Text.lowercase changed.key = changed.key := by
  unfold setField at set
  -- One code sets the key, to a lowercase one; the others leave it.
  split at set <;> cases set <;> simp [lower]

end Records

/-- Records are read on their own. A text that ends its lines and another one behind a blank line
have the entries of either; an error is that of the first text, or else that of the second one, as
far down as its line stands now. Entries have a key, in lowercase, and a title. Comments that come
in or go where lines begin leave the entries as they are. -/
theorem parse_recordwise (source : String) :
    (∀ front rest, Text.AtLineStart front →
      (∀ entries others, parse front source = .ok entries → parse rest source = .ok others →
        parse (front ++ "\n" ++ rest) source = .ok (entries ++ others)) ∧
      (∀ failure, parse front source = .error failure →
        parse (front ++ "\n" ++ rest) source = .error failure) ∧
      ∀ entries failure, parse front source = .ok entries → parse rest source = .error failure →
        ∃ fault line, failure = .parse fault source (some line) ∧
          parse (front ++ "\n" ++ rest) source =
            .error (.parse fault source (some (line + ((Text.lines front).length + 1))))) ∧
    (∀ text entries, parse text source = .ok entries →
      ∀ e ∈ entries, e.key ≠ "" ∧ Text.lowercase e.key = e.key ∧ e.title ≠ "") ∧
    ∀ s t, Relation.EqvGen AddsComment s t →
      ∀ entries, parse s source = .ok entries ↔ parse t source = .ok entries := by
  refine ⟨fun front rest ended => ⟨?_, ?_, ?_⟩, ?_, ?_⟩
  · intro entries others first second
    rw [parse_append ended, first, second]
    rfl
  · intro failure first
    rw [parse_append ended, first]
    rfl
  · intro entries failure first second
    obtain ⟨fault, line, rfl⟩ := exists_line_of_parse second
    refine ⟨fault, line, rfl, ?_⟩
    rw [parse_append ended, first, second]
    rfl
  · intro text entries parsed e member
    obtain ⟨lower, valid⟩ := holds_of_parse (fun e => Text.lowercase e.key = e.key)
      (by decide) (fun _ _ _ _ => lowercase_key_of_setField) parsed e member
    simp only [BiblioEntry.isValid, Bool.and_eq_true, Bool.not_eq_true', String.isEmpty_eq_false_iff]
      at valid
    exact ⟨valid.1, lower, valid.2⟩
  · intro s t related entries
    induction related with
    | rel s t adds => exact parse_ok_iff_of_addsComment adds source entries
    | refl s => exact Iff.rfl
    | symm s t _ ih => exact ih.symm
    | trans s t u _ _ first second => exact first.trans second

/-- In the second of two texts the field of the second line is unknown. -/
theorem parse_of_unknownField :
    let front := "%L DOM\n# its title\n%T The Document Object Model\n"
    let rest := "%L css\n%Z CSS\n"
    Text.AtLineStart front ∧
      parse (front ++ "\n" ++ rest) "main.data" =
        .error (.parse (.referField 'Z') "main.data" (some 6)) ∧
      parse "%L DOM\n%T The Document Object Model\n" "main.data" =
        .ok [{ key := "dom", title := "The Document Object Model", order := BiblioOrder.refer }] := by
  intro front rest
  have ended : Text.AtLineStart front :=
    .inr ⟨"%L DOM\n# its title\n%T The Document Object Model", by decide⟩
  have lines : Text.lines front = ["%L DOM", "# its title", "%T The Document Object Model"] := by
    decide +kernel
  obtain ⟨composes, -, comments⟩ := parse_recordwise "main.data"
  have first : parse front "main.data" =
      .ok [{ key := "dom", title := "The Document Object Model", order := BiblioOrder.refer }] := by
    decide +kernel
  have second : parse rest "main.data" =
      .error (.parse (.referField 'Z') "main.data" (some 2)) := by decide +kernel
  have adds : AddsComment "%L DOM\n%T The Document Object Model\n" front := by
    have without : "%L DOM\n" ++ "%T The Document Object Model\n" =
        "%L DOM\n%T The Document Object Model\n" := by decide
    have within : "%L DOM\n" ++ ("# its title" ++ "\n" ++ "%T The Document Object Model\n") =
        front := by decide
    rw [← without, ← within]
    exact .add (.inr ⟨"%L DOM", by decide⟩) (by decide) (.inl (by decide +kernel)) _
  refine ⟨ended, ?_, (comments _ _ (.rel _ _ adds) _).2 first⟩
  obtain ⟨fault, line, same, whole⟩ := (composes front rest ended).2.2 _ _ first second
  cases same
  rwa [lines] at whole

end Refer

end SpecLink
