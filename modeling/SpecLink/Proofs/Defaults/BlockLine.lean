import SpecLink.Hint
import SpecLink.Proofs.Defaults.Block
import SpecLink.Proofs.Defaults.InfoTree
import SpecLink.Proofs.Hint
import SpecLink.Proofs.Text.TopLevel

/-!
# Lines of hints read back

The line of a hint is a row of pieces `key:value`, each with its key and value as they are. Read as
a block it gives the rule that the hint stands for. Main statement: `parseBlock_blockLine`.
-/
namespace SpecLink

namespace InfoTree

/-- A word that can stand as a key, also at the start of a line. -/
structure IsKey (key : String) : Prop where
  nonempty : key.toList ≠ []
  plain : ∀ c ∈ key.toList, Text.isBlank c = false ∧ c ∉ [':', ';', '#']

/-- A text that can stand as a value: on one line, without semicolons, without blanks around it. -/
structure IsValue (value : String) : Prop where
  oneLine : '\n' ∉ value.toList
  unbroken : ';' ∉ value.toList
  trimmed : Text.trim value = value

/-- How an entry is written. -/
def showEntry (entry : String × String) : String := entry.1 ++ ":" ++ entry.2

/-- How the entries of a line are written. -/
def showEntries (entries : List (String × String)) : String :=
  "; ".intercalate (entries.map showEntry)

variable {key value : String} {entries : List (String × String)}

theorem isKey_iff : IsKey key ↔ (!key.toList.isEmpty &&
    key.toList.all fun c => !Text.isBlank c && !([':', ';', '#'].contains c)) = true := by
  constructor
  · rintro ⟨nonempty, plain⟩
    simpa [nonempty] using plain
  · intro check
    obtain ⟨nonempty, plain⟩ := Bool.and_eq_true_iff.1 check
    exact ⟨by simpa using nonempty, by simpa using plain⟩

instance (key : String) : Decidable (IsKey key) := decidable_of_iff _ isKey_iff.symm

theorem isValue_iff :
    IsValue value ↔ '\n' ∉ value.toList ∧ ';' ∉ value.toList ∧ Text.trim value = value :=
  ⟨fun isValue => ⟨isValue.oneLine, isValue.unbroken, isValue.trimmed⟩,
    fun ⟨oneLine, unbroken, trimmed⟩ => ⟨oneLine, unbroken, trimmed⟩⟩

instance (value : String) : Decidable (IsValue value) := decidable_of_iff _ isValue_iff.symm

theorem toList_showEntry (key value : String) :
    (showEntry (key, value)).toList = key.toList ++ ':' :: value.toList := by
  simp [showEntry]

theorem IsValue.trimChars (isValue : IsValue value) :
    Text.trimChars value.toList = value.toList := by
  rw [← String.toList_ofList (l := Text.trimChars value.toList)]
  exact congrArg String.toList isValue.trimmed

/-- Blanks at the ends of a written entry are none of its own. -/
theorem trimChars_showEntry (isKey : IsKey key) (isValue : IsValue value) :
    Text.trimChars (showEntry (key, value)).toList = (showEntry (key, value)).toList := by
  rw [toList_showEntry]
  apply Text.trimChars_eq_self
  · intro c first
    rw [List.head?_append_of_ne_nil _ isKey.nonempty] at first
    exact (isKey.plain c (List.mem_of_mem_head? first)).1
  · intro c last
    rw [List.getLast?_append_of_ne_nil _ (List.cons_ne_nil _ _), List.getLast?_cons] at last
    cases end_ : value.toList.getLast? with
    | none =>
      rw [end_] at last
      obtain rfl : ':' = c := by simpa using last
      decide
    | some d =>
      rw [end_] at last
      obtain rfl : d = c := by simpa using last
      exact Text.getLast?_of_trimChars isValue.trimChars d end_

theorem isPiece_of_trim {piece : String} (isKey : IsKey key) (isValue : IsValue value)
    (trimmed : Text.trimChars piece.toList = (showEntry (key, value)).toList) :
    IsPiece piece key value := by
  refine ⟨key.toList, [], value.toList, ?_, isKey.nonempty, ?_, by simp, isValue.oneLine, ?_, ?_⟩
  · rw [Text.trim, String.toList_ofList, trimmed, toList_showEntry, List.nil_append]
  · exact fun colon => (isKey.plain _ colon).2 (by decide)
  · have plain := Text.trimChars_of_nonblank fun c member => (isKey.plain c member).1
    simp [Text.trim, plain]
  · rw [String.ofList_toList, isValue.trimmed]

theorem IsPiece.not_blank {piece : String} (isPiece : IsPiece piece key value) :
    Text.isBlankText piece = false := by
  obtain ⟨left, blanks, right, split, -⟩ := isPiece
  obtain ⟨front, back, whole, -⟩ := Text.exists_trimChars piece.toList
  rw [Text.trim, String.toList_ofList] at split
  have colon : ':' ∈ piece.toList := by
    rw [whole, split]
    simp
  rw [Text.isBlankText, List.all_eq_false]
  exact ⟨':', colon, by decide⟩

/-- Key and value of each entry can be written. -/
def AreWritable (entries : List (String × String)) : Prop :=
  ∀ entry ∈ entries, IsKey entry.1 ∧ IsValue entry.2

theorem toList_showEntries (first : String × String) (others : List (String × String)) :
    (showEntries (first :: others)).toList =
      [';'].intercalate ((showEntry first).toList ::
        others.map fun entry => ' ' :: (showEntry entry).toList) := by
  have semicolon : "; ".toList = [';', ' '] := by decide
  rw [showEntries, String.toList_intercalate, semicolon, List.map_map, List.map_cons,
    Text.intercalate_two, List.map_map]
  rfl

theorem splitAt_showEntries {first : String × String} {others : List (String × String)}
    (writable : AreWritable (first :: others)) :
    Text.splitAt ';' (showEntries (first :: others)) =
      showEntry first :: others.map fun entry => " " ++ showEntry entry := by
  have unbroken : ∀ entry ∈ first :: others, ';' ∉ (showEntry entry).toList := by
    intro entry member semicolon
    obtain ⟨isKey, isValue⟩ := writable entry member
    rw [toList_showEntry] at semicolon
    rcases List.mem_append.1 semicolon with inKey | behind
    · exact (isKey.plain _ inKey).2 (by decide)
    · rcases List.mem_cons.1 behind with colon | inValue
      · exact absurd colon (by decide)
      · exact isValue.unbroken inValue
  rw [Text.splitAt, ← List.splitOn_eq_splitOnP, toList_showEntries, List.splitOn_intercalate]
  · simp [Function.comp_def]
  · intro piece member
    rcases List.mem_cons.1 member with rfl | member
    · exact unbroken first List.mem_cons_self
    · obtain ⟨entry, listed, rfl⟩ := List.mem_map.1 member
      simpa using unbroken entry (List.mem_cons_of_mem first listed)
  · exact List.cons_ne_nil _ _

/-- A written line starts with its first key. -/
theorem exists_showEntries_eq_cons {first : String × String} (isKey : IsKey first.1)
    (others : List (String × String)) : ∃ c rest, (showEntries (first :: others)).toList = c :: rest ∧
      Text.isBlank c = false ∧ c ≠ '#' := by
  obtain ⟨c, rest, key⟩ := List.exists_cons_of_ne_nil isKey.nonempty
  have front : ∃ behind, (showEntries (first :: others)).toList = first.1.toList ++ behind := by
    rw [toList_showEntries, toList_showEntry]
    cases others with
    | nil => exact ⟨':' :: first.2.toList, by rw [List.map_nil, List.intercalate_singleton]⟩
    | cons second others =>
      rw [List.map_cons, List.intercalate_cons_cons, List.append_assoc, List.append_assoc]
      exact ⟨_, rfl⟩
  obtain ⟨behind, line⟩ := front
  obtain ⟨nonblank, ordinary⟩ := isKey.plain c (key ▸ List.mem_cons_self)
  refine ⟨c, rest ++ behind, by rw [line, key, List.cons_append], nonblank, ?_⟩
  rintro rfl
  exact ordinary (by decide)

/-- A written line tells its entries. -/
theorem tells_showEntries {first : String × String} {others : List (String × String)}
    (writable : AreWritable (first :: others)) :
    Tells (showEntries (first :: others)) (first :: others) := by
  obtain ⟨c, rest, line, nonblank, -⟩ :=
    exists_showEntries_eq_cons (writable first List.mem_cons_self).1 others
  have front : Text.trimStart (showEntries (first :: others)) = showEntries (first :: others) := by
    rw [Text.trimStart, Text.dropBlanks_eq_self_iff.2 (by simp [line, nonblank]),
      String.ofList_toList]
  have plain {entry : String × String} (member : entry ∈ first :: others) :
      IsPiece (showEntry entry) entry.1 entry.2 := by
    obtain ⟨isKey, isValue⟩ := writable entry member
    exact isPiece_of_trim isKey isValue (trimChars_showEntry isKey isValue)
  have spaced {entry : String × String} (member : entry ∈ first :: others) :
      IsPiece (" " ++ showEntry entry) entry.1 entry.2 := by
    obtain ⟨isKey, isValue⟩ := writable entry member
    have space : (" " ++ showEntry entry).toList = ' ' :: (showEntry entry).toList := by simp
    apply isPiece_of_trim isKey isValue
    rw [space, Text.trimChars_cons_of_isBlank (by decide), trimChars_showEntry isKey isValue]
  have pieces : List.Forall₂ (fun piece entry => IsPiece piece entry.1 entry.2)
      (showEntry first :: others.map fun entry => " " ++ showEntry entry) (first :: others) := by
    refine .cons (plain List.mem_cons_self) (List.forall₂_map_left_iff.2 ?_)
    exact List.forall₂_same.2 fun entry member => spaced (List.mem_cons_of_mem first member)
  obtain ⟨nonblank, -⟩ := (List.forall₂_and_left _ _).1
    (pieces.imp fun _ _ isPiece => ⟨isPiece.not_blank, isPiece⟩)
  rw [Tells, piecesOf, front, splitAt_showEntries writable, List.filter_eq_self.2]
  · exact pieces
  · intro piece member
    rw [nonblank piece member]
    rfl

/-- Read as a block, a written line is one record of its entries. -/
theorem parse_showEntries (nonempty : entries ≠ []) (writable : AreWritable entries)
    (firstLine : Option Nat) :
    ∃ record, parse [showEntries entries] firstLine = .ok [record] ∧ Collects record entries := by
  obtain ⟨first, others, rfl⟩ := List.exists_cons_of_ne_nil nonempty
  obtain ⟨c, rest, line, nonblank, ordinary⟩ :=
    exists_showEntries_eq_cons (writable first List.mem_cons_self).1 others
  have outermost : indentation (showEntries (first :: others)) = 0 := by
    simp [indentation, line, nonblank]
  have significant : isSignificant (showEntries (first :: others)) = true := by
    simp [isSignificant, line, Text.dropBlanks, nonblank, ordinary]
  obtain ⟨record, read, collects⟩ := exists_record_of_tells (tells_showEntries writable)
  have step : Reading.readLine {} (showEntries (first :: others)) = .ok ⟨[], [record]⟩ := by
    simp [Reading.readLine, outermost, read]
  have all : [showEntries (first :: others)].filter isSignificant =
      [showEntries (first :: others)] := List.filter_cons_of_pos significant
  refine ⟨flatten [record], parse_ok_iff.2 ⟨⟨[], [record]⟩, ?_, rfl⟩, ?_⟩
  · rw [all, List.foldlM_cons, step]
    rfl
  · simpa using Collects.flatten (.cons collects .nil)

end InfoTree

namespace Hint

open InfoTree Defaults

/-- The entries of the line that selects the definition. -/
def entries (h : Hint) : List (String × String) :=
  [("spec", h.spec), ("type", h.kind.name)] ++ h.scope.toList.map (("for", ·)) ++ [("text", h.text)]

theorem blockLine_eq (h : Hint) : h.blockLine = showEntries h.entries := by
  rw [← String.toList_inj]
  rcases h with ⟨text, kind, spec, - | scope, url⟩
  · simp [blockLine, entries, showEntries, showEntry, toString]
  · simp [blockLine, entries, showEntries, showEntry, toString]

theorem isValue_name (kind : DefinitionKind) : IsValue kind.name := by
  have check : ∀ kind ∈ DefinitionKind.all, IsValue kind.name := by decide +kernel
  exact check kind kind.mem_all

theorem isKey_entries : ∀ key ∈ ["spec", "type", "for", "text"], IsKey key := by decide

theorem areWritable_entries {h : Hint} (spec : IsValue h.spec) (text : IsValue h.text)
    (scope : ∀ value, h.scope = some value → IsValue value) : AreWritable h.entries := by
  have fields : ∀ entry ∈ h.entries, entry.1 ∈ ["spec", "type", "for", "text"] ∧ IsValue entry.2 := by
    rcases h with ⟨_, kind, _, - | value, _⟩
    · simp [entries, spec, text, isValue_name]
    · simp [entries, spec, text, isValue_name, scope]
  exact fun entry member => ⟨isKey_entries _ (fields entry member).1, (fields entry member).2⟩

theorem valuesIn_entries (h : Hint) : valuesIn "spec" h.entries = [h.spec] ∧
    valuesIn "type" h.entries = [h.kind.name] ∧ valuesIn "text" h.entries = [h.text] ∧
    valuesIn "status" h.entries = [] ∧ valuesIn "for" h.entries = h.scope.toList := by
  obtain ⟨text, kind, spec, - | scope, url⟩ := h
  · exact ⟨rfl, rfl, rfl, rfl, rfl⟩
  · exact ⟨rfl, rfl, rfl, rfl, rfl⟩

/-- A record of the entries of a line gives the rule of its hint. -/
theorem gives_rule {h : Hint} {record : InfoRecord} (collects : Collects record h.entries)
    (lower : Text.lowercase h.spec = h.spec) : Gives record [h.rule] := by
  obtain ⟨specs, types, texts, statuses, scopes⟩ := valuesIn_entries h
  refine ⟨h.spec, h.kind.name, h.text, h.kind, none, collects.get?_of_valuesIn specs,
    collects.get?_of_valuesIn types, collects.get?_of_valuesIn texts,
    (isValue_name h.kind).trimmed.symm, ?_, ?_⟩
  · rw [collects.valuesOf, statuses]
    rfl
  · rw [collects.valuesOf, scopes, lower]
    obtain ⟨text, kind, spec, - | scope, url⟩ := h
    · rfl
    · rfl

/-- The line of a hint reads back: as a block it is the one rule that the hint stands for. -/
theorem parseBlock_blockLine {h : Hint} (spec : IsValue h.spec) (text : IsValue h.text)
    (scope : ∀ value, h.scope = some value → IsValue value)
    (lower : Text.lowercase h.spec = h.spec) (firstLine : Option Nat) :
    parseBlock [h.blockLine] firstLine = .ok [h.rule] := by
  obtain ⟨record, parsed, collects⟩ := parse_showEntries (List.cons_ne_nil _ _)
    (areWritable_entries spec text scope) firstLine
  have read : rulesOfRecord firstLine record = .ok [h.rule] :=
    rulesOfRecord_ok_iff.2 (gives_rule collects lower)
  have rules : [record].mapM (rulesOfRecord firstLine) = .ok [[h.rule]] :=
    mapM_ok_iff.2 (.cons read .nil)
  rw [blockLine_eq, parseBlock]
  exact (bind_ok_iff _ _ _).2 ⟨[record], parsed, (bind_ok_iff _ _ _).2 ⟨[[h.rule]], rules, rfl⟩⟩

/-- The text of the hint holds a colon, a number sign, a quote and parentheses, its scope nothing. -/
theorem parseBlock_blockLine_colons :
    let h : Hint := ⟨"::a:b(\"c\", #d)", .selector, "css-foo-1", some "", "https://foo/#ab"⟩
    (IsValue h.spec ∧ IsValue h.text ∧ IsValue "" ∧ Text.lowercase h.spec = h.spec) ∧
      parseBlock ["spec:css-foo-1; type:selector; for:; text:::a:b(\"c\", #d)"] (some 7) =
        .ok [⟨"::a:b(\"c\", #d)", "css-foo-1", .selector, none, some ""⟩] := by
  intro h
  have isValue : ∀ value ∈ [h.spec, h.text, ""], IsValue value := by decide +kernel
  have spec := isValue h.spec (by simp)
  have text := isValue h.text (by simp)
  have empty := isValue "" (by simp)
  have lower : Text.lowercase h.spec = h.spec := by decide +kernel
  have line : h.blockLine = "spec:css-foo-1; type:selector; for:; text:::a:b(\"c\", #d)" := by
    decide +kernel
  refine ⟨⟨spec, text, empty, lower⟩, ?_⟩
  rw [← line]
  refine parseBlock_blockLine spec text (fun value scope => ?_) lower (some 7)
  obtain rfl := Option.some.inj scope
  exact empty

end Hint

end SpecLink
