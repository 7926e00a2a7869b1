import SpecLink.Defaults.Clause
import SpecLink.Proofs.Defaults.Block
import SpecLink.Proofs.Text.Lines
import SpecLink.Proofs.Text.TopLevel

/-!
# The clauses of a value

A value of link defaults has the rules that its clauses have on their own. If a clause is malformed,
the whole value fails as the first such clause does. Main statements: `accepted_parseMetadata`
and `fault?_parseMetadata`.
-/
namespace SpecLink.Defaults

/-- The rules that were read, none if they are malformed. -/
def accepted : Except Failure (List DefaultRule) → List DefaultRule
  | .ok rules => rules
  | .error _ => []

/-- Why rules could not be read. -/
def fault? {α : Type} : Except Failure α → Option Failure
  | .ok _ => none
  | .error failure => some failure

/-- Why the first malformed clause of a value is malformed. -/
def firstFault? (value : String) : Option Failure :=
  (Text.splitTopLevel ',' value).findSome? fun clause => fault? (parseMetadata clause)

/-- The rules of the clauses of a value in their order, if none of the clauses is malformed. -/
def rulesOfClauses (value : String) : List DefaultRule :=
  if firstFault? value = none then
    (Text.splitTopLevel ',' value).flatMap fun clause => accepted (parseMetadata clause)
  else []

section Traversal

variable {α β : Type} {items : List α}

theorem mapM_congr {f g : α → Except Failure β} (same : ∀ a ∈ items, f a = g a) :
    items.mapM f = items.mapM g := by
  induction items with
  | nil => rfl
  | cons first rest ih =>
    rw [List.mapM_cons, List.mapM_cons, same first List.mem_cons_self,
      ih fun a member => same a (List.mem_cons_of_mem first member)]

/-- A traversal fails as the first item does that fails. -/
theorem fault?_mapM (f : α → Except Failure β) (items : List α) :
    fault? (items.mapM f) = items.findSome? fun a => fault? (f a) := by
  induction items with
  | nil => rfl
  | cons first rest ih =>
    rw [List.mapM_cons, List.findSome?_cons]
    cases here : f first with
    | error failure => rfl
    | ok b =>
      rw [fault?, ← ih]
      cases rest.mapM f with
      | error failure => rfl
      | ok others => rfl

end Traversal

variable {value clause piece : String} {rules : List DefaultRule} {failure : Failure}

theorem parseMetadata_ok_iff : parseMetadata value = .ok rules ↔ ∃ parts,
    List.Forall₂ (fun piece part => rulesOfPiece piece = .ok part)
      (Text.splitTopLevel ',' value) parts ∧ rules = parts.flatten := by
  simp only [parseMetadata, bind_ok_iff, mapM_ok_iff, pure, Except.pure, Except.ok.injEq]
  constructor
  · rintro ⟨parts, made, rfl⟩
    exact ⟨parts, made, rfl⟩
  · rintro ⟨parts, made, rfl⟩
    exact ⟨parts, made, rfl⟩

/-- A clause of a value is a single clause also on its own. -/
theorem parseMetadata_of_mem (member : clause ∈ Text.splitTopLevel ',' value) :
    parseMetadata clause = rulesOfPiece clause := by
  obtain ⟨piece, split, rfl⟩ := List.mem_map.1 member
  have enclosed := (Text.arePieces_splitOutside ',' value.toList).enclosed piece split
  have alone : Text.splitTopLevel ',' (String.ofList piece) = [String.ofList piece] := by
    rw [Text.splitTopLevel, String.toList_ofList, Text.splitOutside_of_encloses enclosed]
    rfl
  rw [parseMetadata, alone]
  cases outcome : rulesOfPiece (String.ofList piece) with
  | error failure => simp [outcome, bind, Except.bind]
  | ok rules => simp [outcome, pure, Except.pure, bind, Except.bind]

/-- A value is read by reading its clauses. -/
theorem parseMetadata_eq (value : String) : parseMetadata value = do
    return (← (Text.splitTopLevel ',' value).mapM parseMetadata).flatten := by
  rw [mapM_congr fun clause => parseMetadata_of_mem]
  rfl

/-- A value fails as its first malformed clause does. -/
theorem fault?_parseMetadata (value : String) : fault? (parseMetadata value) = firstFault? value := by
  rw [parseMetadata_eq, firstFault?, ← fault?_mapM]
  cases (Text.splitTopLevel ',' value).mapM parseMetadata with
  | error failure => rfl
  | ok parts => rfl

theorem firstFault?_eq_none_iff : firstFault? value = none ↔
    ∀ clause ∈ Text.splitTopLevel ',' value, ∃ rules, parseMetadata clause = .ok rules := by
  rw [firstFault?, List.findSome?_eq_none_iff]
  refine forall₂_congr fun clause _ => ?_
  cases parseMetadata clause with
  | ok rules => simp [fault?]
  | error failure => simp [fault?]

/-- A value has the rules of its clauses unless one of them is malformed. -/
theorem accepted_parseMetadata (value : String) :
    accepted (parseMetadata value) = rulesOfClauses value := by
  rw [rulesOfClauses]
  split
  next intact =>
    have read : (Text.splitTopLevel ',' value).mapM parseMetadata =
        .ok ((Text.splitTopLevel ',' value).map fun clause => accepted (parseMetadata clause)) := by
      rw [mapM_ok_iff, List.forall₂_map_right_iff, List.forall₂_same]
      intro clause member
      obtain ⟨rules, read⟩ := firstFault?_eq_none_iff.1 intact clause member
      rw [read, accepted]
    rw [parseMetadata_eq, read, List.flatMap_def]
    rfl
  next broken =>
    cases read : parseMetadata value with
    | error failure => rfl
    | ok rules =>
      rw [← fault?_parseMetadata, read] at broken
      exact absurd rfl broken

theorem slash_not_mem_of_rules {clause : Clause} (made : clause.rules = .ok rules) :
    ∀ rule ∈ rules, '/' ∉ rule.term.toList := by
  obtain ⟨kind, -, made⟩ := (bind_ok_iff _ _ _).1 made
  obtain rfl := Except.ok.inj made
  intro rule member
  obtain ⟨term, listed, rfl⟩ := List.mem_map.1 member
  obtain ⟨piece, split, rfl⟩ := List.mem_map.1 (List.mem_filter.1 listed).1
  obtain ⟨cs, inSplit, rfl⟩ := List.mem_map.1 split
  intro slash
  obtain ⟨front, back, whole, -⟩ := Text.exists_trimChars cs
  rw [Text.trim, String.toList_ofList, String.toList_ofList] at slash
  have inPiece : '/' ∈ cs := by
    rw [whole]
    exact List.mem_append_right front (List.mem_append_left back slash)
  simpa using Text.not_of_mem_splitOnP inSplit '/' inPiece

theorem slash_not_mem_of_rulesOfPiece (made : rulesOfPiece piece = .ok rules) :
    ∀ rule ∈ rules, '/' ∉ rule.term.toList := by
  rw [rulesOfPiece] at made
  split at made
  · obtain rfl := Except.ok.inj made
    exact fun rule member => absurd member List.not_mem_nil
  · split at made
    · exact slash_not_mem_of_rules made
    · cases made

/-- No rule of a value has a term with a slash. -/
theorem slash_not_mem_of_parseMetadata (read : parseMetadata value = .ok rules) :
    ∀ rule ∈ rules, '/' ∉ rule.term.toList := by
  obtain ⟨parts, made, rfl⟩ := parseMetadata_ok_iff.1 read
  intro rule member
  obtain ⟨part, inParts, inPart⟩ := List.mem_flatten.1 member
  obtain ⟨piece, -, read⟩ := exists_of_mem_mapM (mapM_ok_iff.2 made) part inParts
  exact slash_not_mem_of_rulesOfPiece read rule inPart

end SpecLink.Defaults
