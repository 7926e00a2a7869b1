import SpecLink.Proofs.Action
import SpecLink.Proofs.Defaults.Records

/-!
# Info trees as indented lines

The lines of a block that say something stand on levels. Above a line stand, level by level, the
latest lines before it; a leaf gives a record of what is said on its path. The reader holds the path
of the last line and adds the record of a leaf when the next line shows that it is one. Main
statement: `parse_outcome`.
-/
namespace SpecLink.InfoTree

/-- The level of a line, from zero. -/
def depthOf (line : String) : Nat := indentation line / levelWidth

/-- The levels that the next line may stand on: one more than the last line has above it. -/
def room (above : List String) : Nat :=
  match above.getLast? with
  | some last => depthOf last + 1
  | none => 0

/-- The line can follow the lines above it. -/
structure Fits (above : List String) (line : String) : Prop where
  aligned : levelWidth ∣ indentation line
  attached : depthOf line ≤ room above
  readable : IsReadable line

/-- Each line can follow those above it. -/
def IsTree (above : List String) : List String → Prop
  | [] => True
  | line :: below => Fits above line ∧ IsTree (above ++ [line]) below

/-- The path of a line: its ancestor on a level is the latest line of that level above it, and it
stands last itself. -/
structure IsPath (above : List String) (line : String) (path : List String) : Prop where
  length : path.length = depthOf line + 1
  ancestor : ∀ level < depthOf line,
    path[level]? = (above.filter fun earlier => depthOf earlier = level).getLast?
  last : path[depthOf line]? = some line

/-- The lines that no deeper line follows, each with the lines above it. -/
def leaves (above : List String) : List String → List (List String × String)
  | [] => []
  | line :: below =>
    if ∀ next ∈ below.head?, depthOf next ≤ depthOf line then
      (above, line) :: leaves (above ++ [line]) below
    else leaves (above ++ [line]) below

/-- The record holds what is said on the path of a line, from the outermost line inwards. -/
def IsRecord (leaf : List String × String) (record : InfoRecord) : Prop :=
  ∃ path entries, IsPath leaf.1 leaf.2 path ∧ List.Forall₂ Tells path entries ∧
    Collects record entries.flatten

variable {above path below : List String} {line : String}

/-! ## Paths, line by line -/

@[simp] theorem room_concat (above : List String) (line : String) :
    room (above ++ [line]) = depthOf line + 1 := by
  simp [room]

theorem IsPath.extend {previous : String}
    (isPath : IsPath above previous path) (attached : depthOf line ≤ depthOf previous + 1) :
    IsPath (above ++ [previous]) line (path.take (depthOf line) ++ [line]) := by
  obtain ⟨length, ancestor, last⟩ := isPath
  have kept : (path.take (depthOf line)).length = depthOf line := by
    rw [List.length_take]
    omega
  refine ⟨?_, fun level inner => ?_, ?_⟩
  · rw [List.length_append, kept, List.length_singleton]
  · rw [List.getElem?_append_left (by omega), List.getElem?_take_of_lt inner, List.filter_append]
    -- The line before is the latest on its own level and counts on no other.
    by_cases own : level = depthOf previous
    · simp [own, last]
    · rw [ancestor level (by omega)]
      simp [Ne.symm own]
  · rw [List.getElem?_append_right (by omega), kept]
    simp

theorem isPath_first (attached : depthOf line ≤ room []) :
    IsPath [] line [line] := by
  have outermost : depthOf line = 0 := Nat.le_zero.1 attached
  refine ⟨by simp [outermost], fun level inner => ?_, by simp [outermost]⟩
  omega

/-- The record holds what the line says. -/
def IsRead (line : String) (record : InfoRecord) : Prop :=
  ∃ entries, Tells line entries ∧ Collects record entries

/-- The records are those of the lines on the path of the last line, if there is one. -/
inductive Stands : List String → List InfoRecord → Prop
  | start : Stands [] []
  | on {above : List String} {line : String} {path : List String} {stack : List InfoRecord}
      (isPath : IsPath above line path) (read : List.Forall₂ IsRead path stack) :
      Stands (above ++ [line]) stack

variable {r next : Reading}

/-- The path has exactly the levels down to that of the last line. -/
theorem Stands.length_eq {stack : List InfoRecord} (stands : Stands above stack) :
    stack.length = room above := by
  cases stands with
  | start => rfl
  | on isPath read => rw [← read.length_eq, isPath.length, room_concat]

/-- The last line gives a record if no line follows below it. -/
theorem Stands.closeLeaf_eq (stands : Stands (above ++ [line]) r.path) :
    r.closeLeaf = r.records ++ [flatten r.path] := by
  have height := stands.length_eq
  rw [Reading.closeLeaf, if_neg]
  intro empty
  simp [List.isEmpty_iff.1 empty] at height

theorem Stands.extend {stack : List InfoRecord} {record : InfoRecord}
    (stands : Stands above stack) (attached : depthOf line ≤ room above)
    (read : IsRead line record) :
    Stands (above ++ [line]) (stack.take (depthOf line) ++ [record]) := by
  have last : List.Forall₂ IsRead [line] [record] := .cons read .nil
  cases stands with
  | start =>
    rw [List.take_nil, List.nil_append]
    exact .on (isPath_first attached) last
  | on isPath earlier =>
    rw [room_concat] at attached
    exact .on (isPath.extend attached) (List.rel_append (List.forall₂_take _ earlier) last)

theorem Stands.exists_path {stack : List InfoRecord} (stands : Stands (above ++ [line]) stack) :
    ∃ path, IsPath above line path ∧ List.Forall₂ IsRead path stack := by
  generalize whole : above ++ [line] = lines at stands
  cases stands with
  | start => simp at whole
  | on isPath read =>
    obtain ⟨rfl, same⟩ := List.append_inj' whole rfl
    obtain rfl := List.singleton_injective same
    exact ⟨_, isPath, read⟩

/-- Each line has told its entries to its own record. -/
theorem exists_entries {stack : List InfoRecord} (read : List.Forall₂ IsRead path stack) :
    ∃ entries, List.Forall₂ Tells path entries ∧ List.Forall₂ Collects stack entries := by
  induction read with
  | nil => exact ⟨[], .nil, .nil⟩
  | cons here _ ih =>
    obtain ⟨told, tells, collects⟩ := here
    obtain ⟨others, tellOthers, collectOthers⟩ := ih
    exact ⟨told :: others, .cons tells tellOthers, .cons collects collectOthers⟩

theorem Stands.isRecord {stack : List InfoRecord} (stands : Stands (above ++ [line]) stack) :
    IsRecord (above, line) (flatten stack) := by
  obtain ⟨path, isPath, read⟩ := stands.exists_path
  obtain ⟨entries, tells, collects⟩ := exists_entries read
  exact ⟨path, entries, isPath, tells, .flatten collects⟩

/-! ## What one line does -/

/-- A line that fits is put on the path, and the line before it gives a record if it stands as deep
or deeper; a line that does not fit is refused. -/
theorem readLine_cases (stands : Stands above r.path) (line : String) :
    (Fits above line ∧ ∃ next, r.readLine line = .ok next ∧ Stands (above ++ [line]) next.path ∧
      next.records = if depthOf line < r.path.length then r.closeLeaf else r.records) ∨
    (¬ Fits above line ∧ ∃ fault, r.readLine line = .error fault) := by
  -- The three demands on a line are checked one after the other, each before the next is asked.
  have height := stands.length_eq
  rw [Reading.readLine]
  by_cases aligned : levelWidth ∣ indentation line
  · rw [if_neg (by simpa using Nat.mod_eq_zero_of_dvd aligned)]
    by_cases attached : depthOf line ≤ room above
    · rw [if_neg (by rw [height]; exact Nat.not_lt.2 attached)]
      cases read : readPieces? (Text.trimStart line) with
      | none =>
        refine .inr ⟨fun fits => ?_, _, rfl⟩
        have readable := readPieces?_isSome_iff.2 fits.readable
        simp [read] at readable
      | some record =>
        have readable : IsReadable line := readPieces?_isSome_iff.1 (by simp [read])
        exact .inl ⟨⟨aligned, attached, readable⟩, _, rfl,
          stands.extend attached (readPieces?_eq_some read), rfl⟩
    · rw [if_pos (by rw [height]; exact Nat.not_le.1 attached)]
      exact .inr ⟨fun fits => attached fits.attached, _, rfl⟩
  · rw [if_pos (by simpa [Nat.dvd_iff_mod_eq_zero, bne_iff_ne] using aligned)]
    exact .inr ⟨fun fits => aligned fits.aligned, _, rfl⟩

theorem fits_of_readLine (stands : Stands above r.path) (read : r.readLine line = .ok next) :
    Fits above line ∧ Stands (above ++ [line]) next.path ∧
      next.records = if depthOf line < r.path.length then r.closeLeaf else r.records := by
  rcases readLine_cases stands line with ⟨fits, other, here, onPath, records⟩ | ⟨-, fault, here⟩
  · obtain rfl : other = next := by simpa [read] using here.symm
    exact ⟨fits, onPath, records⟩
  · simp [read] at here

/-! ## What many lines do -/

/-- Lines that say nothing make no difference to a reading that comes to its end. -/
theorem foldlM_step_ok_iff (firstLine : Option Nat) (lines : List String) (index : Nat)
    (r final : Reading) : (lines.zipIdx index).foldlM (Reading.step firstLine) r = .ok final ↔
      (lines.filter isSignificant).foldlM Reading.readLine r = .ok final := by
  induction lines generalizing index r with
  | nil => simp [pure, Except.pure]
  | cons line rest ih =>
    rw [List.zipIdx_cons, List.foldlM_cons, bind_ok_iff]
    cases significant : isSignificant line with
    | false =>
      rw [List.filter_cons_of_neg (by simp [significant])]
      simp [Reading.step, significant, ih]
    | true =>
      rw [List.filter_cons_of_pos significant, List.foldlM_cons, bind_ok_iff]
      cases read : r.readLine line <;> simp [Reading.step, significant, read, ih]

theorem stands_of_foldlM (stands : Stands above r.path) {said : List String}
    (read : said.foldlM Reading.readLine r = .ok next) : Stands (above ++ said) next.path := by
  induction said generalizing above r with
  | nil =>
    obtain rfl : r = next := Except.ok.inj read
    simpa using stands
  | cons line below ih =>
    rw [List.foldlM_cons, bind_ok_iff] at read
    obtain ⟨middle, here, later⟩ := read
    have onPath := (fits_of_readLine stands here).2.1
    simpa using ih onPath later

/-- The reading comes to its end exactly if the lines make a tree. -/
theorem isTree_iff (stands : Stands above r.path) (said : List String) :
    IsTree above said ↔ ∃ final, said.foldlM Reading.readLine r = .ok final := by
  induction said generalizing above r with
  | nil => exact ⟨fun _ => ⟨r, rfl⟩, fun _ => trivial⟩
  | cons line below ih =>
    simp only [IsTree, List.foldlM_cons, bind_ok_iff]
    constructor
    · rintro ⟨fits, tree⟩
      obtain ⟨-, next, read, onPath, -⟩ | ⟨misfit, -⟩ := readLine_cases stands line
      · obtain ⟨final, later⟩ := (ih onPath).1 tree
        exact ⟨final, next, read, later⟩
      · exact absurd fits misfit
    · rintro ⟨final, next, read, later⟩
      obtain ⟨fits, onPath, -⟩ := fits_of_readLine stands read
      exact ⟨fits, (ih onPath).2 ⟨final, later⟩⟩

/-- From a line on, the reading adds the records of the leaves. -/
theorem records_of_foldlM {final : Reading} (stands : Stands (above ++ [line]) r.path)
    (read : below.foldlM Reading.readLine r = .ok final) :
    ∃ records, final.closeLeaf = r.records ++ records ∧
      List.Forall₂ IsRecord (leaves above (line :: below)) records := by
  -- Whether a line is a leaf shows one line later, so the last line read stands apart from those
  -- before it, and the induction is on the lines behind it.
  induction below generalizing above line r with
  | nil =>
    obtain rfl : r = final := Except.ok.inj read
    refine ⟨[flatten r.path], stands.closeLeaf_eq, ?_⟩
    simpa [leaves] using stands.isRecord
  | cons second below ih =>
    rw [List.foldlM_cons, bind_ok_iff] at read
    obtain ⟨middle, here, later⟩ := read
    obtain ⟨-, onPath, kept⟩ := fits_of_readLine stands here
    obtain ⟨records, closed, areRecords⟩ := ih onPath later
    rw [stands.length_eq, room_concat] at kept
    rw [leaves]
    by_cases leaf : depthOf second ≤ depthOf line
    · -- The line before is a leaf, which this line closes.
      rw [if_pos (by omega), stands.closeLeaf_eq] at kept
      refine ⟨flatten r.path :: records, ?_, ?_⟩
      · rw [closed, kept, List.append_assoc, List.singleton_append]
      · rw [if_pos (by simpa using leaf)]
        exact .cons stands.isRecord areRecords
    · rw [if_neg (by omega)] at kept
      refine ⟨records, ?_, ?_⟩
      · rw [closed, kept]
      · rw [if_neg (by simpa using leaf)]
        exact areRecords

/-- Lines that make no tree are one up to the first line that does not fit. -/
theorem exists_misfit {said : List String} (broken : ¬ IsTree above said) :
    ∃ fitting line rest, said = fitting ++ line :: rest ∧ IsTree above fitting ∧
      ¬ Fits (above ++ fitting) line := by
  induction said generalizing above with
  | nil => exact absurd trivial broken
  | cons first below ih =>
    by_cases fits : Fits above first
    · obtain ⟨fitting, line, rest, split, tree, misfit⟩ := ih fun later => broken ⟨fits, later⟩
      refine ⟨first :: fitting, line, rest, by rw [split, List.cons_append], ⟨fits, tree⟩, ?_⟩
      rwa [List.append_cons]
    · exact ⟨[], first, below, rfl, trivial, by simpa using fits⟩

/-- A line that does not fit behind a tree ends the reading, with its index. -/
theorem fault_of_misfit (firstLine : Option Nat) {before : List String} (after : List String)
    (significant : isSignificant line = true) (tree : IsTree [] (before.filter isSignificant))
    (misfit : ¬ Fits (before.filter isSignificant) line) :
    ∃ fault, (before ++ line :: after).zipIdx.foldlM (Reading.step firstLine) {} =
      .error (.parse fault blockSource (firstLine.map (· + before.length))) := by
  obtain ⟨middle, read⟩ := (isTree_iff (r := {}) .start _).1 tree
  obtain ⟨fits, -⟩ | ⟨-, fault, here⟩ := readLine_cases (stands_of_foldlM .start read) line
  · exact absurd fits misfit
  · refine ⟨fault, ?_⟩
    have step : Reading.step firstLine middle (line, before.length) =
        .error (.parse fault blockSource (firstLine.map (· + before.length))) := by
      simp [Reading.step, significant, here]
    rw [List.zipIdx_append, List.foldlM_append, (foldlM_step_ok_iff ..).2 read, Nat.zero_add]
    simp [step, bind, Except.bind]

/-! ## Blocks -/

theorem parse_ok_iff {lines : List String} {firstLine : Option Nat} {records : List InfoRecord} :
    parse lines firstLine = .ok records ↔
      ∃ final, (lines.filter isSignificant).foldlM Reading.readLine {} = .ok final ∧
        final.closeLeaf = records := by
  simp only [parse, bind_ok_iff, foldlM_step_ok_iff, pure, Except.pure, Except.ok.injEq]

/-- A block whose lines make a tree gives the records of its leaves in order; of any other block the
first line that does not fit is reported, at its place. After each line the path holds the levels
down to that of the last line and no other, and lines that say nothing make no difference to the
records. -/
theorem parse_outcome (lines : List String) (firstLine : Option Nat) :
    (IsTree [] (lines.filter isSignificant) → ∃ records, parse lines firstLine = .ok records ∧
      List.Forall₂ IsRecord (leaves [] (lines.filter isSignificant)) records) ∧
    (¬ IsTree [] (lines.filter isSignificant) → ∃ before line after fault,
      lines = before ++ line :: after ∧ isSignificant line = true ∧
      IsTree [] (before.filter isSignificant) ∧ ¬ Fits (before.filter isSignificant) line ∧
      parse lines firstLine =
        .error (.parse fault blockSource (firstLine.map (· + before.length)))) ∧
    (∀ before after r, lines = before ++ after →
      before.zipIdx.foldlM (Reading.step firstLine) {} = .ok r →
        ∀ last ∈ (before.filter isSignificant).getLast?,
          depthOf last < r.path.length ∧ r.path.take (depthOf last + 1) = r.path) ∧
    ∀ others otherFirst, others.filter isSignificant = lines.filter isSignificant →
      ∀ records, parse others otherFirst = .ok records ↔ parse lines firstLine = .ok records := by
  refine ⟨fun tree => ?_, fun broken => ?_, fun before after r _ read last isLast => ?_,
    fun others otherFirst same records => ?_⟩
  · simp only [parse_ok_iff]
    obtain ⟨final, read⟩ := (isTree_iff (r := {}) .start _).1 tree
    cases said : lines.filter isSignificant with
    | nil =>
      rw [said] at read
      obtain rfl : {} = final := Except.ok.inj read
      exact ⟨[], ⟨_, rfl, rfl⟩, .nil⟩
    | cons first below =>
      rw [said] at read
      obtain ⟨next, here, later⟩ := (bind_ok_iff ..).1 (List.foldlM_cons.symm.trans read)
      obtain ⟨-, onPath, kept⟩ := fits_of_readLine .start here
      obtain ⟨records, closed, areRecords⟩ := records_of_foldlM onPath later
      refine ⟨records, ⟨final, read, ?_⟩, areRecords⟩
      rw [closed, kept]
      rfl
  · obtain ⟨fitting, line, rest, parts, tree, misfit⟩ := exists_misfit broken
    -- The misfit has a place among all lines, those that say nothing included.
    obtain ⟨front, back, rfl, rfl, behind⟩ := List.filter_eq_append_iff.1 parts
    obtain ⟨silent, after, rfl, saysNothing, significant, rfl⟩ := List.filter_eq_cons_iff.1 behind
    have same : (front ++ silent).filter isSignificant = front.filter isSignificant := by
      rw [List.filter_append, List.filter_eq_nil_iff.2 saysNothing, List.append_nil]
    rw [← same] at tree misfit
    obtain ⟨fault, failed⟩ := fault_of_misfit firstLine after significant tree misfit
    refine ⟨front ++ silent, line, after, fault, (List.append_assoc ..).symm, significant, tree,
      misfit, ?_⟩
    rw [parse, ← List.append_assoc, failed]
    rfl
  · rw [foldlM_step_ok_iff] at read
    have height : r.path.length = depthOf last + 1 := by
      rw [(stands_of_foldlM .start read).length_eq, List.nil_append, room, Option.mem_def.1 isLast]
    refine ⟨by omega, ?_⟩
    rw [← height, List.take_length]
  · rw [parse_ok_iff, parse_ok_iff, same]

example : parse
    ["spec: a; type: dfn", "    text: x", "# both", "\ttext: y; for: b", "spec: c"] none =
    .ok [.ofList [("spec", ["a"]), ("text", ["x"]), ("type", ["dfn"])],
      .ofList [("for", ["b"]), ("spec", ["a"]), ("text", ["y"]), ("type", ["dfn"])],
      .ofList [("spec", ["c"])]] := by
  decide +kernel

end SpecLink.InfoTree
