import Mathlib.Data.List.Forall2
import SpecLink.Defaults.InfoTree
import SpecLink.Proofs.Sorted
import SpecLink.Proofs.Text.Blanks

/-!
# What lines say to a record

A line tells a list of entries, one for each piece `key: value`; a record gives each key the values
of its entries, in order. Main statements: `readPiece?_eq_some_iff` and `Collects.flatten`.
-/
namespace SpecLink

theorem Text.cutAt?_eq_some_iff {sep : Char} {s before after : String} :
    Text.cutAt? sep s = some (before, after) ↔
      s.toList = before.toList ++ sep :: after.toList ∧ sep ∉ before.toList := by
  have parts := List.takeWhile_append_dropWhile (p := (· != sep)) (l := s.toList)
  have front : sep ∉ s.toList.takeWhile (· != sep) := by
    intro member
    simpa using List.mem_takeWhile_imp member
  rw [Text.cutAt?]
  constructor
  · intro cut
    cases rest : s.toList.dropWhile (· != sep) with
    | nil => simp [rest] at cut
    | cons c tail =>
      simp only [rest, Option.some.injEq, Prod.mk.injEq] at cut
      obtain ⟨rfl, rfl⟩ := cut
      have found : c = sep := by
        have stops := List.head_dropWhile_not (· != sep)
          (by simp [rest] : s.toList.dropWhile _ ≠ [])
        simpa [rest] using stops
      rw [rest, found] at parts
      simp [parts, front]
  · rintro ⟨split, absent⟩
    have kept : ∀ c ∈ before.toList, (c != sep) = true := by
      intro c member
      simpa using fun same : c = sep => absent (same ▸ member)
    rw [split, List.dropWhile_append_of_pos kept, List.takeWhile_append_of_pos kept]
    simp

theorem Text.dropBlanks_append {blanks : List Char} (blank : ∀ c ∈ blanks, Text.isBlank c = true)
    (cs : List Char) : Text.dropBlanks (blanks ++ cs) = Text.dropBlanks cs :=
  List.dropWhile_append_of_pos blank

namespace InfoTree

/-- The piece reads `key: value`, blanks around it, the key and the value apart. The key has no
colon and the value no line feed. -/
def IsPiece (piece key value : String) : Prop :=
  ∃ left blanks right, (Text.trim piece).toList = left ++ ':' :: (blanks ++ right) ∧
    left ≠ [] ∧ ':' ∉ left ∧ (∀ c ∈ blanks, Text.isBlank c = true) ∧ '\n' ∉ right ∧
    key = Text.trim (String.ofList left) ∧ value = Text.trim (String.ofList right)

theorem readPiece?_eq_some_iff {piece key value : String} :
    readPiece? piece = some (key, value) ↔ IsPiece piece key value := by
  simp only [readPiece?, bind, Option.bind_eq_some_iff, Prod.exists, Text.cutAt?_eq_some_iff]
  constructor
  · rintro ⟨left, after, ⟨split, colonless⟩, read⟩
    split at read
    · cases read
    next regular =>
      -- The blanks behind the colon are taken as many as there are.
      simp only [Bool.or_eq_true, not_or] at regular
      simp only [Option.some.injEq, Prod.mk.injEq] at read
      refine ⟨left.toList, after.toList.takeWhile Text.isBlank, Text.dropBlanks after.toList, ?_,
        ?_, colonless, fun c member => List.mem_takeWhile_imp member, ?_, ?_, ?_⟩
      · rw [split, Text.dropBlanks, List.takeWhile_append_dropWhile]
      · simpa using regular.1
      · simpa [Text.trimStart] using regular.2
      · simpa using read.1.symm
      · exact read.2.symm
  · rintro ⟨left, blanks, right, split, nonempty, colonless, blank, oneLine, rfl, rfl⟩
    refine ⟨String.ofList left, String.ofList (blanks ++ right), ⟨by simpa using split,
      by simpa using colonless⟩, ?_⟩
    have value : Text.dropBlanks (blanks ++ right) = Text.dropBlanks right :=
      Text.dropBlanks_append blank right
    have within : '\n' ∉ Text.dropBlanks right := fun member =>
      oneLine ((List.dropWhile_sublist Text.isBlank).subset member)
    rw [if_neg (by simp [Text.trimStart, value, nonempty, within])]
    simp only [Text.trimStart, Text.trim, String.toList_ofList, value, Text.trimChars]
    rw [show Text.dropBlanks (Text.dropBlanks right) = Text.dropBlanks right from
      List.dropWhile_idempotent _ right]

/-- The line tells the entries, one for each of its pieces that is not blank. -/
def Tells (line : String) (entries : List (String × String)) : Prop :=
  List.Forall₂ (fun piece entry => IsPiece piece entry.1 entry.2)
    (piecesOf (Text.trimStart line)) entries

/-- Every piece of the line that is not blank reads `key: value`. -/
def IsReadable (line : String) : Prop :=
  ∀ piece ∈ piecesOf (Text.trimStart line), ∃ key value, IsPiece piece key value

/-- The values that some entries give to a key, in order. -/
def valuesIn (key : String) (entries : List (String × String)) : List String :=
  (entries.filter fun entry => entry.1 = key).map Prod.snd

@[simp] theorem valuesIn_append (key : String) (entries others : List (String × String)) :
    valuesIn key (entries ++ others) = valuesIn key entries ++ valuesIn key others := by
  simp [valuesIn]

/-- The record gives each key the values of the entries, and holds no key without values. -/
def Collects (record : InfoRecord) (entries : List (String × String)) : Prop :=
  ∀ key, record.get? key =
    if valuesIn key entries = [] then none else some (valuesIn key entries)

end InfoTree

namespace InfoRecord

theorem get?_add (record : InfoRecord) (key other : String) (values : List String) :
    (record.add key values).get? other =
      if other = key then some ((record.get? key).getD [] ++ values) else record.get? other :=
  SortedMap.get?_insert _ _ _ _

theorem get?_foldl_add (record : InfoRecord) {entries : List (String × List String)}
    (ascending : entries.Pairwise fun a b => a.1 < b.1) (key : String) :
    (entries.foldl (fun r e => r.add e.1 e.2) record).get? key =
      match entries.lookup key with
      | some values => some ((record.get? key).getD [] ++ values)
      | none => record.get? key := by
  induction entries generalizing record with
  | nil => rfl
  | cons first rest ih =>
    obtain ⟨other, values⟩ := first
    obtain ⟨before, sorted⟩ := List.pairwise_cons.1 ascending
    rw [List.foldl_cons, ih (record.add other values) sorted, get?_add]
    by_cases here : key = other
    · -- The key stands here and nowhere behind.
      subst here
      rw [SortedMap.lookup_eq_none_of_lt before]
      simp
    · rw [if_neg here, List.lookup_cons, beq_eq_false_iff_ne.2 here]

theorem get?_merge (record other : InfoRecord) (key : String) :
    (record.merge other).get? key =
      match other.get? key with
      | some values => some ((record.get? key).getD [] ++ values)
      | none => record.get? key :=
  get?_foldl_add record other.ascending key

end InfoRecord

namespace InfoTree

theorem Collects.valuesOf {record : InfoRecord} {entries : List (String × String)}
    (collects : Collects record entries) (key : String) :
    record.valuesOf key = valuesIn key entries := by
  rw [InfoRecord.valuesOf, collects key]
  split
  next none => rw [none, Option.getD_none]
  next => rfl

theorem Collects.get?_of_valuesIn {record : InfoRecord} {entries : List (String × String)}
    (collects : Collects record entries) {key value : String} {more : List String}
    (values : valuesIn key entries = value :: more) : record.get? key = some (value :: more) := by
  rw [collects key, values, if_neg (List.cons_ne_nil value more)]

theorem collects_empty : Collects SortedMap.empty [] := fun _ => rfl

theorem Collects.add {record : InfoRecord} {entries : List (String × String)}
    (collects : Collects record entries) (entry : String × String) :
    Collects (record.add entry.1 [entry.2]) (entries ++ [entry]) := by
  intro key
  rw [InfoRecord.get?_add, valuesIn_append]
  by_cases here : key = entry.1
  · have value : valuesIn entry.1 [entry] = [entry.2] := by simp [valuesIn]
    rw [here, if_pos rfl, collects entry.1, value]
    by_cases none : valuesIn entry.1 entries = []
    · simp [none]
    · simp [none]
  · have other : valuesIn key [entry] = [] := by simp [valuesIn, Ne.symm here]
    rw [if_neg here, collects key, other, List.append_nil]

theorem collects_foldl (entries : List (String × String)) :
    Collects (entries.foldl (fun r entry => r.add entry.1 [entry.2]) SortedMap.empty) entries := by
  induction entries using List.reverseRecOn with
  | nil => exact collects_empty
  | append_singleton earlier last ih =>
    rw [List.foldl_append]
    exact ih.add last

theorem Collects.merge {record other : InfoRecord} {entries others : List (String × String)}
    (collects : Collects record entries) (collects' : Collects other others) :
    Collects (record.merge other) (entries ++ others) := by
  intro key
  rw [InfoRecord.get?_merge, collects key, collects' key, valuesIn_append]
  by_cases later : valuesIn key others = []
  · simp [later]
  · by_cases earlier : valuesIn key entries = []
    · simp [later, earlier]
    · simp [later, earlier]

/-- What the lines of a path say together. -/
theorem Collects.flatten {path : List InfoRecord} {entries : List (List (String × String))}
    (collects : List.Forall₂ Collects path entries) :
    Collects (flatten path) entries.flatten := by
  have from_ {record : InfoRecord} {before : List (String × String)}
      (begun : Collects record before) :
      Collects (path.foldl InfoRecord.merge record) (before ++ entries.flatten) := by
    induction collects generalizing record before with
    | nil => simpa using begun
    | cons here _ ih =>
      rw [List.foldl_cons, List.flatten_cons, ← List.append_assoc]
      exact ih (begun.merge here)
  exact from_ collects_empty

/-! ## Reading a line -/

theorem mapM_eq_some_iff {α β : Type} {f : α → Option β} {items : List α} {results : List β} :
    items.mapM f = some results ↔ List.Forall₂ (fun a b => f a = some b) items results := by
  induction items generalizing results with
  | nil => cases results <;> simp
  | cons first rest ih =>
    cases results with
    | nil => simp [List.mapM_cons, Option.bind_eq_some_iff]
    | cons b others => simp [List.mapM_cons, Option.bind_eq_some_iff, ih]

theorem readPieces?_eq_some {line : String} {record : InfoRecord}
    (read : readPieces? (Text.trimStart line) = some record) :
    ∃ entries, Tells line entries ∧ Collects record entries := by
  simp only [readPieces?, bind, Option.bind_eq_some_iff, mapM_eq_some_iff] at read
  obtain ⟨entries, tells, made⟩ := read
  obtain rfl := Option.some.inj made
  exact ⟨entries, tells.imp fun piece entry read => readPiece?_eq_some_iff.1 read,
    collects_foldl entries⟩

theorem exists_record_of_tells {line : String} {entries : List (String × String)}
    (tells : Tells line entries) :
    ∃ record, readPieces? (Text.trimStart line) = some record ∧ Collects record entries := by
  have read := mapM_eq_some_iff.2 (tells.imp fun _ _ => readPiece?_eq_some_iff.2)
  refine ⟨_, ?_, collects_foldl entries⟩
  simp only [readPieces?, read, bind, Option.bind, pure]

theorem exists_mapM_iff {α β : Type} {f : α → Option β} (items : List α) :
    (∃ results, items.mapM f = some results) ↔ ∀ item ∈ items, ∃ result, f item = some result := by
  induction items with
  | nil => simp
  | cons first rest ih =>
    rw [List.forall_mem_cons, ← ih]
    simp only [List.mapM_cons, bind, pure, Option.bind_eq_some_iff, Option.some.injEq]
    constructor
    · rintro ⟨results, result, here, others, there, -⟩
      exact ⟨⟨result, here⟩, others, there⟩
    · rintro ⟨⟨result, here⟩, others, there⟩
      exact ⟨_, result, here, others, there, rfl⟩

theorem readPieces?_isSome_iff {line : String} :
    (readPieces? (Text.trimStart line)).isSome = true ↔ IsReadable line := by
  have readable : IsReadable line ↔
      ∀ piece ∈ piecesOf (Text.trimStart line), ∃ entry, readPiece? piece = some entry := by
    simp only [IsReadable, ← readPiece?_eq_some_iff, Prod.exists]
  rw [readable, ← exists_mapM_iff, Option.isSome_iff_exists]
  simp only [readPieces?, bind, Option.bind_eq_some_iff]
  constructor
  · rintro ⟨record, entries, read, -⟩
    exact ⟨entries, read⟩
  · rintro ⟨entries, read⟩
    exact ⟨_, entries, read, rfl⟩

end InfoTree

end SpecLink
