import SpecLink.Json.Record
import SpecLink.Proofs.Json.Numerals
import SpecLink.Proofs.Sorted

/-!
# Records read back

What is written as a record, a list, a number or a possibly missing value is read back as it was,
and it is readable wherever few enough containers are open. Main statements: `bind_slots?_record`,
`map?_record` and `not_refused`.
-/
namespace SpecLink.Json

variable {α : Type} {read : Json → Option α} {write : α → Json}

/-- Every value is read back from what it is written as. -/
abbrev ReadsBack (write : α → Json) (read : Json → Option α) : Prop :=
  ∀ a, read (write a) = some a

@[simp] theorem text?_text (s : String) : (text s).text? = some s := rfl

@[simp] theorem bool?_bool (value : Bool) : (Json.bool value).bool? = some value := rfl

@[simp] theorem word?_nat (n : UInt32) : (nat n.toNat).word? = some n := by
  have digits : n.toNat.repr.toList.all Char.isDigit = true := by
    rw [Nat.toList_repr, Text.all_isDigit_toDigits]
  rw [nat, word?, if_pos digits]
  exact Text.readWord?_showWord n

@[simp] theorem name?_text (named : String → Option α) (s : String) :
    (text s).name? named = named s := rfl

/-- What can be read item by item can be read as a list. -/
theorem mapM_of_reads {β : Type} {read : β → Option α} {write : α → β}
    (reads : ∀ a, read (write a) = some a) (items : List α) :
    (items.map write).mapM read = some items := by
  induction items with
  | nil => rfl
  | cons a rest ih => simp [reads, ih]

theorem list?_list (reads : ReadsBack write read) (items : List α) :
    (list write items).list? read = some items :=
  mapM_of_reads reads items

@[simp] theorem texts?_list (items : List String) : (list text items).texts? = some items :=
  list?_list text?_text items

@[simp] theorem textSet?_list (s : SortedSet) : (list text s.members).textSet? = some s := by
  simp [textSet?, SortedSet.ofList_members]

theorem nullable?_option (reads : ReadsBack write read) (present : ∀ a, write a ≠ .null)
    (value : Option α) : (option write value).nullable? read = some value := by
  cases value with
  | none => rfl
  | some a =>
    rw [option, nullable?]
    · rw [reads, Option.map_some]
    · exact present a

@[simp] theorem nullable?_text (value : Option String) :
    (option text value).nullable? text? = some value :=
  nullable?_option text?_text (fun _ => nofun) value

@[simp] theorem nullable?_word (value : Option UInt32) :
    (option (fun n => nat n.toNat) value).nullable? word? = some value :=
  nullable?_option word?_nat (fun _ => nofun) value

/-- A map comes back from the record of its entries. -/
theorem map?_record (reads : ReadsBack write read) (m : SortedMap α) :
    (record (m.entries.map fun e => (e.1, write e.2))).map? read = some m := by
  rw [record, List.map_map, map?, mapM_of_reads fun e => by simp [reads]]
  exact congrArg some m.ofList_entries

theorem lookup_of_distinct {members : List (String × Json)}
    (distinct : (members.map Prod.fst).Nodup) {m : String × Json} (member : m ∈ members) :
    (members.map fun m => (some m.1, m.2)).lookup (some m.1) = some m.2 := by
  induction members with
  | nil => cases member
  | cons first rest ih =>
    obtain ⟨absent, distinct⟩ := List.nodup_cons.1 distinct
    rcases List.mem_cons.1 member with rfl | later
    · exact List.lookup_cons_self
    · have different : m.1 ≠ first.1 := fun same =>
        absent (same ▸ List.mem_map_of_mem later)
      have apart : (some m.1 == some first.1) = false := by simpa using different
      rw [List.map_cons, List.lookup_cons, apart]
      exact ih distinct later

/-- A record without repeated names has each of its members in its slot. -/
theorem slots?_record {names : List String} {members : List (String × Json)}
    (listed : members.map Prod.fst = names) (distinct : names.Nodup) :
    (record members).slots? names = some (members.map fun m => .value m.2) := by
  subst listed
  have written : (members.map fun m => (some m.1, m.2)).map Prod.fst =
      (members.map Prod.fst).map some := by simp
  have noRepetition : ((members.map Prod.fst).map some).Nodup :=
    List.Pairwise.map some (fun _ _ different same => different (Option.some.inj same)) distinct
  have refused : (((members.map Prod.fst).map some).contains none ||
      (members.map Prod.fst).any fun name =>
        ((members.map Prod.fst).map some).count (some name) > 1) = false := by
    rw [Bool.or_eq_false_iff, List.any_eq_false]
    refine ⟨by simp, fun name _ repeated => ?_⟩
    exact absurd (List.nodup_iff_count.1 noRepetition (some name))
      (Nat.not_le.2 (of_decide_eq_true repeated))
  simp only [record, slots?, written, refused, Bool.false_eq_true, if_false]
  rw [List.map_map]
  refine congrArg some (List.map_congr_left fun m member => ?_)
  simp only [Function.comp_apply, lookup_of_distinct distinct member]

/-- What is read of a record is read of the values of its members, in their order. -/
theorem bind_slots?_record {names : List String} {members : List (String × Json)}
    {read : List Slot → Option α} (listed : members.map Prod.fst = names) (distinct : names.Nodup) :
    ((record members).slots? names >>= read) = read (members.map fun m => .value m.2) := by
  rw [slots?_record listed distinct]
  rfl

namespace Slot

@[simp] theorem required_value (j : Json) (read : Json → Option α) :
    (Slot.value j).required read = read j := rfl

@[simp] theorem withDefault_value (j : Json) (missing : α) (read : Json → Option α) :
    (Slot.value j).withDefault missing read = read j := rfl

@[simp] theorem optional_value (j : Json) (read : Json → Option α) :
    (Slot.value j).optional read = j.nullable? read := rfl

@[simp] theorem orNone_value (j : Json) (read : Json → Option α) :
    (Slot.value j).orNone read = j.nullable? read := rfl

end Slot

@[simp] theorem isReadable_text (s : String) (room : Nat) : (text s).isReadable room = true := by
  simp [text, isReadable]

@[simp] theorem isReadable_nat (n : UInt32) (room : Nat) :
    (nat n.toNat).isReadable room = true := by
  rw [nat, isReadable, Numeral.isFiniteText_word]

theorem areReadable_iff {items : List Json} {room : Nat} :
    areReadable items room = true ↔ ∀ item ∈ items, item.isReadable room = true := by
  induction items with
  | nil => simp [areReadable]
  | cons item rest ih => simp [areReadable, ih]

theorem areReadableMembers_iff {members : List (String × Json)} {room : Nat} :
    areReadableMembers (members.map fun m => (some m.1, m.2)) room = true ↔
      ∀ m ∈ members, m.2.isReadable room = true := by
  induction members with
  | nil => simp [areReadableMembers]
  | cons m rest ih => simp [areReadableMembers, ih]

theorem isReadable_list {items : List α} {room : Nat}
    (readable : ∀ a, (write a).isReadable room = true) :
    (list write items).isReadable (room + 1) = true := by
  simp only [list, isReadable]
  refine areReadable_iff.2 fun item member => ?_
  obtain ⟨a, -, rfl⟩ := List.mem_map.1 member
  exact readable a

theorem isReadable_record {members : List (String × Json)} {room : Nat}
    (readable : ∀ m ∈ members, m.2.isReadable room = true) :
    (record members).isReadable (room + 1) = true :=
  areReadableMembers_iff.2 readable

theorem isReadable_option {room : Nat} (readable : ∀ a, (write a).isReadable room = true)
    (value : Option α) : (option write value).isReadable room = true := by
  cases value with
  | none => rfl
  | some a => exact readable a

/-- A value of two nested containers is not refused where two more may be opened. -/
theorem not_refused {value : Json} (readable : ∀ room, value.isReadable (room + 2) = true)
    {depth : Nat} (shallow : depth ≤ 125) : ¬ (!value.isReadable (127 - depth)) = true := by
  obtain ⟨room, enough⟩ : ∃ room, 127 - depth = room + 2 := ⟨125 - depth, by omega⟩
  rw [enough, readable room]
  decide

end SpecLink.Json
