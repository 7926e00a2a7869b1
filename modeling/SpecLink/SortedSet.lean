/-!
# Sets of texts, in ascending order

A set is its list of members, strictly ascending, so two sets with the same members are equal.
Main statement: `mem_insert`.
-/
namespace SpecLink

structure SortedSet where
  members : List String
  ascending : members.Pairwise (· < ·)
  deriving DecidableEq

namespace SortedSet

def empty : SortedSet := ⟨[], .nil⟩

instance : EmptyCollection SortedSet := ⟨empty⟩

instance : Inhabited SortedSet := ⟨empty⟩

@[ext] theorem ext {s t : SortedSet} (same : s.members = t.members) : s = t := by
  cases s; cases t; simpa using same

/-- Puts a text in its place unless it is there. -/
def insertMember (x : String) : List String → List String
  | [] => [x]
  | y :: rest =>
    if x < y then x :: y :: rest
    else if y < x then y :: insertMember x rest
    else y :: rest

theorem mem_insertMember {x z : String} {members : List String} :
    z ∈ insertMember x members ↔ z = x ∨ z ∈ members := by
  induction members with
  | nil => simp [insertMember]
  | cons y rest ih =>
    simp only [insertMember]
    split
    · simp
    · split
      · simp only [List.mem_cons, ih]
        constructor
        · rintro (h | h | h) <;> simp [h]
        · rintro (h | h | h) <;> simp [h]
      next notBefore notAfter =>
        have same : x = y :=
          String.le_antisymm (String.not_lt.1 notAfter) (String.not_lt.1 notBefore)
        subst same
        simp

theorem insertMember_ascending (x : String) {members : List String}
    (h : members.Pairwise (· < ·)) : (insertMember x members).Pairwise (· < ·) := by
  induction members with
  | nil => simp [insertMember]
  | cons y rest ih =>
    have parts := List.pairwise_cons.1 h
    simp only [insertMember]
    split
    next before =>
      refine List.pairwise_cons.2 ⟨fun z member => ?_, h⟩
      rcases List.mem_cons.1 member with rfl | member
      · exact before
      · exact String.lt_trans before (parts.1 z member)
    · split
      next after =>
        refine List.pairwise_cons.2 ⟨fun z member => ?_, ih parts.2⟩
        rcases mem_insertMember.1 member with rfl | member
        · exact after
        · exact parts.1 z member
      · exact h

def insert (s : SortedSet) (x : String) : SortedSet :=
  ⟨insertMember x s.members, insertMember_ascending x s.ascending⟩

instance : Membership String SortedSet := ⟨fun s x => x ∈ s.members⟩

instance (x : String) (s : SortedSet) : Decidable (x ∈ s) :=
  inferInstanceAs (Decidable (x ∈ s.members))

@[simp] theorem not_mem_empty (x : String) : x ∉ (empty : SortedSet) := List.not_mem_nil

/-- The members after insertion are the new text and the old members. -/
@[simp] theorem mem_insert {s : SortedSet} {x z : String} : z ∈ s.insert x ↔ z = x ∨ z ∈ s :=
  mem_insertMember

def ofList (texts : List String) : SortedSet := texts.foldr (fun x s => s.insert x) empty

@[simp] theorem mem_ofList {texts : List String} {z : String} : z ∈ ofList texts ↔ z ∈ texts := by
  induction texts with
  | nil => exact iff_of_false (not_mem_empty z) List.not_mem_nil
  | cons x rest ih =>
    change z ∈ (ofList rest).insert x ↔ _
    rw [mem_insert, ih, List.mem_cons]

def isEmpty (s : SortedSet) : Bool := s.members.isEmpty

theorem isEmpty_iff {s : SortedSet} : s.isEmpty = true ↔ s = ∅ := by
  rw [isEmpty, List.isEmpty_iff]
  exact ⟨fun none => ext none, fun same => congrArg members same⟩

/-- Every member of the first set is a member of the second. -/
def isSubset (s t : SortedSet) : Bool := s.members.all fun x => x ∈ t

theorem isSubset_iff {s t : SortedSet} : s.isSubset t = true ↔ ∀ x ∈ s, x ∈ t := by
  simp [isSubset, Membership.mem]

/-- The members with a separator between them. -/
def join (sep : String) (s : SortedSet) : String := sep.intercalate s.members

end SortedSet

end SpecLink
