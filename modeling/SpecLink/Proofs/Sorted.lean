import SpecLink.SortedMap
import SpecLink.SortedSet

/-!
# Sorted maps and sets as what they hold

A sorted map is determined by its answers, and a map and a set come back from the lists that they
are written as. Main statements: `SortedMap.eq_of_get?`, `SortedMap.ofList_entries` and
`SortedSet.ofList_members`.
-/
namespace SpecLink

universe u

namespace SortedMap

variable {α : Type u}

theorem entries_eq_of_lookup {first second : List (String × α)}
    (ascending : first.Pairwise fun a b => a.1 < b.1)
    (ascending' : second.Pairwise fun a b => a.1 < b.1)
    (same : ∀ key, first.lookup key = second.lookup key) : first = second := by
  induction first generalizing second with
  | nil =>
    cases second with
    | nil => rfl
    | cons e rest =>
      obtain ⟨key, value⟩ := e
      simpa using same key
  | cons e rest ih =>
    obtain ⟨key, value⟩ := e
    cases second with
    | nil => simpa using same key
    | cons e' rest' =>
      obtain ⟨key', value'⟩ := e'
      obtain ⟨before, sorted⟩ := List.pairwise_cons.1 ascending
      obtain ⟨before', sorted'⟩ := List.pairwise_cons.1 ascending'
      -- A key before the first one of a list would be missing there.
      have notLess {entries : List (String × α)} {first other : String} {value : α}
          (before : ∀ e ∈ entries, first < e.1)
          (listed : ((first, value) :: entries).lookup other ≠ none) : ¬ other < first := by
        refine fun less => listed (lookup_eq_none_of_lt fun e member => ?_)
        rcases List.mem_cons.1 member with rfl | member
        · exact less
        · exact String.lt_trans less (before e member)
      obtain rfl : key = key' := by
        refine String.le_antisymm (String.not_lt.1 ?_) (String.not_lt.1 ?_)
        · exact notLess before (by rw [same]; simp)
        · exact notLess before' (by rw [← same]; simp)
      obtain rfl : value = value' := by simpa using same key
      refine congrArg _ (ih sorted sorted' fun other => ?_)
      by_cases here : other = key
      · rw [here, lookup_eq_none_of_lt before, lookup_eq_none_of_lt before']
      · simpa [List.lookup_cons, beq_eq_false_iff_ne.2 here] using same other

/-- Two maps that answer every lookup alike are equal. -/
theorem eq_of_get? {m n : SortedMap α} (same : ∀ key, m.get? key = n.get? key) : m = n :=
  ext (entries_eq_of_lookup m.ascending n.ascending same)

theorem mem_of_get?_ofList {entries : List (String × α)} {key : String} {value : α}
    (found : (ofList entries).get? key = some value) : (key, value) ∈ entries := by
  induction entries with
  | nil => cases found
  | cons e rest ih =>
    rw [get?_ofList_cons] at found
    split at found
    next same =>
      -- A later entry of the same key comes first.
      cases later : (ofList rest).get? key with
      | none =>
        rw [later] at found
        obtain rfl := Option.some.inj found
        rw [same]
        exact List.mem_cons_self
      | some other =>
        rw [later] at found
        exact List.mem_cons_of_mem e (ih (later.trans found))
    next => exact List.mem_cons_of_mem e (ih found)

/-- Erasure changes the answer for its key alone. -/
theorem get?_erase (m : SortedMap α) (key other : String) :
    (m.erase key).get? other = if other = key then none else m.get? other := by
  simp only [get?, erase]
  generalize m.entries = entries
  induction entries with
  | nil => simp
  | cons e rest ih =>
    obtain ⟨first, value⟩ := e
    by_cases erased : first = key
    · subst erased
      rw [List.filter_cons_of_neg (by simp), ih, List.lookup_cons]
      by_cases here : other = first <;> simp [here, beq_eq_false_iff_ne.2]
    · rw [List.filter_cons_of_pos (by simpa using erased), List.lookup_cons, List.lookup_cons, ih]
      by_cases here : other = first
      · simp [here, erased]
      · simp [beq_eq_false_iff_ne.2 here]

theorem insert_insert (m : SortedMap α) (key : String) (value : α) :
    (m.insert key value).insert key value = m.insert key value := by
  refine eq_of_get? fun other => ?_
  simp only [get?_insert]
  split <;> rfl

theorem insertEntry_of_lt {key : String} {entries : List (String × α)}
    (before : ∀ e ∈ entries, key < e.1) (value : α) (update : α → α) :
    insertEntry key value update entries = (key, value) :: entries := by
  cases entries with
  | nil => rfl
  | cons e rest => rw [insertEntry, if_pos (before e List.mem_cons_self)]

theorem entries_ofList {entries : List (String × α)}
    (ascending : entries.Pairwise fun a b => a.1 < b.1) : (ofList entries).entries = entries := by
  induction entries with
  | nil => rfl
  | cons e rest ih =>
    obtain ⟨before, ascending⟩ := List.pairwise_cons.1 ascending
    have kept : (ofList rest).entries = rest := ih ascending
    simp only [ofList, List.foldr_cons, insertNew] at kept ⊢
    rw [kept, insertEntry_of_lt before]

/-- A map comes back from its entries. -/
theorem ofList_entries (m : SortedMap α) : ofList m.entries = m := ext (entries_ofList m.ascending)

end SortedMap

namespace SortedSet

theorem insertMember_of_lt {x : String} {members : List String} (before : ∀ z ∈ members, x < z) :
    insertMember x members = x :: members := by
  cases members with
  | nil => rfl
  | cons z rest => rw [insertMember, if_pos (before z List.mem_cons_self)]

theorem members_ofList {members : List String} (ascending : members.Pairwise (· < ·)) :
    (ofList members).members = members := by
  induction members with
  | nil => rfl
  | cons x rest ih =>
    obtain ⟨before, ascending⟩ := List.pairwise_cons.1 ascending
    have kept : (ofList rest).members = rest := ih ascending
    simp only [ofList, List.foldr_cons, insert] at kept ⊢
    rw [kept, insertMember_of_lt before]

/-- A set comes back from its members. -/
theorem ofList_members (s : SortedSet) : ofList s.members = s := ext (members_ofList s.ascending)

end SortedSet

end SpecLink
