/-!
# Maps from texts, in the order of their keys

A map is its list of entries with strictly ascending keys, so two maps that answer every lookup
alike are equal, and writing a map out always gives the same order. Main statements: `get?_insert`
and `get?_ofList_cons`.
-/
namespace SpecLink

universe u v

structure SortedMap (α : Type u) where
  entries : List (String × α)
  ascending : entries.Pairwise fun a b => a.1 < b.1

namespace SortedMap

variable {α : Type u} {β : Type v}

def empty : SortedMap α := ⟨[], .nil⟩

instance : EmptyCollection (SortedMap α) := ⟨empty⟩

instance : Inhabited (SortedMap α) := ⟨empty⟩

@[ext] theorem ext {m n : SortedMap α} (same : m.entries = n.entries) : m = n := by
  cases m; cases n; simpa using same

instance [DecidableEq α] : DecidableEq (SortedMap α) := fun m n =>
  decidable_of_iff (m.entries = n.entries) ⟨ext, fun h => h ▸ rfl⟩

/-- Puts an entry in its place. Where the key is there already, its value is updated instead. -/
def insertEntry (key : String) (value : α) (update : α → α) :
    List (String × α) → List (String × α)
  | [] => [(key, value)]
  | (k, v) :: rest =>
    if key < k then (key, value) :: (k, v) :: rest
    else if k < key then (k, v) :: insertEntry key value update rest
    else (k, update v) :: rest

/-- An entry after insertion has the new key or the key of an old entry. -/
theorem key_mem_insertEntry {key : String} {value : α} {update : α → α}
    {entries : List (String × α)} {e : String × α}
    (member : e ∈ insertEntry key value update entries) :
    e.1 = key ∨ ∃ old ∈ entries, old.1 = e.1 := by
  induction entries with
  | nil => simp_all [insertEntry]
  | cons head rest ih =>
    obtain ⟨k, v⟩ := head
    simp only [insertEntry] at member
    split at member
    · rcases List.mem_cons.1 member with rfl | member
      · exact .inl rfl
      · exact .inr ⟨e, member, rfl⟩
    · split at member
      · rcases List.mem_cons.1 member with rfl | member
        · exact .inr ⟨(k, v), List.mem_cons_self, rfl⟩
        · rcases ih member with h | ⟨old, h, same⟩
          · exact .inl h
          · exact .inr ⟨old, List.mem_cons_of_mem _ h, same⟩
      · rcases List.mem_cons.1 member with rfl | member
        · exact .inr ⟨(k, v), List.mem_cons_self, rfl⟩
        · exact .inr ⟨e, List.mem_cons_of_mem _ member, rfl⟩

theorem insertEntry_ascending (key : String) (value : α) (update : α → α)
    {entries : List (String × α)} (h : entries.Pairwise fun a b => a.1 < b.1) :
    (insertEntry key value update entries).Pairwise fun a b => a.1 < b.1 := by
  induction entries with
  | nil => simp [insertEntry]
  | cons head rest ih =>
    obtain ⟨k, v⟩ := head
    have parts := List.pairwise_cons.1 h
    simp only [insertEntry]
    split
    next before =>
      refine List.pairwise_cons.2 ⟨fun e member => ?_, h⟩
      rcases List.mem_cons.1 member with rfl | member
      · exact before
      · exact String.lt_trans before (parts.1 e member)
    next notBefore =>
      split
      next after =>
        refine List.pairwise_cons.2 ⟨fun e member => ?_, ih parts.2⟩
        rcases key_mem_insertEntry member with same | ⟨old, member, same⟩
        · exact same ▸ after
        · exact same ▸ parts.1 old member
      · exact List.pairwise_cons.2 ⟨parts.1, parts.2⟩

/-- A key before all keys of a list has no entry. -/
theorem lookup_eq_none_of_lt {key : String} {entries : List (String × α)}
    (before : ∀ e ∈ entries, key < e.1) : entries.lookup key = none := by
  induction entries with
  | nil => rfl
  | cons head rest ih =>
    have different : key ≠ head.1 := fun same =>
      String.lt_irrefl key (same.symm ▸ before head List.mem_cons_self)
    rw [List.lookup_cons, beq_eq_false_iff_ne.2 different]
    exact ih fun e member => before e (List.mem_cons_of_mem _ member)

theorem lookup_insertEntry (key other : String) (value : α) (update : α → α)
    {entries : List (String × α)} (h : entries.Pairwise fun a b => a.1 < b.1) :
    (insertEntry key value update entries).lookup other =
      if other = key then some ((entries.lookup key).elim value update)
      else entries.lookup other := by
  induction entries with
  | nil =>
    by_cases h : other = key <;> simp [insertEntry, List.lookup_cons, h, beq_eq_false_iff_ne.2]
  | cons head rest ih =>
    obtain ⟨k, v⟩ := head
    have parts := List.pairwise_cons.1 h
    simp only [insertEntry]
    split
    next before =>
      have absent : List.lookup key ((k, v) :: rest) = none :=
        lookup_eq_none_of_lt fun e member => by
          rcases List.mem_cons.1 member with rfl | member
          · exact before
          · exact String.lt_trans before (parts.1 e member)
      by_cases h : other = key
      · subst h; rw [absent]; simp
      · rw [List.lookup_cons, beq_eq_false_iff_ne.2 h]; simp [h]
    next notBefore =>
      split
      next after =>
        have different : key ≠ k := fun same => String.lt_irrefl k (same ▸ after)
        by_cases h : other = k
        · subst h; simp [Ne.symm different]
        · simp [List.lookup_cons, beq_eq_false_iff_ne.2 h, beq_eq_false_iff_ne.2 different,
            ih parts.2]
      next notAfter =>
        have same : key = k :=
          String.le_antisymm (String.not_lt.1 notAfter) (String.not_lt.1 notBefore)
        subst same
        by_cases h : other = key
        · simp [h]
        · simp [List.lookup_cons, h, beq_eq_false_iff_ne.2 h]

/-- The map with an entry; one with the same key gives way. -/
def insert (m : SortedMap α) (key : String) (value : α) : SortedMap α :=
  ⟨insertEntry key value (fun _ => value) m.entries, insertEntry_ascending _ _ _ m.ascending⟩

/-- The map with an entry, unless it has one with the same key. -/
def insertNew (m : SortedMap α) (key : String) (value : α) : SortedMap α :=
  ⟨insertEntry key value id m.entries, insertEntry_ascending _ _ _ m.ascending⟩

def get? (m : SortedMap α) (key : String) : Option α := m.entries.lookup key

def contains (m : SortedMap α) (key : String) : Bool := (m.get? key).isSome

def erase (m : SortedMap α) (key : String) : SortedMap α :=
  ⟨m.entries.filter fun e => e.1 != key, m.ascending.filter _⟩

def isEmpty (m : SortedMap α) : Bool := m.entries.isEmpty

def keys (m : SortedMap α) : List String := m.entries.map Prod.fst

/-- The map of a list of entries; of several with one key the last counts. -/
def ofList (entries : List (String × α)) : SortedMap α :=
  entries.foldr (fun e m => m.insertNew e.1 e.2) empty

/-- Replaces each value by its image. -/
def map (f : α → β) (m : SortedMap α) : SortedMap β :=
  ⟨m.entries.map fun e => (e.1, f e.2), List.pairwise_map.2 m.ascending⟩

@[simp] theorem get?_empty (key : String) : (empty : SortedMap α).get? key = none := rfl

/-- Insertion changes the answer for its key alone. -/
theorem get?_insert (m : SortedMap α) (key other : String) (value : α) :
    (m.insert key value).get? other = if other = key then some value else m.get? other := by
  have h := lookup_insertEntry key other value (fun _ => value) m.ascending
  simp only [get?, insert, h]
  cases m.entries.lookup key <;> rfl

@[simp] theorem get?_insert_self (m : SortedMap α) (key : String) (value : α) :
    (m.insert key value).get? key = some value := by
  simp [get?_insert]

/-- An entry that is there stays as it is. -/
theorem get?_insertNew (m : SortedMap α) (key other : String) (value : α) :
    (m.insertNew key value).get? other =
      if other = key then some ((m.get? key).getD value) else m.get? other := by
  have h := lookup_insertEntry key other value id m.ascending
  simp only [get?, insertNew, h]
  cases m.entries.lookup key <;> rfl

@[simp] theorem get?_ofList_nil (key : String) :
    (ofList ([] : List (String × α))).get? key = none := rfl

/-- The first entry of a list counts only if no later one has its key. -/
theorem get?_ofList_cons (e : String × α) (entries : List (String × α)) (key : String) :
    (ofList (e :: entries)).get? key =
      if key = e.1 then some (((ofList entries).get? key).getD e.2)
      else (ofList entries).get? key := by
  have h := get?_insertNew (ofList entries) e.1 key e.2
  by_cases same : key = e.1
  · subst same; simpa [ofList] using h
  · simpa [ofList, same] using h

end SortedMap

end SpecLink
