/-!
# Items of one key

Items of a list are told apart by a key. Of items with one key the first says where the key belongs
in the order.
-/
namespace SpecLink.Grouping

variable {α β : Type} [DecidableEq β]

/-- The first item of each key, in order. -/
def firstOfEach (key : α → β) : List α → List α
  | [] => []
  | a :: rest => a :: (firstOfEach key rest).filter fun b => key b ≠ key a

/-- The items of each key together, in the order in which the keys first appear. -/
def groupsBy (key : α → β) (items : List α) : List (List α) :=
  (firstOfEach key items).map fun first => items.filter fun a => key a = key first

/-- Every item has the key of an item that is kept. -/
theorem exists_mem_firstOfEach {key : α → β} {items : List α} {a : α} (member : a ∈ items) :
    ∃ b ∈ firstOfEach key items, key b = key a := by
  induction items with
  | nil => exact absurd member List.not_mem_nil
  | cons first rest ih =>
    by_cases same : key a = key first
    · exact ⟨first, List.mem_cons_self, same.symm⟩
    · rcases List.mem_cons.1 member with rfl | member
      · exact absurd rfl same
      · obtain ⟨b, kept, key_b⟩ := ih member
        refine ⟨b, List.mem_cons_of_mem _ (List.mem_filter.2 ⟨kept, ?_⟩), key_b⟩
        simpa [key_b] using same

/-- What is kept is among the items. -/
theorem mem_of_mem_firstOfEach {key : α → β} {items : List α} {a : α}
    (kept : a ∈ firstOfEach key items) : a ∈ items := by
  induction items with
  | nil => exact kept
  | cons first rest ih =>
    rcases List.mem_cons.1 kept with rfl | kept
    · exact List.mem_cons_self
    · exact List.mem_cons_of_mem _ (ih (List.mem_filter.1 kept).1)

/-- No two of the items that are kept have one key. -/
theorem pairwise_firstOfEach (key : α → β) (items : List α) :
    (firstOfEach key items).Pairwise fun a b => key a ≠ key b := by
  induction items with
  | nil => exact .nil
  | cons first rest ih =>
    refine List.pairwise_cons.2 ⟨fun b kept => ?_, ih.filter _⟩
    have different := of_decide_eq_true (List.mem_filter.1 kept).2
    exact fun same => different same.symm

end SpecLink.Grouping
