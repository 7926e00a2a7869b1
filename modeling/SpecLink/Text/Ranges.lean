/-!
# Tables of code points

A property of characters is a list of inclusive ranges of code points. The tables of this folder
list the ranges in ascending order; membership does not depend on the order.
-/
namespace SpecLink.Text

/-- Some range of the table holds the code point of the character. -/
def inRanges (table : List (Nat × Nat)) (c : Char) : Bool :=
  table.any fun range => range.1 ≤ c.toNat && c.toNat ≤ range.2

theorem inRanges_iff (table : List (Nat × Nat)) (c : Char) :
    inRanges table c = true ↔ ∃ range ∈ table, range.1 ≤ c.toNat ∧ c.toNat ≤ range.2 := by
  simp [inRanges]

end SpecLink.Text
