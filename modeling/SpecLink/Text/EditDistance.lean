/-!
# Edit distance

The least number of insertions, deletions and replacements of a character that turn one text into
another, computed row by row.
-/
namespace SpecLink.Text

/-- The next row of the table. `left` is the entry just written and `diagonal` the one above it;
the other entries above stand in the list. -/
def distanceRow (a : Char) (left diagonal : Nat) : List Char → List Nat → List Nat
  | b :: bs, above :: row =>
    -- From above a character is deleted, from the left one is inserted.
    let entry := min (min (above + 1) (left + 1)) (if a == b then diagonal else diagonal + 1)
    entry :: distanceRow a entry above bs row
  | _, _ => []

/-- Folds the rows. Each row starts with the number of characters of `as` read so far. -/
def distanceFrom (bs : List Char) : Nat → List Nat → List Char → Nat
  | first, row, [] => row.getLastD first
  | first, row, a :: as =>
    distanceFrom bs (first + 1) (distanceRow a (first + 1) first bs row) as

def editDistance (s t : String) : Nat :=
  -- The row of the empty text: that many insertions.
  distanceFrom t.toList 0 ((List.range t.toList.length).map (· + 1)) s.toList

end SpecLink.Text
