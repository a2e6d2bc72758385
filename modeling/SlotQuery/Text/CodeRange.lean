/-!
# Sets of code points

A set of code points is given by its ranges, both ends included.  Tables of this form stand in
`Blank`, `Word` and `Hidden`.
-/

namespace SlotQuery.Text

/-- The character's code point lies in one of the ranges. -/
def inRanges (ranges : List (Nat × Nat)) (c : Char) : Bool :=
  ranges.any fun (first, last) => first ≤ c.toNat && c.toNat ≤ last

end SlotQuery.Text
