/-!
# Sets of code points

A class of characters given as ranges of code points, in ascending order.
-/

namespace DocumentFilter

/-- Ranges of code points, both ends included. -/
structure CodePointSet where
  /-- First and last code point of each range, in ascending order. -/
  ranges : List (Nat × Nat)

namespace CodePointSet

/-- The character lies in one of the ranges. -/
def contains (set : CodePointSet) (c : Char) : Bool :=
  set.ranges.any fun (first, last) => first ≤ c.toNat && c.toNat ≤ last

theorem contains_iff {set : CodePointSet} {c : Char} :
    set.contains c = true ↔
      ∃ first last, (first, last) ∈ set.ranges ∧ first ≤ c.toNat ∧ c.toNat ≤ last := by
  simp [contains]

end CodePointSet
end DocumentFilter
