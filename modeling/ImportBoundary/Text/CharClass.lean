/-!
# Classes of characters

A property of characters is kept as a list of inclusive ranges of code points.
`CharClass.contains_iff` reads membership as membership in one of the ranges.
-/

namespace ImportBoundary.Text

/-- A set of code points, as inclusive ranges. -/
structure CharClass where
  ranges : List (Nat × Nat)

namespace CharClass

/-- The code point lies in one of the ranges. -/
def contains (k : CharClass) (code : Nat) : Bool :=
  k.ranges.any fun r => r.1 ≤ code && code ≤ r.2

theorem contains_iff (k : CharClass) (code : Nat) :
    k.contains code = true ↔ ∃ r ∈ k.ranges, r.1 ≤ code ∧ code ≤ r.2 := by
  simp [contains]

end CharClass

end ImportBoundary.Text
