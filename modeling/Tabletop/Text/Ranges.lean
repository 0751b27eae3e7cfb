/-!
# Tabletop.Text.Ranges — sets of characters as ranges of code points

A class of characters is a list of closed ranges of code points. A character is in the class when
its code point is in one of the ranges.
-/

namespace Tabletop.Text

/-- Closed ranges of code points. -/
abbrev Ranges : Type := List (Nat × Nat)

/-- The code point lies in one of the ranges. -/
def Ranges.covers (ranges : Ranges) (code : Nat) : Bool :=
  ranges.any fun range => decide (range.1 ≤ code) && decide (code ≤ range.2)

/-- The character lies in one of the ranges. -/
def Ranges.has (ranges : Ranges) (c : Char) : Bool := ranges.covers c.toNat

theorem Ranges.covers_iff {ranges : Ranges} {code : Nat} :
    ranges.covers code = true ↔ ∃ range ∈ ranges, range.1 ≤ code ∧ code ≤ range.2 := by
  simp [Ranges.covers]

end Tabletop.Text
