import Mathlib.Tactic.Common
import Tabletop.Dice.Basic

/-!
# Tabletop.Proofs.Dice.Basic — what is thrown, after clamping

A throw takes any number of dice and any number of faces. What it throws is the clamped number of
dice with the clamped number of faces: never fewer than one die and two faces, and what was asked
for when that is enough.
-/

namespace Tabletop.Dice

/-! ## Raising a word to a bound -/

/-- A word raised to a bound reaches it. -/
theorem bound_le_max (n bound : UInt32) : bound ≤ max n bound := by
  rw [UInt32.le_iff_toNat_le, UInt32.toNat_max]
  exact Nat.le_max_right n.toNat bound.toNat

/-- A word that reaches the bound already stays as it is. -/
theorem max_bound_of_le {n bound : UInt32} (h : bound ≤ n) : max n bound = n := by
  apply UInt32.toNat_inj.mp
  rw [UInt32.toNat_max]
  exact Nat.max_eq_left (UInt32.le_iff_toNat_le.mp h)

/-! ## Clamping -/

theorem one_le_clampCount (count : UInt32) : 1 ≤ clampCount count := bound_le_max count minCount

theorem two_le_clampSides (sides : UInt32) : 2 ≤ clampSides sides := bound_le_max sides minSides

/-- Clamping leaves a number of dice as it is when a throw can have it. -/
theorem clampCount_of_le {count : UInt32} (h : 1 ≤ count) : clampCount count = count :=
  max_bound_of_le h

/-- Clamping leaves a number of faces as it is when a die can have it. -/
theorem clampSides_of_le {sides : UInt32} (h : 2 ≤ sides) : clampSides sides = sides :=
  max_bound_of_le h

end Tabletop.Dice
