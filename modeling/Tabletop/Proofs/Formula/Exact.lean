import Mathlib.Algebra.Order.Round
import Mathlib.Data.Rat.Floor
import Mathlib.Tactic.FieldSimp
import Tabletop.Proofs.Formula.Bounds

/-!
# Tabletop.Proofs.Formula.Exact — how far the greatest value of a formula is exact

The value of a formula on a total is meant to be an exact one: the total times the factor, or
divided by it and rounded to the nearest integer with halves up, and then the amount added or taken
away. Values are 64-bit integers, and so is every intermediate result. The total is brought into
their range before it is scaled and the scaled total before it is shifted, so a later division or
subtraction can lead back into the range from an exact value that the evaluation has left behind.

All this saturation amounts to one cap on the scaled total, `capacity`. An exact value in the range
is the value of the formula exactly when its scaled total is within the cap, and greater than it
otherwise.
-/

namespace Tabletop.Formula

/-! ## Exact values -/

/-- A total, scaled without bounds. -/
def exactScaled (f : Formula) (total : ℕ) : ℤ :=
  match f.scaling with
  | .multiply => total * f.factor.toNat
  | .divide => round ((total : ℚ) / f.factor.toNat)

/-- **The exact value of a formula on a total.** -/
def exactValue (f : Formula) (total : ℕ) : ℤ :=
  match f.sign with
  | .plus => f.exactScaled total + f.amount.toNat
  | .minus => f.exactScaled total - f.amount.toNat

/-- **To round to the nearest integer, halves up, is to add half of the divisor and divide.** Half
of an odd divisor is rounded down itself, which makes no difference. -/
theorem round_div_eq (n : ℕ) {m : ℕ} (hm : 0 < m) :
    round ((n : ℚ) / m) = ((n : ℤ) + (m : ℤ) / 2) / m := by
  have hm' : (m : ℚ) ≠ 0 := Nat.cast_ne_zero.mpr hm.ne'
  have hsum : (n : ℚ) / m + 1 / 2 = ((2 * n + m : ℕ) : ℚ) / ((2 * m : ℕ) : ℚ) := by
    push_cast
    field_simp
  calc round ((n : ℚ) / m) = ((2 * n + m : ℕ) : ℤ) / ((2 * m : ℕ) : ℤ) := by
        rw [round_eq, hsum, Rat.floor_natCast_div_natCast]
    _ = (((2 * n + m) / 2 / m : ℕ) : ℤ) := by rw [Nat.div_div_eq_div_mul, Int.natCast_div]
    _ = (((n + m / 2) / m : ℕ) : ℤ) := by
        have hhalf : (2 * n + m) / 2 = n + m / 2 := by omega
        rw [hhalf]
    _ = ((n : ℤ) + (m : ℤ) / 2) / m := by push_cast; rfl

/-! ## Saturation as a cap -/

/-- The greatest scaled total that an evaluation can come to. -/
def capacity (f : Formula) : ℤ :=
  match f.scaling with
  | .multiply => greatest
  | .divide => greatest / f.factor.toNat

/-- An integer that is not negative is saturated at one end only. -/
theorem saturate_of_nonneg {n : ℤ} (h : 0 ≤ n) : saturate n = min n greatest := by
  have hleast : least ≤ 0 := by decide
  have hgreatest : 0 ≤ greatest := by decide
  rw [saturate]
  omega

variable {f : Formula}

theorem Normal.one_le_toNat_factor (h : f.Normal) : 1 ≤ f.factor.toNat :=
  UInt32.le_iff_toNat_le.mp h.one_le_factor

/-- Multiplying a capped total and capping the product is capping the product. -/
theorem saturate_mul {total factor : ℤ} (htotal : 0 ≤ total) (hfactor : 1 ≤ factor) :
    saturate (saturate total * factor) = min (total * factor) greatest := by
  have hgreatest : 0 ≤ greatest := by decide
  have hcap : greatest ≤ greatest * factor := le_mul_of_one_le_right hgreatest hfactor
  have hproduct : 0 ≤ min total greatest * factor :=
    mul_nonneg (le_min htotal hgreatest) (by omega)
  rw [saturate_of_nonneg htotal, saturate_of_nonneg hproduct, min_mul_of_nonneg _ _ (by omega),
    min_assoc, min_eq_right hcap]

/-- Dividing what was capped is capping the quotient by that of the cap. -/
theorem saturate_add_ediv {total divisor : ℤ} (htotal : 0 ≤ total) (hdivisor : 1 ≤ divisor) :
    saturate (saturate total + divisor / 2) / divisor =
      min ((total + divisor / 2) / divisor) (greatest / divisor) := by
  have hgreatest : 0 ≤ greatest := by decide
  have hmono : Monotone fun n : ℤ => n / divisor := fun _ _ h =>
    Int.ediv_le_ediv (by omega) h
  have hcapped : saturate (saturate total + divisor / 2) = min (total + divisor / 2) greatest := by
    rw [saturate_of_nonneg htotal, saturate_of_nonneg (by omega)]
    omega
  rw [hcapped]
  exact hmono.map_min

/-- **Saturation caps the scaled total**, and does nothing else to it. -/
theorem Normal.scaled_saturate (h : f.Normal) (total : ℕ) :
    f.scaled (saturate total) = min (f.exactScaled total) f.capacity := by
  have hfactor := h.one_le_toNat_factor
  have hmax : max (f.factor.toNat : ℤ) 1 = f.factor.toNat := by omega
  simp only [scaled, exactScaled, capacity, hmax]
  cases f.scaling with
  | multiply => exact saturate_mul (by omega) (by omega)
  | divide =>
      simp only [round_div_eq total hfactor]
      exact saturate_add_ediv (by omega) (by omega)

theorem Normal.exactScaled_nonneg (h : f.Normal) (total : ℕ) : 0 ≤ f.exactScaled total := by
  have hfactor := h.one_le_toNat_factor
  simp only [exactScaled]
  cases f.scaling with
  | multiply => exact mul_nonneg (by omega) (by omega)
  | divide =>
      simp only [round_div_eq total hfactor]
      exact Int.ediv_nonneg (by omega) (by omega)

theorem capacity_nonneg (f : Formula) : 0 ≤ f.capacity := by
  have hgreatest : 0 ≤ greatest := by decide
  simp only [capacity]
  cases f.scaling with
  | multiply => exact hgreatest
  | divide => exact Int.ediv_nonneg hgreatest (by omega)

/-! ## Exact values in the range -/

/-- A shift of a scaled total that was capped saturates no more if the exact value is in the
range. -/
theorem Normal.shifted_min {total : ℕ} (h : f.Normal) (hleast : least ≤ f.exactValue total)
    (hgreatest : f.exactValue total ≤ greatest) :
    f.shifted (min (f.exactScaled total) f.capacity) =
      f.exactValue total - (f.exactScaled total - min (f.exactScaled total) f.capacity) := by
  have hscaled := h.exactScaled_nonneg total
  have hcapacity := f.capacity_nonneg
  have hamount : f.amount.toNat < UInt32.size := f.amount.toNat_lt_size
  have hsize : (UInt32.size : ℤ) ≤ -least := by decide
  -- A scaled total that was capped is not negative, so taking a 32-bit amount away stays above
  -- the least value.
  cases hsign : f.sign with
  | plus =>
      simp only [shifted, exactValue, hsign, saturate] at hleast hgreatest ⊢
      omega
  | minus =>
      simp only [shifted, exactValue, hsign, saturate] at hleast hgreatest ⊢
      omega

/-- **The value of a formula falls short of an exact value in the range by what is cut off the
scaled total.** -/
theorem Normal.toInt_evaluate_eq {total : UInt64} (h : f.Normal)
    (hleast : least ≤ f.exactValue total.toNat) (hgreatest : f.exactValue total.toNat ≤ greatest) :
    (f.evaluate total).toInt = f.exactValue total.toNat -
      (f.exactScaled total.toNat - min (f.exactScaled total.toNat) f.capacity) := by
  rw [toInt_evaluate, h.scaled_saturate, h.shifted_min hleast hgreatest]

/-- The greatest total of a formula. -/
def greatestTotal (f : Formula) : ℕ := f.count.toNat * f.sides.toNat

theorem Normal.toInt_maxValue_eq (h : f.Normal) (hleast : least ≤ f.exactValue f.greatestTotal)
    (hgreatest : f.exactValue f.greatestTotal ≤ greatest) :
    f.maxValue.toInt = f.exactValue f.greatestTotal -
      (f.exactScaled f.greatestTotal - min (f.exactScaled f.greatestTotal) f.capacity) := by
  have htotal : (f.count.toUInt64 * f.sides.toUInt64).toNat = f.greatestTotal :=
    f.toNat_count_mul_sides
  rw [← htotal] at hleast hgreatest ⊢
  exact h.toInt_evaluate_eq hleast hgreatest

/-- Where the total and the half of the divisor fit in the range, so does the scaled total in its
cap. -/
theorem Normal.exactScaled_le_capacity (h : f.Normal) (hscaling : f.scaling = .divide) {total : ℕ}
    (htotal : (total : ℤ) + (f.factor.toNat : ℤ) / 2 ≤ greatest) :
    f.exactScaled total ≤ f.capacity := by
  have hfactor := h.one_le_toNat_factor
  simp only [exactScaled, capacity, hscaling, round_div_eq total hfactor]
  exact Int.ediv_le_ediv (by omega) htotal

/-- **When the greatest value is exact.** Let the exact value of a formula on its greatest total be
in the range. It is never below the greatest value of the formula. A formula that multiplies has it
as its greatest value exactly if the product is in the range too; a formula that divides, exactly if
the rounded quotient is at most that of the greatest value there is, as it is whenever the total
and the half of the divisor add up to no more than that. -/
theorem maxValue_eq_exactValue_iff (h : Reachable f)
    (hleast : least ≤ f.exactValue f.greatestTotal)
    (hgreatest : f.exactValue f.greatestTotal ≤ greatest) :
    f.maxValue.toInt ≤ f.exactValue f.greatestTotal ∧
      (f.scaling = .multiply →
        (f.maxValue.toInt = f.exactValue f.greatestTotal ↔
          (f.greatestTotal : ℤ) * f.factor.toNat ≤ greatest)) ∧
      (f.scaling = .divide →
        (f.maxValue.toInt = f.exactValue f.greatestTotal ↔
          round ((f.greatestTotal : ℚ) / f.factor.toNat) ≤ greatest / f.factor.toNat) ∧
        ((f.greatestTotal : ℤ) + (f.factor.toNat : ℤ) / 2 ≤ greatest →
          f.maxValue.toInt = f.exactValue f.greatestTotal)) := by
  have hvalue := h.normal.toInt_maxValue_eq hleast hgreatest
  have hexact : f.maxValue.toInt = f.exactValue f.greatestTotal ↔
      f.exactScaled f.greatestTotal ≤ f.capacity := by
    omega
  refine ⟨by omega, ?_, ?_⟩
  · intro hscaling
    rw [hexact, exactScaled, capacity, hscaling]
  · intro hscaling
    constructor
    · rw [hexact, exactScaled, capacity, hscaling]
    · intro htotal
      exact hexact.mpr (h.normal.exactScaled_le_capacity hscaling htotal)

/-- The greatest total is the greatest value there is, and adding half of three to it is too much;
still the third of it is exact. -/
theorem maxValue_eq_exactValue_third :
    let f := (dice 2323823089 3969050863).dividedBy 3
    Reachable f ∧ f.greatestTotal = 9223372036854775807 ∧
      f.maxValue.toInt = f.exactValue f.greatestTotal ∧
      f.exactValue f.greatestTotal = 3074457345618258602 := by
  intro f
  have hreach : Reachable f := (Reachable.dice _ _).put (.dividedBy 3)
  have htotal : f.greatestTotal = 9223372036854775807 := by decide
  have hvalue : f.exactValue f.greatestTotal = 3074457345618258602 := by
    decide +kernel
  have hquotient : round ((f.greatestTotal : ℚ) / f.factor.toNat) ≤ greatest / f.factor.toNat := by
    decide +kernel
  obtain ⟨-, -, hdivide⟩ := maxValue_eq_exactValue_iff hreach (by rw [hvalue]; decide)
    (by rw [hvalue]; decide)
  exact ⟨hreach, htotal, (hdivide rfl).1.mpr hquotient, hvalue⟩

/-- **Not every greatest value is exact.** Half of the greatest total that there is fits in the
range, but the total does not: it is cut before it is halved. -/
theorem maxValue_lt_exactValue_half :
    let f := (dice 4294967295 4294967295).dividedBy 2
    Reachable f ∧ f.exactValue f.greatestTotal = 9223372032559808513 ∧
      least ≤ f.exactValue f.greatestTotal ∧ f.exactValue f.greatestTotal ≤ greatest ∧
      f.maxValue.toInt = 4611686018427387903 ∧
      f.maxValue.toInt ≠ f.exactValue f.greatestTotal := by
  intro f
  have hreach : Reachable f := (Reachable.dice _ _).put (.dividedBy 2)
  have hvalue : f.exactValue f.greatestTotal = 9223372032559808513 := by decide +kernel
  have hmax : f.maxValue.toInt = 4611686018427387903 := by decide
  rw [hvalue, hmax]
  exact ⟨hreach, rfl, by decide, by decide, rfl, by decide⟩

end Tabletop.Formula
