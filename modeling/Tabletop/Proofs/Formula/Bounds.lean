import Tabletop.Formula.Roll
import Tabletop.Proofs.Dice.Throw
import Tabletop.Proofs.Formula.Normal

/-!
# Tabletop.Proofs.Formula.Bounds — what a formula can roll

Scaling and shifting keep the order of totals, and so does saturation at each step. A throw of `n`
dice with `k` faces has a total between `n` and `n * k`, so the value of a rolled formula lies
between its values on these two totals. Both occur: on the least word every die shows 1, on the
greatest word its highest face.
-/

namespace Tabletop.Formula

/-! ## Evaluation keeps the order -/

theorem saturate_mem (n : ℤ) : least ≤ saturate n ∧ saturate n ≤ greatest := by
  have hends : least ≤ greatest := by decide
  rw [saturate]
  omega

theorem saturate_mono {m n : ℤ} (h : m ≤ n) : saturate m ≤ saturate n := by
  simp only [saturate]
  omega

/-- Scaling keeps the order: it multiplies or divides by one at least. -/
theorem scaled_mono (f : Formula) {m n : ℤ} (h : m ≤ n) : f.scaled m ≤ f.scaled n := by
  have hfactor : (0 : ℤ) < max (f.factor.toNat : ℤ) 1 := by omega
  simp only [scaled]
  cases f.scaling with
  | multiply => exact saturate_mono (Int.mul_le_mul_of_nonneg_right h (Int.le_of_lt hfactor))
  | divide => exact Int.ediv_le_ediv hfactor (saturate_mono (by omega))

/-- Shifting keeps the order. -/
theorem shifted_mono (f : Formula) {m n : ℤ} (h : m ≤ n) : f.shifted m ≤ f.shifted n := by
  simp only [shifted]
  cases f.sign with
  | plus => exact saturate_mono (by omega)
  | minus => exact saturate_mono (by omega)

theorem shifted_mem (f : Formula) (n : ℤ) : least ≤ f.shifted n ∧ f.shifted n ≤ greatest := by
  simp only [shifted]
  cases f.sign with
  | plus => exact saturate_mem _
  | minus => exact saturate_mem _

/-- The value of a formula, as an integer. -/
theorem toInt_evaluate (f : Formula) (total : UInt64) :
    (f.evaluate total).toInt = f.shifted (f.scaled (saturate total.toNat)) :=
  Int64.toInt_ofIntClamp (f.shifted_mem _).1 (f.shifted_mem _).2

/-- **A greater total has no smaller value.** -/
theorem evaluate_mono (f : Formula) {a b : UInt64} (h : a.toNat ≤ b.toNat) :
    f.evaluate a ≤ f.evaluate b := by
  rw [Int64.le_iff_toInt_le, toInt_evaluate, toInt_evaluate]
  exact f.shifted_mono (f.scaled_mono (saturate_mono (Int.ofNat_le.mpr h)))

/-! ## The extreme totals -/

/-- The highest total fits 64 bits. -/
theorem toNat_count_mul_sides (f : Formula) :
    (f.count.toUInt64 * f.sides.toUInt64).toNat = f.count.toNat * f.sides.toNat := by
  have hcount := f.count.toNat_lt_size
  have hsides := f.sides.toNat_lt_size
  have hproduct : f.count.toNat * f.sides.toNat < UInt32.size * UInt32.size :=
    Nat.mul_lt_mul'' hcount hsides
  rw [UInt64.toNat_mul, UInt32.toNat_toUInt64, UInt32.toNat_toUInt64, Nat.mod_eq_of_lt]
  exact Nat.lt_of_lt_of_eq hproduct (by decide)

variable {σ : Type} [Source σ] {f : Formula}

/-- A normal formula throws the dice that it says. -/
theorem Normal.length_throwDice (h : f.Normal) (s : σ) :
    (f.throwDice s).1.length = f.count.toNat := by
  rw [throwDice, Dice.length_throwDice, Dice.clampCount_of_le h.one_le_count]

theorem Normal.total_mem (h : f.Normal) (s : σ) :
    f.count.toNat ≤ (f.roll s).1.total.toNat ∧
      (f.roll s).1.total.toNat ≤ f.count.toNat * f.sides.toNat := by
  have hmem := Dice.total_throwDice_mem f.count f.sides s
  rw [Dice.clampCount_of_le h.one_le_count, Dice.clampSides_of_le h.two_le_sides] at hmem
  exact hmem

/-- The total of a roll is the sum of its dice. -/
theorem Normal.toNat_total (h : f.Normal) (s : σ) :
    (f.roll s).1.total.toNat = ((f.throwDice s).1.map UInt32.toNat).sum := by
  refine Dice.toNat_total ?_
  rw [h.length_throwDice]
  exact f.count.toNat_lt_size

/-- A roll evaluates to no less than the least value and no more than the greatest. -/
theorem Normal.value_mem (h : f.Normal) (s : σ) :
    f.minValue ≤ (f.roll s).1.value ∧ (f.roll s).1.value ≤ f.maxValue := by
  obtain ⟨hleast, hgreatest⟩ := h.total_mem s
  constructor
  · exact f.evaluate_mono (by rwa [UInt32.toNat_toUInt64])
  · exact f.evaluate_mono (by rwa [toNat_count_mul_sides])

/-- The value of a roll is determined by its total. -/
theorem value_roll_of_toNat_eq {s : σ} {total : UInt64}
    (h : (f.roll s).1.total.toNat = total.toNat) : (f.roll s).1.value = f.evaluate total := by
  rw [← UInt64.toNat_inj.mp h]
  rfl

theorem Normal.total_least (h : f.Normal) :
    (f.roll (Script.ofWord 0)).1.total.toNat = f.count.toNat := by
  have hcount := Dice.clampCount_of_le h.one_le_count
  show (Dice.total (Dice.throwDice f.count f.sides (Script.ofWord 0)).1).toNat = f.count.toNat
  rw [Dice.throwDice_least, hcount, Dice.toNat_total_replicate f.count.toNat_lt_size]
  exact Nat.mul_one _

theorem Normal.total_greatest (h : f.Normal) :
    (f.roll (Script.ofWord Script.greatestWord)).1.total.toNat =
      f.count.toNat * f.sides.toNat := by
  have hcount := Dice.clampCount_of_le h.one_le_count
  have hsides := Dice.clampSides_of_le h.two_le_sides
  show (Dice.total (Dice.throwDice f.count f.sides (Script.ofWord Script.greatestWord)).1).toNat =
    f.count.toNat * f.sides.toNat
  rw [Dice.throwDice_greatest, hcount, hsides, Dice.toNat_total_replicate f.count.toNat_lt_size]

/-- **The bounds of a formula are exact.** From every source the dice of a formula add up without
overflow to a total between their number and that many highest faces, and the value of the roll is
that of the total, between the least and the greatest value of the formula; and there are sources
from which each of the two bounds is reached. -/
theorem roll_mem_bounds (h : Reachable f) :
    (∀ (σ : Type) [Source σ] (s : σ),
      (f.roll s).1.total.toNat = ((f.throwDice s).1.map UInt32.toNat).sum ∧
        (f.count.toNat ≤ (f.roll s).1.total.toNat ∧
          (f.roll s).1.total.toNat ≤ f.count.toNat * f.sides.toNat) ∧
        (f.roll s).1.value = f.evaluate (f.roll s).1.total ∧
        f.minValue ≤ (f.roll s).1.value ∧ (f.roll s).1.value ≤ f.maxValue) ∧
      (∃ s : Script, (f.roll s).1.total.toNat = f.count.toNat ∧
        (f.roll s).1.value = f.minValue) ∧
      ∃ s : Script, (f.roll s).1.total.toNat = f.count.toNat * f.sides.toNat ∧
        (f.roll s).1.value = f.maxValue := by
  have hnormal := h.normal
  refine ⟨fun σ _ s => ?_, ⟨Script.ofWord 0, hnormal.total_least, ?_⟩,
    ⟨Script.ofWord Script.greatestWord, hnormal.total_greatest, ?_⟩⟩
  · exact ⟨hnormal.toNat_total s, hnormal.total_mem s, rfl, hnormal.value_mem s⟩
  · refine value_roll_of_toNat_eq ?_
    rw [hnormal.total_least, UInt32.toNat_toUInt64]
  · refine value_roll_of_toNat_eq ?_
    rw [hnormal.total_greatest, toNat_count_mul_sides]

/-- The most dice with the most faces, halved: the greatest total is beyond the values, and still
there is a source from which it comes. -/
theorem roll_mem_bounds_beyond :
    let f := ((dice 4294967295 4294967295).dividedBy 2).minus 5
    Reachable f ∧ ∃ s : Script,
      (f.roll s).1.total.toNat = 18446744065119617025 ∧
        (f.roll s).1.value = 4611686018427387898 := by
  intro f
  have hreach : Reachable f := ((Reachable.dice _ _).put (.dividedBy 2)).put (.minus 5)
  obtain ⟨s, htotal, hvalue⟩ := (roll_mem_bounds hreach).2.2
  have hmost : f.count.toNat * f.sides.toNat = 18446744065119617025 := by decide
  have hmax : f.maxValue = 4611686018427387898 := by decide
  exact ⟨hreach, s, htotal.trans hmost, hvalue.trans hmax⟩

end Tabletop.Formula
