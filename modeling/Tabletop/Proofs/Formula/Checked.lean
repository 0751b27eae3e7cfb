import Tabletop.Proofs.Formula.Exact

/-!
# Tabletop.Proofs.Formula.Checked — evaluation away from saturation

An evaluation saturates at each step that would leave the range of the values. Here a total is
scaled by steps that fail there instead, and by a division that fails on zero. Where these steps go
through, saturation had nothing to do: the evaluation took the same steps.

They go through whenever the product is in the range, or the total together with half of the
divisor. The scaled total is then the product, or the one integer that is nearest to the quotient,
the upper one of two; and it is shifted exactly, except that a sum beyond the range is the greatest
value.
-/

namespace Tabletop.Formula

/-! ## Steps that fail -/

/-- An integer, if it is in the range of the values. -/
def inRange? (n : ℤ) : Option ℤ := if least ≤ n ∧ n ≤ greatest then some n else none

/-- A quotient, if it is in the range and the divisor is not zero. -/
def quotient? (n divisor : ℤ) : Option ℤ := if divisor = 0 then none else inRange? (n / divisor)

/-- **A total, scaled by steps that fail** where they would leave the range or divide by zero. -/
def scaled? (f : Formula) (total : ℕ) : Option ℤ :=
  (inRange? total).bind fun converted =>
    match f.scaling with
    | .multiply => inRange? (converted * f.factor.toNat)
    | .divide => (inRange? (converted + (f.factor.toNat : ℤ) / 2)).bind fun raised =>
        quotient? raised f.factor.toNat

theorem inRange?_eq_some_iff {n m : ℤ} :
    inRange? n = some m ↔ (least ≤ n ∧ n ≤ greatest) ∧ n = m := by
  rw [inRange?]
  split
  · rename_i h
    simp only [h, true_and, Option.some.injEq]
  · rename_i h
    simp only [h, false_and, reduceCtorEq]

theorem quotient?_eq_some_iff {n divisor q : ℤ} :
    quotient? n divisor = some q ↔ divisor ≠ 0 ∧ inRange? (n / divisor) = some q := by
  rw [quotient?]
  split
  · rename_i h
    simp only [h, ne_eq, not_true_eq_false, false_and, reduceCtorEq]
  · rename_i h
    simp only [h, ne_eq, not_false_eq_true, true_and]

/-- A step that does not fail does not saturate. -/
theorem saturate_of_inRange? {n m : ℤ} (h : inRange? n = some m) : saturate n = m := by
  obtain ⟨⟨hleast, hgreatest⟩, rfl⟩ := inRange?_eq_some_iff.mp h
  rw [saturate, min_eq_left hgreatest, max_eq_right hleast]

variable {f : Formula}

/-- **The steps of a scaling that does not fail**, by the clause that scales. -/
theorem steps_of_scaled? {total : ℕ} {q : ℤ} (hq : f.scaled? total = some q) :
    inRange? total = some (total : ℤ) ∧
      match f.scaling with
      | .multiply => inRange? ((total : ℤ) * f.factor.toNat) = some q
      | .divide => inRange? ((total : ℤ) + (f.factor.toNat : ℤ) / 2) =
            some ((total : ℤ) + (f.factor.toNat : ℤ) / 2) ∧
          inRange? (((total : ℤ) + (f.factor.toNat : ℤ) / 2) / f.factor.toNat) = some q := by
  obtain ⟨converted, hconverted, hsteps⟩ := Option.bind_eq_some_iff.mp hq
  obtain ⟨-, rfl⟩ := inRange?_eq_some_iff.mp hconverted
  refine ⟨hconverted, ?_⟩
  cases hscaling : f.scaling with
  | multiply =>
      simp only [hscaling] at hsteps
      exact hsteps
  | divide =>
      simp only [hscaling] at hsteps
      obtain ⟨raised, hraised, hquotient⟩ := Option.bind_eq_some_iff.mp hsteps
      obtain ⟨-, rfl⟩ := inRange?_eq_some_iff.mp hraised
      exact ⟨hraised, (quotient?_eq_some_iff.mp hquotient).2⟩

/-- **Where no step fails, the evaluation scales by the same steps.** -/
theorem Normal.scaled_of_scaled? (h : f.Normal) {total : ℕ} {q : ℤ}
    (hq : f.scaled? total = some q) : f.scaled (saturate total) = q := by
  have hfactor := h.one_le_toNat_factor
  have hmax : max (f.factor.toNat : ℤ) 1 = f.factor.toNat := by omega
  obtain ⟨htotal, hsteps⟩ := steps_of_scaled? hq
  rw [saturate_of_inRange? htotal]
  simp only [scaled, hmax]
  cases hscaling : f.scaling with
  | multiply =>
      rw [hscaling] at hsteps
      exact saturate_of_inRange? hsteps
  | divide =>
      rw [hscaling] at hsteps
      obtain ⟨hraised, hquotient⟩ := hsteps
      show saturate _ / _ = q
      rw [saturate_of_inRange? hraised]
      exact (inRange?_eq_some_iff.mp hquotient).2

/-- What the steps come to is in the range. -/
theorem range_of_scaled? {total : ℕ} {q : ℤ} (hq : f.scaled? total = some q) :
    least ≤ q ∧ q ≤ greatest := by
  obtain ⟨-, hsteps⟩ := steps_of_scaled? hq
  cases hscaling : f.scaling with
  | multiply =>
      rw [hscaling] at hsteps
      obtain ⟨hrange, rfl⟩ := inRange?_eq_some_iff.mp hsteps
      exact hrange
  | divide =>
      rw [hscaling] at hsteps
      obtain ⟨hrange, rfl⟩ := inRange?_eq_some_iff.mp hsteps.2
      exact hrange

/-! ## Totals away from saturation -/

/-- **A total is away from saturation**: the product is in the range, or the total together with
half of the divisor. -/
def Fits (f : Formula) (total : ℕ) : Prop :=
  match f.scaling with
  | .multiply => (total : ℤ) * f.factor.toNat ≤ greatest
  | .divide => (total : ℤ) + (f.factor.toNat : ℤ) / 2 ≤ greatest

/-- **What a total is scaled to**: the product, or the integer nearest to the quotient, halves
up. -/
def ScalesTo (f : Formula) (total : ℕ) (q : ℤ) : Prop :=
  match f.scaling with
  | .multiply => q = total * f.factor.toNat
  | .divide => 2 * (total : ℤ) - f.factor.toNat < 2 * q * f.factor.toNat ∧
      2 * q * f.factor.toNat ≤ 2 * total + f.factor.toNat

/-- Adding half of a divisor, rounded down when it is odd, and dividing gives the one integer within
half of the divisor. -/
theorem nearest_iff_eq_ediv {n m q : ℤ} (hm : 0 < m) :
    (2 * n - m < 2 * q * m ∧ 2 * q * m ≤ 2 * n + m) ↔ q = (n + m / 2) / m := by
  have hfloor : q = (n + m / 2) / m ↔ q * m ≤ n + m / 2 ∧ n + m / 2 < q * m + m := by
    rw [eq_comm, Int.ediv_eq_iff_of_pos hm]
  rw [hfloor, mul_assoc]
  -- Twice the product is even, so an odd divisor never meets the upper bound.
  generalize q * m = product
  omega

/-- **There is one such integer**, the exact scaled total. -/
theorem Normal.scalesTo_iff (h : f.Normal) {total : ℕ} {q : ℤ} :
    f.ScalesTo total q ↔ q = f.exactScaled total := by
  have hfactor := h.one_le_toNat_factor
  simp only [ScalesTo, exactScaled]
  cases f.scaling with
  | multiply => rfl
  | divide =>
      simp only [round_div_eq total hfactor]
      exact nearest_iff_eq_ediv (by omega)

/-- **Away from saturation no step fails**, and the steps come to the exact scaled total. -/
theorem Normal.scaled?_of_fits (h : f.Normal) {total : ℕ} (hfits : f.Fits total) :
    f.scaled? total = some (f.exactScaled total) := by
  have hfactor := h.one_le_toNat_factor
  have hleast : least ≤ 0 := by decide
  have hinRange : ∀ n : ℤ, 0 ≤ n → n ≤ greatest → inRange? n = some n := fun n hzero hle =>
    inRange?_eq_some_iff.mpr ⟨⟨hleast.trans hzero, hle⟩, rfl⟩
  simp only [Fits, scaled?, exactScaled] at hfits ⊢
  cases hscaling : f.scaling with
  | multiply =>
      simp only [hscaling] at hfits
      have hgrows : (total : ℤ) ≤ total * f.factor.toNat :=
        le_mul_of_one_le_right (by omega) (by omega)
      rw [hinRange total (by omega) (hgrows.trans hfits), Option.bind_some,
        hinRange _ (by omega) hfits]
  | divide =>
      simp only [hscaling] at hfits
      have hraised : 0 ≤ (total : ℤ) + (f.factor.toNat : ℤ) / 2 := by omega
      have hquotient : ((total : ℤ) + (f.factor.toNat : ℤ) / 2) / f.factor.toNat ≤
          (total : ℤ) + (f.factor.toNat : ℤ) / 2 := Int.ediv_le_self _ hraised
      rw [hinRange total (by omega) (by omega), Option.bind_some, hinRange _ hraised hfits,
        Option.bind_some, round_div_eq total hfactor]
      refine quotient?_eq_some_iff.mpr ⟨by omega, hinRange _ ?_ (hquotient.trans hfits)⟩
      exact Int.ediv_nonneg hraised (by omega)

/-- **Away from saturation** the evaluation scales exactly. -/
theorem Normal.scaled_of_fits (h : f.Normal) {total : ℕ} (hfits : f.Fits total) :
    f.scaled (saturate total) = f.exactScaled total :=
  h.scaled_of_scaled? (h.scaled?_of_fits hfits)

/-- **Evaluation is exact away from saturation.** The factor is not zero and no step of the scaling
fails; they come to the one integer that is the product, or nearest to the quotient. The value is
that integer with the amount taken away, or with the amount added, where a sum beyond the range is
the greatest value. -/
theorem evaluate_of_fits (h : Reachable f) {total : UInt64} (hfits : f.Fits total.toNat) :
    f.factor ≠ 0 ∧ ∃ q, (∀ n, f.ScalesTo total.toNat n ↔ n = q) ∧
      f.scaled? total.toNat = some q ∧
      (f.sign = .plus → (f.evaluate total).toInt = min greatest (q + f.amount.toNat)) ∧
      (f.sign = .minus → (f.evaluate total).toInt = q - f.amount.toNat) := by
  have hfactor := h.normal.one_le_toNat_factor
  have hscaled := h.normal.scaled?_of_fits hfits
  have hnonneg := h.normal.exactScaled_nonneg total.toNat
  obtain ⟨-, hgreatest⟩ := range_of_scaled? hscaled
  have hvalue : (f.evaluate total).toInt = f.shifted (f.exactScaled total.toNat) := by
    rw [toInt_evaluate, h.normal.scaled_of_fits hfits]
  have hamount : f.amount.toNat < UInt32.size := f.amount.toNat_lt_size
  have hsize : (UInt32.size : ℤ) ≤ -least := by decide
  refine ⟨?_, f.exactScaled total.toNat, fun n => h.normal.scalesTo_iff, hscaled, ?_, ?_⟩
  · intro hzero
    rw [hzero] at hfactor
    exact absurd hfactor (by decide)
  · intro hsign
    rw [hvalue, shifted, hsign]
    show saturate (f.exactScaled total.toNat + f.amount.toNat) = _
    rw [saturate_of_nonneg (by omega), min_comm]
  · intro hsign
    rw [hvalue, shifted, hsign]
    show saturate (f.exactScaled total.toNat - f.amount.toNat) = _
    -- A 32-bit amount does not lead below the least value.
    rw [saturate]
    omega

/-- An odd divisor, at the last total that is away from saturation: three sevenths are missing to the
next integer, and the quotient rounds up to it. -/
theorem evaluate_of_fits_last :
    let f := ((dice 1 6).dividedBy 7).minus 4294967295
    let total : UInt64 := 9223372036854775804
    Reachable f ∧ f.Fits total.toNat ∧ ¬ f.Fits (total.toNat + 1) ∧
      (f.evaluate total).toInt = 1317624576693539401 - 4294967295 := by
  intro f total
  have hreach : Reachable f :=
    ((Reachable.dice _ _).put (.dividedBy 7)).put (.minus 4294967295)
  have hfits : f.Fits total.toNat := by
    show (total.toNat : ℤ) + (f.factor.toNat : ℤ) / 2 ≤ greatest
    decide
  have hlast : ¬ f.Fits (total.toNat + 1) := by
    show ¬ ((total.toNat + 1 : ℕ) : ℤ) + (f.factor.toNat : ℤ) / 2 ≤ greatest
    decide
  have hscales : f.ScalesTo total.toNat 1317624576693539401 := by
    show 2 * (total.toNat : ℤ) - f.factor.toNat < 2 * 1317624576693539401 * f.factor.toNat ∧
      2 * 1317624576693539401 * (f.factor.toNat : ℤ) ≤ 2 * total.toNat + f.factor.toNat
    decide
  obtain ⟨-, q, hq, -, -, hminus⟩ := evaluate_of_fits hreach hfits
  refine ⟨hreach, hfits, hlast, ?_⟩
  rw [hminus rfl, ← (hq _).mp hscales]
  rfl

end Tabletop.Formula
