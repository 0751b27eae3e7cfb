import Tabletop.Proofs.Formula.Checked

/-!
# Tabletop.Proofs.Formula.Meaning — formulas that say the same are the same

What a formula says is how many dice of how many faces are thrown, and what is made of each total.
Two normal formulas that say the same are equal, in spite of rounding and saturation: a few small
totals tell any two apart. On zero the value is the signed amount. On two a product is at least two
and a rounded quotient at most one. Of two divisors the smaller one is the first to bring a total
to two, and never on the same total as the other.

Normalizing does not change what a formula says. So the clauses that it brings to one spelling are
exactly those that mean the same.
-/

namespace Tabletop.Formula

/-- **Two formulas say the same**: they throw the same dice and make the same of each total. -/
def Alike (f g : Formula) : Prop :=
  f.count = g.count ∧ f.sides = g.sides ∧ ∀ total, f.evaluate total = g.evaluate total

variable {f g : Formula}

/-! ## Values on small totals -/

/-- What is added to a scaled total. -/
def signedAmount (f : Formula) : ℤ :=
  match f.sign with
  | .plus => f.amount.toNat
  | .minus => -f.amount.toNat

/-- A total is so far away from saturation that no shift can saturate either. -/
def Roomy (f : Formula) (total : ℕ) : Prop :=
  f.Fits total ∧ f.exactScaled total + UInt32.size ≤ greatest

/-- With that much room the value is the exact scaled total and the signed amount. -/
theorem Normal.toInt_evaluate_of_roomy (h : f.Normal) {total : UInt64}
    (hroom : f.Roomy total.toNat) :
    (f.evaluate total).toInt = f.exactScaled total.toNat + f.signedAmount := by
  obtain ⟨hfits, hgreatest⟩ := hroom
  have hnonneg := h.exactScaled_nonneg total.toNat
  have hamount : f.amount.toNat < UInt32.size := f.amount.toNat_lt_size
  have hsize : (UInt32.size : ℤ) ≤ -least := by decide
  rw [toInt_evaluate, h.scaled_of_fits hfits]
  simp only [shifted, signedAmount]
  cases f.sign with
  | plus =>
      simp only [saturate]
      omega
  | minus =>
      simp only [saturate]
      omega

/-- A formula that divides rounds a half of the divisor up. -/
theorem Normal.exactScaled_of_divide (h : f.Normal) (hscaling : f.scaling = .divide)
    (total : ℕ) :
    f.exactScaled total = ((total : ℤ) + (f.factor.toNat : ℤ) / 2) / f.factor.toNat := by
  rw [exactScaled, hscaling]
  exact round_div_eq total h.one_le_toNat_factor

/-- A formula that divides has room for every total that is no more than two 32-bit words. -/
theorem Normal.roomy_of_divide (h : f.Normal) (hscaling : f.scaling = .divide) {total : ℕ}
    (htotal : total ≤ 2 * UInt32.size) : f.Roomy total := by
  have hgreatest : 4 * (UInt32.size : ℤ) ≤ greatest := by decide
  have hfactor : f.factor.toNat < UInt32.size := f.factor.toNat_lt_size
  have hraised : 0 ≤ (total : ℤ) + (f.factor.toNat : ℤ) / 2 := by omega
  constructor
  · rw [Fits, hscaling]
    show (total : ℤ) + (f.factor.toNat : ℤ) / 2 ≤ greatest
    omega
  · rw [h.exactScaled_of_divide hscaling]
    have hquotient : ((total : ℤ) + (f.factor.toNat : ℤ) / 2) / f.factor.toNat ≤
        (total : ℤ) + (f.factor.toNat : ℤ) / 2 := Int.ediv_le_self _ hraised
    omega

/-- Every formula has room for the totals up to two. -/
theorem Normal.roomy_of_le_two (h : f.Normal) {total : ℕ} (htotal : total ≤ 2) :
    f.Roomy total := by
  have hgreatest : 3 * (UInt32.size : ℤ) ≤ greatest := by decide
  have hfactor : f.factor.toNat < UInt32.size := f.factor.toNat_lt_size
  cases hscaling : f.scaling with
  | multiply =>
      have hproduct : (total : ℤ) * f.factor.toNat ≤ 2 * f.factor.toNat :=
        Int.mul_le_mul_of_nonneg_right (by omega) (by omega)
      rw [Roomy, Fits, exactScaled, hscaling]
      show (total : ℤ) * f.factor.toNat ≤ greatest ∧
        (total : ℤ) * f.factor.toNat + UInt32.size ≤ greatest
      omega
  | divide =>
      have hsize : 2 ≤ 2 * UInt32.size := by decide
      exact h.roomy_of_divide hscaling (htotal.trans hsize)

/-! ## Totals that tell formulas apart -/

theorem Normal.exactScaled_zero (h : f.Normal) : f.exactScaled 0 = 0 := by
  have hfactor := h.one_le_toNat_factor
  cases hscaling : f.scaling with
  | multiply =>
      rw [exactScaled, hscaling]
      exact Int.zero_mul _
  | divide =>
      rw [h.exactScaled_of_divide hscaling]
      exact Int.ediv_eq_zero_of_lt (by omega) (by omega)

/-- **Two, multiplied, is two at least**, and tells the factor. -/
theorem exactScaled_two_of_multiply (hscaling : f.scaling = .multiply) :
    f.exactScaled 2 = 2 * f.factor.toNat := by
  rw [exactScaled, hscaling]
  rfl

/-- **Two, divided, is one at most**: a formula that divides has a divisor of two at least. -/
theorem Normal.exactScaled_two_of_divide (h : f.Normal) (hscaling : f.scaling = .divide) :
    f.exactScaled 2 ≤ 1 := by
  have hfactor := h.one_le_toNat_factor
  have hone : f.factor.toNat ≠ 1 := by
    intro hone
    have hmultiply := h.scaling_of_factor (UInt32.toNat_inj.mp hone)
    rw [hscaling] at hmultiply
    exact absurd hmultiply (by decide)
  rw [h.exactScaled_of_divide hscaling]
  refine Int.lt_add_one_iff.mp (Int.ediv_lt_of_lt_mul (by omega) ?_)
  omega

/-- The least total that a divisor brings to two. -/
def firstTwo (f : Formula) : ℕ := 2 * f.factor.toNat - f.factor.toNat / 2

/-- **Of two divisors the smaller one is the first to come to two.** -/
theorem Normal.exactScaled_firstTwo_lt (hf : f.Normal) (hg : g.Normal)
    (hfdivide : f.scaling = .divide) (hgdivide : g.scaling = .divide)
    (hlt : f.factor.toNat < g.factor.toNat) :
    g.exactScaled f.firstTwo < f.exactScaled f.firstTwo := by
  have hfactor := hf.one_le_toNat_factor
  rw [hf.exactScaled_of_divide hfdivide, hg.exactScaled_of_divide hgdivide, firstTwo]
  have hbelow : (((2 * f.factor.toNat - f.factor.toNat / 2 : ℕ) : ℤ) +
      (g.factor.toNat : ℤ) / 2) / g.factor.toNat < 2 :=
    Int.ediv_lt_of_lt_mul (by omega) (by omega)
  have hreached : 2 ≤ (((2 * f.factor.toNat - f.factor.toNat / 2 : ℕ) : ℤ) +
      (f.factor.toNat : ℤ) / 2) / f.factor.toNat :=
    Int.le_ediv_of_mul_le (by omega) (by omega)
  exact hbelow.trans_le hreached

/-! ## Equal values, equal formulas -/

/-- A formula that takes something away takes one away at least. -/
theorem Normal.amount_pos (h : f.Normal) (hsign : f.sign = .minus) : 0 < f.amount.toNat := by
  refine Nat.pos_of_ne_zero fun hzero => ?_
  have hplus := h.sign_of_amount (UInt32.toNat_inj.mp hzero)
  rw [hsign] at hplus
  exact absurd hplus (by decide)

/-- **The signed amount tells the shift**: a zero has one sign only. -/
theorem Normal.shift_eq (hf : f.Normal) (hg : g.Normal) (h : f.signedAmount = g.signedAmount) :
    f.sign = g.sign ∧ f.amount = g.amount := by
  rw [← UInt32.toNat_inj]
  cases hfsign : f.sign with
  | plus =>
      cases hgsign : g.sign with
      | plus =>
          simp only [signedAmount, hfsign, hgsign] at h
          exact ⟨rfl, by omega⟩
      | minus =>
          have hpos := hg.amount_pos hgsign
          simp only [signedAmount, hfsign, hgsign] at h
          omega
  | minus =>
      have hpos := hf.amount_pos hfsign
      cases hgsign : g.sign with
      | plus =>
          simp only [signedAmount, hfsign, hgsign] at h
          omega
      | minus =>
          simp only [signedAmount, hfsign, hgsign] at h
          exact ⟨rfl, by omega⟩

/-- **The exact scaled totals tell the scaling**, as far as both formulas have room. -/
theorem Normal.scale_eq (hf : f.Normal) (hg : g.Normal)
    (h : ∀ total < UInt64.size, f.Roomy total → g.Roomy total →
      f.exactScaled total = g.exactScaled total) :
    f.scaling = g.scaling ∧ f.factor = g.factor := by
  have htwo := h 2 (by decide) (hf.roomy_of_le_two (Nat.le_refl 2))
    (hg.roomy_of_le_two (Nat.le_refl 2))
  have hffactor := hf.one_le_toNat_factor
  have hgfactor := hg.one_le_toNat_factor
  rw [← UInt32.toNat_inj]
  cases hfscaling : f.scaling with
  | multiply =>
      rw [exactScaled_two_of_multiply hfscaling] at htwo
      cases hgscaling : g.scaling with
      | multiply =>
          rw [exactScaled_two_of_multiply hgscaling] at htwo
          exact ⟨rfl, by omega⟩
      | divide =>
          have hone := hg.exactScaled_two_of_divide hgscaling
          omega
  | divide =>
      cases hgscaling : g.scaling with
      | multiply =>
          rw [exactScaled_two_of_multiply hgscaling] at htwo
          have hone := hf.exactScaled_two_of_divide hfscaling
          omega
      | divide =>
          refine ⟨rfl, ?_⟩
          have hsize : 2 * UInt32.size < UInt64.size := by decide
          -- Both have room for the first total that one of them brings to two.
          have hfirst : ∀ k : Formula, f.exactScaled k.firstTwo = g.exactScaled k.firstTwo := by
            intro k
            have hk : k.firstTwo ≤ 2 * UInt32.size := by
              have hfactor : k.factor.toNat < UInt32.size := k.factor.toNat_lt_size
              rw [firstTwo]
              omega
            exact h _ (hk.trans_lt hsize) (hf.roomy_of_divide hfscaling hk)
              (hg.roomy_of_divide hgscaling hk)
          rcases Nat.lt_trichotomy f.factor.toNat g.factor.toNat with hlt | heq | hgt
          · exact absurd (hfirst f).symm (hf.exactScaled_firstTwo_lt hg hfscaling hgscaling hlt).ne
          · exact heq
          · exact absurd (hfirst g) (hg.exactScaled_firstTwo_lt hf hgscaling hfscaling hgt).ne

/-- **Normal formulas that say the same are the same.** -/
theorem Normal.eq_of_alike (hf : f.Normal) (hg : g.Normal) (h : f.Alike g) : f = g := by
  obtain ⟨hcount, hsides, hvalue⟩ := h
  have hsum : ∀ total < UInt64.size, f.Roomy total → g.Roomy total →
      f.exactScaled total + f.signedAmount = g.exactScaled total + g.signedAmount := by
    intro total hlt hfroom hgroom
    have htoNat : (UInt64.ofNat total).toNat = total := UInt64.toNat_ofNat_of_lt' hlt
    rw [← htoNat] at hfroom hgroom ⊢
    rw [← hf.toInt_evaluate_of_roomy hfroom, ← hg.toInt_evaluate_of_roomy hgroom, hvalue]
  have hsigned : f.signedAmount = g.signedAmount := by
    have hzero := hsum 0 (by decide) (hf.roomy_of_le_two (Nat.zero_le 2))
      (hg.roomy_of_le_two (Nat.zero_le 2))
    rw [hf.exactScaled_zero, hg.exactScaled_zero] at hzero
    omega
  obtain ⟨hsign, hamount⟩ := hf.shift_eq hg hsigned
  obtain ⟨hscaling, hfactor⟩ := hf.scale_eq hg fun total hlt hfroom hgroom => by
    have := hsum total hlt hfroom hgroom
    omega
  calc f = ((dice f.count f.sides).scaleBy f.scaling f.factor).shiftBy f.sign f.amount :=
        hf.eq_build.symm
    _ = ((dice g.count g.sides).scaleBy g.scaling g.factor).shiftBy g.sign g.amount := by
        rw [hcount, hsides, hscaling, hfactor, hsign, hamount]
    _ = g := hg.eq_build

theorem Normal.eq_iff_alike (hf : f.Normal) (hg : g.Normal) : f = g ↔ f.Alike g := by
  constructor
  · rintro rfl
    exact ⟨rfl, rfl, fun _ => rfl⟩
  · exact hf.eq_of_alike hg

/-! ## Normalizing keeps what is said -/

/-- **Normalizing changes no value**: a factor of one and an amount of zero do nothing either
way. -/
theorem evaluate_normalized (f : Formula) (total : UInt64) :
    f.normalized.evaluate total = f.evaluate total := by
  have hscaled : f.normalized.scaled (saturate total.toNat) = f.scaled (saturate total.toNat) := by
    by_cases hone : f.factor = 1
    · cases hscaling : f.scaling with
      | multiply => simp [scaled, normalized, hone, hscaling]
      | divide => simp [scaled, normalized, hone, hscaling]
    · simp [scaled, normalized, hone]
  have hshifted : ∀ n, f.normalized.shifted n = f.shifted n := by
    intro n
    by_cases hzero : f.amount = 0
    · cases hsign : f.sign with
      | plus => simp [shifted, normalized, hzero, hsign]
      | minus => simp [shifted, normalized, hzero, hsign]
    · simp [shifted, normalized, hzero]
  rw [evaluate, evaluate, hshifted, hscaled]

/-- A formula as it is before it is normalized: only the lower bounds have been seen to. -/
structure Clamped (f : Formula) : Prop where
  one_le_count : 1 ≤ f.count
  two_le_sides : 2 ≤ f.sides
  one_le_factor : 1 ≤ f.factor

theorem Clamped.normal_normalized (h : f.Clamped) : f.normalized.Normal :=
  Formula.normal_normalized h.one_le_count h.two_le_sides h.one_le_factor

theorem alike_normalized_iff (f g : Formula) :
    f.normalized.Alike g.normalized ↔ f.Alike g := by
  simp only [Alike, evaluate_normalized]
  rfl

/-- **The normal form is unique.** Formulas that can be built are equal exactly if they throw the
same dice and make the same of each total; and formulas that are normalized come out equal exactly
if they said the same before. -/
theorem eq_iff_evaluate_eq :
    (∀ f g : Formula, Reachable f → Reachable g → (f = g ↔ f.Alike g)) ∧
      ∀ f g : Formula, f.Clamped → g.Clamped → (f.normalized = g.normalized ↔ f.Alike g) := by
  constructor
  · intro f g hf hg
    exact hf.normal.eq_iff_alike hg.normal
  · intro f g hf hg
    rw [hf.normal_normalized.eq_iff_alike hg.normal_normalized]
    exact alike_normalized_iff f g

/-- Five and six round alike up to a total of seven, and still some total tells them apart; a
division by one with nothing taken away says no more than a plain throw. -/
theorem eq_iff_evaluate_eq_five_six :
    let f := (dice 3 6).dividedBy 5
    let g := (dice 3 6).dividedBy 6
    let written : Formula := ⟨3, 6, .divide, 1, .minus, 0⟩
    Reachable f ∧ Reachable g ∧ (∃ total, f.evaluate total ≠ g.evaluate total) ∧
      written.Clamped ∧ (dice 3 6).Clamped ∧ written.Alike (dice 3 6) := by
  intro f g written
  have hf : Reachable f := (Reachable.dice _ _).put (.dividedBy 5)
  have hg : Reachable g := (Reachable.dice _ _).put (.dividedBy 6)
  have hapart : ¬ f.Alike g := fun halike =>
    absurd ((eq_iff_evaluate_eq.1 f g hf hg).mpr halike) (by decide)
  have hwritten : written.Clamped := ⟨by decide, by decide, by decide⟩
  have hplain : (dice 3 6).Clamped := ⟨by decide, by decide, by decide⟩
  refine ⟨hf, hg, ?_, hwritten, hplain, (eq_iff_evaluate_eq.2 _ _ hwritten hplain).mp rfl⟩
  by_contra hsame
  push Not at hsame
  exact hapart ⟨rfl, rfl, hsame⟩

end Tabletop.Formula
