import Tabletop.Chance
import Tabletop.Proofs.Dice.Stream

/-!
# Tabletop.Proofs.Chance — the odds of a chance

A chance throws one die and asks whether it shows the threshold or less. The die is a choice among
its faces, so the pairs of words that pass are those whose choice is below the threshold: of the
`2 ^ 128` pairs, `threshold / n` of them rounded up, where `n` is the number of faces. No rounding
is needed for even odds, for a threshold of `n` or more, which always passes, or for zero, which
never does.

The die is thrown before the threshold is looked at. So what is left of the source does not depend
on the threshold, and a higher threshold passes wherever a lower one did.
-/

namespace Tabletop.Chance

variable {σ : Type} [Source σ]

/-! ## One die against a threshold -/

/-- The total of a throw of one die is its face. -/
theorem total_throwOne (sides : UInt32) (s : σ) :
    Dice.total (Dice.throwDice 1 sides s).1 = (Dice.rollDie sides s).1.toUInt64 ∧
      (Dice.throwDice 1 sides s).2 = (Dice.rollDie sides s).2 := by
  have hone : Dice.roll 1 sides s =
      ((Dice.rollDie sides s).1.toUInt64, (Dice.rollDie sides s).2) :=
    congrFun (Dice.roll_one sides) s
  rw [Dice.roll_eq] at hone
  exact Prod.mk.inj hone

/-- **A chance is one die**, and passes when it shows no more than the threshold. -/
theorem outOf_eq (sides threshold : UInt32) (s : σ) :
    outOf sides threshold s =
      (decide ((Dice.rollDie sides s).1 ≤ threshold), (Dice.rollDie sides s).2) := by
  obtain ⟨htotal, hrest⟩ := total_throwOne sides s
  unfold outOf throwAgainst
  simp only [htotal, hrest, UInt64.le_iff_toNat_le, UInt32.le_iff_toNat_le, UInt32.toNat_toUInt64]

/-- **A coin is a chance of 1 out of 2**: a die shows no less than 1. -/
theorem flip_eq (s : σ) : flip s = outOf 2 1 s := by
  obtain ⟨htotal, hrest⟩ := total_throwOne 2 s
  have hleast := (Dice.isFace_rollDie 2 s).1
  have hheads : (Dice.rollDie 2 s).1.toUInt64 = 1 ↔ (Dice.rollDie 2 s).1 ≤ 1 := by
    rw [← UInt64.toNat_inj, UInt32.toNat_toUInt64, UInt32.le_iff_toNat_le]
    show _ = 1 ↔ _ ≤ 1
    omega
  rw [outOf_eq]
  refine Prod.ext (Bool.eq_iff_iff.mpr ?_) hrest
  show (Dice.total (Dice.throwDice 1 2 s).1 == 1) = true ↔ _
  rw [beq_iff_eq, htotal, hheads, decide_eq_true_iff]

/-- A chance passes when the choice among the faces is below the threshold. -/
theorem outOf_eq_true_iff (sides threshold : UInt32) (s : σ) :
    (outOf sides threshold s).1 = true ↔
      (Draw.below64 (Dice.clampSides sides).toNat s).1 < threshold.toNat := by
  rw [outOf_eq, decide_eq_true_iff, UInt32.le_iff_toNat_le, Dice.toNat_rollDie]
  exact Nat.succ_le_iff

/-- **How many pairs of words pass.** -/
theorem ncard_outOf {source : UInt64 × UInt64 → σ} (hopens : ∀ w, Draw.Opens (source w) w)
    (sides threshold : UInt32) :
    {w | (outOf sides threshold (source w)).1 = true}.ncard =
      min threshold.toNat (Dice.clampSides sides).toNat * 2 ^ 128 ⌈/⌉
        (Dice.clampSides sides).toNat := by
  have hpass : ∀ w, (outOf sides threshold (source w)).1 = true ↔
      Sampler.choice UInt64.size (Dice.clampSides sides).toNat w.1.toNat w.2.toNat <
        threshold.toNat := by
    intro w
    rw [outOf_eq_true_iff, Draw.fst_below64 (hopens w)]
  have hset : {w | (outOf sides threshold (source w)).1 = true} =
      {w | Sampler.choice UInt64.size (Dice.clampSides sides).toNat w.1.toNat w.2.toNat <
        threshold.toNat} := Set.ext hpass
  rw [hset]
  exact Sampler.ncard_choice_lt (fun _ _ h => UInt64.toNat_inj.mp h) Sampler.range_toNat_uint64
    (Dice.clampSides_pos sides) (Dice.clampSides_le_size sides) threshold.toNat

/-! ## The odds of a test -/

/-- The threshold that counts: the one given, or half of `n`. -/
def limit (n : ℕ) (threshold : Option UInt32) : ℕ := threshold.elim (n / 2) UInt32.toNat

/-- **The odds of a test whose thresholds are out of `n`.** The sources are those that hand out a
pair of words first, one for each pair. -/
structure HasOdds (n : ℕ) (test : Option UInt32 → Draw σ Bool) (source : UInt64 × UInt64 → σ) :
    Prop where
  /-- Of all pairs of words, the threshold's share of `n` passes, rounded up. -/
  ncard_eq (threshold : Option UInt32) :
    {w | (test threshold (source w)).1 = true}.ncard = min (limit n threshold) n * 2 ^ 128 ⌈/⌉ n
  /-- Without a threshold, half of all pairs of words pass. -/
  even : {w | (test none (source w)).1 = true}.ncard = 2 ^ 127
  /-- A threshold of `n` or more always passes. -/
  always (threshold : Option UInt32) (s : σ) : n ≤ limit n threshold → (test threshold s).1 = true
  /-- A threshold of zero never passes. -/
  never (s : σ) : (test (some 0) s).1 = false
  /-- A higher threshold passes wherever a lower one does. -/
  mono (lower higher : Option UInt32) (s : σ) : limit n lower ≤ limit n higher →
    (test lower s).1 = true → (test higher s).1 = true
  /-- What is left of the source does not depend on the threshold. -/
  rest_eq (threshold other : Option UInt32) (s : σ) : (test threshold s).2 = (test other s).2

theorem half_mul_ceilDiv {half : ℕ} (h : 0 < half) : half * 2 ^ 128 ⌈/⌉ (2 * half) = 2 ^ 127 := by
  have hdouble : half * 2 ^ 128 = (2 * half) • 2 ^ 127 := by
    rw [smul_eq_mul]
    ring
  rw [hdouble, smul_ceilDiv (by omega)]

/-- **Testing one die** with an even number of faces, against half of them by default. -/
theorem hasOdds_outOf {sides half : UInt32} (hpos : 0 < half.toNat)
    (heven : sides.toNat = 2 * half.toNat) {source : UInt64 × UInt64 → σ}
    (hopens : ∀ w, Draw.Opens (source w) w) :
    HasOdds sides.toNat (fun threshold => outOf sides (threshold.getD half)) source := by
  have hclamp : Dice.clampSides sides = sides := by
    apply Dice.clampSides_of_le
    rw [UInt32.le_iff_toNat_le, heven]
    show 2 ≤ 2 * half.toNat
    omega
  have hlimit : ∀ threshold : Option UInt32,
      (threshold.getD half).toNat = limit sides.toNat threshold := by
    intro threshold
    cases threshold with
    | none =>
        show half.toNat = sides.toNat / 2
        omega
    | some threshold => rfl
  have hcount : ∀ threshold : Option UInt32,
      {w | (outOf sides (threshold.getD half) (source w)).1 = true}.ncard =
        min (limit sides.toNat threshold) sides.toNat * 2 ^ 128 ⌈/⌉ sides.toNat := by
    intro threshold
    rw [ncard_outOf hopens, hclamp, hlimit]
  refine ⟨hcount, ?_, ?_, ?_, ?_, ?_⟩
  · rw [hcount none, ← hlimit none, heven]
    show min half.toNat (2 * half.toNat) * 2 ^ 128 ⌈/⌉ (2 * half.toNat) = 2 ^ 127
    rw [Nat.min_eq_left (by omega), half_mul_ceilDiv hpos]
  · intro threshold s hmost
    have hface := (Dice.isFace_rollDie sides s).2
    rw [outOf_eq, decide_eq_true_iff, UInt32.le_iff_toNat_le, hlimit]
    rw [hclamp] at hface
    exact Nat.le_trans hface hmost
  · intro s
    rw [← Bool.not_eq_true, outOf_eq_true_iff]
    exact Nat.not_lt_zero _
  · intro lower higher s hle hpass
    rw [outOf_eq_true_iff, hlimit] at hpass ⊢
    exact Nat.lt_of_lt_of_le hpass hle
  · intro threshold other s
    rw [outOf_eq, outOf_eq]

/-! ## The chances of this library -/

/-- **Every chance has the odds that it tells.** On each scale, which is out of 100, out of 1000 or
out of 10000, and out of 6 and out of 20, the number of pairs of words that pass is the threshold's
share of all pairs, rounded up; half of them by default, and half of them are heads. -/
theorem chances_have_odds {source : UInt64 × UInt64 → σ} (hopens : ∀ w, Draw.Opens (source w) w) :
    (∀ scale : ChanceScale, HasOdds scale.sides.toNat (check scale) source) ∧
      (HasOdds 100 (check .percent) source ∧ HasOdds 1000 (check .permille) source ∧
        HasOdds 10000 (check .permyriad) source) ∧
      HasOdds 6 inSix source ∧ HasOdds 20 inTwenty source ∧
        {w | (flip (source w)).1 = true}.ncard = 2 ^ 127 := by
  have hscales : ∀ scale : ChanceScale, HasOdds scale.sides.toNat (check scale) source := by
    intro scale
    have hpos : 0 < scale.evenOdds.toNat := by
      cases scale <;> decide
    have heven : scale.sides.toNat = 2 * scale.evenOdds.toNat := by
      cases scale <;> decide
    exact hasOdds_outOf hpos heven hopens
  refine ⟨hscales, ⟨hscales .percent, hscales .permille, hscales .permyriad⟩, ?_, ?_, ?_⟩
  · have hsix : (6 : UInt32).toNat = 2 * (3 : UInt32).toNat := by decide
    exact hasOdds_outOf (by decide) hsix hopens
  · have htwenty : (20 : UInt32).toNat = 2 * (10 : UInt32).toNat := by decide
    exact hasOdds_outOf (by decide) htwenty hopens
  · have htwo : (2 : UInt32).toNat = 2 * (1 : UInt32).toNat := by decide
    simp only [flip_eq]
    exact (hasOdds_outOf (by decide) htwo hopens).even

/-- One in 6 is rounded up to a whole pair of words; half of ten thousand is half of the pairs. -/
theorem chances_have_odds_ofPair :
    (∀ w, Draw.Opens (Script.ofPair w) w) ∧
      {w | (inSix (some 1) (Script.ofPair w)).1 = true}.ncard =
          56713727820156410577229101238628035243 ∧
        {w | (check .permyriad none (Script.ofPair w)).1 = true}.ncard = 2 ^ 127 ∧
          ∀ w, (check .percent (some 100) (Script.ofPair w)).1 = true ∧
            (inTwenty (some 0) (Script.ofPair w)).1 = false := by
  obtain ⟨-, ⟨hpercent, -, hpermyriad⟩, hsix, htwenty, -⟩ := chances_have_odds Script.opens_ofPair
  refine ⟨Script.opens_ofPair, ?_, hpermyriad.even, ?_⟩
  · rw [hsix.ncard_eq, Nat.ceilDiv_eq_add_pred_div]
    rfl
  · intro w
    exact ⟨hpercent.always _ _ (by decide), htwenty.never _⟩

end Tabletop.Chance
