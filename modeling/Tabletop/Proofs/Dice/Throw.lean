import Tabletop.Dice.Special
import Tabletop.Proofs.Dice.Basic
import Tabletop.Proofs.Random.Repetition
import Tabletop.Proofs.Random.Uniform

/-!
# Tabletop.Proofs.Dice.Throw — the faces of a throw and their total

A die shows an integer drawn from 1 to the number of its faces. A throw has fewer than `2 ^ 32` dice
with fewer than `2 ^ 32` faces each, so the 64-bit total of its faces is their sum, and the total of
`n` dice lies between `n` and `n` times the number of faces.
-/

namespace Tabletop.Dice

variable {σ : Type} [Source σ]

/-! ## One die -/

/-- A face that a die with so many faces, clamped, can show. -/
def IsFace (sides face : UInt32) : Prop :=
  1 ≤ face.toNat ∧ face.toNat ≤ (clampSides sides).toNat

theorem clampSides_le_size (sides : UInt32) : (clampSides sides).toNat ≤ UInt64.size :=
  Nat.le_trans (Nat.le_of_lt (clampSides sides).toNat_lt_size) (by decide)

theorem clampSides_pos (sides : UInt32) : 0 < (clampSides sides).toNat := by
  have htwo : 2 ≤ (clampSides sides).toNat := UInt32.le_iff_toNat_le.mp (two_le_clampSides sides)
  omega

/-- The face is the choice among the faces, counted from 1. -/
theorem toNat_rollDie (sides : UInt32) (s : σ) :
    (rollDie sides s).1.toNat = (Draw.below64 (clampSides sides).toNat s).1 + 1 := by
  have hbelow := Draw.below64_lt (clampSides_pos sides) (clampSides_le_size sides) s
  have hsides := (clampSides sides).toNat_lt_size
  rw [rollDie, UInt32.toNat_ofNat', Nat.mod_eq_of_lt]
  exact Nat.lt_of_le_of_lt hbelow hsides

/-- **A die shows one of its faces.** -/
theorem isFace_rollDie (sides : UInt32) (s : σ) : IsFace sides (rollDie sides s).1 := by
  have hbelow := Draw.below64_lt (clampSides_pos sides) (clampSides_le_size sides) s
  rw [IsFace, toNat_rollDie]
  omega

/-- **A die is an integer from 1 to the number of its faces.** -/
theorem integer_one_clampSides (sides : UInt32) (s : σ) :
    Draw.integer 1 (Int64.ofInt (clampSides sides).toNat) s =
      (.ok (Int64.ofInt (rollDie sides s).1.toNat), (rollDie sides s).2) := by
  have hsides := (clampSides sides).toNat_lt_size
  have hpos := clampSides_pos sides
  rw [UInt32.size] at hsides
  have hmax : (Int64.ofInt (clampSides sides).toNat).toInt = (clampSides sides).toNat :=
    Int64.toInt_ofInt_of_le (by omega) (by omega)
  have hmin : (1 : Int64).toInt = 1 := by decide
  have hsize :
      Draw.rangeSize 1 (Int64.ofInt (clampSides sides).toNat) = (clampSides sides).toNat := by
    rw [Draw.rangeSize, hmax, hmin]
    omega
  have hle : (1 : Int64) ≤ Int64.ofInt (clampSides sides).toNat := by
    rw [Int64.le_iff_toInt_le, hmax, hmin]
    omega
  rw [Draw.integer_of_rangeSize_ne hle (by rw [hsize, UInt64.size]; omega), hsize, hmin,
    toNat_rollDie, Nat.cast_add, Nat.cast_one, Int.add_comm]
  rfl

/-- **A fudge die is an integer from -1 to 1.** -/
theorem integer_neg_one_one (s : σ) :
    Draw.integer (-1) 1 s = (.ok (Int64.ofInt (fudgeDie s).1), (fudgeDie s).2) := by
  have hsize : Draw.rangeSize (-1) 1 = 3 := by decide
  have hmin : (-1 : Int64).toInt = -1 := by decide
  rw [Draw.integer_of_rangeSize_ne (by decide) (by rw [hsize]; decide), hsize, hmin, Int.add_comm]
  rfl

/-! ## Totals -/

theorem total_cons (face : UInt32) (faces : List UInt32) :
    total (face :: faces) = face.toUInt64 + total faces := rfl

/-- A sum of 32-bit faces, bounded by the number of dice. -/
theorem sum_toNat_le (faces : List UInt32) :
    (faces.map UInt32.toNat).sum ≤ faces.length * (UInt32.size - 1) := by
  induction faces with
  | nil => exact Nat.le_refl 0
  | cons face faces ih =>
      have hface := face.toNat_lt_size
      rw [List.map_cons, List.sum_cons, List.length_cons, Nat.succ_mul]
      omega

/-- **The total of a throw is the sum of its faces**: 64 bits hold it, whatever the dice show. -/
theorem toNat_total {faces : List UInt32} (h : faces.length < UInt32.size) :
    (total faces).toNat = (faces.map UInt32.toNat).sum := by
  induction faces with
  | nil => rfl
  | cons face faces ih =>
      have hsum := sum_toNat_le (face :: faces)
      have hmost : (face :: faces).length * (UInt32.size - 1) ≤
          (UInt32.size - 1) * (UInt32.size - 1) :=
        Nat.mul_le_mul_right _ (Nat.le_sub_one_of_lt h)
      rw [List.map_cons, List.sum_cons] at hsum
      rw [total_cons, UInt64.toNat_add, ih (Nat.lt_of_succ_lt h), UInt32.toNat_toUInt64,
        List.map_cons, List.sum_cons, Nat.mod_eq_of_lt]
      simp only [UInt32.size] at hmost hsum
      omega

/-- As many dice are thrown as fit a 32-bit number. -/
theorem length_throwDice_lt (count sides : UInt32) (s : σ) :
    (throwDice count sides s).1.length < UInt32.size := by
  rw [length_throwDice]
  exact (clampCount count).toNat_lt_size

/-- **Every die of a throw shows one of its faces.** -/
theorem isFace_of_mem_throwDice {count sides : UInt32} {s : σ} {face : UInt32}
    (h : face ∈ (throwDice count sides s).1) : IsFace sides face := by
  have hstep : ∀ s : σ, True → IsFace sides (rollDie sides s).1 ∧ True := fun s _ =>
    ⟨isFace_rollDie sides s, trivial⟩
  exact (Draw.times_keeps (fun _ => True) hstep trivial _).1 face h

/-- Faces sum to no less than their number and to no more than as many highest faces. -/
theorem sum_toNat_mem {sides : UInt32} {faces : List UInt32}
    (h : ∀ face ∈ faces, IsFace sides face) :
    faces.length ≤ (faces.map UInt32.toNat).sum ∧
      (faces.map UInt32.toNat).sum ≤ faces.length * (clampSides sides).toNat := by
  induction faces with
  | nil => exact ⟨Nat.le_refl 0, Nat.zero_le _⟩
  | cons face faces ih =>
      obtain ⟨⟨hleast, hmost⟩, hfaces⟩ := List.forall_mem_cons.mp h
      obtain ⟨hlow, hhigh⟩ := ih hfaces
      rw [List.map_cons, List.sum_cons, List.length_cons, Nat.succ_mul]
      omega

/-- **The total of a throw** is at least the number of dice and at most that many highest faces. -/
theorem total_throwDice_mem (count sides : UInt32) (s : σ) :
    (clampCount count).toNat ≤ (total (throwDice count sides s).1).toNat ∧
      (total (throwDice count sides s).1).toNat ≤
        (clampCount count).toNat * (clampSides sides).toNat := by
  have hfaces : ∀ face ∈ (throwDice count sides s).1, IsFace sides face := fun face =>
    isFace_of_mem_throwDice
  have hsum := sum_toNat_mem hfaces
  rw [length_throwDice] at hsum
  rwa [toNat_total (length_throwDice_lt count sides s)]

/-! ## The extreme throws -/

/-- A script of one word shows the same face again and again. -/
theorem rollDie_of_words_eq {s : Script} {word : UInt64} (h : s.words = #[word]) (sides : UInt32) :
    (rollDie sides s).1.toNat =
        Sampler.choice UInt64.size (clampSides sides).toNat word.toNat word.toNat + 1 ∧
      (rollDie sides s).2.words = #[word] := by
  obtain ⟨hchoice, hwords⟩ := Script.below64_of_words_eq h (clampSides sides).toNat
  exact ⟨by rw [toNat_rollDie, hchoice], hwords⟩

/-- On the least word every die shows 1. -/
theorem throwDice_least (count sides : UInt32) :
    (throwDice count sides (Script.ofWord 0)).1 = List.replicate (clampCount count).toNat 1 := by
  refine Draw.times_eq_replicate (fun s => s.words = #[0]) (fun s hs => ?_) rfl _
  obtain ⟨hface, hwords⟩ := rollDie_of_words_eq hs sides
  refine ⟨UInt32.toNat_inj.mp ?_, hwords⟩
  have hzero : (0 : UInt64).toNat = 0 := rfl
  rw [hface, hzero, Sampler.choice_zero]
  rfl

/-- On the greatest word every die shows its highest face. -/
theorem throwDice_greatest (count sides : UInt32) :
    (throwDice count sides (Script.ofWord Script.greatestWord)).1 =
      List.replicate (clampCount count).toNat (clampSides sides) := by
  refine Draw.times_eq_replicate (fun s => s.words = #[Script.greatestWord])
    (fun s hs => ?_) rfl _
  obtain ⟨hface, hwords⟩ := rollDie_of_words_eq hs sides
  refine ⟨UInt32.toNat_inj.mp ?_, hwords⟩
  rw [hface, Script.toNat_greatestWord,
    Sampler.choice_last (clampSides_pos sides) (clampSides_le_size sides)]
  exact Nat.sub_add_cancel (clampSides_pos sides)

/-- The total of a throw in which every die shows the same face. -/
theorem toNat_total_replicate {n : ℕ} (h : n < UInt32.size) (face : UInt32) :
    (total (List.replicate n face)).toNat = n * face.toNat := by
  rw [toNat_total (by rwa [List.length_replicate]), List.map_replicate, List.sum_replicate_nat]

end Tabletop.Dice
