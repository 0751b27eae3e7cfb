import Tabletop.Formula.Roll
import Tabletop.Pool
import Tabletop.Proofs.Dice.Throw
import Tabletop.Proofs.Random.Script

/-!
# Tabletop.Proofs.Dice.Stream — every throw reads the same stream of dice

From a given source a die with a given number of faces can be thrown again and again: that is the
stream of such dice. Every throw in this library takes its dice from the front of that stream, as
many as it was asked for after clamping, and leaves the source where that many single dice leave it.
A total adds the dice up; several throws of one die keep them apart; a pool scores them; a formula
evaluates their total. Fudge dice are three-sided dice shifted down by two.

So a throw of several dice is the same as two throws of fewer dice, one after the other.
-/

namespace Tabletop.Dice

variable {σ : Type} [Source σ]

/-! ## The stream -/

/-- The dice of the stream that a throw takes. -/
def streamFaces (count sides : UInt32) (s : σ) : List UInt32 :=
  (rollDie (clampSides sides)).results (clampCount count).toNat s

/-- The source after the dice of the stream that a throw takes. -/
def streamRest (count sides : UInt32) (s : σ) : σ :=
  (rollDie (clampSides sides)).after (clampCount count).toNat s

/-- Clamping the number of faces beforehand makes no difference to a die. -/
@[simp] theorem rollDie_clampSides (sides : UInt32) :
    (rollDie (clampSides sides) : Draw σ UInt32) = rollDie sides := by
  funext s
  rw [rollDie, rollDie, clampSides_of_le (two_le_clampSides sides)]

/-- **A throw takes its dice from the stream.** -/
theorem throwDice_eq_stream (count sides : UInt32) (s : σ) :
    throwDice count sides s = (streamFaces count sides s, streamRest count sides s) := by
  rw [throwDice, ← rollDie_clampSides, Draw.times_eq_results]
  rfl

@[simp] theorem length_streamFaces (count sides : UInt32) (s : σ) :
    (streamFaces count sides s).length = (clampCount count).toNat := by
  rw [streamFaces, Draw.results, List.length_map, List.length_range]

theorem length_streamFaces_lt (count sides : UInt32) (s : σ) :
    (streamFaces count sides s).length < UInt32.size := by
  rw [length_streamFaces]
  exact (clampCount count).toNat_lt_size

/-! ## Single dice and fudge dice -/

/-- A throw of one die is that die. -/
theorem roll_one (sides : UInt32) :
    (roll 1 sides : Draw σ UInt64) =
      fun s => ((rollDie sides s).1.toUInt64, (rollDie sides s).2) := by
  funext s
  have hone : (clampCount 1).toNat = 0 + 1 := by decide
  rw [roll, throwDice, hone, Draw.times_succ, Draw.times_zero]
  simp [total]

/-- What a face of a three-sided die counts as on a fudge die. -/
def fudgeFace (face : UInt32) : ℤ := face.toNat - 2

/-- A fudge die is a three-sided die shifted down by two. -/
theorem fudgeDie_eq :
    (fudgeDie : Draw σ ℤ) = fun s => (fudgeFace (rollDie 3 s).1, (rollDie 3 s).2) := by
  funext s
  have hthree : (clampSides 3).toNat = 3 := by decide
  have hface := toNat_rollDie 3 s
  rw [hthree] at hface
  have hvalue : ((Draw.below64 3 s).1 : ℤ) - 1 = fudgeFace (rollDie 3 s).1 := by
    rw [fudgeFace]
    omega
  rw [fudgeDie, hvalue, rollDie, hthree]

/-- Faces shifted down by two sum to two less for each. -/
theorem foldr_map_fudgeFace (faces : List UInt32) :
    (faces.map fudgeFace).foldr (fun face n => face + n) 0 =
      ((faces.map UInt32.toNat).sum : ℤ) - 2 * faces.length := by
  induction faces with
  | nil => rfl
  | cons face faces ih =>
      rw [List.map_cons, List.foldr_cons, ih, List.map_cons, List.sum_cons, List.length_cons,
        fudgeFace]
      omega

/-! ## All throws -/

/-- **What the throws of `count` dice with `sides` faces make of the dice that come**: `faces` are
the dice and `rest` is the source after them. -/
structure Throws (count sides : UInt32) (s : σ) (faces : List UInt32) (rest : σ) : Prop where
  /-- A total adds the dice up. -/
  roll_eq : (roll count sides s).1.toNat = (faces.map UInt32.toNat).sum ∧
    (roll count sides s).2 = rest
  /-- Throws of one die each keep the dice apart. -/
  rollMany_eq : rollMany (clampCount count) 1 sides s = (faces.map UInt32.toUInt64, rest)
  /-- A pool keeps the dice, whatever its threshold. -/
  pool_eq (threshold : UInt32) : ((Pool.mk sides count threshold).roll s).1.faces = faces ∧
    ((Pool.mk sides count threshold).roll s).2 = rest
  /-- A formula adds the dice up. -/
  formula_eq : ((Formula.dice count sides).roll s).1.total.toNat = (faces.map UInt32.toNat).sum ∧
    ((Formula.dice count sides).roll s).2 = rest
  /-- Six-sided dice above 3 are counted. -/
  hitsAboveThree_eq : clampSides sides = 6 →
    (Pool.hitsAboveThree count s).1.toNat = faces.countP (fun face => 3 < face) ∧
      (Pool.hitsAboveThree count s).2 = rest
  /-- Fudge dice are three-sided dice, each shifted down by two. -/
  fudge_eq : clampSides sides = 3 →
    (fudge count s).1 = ((faces.map UInt32.toNat).sum : ℤ) - 2 * (clampCount count).toNat ∧
      (fudge count s).2 = rest

theorem toNat_roll (count sides : UInt32) (s : σ) :
    (roll count sides s).1.toNat = ((streamFaces count sides s).map UInt32.toNat).sum := by
  rw [roll_eq, throwDice_eq_stream]
  exact toNat_total (length_streamFaces_lt count sides s)

theorem rollMany_one (count sides : UInt32) (s : σ) :
    rollMany (clampCount count) 1 sides s =
      ((streamFaces count sides s).map UInt32.toUInt64, streamRest count sides s) := by
  rw [rollMany, roll_one, Draw.times_map, ← throwDice, throwDice_eq_stream]

theorem dice_roll (count sides : UInt32) (s : σ) :
    (Formula.dice count sides).roll s =
      ((Formula.dice count sides).rollOf (streamFaces count sides s),
        streamRest count sides s) := by
  have hthrow : throwDice (clampCount count) (clampSides sides) s = throwDice count sides s := by
    rw [throwDice, throwDice, rollDie_clampSides, clampCount_of_le (one_le_clampCount count)]
  rw [Formula.roll, Formula.throwDice, Formula.dice, hthrow, throwDice_eq_stream]

theorem toNat_hitsAboveThree {count sides : UInt32} (h : clampSides sides = 6) (s : σ) :
    (Pool.hitsAboveThree count s).1.toNat =
        (streamFaces count sides s).countP (fun face => 3 < face) ∧
      (Pool.hitsAboveThree count s).2 = streamRest count sides s := by
  have hthrow : throwDice count 6 s = (streamFaces count sides s, streamRest count sides s) := by
    rw [← throwDice_eq_stream, throwDice, throwDice, ← h, rollDie_clampSides]
  have hcount : (streamFaces count sides s).countP (fun face => 3 < face) < UInt32.size :=
    Nat.lt_of_le_of_lt List.countP_le_length (length_streamFaces_lt count sides s)
  rw [Pool.hitsAboveThree, hthrow]
  exact ⟨by rw [UInt32.toNat_ofNat', Nat.mod_eq_of_lt hcount], rfl⟩

theorem fudge_eq_stream {count sides : UInt32} (h : clampSides sides = 3) (s : σ) :
    fudge count s =
      ((((streamFaces count sides s).map UInt32.toNat).sum : ℤ) - 2 * (clampCount count).toNat,
        streamRest count sides s) := by
  have hthrow : Draw.times (clampCount count).toNat (rollDie 3) s =
      (streamFaces count sides s, streamRest count sides s) := by
    rw [← throwDice_eq_stream, throwDice, ← h, rollDie_clampSides]
  rw [fudge, fudgeDie_eq, Draw.times_map, hthrow, ← length_streamFaces count sides s,
    ← foldr_map_fudgeFace]

/-- **All throws take the same dice.** -/
theorem throws_stream (count sides : UInt32) (s : σ) :
    Throws count sides s (streamFaces count sides s) (streamRest count sides s) where
  roll_eq := ⟨toNat_roll count sides s, by rw [roll_eq, throwDice_eq_stream]⟩
  rollMany_eq := rollMany_one count sides s
  pool_eq threshold := by
    rw [Pool.roll, throwDice_eq_stream]
    exact ⟨rfl, rfl⟩
  formula_eq := by
    rw [dice_roll]
    exact ⟨toNat_total (length_streamFaces_lt count sides s), rfl⟩
  hitsAboveThree_eq h := toNat_hitsAboveThree h s
  fudge_eq h := by
    rw [fudge_eq_stream h]
    exact ⟨rfl, rfl⟩

/-- **A throw splits into two.** The second takes up the stream where the first left it. -/
theorem throwDice_add {a b : UInt32} (ha : 1 ≤ a) (hb : 1 ≤ b)
    (hab : a.toNat + b.toNat < UInt32.size) (sides : UInt32) (s : σ) :
    throwDice (a + b) sides s =
      ((throwDice a sides s).1 ++ (throwDice b sides (throwDice a sides s).2).1,
        (throwDice b sides (throwDice a sides s).2).2) := by
  have hsum : (a + b).toNat = a.toNat + b.toNat := by
    rw [UInt32.toNat_add]
    exact Nat.mod_eq_of_lt hab
  have hone : 1 ≤ a + b := by
    rw [UInt32.le_iff_toNat_le] at ha ⊢
    omega
  simp only [throwDice, clampCount_of_le ha, clampCount_of_le hb, clampCount_of_le hone, hsum,
    Draw.times_add]

/-- **All ways of throwing dice read one stream of dice.** For every source, number of dice and
number of faces, what each of them yields is made of the dice that come when single dice are thrown
from the source, and each leaves the source where those dice leave it. So a total of `a + b` dice is
a total of `a` dice and then one of `b`. -/
theorem throws_read_one_stream (sides : UInt32) (s : σ) :
    (∀ count, Throws count sides s (streamFaces count sides s) (streamRest count sides s)) ∧
      ∀ a b : UInt32, 1 ≤ a → 1 ≤ b → a.toNat + b.toNat < UInt32.size →
        (roll (a + b) sides s).1.toNat =
            (roll a sides s).1.toNat + (roll b sides (roll a sides s).2).1.toNat ∧
          (roll (a + b) sides s).2 = (roll b sides (roll a sides s).2).2 := by
  refine ⟨fun count => throws_stream count sides s, fun a b ha hb hab => ?_⟩
  have hsplit := throwDice_add ha hb hab sides s
  refine ⟨?_, by rw [roll_eq, hsplit, roll_eq, roll_eq]⟩
  have hlength := length_throwDice_lt (a + b) sides s
  rw [hsplit] at hlength
  simp only [roll_eq, hsplit]
  rw [toNat_total hlength, toNat_total (length_throwDice_lt a sides s),
    toNat_total (length_throwDice_lt b sides _), List.map_append, List.sum_append]

/-- Least and greatest words in turn: six-sided dice show 1 and 6, fudge dice -1 and +1. -/
theorem throws_read_one_stream_ofPair :
    let s := Script.ofPair (0, Script.greatestWord)
    (clampSides 6 = 6 ∧ (Pool.hitsAboveThree 5 s).1.toNat = 2) ∧
      (clampSides 3 = 3 ∧ (fudge 5 s).1 = -1) ∧
      ((1 : UInt32) ≤ 2 ∧ (1 : UInt32) ≤ 3 ∧ (2 : UInt32).toNat + (3 : UInt32).toNat < UInt32.size ∧
        (roll (2 + 3) 6 s).1.toNat = 7 + 8) := by
  intro s
  have hsix : streamFaces 5 6 s = [1, 6, 1, 6, 1] := by decide +kernel
  have hthree : streamFaces 5 3 s = [1, 3, 1, 3, 1] := by decide +kernel
  have htwo : (roll 2 6 s).1.toNat = 7 := by decide +kernel
  have hnext : (roll 3 6 (roll 2 6 s).2).1.toNat = 8 := by decide +kernel
  refine ⟨⟨by decide, ?_⟩, ⟨by decide, ?_⟩, by decide, by decide, by decide, ?_⟩
  · rw [(((throws_read_one_stream 6 s).1 5).hitsAboveThree_eq (by decide)).1, hsix]
    decide
  · rw [(((throws_read_one_stream 3 s).1 5).fudge_eq (by decide)).1, hthree]
    decide
  · rw [((throws_read_one_stream 6 s).2 2 3 (by decide) (by decide) (by decide)).1, htwo, hnext]

end Tabletop.Dice
