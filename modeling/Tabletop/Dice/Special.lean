import Tabletop.Dice.Basic

/-!
# Tabletop.Dice.Special — dice of particular games

Fudge dice, whose faces are -1, 0 and +1; the d66, a die of tens and a die of units; the d666, two
dice for a check and one for its degree, with an intervention when all three show 1 or all show 6;
and the mathematician's die, whose faces are constants.
-/

namespace Tabletop.Dice

variable {σ : Type} [Source σ]

/-! ## Fudge dice -/

/-- One fudge die: -1, 0 or +1. -/
def fudgeDie : Draw σ Int := fun s =>
  let r := Draw.below64 3 s
  ((r.1 : Int) - 1, r.2)

/-- The sum of `count` fudge dice. -/
def fudge (count : UInt32) : Draw σ Int := fun s =>
  let r := Draw.times (clampCount count).toNat fudgeDie s
  (r.1.foldr (fun face n => face + n) 0, r.2)

/-! ## The d66 and the d666 -/

/-- The value of a die of tens and a die of units. -/
def tensAndUnits (tens units : UInt32) : UInt32 := tens * 10 + units

/-- The faces of the two dice of a d66, tens first. -/
def throwD66 : Draw σ (UInt32 × UInt32) := fun s =>
  let tens := rollDie 6 s
  let units := rollDie 6 tens.2
  ((tens.1, units.1), units.2)

/-- A d66. -/
def d66 : Draw σ UInt32 := fun s =>
  let r := throwD66 s
  (tensAndUnits r.1.1 r.1.2, r.2)

/-- What three dice of a d666 mean. -/
inductive D666 where
  /-- All three showed 1. -/
  | divine
  /-- All three showed 6. -/
  | infernal
  /-- Anything else: the sum of the first two dice, and the third. -/
  | check (sum degree : UInt32)
  deriving DecidableEq, Repr

namespace D666

/-- **The meaning of three faces.** -/
def ofFaces (first second third : UInt32) : D666 :=
  if first = 1 ∧ second = 1 ∧ third = 1 then .divine
  else if first = 6 ∧ second = 6 ∧ third = 6 then .infernal
  else .check (first + second) third

/-- A d666 in words, or the check and its degree. -/
def text : D666 → String
  | divine => "divine intervention"
  | infernal => "infernal intervention"
  | check sum degree => s!"{sum.toNat}:{degree.toNat}"

end D666

/-- The faces of the three dice of a d666, in the order drawn. -/
def throwD666 : Draw σ (UInt32 × UInt32 × UInt32) := fun s =>
  let first := rollDie 6 s
  let second := rollDie 6 first.2
  let third := rollDie 6 second.2
  ((first.1, second.1, third.1), third.2)

/-- A d666. -/
def d666 : Draw σ D666 := fun s =>
  let r := throwD666 s
  (D666.ofFaces r.1.1 r.1.2.1 r.1.2.2, r.2)

/-! ## The mathematician's die -/

/-- The faces of the mathematician's die. -/
def mathematicianFaces : List String := ["0", "1", "i", "e", "φ", "π"]

/-- The face that the mathematician's die shows. -/
def mathematician : Draw σ String := fun s =>
  let r := Draw.pick mathematicianFaces s
  (r.1.getD "0", r.2)

end Tabletop.Dice
