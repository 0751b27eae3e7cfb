import Tabletop.Random.Sampler

/-!
# Tabletop.Dice.Basic — throwing plain dice

A throw never fails: fewer than one die throws one die, and a die with fewer than two faces is
thrown as a die with two. Everything here rests on one draw, `rollDie`; a throw of several dice
keeps the faces in the order drawn (`throwDice`), and the totals are read off those faces.
-/

namespace Tabletop.Dice

/-- The fewest dice that are thrown. -/
def minCount : UInt32 := 1

/-- The fewest faces of a die. -/
def minSides : UInt32 := 2

/-- A number of dice, at least `minCount`. -/
def clampCount (count : UInt32) : UInt32 := max count minCount

/-- A number of faces, at least `minSides`. -/
def clampSides (sides : UInt32) : UInt32 := max sides minSides

/-- The numbers of faces that have a die of their own. -/
def standardSides : List UInt32 :=
  [2, 3, 4, 5, 6, 7, 8, 9, 10, 11, 12, 13, 14, 15, 16, 17, 18, 19, 20, 24, 30, 34, 48, 50, 60, 100,
   120, 1000, 10000]

variable {σ : Type} [Source σ]

/-- The face that one die shows, from 1 up. -/
def rollDie (sides : UInt32) : Draw σ UInt32 := fun s =>
  let r := Draw.below64 (clampSides sides).toNat s
  (UInt32.ofNat (r.1 + 1), r.2)

/-- **A throw of `count` dice**, every face in the order drawn. -/
def throwDice (count sides : UInt32) : Draw σ (List UInt32) :=
  Draw.times (clampCount count).toNat (rollDie sides)

/-- The total of a throw. -/
def total (faces : List UInt32) : UInt64 :=
  faces.foldr (fun face n => face.toUInt64 + n) 0

/-- The total of a throw of `count` dice. -/
def roll (count sides : UInt32) : Draw σ UInt64 := fun s =>
  let r := throwDice count sides s
  (total r.1, r.2)

/-- Several totals, each of a throw of its own. -/
def rollMany (rolls count sides : UInt32) : Draw σ (List UInt64) :=
  Draw.times rolls.toNat (roll count sides)

/-- How many dice a throw shows. -/
theorem length_throwDice (count sides : UInt32) (s : σ) :
    (throwDice count sides s).1.length = (clampCount count).toNat :=
  Draw.length_times _ _ _

theorem roll_eq (count sides : UInt32) (s : σ) :
    roll count sides s = (total (throwDice count sides s).1, (throwDice count sides s).2) := rfl

end Tabletop.Dice
