import Tabletop.Dice.Basic
import Tabletop.Text.Lowercase

/-!
# Tabletop.Chance — yes or no

A chance is a threshold out of some number: one die with that many faces is thrown, and the answer
is yes when it shows the threshold or less. Without a threshold the odds are even. Larger
thresholds never turn a yes into a no, and the die thrown does not depend on the threshold.
-/

namespace Tabletop

/-- What a threshold is counted out of. -/
inductive ChanceScale where
  /-- Out of a hundred. -/
  | percent
  /-- Out of a thousand. -/
  | permille
  /-- Out of ten thousand. -/
  | permyriad
  deriving DecidableEq, Repr

namespace ChanceScale

/-- The faces of the die that the scale throws. -/
def sides : ChanceScale → UInt32
  | percent => 100
  | permille => 1000
  | permyriad => 10000

/-- The threshold of even odds. -/
def evenOdds (scale : ChanceScale) : UInt32 := scale.sides / 2

/-- The name of a scale. -/
def text : ChanceScale → String
  | percent => "percent"
  | permille => "permille"
  | permyriad => "permyriad"

/-- **A scale by its name, its sign or its number**, whatever the case and the space around it. -/
def parse? (name : String) : Option ChanceScale :=
  match Text.lowercase (Text.trim name) with
  | "percent" | "%" | "100" => some percent
  | "permille" | "‰" | "1000" => some permille
  | "permyriad" | "‱" | "10000" => some permyriad
  | _ => none

/-- The name of a scale is one of its names. -/
example : (parse? "permyriad", parse? " PerMille ", parse? "dozen") =
    (some permyriad, some permille, none) := by
  decide +kernel

end ChanceScale

namespace Chance

variable {σ : Type} [Source σ]

/-- The die behind a chance, and whether it passes. -/
def throwAgainst (sides threshold : UInt32) : Draw σ (List UInt32 × Bool) := fun s =>
  let r := Dice.throwDice 1 sides s
  ((r.1, decide (Dice.total r.1 ≤ threshold.toUInt64)), r.2)

/-- **A threshold out of `sides`**: yes when the die shows it or less. -/
def outOf (sides threshold : UInt32) : Draw σ Bool := fun s =>
  let r := throwAgainst sides threshold s
  (r.1.2, r.2)

/-- A threshold on a scale, or even odds. -/
def check (scale : ChanceScale) (threshold : Option UInt32) : Draw σ Bool :=
  outOf scale.sides (threshold.getD scale.evenOdds)

/-- A threshold out of 6, or 3. -/
def inSix (threshold : Option UInt32) : Draw σ Bool := outOf 6 (threshold.getD 3)

/-- A threshold out of 20, or 10. -/
def inTwenty (threshold : Option UInt32) : Draw σ Bool := outOf 20 (threshold.getD 10)

/-- The die behind a coin, and whether it came up heads: a die with two faces shows 1. -/
def throwCoin : Draw σ (List UInt32 × Bool) := fun s =>
  let r := Dice.throwDice 1 2 s
  ((r.1, Dice.total r.1 == 1), r.2)

/-- A coin: yes for heads. -/
def flip : Draw σ Bool := fun s =>
  let r := throwCoin s
  (r.1.2, r.2)

end Chance

end Tabletop
