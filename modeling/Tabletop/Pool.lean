import Tabletop.Dice.Basic

/-!
# Tabletop.Pool — success pools

A pool is a handful of dice with the same faces. A die at the threshold or above scores a success; a
die that shows exactly 1 below the threshold takes one away. A pool with a net success succeeds;
otherwise it fails, and when no die met the threshold at all it is a fumble.
-/

namespace Tabletop

/-- A pool of dice to be thrown against a threshold. -/
structure Pool where
  /-- Faces of each die, at least two when thrown. -/
  sides : UInt32
  /-- How many dice, at least one when thrown. -/
  size : UInt32
  /-- A die that shows this or more scores. -/
  threshold : UInt32
  deriving DecidableEq, Repr

namespace Pool

/-- How a pool turned out. -/
inductive Outcome where
  /-- At least one net success. -/
  | success (successes : UInt32)
  /-- Some die met the threshold, but ones took every success away. -/
  | failure
  /-- No die met the threshold. -/
  | fumble
  deriving DecidableEq, Repr

/-- An outcome in words. -/
def Outcome.text : Outcome → String
  | success successes => s!"{successes.toNat} successes"
  | failure => "failure"
  | fumble => "fumble!"

/-! ## Scoring -/

/-- What the dice looked at so far have scored. -/
@[ext]
structure Tally where
  /-- Successes less ones. -/
  net : Int
  /-- Some die met the threshold. -/
  anyHit : Bool
  deriving DecidableEq, Repr

namespace Tally

/-- No die has been looked at. -/
def start : Tally := ⟨0, false⟩

/-- One more die is looked at. -/
def add (threshold : UInt32) (t : Tally) (face : UInt32) : Tally :=
  if threshold ≤ face then ⟨t.net + 1, true⟩
  else if face = 1 then ⟨t.net - 1, t.anyHit⟩
  else t

/-- The largest number of successes that an outcome can tell. -/
def mostSuccesses : Nat := UInt32.size - 1

/-- What an outcome tells of the net successes. -/
def successes (t : Tally) : UInt32 := UInt32.ofNat (min t.net.toNat mostSuccesses)

/-- **How a tally is classified**, once every die has been looked at. -/
def outcome (t : Tally) : Outcome :=
  if 1 ≤ t.net then .success t.successes
  else if t.anyHit then .failure
  else .fumble

end Tally

/-- **The tally of a throw**, die by die. -/
def tally (threshold : UInt32) (faces : List UInt32) : Tally :=
  faces.foldl (Tally.add threshold) .start

/-! ## Rolling -/

/-- A pool that was thrown: every die, the net count and the outcome. -/
structure Roll where
  /-- The pool that was thrown. -/
  pool : Pool
  /-- The face of every die, in the order drawn. -/
  faces : List UInt32
  /-- Successes less ones. -/
  net : Int64
  /-- How it turned out. -/
  outcome : Outcome
  deriving DecidableEq, Repr

/-- The faces, each followed by a comma and a space, then the outcome. -/
def Roll.text (r : Roll) : String :=
  String.join (r.faces.map fun face => s!"{face.toNat}, ") ++ r.outcome.text

/-- Score a throw of the pool. No throw has so many dice that its counter would leave 64 bits. -/
def resolve (pool : Pool) (faces : List UInt32) : Roll where
  pool := pool
  faces := faces
  net := Int64.ofIntClamp (tally pool.threshold faces).net
  outcome := (tally pool.threshold faces).outcome

variable {σ : Type} [Source σ]

/-- **Throw a pool and score it.** -/
def roll (pool : Pool) : Draw σ Roll := fun s =>
  let r := Dice.throwDice pool.size pool.sides s
  (pool.resolve r.1, r.2)

/-- The dice above 3 in a throw of `size` six-sided dice. -/
def hitsAboveThree (size : UInt32) : Draw σ UInt32 := fun s =>
  let r := Dice.throwDice size 6 s
  (UInt32.ofNat (r.1.countP fun face => decide (3 < face)), r.2)

end Pool

end Tabletop
