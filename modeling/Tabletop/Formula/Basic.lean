import Tabletop.Dice.Basic
import Tabletop.Text.Numeral

/-!
# Tabletop.Formula.Basic — dice formulas and what they mean

A formula such as `3d6x2+1` says how many dice of how many faces are thrown, how their total is
scaled, and what is added or taken away afterwards. Scaling multiplies, or divides to the nearest
integer with halves up; a formula without a clause multiplies by one and adds nothing.

A clause that changes nothing has one spelling (`factor = 1` multiplies, `amount = 0` is added), so
formulas are equal when they say the same. Values are 64-bit integers: where an exact result would
leave their range, the nearest end of the range stands for it.
-/

namespace Tabletop

/-- How a formula scales its total. -/
inductive Scaling where
  /-- The total times the factor. -/
  | multiply
  /-- The total divided by the factor, to the nearest integer, halves up. -/
  | divide
  deriving DecidableEq, Repr

/-- Whether a formula adds its amount or takes it away. -/
inductive Sign where
  /-- The amount is added. -/
  | plus
  /-- The amount is taken away. -/
  | minus
  deriving DecidableEq, Repr

/-- The character that a scaling is written with. -/
def Scaling.char : Scaling → Char
  | multiply => 'x'
  | divide => '÷'

/-- The character that a sign is written with. -/
def Sign.char : Sign → Char
  | plus => '+'
  | minus => '-'

/-- A dice formula. -/
structure Formula where
  /-- How many dice are thrown. -/
  count : UInt32
  /-- How many faces each has. -/
  sides : UInt32
  /-- How the total is scaled. -/
  scaling : Scaling
  /-- What it is scaled by. -/
  factor : UInt32
  /-- Whether the amount is added or taken away. -/
  sign : Sign
  /-- What is added or taken away. -/
  amount : UInt32
  deriving DecidableEq, Repr

namespace Formula

/-- **The formulas that can be built**: at least one die of at least two faces, a factor of at least
one, and one spelling for a clause that changes nothing. -/
structure Normal (f : Formula) : Prop where
  one_le_count : 1 ≤ f.count
  two_le_sides : 2 ≤ f.sides
  one_le_factor : 1 ≤ f.factor
  scaling_of_factor : f.factor = 1 → f.scaling = .multiply
  sign_of_amount : f.amount = 0 → f.sign = .plus

/-! ## Building formulas -/

/-- A throw of `count` dice, neither scaled nor shifted. -/
def dice (count sides : UInt32) : Formula where
  count := Dice.clampCount count
  sides := Dice.clampSides sides
  scaling := .multiply
  factor := 1
  sign := .plus
  amount := 0

/-- One six-sided die. -/
instance : Inhabited Formula := ⟨dice 1 6⟩

/-- The formula with its clauses in their one spelling, where they change nothing. -/
def normalized (f : Formula) : Formula :=
  { f with
    scaling := if f.factor = 1 then .multiply else f.scaling
    sign := if f.amount = 0 then .plus else f.sign }

/-- The formula with its scaling replaced; a factor below one counts as one. -/
def scaleBy (scaling : Scaling) (factor : UInt32) (f : Formula) : Formula :=
  { f with scaling := scaling, factor := max factor 1 }.normalized

/-- The formula with its shift replaced. -/
def shiftBy (sign : Sign) (amount : UInt32) (f : Formula) : Formula :=
  { f with sign := sign, amount := amount }.normalized

/-- The formula with its total multiplied. -/
def times (f : Formula) (factor : UInt32) : Formula := f.scaleBy .multiply factor

/-- The formula with its total divided. -/
def dividedBy (f : Formula) (divisor : UInt32) : Formula := f.scaleBy .divide divisor

/-- The formula with an amount added. -/
def plus (f : Formula) (amount : UInt32) : Formula := f.shiftBy .plus amount

/-- The formula with an amount taken away. -/
def minus (f : Formula) (amount : UInt32) : Formula := f.shiftBy .minus amount

/-- A clause that is put on a formula. -/
inductive Clause where
  /-- Multiply the total. -/
  | times (factor : UInt32)
  /-- Divide the total. -/
  | dividedBy (divisor : UInt32)
  /-- Add an amount. -/
  | plus (amount : UInt32)
  /-- Take an amount away. -/
  | minus (amount : UInt32)
  deriving DecidableEq, Repr

/-- The formula with a clause put on it, in place of the one that did the same job. -/
def put (f : Formula) : Clause → Formula
  | .times factor => f.times factor
  | .dividedBy divisor => f.dividedBy divisor
  | .plus amount => f.plus amount
  | .minus amount => f.minus amount

/-- The formula with clauses put on it, one after another. -/
def extend (f : Formula) (clauses : List Clause) : Formula := clauses.foldl put f

theorem extend_append (f : Formula) (clauses more : List Clause) :
    f.extend (clauses ++ more) = (f.extend clauses).extend more :=
  List.foldl_append

/-- The formulas that putting clauses on one after another goes through, the first one included. -/
def stages (f : Formula) : List Clause → List Formula
  | [] => [f]
  | clause :: clauses => f :: stages (f.put clause) clauses

/-! ## What a formula makes of a total -/

/-- The largest value of a formula. -/
def greatest : Int := Int64.maxValue.toInt

/-- The smallest value of a formula. -/
def least : Int := Int64.minValue.toInt

/-- The value nearest to an exact result. -/
def saturate (n : Int) : Int := max least (min n greatest)

/-- A total, scaled. The factor of a formula that was not built counts as one when it is zero. -/
def scaled (f : Formula) (total : Int) : Int :=
  let factor := max (f.factor.toNat : Int) 1
  match f.scaling with
  | .multiply => saturate (total * factor)
  | .divide => saturate (total + factor / 2) / factor

/-- A scaled total, shifted. -/
def shifted (f : Formula) (n : Int) : Int :=
  match f.sign with
  | .plus => saturate (n + (f.amount.toNat : Int))
  | .minus => saturate (n - (f.amount.toNat : Int))

/-- **The value of a formula on a total**: scaled first, then shifted. -/
def evaluate (f : Formula) (total : UInt64) : Int64 :=
  Int64.ofIntClamp (f.shifted (f.scaled (saturate (total.toNat : Int))))

/-- The value when every die shows 1. -/
def minValue (f : Formula) : Int64 := f.evaluate f.count.toUInt64

/-- The value when every die shows its highest face. -/
def maxValue (f : Formula) : Int64 := f.evaluate (f.count.toUInt64 * f.sides.toUInt64)

/-! ## Writing formulas -/

/-- The characters of a formula. Number and faces are always written, a factor of one and an amount
of zero never. -/
def chars (f : Formula) : List Char :=
  Numeral.digits f.count.toNat ++ 'd' :: Numeral.digits f.sides.toNat ++
    (if f.factor = 1 then [] else f.scaling.char :: Numeral.digits f.factor.toNat) ++
    (if f.amount = 0 then [] else f.sign.char :: Numeral.digits f.amount.toNat)

/-- **The canonical text of a formula.** -/
def text (f : Formula) : String := String.ofList f.chars

end Formula

end Tabletop
