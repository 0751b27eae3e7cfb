import Tabletop.Formula.Reader

/-!
# Tabletop.Formula.Roll — rolling formulas

Rolling a formula throws its dice once and evaluates it on their total. A text is rolled by reading
the formula in it first; a text without one is answered in words and costs no randomness.
-/

namespace Tabletop

/-- A formula that was rolled. -/
structure FormulaRoll where
  /-- The formula. -/
  formula : Formula
  /-- The total of the dice, before scaling. -/
  total : UInt64
  /-- The value of the formula on the total. -/
  value : Int64
  deriving DecidableEq, Repr

/-- The canonical formula, a colon and the value. -/
def FormulaRoll.text (r : FormulaRoll) : String :=
  String.ofList (r.formula.chars ++ ':' :: Numeral.signed r.value.toInt)

namespace Formula

/-- The roll that a throw of the formula's dice amounts to. -/
def rollOf (f : Formula) (faces : List UInt32) : FormulaRoll where
  formula := f
  total := Dice.total faces
  value := f.evaluate (Dice.total faces)

variable {σ : Type} [Source σ]

/-- The dice of a formula. -/
def throwDice (f : Formula) : Draw σ (List UInt32) := Dice.throwDice f.count f.sides

/-- **Roll a formula.** -/
def roll (f : Formula) : Draw σ FormulaRoll := fun s =>
  let r := f.throwDice s
  (f.rollOf r.1, r.2)

end Formula

/-! ## Answering a text -/

/-- What is said to a text that was to be rolled. -/
inductive Answer where
  /-- The value alone. -/
  | value (value : Int64)
  /-- The formula with its value. -/
  | verbose (roll : FormulaRoll)
  /-- The text holds no formula. -/
  | unreadable
  deriving DecidableEq, Repr

namespace Answer

/-- What is said to a text that holds no formula. -/
def apology : String := "Sorry, couldn't parse your dice formula"

/-- The value of an answer, if the text held a formula. -/
def value? : Answer → Option Int64
  | value v => some v
  | verbose r => some r.value
  | unreadable => none

/-- An answer in words. -/
def text : Answer → String
  | value v => String.ofList (Numeral.signed v.toInt)
  | verbose r => r.text
  | unreadable => apology

/-- The answer that a roll gives. -/
def ofRoll (verbose : Bool) (r : FormulaRoll) : Answer :=
  if verbose then .verbose r else .value r.value

/-- The answer to a roll is no apology. -/
theorem ofRoll_ne_unreadable (verbose : Bool) (r : FormulaRoll) :
    ofRoll verbose r ≠ unreadable := by
  cases verbose <;> exact Answer.noConfusion

variable {σ : Type} [Source σ]

/-- **Roll the formula in a text.** -/
def ofText (text : String) (verbose : Bool) : Draw σ Answer := fun s =>
  match Formula.parse text with
  | .ok f =>
    let r := f.roll s
    (ofRoll verbose r.1, r.2)
  | .error _ => (unreadable, s)

end Answer

end Tabletop
