import Tabletop.Formula.Basic

/-!
# Tabletop.Formula.Reader — finding a formula in a text

A formula is written `count d sides op factor sign amount`; everything but the `d` (or `D`) may be
missing. The first formula found from the left is the one read, and what stands around it is
ignored, so `roll 3d6 for damage` reads as `3d6`.

Numbers are read greedily. A *literal* is a zero, or a run of digits that starts with none; an
amount may start with zeros. A number that does not fit in 32 bits does not count as one: an
optional clause with such a number, or with a factor of zero, is left out, and everything after
the last clause that was read is ignored.
-/

namespace Tabletop

namespace Formula

/-- The text holds no formula. -/
structure NotFound where
  deriving DecidableEq, Repr

/-- What is said of a text that holds no formula. -/
def NotFound.message (_ : NotFound) : String :=
  "invalid dice formula: found end of input expected any, '0', 'd', or 'D'"

/-! ## Clauses -/

/-- The run of digits at the front, as a word, and what follows; nothing if there is no digit or the
number does not fit. -/
def digitRun? (cs : List Char) : Option (UInt32 × List Char) :=
  match cs.takeWhile Char.isDigit with
  | [] => none
  | ds => (Numeral.word32? ds).map fun n => (n, cs.dropWhile Char.isDigit)

/-- The literal at the front, and what follows. -/
def literal? : List Char → Option (UInt32 × List Char)
  | '0' :: rest => some (0, rest)
  | cs => digitRun? cs

/-- The scaling that a character stands for. -/
def scalingOf? (c : Char) : Option Scaling :=
  if c = '/' || c = '÷' then some .divide
  else if c = 'x' || c = '*' then some .multiply
  else none

/-- The sign that a character stands for. -/
def signOf? (c : Char) : Option Sign :=
  if c = '+' then some .plus
  else if c = '-' then some .minus
  else none

/-- The scaling clause at the front, and what follows; a factor of zero is no clause. -/
def scaleClause? : List Char → Option ((Scaling × UInt32) × List Char)
  | [] => none
  | c :: cs =>
    match scalingOf? c, literal? cs with
    | some scaling, some (factor, rest) =>
      if factor = 0 then none else some ((scaling, factor), rest)
    | _, _ => none

/-- The shift clause at the front, and what follows. -/
def shiftClause? : List Char → Option ((Sign × UInt32) × List Char)
  | [] => none
  | c :: cs =>
    match signOf? c, digitRun? cs with
    | some sign, some (amount, rest) => some ((sign, amount), rest)
    | _, _ => none

/-! ## Whole formulas -/

/-- The character between the number of dice and their faces. -/
def isMark (c : Char) : Bool := c = 'd' || c = 'D'

/-- The formula of so many dice, when the text after the mark is `cs`. -/
def afterMark (count : UInt32) (cs : List Char) : Formula :=
  let (sides, cs) := (literal? cs).getD (6, cs)
  let ((scaling, factor), cs) := (scaleClause? cs).getD ((.multiply, 1), cs)
  let ((sign, amount), _) := (shiftClause? cs).getD ((.plus, 0), cs)
  Formula.normalized
    { count := Dice.clampCount count, sides := Dice.clampSides sides,
      scaling := scaling, factor := factor, sign := sign, amount := amount }

/-- The formula that starts with the first character, if one does. -/
def here? (cs : List Char) : Option Formula :=
  let (count, rest) := (literal? cs).getD (1, cs)
  match rest with
  | [] => none
  | c :: rest => if isMark c then some (afterMark count rest) else none

/-- The first formula found from the left. -/
def find? : List Char → Option Formula
  | [] => none
  | c :: cs =>
    match here? (c :: cs) with
    | some f => some f
    | none => find? cs

/-- **The formula in a text.** -/
def parse (text : String) : Except NotFound Formula :=
  match find? text.toList with
  | some f => .ok f
  | none => .error {}

/-! ## Readings -/

example : (find? "3d6x2+1".toList, find? "dagger 1d4".toList) =
    (some (((dice 3 6).times 2).plus 1), some (dice 1 6)) := by
  decide +kernel

example : (find? "4294967296d6".toList, find? "2d6/0+1".toList, find? "05d6-007".toList) =
    (some (dice 294967296 6), some (dice 2 6), some ((dice 5 6).minus 7)) := by
  decide +kernel

end Formula

end Tabletop
