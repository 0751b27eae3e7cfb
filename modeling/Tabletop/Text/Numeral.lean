/-!
# Tabletop.Text.Numeral — numbers in decimal digits

Digits are the ten ASCII digits. Writing gives the shortest numeral; reading takes any run of
digits, and the readers of signed numerals also take one sign in front.
-/

namespace Tabletop.Numeral

/-- The shortest numeral of a number. -/
def digits (n : Nat) : List Char := Nat.toDigits 10 n

/-- The number that a run of digits denotes. -/
def value (cs : List Char) : Nat := Nat.ofDigitChars 10 cs 0

/-- **A numeral denotes the number it was written for.** -/
theorem value_digits (n : Nat) : value (digits n) = n :=
  Nat.ofDigitChars_toDigits (by decide) (by decide)

/-- The number that digits denote when they are written after a number, if it is below a bound. The
reading ends where the bound is reached, since further digits make no number smaller. -/
def below? (bound : Nat) : Nat → List Char → Option Nat
  | n, [] => if n < bound then some n else none
  | n, c :: cs => if n < bound then below? bound (10 * n + (c.toNat - '0'.toNat)) cs else none

/-- Digits written after a number make it no smaller. -/
theorem le_ofDigitChars (n : Nat) (cs : List Char) : n ≤ Nat.ofDigitChars 10 cs n := by
  induction cs generalizing n with
  | nil => exact Nat.le_refl n
  | cons c cs ih =>
    rw [Nat.ofDigitChars_cons]
    exact Nat.le_trans (by omega) (ih _)

/-- **Ending a reading early is right**: a number is given exactly when it is below the bound. -/
theorem below?_eq (bound n : Nat) (cs : List Char) :
    below? bound n cs =
      if Nat.ofDigitChars 10 cs n < bound then some (Nat.ofDigitChars 10 cs n) else none := by
  induction cs generalizing n with
  | nil => rfl
  | cons c cs ih =>
    rw [below?]
    split
    · rw [ih, Nat.ofDigitChars_cons]
    · have := le_ofDigitChars n (c :: cs)
      rw [if_neg (by omega)]

/-- The 32-bit word that a run of digits denotes, if it fits. -/
def word32? (cs : List Char) : Option UInt32 := (below? UInt32.size 0 cs).map UInt32.ofNat

/-- A run of digits denotes a word exactly when its number is below `2 ^ 32`. -/
theorem word32?_eq (cs : List Char) :
    word32? cs = if value cs < UInt32.size then some (UInt32.ofNat (value cs)) else none := by
  rw [word32?, below?_eq, value]
  split <;> rfl

/-- The number of a text that is all digits, and at least one. -/
def plain? (cs : List Char) : Option Nat :=
  if !cs.isEmpty && cs.all Char.isDigit then some (value cs) else none

/-- The number of a text of digits with an optional plus sign. -/
def natural? : List Char → Option Nat
  | '+' :: cs => plain? cs
  | cs => plain? cs

/-- The number of a text of digits with an optional sign. -/
def integer? : List Char → Option Int
  | '-' :: cs => (plain? cs).map fun n => -(n : Int)
  | cs => (natural? cs).map fun n => (n : Int)

/-- An integer, with a minus sign when it is negative. -/
def signed (n : Int) : List Char :=
  if n < 0 then '-' :: digits n.natAbs else digits n.natAbs

/-- An integer, always with a sign; zero counts as positive. -/
def explicit (n : Int) : List Char :=
  if n < 0 then '-' :: digits n.natAbs else '+' :: digits n.natAbs

end Tabletop.Numeral
