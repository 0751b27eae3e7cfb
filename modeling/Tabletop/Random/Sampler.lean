import Tabletop.Random.Source

/-!
# Tabletop.Random.Sampler — a random word made a random choice

A word is one of `m` numbers, zero to `m - 1`; `m` is `UInt32.size` or `UInt64.size`. To choose
among `r` values, a word `x` is read as the fraction `x / m` and scaled: the choice is the whole
part of `x * r / m`, and the remainder of that division is the fraction left over. When the
remainder is so large that a further word could still carry into the whole part, one further word
is read and its carry added; no third word is ever read. So the choice is that of one word of
twice the width.

There is a draw even when only one value can come out; nothing is drawn from an empty range or an
empty list.
-/

namespace Tabletop

namespace Sampler

/-- The first word leaves room for a carry: the remainder exceeds `m - r`. -/
def wantsSecond (m r x : Nat) : Bool := decide (m - r < x * r % m)

/-- The second word carries into the choice that the first has made. -/
def carries (m r x y : Nat) : Bool := decide (m ≤ x * r % m + y * r / m)

/-- **The choice among `r` values**, as a function of the first word and the word after it. -/
def choice (m r x y : Nat) : Nat :=
  if wantsSecond m r x && carries m r x y then x * r / m + 1 else x * r / m

/-- A choice among `r` values, from one word or two. -/
def draw {σ : Type} (m r : Nat) (word : Draw σ Nat) : Draw σ Nat := fun s =>
  let first := word s
  if wantsSecond m r first.1 then
    let second := word first.2
    (choice m r first.1 second.1, second.2)
  else
    (choice m r first.1 0, first.2)

/-- A second word that is not wanted does not matter. -/
theorem choice_of_not_wantsSecond {m r x : Nat} (h : wantsSecond m r x = false) (y z : Nat) :
    choice m r x y = choice m r x z := by
  simp [choice, h]

end Sampler

namespace Draw

variable {σ α : Type} [Source σ]

/-- A number below `r`, chosen with 64-bit words. -/
def below64 (r : Nat) : Draw σ Nat :=
  Sampler.draw UInt64.size r fun s => ((Source.next64 s).1.toNat, (Source.next64 s).2)

/-- A number below `r`, chosen with 32-bit words. -/
def below32 (r : Nat) : Draw σ Nat :=
  Sampler.draw UInt32.size r fun s => ((Source.next32 s).1.toNat, (Source.next32 s).2)

/-- A range was given upside down. -/
structure EmptyRange where
  /-- The lower end asked for. -/
  min : Int64
  /-- The upper end asked for, which lies below it. -/
  max : Int64
  deriving DecidableEq, Repr

/-- What is said of a range given upside down. -/
def EmptyRange.message (e : EmptyRange) : String :=
  s!"invalid range: max {e.max.toInt} is below min {e.min.toInt}"

/-- **An integer from the closed range `[min, max]`.** The range of all 64-bit integers takes one
word as it stands, in two's complement; a smaller one takes a choice among its values, from `min`
up; an empty one is an error and draws nothing. -/
def integer (min max : Int64) : Draw σ (Except EmptyRange Int64) := fun s =>
  if max < min then (.error ⟨min, max⟩, s)
  else
    let size := (max.toInt - min.toInt + 1).toNat
    if size = UInt64.size then
      let r := Source.next64 s
      (.ok r.1.toInt64, r.2)
    else
      let r := below64 size s
      (.ok (Int64.ofInt (min.toInt + r.1)), r.2)

/-- **One of the entries of a list**, each position alike; none of an empty list, without a draw. -/
def pick (entries : List α) : Draw σ (Option α) := fun s =>
  if entries.isEmpty then (none, s)
  else
    let r := below32 entries.length s
    (entries[r.1]?, r.2)

theorem integer_of_lt {min max : Int64} (h : max < min) (s : σ) :
    integer min max s = (.error ⟨min, max⟩, s) := by
  simp [integer, h]

theorem pick_nil (s : σ) : pick ([] : List α) s = (none, s) := rfl

end Draw

end Tabletop
