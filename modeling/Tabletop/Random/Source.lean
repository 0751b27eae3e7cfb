/-!
# Tabletop.Random.Source — where the randomness comes from

A *source* is an immutable value that hands out words. Drawing from it returns the word together
with the source that is left, so nothing about a draw is hidden: the same source always gives the
same words, and two programs that leave equal sources have read equally far.

A `Draw σ α` reads some words from a source of type `σ` and makes an `α` of them. Every die, chance,
pool and table of this library is a `Draw` over an arbitrary source; what is proved of it holds for
seeded streams, for scripted words, and for anything else that can hand out words.
-/

namespace Tabletop

/-- A type whose values hand out random words of two widths. -/
class Source (σ : Type) where
  /-- The next 32-bit word, and the source that is left. -/
  next32 : σ → UInt32 × σ
  /-- The next 64-bit word, and the source that is left. -/
  next64 : σ → UInt64 × σ

/-- Something drawn from a source: it reads words and returns an `α` with the source that is
left. -/
abbrev Draw (σ α : Type) : Type := StateM σ α

namespace Draw

variable {σ α : Type}

/-- Draw a 32-bit word. -/
def word32 [Source σ] : Draw σ UInt32 := fun s => Source.next32 s

/-- Draw a 64-bit word. -/
def word64 [Source σ] : Draw σ UInt64 := fun s => Source.next64 s

/-- Repeat a draw `n` times, putting what it yields in front of `done` (latest first). -/
def pile (d : Draw σ α) : Nat → List α → σ → List α × σ
  | 0, done, s => (done, s)
  | n + 1, done, s =>
    let r := d s
    pile d n (r.1 :: done) r.2

/-- Repeat a draw `n` times and keep every result, in the order drawn. -/
def times (n : Nat) (d : Draw σ α) : Draw σ (List α) := fun s =>
  let r := pile d n [] s
  (r.1.reverse, r.2)

/-! ## Repetition, one draw at a time -/

theorem pile_append (d : Draw σ α) (n : Nat) (done more : List α) (s : σ) :
    pile d n (done ++ more) s = ((pile d n done s).1 ++ more, (pile d n done s).2) := by
  induction n generalizing done s with
  | zero => rfl
  | succ n ih => simpa [pile] using ih ((d s).1 :: done) (d s).2

theorem times_zero (d : Draw σ α) (s : σ) : times 0 d s = ([], s) := rfl

/-- **Repetition unrolls from the front.** The first result is the first drawn, and the rest is
drawn from the source that it leaves. -/
theorem times_succ (n : Nat) (d : Draw σ α) (s : σ) :
    times (n + 1) d s =
      ((d s).1 :: (times n d (d s).2).1, (times n d (d s).2).2) := by
  have h := pile_append d n [] [(d s).1] (d s).2
  simp only [List.nil_append] at h
  simp [times, pile, h]

theorem length_times (n : Nat) (d : Draw σ α) (s : σ) : (times n d s).1.length = n := by
  induction n generalizing s with
  | zero => rfl
  | succ n ih => simp [times_succ, ih]

/-- **Repetition splits anywhere.** -/
theorem times_add (m n : Nat) (d : Draw σ α) (s : σ) :
    times (m + n) d s =
      ((times m d s).1 ++ (times n d (times m d s).2).1, (times n d (times m d s).2).2) := by
  induction m generalizing s with
  | zero => rw [Nat.zero_add]; rfl
  | succ m ih => simp [Nat.succ_add, times_succ, ih]

end Draw

end Tabletop
