import Tabletop.Random.Source

/-!
# Tabletop.Random.ChaCha — the seeded stream

A seeded stream is the word sequence of the ChaCha function with twelve rounds: sixteen words for
each value of a 64-bit block counter, in block order, under a key of eight words and stream number
zero. A 64-bit word is two consecutive words of the sequence, the low half first; no word is ever
skipped, so such a pair may lie across two blocks.

The key comes from a 64-bit seed: a congruential state is stepped eight times, and every step gives
one key word, a rotated mixture of the state's high bits.
-/

namespace Tabletop.ChaCha

/-- The sixteen words that the rounds work on. -/
abbrev Block : Type := Vector UInt32 16

/-- The eight words of a key. -/
abbrev Key : Type := Vector UInt32 8

/-- Rotation of a word to the left, for amounts below 32. -/
def rotateLeft (x amount : UInt32) : UInt32 := (x <<< amount) ||| (x >>> (32 - amount))

/-- Add one word into another, mix the sum into a third, and rotate that. -/
def mix (b : Block) (into addend target : Fin 16) (amount : UInt32) : Block :=
  let sum := b[into] + b[addend]
  let b := b.set into sum
  b.set target (rotateLeft (b[target] ^^^ sum) amount)

/-- The quarter round on four of the sixteen words. -/
def quarterRound (b : Block) (w x y z : Fin 16) : Block :=
  mix (mix (mix (mix b w x z 16) y z x 12) w x z 8) y z x 7

/-- Two rounds: the columns of the four by four square, then its diagonals. -/
def doubleRound (b : Block) : Block :=
  let b := quarterRound b 0 4 8 12
  let b := quarterRound b 1 5 9 13
  let b := quarterRound b 2 6 10 14
  let b := quarterRound b 3 7 11 15
  let b := quarterRound b 0 5 10 15
  let b := quarterRound b 1 6 11 12
  let b := quarterRound b 2 7 8 13
  quarterRound b 3 4 9 14

/-- The words before the rounds: four constants, the key, the block counter with its low half first,
and two zero words of stream number. -/
def start (key : Key) (counter : Nat) : Block :=
  #v[0x61707865, 0x3320646e, 0x79622d32, 0x6b206574,
     key[0], key[1], key[2], key[3], key[4], key[5], key[6], key[7],
     UInt32.ofNat counter, UInt32.ofNat (counter / UInt32.size), 0, 0]

/-- One block of output: six double rounds, added word by word to what they started from. -/
def block (key : Key) (counter : Nat) : Block :=
  let first := start key counter
  let last := Nat.repeat doubleRound 6 first
  Vector.zipWith (· + ·) last first

/-! ## Keys from seeds -/

/-- One step of the congruential state behind the key. -/
def stepSeed (state : UInt64) : UInt64 := state * 6364136223846793005 + 11634580027462260723

/-- The word that a state gives: its high bits folded onto each other, rotated right by its top five
bits. -/
def seedWord (state : UInt64) : UInt32 :=
  let folded := (((state >>> 18) ^^^ state) >>> 27).toUInt32
  let turn := (state >>> 59).toUInt32
  (folded >>> turn) ||| (folded <<< ((32 - turn) % 32))

/-- The key of a seed: the words of the first eight states after it. -/
def Key.ofSeed (seed : UInt64) : Key :=
  Vector.ofFn fun i => seedWord (Nat.repeat stepSeed (i.val + 1) seed)

/-! ## The stream -/

/-- A stream and how far it has been read. The block that holds the next word is kept at hand. -/
structure Stream where
  /-- The key of the stream. -/
  key : Key
  /-- How many words have been read. -/
  position : Nat
  /-- The block that the next word is in. -/
  current : Block
  /-- The block at hand is the right one. -/
  current_eq : current = block key (position / 16)

namespace Stream

/-- The stream of a key from its beginning. -/
def ofKey (key : Key) : Stream := ⟨key, 0, block key 0, rfl⟩

/-- The stream of a seed from its beginning. -/
def ofSeed (seed : UInt64) : Stream := ofKey (Key.ofSeed seed)

/-- The word that comes next. -/
def head (s : Stream) : UInt32 :=
  s.current[Fin.ofNat 16 s.position]

/-- The stream with one more word read. -/
def advance (s : Stream) : Stream :=
  if h : (s.position + 1) / 16 = s.position / 16 then
    { s with position := s.position + 1, current_eq := by rw [h]; exact s.current_eq }
  else
    ⟨s.key, s.position + 1, block s.key ((s.position + 1) / 16), rfl⟩

instance : Source Stream where
  next32 s := (s.head, s.advance)
  next64 s := (s.head.toUInt64 ||| (s.advance.head.toUInt64 <<< 32), s.advance.advance)

@[simp] theorem key_advance (s : Stream) : s.advance.key = s.key := by
  unfold advance; split <;> rfl

@[simp] theorem position_advance (s : Stream) : s.advance.position = s.position + 1 := by
  unfold advance; split <;> rfl

/-- **A stream is its key and its position.** -/
theorem ext_iff (s t : Stream) : s = t ↔ s.key = t.key ∧ s.position = t.position := by
  constructor
  · rintro rfl; exact ⟨rfl, rfl⟩
  · rintro ⟨hk, hp⟩
    obtain ⟨k, p, c, hc⟩ := s
    obtain ⟨k', p', c', hc'⟩ := t
    simp only at hk hp
    subst hk hp hc hc'
    rfl

/-- **The next word is read off the key and the position.** -/
theorem head_eq (s : Stream) :
    s.head = (block s.key (s.position / 16))[Fin.ofNat 16 s.position] := by
  simp only [head, s.current_eq]

end Stream

end Tabletop.ChaCha
