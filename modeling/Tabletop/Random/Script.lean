import Tabletop.Random.Source

/-!
# Tabletop.Random.Script — words written down in advance

A script hands out a fixed, nonempty list of words in turn and starts over at its end. It reads one
word for either width; a 32-bit word is the low half of the word read. Scripts pin down what a draw
does on given words, which no seed could.
-/

namespace Tabletop

/-- A nonempty list of words, handed out in turn over and over. -/
structure Script where
  /-- The words, in the order they are handed out. -/
  words : Array UInt64
  /-- How many words have been handed out. -/
  position : Nat
  /-- There is a word to hand out. -/
  nonempty : 0 < words.size

namespace Script

/-- The script of the given words from their beginning; there is none of no words. -/
def ofList? (words : List UInt64) : Option Script :=
  if h : 0 < words.toArray.size then some ⟨words.toArray, 0, h⟩ else none

/-- The word that comes next. -/
def head (s : Script) : UInt64 :=
  s.words[(⟨s.position % s.words.size, Nat.mod_lt _ s.nonempty⟩ : Fin s.words.size)]

/-- The script with one word handed out. -/
def advance (s : Script) : Script := { s with position := s.position + 1 }

instance : Source Script where
  next32 s := (s.head.toUInt32, s.advance)
  next64 s := (s.head, s.advance)

end Script

end Tabletop
