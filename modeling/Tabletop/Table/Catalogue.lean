import Tabletop.Random.Sampler
import Tabletop.Table.Name
import Tabletop.Table.Words

/-!
# Tabletop.Table.Catalogue — the built-in tables

A built-in table is made of word lists. Rolling on it picks one word of each, from left to right,
and glues them together. How many results it has is told for each table by itself.
-/

namespace Tabletop

/-- The built-in tables. -/
inductive Builtin where
  | femaleName
  | maleName
  | epithet
  | extraction
  | orcName
  | magicEightBall
  | incapacitation
  | musicalInstrument
  | insanity
  | card
  | cardSuit
  | cardRank
  deriving DecidableEq, Repr

namespace Builtin

/-- All of them, in the order they are listed. -/
def all : List Builtin :=
  [femaleName, maleName, epithet, extraction, orcName, magicEightBall, incapacitation,
   musicalInstrument, insanity, card, cardSuit, cardRank]

/-- The name a table is listed under, in normal form. -/
def name : Builtin → String
  | femaleName => "female-name"
  | maleName => "male-name"
  | epithet => "epithet"
  | extraction => "extraction"
  | orcName => "orc-name"
  | magicEightBall => "magic-eight-ball"
  | incapacitation => "incapacitation"
  | musicalInstrument => "musical-instrument"
  | insanity => "insanity"
  | card => "card"
  | cardSuit => "card-suit"
  | cardRank => "card-rank"

/-- What a table is about, in one line. -/
def description : Builtin → String
  | femaleName => "Female name from prefix and suffix syllables"
  | maleName => "Male name from prefix and suffix syllables"
  | epithet => "Epithet or byname"
  | extraction => "Place of origin"
  | orcName => "Orc name with tribe"
  | magicEightBall => "Magic eight ball oracle answer"
  | incapacitation => "What happens at zero hit points"
  | musicalInstrument => "Folk musical instrument"
  | insanity => "Madness, phobia, or delusion"
  | card => "Playing card, rank and suit"
  | cardSuit => "Playing card suit"
  | cardRank => "Playing card rank"

/-- Other names of some tables, in normal form. -/
def aliases : List (String × Builtin) :=
  [("eightball", magicEightBall), ("8-ball", magicEightBall), ("8ball", magicEightBall),
   ("place", extraction), ("origin", extraction), ("instrument", musicalInstrument)]

/-- **The table that a name means**, however it is spelled. -/
def named? (name : String) : Option Builtin :=
  let normal := Table.normalName name
  match aliases.lookup normal with
  | some table => some table
  | none => all.find? fun table => table.name == normal

/-- How many equally likely results a table has; a word that is listed twice counts twice. -/
def combinations : Builtin → Nat
  | femaleName => Words.femaleOpenings.length * Words.femaleClosings.length
  | maleName => Words.maleOpenings.length * Words.maleClosings.length
  | epithet => Words.bynames.length
  | extraction => Words.placeQualities.length * Words.landforms.length
  | orcName => Words.orcOpenings.length * Words.orcClosings.length * Words.orcTribes.length
  | magicEightBall => Words.eightBallAnswers.length
  | incapacitation => Words.incapacitations.length
  | musicalInstrument => Words.instruments.length
  | insanity => Words.insanities.length
  | card => Words.cardRanks.length * Words.cardSuits.length
  | cardSuit => Words.cardSuits.length
  | cardRank => Words.cardRanks.length

variable {σ : Type} [Source σ]

/-- One word of a list; the empty word of an empty list. -/
def oneOf (words : List String) : Draw σ String := fun s =>
  let r := Draw.pick words s
  (r.1.getD "", r.2)

/-- **Roll on a table.** -/
def draw : Builtin → Draw σ String
  | femaleName => do
    let opening ← oneOf Words.femaleOpenings
    let closing ← oneOf Words.femaleClosings
    return opening ++ closing
  | maleName => do
    let opening ← oneOf Words.maleOpenings
    let closing ← oneOf Words.maleClosings
    return opening ++ closing
  | epithet => oneOf Words.bynames
  | extraction => do
    let quality ← oneOf Words.placeQualities
    let landform ← oneOf Words.landforms
    return quality ++ landform
  | orcName => do
    let opening ← oneOf Words.orcOpenings
    let closing ← oneOf Words.orcClosings
    let tribe ← oneOf Words.orcTribes
    return opening ++ closing ++ tribe
  | magicEightBall => oneOf Words.eightBallAnswers
  | incapacitation => oneOf Words.incapacitations
  | musicalInstrument => oneOf Words.instruments
  | insanity => oneOf Words.insanities
  | card => do
    -- Rank and suit are drawn apart; there is no deck that would run out.
    let rank ← oneOf Words.cardRanks
    let suit ← oneOf Words.cardSuits
    return rank ++ suit
  | cardSuit => oneOf Words.cardSuits
  | cardRank => oneOf Words.cardRanks

end Builtin

end Tabletop
