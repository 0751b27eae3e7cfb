import Tabletop.Text.Columns.Single
import Tabletop.Text.Columns.Picture
import Tabletop.Text.Columns.Ligature

/-!
# Tabletop.Text.Columns.Following — what stands after a character

How wide a character is can depend on what stands after it: a hand before a skin tone is one picture
with it, and a lam before an alef is drawn as one letter with it. A text is therefore read from its
end, and at each character it is known what *follows*, as far as that matters. A step tells how many
columns the character adds, which can be negative when it takes back what its follower had counted
for, and what the character before it has following.

Selectors stand between a character and what follows. One asks for a picture, one for text, one
for the wide form of a curly quote. A selector is forgotten at the first character that does not
heed it, and hides what follows, unless that is a letter that joins, or for the picture selector a
joiner.
-/

namespace Tabletop.Text

/-- What follows a character, selectors apart. -/
inductive Following where
  /-- Nothing that matters. -/
  | plain
  /-- A line feed. -/
  | lineFeed
  /-- A skin tone. -/
  | tone
  /-- One regional indicator. -/
  | indicator
  /-- At least two regional indicators. -/
  | indicators
  /-- A picture. -/
  | picture
  /-- A joiner and a picture. -/
  | joined
  /-- A keycap, a joiner and a picture. -/
  | joinedKeycap
  /-- One regional indicator, a joiner and a picture. -/
  | joinedIndicator
  /-- Pairs of regional indicators, a joiner and a picture. -/
  | joinedPairs
  /-- Pairs of regional indicators and one more in front, a joiner and a picture. -/
  | joinedPairsAndOne
  /-- So many tag letters, the tag that ends them, a joiner and a picture. -/
  | joinedLetters (count : Nat)
  /-- So many tag digits, perhaps tag letters, the tag that ends them, a joiner and a picture. -/
  | joinedDigits (count : Nat)
  /-- An Arabic letter of the shape of alef. -/
  | alef
  /-- The Hebrew letter lamed, perhaps after a joiner. -/
  | lamed (afterJoiner : Bool)
  /-- The Buginese letter ya, perhaps after a joiner. -/
  | ya (afterJoiner : Bool)
  /-- The Buginese vowel sign i, a joiner and the letter ya. -/
  | vowelYa
  /-- A Tifinagh consonant, perhaps after a joiner. -/
  | consonant (afterJoiner : Bool)
  /-- The Tifinagh consonant joiner and a consonant. -/
  | linkedConsonant
  /-- A Lisu tone letter that may stand second of two. -/
  | secondTone
  /-- The Old Turkic letter i, perhaps after a joiner. -/
  | orkhonI (afterJoiner : Bool)
  /-- A Khmer letter that has a form under the line. -/
  | subscript
  /-- The Kirat Rai vowel sign e. -/
  | vowelE
  /-- The Kirat Rai vowel sign ai. -/
  | vowelAi
  deriving DecidableEq, Repr

namespace Following

/-- Letters that join with the one before them even when a selector stands between. -/
def isLetter : Following → Bool
  | alef | lamed _ | ya _ | vowelYa | consonant _ | linkedConsonant | secondTone | orkhonI _
  | subscript => true
  | _ => false

/-- A joiner is still seen through a picture selector. -/
def isJoined : Following → Bool
  | joined | joinedKeycap => true
  | _ => false

/-- Passable characters do not keep a letter from joining; alef has passable characters of its
own. -/
def isPassable : Following → Bool
  | alef => false
  | following => following.isLetter

/-- What follows once a joiner stands before it. -/
def withJoiner : Following → Following
  | lamed _ => lamed true
  | ya _ => ya true
  | consonant _ => consonant true
  | orkhonI _ => orkhonI true
  | following => following

/-- What the character before has following, when nothing that matters follows this one. -/
def start (c : Char) : Following :=
  let code := c.toNat
  if code = 0x5dc then lamed false
  else if alefRanges.covers code then alef
  else if subscriptRanges.covers code then subscript
  else if code = 0x1a10 then ya false
  else if tifinaghRanges.covers code then consonant false
  else if secondToneRanges.covers code then secondTone
  else if code = 0x10c03 then orkhonI false
  else if code = 0x16d67 then vowelE
  else if code = 0x16d68 then vowelAi
  else if indicatorRanges.covers code then indicator
  else if toneRanges.covers code then tone
  else if pictureRanges.covers code then picture
  else plain

/-- **Characters that are drawn together with what follows**: the columns they add, and what follows
from then on. -/
def absorb? (c : Char) : Following → Option (Int × Following)
  | alef =>
    if lamRanges.has c then some (0, plain)
    else if transparentRanges.has c then some (0, alef)
    else none
  | lamed true => if c = '\u05d0' then some (0, plain) else none
  | ya true => if c = '\u1a17' then some (0, vowelYa) else none
  | vowelYa => if c = '\u1a15' then some (0, plain) else none
  | consonant afterJoiner =>
    if c = '\u2d7f' then some (1, linkedConsonant)
    else if afterJoiner && tifinaghRanges.has c then some (0, plain)
    else none
  | linkedConsonant => if tifinaghRanges.has c then some (-1, plain) else none
  | secondTone => if firstToneRanges.has c then some (0, plain) else none
  | orkhonI true => if c.toNat = 0x10c32 then some (0, plain) else none
  | subscript => if c = '\u17d2' then some (-1, plain) else none
  | vowelE =>
    if c.toNat = 0x16d63 || c.toNat = 0x16d69 then some (0, plain)
    else if c.toNat = 0x16d67 then some (0, vowelAi)
    else if c.toNat = 0x16d68 then some (1, vowelE)
    else none
  | vowelAi => if c.toNat = 0x16d63 then some (0, plain) else none
  | tone =>
    if toneableRanges.has c then some (0, picture)
    else if c = joiner then some (0, joined)
    else none
  | indicator => if indicatorRanges.has c then some (1, indicators) else none
  | indicators =>
    if indicatorRanges.has c then some (1, indicators)
    else if c = joiner then some (0, joined)
    else none
  | picture => if c = joiner then some (0, joined) else none
  | joined =>
    if c = keycap then some (0, joinedKeycap)
    else if indicatorRanges.has c then some (1, joinedIndicator)
    else if toneRanges.has c then some (0, tone)
    else if c.toNat = tagEnd then some (0, joinedLetters 0)
    else if pictureRanges.has c then some (0, picture)
    else none
  | joinedIndicator => if indicatorRanges.has c then some (-1, joinedPairs) else none
  | joinedPairs =>
    if indicatorRanges.has c then some (3, joinedPairsAndOne)
    else if c = joiner then some (0, joined)
    else none
  | joinedPairsAndOne =>
    if indicatorRanges.has c then some (-1, joinedPairs)
    else if c = joiner then some (0, joined)
    else none
  | joinedLetters count =>
    if tagLetterRanges.has c && count < 6 then some (0, joinedLetters (count + 1))
    else if tagDigitRanges.has c && count < 5 then some (0, joinedDigits 1)
    else if c.toNat = blackFlag && 3 ≤ count then some (0, picture)
    else none
  | joinedDigits count =>
    if tagDigitRanges.has c && count < 3 then some (0, joinedDigits (count + 1))
    else if c.toNat = blackFlag && count = 3 then some (0, picture)
    else none
  | _ => none

end Following

/-- What asks for one form or another of the character before it. -/
inductive Selector where
  /-- A picture. -/
  | picture
  /-- Text. -/
  | text
  /-- The wide form of a curly quote. -/
  | quote
  deriving DecidableEq, Repr

/-- The selector that a character is. -/
def Selector.ofChar? (c : Char) : Option Selector :=
  if c = '\ufe0f' then some .picture
  else if c = '\ufe0e' then some .text
  else if c = '\ufe01' then some .quote
  else none

/-- What follows a character, selectors included. -/
structure Context where
  /-- What follows after the selectors. -/
  following : Following := .plain
  /-- A picture is asked for. -/
  picture : Bool := false
  /-- Text is asked for. -/
  text : Bool := false
  /-- The wide form of a quote is asked for. -/
  quote : Bool := false
  deriving DecidableEq, Repr

namespace Context

/-- Nothing that matters follows. -/
def plain : Context := {}

/-- No selector follows. -/
def isBare (context : Context) : Bool := !context.picture && !context.text && !context.quote

/-- A selector is put before what follows. -/
def select (context : Context) (selector : Selector) : Context :=
  let seen :=
    context.following.isLetter || (selector == .picture && context.following.isJoined)
  let kept := if seen then context else plain
  match selector with
  | .picture => { kept with picture := true }
  | .text => { kept with text := true }
  | .quote => { kept with quote := true }

/-- The picture selector is forgotten. -/
def withoutPicture (context : Context) : Context :=
  if !context.picture then context
  else if context.following.isLetter then { context with picture := false }
  else plain

/-- The text selector is forgotten, or the quote selector if there is no text selector. -/
def withoutText (context : Context) : Context :=
  if context.text then { context with text := false } else { context with quote := false }

/-- What the character before has following, when nothing that matters follows this one. -/
def start (c : Char) : Context :=
  match Selector.ofChar? c with
  | some selector => plain.select selector
  | none => { following := Following.start c }

end Context

/-- The characters up to the blank that does not break, which are one column wide unless they are
keys or begin the end of a line. -/
def stepLow (c : Char) (context : Context) : Int × Context :=
  if c = '\n' then (1, { following := .lineFeed })
  else if c = '\r' && context == { following := .lineFeed } then (0, .plain)
  else (1, .plain)

/-- A character that stands by itself. -/
def stepAlone (c : Char) : Int × Context := (charColumns c, .start c)

/-- A character before a context that asks for no picture. -/
def stepBefore (c : Char) (context : Context) : Int × Context :=
  match Selector.ofChar? c with
  | some selector => (0, context.select selector)
  | none =>
    if context.text && narrowableRanges.has c then (1, .plain)
    else if !context.text && context.quote && curlyQuotes.contains c then (2, .plain)
    else
      let context := context.withoutText
      if context.following.isPassable && c = joiner then
        (0, { context with following := context.following.withJoiner })
      else if context.following.isPassable && passableRanges.has c then (0, context)
      else if context.isBare then
        match context.following.absorb? c with
        | some (columns, following) => (columns, { following := following })
        | none => stepAlone c
      else stepAlone c

/-- **A character before a context**: the columns it adds, and the context it makes. -/
def step (c : Char) (context : Context) : Int × Context :=
  if context.picture && picturableRanges.has c then
    (if context.following.isJoined then 0 else 2, { following := .picture })
  else
    let context := context.withoutPicture
    if c.toNat ≤ 0xa0 then stepLow c context
    else stepBefore c context

end Tabletop.Text
