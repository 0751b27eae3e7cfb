import Tabletop.Text.Blank
import Tabletop.Text.Letters

/-!
# Tabletop.Text.Lowercase — a text in lower case

Every character lowers by itself, with two exceptions: capital I with a dot becomes two
characters, an i and a combining dot; and a capital sigma becomes a final sigma at the end of a
word. A sigma ends a word when a cased character comes before it and none comes after it, looking
past case-ignorable characters on both sides.
-/

namespace Tabletop.Text

/-- The code point that a run lowers a code point to, if it is in the run. -/
def LoweringRun.lower? (run : LoweringRun) (code : Nat) : Option Nat :=
  if run.first ≤ code ∧ code ≤ run.last ∧ (code - run.first) % run.step = 0 then
    some (run.image + (code - run.first))
  else none

/-- The code point that a character beyond ASCII lowers to. -/
def lowerCode (code : Nat) : Nat :=
  (loweringRuns.findSome? fun run => run.lower? code).getD code

/-- Capital I with a dot above. -/
def dottedI : Char := '\u0130'

/-- **What a character lowers to by itself.** -/
def lowerChar (c : Char) : List Char :=
  if c.toNat < 0x80 then [c.toLower]
  else if c = dottedI then ['i', '\u0307']
  else [Char.ofNat (lowerCode c.toNat)]

/-- A character that has a case. -/
def isCased (c : Char) : Bool := casedRanges.has c

/-- A character that casing looks past. -/
def isCaseIgnorable (c : Char) : Bool := caseIgnorableRanges.has c

/-- The first character that is not looked past is cased. -/
def meetsCased (cs : List Char) : Bool :=
  match cs.dropWhile isCaseIgnorable with
  | [] => false
  | c :: _ => isCased c

/-- A sigma stands at the end of a word; `before` is what precedes it, read backwards. -/
def endsWord (before after : List Char) : Bool := meetsCased before && !meetsCased after

/-- Lower the characters of a text; `before` is what precedes them, read backwards. -/
def lowerChars (before : List Char) : List Char → List Char
  | [] => []
  | c :: rest =>
    let here :=
      if c = 'Σ' then (if endsWord before rest then ['ς'] else ['σ']) else lowerChar c
    here ++ lowerChars (c :: before) rest

/-- **A text in lower case.** -/
def lowercase (text : String) : String := String.ofList (lowerChars [] text.toList)

theorem toList_lowercase (text : String) :
    (lowercase text).toList = lowerChars [] text.toList := by
  simp [lowercase]

end Tabletop.Text
