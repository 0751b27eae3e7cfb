import Tabletop.Text.Ranges

/-!
# Tabletop.Text.Blank — space around a text

Blank characters are those with the White_Space property of Unicode: the ASCII blanks and the line
controls, the next-line control, the no-break space and the spaces of typography. A zero-width space
and a byte order mark are not blank.
-/

namespace Tabletop.Text

/-- The characters of white space. -/
def blankRanges : Ranges :=
  [(0x9, 0xd), (0x20, 0x20), (0x85, 0x85), (0xa0, 0xa0), (0x1680, 0x1680), (0x2000, 0x200a),
   (0x2028, 0x2029), (0x202f, 0x202f), (0x205f, 0x205f), (0x3000, 0x3000)]

/-- A character of white space. -/
def isBlank (c : Char) : Bool := blankRanges.has c

/-- The characters from the first to the last that is not blank. -/
def trimChars (cs : List Char) : List Char :=
  ((cs.dropWhile isBlank).reverse.dropWhile isBlank).reverse

/-- A text without the white space at its ends. -/
def trim (text : String) : String := String.ofList (trimChars text.toList)

theorem toList_trim (text : String) : (trim text).toList = trimChars text.toList := by
  simp [trim]

end Tabletop.Text
