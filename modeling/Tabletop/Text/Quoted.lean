import Tabletop.Text.Visible

/-!
# Tabletop.Text.Quoted — a text between quotes

Quoted, a text can be told from what stands around it: it is put between double quotes, a quote
and a backslash inside get a backslash in front, the tab, the two line controls and the null
character get their letters, and every other character that cannot be shown as itself is named by
its code point in hexadecimal.
-/

namespace Tabletop.Text

/-- A character named by its code point. -/
def codePointEscape (c : Char) : List Char :=
  ['\\', 'u', '\x7b'] ++ Nat.toDigits 16 c.toNat ++ ['\x7d']

/-- A character as it stands between quotes. -/
def quoteChar (c : Char) : List Char :=
  if c = '\x00' then ['\\', '0']
  else if c = '\t' then ['\\', 't']
  else if c = '\r' then ['\\', 'r']
  else if c = '\n' then ['\\', 'n']
  else if c = '\\' || c = '"' then ['\\', c]
  else if extendingRanges.has c then codePointEscape c
  else if printableRanges.has c then [c]
  else codePointEscape c

/-- A text between quotes. -/
def quoted (text : String) : String :=
  String.ofList ('"' :: text.toList.flatMap quoteChar ++ ['"'])

end Tabletop.Text
