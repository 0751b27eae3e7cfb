import Tabletop.Json.Value

/-!
# Tabletop.Json.Writer — writing JSON texts

A value is written in two forms. The *compact* form has no blank at all; the *indented* form puts
every item and entry on a line of its own, two more blanks in than its container, and leaves empty
containers closed.

In a string, the quote, the backslash and the control characters below the space are escaped, five
of them with a letter and the others with four hexadecimal digits; every other character stands
for itself.
-/

namespace Tabletop.Json

/-- Two hexadecimal digits of a number below 256. -/
def twoHexDigits (n : Nat) : List Char := [Nat.digitChar (n / 16), Nat.digitChar (n % 16)]

/-- A character inside a string. -/
def escapeChar (c : Char) : List Char :=
  if c = '"' then ['\\', '"']
  else if c = '\\' then ['\\', '\\']
  else if c = '\x08' then ['\\', 'b']
  else if c = '\t' then ['\\', 't']
  else if c = '\n' then ['\\', 'n']
  else if c = '\x0c' then ['\\', 'f']
  else if c = '\r' then ['\\', 'r']
  else if c.toNat < 0x20 then ['\\', 'u', '0', '0'] ++ twoHexDigits c.toNat
  else [c]

/-- A string between its quotes. One without a text is written as half of a surrogate pair, which
reads as one. -/
def writeString : Option String → List Char
  | some text => '"' :: text.toList.flatMap escapeChar ++ ['"']
  | none => "\"\\ud800\"".toList

/-- The word of a truth value. -/
def writeBool (value : Bool) : List Char := if value then "true".toList else "false".toList

/-! ## The compact form -/

mutual

/-- A value without blanks. -/
def compact : Json → List Char
  | null => "null".toList
  | bool value => writeBool value
  | number literal => literal
  | string text => writeString text
  | array items => '[' :: compactItems items ++ [']']
  | object entries => '\x7b' :: compactEntries entries ++ ['\x7d']

/-- Items with commas between them. -/
def compactItems : List Json → List Char
  | [] => []
  | [item] => compact item
  | item :: more :: rest => compact item ++ ',' :: compactItems (more :: rest)

/-- Entries with commas between them. -/
def compactEntries : List (Option String × Json) → List Char
  | [] => []
  | [(key, value)] => writeString key ++ ':' :: compact value
  | (key, value) :: more :: rest =>
    writeString key ++ ':' :: compact value ++ ',' :: compactEntries (more :: rest)

end

/-- **The compact text of a value.** -/
def render (value : Json) : String := String.ofList (compact value)

/-! ## The indented form -/

/-- A new line with so many blanks. -/
def newLine (blanks : Nat) : List Char := '\n' :: List.replicate blanks ' '

mutual

/-- A value whose container stands so many blanks in. -/
def indented (blanks : Nat) : Json → List Char
  | null => "null".toList
  | bool value => writeBool value
  | number literal => literal
  | string text => writeString text
  | array [] => ['[', ']']
  | array (item :: rest) =>
    '[' :: indentedItems (blanks + 2) (item :: rest) ++ newLine blanks ++ [']']
  | object [] => ['\x7b', '\x7d']
  | object (entry :: rest) =>
    '\x7b' :: indentedEntries (blanks + 2) (entry :: rest) ++ newLine blanks ++ ['\x7d']

/-- Items, each on a line of its own. -/
def indentedItems (blanks : Nat) : List Json → List Char
  | [] => []
  | [item] => newLine blanks ++ indented blanks item
  | item :: more :: rest =>
    newLine blanks ++ indented blanks item ++ ',' :: indentedItems blanks (more :: rest)

/-- Entries, each on a line of its own. -/
def indentedEntries (blanks : Nat) : List (Option String × Json) → List Char
  | [] => []
  | [(key, value)] => newLine blanks ++ writeString key ++ ':' :: ' ' :: indented blanks value
  | (key, value) :: more :: rest =>
    newLine blanks ++ writeString key ++ ':' :: ' ' :: indented blanks value ++
      ',' :: indentedEntries blanks (more :: rest)

end

/-- **The indented text of a value.** -/
def renderIndented (value : Json) : String := String.ofList (indented 0 value)

end Tabletop.Json
