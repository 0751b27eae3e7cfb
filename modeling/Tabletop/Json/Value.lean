import Tabletop.Text.Numeral

/-!
# Tabletop.Json.Value — what a JSON text says

A value keeps what a reader of it may ask for. A number keeps the characters it was written with, so
that no precision is lost before somebody says what kind of number is wanted. A string is a text, or
`none` when one of its escapes names half of a surrogate pair: such a literal is well formed and
denotes no text. An object keeps its entries in the order written, repeated keys included.
-/

namespace Tabletop

/-- A JSON value. -/
inductive Json where
  | null
  | bool (value : Bool)
  | number (literal : List Char)
  | string (text : Option String)
  | array (items : List Json)
  | object (entries : List (Option String × Json))
  deriving Inhabited, Repr

namespace Json

/-- The text of a string. -/
def text? : Json → Option String
  | string text => text
  | _ => none

/-- The items of an array. -/
def items? : Json → Option (List Json)
  | array items => some items
  | _ => none

/-- **The integer of a number that is written as one**: digits with an optional minus sign,
neither a fraction nor an exponent. A minus zero is not an integer. -/
def integer? : Json → Option Int
  | number literal =>
    match literal with
    | '-' :: cs =>
      match Numeral.plain? cs with
      | some 0 => none
      | some n => some (-(n : Int))
      | none => none
    | cs => (Numeral.plain? cs).map fun n => (n : Int)
  | _ => none

/-- An integer as a number. -/
def ofInt (n : Int) : Json := number (Numeral.signed n)

/-- A number that is not negative. -/
def ofNat (n : Nat) : Json := number (Numeral.digits n)

/-- A text as a string. -/
def ofText (text : String) : Json := string (some text)

/-- An object with these entries. -/
def ofEntries (entries : List (String × Json)) : Json :=
  object (entries.map fun entry => (some entry.1, entry.2))

end Json

end Tabletop
