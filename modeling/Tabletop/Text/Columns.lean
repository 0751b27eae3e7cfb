import Tabletop.Text.Columns.Following

/-!
# Tabletop.Text.Columns — how wide a text is on a terminal

A text is as wide as its characters, except where characters are drawn together: pictures of
several parts, flags, and letters that join. It is read from its end, character by character, each
before the context that the characters after it make.
-/

namespace Tabletop.Text

/-- The columns of a list of characters, and the context that it makes for a character before it. -/
def measure (cs : List Char) : Int × Context :=
  cs.foldr
    (fun c after =>
      let here := step c after.2
      (here.1 + after.1, here.2))
    (0, .plain)

/-- **The columns of a text.** -/
def columns (text : String) : Nat := (measure text.toList).1.toNat

/-! ## Readings -/

/-- A word has a column for each letter, and a mark none. -/
example : (columns "dagger", columns "e\u0301e") = (6, 2) := by decide +kernel

/-- A hand with a skin tone is as wide as a hand, and a watch is narrow where text is asked for. -/
example : (columns "👍🏽", columns "⌚", columns "⌚︎") = (2, 2, 1) := by decide +kernel

/-- Lam and alef share a column, and so do two Tifinagh consonants with a joiner between them. -/
example : (columns "لا", columns "ⵏ⵿ⴾ") = (1, 1) := by decide +kernel

end Tabletop.Text
