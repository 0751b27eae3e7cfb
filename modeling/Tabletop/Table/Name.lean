import Tabletop.Text.Lowercase

/-!
# Tabletop.Table.Name — when two names mean the same table

Names are compared by their normal form: without white space at the ends, in lower case, and with a
dash for every space and underscore inside.
-/

namespace Tabletop.Table

/-- A dash for a space or an underscore. -/
def dashed (c : Char) : Char := if c = ' ' || c = '_' then '-' else c

/-- The characters of a name in normal form. -/
def normalChars (cs : List Char) : List Char :=
  (Text.lowerChars [] (Text.trimChars cs)).map dashed

/-- **The normal form of a name.** -/
def normalName (name : String) : String := String.ofList (normalChars name.toList)

theorem toList_normalName (name : String) :
    (normalName name).toList = normalChars name.toList := by
  simp [normalName]

example : normalName " Magic_Eight Ball\n" = "magic-eight-ball" := by decide +kernel

end Tabletop.Table
