/-!
# Tabletop.CommandLine.Style — coloured words on a terminal

A styled word is put between the escape that switches its style on and the one that switches every
style off. On a terminal without colours it stands as it is.
-/

namespace Tabletop.CommandLine

/-- Where colours may be used. -/
structure Colors where
  /-- In what is shown. -/
  output : Bool
  /-- In the log. -/
  log : Bool
  deriving DecidableEq, Repr

/-- A way to make a word stand out. -/
inductive Style where
  | bold
  | dim
  | italic
  | red
  | green
  | yellow
  | blue
  | purple
  | boldRed
  | boldCyan
  deriving DecidableEq, Repr

/-- The parameters of the escape that switches a style on. -/
def Style.parameters : Style → String
  | bold => "1"
  | dim => "2"
  | italic => "3"
  | red => "31"
  | green => "32"
  | yellow => "33"
  | blue => "34"
  | purple => "35"
  | boldRed => "1;31"
  | boldCyan => "1;36"

/-- A word in a style, when there are colours. -/
def Style.paint (colors : Bool) (style : Style) (word : String) : String :=
  if colors then "\x1b[" ++ style.parameters ++ "m" ++ word ++ "\x1b[0m" else word

theorem Style.paint_false (style : Style) (word : String) : style.paint false word = word := rfl

end Tabletop.CommandLine
