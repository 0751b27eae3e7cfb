import Tabletop.Table.Custom
import Tabletop.Table.Error

/-!
# Tabletop.Table.File — reading a table file

What a path leads to is given; reading it turns bytes into text, text into tables, and each way of
failing into its error.
-/

namespace Tabletop

/-- What a path leads to. -/
inductive FileContents where
  /-- Nothing that can be read. -/
  | unavailable (fault : FileFault)
  /-- A file with these bytes. -/
  | bytes (bytes : ByteArray)

/-- The text of a file. -/
def FileContents.text : FileContents → Except FileFault String
  | unavailable fault => .error fault
  | bytes b =>
    match String.fromUTF8? b with
    | some text => .ok text
    | none => .error .notText

/-- The files as they are known after a look at one path. -/
def FileContents.only (path : String) (contents : FileContents) : String → FileContents :=
  fun other => if other = path then contents else unavailable .missing

namespace CustomTables

/-- The tables of a file with their names as written. -/
def readRaw (path : String) (contents : FileContents) : Except TableError CustomTables :=
  match contents.text with
  | .error fault => .error (.unreadable path fault)
  | .ok text =>
    match (Serial.parse? text : Option CustomTables) with
    | .some raw => .ok raw
    | .none => .error .malformed

/-- **The tables of a file**, under names in normal form. -/
def read (path : String) (contents : FileContents) : Except TableError CustomTables :=
  (readRaw path contents).map normalized

end CustomTables

end Tabletop
