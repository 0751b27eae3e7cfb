/-!
# Tabletop.Table.Error — why a table could not be rolled on
-/

namespace Tabletop

/-- Why a file could not be read as text. -/
inductive FileFault where
  /-- There is no such file. -/
  | missing
  /-- The file may not be read. -/
  | denied
  /-- The path goes on from a file as if that were a directory. -/
  | notDirectory
  /-- The path leads to a directory. -/
  | directory
  /-- The path or a part of it is too long. -/
  | nameTooLong
  /-- The bytes are not UTF-8. -/
  | notText
  deriving DecidableEq, Repr

/-- The fault in words. -/
def FileFault.message : FileFault → String
  | missing => "No such file or directory (os error 2)"
  | denied => "Permission denied (os error 13)"
  | notDirectory => "Not a directory (os error 20)"
  | directory => "Is a directory (os error 21)"
  | nameTooLong => "File name too long (os error 36)"
  | notText => "stream did not contain valid UTF-8"

/-- What went wrong with tables. -/
inductive TableError where
  /-- No table has this name. -/
  | unknown (name : String)
  /-- The table of this name, in normal form, has no entries. -/
  | empty (name : String)
  /-- The table file could not be read. -/
  | unreadable (path : String) (fault : FileFault)
  /-- The table file is no JSON text of the right shape. -/
  | malformed
  deriving DecidableEq, Repr

/-- What went wrong, in words. -/
def TableError.message : TableError → String
  | unknown name => s!"unknown table: {name}"
  | empty name => s!"table '{name}' has no entries"
  | unreadable path fault => s!"failed to read {path}: {fault.message}"
  | malformed => "invalid table file"

end Tabletop
