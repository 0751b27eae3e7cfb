import Tabletop.Table.File

/-!
# Tabletop.Table.Disk — where a path leads

Where a path leads is decided by the directories on its way. A disk is a tree of them, held in
memory, with a current directory from which a path is walked unless it starts with a slash. A path
is walked part by part: an empty part and a dot stay, two dots go up, and any other part goes down
to the entry of its name.
-/

namespace Tabletop

/-- What stands at one place of a disk. -/
inductive Place where
  /-- A file with these bytes. -/
  | file (bytes : ByteArray)
  /-- A directory with entries by name. -/
  | directory (entries : List (String × Place))

namespace Place

/-- The bytes of the longest name of an entry. -/
def longestName : Nat := 255

/-- **Walk on from a place** along the parts of a path. The directories that the place lies in are
`above`, the nearest first; the topmost one lies in itself. -/
def walk : Place → List Place → List String → Except FileFault Place
  | place, _, [] => .ok place
  | .file _, _, _ :: _ => .error .notDirectory
  | .directory entries, above, part :: rest =>
    if part = "" || part = "." then walk (.directory entries) above rest
    else if part = ".." then
      match above with
      | [] => walk (.directory entries) [] rest
      | parent :: above => walk parent above rest
    else if longestName < part.utf8ByteSize then .error .nameTooLong
    else
      match entries.lookup part with
      | none => .error .missing
      | some next => walk next (.directory entries :: above) rest

@[simp] theorem walk_nil (place : Place) (above : List Place) :
    place.walk above [] = .ok place := by
  cases place <;> rfl

/-- No part leads on from a file, not even one that stays. -/
theorem walk_file (bytes : ByteArray) (above : List Place) (part : String) (rest : List String) :
    walk (.file bytes) above (part :: rest) = .error .notDirectory := rfl

section

variable {entries : List (String × Place)} {above : List Place} {part : String}
  {rest : List String}

/-- An empty part and a dot stay in a directory. -/
theorem walk_stay (h : (part = "" || part = ".") = true) :
    walk (.directory entries) above (part :: rest) = walk (.directory entries) above rest := by
  rw [walk.eq_def]
  exact if_pos h

/-- Two dots stay in the topmost directory. -/
theorem walk_top :
    walk (.directory entries) [] (".." :: rest) = walk (.directory entries) [] rest := by
  simp [walk]

/-- Two dots go up to the nearest directory above. -/
theorem walk_up (parent : Place) :
    walk (.directory entries) (parent :: above) (".." :: rest) = walk parent above rest := by
  simp [walk]

/-- Any other part goes down to its entry, if it is not too long and has one. -/
theorem walk_down (hstay : ¬(part = "" || part = ".") = true) (hup : part ≠ "..") :
    walk (.directory entries) above (part :: rest) =
      if longestName < part.utf8ByteSize then .error .nameTooLong
      else
        match entries.lookup part with
        | none => .error .missing
        | some next => walk next (.directory entries :: above) rest := by
  rw [walk.eq_def]
  dsimp only
  rw [if_neg hstay, if_neg hup]

end

end Place

/-- A tree of directories and the one that is current. -/
structure Disk where
  /-- The entries of the topmost directory. -/
  entries : List (String × Place)
  /-- The names on the way from the topmost directory to the current one. -/
  current : List String

namespace Disk

/-- The bytes of the longest path. -/
def longestPath : Nat := 4095

/-- The parts of a path, from the topmost directory. -/
def route (disk : Disk) (path : String) : List String :=
  match path.splitOn "/" with
  | "" :: rest => rest
  | parts => disk.current ++ parts

/-- **What a path leads to.** -/
def contents (disk : Disk) (path : String) : FileContents :=
  if path = "" then .unavailable .missing
  else if longestPath < path.utf8ByteSize then .unavailable .nameTooLong
  else
    match Place.walk (.directory disk.entries) [] (disk.route path) with
    | .error fault => .unavailable fault
    | .ok (.directory _) => .unavailable .directory
    | .ok (.file bytes) => .bytes bytes

end Disk

end Tabletop
