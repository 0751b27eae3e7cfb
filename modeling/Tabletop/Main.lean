import Tabletop.CommandLine.Run

/-!
# Tabletop.Main — the program

Gathers the words, the environment, what the table file's path leads to and a fresh key; runs; and
shows what the run reports, its lines on standard output, its log and its error on standard error.
-/

namespace Tabletop.Main

open Tabletop.CommandLine

/-- Why a file could not be read. A directory shows itself only when it is read from, with the code
21; a file used as a directory already when the path is opened. -/
def faultOf : IO.Error → FileFault
  | .permissionDenied .. => .denied
  | .inappropriateType _ code _ => if code = 21 then .directory else .notDirectory
  | .invalidArgument .. => .nameTooLong
  | .illegalOperation .. | .otherError .. => .directory
  | _ => .missing

/-- What a path leads to. -/
def contentsOf (path : String) : IO FileContents := do
  try
    return .bytes (← IO.FS.readBinFile path)
  catch e => return .unavailable (faultOf e)

/-- A variable of the environment is set, and not to zero. -/
def isSet (name : String) : IO (Option Bool) := do
  return (← IO.getEnv name).map (· != "0")

/-- What is shown has colours when the environment forces them, and on a terminal unless the
environment objects. -/
def outputColors : IO Bool := do
  if (← isSet "CLICOLOR_FORCE") = some true then return true
  if (← IO.getEnv "NO_COLOR").isSome then return false
  return (← isSet "CLICOLOR").getD true && (← (← IO.getStdout).isTty)

/-- Where colours may be used. The log has them unless the environment objects. -/
def colors : IO Colors := do
  let objection := (← IO.getEnv "NO_COLOR").getD ""
  return ⟨← outputColors, objection.isEmpty⟩

/-- The word of four bytes, the lowest first. -/
def wordAt (bytes : ByteArray) (start : Nat) : UInt32 :=
  (List.range 4).foldr (fun i word => word * 256 + ((bytes[start + i]?).getD 0).toUInt32) 0

/-- A stream under a key that nobody chose. -/
def freshStream : IO ChaCha.Stream := do
  let bytes ← IO.getRandomBytes 32
  return ChaCha.Stream.ofKey (Vector.ofFn fun i => wordAt bytes (4 * i.val))

/-- The path of the table file that an invocation names, and what it leads to. -/
def gatherFile (words : List String) (environment : Environment) :
    IO (String → FileContents) := do
  match tablePath? words environment with
  | some path => return .only path (← contentsOf path)
  | none => return fun _ => .unavailable .missing

/-- What is said on standard error of an ending. -/
def complaint : Ending → Option String
  | .done => none
  | .failed message => some ("error: " ++ message)
  | .misused => some ("error: " ++ usage programName)

end Tabletop.Main

open Tabletop Tabletop.CommandLine in
/-- Runs the program on the words of the command line. -/
def main (words : List String) : IO UInt32 := do
  let environment : Environment :=
    { seed := ← IO.getEnv "KB_SEED", tables := ← IO.getEnv "KB_TABLES" }
  let files ← Main.gatherFile words environment
  let report := run words environment (← Main.colors) files (← Main.freshStream)
  for line in report.log do
    IO.eprintln line
  IO.print report.output
  if let some message := Main.complaint report.ending then
    IO.eprintln message
  return report.ending.code.toUInt32
