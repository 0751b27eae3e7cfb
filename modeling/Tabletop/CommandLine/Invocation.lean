import Tabletop.CommandLine.Arguments

/-!
# Tabletop.CommandLine.Invocation — what is asked of the program

The program has ten commands. Three options, the seed, the table file and the level of the log, may
stand before the command's name or after it; the one after it wins. The seed and the table file can
also come from the environment, which loses to either. A value from the environment must be in order
wherever the option itself was not given, before the name and after it alike.
-/

namespace Tabletop.CommandLine

/-- A command with its arguments. -/
inductive Command where
  /-- Roll the formula in a text so many times, as values, with the formula, or as JSON. -/
  | roll (formula : String) (verbose : Bool) (times : UInt32) (json : Bool)
  /-- Throw dice and show their total. -/
  | dice (count sides : UInt32)
  /-- Throw a pool, and show it in words or as JSON. -/
  | pool (pool : Pool) (json : Bool)
  /-- Throw fudge dice. -/
  | fudge (count : UInt32)
  /-- Check a chance on the scale of this name. -/
  | chance (threshold : Option UInt32) (scale : String)
  /-- Flip a coin. -/
  | flip
  /-- Roll a d66. -/
  | d66
  /-- Roll a d666. -/
  | d666
  /-- Roll on a table so many times. -/
  | pick (table : String) (times : UInt32)
  /-- List the tables. -/
  | tables
  deriving DecidableEq, Repr

/-- What is asked of the program. -/
structure Invocation where
  /-- The seed of the source, if one is given. -/
  seed : Option UInt64
  /-- The path of a table file, if one is given. -/
  tables : Option String
  /-- How much the log shows. -/
  level : Level
  /-- The command. -/
  command : Command
  deriving DecidableEq, Repr

/-- What the environment says. -/
structure Environment where
  /-- A seed. -/
  seed : Option String := none
  /-- The path of a table file. -/
  tables : Option String := none
  deriving DecidableEq, Repr

/-! ## Grammars -/

/-- The name of the program. -/
def programName : String := "kb"

/-- The version of the program. -/
def programVersion : String := "0.1.0"

/-- The options that may stand on both sides of a command's name. -/
def sharedOptions : List OptionSpec :=
  [⟨"seed", none, .value .word64⟩, ⟨"tables", none, .value .path⟩,
   ⟨"log-level", none, .value .level⟩, ⟨"help", some 'h', .help⟩,
   ⟨"version", some 'V', .version⟩]

/-- The option that repeats a command. -/
def timesOption : OptionSpec := ⟨"times", some 'n', .value .word32⟩

/-- The option that asks for JSON. -/
def jsonOption : OptionSpec := ⟨"json", none, .switch⟩

/-- The commands, each with its own options and its positional arguments. -/
def commands : List (String × List OptionSpec × List Positional) :=
  [("roll", [⟨"verbose", some 'v', .switch⟩, timesOption, jsonOption],
     [⟨"formula", true, .text⟩]),
   ("dice", [], [⟨"count", true, .word32⟩, ⟨"sides", true, .word32⟩]),
   ("pool", [jsonOption],
     [⟨"sides", true, .word32⟩, ⟨"size", true, .word32⟩, ⟨"threshold", true, .word32⟩]),
   ("fudge", [], [⟨"count", false, .word32⟩]),
   ("chance", [⟨"scale", some 's', .value .text⟩], [⟨"threshold", false, .word32⟩]),
   ("flip", [], []),
   ("d66", [], []),
   ("d666", [], []),
   ("pick", [timesOption], [⟨"table", true, .text⟩]),
   ("tables", [], [])]

/-- The command that explains the others. -/
def helpCommand : String := "help"

/-- What may stand before a command's name. -/
def programGrammar : Grammar where
  title := programName
  options := sharedOptions
  positionals := []
  commands := helpCommand :: commands.map Prod.fst

/-- What may follow a command's name. -/
def commandGrammar (name : String) (own : List OptionSpec) (positionals : List Positional) :
    Grammar where
  title := programName ++ "-" ++ name
  options := own ++ sharedOptions
  positionals := positionals
  commands := []

/-! ## Reading an invocation -/

/-- A value of the environment is in order, unless the option was given. -/
def environmentFits (given : Given) (name : String) (check : Check) (value : Option String) :
    Bool :=
  given.has name || value.all check.accepts

/-- Check what is held, the environment and the required arguments when the words are at an end. -/
def finish (g : Grammar) (environment : Environment) (p : Progress) : Except Stop Given := do
  let p ← p.settle
  if environmentFits p.given "seed" .word64 environment.seed &&
      environmentFits p.given "tables" .path environment.tables && p.complete g then
    .ok p.given
  else .error .misuse

/-- The command that arguments amount to. -/
def commandOf? (name : String) (given : Given) : Option Command := do
  let word (key : String) : Option UInt32 := (given.lookup key).bind word32?
  match name with
  | "roll" =>
    let times := (word "times").getD 1
    some (.roll (← given.lookup "formula") (given.has "verbose") times (given.has "json"))
  | "dice" => some (.dice (← word "count") (← word "sides"))
  | "pool" =>
    some (.pool ⟨← word "sides", ← word "size", ← word "threshold"⟩ (given.has "json"))
  | "fudge" => some (.fudge ((word "count").getD 4))
  | "chance" => some (.chance (word "threshold") ((given.lookup "scale").getD "percent"))
  | "flip" => some .flip
  | "d66" => some .d66
  | "d666" => some .d666
  | "pick" => some (.pick (← given.lookup "table") ((word "times").getD 1))
  | "tables" => some .tables
  | _ => none

/-- The invocation of a command, given what stood before its name and what followed. -/
def invocationOf? (environment : Environment) (name : String) (before after : Given) :
    Option Invocation := do
  let shared (key : String) : Option String :=
    (after.lookup key).or (before.lookup key)
  let command ← commandOf? name after
  some {
    seed := ((shared "seed").or environment.seed).bind word64?
    tables := (shared "tables").or environment.tables
    level := ((shared "log-level").bind Level.parse?).getD .warn
    command := command }

/-- What the words after the help command ask for. -/
def helpStop : List String → Stop
  | [] => .help programName
  | [name] =>
    if programGrammar.commands.contains name then .help (programName ++ "-" ++ name) else .misuse
  | _ => .misuse

/-- **Read what is asked of the program** from its words and the environment. -/
def Invocation.read (words : List String) (environment : Environment) :
    Except Stop Invocation := do
  let (program, command) ← Progress.readWords programGrammar {} words
  match command with
  | none => .error .misuse
  | some (name, rest) =>
    if name = helpCommand then .error (helpStop rest)
    else
      match commands.lookup name with
      | none => .error .misuse
      | some (own, positionals) =>
        let grammar := commandGrammar name own positionals
        let (own, _) ← Progress.readWords grammar {} rest
        let after ← finish grammar environment own
        let before ← finish programGrammar environment program
        match invocationOf? environment name before after with
        | some invocation => .ok invocation
        | none => .error .misuse

end Tabletop.CommandLine
