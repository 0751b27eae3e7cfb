import Tabletop.CommandLine.Box
import Tabletop.CommandLine.Invocation
import Tabletop.CommandLine.Style
import Tabletop.Chance
import Tabletop.Dice.Special
import Tabletop.Formula.Json
import Tabletop.Pool.Json
import Tabletop.Random.ChaCha
import Tabletop.Table.File
import Tabletop.Table.Set

/-!
# Tabletop.CommandLine.Run — what the program answers

A command draws from a source and comes to an *outcome*: the lines it shows, the events behind them,
and why it failed if it did. A run reads an invocation, carries its command out on the source of the
seed, and reports the outcome with the log cut to the level asked for.

Each command throws its dice once and reads everything it shows, the log included, off the same
faces.
-/

namespace Tabletop.CommandLine

/-- What a command comes to. -/
structure Outcome where
  /-- What happened, in order. -/
  events : List Event := []
  /-- What is shown, line by line. -/
  lines : List String := []
  /-- Why the command failed, if it did. -/
  failure : Option String := none

namespace Outcome

/-- A command that failed before it showed anything. -/
def failed (message : String) : Outcome := { failure := some message }

/-- A command that showed these lines. -/
def shown (events : List Event) (lines : List String) : Outcome :=
  { events := events, lines := lines }

end Outcome

/-- What a command finds when it starts. -/
structure Setting where
  /-- There are colours. -/
  colors : Bool
  /-- The path of a table file, if one is given. -/
  tables : Option String
  /-- What each path leads to. -/
  files : String → FileContents

/-- The events of a throw of dice with so many faces. -/
def diceEvents (sides : UInt32) (faces : List UInt32) : List Event :=
  faces.map fun face => .rolledDie (Dice.clampSides sides) face

/-- How many times a command is carried out, at least once. -/
def repetitions (times : UInt32) : Nat := (max times 1).toNat

section Commands

variable {σ : Type} [Source σ]

/-! ## Formulas -/

/-- How the rolls of a formula are shown. -/
inductive RollMode where
  /-- Values alone. -/
  | silent
  /-- Each formula with its value. -/
  | verbose
  /-- One JSON array. -/
  | json
  deriving DecidableEq, Repr

/-- The mode that two switches ask for; JSON wins. -/
def RollMode.ofSwitches (verbose json : Bool) : RollMode :=
  if json then .json else if verbose then .verbose else .silent

/-- Answer the text of a formula: what happened, and the answer. -/
def answerText (text : String) (verbose : Bool) : Draw σ (List Event × Answer) := fun s =>
  match Formula.parse text with
  | .ok f =>
    let r := f.throwDice s
    ((diceEvents f.sides r.1 ++ [.rolledFormula (f.rollOf r.1)],
      Answer.ofRoll verbose (f.rollOf r.1)), r.2)
  | .error _ => (([.unreadable text], .unreadable), s)

/-- Answer a text so many times, reading it anew each time, up to the first apology; `told` holds
the answers before, latest first. -/
def answerRepeatedly (text : String) (verbose : Bool) :
    Nat → List (List Event × Answer) → σ → List (List Event × Answer) × σ
  | 0, told, s => (told.reverse, s)
  | n + 1, told, s =>
    let r := answerText text verbose s
    match r.1.2 with
    | .unreadable => ((r.1 :: told).reverse, r.2)
    | _ => answerRepeatedly text verbose n (r.1 :: told) r.2

/-- The line that shows a value. -/
def valueLine (value : Int64) : String := String.ofList (Numeral.signed value.toInt)

/-- The line that shows an answer. -/
def answerLine (colors : Bool) : Answer → String
  | .value value => valueLine value
  | .verbose roll =>
    Style.bold.paint colors roll.formula.text ++ ":" ++
      Style.green.paint colors (valueLine roll.value)
  | .unreadable => Style.yellow.paint colors Answer.apology

/-- Answer the formula in a text so many times, a line for each answer. -/
def answerCommand (colors : Bool) (text : String) (verbose : Bool) (times : UInt32) :
    Draw σ Outcome := fun s =>
  let r := answerRepeatedly text verbose (repetitions times) [] s
  (.shown (r.1.flatMap Prod.fst) (r.1.map fun told => answerLine colors told.2), r.2)

/-- Roll the formula in a text so many times, and show the rolls as one JSON array. The text is read
once; without a formula in it there is nothing to show. -/
def jsonCommand (text : String) (times : UInt32) : Draw σ Outcome := fun s =>
  match Formula.parse text with
  | .ok f =>
    let r := Draw.times (repetitions times) f.throwDice s
    (.shown (r.1.flatMap (diceEvents f.sides)) [Serial.renderIndented (r.1.map f.rollOf)], r.2)
  | .error e => (.failed e.message, s)

/-- Roll the formula in a text so many times. -/
def rollCommand (colors : Bool) (text : String) (mode : RollMode) (times : UInt32) :
    Draw σ Outcome :=
  match mode with
  | .silent => answerCommand colors text false times
  | .verbose => answerCommand colors text true times
  | .json => jsonCommand text times

/-! ## Dice, chances and pools -/

/-- Throw dice and show their total. -/
def diceCommand (count sides : UInt32) : Draw σ Outcome := fun s =>
  let r := Dice.throwDice count sides s
  (.shown (diceEvents sides r.1) [toString (Dice.total r.1).toNat], r.2)

/-- The style of an outcome of a pool. -/
def outcomeStyle : Pool.Outcome → Style
  | .success _ => .green
  | .failure => .yellow
  | .fumble => .boldRed

/-- What is shown of a pool in words. -/
def poolLines (colors : Bool) (roll : Pool.Roll) : List String :=
  ["  Rolls: " ++ ", ".intercalate (roll.faces.map fun face => toString face.toNat),
   "  Net successes: " ++ toString roll.net.toInt,
   "  Outcome: " ++ (outcomeStyle roll.outcome).paint colors roll.outcome.text]

/-- Throw a pool. -/
def poolCommand (colors : Bool) (pool : Pool) (json : Bool) : Draw σ Outcome := fun s =>
  let r := pool.roll s
  (.shown (diceEvents pool.sides r.1.faces ++ [.resolvedPool r.1])
    (if json then [Serial.renderIndented r.1] else poolLines colors r.1), r.2)

/-- Throw fudge dice. -/
def fudgeCommand (count : UInt32) : Draw σ Outcome := fun s =>
  let r := Dice.fudge count s
  (.shown [] [String.ofList (Numeral.explicit r.1)], r.2)

/-- What is said of a scale that there is not. -/
def unknownScale (name : String) : String :=
  s!"unknown scale '{name}' (expected percent, permille, or permyriad)"

/-- Check a chance. -/
def chanceCommand (colors : Bool) (threshold : Option UInt32) (scaleName : String) :
    Draw σ Outcome := fun s =>
  match ChanceScale.parse? scaleName with
  | none => (.failed (unknownScale scaleName), s)
  | some scale =>
    let threshold := threshold.getD scale.evenOdds
    let r := Chance.throwAgainst scale.sides threshold s
    let verdict :=
      if r.1.2 then Style.green.paint colors "yes" else Style.red.paint colors "no"
    (.shown (diceEvents scale.sides r.1.1)
      [s!"  {threshold.toNat} in {scale.sides.toNat}: {verdict}"], r.2)

/-- Flip a coin. -/
def flipCommand : Draw σ Outcome := fun s =>
  let r := Chance.throwCoin s
  (.shown (diceEvents 2 r.1.1) [if r.1.2 then "heads" else "tails"], r.2)

/-- Roll a d66. -/
def d66Command : Draw σ Outcome := fun s =>
  let r := Dice.throwD66 s
  (.shown (diceEvents 6 [r.1.1, r.1.2])
    [toString (Dice.tensAndUnits r.1.1 r.1.2).toNat], r.2)

/-- What is shown of a d666. -/
def d666Line (colors : Bool) (meaning : Dice.D666) : String :=
  match meaning with
  | .divine => Style.boldCyan.paint colors meaning.text
  | .infernal => Style.boldRed.paint colors meaning.text
  | .check _ _ => meaning.text

/-- Roll a d666. -/
def d666Command (colors : Bool) : Draw σ Outcome := fun s =>
  let r := Dice.throwD666 s
  let (first, second, third) := r.1
  (.shown (diceEvents 6 [first, second, third])
    [d666Line colors (Dice.D666.ofFaces first second third)], r.2)

/-! ## Tables -/

/-- The tables at hand, and the events of getting them; or why the table file could not be read. -/
def loadTables (setting : Setting) : Except TableError (TableSet × List Event) :=
  match setting.tables with
  | none => .ok (TableSet.builtin, [])
  | some path => do
    let raw ← CustomTables.readRaw path (setting.files path)
    let custom := raw.normalized
    .ok (TableSet.withCustom custom,
      raw.merges.map .mergedTables ++ [.loadedTables path custom.tables.size])

/-- Roll on a table so many times, up to the first failure; `shown` holds the lines before, latest
first. -/
def rollTable (tables : TableSet) (name : String) :
    Nat → List String → σ → (List String × Option TableError) × σ
  | 0, shown, s => ((shown.reverse, none), s)
  | n + 1, shown, s =>
    match tables.roll name s with
    | (.error e, s) => ((shown.reverse, some e), s)
    | (.ok entry, s) => rollTable tables name n (Text.trim entry :: shown) s

/-- Roll on a table. -/
def pickCommand (setting : Setting) (name : String) (times : UInt32) : Draw σ Outcome := fun s =>
  match loadTables setting with
  | .error e => (.failed e.message, s)
  | .ok (tables, events) =>
    let r := rollTable tables name (repetitions times) [] s
    ({ events := events, lines := r.1.1, failure := r.1.2.map TableError.message }, r.2)

/-- The head of the listing. -/
def listingHead : List String := ["Table", "Source", "Results", "Description"]

/-- A row of the listing. -/
def listingRow (row : TableSet.Row) : List String :=
  [row.name, row.origin.text, toString row.combinations, row.description]

/-- List the tables. -/
def tablesCommand (setting : Setting) : Outcome :=
  match loadTables setting with
  | .error e => .failed e.message
  | .ok (tables, events) =>
    .shown events (Box.draw listingHead (tables.list.map listingRow))

/-! ## All commands -/

/-- **Carry a command out.** -/
def Command.perform (setting : Setting) : Command → Draw σ Outcome
  | .roll formula verbose times json =>
    rollCommand setting.colors formula (RollMode.ofSwitches verbose json) times
  | .dice count sides => diceCommand count sides
  | .pool p json => poolCommand setting.colors p json
  | .fudge count => fudgeCommand count
  | .chance threshold scale => chanceCommand setting.colors threshold scale
  | .flip => flipCommand
  | .d66 => d66Command
  | .d666 => d666Command setting.colors
  | .pick table times => pickCommand setting table times
  | .tables => fun s => (tablesCommand setting, s)

end Commands

/-! ## Runs -/

/-- How a run ended. -/
inductive Ending where
  /-- As asked. -/
  | done
  /-- The command failed. -/
  | failed (message : String)
  /-- The words did not follow the grammar. -/
  | misused
  deriving DecidableEq, Repr

/-- The exit code of an ending. -/
def Ending.code : Ending → UInt8
  | done => 0
  | failed _ => 1
  | misused => 2

/-- The ending of an outcome. -/
def Ending.ofOutcome (outcome : Outcome) : Ending :=
  match outcome.failure with
  | none => .done
  | some message => .failed message

/-- **A run ends well exactly if its command did not fail.** -/
theorem Ending.ofOutcome_eq_done_iff {outcome : Outcome} :
    ofOutcome outcome = done ↔ outcome.failure = none := by
  unfold ofOutcome
  cases outcome.failure <;> simp

/-- **A run fails with the message of its command.** -/
theorem Ending.ofOutcome_eq_failed_iff {outcome : Outcome} {message : String} :
    ofOutcome outcome = failed message ↔ outcome.failure = some message := by
  unfold ofOutcome
  cases outcome.failure <;> simp

/-- What a run leaves behind. -/
structure Report where
  /-- What was shown, line by line. -/
  lines : List String
  /-- The log, line by line. -/
  log : List String
  /-- How the run ended. -/
  ending : Ending
  deriving DecidableEq, Repr

/-- What was shown, with a line break after every line. -/
def Report.output (report : Report) : String :=
  String.join (report.lines.map fun line => line ++ "\n")

/-- How a command is called. -/
def usage (title : String) : String :=
  if title = programName then s!"Usage: {programName} [OPTIONS] <COMMAND>"
  else s!"Usage: {title} [OPTIONS] [ARGUMENTS]"

/-- The report when there is nothing to run. -/
def Report.ofStop : Stop → Report
  | .misuse => ⟨[], [], .misused⟩
  | .version title => ⟨[title ++ " " ++ programVersion], [], .done⟩
  | .help title => ⟨[usage title], [], .done⟩

/-- The source of an invocation, and the event of making it. Without a seed it is `fresh`. -/
def Invocation.source (invocation : Invocation) (fresh : ChaCha.Stream) :
    ChaCha.Stream × List Event :=
  match invocation.seed with
  | some seed => (ChaCha.Stream.ofSeed seed, [.seeded seed])
  | none => (fresh, [])

/-- The report of an invocation. -/
def Invocation.run (invocation : Invocation) (colors : Colors) (files : String → FileContents)
    (fresh : ChaCha.Stream) : Report :=
  let (source, seeding) := invocation.source fresh
  let setting : Setting := ⟨colors.output, invocation.tables, files⟩
  let outcome := (invocation.command.perform setting source).1
  { lines := outcome.lines
    log := logLines colors.log invocation.level (seeding ++ outcome.events)
    ending := .ofOutcome outcome }

/-- What the command of an invocation comes to. -/
def Invocation.outcome (invocation : Invocation) (colors : Colors)
    (files : String → FileContents) (fresh : ChaCha.Stream) : Outcome :=
  (invocation.command.perform ⟨colors.output, invocation.tables, files⟩
    (invocation.source fresh).1).1

theorem Invocation.lines_run (invocation : Invocation) (colors : Colors)
    (files : String → FileContents) (fresh : ChaCha.Stream) :
    (invocation.run colors files fresh).lines = (invocation.outcome colors files fresh).lines :=
  rfl

theorem Invocation.ending_run (invocation : Invocation) (colors : Colors)
    (files : String → FileContents) (fresh : ChaCha.Stream) :
    (invocation.run colors files fresh).ending =
      .ofOutcome (invocation.outcome colors files fresh) :=
  rfl

/-- The path of the table file that the words or the environment name. -/
def tablePath? (words : List String) (environment : Environment) : Option String :=
  match Invocation.read words environment with
  | .error _ => none
  | .ok invocation => invocation.tables

/-- **Run the program** on its words and the environment. -/
def run (words : List String) (environment : Environment) (colors : Colors)
    (files : String → FileContents) (fresh : ChaCha.Stream) : Report :=
  match Invocation.read words environment with
  | .error stop => .ofStop stop
  | .ok invocation => invocation.run colors files fresh

/-- Words that name no command to run are reported as that. -/
theorem run_of_error {words : List String} {environment : Environment} {stop : Stop}
    (h : Invocation.read words environment = .error stop) (colors : Colors)
    (files : String → FileContents) (fresh : ChaCha.Stream) :
    run words environment colors files fresh = .ofStop stop := by
  simp only [run, h]

/-- Words that can be read run what they ask for. -/
theorem run_of_ok {words : List String} {environment : Environment} {invocation : Invocation}
    (h : Invocation.read words environment = .ok invocation) (colors : Colors)
    (files : String → FileContents) (fresh : ChaCha.Stream) :
    run words environment colors files fresh = invocation.run colors files fresh := by
  simp only [run, h]

end Tabletop.CommandLine
