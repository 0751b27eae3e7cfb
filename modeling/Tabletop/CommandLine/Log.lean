import Tabletop.CommandLine.Style
import Tabletop.Formula.Roll
import Tabletop.Pool
import Tabletop.Table.Custom
import Tabletop.Text.Quoted

/-!
# Tabletop.CommandLine.Log — what a run has to say of itself

Some steps of a run are worth a line in its log. Each kind of event has a level; a log shows the
events whose level is at least as grave as the one asked for, each as its level, a message and the
particulars. With colours the level has one of its own, and all levels end in the same column.
-/

namespace Tabletop.CommandLine

/-- How grave an event is, gravest first. -/
inductive Level where
  | error
  | warn
  | info
  | debug
  | trace
  deriving DecidableEq, Repr

namespace Level

/-- The levels by number, from the gravest. -/
def rank : Level → Nat
  | error => 1
  | warn => 2
  | info => 3
  | debug => 4
  | trace => 5

/-- All levels, gravest first. -/
def all : List Level := [error, warn, info, debug, trace]

/-- The name of a level in a log line. -/
def label : Level → String
  | error => "ERROR"
  | warn => "WARN"
  | info => "INFO"
  | debug => "DEBUG"
  | trace => "TRACE"

/-- The colour of a level. -/
def style : Level → Style
  | error => .red
  | warn => .yellow
  | info => .green
  | debug => .blue
  | trace => .purple

/-- A level as it opens a log line. With colours it is as wide as the widest label. -/
def mark (colors : Bool) (level : Level) : String :=
  if colors then
    let padding := String.ofList (List.replicate (5 - level.label.length) ' ')
    level.style.paint true (padding ++ level.label)
  else level.label

/-- **A level by its name in any case, or by its number.** -/
def parse? (text : String) : Option Level :=
  match Numeral.natural? text.toList with
  | some n => all.find? fun level => level.rank == n
  | none => all.find? fun level => level.label.toList == text.toList.map Char.toUpper

end Level

/-- Something that happened in a run. -/
inductive Event where
  /-- The source was made from a seed. -/
  | seeded (seed : UInt64)
  /-- A die was thrown. -/
  | rolledDie (sides value : UInt32)
  /-- A formula was rolled. -/
  | rolledFormula (roll : FormulaRoll)
  /-- A text held no formula. -/
  | unreadable (text : String)
  /-- A pool was thrown. -/
  | resolvedPool (roll : Pool.Roll)
  /-- Two names of a table file agreed. -/
  | mergedTables (merge : CustomTables.Merge)
  /-- A table file was read. -/
  | loadedTables (path : String) (count : Nat)

namespace Event

/-- How grave an event is. -/
def level : Event → Level
  | seeded _ => .debug
  | rolledDie _ _ => .trace
  | rolledFormula _ => .debug
  | unreadable _ => .debug
  | resolvedPool _ => .debug
  | mergedTables _ => .warn
  | loadedTables _ _ => .info

/-- What kind of event it is, in words. -/
def message : Event → String
  | seeded _ => "seeding generator"
  | rolledDie _ _ => "rolled die"
  | rolledFormula _ => "rolled formula"
  | unreadable _ => "unparseable formula"
  | resolvedPool _ => "resolved success pool"
  | mergedTables _ => "merging tables with the same name"
  | loadedTables _ _ => "loaded custom tables"

/-- The particulars of an event, each a name and a value. -/
def particulars : Event → List (String × String)
  | seeded seed => [("seed", toString seed.toNat)]
  | rolledDie sides value =>
    [("sides", toString sides.toNat), ("value", toString value.toNat)]
  | rolledFormula roll =>
    [("formula", roll.formula.text), ("value", toString roll.value.toInt)]
  | unreadable text =>
    [("input", Text.quoted text), ("error", Formula.NotFound.message {})]
  | resolvedPool roll =>
    let faces := ", ".intercalate (roll.faces.map fun face => toString face.toNat)
    [("rolls", "[" ++ faces ++ "]"), ("net_successes", toString roll.net.toInt),
     ("outcome", roll.outcome.text)]
  | mergedTables merge => [("table", merge.table), ("spelling", merge.spelling)]
  | loadedTables path count => [("path", path), ("count", toString count)]

/-- A particular in a log line, a blank before it. -/
def particularText (colors : Bool) (particular : String × String) : String :=
  " " ++ Style.italic.paint colors particular.1 ++ Style.dim.paint colors "=" ++ particular.2

/-- The log line of an event. -/
def line (colors : Bool) (event : Event) : String :=
  event.level.mark colors ++ " " ++ event.message ++
    String.join (event.particulars.map (particularText colors))

end Event

/-- **The log of some events**, down to a level. -/
def logLines (colors : Bool) (level : Level) (events : List Event) : List String :=
  (events.filter fun event => decide (event.level.rank ≤ level.rank)).map (Event.line colors)

end Tabletop.CommandLine
