import Tabletop.Table.Catalogue
import Tabletop.Table.Custom
import Tabletop.Table.Error

/-!
# Tabletop.Table.Set — the tables at hand

The tables at hand are the built-in ones with custom ones laid over them. A name is looked up among
the custom tables first; a built-in table whose name a custom table has is not listed.
-/

namespace Tabletop

/-- The built-in tables with custom ones laid over them. -/
structure TableSet where
  /-- The custom tables. -/
  custom : CustomTables

namespace TableSet

/-- The built-in tables alone. -/
def builtin : TableSet := ⟨CustomTables.none⟩

/-- The built-in tables under custom ones. -/
def withCustom (custom : CustomTables) : TableSet := ⟨custom⟩

/-- Where a table comes from. -/
inductive Origin where
  /-- It is built in. -/
  | builtin
  /-- It was read from a file. -/
  | custom
  deriving DecidableEq, Repr

/-- The origin in words. -/
def Origin.text : Origin → String
  | builtin => "built-in"
  | custom => "custom"

/-- What a listing says of one table. -/
structure Row where
  /-- The name it is listed under. -/
  name : String
  /-- What it is about, in one line; empty for a custom table. -/
  description : String
  /-- How many equally likely results it has. -/
  combinations : Nat
  /-- Where it comes from. -/
  origin : Origin
  deriving DecidableEq, Repr

/-- The row of a built-in table. -/
def rowOfBuiltin (table : Builtin) : Row :=
  ⟨table.name, table.description, table.combinations, .builtin⟩

/-- The row of a custom table. -/
def rowOfCustom (entry : String × List String) : Row :=
  ⟨entry.1, "", entry.2.length, .custom⟩

/-- **The listing**: the built-in tables that no custom table hides, then the custom ones. -/
def list (tables : TableSet) : List Row :=
  (Builtin.all.filter fun table => (tables.custom.get? table.name).isNone).map rowOfBuiltin ++
    tables.custom.tables.entries.map rowOfCustom

variable {σ : Type} [Source σ]

/-- **Roll on the table that a name means.** -/
def roll (tables : TableSet) (name : String) : Draw σ (Except TableError String) := fun s =>
  match tables.custom.get? name with
  | some entries =>
    let r := Draw.pick entries s
    match r.1 with
    | some entry => (.ok entry, r.2)
    | none => (.error (.empty (Table.normalName name)), r.2)
  | none =>
    match Builtin.named? name with
    | some table =>
      let r := table.draw s
      (.ok r.1, r.2)
    | none => (.error (.unknown name), s)

end TableSet

end Tabletop
