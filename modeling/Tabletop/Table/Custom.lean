import Tabletop.Dictionary
import Tabletop.Json.Record
import Tabletop.Table.Name

/-!
# Tabletop.Table.Custom — tables from a file

A table file is a JSON record with one field, `tables`, that holds lists of entries under their
names. The names are brought to normal form when a file is read; lists whose names then agree are
joined, in the order of the names as they were written. Looking a table up normalizes the name
asked for.
-/

namespace Tabletop

/-- Custom tables: lists of entries under names. -/
structure CustomTables where
  /-- The entries under each name. -/
  tables : Dictionary (List String)
  deriving DecidableEq

namespace CustomTables

/-- No tables. -/
def none : CustomTables := ⟨Dictionary.empty⟩

instance : Inhabited CustomTables := ⟨none⟩

/-- The entries of the table that a name means. -/
def get? (custom : CustomTables) (name : String) : Option (List String) :=
  custom.tables.get? (Table.normalName name)

/-! ## The JSON form -/

/-- Lists of entries under names, as the entries of an object. A repeated name keeps its last
list. -/
def dictionary? : Json → Option (Dictionary (List String))
  | .object entries => do
    let entries ← Json.keyed? entries
    let lists ← entries.mapM fun entry => do
      let list : List String ← Serial.decode? entry.2
      return (entry.1, list)
    return Dictionary.ofList lists
  | _ => .none

/-- The tables of a record, with their names as written. -/
def ofRecord? (record : Json.Record) : Option CustomTables :=
  match record.lookup "tables" with
  | .some value => (dictionary? value).map CustomTables.mk
  | .none => some none

instance : Serial CustomTables where
  encode custom := Json.ofEntries
    [("tables", Json.ofEntries
      (custom.tables.entries.map fun entry => (entry.1, Serial.encode entry.2)))]
  decode? value := (value.record? ["tables"]).bind ofRecord?

/-! ## Names that agree -/

/-- Two names of one file agreed in normal form. -/
structure Merge where
  /-- The normal form. -/
  table : String
  /-- The later name, as written. -/
  spelling : String
  deriving DecidableEq, Repr

/-- Join a list of entries to what a dictionary holds under the normal form of a name. -/
def absorb (tables : Dictionary (List String)) (entry : String × List String) :
    Dictionary (List String) :=
  let normal := Table.normalName entry.1
  tables.insert normal ((tables.get? normal).getD [] ++ entry.2)

/-- **The tables under the normal forms of their names.** -/
def normalized (custom : CustomTables) : CustomTables :=
  ⟨custom.tables.entries.foldl absorb Dictionary.empty⟩

/-- The names that agree with an earlier one, in order; `seen` holds the earlier normal forms. -/
def mergesAfter (seen : List String) : List (String × List String) → List Merge
  | [] => []
  | (name, _) :: rest =>
    let normal := Table.normalName name
    if seen.contains normal then ⟨normal, name⟩ :: mergesAfter seen rest
    else mergesAfter (normal :: seen) rest

/-- The joins that bringing the names to normal form takes. -/
def merges (custom : CustomTables) : List Merge := mergesAfter [] custom.tables.entries

/-- **The tables of a JSON text**, under names in normal form. -/
def ofText? (text : String) : Option CustomTables :=
  (Serial.parse? text : Option CustomTables).map normalized

end CustomTables

end Tabletop
