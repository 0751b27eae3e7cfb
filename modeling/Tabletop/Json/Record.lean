import Tabletop.Json.Reader
import Tabletop.Json.Writer

/-!
# Tabletop.Json.Record — records, variants and numbers as JSON

A record is an object with its fields as entries, in any order, among entries of other names that
are ignored; a field may not be given twice. A record is also an array of its fields in order,
from which fields may be missing at the end. Whether a missing field is an error is the reader's
business; a field that is given as null is given.

A variant is a string with its name, or an object with that name as its only key and the variant's
contents as the value. A variant without contents has null there.

`Serial` collects the types that have a JSON form.
-/

namespace Tabletop

/-- A type with a JSON form. -/
class Serial (α : Type) where
  /-- The JSON form of a value. -/
  encode : α → Json
  /-- The value that a JSON form stands for. -/
  decode? : Json → Option α

namespace Serial

variable {α : Type} [Serial α]

/-- The compact text of a value. -/
def render (a : α) : String := (encode a).render

/-- The indented text of a value. -/
def renderIndented (a : α) : String := (encode a).renderIndented

/-- **The value that a JSON text stands for.** -/
def parse? (text : String) : Option α := (Json.parse? text).bind decode?

end Serial

namespace Json

/-! ## Records -/

/-- The fields of a record that were given, by name. -/
abbrev Record : Type := List (String × Json)

/-- The entries of an object with their keys as texts; none if a key has no text. -/
def keyed? : List (Option String × Json) → Option (List (String × Json))
  | [] => some []
  | (some key, value) :: rest => (keyed? rest).map ((key, value) :: ·)
  | (none, _) :: _ => none

/-- No name occurs twice. -/
def namesDiffer : Record → Bool
  | [] => true
  | (name, _) :: rest => !(rest.any fun field => field.1 == name) && namesDiffer rest

/-- **The fields of a record**, given the names of all its fields in order. -/
def record? (names : List String) : Json → Option Record
  | object entries => do
    let entries ← keyed? entries
    let fields := entries.filter fun entry => names.contains entry.1
    if namesDiffer fields then some fields else none
  | array items => if items.length ≤ names.length then some (names.zip items) else none
  | _ => none

/-- A field that must be given. -/
def Record.field? {α : Type} [Serial α] (record : Record) (name : String) : Option α :=
  match record.lookup name with
  | some value => Serial.decode? value
  | none => none

/-- A field that may be missing. -/
def Record.fieldOr? {α : Type} [Serial α] (record : Record) (name : String) (default : α) :
    Option α :=
  match record.lookup name with
  | some value => Serial.decode? value
  | none => some default

/-! ## Variants -/

/-- A variant's name, and its contents if it is written with contents. -/
def variant? : Json → Option (String × Option Json)
  | string (some name) => some (name, none)
  | object [(some name, contents)] => some (name, some contents)
  | _ => none

/-- Contents that say no more than the name. -/
def isBare : Option Json → Bool
  | none => true
  | some null => true
  | some _ => false

/-- A variant without contents, by its name. -/
def bareVariant? (value : Json) : Option String :=
  match variant? value with
  | some (name, contents) => if isBare contents then some name else none
  | none => none

/-! ## Numbers, texts and lists -/

/-- The integer of a number that lies in a range. -/
def between? (least greatest : Int) (value : Json) : Option Int :=
  match value.integer? with
  | some n => if least ≤ n ∧ n ≤ greatest then some n else none
  | none => none

end Json

instance : Serial UInt32 where
  encode n := Json.ofNat n.toNat
  decode? value := (value.between? 0 (UInt32.size - 1)).map fun n => UInt32.ofNat n.toNat

instance : Serial UInt64 where
  encode n := Json.ofNat n.toNat
  decode? value := (value.between? 0 (UInt64.size - 1)).map fun n => UInt64.ofNat n.toNat

instance : Serial Int64 where
  encode n := Json.ofInt n.toInt
  decode? value := (value.between? Int64.minValue.toInt Int64.maxValue.toInt).map Int64.ofInt

instance : Serial String where
  encode := Json.ofText
  decode? := Json.text?

instance {α : Type} [Serial α] : Serial (List α) where
  encode as := .array (as.map Serial.encode)
  decode? value := value.items?.bind fun items => items.mapM Serial.decode?

end Tabletop
