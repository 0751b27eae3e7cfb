import Tabletop.Dice.Special
import Tabletop.Json.Record

/-!
# Tabletop.Dice.Json — the d666 as JSON

An intervention is a variant without contents; a check carries a record of its sum and its degree.
-/

namespace Tabletop.Dice.D666

/-- The check that fields describe. -/
def checkOf? (record : Json.Record) : Option D666 := do
  let sum : UInt32 ← record.field? "check"
  let degree : UInt32 ← record.field? "degree"
  return .check sum degree

/-- The meaning of a variant. -/
def ofVariant? (name : String) (contents : Option Json) : Option D666 :=
  match name with
  | "DivineIntervention" => if Json.isBare contents then some .divine else none
  | "InfernalIntervention" => if Json.isBare contents then some .infernal else none
  | "Check" => do checkOf? (← (← contents).record? ["check", "degree"])
  | _ => none

instance : Serial D666 where
  encode
    | .divine => Json.ofText "DivineIntervention"
    | .infernal => Json.ofText "InfernalIntervention"
    | .check sum degree => Json.ofEntries
        [("Check", Json.ofEntries
          [("check", Serial.encode sum), ("degree", Serial.encode degree)])]
  decode? value := value.variant?.bind fun variant => ofVariant? variant.1 variant.2

end Tabletop.Dice.D666
