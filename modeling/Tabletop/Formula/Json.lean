import Tabletop.Formula.Roll
import Tabletop.Json.Record

/-!
# Tabletop.Formula.Json — formulas and their rolls as JSON

A formula is a record of six fields, of which the first two must be given; the other four say by
default that nothing is scaled or shifted. Whatever the fields hold, reading them builds a
formula, so that it is clamped and has its clauses in their one spelling.
-/

namespace Tabletop

instance : Serial Scaling where
  encode
    | .multiply => Json.ofText "Multiply"
    | .divide => Json.ofText "Divide"
  decode? value :=
    match value.bareVariant? with
    | some "Multiply" => some .multiply
    | some "Divide" => some .divide
    | _ => none

instance : Serial Sign where
  encode
    | .plus => Json.ofText "Plus"
    | .minus => Json.ofText "Minus"
  decode? value :=
    match value.bareVariant? with
    | some "Plus" => some .plus
    | some "Minus" => some .minus
    | _ => none

namespace Formula

/-- The names of a formula's fields, in order. -/
def fieldNames : List String :=
  ["count", "sides", "multiplier_op", "multiplier", "modifier_sign", "modifier"]

/-- The formula that fields build. -/
def ofRecord? (record : Json.Record) : Option Formula := do
  let count : UInt32 ← record.field? "count"
  let sides : UInt32 ← record.field? "sides"
  let scaling ← record.fieldOr? "multiplier_op" Scaling.multiply
  let factor ← record.fieldOr? "multiplier" (1 : UInt32)
  let sign ← record.fieldOr? "modifier_sign" Sign.plus
  let amount ← record.fieldOr? "modifier" (0 : UInt32)
  return Formula.normalized
    { count := Dice.clampCount count, sides := Dice.clampSides sides,
      scaling := scaling, factor := max factor 1, sign := sign, amount := amount }

instance : Serial Formula where
  encode f := Json.ofEntries
    [("count", Serial.encode f.count), ("sides", Serial.encode f.sides),
     ("multiplier_op", Serial.encode f.scaling), ("multiplier", Serial.encode f.factor),
     ("modifier_sign", Serial.encode f.sign), ("modifier", Serial.encode f.amount)]
  decode? value := (value.record? fieldNames).bind ofRecord?

end Formula

namespace FormulaRoll

/-- The roll that fields tell of. What they tell is taken as it stands, even a value that the
formula would not give. -/
def ofRecord? (record : Json.Record) : Option FormulaRoll := do
  let formula : Formula ← record.field? "formula"
  let total : UInt64 ← record.field? "dice_total"
  let value : Int64 ← record.field? "value"
  return ⟨formula, total, value⟩

instance : Serial FormulaRoll where
  encode r := Json.ofEntries
    [("formula", Serial.encode r.formula), ("dice_total", Serial.encode r.total),
     ("value", Serial.encode r.value)]
  decode? value := (value.record? ["formula", "dice_total", "value"]).bind ofRecord?

end FormulaRoll

end Tabletop
