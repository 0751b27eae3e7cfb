import Tabletop.Pool
import Tabletop.Json.Record

/-!
# Tabletop.Pool.Json — pools and their rolls as JSON

A pool and a roll of one are records all of whose fields must be given. An outcome is a variant; a
success carries a record with the number of successes, the other two carry nothing.
-/

namespace Tabletop.Pool

/-- The pool that fields describe. -/
def ofRecord? (record : Json.Record) : Option Pool := do
  let sides : UInt32 ← record.field? "sides"
  let size : UInt32 ← record.field? "size"
  let threshold : UInt32 ← record.field? "threshold"
  return ⟨sides, size, threshold⟩

instance : Serial Pool where
  encode p := Json.ofEntries
    [("sides", Serial.encode p.sides), ("size", Serial.encode p.size),
     ("threshold", Serial.encode p.threshold)]
  decode? value := (value.record? ["sides", "size", "threshold"]).bind ofRecord?

/-- The outcome of a variant. -/
def Outcome.ofVariant? (name : String) (contents : Option Json) : Option Outcome :=
  match name with
  | "Success" => do
    let record ← (← contents).record? ["successes"]
    let successes : UInt32 ← record.field? "successes"
    return .success successes
  | "Failure" => if Json.isBare contents then some .failure else none
  | "Fumble" => if Json.isBare contents then some .fumble else none
  | _ => none

instance : Serial Outcome where
  encode
    | .success successes => Json.ofEntries
        [("Success", Json.ofEntries [("successes", Serial.encode successes)])]
    | .failure => Json.ofText "Failure"
    | .fumble => Json.ofText "Fumble"
  decode? value := value.variant?.bind fun variant => Outcome.ofVariant? variant.1 variant.2

/-- The roll that fields tell of. What they tell is taken as it stands. -/
def Roll.ofRecord? (record : Json.Record) : Option Roll := do
  let pool : Pool ← record.field? "pool"
  let faces : List UInt32 ← record.field? "rolls"
  let net : Int64 ← record.field? "net_successes"
  let outcome : Outcome ← record.field? "outcome"
  return ⟨pool, faces, net, outcome⟩

instance : Serial Roll where
  encode r := Json.ofEntries
    [("pool", Serial.encode r.pool), ("rolls", Serial.encode r.faces),
     ("net_successes", Serial.encode r.net), ("outcome", Serial.encode r.outcome)]
  decode? value :=
    (value.record? ["pool", "rolls", "net_successes", "outcome"]).bind Roll.ofRecord?

end Tabletop.Pool
