import Tabletop.Chance
import Tabletop.Json.Record

/-!
# Tabletop.Chance.Json — chance scales as JSON

A scale is a variant without contents.
-/

namespace Tabletop

instance : Serial ChanceScale where
  encode
    | .percent => Json.ofText "Percent"
    | .permille => Json.ofText "Permille"
    | .permyriad => Json.ofText "Permyriad"
  decode? value :=
    match value.bareVariant? with
    | some "Percent" => some .percent
    | some "Permille" => some .permille
    | some "Permyriad" => some .permyriad
    | _ => none

end Tabletop
