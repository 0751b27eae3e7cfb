import Tabletop.Chance.Json
import Tabletop.Dice.Json
import Tabletop.Pool.Json
import Tabletop.Proofs.Formula.Normal
import Tabletop.Proofs.Json.Record
import Tabletop.Proofs.Table.Gathering

/-!
# Tabletop.Proofs.Json.Serialized — results come back from their JSON texts

The words of the game have their names, the pools, outcomes and rolls are records of plain values,
and custom tables are lists under names. All of these are kept by their JSON forms whatever they
hold.

Formulas are not: fields are clamped and clauses brought to their one spelling when they are read,
so that a formula is kept exactly when it could have been built. The same holds for a roll of a
formula, whose total and value are taken as they stand.
-/

namespace Tabletop

/-! ## Words -/

instance : LawfulSerial Scaling where
  kept
    | .multiply => ⟨Json.writable_ofText "Multiply", rfl⟩
    | .divide => ⟨Json.writable_ofText "Divide", rfl⟩

instance : LawfulSerial Sign where
  kept
    | .plus => ⟨Json.writable_ofText "Plus", rfl⟩
    | .minus => ⟨Json.writable_ofText "Minus", rfl⟩

instance : LawfulSerial ChanceScale where
  kept
    | .percent => ⟨Json.writable_ofText "Percent", rfl⟩
    | .permille => ⟨Json.writable_ofText "Permille", rfl⟩
    | .permyriad => ⟨Json.writable_ofText "Permyriad", rfl⟩

/-! ## Pools and dice -/

instance : LawfulSerial Pool where
  kept p := by
    refine Serial.kept_of_fields rfl (fun _ => rfl) rfl (by decide) ?_ ?_
    · simp
    · simp [Pool.ofRecord?]

/-- A success is read from the one field of its record. -/
theorem Pool.Outcome.kept_success (successes : UInt32) : Serial.Kept (success successes) := by
  refine Serial.kept_of_variant rfl (fun _ => rfl) rfl (by decide) ?_ ?_
  · simp
  · simp

instance : LawfulSerial Pool.Outcome where
  kept
    | .success successes => Pool.Outcome.kept_success successes
    | .failure => ⟨Json.writable_ofText "Failure", rfl⟩
    | .fumble => ⟨Json.writable_ofText "Fumble", rfl⟩

instance : LawfulSerial Pool.Roll where
  kept r := by
    refine Serial.kept_of_fields rfl (fun _ => rfl) rfl (by decide) ?_ ?_
    · simp
    · simp [Pool.Roll.ofRecord?]

/-- A check is read from its two fields. -/
theorem Dice.D666.kept_check (sum degree : UInt32) : Serial.Kept (check sum degree) := by
  refine Serial.kept_of_variant rfl (fun _ => rfl) rfl (by decide) ?_ ?_
  · simp
  · simp [checkOf?]

instance : LawfulSerial Dice.D666 where
  kept
    | .divine => ⟨Json.writable_ofText "DivineIntervention", rfl⟩
    | .infernal => ⟨Json.writable_ofText "InfernalIntervention", rfl⟩
    | .check sum degree => Dice.D666.kept_check sum degree

/-! ## Formulas -/

namespace Formula

/-- A normal formula is left alone by the clamping that its reader does. -/
theorem Normal.kept {f : Formula} (h : f.Normal) : Serial.Kept f := by
  refine Serial.kept_of_fields rfl (fun _ => rfl) rfl (by decide) ?_ ?_
  · simp
  · simp [ofRecord?, Dice.clampCount_of_le h.one_le_count, Dice.clampSides_of_le h.two_le_sides,
      Dice.max_bound_of_le h.one_le_factor, h.normalized_eq]

/-- **Exactly the formulas that can be built come back from their texts.** -/
theorem parse?_render_iff (f : Formula) :
    Serial.parse? (Serial.render f) = some f ↔ Reachable f :=
  ⟨Reachable.of_parse?, fun h => h.normal.kept.parse?_render⟩

end Formula

namespace FormulaRoll

theorem kept {r : FormulaRoll} (h : r.formula.Normal) : Serial.Kept r := by
  refine Serial.kept_of_fields rfl (fun _ => rfl) rfl (by decide) ?_ ?_
  · simp [h.kept.writable]
  · simp [ofRecord?, h.kept.decode?_encode]

/-- Whatever else a roll tells of, its formula is one that can be built. -/
theorem reachable_of_parse? {text : String} {r : FormulaRoll}
    (h : Serial.parse? text = some r) : Formula.Reachable r.formula := by
  obtain ⟨value, -, hvalue⟩ := Option.bind_eq_some_iff.mp h
  obtain ⟨record, -, hrecord⟩ := Option.bind_eq_some_iff.mp hvalue
  simp only [ofRecord?, Option.bind_eq_bind, Option.bind_eq_some_iff] at hrecord
  obtain ⟨formula, hformula, total, -, rolled, -, hroll⟩ := hrecord
  obtain ⟨field, hfield⟩ := Json.Record.exists_of_field?_eq_some hformula
  rw [← Option.some.inj hroll]
  exact .decoded hfield

/-- **Exactly the rolls of such formulas come back from their texts.** -/
theorem parse?_render_iff (r : FormulaRoll) :
    Serial.parse? (Serial.render r) = some r ↔ Formula.Reachable r.formula :=
  ⟨reachable_of_parse?, fun h => (kept h.normal).parse?_render⟩

end FormulaRoll

/-! ## Custom tables -/

namespace CustomTables

/-- Lists under names as the entries of an object. -/
theorem lists?_ofEntries (lists : List (String × List String)) :
    lists? (Json.ofEntries (lists.map fun entry => (entry.1, Serial.encode entry.2))) =
      some lists := by
  simp only [lists?, Json.ofEntries, Json.keyed?_map, Option.bind_eq_bind, Option.bind_some]
  refine Json.mapM_map_eq_some fun entry _ => ?_
  simp

instance : LawfulSerial CustomTables where
  kept custom := by
    refine Serial.kept_of_fields rfl (fun _ => rfl) rfl (by decide) ?_ ?_
    · intro field hfield
      rw [List.mem_singleton.mp hfield]
      refine Json.writable_ofEntries fun entry hentry => ?_
      obtain ⟨list, -, rfl⟩ := List.mem_map.mp hentry
      exact Serial.writable_encode list.2
    · simp [ofRecord?, dictionary?_eq, lists?_ofEntries, Dictionary.ofList_entries]

end CustomTables

/-! ## All results -/

namespace Serial

/-- **Whatever is written as JSON comes back from its text.** A formula has to be one that can be
built, and so has the formula of a roll; the rest of a roll, pools and their outcomes, chances and
custom tables may hold anything. -/
theorem results_come_back :
    (∀ f : Formula, Formula.Reachable f → parse? (render f) = some f) ∧
      (∀ r : FormulaRoll, Formula.Reachable r.formula → parse? (render r) = some r) ∧
      (∀ p : Pool, parse? (render p) = some p) ∧
      (∀ o : Pool.Outcome, parse? (render o) = some o) ∧
      (∀ r : Pool.Roll, parse? (render r) = some r) ∧
      (∀ d : Dice.D666, parse? (render d) = some d) ∧
      (∀ scaling : Scaling, parse? (render scaling) = some scaling) ∧
      (∀ sign : Sign, parse? (render sign) = some sign) ∧
      (∀ scale : ChanceScale, parse? (render scale) = some scale) ∧
      (∀ custom : CustomTables, parse? (render custom) = some custom) := by
  refine ⟨fun f hf => ?_, fun r hr => ?_, parse?_render, parse?_render, parse?_render,
    parse?_render, parse?_render, parse?_render, parse?_render, parse?_render⟩
  · exact (Formula.parse?_render_iff f).mpr hf
  · exact (FormulaRoll.parse?_render_iff r).mpr hr

/-- A roll in which every number is as far out as it can be. -/
def extremeRoll : FormulaRoll where
  formula := ((Formula.dice 4294967295 4294967295).dividedBy 4294967295).minus 4294967295
  total := 18446744073709551615
  value := Int64.minValue

/-- Every clamp and every bound of the readers is met exactly. -/
theorem results_come_back_extreme :
    Formula.Reachable extremeRoll.formula ∧
      parse? (render extremeRoll.formula) = some extremeRoll.formula ∧
      parse? (render extremeRoll) = some extremeRoll := by
  have hreach : Formula.Reachable extremeRoll.formula :=
    .put (.minus 4294967295) (.put (.dividedBy 4294967295) (.dice 4294967295 4294967295))
  exact ⟨hreach, results_come_back.1 _ hreach, results_come_back.2.1 _ hreach⟩

end Serial

end Tabletop
