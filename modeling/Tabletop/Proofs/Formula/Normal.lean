import Tabletop.Formula.Json
import Tabletop.Proofs.Dice.Basic

/-!
# Tabletop.Proofs.Formula.Normal — every formula that can be built is normal

The parts of a formula are filled in at three places: a plain throw, the formula read in a text and
the fields of a record. After that only clauses are put on it. Each of these places clamps for
itself what it is given, and all but the plain throw rely on `normalized` for the one spelling of a
clause that changes nothing.

`normal_normalized` says what a place has to see to before it normalizes: the three lower bounds. It
is discharged once for each place, and the rest is an induction over `Reachable`.
-/

namespace Tabletop.Formula

/-- **The formulas that a program can get hold of**: a plain throw, the default one, one read in a
text, one that a JSON value stands for, and any of these with a clause put on it. -/
inductive Reachable : Formula → Prop
  | dice (count sides : UInt32) : Reachable (dice count sides)
  | default : Reachable default
  | read {text : String} {f : Formula} : parse text = .ok f → Reachable f
  | decoded {value : Json} {f : Formula} : Serial.decode? value = some f → Reachable f
  | put {f : Formula} (clause : Clause) : Reachable f → Reachable (f.put clause)

/-- A formula that a JSON text stands for is reachable. -/
theorem Reachable.of_parse? {text : String} {f : Formula} (h : Serial.parse? text = some f) :
    Reachable f := by
  obtain ⟨value, -, hvalue⟩ := Option.bind_eq_some_iff.mp h
  exact .decoded hvalue

theorem Reachable.extend {f : Formula} (h : Reachable f) (clauses : List Clause) :
    Reachable (f.extend clauses) := by
  induction clauses generalizing f with
  | nil => exact h
  | cons clause clauses ih => exact ih (h.put clause)

/-! ## Normalizing -/

/-- **Normalizing leaves only the lower bounds to be seen to.** -/
theorem normal_normalized {f : Formula} (hcount : 1 ≤ f.count) (hsides : 2 ≤ f.sides)
    (hfactor : 1 ≤ f.factor) : f.normalized.Normal where
  one_le_count := hcount
  two_le_sides := hsides
  one_le_factor := hfactor
  scaling_of_factor h := if_pos h
  sign_of_amount h := if_pos h

/-- A normal formula is left as it is. -/
theorem Normal.normalized_eq {f : Formula} (h : f.Normal) : f.normalized = f := by
  have hscaling : (if f.factor = 1 then Scaling.multiply else f.scaling) = f.scaling := by
    split
    · exact (h.scaling_of_factor ‹_›).symm
    · rfl
  have hsign : (if f.amount = 0 then Sign.plus else f.sign) = f.sign := by
    split
    · exact (h.sign_of_amount ‹_›).symm
    · rfl
  rw [normalized, hscaling, hsign]

/-! ## Plain throws and clauses -/

theorem normal_dice (count sides : UInt32) : (dice count sides).Normal where
  one_le_count := Dice.one_le_clampCount count
  two_le_sides := Dice.two_le_clampSides sides
  one_le_factor := UInt32.le_refl 1
  scaling_of_factor _ := rfl
  sign_of_amount _ := rfl

theorem Normal.scaleBy {f : Formula} (h : f.Normal) (scaling : Scaling) (factor : UInt32) :
    (f.scaleBy scaling factor).Normal :=
  normal_normalized h.one_le_count h.two_le_sides (Dice.bound_le_max factor 1)

theorem Normal.shiftBy {f : Formula} (h : f.Normal) (sign : Sign) (amount : UInt32) :
    (f.shiftBy sign amount).Normal :=
  normal_normalized h.one_le_count h.two_le_sides h.one_le_factor

/-- **A clause keeps a formula normal**, whatever its number. -/
theorem Normal.put {f : Formula} (h : f.Normal) (clause : Clause) : (f.put clause).Normal := by
  cases clause with
  | times factor => exact h.scaleBy .multiply factor
  | dividedBy divisor => exact h.scaleBy .divide divisor
  | plus amount => exact h.shiftBy .plus amount
  | minus amount => exact h.shiftBy .minus amount

/-- A chain of clauses keeps a formula normal at each of its stages. -/
theorem Normal.of_mem_stages {f g : Formula} {clauses : List Clause} (h : f.Normal)
    (hg : g ∈ f.stages clauses) : g.Normal := by
  induction clauses generalizing f with
  | nil =>
      rw [List.mem_singleton.mp hg]
      exact h
  | cons clause clauses ih =>
      rcases List.mem_cons.mp hg with rfl | hg
      · exact h
      · exact ih (h.put clause) hg

/-! ## Building by parts -/

theorem scaleBy_one_dice (count sides : UInt32) :
    (dice count sides).scaleBy .multiply 1 = dice count sides :=
  (normal_dice count sides).normalized_eq

theorem Normal.shiftBy_zero {f : Formula} (h : f.Normal) (hamount : f.amount = 0) :
    f.shiftBy .plus 0 = f := by
  have hshift : ({ f with sign := .plus, amount := 0 } : Formula) = f := by
    rw [← h.sign_of_amount hamount, ← hamount]
  rw [Formula.shiftBy, hshift, h.normalized_eq]

/-- **Filling in all parts at once is building**: a plain throw, scaled and then shifted. -/
theorem normalized_eq_build (count sides : UInt32) (scaling : Scaling) {factor : UInt32}
    (hfactor : 1 ≤ factor) (sign : Sign) (amount : UInt32) :
    Formula.normalized
        { count := Dice.clampCount count, sides := Dice.clampSides sides,
          scaling := scaling, factor := factor, sign := sign, amount := amount } =
      ((dice count sides).scaleBy scaling factor).shiftBy sign amount := by
  have hmax : max factor 1 = factor := Dice.max_bound_of_le hfactor
  -- A factor of one is dropped on both sides, on the right before the shift is put on.
  by_cases hone : factor = 1
  · subst hone
    rfl
  · simp [Formula.shiftBy, Formula.scaleBy, normalized, dice, hmax, hone]

/-- **A normal formula is built from its own parts.** -/
theorem Normal.eq_build {f : Formula} (h : f.Normal) :
    ((dice f.count f.sides).scaleBy f.scaling f.factor).shiftBy f.sign f.amount = f := by
  rw [← normalized_eq_build _ _ _ h.one_le_factor, Dice.clampCount_of_le h.one_le_count,
    Dice.clampSides_of_le h.two_le_sides]
  exact h.normalized_eq

/-! ## Formulas in texts -/

/-- A factor that was read is at least one: the reader refuses zero. -/
theorem one_le_of_scaleClause? {cs rest : List Char} {scaling : Scaling} {factor : UInt32}
    (h : scaleClause? cs = some ((scaling, factor), rest)) : 1 ≤ factor := by
  cases cs with
  | nil => simp [scaleClause?] at h
  | cons c cs =>
      simp only [scaleClause?] at h
      split at h
      · split at h
        · simp at h
        · rename_i hfactor
          simp only [Option.some.injEq, Prod.mk.injEq] at h
          obtain ⟨⟨-, rfl⟩, -⟩ := h
          rw [UInt32.le_iff_toNat_le]
          exact Nat.one_le_iff_ne_zero.mpr fun hzero => hfactor (UInt32.toNat_inj.mp hzero)
      · simp at h

/-- So is the factor that stands for a missing scaling clause. -/
theorem one_le_factor_getD (cs rest : List Char) :
    1 ≤ ((scaleClause? cs).getD ((.multiply, 1), rest)).1.2 := by
  cases h : scaleClause? cs with
  | none => exact UInt32.le_refl 1
  | some clause => exact one_le_of_scaleClause? h

theorem normal_afterMark (count : UInt32) (cs : List Char) : (afterMark count cs).Normal :=
  normal_normalized (Dice.one_le_clampCount _) (Dice.two_le_clampSides _) (one_le_factor_getD _ _)

theorem normal_of_here? {cs : List Char} {f : Formula} (h : here? cs = some f) : f.Normal := by
  simp only [here?] at h
  split at h
  · simp at h
  · split at h
    · simp only [Option.some.injEq] at h
      rw [← h]
      exact normal_afterMark _ _
    · simp at h

/-- **A formula found in a text is normal**, at whatever position it starts. -/
theorem normal_of_find? {cs : List Char} {f : Formula} (h : find? cs = some f) : f.Normal := by
  induction cs with
  | nil => simp [find?] at h
  | cons c cs ih =>
      simp only [find?] at h
      split at h
      · rename_i g hg
        simp only [Option.some.injEq] at h
        rw [← h]
        exact normal_of_here? hg
      · exact ih h

theorem normal_of_parse {text : String} {f : Formula} (h : parse text = .ok f) : f.Normal := by
  simp only [parse] at h
  split at h
  · rename_i g hg
    rw [← Except.ok.inj h]
    exact normal_of_find? hg
  · simp at h

/-! ## Formulas in JSON -/

theorem normal_of_ofRecord? {record : Json.Record} {f : Formula} (h : ofRecord? record = some f) :
    f.Normal := by
  simp only [ofRecord?, Option.bind_eq_bind, Option.bind_eq_some_iff] at h
  obtain ⟨count, -, sides, -, scaling, -, factor, -, sign, -, amount, -, h⟩ := h
  rw [← Option.some.inj h]
  exact normal_normalized (Dice.one_le_clampCount count) (Dice.two_le_clampSides sides)
    (Dice.bound_le_max factor 1)

theorem normal_of_decode? {value : Json} {f : Formula} (h : Serial.decode? value = some f) :
    f.Normal := by
  obtain ⟨record, -, hrecord⟩ := Option.bind_eq_some_iff.mp h
  exact normal_of_ofRecord? hrecord

/-! ## All formulas -/

/-- **Every reachable formula is normal.** The induction is over the way the formula was built. -/
theorem Reachable.normal {f : Formula} (h : Reachable f) : f.Normal := by
  induction h with
  | dice count sides => exact normal_dice count sides
  | default => exact normal_dice 1 6
  | read h => exact normal_of_parse h
  | decoded h => exact normal_of_decode? h
  | put clause _ ih => exact ih.put clause

/-- **The invariant of formulas.** However a formula was built and whatever clauses are put on it
afterwards, it has at least one die of at least two faces and a factor of at least one, it
multiplies when its factor is one and adds when its amount is zero — at every stage. -/
theorem normal_of_mem_stages {f g : Formula} {clauses : List Clause} (h : Reachable f)
    (hg : g ∈ f.stages clauses) : g.Normal :=
  h.normal.of_mem_stages hg

/-- A record with every bound broken, and clauses on it that change nothing and something. -/
theorem normal_of_mem_stages_clamped :
    Reachable (dice 1 2) ∧
      ((dice 1 2).dividedBy 0).minus 7 ∈ (dice 1 2).stages [.dividedBy 0, .minus 7, .times 3] ∧
      (((dice 1 2).dividedBy 0).minus 7).Normal := by
  have hread : Serial.parse? "[0, 1, \"Divide\", 0, \"Minus\", 0]" = some (dice 1 2) := by
    decide +kernel
  have hreach : Reachable (dice 1 2) := .of_parse? hread
  have hmem : ((dice 1 2).dividedBy 0).minus 7 ∈
      (dice 1 2).stages [.dividedBy 0, .minus 7, .times 3] := by decide
  exact ⟨hreach, hmem, normal_of_mem_stages hreach hmem⟩

end Tabletop.Formula
