import Tabletop.Formula.Roll
import Tabletop.Pool
import Tabletop.Proofs.Formula.Context
import Tabletop.Proofs.Formula.Text

/-!
# Tabletop.Proofs.Results — a result can be told from its text

The text of a rolled formula is the formula, a colon and the value. The colon is the only one, and
it ends the formula: no clause goes on with it, so a minus sign of the value is not taken for a
clause that takes an amount away. What follows the colon is the value as a signed numeral.

The text of a rolled pool lists the dice, each with a comma and a space behind it, and ends with the
outcome. A success starts with a number as a die does, but no comma follows that number; the other
outcomes start with a letter. So the place where the dice end can be told, and there is one way only
to read the text.
-/

namespace Tabletop

/-! ## Rolled formulas -/

namespace Formula

/-- **A formula is read from the front of a text** that does not go on with it. -/
theorem find?_chars_append {f : Formula} (h : f.Normal) {rest : List Char}
    (hrest : Reading.EndsFormula rest) : find? (f.chars ++ rest) = some f := by
  have hfront : ∀ c ∈ ([] : List Char), isMark c = false := List.forall_mem_nil _
  have hlast : ∀ c ∈ ([] : List Char).getLast?, c.isDigit = false := by simp
  have hmark : ∃ c ∈ f.chars, isMark c = true := ⟨'d', by simp [chars], rfl⟩
  have hfind : find? (f.chars ++ rest) = find? f.chars :=
    find?_surrounded hfront hlast hmark hrest
  rw [hfind, find?_chars h]

end Formula

namespace FormulaRoll

/-- **What the text of a rolled formula tells**: where the formula ends, the formula as a reader
finds it in the whole text, and the value. -/
structure ReadsBack (r : FormulaRoll) : Prop where
  /-- There is one colon. -/
  count_colon : r.text.toList.count ':' = 1
  /-- The formula is read from the whole text. -/
  parse_eq : Formula.parse r.text = .ok r.formula
  /-- The decimal form of the value follows the colon, and is read as the value. -/
  value_behind : ∀ before behind, r.text.toList = before ++ ':' :: behind →
    behind = Numeral.signed r.value.toInt ∧ Numeral.integer? behind = some r.value.toInt

theorem toList_text (r : FormulaRoll) :
    r.text.toList = r.formula.chars ++ ':' :: Numeral.signed r.value.toInt :=
  String.toList_ofList

theorem colon_notMem_chars (f : Formula) : ':' ∉ f.chars :=
  Formula.notMem_chars (by decide) (by decide) f

theorem colon_notMem_signed (n : ℤ) : ':' ∉ Numeral.signed n :=
  Numeral.notMem_signed (by decide) (by decide) n

/-- A colon ends a formula. -/
theorem endsFormula_colon (rest : List Char) : Formula.Reading.EndsFormula (':' :: rest) := by
  intro c hc
  rw [← Option.some.inj hc]
  decide

theorem readsBack {r : FormulaRoll} (h : r.formula.Normal) : r.ReadsBack where
  count_colon := by
    rw [toList_text, List.count_append, List.count_cons_self,
      List.count_eq_zero_of_not_mem (colon_notMem_chars r.formula),
      List.count_eq_zero_of_not_mem (colon_notMem_signed r.value.toInt)]
  parse_eq := by
    rw [Formula.parse, toList_text, Formula.find?_chars_append h (endsFormula_colon _)]
  value_behind before behind hsplit := by
    -- The text is cut at its only colon, so there is one way to cut it.
    have hbehind : behind = Numeral.signed r.value.toInt := by
      rw [toList_text] at hsplit
      have hcut := (List.append_cons_inj_of_notMem (colon_notMem_chars r.formula)
        (colon_notMem_signed r.value.toInt)).mp hsplit
      exact hcut.2.2.symm
    rw [hbehind]
    exact ⟨rfl, Numeral.integer?_signed r.value.toInt⟩

end FormulaRoll

/-! ## Rolled pools -/

namespace Pool

/-- The characters of a die in the text of a rolled pool. -/
def faceChars (face : UInt32) : List Char := Numeral.digits face.toNat ++ [',', ' ']

theorem Outcome.toList_text_success (successes : UInt32) :
    (Outcome.success successes).text.toList =
      Numeral.digits successes.toNat ++ " successes".toList := by
  show (toString successes.toNat ++ " successes").toList = _
  rw [String.toList_append, Numeral.toList_toString]

theorem Roll.toList_text (r : Roll) :
    r.text.toList = r.faces.flatMap faceChars ++ r.outcome.text.toList := by
  have hface : ∀ face : UInt32, (toString face.toNat ++ toString ", ").toList = faceChars face := by
    intro face
    rw [String.toList_append, Numeral.toList_toString]
    rfl
  rw [Roll.text, String.toList_append, String.toList_join, List.flatMap_map]
  simp only [hface]

theorem endsRun_successes : Numeral.EndsRun " successes".toList := Numeral.endsRun_cons rfl

theorem endsRun_comma (rest : List Char) : Numeral.EndsRun (',' :: rest) := Numeral.endsRun_cons rfl

theorem endsRun_failure : Numeral.EndsRun Outcome.failure.text.toList := Numeral.endsRun_cons rfl

theorem endsRun_fumble : Numeral.EndsRun Outcome.fumble.text.toList := Numeral.endsRun_cons rfl

/-- **A die is cut off in one way** from what follows it. -/
theorem faceChars_append_inj {face die : UInt32} {cs ds : List Char}
    (h : faceChars face ++ cs = faceChars die ++ ds) : face = die ∧ cs = ds := by
  rw [faceChars, faceChars, List.append_assoc, List.append_assoc] at h
  obtain ⟨hnumber, hrest⟩ := Numeral.digits_append_inj (endsRun_comma _) (endsRun_comma _) h
  have hbehind : [',', ' '] ++ cs = [',', ' '] ++ ds := hrest
  exact ⟨UInt32.toNat_inj.mp hnumber, List.append_cancel_left hbehind⟩

/-- **An outcome is not taken for a die**: the number of a success has no comma behind it. -/
theorem Outcome.toList_text_ne (outcome : Outcome) (face : UInt32) (rest : List Char) :
    outcome.text.toList ≠ faceChars face ++ rest := by
  rw [faceChars, List.append_assoc]
  cases outcome with
  | success successes =>
      rw [toList_text_success]
      intro h
      have hrest := (Numeral.digits_append_inj endsRun_successes (endsRun_comma _) h).2
      exact absurd (List.cons.inj hrest).1 (by decide)
  | failure => exact endsRun_failure.ne_digits_append _ _
  | fumble => exact endsRun_fumble.ne_digits_append _ _

/-- **Outcomes are told apart by their texts.** -/
theorem Outcome.eq_of_toList_text_eq {outcome other : Outcome}
    (h : outcome.text.toList = other.text.toList) : outcome = other := by
  have hnumber : ∀ (successes : UInt32) {cs : List Char}, Numeral.EndsRun cs →
      cs ≠ (Outcome.success successes).text.toList := by
    intro successes cs hcs
    rw [toList_text_success]
    exact hcs.ne_digits_append _ _
  cases outcome with
  | success successes =>
      cases other with
      | success more =>
          rw [toList_text_success, toList_text_success] at h
          have hcount := (Numeral.digits_append_inj endsRun_successes endsRun_successes h).1
          rw [UInt32.toNat_inj.mp hcount]
      | failure => exact absurd h.symm (hnumber successes endsRun_failure)
      | fumble => exact absurd h.symm (hnumber successes endsRun_fumble)
  | failure =>
      cases other with
      | success more => exact absurd h (hnumber more endsRun_failure)
      | failure => rfl
      | fumble => exact absurd h (by decide)
  | fumble =>
      cases other with
      | success more => exact absurd h (hnumber more endsRun_fumble)
      | failure => exact absurd h (by decide)
      | fumble => rfl

/-- **A list of dice with an outcome behind it is read in one way.** The induction takes one die
after another from both texts; where one of them has come to its outcome, so has the other. -/
theorem faces_append_inj {faces others : List UInt32} {outcome other : Outcome}
    (h : faces.flatMap faceChars ++ outcome.text.toList =
      others.flatMap faceChars ++ other.text.toList) : faces = others ∧ outcome = other := by
  induction faces generalizing others with
  | nil =>
      cases others with
      | nil => exact ⟨rfl, Outcome.eq_of_toList_text_eq h⟩
      | cons die others =>
          rw [List.flatMap_cons, List.append_assoc] at h
          exact absurd h (Outcome.toList_text_ne outcome die _)
  | cons face faces ih =>
      cases others with
      | nil =>
          rw [List.flatMap_cons, List.append_assoc] at h
          exact absurd h.symm (Outcome.toList_text_ne other face _)
      | cons die others =>
          rw [List.flatMap_cons, List.flatMap_cons, List.append_assoc, List.append_assoc] at h
          obtain ⟨hface, hrest⟩ := faceChars_append_inj h
          obtain ⟨hfaces, houtcome⟩ := ih hrest
          rw [hface, hfaces]
          exact ⟨rfl, houtcome⟩

/-- **The text of a rolled pool tells its dice and its outcome**, and nothing else. -/
theorem Roll.text_eq_iff {r other : Roll} :
    r.text = other.text ↔ r.faces = other.faces ∧ r.outcome = other.outcome := by
  constructor
  · intro h
    have hchars := congrArg String.toList h
    rw [toList_text, toList_text] at hchars
    exact faces_append_inj hchars
  · rintro ⟨hfaces, houtcome⟩
    rw [Roll.text, Roll.text, hfaces, houtcome]

end Pool

/-! ## Results -/

/-- **Results can be told from their texts.** The text of a roll of a reachable formula has one
colon; the formula is read from the whole of it, and what follows the colon is the value. The texts
of two rolled pools are the same exactly if the dice and the outcomes are. -/
theorem results_told_by_texts :
    (∀ r : FormulaRoll, Formula.Reachable r.formula → r.ReadsBack) ∧
      ∀ r other : Pool.Roll,
        r.text = other.text ↔ r.faces = other.faces ∧ r.outcome = other.outcome := by
  refine ⟨?_, ?_⟩
  · intro r h
    exact FormulaRoll.readsBack h.normal
  · intro r other
    exact Pool.Roll.text_eq_iff

/-- A value at the end of its range behind a formula without a clause, and a success that a die
could be taken for. -/
theorem results_told_by_texts_lookalike :
    let r : FormulaRoll := ⟨Formula.dice 4294967295 0, 0, Int64.minValue⟩
    let one : Pool.Roll := ⟨⟨6, 1, 1⟩, [1], 1, .success 1⟩
    let two : Pool.Roll := ⟨⟨6, 2, 1⟩, [1, 1], 0, .failure⟩
    (Formula.Reachable r.formula ∧ r.text = "4294967295d2:-9223372036854775808" ∧
        Formula.parse r.text = .ok (Formula.dice 4294967295 2) ∧
          Numeral.integer? "-9223372036854775808".toList = some r.value.toInt) ∧
      (one.text = "1, 1 successes" ∧ two.text = "1, 1, failure") ∧ one.text ≠ two.text := by
  intro r one two
  have hreach : Formula.Reachable r.formula := .dice 4294967295 0
  have htext : r.text = "4294967295d2:-9223372036854775808" := by decide +kernel
  have hread := results_told_by_texts.1 r hreach
  have hvalue := hread.value_behind "4294967295d2".toList "-9223372036854775808".toList (by
    rw [htext]
    decide +kernel)
  refine ⟨⟨hreach, htext, hread.parse_eq, hvalue.2⟩, ⟨by decide +kernel, by decide +kernel⟩, ?_⟩
  intro htexts
  have hfaces := ((results_told_by_texts.2 one two).mp htexts).1
  exact absurd hfaces (by decide)

end Tabletop
