import Tabletop.Proofs.Formula.Reading

/-!
# Tabletop.Proofs.Formula.Text — the canonical text of a formula reads back as the formula

The printer leaves out a factor of one and an amount of zero and writes everything else, with one
spelling each; the reader searches, reads greedily and fills in defaults. That reading undoes
printing rests on three facts. Every number is followed by a character that is no digit, so no
greedy run goes on into the next part. A printed numeral has no leading zero and fits, so every part
is taken. And what is left out is what the reader fills in, because the formula is normal.
-/

namespace Tabletop.Formula

open Reading

/-! ## Printed numerals as parts -/

theorem fits_digits (n : UInt32) : fits (Numeral.digits n.toNat) = true := by
  rw [fits, Numeral.value_digits]
  exact decide_eq_true n.toNat_lt

theorem wordOf_digits (n : UInt32) : wordOf (Numeral.digits n.toNat) = n := by
  rw [wordOf, Numeral.value_digits, UInt32.ofNat_toNat]

theorem wordOr_digits (k n : UInt32) : wordOr k (Numeral.digits n.toNat) = n := by
  rw [wordOr, if_neg (Numeral.digits_ne_nil _), wordOf_digits]

theorem isLiteral_digits (n : Nat) : isLiteral (Numeral.digits n) = true := by
  by_cases h : n = 0
  · rw [h, Numeral.digits_zero]
    rfl
  · have hhead := Numeral.head?_digits_ne_zero h
    have hne := Numeral.digits_ne_nil n
    simp [isLiteral, hhead, hne]

/-- **A greedy reader takes a printed numeral and no more**, if no digit follows. -/
theorem literal_digits_append (n : Nat) {rest : List Char} (h : Numeral.EndsRun rest) :
    literal (Numeral.digits n ++ rest) = Numeral.digits n := by
  rw [literal_append _ h]
  exact (literal_eq_self_iff (fun _ hc => Numeral.isDigit_of_mem_digits hc)
    (Numeral.digits_ne_nil n)).mpr (isLiteral_digits n)

theorem number_digits_append (n : UInt32) {rest : List Char} (h : Numeral.EndsRun rest) :
    number (Numeral.digits n.toNat ++ rest) = Numeral.digits n.toNat := by
  rw [number, literal_digits_append _ h, if_pos (fits_digits n)]

theorem countDigits_digits (n : UInt32) :
    countDigits (Numeral.digits n.toNat) = Numeral.digits n.toNat := by
  have hwhole := number_digits_append n Numeral.endsRun_nil
  rw [List.append_nil] at hwhole
  cases hds : Numeral.digits n.toNat with
  | nil => exact absurd hds (Numeral.digits_ne_nil _)
  | cons d ds =>
      rw [hds] at hwhole
      rw [countDigits_cons, if_pos hwhole]

/-! ## Printed clauses as parts -/

/-- The characters of the scaling clause. -/
def scaleChars (f : Formula) : List Char :=
  if f.factor = 1 then [] else f.scaling.char :: Numeral.digits f.factor.toNat

/-- The characters of the shift clause. -/
def shiftChars (f : Formula) : List Char :=
  if f.amount = 0 then [] else f.sign.char :: Numeral.digits f.amount.toNat

theorem endsRun_shiftChars (f : Formula) : Numeral.EndsRun f.shiftChars := by
  rw [shiftChars]
  split
  · exact Numeral.endsRun_nil
  · exact Numeral.endsRun_cons (by cases f.sign <;> rfl)

theorem endsRun_clauses (f : Formula) : Numeral.EndsRun (f.scaleChars ++ f.shiftChars) := by
  rw [scaleChars]
  split
  · exact endsRun_shiftChars f
  · exact Numeral.endsRun_cons (by cases f.scaling <;> rfl)

/-- A sign starts no scaling part. -/
theorem scale_shiftChars (f : Formula) : scale f.shiftChars = [] := by
  rw [shiftChars]
  split
  · rfl
  · have hchar : f.sign.char ∉ ['/', '÷', 'x', '*'] := by cases f.sign <;> decide
    exact if_neg fun h => hchar h.1

/-- **The scaling part of the clauses is the scaling clause**: an amount is not taken for a factor,
and a factor that is written is not zero. -/
theorem scale_clauses {f : Formula} (h : f.Normal) :
    scale (f.scaleChars ++ f.shiftChars) = f.scaleChars := by
  by_cases hfactor : f.factor = 1
  · rw [scaleChars, if_pos hfactor, List.nil_append]
    exact scale_shiftChars f
  · have hchar : f.scaling.char ∈ ['/', '÷', 'x', '*'] := by cases f.scaling <;> decide
    have hpos : 0 < Numeral.value (Numeral.digits f.factor.toNat) := by
      rw [Numeral.value_digits]
      exact UInt32.le_iff_toNat_le.mp h.one_le_factor
    rw [scaleChars, if_neg hfactor, List.cons_append, scale,
      literal_digits_append _ (endsRun_shiftChars f)]
    exact if_pos ⟨hchar, hpos, fits_digits f.factor⟩

theorem shift_shiftChars (f : Formula) : shift f.shiftChars = f.shiftChars := by
  by_cases hamount : f.amount = 0
  · rw [shiftChars, if_pos hamount]
    rfl
  · have hchar : f.sign.char ∈ ['+', '-'] := by cases f.sign <;> decide
    have hrun : (Numeral.digits f.amount.toNat).takeWhile Char.isDigit =
        Numeral.digits f.amount.toNat :=
      List.takeWhile_eq_self_iff.mpr fun _ hc => Numeral.isDigit_of_mem_digits hc
    rw [shiftChars, if_neg hamount, shift, hrun]
    exact if_pos ⟨hchar, Numeral.digits_ne_nil _, fits_digits f.amount⟩

/-- A formula is written with digits, the mark, operators and signs, and nothing else. -/
theorem notMem_chars {c : Char} (hdigit : c.isDigit = false)
    (hother : c ∉ ['d', 'x', '÷', '+', '-']) (f : Formula) : c ∉ f.chars := by
  simp only [List.mem_cons, List.not_mem_nil, or_false, not_or] at hother
  obtain ⟨hmark, hmultiply, hdivide, hplus, hminus⟩ := hother
  have hscaling : c ≠ f.scaling.char := by
    cases f.scaling with
    | multiply => exact hmultiply
    | divide => exact hdivide
  have hsign : c ≠ f.sign.char := by
    cases f.sign with
    | plus => exact hplus
    | minus => exact hminus
  rw [chars]
  split <;> split <;> simp [Numeral.notMem_digits hdigit, hmark, hscaling, hsign]

/-! ## What printed clauses say -/

theorem extend_clauses_scaleChars {f : Formula} (h : f.Normal) :
    (dice f.count f.sides).extend (clauses f.scaleChars) =
      (dice f.count f.sides).scaleBy f.scaling f.factor := by
  by_cases hfactor : f.factor = 1
  · rw [scaleChars, if_pos hfactor, h.scaling_of_factor hfactor, hfactor, scaleBy_one_dice]
    rfl
  · rw [scaleChars, if_neg hfactor]
    cases hscaling : f.scaling with
    | multiply => exact congrArg (Formula.times _) (wordOf_digits f.factor)
    | divide => exact congrArg (Formula.dividedBy _) (wordOf_digits f.factor)

theorem extend_clauses_shiftChars {f g : Formula} (h : f.Normal) (hg : g.Normal)
    (hamount : g.amount = 0) :
    g.extend (clauses f.shiftChars) = g.shiftBy f.sign f.amount := by
  by_cases hzero : f.amount = 0
  · rw [shiftChars, if_pos hzero, h.sign_of_amount hzero, hzero, hg.shiftBy_zero hamount]
    rfl
  · rw [shiftChars, if_neg hzero]
    cases hsign : f.sign with
    | plus => exact congrArg (Formula.plus g) (wordOf_digits f.amount)
    | minus => exact congrArg (Formula.minus g) (wordOf_digits f.amount)

/-! ## Whole formulas -/

/-- **A normal formula is found in its characters.** -/
theorem find?_chars {f : Formula} (h : f.Normal) : find? f.chars = some f := by
  have hchars : f.chars = Numeral.digits f.count.toNat ++
      'd' :: (Numeral.digits f.sides.toNat ++ (f.scaleChars ++ f.shiftChars)) := by
    simp [chars, scaleChars, shiftChars]
  have hcount : ∀ c ∈ Numeral.digits f.count.toNat, isMark c = false := by
    intro c hc
    have hdigit := Numeral.isDigit_of_mem_digits hc
    cases hmark : isMark c with
    | false => rfl
    | true => exact absurd hdigit (by simp [isDigit_eq_false_of_isMark hmark])
  have hnormal := (normal_dice f.count f.sides).scaleBy f.scaling f.factor
  -- Each part of the text is the clause that was printed, so only the clauses' meaning is left.
  rw [hchars, find?_append_mark hcount rfl]
  simp only [Reading.formula, behind, countDigits_digits, wordOr_digits,
    number_digits_append _ (endsRun_clauses f), List.drop_left, scale_clauses h, shift_shiftChars]
  rw [extend_append, extend_clauses_scaleChars h, extend_clauses_shiftChars h hnormal rfl,
    h.eq_build]

/-- **The canonical text of a formula reads back as the formula**, and so no two formulas have the
same text. -/
theorem parse_text {f : Formula} (h : Reachable f) :
    parse f.text = .ok f ∧ ∀ g, Reachable g → g.text = f.text → g = f := by
  have hread : ∀ g : Formula, Reachable g → parse g.text = .ok g := by
    intro g hg
    rw [parse, text, String.toList_ofList, find?_chars hg.normal]
  refine ⟨hread f h, fun g hg htext => ?_⟩
  have hsame := hread g hg
  rw [htext, hread f h] at hsame
  exact (Except.ok.inj hsame).symm

/-- Four numbers at the ends of their ranges, with a clause that was put on and replaced. -/
theorem parse_text_extreme :
    Reachable ((((dice 4294967295 0).times 7).dividedBy 4294967295).minus 10) ∧
      parse ((((dice 4294967295 0).times 7).dividedBy 4294967295).minus 10).text =
          .ok ((((dice 4294967295 0).times 7).dividedBy 4294967295).minus 10) ∧
        ∀ g, Reachable g →
          g.text = ((((dice 4294967295 0).times 7).dividedBy 4294967295).minus 10).text →
            g = (((dice 4294967295 0).times 7).dividedBy 4294967295).minus 10 := by
  have h : Reachable ((((dice 4294967295 0).times 7).dividedBy 4294967295).minus 10) :=
    (Reachable.dice 4294967295 0).extend [.times 7, .dividedBy 4294967295, .minus 10]
  exact ⟨h, parse_text h⟩

end Tabletop.Formula
