import Mathlib.Data.List.Forall2
import Tabletop.CommandLine.Run
import Tabletop.Proofs.Results

/-!
# Tabletop.Proofs.CommandLine.Output — what can be read off the output of a run

A run that ends well puts out lines, each with a line break behind it; a run that fails puts out
nothing. A line may have words in a style, between escapes. An escape starts with a character of its
own and goes on up to the next `m`, so a reader who skips escapes is left with the words as they
would stand without styles.

Read in this way, the line of a roll is the decimal numeral of its value, or the text of its formula,
a colon and that numeral.
-/

namespace Tabletop.CommandLine

/-! ## How a run ends -/

namespace Report

/-- **A run shows lines**: it ends well, and puts out these lines, each with a line break behind
it. -/
structure Shows (report : Report) (lines : List String) : Prop where
  done : report.ending = .done
  code : report.ending.code = 0
  output : report.output = String.join (lines.map fun line => line ++ "\n")

/-- **A run fails** with a message, and puts out nothing. -/
structure FailsWith (report : Report) (message : String) : Prop where
  failed : report.ending = .failed message
  code : report.ending.code = 1
  output : report.output = ""

theorem shows_of_lines {report : Report} {lines : List String} (hdone : report.ending = .done)
    (hlines : report.lines = lines) : report.Shows lines where
  done := hdone
  code := by rw [hdone, Ending.code]
  output := by rw [output, hlines]

theorem output_of_line {report : Report} {line : String} (h : report.lines = [line]) :
    report.output = line ++ "\n" := by
  rw [output, h, List.map_singleton, String.join_cons, String.join_nil, String.append_empty]

theorem failsWith_of_lines {report : Report} {message : String}
    (hfailed : report.ending = .failed message) (hlines : report.lines = []) :
    report.FailsWith message where
  failed := hfailed
  code := by rw [hfailed, Ending.code]
  output := by rw [output, hlines, List.map_nil, String.join_nil]

end Report

/-! ## Lines without their styles -/

/-- The characters that are left when escapes are skipped. Inside an escape all is skipped up to the
letter that ends it. -/
def plainChars (inEscape : Bool) : List Char → List Char
  | [] => []
  | c :: cs =>
    if inEscape then plainChars (c != 'm') cs
    else if c = '\x1b' then plainChars true cs
    else c :: plainChars false cs

/-- A text as it reads when escapes are skipped. -/
def unstyled (text : String) : String := String.ofList (plainChars false text.toList)

/-- Characters without an escape are all left. -/
theorem plainChars_append {cs : List Char} (h : '\x1b' ∉ cs) (rest : List Char) :
    plainChars false (cs ++ rest) = cs ++ plainChars false rest := by
  induction cs with
  | nil => rfl
  | cons c cs ih =>
      obtain ⟨hc, hcs⟩ := not_or.mp (mt List.mem_cons.mpr h)
      have hstays : c ≠ '\x1b' := Ne.symm hc
      simp only [List.cons_append, plainChars, Bool.false_eq_true, if_false, if_neg hstays, ih hcs]

/-- An escape is skipped up to its last letter. -/
theorem plainChars_escape {cs : List Char} (h : 'm' ∉ cs) (rest : List Char) :
    plainChars true (cs ++ 'm' :: rest) = plainChars false rest := by
  induction cs with
  | nil => rfl
  | cons c cs ih =>
      obtain ⟨hc, hcs⟩ := not_or.mp (mt List.mem_cons.mpr h)
      have hinside : (c != 'm') = true := bne_iff_ne.mpr (Ne.symm hc)
      simp only [List.cons_append, plainChars, if_true, hinside, ih hcs]

/-- **A styled word reads as the word.** -/
theorem Style.plainChars_paint (style : Style) (colors : Bool) {word : String}
    (h : '\x1b' ∉ word.toList) (rest : List Char) :
    plainChars false ((style.paint colors word).toList ++ rest) =
      word.toList ++ plainChars false rest := by
  cases colors with
  | false =>
      rw [paint_false]
      exact plainChars_append h rest
  | true =>
      -- Two escapes are skipped: the one that turns the style on, and the one that turns it off.
      have hparameters : 'm' ∉ '[' :: style.parameters.toList := by cases style <;> decide
      have hsplit : (style.paint true word).toList ++ rest =
          '\x1b' :: (('[' :: style.parameters.toList) ++
            'm' :: (word.toList ++ '\x1b' :: (['[', '0'] ++ 'm' :: rest))) := by
        simp [paint]
      have hskip (cs : List Char) : plainChars false ('\x1b' :: cs) = plainChars true cs := rfl
      rw [hsplit, hskip, plainChars_escape hparameters, plainChars_append h, hskip,
        plainChars_escape (by decide)]

/-- A styled word at the end of a line reads as the word. -/
theorem Style.plainChars_paint_last (style : Style) (colors : Bool) {word : String}
    (h : '\x1b' ∉ word.toList) :
    plainChars false (style.paint colors word).toList = word.toList := by
  have hplain := style.plainChars_paint colors h []
  rwa [List.append_nil, plainChars, List.append_nil] at hplain

theorem Style.unstyled_paint (style : Style) (colors : Bool) {word : String}
    (h : '\x1b' ∉ word.toList) : unstyled (style.paint colors word) = word := by
  rw [unstyled, style.plainChars_paint_last colors h, String.ofList_toList]

/-- Two styled words read as the two words, with what stands between them. -/
theorem unstyled_paint_append {first second : Style} {colors : Bool} {word between other : String}
    (hword : '\x1b' ∉ word.toList) (hbetween : '\x1b' ∉ between.toList)
    (hother : '\x1b' ∉ other.toList) :
    unstyled (first.paint colors word ++ between ++ second.paint colors other) =
      word ++ between ++ other := by
  rw [unstyled, String.toList_append, String.toList_append, List.append_assoc,
    first.plainChars_paint colors hword, plainChars_append hbetween,
    second.plainChars_paint_last colors hother, ← String.toList_inj]
  simp

/-- A character that is neither in a word nor in an escape is not in the styled word. -/
theorem Style.newLine_notMem_paint (style : Style) (colors : Bool) {word : String}
    (h : '\n' ∉ word.toList) : '\n' ∉ (style.paint colors word).toList := by
  cases colors with
  | false => exact h
  | true => cases style <;> simp [paint, parameters, h]

/-! ## The lines of rolls -/

/-- **A text is the decimal numeral of an integer**, and is read as it. -/
structure IsNumeral (text : String) (n : ℤ) : Prop where
  eq : text = toString n
  read : Numeral.integer? text.toList = some n

/-- **A line is the value of a roll**, in one piece. -/
structure TellsValue (line : String) (roll : FormulaRoll) : Prop where
  unbroken : '\n' ∉ line.toList
  value : IsNumeral line roll.value.toInt

/-- **A line is the formula of a roll with its value**, in one piece: without styles it is the text
of the formula, a colon and the numeral of the value, and the formula is read from it. -/
structure TellsFormula (colors : Bool) (line : String) (roll : FormulaRoll) : Prop where
  unbroken : '\n' ∉ line.toList
  plain : colors = false → unstyled line = line
  told : ∃ value, unstyled line = roll.formula.text ++ ":" ++ value ∧
    IsNumeral value roll.value.toInt
  read : Formula.parse (unstyled line) = .ok roll.formula

theorem isNumeral_valueLine (value : Int64) : IsNumeral (valueLine value) value.toInt where
  eq := Numeral.ofList_signed value.toInt
  read := by rw [valueLine, String.toList_ofList, Numeral.integer?_signed]

theorem notMem_valueLine {c : Char} (hdigit : c.isDigit = false) (hminus : c ≠ '-')
    (value : Int64) : c ∉ (valueLine value).toList := by
  rw [valueLine, String.toList_ofList]
  exact Numeral.notMem_signed hdigit hminus _

theorem notMem_text {c : Char} (hdigit : c.isDigit = false)
    (hother : c ∉ ['d', 'x', '÷', '+', '-']) (f : Formula) : c ∉ f.text.toList := by
  rw [Formula.text, String.toList_ofList]
  exact Formula.notMem_chars hdigit hother f

/-- The line of a roll without its formula. -/
theorem tellsValue_valueLine (roll : FormulaRoll) : TellsValue (valueLine roll.value) roll where
  unbroken := notMem_valueLine (by decide) (by decide) roll.value
  value := isNumeral_valueLine roll.value

/-- The line of a roll with its formula. -/
def verboseLine (colors : Bool) (roll : FormulaRoll) : String :=
  Style.bold.paint colors roll.formula.text ++ ":" ++
    Style.green.paint colors (valueLine roll.value)

/-- Without its styles the line of a roll is the text of the roll. -/
theorem unstyled_verboseLine (colors : Bool) (roll : FormulaRoll) :
    unstyled (verboseLine colors roll) = roll.formula.text ++ ":" ++ valueLine roll.value :=
  unstyled_paint_append (notMem_text (by decide) (by decide) roll.formula) (by decide)
    (notMem_valueLine (by decide) (by decide) roll.value)

theorem text_eq (roll : FormulaRoll) :
    roll.formula.text ++ ":" ++ valueLine roll.value = roll.text := by
  rw [← String.toList_inj, FormulaRoll.toList_text]
  simp [Formula.text, valueLine]

theorem tellsFormula_verboseLine (colors : Bool) {roll : FormulaRoll} (h : roll.formula.Normal) :
    TellsFormula colors (verboseLine colors roll) roll where
  unbroken := by
    have hformula := Style.bold.newLine_notMem_paint colors
      (notMem_text (by decide) (by decide) roll.formula)
    have hvalue := Style.green.newLine_notMem_paint colors
      (notMem_valueLine (by decide) (by decide) roll.value)
    simp [verboseLine, hformula, hvalue]
  plain hcolors := by
    rw [unstyled_verboseLine, verboseLine, hcolors, Style.paint_false, Style.paint_false]
  told := ⟨_, unstyled_verboseLine colors roll, isNumeral_valueLine roll.value⟩
  read := by
    rw [unstyled_verboseLine, text_eq]
    exact (FormulaRoll.readsBack h).parse_eq

end Tabletop.CommandLine
