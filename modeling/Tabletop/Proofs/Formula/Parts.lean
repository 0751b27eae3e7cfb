import Mathlib.Data.List.Infix
import Tabletop.Formula.Reader
import Tabletop.Proofs.Text.Numeral

/-!
# Tabletop.Proofs.Formula.Parts — a text cut into the parts of a formula

`Reading.ofText` says what a text reads as without searching it. The first mark of the text cuts it
in two. The number of dice is the longest literal that ends before the mark and fits in a word. What
follows the mark is cut into three parts (faces, scaling, shift), each of them taken greedily or not
at all, and the clauses that the last two parts say are put on a plain throw.

A part is a prefix of its text, and what follows the text changes it only if it continues the part:
a digit lengthens a number, an operator or a sign starts a further part.
-/

namespace Tabletop.Formula

namespace Reading

/-! ## The parts of a text -/

/-- Digits that a word has room for. -/
def fits (ds : List Char) : Bool := Numeral.value ds < UInt32.size

/-- The word of some digits. -/
def wordOf (ds : List Char) : UInt32 := UInt32.ofNat (Numeral.value ds)

/-- The word of some digits, or another one where there are none. -/
def wordOr (n : UInt32) (ds : List Char) : UInt32 := if ds = [] then n else wordOf ds

/-- A literal is a single zero, or digits of which the first is none. -/
def isLiteral (ds : List Char) : Bool := ds == ['0'] || (ds != [] && ds.head? != some '0')

/-- **The digits of the number of dice**: of the run of digits that a text ends in, the longest
suffix that is a literal and fits. The suffixes are tried from the longest down. -/
def countDigits (before : List Char) : List Char :=
  ((before.rtakeWhile Char.isDigit).tails.find? fun ds => isLiteral ds && fits ds).getD []

/-- The greedy literal at the front: a zero, or else all the digits there. -/
def literal (cs : List Char) : List Char :=
  if cs.head? = some '0' then ['0'] else cs.takeWhile Char.isDigit

/-- The literal at the front if it fits, and no part otherwise. -/
def number (cs : List Char) : List Char := if fits (literal cs) then literal cs else []

/-- The scaling part at the front: an operator and a literal that fits and is not zero. -/
def scale : List Char → List Char
  | [] => []
  | c :: cs =>
    if c ∈ ['/', '÷', 'x', '*'] ∧ 0 < Numeral.value (literal cs) ∧ fits (literal cs) then
      c :: literal cs
    else []

/-- The shift part at the front: a sign and a run of digits that fits. -/
def shift : List Char → List Char
  | [] => []
  | c :: cs =>
    let ds := cs.takeWhile Char.isDigit
    if c ∈ ['+', '-'] ∧ ds ≠ [] ∧ fits ds then c :: ds else []

/-- The clause that a part says, if it is one. -/
def clauses : List Char → List Clause
  | [] => []
  | c :: ds =>
    if c = '/' ∨ c = '÷' then [.dividedBy (wordOf ds)]
    else if c = 'x' ∨ c = '*' then [.times (wordOf ds)]
    else if c = '+' then [.plus (wordOf ds)]
    else if c = '-' then [.minus (wordOf ds)]
    else []

/-- The formula of so many dice that the text after a mark says. -/
def behind (count : UInt32) (after : List Char) : Formula :=
  let faces := number after
  let rest := after.drop faces.length
  let factor := scale rest
  let amount := shift (rest.drop factor.length)
  (dice count (wordOr 6 faces)).extend (clauses factor ++ clauses amount)

/-- **The formula around a mark**, given what stands before the mark and after it. -/
def formula (before after : List Char) : Formula := behind (wordOr 1 (countDigits before)) after

/-- **What a text reads as**: the formula around its first mark, or what is said of a text without
one. -/
def ofText (text : String) : Except String Formula :=
  match text.toList.dropWhile fun c => c != 'd' && c != 'D' with
  | [] => .error "invalid dice formula: found end of input expected any, '0', 'd', or 'D'"
  | _ :: after => .ok (formula (text.toList.takeWhile fun c => c != 'd' && c != 'D') after)

/-! ## Numbers -/

theorem isDigit_of_mem_literal {c : Char} {cs : List Char} (h : c ∈ literal cs) :
    c.isDigit = true := by
  rw [literal] at h
  split at h
  · rw [List.mem_singleton.mp h]
    rfl
  · exact List.mem_takeWhile_imp h

theorem literal_isPrefix (cs : List Char) : literal cs <+: cs := by
  rw [literal]
  split
  · rename_i hzero
    cases cs with
    | nil => simp at hzero
    | cons c cs =>
        rw [List.head?_cons, Option.some.injEq] at hzero
        exact ⟨cs, by rw [hzero]; rfl⟩
  · exact List.takeWhile_prefix _

/-- What starts with no digit does not lengthen a literal. -/
theorem literal_append (cs : List Char) {rest : List Char} (h : Numeral.EndsRun rest) :
    literal (cs ++ rest) = literal cs := by
  have hhead : (cs ++ rest).head? = some '0' ↔ cs.head? = some '0' := by
    cases cs with
    | nil =>
        refine ⟨fun hzero => ?_, fun hzero => by simp at hzero⟩
        exact absurd (h '0' hzero) (by decide)
    | cons c cs => rfl
  rw [literal, literal, Numeral.takeWhile_isDigit_append cs h]
  simp only [hhead]

theorem isDigit_of_mem_number {c : Char} {cs : List Char} (h : c ∈ number cs) :
    c.isDigit = true := by
  rw [number] at h
  split at h
  · exact isDigit_of_mem_literal h
  · exact absurd h List.not_mem_nil

theorem number_isPrefix (cs : List Char) : number cs <+: cs := by
  rw [number]
  split
  · exact literal_isPrefix cs
  · exact List.nil_prefix

theorem number_append (cs : List Char) {rest : List Char} (h : Numeral.EndsRun rest) :
    number (cs ++ rest) = number cs := by
  rw [number, number, literal_append cs h]

/-- Digits are the greedy literal at their front as a whole exactly when they are a literal. -/
theorem literal_eq_self_iff {cs : List Char} (h : ∀ c ∈ cs, c.isDigit = true) (hne : cs ≠ []) :
    literal cs = cs ↔ isLiteral cs = true := by
  rw [literal, isLiteral]
  split
  · rename_i hzero
    refine ⟨fun h => by simp [← h], fun h => ?_⟩
    have hcs : cs = ['0'] := by simpa [hzero] using h
    exact hcs.symm
  · rename_i hzero
    have hrun : cs.takeWhile Char.isDigit = cs := List.takeWhile_eq_self_iff.mpr h
    simp [hrun, hzero, hne]

/-- Digits are a number as a whole exactly when they are a literal and fit. -/
theorem number_eq_self_iff {cs : List Char} (h : ∀ c ∈ cs, c.isDigit = true) (hne : cs ≠ []) :
    number cs = cs ↔ (isLiteral cs && fits cs) = true := by
  rw [Bool.and_eq_true, ← literal_eq_self_iff h hne, number]
  constructor
  · intro hnumber
    split at hnumber
    · rename_i hfits
      exact ⟨hnumber, hnumber ▸ hfits⟩
    · exact absurd hnumber.symm hne
  · rintro ⟨hliteral, hfits⟩
    rw [hliteral, if_pos hfits]

/-! ## The number of dice -/

/-- **The longest count, one character at a time.** -/
theorem countDigits_cons (c : Char) (cs : List Char) :
    countDigits (c :: cs) = if number (c :: cs) = c :: cs then c :: cs else countDigits cs := by
  by_cases hall : ∀ d ∈ c :: cs, d.isDigit = true
  · -- The text is its own run of digits, and the first suffix of it that is tried.
    have hrun : (c :: cs).rtakeWhile Char.isDigit = c :: cs :=
      List.rtakeWhile_eq_self_iff.mpr hall
    have hrest : cs.rtakeWhile Char.isDigit = cs :=
      List.rtakeWhile_eq_self_iff.mpr (List.forall_mem_cons.mp hall).2
    rw [countDigits, hrun, List.tails_cons, List.find?_cons, countDigits, hrest]
    split <;> rename_i hcount
    · rw [if_pos ((number_eq_self_iff hall (List.cons_ne_nil c cs)).mpr hcount)]
      rfl
    · have hpart : number (c :: cs) ≠ c :: cs := by
        intro h
        rw [(number_eq_self_iff hall (List.cons_ne_nil c cs)).mp h] at hcount
        exact Bool.false_ne_true hcount.symm
      rw [if_neg hpart]
  · -- A character that is no digit ends the run, and no number goes over it.
    have hpart : number (c :: cs) ≠ c :: cs := by
      intro h
      refine hall fun d hd => ?_
      rw [← h] at hd
      exact isDigit_of_mem_number hd
    rw [if_neg hpart, countDigits, Numeral.rtakeWhile_isDigit_cons,
      if_neg (by simpa using hall), countDigits]

/-- What stands in front of a count does not lengthen it, if it ends in no digit. -/
theorem countDigits_append {front : List Char} (cs : List Char)
    (h : ∀ c ∈ front.getLast?, c.isDigit = false) :
    countDigits (front ++ cs) = countDigits cs := by
  have hends : Numeral.EndsRun front.reverse := by
    rw [Numeral.EndsRun, List.head?_reverse]
    exact h
  have hrun : (front ++ cs).rtakeWhile Char.isDigit = cs.rtakeWhile Char.isDigit := by
    rw [List.rtakeWhile, List.reverse_append, Numeral.takeWhile_isDigit_append _ hends,
      List.rtakeWhile]
  rw [countDigits, hrun, countDigits]

/-! ## What follows a formula -/

/-- The text continues no formula: it starts with no digit, operator or sign. -/
def EndsFormula (cs : List Char) : Prop :=
  ∀ c ∈ cs.head?, c.isDigit = false ∧ c ∉ ['/', '÷', 'x', '*', '+', '-']

theorem EndsFormula.endsRun {cs : List Char} (h : EndsFormula cs) : Numeral.EndsRun cs :=
  fun c hc => (h c hc).1

theorem scale_isPrefix (cs : List Char) : scale cs <+: cs := by
  cases cs with
  | nil => exact List.nil_prefix
  | cons c cs =>
      rw [scale]
      split
      · exact List.cons_prefix_cons.mpr ⟨rfl, literal_isPrefix cs⟩
      · exact List.nil_prefix

theorem scale_append (cs : List Char) {rest : List Char} (h : EndsFormula rest) :
    scale (cs ++ rest) = scale cs := by
  cases cs with
  | nil =>
      cases rest with
      | nil => rfl
      | cons c rest => exact if_neg fun hop => (h c rfl).2 (List.mem_append_left ['+', '-'] hop.1)
  | cons c cs => simp only [List.cons_append, scale, literal_append cs h.endsRun]

theorem shift_append (cs : List Char) {rest : List Char} (h : EndsFormula rest) :
    shift (cs ++ rest) = shift cs := by
  cases cs with
  | nil =>
      cases rest with
      | nil => rfl
      | cons c rest =>
          exact if_neg fun hsign =>
            (h c rfl).2 (List.mem_append_right ['/', '÷', 'x', '*'] hsign.1)
  | cons c cs =>
      simp only [List.cons_append, shift, Numeral.takeWhile_isDigit_append cs h.endsRun]

/-- **A formula is the same in any surroundings** that neither end in a digit nor continue it. -/
theorem formula_append {front : List Char} (before after : List Char) {rest : List Char}
    (hfront : ∀ c ∈ front.getLast?, c.isDigit = false) (hrest : EndsFormula rest) :
    formula (front ++ before) (after ++ rest) = formula before after := by
  have hdrop : ∀ {part cs : List Char}, part <+: cs →
      (cs ++ rest).drop part.length = cs.drop part.length ++ rest := fun h =>
    List.drop_append_of_le_length h.length_le
  simp only [formula, behind, countDigits_append before hfront, number_append after hrest.endsRun,
    hdrop (number_isPrefix after), scale_append _ hrest, hdrop (scale_isPrefix _),
    shift_append _ hrest]

end Reading

end Tabletop.Formula
