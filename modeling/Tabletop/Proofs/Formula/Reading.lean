import Tabletop.Proofs.Formula.Normal
import Tabletop.Proofs.Formula.Parts

/-!
# Tabletop.Proofs.Formula.Reading — the reader finds what stands around the first mark

The reader searches: it tries a formula at each position in turn and takes the first that matches.
Here the search is shown to end at the first mark, with what `Reading.formula` makes of the text
before the mark and after it.

The readers of single clauses come first, each matched with the part of the text that it takes. The
search itself is an induction over the skipped text, one position at a time. On the other side that
takes the suffixes of a run of digits from the longest down, since a formula starts at a position
exactly when all that stands between it and the mark is a number.
-/

namespace Tabletop.Formula

open Reading

/-! ## Literals and runs -/

theorem digitRun?_eq (cs : List Char) :
    digitRun? cs =
      if cs.takeWhile Char.isDigit ≠ [] ∧ fits (cs.takeWhile Char.isDigit) then
        some (wordOf (cs.takeWhile Char.isDigit), cs.drop (cs.takeWhile Char.isDigit).length)
      else none := by
  rw [digitRun?, Numeral.dropWhile_isDigit]
  cases hds : cs.takeWhile Char.isDigit with
  | nil => simp
  | cons d ds =>
      simp only [Numeral.word32?_eq, fits, wordOf]
      split <;> simp_all

theorem literal?_eq (cs : List Char) :
    literal? cs =
      if literal cs ≠ [] ∧ fits (literal cs) then
        some (wordOf (literal cs), cs.drop (literal cs).length)
      else none := by
  -- A zero in front is a literal by itself, whatever digits follow it.
  by_cases hzero : cs.head? = some '0'
  · obtain ⟨rest, rfl⟩ : ∃ rest, cs = '0' :: rest := by
      cases cs with
      | nil => simp at hzero
      | cons c rest => exact ⟨rest, by simpa using hzero⟩
    have hfits : fits ['0'] = true := by decide
    have hword : wordOf ['0'] = 0 := by decide
    simp [literal?, literal, hfits, hword]
  · have hrun : literal? cs = digitRun? cs := by
      unfold literal?
      split
      · simp at hzero
      · rfl
    rw [hrun, digitRun?_eq, literal, if_neg hzero]

/-- **An optional number**: its word or another one, and the text without its digits. -/
theorem getD_literal? (n : UInt32) (cs : List Char) :
    (literal? cs).getD (n, cs) = (wordOr n (number cs), cs.drop (number cs).length) := by
  rw [literal?_eq, number]
  by_cases hfits : fits (literal cs) = true
  · by_cases hnil : literal cs = []
    · simp [hnil, wordOr]
    · simp [hnil, hfits, wordOr]
  · simp [hfits, wordOr]

/-! ## Clauses

Each clause reader is matched with the part of the text that it takes. The part's clause does to a
formula what the pair does that the reader gives, or the pair that stands for no clause. -/

/-- Digits that fit are the word zero only when they denote zero. -/
theorem wordOf_ne_zero {ds : List Char} (hpos : 0 < Numeral.value ds) (hfits : fits ds = true) :
    wordOf ds ≠ 0 := by
  intro hzero
  have hvalue : (wordOf ds).toNat = Numeral.value ds :=
    UInt32.toNat_ofNat_of_lt (of_decide_eq_true hfits)
  rw [hzero] at hvalue
  exact hpos.ne' hvalue.symm

/-- An operator says how its part scales; no other character is one. -/
theorem scalingOf?_eq (c : Char) :
    (c ∉ ['/', '÷', 'x', '*'] ∧ scalingOf? c = none) ∨
      (c ∈ ['/', '÷', 'x', '*'] ∧ ∃ scaling, scalingOf? c = some scaling ∧
        ∀ ds (f : Formula), f.extend (clauses (c :: ds)) = f.scaleBy scaling (wordOf ds)) := by
  by_cases hdivide : c = '/' ∨ c = '÷'
  · refine .inr ⟨by rcases hdivide with rfl | rfl <;> simp, .divide, ?_, fun ds f => ?_⟩
    · rcases hdivide with rfl | rfl <;> rfl
    · rw [clauses, if_pos hdivide]
      rfl
  · by_cases hmultiply : c = 'x' ∨ c = '*'
    · refine .inr ⟨by rcases hmultiply with rfl | rfl <;> simp, .multiply, ?_, fun ds f => ?_⟩
      · rcases hmultiply with rfl | rfl <;> rfl
      · rw [clauses, if_neg hdivide, if_pos hmultiply]
        rfl
    · refine .inl ⟨?_, ?_⟩
      · simp_all
      · simp_all [scalingOf?]

/-- A sign says how its part shifts; no other character is one. -/
theorem signOf?_eq (c : Char) :
    (c ∉ ['+', '-'] ∧ signOf? c = none) ∨
      (c ∈ ['+', '-'] ∧ ∃ sign, signOf? c = some sign ∧
        ∀ ds (f : Formula), f.extend (clauses (c :: ds)) = f.shiftBy sign (wordOf ds)) := by
  by_cases hplus : c = '+'
  · subst hplus
    exact .inr ⟨by simp, .plus, rfl, fun ds f => rfl⟩
  · by_cases hminus : c = '-'
    · subst hminus
      exact .inr ⟨by simp, .minus, rfl, fun ds f => rfl⟩
    · exact .inl ⟨by simp [hplus, hminus], by simp [signOf?, hplus, hminus]⟩

/-- An operator in front of a literal that fits and is not zero is a clause. -/
theorem scaleClause?_of_fits {c : Char} {cs : List Char} {scaling : Scaling}
    (hop : scalingOf? c = some scaling) (hpos : 0 < Numeral.value (literal cs))
    (hfits : fits (literal cs) = true) :
    scaleClause? (c :: cs) =
      some ((scaling, wordOf (literal cs)), cs.drop (literal cs).length) := by
  have hnil : literal cs ≠ [] := by
    intro h
    rw [h] at hpos
    exact absurd hpos (by decide)
  rw [scaleClause?, hop, literal?_eq, if_pos ⟨hnil, hfits⟩]
  exact if_neg (wordOf_ne_zero hpos hfits)

/-- An operator in front of anything else is none. -/
theorem scaleClause?_of_not_fits {c : Char} {cs : List Char} {scaling : Scaling}
    (hop : scalingOf? c = some scaling)
    (hword : ¬(0 < Numeral.value (literal cs) ∧ fits (literal cs))) :
    scaleClause? (c :: cs) = none := by
  rw [scaleClause?, hop, literal?_eq]
  by_cases hlit : literal cs ≠ [] ∧ fits (literal cs)
  · -- A literal that fits and makes no clause denotes zero.
    have hzero : wordOf (literal cs) = 0 := by
      rw [wordOf, Nat.eq_zero_of_not_pos fun hpos => hword ⟨hpos, hlit.2⟩]
      rfl
    rw [if_pos hlit]
    exact if_pos hzero
  · rw [if_neg hlit]

/-- **An optional scaling clause.** -/
theorem getD_scaleClause? (cs : List Char) :
    ∃ scaling factor,
      (scaleClause? cs).getD ((.multiply, 1), cs) =
          ((scaling, factor), cs.drop (scale cs).length) ∧
        1 ≤ factor ∧
        ∀ count sides, (dice count sides).extend (clauses (scale cs)) =
          (dice count sides).scaleBy scaling factor := by
  -- Without a clause the defaults stand, and they change nothing.
  have habsent : ∀ count sides, (dice count sides).extend (clauses []) =
      (dice count sides).scaleBy .multiply 1 := by
    intro count sides
    exact (scaleBy_one_dice count sides).symm
  cases cs with
  | nil => exact ⟨.multiply, 1, rfl, UInt32.le_refl 1, habsent⟩
  | cons c cs =>
      rcases scalingOf?_eq c with ⟨hop, hnone⟩ | ⟨hop, scaling, hsome, hclause⟩
      · have hpart : scale (c :: cs) = [] := if_neg fun h => hop h.1
        rw [hpart, scaleClause?, hnone]
        exact ⟨.multiply, 1, rfl, UInt32.le_refl 1, habsent⟩
      · by_cases hword : 0 < Numeral.value (literal cs) ∧ fits (literal cs)
        · have hpart : scale (c :: cs) = c :: literal cs := if_pos ⟨hop, hword⟩
          have hread := scaleClause?_of_fits hsome hword.1 hword.2
          rw [hread, hpart]
          exact ⟨scaling, wordOf (literal cs), rfl, one_le_of_scaleClause? hread,
            fun _ _ => hclause _ _⟩
        · have hpart : scale (c :: cs) = [] := if_neg fun h => hword h.2
          rw [scaleClause?_of_not_fits hsome hword, hpart]
          exact ⟨.multiply, 1, rfl, UInt32.le_refl 1, habsent⟩

/-- **An optional shift clause.** -/
theorem getD_shiftClause? (cs : List Char) :
    ∃ sign amount rest,
      (shiftClause? cs).getD ((.plus, 0), cs) = ((sign, amount), rest) ∧
        ∀ f : Formula, f.Normal → f.amount = 0 →
          f.extend (clauses (shift cs)) = f.shiftBy sign amount := by
  have habsent : ∀ f : Formula, f.Normal → f.amount = 0 →
      f.extend (clauses []) = f.shiftBy .plus 0 := by
    intro f hf hamount
    exact (hf.shiftBy_zero hamount).symm
  cases cs with
  | nil => exact ⟨.plus, 0, [], rfl, habsent⟩
  | cons c cs =>
      rcases signOf?_eq c with ⟨hsign, hnone⟩ | ⟨hsign, sign, hsome, hclause⟩
      · have hpart : shift (c :: cs) = [] := if_neg fun h => hsign h.1
        rw [hpart, shiftClause?, hnone]
        exact ⟨.plus, 0, c :: cs, rfl, habsent⟩
      · by_cases hword : cs.takeWhile Char.isDigit ≠ [] ∧ fits (cs.takeWhile Char.isDigit)
        · have hpart : shift (c :: cs) = c :: cs.takeWhile Char.isDigit := if_pos ⟨hsign, hword⟩
          rw [hpart, shiftClause?, hsome, digitRun?_eq, if_pos hword]
          exact ⟨sign, _, _, rfl, fun f _ _ => hclause _ f⟩
        · have hpart : shift (c :: cs) = [] := if_neg fun h => hword h.2
          rw [hpart, shiftClause?, hsome, digitRun?_eq, if_neg hword]
          exact ⟨.plus, 0, c :: cs, rfl, habsent⟩

/-- **What the reader makes of the text after a mark** is what its parts say. -/
theorem afterMark_eq (count : UInt32) (cs : List Char) : afterMark count cs = behind count cs := by
  obtain ⟨scaling, factor, hscale, hfactor, hscaled⟩ :=
    getD_scaleClause? (cs.drop (number cs).length)
  obtain ⟨sign, amount, rest, hshift, hshifted⟩ :=
    getD_shiftClause? ((cs.drop (number cs).length).drop
      (scale (cs.drop (number cs).length)).length)
  have hread : afterMark count cs =
      ((dice count (wordOr 6 (number cs))).scaleBy scaling factor).shiftBy sign amount := by
    simp only [afterMark, getD_literal?, hscale, hshift]
    exact normalized_eq_build count _ scaling hfactor sign amount
  have hnormal := (normal_dice count (wordOr 6 (number cs))).scaleBy scaling factor
  simp only [hread, behind, extend_append, hscaled, hshifted _ hnormal rfl]

/-! ## The search -/

/-- A mark is no digit. -/
theorem isDigit_eq_false_of_isMark {c : Char} (h : isMark c = true) : c.isDigit = false := by
  simp only [isMark, Bool.or_eq_true, decide_eq_true_eq] at h
  rcases h with rfl | rfl <;> rfl

/-- After an optional number, the next character decides whether a formula starts. -/
theorem here?_of_drop {cs rest : List Char} {c : Char}
    (h : cs.drop (number cs).length = c :: rest) :
    here? cs = if isMark c then some (afterMark (wordOr 1 (number cs)) rest) else none := by
  simp only [here?, getD_literal?, h]

/-- Where a text without marks is followed by one, a formula starts at its front exactly when it is
a number as a whole. -/
theorem here?_append_mark {cs after : List Char} {mark : Char} (hcs : ∀ c ∈ cs, isMark c = false)
    (hmark : isMark mark = true) :
    here? (cs ++ mark :: after) =
      if number cs = cs then some (afterMark (wordOr 1 cs) after) else none := by
  have hnumber : number (cs ++ mark :: after) = number cs :=
    number_append cs (Numeral.endsRun_cons (isDigit_eq_false_of_isMark hmark))
  have hdrop : (cs ++ mark :: after).drop (number (cs ++ mark :: after)).length =
      cs.drop (number cs).length ++ mark :: after := by
    rw [hnumber]
    exact List.drop_append_of_le_length (number_isPrefix cs).length_le
  cases hrest : cs.drop (number cs).length with
  | nil =>
      -- The number goes up to the mark.
      have hwhole : number cs = cs :=
        (number_isPrefix cs).eq_of_length_le (List.drop_eq_nil_iff.mp hrest)
      rw [hrest, List.nil_append] at hdrop
      rw [here?_of_drop hdrop, if_pos hmark, hnumber, hwhole, if_pos rfl]
  | cons c rest =>
      -- The number stops at a character in front of the mark, and that one is no mark.
      have hpart : number cs ≠ cs := by
        intro h
        rw [h, List.drop_length] at hrest
        exact List.cons_ne_nil c rest hrest.symm
      have hc : isMark c = false := hcs c (List.mem_of_mem_drop (hrest ▸ List.mem_cons_self))
      rw [hrest, List.cons_append] at hdrop
      rw [here?_of_drop hdrop, if_neg (by simp [hc]), if_neg hpart]

/-- **The search ends at the first mark.** -/
theorem find?_append_mark {before after : List Char} {mark : Char}
    (hbefore : ∀ c ∈ before, isMark c = false) (hmark : isMark mark = true) :
    find? (before ++ mark :: after) = some (Reading.formula before after) := by
  have hfound : find? (before ++ mark :: after) =
      some (afterMark (wordOr 1 (countDigits before)) after) := by
    -- Only the number of dice depends on the skipped text, so the induction leaves the rest alone.
    induction before with
    | nil =>
        have hhere : here? (mark :: after) = some (afterMark 1 after) :=
          here?_append_mark hbefore hmark
        rw [List.nil_append, find?, hhere]
        rfl
    | cons c before ih =>
        have hrest := ih (List.forall_mem_cons.mp hbefore).2
        rw [List.cons_append, find?, ← List.cons_append, here?_append_mark hbefore hmark,
          countDigits_cons]
        by_cases hwhole : number (c :: before) = c :: before
        · rw [if_pos hwhole, if_pos hwhole]
        · rw [if_neg hwhole, if_neg hwhole]
          exact hrest
  rw [hfound, afterMark_eq]
  rfl

/-- A text without a mark holds no formula. -/
theorem find?_eq_none {cs : List Char} (h : ∀ c ∈ cs, isMark c = false) : find? cs = none := by
  induction cs with
  | nil => rfl
  | cons c cs ih =>
      have hhere : here? (c :: cs) = none := by
        cases hrest : (c :: cs).drop (number (c :: cs)).length with
        | nil => simp only [here?, getD_literal?, hrest]
        | cons d rest =>
            have hd : isMark d = false := h d (List.mem_of_mem_drop (hrest ▸ List.mem_cons_self))
            rw [here?_of_drop hrest, if_neg (by simp [hd])]
      rw [find?, hhere]
      exact ih (List.forall_mem_cons.mp h).2

/-! ## Texts -/

/-- A text has no mark, or a first one. -/
theorem first_mark (cs : List Char) :
    (∀ c ∈ cs, isMark c = false) ∨
      ∃ before mark after, cs = before ++ mark :: after ∧
        (∀ c ∈ before, isMark c = false) ∧ isMark mark = true := by
  induction cs with
  | nil => exact .inl (List.forall_mem_nil _)
  | cons c cs ih =>
      cases hc : isMark c with
      | true => exact .inr ⟨[], c, cs, rfl, List.forall_mem_nil _, hc⟩
      | false =>
          rcases ih with hnone | ⟨before, mark, after, rfl, hbefore, hmark⟩
          · exact .inl (List.forall_mem_cons.mpr ⟨hc, hnone⟩)
          · refine .inr ⟨c :: before, mark, after, rfl, ?_, hmark⟩
            exact List.forall_mem_cons.mpr ⟨hc, hbefore⟩

theorem forall_isMark_eq_false_iff {cs : List Char} :
    (∀ c ∈ cs, isMark c = false) ↔ 'd' ∉ cs ∧ 'D' ∉ cs := by
  constructor
  · intro h
    exact ⟨fun hd => absurd (h 'd' hd) (by decide), fun hd => absurd (h 'D' hd) (by decide)⟩
  · rintro ⟨hsmall, hcapital⟩ c hc
    simp only [isMark, Bool.or_eq_false_iff, decide_eq_false_iff_not]
    exact ⟨fun h => hsmall (h ▸ hc), fun h => hcapital (h ▸ hc)⟩

/-- **Only a text without a mark holds no formula.** -/
theorem parse_eq_error_iff {text : String} :
    parse text = .error {} ↔ 'd' ∉ text.toList ∧ 'D' ∉ text.toList := by
  rw [← forall_isMark_eq_false_iff]
  constructor
  · intro herror
    rcases first_mark text.toList with hnone | ⟨before, mark, after, htext, hbefore, hmark⟩
    · exact hnone
    · rw [parse, htext, find?_append_mark hbefore hmark] at herror
      exact absurd herror (by simp)
  · intro hnone
    rw [parse, find?_eq_none hnone]

/-- A mark is a small or a capital `d`. -/
theorem not_isMark (c : Char) : (!isMark c) = (c != 'd' && c != 'D') := by
  rw [isMark, Bool.not_or]
  rfl

/-- **The reader finds what stands around the first mark.** For every text, the formula found by
trying each position in turn is the one that `Reading.ofText` cuts out of the text directly, and a
text without a mark is refused with the one message there is. -/
theorem parse_eq_ofText (text : String) :
    (parse text).mapError NotFound.message = Reading.ofText text := by
  rcases first_mark text.toList with hnone | ⟨before, mark, after, htext, hbefore, hmark⟩
  · have hdrop : (text.toList.dropWhile fun c => c != 'd' && c != 'D') = [] := by
      rw [List.dropWhile_eq_nil_iff]
      intro c hc
      rw [← not_isMark, hnone c hc]
      rfl
    rw [parse, find?_eq_none hnone, Reading.ofText, hdrop]
    rfl
  · have hpass : ∀ c ∈ before, (c != 'd' && c != 'D') = true := by
      intro c hc
      rw [← not_isMark, hbefore c hc]
      rfl
    have hstop : (mark != 'd' && mark != 'D') = false := by
      rw [← not_isMark, hmark]
      rfl
    have htake : (text.toList.takeWhile fun c => c != 'd' && c != 'D') = before := by
      rw [htext, List.takeWhile_append_of_pos hpass, List.takeWhile_cons, hstop]
      exact List.append_nil before
    have hdrop : (text.toList.dropWhile fun c => c != 'd' && c != 'D') = mark :: after := by
      rw [htext, List.dropWhile_append_of_pos hpass, List.dropWhile_cons, hstop]
      rfl
    rw [Reading.ofText, htake, hdrop, parse, htext, find?_append_mark hbefore hmark]
    rfl

/-- A number of dice that does not fit is read from its second digit on, a zero is all there is to
the faces, and what follows it is no clause. -/
theorem parse_eq_ofText_overflow :
    (parse "50 4294967296d05x0+1").mapError NotFound.message = .ok (dice 294967296 2) := by
  rw [parse_eq_ofText]
  decide +kernel

end Tabletop.Formula
