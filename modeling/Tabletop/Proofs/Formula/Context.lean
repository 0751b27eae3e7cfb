import Tabletop.Proofs.Formula.Reading

/-!
# Tabletop.Proofs.Formula.Context — a formula reads the same in any text and any spelling

A mark, a division and a multiplication have two spellings each. Two texts that differ only in these
have the same *plain* text, in which every character has the first of its spellings; the reader sees
only that. Neither does it see what stands around a formula: a search never ends before the first
mark, the number of dice ends where the text in front of it ends in no digit, and what follows
completes no clause that was left out and lengthens none that was taken.
-/

namespace Tabletop.Formula

open Reading

/-! ## Spellings -/

/-- The other spelling of a character that has two, and the character itself otherwise. -/
def otherSpelling (c : Char) : Char :=
  if c = 'd' then 'D' else if c = 'D' then 'd'
  else if c = '/' then '÷' else if c = '÷' then '/'
  else if c = 'x' then '*' else if c = '*' then 'x'
  else c

/-- **A text with the spellings exchanged** at the positions where `exchanged` holds. -/
def respell (exchanged : Nat → Bool) (text : String) : String :=
  String.ofList (text.toList.mapIdx fun i c => if exchanged i then otherSpelling c else c)

/-- The first spelling of a character. -/
def plain (c : Char) : Char :=
  if c = 'D' then 'd' else if c = '÷' then '/' else if c = '*' then 'x' else c

/-- A character is plain, or it is the second spelling of another one. -/
theorem plain_cases (c : Char) :
    plain c = c ∨ (c = 'D' ∧ plain c = 'd') ∨ (c = '÷' ∧ plain c = '/') ∨
      (c = '*' ∧ plain c = 'x') := by
  by_cases hc : c ∈ ['D', '÷', '*']
  · simp only [List.mem_cons, List.not_mem_nil, or_false] at hc
    rcases hc with rfl | rfl | rfl <;> decide
  · exact .inl (by simp_all [plain])

theorem plain_otherSpelling (c : Char) : plain (otherSpelling c) = plain c := by
  by_cases hc : c ∈ ['d', 'D', '/', '÷', 'x', '*']
  · simp only [List.mem_cons, List.not_mem_nil, or_false] at hc
    rcases hc with rfl | rfl | rfl | rfl | rfl | rfl <;> rfl
  · have hself : otherSpelling c = c := by simp_all [otherSpelling]
    rw [hself]

/-- Exchanged spellings leave the plain text as it is. -/
theorem map_plain_respell (exchanged : Nat → Bool) (text : String) :
    (respell exchanged text).toList.map plain = text.toList.map plain := by
  rw [respell, String.toList_ofList]
  refine List.ext_getElem (by simp) fun i _ _ => ?_
  rw [List.getElem_map, List.getElem_map, List.getElem_mapIdx]
  split
  · exact plain_otherSpelling _
  · rfl

theorem isMark_plain (c : Char) : isMark (plain c) = isMark c := by
  rcases plain_cases c with h | ⟨rfl, h⟩ | ⟨rfl, h⟩ | ⟨rfl, h⟩ <;> rw [h] <;> rfl

theorem isDigit_plain (c : Char) : (plain c).isDigit = c.isDigit := by
  rcases plain_cases c with h | ⟨rfl, h⟩ | ⟨rfl, h⟩ | ⟨rfl, h⟩ <;> rw [h] <;> rfl

/-- A digit has one spelling. -/
theorem plain_of_isDigit {c : Char} (h : c.isDigit = true) : plain c = c := by
  rcases plain_cases c with hc | ⟨rfl, -⟩ | ⟨rfl, -⟩ | ⟨rfl, -⟩
  · exact hc
  all_goals exact absurd h (by decide)

/-- A run of digits has one spelling, and ends where it did. -/
theorem takeWhile_map_plain (cs : List Char) :
    (cs.map plain).takeWhile Char.isDigit = cs.takeWhile Char.isDigit := by
  induction cs with
  | nil => rfl
  | cons c cs ih =>
      cases hc : c.isDigit with
      | true => simp [plain_of_isDigit hc, hc, ih]
      | false => simp [isDigit_plain, hc]

theorem map_plain_of_digits {cs : List Char} (h : ∀ c ∈ cs, c.isDigit = true) :
    cs.map plain = cs :=
  (List.map_congr_left fun c hc => plain_of_isDigit (h c hc)).trans (List.map_id' cs)

/-! ## The parts of a plain text -/

theorem literal_map_plain (cs : List Char) : literal (cs.map plain) = literal cs := by
  have hhead : (cs.map plain).head? = some '0' ↔ cs.head? = some '0' := by
    cases cs with
    | nil => exact Iff.rfl
    | cons c cs =>
        have hzero : plain c = '0' ↔ c = '0' := by
          rcases plain_cases c with h | ⟨rfl, h⟩ | ⟨rfl, h⟩ | ⟨rfl, h⟩ <;> rw [h] <;> decide
        simpa using hzero
  rw [literal, literal, takeWhile_map_plain]
  simp only [hhead]

theorem number_map_plain (cs : List Char) : number (cs.map plain) = number cs := by
  rw [number, number, literal_map_plain]

theorem countDigits_map_plain (cs : List Char) :
    countDigits (cs.map plain) = countDigits cs := by
  have hrun : (cs.map plain).rtakeWhile Char.isDigit = cs.rtakeWhile Char.isDigit := by
    rw [List.rtakeWhile, ← List.map_reverse, takeWhile_map_plain, List.rtakeWhile]
  rw [countDigits, hrun, countDigits]

/-- A scaling part keeps its place, and its operator may change to the first spelling. -/
theorem scale_map_plain (cs : List Char) : scale (cs.map plain) = (scale cs).map plain := by
  cases cs with
  | nil => rfl
  | cons c cs =>
      have hop : plain c ∈ ['/', '÷', 'x', '*'] ↔ c ∈ ['/', '÷', 'x', '*'] := by
        rcases plain_cases c with h | ⟨rfl, h⟩ | ⟨rfl, h⟩ | ⟨rfl, h⟩ <;> rw [h] <;> decide
      rw [List.map_cons, scale, scale, literal_map_plain]
      simp only [hop]
      split
      · rw [List.map_cons, map_plain_of_digits fun d hd => isDigit_of_mem_literal hd]
      · rfl

theorem shift_map_plain (cs : List Char) : shift (cs.map plain) = shift cs := by
  cases cs with
  | nil => rfl
  | cons c cs =>
      have hsign : plain c ∈ ['+', '-'] ↔ c ∈ ['+', '-'] := by
        rcases plain_cases c with h | ⟨rfl, h⟩ | ⟨rfl, h⟩ | ⟨rfl, h⟩ <;> rw [h] <;> decide
      rw [List.map_cons, shift, shift, takeWhile_map_plain]
      simp only [hsign]
      split
      · rename_i h
        have hc : plain c = c := by
          rcases List.mem_cons.mp h.1 with rfl | hminus
          · rfl
          · rw [List.mem_singleton.mp hminus]
            rfl
        rw [hc]
      · rfl

/-- The clause that a scaling part says is that of its plain text. -/
theorem clauses_scale_map_plain (cs : List Char) :
    clauses ((scale cs).map plain) = clauses (scale cs) := by
  cases cs with
  | nil => rfl
  | cons c cs =>
      rw [scale]
      split
      · rename_i h
        rw [List.map_cons, map_plain_of_digits fun d hd => isDigit_of_mem_literal hd]
        have hop := h.1
        simp only [List.mem_cons, List.not_mem_nil, or_false] at hop
        rcases hop with rfl | rfl | rfl | rfl <;> rfl
      · rfl

/-- **Spellings are all one to a formula.** -/
theorem formula_map_plain (before after : List Char) :
    Reading.formula (before.map plain) (after.map plain) = Reading.formula before after := by
  simp only [Reading.formula, behind, countDigits_map_plain, number_map_plain, ← List.map_drop,
    scale_map_plain, clauses_scale_map_plain, List.length_map, shift_map_plain]

theorem not_isMark_map_plain {cs : List Char} (h : ∀ c ∈ cs, isMark c = false) :
    ∀ c ∈ cs.map plain, isMark c = false := by
  intro c hc
  obtain ⟨d, hd, rfl⟩ := List.mem_map.mp hc
  rw [isMark_plain]
  exact h d hd

/-- **The search sees only the plain text.** -/
theorem find?_map_plain (cs : List Char) : find? (cs.map plain) = find? cs := by
  rcases first_mark cs with hnone | ⟨before, mark, after, rfl, hbefore, hmark⟩
  · rw [find?_eq_none hnone, find?_eq_none (not_isMark_map_plain hnone)]
  · have hplain : isMark (plain mark) = true := by rw [isMark_plain, hmark]
    -- The first mark stands at the same place in both spellings.
    rw [List.map_append, List.map_cons, find?_append_mark hbefore hmark,
      find?_append_mark (not_isMark_map_plain hbefore) hplain, formula_map_plain]

/-! ## Surroundings -/

/-- **The search sees nothing around a text with a mark**, if what stands in front has no mark and
ends in no digit, and what follows continues no formula. -/
theorem find?_surrounded {front cs rest : List Char} (hfront : ∀ c ∈ front, isMark c = false)
    (hlast : ∀ c ∈ front.getLast?, c.isDigit = false) (hcs : ∃ c ∈ cs, isMark c = true)
    (hrest : EndsFormula rest) : find? (front ++ cs ++ rest) = find? cs := by
  rcases first_mark cs with hnone | ⟨before, mark, after, rfl, hbefore, hmark⟩
  · obtain ⟨c, hc, hmark⟩ := hcs
    rw [hnone c hc] at hmark
    exact absurd hmark Bool.false_ne_true
  · -- The first mark of the whole text is the one that the text in the middle has alone.
    have hskip : ∀ c ∈ front ++ before, isMark c = false :=
      List.forall_mem_append.mpr ⟨hfront, hbefore⟩
    have hsplit : front ++ (before ++ mark :: after) ++ rest =
        (front ++ before) ++ mark :: (after ++ rest) := by simp
    rw [hsplit, find?_append_mark hskip hmark, find?_append_mark hbefore hmark,
      formula_append before after hlast hrest]

/-- A text has a mark in either spelling when it has one in the other. -/
theorem exists_mark_of_map_plain_eq {cs ds : List Char} (h : cs.map plain = ds.map plain)
    (hds : ∃ d ∈ ds, isMark d = true) : ∃ c ∈ cs, isMark c = true := by
  obtain ⟨d, hd, hmark⟩ := hds
  obtain ⟨c, hc, hplain⟩ := List.mem_map.mp (h ▸ List.mem_map_of_mem hd : plain d ∈ cs.map plain)
  refine ⟨c, hc, ?_⟩
  rw [← isMark_plain, hplain, isMark_plain, hmark]

/-- **A formula reads the same in any surrounding text and in any of its spellings.** -/
theorem parse_respell_surrounded {p s u : String} (exchanged : Nat → Bool)
    (hp : 'd' ∉ p.toList ∧ 'D' ∉ p.toList)
    (hlast : ∀ c ∈ p.toList.getLast?, c.isDigit = false)
    (hs : 'd' ∈ s.toList ∨ 'D' ∈ s.toList)
    (hu : ∀ c ∈ u.toList.head?, c.isDigit = false ∧ c ∉ ['/', '÷', 'x', '*', '+', '-']) :
    parse (p ++ respell exchanged s ++ u) = parse s := by
  have hskip : ∀ c ∈ p.toList, isMark c = false := by
    intro c hc
    have hd : c ≠ 'd' := fun h => hp.1 (h ▸ hc)
    have hD : c ≠ 'D' := fun h => hp.2 (h ▸ hc)
    simp [isMark, hd, hD]
  have hmark : ∃ c ∈ s.toList, isMark c = true := by
    rcases hs with hs | hs
    · exact ⟨'d', hs, rfl⟩
    · exact ⟨'D', hs, rfl⟩
  have hplain := map_plain_respell exchanged s
  -- Both spellings have one plain text, and the search sees no more than that.
  have hfind : find? (respell exchanged s).toList = find? s.toList := by
    rw [← find?_map_plain, hplain, find?_map_plain]
  rw [parse, parse, String.toList_append, String.toList_append,
    find?_surrounded hskip hlast (exists_mark_of_map_plain_eq hplain hmark) hu, hfind]

/-- A leading zero, an operator and a mark in their other spelling, a sign left dangling before a
number further on, and a second formula behind it. -/
theorem parse_respell_surrounded_dangling :
    ('d' ∉ "12 rolls: ".toList ∧ 'D' ∉ "12 rolls: ".toList) ∧
      (∀ c ∈ "12 rolls: ".toList.getLast?, c.isDigit = false) ∧
      ('d' ∈ "05d6/2-".toList ∨ 'D' ∈ "05d6/2-".toList) ∧
      (∀ c ∈ " 7 or 1d4".toList.head?,
        c.isDigit = false ∧ c ∉ ['/', '÷', 'x', '*', '+', '-']) ∧
      parse ("12 rolls: " ++ respell (fun i => i == 2 || i == 4) "05d6/2-" ++ " 7 or 1d4") =
        parse "05d6/2-" := by
  have hp : 'd' ∉ "12 rolls: ".toList ∧ 'D' ∉ "12 rolls: ".toList := by decide
  have hlast : ∀ c ∈ "12 rolls: ".toList.getLast?, c.isDigit = false := by
    intro c hc
    rw [← Option.mem_some_iff.mp (show c ∈ some ' ' from hc)]
    rfl
  have hs : 'd' ∈ "05d6/2-".toList ∨ 'D' ∈ "05d6/2-".toList := by decide
  have hu : ∀ c ∈ " 7 or 1d4".toList.head?,
      c.isDigit = false ∧ c ∉ ['/', '÷', 'x', '*', '+', '-'] := by
    intro c hc
    rw [← Option.mem_some_iff.mp (show c ∈ some ' ' from hc)]
    decide
  exact ⟨hp, hlast, hs, hu, parse_respell_surrounded _ hp hlast hs hu⟩

end Tabletop.Formula
