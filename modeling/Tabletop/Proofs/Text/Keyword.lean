import Tabletop.Proofs.Text.Lowercase

/-!
# Tabletop.Proofs.Text.Keyword — words that are matched in lower case

A text that is lowered and then compared with a word need not be the word in other capitals. Some
characters beyond ASCII lower to a letter of ASCII, as the Kelvin sign does to a small k, or to such
a letter and a mark, as the capital I with a dot does. A word is safe from them if each of its
characters is *unmistakable*: no other character beyond ASCII lowers to it alone. These are all of
ASCII but the small k, and the signs for thousandths and ten-thousandths.

So a character lowers as ASCII has it, or else it does not take part: neither it nor all of what it
lowers to is unmistakable. From this, one character at a time, a text lowers to a word exactly if it
agrees with the word up to the case of letters of ASCII.
-/

namespace Tabletop.Text

/-! ## Unmistakable characters -/

/-- Characters that no other character beyond ASCII lowers to alone. -/
def unmistakable : Ranges := [(0x0, 0x6a), (0x6c, 0x7f), (0x2030, 0x2031)]

/-- The Kelvin sign lowers to the one character of ASCII that is left out. -/
example : lowerChar '\u212a' = ['k'] ∧ unmistakable.has 'k' = false := by decide +kernel

/-- The table neither lowers an unmistakable character nor lowers anything to one. -/
theorem covers_unmistakable_of_mem {run : LoweringRun} {code image : ℕ} (hrun : run ∈ loweringRuns)
    (h : run.lower? code = some image) :
    unmistakable.covers code = false ∧ unmistakable.covers image = false := by
  have hfrom : (loweringRuns.all fun run => unmistakable.all fun range =>
      Nat.ble (range.2 + 1) run.first || Nat.ble (run.last + 1) range.1) = true := by
    decide +kernel
  have hto : (loweringRuns.all fun run => unmistakable.all run.avoids) = true := by decide +kernel
  obtain ⟨hfirst, hlast, -, -⟩ := LoweringRun.lower?_eq_some_iff.mp h
  constructor
  · exact Ranges.covers_eq_false_of_apart (List.all_eq_true.mp hfrom run hrun) hfirst hlast
  · exact LoweringRun.covers_image_eq_false (List.all_eq_true.mp hto run hrun) h

/-- **A character lowers as ASCII has it, or it is mistakable** and so is something of what it
lowers to. -/
theorem lowerChar_cases (c : Char) :
    lowerChar c = [c.toLower] ∨
      unmistakable.has c.toLower = false ∧ ∃ d ∈ lowerChar c, unmistakable.has d = false := by
  by_cases hascii : c.toNat < 0x80
  · exact .inl (if_pos hascii)
  · have hlower : c.toLower = c := toLower_eq_self (by omega)
    by_cases hdotted : c = dottedI
    · subst hdotted
      exact .inr ⟨by decide, '\u0307', by decide, by decide⟩
    · have hchar : lowerChar c = [Char.ofNat (lowerCode c.toNat)] := by
        unfold lowerChar
        rw [if_neg hascii, if_neg hdotted]
      rw [hchar, hlower]
      rcases lowerCode_cases c.toNat with ⟨hself, -⟩ | ⟨run, hrun, himage⟩
      · rw [hself, Char.ofNat_toNat]
        exact .inl rfl
      · obtain ⟨hcode, hlowered⟩ := covers_unmistakable_of_mem hrun himage
        refine .inr ⟨hcode, _, List.mem_singleton_self _, ?_⟩
        rw [Ranges.has, toNat_ofNat_lowerCode]
        exact hlowered

/-- The same of the first character of a text, which may be a sigma. -/
theorem lowerChars_cons_cases (before : List Char) (c : Char) (rest : List Char) :
    lowerChars before (c :: rest) = c.toLower :: lowerChars (c :: before) rest ∨
      unmistakable.has c.toLower = false ∧
        ∃ d ∈ lowerChars before (c :: rest), unmistakable.has d = false := by
  rw [lowerChars]
  by_cases hsigma : c = 'Σ'
  · subst hsigma
    rw [if_pos rfl]
    refine .inr ⟨by decide, ?_⟩
    split
    · exact ⟨'ς', List.mem_cons_self, by decide⟩
    · exact ⟨'σ', List.mem_cons_self, by decide⟩
  · rw [if_neg hsigma]
    rcases lowerChar_cases c with hplain | ⟨hc, d, hd, hmistakable⟩
    · rw [hplain]
      exact .inl rfl
    · exact .inr ⟨hc, d, List.mem_append_left _ hd, hmistakable⟩

/-- **Only one text lowers to a word of unmistakable characters**, up to the case of letters of
ASCII, wherever it stands. -/
theorem lowerChars_eq_iff {before cs word : List Char}
    (hword : ∀ d ∈ word, unmistakable.has d = true) :
    lowerChars before cs = word ↔ cs.map Char.toLower = word := by
  induction cs generalizing before word with
  | nil => exact Iff.rfl
  | cons c rest ih =>
      rcases lowerChars_cons_cases before c rest with hplain | ⟨hc, d, hd, hmistakable⟩
      · rw [hplain, List.map_cons]
        cases word with
        | nil => exact iff_of_false (List.cons_ne_nil _ _) (List.cons_ne_nil _ _)
        | cons d word =>
            rw [List.cons.injEq, List.cons.injEq, ih (List.forall_mem_cons.mp hword).2]
      · -- Something of the word would be mistakable on either side.
        refine iff_of_false ?_ ?_
        · rintro rfl
          exact absurd (hword d hd) (by simp [hmistakable])
        · rintro rfl
          exact absurd (hword c.toLower List.mem_cons_self) (by simp [hc])

/-! ## Keywords -/

/-- **Two texts are equal up to the case** of letters of ASCII. -/
def EqUpToCase (s t : String) : Prop := s.toList.map Char.toLower = t.toList.map Char.toLower

instance (s t : String) : Decidable (EqUpToCase s t) := inferInstanceAs (Decidable (_ = _))

/-- A word of unmistakable characters, none of them a capital. -/
def isKeyword (word : String) : Bool :=
  word.toList.all fun c => unmistakable.has c && c.toLower == c

theorem of_isKeyword {word : String} (h : isKeyword word = true) :
    (∀ c ∈ word.toList, unmistakable.has c = true) ∧
      word.toList.map Char.toLower = word.toList := by
  have hchars : ∀ c ∈ word.toList, unmistakable.has c = true ∧ c.toLower = c := by
    intro c hc
    have hboth := List.all_eq_true.mp h c hc
    rw [Bool.and_eq_true, beq_iff_eq] at hboth
    exact hboth
  refine ⟨fun c hc => (hchars c hc).1, ?_⟩
  exact (List.map_congr_left fun c hc => (hchars c hc).2).trans (List.map_id' _)

/-- **A text lowers to a keyword exactly if it is the keyword up to case.** -/
theorem lowercase_eq_iff {word : String} (h : isKeyword word = true) (text : String) :
    lowercase text = word ↔ EqUpToCase text word := by
  obtain ⟨hword, hlower⟩ := of_isKeyword h
  rw [← String.toList_inj, toList_lowercase, lowerChars_eq_iff hword, EqUpToCase, hlower]

/-- **No look-alike stands for a letter**: beyond ASCII, what equals a keyword up to case holds
nothing but the two signs. -/
theorem EqUpToCase.ascii {text word : String} (h : EqUpToCase text word)
    (hword : isKeyword word = true) :
    ∀ c ∈ text.toList, c.toNat < 0x80 ∨ c = '‰' ∨ c = '‱' := by
  intro c hc
  obtain ⟨hall, hlower⟩ := of_isKeyword hword
  have hmem : c.toLower ∈ word.toList := by
    rw [← hlower, ← h]
    exact List.mem_map_of_mem hc
  by_cases hascii : c.toNat < 0x80
  · exact .inl hascii
  · have hself : c.toLower = c := toLower_eq_self (by omega)
    have hcovers := Ranges.covers_iff.mp (hall c (hself ▸ hmem))
    simp only [unmistakable, List.mem_cons, List.not_mem_nil, or_false, exists_eq_or_imp,
      exists_eq_left] at hcovers
    have hcode : c.toNat = 0x2030 ∨ c.toNat = 0x2031 := by omega
    exact .inr (hcode.imp (fun h => Char.toNat_inj.mp h) fun h => Char.toNat_inj.mp h)

end Tabletop.Text
