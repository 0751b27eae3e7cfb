import Mathlib.Data.List.Forall2
import Tabletop.Proofs.Text.Blank
import Tabletop.Proofs.Text.Bytes
import Tabletop.Proofs.Text.Letters

/-!
# Tabletop.Proofs.Text.Lowercase — lowering once is enough

What a text holds after it was lowered is lower case: each character is its own lower case, so
lowering again changes nothing, and where the characters stand does not matter any more. Lowering
also keeps a text trimmed, since no character becomes a blank that was none.

A character of ASCII is looked at by itself. Beyond ASCII it is the table that decides, and the
table keeps clear of the capitals outside it, of the blanks and of the code points that are no
characters.
-/

namespace Tabletop.Text

/-- A character that is its own lower case. -/
def Lowered (c : Char) : Prop := lowerChar c = [c]

instance (c : Char) : Decidable (Lowered c) := inferInstanceAs (Decidable (_ = _))

/-! ## Lowering a character -/

/-- The table lowers a character to a character. -/
theorem toNat_ofNat_lowerCode (c : Char) :
    (Char.ofNat (lowerCode c.toNat)).toNat = lowerCode c.toNat := by
  have hc : c.toNat < 0xd800 ∨ 0xdfff < c.toNat := by
    have hvalid : c.toNat.isValidChar := c.valid
    unfold Nat.isValidChar at hvalid
    omega
  have hclear : lowerCode c.toNat < 0xd800 ∨ 0xdfff < lowerCode c.toNat :=
    covers_surrogates_eq_false.mp
      (covers_lowerCode (by decide +kernel) (covers_surrogates_eq_false.mpr hc))
  have hlt : lowerCode c.toNat < 0x110000 := lowerCode_lt (toNat_lt c)
  have hvalid : (lowerCode c.toNat).isValidChar := by
    unfold Nat.isValidChar
    omega
  rw [Char.ofNat, dif_pos hvalid]
  rfl

/-- Only the capitals of ASCII have another small letter there. -/
theorem toLower_eq_self {c : Char} (h : ¬(0x41 ≤ c.toNat ∧ c.toNat ≤ 0x5a)) : c.toLower = c := by
  have hsmall : ¬('A'.val ≤ c.val ∧ c.val ≤ 'Z'.val) := by
    rintro ⟨hfirst, hlast⟩
    have hA : 0x41 ≤ c.toNat := UInt32.le_iff_toNat_le.mp hfirst
    have hZ : c.toNat ≤ 0x5a := UInt32.le_iff_toNat_le.mp hlast
    exact h ⟨hA, hZ⟩
  exact dif_neg hsmall

/-- A character that is no capital and that no run lowers is its own lower case. -/
theorem lowered_of_lowerCode_eq {c : Char} (hcapital : otherCapitals.has c = false)
    (h : lowerCode c.toNat = c.toNat) : Lowered c := by
  obtain ⟨hplain, hdot⟩ := covers_otherCapitals_eq_false.mp hcapital
  unfold Lowered lowerChar
  split
  · rw [toLower_eq_self hplain]
  · split
    · rename_i hdotted
      exact absurd (congrArg Char.toNat hdotted) hdot
    · rw [h, Char.ofNat_toNat]

/-- The characters of ASCII: a capital lowers to a small letter, any other to itself. -/
theorem lowered_toLower_of_lt : ∀ code < 0x80, Lowered (Char.ofNat code).toLower := by decide

theorem isBlank_toLower_of_lt : ∀ code < 0x80,
    isBlank (Char.ofNat code) = false → isBlank (Char.ofNat code).toLower = false := by decide

/-- **What a character lowers to is lower case.** -/
theorem lowered_of_mem_lowerChar {c d : Char} (h : d ∈ lowerChar c) : Lowered d := by
  unfold lowerChar at h
  split at h
  · rename_i hascii
    rw [List.mem_singleton.mp h, ← Char.ofNat_toNat c]
    exact lowered_toLower_of_lt c.toNat hascii
  · split at h
    · rcases List.mem_cons.mp h with rfl | h
      · exact lowered_toLower_of_lt 0x69 (by omega)
      · rw [List.mem_singleton.mp h]
        decide +kernel
    · rename_i hascii hdotted
      have hcapital : otherCapitals.covers c.toNat = false := by
        refine covers_otherCapitals_eq_false.mpr ⟨?_, fun hcode => ?_⟩
        · omega
        · exact hdotted (Char.toNat_inj.mp hcode)
      have himage := toNat_ofNat_lowerCode c
      rw [List.mem_singleton.mp h]
      refine lowered_of_lowerCode_eq ?_ ?_
      · rw [Ranges.has, himage]
        exact covers_lowerCode (by decide +kernel) hcapital
      · rw [himage, lowerCode_lowerCode]

/-- **No character becomes a blank that was none.** -/
theorem isBlank_of_mem_lowerChar {c d : Char} (h : d ∈ lowerChar c) (hc : isBlank c = false) :
    isBlank d = false := by
  unfold lowerChar at h
  split at h
  · rename_i hascii
    rw [← Char.ofNat_toNat c] at hc
    rw [List.mem_singleton.mp h, ← Char.ofNat_toNat c]
    exact isBlank_toLower_of_lt c.toNat hascii hc
  · split at h
    · rcases List.mem_cons.mp h with rfl | h
      · decide
      · rw [List.mem_singleton.mp h]
        decide
    · rw [List.mem_singleton.mp h, isBlank, Ranges.has, toNat_ofNat_lowerCode]
      exact covers_lowerCode (by decide +kernel) hc

theorem lowerChar_ne_nil (c : Char) : lowerChar c ≠ [] := by
  unfold lowerChar
  split
  · exact List.cons_ne_nil _ _
  · split
    · exact List.cons_ne_nil _ _
    · exact List.cons_ne_nil _ _

/-! ## Lowering a text -/

/-- What the first character of a text lowers to: one character at least, all of them lower case,
and no blank if it was none. -/
theorem lowerChars_cons (before : List Char) (c : Char) (rest : List Char) :
    ∃ here, lowerChars before (c :: rest) = here ++ lowerChars (c :: before) rest ∧
      here ≠ [] ∧ ∀ d ∈ here, Lowered d ∧ (isBlank c = false → isBlank d = false) := by
  refine ⟨_, rfl, ?_⟩
  by_cases hsigma : c = 'Σ'
  · have hfinal : Lowered 'ς' ∧ isBlank 'ς' = false := by decide +kernel
    have hother : Lowered 'σ' ∧ isBlank 'σ' = false := by decide +kernel
    rw [if_pos hsigma]
    split
    · refine ⟨List.cons_ne_nil _ _, fun d hd => ?_⟩
      rw [List.mem_singleton.mp hd]
      exact ⟨hfinal.1, fun _ => hfinal.2⟩
    · refine ⟨List.cons_ne_nil _ _, fun d hd => ?_⟩
      rw [List.mem_singleton.mp hd]
      exact ⟨hother.1, fun _ => hother.2⟩
  · rw [if_neg hsigma]
    exact ⟨lowerChar_ne_nil c, fun d hd =>
      ⟨lowered_of_mem_lowerChar hd, isBlank_of_mem_lowerChar hd⟩⟩

/-- **A lowered text is lower case throughout.** -/
theorem lowered_of_mem_lowerChars {before cs : List Char} {d : Char}
    (h : d ∈ lowerChars before cs) : Lowered d := by
  induction cs generalizing before with
  | nil => exact absurd h List.not_mem_nil
  | cons c rest ih =>
      obtain ⟨here, hsplit, -, hhere⟩ := lowerChars_cons before c rest
      rw [hsplit] at h
      rcases List.mem_append.mp h with h | h
      · exact (hhere d h).1
      · exact ih h

/-- A text in lower case stays as it is, wherever it stands. -/
theorem lowerChars_eq_self {cs : List Char} (h : ∀ c ∈ cs, Lowered c) (before : List Char) :
    lowerChars before cs = cs := by
  induction cs generalizing before with
  | nil => rfl
  | cons c rest ih =>
      obtain ⟨hc, hrest⟩ := List.forall_mem_cons.mp h
      have hsigma : c ≠ 'Σ' := by
        rintro rfl
        exact absurd hc (by decide +kernel)
      rw [lowerChars, if_neg hsigma, hc, ih hrest, List.singleton_append]

/-! ## Texts that lower alike -/

/-- Casing sees a character that it does not look past. -/
theorem meetsCased_cons (c : Char) (cs : List Char) :
    meetsCased (c :: cs) = if isCaseIgnorable c then meetsCased cs else isCased c := by
  cases hc : isCaseIgnorable c with
  | true => simp [meetsCased, hc]
  | false => simp [meetsCased, hc]

/-- **Two characters lower alike** as far as `f` tells: they count the same as neighbours of a
sigma, neither is a sigma unless both are, and `f` makes the same of what they lower to. -/
structure LowerAlike (f : Char → Char) (c d : Char) : Prop where
  isCased : isCased c = isCased d
  isCaseIgnorable : isCaseIgnorable c = isCaseIgnorable d
  sigma : c = 'Σ' ↔ d = 'Σ'
  map_lowerChar : (lowerChar c).map f = (lowerChar d).map f

/-- Characters that lower alike let casing see the same. -/
theorem meetsCased_eq {f : Char → Char} {cs ds : List Char}
    (h : List.Forall₂ (LowerAlike f) cs ds) : meetsCased cs = meetsCased ds := by
  induction h with
  | nil => rfl
  | cons hfirst _ ih =>
      rw [meetsCased_cons, meetsCased_cons, hfirst.isCaseIgnorable, hfirst.isCased, ih]

/-- **Texts whose characters lower alike, one by one, lower alike** where they stand. The induction
is on the characters that are still to be lowered; those before them are seen by each sigma. -/
theorem map_lowerChars_eq {f : Char → Char} {cs ds : List Char}
    (h : List.Forall₂ (LowerAlike f) cs ds) {before before' : List Char}
    (hbefore : List.Forall₂ (LowerAlike f) before before') :
    (lowerChars before cs).map f = (lowerChars before' ds).map f := by
  induction h generalizing before before' with
  | nil => rfl
  | @cons c d rest rest' hfirst hrest ih =>
      have hends : endsWord before rest = endsWord before' rest' := by
        unfold endsWord
        rw [meetsCased_eq hbefore, meetsCased_eq hrest]
      rw [lowerChars, lowerChars, List.map_append, List.map_append,
        ih (List.Forall₂.cons hfirst hbefore)]
      congr 1
      by_cases hsigma : c = 'Σ'
      · rw [if_pos hsigma, if_pos (hfirst.sigma.mp hsigma), hends]
      · rw [if_neg hsigma, if_neg (fun hd => hsigma (hfirst.sigma.mpr hd)), hfirst.map_lowerChar]

/-! ## Trimmed texts -/

theorem lowerChars_eq_nil {before cs : List Char} (h : lowerChars before cs = []) : cs = [] := by
  cases cs with
  | nil => rfl
  | cons c rest =>
      obtain ⟨here, hsplit, hne, -⟩ := lowerChars_cons before c rest
      rw [hsplit] at h
      exact absurd (List.append_eq_nil_iff.mp h).1 hne

/-- What a text ends in after it was lowered is no blank if its last character was none. -/
theorem isBlank_getLast?_lowerChars {cs : List Char} (h : ∀ c ∈ cs.getLast?, isBlank c = false)
    (before : List Char) : ∀ d ∈ (lowerChars before cs).getLast?, isBlank d = false := by
  induction cs generalizing before with
  | nil => exact fun d hd => absurd hd (by simp [lowerChars])
  | cons c rest ih =>
      intro d hd
      obtain ⟨here, hsplit, -, hhere⟩ := lowerChars_cons before c rest
      rw [hsplit, List.getLast?_append] at hd
      rcases Option.or_eq_some_iff.mp hd with hd | ⟨hnone, hd⟩
      · refine ih (fun c' hc' => h c' ?_) (c :: before) d hd
        rw [List.getLast?_cons, hc', Option.getD_some]
        rfl
      · -- Nothing follows the first character, so it is also the last one.
        have hrest : rest = [] := lowerChars_eq_nil (List.getLast?_eq_none_iff.mp hnone)
        subst hrest
        exact (hhere d (List.mem_of_getLast? hd)).2 (h c rfl)

/-- **A trimmed text stays trimmed when it is lowered.** -/
theorem Trimmed.lowerChars {cs : List Char} (h : Trimmed cs) (before : List Char) :
    Trimmed (lowerChars before cs) where
  first d hd := by
    cases cs with
    | nil => exact absurd hd (by simp [Text.lowerChars])
    | cons c rest =>
        obtain ⟨here, hsplit, hne, hhere⟩ := lowerChars_cons before c rest
        rw [hsplit, List.head?_append_of_ne_nil _ hne] at hd
        exact (hhere d (List.mem_of_head? hd)).2 (h.first c rfl)
  last := isBlank_getLast?_lowerChars h.last before

end Tabletop.Text
