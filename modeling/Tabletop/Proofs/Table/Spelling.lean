import Tabletop.Proofs.Random.Script
import Tabletop.Proofs.Table.Name
import Tabletop.Table.Set

/-!
# Tabletop.Proofs.Table.Spelling — spellings of a name are all one

Names are compared by their normal form, so two spellings of a name mean the same table. Letters of
ASCII may change their case and the separators may be exchanged for each other, at any places and in
any text around them. None of this is seen by the lowering of other characters: the two cases of a
letter are cased alike, and a separator is neither cased nor looked past, whichever it is, so a
sigma stands at the end of a word in one spelling exactly if it does in the other. Separators become
dashes after lowering, which leaves them as they are.
-/

namespace Tabletop

namespace Table

open Text (isBlank isCased isCaseIgnorable lowerChar LowerAlike Trimmed)

/-! ## Spellings of a character -/

/-- The characters that separate the words of a name. -/
def separators : List Char := [' ', '_', '-']

/-- **Two spellings of a character in a name**: the character itself, the two cases of a letter of
ASCII, and two separators. -/
inductive Respelled : Char → Char → Prop
  | same (c : Char) : Respelled c c
  | letter {c d : Char} : c.isAlpha = true → d.isAlpha = true → c.toLower = d.toLower →
      Respelled c d
  | separator {c d : Char} : c ∈ separators → d ∈ separators → Respelled c d

/-- The letters of ASCII are two stretches of code points. -/
theorem toNat_of_isAlpha {c : Char} (h : c.isAlpha = true) :
    (0x41 ≤ c.toNat ∧ c.toNat ≤ 0x5a) ∨ (0x61 ≤ c.toNat ∧ c.toNat ≤ 0x7a) := by
  rcases Bool.or_eq_true_iff.mp h with hcapital | hsmall
  · have hrange : 'A'.val ≤ c.val ∧ c.val ≤ 'Z'.val := of_decide_eq_true hcapital
    exact Or.inl hrange
  · obtain ⟨hlow, hhigh⟩ := Bool.and_eq_true_iff.mp hsmall
    have hleast : 'a'.val ≤ c.val := of_decide_eq_true hlow
    have hgreatest : c.val ≤ 'z'.val := of_decide_eq_true hhigh
    exact Or.inr ⟨hleast, hgreatest⟩

/-- A letter is cased and is not looked past, is no sigma, and lowers to its small letter. -/
theorem letter_of_isAlpha {c : Char} (h : c.isAlpha = true) :
    isCased c = true ∧ isCaseIgnorable c = false ∧ c ≠ 'Σ' ∧ lowerChar c = [c.toLower] := by
  have hletter := toNat_of_isAlpha h
  refine ⟨?_, ?_, ?_, ?_⟩
  · apply Text.Ranges.covers_iff.mpr
    rcases hletter with hcapital | hsmall
    · exact ⟨(0x41, 0x5a), by decide, hcapital⟩
    · exact ⟨(0x61, 0x7a), by decide, hsmall⟩
  · show Text.caseIgnorableRanges.covers c.toNat = false
    rcases hletter with hcapital | hsmall
    · exact Text.Ranges.covers_eq_false_of_apart (by decide +kernel) hcapital.1 hcapital.2
    · exact Text.Ranges.covers_eq_false_of_apart (by decide +kernel) hsmall.1 hsmall.2
  · rintro rfl
    exact absurd h (by decide)
  · unfold lowerChar
    rw [if_pos (by omega)]

/-- A separator is not cased and is not looked past, is no sigma, and becomes a dash. -/
theorem separator_of_mem {c : Char} (h : c ∈ separators) :
    isCased c = false ∧ isCaseIgnorable c = false ∧ c ≠ 'Σ' ∧
      (lowerChar c).map dashed = ['-'] := by
  simp only [separators, List.mem_cons, List.not_mem_nil, or_false] at h
  rcases h with rfl | rfl | rfl <;> decide +kernel

/-- **Spellings of a character lower alike**, up to the dashes. -/
theorem Respelled.lowerAlike {c d : Char} (h : Respelled c d) : LowerAlike dashed c d := by
  cases h with
  | same => exact ⟨rfl, rfl, Iff.rfl, rfl⟩
  | letter hc hd hlower =>
      obtain ⟨hcased, hnot, hsigma, hchar⟩ := letter_of_isAlpha hc
      obtain ⟨hcased', hnot', hsigma', hchar'⟩ := letter_of_isAlpha hd
      refine ⟨hcased.trans hcased'.symm, hnot.trans hnot'.symm, ?_, ?_⟩
      · exact iff_of_false hsigma hsigma'
      · rw [hchar, hchar', hlower]
  | separator hc hd =>
      obtain ⟨hcased, hnot, hsigma, hdash⟩ := separator_of_mem hc
      obtain ⟨hcased', hnot', hsigma', hdash'⟩ := separator_of_mem hd
      refine ⟨hcased.trans hcased'.symm, hnot.trans hnot'.symm, ?_, hdash.trans hdash'.symm⟩
      exact iff_of_false hsigma hsigma'

/-! ## Spellings of a name -/

/-- **Spellings of a name have one normal form**, with blanks around them or without. -/
theorem normalName_respelled {s t p q : String} (hs : Trimmed s.toList) (ht : Trimmed t.toList)
    (hst : List.Forall₂ Respelled s.toList t.toList) (hp : ∀ c ∈ p.toList, isBlank c = true)
    (hq : ∀ c ∈ q.toList, isBlank c = true) : normalName (p ++ s ++ q) = normalName t := by
  have halike : List.Forall₂ (LowerAlike dashed) s.toList t.toList :=
    hst.imp fun _ _ => Respelled.lowerAlike
  unfold normalName normalChars
  rw [String.toList_append, String.toList_append, hs.trimChars_surrounded hp hq, ht.trimChars_eq,
    Text.map_lowerChars_eq halike List.Forall₂.nil]

end Table

namespace Builtin

theorem named?_congr {a b : String} (h : Table.normalName a = Table.normalName b) :
    named? a = named? b := by
  unfold named?
  rw [h]

end Builtin

namespace CustomTables

theorem get?_congr {a b : String} (h : Table.normalName a = Table.normalName b)
    (custom : CustomTables) : custom.get? a = custom.get? b := by
  unfold get?
  rw [h]

end CustomTables

/-- The error that quotes a name, if it is the one that quotes a name as it was given. -/
def TableError.quoting (name : String) : TableError → TableError
  | unknown _ => unknown name
  | e => e

namespace TableSet

open Table (normalName Respelled)
open Text (isBlank Trimmed)

/-- **Names with one normal form are rolled on alike**, from every source; only an unknown name is
quoted as it was given. -/
theorem roll_congr {a b : String} (h : normalName a = normalName b) (tables : TableSet) {σ : Type}
    [Source σ] (s : σ) :
    tables.roll a s =
      ((tables.roll b s).1.mapError (TableError.quoting a), (tables.roll b s).2) := by
  unfold roll
  rw [CustomTables.get?_congr h tables.custom, Builtin.named?_congr h, h]
  cases tables.custom.get? b with
  | some entries =>
      cases hpick : (Draw.pick entries s).1 with
      | some entry => simp [hpick, Except.mapError]
      | none => simp [hpick, Except.mapError, TableError.quoting]
  | none =>
      cases Builtin.named? b with
      | some table => rfl
      | none => rfl

/-- **Looking up a table does not depend on the spelling of its name.** Let two names without blanks
at their ends agree character by character, up to the case of letters of ASCII and the choice of
separators. Then the one among any blanks has the normal form of the other, and the two mean the
same built-in table, find the same custom table and are rolled on alike; an unknown name is quoted
as it was given. -/
theorem lookup_respelled {s t p q : String} (hs : Trimmed s.toList) (ht : Trimmed t.toList)
    (hst : List.Forall₂ Respelled s.toList t.toList) (hp : ∀ c ∈ p.toList, isBlank c = true)
    (hq : ∀ c ∈ q.toList, isBlank c = true) :
    normalName (p ++ s ++ q) = normalName t ∧
      Builtin.named? (p ++ s ++ q) = Builtin.named? t ∧
      (∀ custom : CustomTables, custom.get? (p ++ s ++ q) = custom.get? t) ∧
      ∀ (tables : TableSet) (σ : Type) [Source σ] (source : σ),
        tables.roll (p ++ s ++ q) source =
          ((tables.roll t source).1.mapError (TableError.quoting (p ++ s ++ q)),
            (tables.roll t source).2) := by
  have hnormal := Table.normalName_respelled hs ht hst hp hq
  refine ⟨hnormal, Builtin.named?_congr hnormal, CustomTables.get?_congr hnormal, ?_⟩
  intro tables σ _ source
  exact roll_congr hnormal tables source

/-- A sigma before a separator, which ends a word in both spellings, a letter in the other case, and
blanks beyond ASCII around. -/
theorem lookup_respelled_sigma :
    let own : TableSet := withCustom ⟨Dictionary.ofList [("ας-b", ["Yes"])]⟩
    Trimmed "ΑΣ_B".toList ∧ Trimmed "ΑΣ b".toList ∧
      List.Forall₂ Respelled "ΑΣ_B".toList "ΑΣ b".toList ∧
      (∀ c ∈ "\u2003".toList, isBlank c = true) ∧ (∀ c ∈ "\n".toList, isBlank c = true) ∧
      normalName ("\u2003" ++ "ΑΣ_B" ++ "\n") = "ας-b" ∧
      own.roll ("\u2003" ++ "ΑΣ_B" ++ "\n") (Script.ofWord 0) =
        (.ok "Yes", (own.roll "ΑΣ b" (Script.ofWord 0)).2) ∧
      builtin.roll ("\u2003" ++ "ΑΣ_B" ++ "\n") (Script.ofWord 0) =
        (.error (.unknown ("\u2003" ++ "ΑΣ_B" ++ "\n")), Script.ofWord 0) := by
  intro own
  have hs : Trimmed "ΑΣ_B".toList := by decide +kernel
  have ht : Trimmed "ΑΣ b".toList := by decide +kernel
  have hst : List.Forall₂ Respelled "ΑΣ_B".toList "ΑΣ b".toList :=
    .cons (.same 'Α') (.cons (.same 'Σ') (.cons (.separator (by decide) (by decide))
      (.cons (.letter (by decide) (by decide) (by decide)) .nil)))
  have hp : ∀ c ∈ "\u2003".toList, isBlank c = true := List.all_eq_true.mp (by decide +kernel)
  have hq : ∀ c ∈ "\n".toList, isBlank c = true := List.all_eq_true.mp (by decide +kernel)
  obtain ⟨hnormal, -, -, hroll⟩ := lookup_respelled hs ht hst hp hq
  refine ⟨hs, ht, hst, hp, hq, hnormal.trans (by decide +kernel), ?_, ?_⟩
  · have hyes : (own.roll "ΑΣ b" (Script.ofWord 0)).1 = .ok "Yes" := by decide +kernel
    rw [hroll own Script (Script.ofWord 0), hyes]
    rfl
  · have hunknown : builtin.roll "ΑΣ b" (Script.ofWord 0) =
        (.error (.unknown "ΑΣ b"), Script.ofWord 0) := by
      have hnone : Builtin.named? "ΑΣ b" = none := by decide +kernel
      unfold roll
      rw [hnone]
      rfl
    rw [hroll builtin Script (Script.ofWord 0), hunknown]
    rfl

end TableSet

end Tabletop
