import Mathlib.Data.List.DropRight
import Tabletop.Text.Blank

/-!
# Tabletop.Proofs.Text.Blank — trimmed texts

A text is trimmed when neither its first nor its last character is blank. Trimming yields such a
text, and it finds such a text again between any blanks.
-/

namespace Tabletop.Text

/-- A text without a blank at its ends. -/
structure Trimmed (cs : List Char) : Prop where
  first : ∀ c ∈ cs.head?, isBlank c = false
  last : ∀ c ∈ cs.getLast?, isBlank c = false

theorem Trimmed.rdropWhile_eq {cs : List Char} (h : Trimmed cs) : cs.rdropWhile isBlank = cs := by
  refine List.rdropWhile_eq_self_iff.mpr fun hne => ?_
  simp [h.last _ (List.getLast_mem_getLast? hne)]

/-- **Trimming takes the blanks around a trimmed text away**, and nothing else. -/
theorem Trimmed.trimChars_surrounded {before cs after : List Char} (h : Trimmed cs)
    (hbefore : ∀ c ∈ before, isBlank c = true) (hafter : ∀ c ∈ after, isBlank c = true) :
    trimChars (before ++ cs ++ after) = cs := by
  unfold trimChars
  rw [List.append_assoc, List.dropWhile_append_of_pos hbefore]
  cases cs with
  | nil =>
      rw [List.nil_append, List.dropWhile_eq_nil_iff.mpr hafter]
      rfl
  | cons c rest =>
      have hback : ∀ d ∈ after.reverse, isBlank d = true := fun d hd =>
        hafter d (List.mem_reverse.mp hd)
      have hfront : ¬isBlank c = true := by simp [h.first c rfl]
      rw [List.cons_append, List.dropWhile_cons_of_neg hfront, ← List.cons_append,
        List.reverse_append, List.dropWhile_append_of_pos hback]
      exact h.rdropWhile_eq

/-- Trimming leaves a trimmed text as it is. -/
theorem Trimmed.trimChars_eq {cs : List Char} (h : Trimmed cs) : trimChars cs = cs := by
  have hnone : ∀ c ∈ ([] : List Char), isBlank c = true := fun c hc => absurd hc List.not_mem_nil
  have hsurrounded := h.trimChars_surrounded hnone hnone
  rwa [List.nil_append, List.append_nil] at hsurrounded

theorem trimmed_trimChars (cs : List Char) : Trimmed (trimChars cs) where
  first c hc := by
    -- What is left begins as the text without the blanks at its front does.
    obtain ⟨blanks, hprefix⟩ : trimChars cs <+: cs.dropWhile isBlank :=
      List.rdropWhile_prefix isBlank _
    have hhead : (cs.dropWhile isBlank).head? = some c := by
      rw [← hprefix, List.head?_append_of_ne_nil _ (List.ne_nil_of_mem (List.mem_of_head? hc))]
      exact hc
    have hnot := List.head?_dropWhile_not isBlank cs
    rw [hhead] at hnot
    exact hnot
  last c hc := by
    obtain ⟨hne, rfl⟩ := List.mem_getLast?_eq_getLast hc
    exact eq_false_of_ne_true (List.rdropWhile_last_not isBlank _ hne)

/-- **A text is another one without the blanks around it.** -/
structure TrimmedFrom (cs whole : List Char) : Prop where
  trimmed : Trimmed cs
  surrounded : ∃ before after, (∀ c ∈ before, isBlank c = true) ∧
    (∀ c ∈ after, isBlank c = true) ∧ whole = before ++ cs ++ after

/-- **Trimming leaves the text without the blanks around it.** -/
theorem trimmedFrom_trimChars (cs : List Char) : TrimmedFrom (trimChars cs) cs where
  trimmed := trimmed_trimChars cs
  surrounded := by
    refine ⟨cs.takeWhile isBlank, (cs.dropWhile isBlank).rtakeWhile isBlank, ?_, ?_, ?_⟩
    · intro c hc
      exact List.mem_takeWhile_imp hc
    · intro c hc
      exact List.mem_rtakeWhile_imp hc
    · have hback : (cs.dropWhile isBlank).rdropWhile isBlank ++
          (cs.dropWhile isBlank).rtakeWhile isBlank = cs.dropWhile isBlank :=
        List.rdropWhile_append_rtakeWhile
      show cs = _ ++ (cs.dropWhile isBlank).rdropWhile isBlank ++ _
      rw [List.append_assoc, hback, List.takeWhile_append_dropWhile]

/-- **A text is trimmed exactly if trimming leaves it as it is.** -/
theorem trimmed_iff {cs : List Char} : Trimmed cs ↔ trimChars cs = cs := by
  constructor
  · intro h
    exact h.trimChars_eq
  · intro h
    rw [← h]
    exact trimmed_trimChars cs

instance (cs : List Char) : Decidable (Trimmed cs) := decidable_of_iff _ trimmed_iff.symm

end Tabletop.Text
