import Mathlib.Algebra.BigOperators.Group.List.Basic
import Tabletop.Proofs.Random.Places
import Tabletop.Table.Catalogue

/-!
# Tabletop.Proofs.Table.Parts — a built-in table counts exactly its draws

How many results a built-in table has and how one of them is drawn is told for each table by itself,
once as a product of numbers and once as picks from word lists. Both are about the same lists, the
*parts* of the table: the number is the product of their lengths, and a result is glued together
from one word of each part, picked from left to right. No part is empty and no word is, so there is
always a result, and it is never the empty text. Every choice of places in the parts comes out of
some source, so the number counts no more than can be drawn.
-/

namespace Tabletop.Builtin

open Draw (Within entriesAt pickEach placeEach)

variable {σ : Type} [Source σ]

/-! ## The parts of a table -/

/-- The word lists that a result is put together from, in the order in which they are drawn from. -/
def parts : Builtin → List (List String)
  | femaleName => [Words.femaleOpenings, Words.femaleClosings]
  | maleName => [Words.maleOpenings, Words.maleClosings]
  | epithet => [Words.bynames]
  | extraction => [Words.placeQualities, Words.landforms]
  | orcName => [Words.orcOpenings, Words.orcClosings, Words.orcTribes]
  | magicEightBall => [Words.eightBallAnswers]
  | incapacitation => [Words.incapacitations]
  | musicalInstrument => [Words.instruments]
  | insanity => [Words.insanities]
  | card => [Words.cardRanks, Words.cardSuits]
  | cardSuit => [Words.cardSuits]
  | cardRank => [Words.cardRanks]

/-- **The number of results is the product of the lengths of the parts.** -/
theorem combinations_eq_prod (table : Builtin) :
    table.combinations = (table.parts.map List.length).prod := by
  cases table <;> simp [combinations, parts, Nat.mul_assoc]

/-- **A result is glued together from one word of each part**, drawn from left to right. -/
theorem draw_eq_join (table : Builtin) :
    (table.draw : Draw σ String) = String.join <$> table.parts.mapM oneOf := by
  cases table <;> simp [draw, parts, String.join_cons, String.append_assoc]

theorem parts_ne_nil (table : Builtin) : table.parts ≠ [] := by
  cases table <;> exact List.cons_ne_nil _ _

theorem ne_nil_of_mem_parts (table : Builtin) : ∀ part ∈ table.parts, part ≠ [] := by
  cases table <;> decide

theorem ne_empty_of_mem_parts (table : Builtin) :
    ∀ part ∈ table.parts, ∀ word ∈ part, word ≠ "" := by
  cases table <;> decide +kernel

/-- Words of 32 bits have room for the places of each part twice over. -/
theorem length_le_of_mem_parts (table : Builtin) :
    ∀ part ∈ table.parts, 2 * part.length ≤ UInt32.size := by
  cases table <;> decide +kernel

/-! ## The words of a result -/

/-- A text is glued together from the words at one place of each list. -/
def Glued (lists : List (List String)) (places : List ℕ) (text : String) : Prop :=
  ∃ words : List String, entriesAt lists places = words.map some ∧ String.join words = text

theorem mapM_oneOf (lists : List (List String)) (s : σ) :
    lists.mapM oneOf s =
      ((pickEach lists s).1.map fun entry => entry.getD "", (pickEach lists s).2) := by
  induction lists generalizing s with
  | nil => rfl
  | cons list rest ih =>
      have hrest := ih (Draw.pick list s).2
      unfold pickEach at hrest ⊢
      rw [Draw.mapM_cons_apply, Draw.mapM_cons_apply]
      show ((Draw.pick list s).1.getD "" :: (rest.mapM oneOf (Draw.pick list s).2).1,
        (rest.mapM oneOf (Draw.pick list s).2).2) = _
      rw [hrest]
      rfl

/-- Words that are not empty make a text that is not empty. -/
theorem join_ne_empty {words : List String} (hne : words ≠ []) (h : ∀ word ∈ words, word ≠ "") :
    String.join words ≠ "" := by
  cases words with
  | nil => exact absurd rfl hne
  | cons word rest =>
      intro hempty
      rw [String.join_cons, String.append_eq_empty_iff] at hempty
      exact h word List.mem_cons_self hempty.1

/-- What rolling on a table draws from a source. -/
structure DrawsParts (table : Builtin) (s : σ) : Prop where
  /-- One place of each part is drawn. -/
  within : Within table.parts (placeEach table.parts s).1
  /-- These are the places of picks from the parts, one after another from left to right. -/
  picks : pickEach table.parts s =
    (entriesAt table.parts (placeEach table.parts s).1, (placeEach table.parts s).2)
  /-- The result is the words at these places. -/
  glued : Glued table.parts (placeEach table.parts s).1 (table.draw s).1
  /-- The source is left as the picks leave it. -/
  left : (table.draw s).2 = (placeEach table.parts s).2
  /-- The result is not the empty text. -/
  notEmpty : (table.draw s).1 ≠ ""

theorem drawsParts (table : Builtin) (s : σ) : table.DrawsParts s := by
  have hwithin := Draw.within_placeEach table.ne_nil_of_mem_parts s
  have hpicks := Draw.pickEach_eq table.ne_nil_of_mem_parts s
  obtain ⟨words, hwords, hlength, hmem⟩ := Draw.exists_entriesAt_eq hwithin
  have hdraw : table.draw s = (String.join words, (placeEach table.parts s).2) := by
    rw [draw_eq_join]
    show (String.join (table.parts.mapM oneOf s).1, (table.parts.mapM oneOf s).2) = _
    rw [mapM_oneOf, hpicks, hwords, List.map_map]
    simp
  refine ⟨hwithin, hpicks, ⟨words, hwords, ?_⟩, ?_, ?_⟩
  · rw [hdraw]
  · rw [hdraw]
  · rw [hdraw]
    have hne : words ≠ [] := by
      rintro rfl
      exact table.parts_ne_nil (List.length_eq_zero_iff.mp hlength.symm)
    apply join_ne_empty hne
    intro word hword
    obtain ⟨part, hpart, hin⟩ := hmem word hword
    exact table.ne_empty_of_mem_parts part hpart word hin

/-- **A built-in table counts exactly its draws.** The number of its results is the product of the
lengths of its parts. From every source, rolling on it picks one word of each part from left to
right and yields these words, glued together, which are never the empty text; and every choice of
places in the parts is what rolling draws from some script, with one word for each part. -/
theorem draw_counts_combinations (table : Builtin) :
    table.combinations = (table.parts.map List.length).prod ∧
      (∀ (σ : Type) [Source σ] (s : σ), table.DrawsParts s) ∧
      ∀ places, Within table.parts places →
        ∃ (words : List UInt64) (script : Script), words.length = table.parts.length ∧
          Script.ofList? words = some script ∧
          (placeEach table.parts script).1 = places ∧
          Glued table.parts places (table.draw script).1 ∧
          (table.draw script).2 = { script with position := words.length } := by
  refine ⟨table.combinations_eq_prod, ?_, ?_⟩
  · intro σ _ s
    exact table.drawsParts s
  · intro places hplaces
    obtain ⟨words, script, hlength, hscript, hdrawn⟩ :=
      Draw.exists_placeEach_eq hplaces table.length_le_of_mem_parts table.parts_ne_nil
    have hdraws := table.drawsParts script
    refine ⟨words, script, ?_, hscript, ?_, ?_, ?_⟩
    · rw [hlength, hplaces.length_eq]
    · rw [hdrawn]
    · have hglued := hdraws.glued
      rw [hdrawn] at hglued
      exact hglued
    · rw [hdraws.left, hdrawn]

/-- The tenth rank and the second suit. -/
theorem draw_counts_combinations_card :
    card.combinations = 52 ∧ Within card.parts [9, 1] ∧
      ∃ (words : List UInt64) (script : Script), words.length = 2 ∧
        Script.ofList? words = some script ∧ (card.draw script).1 = "10♠" := by
  obtain ⟨hcount, -, hscripts⟩ := draw_counts_combinations card
  have hwithin : Within card.parts [9, 1] := by decide
  obtain ⟨words, script, hlength, hscript, -, ⟨entries, hentries, hjoin⟩, -⟩ :=
    hscripts [9, 1] hwithin
  refine ⟨hcount.trans (by decide), hwithin, words, script, hlength, hscript, ?_⟩
  have hwords : entriesAt card.parts [9, 1] = ["10", "♠"].map some := by decide
  have hsame : entries = ["10", "♠"] :=
    List.map_injective_iff.mpr (Option.some_injective _) (hentries.symm.trans hwords)
  rw [← hjoin, hsame]
  decide

end Tabletop.Builtin
