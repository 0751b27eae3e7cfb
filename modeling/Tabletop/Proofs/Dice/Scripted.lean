import Tabletop.Proofs.Dice.Throw

/-!
# Tabletop.Proofs.Dice.Scripted — every throw can be written down in advance

For each face of a die there is a word that makes the die show it and asks for no second word: a die
has far fewer faces than there are words, so each face has a stretch of words to itself. Written one
after the other, such words are a script on which the dice show the given faces in the given order,
and which is read to its end and no further.
-/

namespace Tabletop.Dice

variable {sides face : UInt32}

/-- The least word that makes a die show a face. -/
def wordFor (sides face : UInt32) : UInt64 :=
  UInt64.ofNat (Sampler.wordFor UInt64.size (clampSides sides).toNat (face.toNat - 1))

theorem toNat_wordFor (h : IsFace sides face) :
    (wordFor sides face).toNat =
      Sampler.wordFor UInt64.size (clampSides sides).toNat (face.toNat - 1) := by
  obtain ⟨hleast, hmost⟩ := h
  have hlt : Sampler.wordFor UInt64.size (clampSides sides).toNat (face.toNat - 1) < UInt64.size :=
    Sampler.wordFor_lt (clampSides_pos sides) (clampSides_le_size sides) (by omega)
  rw [wordFor, UInt64.toNat_ofNat', Nat.mod_eq_of_lt hlt]

/-- **A die on the word for a face** shows the face and reads that word only. -/
theorem rollDie_of_upcoming {s : Script} {more : List UInt64} (h : IsFace sides face)
    (hwords : s.upcoming = wordFor sides face :: more) : rollDie sides s = (face, s.advance) := by
  obtain ⟨hhead, -⟩ := Script.head_of_upcoming_eq_cons hwords
  have hroom : 2 * (clampSides sides).toNat ≤ UInt64.size := by
    have hsides := (clampSides sides).toNat_lt_size
    simp only [UInt32.size, UInt64.size] at hsides ⊢
    omega
  have hword : s.head.toNat =
      Sampler.wordFor UInt64.size (clampSides sides).toNat (face.toNat - 1) := by
    rw [hhead, toNat_wordFor h]
  have hdraw : Draw.below64 (clampSides sides).toNat s = (face.toNat - 1, s.advance) :=
    Sampler.draw_of_wordFor (clampSides_pos sides) hroom hword
  unfold rollDie
  rw [hdraw]
  show (UInt32.ofNat (face.toNat - 1 + 1), s.advance) = (face, s.advance)
  rw [Nat.sub_add_cancel h.1, UInt32.ofNat_toNat]

/-- **Dice on the words for some faces** show these faces in this order and read a word each. -/
theorem times_rollDie_of_upcoming {faces : List UInt32} (h : ∀ face ∈ faces, IsFace sides face)
    {s : Script} (hwords : s.upcoming = faces.map (wordFor sides)) :
    Draw.times faces.length (rollDie sides) s =
      (faces, { s with position := s.position + faces.length }) := by
  induction faces generalizing s with
  | nil => rfl
  | cons face faces ih =>
      obtain ⟨hface, hfaces⟩ := List.forall_mem_cons.mp h
      have hstep := rollDie_of_upcoming hface hwords
      have hmore := (Script.head_of_upcoming_eq_cons hwords).2
      rw [List.length_cons, Draw.times_succ, hstep, ih hfaces hmore]
      have hposition : s.position + 1 + faces.length = s.position + (faces.length + 1) := by omega
      simp only [Script.advance, hposition]

/-- **Every list of faces is thrown on some script** with one word for each die. -/
theorem exists_throwDice_eq {count : UInt32} {faces : List UInt32}
    (hlength : faces.length = (clampCount count).toNat) (h : ∀ face ∈ faces, IsFace sides face) :
    ∃ (words : List UInt64) (script : Script), words.length = faces.length ∧
      Script.ofList? words = some script ∧
        throwDice count sides script = (faces, { script with position := words.length }) := by
  let words : List UInt64 := faces.map (wordFor sides)
  have hwords : words.length = faces.length := List.length_map _
  have hcount := UInt32.le_iff_toNat_le.mp (one_le_clampCount count)
  have hsize : 0 < words.toArray.size := by
    rw [List.size_toArray, hwords, hlength]
    exact hcount
  let script : Script := ⟨words.toArray, 0, hsize⟩
  have hupcoming : script.upcoming = words := rfl
  refine ⟨words, script, hwords, dif_pos hsize, ?_⟩
  rw [throwDice, ← hlength, times_rollDie_of_upcoming h hupcoming, hwords, Nat.zero_add]

end Tabletop.Dice
