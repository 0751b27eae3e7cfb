import Tabletop.Text.Lowercase

/-!
# Tabletop.Proofs.Text.Letters — nothing is lowered twice

Beyond ASCII, what is lowered is told by the table of runs. A run lowers one stretch of code points
to another. The stretch that it lowers to keeps clear of the stretch that any run lowers from, or
its characters lie between the characters of that one; so a code point that was lowered is in no
run. In the same way a class of code points is kept out of all lowering, if every run lowers to a
stretch that keeps clear of it. These are facts about pairs of stretches, not about single
characters.
-/

namespace Tabletop.Text

/-- A code point of a stretch that lies apart from each range of a class is not in the class. -/
theorem Ranges.covers_eq_false_of_apart {ranges : Ranges} {first last code : Nat}
    (h : (ranges.all fun range => Nat.ble (range.2 + 1) first || Nat.ble (last + 1) range.1) = true)
    (hfirst : first ≤ code) (hlast : code ≤ last) : ranges.covers code = false := by
  rw [Bool.eq_false_iff]
  intro hcovers
  obtain ⟨range, hrange, hleast, hmost⟩ := Ranges.covers_iff.mp hcovers
  have hapart := List.all_eq_true.mp h range hrange
  simp only [Bool.or_eq_true, Nat.ble_eq] at hapart
  omega

/-! ## The stretches of the runs -/

namespace LoweringRun

variable {run other : LoweringRun} {code image : Nat}

/-- The code point that the last character of a run lowers to. -/
def lastImage (run : LoweringRun) : Nat := run.image + (run.last - run.first)

/-- The stretch that a run lowers to keeps clear of a range. -/
def avoids (run : LoweringRun) (range : Nat × Nat) : Bool :=
  Nat.ble (range.2 + 1) run.image || Nat.ble (run.lastImage + 1) range.1

/-- What a run lowers to is nothing that the other one lowers: the stretches lie apart, or the other
one takes every second code point and this one yields only those between them. -/
def passes (run other : LoweringRun) : Bool :=
  run.avoids (other.first, other.last) ||
    (other.step == 2 && (run.image + other.first) % 2 == 1 &&
      (run.step == 2 || run.first == run.last))

theorem lower?_eq_some_iff :
    run.lower? code = some image ↔
      run.first ≤ code ∧ code ≤ run.last ∧ (code - run.first) % run.step = 0 ∧
        image = run.image + (code - run.first) := by
  unfold lower?
  split
  · rename_i h
    simp [h, eq_comm]
  · rename_i h
    constructor
    · intro hsome
      exact absurd hsome (by simp)
    · rintro ⟨hfirst, hlast, hstep, -⟩
      exact absurd ⟨hfirst, hlast, hstep⟩ h

/-- What a run lowers to lies in its stretch. -/
theorem image_mem (h : run.lower? code = some image) :
    run.image ≤ image ∧ image ≤ run.lastImage := by
  obtain ⟨hfirst, hlast, -, rfl⟩ := lower?_eq_some_iff.mp h
  unfold lastImage
  omega

theorem lower?_image_eq_none (hpasses : run.passes other = true)
    (h : run.lower? code = some image) : other.lower? image = none := by
  have hmem := image_mem h
  obtain ⟨hfirst, hlast, hstep, himage⟩ := lower?_eq_some_iff.mp h
  refine Option.eq_none_iff_forall_ne_some.mpr fun lowered hlowered => ?_
  obtain ⟨hofirst, holast, hostep, -⟩ := lower?_eq_some_iff.mp hlowered
  simp only [passes, avoids, Bool.or_eq_true, Bool.and_eq_true, Nat.ble_eq, beq_iff_eq] at hpasses
  rcases hpasses with havoids | ⟨⟨htwo, hodd⟩, hshape⟩
  · omega
  · -- An image is an even way from the first one, and so an odd way from what the other takes.
    have heven : (code - run.first) % 2 = 0 := by
      rcases hshape with hrun | hsingle
      · rw [hrun] at hstep
        exact hstep
      · omega
    rw [htwo] at hostep
    omega

/-- A class of characters that the stretch keeps clear of holds nothing that the run lowers to. -/
theorem covers_image_eq_false {ranges : Ranges} (havoids : ranges.all run.avoids = true)
    (h : run.lower? code = some image) : ranges.covers image = false := by
  obtain ⟨hfirst, hlast⟩ := image_mem h
  exact Ranges.covers_eq_false_of_apart havoids hfirst hlast

end LoweringRun

/-! ## The table -/

/-- The capitals that are not in the runs: those of ASCII, and the capital I with a dot. -/
def otherCapitals : Ranges := [(0x41, 0x5a), (0x130, 0x130)]

/-- The code points that are halves of surrogate pairs, and no characters. -/
def surrogates : Ranges := [(0xd800, 0xdfff)]

theorem covers_otherCapitals_eq_false {code : Nat} :
    otherCapitals.covers code = false ↔ ¬(0x41 ≤ code ∧ code ≤ 0x5a) ∧ code ≠ 0x130 := by
  simp only [Ranges.covers, otherCapitals, List.any_cons, List.any_nil, Bool.or_false,
    Bool.or_eq_false_iff, Bool.and_eq_false_iff, decide_eq_false_iff_not]
  omega

theorem covers_surrogates_eq_false {code : Nat} :
    surrogates.covers code = false ↔ code < 0xd800 ∨ 0xdfff < code := by
  simp only [Ranges.covers, surrogates, List.any_cons, List.any_nil, Bool.or_false,
    Bool.and_eq_false_iff, decide_eq_false_iff_not]
  omega

/-- **No run lowers to what a run lowers.** -/
theorem passes_of_mem {run other : LoweringRun} (hrun : run ∈ loweringRuns)
    (hother : other ∈ loweringRuns) : run.passes other = true := by
  have hpasses : (loweringRuns.all fun run => loweringRuns.all run.passes) = true := by
    decide +kernel
  exact List.all_eq_true.mp (List.all_eq_true.mp hpasses run hrun) other hother

/-- What a character beyond ASCII lowers to: itself if it is in no run, or else its image. -/
theorem lowerCode_cases (code : Nat) :
    (lowerCode code = code ∧ ∀ run ∈ loweringRuns, run.lower? code = none) ∨
      ∃ run ∈ loweringRuns, run.lower? code = some (lowerCode code) := by
  unfold lowerCode
  cases h : loweringRuns.findSome? fun run => run.lower? code with
  | none => exact .inl ⟨rfl, List.findSome?_eq_none_iff.mp h⟩
  | some image => exact .inr (List.exists_of_findSome?_eq_some h)

theorem lowerCode_lowerCode (code : Nat) : lowerCode (lowerCode code) = lowerCode code := by
  rcases lowerCode_cases code with ⟨hself, -⟩ | ⟨run, hrun, himage⟩
  · rw [hself, hself]
  · have hnone : ∀ other ∈ loweringRuns, other.lower? (lowerCode code) = none := fun other hother =>
      LoweringRun.lower?_image_eq_none (passes_of_mem hrun hother) himage
    conv => lhs; rw [lowerCode, List.findSome?_eq_none_iff.mpr hnone, Option.getD_none]

/-- A class that all runs keep clear of holds what a character lowers to only if it holds the
character. -/
theorem covers_lowerCode {ranges : Ranges}
    (havoids : (loweringRuns.all fun run => ranges.all run.avoids) = true) {code : Nat}
    (h : ranges.covers code = false) : ranges.covers (lowerCode code) = false := by
  rcases lowerCode_cases code with ⟨hself, -⟩ | ⟨run, hrun, himage⟩
  · rw [hself]
    exact h
  · exact LoweringRun.covers_image_eq_false (List.all_eq_true.mp havoids run hrun) himage

theorem lowerCode_lt {code : Nat} (h : code < 0x110000) : lowerCode code < 0x110000 := by
  have hall : (loweringRuns.all fun run => Nat.ble (run.lastImage + 1) 0x110000) = true := by
    decide +kernel
  rcases lowerCode_cases code with ⟨hself, -⟩ | ⟨run, hrun, himage⟩
  · rw [hself]
    exact h
  · have hlast := Nat.le_of_ble_eq_true (List.all_eq_true.mp hall run hrun)
    exact Nat.lt_of_le_of_lt (LoweringRun.image_mem himage).2 hlast

end Tabletop.Text
