import Mathlib.Algebra.Order.Group.Abs
import Mathlib.Algebra.Order.Group.Int
import Tabletop.Proofs.Dice.Scripted
import Tabletop.Proofs.Pool.Scoring

/-!
# Tabletop.Proofs.Pool.History — a rolled pool tells all of its dice

A roll of a pool keeps the face of every die in the order drawn, and what else it tells is what
scoring makes of these faces. Nothing limits what the faces can be: every list of as many faces as
the pool throws, each of them on the dice, is the history of a roll on some script, with one word
for each die.
-/

namespace Tabletop.Pool

variable {σ : Type} [Source σ]

/-- **What a rolled pool tells of its dice.** -/
structure Faithful (pool : Pool) (s : σ) (r : Roll) (rest : σ) : Prop where
  /-- The dice are those that come one by one, in the order drawn. -/
  faces_eq : r.faces = (Dice.rollDie pool.sides).results (Dice.clampCount pool.size).toNat s
  /-- The source is left where these dice leave it. -/
  rest_eq : rest = (Dice.rollDie pool.sides).after (Dice.clampCount pool.size).toNat s
  /-- No die is missing. -/
  length_eq : r.faces.length = (Dice.clampCount pool.size).toNat
  /-- Every die shows one of its faces. -/
  isFace : ∀ face ∈ r.faces, Dice.IsFace pool.sides face
  /-- The faces told are the faces scored. -/
  resolved : r = pool.resolve r.faces
  /-- The net count is no further from zero than there are dice. -/
  net_le : |r.net.toInt| ≤ r.faces.length
  /-- A success tells the net count. -/
  successes_eq : ∀ successes, r.outcome = .success successes →
    (successes.toNat : ℤ) = r.net.toInt

/-- A die moves the net count by one at most. -/
theorem abs_net_resolve_le (pool : Pool) {faces : List UInt32} (h : faces.length < UInt32.size) :
    |(pool.resolve faces).net.toInt| ≤ faces.length := by
  have hhits := hits_le_length pool.threshold faces
  have hpenalties := penalties_le_length pool.threshold faces
  rw [(scored_resolve pool h).net_eq, abs_le]
  omega

theorem faithful_roll (pool : Pool) (s : σ) :
    Faithful pool s (pool.roll s).1 (pool.roll s).2 := by
  have hthrow : Dice.throwDice pool.size pool.sides s = _ := Draw.times_eq_results _ _ s
  have hlength := Dice.length_throwDice_lt pool.size pool.sides s
  exact {
    faces_eq := congrArg Prod.fst hthrow
    rest_eq := congrArg Prod.snd hthrow
    length_eq := Dice.length_throwDice pool.size pool.sides s
    isFace := fun _ hface => Dice.isFace_of_mem_throwDice hface
    resolved := rfl
    net_le := abs_net_resolve_le pool hlength
    successes_eq := (scored_resolve pool hlength).successes_eq }

/-- **A rolled pool tells all of its dice, and can tell any dice.** From every source it keeps the
face of each die in the order drawn, scored as they stand; and every list of as many faces is what
it keeps on some script, one word for each die, which it reads to the end and no further. -/
theorem roll_keeps_dice (pool : Pool) :
    (∀ s : σ, Faithful pool s (pool.roll s).1 (pool.roll s).2) ∧
      ∀ faces : List UInt32, faces.length = (Dice.clampCount pool.size).toNat →
        (∀ face ∈ faces, Dice.IsFace pool.sides face) →
        ∃ (words : List UInt64) (script : Script), words.length = faces.length ∧
          Script.ofList? words = some script ∧
            pool.roll script = (pool.resolve faces, { script with position := words.length }) := by
  refine ⟨faithful_roll pool, ?_⟩
  intro faces hlength hfaces
  obtain ⟨words, script, hwords, hscript, hthrow⟩ := Dice.exists_throwDice_eq hlength hfaces
  refine ⟨words, script, hwords, hscript, ?_⟩
  unfold roll
  rw [hthrow]

/-- Dice with the most faces can show the last and then the first of them. -/
theorem roll_keeps_dice_greatest :
    let pool : Pool := ⟨4294967295, 2, 4294967295⟩
    let faces : List UInt32 := [4294967295, 1]
    faces.length = (Dice.clampCount pool.size).toNat ∧
      (∀ face ∈ faces, Dice.IsFace pool.sides face) ∧
        ∃ (words : List UInt64) (script : Script), words.length = 2 ∧
          (pool.roll script).1.faces = faces ∧ (pool.roll script).1.outcome = .failure ∧
            (pool.roll script).2.position = 2 := by
  intro pool faces
  have hlength : faces.length = (Dice.clampCount pool.size).toNat := by decide
  have hlast : Dice.IsFace pool.sides 4294967295 := ⟨by decide, by decide⟩
  have hfirst : Dice.IsFace pool.sides 1 := ⟨by decide, by decide⟩
  have hfaces : ∀ face ∈ faces, Dice.IsFace pool.sides face := by
    simp [faces, hlast, hfirst]
  obtain ⟨words, script, hwords, -, hroll⟩ :=
    (roll_keeps_dice (σ := Script) pool).2 faces hlength hfaces
  refine ⟨hlength, hfaces, words, script, hwords, ?_⟩
  rw [hroll]
  exact ⟨rfl, rfl, hwords⟩

end Tabletop.Pool
