import Mathlib.Algebra.Order.Group.Int
import Mathlib.Data.List.Forall2
import Tabletop.Proofs.Pool.Scoring

/-!
# Tabletop.Proofs.Pool.Comparison — better dice and lower thresholds score no less

Outcomes stand in an order: a fumble below a failure, a failure below every success, and a success
the higher the more successes it tells. A throw never scores less when the threshold is lowered, nor
when dice show more.

The net count alone does not carry this, since the outcome also asks whether any die met the
threshold. So two tallies are compared by counter and flag at once. Looking at one more die on each
side keeps the comparison: a hit against the higher threshold is one against the lower, and of two
dice that both show something only the lower can be a penalty while the other is none. A blank die
is left out on purpose: raised from 0 to 1 it would become a penalty.
-/

namespace Tabletop.Pool

/-! ## The order of outcomes -/

namespace Outcome

/-- How many outcomes are worse, if successes are counted from 0. -/
def rank : Outcome → ℕ
  | fumble => 0
  | failure => 1
  | success successes => successes.toNat + 2

theorem rank_injective : Function.Injective rank := by
  intro a b h
  cases a <;> cases b <;> simp_all [rank, UInt32.toNat_inj]

/-- Outcomes are ordered from worse to better. -/
instance : LinearOrder Outcome := LinearOrder.lift' rank rank_injective

theorem le_iff_rank_le {a b : Outcome} : a ≤ b ↔ a.rank ≤ b.rank := Iff.rfl

theorem lt_iff_rank_lt {a b : Outcome} : a < b ↔ a.rank < b.rank := by
  rw [← not_le, ← not_le, le_iff_rank_le]

/-- Nothing is worse than a fumble. -/
theorem fumble_le (outcome : Outcome) : fumble ≤ outcome := Nat.zero_le _

theorem fumble_lt_failure : fumble < failure := lt_iff_rank_lt.mpr Nat.zero_lt_one

theorem failure_lt_success (successes : UInt32) : failure < success successes := by
  rw [lt_iff_rank_lt]
  simp only [rank]
  omega

theorem success_le_success_iff {fewer more : UInt32} :
    success fewer ≤ success more ↔ fewer ≤ more := by
  rw [le_iff_rank_le, UInt32.le_iff_toNat_le]
  exact Nat.add_le_add_iff_right

theorem success_lt_success_iff {fewer more : UInt32} :
    success fewer < success more ↔ fewer < more := by
  rw [← not_le, success_le_success_iff, UInt32.not_le]

end Outcome

/-! ## Comparing tallies -/

/-- One die is no better than another: they show the same, or it shows something, but no more. -/
def NoBetter (face higher : UInt32) : Prop := face = higher ∨ (1 ≤ face ∧ face ≤ higher)

section NoBetter

variable {face higher : UInt32}

theorem NoBetter.le (h : NoBetter face higher) : face ≤ higher := by
  rcases h with rfl | ⟨_, hle⟩
  · exact UInt32.le_refl face
  · exact hle

/-- A die that shows something and no more than 1 shows 1. -/
theorem NoBetter.eq_one (h : NoBetter face 1) : face = 1 := by
  rcases h with rfl | ⟨hleast, hmost⟩
  · rfl
  · exact UInt32.le_antisymm hmost hleast

end NoBetter

namespace Tally

variable {t u : Tally} {easier harder face higher : UInt32}

/-- A tally is no better than another, in its counter and in its flag. -/
structure Below (t u : Tally) : Prop where
  /-- There are no more net successes. -/
  net_le : t.net ≤ u.net
  /-- If there is a hit, the other has one. -/
  hit : t.anyHit = true → u.anyHit = true

/-- A die scores one at most. -/
theorem net_add_le (t : Tally) (threshold face : UInt32) :
    (t.add threshold face).net ≤ t.net + 1 := by
  unfold add
  split
  · exact Int.le_refl _
  · split
    · show t.net - 1 ≤ t.net + 1
      omega
    · show t.net ≤ t.net + 1
      omega

/-- **One more die on each side** keeps the comparison. -/
theorem Below.add (h : t.Below u) (hthreshold : easier ≤ harder) (hface : NoBetter face higher) :
    (t.add harder face).Below (u.add easier higher) := by
  by_cases hscores : easier ≤ higher
  · have hadd : u.add easier higher = ⟨u.net + 1, true⟩ := if_pos hscores
    have hone : t.net + 1 ≤ u.net + 1 := Int.add_le_add_right h.net_le 1
    rw [hadd]
    exact ⟨Int.le_trans (net_add_le t harder face) hone, fun _ => rfl⟩
  · -- The better die does not score, so neither does the other.
    have hmisses : ¬harder ≤ face := by
      intro hmet
      exact hscores (UInt32.le_trans hthreshold (UInt32.le_trans hmet hface.le))
    unfold Tally.add
    rw [if_neg hscores, if_neg hmisses]
    by_cases hpenalty : higher = 1
    · subst hpenalty
      rw [if_pos rfl, if_pos hface.eq_one]
      exact ⟨Int.sub_le_sub_right h.net_le 1, h.hit⟩
    · rw [if_neg hpenalty]
      split
      · exact ⟨Int.le_trans (Int.sub_le_self t.net (by decide)) h.net_le, h.hit⟩
      · exact h

end Tally

/-- **Throws die by die no better** have tallies no better, against a threshold no lower. -/
theorem tally_below {easier harder : UInt32} {faces better : List UInt32}
    (hthreshold : easier ≤ harder) (hfaces : List.Forall₂ NoBetter faces better) :
    (tally harder faces).Below (tally easier better) := by
  unfold tally
  refine List.rel_foldl ?_ ⟨Int.le_refl 0, id⟩ hfaces
  intro t u h face higher hface
  exact h.add hthreshold hface

/-- A better tally has a better outcome. -/
theorem Tally.Below.outcome_le {t u : Tally} (h : t.Below u) : t.outcome ≤ u.outcome := by
  have hnet := h.net_le
  rcases Int.lt_or_le u.net 1 with hlost | hwon
  · rw [outcome_of_lt_one hlost, outcome_of_lt_one (by omega)]
    cases hflag : t.anyHit with
    | false => exact Outcome.fumble_le _
    | true => rw [h.hit hflag]
  · rw [outcome_of_one_le hwon]
    rcases Int.lt_or_le t.net 1 with hlost | hwon'
    · rw [outcome_of_lt_one hlost]
      split
      · exact le_of_lt (Outcome.failure_lt_success _)
      · exact Outcome.fumble_le _
    · rw [outcome_of_one_le hwon', Outcome.success_le_success_iff, UInt32.le_iff_toNat_le,
        toNat_successes, toNat_successes]
      exact min_le_min_right mostSuccesses (Int.toNat_le_toNat hnet)

/-! ## Comparing resolved throws -/

/-- What a 64-bit counter keeps of an integer. -/
theorem toInt_ofIntClamp_eq (n : ℤ) :
    (Int64.ofIntClamp n).toInt = max Int64.minValue.toInt (min n Int64.maxValue.toInt) := by
  have hends : Int64.minValue.toInt ≤ Int64.maxValue.toInt := by decide
  unfold Int64.ofIntClamp
  split
  · split
    · rw [Int64.toInt_ofIntLE]
      omega
    · omega
  · omega

theorem resolve_le_resolve {easier harder : Pool} {faces better : List UInt32}
    (hthreshold : easier.threshold ≤ harder.threshold)
    (hfaces : List.Forall₂ NoBetter faces better) :
    (harder.resolve faces).net ≤ (easier.resolve better).net ∧
      (harder.resolve faces).outcome ≤ (easier.resolve better).outcome := by
  have hbelow := tally_below hthreshold hfaces
  refine ⟨?_, hbelow.outcome_le⟩
  have hnet := hbelow.net_le
  rw [Int64.le_iff_toInt_le]
  unfold resolve
  simp only [toInt_ofIntClamp_eq]
  omega

/-- **Scoring keeps the order** of outcomes, in which a fumble comes before a failure, a failure
before every success, and fewer successes before more. Against a higher threshold the same dice have
no greater net count and no better outcome; and dice that show as much or more, none of them blank
before, have no smaller net count and no worse outcome. -/
theorem resolve_mono :
    (Outcome.fumble < .failure ∧ (∀ successes, Outcome.failure < .success successes) ∧
        ∀ fewer more, Outcome.success fewer < .success more ↔ fewer < more) ∧
      (∀ (easier harder : Pool) (faces : List UInt32), easier.threshold ≤ harder.threshold →
          (harder.resolve faces).net ≤ (easier.resolve faces).net ∧
            (harder.resolve faces).outcome ≤ (easier.resolve faces).outcome) ∧
      ∀ (pool : Pool) (faces better : List UInt32),
        List.Forall₂ (fun face higher => 1 ≤ face ∧ face ≤ higher) faces better →
          (pool.resolve faces).net ≤ (pool.resolve better).net ∧
            (pool.resolve faces).outcome ≤ (pool.resolve better).outcome := by
  refine ⟨⟨Outcome.fumble_lt_failure, Outcome.failure_lt_success, ?_⟩, ?_, ?_⟩
  · intro fewer more
    exact Outcome.success_lt_success_iff
  · intro easier harder faces hthreshold
    have hsame : List.Forall₂ NoBetter faces faces :=
      List.forall₂_same.mpr fun _ _ => Or.inl rfl
    exact resolve_le_resolve hthreshold hsame
  · intro pool faces better hfaces
    have hbetter : List.Forall₂ NoBetter faces better := hfaces.imp fun _ _ => Or.inr
    exact resolve_le_resolve (UInt32.le_refl pool.threshold) hbetter

/-- Against 6 and not 5 a failure is a fumble; a one that turns into a two turns a failure into a
success, although no die hits that did not before. -/
theorem resolve_mono_five_six :
    let easier : Pool := ⟨6, 2, 5⟩
    let harder : Pool := ⟨6, 2, 6⟩
    let faces : List UInt32 := [5, 1]
    let better : List UInt32 := [5, 2]
    (easier.threshold ≤ harder.threshold ∧
        (harder.resolve faces).outcome = .fumble ∧ (easier.resolve faces).outcome = .failure ∧
        (harder.resolve faces).net ≤ (easier.resolve faces).net ∧ Outcome.fumble ≤ .failure) ∧
      List.Forall₂ (fun face higher => 1 ≤ face ∧ face ≤ higher) faces better ∧
        (easier.resolve better).outcome = .success 1 ∧
        (easier.resolve faces).net ≤ (easier.resolve better).net ∧
        Outcome.failure ≤ .success 1 := by
  intro easier harder faces better
  have hthreshold : easier.threshold ≤ harder.threshold := by decide
  have hfaces : List.Forall₂ (fun face higher => 1 ≤ face ∧ face ≤ higher) faces better :=
    .cons (by decide) (.cons (by decide) .nil)
  obtain ⟨hnet, houtcome⟩ := resolve_mono.2.1 easier harder faces hthreshold
  obtain ⟨hnet', houtcome'⟩ := resolve_mono.2.2 easier faces better hfaces
  exact ⟨⟨hthreshold, rfl, rfl, hnet, houtcome⟩, hfaces, rfl, hnet', houtcome'⟩

/-- A blank die is worth more than a one. -/
example : ((Pool.mk 6 1 2).resolve [1]).net < ((Pool.mk 6 1 2).resolve [0]).net := by decide

end Tabletop.Pool
