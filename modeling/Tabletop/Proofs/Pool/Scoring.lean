import Mathlib.Tactic.Ring
import Tabletop.Pool

/-!
# Tabletop.Proofs.Pool.Scoring — a tally is two counts

A throw is scored in one pass, with a counter that may fall below zero and a flag. Two counts say
what comes of it: the dice that meet the threshold, which are *hits*, and the dice below it that
show 1, which are *penalties*. Dice still to be looked at move the counter by their hits less their
penalties and raise the flag when there is a hit among them, whatever stood there before. The two
keep in step, so the outcome can be told from the counts alone: a throw without a hit has no net
success, and so is a fumble.

A count does not depend on the order of the dice, and the counts of two throws add up.
-/

namespace Tabletop.Pool

variable {threshold : UInt32} {faces : List UInt32}

/-! ## Hits and penalties -/

/-- How many dice meet the threshold. -/
def hits (threshold : UInt32) (faces : List UInt32) : ℕ :=
  faces.countP fun face => threshold ≤ face

/-- How many dice show 1 without meeting the threshold. -/
def penalties (threshold : UInt32) (faces : List UInt32) : ℕ :=
  faces.countP fun face => face = 1 ∧ face < threshold

theorem hits_pos_iff : 0 < hits threshold faces ↔ ∃ face ∈ faces, threshold ≤ face := by
  simp [hits, List.countP_pos_iff]

theorem hits_eq_zero_iff : hits threshold faces = 0 ↔ ∀ face ∈ faces, face < threshold := by
  simp [hits, List.countP_eq_zero]

theorem hits_append (threshold : UInt32) (faces more : List UInt32) :
    hits threshold (faces ++ more) = hits threshold faces + hits threshold more :=
  List.countP_append

theorem penalties_append (threshold : UInt32) (faces more : List UInt32) :
    penalties threshold (faces ++ more) = penalties threshold faces + penalties threshold more :=
  List.countP_append

theorem hits_le_length (threshold : UInt32) (faces : List UInt32) :
    hits threshold faces ≤ faces.length :=
  List.countP_le_length

theorem penalties_le_length (threshold : UInt32) (faces : List UInt32) :
    penalties threshold faces ≤ faces.length :=
  List.countP_le_length

/-! ## The tally of a throw -/

/-- **One die** moves the counter by one at most. A hit is no penalty, even if it shows 1. -/
theorem Tally.add_eq (t : Tally) (face : UInt32) :
    t.add threshold face =
      ⟨t.net + hits threshold [face] - penalties threshold [face],
        t.anyHit || decide (0 < hits threshold [face])⟩ := by
  unfold add hits penalties
  by_cases hhit : threshold ≤ face
  · have hpenalty : ¬face < threshold := UInt32.not_lt.mpr hhit
    simp [hhit, hpenalty]
  · have hbelow : face < threshold := UInt32.not_le.mp hhit
    by_cases hone : face = 1
    · subst hone
      simp [hhit, hbelow]
    · simp [hhit, hone]

/-- **Dice still to be looked at** add their hits less their penalties to the counter, and raise the
flag when there is a hit among them. -/
theorem foldl_add (faces : List UInt32) (t : Tally) :
    faces.foldl (Tally.add threshold) t =
      ⟨t.net + hits threshold faces - penalties threshold faces,
        t.anyHit || decide (0 < hits threshold faces)⟩ := by
  induction faces generalizing t with
  | nil => simp [hits, penalties]
  | cons face faces ih =>
      have hhits : hits threshold (face :: faces) = hits threshold [face] + hits threshold faces :=
        hits_append threshold [face] faces
      have hpenalties : penalties threshold (face :: faces) =
          penalties threshold [face] + penalties threshold faces :=
        penalties_append threshold [face] faces
      rw [List.foldl_cons, ih, Tally.add_eq, hhits, hpenalties]
      apply Tally.ext
      · push_cast
        ring
      · simp [Bool.or_assoc]

/-- **The counter of a throw** is its hits less its penalties. -/
theorem net_tally (threshold : UInt32) (faces : List UInt32) :
    (tally threshold faces).net = hits threshold faces - penalties threshold faces := by
  rw [tally, foldl_add]
  simp [Tally.start]

/-- **The flag of a throw** is raised when some die is a hit. -/
theorem anyHit_tally (threshold : UInt32) (faces : List UInt32) :
    (tally threshold faces).anyHit = decide (0 < hits threshold faces) := by
  rw [tally, foldl_add]
  exact Bool.false_or _

/-- Shuffling a throw does not change its tally. -/
theorem tally_eq_of_perm {shuffled : List UInt32} (h : shuffled.Perm faces) :
    tally threshold shuffled = tally threshold faces := by
  have hhits : hits threshold shuffled = hits threshold faces := h.countP_eq _
  have hpenalties : penalties threshold shuffled = penalties threshold faces := h.countP_eq _
  apply Tally.ext
  · rw [net_tally, net_tally, hhits, hpenalties]
  · rw [anyHit_tally, anyHit_tally, hhits]

/-! ## The outcome of a tally -/

namespace Tally

variable {t : Tally}

theorem outcome_of_one_le (h : 1 ≤ t.net) : t.outcome = .success t.successes := if_pos h

theorem outcome_of_lt_one (h : t.net < 1) :
    t.outcome = if t.anyHit then .failure else .fumble :=
  if_neg (Int.not_le.mpr h)

theorem exists_outcome_eq_success_iff :
    (∃ successes, t.outcome = .success successes) ↔ 1 ≤ t.net := by
  rcases Int.lt_or_le t.net 1 with hlt | hle
  · rw [outcome_of_lt_one hlt]
    cases t.anyHit <;> simp [Int.not_le.mpr hlt]
  · exact ⟨fun _ => hle, fun _ => ⟨t.successes, outcome_of_one_le hle⟩⟩

theorem outcome_eq_failure_iff : t.outcome = .failure ↔ t.net < 1 ∧ t.anyHit = true := by
  rcases Int.lt_or_le t.net 1 with hlt | hle
  · rw [outcome_of_lt_one hlt]
    cases t.anyHit <;> simp [hlt]
  · rw [outcome_of_one_le hle]
    simp [Int.not_lt.mpr hle]

theorem outcome_eq_fumble_iff : t.outcome = .fumble ↔ t.net < 1 ∧ t.anyHit = false := by
  rcases Int.lt_or_le t.net 1 with hlt | hle
  · rw [outcome_of_lt_one hlt]
    cases t.anyHit <;> simp [hlt]
  · rw [outcome_of_one_le hle]
    simp [Int.not_lt.mpr hle]

theorem toNat_successes (t : Tally) : t.successes.toNat = min t.net.toNat mostSuccesses := by
  have hlt : min t.net.toNat mostSuccesses < UInt32.size :=
    Nat.lt_of_le_of_lt (Nat.min_le_right _ mostSuccesses) (by decide)
  rw [successes, UInt32.toNat_ofNat', Nat.mod_eq_of_lt hlt]

/-- A success tells the net count, if a 32-bit number can. -/
theorem toNat_of_outcome_eq_success {told : UInt32} (h : t.outcome = .success told)
    (hfits : t.net < UInt32.size) : (told.toNat : ℤ) = t.net := by
  have hnet : 1 ≤ t.net := exists_outcome_eq_success_iff.mp ⟨told, h⟩
  have hlt : t.net.toNat < UInt32.size := by omega
  have hmost : t.net.toNat ≤ mostSuccesses := Nat.le_sub_one_of_lt hlt
  rw [outcome_of_one_le hnet, Outcome.success.injEq] at h
  rw [← h, toNat_successes, Nat.min_eq_left hmost]
  exact Int.toNat_of_nonneg (by omega)

end Tally

/-! ## A resolved throw -/

/-- The net count of a throw, as an integer. -/
theorem toInt_net_resolve (pool : Pool) (h : (faces.length : ℤ) ≤ Int64.maxValue.toInt) :
    (pool.resolve faces).net.toInt =
      hits pool.threshold faces - penalties pool.threshold faces := by
  have hhits := hits_le_length pool.threshold faces
  have hpenalties := penalties_le_length pool.threshold faces
  have hmin : Int64.minValue.toInt = -Int64.maxValue.toInt - 1 := by decide
  show (Int64.ofIntClamp (tally pool.threshold faces).net).toInt = _
  rw [net_tally]
  exact Int64.toInt_ofIntClamp (by omega) (by omega)

/-- **What the two counts of a throw make of it**: its net count and its outcome. -/
structure Scored (threshold : UInt32) (faces : List UInt32) (net : ℤ) (outcome : Outcome) :
    Prop where
  /-- Penalties are taken from the hits. -/
  net_eq : net = (hits threshold faces : ℤ) - penalties threshold faces
  /-- A throw succeeds with at least one net success. -/
  success_iff : (∃ successes, outcome = .success successes) ↔ 1 ≤ net
  /-- A success tells the net count. -/
  successes_eq : ∀ successes, outcome = .success successes → (successes.toNat : ℤ) = net
  /-- A throw fails when some die met the threshold, but no net success is left. -/
  failure_iff : outcome = .failure ↔ net < 1 ∧ ∃ face ∈ faces, threshold ≤ face
  /-- A throw is a fumble when no die met the threshold. -/
  fumble_iff : outcome = .fumble ↔ ∀ face ∈ faces, face < threshold

theorem scored_resolve (pool : Pool) (h : faces.length < UInt32.size) :
    Scored pool.threshold faces (pool.resolve faces).net.toInt (pool.resolve faces).outcome := by
  have hmost : (UInt32.size : ℤ) ≤ Int64.maxValue.toInt := by decide
  have hnet : (pool.resolve faces).net.toInt = _ := toInt_net_resolve pool (by omega)
  have houtcome : (pool.resolve faces).outcome = (tally pool.threshold faces).outcome := rfl
  rw [houtcome, hnet, ← net_tally]
  refine ⟨net_tally pool.threshold faces, Tally.exists_outcome_eq_success_iff, ?_, ?_, ?_⟩
  · intro successes hsuccess
    have hhits := hits_le_length pool.threshold faces
    apply Tally.toNat_of_outcome_eq_success hsuccess
    rw [net_tally]
    omega
  · rw [Tally.outcome_eq_failure_iff, anyHit_tally, decide_eq_true_iff, hits_pos_iff]
  · rw [Tally.outcome_eq_fumble_iff, anyHit_tally, decide_eq_false_iff_not, Nat.not_lt,
      Nat.le_zero, ← hits_eq_zero_iff]
    constructor
    · exact And.right
    · -- Without a hit the counter has only gone down.
      intro hzero
      refine ⟨?_, hzero⟩
      rw [net_tally, hzero]
      omega

/-- **A pool is scored by counting.** The net count and the outcome are those of the two counts;
shuffling the dice changes neither, and the net counts of two throws add up. -/
theorem resolve_counts (pool : Pool) (h : faces.length < UInt32.size) :
    Scored pool.threshold faces (pool.resolve faces).net.toInt (pool.resolve faces).outcome ∧
      (∀ shuffled : List UInt32, shuffled.Perm faces →
        (pool.resolve shuffled).net = (pool.resolve faces).net ∧
          (pool.resolve shuffled).outcome = (pool.resolve faces).outcome) ∧
      ∀ more : List UInt32, more.length < UInt32.size →
        (pool.resolve (faces ++ more)).net.toInt =
          (pool.resolve faces).net.toInt + (pool.resolve more).net.toInt := by
  refine ⟨scored_resolve pool h, ?_, ?_⟩
  · intro shuffled hperm
    unfold resolve
    rw [tally_eq_of_perm hperm]
    exact ⟨rfl, rfl⟩
  · intro more hmore
    have hmost : (2 * UInt32.size : ℤ) ≤ Int64.maxValue.toInt := by decide
    have hlength : (faces ++ more).length = faces.length + more.length := List.length_append
    rw [toInt_net_resolve pool (by omega), toInt_net_resolve pool (by omega),
      toInt_net_resolve pool (by omega), hits_append, penalties_append]
    omega

/-- Two-sided dice: a one is a penalty against 2 and a hit against 1, whatever the order. -/
theorem resolve_counts_ones :
    let pool : Pool := ⟨2, 3, 2⟩
    let faces : List UInt32 := [1, 2, 1]
    let shuffled : List UInt32 := [2, 1, 1]
    let ones : List UInt32 := [1, 1]
    (faces.length < UInt32.size ∧ (pool.resolve faces).net.toInt = -1) ∧
      (shuffled.Perm faces ∧ (pool.resolve shuffled).outcome = .failure) ∧
      (ones.length < UInt32.size ∧ (pool.resolve (faces ++ ones)).net.toInt = -1 + -2) ∧
      ∃ successes, ((Pool.mk 2 2 1).resolve ones).outcome = .success successes ∧
        (successes.toNat : ℤ) = 2 := by
  intro pool faces shuffled ones
  have hfaces : faces.length < UInt32.size := by decide
  have hones : ones.length < UInt32.size := by decide
  have hperm : shuffled.Perm faces := List.Perm.swap 1 2 [1]
  obtain ⟨hscored, hshuffled, hmore⟩ := resolve_counts pool hfaces
  have heasy := (resolve_counts ⟨2, 2, 1⟩ hones).1
  refine ⟨⟨hfaces, ?_⟩, ⟨hperm, ?_⟩, ⟨hones, ?_⟩, ?_⟩
  · rw [hscored.net_eq]
    decide
  · rw [(hshuffled shuffled hperm).2, hscored.failure_iff, hscored.net_eq]
    exact ⟨by decide, 2, by decide, by decide⟩
  · rw [hmore ones hones, hscored.net_eq]
    decide
  · obtain ⟨successes, hsuccess⟩ := heasy.success_iff.mpr (by rw [heasy.net_eq]; decide)
    refine ⟨successes, hsuccess, ?_⟩
    rw [heasy.successes_eq successes hsuccess, heasy.net_eq]
    decide

end Tabletop.Pool
