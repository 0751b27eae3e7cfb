import Mathlib.Order.Interval.Finset.Nat
import Tabletop.Proofs.Random.Script

/-!
# Tabletop.Proofs.Random.Uniform — an integer drawn from a range is uniform

Two words read as one number run through every number below the square of the number of words, each
once. So the pairs of words that choose a value are as many as the numbers of its interval, and an
integer drawn from a range comes out for `2 ^ 128 / r` of the `2 ^ 128` pairs of words, rounded down
or rounded up, where `r` is the number of integers in the range.

The full range is drawn in another way than the others, by taking the word as it stands. It falls
under the same count: among `2 ^ 64` values the choice is the first word.
-/

namespace Tabletop

namespace Sampler

/-! ## Pairs of words -/

section Pairs

variable {W : Type} {number : W → ℕ} {m r v : ℕ}

/-- The number that two words are together, the first word in front. -/
def double (number : W → ℕ) (m : ℕ) (w : W × W) : ℕ := number w.1 * m + number w.2

/-- Different pairs are different numbers. -/
theorem double_injective (hinj : Function.Injective number)
    (hrange : Set.range number = Set.Iio m) : Function.Injective (double number m) := by
  intro a b h
  have hlt : ∀ w, number w < m := fun w => hrange.subset (Set.mem_range_self w)
  have hm : 0 < m := Nat.lt_of_le_of_lt (Nat.zero_le _) (hlt a.1)
  have hdiv : ∀ w : W × W, double number m w / m = number w.1 := fun w => by
    rw [double, Nat.mul_comm, Nat.mul_add_div hm, Nat.div_eq_of_lt (hlt w.2), Nat.add_zero]
  have hmod : ∀ w : W × W, double number m w % m = number w.2 := fun w => by
    rw [double, Nat.mul_comm, Nat.mul_add_mod, Nat.mod_eq_of_lt (hlt w.2)]
  refine Prod.ext (hinj ?_) (hinj ?_)
  · rw [← hdiv a, ← hdiv b, h]
  · rw [← hmod a, ← hmod b, h]

/-- Every number below the square is a pair. -/
theorem range_double (hrange : Set.range number = Set.Iio m) :
    Set.Iio (m * m) ⊆ Set.range (double number m) := by
  intro n hn
  have hm : 0 < m := Nat.pos_of_mul_pos_left (Nat.lt_of_le_of_lt (Nat.zero_le n) hn)
  obtain ⟨first, hfirst⟩ := hrange.superset (Set.mem_Iio.mpr (Nat.div_lt_of_lt_mul hn))
  obtain ⟨second, hsecond⟩ := hrange.superset (Set.mem_Iio.mpr (Nat.mod_lt n hm))
  refine ⟨(first, second), ?_⟩
  rw [double, hfirst, hsecond, Nat.mul_comm, Nat.div_add_mod]

/-- Pairs whose number lies in an interval are as many as its numbers. -/
theorem ncard_double_mem_Ico (hinj : Function.Injective number)
    (hrange : Set.range number = Set.Iio m) {a b : ℕ} (hb : b ≤ m * m) :
    {w : W × W | double number m w ∈ Set.Ico a b}.ncard = b - a := by
  have hsubset : Set.Ico a b ⊆ Set.range (double number m) := fun n hn =>
    range_double hrange (Nat.lt_of_lt_of_le hn.2 hb)
  have hcard := Set.ncard_preimage_of_injective_subset_range (double_injective hinj hrange) hsubset
  rw [← Finset.coe_Ico, Set.ncard_coe_finset, Nat.card_Ico] at hcard
  rw [← hcard]
  simp [Set.preimage]

/-- **Every value has its share of the pairs of words**, rounded down or rounded up. -/
theorem ncard_choice_eq (hinj : Function.Injective number)
    (hrange : Set.range number = Set.Iio m) (hrm : r ≤ m) (hv : v < r) :
    {w : W × W | choice m r (number w.1) (number w.2) = v}.ncard = m * m / r ∨
      {w : W × W | choice m r (number w.1) (number w.2) = v}.ncard = m * m ⌈/⌉ r := by
  have hr : 0 < r := Nat.lt_of_le_of_lt (Nat.zero_le v) hv
  have hinterval : {w : W × W | choice m r (number w.1) (number w.2) = v} =
      {w | double number m w ∈ Set.Ico (v * (m * m) ⌈/⌉ r) ((v + 1) * (m * m) ⌈/⌉ r)} :=
    Set.ext fun w => choice_eq_iff hr hrm (hrange.subset (Set.mem_range_self w.2)) v
  have hend : (v + 1) * (m * m) ⌈/⌉ r ≤ m * m :=
    (ceilDiv_le_iff_le_mul hr).mpr (Nat.mul_le_mul_right _ hv)
  rw [hinterval, ncard_double_mem_Ico hinj hrange hend]
  exact ceilDiv_succ_sub hr (m * m) v

/-- **The values below a bound have their shares together**, rounded up once. -/
theorem ncard_choice_lt (hinj : Function.Injective number)
    (hrange : Set.range number = Set.Iio m) (hr : 0 < r) (hrm : r ≤ m) (t : ℕ) :
    {w : W × W | choice m r (number w.1) (number w.2) < t}.ncard = min t r * (m * m) ⌈/⌉ r := by
  have hlt : ∀ w, number w < m := fun w => hrange.subset (Set.mem_range_self w)
  have hinterval : {w : W × W | choice m r (number w.1) (number w.2) < t} =
      {w | double number m w ∈ Set.Ico 0 (min t r * (m * m) ⌈/⌉ r)} := by
    ext w
    -- A choice is below `r` anyway, so a bound beyond `r` does no more than `r`.
    have hbelow : choice m r (number w.1) (number w.2) < r :=
      choice_lt hr hrm (hlt w.1) (hlt w.2)
    have hcut := choice_lt_iff (x := number w.1) hr hrm (hlt w.2) (min t r)
    show choice m r (number w.1) (number w.2) < t ↔ double number m w ∈ Set.Ico 0 _
    rw [Set.mem_Ico, double, ← hcut]
    omega
  have hend : min t r * (m * m) ⌈/⌉ r ≤ m * m :=
    (ceilDiv_le_iff_le_mul hr).mpr (Nat.mul_le_mul_right _ (Nat.min_le_right t r))
  rw [hinterval, ncard_double_mem_Ico hinj hrange hend, Nat.sub_zero]

end Pairs

/-- The 64-bit words are the numbers below `2 ^ 64`. -/
theorem range_toNat_uint64 : Set.range UInt64.toNat = Set.Iio UInt64.size := by
  ext n
  constructor
  · rintro ⟨w, rfl⟩
    exact w.toNat_lt_size
  · intro hn
    exact ⟨UInt64.ofNatLT n hn, UInt64.toNat_ofNatLT⟩

/-- The 32-bit words are the numbers below `2 ^ 32`. -/
theorem range_toNat_uint32 : Set.range UInt32.toNat = Set.Iio UInt32.size := by
  ext n
  constructor
  · rintro ⟨w, rfl⟩
    exact w.toNat_lt_size
  · intro hn
    exact ⟨UInt32.ofNatLT n hn, UInt32.toNat_ofNatLT⟩

end Sampler

namespace Draw

variable {σ : Type} [Source σ]

/-! ## Integers from a range -/

/-- How many integers the range `[min, max]` holds, when it is not upside down. -/
def rangeSize (min max : Int64) : ℕ := (max.toInt - min.toInt + 1).toNat

variable {min max v : Int64}

theorem rangeSize_pos (h : min ≤ max) : 0 < rangeSize min max := by
  have hle := Int64.le_iff_toInt_le.mp h
  rw [rangeSize]
  omega

theorem rangeSize_le (min max : Int64) : rangeSize min max ≤ UInt64.size := by
  have hmax := max.toInt_lt
  have hmin := min.le_toInt
  rw [rangeSize, UInt64.size]
  omega

theorem toInt_of_rangeSize_eq (h : rangeSize min max = UInt64.size) :
    min.toInt = -2 ^ 63 ∧ max.toInt = 2 ^ 63 - 1 := by
  have hmax := max.toInt_lt
  have hmin := min.le_toInt
  rw [rangeSize, UInt64.size] at h
  omega

/-- The full range takes a word as it stands. -/
theorem integer_of_rangeSize_eq (hle : min ≤ max) (h : rangeSize min max = UInt64.size) (s : σ) :
    integer min max s = (.ok (Source.next64 s).1.toInt64, (Source.next64 s).2) := by
  have hnot : ¬max < min := Int64.not_lt.mpr hle
  rw [rangeSize] at h
  simp only [integer, hnot, h, if_true, if_false]

/-- Any other range takes a choice among its integers, from the lower end up. -/
theorem integer_of_rangeSize_ne (hle : min ≤ max) (h : rangeSize min max ≠ UInt64.size) (s : σ) :
    integer min max s =
      (.ok (Int64.ofInt (min.toInt + (below64 (rangeSize min max) s).1)),
        (below64 (rangeSize min max) s).2) := by
  have hnot : ¬max < min := Int64.not_lt.mpr hle
  rw [rangeSize] at h ⊢
  simp only [integer, hnot, h, if_false]

/-- The integer that lies `k` above the lower end of a range. -/
theorem toInt_ofInt_add {k : ℕ} (h : k < rangeSize min max) :
    (Int64.ofInt (min.toInt + k)).toInt = min.toInt + k := by
  have hmax := max.toInt_lt
  have hmin := min.le_toInt
  rw [rangeSize] at h
  exact Int64.toInt_ofInt_of_le (by omega) (by omega)

/-- A range that is not upside down yields one of its integers. -/
theorem integer_mem (hle : min ≤ max) (s : σ) :
    ∃ v, (integer min max s).1 = .ok v ∧ min ≤ v ∧ v ≤ max := by
  by_cases hfull : rangeSize min max = UInt64.size
  · obtain ⟨hmin, hmax⟩ := toInt_of_rangeSize_eq hfull
    rw [integer_of_rangeSize_eq hle hfull]
    refine ⟨_, rfl, ?_, ?_⟩
    · rw [Int64.le_iff_toInt_le, hmin]
      exact Int64.le_toInt _
    · rw [Int64.le_iff_toInt_le, hmax]
      exact Int.le_sub_one_of_lt (Int64.toInt_lt _)
  · have hbelow := below64_lt (rangeSize_pos hle) (rangeSize_le min max) s
    rw [integer_of_rangeSize_ne hle hfull]
    refine ⟨_, rfl, ?_, ?_⟩
    · rw [Int64.le_iff_toInt_le, toInt_ofInt_add hbelow]
      omega
    · rw [Int64.le_iff_toInt_le, toInt_ofInt_add hbelow]
      rw [rangeSize] at hbelow ⊢
      omega

/-- **Each integer of a range stands for one of the choices.** -/
theorem integer_eq_ok_iff (hmin : min ≤ v) (hmax : v ≤ max) :
    ∃ k < rangeSize min max, ∀ (s : σ) (w : UInt64 × UInt64), Opens s w →
      ((integer min max s).1 = .ok v ↔
        Sampler.choice UInt64.size (rangeSize min max) w.1.toNat w.2.toNat = k) := by
  have hle : min ≤ max := Int64.le_trans hmin hmax
  by_cases hfull : rangeSize min max = UInt64.size
  · refine ⟨v.toUInt64.toNat, hfull ▸ v.toUInt64.toNat_lt_size, fun s w hopens => ?_⟩
    rw [integer_of_rangeSize_eq hle hfull, hopens.1, hfull,
      Sampler.choice_self w.2.toNat_lt_size, UInt64.toNat_inj, Except.ok.injEq]
    constructor
    · rintro rfl
      exact (UInt64.toUInt64_toInt64 w.1).symm
    · intro h
      rw [h, Int64.toInt64_toUInt64]
  · have hv := Int64.le_iff_toInt_le.mp hmin
    have hv' := Int64.le_iff_toInt_le.mp hmax
    refine ⟨(v.toInt - min.toInt).toNat, by rw [rangeSize]; omega, fun s w hopens => ?_⟩
    have hbelow := below64_lt (rangeSize_pos hle) (rangeSize_le min max) s
    rw [integer_of_rangeSize_ne hle hfull, Except.ok.injEq, ← Int64.toInt_inj,
      toInt_ofInt_add hbelow, fst_below64 hopens]
    omega

/-- An integer takes one word, and a second one if the first leaves room for a carry. -/
theorem snd_integer (hle : min ≤ max) (s : σ) :
    (integer min max s).2 =
      if Sampler.wantsSecond UInt64.size (rangeSize min max) (Source.next64 s).1.toNat
      then (Source.next64 (Source.next64 s).2).2 else (Source.next64 s).2 := by
  by_cases hfull : rangeSize min max = UInt64.size
  · rw [integer_of_rangeSize_eq hle hfull, hfull, Sampler.wantsSecond_self]
    rfl
  · rw [integer_of_rangeSize_ne hle hfull, snd_below64]

/-- **An integer drawn from a range is uniform.** It lies in the range whatever the source, and
takes one word or two. Of the `2 ^ 128` pairs of words that a source may hand out first, every
integer of the range comes out for `2 ^ 128 / r`, rounded down or rounded up, where `r` is the
number of integers in the range. -/
theorem integer_uniform (hle : min ≤ max) (source : UInt64 × UInt64 → σ)
    (hopens : ∀ w, Opens (source w) w) :
    (∀ s : σ, (∃ v, (integer min max s).1 = .ok v ∧ min ≤ v ∧ v ≤ max) ∧
        (integer min max s).2 =
          if Sampler.wantsSecond UInt64.size (rangeSize min max) (Source.next64 s).1.toNat
          then (Source.next64 (Source.next64 s).2).2 else (Source.next64 s).2) ∧
      ∀ v, min ≤ v → v ≤ max →
        {w | (integer min max (source w)).1 = .ok v}.ncard = 2 ^ 128 / rangeSize min max ∨
          {w | (integer min max (source w)).1 = .ok v}.ncard =
            2 ^ 128 ⌈/⌉ rangeSize min max := by
  refine ⟨fun s => ⟨integer_mem hle s, snd_integer hle s⟩, fun v hmin hmax => ?_⟩
  obtain ⟨k, hk, hiff⟩ := integer_eq_ok_iff (σ := σ) hmin hmax
  have hset : {w | (integer min max (source w)).1 = .ok v} =
      {w | Sampler.choice UInt64.size (rangeSize min max) w.1.toNat w.2.toNat = k} :=
    Set.ext fun w => hiff (source w) w (hopens w)
  rw [hset]
  exact Sampler.ncard_choice_eq (fun _ _ h => UInt64.toNat_inj.mp h) Sampler.range_toNat_uint64
    (rangeSize_le min max) hk

/-- Among three integers one pair of words is left over; among all integers none is. -/
theorem integer_uniform_ofPair :
    ((-1 : Int64) ≤ 1 ∧ (∀ w, Opens (Script.ofPair w) w) ∧
        ({w | (integer (-1) 1 (Script.ofPair w)).1 = .ok 0}.ncard =
            113427455640312821154458202477256070485 ∨
          {w | (integer (-1) 1 (Script.ofPair w)).1 = .ok 0}.ncard =
            113427455640312821154458202477256070486)) ∧
      Int64.minValue ≤ Int64.maxValue ∧
        {w | (integer Int64.minValue Int64.maxValue (Script.ofPair w)).1 = .ok (-1)}.ncard =
          18446744073709551616 := by
  have hle : (-1 : Int64) ≤ 1 := by decide
  refine ⟨⟨hle, Script.opens_ofPair, ?_⟩, by decide, ?_⟩
  · exact (integer_uniform hle Script.ofPair Script.opens_ofPair).2 0 (by decide) (by decide)
  · have hsize : rangeSize Int64.minValue Int64.maxValue = 2 ^ 64 := by decide
    have hcard := (integer_uniform (by decide) Script.ofPair Script.opens_ofPair).2 (-1)
      (Int64.minValue_le (-1)) (Int64.le_maxValue (-1))
    rw [hsize] at hcard
    exact hcard.elim id id

end Draw

end Tabletop
