import Mathlib.Algebra.Order.Floor.Div
import Mathlib.Data.Set.Card
import Mathlib.Tactic.Ring
import Mathlib.Tactic.Zify
import Tabletop.Random.Sampler

/-!
# Tabletop.Proofs.Random.Sampler — a choice is one scaled word of twice the width

Two words of `m` values are the digits of one number below `m * m`, the first word in front. The
choice among `r` values is that number scaled down to `r`: the whole part of `number * r / (m * m)`.
That the second word is not always read does not show, because a first word that does not ask for it
leaves no room for a carry.

A scaled number is `v` exactly on an interval, and the intervals of two values differ in length by
one at most. So each of the `r` values is chosen by `m * m / r` pairs of words, rounded down or
rounded up. When there are far more words than values, the first words of each interval choose its
value alone.
-/

namespace Tabletop.Sampler

variable {m r x y : ℕ}

/-! ## The choice in one division -/

/-- **The choice among `r` values is the scaled double word.** -/
theorem choice_eq_div (hr : 0 < r) (hrm : r ≤ m) (hy : y < m) :
    choice m r x y = (x * m + y) * r / (m * m) := by
  have hm : 0 < m := Nat.lt_of_lt_of_le hr hrm
  have hcarry : y * r / m < r := by
    rw [Nat.div_lt_iff_lt_mul hm, Nat.mul_comm r m]
    exact Nat.mul_lt_mul_of_pos_right hy hr
  have hlow : x * r % m < m := Nat.mod_lt _ hm
  have hscaled : (x * m + y) * r / (m * m) = (x * r + y * r / m) / m := by
    rw [← Nat.div_div_eq_div_mul, ← Nat.mul_add_div hm]
    congr 2
    ring
  have hsplit : (x * r + y * r / m) / m = x * r / m + (x * r % m + y * r / m) / m := by
    conv => lhs; rw [← Nat.div_add_mod (x * r) m, Nat.add_assoc]
    rw [Nat.mul_add_div hm]
  rw [hscaled, hsplit, choice, wantsSecond, carries]
  by_cases hover : m ≤ x * r % m + y * r / m
  · -- A carry needs a remainder above `m - r`, so the second word was asked for.
    have hwants : m - r < x * r % m := by omega
    have hone : (x * r % m + y * r / m) / m = 1 :=
      Nat.div_eq_of_lt_le (by omega) (by omega)
    simp [hwants, hover, hone]
  · have hzero : (x * r % m + y * r / m) / m = 0 := Nat.div_eq_of_lt (by omega)
    simp [hover, hzero]

/-- A choice among `r` values is below `r`. -/
theorem choice_lt (hr : 0 < r) (hrm : r ≤ m) (hx : x < m) (hy : y < m) : choice m r x y < r := by
  have hword : x * m + y < m * m := by
    have hnext : (x + 1) * m ≤ m * m := Nat.mul_le_mul_right m hx
    rw [Nat.succ_mul] at hnext
    omega
  rw [choice_eq_div hr hrm hy, Nat.div_lt_iff_lt_mul (by omega), Nat.mul_comm r]
  exact Nat.mul_lt_mul_of_pos_right hword hr

/-- A choice is below `r` even if a word has too few values for it: then a carry does not reach the
last value. -/
theorem choice_lt_of_lt (hmr : m < r) (hx : x < m) : choice m r x y < r := by
  have hscaled : (x + 1) * r ≤ m * r := Nat.mul_le_mul_right r hx
  have hcarried : x * r / m + 1 < r := by
    rw [← Nat.add_div_right _ (by omega), Nat.div_lt_iff_lt_mul (by omega), Nat.mul_comm r m]
    rw [Nat.succ_mul] at hscaled
    omega
  unfold choice
  split
  · exact hcarried
  · omega

/-- A choice among as many values as a word has is the word. -/
theorem choice_self (hy : y < m) : choice m m x y = x := by
  have hm : 0 < m := Nat.lt_of_le_of_lt (Nat.zero_le y) hy
  rw [choice_eq_div hm (Nat.le_refl m) hy, Nat.mul_div_mul_right _ _ hm, Nat.mul_comm x m,
    Nat.mul_add_div hm, Nat.div_eq_of_lt hy, Nat.add_zero]

/-- A choice among as many values as a word has never asks for a second word. -/
@[simp] theorem wantsSecond_self (m x : ℕ) : wantsSecond m m x = false := by simp [wantsSecond]

/-- The first word zero chooses the first value. -/
@[simp] theorem choice_zero (m r y : ℕ) : choice m r 0 y = 0 := by
  have hwants : wantsSecond m r 0 = false := by simp [wantsSecond]
  simp [choice, hwants]

/-- The greatest first word chooses the last value. -/
theorem choice_last (hr : 0 < r) (hrm : r ≤ m) : choice m r (m - 1) y = r - 1 := by
  have hm : 0 < m := Nat.lt_of_lt_of_le hr hrm
  have hproduct : (m - 1) * r = m * (r - 1) + (m - r) := by
    zify [hm, hr, hrm]
    ring
  have hlow : (m - 1) * r % m = m - r := by
    rw [hproduct, Nat.mul_add_mod, Nat.mod_eq_of_lt (by omega)]
  have hhigh : (m - 1) * r / m = r - 1 := by
    rw [hproduct, Nat.mul_add_div hm, Nat.div_eq_of_lt (by omega), Nat.add_zero]
  have hwants : wantsSecond m r (m - 1) = false := by simp [wantsSecond, hlow]
  simp [choice, hwants, hhigh]

/-! ## A word for every value -/

/-- The least first word that chooses the value `v`. -/
def wordFor (m r v : ℕ) : ℕ := v * m ⌈/⌉ r

/-- The word for a value, scaled up, exceeds the value's share by less than `r`. -/
theorem wordFor_mul (hr : 0 < r) (m v : ℕ) : ∃ e < r, wordFor m r v * r = v * m + e := by
  have hmod : (v * m + r - 1) % r < r := Nat.mod_lt _ hr
  have hsplit := Nat.div_add_mod (v * m + r - 1) r
  refine ⟨r - 1 - (v * m + r - 1) % r, by omega, ?_⟩
  rw [wordFor, Nat.ceilDiv_eq_add_pred_div, Nat.mul_comm _ r]
  omega

theorem wordFor_lt (hr : 0 < r) (hrm : r ≤ m) {v : ℕ} (hv : v < r) : wordFor m r v < m := by
  obtain ⟨e, he, hscaled⟩ := wordFor_mul hr m v
  have hnext : (v + 1) * m ≤ r * m := Nat.mul_le_mul_right m hv
  rw [Nat.succ_mul, Nat.mul_comm r m] at hnext
  exact Nat.lt_of_mul_lt_mul_right (a := r) (by omega)

/-- **The word for a value chooses it without a second word**, if words have room for about twice as
many values. -/
theorem choice_wordFor (hr : 0 < r) (hrm : 2 * r ≤ m) (v y : ℕ) :
    wantsSecond m r (wordFor m r v) = false ∧ choice m r (wordFor m r v) y = v := by
  obtain ⟨e, he, hscaled⟩ := wordFor_mul hr m v
  have hlow : wordFor m r v * r % m = e := by
    rw [hscaled, Nat.mul_comm v m, Nat.mul_add_mod, Nat.mod_eq_of_lt (by omega)]
  have hhigh : wordFor m r v * r / m = v := by
    rw [hscaled, Nat.mul_comm v m, Nat.mul_add_div (by omega), Nat.div_eq_of_lt (by omega),
      Nat.add_zero]
  have hwants : wantsSecond m r (wordFor m r v) = false := by
    rw [wantsSecond, hlow, decide_eq_false_iff_not]
    omega
  exact ⟨hwants, by simp [choice, hwants, hhigh]⟩

/-! ## The numbers that choose a value -/

/-- The choice is below `t` for the double words that come before `t` of the `r` parts. -/
theorem choice_lt_iff (hr : 0 < r) (hrm : r ≤ m) (hy : y < m) (t : ℕ) :
    choice m r x y < t ↔ x * m + y < t * (m * m) ⌈/⌉ r := by
  have hm : 0 < m * m := Nat.mul_pos (by omega) (by omega)
  rw [choice_eq_div hr hrm hy, Nat.div_lt_iff_lt_mul hm, ← Nat.not_le, ← Nat.not_le,
    ceilDiv_le_iff_le_mul hr, Nat.mul_comm r]

/-- **A value is chosen on an interval** of double words. -/
theorem choice_eq_iff (hr : 0 < r) (hrm : r ≤ m) (hy : y < m) (v : ℕ) :
    choice m r x y = v ↔
      x * m + y ∈ Set.Ico (v * (m * m) ⌈/⌉ r) ((v + 1) * (m * m) ⌈/⌉ r) := by
  have hbelow := choice_lt_iff (x := x) hr hrm hy v
  have hupto := choice_lt_iff (x := x) hr hrm hy (v + 1)
  rw [Set.mem_Ico, ← hupto, ← Nat.not_lt, ← hbelow]
  omega

/-- **The intervals are as long as each other**, up to the rounding of their common length. -/
theorem ceilDiv_succ_sub (hr : 0 < r) (n v : ℕ) :
    (v + 1) * n ⌈/⌉ r - v * n ⌈/⌉ r = n / r ∨ (v + 1) * n ⌈/⌉ r - v * n ⌈/⌉ r = n ⌈/⌉ r := by
  -- `b` is the numerator of the interval's lower end; `e` is what a whole length leaves over.
  obtain ⟨b, hb⟩ : ∃ b, b = v * n + r - 1 := ⟨_, rfl⟩
  obtain ⟨e, he⟩ : ∃ e, e = n % r := ⟨_, rfl⟩
  have hn : n = r * (n / r) + e := by rw [he, Nat.div_add_mod]
  have hupper : (v + 1) * n ⌈/⌉ r = n / r + (b + e) / r := by
    rw [Nat.ceilDiv_eq_add_pred_div, ← Nat.mul_add_div hr]
    congr 1
    rw [Nat.succ_mul]
    omega
  have hlower : v * n ⌈/⌉ r = b / r := by rw [hb, Nat.ceilDiv_eq_add_pred_div]
  have hlength : n ⌈/⌉ r = n / r + (e + r - 1) / r := by
    rw [Nat.ceilDiv_eq_add_pred_div, ← Nat.mul_add_div hr]
    congr 1
    omega
  have her : e < r := he ▸ Nat.mod_lt n hr
  rw [hupper, hlower, hlength, Nat.add_div hr, Nat.div_eq_of_lt her, Nat.mod_eq_of_lt her]
  rcases Nat.eq_zero_or_pos e with hzero | hpos
  · have hbr : b % r < r := Nat.mod_lt b hr
    have hfits : ¬r ≤ b % r + e := by omega
    left
    simp [hfits]
  · have hone : (e + r - 1) / r = 1 := Nat.div_eq_of_lt_le (by omega) (by omega)
    rw [hone]
    split <;> omega

/-! ## Drawing a choice -/

/-- What a draw reads: one word, and a second one if the first asks for it. -/
theorem draw_eq {σ : Type} (m r : ℕ) (word : Draw σ ℕ) (s : σ) :
    draw m r word s =
      (choice m r (word s).1 (word (word s).2).1,
        if wantsSecond m r (word s).1 then (word (word s).2).2 else (word s).2) := by
  cases hwants : wantsSecond m r (word s).1 with
  | true => simp [draw, hwants]
  | false => simp [draw, hwants, choice_of_not_wantsSecond hwants _ 0]

/-- **The word for a value draws it** and leaves the words after it where they are. -/
theorem draw_of_wordFor {σ : Type} {word : Draw σ ℕ} {s : σ} {v : ℕ} (hr : 0 < r) (hrm : 2 * r ≤ m)
    (h : (word s).1 = wordFor m r v) : draw m r word s = (v, (word s).2) := by
  obtain ⟨hwants, hchoice⟩ := choice_wordFor hr hrm v (word (word s).2).1
  rw [draw_eq, h, hwants, hchoice]
  rfl

end Tabletop.Sampler

namespace Tabletop.Draw

variable {σ : Type} [Source σ]

/-- The first two words that a source hands out. -/
def Opens (s : σ) (w : UInt64 × UInt64) : Prop :=
  (Source.next64 s).1 = w.1 ∧ (Source.next64 (Source.next64 s).2).1 = w.2

theorem fst_below64 {s : σ} {w : UInt64 × UInt64} (h : Opens s w) (r : ℕ) :
    (below64 r s).1 = Sampler.choice UInt64.size r w.1.toNat w.2.toNat := by
  rw [below64, Sampler.draw_eq, ← h.1, ← h.2]

/-- A second word is read when the first leaves room for a carry, and no third word ever. -/
theorem snd_below64 (r : ℕ) (s : σ) :
    (below64 r s).2 =
      if Sampler.wantsSecond UInt64.size r (Source.next64 s).1.toNat
      then (Source.next64 (Source.next64 s).2).2 else (Source.next64 s).2 := by
  rw [below64, Sampler.draw_eq]

theorem below64_lt {r : ℕ} (hr : 0 < r) (hrm : r ≤ UInt64.size) (s : σ) : (below64 r s).1 < r := by
  have hopens : Opens s ((Source.next64 s).1, (Source.next64 (Source.next64 s).2).1) := ⟨rfl, rfl⟩
  rw [fst_below64 hopens]
  exact Sampler.choice_lt hr hrm (UInt64.toNat_lt_size _) (UInt64.toNat_lt_size _)

theorem below32_lt {r : ℕ} (hr : 0 < r) (s : σ) : (below32 r s).1 < r := by
  have hfirst : (Source.next32 s).1.toNat < UInt32.size := UInt32.toNat_lt_size _
  have hsecond : (Source.next32 (Source.next32 s).2).1.toNat < UInt32.size := UInt32.toNat_lt_size _
  rw [below32, Sampler.draw_eq]
  rcases Nat.lt_or_ge UInt32.size r with hlarge | hsmall
  · exact Sampler.choice_lt_of_lt hlarge hfirst
  · exact Sampler.choice_lt hr hsmall hfirst hsecond

/-- The first two words of 32 bits that a source hands out. -/
def Opens32 (s : σ) (w : UInt32 × UInt32) : Prop :=
  (Source.next32 s).1 = w.1 ∧ (Source.next32 (Source.next32 s).2).1 = w.2

theorem fst_below32 {s : σ} {w : UInt32 × UInt32} (h : Opens32 s w) (r : ℕ) :
    (below32 r s).1 = Sampler.choice UInt32.size r w.1.toNat w.2.toNat := by
  rw [below32, Sampler.draw_eq, ← h.1, ← h.2]

/-- **A pick draws a place** of the list and yields the entry there. -/
theorem pick_of_ne_nil {α : Type} {entries : List α} (h : entries ≠ []) (s : σ) :
    pick entries s =
      (entries[(below32 entries.length s).1]?, (below32 entries.length s).2) := by
  have hsome : entries.isEmpty = false := List.isEmpty_eq_false_iff.mpr h
  unfold pick
  rw [if_neg (by simp [hsome])]

/-- **What is picked is an entry**, if there is one. -/
theorem fst_pick_of_ne_nil {α : Type} {entries : List α} (h : entries ≠ []) (s : σ) :
    ∃ entry ∈ entries, (pick entries s).1 = some entry := by
  have hlt : (below32 entries.length s).1 < entries.length :=
    below32_lt (List.length_pos_iff.mpr h) s
  refine ⟨entries[(below32 entries.length s).1], List.getElem_mem hlt, ?_⟩
  simp [pick, h, hlt]

end Tabletop.Draw
