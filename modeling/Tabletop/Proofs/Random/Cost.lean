import Mathlib.Logic.Relation
import Tabletop.Proofs.Random.Pick
import Tabletop.Proofs.Random.Repetition

/-!
# Tabletop.Proofs.Random.Cost — a failed draw reads nothing

A draw that may fail decides so before it reads a word, and for a reason that is not in the source.
If the reason is there, the draw fails from every source and leaves it as it was; if not, the draw
succeeds from every source and reads a word at least. Integers from a range fail for an empty range,
and picks for an empty collection.
-/

namespace Tabletop.Draw

open Pickable (candidates HasPlaces)

variable {σ α β γ : Type} [Source σ]

/-! ## Reading words -/

/-- A word of either width leads from a source to the one that is left. -/
inductive Hands : σ → σ → Prop
  | word32 (s : σ) : Hands s (Source.next32 s).2
  | word64 (s : σ) : Hands s (Source.next64 s).2

/-- **Some words, one at least, lead from a source to another.** -/
def Reads : σ → σ → Prop := Relation.TransGen Hands

/-- A script that was read from stands further on, at a later place of the same words. -/
theorem position_lt_of_reads {s t : Script} (h : Reads s t) :
    t.words = s.words ∧ s.position < t.position := by
  have hstep : ∀ {a b : Script}, Hands a b → b.words = a.words ∧ a.position < b.position := by
    intro a b hab
    cases hab with
    | word32 => exact ⟨rfl, Nat.lt_succ_self a.position⟩
    | word64 => exact ⟨rfl, Nat.lt_succ_self a.position⟩
  induction h with
  | single hab => exact hstep hab
  | tail _ hbc ih =>
      obtain ⟨hwords, hlt⟩ := hstep hbc
      exact ⟨hwords.trans ih.1, Nat.lt_trans ih.2 hlt⟩

theorem reads_sampler {m r : ℕ} {word : Draw σ ℕ} (hword : ∀ s, Reads s (word s).2) (s : σ) :
    Reads s (Sampler.draw m r word s).2 := by
  rw [Sampler.draw_eq]
  split
  · exact (hword s).trans (hword _)
  · exact hword s

theorem reads_below64 (r : ℕ) (s : σ) : Reads s (below64 r s).2 := by
  apply reads_sampler
  intro t
  exact .single (.word64 t)

theorem reads_below32 (r : ℕ) (s : σ) : Reads s (below32 r s).2 := by
  apply reads_sampler
  intro t
  exact .single (.word32 t)

/-- **Repetition reads** if it repeats at all. -/
theorem reads_times {d : Draw σ α} (hstep : ∀ s, Reads s (d s).2) (n : ℕ) (s : σ) :
    Reads s (times (n + 1) d s).2 := by
  induction n generalizing s with
  | zero => exact hstep s
  | succ n ih =>
      rw [times_succ]
      exact (hstep s).trans (ih _)

/-- **Drawing for each member of a list reads** if the list has a member. -/
theorem reads_mapM {d : α → Draw σ β} (hstep : ∀ a s, Reads s (d a s).2) (a : α) (rest : List α)
    (s : σ) : Reads s ((a :: rest).mapM d s).2 := by
  induction rest generalizing a s with
  | nil =>
      rw [mapM_cons_apply]
      exact hstep a s
  | cons b rest ih =>
      rw [mapM_cons_apply]
      exact (hstep a s).trans (ih b _)

theorem reads_integer {min max : Int64} (hle : min ≤ max) (s : σ) :
    Reads s (integer min max s).2 := by
  rw [snd_integer hle]
  split
  · exact .tail (.single (.word64 s)) (.word64 _)
  · exact .single (.word64 s)

theorem reads_pick {entries : List α} (hne : entries ≠ []) (s : σ) :
    Reads s (pick entries s).2 := by
  rw [pick_of_ne_nil hne]
  exact reads_below32 _ s

/-! ## Failing for a reason -/

/-- **A draw fails for a reason** that is not in the source: it fails exactly if the reason is
there, costs nothing when it fails and a word at least when it does not. -/
structure FailsFor (d : Draw σ α) (failed : α → Prop) (reason : Prop) : Prop where
  failed_iff (s : σ) : failed (d s).1 ↔ reason
  free (s : σ) : failed (d s).1 → (d s).2 = s
  costs (s : σ) : ¬failed (d s).1 → Reads s (d s).2

theorem failsFor_of_cases {d : Draw σ α} {failed : α → Prop} {reason : Prop}
    (hfails : reason → ∀ s, failed (d s).1 ∧ (d s).2 = s)
    (hyields : ¬reason → ∀ s, ¬failed (d s).1 ∧ Reads s (d s).2) : FailsFor d failed reason := by
  have hiff : ∀ s, failed (d s).1 ↔ reason := by
    intro s
    constructor
    · intro hfailed
      by_contra hreason
      exact (hyields hreason s).1 hfailed
    · intro hreason
      exact (hfails hreason s).1
  refine ⟨hiff, ?_, ?_⟩
  · intro s hfailed
    exact (hfails ((hiff s).mp hfailed) s).2
  · intro s hyielded
    exact (hyields (fun hreason => hyielded ((hiff s).mpr hreason)) s).2

/-- **An integer from a range fails for an empty range.** -/
theorem failsFor_integer (min max : Int64) :
    FailsFor (integer min max : Draw σ (Except EmptyRange Int64)) (fun r => ∃ e, r = .error e)
      (max < min) := by
  apply failsFor_of_cases
  · intro hlt s
    rw [integer_of_lt hlt]
    exact ⟨⟨_, rfl⟩, rfl⟩
  · intro hnot s
    have hle : min ≤ max := Int64.not_lt.mp hnot
    obtain ⟨v, hv, -⟩ := integer_mem hle s
    refine ⟨?_, reads_integer hle s⟩
    rintro ⟨e, he⟩
    rw [hv] at he
    cases he

/-- **A pick fails for an empty collection**, and for no other. -/
theorem failsFor_pickFrom [Pickable γ α] (c : γ) :
    FailsFor (pickFrom c : Draw σ (Option α)) (fun r => r = none) (candidates c = []) := by
  apply failsFor_of_cases
  · intro hnil s
    rw [pickFrom_of_candidates_eq_nil hnil]
    exact ⟨rfl, rfl⟩
  · intro hne s
    obtain ⟨value, -, hvalue⟩ := fst_pickFrom_of_ne_nil hne s
    refine ⟨?_, reads_pick hne s⟩
    intro hnone
    rw [hvalue] at hnone
    cases hnone

theorem failsFor_of_hasPlaces [Pickable γ α] {c : γ} {n : ℕ} {valueAt : ℕ → Option α}
    (h : HasPlaces c n valueAt) {reason : Prop} (hreason : n = 0 ↔ reason) :
    FailsFor (pickFrom c : Draw σ (Option α)) (fun r => r = none) reason := by
  rw [← hreason, ← h.eq_nil_iff]
  exact failsFor_pickFrom c

/-- **A pick fails for an empty collection of each kind.** -/
structure PickFailsIfEmpty (σ α : Type) [Source σ] : Prop where
  list (list : List α) :
    FailsFor (pickFrom list : Draw σ (Option α)) (fun r => r = none) (list = [])
  array (array : Array α) :
    FailsFor (pickFrom array : Draw σ (Option α)) (fun r => r = none) (array = #[])
  vector (n : ℕ) (vector : Vector α n) :
    FailsFor (pickFrom vector : Draw σ (Option α)) (fun r => r = none) (n = 0)
  subarray (slice : Subarray α) :
    FailsFor (pickFrom slice : Draw σ (Option α)) (fun r => r = none) (slice.size = 0)
  deque (queue : Deque α) : FailsFor (pickFrom queue : Draw σ (Option α)) (fun r => r = none)
    (queue.upToLastSlot = #[] ∧ queue.fromFirstSlot = #[])
  option (value : Option α) :
    FailsFor (pickFrom value : Draw σ (Option α)) (fun r => r = none) (value = none)
  dictionary (d : Dictionary α) :
    FailsFor (pickFrom d : Draw σ (Option α)) (fun r => r = none) (d.names = [])

theorem pickFailsIfEmpty (α : Type) : PickFailsIfEmpty σ α where
  list list := failsFor_of_hasPlaces (Pickable.hasPlaces_list list) List.length_eq_zero_iff
  array array := failsFor_of_hasPlaces (Pickable.hasPlaces_array array) Array.size_eq_zero_iff
  vector _ vector := failsFor_of_hasPlaces (Pickable.hasPlaces_vector vector) Iff.rfl
  subarray slice := failsFor_of_hasPlaces (Pickable.hasPlaces_subarray slice) Iff.rfl
  deque queue := failsFor_of_hasPlaces (Pickable.hasPlaces_deque queue) (by
    rw [Nat.add_eq_zero_iff, Array.size_eq_zero_iff, Array.size_eq_zero_iff])
  option value := failsFor_of_hasPlaces (Pickable.hasPlaces_option value) (by
    cases value <;> simp)
  dictionary d := failsFor_of_hasPlaces (Pickable.hasPlaces_dictionary d) List.length_eq_zero_iff

end Tabletop.Draw
