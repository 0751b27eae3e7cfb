import Mathlib.Logic.Function.Iterate
import Tabletop.Random.Source

/-!
# Tabletop.Proofs.Random.Repetition — what a repeated draw yields

A source that is drawn from over and over runs through a sequence of sources, and what a draw yields
depends only on the source that it finds. So the results of a repeated draw can be told one by one:
the result at a place is what a single draw yields from the source that as many draws have left.

Whatever one draw keeps of its source, any number of draws keeps.
-/

namespace Tabletop.Draw

variable {σ α β : Type}

/-- The source that is left after drawing `n` times. -/
def after (d : Draw σ α) (n : ℕ) (s : σ) : σ := (fun s => (d s).2)^[n] s

/-- What is drawn after `i` draws. -/
def nth (d : Draw σ α) (s : σ) (i : ℕ) : α := (d (d.after i s)).1

/-- What is drawn first, second, and so on, `n` times in all. -/
def results (d : Draw σ α) (n : ℕ) (s : σ) : List α := (List.range n).map (d.nth s)

theorem results_succ (d : Draw σ α) (n : ℕ) (s : σ) :
    d.results (n + 1) s = (d s).1 :: d.results n (d s).2 := by
  rw [results, List.range_succ_eq_map, List.map_cons, List.map_map]
  rfl

/-- **Repetition tells the results one by one.** -/
theorem times_eq_results (n : ℕ) (d : Draw σ α) (s : σ) :
    times n d s = (d.results n s, d.after n s) := by
  induction n generalizing s with
  | zero => rfl
  | succ n ih =>
      rw [times_succ, ih, results_succ]
      rfl

/-- **Fewer repetitions yield the first of the results.** -/
theorem take_fst_times {m n : ℕ} (h : m ≤ n) (d : Draw σ α) (s : σ) :
    (times n d s).1.take m = (times m d s).1 := by
  rw [times_eq_results, times_eq_results, results, results, ← List.map_take, List.take_range,
    Nat.min_eq_left h]

/-- Rewording what is drawn rewords the results. -/
theorem times_map (f : α → β) (n : ℕ) (d : Draw σ α) (s : σ) :
    times n (fun s => (f (d s).1, (d s).2)) s = ((times n d s).1.map f, (times n d s).2) := by
  induction n generalizing s with
  | zero => rfl
  | succ n ih =>
      rw [times_succ, times_succ, ih]
      rfl

/-- Drawing for each member of a list draws for the first and then for the others. -/
theorem mapM_cons_apply (d : α → Draw σ β) (a : α) (rest : List α) (s : σ) :
    (a :: rest).mapM d s =
      ((d a s).1 :: (rest.mapM d (d a s).2).1, (rest.mapM d (d a s).2).2) := by
  rw [List.mapM_cons]
  rfl

/-- **What one draw keeps, repetition keeps.** If from every source of a kind the draw yields a
result with a property and leaves a source of the kind, all results have the property, and a source
of the kind is left. -/
theorem times_keeps (kind : σ → Prop) {property : α → Prop} {d : Draw σ α}
    (hstep : ∀ s, kind s → property (d s).1 ∧ kind (d s).2) {s : σ} (hs : kind s) (n : ℕ) :
    (∀ a ∈ (times n d s).1, property a) ∧ kind (times n d s).2 := by
  induction n generalizing s with
  | zero => exact ⟨fun a ha => absurd ha List.not_mem_nil, hs⟩
  | succ n ih =>
      obtain ⟨hfirst, hleft⟩ := hstep s hs
      obtain ⟨hrest, hend⟩ := ih hleft
      rw [times_succ]
      refine ⟨fun a ha => ?_, hend⟩
      rcases List.mem_cons.mp ha with rfl | ha
      · exact hfirst
      · exact hrest a ha

/-- A draw that yields the same from every source of a kind repeats it. -/
theorem times_eq_replicate (kind : σ → Prop) {a : α} {d : Draw σ α}
    (hstep : ∀ s, kind s → (d s).1 = a ∧ kind (d s).2) {s : σ} (hs : kind s) (n : ℕ) :
    (times n d s).1 = List.replicate n a :=
  List.eq_replicate_iff.mpr ⟨length_times n d s, (times_keeps kind hstep hs n).1⟩

end Tabletop.Draw
