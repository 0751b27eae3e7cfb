import Tabletop.Proofs.Random.Kinds
import Tabletop.Proofs.Random.Uniform

/-!
# Tabletop.Proofs.Random.Pick — a pick is uniform over the places of a collection

To pick from a collection is to choose one of the places of the list of its values. The place is
chosen with words of 32 bits in the way in which an integer is chosen with words of 64 bits, so it
has the same law: it lies within the list, and every place is chosen by `2 ^ 64 / n` of the `2 ^ 64`
pairs of words, rounded down or rounded up, where `n` is the number of places. What stands at a
place has no part in this; a value that stands at two places is picked twice as often. And whatever
the kind of the collection, the places and what stands at them are all that matters.

The places of a dictionary are those of its names, in the order of their bytes. How the dictionary
came about has no part either: insertions that leave each name the same last value make the same
dictionary.
-/

namespace Tabletop.Draw

open Pickable (candidates HasPlaces)

variable {σ γ α : Type} [Source σ] [Pickable γ α]

theorem pickFrom_of_candidates_eq_nil {c : γ} (h : candidates c = []) (s : σ) :
    pickFrom c s = (none, s) := by
  unfold pickFrom
  rw [h, pick_nil]

/-- **What is picked is a value of the collection**, if it has one. -/
theorem fst_pickFrom_of_ne_nil {c : γ} (h : candidates c ≠ []) (s : σ) :
    ∃ value ∈ candidates c, (pickFrom c s).1 = some value :=
  fst_pick_of_ne_nil h s

/-! ## The place that is picked -/

/-- The place among `n` that two words choose. -/
def placeOf (n : ℕ) (w : UInt32 × UInt32) : ℕ :=
  Sampler.choice UInt32.size n w.1.toNat w.2.toNat

/-- The value that is picked is the one at the place that the first two words choose. -/
theorem fst_pickFrom {c : γ} {s : σ} {w : UInt32 × UInt32} (h : Opens32 s w)
    (hne : candidates c ≠ []) :
    (pickFrom c s).1 = (candidates c)[placeOf (candidates c).length w]? := by
  unfold pickFrom placeOf
  rw [pick_of_ne_nil hne, fst_below32 h]

/-- **Every place has its share of the pairs of words**, rounded down or rounded up. -/
theorem ncard_placeOf_eq {n i : ℕ} (hn : n < 2 ^ 32) (hi : i < n) :
    {w | placeOf n w = i}.ncard = 2 ^ 64 / n ∨ {w | placeOf n w = i}.ncard = 2 ^ 64 ⌈/⌉ n := by
  have hinj : Function.Injective UInt32.toNat := fun _ _ h => UInt32.toNat_inj.mp h
  exact Sampler.ncard_choice_eq hinj Sampler.range_toNat_uint32 (Nat.le_of_lt hn) hi

/-- **A collection is picked from uniformly** over so many places with these values, where `source`
leads from each pair of words to a source that hands these out first. -/
structure PickedUniformly (source : UInt32 × UInt32 → σ) (c : γ) (n : ℕ)
    (valueAt : ℕ → Option α) : Prop where
  /-- From every source the value at a place is picked. -/
  isValue (s : σ) : ∃ i < n, ∃ value, valueAt i = some value ∧ (pickFrom c s).1 = some value
  /-- It is the value at the place that the first two words choose. -/
  isAtPlace (w : UInt32 × UInt32) : (pickFrom c (source w)).1 = valueAt (placeOf n w)
  /-- Every place is chosen by the same number of pairs of words, up to the rounding. -/
  share (i : ℕ) (hi : i < n) :
    {w | placeOf n w = i}.ncard = 2 ^ 64 / n ∨ {w | placeOf n w = i}.ncard = 2 ^ 64 ⌈/⌉ n

theorem pickedUniformly {source : UInt32 × UInt32 → σ} (hopens : ∀ w, Opens32 (source w) w) {c : γ}
    {n : ℕ} {valueAt : ℕ → Option α} (h : HasPlaces c n valueAt) (hpos : 0 < n) (hlt : n < 2 ^ 32) :
    PickedUniformly source c n valueAt := by
  have hne : candidates c ≠ [] := fun hnil => Nat.ne_of_gt hpos (h.eq_nil_iff.mp hnil)
  refine ⟨?_, ?_, ?_⟩
  · intro s
    obtain ⟨value, hmem, hpick⟩ := fst_pickFrom_of_ne_nil hne s
    obtain ⟨i, hi, hvalue⟩ := List.mem_iff_getElem.mp hmem
    refine ⟨i, h.length ▸ hi, value, ?_, hpick⟩
    rw [← h.getElem?, List.getElem?_eq_getElem hi, hvalue]
  · intro w
    rw [fst_pickFrom (hopens w) hne, h.length, h.getElem?]
  · intro i hi
    exact ncard_placeOf_eq hlt hi

/-- **A pick is uniform over places**: without places nothing is picked and nothing is drawn, and
otherwise the pick is uniform. -/
structure UniformOver (source : UInt32 × UInt32 → σ) (c : γ) (n : ℕ) (valueAt : ℕ → Option α) :
    Prop where
  ofEmpty : n = 0 → ∀ s : σ, pickFrom c s = (none, s)
  ofPlaces : 0 < n → n < 2 ^ 32 → PickedUniformly source c n valueAt

theorem uniformOver {source : UInt32 × UInt32 → σ} (hopens : ∀ w, Opens32 (source w) w) {c : γ}
    {n : ℕ} {valueAt : ℕ → Option α} (h : HasPlaces c n valueAt) :
    UniformOver source c n valueAt where
  ofEmpty hzero s := pickFrom_of_candidates_eq_nil (h.eq_nil_iff.mpr hzero) s
  ofPlaces := pickedUniformly hopens h

/-- **A pick is uniform over every kind of collection**, each with its own places. -/
structure UniformOverKinds (source : UInt32 × UInt32 → σ) (α : Type) : Prop where
  list (list : List α) : UniformOver source list list.length fun i => list[i]?
  array (array : Array α) : UniformOver source array array.size fun i => array[i]?
  vector (n : ℕ) (vector : Vector α n) : UniformOver source vector n fun i => vector[i]?
  subarray (slice : Subarray α) : UniformOver source slice slice.size fun i => slice[i]?
  deque (queue : Deque α) :
    UniformOver source queue (queue.upToLastSlot.size + queue.fromFirstSlot.size) fun i =>
      (queue.upToLastSlot ++ queue.fromFirstSlot)[i]?
  option (value : Option α) :
    UniformOver source value (if value.isSome then 1 else 0) fun i => if i = 0 then value else none
  dictionary (d : Dictionary α) :
    UniformOver source d d.names.length fun i => d.names[i]?.bind d.get?

theorem uniformOverKinds {source : UInt32 × UInt32 → σ} (hopens : ∀ w, Opens32 (source w) w)
    (α : Type) : UniformOverKinds source α where
  list list := uniformOver hopens (Pickable.hasPlaces_list list)
  array array := uniformOver hopens (Pickable.hasPlaces_array array)
  vector _ vector := uniformOver hopens (Pickable.hasPlaces_vector vector)
  subarray slice := uniformOver hopens (Pickable.hasPlaces_subarray slice)
  deque queue := uniformOver hopens (Pickable.hasPlaces_deque queue)
  option value := uniformOver hopens (Pickable.hasPlaces_option value)
  dictionary d := uniformOver hopens (Pickable.hasPlaces_dictionary d)

/-! ## Dictionaries made by insertions -/

/-- **A dictionary holds what was inserted last.** Its places are the distinct names of the
insertions, in the order of their bytes, and at the place of a name is the last value that was
inserted under it. -/
structure HoldsLast {α : Type} (inserted : List (String × α)) (d : Dictionary α) : Prop where
  sorted : d.names.Pairwise fun a b => Text.bytes a < Text.bytes b
  mem_names (name : String) : name ∈ d.names ↔ name ∈ inserted.map Prod.fst
  get?_eq (name : String) : d.get? name = Dictionary.lastValue? inserted name
  values : (candidates d).map some = d.names.map (Dictionary.lastValue? inserted)

theorem holdsLast_ofList {α : Type} (inserted : List (String × α)) :
    HoldsLast inserted (Dictionary.ofList inserted) where
  sorted := Dictionary.names_sorted _
  mem_names := Dictionary.mem_map_fst_ofList inserted
  get?_eq := Dictionary.get?_ofList_eq_lastValue? inserted
  values := by
    show (Dictionary.ofList inserted).values.map some = _
    rw [Dictionary.map_some_values]
    apply List.map_congr_left
    intro name _
    exact Dictionary.get?_ofList_eq_lastValue? inserted name

/-- **A pick is uniform over every collection.** Of an empty collection nothing is picked and
nothing is drawn. Of any other, from every source, one of its values is picked, and of the `2 ^ 64`
pairs of words that a source may hand out first, every place of the collection is chosen by
`2 ^ 64 / n`, rounded down or rounded up, where `n` is the number of its places. These are the places
of the list of its values, and for each kind of collection its own.

A dictionary that was made by insertions holds the last value of each name. Other insertions that
leave each name the same last value give the same pick from the same source. -/
theorem pickFrom_uniform (source : UInt32 × UInt32 → σ) (hopens : ∀ w, Opens32 (source w) w) :
    (∀ (γ α : Type) [Pickable γ α] (c : γ),
      UniformOver source c (candidates c).length fun i => (candidates c)[i]?) ∧
      (∀ α : Type, UniformOverKinds source α) ∧
      ∀ (α : Type) (inserted : List (String × α)),
        HoldsLast inserted (Dictionary.ofList inserted) ∧
          ∀ others : List (String × α),
            (∀ name, Dictionary.lastValue? others name = Dictionary.lastValue? inserted name) →
            ∀ s : σ, pickFrom (Dictionary.ofList others) s =
              pickFrom (Dictionary.ofList inserted) s := by
  refine ⟨?_, uniformOverKinds hopens, ?_⟩
  · intro γ α _ c
    exact uniformOver hopens (Pickable.hasPlaces_candidates c)
  · intro α inserted
    refine ⟨holdsLast_ofList inserted, ?_⟩
    intro others hsame s
    rw [Dictionary.ofList_eq_of_lastValue?_eq hsame]

/-- A ring of three slots whose queue starts at the last one, with a value that stands at two places;
no value at all; and a dictionary in which one name was given a value twice, made a second time in
another order. -/
theorem pickFrom_uniform_ofPair32 :
    let answers : Deque String := ⟨#["Yes"], #["No", "Yes"]⟩
    let inserted : List (String × ℕ) := [("b", 1), ("a", 2), ("b", 3)]
    let others : List (String × ℕ) := [("b", 1), ("b", 3), ("a", 2)]
    (∀ w, Opens32 (Script.ofPair32 w) w) ∧
      ((∀ w, (pickFrom answers (Script.ofPair32 w)).1 = #["Yes", "No", "Yes"][placeOf 3 w]?) ∧
        ({w | placeOf 3 w = 2}.ncard = 6148914691236517205 ∨
          {w | placeOf 3 w = 2}.ncard = 6148914691236517206)) ∧
      pickFrom (none : Option String) (Script.ofWord 0) = (none, Script.ofWord 0) ∧
      candidates (Dictionary.ofList inserted) = [2, 3] ∧
      (∀ name, Dictionary.lastValue? others name = Dictionary.lastValue? inserted name) ∧
      pickFrom (Dictionary.ofList others) (Script.ofWord 0) =
        pickFrom (Dictionary.ofList inserted) (Script.ofWord 0) := by
  intro answers inserted others
  obtain ⟨-, hkinds, hdictionary⟩ := pickFrom_uniform Script.ofPair32 Script.opens32_ofPair32
  have hthree : answers.upToLastSlot.size + answers.fromFirstSlot.size = 3 := rfl
  have hanswers := ((hkinds String).deque answers).ofPlaces (by decide) (by decide)
  rw [hthree] at hanswers
  have hlast : ∀ name, Dictionary.lastValue? others name = Dictionary.lastValue? inserted name := by
    intro name
    by_cases hb : "b" = name
    · subst hb
      decide
    · simp [others, inserted, Dictionary.lastValue?, List.filter_cons, hb]
  refine ⟨Script.opens32_ofPair32, ⟨hanswers.isAtPlace, hanswers.share 2 (by decide)⟩, ?_,
    by decide, hlast, ?_⟩
  · exact ((hkinds String).option none).ofEmpty rfl (Script.ofWord 0)
  · exact (hdictionary ℕ inserted).2 others hlast (Script.ofWord 0)

end Tabletop.Draw
