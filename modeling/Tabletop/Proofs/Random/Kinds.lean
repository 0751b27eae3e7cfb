import Tabletop.Proofs.Dictionary
import Tabletop.Random.Collection

/-!
# Tabletop.Proofs.Random.Kinds — the places of each kind of collection

A collection of any kind is a number of places with a value at each. A sequence has the places of
its length, and a slice those between its bounds. A queue has the places up to the last slot of its
ring, and then those from the first slot on. A value that may be missing has one place or none, and
a dictionary a place for each of its names, at which the name's value stands.
-/

namespace Tabletop.Pickable

variable {γ α : Type} [Pickable γ α]

/-- **A collection has so many places**, and this value at each of them. -/
structure HasPlaces (c : γ) (n : Nat) (valueAt : Nat → Option α) : Prop where
  length : (candidates c).length = n
  getElem? : ∀ i, (candidates c)[i]? = valueAt i

/-- A collection without places has no values, and one with places has some. -/
theorem HasPlaces.eq_nil_iff {c : γ} {n : Nat} {valueAt : Nat → Option α}
    (h : HasPlaces c n valueAt) : candidates c = [] ↔ n = 0 := by
  rw [← h.length, List.length_eq_zero_iff]

/-- Every collection has the places of the list of its values. -/
theorem hasPlaces_candidates (c : γ) :
    HasPlaces c (candidates c).length fun i => (candidates c)[i]? := ⟨rfl, fun _ => rfl⟩

theorem hasPlaces_list (list : List α) : HasPlaces list list.length fun i => list[i]? :=
  hasPlaces_candidates list

theorem hasPlaces_array (array : Array α) : HasPlaces array array.size fun i => array[i]? where
  length := Array.length_toList
  getElem? _ := Array.getElem?_toList

theorem hasPlaces_vector {n : Nat} (vector : Vector α n) :
    HasPlaces vector n fun i => vector[i]? where
  length := vector.length_toList
  getElem? _ := Vector.getElem?_toList

theorem hasPlaces_subarray (slice : Subarray α) :
    HasPlaces slice slice.size fun i => slice[i]? := by
  have htoList : candidates slice = slice.toList := Subarray.toList_eq.symm
  constructor
  · rw [htoList, Subarray.length_toList]
  · intro i
    rw [htoList]
    by_cases hi : i < slice.size
    · rw [getElem?_pos slice i hi, List.getElem?_eq_getElem (Subarray.length_toList.symm ▸ hi),
        Subarray.getElem_toList]
    · rw [getElem?_neg slice i hi, List.getElem?_eq_none]
      rw [Subarray.length_toList]
      exact Nat.le_of_not_lt hi

theorem hasPlaces_deque (queue : Deque α) :
    HasPlaces queue (queue.upToLastSlot.size + queue.fromFirstSlot.size) fun i =>
      (queue.upToLastSlot ++ queue.fromFirstSlot)[i]? := by
  have htoList : candidates queue = (queue.upToLastSlot ++ queue.fromFirstSlot).toList :=
    Array.toList_append.symm
  constructor
  · rw [htoList, Array.length_toList, Array.size_append]
  · intro i
    rw [htoList, Array.getElem?_toList]

theorem hasPlaces_option (value : Option α) :
    HasPlaces value (if value.isSome then 1 else 0) fun i => if i = 0 then value else none where
  length := by cases value <;> rfl
  getElem? i := by
    cases value with
    | none => simp [candidates]
    | some a => cases i <;> simp [candidates]

theorem hasPlaces_dictionary (d : Dictionary α) :
    HasPlaces d d.names.length fun i => d.names[i]?.bind d.get? where
  length := by
    have hlength := congrArg List.length d.map_some_values
    rw [List.length_map, List.length_map] at hlength
    exact hlength
  getElem? i := by
    have hplace := congrArg (fun values => values[i]?) d.map_some_values
    simp only [List.getElem?_map] at hplace
    show d.values[i]? = _
    cases hname : d.names[i]? with
    | none =>
        rw [hname] at hplace
        exact Option.map_eq_none_iff.mp hplace
    | some name =>
        rw [hname] at hplace
        obtain ⟨value, hvalue, hget⟩ := Option.map_eq_some_iff.mp hplace
        rw [hvalue]
        exact hget

end Tabletop.Pickable
