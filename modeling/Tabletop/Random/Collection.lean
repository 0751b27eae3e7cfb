import Tabletop.Dictionary
import Tabletop.Random.Sampler

/-!
# Tabletop.Random.Collection — what can be picked from

A collection is picked from by way of the list of its values, one pick for every kind of collection.
A sequence is picked from by its places. A dictionary is picked from by the places of its names,
which themselves are never picked. A value that may be missing is a collection of one or of none.
-/

namespace Tabletop

/-- A queue with two ends, which is kept in a ring. Read from its front end, it is the values up to
the last slot of the ring and then those that went on in the first slots. -/
structure Deque (α : Type) where
  /-- The values from the front end up to the last slot. -/
  upToLastSlot : Array α
  /-- The values after them, from the first slot on. -/
  fromFirstSlot : Array α

/-- The values of a queue from its front end to its back end. -/
def Deque.toList {α : Type} (queue : Deque α) : List α :=
  queue.upToLastSlot.toList ++ queue.fromFirstSlot.toList

/-- A collection with values to pick from. -/
class Pickable (γ : Type) (α : outParam Type) where
  /-- The values that a pick may yield, one for each place of the collection. -/
  candidates : γ → List α

namespace Pickable

variable {α : Type} {n : Nat}

instance : Pickable (List α) α := ⟨id⟩

instance : Pickable (Array α) α := ⟨Array.toList⟩

instance : Pickable (Subarray α) α :=
  ⟨fun slice => (slice.array.extract slice.start slice.stop).toList⟩

instance : Pickable (Vector α n) α := ⟨Vector.toList⟩

instance : Pickable (Deque α) α := ⟨Deque.toList⟩

instance : Pickable (Option α) α := ⟨Option.toList⟩

instance : Pickable (Dictionary α) α := ⟨Dictionary.values⟩

end Pickable

/-- **One of the values of a collection**, each place alike; none of an empty collection, without a
draw. -/
def Draw.pickFrom {σ γ α : Type} [Source σ] [Pickable γ α] (collection : γ) : Draw σ (Option α) :=
  Draw.pick (Pickable.candidates collection)

end Tabletop
