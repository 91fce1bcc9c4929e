import Mathlib.Data.Nat.Basic
import Mathlib.Tactic.Common

/-! # Rings that hold the last values of a stream

Values are written one after another to the cells of a ring, the first of them to the first cell. A
ring of `size` cells then holds the last `size` values of the stream, and the value with number `i`
is in the cell `i % size` for as long as no more than `size` values have been written from it on.
-/

namespace DirtSim.Foundation

variable {α : Type*} {size : ℕ}

/-- Each of the last values of the stream is in the cell that its number names. -/
def HoldsLast (ring : Vector α size) (stream : List α) : Prop :=
  ∀ i < stream.length, stream.length ≤ i + size → ring[i % size]? = stream[i]?

namespace HoldsLast

theorem nil (ring : Vector α size) : HoldsLast ring [] := by
  intro i lt
  exact absurd lt (Nat.not_lt_zero i)

theorem push {ring : Vector α size} {stream : List α} (holds : HoldsLast ring stream)
    (positive : 0 < size) (value : α) :
    HoldsLast (ring.setIfInBounds (stream.length % size) value) (stream ++ [value]) := by
  intro i lt recent
  rw [List.length_append, List.length_singleton] at lt recent
  have inside := Nat.mod_lt stream.length positive
  by_cases last : i = stream.length
  · subst last
    rw [Vector.getElem?_setIfInBounds_self_of_lt inside, List.getElem?_concat_length]
  · have other : stream.length % size ≠ i % size := by
      intro same
      have apart : (stream.length - i) % size = 0 :=
        Nat.sub_mod_eq_zero_of_mod_eq same
      rw [Nat.mod_eq_of_lt (by omega)] at apart
      omega
    rw [Vector.getElem?_setIfInBounds_ne other, List.getElem?_append_left (by omega)]
    exact holds i (by omega) (by omega)

/-- Reading from as many cells back as are asked for. -/
theorem read {ring : Vector α size} {stream : List α} (holds : HoldsLast ring stream) {back j : ℕ}
    (within : back ≤ size) (written : back ≤ stream.length) (before : j < back) :
    ring[(stream.length % size + size - back + j) % size]? =
      stream[stream.length - back + j]? := by
  have cell : (stream.length % size + size - back + j) % size =
      (stream.length - back + j) % size := by
    have parts := Nat.div_add_mod stream.length size
    have whole : stream.length % size + size - back + j + size * (stream.length / size) =
        stream.length - back + j + size := by omega
    rw [← Nat.add_mul_mod_self_left _ size (stream.length / size), whole, Nat.add_mod_right]
  rw [cell]
  exact holds _ (by omega) (by omega)

end HoldsLast

end DirtSim.Foundation
