import Mathlib.Algebra.Order.Field.Basic
import Mathlib.Algebra.BigOperators.Group.List.Basic
import Mathlib.Tactic.Linarith

/-! # Weighted means

Values with weights that are not negative. Where the weights add up to one, the weighted sum is a
mean: it stays between any bounds of the values that count (`le_weightedSum`, `weightedSum_le`),
and it reaches a bound only if all values that count do (`weightedSum_eq_iff`).
-/

namespace DirtSim.Foundation

variable {K : Type*} [Field K]

def weightedSum (entries : List (K × K)) : K := (entries.map fun entry => entry.1 * entry.2).sum

def totalWeight (entries : List (K × K)) : K := (entries.map Prod.fst).sum

@[simp] theorem weightedSum_nil : weightedSum ([] : List (K × K)) = 0 := rfl

@[simp] theorem totalWeight_nil : totalWeight ([] : List (K × K)) = 0 := rfl

@[simp] theorem weightedSum_cons (entry : K × K) (entries : List (K × K)) :
    weightedSum (entry :: entries) = entry.1 * entry.2 + weightedSum entries := by
  rw [weightedSum, List.map_cons, List.sum_cons, weightedSum]

@[simp] theorem totalWeight_cons (entry : K × K) (entries : List (K × K)) :
    totalWeight (entry :: entries) = entry.1 + totalWeight entries := by
  rw [totalWeight, List.map_cons, List.sum_cons, totalWeight]

variable [LinearOrder K] [IsStrictOrderedRing K] {entries : List (K × K)} {low high : K}

/-- One entry against a bound of its value, if it counts. -/
theorem weight_mul_le {entry : K × K} (nonneg : 0 ≤ entry.1)
    (bound : 0 < entry.1 → entry.2 ≤ high) : entry.1 * entry.2 ≤ entry.1 * high := by
  rcases nonneg.lt_or_eq with counts | idle
  · exact mul_le_mul_of_nonneg_left (bound counts) nonneg
  · rw [← idle, zero_mul, zero_mul]

theorem weightedSum_le (nonneg : ∀ entry ∈ entries, 0 ≤ entry.1)
    (bound : ∀ entry ∈ entries, 0 < entry.1 → entry.2 ≤ high) :
    weightedSum entries ≤ totalWeight entries * high := by
  induction entries with
  | nil => simp [zero_mul]
  | cons entry entries ih =>
      obtain ⟨first, rest⟩ := List.forall_mem_cons.mp nonneg
      obtain ⟨bound_first, bound_rest⟩ := List.forall_mem_cons.mp bound
      have head := weight_mul_le first bound_first
      have tail := ih rest bound_rest
      rw [weightedSum_cons, totalWeight_cons, add_mul]
      exact add_le_add head tail

/-- A mean of values below a bound reaches the bound exactly if every value that counts does. -/
theorem weightedSum_eq_iff (nonneg : ∀ entry ∈ entries, 0 ≤ entry.1)
    (bound : ∀ entry ∈ entries, 0 < entry.1 → entry.2 ≤ high) :
    weightedSum entries = totalWeight entries * high ↔
      ∀ entry ∈ entries, 0 < entry.1 → entry.2 = high := by
  induction entries with
  | nil =>
      simp [zero_mul]
  | cons entry entries ih =>
      obtain ⟨first, rest⟩ := List.forall_mem_cons.mp nonneg
      obtain ⟨bound_first, bound_rest⟩ := List.forall_mem_cons.mp bound
      have head := weight_mul_le first bound_first
      have tail := weightedSum_le rest bound_rest
      rw [weightedSum_cons, totalWeight_cons, add_mul, List.forall_mem_cons, ← ih rest bound_rest]
      constructor
      · intro reached
        refine ⟨fun counts => ?_, by linarith⟩
        have same : entry.1 * entry.2 = entry.1 * high := by linarith
        exact mul_left_cancel₀ counts.ne' same
      · intro ⟨reached_first, reached_rest⟩
        have same : entry.1 * entry.2 = entry.1 * high := by
          rcases first.lt_or_eq with counts | idle
          · rw [reached_first counts]
          · rw [← idle, zero_mul, zero_mul]
        rw [same, reached_rest]

end DirtSim.Foundation
