import DirtSim.Core.Vector2
import Mathlib.Algebra.Order.Field.Basic
import Mathlib.Tactic.FieldSimp
import Mathlib.Tactic.LinearCombination
import Mathlib.Tactic.Positivity
import Mathlib.Tactic.Ring

/-! # Unit vectors

With exact roots the direction of a vector has length one. -/

namespace DirtSim

/-- Roots without rounding. -/
class ExactRoot (K : Type*) [Field K] [LinearOrder K] [Analytic K] : Prop where
  sqrt_nonneg : ∀ value : K, 0 ≤ Analytic.sqrt value
  mul_self_sqrt : ∀ value : K, 0 ≤ value → Analytic.sqrt value * Analytic.sqrt value = value

namespace Vector2

variable {K : Type*} [Field K] {vector : Vector2 K}

def UnitLength (vector : Vector2 K) : Prop := vector.x * vector.x + vector.y * vector.y = 1

theorem dot_recombined {normal : Vector2 K} (unit : normal.UnitLength) (vector : Vector2 K)
    (along : K) :
    (vector - normal.times (vector.dot normal) + normal.times along).dot
        (vector - normal.times (vector.dot normal) + normal.times along) =
      vector.dot vector - vector.dot normal * vector.dot normal + along * along := by
  simp only [dot, add_x, add_y, sub_x, sub_y, times_x, times_y]
  unfold UnitLength at unit
  linear_combination
    (along - (vector.x * normal.x + vector.y * normal.y)) ^ 2 * unit

variable [LinearOrder K] [IsStrictOrderedRing K] [Analytic K] [ExactRoot K]

section

omit [IsStrictOrderedRing K]

theorem mul_self_mag (vector : Vector2 K) (nonneg : 0 ≤ vector.x * vector.x + vector.y * vector.y) :
    vector.mag * vector.mag = vector.x * vector.x + vector.y * vector.y :=
  ExactRoot.mul_self_sqrt _ nonneg

theorem mag_nonneg (vector : Vector2 K) : 0 ≤ vector.mag := ExactRoot.sqrt_nonneg _

end

theorem UnitLength.mag_eq (unit : vector.UnitLength) : vector.mag = 1 := by
  have square : vector.mag * vector.mag = 1 := by
    rw [mul_self_mag vector (by rw [unit]; exact zero_le_one), unit]
  rcases mul_self_eq_one_iff.mp square with one | negative
  · exact one
  · exact absurd (negative ▸ mag_nonneg vector) (by norm_num)

theorem UnitLength.normalize_eq (unit : vector.UnitLength) : vector.normalize = vector := by
  rw [normalize, unit.mag_eq, if_pos one_pos]
  ext
  · simp
  · simp

theorem unitLength_normalize (nonzero : vector.x ≠ 0 ∨ vector.y ≠ 0) : vector.normalize.UnitLength := by
  have square : 0 < vector.x * vector.x + vector.y * vector.y := by
    rcases nonzero with x | y
    · have first : 0 < vector.x * vector.x := mul_self_pos.mpr x
      have second : 0 ≤ vector.y * vector.y := mul_self_nonneg _
      positivity
    · have first : 0 ≤ vector.x * vector.x := mul_self_nonneg _
      have second : 0 < vector.y * vector.y := mul_self_pos.mpr y
      positivity
  have length := mul_self_mag vector square.le
  have positive : 0 < vector.mag := by
    refine lt_of_le_of_ne (mag_nonneg vector) fun zero => square.ne' ?_
    rw [← length, ← zero, zero_mul]
  rw [normalize, if_pos positive, UnitLength, times_x, times_y]
  field_simp
  linear_combination -length

end Vector2

end DirtSim
