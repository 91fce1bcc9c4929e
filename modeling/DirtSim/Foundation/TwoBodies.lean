import DirtSim.Foundation.Numerals
import Mathlib.Algebra.Order.Field.Basic
import Mathlib.Order.Interval.Set.UnorderedInterval
import Mathlib.Tactic.FieldSimp
import Mathlib.Tactic.Linarith
import Mathlib.Tactic.Ring

/-! # Two bodies on a line

What a collision of two bodies does to their kinetic energy depends only on the momentum that it
passes from one to the other: the energy does not rise exactly as long as that momentum lies
between nothing and what an elastic collision passes on (`kinetic_push_le_iff`). Bodies that
merge pass on half of that.
-/

namespace DirtSim.Foundation.TwoBodies

variable {K : Type*} [Field K]

def kinetic (mass velocity : K) : K := 1 / 2 * mass * (velocity * velocity)

/-- The velocity of a body after an elastic collision with another one. -/
def elasticVelocity (mass other velocity otherVelocity : K) : K :=
  ((mass - other) * velocity + 2 * other * otherVelocity) / (mass + other)

/-- The momentum that the first body passes on to the second one in an elastic collision. -/
def elasticImpulse (mass other velocity otherVelocity : K) : K :=
  2 * (mass * other / (mass + other)) * (velocity - otherVelocity)

/-- The common velocity of two bodies that have merged. -/
def mergedVelocity (mass other velocity otherVelocity : K) : K :=
  (velocity * mass + otherVelocity * other) / (mass + other)

variable [LinearOrder K] [IsStrictOrderedRing K] {mass other velocity otherVelocity : K}

theorem kinetic_nonneg (nonneg : 0 ≤ mass) (velocity : K) : 0 ≤ kinetic mass velocity := by
  have square : 0 ≤ velocity * velocity := mul_self_nonneg velocity
  unfold kinetic
  positivity

theorem kinetic_le_kinetic (nonneg : 0 ≤ mass) {slow fast : K} (slower : |slow| ≤ |fast|) :
    kinetic mass slow ≤ kinetic mass fast := by
  have squares : slow * slow ≤ fast * fast := abs_le_iff_mul_self_le.mp slower
  have half : 0 ≤ 1 / 2 * mass := by positivity
  exact mul_le_mul_of_nonneg_left squares half

theorem kinetic_scaled_le (nonneg : 0 ≤ mass) {factor : K} (low : 0 ≤ factor) (high : factor ≤ 1)
    (velocity : K) : kinetic mass (velocity * factor) ≤ kinetic mass velocity := by
  refine kinetic_le_kinetic nonneg ?_
  rw [abs_mul, abs_of_nonneg low]
  exact mul_le_of_le_one_right (abs_nonneg velocity) high

/-- **Impulse rule.** The energy that passing on momentum adds. -/
theorem kinetic_push (first : 0 < mass) (second : 0 < other) (impulse : K) :
    kinetic mass (velocity - impulse / mass) + kinetic other (otherVelocity + impulse / other) =
      kinetic mass velocity + kinetic other otherVelocity +
        (mass + other) / (2 * mass * other) *
          (impulse * (impulse - elasticImpulse mass other velocity otherVelocity)) := by
  have firstNe : mass ≠ 0 := first.ne'
  have secondNe : other ≠ 0 := second.ne'
  have sumNe : mass + other ≠ 0 := (add_pos first second).ne'
  unfold kinetic elasticImpulse
  field_simp
  ring

theorem mul_sub_nonpos_iff (value bound : K) :
    value * (value - bound) ≤ 0 ↔ value ∈ Set.uIcc 0 bound := by
  rw [Set.mem_uIcc, mul_nonpos_iff, sub_nonpos, sub_nonneg]
  constructor
  · rintro (⟨nonneg, below⟩ | ⟨nonpos, above⟩)
    · exact Or.inl ⟨nonneg, below⟩
    · exact Or.inr ⟨above, nonpos⟩
  · rintro (⟨nonneg, below⟩ | ⟨above, nonpos⟩)
    · exact Or.inl ⟨nonneg, below⟩
    · exact Or.inr ⟨nonpos, above⟩

/-- **Bound on the impulse.** Passing on momentum does not add energy exactly when it passes on no
more than an elastic collision, in the same direction. -/
theorem kinetic_push_le_iff (first : 0 < mass) (second : 0 < other) (impulse : K) :
    kinetic mass (velocity - impulse / mass) + kinetic other (otherVelocity + impulse / other) ≤
        kinetic mass velocity + kinetic other otherVelocity ↔
      impulse ∈ Set.uIcc 0 (elasticImpulse mass other velocity otherVelocity) := by
  have factor : 0 < (mass + other) / (2 * mass * other) := by positivity
  rw [kinetic_push first second, add_le_iff_nonpos_right, ← mul_sub_nonpos_iff]
  exact ⟨fun bound => nonpos_of_mul_nonpos_right bound factor,
    mul_nonpos_of_nonneg_of_nonpos factor.le⟩

theorem elasticVelocity_eq_sub (first : 0 < mass) (second : 0 < other) :
    elasticVelocity mass other velocity otherVelocity =
      velocity - elasticImpulse mass other velocity otherVelocity / mass := by
  have firstNe : mass ≠ 0 := first.ne'
  have sumNe : mass + other ≠ 0 := (add_pos first second).ne'
  unfold elasticVelocity elasticImpulse
  field_simp
  ring

theorem elasticVelocity_eq_add (first : 0 < mass) (second : 0 < other) :
    elasticVelocity other mass otherVelocity velocity =
      otherVelocity + elasticImpulse mass other velocity otherVelocity / other := by
  have secondNe : other ≠ 0 := second.ne'
  have sumNe : mass + other ≠ 0 := (add_pos first second).ne'
  have sumNe' : other + mass ≠ 0 := (add_pos second first).ne'
  unfold elasticVelocity elasticImpulse
  field_simp
  ring

/-- **An elastic collision** keeps the energy; the first body may have no mass. -/
theorem kinetic_elastic (first : 0 ≤ mass) (second : 0 < other) :
    kinetic mass (elasticVelocity mass other velocity otherVelocity) +
        kinetic other (elasticVelocity other mass otherVelocity velocity) =
      kinetic mass velocity + kinetic other otherVelocity := by
  rcases first.eq_or_lt with massless | massive
  · have still : elasticVelocity other mass otherVelocity velocity = otherVelocity := by
      have secondNe : other ≠ 0 := second.ne'
      rw [← massless, elasticVelocity]
      field_simp
      ring
    rw [still, ← massless]
    simp [kinetic, mul_zero, zero_mul]
  · rw [elasticVelocity_eq_sub massive second, elasticVelocity_eq_add massive second,
      kinetic_push massive second, sub_self, mul_zero, mul_zero, add_zero]

theorem mergedVelocity_eq_sub (first : 0 < mass) (second : 0 < other) :
    mergedVelocity mass other velocity otherVelocity =
      velocity - elasticImpulse mass other velocity otherVelocity / 2 / mass := by
  have firstNe : mass ≠ 0 := first.ne'
  have sumNe : mass + other ≠ 0 := (add_pos first second).ne'
  unfold mergedVelocity elasticImpulse
  field_simp
  ring

theorem mergedVelocity_eq_add (first : 0 < mass) (second : 0 < other) :
    mergedVelocity mass other velocity otherVelocity =
      otherVelocity + elasticImpulse mass other velocity otherVelocity / 2 / other := by
  have secondNe : other ≠ 0 := second.ne'
  have sumNe : mass + other ≠ 0 := (add_pos first second).ne'
  unfold mergedVelocity elasticImpulse
  field_simp
  ring

theorem half_mem_uIcc (bound : K) : bound / 2 ∈ Set.uIcc 0 bound := by
  rw [← mul_sub_nonpos_iff]
  have square : 0 ≤ bound * bound := mul_self_nonneg bound
  linarith [show bound / 2 * (bound / 2 - bound) = -(bound * bound / 4) by ring]

theorem kinetic_merged_le (first : 0 < mass) (second : 0 < other) :
    kinetic (mass + other) (mergedVelocity mass other velocity otherVelocity) ≤
      kinetic mass velocity + kinetic other otherVelocity := by
  have split (common : K) :
      kinetic (mass + other) common = kinetic mass common + kinetic other common := by
    unfold kinetic
    ring
  have bound := (kinetic_push_le_iff first second _).mpr
    (half_mem_uIcc (elasticImpulse mass other velocity otherVelocity))
  rwa [← mergedVelocity_eq_sub first second, ← mergedVelocity_eq_add first second,
    ← split] at bound

end DirtSim.Foundation.TwoBodies
