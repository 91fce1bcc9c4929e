import DirtSim.Foundation.Numerals
import Mathlib.Algebra.Order.Field.Basic
import Mathlib.Tactic.FieldSimp
import Mathlib.Tactic.Linarith
import Mathlib.Tactic.Ring

/-! # Crossing unit cells

A point moves along an axis at a constant rate and arrives in the middle of a goal cell. While it is
in a cell it is known when it leaves (`Stay`), and it is there until then (`Stay.wait`); the goal is
not left (`Stay.leave_lt`, `Stay.lt_leave`).
-/

namespace DirtSim.Foundation

variable {K : Type*} [Field K] [LinearOrder K]

/-- A motion along an axis that arrives in the middle of a cell. -/
structure Motion (K : Type*) [Field K] where
  origin : K
  rate : K
  duration : K
  goal : ℤ
  arrives : origin + duration * rate = goal + 1 / 2

namespace Motion

def position (motion : Motion K) (time : K) : K := motion.origin + time * motion.rate

def step (motion : Motion K) : ℤ := if motion.rate > 0 then 1 else -1

end Motion

/-- At a time the point is in a cell, which it leaves at another time. -/
structure Stay (motion : Motion K) (cell : ℤ) (leave time : K) : Prop where
  nonneg : 0 ≤ time
  early : time ≤ motion.duration
  lasts : time ≤ leave
  above : (cell : K) ≤ motion.position time
  below : motion.position time ≤ cell + 1
  upward : 0 < motion.rate → motion.position leave = cell + 1
  downward : motion.rate < 0 → motion.position leave = cell
  still : motion.rate = 0 → motion.duration < leave

namespace Stay

variable [IsStrictOrderedRing K] {motion : Motion K} {cell : ℤ} {leave time : K}

/-- A cell whose lower end is not above the middle of another one. -/
theorem le_of_le_middle {first second : ℤ} (le : (first : K) ≤ second + 1 / 2) :
    first ≤ second := by
  have below : (first : K) < second + 1 := by linarith
  exact Int.lt_add_one_iff.mp (by exact_mod_cast below)

theorem cell_le_goal (stay : Stay motion cell leave time) (rising : 0 ≤ motion.rate) :
    cell ≤ motion.goal := by
  refine le_of_le_middle (K := K) ?_
  have later : motion.position time ≤ motion.origin + motion.duration * motion.rate :=
    add_le_add_right (mul_le_mul_of_nonneg_right stay.early rising) _
  rw [motion.arrives] at later
  exact stay.above.trans later

theorem goal_le_cell (stay : Stay motion cell leave time) (falling : motion.rate ≤ 0) :
    motion.goal ≤ cell := by
  have later : motion.origin + motion.duration * motion.rate ≤ motion.position time :=
    add_le_add_right (mul_le_mul_of_nonpos_right stay.early falling) _
  rw [motion.arrives] at later
  have below : (motion.goal : K) < cell + 1 := by linarith [stay.below]
  exact Int.lt_add_one_iff.mp (by exact_mod_cast below)

/-- A cell that is not the goal is left before the end. -/
theorem leave_lt (stay : Stay motion cell leave time) (apart : cell ≠ motion.goal) :
    leave < motion.duration := by
  have arrives := motion.arrives
  rcases lt_trichotomy motion.rate 0 with falling | still | rising
  · have ahead : motion.goal + 1 ≤ cell :=
      Int.add_one_le_of_lt (lt_of_le_of_ne (stay.goal_le_cell falling.le) (Ne.symm apart))
    have border : (motion.goal : K) + 1 ≤ cell := by exact_mod_cast ahead
    have leaving := stay.downward falling
    unfold Motion.position at leaving
    refine lt_of_mul_lt_mul_of_nonpos_right (c := motion.rate) ?_ falling.le
    linarith
  · have both := le_antisymm (stay.cell_le_goal still.ge) (stay.goal_le_cell still.le)
    exact absurd both apart
  · have ahead : cell + 1 ≤ motion.goal :=
      Int.add_one_le_of_lt (lt_of_le_of_ne (stay.cell_le_goal rising.le) apart)
    have border : (cell : K) + 1 ≤ motion.goal := by exact_mod_cast ahead
    have leaving := stay.upward rising
    unfold Motion.position at leaving
    refine lt_of_mul_lt_mul_right (a := motion.rate) ?_ rising.le
    linarith

theorem lt_leave (stay : Stay motion motion.goal leave time) : motion.duration < leave := by
  have arrives := motion.arrives
  rcases lt_trichotomy motion.rate 0 with falling | still | rising
  · have leaving := stay.downward falling
    unfold Motion.position at leaving
    refine lt_of_mul_lt_mul_of_nonpos_right (c := motion.rate) ?_ falling.le
    linarith
  · exact stay.still still
  · have leaving := stay.upward rising
    unfold Motion.position at leaving
    refine lt_of_mul_lt_mul_right (a := motion.rate) ?_ rising.le
    linarith

theorem wait (stay : Stay motion cell leave time) {later : K} (after : time ≤ later)
    (lasts : later ≤ leave) (early : later ≤ motion.duration) : Stay motion cell leave later := by
  refine ⟨stay.nonneg.trans after, early, lasts, ?_, ?_, stay.upward, stay.downward, stay.still⟩
  · rcases le_or_gt 0 motion.rate with rising | falling
    · exact stay.above.trans (add_le_add_right (mul_le_mul_of_nonneg_right after rising) _)
    · rw [← stay.downward falling]
      exact add_le_add_right (mul_le_mul_of_nonpos_right lasts falling.le) _
  · rcases lt_or_ge 0 motion.rate with rising | falling
    · rw [← stay.upward rising]
      exact add_le_add_right (mul_le_mul_of_nonneg_right lasts rising.le) _
    · exact (add_le_add_right (mul_le_mul_of_nonpos_right after falling) _).trans stay.below

/-- When the point leaves a cell it is in the next one. -/
theorem move (stay : Stay motion cell leave time) (apart : cell ≠ motion.goal) :
    Stay motion (cell + motion.step) (leave + |1 / motion.rate|) leave := by
  have moving : motion.rate ≠ 0 := by
    intro still
    exact apart (le_antisymm (stay.cell_le_goal still.ge) (stay.goal_le_cell still.le))
  have positive : 0 < |1 / motion.rate| := abs_pos.mpr (one_div_ne_zero moving)
  unfold Motion.step
  rcases lt_or_gt_of_ne moving with falling | rising
  · have leaving := stay.downward falling
    rw [if_neg falling.asymm]
    have border : ((cell + -1 : ℤ) : K) = cell - 1 := by
      push_cast
      ring
    refine ⟨stay.nonneg.trans stay.lasts, (stay.leave_lt apart).le, by linarith, by linarith,
      by linarith, fun rising => absurd rising falling.asymm, fun _ => ?_,
      fun still => absurd still moving⟩
    have unit : |1 / motion.rate| * motion.rate = -1 := by
      rw [abs_of_neg (one_div_neg.mpr falling)]
      field_simp
    unfold Motion.position at leaving ⊢
    rw [add_mul, unit]
    linarith
  · have leaving := stay.upward rising
    rw [if_pos rising]
    have border : ((cell + 1 : ℤ) : K) = cell + 1 := by
      push_cast
      ring
    refine ⟨stay.nonneg.trans stay.lasts, (stay.leave_lt apart).le, by linarith, by linarith,
      by linarith, fun _ => ?_, fun falling => absurd falling rising.asymm,
      fun still => absurd still moving⟩
    have unit : |1 / motion.rate| * motion.rate = 1 := by
      rw [abs_of_pos (one_div_pos.mpr rising)]
      field_simp
    unfold Motion.position at leaving ⊢
    rw [add_mul, unit]
    linarith

/-- A move leads to a cell that is nearer to the goal, and not beyond it. -/
theorem nearer (stay : Stay motion cell leave time) (apart : cell ≠ motion.goal) :
    (cell + motion.step - motion.goal).natAbs + 1 = (cell - motion.goal).natAbs ∧
      min cell motion.goal ≤ cell + motion.step ∧ cell + motion.step ≤ max cell motion.goal := by
  unfold Motion.step
  rcases lt_or_ge 0 motion.rate with rising | falling
  · have le := stay.cell_le_goal rising.le
    rw [if_pos rising]
    omega
  · have le := stay.goal_le_cell falling
    rw [if_neg falling.not_gt]
    omega

end Stay

end DirtSim.Foundation
