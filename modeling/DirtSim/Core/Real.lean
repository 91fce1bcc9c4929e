import DirtSim.Core.UnitVector
import Mathlib.Analysis.SpecialFunctions.Complex.Arg

/-! # Exact arithmetic over the reals -/

namespace DirtSim

/-- The mathematics library without rounding. -/
noncomputable instance : Analytic ℝ where
  sqrt := Real.sqrt
  sin := Real.sin
  cos := Real.cos
  atan2 y x := Complex.arg ⟨x, y⟩
  pi := Real.pi

instance : ExactRoot ℝ where
  sqrt_nonneg := Real.sqrt_nonneg
  mul_self_sqrt _ := Real.mul_self_sqrt

end DirtSim
