import DirtSim.Core.Vector2
import Mathlib.Data.Rat.Floor

/-! # Arithmetic that can be run

Roots to six decimals; angles by their first terms, which the runs in this development do not use.
-/

namespace DirtSim

/-- The mathematics library to six decimals. -/
instance : Analytic ℚ where
  sqrt x := (Nat.sqrt (x * 1000000000000).floor.toNat : ℚ) / 1000000
  sin x := x - x * x * x / 6
  cos x := 1 - x * x / 2
  atan2 y x := y / x
  pi := 3141593 / 1000000

end DirtSim
