import Mathlib.Algebra.Order.Field.Rat

/-! # The operations of floating-point numbers

A program that only passes floating-point numbers on, or whose branches on them are all
considered, is modelled over any type with the operations that it computes with. None of their laws
is used, so that rounding, infinities and comparisons with what is not a number are all among the
instances. The rational numbers are one.
-/

namespace DirtSim.Foundation

class FloatOperations (K : Type) extends
    Zero K, One K, Add K, Sub K, Mul K, Div K, NatCast K where
  lt : K → K → Bool
  le : K → K → Bool

namespace FloatOperations

scoped instance rational : FloatOperations ℚ where
  lt first second := decide (first < second)
  le first second := decide (first ≤ second)

end FloatOperations

end DirtSim.Foundation
