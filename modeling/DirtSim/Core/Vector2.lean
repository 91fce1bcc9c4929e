import DirtSim.Foundation.Numerals
import Mathlib.Algebra.Field.Defs
import Mathlib.Algebra.Order.Ring.Defs
import Mathlib.Tactic.Common

/-! # Plane vectors

Vectors with floating-point components. The model computes exactly: components lie in an
ordered field, and the functions of the mathematics library are taken as given
(`Analytic`). What is proved here does not depend on what they return, except where roots are
said to be exact.
-/

namespace DirtSim

/-- The functions a program takes from its mathematics library. -/
class Analytic (K : Type*) where
  sqrt : K → K
  sin : K → K
  cos : K → K
  atan2 : K → K → K
  pi : K

@[ext] structure Vector2 (K : Type*) where
  x : K
  y : K
deriving DecidableEq, Repr

namespace Vector2

variable {K : Type*} [Field K]
variable (first second : Vector2 K) (vector : Vector2 K)

instance : Zero (Vector2 K) := ⟨⟨0, 0⟩⟩
instance : Add (Vector2 K) := ⟨fun first second => ⟨first.x + second.x, first.y + second.y⟩⟩
instance : Sub (Vector2 K) := ⟨fun first second => ⟨first.x - second.x, first.y - second.y⟩⟩

@[simp] theorem add_x : (first + second).x = first.x + second.x := rfl
@[simp] theorem add_y : (first + second).y = first.y + second.y := rfl
@[simp] theorem sub_x : (first - second).x = first.x - second.x := rfl
@[simp] theorem sub_y : (first - second).y = first.y - second.y := rfl

def times (vector : Vector2 K) (scalar : K) : Vector2 K := ⟨vector.x * scalar, vector.y * scalar⟩

@[simp] theorem times_x (scalar : K) : (vector.times scalar).x = vector.x * scalar := rfl

@[simp] theorem times_y (scalar : K) : (vector.times scalar).y = vector.y * scalar := rfl

/-- Division throws on a zero divisor in the source; every use below divides by a positive
quantity. -/
def divide (vector : Vector2 K) (scalar : K) : Vector2 K := ⟨vector.x / scalar, vector.y / scalar⟩

@[simp] theorem divide_x (scalar : K) : (vector.divide scalar).x = vector.x / scalar := rfl

@[simp] theorem divide_y (scalar : K) : (vector.divide scalar).y = vector.y / scalar := rfl

def dot (first second : Vector2 K) : K := first.x * second.x + first.y * second.y

variable [Analytic K]

def mag (vector : Vector2 K) : K := Analytic.sqrt (vector.x * vector.x + vector.y * vector.y)

/-- The unit vector of the same direction; a vector without length is left as it is. -/
def normalize [LinearOrder K] (vector : Vector2 K) : Vector2 K :=
  if vector.mag > 0 then vector.times (1 / vector.mag) else vector

end Vector2

end DirtSim
