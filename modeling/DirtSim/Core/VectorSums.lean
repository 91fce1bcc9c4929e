import DirtSim.Core.Vector2
import Mathlib.Algebra.Group.Defs

/-! # Sums of plane vectors -/

namespace DirtSim

namespace Vector2

variable {K : Type*} [Field K]

instance : Neg (Vector2 K) := ⟨fun vector => ⟨-vector.x, -vector.y⟩⟩

@[simp] theorem zero_x : (0 : Vector2 K).x = 0 := rfl
@[simp] theorem zero_y : (0 : Vector2 K).y = 0 := rfl
@[simp] theorem neg_x (vector : Vector2 K) : (-vector).x = -vector.x := rfl
@[simp] theorem neg_y (vector : Vector2 K) : (-vector).y = -vector.y := rfl

instance : AddCommGroup (Vector2 K) where
  add_assoc first second third := by ext <;> simp [add_assoc]
  zero_add vector := by ext <;> simp
  add_zero vector := by ext <;> simp
  add_comm first second := by ext <;> simp [add_comm]
  sub_eq_add_neg first second := by
    ext <;> simp [sub_eq_add_neg]
  neg_add_cancel vector := by
    ext <;> simp
  nsmul := nsmulRec
  zsmul := zsmulRec

end Vector2

end DirtSim
