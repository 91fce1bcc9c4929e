import Mathlib.Tactic.Common

/-! # Materials

The materials a cell can be made of. The source numbers them in this order, and packs the
numbers into four bits each.
-/

namespace DirtSim

inductive Material
  | air | dirt | leaf | metal | root | sand | seed | wall | water | wood
deriving DecidableEq, Repr

namespace Material

def number : Material → ℕ
  | air => 0
  | dirt => 1
  | leaf => 2
  | metal => 3
  | root => 4
  | sand => 5
  | seed => 6
  | wall => 7
  | water => 8
  | wood => 9

/-- The enumerator behind a number; larger numbers name no material. -/
def ofNumber : ℕ → Option Material
  | 0 => some air
  | 1 => some dirt
  | 2 => some leaf
  | 3 => some metal
  | 4 => some root
  | 5 => some sand
  | 6 => some seed
  | 7 => some wall
  | 8 => some water
  | 9 => some wood
  | _ => none

@[simp] theorem ofNumber_number (material : Material) : ofNumber material.number = some material := by
  cases material <;> rfl

theorem number_lt (material : Material) : material.number < 16 := by
  cases material <;> decide

end Material

end DirtSim
