import DirtSim.Organisms.OrganismManager

/-! # The positions of a grid -/

namespace DirtSim

open Foundation

namespace Vector2i

def positions (width height : ℕ) : List Vector2i :=
  (Grid.coordinates width height).map fun pos => ⟨pos.1, pos.2⟩

variable {width height : ℕ} {pos : Vector2i}

theorem mem_positions : pos ∈ positions width height ↔
    0 ≤ pos.x ∧ 0 ≤ pos.y ∧ pos.x < width ∧ pos.y < height := by
  rw [positions, List.mem_map, ← Grid.mem_coordinates]
  constructor
  · rintro ⟨⟨x, y⟩, member, rfl⟩
    exact member
  · intro member
    exact ⟨(pos.x, pos.y), member, rfl⟩

theorem nodup_positions : (positions width height).Nodup := by
  refine (Grid.nodup_coordinates _ _).map fun first second same => ?_
  exact Prod.ext (congrArg Vector2i.x same) (congrArg Vector2i.y same)

end Vector2i

end DirtSim
