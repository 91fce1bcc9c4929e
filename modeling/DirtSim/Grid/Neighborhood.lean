import DirtSim.Organisms.OrganismManager

/-! # The cells around a cell

Scans around a cell go outwards ring by ring; a ring is what lies at one distance.
-/

namespace DirtSim

def between (low high : ℤ) : List ℤ :=
  (List.range (high + 1 - low).toNat).map fun (i : ℕ) => low + i

def distance (pos other : Vector2i) : ℤ := max |other.x - pos.x| |other.y - pos.y|

def IsDiagonal (pos other : Vector2i) : Prop := |other.x - pos.x| = 1 ∧ |other.y - pos.y| = 1

instance (pos other : Vector2i) : Decidable (IsDiagonal pos other) :=
  inferInstanceAs (Decidable (_ ∧ _))

variable {pos other : Vector2i}

theorem mem_between {low high value : ℤ} :
    value ∈ between low high ↔ low ≤ value ∧ value ≤ high := by
  simp only [between, List.mem_map, List.mem_range]
  constructor
  · intro ⟨i, below, same⟩
    omega
  · intro ⟨from_low, to_high⟩
    exact ⟨(value - low).toNat, by omega, by omega⟩

theorem distance_le_zero_iff : distance pos other ≤ 0 ↔ other = pos := by
  obtain ⟨x, y⟩ := pos
  obtain ⟨x', y'⟩ := other
  simp only [distance, abs_eq_max_neg, Vector2i.mk.injEq]
  omega

theorem IsDiagonal.distance_eq (diagonal : IsDiagonal pos other) : distance pos other = 1 := by
  rw [distance, diagonal.1, diagonal.2, max_self]

end DirtSim
