import DirtSim.Activity.RegionActivityTracker
import DirtSim.Physics.CellMatter
import Mathlib.Data.Stream.Init

/-! # The world that material moves through

The cells, and what else the execution of material moves reads or writes: settings, organism
manager, region tracker, pressure buffers and the random number generator. Counters that only
the debug overlay shows are left out. A step settles (`CellArray.Conserves`) when the matter in
the cells does.
-/

namespace DirtSim

open Foundation

inductive WaterSimMode
  | legacyCell | macProjection
deriving DecidableEq, Repr

/-- The settings that material moves depend on. -/
structure PhysicsSettings (K : Type*) where
  buoyancyEnergyScale : K
  cohesionResistanceFactor : K
  fluidLubricationFactor : K
  waterSimMode : WaterSimMode
  fragmentationEnabled : Bool
  fragmentationThreshold : K
  fragmentationFullThreshold : K
  gravity : K
  horizontalFlowResistanceFactor : K
  horizontalNonFluidPenalty : K
  horizontalNonFluidEnergyMultiplier : K
  pressureDynamicStrength : K
  swapEnabled : Bool

/-- Types of collisions that can occur during material transfer. -/
inductive CollisionType
  | transferOnly | compressionContact | fluidBlockedContact | elasticReflection
  | inelasticCollision | fragmentation | absorption
deriving DecidableEq, Repr

/-- A material transfer between two cells with its collision physics. -/
structure MaterialMove (K : Type*) where
  amount : K
  momentum : Vector2 K
  fromPos : Vector2i
  toPos : Vector2i
  material : Material
  collisionType : CollisionType
  collisionEnergy : K
  restitutionCoefficient : K
  materialMass : K
  targetMass : K
  pressureFromExcess : K

structure BlockedTransfer (K : Type*) where
  fromX : ℤ
  fromY : ℤ
  toX : ℤ
  toY : ℤ
  transferAmount : K
  velocity : Vector2 K
  energy : K

structure WorldPressureCalculator (K : Type*) where
  dynamicPressure : List K
  hydrostaticPressure : List K
  blockedTransfers : List (BlockedTransfer K)

/-- `rng` holds the numbers between 0 and 1 that the generator will deliver next;
`cohesionResistance` is the part of the grid cache that swaps read. -/
structure World (K : Type*) (F : Type) where
  data : CellArray K
  cohesionResistance : Grid K
  physicsSettings : PhysicsSettings K
  organismManager : OrganismManager F
  regionActivityTracker : WorldRegionActivityTracker K
  pressureCalculator : WorldPressureCalculator K
  rng : Stream' K

namespace Vector2i

/-- An integer vector among the floating-point ones. -/
def toVector2 {K : Type*} [Field K] (vector : Vector2i) : Vector2 K := ⟨vector.x, vector.y⟩

end Vector2i

namespace MaterialMove

variable {K : Type*}

def direction (move : MaterialMove K) : Vector2i := move.toPos - move.fromPos

def getDirection [Field K] (move : MaterialMove K) : Vector2 K := move.direction.toVector2

/-- The move leads from one cell of the world to another. -/
structure Within (move : MaterialMove K) (cells : Grid (Cell K)) : Prop where
  fromInside : cells.InBounds move.fromPos.x move.fromPos.y
  toInside : cells.InBounds move.toPos.x move.toPos.y
  apart : move.fromPos ≠ move.toPos

end MaterialMove

namespace CellArray

variable {K : Type*} [Field K] [LinearOrder K]

def setCell (cells : CellArray K) (pos : Vector2i) (cell : Cell K) : CellArray K where
  toGrid := cells.toGrid.set pos.x pos.y cell
  width_pos := by simpa only [Grid.set_width] using cells.width_pos
  height_pos := by simpa only [Grid.set_height] using cells.height_pos
  width_le := by simpa only [Grid.set_width] using cells.width_le
  height_le := by simpa only [Grid.set_height] using cells.height_le

def cellAt (cells : CellArray K) (pos : Vector2i) : Cell K := cells.at pos.x pos.y

def UnitFills (cells : CellArray K) : Prop := Cell.matter.Bounded cells.cells

/-- The step keeps every fill ratio between 0 and 1, adds to no material and takes away at most
the price. -/
structure Conserves (price : K) (before after : CellArray K) : Prop where
  width_eq : after.width = before.width
  height_eq : after.height = before.height
  matter : Cell.matter.Settles price before.cells after.cells

section

variable {pos : Vector2i}

section

omit [Field K] [LinearOrder K]

theorem setCell_cells {cells : CellArray K} (inside : cells.InBounds pos.x pos.y) (cell : Cell K) :
    (cells.setCell pos cell).cells = cells.cells.set (cells.index pos.x pos.y) cell := by
  simp [setCell, Grid.set, inside]

@[simp] theorem setCell_width (cells : CellArray K) (pos : Vector2i) (cell : Cell K) :
    (cells.setCell pos cell).width = cells.width := Grid.set_width ..

@[simp] theorem setCell_height (cells : CellArray K) (pos : Vector2i) (cell : Cell K) :
    (cells.setCell pos cell).height = cells.height := Grid.set_height ..

@[simp] theorem setCell_inBounds {cells : CellArray K} {cell : Cell K} {x y : ℤ} :
    (cells.setCell pos cell).InBounds x y ↔ cells.InBounds x y := Grid.set_inBounds

end

section

omit [LinearOrder K]

theorem stored {cells : CellArray K} (inside : cells.InBounds pos.x pos.y) :
    cells.cells[cells.index pos.x pos.y]? = some (cells.cellAt pos) := by
  rcases Option.isSome_iff_exists.mp (Grid.get?_isSome_iff.mpr inside) with ⟨cell, read⟩
  have found : cells.cellAt pos = cell := by rw [cellAt, «at», read, Option.getD_some]
  rw [found]
  simpa only [Grid.get?, inside, ↓reduceIte] using read

theorem cellAt_setCell_self {cells : CellArray K} (inside : cells.InBounds pos.x pos.y)
    (cell : Cell K) : (cells.setCell pos cell).cellAt pos = cell := by
  have written := Grid.get?_set_self inside cell
  rw [cellAt, «at», setCell, written, Option.getD_some]

theorem cellAt_setCell_ne (cells : CellArray K) {pos other : Vector2i} (cell : Cell K)
    (apart : pos ≠ other) : (cells.setCell other cell).cellAt pos = cells.cellAt pos := by
  have kept : (cells.toGrid.set other.x other.y cell).get? pos.x pos.y = cells.get? pos.x pos.y :=
    Grid.get?_set_ne _ _ fun same =>
      apart (Vector2i.ext (congrArg Prod.fst same) (congrArg Prod.snd same))
  rw [cellAt, «at», setCell, kept, cellAt, «at»]

end

end

variable {cells : CellArray K}

theorem UnitFills.fits (fills : cells.UnitFills) {pos : Vector2i}
    (inside : cells.InBounds pos.x pos.y) : Cell.matter.Fits (cells.cellAt pos) :=
  Ledger.Bounded.fits fills (stored inside)

namespace Conserves

theorem fills {price : K} {before after : CellArray K} (conserves : Conserves price before after) :
    after.UnitFills := conserves.matter.bounded

theorem inBounds {price : K} {before after : CellArray K}
    (conserves : Conserves price before after) {x y : ℤ} :
    after.InBounds x y ↔ before.InBounds x y := by
  simp [Grid.InBounds, conserves.width_eq, conserves.height_eq]

theorem refl (fills : cells.UnitFills) : Conserves 0 cells cells :=
  ⟨rfl, rfl, .refl fills⟩

variable [IsStrictOrderedRing K]

theorem trans {first second : K} {before middle after : CellArray K}
    (front : Conserves first before middle) (back : Conserves second middle after) :
    Conserves (first + second) before after :=
  ⟨back.width_eq.trans front.width_eq, back.height_eq.trans front.height_eq,
    front.matter.trans back.matter⟩

theorem mono {low high : K} {before after : CellArray K} (conserves : Conserves low before after)
    (le : low ≤ high) : Conserves high before after :=
  ⟨conserves.width_eq, conserves.height_eq, conserves.matter.mono le⟩

theorem setCell_same (fills : cells.UnitFills) {pos : Vector2i}
    (inside : cells.InBounds pos.x pos.y) {cell : Cell K}
    (same : Cell.SameMatter (cells.cellAt pos) cell) :
    Conserves 0 cells (cells.setCell pos cell) where
  width_eq := setCell_width ..
  height_eq := setCell_height ..
  matter := by
    rw [setCell_cells inside]
    refine .set fills (stored inside) ?_
    have fits := same.fits (fills.fits inside)
    refine ⟨fun account member => ?_, fun kind => ?_, ?_⟩
    · rw [List.mem_singleton.mp member]
      exact fits
    · simp [Ledger.totalOf, same.holding kind]
    · simp [Ledger.total, same.2]

/-- **Two cells rewritten.** The step conserves what it conserves between the two. -/
theorem setCells {price : K} (fills : cells.UnitFills) {first second : Vector2i}
    (insideFirst : cells.InBounds first.x first.y)
    (insideSecond : cells.InBounds second.x second.y) (apart : first ≠ second)
    {newFirst newSecond : Cell K}
    (settles : Cell.matter.Settles price [cells.cellAt first, cells.cellAt second]
      [newFirst, newSecond]) :
    Conserves price cells ((cells.setCell first newFirst).setCell second newSecond) where
  width_eq := by rw [setCell_width, setCell_width]
  height_eq := by rw [setCell_height, setCell_height]
  matter := by
    have place : (cells.setCell first newFirst).index second.x second.y =
        cells.index second.x second.y := by
      rw [Grid.index, Grid.index, setCell_width]
    rw [setCell_cells (setCell_inBounds.mpr insideSecond), setCell_cells insideFirst, place]
    refine .set_set fills (fun same => apart ?_) (stored insideFirst) (stored insideSecond) settles
    obtain ⟨x, y⟩ := (Grid.index_inj insideFirst insideSecond).mp same
    exact Vector2i.ext x y

end Conserves

end CellArray

namespace World

variable {K : Type*} {F : Type} [Field K] [LinearOrder K]

def cellAt (world : World K F) (pos : Vector2i) : Cell K := world.data.cellAt pos

def setCell (world : World K F) (pos : Vector2i) (cell : Cell K) : World K F :=
  { world with data := world.data.setCell pos cell }

def setCells (world : World K F) (move : MaterialMove K) (cells : Cell K × Cell K) : World K F :=
  (world.setCell move.fromPos cells.1).setCell move.toPos cells.2

def isValidCell (world : World K F) (pos : Vector2i) : Bool := world.data.InBounds pos.x pos.y

theorem conserves_setCells [IsStrictOrderedRing K] {price : K} {world : World K F}
    {move : MaterialMove K} (fills : world.data.UnitFills) (within : move.Within world.data.toGrid)
    {cells : Cell K × Cell K}
    (settles : Cell.matter.Settles price [world.cellAt move.fromPos, world.cellAt move.toPos]
      [cells.1, cells.2]) :
    world.data.Conserves price (world.setCells move cells).data :=
  .setCells fills within.fromInside within.toInside within.apart settles

end World

end DirtSim
