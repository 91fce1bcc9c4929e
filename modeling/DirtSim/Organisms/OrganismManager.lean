import DirtSim.Core.Uuid
import DirtSim.Foundation.Dict
import DirtSim.Foundation.Grid
import Mathlib.Data.Finset.Image
import Mathlib.Data.Rat.Floor

/-! # The organism manager

Two records of who owns which cell: a dense grid of ids and, for each live organism, its set of
cells. Failed assertions are `none`. Positions are only scaled, floored and recentred, so any type
with these operations (`Coordinate`) will do.
-/

namespace DirtSim

open Foundation

/-- An integer cell position. -/
structure Vector2i where
  x : ℤ
  y : ℤ
deriving DecidableEq, Repr

namespace Vector2i

variable (first second : Vector2i)

instance : Add Vector2i := ⟨fun first second => ⟨first.x + second.x, first.y + second.y⟩⟩
instance : Sub Vector2i := ⟨fun first second => ⟨first.x - second.x, first.y - second.y⟩⟩

@[simp] theorem add_x : (first + second).x = first.x + second.x := rfl
@[simp] theorem add_y : (first + second).y = first.y + second.y := rfl
@[simp] theorem sub_x : (first - second).x = first.x - second.x := rfl
@[simp] theorem sub_y : (first - second).y = first.y - second.y := rfl

@[ext] theorem ext {first second : Vector2i} (x : first.x = second.x) (y : first.y = second.y) :
    first = second := by
  cases first
  cases second
  simp only at x y
  rw [x, y]

end Vector2i

abbrev OrganismId := ℤ

def invalidOrganismId : OrganismId := 0

inductive OrganismType
  | duck | goose | tree | nesDuck
deriving DecidableEq, Repr

/-- The arithmetic the manager performs on one coordinate of a continuous position. -/
class Coordinate (F : Type) where
  /-- The cell a coordinate lies in. -/
  floor : F → ℤ
  /-- The middle of a cell. -/
  cellCenter : ℤ → F
  /-- A coordinate multiplied by the ratio of the new size to the old one. -/
  rescale : F → (newSize oldSize : ℕ) → F
  /-- The fractional part of a coordinate, spread over `[-1, 1]`. -/
  centerOfMass : F → F

/-- Exact arithmetic; as in the source a division by zero has no useful value. -/
instance : Coordinate ℚ where
  floor := Rat.floor
  cellCenter cell := cell + 1 / 2
  rescale coordinate newSize oldSize := coordinate * ((newSize : ℚ) / oldSize)
  centerOfMass coordinate := (coordinate - coordinate.floor) * 2 - 1

namespace Organism

/-- What the manager reads and writes of an organism. Only a duck stores its anchor cell; the
other organisms derive it from their position. -/
structure Body (F : Type) where
  type : OrganismType
  cells : Finset Vector2i := ∅
  position : F × F
  anchorCell : Vector2i
  centerOfMass : F × F

namespace Body

variable {F : Type} [Coordinate F]

open Coordinate

def usesRigidBodyPhysics (body : Body F) : Bool :=
  match body.type with
  | .goose | .tree => true
  | .duck | .nesDuck => false

def getAnchorCell (body : Body F) : Vector2i :=
  match body.type with
  | .duck | .nesDuck => body.anchorCell
  | .goose | .tree => ⟨floor body.position.1, floor body.position.2⟩

def setAnchorCell (body : Body F) (pos : Vector2i) : Body F :=
  { body with anchorCell := pos, position := (cellCenter pos.x, cellCenter pos.y) }

/-- Called when one of the organism's cells moved: the anchor follows its own cell. -/
def onCellTransfer (body : Body F) (source target : Vector2i) : Body F :=
  if source = body.getAnchorCell then body.setAnchorCell target else body

def spawn (type : OrganismType) (pos : Vector2i) : Body F :=
  { type := type, cells := {pos}, position := (cellCenter pos.x, cellCenter pos.y)
    anchorCell := pos, centerOfMass := (cellCenter 0, cellCenter 0) }

/-- The position scaled from the old grid to the new one. -/
def rescaledPosition (body : Body F) (oldWidth oldHeight newWidth newHeight : ℕ) : F × F :=
  (rescale body.position.1 newWidth oldWidth, rescale body.position.2 newHeight oldHeight)

/-- The anchor in the new grid: the cell of the scaled position, clamped into the grid. -/
def resizedAnchor (body : Body F) (oldWidth oldHeight newWidth newHeight : ℕ) : Vector2i :=
  let newPosition := body.rescaledPosition oldWidth oldHeight newWidth newHeight
  ⟨max 0 (min (floor newPosition.1) ((newWidth : ℤ) - 1)),
    max 0 (min (floor newPosition.2) ((newHeight : ℤ) - 1))⟩

/-- The organism's cells in the new grid: all moved by the anchor's offset, and those that
leave the new grid dropped. -/
def resizedCells (body : Body F) (oldWidth oldHeight newWidth newHeight : ℕ) : Finset Vector2i :=
  let offset := body.resizedAnchor oldWidth oldHeight newWidth newHeight - body.getAnchorCell
  (body.cells.image fun oldPos => oldPos + offset).filter fun newPos =>
    0 ≤ newPos.x ∧ 0 ≤ newPos.y ∧ newPos.x < newWidth ∧ newPos.y < newHeight

def resized (body : Body F) (oldWidth oldHeight newWidth newHeight : ℕ) : Body F :=
  let newPosition := body.rescaledPosition oldWidth oldHeight newWidth newHeight
  { body.setAnchorCell (body.resizedAnchor oldWidth oldHeight newWidth newHeight) with
    cells := body.resizedCells oldWidth oldHeight newWidth newHeight
    centerOfMass :=
      (Coordinate.centerOfMass newPosition.1, Coordinate.centerOfMass newPosition.2) }

end Body

end Organism

/-- The manager's state. `organisms` is a hash map, so nothing may depend on the order of its
entries. The counter behind `nextId` is a signed 32-bit integer in the source, whose overflow
has no defined behaviour; here it does not overflow. -/
structure OrganismManager (F : Type) where
  organisms : Dict OrganismId (Organism.Body F) := ∅
  organismGenomeIds : Dict OrganismId GenomeId := ∅
  nextId : OrganismId := 1
  grid : Grid OrganismId := Grid.generate 0 0 fun _ _ => invalidOrganismId

namespace OrganismManager

variable {F : Type} [Coordinate F]

open Organism

def inBounds (manager : OrganismManager F) (pos : Vector2i) : Prop :=
  manager.grid.InBounds pos.x pos.y

instance (manager : OrganismManager F) (pos : Vector2i) : Decidable (manager.inBounds pos) :=
  inferInstanceAs (Decidable (manager.grid.InBounds _ _))

/-- The owner recorded in the grid; no organism outside it. -/
def organismAt (manager : OrganismManager F) (pos : Vector2i) : OrganismId :=
  (manager.grid.get? pos.x pos.y).getD invalidOrganismId

def hasOrganism (manager : OrganismManager F) (pos : Vector2i) : Bool :=
  manager.organismAt pos != invalidOrganismId

def getOrganism (manager : OrganismManager F) (id : OrganismId) : Option (Body F) :=
  manager.organisms.lookup id

def setGenomeId (manager : OrganismManager F) (id : OrganismId) (genomeId : GenomeId) :
    OrganismManager F :=
  { manager with organismGenomeIds := manager.organismGenomeIds.insert id genomeId }

def getGenomeId (manager : OrganismManager F) (id : OrganismId) : Option GenomeId :=
  manager.organismGenomeIds.lookup id

def setOrganismAt (manager : OrganismManager F) (pos : Vector2i) (id : OrganismId) :
    OrganismManager F :=
  { manager with grid := manager.grid.set pos.x pos.y id }

def clearOrganismAt (manager : OrganismManager F) (pos : Vector2i) : OrganismManager F :=
  manager.setOrganismAt pos invalidOrganismId

/-- A grid after one loop of writes of the same id over a set of cells. All writes store the
same id, so their order does not matter. -/
def writeCells (grid : Grid OrganismId) (cells : Finset Vector2i) (id : OrganismId) :
    Grid OrganismId :=
  grid.mapCells fun x y owner => if ⟨x, y⟩ ∈ cells then id else owner

/-- Every organism is moved into the new grid first; then the grid is assigned afresh and all
organisms are written to it, later ones over earlier ones. -/
def resizeGrid (manager : OrganismManager F) (newWidth newHeight : ℕ) : OrganismManager F :=
  if manager.grid.width = newWidth ∧ manager.grid.height = newHeight then manager
  else
    let organisms := manager.organisms.mapValues fun _ body =>
      body.resized manager.grid.width manager.grid.height newWidth newHeight
    { manager with
      organisms := organisms
      grid := organisms.entries.foldl (fun grid entry => writeCells grid entry.2.cells entry.1)
        (Grid.generate newWidth newHeight fun _ _ => invalidOrganismId) }

def createTree (manager : OrganismManager F) (pos : Vector2i) : OrganismManager F :=
  let id := manager.nextId
  let planted := { manager with nextId := manager.nextId + 1 }.setOrganismAt pos id
  { planted with organisms := planted.organisms.emplace id (Body.spawn .tree pos) }

def createDuck (manager : OrganismManager F) (pos : Vector2i) : Option (OrganismManager F) :=
  if manager.organismAt pos ≠ invalidOrganismId then none
  else
    let id := manager.nextId
    let placed := { manager with nextId := manager.nextId + 1 }.setOrganismAt pos id
    some { placed with organisms := placed.organisms.emplace id (Body.spawn .duck pos) }

def removeOrganism (manager : OrganismManager F) (id : OrganismId) : OrganismManager F :=
  match manager.getOrganism id with
  | none => manager
  | some body =>
      { manager with
        grid := writeCells manager.grid body.cells invalidOrganismId
        organisms := manager.organisms.erase id
        organismGenomeIds := manager.organismGenomeIds.erase id }

def removeOrganismFromWorld (manager : OrganismManager F) (id : OrganismId) :
    OrganismManager F :=
  match manager.getOrganism id with
  | none => manager
  | some _ => manager.removeOrganism id

def clear (manager : OrganismManager F) : OrganismManager F :=
  { manager with
    organisms := ∅
    organismGenomeIds := ∅
    grid := manager.grid.mapCells fun _ _ _ => invalidOrganismId }

/-- Records a cell on both sides; aborts for an unknown organism. The owner of the cell is not
consulted. -/
def addCellToOrganism (manager : OrganismManager F) (id : OrganismId) (pos : Vector2i) :
    Option (OrganismManager F) :=
  match manager.getOrganism id with
  | none => none
  | some _ =>
      some { manager.setOrganismAt pos id with
        organisms := manager.organisms.modify id fun body =>
          { body with cells := insert pos body.cells } }

/-- Drops one cell of an organism and clears the grid there, whoever owns it. -/
def removeCellFromOrganism (id : OrganismId) (manager : OrganismManager F) (pos : Vector2i) :
    OrganismManager F :=
  { manager.clearOrganismAt pos with
    organisms := manager.organisms.modify id fun body =>
      { body with cells := body.cells.erase pos } }

def removeCellsFromOrganism (manager : OrganismManager F) (id : OrganismId)
    (positions : List Vector2i) : OrganismManager F :=
  match manager.getOrganism id with
  | none => manager
  | some _ => positions.foldl (removeCellFromOrganism id) manager

/-- One organism's side of a cell moving: the cell set and, if it was the anchor's cell, the
anchor. -/
def transferCell (organisms : Dict OrganismId (Body F)) (id : OrganismId)
    (source target : Vector2i) : Dict OrganismId (Body F) :=
  organisms.modify id fun body =>
    { body with cells := insert target (body.cells.erase source) }.onCellTransfer source target

/-- Exchanges the owners of two cells. Aborts when one organism owns both, and when an owner in
the grid is not a live organism. -/
def swapOrganisms (manager : OrganismManager F) (pos1 pos2 : Vector2i) :
    Option (OrganismManager F) :=
  let org1 := manager.organismAt pos1
  let org2 := manager.organismAt pos2
  if org1 = org2 ∧ org1 ≠ invalidOrganismId then none
  else
    let swapped := (manager.setOrganismAt pos1 org2).setOrganismAt pos2 org1
    let tracked (organisms : Dict OrganismId (Body F)) (id : OrganismId)
        (source target : Vector2i) : Option (Dict OrganismId (Body F)) :=
      if id = invalidOrganismId then some organisms
      else if (organisms.lookup id).isNone then none
      else some (transferCell organisms id source target)
    do
      let first ← tracked swapped.organisms org1 pos1 pos2
      let second ← tracked first org2 pos2 pos1
      return { swapped with organisms := second }

/-- Moves one cell of an organism. Unknown and rigid-body organisms are left alone; aborts when
the source cell belongs to someone else. The owner of the target is not consulted. -/
def moveOrganismCell (manager : OrganismManager F) (source target : Vector2i)
    (organismId : OrganismId) : Option (OrganismManager F) :=
  match manager.getOrganism organismId with
  | none => some manager
  | some body =>
      if body.usesRigidBodyPhysics then some manager
      else if manager.organismAt source ≠ organismId then none
      else
        some { (manager.clearOrganismAt source).setOrganismAt target organismId with
          organisms := transferCell manager.organisms organismId source target }

/-- The world writes an organism's continuous position directly before a resize. -/
def setPosition (manager : OrganismManager F) (id : OrganismId) (position : F × F) :
    OrganismManager F :=
  { manager with
    organisms := manager.organisms.modify id fun body => { body with position := position } }

end OrganismManager

end DirtSim
