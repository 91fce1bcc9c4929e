import DirtSim.Clock.DoorManager
import DirtSim.Clock.ObstacleManager

/-! # The walls of the clock

The clock draws its walls anew from a list of cells: the borders of the world without its openings,
the hurdles above the floor, and the roofs and frames of the doors. The positions are kept in 16
bits. The look of a wall does not matter to the world.
-/

namespace DirtSim

open Foundation

structure WallSpec where
  x : ℤ
  y : ℤ
  renderAs : Material

def WallSpec.position (spec : WallSpec) : Vector2i := ⟨spec.x, spec.y⟩

/-- What the walls of the clock depend on. -/
structure ClockFixtures where
  obstacleManager : ObstacleManager
  drainManager : DrainManager
  doorManager : DoorManager

namespace ClockFixtures

section

/-! ## The listed walls -/

variable {K : Type*} (fixtures : ClockFixtures) (data : CellArray K)

def isDrainCell (x : ℤ) : Bool :=
  fixtures.drainManager.isOpen && x ≥ fixtures.drainManager.startX &&
    x ≤ fixtures.drainManager.endX

def upTo (size : ℕ) : List ℤ := (List.range size).map Nat.cast

def topBorder : List WallSpec := (upTo data.width).map fun x => ⟨x, 0, .wood⟩

def bottomBorder : List WallSpec :=
  ((upTo data.width).filter fun x =>
    !fixtures.doorManager.isOpenDoorAt data ⟨x, data.height - 1⟩ && !fixtures.isDrainCell x &&
      !fixtures.obstacleManager.isPitAt x).map fun x => ⟨x, toInt16 (data.height - 1), .dirt⟩

def sideBorder (x : ℤ) : List WallSpec :=
  ((upTo data.height).filter fun y => !fixtures.doorManager.isOpenDoorAt data ⟨x, y⟩).map fun y =>
    ⟨toInt16 x, y, .wood⟩

def leftBorder : List WallSpec := fixtures.sideBorder data 0

def rightBorder : List WallSpec := fixtures.sideBorder data (data.width - 1)

def hurdles : List WallSpec :=
  if data.height > 2 then
    ((upTo data.width).filter fixtures.obstacleManager.isHurdleAt).map fun x =>
      ⟨x, toInt16 (data.height - 2), .wall⟩
  else []

def doorWall (pos : Vector2i) : WallSpec := ⟨toInt16 pos.x, toInt16 pos.y, .wall⟩

def roofs : List WallSpec := (fixtures.doorManager.getRoofPositions data).map doorWall

def frames : List WallSpec := (fixtures.doorManager.getFramePositions data).map doorWall

def generateWallSpecs : List WallSpec :=
  topBorder data ++ fixtures.bottomBorder data ++ fixtures.leftBorder data ++
    fixtures.rightBorder data ++ fixtures.hurdles data ++ fixtures.roofs data ++
    fixtures.frames data

end

section

/-! ## Drawing -/

variable {K : Type*} {F : Type} [Field K] [LinearOrder K] [Coordinate F]

/-- The cell is made a wall, and then marked, which asserts that it is in the world. -/
def applyWall (state : WateredWorld K F) (wall : WallSpec) : Option (WateredWorld K F) :=
  (state.replaceMaterialAtCell wall.position .wall).bind fun walled =>
    if walled.world.isValidCell wall.position then some walled else none

def applyWalls (state : WateredWorld K F) (walls : List WallSpec) : Option (WateredWorld K F) :=
  walls.foldlM applyWall state

def clearPit (fixtures : ClockFixtures) (state : WateredWorld K F) (x : ℤ) : WateredWorld K F :=
  let pos : Vector2i := ⟨x, state.world.data.height - 1⟩
  if fixtures.obstacleManager.isPitAt x && !fixtures.isDrainCell x &&
      (state.world.cellAt pos).isWall then
    { state with world := state.world.setCell pos .blank }
  else state

def redrawWalls (fixtures : ClockFixtures) (state : WateredWorld K F) :
    Option (WateredWorld K F) :=
  (applyWalls state (fixtures.generateWallSpecs state.world.data)).map fun walled =>
    (upTo walled.world.data.width).foldl fixtures.clearPit walled

end

end ClockFixtures

end DirtSim
