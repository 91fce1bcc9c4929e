import Mathlib.Data.Int.Notation
import Mathlib.Tactic.Common

/-! # What is on the floor of the clock

Hurdles are walls one row above the floor, and pits are gaps in it. The drain is a gap that opens and
closes with the water on the floor.
-/

namespace DirtSim

inductive FloorObstacleType
  | hurdle
  | pit
deriving DecidableEq

structure FloorObstacle where
  startX : ℤ
  width : ℤ
  type : FloorObstacleType
deriving DecidableEq

structure ObstacleManager where
  obstacles : List FloorObstacle := []

namespace ObstacleManager

def isAt (manager : ObstacleManager) (type : FloorObstacleType) (x : ℤ) : Bool :=
  manager.obstacles.any fun obstacle =>
    obstacle.type = type && x ≥ obstacle.startX && x < obstacle.startX + obstacle.width

def isHurdleAt (manager : ObstacleManager) (x : ℤ) : Bool := manager.isAt .hurdle x

def isPitAt (manager : ObstacleManager) (x : ℤ) : Bool := manager.isAt .pit x

end ObstacleManager

structure DrainManager where
  isOpen : Bool := false
  startX : ℤ := 0
  endX : ℤ := 0

end DirtSim
