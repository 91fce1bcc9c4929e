import DirtSim.Foundation.Numerals
import DirtSim.Core.Material
import DirtSim.Core.Vector2
import DirtSim.Foundation.Grid
import Mathlib.Algebra.Order.Field.Basic

/-! # Cells

A cell holds one material and a fill ratio. The fields that only serve rendering are left out.
-/

namespace DirtSim

open Foundation

structure Cell (K : Type*) where
  materialType : Material
  fillRatio : K
  com : Vector2 K
  velocity : Vector2 K
  pressure : K
  staticLoad : K
  pressureGradient : Vector2 K
  pendingForce : Vector2 K
deriving DecidableEq, Repr

namespace Cell

variable {K : Type*} [Field K] [LinearOrder K]

def minFillThreshold : K := 1 / 1000

def maxFillThreshold : K := 999 / 1000

def blank : Cell K :=
  { materialType := .air, fillRatio := 0, com := 0, velocity := 0, pressure := 0
    staticLoad := 0, pressureGradient := 0, pendingForce := 0 }

def isEmpty (cell : Cell K) : Bool := cell.fillRatio < minFillThreshold

def isFull (cell : Cell K) : Bool := cell.fillRatio > maxFillThreshold

def isWall (cell : Cell K) : Bool := cell.materialType = .wall

def getCapacity (cell : Cell K) : K := 1 - cell.fillRatio

end Cell

/-- The world's cells: a grid whose dimensions are positive 16-bit integers. -/
structure CellArray (K : Type*) extends Grid (Cell K) where
  width_pos : 0 < width
  height_pos : 0 < height
  width_le : width ≤ 32767
  height_le : height ≤ 32767

theorem one_le_limit : 1 ≤ 32767 := by decide

theorem two_le_limit : 2 ≤ 32767 := by decide

theorem three_le_limit : 3 ≤ 32767 := by decide

theorem pos_three : 0 < 3 := by decide

end DirtSim
