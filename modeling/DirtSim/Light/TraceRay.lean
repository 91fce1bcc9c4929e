import DirtSim.Core.UnitVector
import DirtSim.Grid.GridOfCells
import DirtSim.Light.RgbF
import Mathlib.Algebra.Order.Floor.Defs

/-! # Light rays

A ray is traced from cell to cell: along each axis it is known when the next border is crossed, and
the nearer one is crossed first. Numbers are exact. Books are kept of the cells on the way and of
what has ended it.
-/

namespace DirtSim

open Foundation

variable {K : Type*} [Field K] [LinearOrder K]

def kNever : K := 1000000000

def kEpsilon : K := 1 / 100000

/-- A ray along one axis: the cell that it is in, the way that it goes, and when it crosses the next
border and how long after that the one behind. -/
structure RayAxis (K : Type*) where
  cell : ℤ
  step : ℤ
  tDelta : K
  tMax : K

namespace RayAxis

def start [FloorRing K] (origin dir : K) : RayAxis K where
  cell := ⌊origin⌋
  step := if dir > 0 then 1 else -1
  tDelta := if dir ≠ 0 then |1 / dir| else kNever
  tMax :=
    if dir > 0 then (⌊origin⌋ + 1 - origin) / dir
    else if dir < 0 then (origin - ⌊origin⌋) / -dir
    else kNever

def advance (axis : RayAxis K) : RayAxis K :=
  { axis with tMax := axis.tMax + axis.tDelta, cell := axis.cell + axis.step }

end RayAxis

inductive RayEnding
  | atLight | arrived | outside | faint | exhausted
deriving DecidableEq, Repr

structure TracedRay (K : Type*) where
  color : RgbF K
  crossed : List (ℤ × ℤ) := []
  ending : RayEnding

def TracedRay.after (ray : TracedRay K) (cell : ℤ × ℤ) : TracedRay K :=
  { ray with crossed := cell :: ray.crossed }

namespace LightPropagator

variable (lights : Material → LightProperties K) (grid : GridOfCells K) (data : CellArray K)

/-- The material of a cell as the cache has it; its four bits number one. -/
def cachedMaterial (x y : ℤ) : Material :=
  ((grid.getMaterialNeighborhood x y).getMaterial 0 0).getD .air

/-- What is left of light that goes through a cell. -/
def passCell (cell : ℤ × ℤ) (color : RgbF K) : RgbF K :=
  let lightProps := lights (cachedMaterial grid cell.1 cell.2)
  let fill := (data.at cell.1 cell.2).fillRatio
  let effectiveOpacity := lightProps.opacity * fill
  let transmittance := 1 - effectiveOpacity
  let baseTint := RgbF.toRgbF lightProps.tint
  let effectiveTint := RgbF.white.lerp baseTint fill
  (color.times transmittance).timesColor effectiveTint

def traceSteps (x1 y1 : ℤ) : ℕ → RayAxis K → RayAxis K → RgbF K → TracedRay K
  | 0, _, _, color => { color := color, ending := .exhausted }
  | steps + 1, xAxis, yAxis, color =>
      if xAxis.cell = x1 ∧ yAxis.cell = y1 then { color := color, ending := .arrived }
      else if ¬ grid.cells.InBounds xAxis.cell yAxis.cell then
        { color := RgbF.black, ending := .outside }
      else
        let passed := passCell lights grid data (xAxis.cell, yAxis.cell) color
        let ray :=
          if passed.faint then { color := RgbF.black, ending := .faint }
          else if xAxis.tMax < yAxis.tMax then traceSteps x1 y1 steps xAxis.advance yAxis passed
          else traceSteps x1 y1 steps xAxis yAxis.advance passed
        ray.after (xAxis.cell, yAxis.cell)

variable [Analytic K]

/-- How far the middle of a cell is from the light. -/
def targetDistance (x0 y0 : K) (x1 y1 : ℤ) : K :=
  let dx : K := x1 + 1 / 2 - x0
  let dy : K := y1 + 1 / 2 - y0
  Analytic.sqrt (dx * dx + dy * dy)

def traceRay [FloorRing K] (x0 y0 : K) (x1 y1 : ℤ) (color : RgbF K) : TracedRay K :=
  let dist := targetDistance x0 y0 x1 y1
  if dist < 1 / 1000 then { color := color, ending := .atLight }
  else
    let dirX := (x1 + 1 / 2 - x0) / dist
    let dirY := (y1 + 1 / 2 - y0) / dist
    traceSteps lights grid data x1 y1 (grid.cells.width + grid.cells.height)
      (.start (x0 + dirX * kEpsilon) dirX) (.start (y0 + dirY * kEpsilon) dirY) color

end LightPropagator

end DirtSim
