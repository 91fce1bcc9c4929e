import DirtSim.Grid.GridOfCells
import DirtSim.Organisms.OrganismManager
import Mathlib.Algebra.Order.Group.Abs

/-! # The region activity tracker

The world is divided into regions of eight by eight cells, each awake, quiet, or asleep after enough
quiet frames. Between frames other components ask for regions to be woken. The source's flat vectors
are grids here.
-/

namespace DirtSim

open Foundation

inductive RegionState
  | awake | loadedQuiet | sleeping
deriving DecidableEq, Repr

inductive WakeReason
  | none | externalMutation | move | blockedTransfer | neighborTopologyChanged | gravityChanged
  | waterInterface
deriving DecidableEq, Repr

structure RegionMeta where
  state : RegionState := .awake
  quietFrames : UInt16 := 0
  lastWakeReason : WakeReason := .none
  lastWakeStep : UInt32 := 0
deriving DecidableEq, Repr

structure RegionSummary (K : Type*) where
  maxVelocity : K
  maxLivePressureDelta : K
  maxStaticLoadDelta : K
  hasEmptyAdjacency : Bool := false
  hasWaterAdjacency : Bool := false
  hasMixedMaterial : Bool := false
  hasOrganism : Bool := false
  touchedThisFrame : Bool := false

/-- The water field, when the water simulation has one. -/
structure WaterVolumeView (K : Type*) where
  width : ℤ
  height : ℤ
  volume : List K

/-- What the tracker reads of the world in one frame. The grid refers to the world's cells;
its caches may have been built before these last changed. -/
structure Frame (K : Type*) where
  grid : GridOfCells K
  organismGrid : List OrganismId
  waterView : Option (WaterVolumeView K)
  gravity : K

namespace RegionActivity

structure Config (K : Type*) where
  quietFramesToSleep : UInt16
  livePressureDeltaEpsilon : K
  staticLoadDeltaEpsilon : K
  velocityEpsilon : K
  keepEmptyAdjacentAwake : Bool
  keepMixedMaterialAwake : Bool
  keepOrganismRegionsAwake : Bool
  keepWaterAdjacentAwake : Bool

def Config.initial {K : Type*} [Field K] : Config K where
  quietFramesToSleep := 12
  livePressureDeltaEpsilon := 2 / 100
  staticLoadDeltaEpsilon := 2 / 100
  velocityEpsilon := 1 / 100
  keepEmptyAdjacentAwake := true
  keepMixedMaterialAwake := true
  keepOrganismRegionsAwake := true
  keepWaterAdjacentAwake := true

end RegionActivity

open RegionActivity

structure WorldRegionActivityTracker (K : Type*) where
  config : Config K
  worldWidth : ℕ
  worldHeight : ℕ
  blocksX : ℕ
  blocksY : ℕ
  previousGravity : K
  previousGravityInitialized : Bool
  previousLivePressure : Grid K
  previousStaticLoad : Grid K
  regionMeta : Grid RegionMeta
  regionSummary : Grid (RegionSummary K)
  cellActive : Grid Bool
  regionActive : Grid Bool
  regionTouchedThisFrame : Grid Bool
  regionWakeRequested : Grid Bool
  regionPendingWakeReason : Grid WakeReason

namespace WorldRegionActivityTracker

variable {K : Type*} [Field K] [LinearOrder K]

def isActiveState : RegionState → Bool
  | .awake | .loadedQuiet => true
  | .sleeping => false

def isWaterCell (cell : Cell K) : Bool := !cell.isEmpty && cell.materialType = .water

def hasWaterVolumeAt (waterView : WaterVolumeView K) (x y : ℤ) : Bool :=
  if x < 0 ∨ y < 0 ∨ x ≥ waterView.width ∨ y ≥ waterView.height then false
  else match waterView.volume[(y * waterView.width + x).toNat]? with
    | some volume => volume > 1 / 10000
    | none => false

def hasWaterVolumeAdjacency (waterView : WaterVolumeView K) (x y : ℤ) : Bool :=
  offsets.any fun (dx, dy) => hasWaterVolumeAt waterView (x + dx) (y + dy)

def shouldForceAwake (summary : RegionSummary K) (config : Config K) : Bool :=
  summary.touchedThisFrame ||
    summary.maxVelocity > config.velocityEpsilon ||
    summary.maxLivePressureDelta > config.livePressureDeltaEpsilon ||
    summary.maxStaticLoadDelta > config.staticLoadDeltaEpsilon ||
    (config.keepEmptyAdjacentAwake && summary.hasEmptyAdjacency) ||
    (config.keepMixedMaterialAwake && summary.hasMixedMaterial) ||
    (config.keepOrganismRegionsAwake && summary.hasOrganism) ||
    (config.keepWaterAdjacentAwake && summary.hasWaterAdjacency)

def saturatingIncrement (value : UInt16) : UInt16 := if value = 65535 then value else value + 1

def blankSummary : RegionSummary K :=
  { maxVelocity := 0, maxLivePressureDelta := 0, maxStaticLoadDelta := 0 }

def reset (tracker : WorldRegionActivityTracker K) : WorldRegionActivityTracker K :=
  { tracker with
    previousLivePressure := .generate tracker.worldWidth tracker.worldHeight fun _ _ => 0
    previousStaticLoad := .generate tracker.worldWidth tracker.worldHeight fun _ _ => 0
    regionMeta := .generate tracker.blocksX tracker.blocksY fun _ _ => {}
    regionSummary := .generate tracker.blocksX tracker.blocksY fun _ _ => blankSummary
    cellActive := .generate tracker.worldWidth tracker.worldHeight fun _ _ => true
    regionActive := .generate tracker.blocksX tracker.blocksY fun _ _ => true
    regionTouchedThisFrame := .generate tracker.blocksX tracker.blocksY fun _ _ => false
    regionWakeRequested := .generate tracker.blocksX tracker.blocksY fun _ _ => false
    regionPendingWakeReason := .generate tracker.blocksX tracker.blocksY fun _ _ => .none
    previousGravity := 0
    previousGravityInitialized := false }

def new : WorldRegionActivityTracker K where
  config := .initial
  worldWidth := 0
  worldHeight := 0
  blocksX := 0
  blocksY := 0
  previousGravity := 0
  previousGravityInitialized := false
  previousLivePressure := .generate 0 0 fun _ _ => 0
  previousStaticLoad := .generate 0 0 fun _ _ => 0
  regionMeta := .generate 0 0 fun _ _ => {}
  regionSummary := .generate 0 0 fun _ _ => blankSummary
  cellActive := .generate 0 0 fun _ _ => true
  regionActive := .generate 0 0 fun _ _ => true
  regionTouchedThisFrame := .generate 0 0 fun _ _ => false
  regionWakeRequested := .generate 0 0 fun _ _ => false
  regionPendingWakeReason := .generate 0 0 fun _ _ => .none

def resize (tracker : WorldRegionActivityTracker K) (worldWidth worldHeight blocksX blocksY : ℕ) :
    WorldRegionActivityTracker K :=
  { tracker with
    worldWidth := worldWidth
    worldHeight := worldHeight
    blocksX := blocksX
    blocksY := blocksY }.reset

/-- Marks a region as touched and asks for it to be woken; the first reason is kept. -/
def noteWakeAtRegion (tracker : WorldRegionActivityTracker K) (blockX blockY : ℤ)
    (reason : WakeReason) : WorldRegionActivityTracker K :=
  if blockX < 0 ∨ blockY < 0 ∨ blockX ≥ tracker.blocksX ∨ blockY ≥ tracker.blocksY then tracker
  else
    { tracker with
      regionTouchedThisFrame := tracker.regionTouchedThisFrame.set blockX blockY true
      regionWakeRequested := tracker.regionWakeRequested.set blockX blockY true
      regionPendingWakeReason :=
        if tracker.regionPendingWakeReason.get? blockX blockY = some .none then
          tracker.regionPendingWakeReason.set blockX blockY reason
        else tracker.regionPendingWakeReason }

def noteWakeAtCell (tracker : WorldRegionActivityTracker K) (x y : ℤ) (reason : WakeReason) :
    WorldRegionActivityTracker K :=
  if x < 0 ∨ y < 0 ∨ x ≥ tracker.worldWidth ∨ y ≥ tracker.worldHeight then tracker
  else tracker.noteWakeAtRegion (x / 8) (y / 8) reason

def noteBlockedTransfer (tracker : WorldRegionActivityTracker K) (x y : ℤ) :
    WorldRegionActivityTracker K :=
  tracker.noteWakeAtCell x y .blockedTransfer

def noteMaterialMove (tracker : WorldRegionActivityTracker K) (fromX fromY toX toY : ℤ) :
    WorldRegionActivityTracker K :=
  (tracker.noteWakeAtCell fromX fromY .move).noteWakeAtCell toX toY .move

/-- The region has a request that the next frame will apply. -/
def wakeRequested (tracker : WorldRegionActivityTracker K) (blockX blockY : ℤ) : Bool :=
  (tracker.regionWakeRequested.get? blockX blockY).getD false

def applyWakeRequests (tracker : WorldRegionActivityTracker K) (timestep : UInt32) :
    WorldRegionActivityTracker K :=
  { tracker with
    regionMeta := tracker.regionMeta.mapCells fun blockX blockY regionMeta =>
      if tracker.wakeRequested blockX blockY then
        { state := .awake
          quietFrames := 0
          lastWakeReason := (tracker.regionPendingWakeReason.get? blockX blockY).getD .none
          lastWakeStep := timestep }
      else regionMeta
    regionWakeRequested := tracker.regionWakeRequested.mapCells fun _ _ _ => false
    regionPendingWakeReason :=
      tracker.regionPendingWakeReason.mapCells fun blockX blockY reason =>
        if tracker.wakeRequested blockX blockY then .none else reason }

/-- The source clips its loops to the grid of regions; writes outside it are dropped here. -/
def markHalo (active : Grid Bool) (blockX blockY : ℤ) : Grid Bool :=
  offsets.foldl (fun active (dx, dy) => active.set (blockX + dx) (blockY + dy) true) active

def getRegionMeta (tracker : WorldRegionActivityTracker K) (blockX blockY : ℤ) : RegionMeta :=
  (tracker.regionMeta.get? blockX blockY).getD {}

def buildActiveMasks (tracker : WorldRegionActivityTracker K) : WorldRegionActivityTracker K :=
  let regionActive := (Grid.coordinates tracker.blocksX tracker.blocksY).foldl
    (fun active (blockX, blockY) =>
      if isActiveState (tracker.getRegionMeta blockX blockY).state then markHalo active blockX blockY
      else active)
    (tracker.regionActive.mapCells fun _ _ _ => false)
  { tracker with
    regionActive := regionActive
    cellActive := tracker.cellActive.mapCells fun x y _ =>
      (regionActive.get? (x / 8) (y / 8)).getD false }

/-- A frame on a grid of other dimensions starts over. -/
def fitTo (tracker : WorldRegionActivityTracker K) (grid : GridOfCells K) :
    WorldRegionActivityTracker K :=
  if tracker.worldWidth ≠ grid.cells.width ∨ tracker.worldHeight ≠ grid.cells.height ∨
      tracker.blocksX ≠ grid.getBlocksX ∨ tracker.blocksY ≠ grid.getBlocksY then
    tracker.resize grid.cells.width grid.cells.height grid.getBlocksX grid.getBlocksY
  else tracker

def noteGravity (tracker : WorldRegionActivityTracker K) (gravity : K) :
    WorldRegionActivityTracker K :=
  if tracker.previousGravityInitialized = false then
    { tracker with previousGravity := gravity, previousGravityInitialized := true }
  else if |tracker.previousGravity - gravity| > 1 / 1000 then
    { (Grid.coordinates tracker.blocksX tracker.blocksY).foldl
        (fun tracker (blockX, blockY) => tracker.noteWakeAtRegion blockX blockY .gravityChanged)
        tracker with
      previousGravity := gravity }
  else tracker

def beginFrame (tracker : WorldRegionActivityTracker K) (frame : Frame K) (timestep : UInt32) :
    WorldRegionActivityTracker K :=
  (((tracker.fitTo frame.grid).noteGravity frame.gravity).applyWakeRequests
    timestep).buildActiveMasks

/-- The summaries of all regions and the first material met in each, during the scan. -/
structure Scan (K : Type*) where
  summaries : Grid (RegionSummary K)
  primaryMaterial : Grid (Option Material)

variable [Analytic K]

/-- What one cell adds to its region's summary. The scan stops there for an empty cell. -/
def summarizeCell (tracker : WorldRegionActivityTracker K) (frame : Frame K) (scan : Scan K)
    (x y : ℤ) : Scan K :=
  let blockX := x / 8
  let blockY := y / 8
  let cell := frame.grid.cells.at x y
  let summary := (scan.summaries.get? blockX blockY).getD blankSummary
  let measured := { summary with
    maxVelocity := max summary.maxVelocity cell.velocity.mag
    maxLivePressureDelta := max summary.maxLivePressureDelta
      |cell.pressure - (tracker.previousLivePressure.get? x y).getD 0|
    maxStaticLoadDelta := max summary.maxStaticLoadDelta
      |cell.staticLoad - (tracker.previousStaticLoad.get? x y).getD 0|
    hasOrganism := summary.hasOrganism ||
      (frame.organismGrid[(y * frame.grid.cells.width + x).toNat]?).getD invalidOrganismId ≠
        invalidOrganismId
    hasWaterAdjacency := summary.hasWaterAdjacency ||
      match frame.waterView with
      | some waterView =>
          waterView.width = frame.grid.cells.width ∧
            waterView.height = frame.grid.cells.height ∧
            hasWaterVolumeAdjacency waterView x y
      | none => false }
  if cell.isEmpty then { scan with summaries := scan.summaries.set blockX blockY measured }
  else
    let primary := (scan.primaryMaterial.get? blockX blockY).getD none
    let adjacent := { measured with
      hasEmptyAdjacency := measured.hasEmptyAdjacency ||
        (frame.grid.getEmptyNeighborhood x y).countTrueNeighbors > 0
      hasWaterAdjacency := measured.hasWaterAdjacency || isWaterCell cell ||
        (frame.grid.getMaterialNeighborhood x y).countMaterial .water > 0 }
    if cell.isWall then { scan with summaries := scan.summaries.set blockX blockY adjacent }
    else match primary with
      | none =>
          { summaries := scan.summaries.set blockX blockY adjacent
            primaryMaterial :=
              scan.primaryMaterial.set blockX blockY (some cell.materialType) }
      | some material =>
          { scan with
            summaries := scan.summaries.set blockX blockY
              { adjacent with
                hasMixedMaterial := adjacent.hasMixedMaterial || material ≠ cell.materialType } }

def summarize (tracker : WorldRegionActivityTracker K) (frame : Frame K) :
    Grid (RegionSummary K) :=
  let start : Scan K :=
    { summaries := tracker.regionSummary.mapCells fun blockX blockY _ =>
        { (blankSummary : RegionSummary K) with
          touchedThisFrame :=
            (tracker.regionTouchedThisFrame.get? blockX blockY).getD false }
      primaryMaterial := tracker.regionMeta.mapCells fun _ _ _ => none }
  ((Grid.coordinates frame.grid.cells.width frame.grid.cells.height).foldl
    (fun scan (x, y) => tracker.summarizeCell frame scan x y) start).summaries

/-- The next state of a region with the given summary. -/
def updateMeta (config : Config K) (summary : RegionSummary K) (regionMeta : RegionMeta) :
    RegionMeta :=
  if shouldForceAwake summary config then { regionMeta with quietFrames := 0, state := .awake }
  else
    let quietFrames := saturatingIncrement regionMeta.quietFrames
    { regionMeta with
      quietFrames := quietFrames
      state := if quietFrames ≥ config.quietFramesToSleep then .sleeping else .loadedQuiet }

def snapshotPreviousFields (tracker : WorldRegionActivityTracker K) (cells : CellArray K) :
    WorldRegionActivityTracker K :=
  { tracker with
    previousLivePressure := cells.mapCells fun _ _ cell => cell.pressure
    previousStaticLoad := cells.mapCells fun _ _ cell => cell.staticLoad }

def summarizeFrame (tracker : WorldRegionActivityTracker K) (frame : Frame K) :
    WorldRegionActivityTracker K :=
  let fitted := tracker.fitTo frame.grid
  let summaries := fitted.summarize frame
  { fitted with
    regionSummary := summaries
    regionMeta := fitted.regionMeta.mapCells fun blockX blockY regionMeta =>
      updateMeta fitted.config ((summaries.get? blockX blockY).getD blankSummary) regionMeta
    regionTouchedThisFrame := fitted.regionTouchedThisFrame.mapCells fun _ _ _ => false
    }.snapshotPreviousFields frame.grid.cells

def isCellActive (tracker : WorldRegionActivityTracker K) (x y : ℤ) : Bool :=
  if x < 0 ∨ y < 0 ∨ x ≥ tracker.worldWidth ∨ y ≥ tracker.worldHeight then false
  else if tracker.cellActive.cells.isEmpty then true
  else (tracker.cellActive.get? x y).getD false

def getRegionState (tracker : WorldRegionActivityTracker K) (blockX blockY : ℤ) : RegionState :=
  (tracker.getRegionMeta blockX blockY).state

end WorldRegionActivityTracker

end DirtSim
