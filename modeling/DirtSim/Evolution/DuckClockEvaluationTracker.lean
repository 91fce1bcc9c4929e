import DirtSim.Clock.ObstacleManager
import DirtSim.Core.Vector2
import DirtSim.Grid.Neighborhood

/-! # The tracker of a duck's laps

Frame by frame a tracker counts the walls that a duck touches, its progress in the lap, and the
obstacles it is offered and clears. The counters do not overflow. The distance to the exit door is
left out, as nothing else depends on it.
-/

namespace DirtSim

structure DuckClockTrackerFrame where
  worldWidth : ℤ
  duckAnchorCell : Vector2i
  duckOnGround : Bool
  obstacles : List FloorObstacle

structure DuckClockEvaluationArtifacts (K : Type) where
  fullTraversals : ℕ
  hurdleClears : ℕ
  hurdleOpportunities : ℕ
  leftWallTouches : ℕ
  pitClears : ℕ
  pitOpportunities : ℕ
  rightWallTouches : ℕ
  traversalProgress : K

structure JumpAttempt where
  takeoffCell : Vector2i
  maxAirborneX : ℤ
  minAirborneX : ℤ
  minAirborneY : ℤ
  observedObstacles : List FloorObstacle

inductive WallZone
  | none
  | left
  | right
deriving DecidableEq

structure DuckClockEvaluationTracker (K : Type) where
  artifacts : DuckClockEvaluationArtifacts K
  activeClearedObstacles : List FloorObstacle
  activeOpportunityObstacles : List FloorObstacle
  currentTraversalProgress : K
  currentWallZone : WallZone
  jumpAttempt : Option JumpAttempt
  lastTouchedWallZone : WallZone
  previousDuckAnchorCell : Option Vector2i
  previousDuckOnGround : Bool
  previousDuckOnGroundKnown : Bool

namespace DuckClockEvaluationTracker

def kWallTouchZoneWidth : ℤ := 2

section

/-! ## Zones -/

def resolveWallZone (x worldWidth : ℤ) : WallZone :=
  if x ≤ kWallTouchZoneWidth then .left
  else if x ≥ max 0 (worldWidth - (kWallTouchZoneWidth + 1)) then .right
  else .none

variable {K : Type} [Field K] [LinearOrder K]

def clampTo (low high value : K) : K :=
  if value < low then low else if high < value then high else value

def resolveTraversalProgress (x worldWidth : ℤ) (lastTouchedWallZone : WallZone) : K :=
  let leftBoundary := kWallTouchZoneWidth
  let rightBoundary := max 0 (worldWidth - (kWallTouchZoneWidth + 1))
  let span : K := ((max 1 (rightBoundary - leftBoundary) : ℤ) : K)
  match lastTouchedWallZone with
  | .left => clampTo 0 1 (((x - leftBoundary : ℤ) : K) / span)
  | .right => clampTo 0 1 (((rightBoundary - x : ℤ) : K) / span)
  | .none => 0

end

section

/-! ## Jumps -/

def didJumpClearObstacle (jumpAttempt : JumpAttempt) (landingCell : Vector2i)
    (obstacle : FloorObstacle) : Bool :=
  let obstacleStart := obstacle.startX
  let obstacleEndExclusive := obstacle.startX + obstacle.width
  let tookOffLeft := decide (jumpAttempt.takeoffCell.x < obstacleStart)
  let tookOffRight := decide (jumpAttempt.takeoffCell.x ≥ obstacleEndExclusive)
  let landedLeft := decide (landingCell.x < obstacleStart)
  let landedRight := decide (landingCell.x ≥ obstacleEndExclusive)
  let crossedObstacle := tookOffLeft && landedRight || tookOffRight && landedLeft
  if !crossedObstacle then false
  else if jumpAttempt.minAirborneY ≥ jumpAttempt.takeoffCell.y then false
  else jumpAttempt.minAirborneX < obstacleEndExclusive &&
    jumpAttempt.maxAirborneX ≥ obstacleStart

def recordObservedObstacles (observed obstacles : List FloorObstacle) : List FloorObstacle :=
  obstacles.foldl
    (fun known obstacle => if obstacle ∈ known then known else known ++ [obstacle]) observed

def continueJump (jumpAttempt : JumpAttempt) (frame : DuckClockTrackerFrame) : JumpAttempt where
  takeoffCell := jumpAttempt.takeoffCell
  maxAirborneX := max jumpAttempt.maxAirborneX frame.duckAnchorCell.x
  minAirborneX := min jumpAttempt.minAirborneX frame.duckAnchorCell.x
  minAirborneY := min jumpAttempt.minAirborneY frame.duckAnchorCell.y
  observedObstacles := recordObservedObstacles jumpAttempt.observedObstacles frame.obstacles

def beginJump (takeoffCell : Vector2i) (frame : DuckClockTrackerFrame) : JumpAttempt where
  takeoffCell := takeoffCell
  maxAirborneX := max takeoffCell.x frame.duckAnchorCell.x
  minAirborneX := min takeoffCell.x frame.duckAnchorCell.x
  minAirborneY := min takeoffCell.y frame.duckAnchorCell.y
  observedObstacles := recordObservedObstacles [] frame.obstacles

end

variable {K : Type}

section

/-! ## Counting obstacles -/

def countClear (artifacts : DuckClockEvaluationArtifacts K) :
    FloorObstacleType → DuckClockEvaluationArtifacts K
  | .hurdle => { artifacts with hurdleClears := artifacts.hurdleClears + 1 }
  | .pit => { artifacts with pitClears := artifacts.pitClears + 1 }

def countOpportunity (artifacts : DuckClockEvaluationArtifacts K) :
    FloorObstacleType → DuckClockEvaluationArtifacts K
  | .hurdle => { artifacts with hurdleOpportunities := artifacts.hurdleOpportunities + 1 }
  | .pit => { artifacts with pitOpportunities := artifacts.pitOpportunities + 1 }

/-- An observed obstacle at the end of the jump, which counts unless it has been cleared already. -/
def creditObstacle (jumpAttempt : JumpAttempt) (landingCell : Vector2i)
    (tracker : DuckClockEvaluationTracker K) (obstacle : FloorObstacle) :
    DuckClockEvaluationTracker K :=
  if !didJumpClearObstacle jumpAttempt landingCell obstacle then tracker
  else if obstacle ∈ tracker.activeClearedObstacles then tracker
  else
    { tracker with
      artifacts := countClear tracker.artifacts obstacle.type
      activeClearedObstacles := tracker.activeClearedObstacles ++ [obstacle] }

def finalizeJumpAttempt (tracker : DuckClockEvaluationTracker K) (landingCell : Vector2i) :
    DuckClockEvaluationTracker K :=
  match tracker.jumpAttempt with
  | none => tracker
  | some jumpAttempt =>
      { jumpAttempt.observedObstacles.foldl (creditObstacle jumpAttempt landingCell) tracker with
        jumpAttempt := none }

def cleanupInactiveObstacleOpportunities (tracker : DuckClockEvaluationTracker K)
    (obstacles : List FloorObstacle) : DuckClockEvaluationTracker K :=
  { tracker with
    activeClearedObstacles := tracker.activeClearedObstacles.filter (· ∈ obstacles)
    activeOpportunityObstacles := tracker.activeOpportunityObstacles.filter (· ∈ obstacles) }

def offerObstacle (tracker : DuckClockEvaluationTracker K) (obstacle : FloorObstacle) :
    DuckClockEvaluationTracker K :=
  if obstacle ∈ tracker.activeOpportunityObstacles then tracker
  else
    { tracker with
      artifacts := countOpportunity tracker.artifacts obstacle.type
      activeOpportunityObstacles := tracker.activeOpportunityObstacles ++ [obstacle] }

def updateObstacleOpportunities (tracker : DuckClockEvaluationTracker K)
    (frame : DuckClockTrackerFrame) : DuckClockEvaluationTracker K :=
  frame.obstacles.foldl offerObstacle
    (tracker.cleanupInactiveObstacleOpportunities frame.obstacles)

/-- What a frame means for the jump: it begins one, goes on with one or ends one. -/
def updateJump (tracker : DuckClockEvaluationTracker K) (frame : DuckClockTrackerFrame) :
    DuckClockEvaluationTracker K :=
  if tracker.previousDuckOnGround && !frame.duckOnGround then
    { tracker with
      jumpAttempt :=
        some (beginJump (tracker.previousDuckAnchorCell.getD frame.duckAnchorCell) frame) }
  else if !tracker.previousDuckOnGround && !frame.duckOnGround && tracker.jumpAttempt.isSome then
    { tracker with
      jumpAttempt := tracker.jumpAttempt.map fun jumpAttempt => continueJump jumpAttempt frame }
  else if !tracker.previousDuckOnGround && frame.duckOnGround then
    { tracker with
      jumpAttempt := tracker.jumpAttempt.map fun jumpAttempt => continueJump jumpAttempt frame
      }.finalizeJumpAttempt frame.duckAnchorCell
  else tracker

def updateGroundContact (tracker : DuckClockEvaluationTracker K) (frame : DuckClockTrackerFrame) :
    DuckClockEvaluationTracker K :=
  let jumped := if !tracker.previousDuckOnGroundKnown then tracker else tracker.updateJump frame
  { jumped with
    previousDuckAnchorCell := some frame.duckAnchorCell
    previousDuckOnGround := frame.duckOnGround
    previousDuckOnGroundKnown := true }

end

section

/-! ## Traversals -/

variable [Field K] [LinearOrder K]

/-- A wall that is touched. It ends a lap when the opposite wall has been touched before it. -/
def touchWall (tracker : DuckClockEvaluationTracker K) (wallZone opposite : WallZone) :
    DuckClockEvaluationTracker K :=
  let lapped :=
    if tracker.lastTouchedWallZone = opposite then
      { tracker with
        artifacts :=
          { tracker.artifacts with fullTraversals := tracker.artifacts.fullTraversals + 1 }
        activeClearedObstacles := []
        activeOpportunityObstacles := []
        currentTraversalProgress := 0 }
    else tracker
  { lapped with lastTouchedWallZone := wallZone }

def updateTraversalState (tracker : DuckClockEvaluationTracker K)
    (frame : DuckClockTrackerFrame) : DuckClockEvaluationTracker K :=
  let wallZone := resolveWallZone frame.duckAnchorCell.x frame.worldWidth
  if wallZone = tracker.currentWallZone then tracker
  else
    let entered := { tracker with currentWallZone := wallZone }
    match wallZone with
    | .left =>
        { entered with
          artifacts :=
            { entered.artifacts with leftWallTouches := entered.artifacts.leftWallTouches + 1 }
          }.touchWall .left .right
    | .right =>
        { entered with
          artifacts :=
            { entered.artifacts with rightWallTouches := entered.artifacts.rightWallTouches + 1 }
          }.touchWall .right .left
    | .none => entered

def updateTraversalProgress (tracker : DuckClockEvaluationTracker K)
    (frame : DuckClockTrackerFrame) : DuckClockEvaluationTracker K :=
  let progress := max tracker.currentTraversalProgress
    (resolveTraversalProgress frame.duckAnchorCell.x frame.worldWidth tracker.lastTouchedWallZone)
  { tracker with
    currentTraversalProgress := progress
    artifacts :=
      { tracker.artifacts with
        traversalProgress := (tracker.artifacts.fullTraversals : K) + progress } }

def update (tracker : DuckClockEvaluationTracker K) (frame : DuckClockTrackerFrame) :
    DuckClockEvaluationTracker K :=
  (((tracker.updateTraversalState frame).updateTraversalProgress frame).updateObstacleOpportunities
    frame).updateGroundContact frame

def reset : DuckClockEvaluationTracker K where
  artifacts := ⟨0, 0, 0, 0, 0, 0, 0, 0⟩
  activeClearedObstacles := []
  activeOpportunityObstacles := []
  currentTraversalProgress := 0
  currentWallZone := .none
  jumpAttempt := none
  lastTouchedWallZone := .none
  previousDuckAnchorCell := none
  previousDuckOnGround := false
  previousDuckOnGroundKnown := false

def track (frames : List DuckClockTrackerFrame) : DuckClockEvaluationTracker K :=
  frames.foldl update reset

end

end DuckClockEvaluationTracker

end DirtSim
