import DirtSim.Nes.GameAdapter
import DirtSim.Search.SmbDfsSearch

/-! # From power-on to a search, and playing a plan

The emulator is any deterministic step function, and its savestates are its states. A search first
plays from power-on to a frame of gameplay, its root. A plan is played from power-on through the
same adapter, but there an evaluation that ends the episode ends the playing.
-/

namespace DirtSim

/-- The buttons a control frame stands for; of opposite directions the negative one. -/
def playerControlFrameToNesMask (frame : PlayerControlFrame) : UInt8 :=
  (if frame.buttons &&& 1 ≠ 0 then NesPolicyLayout.buttonA else 0) |||
    (if frame.buttons &&& 2 ≠ 0 then NesPolicyLayout.buttonB else 0) |||
    (if frame.buttons &&& 16 ≠ 0 then NesPolicyLayout.buttonSelect else 0) |||
    (if frame.buttons &&& 32 ≠ 0 then NesPolicyLayout.buttonStart else 0) |||
    (if frame.xAxis ≤ -64 then NesPolicyLayout.buttonLeft
      else if frame.xAxis ≥ 64 then NesPolicyLayout.buttonRight else 0) |||
    (if frame.yAxis ≤ -64 then NesPolicyLayout.buttonUp
      else if frame.yAxis ≥ 64 then NesPolicyLayout.buttonDown else 0)

/-! ## The emulator -/

structure Emulator (S : Type) where
  powerOn : S
  step : S → UInt8 → S × StepResult
  frameSnapshot : S → Option ScenarioVideoFrame

/-- A state with what it was reached by: every mask fed and the state reached then. -/
structure Recorded (S : Type) where
  state : S
  fed : List (UInt8 × S)

namespace Emulator

variable {S : Type}

def recorded (emulator : Emulator S) : Emulator (Recorded S) where
  powerOn := ⟨emulator.powerOn, []⟩
  step before mask :=
    let stepped := emulator.step before.state mask
    (⟨stepped.1, before.fed ++ [(mask, stepped.1)]⟩, stepped.2)
  frameSnapshot before := emulator.frameSnapshot before.state

/-- What a search meets: it loads a savestate, plays an action and captures what is reached. A
savestate that was released cannot be loaded. -/
def driver (emulator : Emulator S) : Driver S := fun savestate action =>
  match savestate with
  | none =>
      { loaded := false
        runtimeLastError := ""
        stepResult := ⟨0, true, true, none, none, ""⟩
        savestate := none
        frameSnapshot := none }
  | some state =>
      let stepped := emulator.step state
        (playerControlFrameToNesMask (smbSearchLegalActionToPlayerControlFrame action))
      { loaded := true
        runtimeLastError := ""
        stepResult := stepped.2
        savestate := some stepped.1
        frameSnapshot := emulator.frameSnapshot stepped.1 }

end Emulator

variable {S : Type}

/-- One frame of a player: the adapter resolves the mask, the emulator takes it, and the adapter
evaluates what comes of it. -/
structure PlayedFrame (S : Type) where
  controllerOutput : NesGameAdapterControllerOutput
  driver : S
  stepResult : StepResult
  gameAdapter : NesSuperMarioBrosGameAdapter
  evaluation : NesGameAdapterFrameOutput
  lastGameState : Option UInt8

def playFrame (emulator : Emulator S) (driver : S) (gameAdapter : NesSuperMarioBrosGameAdapter)
    (lastGameState : Option UInt8) (frame : PlayerControlFrame) : PlayedFrame S :=
  let controllerOutput :=
    gameAdapter.resolveControllerMask (playerControlFrameToNesMask frame) lastGameState
  let stepped := emulator.step driver controllerOutput.resolvedControllerMask
  let evaluated := gameAdapter.evaluateFrame stepped.2.advancedFrames stepped.2.memorySnapshot
  { controllerOutput := controllerOutput
    driver := stepped.1
    stepResult := stepped.2
    gameAdapter := evaluated.1
    evaluation := evaluated.2
    lastGameState := evaluated.2.gameState.or lastGameState }

namespace PlayedFrame

def isSmbGameplayFrame (played : PlayedFrame S) : Bool :=
  played.lastGameState.getD 0 = 1 ∧ played.controllerOutput.source ≠ .scriptedSetup

def stopped (played : PlayedFrame S) : Bool :=
  !played.stepResult.runtimeHealthy || !played.stepResult.runtimeRunning

end PlayedFrame

/-! ## The root of a search -/

def setupFrame : PlayerControlFrame := smbSearchLegalActionToPlayerControlFrame .rightRun

structure RootCapture (S : Type) where
  driver : S
  gameAdapter : NesSuperMarioBrosGameAdapter := {}
  lastGameState : Option UInt8 := none
  capturedPrefixFrames : List PlayerControlFrame := []

/-- A turn of the loop fails, goes on, or has the root. -/
inductive CaptureTurn (S : Type)
  | failed (message : String)
  | passed (next : RootCapture S)
  | captured (root : SmbDfsSearch.Root S)

namespace RootCapture

def play (emulator : Emulator S) (capture : RootCapture S) : PlayedFrame S :=
  playFrame emulator capture.driver capture.gameAdapter capture.lastGameState setupFrame

/-- What is known of a frame without a fitness snapshot. -/
def buildSummary (fitnessDetails : Option NesSuperMarioBrosFitnessSnapshot)
    (gameState : Option UInt8) : SmbSearchEvaluatorSummary :=
  match fitnessDetails with
  | some snapshot => buildSmbSearchEvaluatorSummary snapshot gameState
  | none =>
      { bestFrontier := 0
        gameplayFrames := 0
        gameplayFramesSinceProgress := 0
        distanceRewardTotal := 0
        endReason := .none
        evaluationScore := 0
        levelClearRewardTotal := 0
        gameState := gameState
        terminal := false }

def rootOf (planId : UUID) (capture : RootCapture S) (played : PlayedFrame S) : SmbDfsSearch.Root S where
  planId := planId
  rootPrefixFrames := capture.capturedPrefixFrames ++ [setupFrame]
  savestate := played.driver
  evaluatorSummary := buildSummary played.evaluation.fitnessDetails played.lastGameState
  memorySnapshot := played.stepResult.memorySnapshot
  scenarioVideoFrame := played.stepResult.scenarioVideoFrame

def turn (emulator : Emulator S) (planId : UUID) (capture : RootCapture S) : CaptureTurn S :=
  let played := capture.play emulator
  if played.stopped then
    .failed (if played.stepResult.lastError.isEmpty then
      "NES runtime stopped during DFS root capture" else played.stepResult.lastError)
  else if played.stepResult.advancedFrames = 0 then .passed { capture with driver := played.driver }
  else if !played.isSmbGameplayFrame then
    .passed { capture with
      driver := played.driver
      gameAdapter := played.gameAdapter
      lastGameState := played.lastGameState }
  else .captured (capture.rootOf planId played)

def captureRoot (emulator : Emulator S) (planId : UUID) :
    ℕ → RootCapture S → Except String (SmbDfsSearch.Root S)
  | 0, _ => .error "Timed out while preparing SMB DFS root"
  | turns + 1, capture =>
      match capture.turn emulator planId with
      | .failed message => .error message
      | .passed next => captureRoot emulator planId turns next
      | .captured root => .ok root

def captureTurns : ℕ := 2000

def rootFrom (emulator : Emulator S) (planId : UUID) : Except String (SmbDfsSearch.Root S) :=
  captureRoot emulator planId captureTurns { driver := emulator.powerOn }

end RootCapture

def SmbDfsSearch.startDfs (emulator : Emulator S) (options : SmbDfsSearchOptions)
    (planId : UUID) : Except String (SmbDfsSearch S) :=
  (RootCapture.rootFrom emulator planId).map (SmbDfsSearch.start options)

/-! ## Playing a plan -/

inductive SmbPlanExecutionCompletionReason
  | completed | stopped | error
deriving DecidableEq, Repr

structure SmbPlanExecutionTickResult where
  completed : Bool := false
  frameAdvanced : Bool := false
  error : Option String := none

inductive SmbPlanExecutionMode
  | holdRightSearch | planPlayback
deriving DecidableEq, Repr

structure SmbPlanExecution (S : Type) where
  mode : SmbPlanExecutionMode
  plan : Plan
  driver : S
  gameAdapter : NesSuperMarioBrosGameAdapter := {}
  worldData : WorldData := {}
  scenarioVideoFrame : Option ScenarioVideoFrame := none
  lastGameState : Option UInt8 := none
  progress : SearchProgress := {}
  playbackFrameIndex : ℕ := 0
  completed : Bool := false
  paused : Bool := false
  completionReason : Option SmbPlanExecutionCompletionReason := none
  completionErrorMessage : Option String := none

namespace SmbPlanExecution

def startHoldRight (emulator : Emulator S) (planId : UUID) : SmbPlanExecution S where
  mode := .holdRightSearch
  plan := { summary := { id := planId } }
  driver := emulator.powerOn

def startPlayback (emulator : Emulator S) (plan : Plan) : SmbPlanExecution S where
  mode := .planPlayback
  plan := plan
  driver := emulator.powerOn

def encodeFrontier (snapshot : NesSuperMarioBrosFitnessSnapshot) : ℕ :=
  encodeSmbFrontier snapshot.bestStageIndex snapshot.bestAbsoluteX

def holdRightFrame : PlayerControlFrame := ⟨127, 0, 0⟩

def complete (execution : SmbPlanExecution S) : SmbPlanExecution S :=
  { execution with completed := true, completionReason := some .completed }

def completeWithError (execution : SmbPlanExecution S) (message : String) : SmbPlanExecution S :=
  { execution with
    completed := true
    completionReason := some .error
    completionErrorMessage := some message }

def showFrame (execution : SmbPlanExecution S) (frame : Option ScenarioVideoFrame) :
    SmbPlanExecution S :=
  match frame with
  | none => execution
  | some shown =>
      { execution with
        scenarioVideoFrame := some shown
        worldData := { execution.worldData with width := shown.width, height := shown.height } }

def updateProgress (execution : SmbPlanExecution S)
    (fitnessDetails : Option NesSuperMarioBrosFitnessSnapshot) : SmbPlanExecution S :=
  match fitnessDetails with
  | none => { execution with progress := { execution.progress with paused := execution.paused } }
  | some snapshot =>
      { execution with
        progress := { execution.progress with
          paused := execution.paused
          bestFrontier := encodeFrontier snapshot
          currentGameplayFrame := snapshot.gameplayFrames
          lastSearchEvent := .expandedAlive }
        plan :=
          match execution.mode with
          | .planPlayback => execution.plan
          | .holdRightSearch =>
              { execution.plan with
                summary := { execution.plan.summary with
                  bestFrontier := encodeFrontier snapshot
                  elapsedFrames := snapshot.gameplayFrames } } }

def playerFrame (execution : SmbPlanExecution S) : Option PlayerControlFrame :=
  match execution.mode with
  | .planPlayback => execution.plan.frames[execution.playbackFrameIndex]?
  | .holdRightSearch => some holdRightFrame

/-- A frame of gameplay is consumed, or appended to the plan. -/
def takeFrame (execution : SmbPlanExecution S) (frame : PlayerControlFrame) :
    SmbPlanExecution S :=
  match execution.mode with
  | .holdRightSearch =>
      { execution with
        plan := { execution.plan with frames := execution.plan.frames ++ [frame] } }
  | .planPlayback =>
      if execution.playbackFrameIndex < execution.plan.frames.length then
        { execution with playbackFrameIndex := execution.playbackFrameIndex + 1 }
      else execution

def playedOut (execution : SmbPlanExecution S) : Bool :=
  execution.mode = .planPlayback ∧ execution.playbackFrameIndex ≥ execution.plan.frames.length

def settleFrame (execution : SmbPlanExecution S) (frame : PlayerControlFrame)
    (played : PlayedFrame S) : SmbPlanExecution S :=
  let noted := { execution with
    gameAdapter := played.gameAdapter
    lastGameState := played.lastGameState
    worldData := { execution.worldData with
      timestep := execution.worldData.timestep + played.stepResult.advancedFrames } }
  let reported := noted.updateProgress played.evaluation.fitnessDetails
  let taken := if played.isSmbGameplayFrame then reported.takeFrame frame else reported
  if played.evaluation.done || taken.playedOut then taken.complete else taken

def tick (emulator : Emulator S) (execution : SmbPlanExecution S) :
    SmbPlanExecution S × SmbPlanExecutionTickResult :=
  if execution.completed then (execution, { completed := true })
  else if execution.paused then (execution, {})
  else match execution.playerFrame with
    | none => (execution.complete, { completed := true })
    | some frame =>
        let played := playFrame emulator execution.driver execution.gameAdapter
          execution.lastGameState frame
        let stepped := { execution with driver := played.driver }.showFrame
          played.stepResult.scenarioVideoFrame
        if played.stopped then
          let failed := stepped.completeWithError (if played.stepResult.lastError.isEmpty then
            "NES runtime stopped" else played.stepResult.lastError)
          (failed, { completed := true, error := failed.completionErrorMessage })
        else if played.stepResult.advancedFrames = 0 then (stepped, {})
        else
          let settled := stepped.settleFrame frame played
          (settled, { completed := settled.completed, frameAdvanced := true })

def pauseSet (execution : SmbPlanExecution S) (paused : Bool) : SmbPlanExecution S :=
  { execution with paused := paused, progress := { execution.progress with paused := paused } }

def stop (execution : SmbPlanExecution S) : SmbPlanExecution S :=
  { execution with
    completed := true, completionReason := some .stopped, completionErrorMessage := none }

/-- Ticks lead from one state to another in which the execution is completed. -/
inductive Ends (emulator : Emulator S) : SmbPlanExecution S → SmbPlanExecution S → Prop
  | here {execution : SmbPlanExecution S} (completed : execution.completed = true) :
      Ends emulator execution execution
  | tick {execution final : SmbPlanExecution S} (running : execution.completed = false)
      (rest : Ends emulator (execution.tick emulator).1 final) : Ends emulator execution final

theorem Ends.unique {emulator : Emulator S} {execution first second : SmbPlanExecution S}
    (one : Ends emulator execution first) (other : Ends emulator execution second) :
    first = second := by
  induction one with
  | here completed =>
      cases other with
      | here => rfl
      | tick running => exact absurd (completed.symm.trans running) (by decide)
  | tick running _ ih =>
      cases other with
      | here completed => exact absurd (completed.symm.trans running) (by decide)
      | tick _ rest => exact ih rest

end SmbPlanExecution

end DirtSim
