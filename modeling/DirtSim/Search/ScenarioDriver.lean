import DirtSim.Search.PlanExecution

/-! # The driver between a player and the console

The driver asks the runtime for one frame at a time and reports what the runtime shows then. It
keeps to the length of an episode: once as many frames are rendered as the configuration allows, a
step runs nothing and reports a healthy runtime that has advanced no frame.
-/

namespace DirtSim

/-- What the runtime shows of its latest frame. -/
structure LiveSnapshot where
  frameId : ℕ
  videoFrame : ScenarioVideoFrame
  memorySnapshot : MemorySnapshot

/-- The emulation behind the driver. Running a frame latches a mask and may fail. -/
structure SmolnesRuntime (R : Type) where
  started : R
  isHealthy : R → Bool
  isRunning : R → Bool
  getLastError : R → String
  getRenderedFrameCount : R → ℕ
  runFrame : R → UInt8 → R × Bool
  stop : R → R
  copyLiveSnapshot : R → Option LiveSnapshot
  copyLatestFrame : R → Option ScenarioVideoFrame

namespace SmolnesRuntime

variable {R : Type}

/-- The states that running frames leads to. -/
inductive Reached (runtime : SmolnesRuntime R) : R → Prop
  | started : Reached runtime runtime.started
  | ran {state : R} (reached : Reached runtime state) (buttonMask : UInt8) :
      Reached runtime (runtime.runFrame state buttonMask).1

/-- A runtime that stays healthy, renders one frame whenever it is asked to, and shows it. -/
structure Steady (runtime : SmolnesRuntime R) : Prop where
  starts : runtime.getRenderedFrameCount runtime.started = 0
  healthy : ∀ state, runtime.Reached state → runtime.isHealthy state = true
  running : ∀ state, runtime.Reached state → runtime.isRunning state = true
  runs : ∀ state buttonMask, runtime.Reached state →
    (runtime.runFrame state buttonMask).2 = true
  renders : ∀ state buttonMask, runtime.Reached state →
    runtime.getRenderedFrameCount (runtime.runFrame state buttonMask).1 =
      runtime.getRenderedFrameCount state + 1
  shows : ∀ state buttonMask, runtime.Reached state →
    ∃ live, runtime.copyLiveSnapshot (runtime.runFrame state buttonMask).1 = some live ∧
      live.frameId ≤ runtime.getRenderedFrameCount (runtime.runFrame state buttonMask).1

end SmolnesRuntime

namespace NesSmolnesScenarioDriver

variable {R : Type} (runtime : SmolnesRuntime R)

def idleResult (state : R) (runtimeHealthy runtimeRunning : Bool) : StepResult where
  advancedFrames := 0
  runtimeHealthy := runtimeHealthy
  runtimeRunning := runtimeRunning
  memorySnapshot := none
  scenarioVideoFrame := none
  lastError := runtime.getLastError state

/-- The frames that were advanced; the runtime may have rendered more until it is shown. -/
def countAdvancedFrames (renderedFramesBefore renderedFramesAfter : ℕ)
    (liveSnapshot : Option LiveSnapshot) : ℕ :=
  match liveSnapshot with
  | none => renderedFramesAfter - renderedFramesBefore
  | some live =>
      if live.frameId > renderedFramesAfter then live.frameId - renderedFramesBefore
      else renderedFramesAfter - renderedFramesBefore

def ranResult (renderedFramesBefore : ℕ) (state : R) : StepResult :=
  let renderedFramesAfter := runtime.getRenderedFrameCount state
  let liveSnapshot :=
    if renderedFramesAfter > renderedFramesBefore then runtime.copyLiveSnapshot state else none
  { advancedFrames := countAdvancedFrames renderedFramesBefore renderedFramesAfter liveSnapshot
    runtimeHealthy := runtime.isHealthy state
    runtimeRunning := runtime.isRunning state
    memorySnapshot := liveSnapshot.map LiveSnapshot.memorySnapshot
    scenarioVideoFrame := liveSnapshot.map LiveSnapshot.videoFrame
    lastError := runtime.getLastError state }

def step (maxEpisodeFrames : UInt32) (state : R) (buttonMask : UInt8) : R × StepResult :=
  if runtime.isRunning state = false then
    (state, idleResult runtime state (runtime.isHealthy state) false)
  else if runtime.isHealthy state = false then
    (runtime.stop state, idleResult runtime state false false)
  else if runtime.getRenderedFrameCount state ≥ maxEpisodeFrames.toNat then
    (state, idleResult runtime state true true)
  else
    let ran := runtime.runFrame state buttonMask
    if ran.2 = false then (runtime.stop ran.1, idleResult runtime ran.1 false false)
    else (ran.1, ranResult runtime (runtime.getRenderedFrameCount state) ran.1)

def emulator (maxEpisodeFrames : UInt32) : Emulator R where
  powerOn := runtime.started
  step := step runtime maxEpisodeFrames
  frameSnapshot state :=
    if runtime.isRunning state && runtime.isHealthy state then runtime.copyLatestFrame state
    else none

section

variable {runtime} {maxEpisodeFrames : UInt32} {state : R}

theorem step_within (steady : runtime.Steady) (reached : runtime.Reached state)
    (within : runtime.getRenderedFrameCount state < maxEpisodeFrames.toNat)
    (buttonMask : UInt8) :
    ∃ live, runtime.copyLiveSnapshot (runtime.runFrame state buttonMask).1 = some live ∧
      step runtime maxEpisodeFrames state buttonMask =
        ((runtime.runFrame state buttonMask).1,
          { advancedFrames := 1
            runtimeHealthy := true
            runtimeRunning := true
            memorySnapshot := some live.memorySnapshot
            scenarioVideoFrame := some live.videoFrame
            lastError := runtime.getLastError (runtime.runFrame state buttonMask).1 }) := by
  obtain ⟨live, shown, current⟩ := steady.shows state buttonMask reached
  refine ⟨live, shown, ?_⟩
  have after := reached.ran buttonMask
  have rendered := steady.renders state buttonMask reached
  have advanced : countAdvancedFrames (runtime.getRenderedFrameCount state)
      (runtime.getRenderedFrameCount (runtime.runFrame state buttonMask).1) (some live) = 1 := by
    rw [rendered] at current
    simp only [countAdvancedFrames, rendered, if_neg (Nat.not_lt.mpr current)]
    exact Nat.add_sub_cancel_left _ _
  have later : runtime.getRenderedFrameCount (runtime.runFrame state buttonMask).1 >
      runtime.getRenderedFrameCount state := by omega
  simp [step, steady.running state reached, steady.healthy state reached,
    steady.runs state buttonMask reached, if_neg (Nat.not_le.mpr within), ranResult, if_pos later,
    shown, advanced, steady.healthy _ after, steady.running _ after]

theorem step_beyond (steady : runtime.Steady) (reached : runtime.Reached state)
    (beyond : maxEpisodeFrames.toNat ≤ runtime.getRenderedFrameCount state)
    (buttonMask : UInt8) :
    step runtime maxEpisodeFrames state buttonMask =
      (state, idleResult runtime state true true) := by
  simp [step, steady.running state reached, steady.healthy state reached, if_pos beyond]

end

end NesSmolnesScenarioDriver

end DirtSim
