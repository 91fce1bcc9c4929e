import DirtSim.Nes.Evaluator

/-! # The adapter between the game and its player

Until gameplay is seen the adapter plays a script that presses start; afterwards the player's own
buttons reach the console. Past the end of the script it reads the game as the search does
(`evaluateFrame_playing`).
-/

namespace DirtSim

namespace NesPolicyLayout

def buttonA : UInt8 := 1
def buttonB : UInt8 := 2
def buttonSelect : UInt8 := 4
def buttonStart : UInt8 := 8
def buttonUp : UInt8 := 16
def buttonDown : UInt8 := 32
def buttonLeft : UInt8 := 64
def buttonRight : UInt8 := 128

end NesPolicyLayout

def kSetupFailureFrame : ℕ := 500

def kSetupScriptEndFrame : ℕ := 300

def kStartPressFirstFrame : ℕ := 120

structure NesSuperMarioBrosSetupDecision where
  controllerMask : UInt8
  gameplayDetected : Bool
  pressedStart : Bool
  usingSetupScript : Bool
  frameIndex : ℕ

def getNesSuperMarioBrosScriptedSetupMaskForFrame (frameIndex : ℕ) : UInt8 :=
  if frameIndex = kStartPressFirstFrame then NesPolicyLayout.buttonStart else 0

def resolveNesSuperMarioBrosSetupDecision (frameIndex : ℕ) (lastGameState : Option UInt8)
    (inferredControllerMask : UInt8) : NesSuperMarioBrosSetupDecision :=
  if lastGameState.getD 0 = 1 then
    { controllerMask := inferredControllerMask
      gameplayDetected := true
      pressedStart := false
      usingSetupScript := false
      frameIndex := frameIndex }
  else
    let controllerMask := getNesSuperMarioBrosScriptedSetupMaskForFrame frameIndex
    { controllerMask := controllerMask
      gameplayDetected := false
      pressedStart := controllerMask = NesPolicyLayout.buttonStart
      usingSetupScript := true
      frameIndex := frameIndex }

inductive NesGameAdapterControllerSource
  | inferredPolicy | scriptedSetup | liveInput
deriving DecidableEq, Repr

structure NesGameAdapterControllerOutput where
  resolvedControllerMask : UInt8
  source : NesGameAdapterControllerSource
  sourceFrameIndex : Option ℕ

/-- What is read of a frame's evaluation; without a snapshot nothing is known. -/
structure NesGameAdapterFrameOutput where
  done : Bool := false
  fitnessDetails : Option NesSuperMarioBrosFitnessSnapshot := none
  gameState : Option UInt8 := none

structure NesSuperMarioBrosGameAdapter where
  evaluator : NesSuperMarioBrosEvaluator := {}
  advancedFrameCount : ℕ := 0

namespace NesSuperMarioBrosGameAdapter

def resolveControllerMask (adapter : NesSuperMarioBrosGameAdapter)
    (inferredControllerMask : UInt8) (lastGameState : Option UInt8) :
    NesGameAdapterControllerOutput :=
  let decision := resolveNesSuperMarioBrosSetupDecision adapter.advancedFrameCount lastGameState
    inferredControllerMask
  { resolvedControllerMask := decision.controllerMask
    source := if decision.usingSetupScript then .scriptedSetup else .inferredPolicy
    sourceFrameIndex := if decision.usingSetupScript then some decision.frameIndex else none }

def evaluateFrame (adapter : NesSuperMarioBrosGameAdapter) (advancedFrames : ℕ)
    (memorySnapshot : Option MemorySnapshot) :
    NesSuperMarioBrosGameAdapter × NesGameAdapterFrameOutput :=
  let counted := { adapter with advancedFrameCount := adapter.advancedFrameCount + advancedFrames }
  match memorySnapshot with
  | none => (counted, {})
  | some snapshot =>
      let state := RamExtractor.extract snapshot (counted.advancedFrameCount ≥ kSetupScriptEndFrame)
      let gameState := if state.phase = .gameplay then some 1 else some 0
      if state.phase ≠ .gameplay ∧ counted.advancedFrameCount ≥ kSetupFailureFrame then
        (counted, { done := true, gameState := gameState })
      else
        let evaluation := counted.evaluator.evaluate ⟨advancedFrames, state⟩
        ({ counted with evaluator := evaluation.1 },
          { done := evaluation.2.done
            fitnessDetails := some evaluation.2
            gameState := gameState })

section

variable (adapter : NesSuperMarioBrosGameAdapter)

theorem source_resolveControllerMask (mask : UInt8) (lastGameState : Option UInt8) :
    (adapter.resolveControllerMask mask lastGameState).source ≠ .scriptedSetup ↔
      lastGameState = some 1 := by
  cases lastGameState with
  | none => exact ⟨fun scripted => absurd rfl scripted, fun plays => absurd plays nofun⟩
  | some gameState =>
      simp only [resolveControllerMask, resolveNesSuperMarioBrosSetupDecision, Option.getD_some,
        Option.some.injEq]
      by_cases plays : gameState = 1
      · simp only [plays, ↓reduceIte, Bool.false_eq_true]
        exact ⟨fun _ => trivial, fun _ => NesGameAdapterControllerSource.noConfusion⟩
      · simp [plays]

theorem advancedFrameCount_evaluateFrame (advancedFrames : ℕ)
    (memorySnapshot : Option MemorySnapshot) :
    (adapter.evaluateFrame advancedFrames memorySnapshot).1.advancedFrameCount =
      adapter.advancedFrameCount + advancedFrames := by
  unfold evaluateFrame
  cases memorySnapshot with
  | none => rfl
  | some snapshot =>
      dsimp only
      split <;> rfl

theorem evaluateFrame_playing {advancedFrames : ℕ} {snapshot : MemorySnapshot}
    (ended : kSetupScriptEndFrame ≤ adapter.advancedFrameCount + advancedFrames)
    (plays : (RamExtractor.extract snapshot true).phase = .gameplay) :
    adapter.evaluateFrame advancedFrames (some snapshot) =
      (let evaluation := adapter.evaluator.evaluate
        ⟨advancedFrames, RamExtractor.extract snapshot true⟩
      ({ evaluator := evaluation.1
         advancedFrameCount := adapter.advancedFrameCount + advancedFrames },
        { done := evaluation.2.done
          fitnessDetails := some evaluation.2
          gameState := some 1 })) := by
  unfold evaluateFrame
  have complete := decide_eq_true ended
  dsimp only
  rw [complete, if_neg fun failed => failed.1 plays, if_pos plays]

theorem gameState_evaluateFrame (advancedFrames : ℕ) (snapshot : MemorySnapshot) :
    (adapter.evaluateFrame advancedFrames (some snapshot)).2.gameState =
      if (RamExtractor.extract snapshot (decide (adapter.advancedFrameCount + advancedFrames ≥
        kSetupScriptEndFrame))).phase = .gameplay then some 1 else some 0 := by
  unfold evaluateFrame
  dsimp only
  split
  case isTrue => rfl
  case isFalse => split <;> rfl

theorem of_gameState_evaluateFrame {advancedFrames : ℕ} {memorySnapshot : Option MemorySnapshot}
    (plays : (adapter.evaluateFrame advancedFrames memorySnapshot).2.gameState = some 1) :
    kSetupScriptEndFrame ≤ adapter.advancedFrameCount + advancedFrames ∧
      ∃ snapshot, memorySnapshot = some snapshot ∧
        (RamExtractor.extract snapshot true).phase = .gameplay := by
  cases memorySnapshot with
  | none => exact absurd plays nofun
  | some snapshot =>
      rw [gameState_evaluateFrame] at plays
      split at plays
      case isFalse => exact absurd (Option.some.inj plays) (by decide)
      case isTrue shown =>
        by_cases ended : kSetupScriptEndFrame ≤ adapter.advancedFrameCount + advancedFrames
        · rw [decide_eq_true ended] at shown
          exact ⟨ended, snapshot, rfl, shown⟩
        · rw [decide_eq_false ended] at shown
          exact absurd shown nofun

end

end NesSuperMarioBrosGameAdapter

end DirtSim
