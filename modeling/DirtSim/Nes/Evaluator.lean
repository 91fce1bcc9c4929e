import DirtSim.Nes.RamExtractor

/-! # Rewarding progress

The evaluator follows a game frame by frame. It remembers the furthest stage and position
reached, rewards going further, and ends an episode on a lost life, on falling below the screen
or after too long without progress.
-/

namespace DirtSim

inductive SmbEpisodeEndReason
  | none | lifeLost | noProgressTimeout | fellBelowScreen
deriving DecidableEq, Repr

/-- The part of the evaluator's report that the search reads. -/
structure NesSuperMarioBrosFitnessSnapshot where
  totalReward : ℚ
  distanceRewardTotal : ℚ
  levelClearRewardTotal : ℚ
  gameplayFrames : ℕ
  framesSinceProgress : ℕ
  bestStageIndex : ℕ
  bestAbsoluteX : UInt16
  endReason : SmbEpisodeEndReason
  done : Bool

structure NesSuperMarioBrosEvaluatorInput where
  advancedFrames : ℕ
  state : NesSuperMarioBrosState

structure NesSuperMarioBrosEvaluator where
  hasBestProgress : Bool := false
  hasLastLives : Bool := false
  gameplayFrameCount : ℕ := 0
  lastProgressFrame : ℕ := 0
  bestStageIndex : ℕ := 0
  bestAbsoluteX : UInt16 := 0
  lastLives : UInt8 := 0
  distanceRewardTotal : ℚ := 0
  levelClearRewardTotal : ℚ := 0

namespace NesSuperMarioBrosEvaluator

def kLevelsPerWorld : ℕ := 4

def kBelowScreenTerminalPlayerYScreenThreshold : UInt8 := 224

def kDistanceReward : ℚ := 1 / 2

def kLevelClearReward : ℚ := 1000

def kNoProgressTimeoutFrames : ℕ := 1800

def getStageIndex (state : NesSuperMarioBrosState) : ℕ :=
  state.world.toNat * kLevelsPerWorld + state.level.toNat

def makeSnapshot (evaluator : NesSuperMarioBrosEvaluator) (endReason : SmbEpisodeEndReason)
    (done : Bool) : NesSuperMarioBrosFitnessSnapshot where
  totalReward := evaluator.distanceRewardTotal + evaluator.levelClearRewardTotal
  distanceRewardTotal := evaluator.distanceRewardTotal
  levelClearRewardTotal := evaluator.levelClearRewardTotal
  gameplayFrames := evaluator.gameplayFrameCount
  framesSinceProgress := evaluator.gameplayFrameCount - evaluator.lastProgressFrame
  bestStageIndex := evaluator.bestStageIndex
  bestAbsoluteX := evaluator.bestAbsoluteX
  endReason := endReason
  done := done

/-- An evaluator that continues from recorded progress; the lives are not recorded. -/
def restoreProgress (bestStageIndex : ℕ) (bestAbsoluteX : UInt16)
    (distanceRewardTotal levelClearRewardTotal : ℚ)
    (gameplayFrames gameplayFramesSinceProgress : ℕ) : NesSuperMarioBrosEvaluator where
  hasBestProgress := true
  gameplayFrameCount := gameplayFrames
  lastProgressFrame := gameplayFrames - gameplayFramesSinceProgress
  bestStageIndex := bestStageIndex
  bestAbsoluteX := bestAbsoluteX
  distanceRewardTotal := distanceRewardTotal
  levelClearRewardTotal := levelClearRewardTotal

/-- Counts the frames; the first frame starts the record of progress. -/
def countFrames (evaluator : NesSuperMarioBrosEvaluator)
    (input : NesSuperMarioBrosEvaluatorInput) : NesSuperMarioBrosEvaluator :=
  let counted := { evaluator with
    gameplayFrameCount := evaluator.gameplayFrameCount + input.advancedFrames }
  if counted.hasBestProgress then counted
  else { counted with
    hasBestProgress := true
    bestStageIndex := getStageIndex input.state
    bestAbsoluteX := input.state.absoluteX
    lastProgressFrame := counted.gameplayFrameCount }

/-- A new stage is rewarded and its positions count from its start. -/
def clearLevels (evaluator : NesSuperMarioBrosEvaluator) (state : NesSuperMarioBrosState) :
    NesSuperMarioBrosEvaluator :=
  if getStageIndex state > evaluator.bestStageIndex then
    { evaluator with
      levelClearRewardTotal := evaluator.levelClearRewardTotal +
        kLevelClearReward * ((getStageIndex state - evaluator.bestStageIndex : ℕ) : ℚ)
      bestStageIndex := getStageIndex state
      bestAbsoluteX := 0
      lastProgressFrame := evaluator.gameplayFrameCount }
  else evaluator

/-- A new furthest position in the furthest stage is rewarded. -/
def coverDistance (evaluator : NesSuperMarioBrosEvaluator) (state : NesSuperMarioBrosState) :
    NesSuperMarioBrosEvaluator :=
  if getStageIndex state = evaluator.bestStageIndex ∧ state.absoluteX > evaluator.bestAbsoluteX then
    { evaluator with
      distanceRewardTotal := evaluator.distanceRewardTotal +
        kDistanceReward * ((state.absoluteX.toNat - evaluator.bestAbsoluteX.toNat : ℕ) : ℚ)
      bestAbsoluteX := state.absoluteX
      lastProgressFrame := evaluator.gameplayFrameCount }
  else evaluator

/-- Why an episode ends on a frame in which the player lives. -/
def endReasonAlive (evaluator : NesSuperMarioBrosEvaluator) (state : NesSuperMarioBrosState) :
    SmbEpisodeEndReason :=
  if state.playerYScreen ≥ kBelowScreenTerminalPlayerYScreenThreshold then .fellBelowScreen
  else if evaluator.gameplayFrameCount - evaluator.lastProgressFrame ≥ kNoProgressTimeoutFrames then
    .noProgressTimeout
  else .none

/-- Evaluates one step. The rewards of the step alone are left out: the search reads totals. -/
def evaluate (evaluator : NesSuperMarioBrosEvaluator) (input : NesSuperMarioBrosEvaluatorInput) :
    NesSuperMarioBrosEvaluator × NesSuperMarioBrosFitnessSnapshot :=
  let state := input.state
  let concreteTerminalCandidate := evaluator.hasBestProgress ∧
    (state.gameMode = .endGame ∨ state.lifeState ≠ .alive)
  if state.phase ≠ .gameplay ∧ ¬ concreteTerminalCandidate then
    (evaluator, evaluator.makeSnapshot .none false)
  else
    let counted := evaluator.countFrames input
    let lived := { counted with hasLastLives := true, lastLives := state.lives }
    if counted.hasLastLives ∧ state.lives < counted.lastLives then
      (lived, lived.makeSnapshot .lifeLost true)
    else if state.gameMode = .endGame ∨ state.lifeState ≠ .alive then
      (lived, lived.makeSnapshot .lifeLost true)
    else
      let progressed := (lived.clearLevels state).coverDistance state
      let endReason := progressed.endReasonAlive state
      (progressed, progressed.makeSnapshot endReason (endReason ≠ .none))

theorem done_of_fellBelowScreen (evaluator : NesSuperMarioBrosEvaluator)
    (input : NesSuperMarioBrosEvaluatorInput)
    (fell : (evaluator.evaluate input).2.endReason = .fellBelowScreen) :
    (evaluator.evaluate input).2.done = true := by
  simp only [evaluate] at fell ⊢
  split at fell
  · cases fell
  · split at fell
    · cases fell
    · split at fell
      · cases fell
      · rename_i playing kept alive
        rw [if_neg playing, if_neg kept, if_neg alive]
        simp only [makeSnapshot] at fell ⊢
        rw [fell]
        rfl

end NesSuperMarioBrosEvaluator

end DirtSim
