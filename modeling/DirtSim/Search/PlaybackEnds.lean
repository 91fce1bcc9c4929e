import DirtSim.Search.PlanReplay
import DirtSim.Search.ScenarioDriver

/-! # When the playing of a plan ends

A playback first waits for gameplay, which the adapter gives up waiting for, and then consumes a
frame of its plan at each tick. Past the end of the driver's episode, though, a tick advances no
frame and the playback does not take that for an end, so it never completes. The setup and the
plan together must fit into the episode (`playback_ends_iff`).
-/

namespace DirtSim

namespace SmbPlanExecution

variable {S : Type}

def ticks (emulator : Emulator S) (execution : SmbPlanExecution S) : ℕ → SmbPlanExecution S
  | 0 => execution
  | count + 1 => ((ticks emulator execution count).tick emulator).1

/-- A playback from power-on completes within a number of ticks. -/
def EndsWithin (emulator : Emulator S) (plan : Plan) (bound : ℕ) : Prop :=
  ∃ count ≤ bound, (ticks emulator (startPlayback emulator plan) count).completed = true

/-! ## A tick within the episode -/

section

variable {R : Type} {runtime : SmolnesRuntime R} {maxEpisodeFrames : UInt32}
variable {plan : Plan}

/-- A frame that the runtime ran and showed. -/
structure Shows (runtime : SmolnesRuntime R) (before : SmbPlanExecution R)
    (live : LiveSnapshot) (played : PlayedFrame R) : Prop where
  reached : runtime.Reached played.driver
  rendered : runtime.getRenderedFrameCount played.driver =
    runtime.getRenderedFrameCount before.driver + 1
  shown : runtime.copyLiveSnapshot played.driver = some live
  gameAdapter : played.gameAdapter =
    (before.gameAdapter.evaluateFrame 1 (some live.memorySnapshot)).1
  evaluation : played.evaluation =
    (before.gameAdapter.evaluateFrame 1 (some live.memorySnapshot)).2
  lastGameState : played.lastGameState =
    (before.gameAdapter.evaluateFrame 1 (some live.memorySnapshot)).2.gameState
  gameplay : played.isSmbGameplayFrame =
    decide (played.lastGameState = some 1 ∧ before.lastGameState = some 1)
  advanced : played.stepResult.advancedFrames = 1
  goesOn : played.stopped = false

theorem getD_eq_one_iff {gameState : Option UInt8} : gameState.getD 0 = 1 ↔ gameState = some 1 := by
  cases gameState with
  | none => exact ⟨fun zero => absurd zero (by decide), nofun⟩
  | some gameState => exact Option.some_inj.symm

variable (maxEpisodeFrames) in
theorem nextPlayed_within {before : SmbPlanExecution R} (steady : runtime.Steady)
    (reached : runtime.Reached before.driver)
    (within : runtime.getRenderedFrameCount before.driver < maxEpisodeFrames.toNat)
    (frame : PlayerControlFrame) :
    ∃ live, Shows runtime before live
      (before.nextPlayed (NesSmolnesScenarioDriver.emulator runtime maxEpisodeFrames) frame) := by
  obtain ⟨live, shown, stepped⟩ := NesSmolnesScenarioDriver.step_within steady reached within
    (before.gameAdapter.resolveControllerMask (playerControlFrameToNesMask frame)
      before.lastGameState).resolvedControllerMask
  have isState : (before.gameAdapter.evaluateFrame 1
      (some live.memorySnapshot)).2.gameState.or before.lastGameState =
        (before.gameAdapter.evaluateFrame 1 (some live.memorySnapshot)).2.gameState := by
    rw [NesSuperMarioBrosGameAdapter.gameState_evaluateFrame]
    split <;> rfl
  refine ⟨live, ?_⟩
  unfold nextPlayed playFrame
  dsimp only [NesSmolnesScenarioDriver.emulator]
  rw [stepped]
  rw [isState]
  refine ⟨reached.ran _, steady.renders _ _ reached, shown, rfl, rfl, rfl, ?_, rfl, rfl⟩
  refine decide_eq_decide.mpr (and_congr getD_eq_one_iff ?_)
  exact before.gameAdapter.source_resolveControllerMask _ _

/-- An unfinished playback of a number of frames: from the frame on at which the adapter gives the
setup up, gameplay is seen and every frame consumes one of the plan's. -/
structure OnTime (runtime : SmolnesRuntime R) (plan : Plan) (frames : ℕ)
    (execution : SmbPlanExecution R) : Prop where
  playing : execution.Playing plan
  reached : runtime.Reached execution.driver
  rendered : runtime.getRenderedFrameCount execution.driver = frames
  counted : execution.gameAdapter.advancedFrameCount = frames
  running : execution.completed = false
  more : execution.playbackFrameIndex < plan.frames.length
  gameplay : kSetupFailureFrame ≤ frames → execution.lastGameState = some 1
  caughtUp : frames ≤ execution.playbackFrameIndex + kSetupFailureFrame

theorem onTime_startPlayback (steady : runtime.Steady) (some : 0 < plan.frames.length) :
    OnTime runtime plan 0
      (startPlayback (NesSmolnesScenarioDriver.emulator runtime maxEpisodeFrames) plan) where
  playing := ⟨rfl, rfl, rfl⟩
  reached := .started
  rendered := steady.starts
  counted := rfl
  running := rfl
  more := some
  gameplay late := absurd late (by decide)
  caughtUp := Nat.zero_le _

theorem gameplay_of_not_done {adapter : NesSuperMarioBrosGameAdapter} {snapshot : MemorySnapshot}
    (late : kSetupFailureFrame ≤ adapter.advancedFrameCount + 1)
    (goesOn : (adapter.evaluateFrame 1 (some snapshot)).2.done = false) :
    (adapter.evaluateFrame 1 (some snapshot)).2.gameState = some 1 := by
  rw [NesSuperMarioBrosGameAdapter.gameState_evaluateFrame]
  by_cases plays : (RamExtractor.extract snapshot
      (decide (adapter.advancedFrameCount + 1 ≥ kSetupScriptEndFrame))).phase = .gameplay
  · rw [if_pos plays]
  · have givenUp : (adapter.evaluateFrame 1 (some snapshot)).2.done = true := by
      unfold NesSuperMarioBrosGameAdapter.evaluateFrame
      dsimp only
      rw [if_pos ⟨plays, late⟩]
    exact absurd (givenUp.symm.trans goesOn) (by decide)

theorem OnTime.tick {frames : ℕ} {execution : SmbPlanExecution R} (steady : runtime.Steady)
    (onTime : OnTime runtime plan frames execution) (within : frames < maxEpisodeFrames.toNat) :
    (execution.tick (NesSmolnesScenarioDriver.emulator runtime maxEpisodeFrames)).1.completed =
        true ∨
      OnTime runtime plan (frames + 1)
        (execution.tick (NesSmolnesScenarioDriver.emulator runtime maxEpisodeFrames)).1 := by
  have more := onTime.more
  have next := List.getElem?_eq_getElem more
  obtain ⟨live, shows⟩ := nextPlayed_within maxEpisodeFrames steady
    onTime.reached (by rw [onTime.rendered]; exact within)
    plan.frames[execution.playbackFrameIndex]
  obtain ⟨playing, settles⟩ :=
    tick_playing onTime.playing onTime.running next shows.goesOn
  rcases settles with ⟨_, settles⟩ | ⟨stalled, _⟩
  case inr => exact absurd (shows.advanced.symm.trans stalled) Nat.one_ne_zero
  cases completed : (execution.tick
      (NesSmolnesScenarioDriver.emulator runtime maxEpisodeFrames)).1.completed with
  | true => exact .inl rfl
  | false =>
      right
      obtain ⟨goesOn, short⟩ := Bool.or_eq_false_iff.mp (settles.completed.symm.trans completed)
      rw [onTime.playing.plan] at short
      rw [shows.evaluation] at goesOn
      have gameplay : kSetupFailureFrame ≤ frames + 1 → (execution.tick
          (NesSmolnesScenarioDriver.emulator runtime maxEpisodeFrames)).1.lastGameState =
            some 1 := by
        intro late
        rw [settles.lastGameState, shows.lastGameState]
        exact gameplay_of_not_done (by rw [onTime.counted]; exact late) goesOn
      refine ⟨playing, ?_, ?_, ?_, completed, ?_, gameplay, ?_⟩
      · rw [settles.driver]
        exact shows.reached
      · rw [settles.driver, shows.rendered, onTime.rendered]
      · rw [settles.gameAdapter, shows.gameAdapter,
          NesSuperMarioBrosGameAdapter.advancedFrameCount_evaluateFrame, onTime.counted]
      · exact Nat.lt_of_not_le (of_decide_eq_false short)
      · -- A frame that is late is consumed, because the frame before it showed gameplay.
        rw [settles.index, shows.gameplay]
        by_cases late : kSetupFailureFrame ≤ frames
        · have shown := gameplay (Nat.le_succ_of_le late)
          rw [settles.lastGameState] at shown
          rw [decide_eq_true ⟨shown, onTime.gameplay late⟩, if_pos rfl]
          have caughtUp := onTime.caughtUp
          omega
        · omega

theorem ticks_completed {emulator : Emulator S} {execution : SmbPlanExecution S} {count : ℕ}
    (completed : (ticks emulator execution count).completed = true) :
    (ticks emulator execution (count + 1)).completed = true := by
  have still : ((ticks emulator execution count).tick emulator).1 =
      ticks emulator execution count := by
    unfold tick
    rw [if_pos completed]
  change ((ticks emulator execution count).tick emulator).1.completed = true
  rw [still]
  exact completed

theorem onTime_ticks (steady : runtime.Steady) (some : 0 < plan.frames.length) {count : ℕ}
    (within : count ≤ maxEpisodeFrames.toNat) :
    (ticks (NesSmolnesScenarioDriver.emulator runtime maxEpisodeFrames)
        (startPlayback (NesSmolnesScenarioDriver.emulator runtime maxEpisodeFrames) plan)
        count).completed = true ∨
      OnTime runtime plan count
        (ticks (NesSmolnesScenarioDriver.emulator runtime maxEpisodeFrames)
          (startPlayback (NesSmolnesScenarioDriver.emulator runtime maxEpisodeFrames) plan)
          count) := by
  induction count with
  | zero => exact .inr (onTime_startPlayback steady some)
  | succ count ih =>
      rcases ih (Nat.le_of_succ_le within) with completed | onTime
      · exact .inl (ticks_completed completed)
      · exact onTime.tick steady within

theorem endsWithin_of_fits (steady : runtime.Steady)
    (fits : plan.frames = [] ∨ plan.frames.length + kSetupFailureFrame ≤ maxEpisodeFrames.toNat) :
    EndsWithin (NesSmolnesScenarioDriver.emulator runtime maxEpisodeFrames) plan
      (plan.frames.length + 501) := by
  rcases Nat.eq_zero_or_pos plan.frames.length with empty | some
  case inl =>
    refine ⟨1, by omega, ?_⟩
    simp [ticks, tick, startPlayback, playerFrame, List.eq_nil_of_length_eq_zero empty,
      complete]
  have fits := fits.resolve_left (List.length_pos_iff.mp some)
  refine ⟨plan.frames.length + kSetupFailureFrame, Nat.add_le_add_left (by decide) _, ?_⟩
  rcases onTime_ticks steady some fits with completed | onTime
  · exact completed
  · exact absurd onTime.more (Nat.not_lt.mpr (Nat.le_of_add_le_add_right onTime.caughtUp))

end

/-! ## A walk that is longer than the episode -/

/-- The player has come to a new place every thousand frames, and lives. -/
def strollSnapshot (frame : ℕ) : MemorySnapshot :=
  let place := frame / 1000
  ⟨fun address =>
    if address = 0x0770 then 1
    else if address = 0x000E then 8
    else if address = 0x006D then UInt8.ofNat (place % 65536 / 256)
    else if address = 0x0086 then UInt8.ofNat (place % 256)
    else if address = 0x075F then UInt8.ofNat (place / 65536 / 4)
    else if address = 0x0760 then UInt8.ofNat (place / 65536 % 4)
    else 0⟩

/-- What is read of the walk. -/
structure Strolling (frame : ℕ) (state : NesSuperMarioBrosState) : Prop where
  phase : state.phase = .gameplay
  gameMode : state.gameMode = .normal
  lifeState : state.lifeState = .alive
  height : state.playerYScreen = 0
  lives : state.lives = 0
  stage : NesSuperMarioBrosEvaluator.getStageIndex state = frame / 1000 / 65536
  position : state.absoluteX.toNat = frame / 1000 % 65536

theorem toNat_decodeAbsoluteX (playerXPage playerXScreen : UInt8) :
    (RamExtractor.decodeAbsoluteX playerXPage playerXScreen).toNat =
      playerXPage.toNat * 256 + playerXScreen.toNat := by
  have page := playerXPage.toNat_lt
  have screen := playerXScreen.toNat_lt
  unfold RamExtractor.decodeAbsoluteX
  rw [UInt16.toNat_or, UInt16.toNat_shiftLeft, UInt8.toNat_toUInt16, UInt8.toNat_toUInt16]
  have shifted : playerXPage.toNat <<< ((8 : UInt16).toNat % 16) % 2 ^ 16 =
      2 ^ 8 * playerXPage.toNat := by
    rw [show (8 : UInt16).toNat % 16 = 8 from rfl, Nat.shiftLeft_eq, Nat.mul_comm]
    exact Nat.mod_eq_of_lt (by omega)
  rw [shifted, ← Nat.two_pow_add_eq_or_of_lt screen]
  omega

theorem strolling_extract {frame : ℕ} (short : frame < 2 ^ 32) :
    Strolling frame (RamExtractor.extract (strollSnapshot frame) true) where
  phase := rfl
  gameMode := rfl
  lifeState := rfl
  height := rfl
  lives := rfl
  stage := by
    change (UInt8.ofNat (frame / 1000 / 65536 / 4)).toNat * 4 +
      (UInt8.ofNat (frame / 1000 / 65536 % 4)).toNat = _
    rw [UInt8.toNat_ofNat', UInt8.toNat_ofNat']
    omega
  position := by
    change (RamExtractor.decodeAbsoluteX (UInt8.ofNat (frame / 1000 % 65536 / 256))
      (UInt8.ofNat (frame / 1000 % 256))).toNat = _
    rw [toNat_decodeAbsoluteX, UInt8.toNat_ofNat', UInt8.toNat_ofNat']
    omega

/-- An evaluator that has followed the walk: progress is never a thousand frames ago. -/
structure Follows (frame : ℕ) (evaluator : NesSuperMarioBrosEvaluator) : Prop where
  started : evaluator.hasBestProgress = true
  lives : evaluator.lastLives = 0
  stage : evaluator.bestStageIndex = frame / 1000 / 65536
  position : evaluator.bestAbsoluteX.toNat = frame / 1000 % 65536
  recent : evaluator.gameplayFrameCount ≤ evaluator.lastProgressFrame + frame % 1000

section

variable {frame : ℕ} {state : NesSuperMarioBrosState} {evaluator : NesSuperMarioBrosEvaluator}

theorem evaluate_strolling (strolling : Strolling frame state) (lives : evaluator.lastLives = 0) :
    evaluator.evaluate ⟨1, state⟩ = (evaluator.advance ⟨1, state⟩,
      (evaluator.advance ⟨1, state⟩).makeSnapshot
        ((evaluator.advance ⟨1, state⟩).endReasonAlive state)
        ((evaluator.advance ⟨1, state⟩).endReasonAlive state ≠ .none)) := by
  have keeps : ¬ evaluator.Drops state := by
    rintro ⟨_, fewer, _⟩
    rw [strolling.lives, lives] at fewer
    exact absurd fewer (by decide)
  have forgets : evaluator.forgetLives.advance ⟨1, state⟩ = evaluator.advance ⟨1, state⟩ := by
    unfold NesSuperMarioBrosEvaluator.advance
    rw [NesSuperMarioBrosEvaluator.countFrames_forgetLives]
    rfl
  rw [← NesSuperMarioBrosEvaluator.evaluate_forgetLives (.inl strolling.phase) keeps,
    NesSuperMarioBrosEvaluator.evaluate_alive _ _ rfl strolling.phase strolling.gameMode
      strolling.lifeState, forgets]

theorem Follows.goesOn (follows : Follows frame evaluator) (strolling : Strolling frame state) :
    evaluator.endReasonAlive state = .none := by
  have recent := follows.recent
  have below : ¬ state.playerYScreen ≥
      NesSuperMarioBrosEvaluator.kBelowScreenTerminalPlayerYScreenThreshold := by
    rw [strolling.height]
    decide
  have soon : ¬ evaluator.gameplayFrameCount - evaluator.lastProgressFrame ≥
      NesSuperMarioBrosEvaluator.kNoProgressTimeoutFrames := by
    unfold NesSuperMarioBrosEvaluator.kNoProgressTimeoutFrames
    omega
  rw [NesSuperMarioBrosEvaluator.endReasonAlive, if_neg below, if_neg soon]

theorem follows_first (strolling : Strolling frame state) :
    Follows frame (({} : NesSuperMarioBrosEvaluator).advance ⟨1, state⟩) := by
  have stays : ({} : NesSuperMarioBrosEvaluator).advance ⟨1, state⟩ =
      { hasBestProgress := true
        hasLastLives := true
        gameplayFrameCount := 1
        lastProgressFrame := 1
        bestStageIndex := NesSuperMarioBrosEvaluator.getStageIndex state
        bestAbsoluteX := state.absoluteX
        lastLives := state.lives } := by
    simp [NesSuperMarioBrosEvaluator.advance, NesSuperMarioBrosEvaluator.countFrames,
      NesSuperMarioBrosEvaluator.clearLevels, NesSuperMarioBrosEvaluator.coverDistance]
  rw [stays]
  exact ⟨rfl, strolling.lives, strolling.stage, strolling.position, Nat.le_add_right 1 _⟩

theorem Follows.advance (follows : Follows frame evaluator)
    (strolling : Strolling (frame + 1) state) :
    Follows (frame + 1) (evaluator.advance ⟨1, state⟩) := by
  have recent := follows.recent
  have stage := strolling.stage
  have position := strolling.position
  have counted : evaluator.countFrames ⟨1, state⟩ =
      { evaluator with gameplayFrameCount := evaluator.gameplayFrameCount + 1 } := by
    simp [NesSuperMarioBrosEvaluator.countFrames, follows.started]
  rw [NesSuperMarioBrosEvaluator.advance, counted]
  by_cases next : NesSuperMarioBrosEvaluator.getStageIndex state > evaluator.bestStageIndex
  · have before := follows.stage
    have origin : state.absoluteX = 0 := UInt16.toNat_inj.mp (by
      rw [position, UInt16.toNat_zero]
      omega)
    simp only [NesSuperMarioBrosEvaluator.clearLevels, if_pos next,
      NesSuperMarioBrosEvaluator.coverDistance, origin, gt_iff_lt, UInt16.lt_irrefl, and_false,
      if_false]
    refine ⟨follows.started, strolling.lives, stage, ?_, Nat.le_add_right _ _⟩
    rw [← position, origin]
  · simp only [NesSuperMarioBrosEvaluator.clearLevels, if_neg next,
      NesSuperMarioBrosEvaluator.coverDistance]
    have before := follows.stage
    have place := follows.position
    have same : NesSuperMarioBrosEvaluator.getStageIndex state = evaluator.bestStageIndex := by
      omega
    split
    case isTrue further =>
      exact ⟨follows.started, strolling.lives, same ▸ stage, position, Nat.le_add_right _ _⟩
    case isFalse near =>
      have here : state.absoluteX.toNat ≤ evaluator.bestAbsoluteX.toNat :=
        Nat.not_lt.mp fun further => near ⟨same, UInt16.lt_iff_toNat_lt.mpr further⟩
      refine ⟨follows.started, strolling.lives, same ▸ stage, ?_, ?_⟩
      · dsimp only
        omega
      · dsimp only
        omega

end

/-- A console that shows its title until the adapter would give the setup up. From then on the
player walks. -/
def strollRuntime : SmolnesRuntime ℕ where
  started := 0
  isHealthy _ := true
  isRunning _ := true
  getLastError _ := ""
  getRenderedFrameCount frame := frame
  runFrame frame _ := (frame + 1, true)
  stop frame := frame
  copyLiveSnapshot frame := some
    { frameId := frame
      videoFrame := ⟨256, 240, []⟩
      memorySnapshot := if frame < kSetupFailureFrame then titleSnapshot else strollSnapshot frame }
  copyLatestFrame _ := some ⟨256, 240, []⟩

theorem steady_stroll : strollRuntime.Steady where
  starts := rfl
  healthy _ _ := rfl
  running _ _ := rfl
  runs _ _ _ := rfl
  renders _ _ _ := rfl
  shows _ _ _ := ⟨_, rfl, Nat.le_refl _⟩

/-- An unfinished playback on that console: a frame is consumed for every frame of the walk. -/
structure Strolls (plan : Plan) (frames : ℕ) (execution : SmbPlanExecution ℕ) : Prop where
  playing : execution.Playing plan
  driver : execution.driver = frames
  counted : execution.gameAdapter.advancedFrameCount = frames
  running : execution.completed = false
  index : execution.playbackFrameIndex = frames - kSetupFailureFrame
  waits : frames < kSetupFailureFrame →
    execution.lastGameState ≠ some 1 ∧ execution.gameAdapter.evaluator = {}
  walks : kSetupFailureFrame ≤ frames →
    execution.lastGameState = some 1 ∧ Follows frames execution.gameAdapter.evaluator

section

variable {plan : Plan} {frames : ℕ} {execution : SmbPlanExecution ℕ} {maxEpisodeFrames : UInt32}

theorem reached_stroll (frames : ℕ) : strollRuntime.Reached frames := by
  induction frames with
  | zero => exact .started
  | succ frames ih => exact ih.ran 0

theorem evaluateFrame_title (adapter : NesSuperMarioBrosGameAdapter)
    (counted : adapter.advancedFrameCount + 1 < kSetupFailureFrame)
    (fresh : adapter.evaluator = {}) :
    (adapter.evaluateFrame 1 (some titleSnapshot)).1.evaluator = {} ∧
      (adapter.evaluateFrame 1 (some titleSnapshot)).2.done = false ∧
      (adapter.evaluateFrame 1 (some titleSnapshot)).2.gameState = some 0 := by
  have title (complete : Bool) :
      (RamExtractor.extract titleSnapshot complete).phase ≠ .gameplay := by
    cases complete <;> exact SmbPhase.noConfusion
  have ignored (complete : Bool) : ¬ ({} : NesSuperMarioBrosEvaluator).Counts
      (RamExtractor.extract titleSnapshot complete) :=
    not_or.mpr ⟨title complete, fun ended => Bool.false_ne_true ended.1⟩
  unfold NesSuperMarioBrosGameAdapter.evaluateFrame
  dsimp only
  rw [if_neg fun late => Nat.not_le.mpr counted late.2, fresh,
    NesSuperMarioBrosEvaluator.evaluate_of_not_counts (ignored _), if_neg (title _)]
  exact ⟨rfl, rfl, rfl⟩

theorem evaluateFrame_stroll {adapter : NesSuperMarioBrosGameAdapter}
    (counted : adapter.advancedFrameCount = frames) (late : kSetupFailureFrame ≤ frames + 1)
    (short : frames + 1 < 2 ^ 32)
    (waits : frames < kSetupFailureFrame → adapter.evaluator = {})
    (walks : kSetupFailureFrame ≤ frames → Follows frames adapter.evaluator) :
    Follows (frames + 1)
        (adapter.evaluateFrame 1 (some (strollSnapshot (frames + 1)))).1.evaluator ∧
      (adapter.evaluateFrame 1 (some (strollSnapshot (frames + 1)))).2.done = false ∧
      (adapter.evaluateFrame 1 (some (strollSnapshot (frames + 1)))).2.gameState = some 1 := by
  have strolling := strolling_extract short
  have lives : adapter.evaluator.lastLives = 0 := by
    rcases Nat.lt_or_ge frames kSetupFailureFrame with early | since
    · rw [waits early]
    · exact (walks since).lives
  have follows : Follows (frames + 1) (adapter.evaluator.advance
      ⟨1, RamExtractor.extract (strollSnapshot (frames + 1)) true⟩) := by
    rcases Nat.lt_or_ge frames kSetupFailureFrame with early | since
    · rw [waits early]
      exact follows_first strolling
    · exact (walks since).advance strolling
  have ended : kSetupScriptEndFrame ≤ adapter.advancedFrameCount + 1 := by
    rw [counted]
    exact (show kSetupScriptEndFrame ≤ kSetupFailureFrame by decide).trans late
  rw [adapter.evaluateFrame_playing ended strolling.phase]
  rw [evaluate_strolling strolling lives, follows.goesOn strolling]
  exact ⟨follows, rfl, rfl⟩

theorem Strolls.tick (strolls : Strolls plan frames execution)
    (more : frames + 1 - kSetupFailureFrame < plan.frames.length)
    (within : frames < maxEpisodeFrames.toNat) :
    Strolls plan (frames + 1)
      (execution.tick (NesSmolnesScenarioDriver.emulator strollRuntime maxEpisodeFrames)).1 := by
  have isMore : execution.playbackFrameIndex < plan.frames.length := by
    rw [strolls.index]
    omega
  have next := List.getElem?_eq_getElem isMore
  obtain ⟨live, shows⟩ := nextPlayed_within maxEpisodeFrames steady_stroll
    (reached_stroll execution.driver) (by rw [strolls.driver]; exact within)
    plan.frames[execution.playbackFrameIndex]
  obtain ⟨playing, settles⟩ := tick_playing strolls.playing strolls.running next shows.goesOn
  rcases settles with ⟨_, settles⟩ | ⟨stalled, _⟩
  case inr => exact absurd (shows.advanced.symm.trans stalled) Nat.one_ne_zero
  have arrived : (execution.nextPlayed
      (NesSmolnesScenarioDriver.emulator strollRuntime maxEpisodeFrames)
        plan.frames[execution.playbackFrameIndex]).driver = frames + 1 :=
    shows.rendered.trans (congrArg (· + 1) strolls.driver)
  have isLive := shows.shown
  rw [arrived] at isLive
  cases isLive
  have counted : (execution.tick (NesSmolnesScenarioDriver.emulator strollRuntime
      maxEpisodeFrames)).1.gameAdapter.advancedFrameCount = frames + 1 := by
    rw [settles.gameAdapter, shows.gameAdapter,
      NesSuperMarioBrosGameAdapter.advancedFrameCount_evaluateFrame, strolls.counted]
  have unfinished (noted : (execution.tick (NesSmolnesScenarioDriver.emulator strollRuntime
      maxEpisodeFrames)).1.playbackFrameIndex = frames + 1 - kSetupFailureFrame)
      (goesOn : (execution.nextPlayed (NesSmolnesScenarioDriver.emulator strollRuntime
        maxEpisodeFrames) plan.frames[execution.playbackFrameIndex]).evaluation.done = false) :
      (execution.tick (NesSmolnesScenarioDriver.emulator strollRuntime
        maxEpisodeFrames)).1.completed = false := by
    rw [settles.completed, goesOn, noted, strolls.playing.plan,
      decide_eq_false (Nat.not_le.mpr more), Bool.false_or]
  have index := settles.index
  rw [shows.gameplay, shows.lastGameState, strolls.index] at index
  rcases Nat.lt_or_ge (frames + 1) kSetupFailureFrame with early | late
  · -- The title is shown.
    have before : frames < kSetupFailureFrame := Nat.lt_of_succ_lt early
    obtain ⟨fresh, goesOn, title⟩ := evaluateFrame_title
      execution.gameAdapter (by rw [strolls.counted]; exact early)
      (strolls.waits before).2
    rw [if_pos early] at shows
    have scripted : ¬ decide (some (0 : UInt8) = some 1 ∧ execution.lastGameState = some 1) = true :=
      fun plays => absurd (of_decide_eq_true plays).1 (by decide)
    rw [if_pos early, title, if_neg scripted] at index
    have noted := index.trans (show frames - kSetupFailureFrame + 0 =
      frames + 1 - kSetupFailureFrame by omega)
    refine ⟨playing, settles.driver.trans arrived, counted, unfinished noted ?_, noted, ?_, ?_⟩
    · rw [shows.evaluation]
      exact goesOn
    · intro _
      rw [settles.lastGameState, shows.lastGameState, settles.gameAdapter, shows.gameAdapter, title]
      exact ⟨by decide, fresh⟩
    · exact fun late => absurd early (Nat.not_lt.mpr late)
  · -- The player walks; the frame is consumed unless it is the first of the walk.
    have short : frames + 1 < 2 ^ 32 := by
      have bounded := maxEpisodeFrames.toNat_lt
      omega
    obtain ⟨follows, goesOn, gameplay⟩ := evaluateFrame_stroll strolls.counted late short
      (fun early => (strolls.waits early).2) (fun since => (strolls.walks since).2)
    rw [if_neg (Nat.not_lt.mpr late)] at shows
    rw [if_neg (Nat.not_lt.mpr late), gameplay] at index
    have noted : (execution.tick (NesSmolnesScenarioDriver.emulator strollRuntime
        maxEpisodeFrames)).1.playbackFrameIndex = frames + 1 - kSetupFailureFrame := by
      rw [index]
      rcases Nat.lt_or_ge frames kSetupFailureFrame with early | since
      · rw [decide_eq_false fun plays => (strolls.waits early).1 plays.2,
          if_neg Bool.false_ne_true]
        omega
      · rw [decide_eq_true ⟨rfl, (strolls.walks since).1⟩, if_pos rfl]
        omega
    refine ⟨playing, settles.driver.trans arrived, counted, unfinished noted ?_, noted, ?_, ?_⟩
    · rw [shows.evaluation]
      exact goesOn
    · exact fun early => absurd early (Nat.not_lt.mpr late)
    · intro _
      rw [settles.lastGameState, shows.lastGameState, settles.gameAdapter, shows.gameAdapter,
        gameplay]
      exact ⟨rfl, follows⟩

theorem Strolls.stall (strolls : Strolls plan frames execution)
    (more : frames - kSetupFailureFrame < plan.frames.length)
    (beyond : maxEpisodeFrames.toNat ≤ frames) :
    Strolls plan frames
      (execution.tick (NesSmolnesScenarioDriver.emulator strollRuntime maxEpisodeFrames)).1 := by
  have isMore : execution.playbackFrameIndex < plan.frames.length := by
    rw [strolls.index]
    exact more
  have next := List.getElem?_eq_getElem isMore
  obtain ⟨played, isPlayed⟩ : ∃ played, played = execution.nextPlayed
      (NesSmolnesScenarioDriver.emulator strollRuntime maxEpisodeFrames)
        plan.frames[execution.playbackFrameIndex] := ⟨_, rfl⟩
  have idle (buttonMask : UInt8) := NesSmolnesScenarioDriver.step_beyond steady_stroll
    (reached_stroll execution.driver) (strolls.driver.symm ▸ beyond) buttonMask
  have stays : played.driver = execution.driver ∧ played.stepResult.advancedFrames = 0 ∧
      played.stopped = false := by
    rw [isPlayed]
    unfold nextPlayed playFrame PlayedFrame.stopped
    dsimp only [NesSmolnesScenarioDriver.emulator]
    rw [idle]
    exact ⟨rfl, rfl, rfl⟩
  obtain ⟨driver, stalled, healthy⟩ := stays
  rw [isPlayed] at driver stalled healthy
  obtain ⟨playing, ticked⟩ := tick_playing strolls.playing strolls.running next healthy
  rcases ticked with ⟨advanced, _⟩ | ⟨_, stalls⟩
  case inl => exact absurd stalled advanced
  refine ⟨playing, ?_, ?_, ?_, ?_, ?_, ?_⟩
  · rw [stalls.driver, driver, strolls.driver]
  · rw [stalls.gameAdapter, strolls.counted]
  · rw [stalls.completed, strolls.running]
  · rw [stalls.index, strolls.index]
  · rw [stalls.lastGameState, stalls.gameAdapter]
    exact strolls.waits
  · rw [stalls.lastGameState, stalls.gameAdapter]
    exact strolls.walks

variable (plan maxEpisodeFrames) in
/-- **Past the episode.** A plan that does not fit into the episode together with the setup is
never played to an end on that console. -/
theorem never_completed (more : plan.frames ≠ [])
    (overlong : maxEpisodeFrames.toNat < plan.frames.length + kSetupFailureFrame) (count : ℕ) :
    (ticks (NesSmolnesScenarioDriver.emulator strollRuntime maxEpisodeFrames)
      (startPlayback (NesSmolnesScenarioDriver.emulator strollRuntime maxEpisodeFrames) plan)
      count).completed = false := by
  have some := List.length_pos_iff.mpr more
  have strolls : ∃ frames ≤ maxEpisodeFrames.toNat, Strolls plan frames
      (ticks (NesSmolnesScenarioDriver.emulator strollRuntime maxEpisodeFrames)
        (startPlayback (NesSmolnesScenarioDriver.emulator strollRuntime maxEpisodeFrames) plan)
        count) := by
    induction count with
    | zero =>
        exact ⟨0, Nat.zero_le _, ⟨rfl, rfl, rfl⟩, rfl, rfl, rfl, rfl,
          fun _ => ⟨nofun, rfl⟩, fun late => absurd late (by decide)⟩
    | succ count ih =>
        obtain ⟨frames, within, strolls⟩ := ih
        rcases Nat.lt_or_ge frames maxEpisodeFrames.toNat with inside | beyond
        · exact ⟨frames + 1, inside, strolls.tick (by omega) inside⟩
        · exact ⟨frames, within, strolls.stall (by omega) beyond⟩
  obtain ⟨_, _, strolls⟩ := strolls
  exact strolls.running

end

/-- **When playback ends.** On every steady runtime the playing of a plan completes within 501 ticks
more than the plan has frames, exactly when the plan is empty or fits into the driver's episode
together with the 500 frames that the setup may take. -/
theorem playback_ends_iff (plan : Plan) (maxEpisodeFrames : UInt32) :
    (∀ (R : Type) (runtime : SmolnesRuntime R), runtime.Steady →
        EndsWithin (NesSmolnesScenarioDriver.emulator runtime maxEpisodeFrames) plan
          (plan.frames.length + 501)) ↔
      plan.frames = [] ∨ plan.frames.length + 500 ≤ maxEpisodeFrames.toNat := by
  constructor
  · intro ends
    by_contra overlong
    obtain ⟨more, long⟩ := not_or.mp overlong
    obtain ⟨count, _, completed⟩ := ends ℕ strollRuntime steady_stroll
    have running := never_completed plan maxEpisodeFrames more (Nat.not_le.mp long) count
    exact Bool.false_ne_true (running.symm.trans completed)
  · intro fits R runtime steady
    exact endsWithin_of_fits steady fits

/-- A plan of half an hour does not fit into the episode that the configuration allows unless it
is told otherwise, and is played forever. -/
theorem not_playback_ends :
    ¬ ∀ (plan : Plan) (maxEpisodeFrames : UInt32) (R : Type) (runtime : SmolnesRuntime R),
      runtime.Steady → EndsWithin (NesSmolnesScenarioDriver.emulator runtime maxEpisodeFrames) plan
        (plan.frames.length + 501) := by
  intro always
  have long : (List.replicate 107501 holdRightFrame).length = 107501 := List.length_replicate
  obtain ⟨count, _, completed⟩ := always { frames := List.replicate 107501 holdRightFrame } 108000
    ℕ strollRuntime steady_stroll
  have running := never_completed { frames := List.replicate 107501 holdRightFrame } 108000
    (List.length_pos_iff.mp (by rw [long]; decide))
    (by rw [long]; decide) count
  exact Bool.false_ne_true (running.symm.trans completed)

end SmbPlanExecution

end DirtSim
