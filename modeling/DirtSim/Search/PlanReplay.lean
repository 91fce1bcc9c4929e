import DirtSim.Search.AlivePaths
import DirtSim.Search.BranchingEvaluation
import DirtSim.Search.GameTree

/-! # Replaying a plan

Playing a plan mirrors the capture of the root and then follows the path to the best leaf, as long
as no evaluation ends the episode: exactly when no frame before the root ends it and no life is lost
on the path (`SmbPlanExecution.replays_iff`).
-/

namespace DirtSim

open Foundation

variable {S : Type}

section

namespace RootCapture

def ends (emulator : Emulator S) (capture : RootCapture S) : Bool :=
  (capture.play emulator).stepResult.advancedFrames ≠ 0 ∧ (capture.play emulator).evaluation.done

/-- No frame that the capture passes over ends the episode. -/
def PassesUnended (emulator : Emulator S) (planId : UUID) : ℕ → RootCapture S → Prop
  | 0, _ => True
  | turns + 1, capture =>
      match capture.turn emulator planId with
      | .passed next => capture.ends emulator = false ∧ PassesUnended emulator planId turns next
      | .failed _ => True
      | .captured _ => True

instance decidablePassesUnended (emulator : Emulator S) (planId : UUID) :
    ∀ (turns : ℕ) (capture : RootCapture S),
      Decidable (PassesUnended emulator planId turns capture)
  | 0, _ => isTrue trivial
  | turns + 1, capture =>
      show Decidable (match capture.turn emulator planId with
        | .passed next => capture.ends emulator = false ∧ PassesUnended emulator planId turns next
        | .failed _ => True
        | .captured _ => True) from
      match capture.turn emulator planId with
      | .passed next =>
          have := decidablePassesUnended emulator planId turns next
          inferInstanceAs (Decidable (_ ∧ _))
      | .failed _ => isTrue trivial
      | .captured _ => isTrue trivial

end RootCapture

def livesOf (snapshot : MemorySnapshot) : UInt8 := (RamExtractor.extract snapshot true).lives

def Emulator.LosesNoLife (emulator : Emulator S) : S → UInt8 → List SmbSearchLegalAction → Prop
  | _, _, [] => True
  | state, lives, action :: actions =>
      match (emulator.driver (some state) action).receive with
      | .error _ => True
      | .ok arrival =>
          lives ≤ livesOf arrival.memorySnapshot ∧
            LosesNoLife emulator arrival.savestate (livesOf arrival.memorySnapshot) actions

/-- Nothing ends the episode on the way from power-on over the root to the end of a path. -/
structure Unbroken (emulator : Emulator S) (planId : UUID) (root : SmbDfsSearch.Root S)
    (actions : List SmbSearchLegalAction) : Prop where
  passes : RootCapture.PassesUnended emulator planId RootCapture.captureTurns
    { driver := emulator.powerOn }
  rootGoesOn : actions ≠ [] → root.evaluatorSummary.terminal = false
  losesNoLife : ∀ snapshot, root.memorySnapshot = some snapshot →
    emulator.LosesNoLife root.savestate (livesOf snapshot) actions

/-- A plan was played to its end: all of its frames are consumed, the emulator is where the search
was, and as far as the plan says. -/
structure SmbPlanExecution.Replayed (plan : Plan) (target : S) (final : SmbPlanExecution S) :
    Prop where
  driver : final.driver = target
  consumed : final.playbackFrameIndex = plan.frames.length
  reason : final.completionReason = some .completed
  bestFrontier : final.progress.bestFrontier = plan.summary.bestFrontier

def SmbPlanExecution.Replays (emulator : Emulator S) (plan : Plan) (target : S) : Prop :=
  ∃ final, Ends emulator (startPlayback emulator plan) final ∧ Replayed plan target final

end

namespace SmbPlanExecution

section

variable {emulator : Emulator S} {before : SmbPlanExecution S} {frame : PlayerControlFrame}
variable {plan : Plan}

/-- A playback that is going on. -/
structure Playing (plan : Plan) (execution : SmbPlanExecution S) : Prop where
  mode : execution.mode = .planPlayback
  plan : execution.plan = plan
  unpaused : execution.paused = false

/-- The frame that the next tick of a playback plays. -/
def nextPlayed (emulator : Emulator S) (execution : SmbPlanExecution S)
    (frame : PlayerControlFrame) : PlayedFrame S :=
  playFrame emulator execution.driver execution.gameAdapter execution.lastGameState frame

/-- What a tick makes of a frame that was emulated. -/
structure Settles (before : SmbPlanExecution S) (played : PlayedFrame S)
    (after : SmbPlanExecution S) : Prop where
  driver : after.driver = played.driver
  gameAdapter : after.gameAdapter = played.gameAdapter
  lastGameState : after.lastGameState = played.lastGameState
  index : after.playbackFrameIndex =
    before.playbackFrameIndex + if played.isSmbGameplayFrame then 1 else 0
  bestFrontier : after.progress.bestFrontier =
    (played.evaluation.fitnessDetails.map encodeFrontier).getD before.progress.bestFrontier
  completed : after.completed = (played.evaluation.done ||
    decide (after.playbackFrameIndex ≥ before.plan.frames.length))
  reason : after.completed = true → after.completionReason = some .completed

/-- A tick that emulates nothing new. -/
structure Stalls (before : SmbPlanExecution S) (played : PlayedFrame S)
    (after : SmbPlanExecution S) : Prop where
  driver : after.driver = played.driver
  gameAdapter : after.gameAdapter = before.gameAdapter
  lastGameState : after.lastGameState = before.lastGameState
  index : after.playbackFrameIndex = before.playbackFrameIndex
  bestFrontier : after.progress.bestFrontier = before.progress.bestFrontier
  completed : after.completed = before.completed

theorem showFrame_spec (execution : SmbPlanExecution S) (shown : Option ScenarioVideoFrame) :
    ∃ worldData scenarioVideoFrame, execution.showFrame shown =
      { execution with worldData := worldData, scenarioVideoFrame := scenarioVideoFrame } := by
  cases shown with
  | none => exact ⟨_, _, rfl⟩
  | some shown => exact ⟨_, _, rfl⟩

theorem updateProgress_playing {execution : SmbPlanExecution S} (playing : execution.Playing plan)
    (fitnessDetails : Option NesSuperMarioBrosFitnessSnapshot) :
    ∃ progress, execution.updateProgress fitnessDetails =
        { execution with progress := progress } ∧
      progress.bestFrontier =
        (fitnessDetails.map encodeFrontier).getD execution.progress.bestFrontier := by
  cases fitnessDetails with
  | none => exact ⟨_, rfl, rfl⟩
  | some snapshot =>
      refine ⟨{ execution.progress with
        paused := execution.paused
        bestFrontier := encodeFrontier snapshot
        currentGameplayFrame := snapshot.gameplayFrames
        lastSearchEvent := .expandedAlive }, ?_, rfl⟩
      simp [updateProgress, playing.mode]

theorem takeFrame_playing {execution : SmbPlanExecution S} (playing : execution.Playing plan)
    (frame : PlayerControlFrame) (more : execution.playbackFrameIndex < plan.frames.length) :
    execution.takeFrame frame =
      { execution with playbackFrameIndex := execution.playbackFrameIndex + 1 } := by
  rw [← playing.plan] at more
  simp [takeFrame, playing.mode, if_pos more]

theorem settleFrame_spec (playing : before.Playing plan) (running : before.completed = false)
    (more : before.playbackFrameIndex < plan.frames.length) (played : PlayedFrame S)
    (emulated : before.driver = played.driver) :
    (before.settleFrame frame played).Playing plan ∧
      before.Settles played (before.settleFrame frame played) := by
  set noted : SmbPlanExecution S := { before with
    gameAdapter := played.gameAdapter
    lastGameState := played.lastGameState
    worldData := { before.worldData with
      timestep := before.worldData.timestep + played.stepResult.advancedFrames } } with notedIs
  have noting : noted.Playing plan := ⟨playing.mode, playing.plan, playing.unpaused⟩
  obtain ⟨progress, reported, frontier⟩ :=
    updateProgress_playing noting played.evaluation.fitnessDetails
  obtain ⟨index, isIndex⟩ : ∃ index, index =
      before.playbackFrameIndex + if played.isSmbGameplayFrame then 1 else 0 := ⟨_, rfl⟩
  have taken : (if played.isSmbGameplayFrame then
      (noted.updateProgress played.evaluation.fitnessDetails).takeFrame frame
      else noted.updateProgress played.evaluation.fitnessDetails) =
      { noted with progress := progress, playbackFrameIndex := index } := by
    rw [reported, isIndex]
    cases played.isSmbGameplayFrame with
    | true =>
        have going : ({ noted with progress := progress } : SmbPlanExecution S).Playing plan :=
          ⟨noting.mode, noting.plan, noting.unpaused⟩
        exact takeFrame_playing going frame more
    | false => rfl
  have out : ({ noted with
      progress := progress, playbackFrameIndex := index } : SmbPlanExecution S).playedOut =
        decide (index ≥ before.plan.frames.length) := by
    simp [playedOut, notedIs, playing.mode]
  have settled : before.settleFrame frame played =
      (if played.evaluation.done || decide (index ≥ before.plan.frames.length) then
        ({ noted with progress := progress, playbackFrameIndex := index } :
          SmbPlanExecution S).complete
      else { noted with progress := progress, playbackFrameIndex := index }) := by
    rw [← out, ← taken]
    rfl
  rw [settled]
  split
  case isTrue ends =>
    exact ⟨⟨playing.mode, playing.plan, playing.unpaused⟩, emulated, rfl, rfl, isIndex, frontier,
      ends.symm, fun _ => rfl⟩
  case isFalse goesOn =>
    refine ⟨⟨playing.mode, playing.plan, playing.unpaused⟩, emulated, rfl, rfl, isIndex, frontier,
      ?_, fun completed => ?_⟩
    · exact running.trans (Bool.eq_false_iff.mpr goesOn).symm
    · exact absurd (completed.symm.trans running) (by decide)

theorem tick_playing (playing : before.Playing plan) (running : before.completed = false)
    (next : plan.frames[before.playbackFrameIndex]? = some frame)
    (healthy : (before.nextPlayed emulator frame).stopped = false) :
    (before.tick emulator).1.Playing plan ∧
      (((before.nextPlayed emulator frame).stepResult.advancedFrames ≠ 0 ∧
          before.Settles (before.nextPlayed emulator frame) (before.tick emulator).1) ∨
        ((before.nextPlayed emulator frame).stepResult.advancedFrames = 0 ∧
          before.Stalls (before.nextPlayed emulator frame) (before.tick emulator).1)) := by
  have isNext : before.playerFrame = some frame := by
    simp [playerFrame, playing.mode, playing.plan, next]
  have more : before.playbackFrameIndex < plan.frames.length :=
    (List.getElem?_eq_some_iff.mp next).1
  obtain ⟨worldData, scenarioVideoFrame, shown⟩ := showFrame_spec
    { before with driver := (before.nextPlayed emulator frame).driver }
    (before.nextPlayed emulator frame).stepResult.scenarioVideoFrame
  set stepped : SmbPlanExecution S := { before with
    driver := (before.nextPlayed emulator frame).driver
    worldData := worldData
    scenarioVideoFrame := scenarioVideoFrame } with steppedIs
  have still : stepped.Playing plan := ⟨playing.mode, playing.plan, playing.unpaused⟩
  have ticked : (before.tick emulator).1 =
      if (before.nextPlayed emulator frame).stepResult.advancedFrames = 0 then stepped
      else stepped.settleFrame frame (before.nextPlayed emulator frame) := by
    unfold nextPlayed at healthy shown
    unfold tick
    rw [if_neg (Bool.eq_false_iff.mp running), if_neg (Bool.eq_false_iff.mp playing.unpaused),
      isNext]
    dsimp only
    rw [if_neg (Bool.eq_false_iff.mp healthy), shown]
    exact apply_ite Prod.fst ..
  rw [ticked]
  split
  case isTrue stalls =>
    exact ⟨still, Or.inr ⟨stalls, rfl, rfl, rfl, rfl, rfl, rfl⟩⟩
  case isFalse advances =>
    obtain ⟨goesOn, settles⟩ := settleFrame_spec still running more
      (before.nextPlayed emulator frame) rfl
    exact ⟨goesOn, Or.inl ⟨advances, settles.driver, settles.gameAdapter, settles.lastGameState,
      settles.index, settles.bestFrontier, settles.completed, settles.reason⟩⟩

end

section

variable {emulator : Emulator S} {planId : UUID} {capture next : RootCapture S}
  {root : SmbDfsSearch.Root S}

theorem of_passed (passed : capture.turn emulator planId = .passed next) :
    (capture.play emulator).stopped = false ∧
      (((capture.play emulator).stepResult.advancedFrames = 0 ∧
          next = { capture with driver := (capture.play emulator).driver }) ∨
        ((capture.play emulator).stepResult.advancedFrames ≠ 0 ∧
          (capture.play emulator).isSmbGameplayFrame = false ∧
          next = { capture with
            driver := (capture.play emulator).driver
            gameAdapter := (capture.play emulator).gameAdapter
            lastGameState := (capture.play emulator).lastGameState })) := by
  unfold RootCapture.turn at passed
  dsimp only at passed
  split at passed
  case isTrue => exact absurd passed nofun
  case isFalse healthy =>
    refine ⟨Bool.eq_false_iff.mpr healthy, ?_⟩
    split at passed
    case isTrue still => exact Or.inl ⟨still, (CaptureTurn.passed.inj passed).symm⟩
    case isFalse advances =>
      split at passed
      case isTrue waits =>
        exact Or.inr ⟨advances, (Bool.not_eq_true' _).mp waits,
          (CaptureTurn.passed.inj passed).symm⟩
      case isFalse => exact absurd passed nofun

theorem of_captured (captured : capture.turn emulator planId = .captured root) :
    (capture.play emulator).stopped = false ∧
      (capture.play emulator).stepResult.advancedFrames ≠ 0 ∧
      (capture.play emulator).isSmbGameplayFrame = true ∧
      root = capture.rootOf planId (capture.play emulator) := by
  unfold RootCapture.turn at captured
  dsimp only at captured
  split at captured
  case isTrue => exact absurd captured nofun
  case isFalse healthy =>
    split at captured
    case isTrue => exact absurd captured nofun
    case isFalse advances =>
      split at captured
      case isTrue => exact absurd captured nofun
      case isFalse plays =>
        refine ⟨Bool.eq_false_iff.mpr healthy, advances, ?_, (CaptureTurn.captured.inj captured).symm⟩
        exact Bool.eq_true_of_not_eq_false fun waits => plays ((Bool.not_eq_true' _).mpr waits)

theorem dated_evaluateFrame {adapter : NesSuperMarioBrosGameAdapter}
    (dated : adapter.evaluator.Dated) (advancedFrames : ℕ)
    (memorySnapshot : Option MemorySnapshot) :
    (adapter.evaluateFrame advancedFrames memorySnapshot).1.evaluator.Dated := by
  unfold NesSuperMarioBrosGameAdapter.evaluateFrame
  cases memorySnapshot with
  | none => exact dated
  | some snapshot =>
      dsimp only
      split
      · exact dated
      · exact dated.evaluate _

theorem dated_of_passed (dated : capture.gameAdapter.evaluator.Dated)
    (passed : capture.turn emulator planId = .passed next) :
    next.gameAdapter.evaluator.Dated := by
  obtain ⟨_, ⟨_, rfl⟩ | ⟨_, _, rfl⟩⟩ := of_passed passed
  · exact dated
  · exact dated_evaluateFrame dated _ _

/-- The playback is where the capture is. -/
structure Mirrors (plan : Plan) (capture : RootCapture S) (execution : SmbPlanExecution S) :
    Prop where
  playing : execution.Playing plan
  running : execution.completed = false
  driver : execution.driver = capture.driver
  gameAdapter : execution.gameAdapter = capture.gameAdapter
  lastGameState : execution.lastGameState = capture.lastGameState
  index : execution.playbackFrameIndex = 0

variable {plan : Plan} {execution : SmbPlanExecution S}

theorem Mirrors.nextPlayed (mirrors : Mirrors plan capture execution) :
    execution.nextPlayed emulator setupFrame = capture.play emulator := by
  rw [SmbPlanExecution.nextPlayed, RootCapture.play, mirrors.driver, mirrors.gameAdapter,
    mirrors.lastGameState]

/-- A frame that the capture passes over is no frame of the plan; only when it ends the episode
does the playback end. -/
theorem Mirrors.passed (mirrors : Mirrors plan capture execution)
    (first : plan.frames[0]? = some setupFrame)
    (passed : capture.turn emulator planId = .passed next) :
    (capture.ends emulator = false ∧ Mirrors plan next (execution.tick emulator).1) ∨
      (capture.ends emulator = true ∧ (execution.tick emulator).1.completed = true ∧
        (execution.tick emulator).1.playbackFrameIndex = 0) := by
  obtain ⟨healthy, outcome⟩ := of_passed passed
  have nonempty : 0 < plan.frames.length := (List.getElem?_eq_some_iff.mp first).1
  have playsOn : (execution.nextPlayed emulator setupFrame).stopped = false :=
    mirrors.nextPlayed ▸ healthy
  obtain ⟨playing, ticked⟩ :=
    tick_playing mirrors.playing mirrors.running (mirrors.index ▸ first) playsOn
  rw [mirrors.nextPlayed] at ticked
  rcases outcome with ⟨still, rfl⟩ | ⟨advances, waits, rfl⟩
  · have stalls := (ticked.resolve_left fun settles => settles.1 still).2
    refine Or.inl ⟨decide_eq_false fun ended => ended.1 still, playing, ?_, stalls.driver, ?_, ?_, ?_⟩
    · exact stalls.completed.trans mirrors.running
    · exact stalls.gameAdapter.trans mirrors.gameAdapter
    · exact stalls.lastGameState.trans mirrors.lastGameState
    · exact stalls.index.trans mirrors.index
  · have settles := (ticked.resolve_right fun stalls => advances stalls.1).2
    have index : (execution.tick emulator).1.playbackFrameIndex = 0 := by
      rw [settles.index, waits, mirrors.index]
      rfl
    have completed : (execution.tick emulator).1.completed =
        (capture.play emulator).evaluation.done := by
      rw [settles.completed, index, mirrors.playing.plan,
        decide_eq_false (Nat.not_le_of_lt nonempty), Bool.or_false]
    cases done : (capture.play emulator).evaluation.done with
    | false =>
        exact Or.inl ⟨decide_eq_false fun ended => Bool.false_ne_true (done.symm.trans ended.2),
          playing, completed.trans done, settles.driver, settles.gameAdapter,
          settles.lastGameState, index⟩
    | true => exact Or.inr ⟨decide_eq_true ⟨advances, done⟩, completed.trans done, index⟩

theorem Mirrors.run {turns : ℕ} (mirrors : Mirrors plan capture execution)
    (first : plan.frames[0]? = some setupFrame)
    (captured : RootCapture.captureRoot emulator planId turns capture = .ok root)
    (dated : capture.gameAdapter.evaluator.Dated) :
    (RootCapture.PassesUnended emulator planId turns capture ∧ ∃ last arrived,
        Mirrors plan last arrived ∧ last.gameAdapter.evaluator.Dated ∧
        last.turn emulator planId = .captured root ∧
        ∀ final, Ends emulator arrived final → Ends emulator execution final) ∨
      (¬ RootCapture.PassesUnended emulator planId turns capture ∧ ∃ final,
        Ends emulator execution final ∧ final.playbackFrameIndex = 0) := by
  induction turns generalizing capture execution with
  | zero => exact absurd captured nofun
  | succ turns ih =>
      rw [RootCapture.captureRoot] at captured
      rw [RootCapture.PassesUnended]
      cases turned : capture.turn emulator planId with
      | failed message =>
          rw [turned] at captured
          exact absurd captured nofun
      | captured found =>
          rw [turned] at captured
          obtain rfl := Except.ok.inj captured
          exact Or.inl ⟨trivial, capture, execution, mirrors, dated, turned, fun _ => id⟩
      | passed next =>
          rw [turned] at captured
          dsimp only at captured ⊢
          rcases mirrors.passed first turned with ⟨goesOn, mirrored⟩ | ⟨ended, completed, index⟩
          · rcases ih mirrored captured (dated_of_passed dated turned) with
              ⟨passes, last, arrived, there, datedThere, found, ends⟩ | ⟨broken, final, ends, index⟩
            · exact Or.inl ⟨⟨goesOn, passes⟩, last, arrived, there, datedThere, found,
                fun final rest => .tick mirrors.running (ends final rest)⟩
            · exact Or.inr ⟨fun passes => broken passes.2, final,
                .tick mirrors.running ends, index⟩
          · refine Or.inr ⟨fun passes => ?_, _, .tick mirrors.running (.here completed), index⟩
            exact Bool.false_ne_true (passes.1.symm.trans ended)

end

section

open NesSuperMarioBrosEvaluator

variable {emulator : Emulator S} {plan : Plan} {execution : SmbPlanExecution S}
  {state : S} {summary : SmbSearchEvaluatorSummary} {lives : UInt8}

/-- The summary is what was recorded of the evaluator in gameplay. -/
def RecordedOf (evaluator : NesSuperMarioBrosEvaluator) (summary : SmbSearchEvaluatorSummary) :
    Prop :=
  ∃ endReason done,
    summary = buildSmbSearchEvaluatorSummary (evaluator.makeSnapshot endReason done) (some 1)

/-- The playback is where the search was at a node in gameplay. -/
structure AtNode (plan : Plan) (state : S) (summary : SmbSearchEvaluatorSummary) (lives : UInt8)
    (execution : SmbPlanExecution S) : Prop where
  playing : execution.Playing plan
  driver : execution.driver = state
  lastGameState : execution.lastGameState = some 1
  late : kSetupScriptEndFrame ≤ execution.gameAdapter.advancedFrameCount
  dated : execution.gameAdapter.evaluator.Dated
  started : execution.gameAdapter.evaluator.hasBestProgress = true
  known : execution.gameAdapter.evaluator.hasLastLives = true
  lives : execution.gameAdapter.evaluator.lastLives = lives
  recorded : RecordedOf execution.gameAdapter.evaluator summary
  bestFrontier : execution.progress.bestFrontier = summary.bestFrontier

theorem AtNode.restored (atNode : AtNode plan state summary lives execution) :
    restoredEvaluator summary = execution.gameAdapter.evaluator.forgetLives := by
  obtain ⟨endReason, done, rfl⟩ := atNode.recorded
  exact restoredEvaluator_recorded atNode.dated atNode.started endReason done

theorem AtNode.of_settles {after : SmbPlanExecution S} {played : PlayedFrame S}
    {snapshot : MemorySnapshot}
    (dated : execution.gameAdapter.evaluator.Dated)
    (late : kSetupScriptEndFrame ≤
      execution.gameAdapter.advancedFrameCount + played.stepResult.advancedFrames)
    (plays : (RamExtractor.extract snapshot true).phase = .gameplay)
    (evaluated : (played.gameAdapter, played.evaluation) =
      execution.gameAdapter.evaluateFrame played.stepResult.advancedFrames (some snapshot))
    (gameState : played.lastGameState = some 1) (playing : after.Playing plan)
    (settles : execution.Settles played after) :
    AtNode plan played.driver (buildSmbSearchEvaluatorSummary
      (execution.gameAdapter.evaluator.evaluate
        ⟨played.stepResult.advancedFrames, RamExtractor.extract snapshot true⟩).2 (some 1))
      (livesOf snapshot) after ∧
    played.evaluation.done = (execution.gameAdapter.evaluator.evaluate
      ⟨played.stepResult.advancedFrames, RamExtractor.extract snapshot true⟩).2.done := by
  rw [NesSuperMarioBrosGameAdapter.evaluateFrame_playing _ late plays] at evaluated
  obtain ⟨gameAdapter, evaluation⟩ := Prod.mk.inj evaluated
  set input : NesSuperMarioBrosEvaluatorInput :=
    ⟨played.stepResult.advancedFrames, RamExtractor.extract snapshot true⟩
  have counts : execution.gameAdapter.evaluator.Counts input.state := Or.inl plays
  obtain ⟨started, _, known, lives⟩ := evaluate_counted counts
  obtain ⟨endReason, done, reported⟩ := execution.gameAdapter.evaluator.exists_makeSnapshot input
  have adapter := settles.gameAdapter.trans gameAdapter
  refine ⟨⟨playing, settles.driver, settles.lastGameState.trans gameState, ?_, ?_, ?_, ?_, ?_, ?_,
    ?_⟩, ?_⟩
  · rw [adapter]
    exact late
  · rw [adapter]
    exact dated.evaluate input
  · rw [adapter]
    exact started
  · rw [adapter]
    exact known
  · rw [adapter]
    exact lives
  · rw [adapter]
    exact ⟨endReason, done, by rw [reported]⟩
  · rw [settles.bestFrontier, evaluation]
    rfl
  · rw [evaluation]

theorem of_receive {action : SmbSearchLegalAction} {arrival : Arrival S}
    (received : (emulator.driver (some state) action).receive = .ok arrival) :
    ∃ stepped, emulator.step state (playerControlFrameToNesMask
        (smbSearchLegalActionToPlayerControlFrame action)) = (arrival.savestate, stepped) ∧
      stepped.runtimeHealthy = true ∧ stepped.runtimeRunning = true ∧
      stepped.advancedFrames ≠ 0 ∧ stepped.advancedFrames = arrival.advancedFrames ∧
      stepped.memorySnapshot = some arrival.memorySnapshot := by
  obtain ⟨⟨reached, stepped⟩, isStep⟩ : ∃ step, emulator.step state (playerControlFrameToNesMask
      (smbSearchLegalActionToPlayerControlFrame action)) = step := ⟨_, rfl⟩
  simp only [DriverResponse.receive, Emulator.driver, isStep, Bool.not_true, Bool.false_eq_true,
    ↓reduceIte] at received
  split at received
  case isTrue => exact absurd received nofun
  case isFalse healthy =>
    simp only [Bool.or_eq_true, Bool.not_eq_true', not_or, Bool.not_eq_false] at healthy
    split at received
    case isTrue => exact absurd received nofun
    case isFalse advances =>
      cases snapshot : stepped.memorySnapshot with
      | none =>
          rw [snapshot] at received
          exact absurd received nofun
      | some memorySnapshot =>
          rw [snapshot] at received
          obtain rfl := Except.ok.inj received
          exact ⟨stepped, isStep, healthy.1, healthy.2, advances, rfl, snapshot⟩

theorem nextPlayed_playing (gameplay : execution.lastGameState = some 1)
    (frame : PlayerControlFrame) :
    ((execution.nextPlayed emulator frame).driver, (execution.nextPlayed emulator frame).stepResult) =
        emulator.step execution.driver (playerControlFrameToNesMask frame) ∧
      (execution.nextPlayed emulator frame).controllerOutput.source = .inferredPolicy := by
  unfold nextPlayed playFrame
  rw [gameplay]
  exact ⟨rfl, rfl⟩

theorem not_ends_of_goesOn {advancedFrames : ℕ} {child : NesSuperMarioBrosState}
    (plays : child.phase = .gameplay) (normal : child.gameMode = .normal)
    (goesOn : (evaluateChild summary advancedFrames child).terminal = false) :
    ¬ NesSuperMarioBrosEvaluator.Ends child := by
  rintro (overs | dies)
  · exact absurd (normal.symm.trans overs) SmbGameMode.noConfusion
  · have terminal := terminal_of_not_alive summary advancedFrames plays dies
    exact Bool.false_ne_true (goesOn.symm.trans terminal)

theorem evaluate_of_drops {evaluator : NesSuperMarioBrosEvaluator}
    {input : NesSuperMarioBrosEvaluatorInput} (started : evaluator.hasBestProgress = true)
    (counts : evaluator.Counts input.state) (drops : evaluator.Drops input.state) :
    (evaluator.evaluate input).2.done = true ∧
      encodeFrontier (evaluator.evaluate input).2 =
        encodeSmbFrontier evaluator.bestStageIndex evaluator.bestAbsoluteX := by
  obtain ⟨hasLastLives, lastLives⟩ := evaluator.countFrames_lives input
  rw [evaluate_of_counts counts]
  rw [if_pos ⟨hasLastLives.trans drops.1, lastLives.symm ▸ drops.2.1⟩]
  refine ⟨rfl, ?_⟩
  simp [encodeFrontier, makeSnapshot, countFrames, started]

/-- One step along the path: the playback arrives where the search did, unless a life is lost
there. Then it ends, no further than it was. -/
theorem AtNode.step (atNode : AtNode plan state summary lives execution)
    (running : execution.completed = false) {action : SmbSearchLegalAction} {arrival : Arrival S}
    (next : plan.frames[execution.playbackFrameIndex]? =
      some (smbSearchLegalActionToPlayerControlFrame action))
    (received : (emulator.driver (some state) action).receive = .ok arrival)
    (normal : (RamExtractor.extract arrival.memorySnapshot true).gameMode = .normal)
    (goesOn : (evaluateChild summary arrival.advancedFrames
      (RamExtractor.extract arrival.memorySnapshot true)).terminal = false) :
    (execution.tick emulator).1.playbackFrameIndex = execution.playbackFrameIndex + 1 ∧
      ((execution.tick emulator).1.completed = true →
        (execution.tick emulator).1.completionReason = some .completed) ∧
      ((lives ≤ livesOf arrival.memorySnapshot ∧
          AtNode plan arrival.savestate (evaluateChild summary arrival.advancedFrames
            (RamExtractor.extract arrival.memorySnapshot true)) (livesOf arrival.memorySnapshot)
            (execution.tick emulator).1 ∧
          (execution.tick emulator).1.completed =
            decide (execution.playbackFrameIndex + 1 ≥ plan.frames.length)) ∨
        (¬ lives ≤ livesOf arrival.memorySnapshot ∧
          (execution.tick emulator).1.completed = true ∧
          (execution.tick emulator).1.progress.bestFrontier = summary.bestFrontier)) := by
  set frame := smbSearchLegalActionToPlayerControlFrame action with frameIs
  set played := execution.nextPlayed emulator frame with playedIs
  obtain ⟨stepped, isStep, healthy, runs, advances, count, shown⟩ := of_receive received
  obtain ⟨stepsTo, source⟩ : (played.driver, played.stepResult) =
      emulator.step execution.driver (playerControlFrameToNesMask frame) ∧
        played.controllerOutput.source = .inferredPolicy :=
    nextPlayed_playing atNode.lastGameState frame
  rw [atNode.driver, isStep] at stepsTo
  obtain ⟨driver, result⟩ := Prod.mk.inj stepsTo
  have notStopped : played.stopped = false := by
    rw [PlayedFrame.stopped, result, healthy, runs]
    rfl
  have plays := gameplay_of_normal normal
  have late : kSetupScriptEndFrame ≤
      execution.gameAdapter.advancedFrameCount + played.stepResult.advancedFrames :=
    atNode.late.trans (Nat.le_add_right _ _)
  have evaluated : (played.gameAdapter, played.evaluation) =
      execution.gameAdapter.evaluateFrame played.stepResult.advancedFrames
        (some arrival.memorySnapshot) := by
    rw [← shown, ← result]
    rfl
  have gameState : played.lastGameState = some 1 := by
    have same : played.lastGameState = played.evaluation.gameState.or execution.lastGameState := rfl
    have reported : played.evaluation = (execution.gameAdapter.evaluateFrame
      played.stepResult.advancedFrames (some arrival.memorySnapshot)).2 :=
        congrArg Prod.snd evaluated
    rw [same, reported, NesSuperMarioBrosGameAdapter.evaluateFrame_playing _ late plays]
    rfl
  have gameplay : played.isSmbGameplayFrame = true := by
    refine decide_eq_true ⟨?_, ?_⟩
    · rw [gameState, Option.getD_some]
    · rw [source]
      exact NesGameAdapterControllerSource.noConfusion
  obtain ⟨playing, ticked⟩ := tick_playing atNode.playing running next notStopped
  have settles := (ticked.resolve_right fun stalls => advances (result ▸ stalls.1)).2
  obtain ⟨atChild, done⟩ :=
    AtNode.of_settles atNode.dated late plays evaluated gameState playing settles
  have index : (execution.tick emulator).1.playbackFrameIndex =
      execution.playbackFrameIndex + 1 := by
    rw [settles.index, gameplay, if_pos rfl]
  have completed := settles.completed
  rw [index, atNode.playing.plan] at completed
  set input : NesSuperMarioBrosEvaluatorInput :=
    ⟨played.stepResult.advancedFrames, RamExtractor.extract arrival.memorySnapshot true⟩ with inputIs
  have counts : execution.gameAdapter.evaluator.Counts input.state := Or.inl plays
  refine ⟨index, settles.reason, ?_⟩
  by_cases keeps : lives ≤ livesOf arrival.memorySnapshot
  · have kept : ¬ execution.gameAdapter.evaluator.Drops input.state := by
      intro drops
      have lost := drops.2.1
      rw [atNode.lives] at lost
      exact absurd lost (UInt8.not_lt.mpr keeps)
    have child : evaluateChild summary arrival.advancedFrames
        (RamExtractor.extract arrival.memorySnapshot true) =
        buildSmbSearchEvaluatorSummary (execution.gameAdapter.evaluator.evaluate input).2
          (some 1) := by
      rw [evaluateChild, atNode.restored, if_pos plays, ← count, ← result,
        ← evaluate_forgetLives counts kept]
    refine Or.inl ⟨keeps, ?_, ?_⟩
    · rw [child, ← driver]
      exact atChild
    · rw [child] at goesOn
      rw [completed, done, show (execution.gameAdapter.evaluator.evaluate input).2.done = false from
        goesOn, Bool.false_or]
  · have drops : execution.gameAdapter.evaluator.Drops input.state := by
      refine ⟨atNode.known, ?_, not_ends_of_goesOn plays normal goesOn⟩
      rw [atNode.lives]
      exact UInt8.not_le.mp keeps
    obtain ⟨ends, frontier⟩ := evaluate_of_drops atNode.started counts drops
    obtain ⟨endReason, ended, rfl⟩ := atNode.recorded
    refine Or.inr ⟨keeps, ?_, ?_⟩
    · rw [completed, done, ends, Bool.true_or]
    · exact atChild.bestFrontier.trans frontier

theorem progress_further (evaluator : NesSuperMarioBrosEvaluator)
    (child : NesSuperMarioBrosState) :
    encodeSmbFrontier evaluator.bestStageIndex evaluator.bestAbsoluteX <
        encodeSmbFrontier ((evaluator.clearLevels child).coverDistance child).bestStageIndex
          ((evaluator.clearLevels child).coverDistance child).bestAbsoluteX ∨
      ((evaluator.clearLevels child).coverDistance child).distanceRewardTotal +
          ((evaluator.clearLevels child).coverDistance child).levelClearRewardTotal =
        evaluator.distanceRewardTotal + evaluator.levelClearRewardTotal := by
  have position := evaluator.bestAbsoluteX.toNat_lt
  unfold clearLevels
  split
  case isTrue further =>
    left
    unfold coverDistance
    split <;> simp only [encodeSmbFrontier] <;> omega
  case isFalse =>
    unfold coverDistance
    split
    case isTrue further =>
      left
      have beyond := UInt16.lt_iff_toNat_lt.mp further.2
      simp only [encodeSmbFrontier]
      omega
    case isFalse => exact Or.inr rfl

theorem AtNode.further (atNode : AtNode plan state summary lives execution)
    {advancedFrames : ℕ} {child : NesSuperMarioBrosState} (plays : child.phase = .gameplay)
    (normal : child.gameMode = .normal)
    (goesOn : (evaluateChild summary advancedFrames child).terminal = false)
    (higher : SmbDfsSearch.rank summary <
      SmbDfsSearch.rank (evaluateChild summary advancedFrames child)) :
    summary.bestFrontier < (evaluateChild summary advancedFrames child).bestFrontier := by
  have alive : child.lifeState = .alive := by
    by_contra dies
    exact not_ends_of_goesOn plays normal goesOn (Or.inr dies)
  rw [evaluateChild_alive summary advancedFrames plays normal alive, atNode.restored] at higher ⊢
  set evaluator := execution.gameAdapter.evaluator with evaluatorIs
  have counted : evaluator.forgetLives.countFrames ⟨advancedFrames, child⟩ =
      { evaluator.forgetLives with
        gameplayFrameCount := evaluator.gameplayFrameCount + advancedFrames } := by
    simp [countFrames, forgetLives, atNode.started, evaluatorIs]
  have progress := progress_further { evaluator.forgetLives.countFrames ⟨advancedFrames, child⟩ with
    hasLastLives := true, lastLives := child.lives } child
  rw [counted] at progress
  obtain ⟨endReason, done, recorded⟩ := atNode.recorded
  rw [recorded] at higher ⊢
  rw [advance, counted] at higher ⊢
  rcases progress with further | same
  · exact further
  · rcases Prod.Lex.toLex_lt_toLex.mp higher with further | ⟨_, score⟩
    · exact further
    · exact absurd same.symm (ne_of_lt score)

/-- **Following a path.** From a node of the path the playback goes on to its end in the search's
own states when no life is lost; otherwise it ends earlier, or less far. -/
theorem AtNode.follow {actions : List SmbSearchLegalAction} {final : S}
    {last : SmbSearchEvaluatorSummary} (branch : Branch emulator state summary actions final last)
    {front : List PlayerControlFrame}
    (frames : plan.frames = front ++ actions.map smbSearchLegalActionToPlayerControlFrame)
    (higher : ∀ before middle between action, actions = before ++ [action] →
      Branch emulator state summary before middle between →
        SmbDfsSearch.rank between < SmbDfsSearch.rank last)
    (atNode : AtNode plan state summary lives execution)
    (index : execution.playbackFrameIndex = front.length)
    (completed : execution.completed = decide (actions = []))
    (reason : execution.completed = true → execution.completionReason = some .completed) :
    (emulator.LosesNoLife state lives actions ∧ ∃ ended, Ends emulator execution ended ∧
        ended.driver = final ∧ ended.playbackFrameIndex = plan.frames.length ∧
        ended.completionReason = some .completed ∧
        ended.progress.bestFrontier = last.bestFrontier) ∨
      (¬ emulator.LosesNoLife state lives actions ∧ ∃ ended, Ends emulator execution ended ∧
        (ended.playbackFrameIndex ≠ plan.frames.length ∨
          ended.progress.bestFrontier ≠ last.bestFrontier)) := by
  induction branch generalizing front lives execution with
  | nil state summary =>
      have ended : execution.completed = true := completed
      refine Or.inl ⟨trivial, execution, .here ended, atNode.driver, ?_, reason ended,
        atNode.bestFrontier⟩
      rw [index, frames, List.map_nil, List.append_nil]
  | @cons state final summary last action actions arrival received normal goesOn rest ih =>
      have running : execution.completed = false := completed
      have next : plan.frames[execution.playbackFrameIndex]? =
          some (smbSearchLegalActionToPlayerControlFrame action) := by
        rw [index, frames, List.map_cons, List.getElem?_append_right (le_refl _), Nat.sub_self]
        rfl
      have length : plan.frames.length = front.length + 1 + actions.length := by
        rw [frames, List.length_append, List.length_map, List.length_cons]
        omega
      obtain ⟨indexThen, reasonThen, ⟨keeps, atChild, completedThen⟩ | ⟨lost, ended, frontier⟩⟩ :=
        atNode.step running next received normal goesOn
      · have onFrames : plan.frames = (front ++ [smbSearchLegalActionToPlayerControlFrame action]) ++
            actions.map smbSearchLegalActionToPlayerControlFrame := by
          rw [frames, List.map_cons, List.append_assoc]
          rfl
        have onward := ih onFrames
          (fun before middle between action' same branch => higher (action :: before) middle between
            action' (congrArg (List.cons action) same) (.cons received normal goesOn branch))
          atChild (by rw [indexThen, index, List.length_append, List.length_singleton])
          (by
            rw [completedThen, index, length]
            refine decide_eq_decide.mpr ⟨fun long => List.eq_nil_of_length_eq_zero (by omega), ?_⟩
            rintro rfl
            exact le_refl _)
          reasonThen
        rw [Emulator.LosesNoLife, received]
        rcases onward with ⟨loses, final', ends, facts⟩ | ⟨loses, final', ends, facts⟩
        · exact Or.inl ⟨⟨keeps, loses⟩, final', .tick running ends, facts⟩
        · exact Or.inr ⟨fun all => loses all.2, final', .tick running ends, facts⟩
      · rw [Emulator.LosesNoLife, received]
        refine Or.inr ⟨fun all => lost all.1, _, .tick running (.here ended), ?_⟩
        cases actions with
        | cons later actions =>
            left
            rw [indexThen, index, length, List.length_cons]
            omega
        | nil =>
            -- The last frame: the search went further there, the playback did not.
            right
            cases rest
            rw [frontier]
            exact ne_of_lt (atNode.further (gameplay_of_normal normal) normal goesOn
              (higher [] state summary action rfl (.nil state summary)))

theorem Mirrors.captured {planId : UUID} {capture : RootCapture S} {root : SmbDfsSearch.Root S}
    (mirrors : Mirrors plan capture execution) (first : plan.frames[0]? = some setupFrame)
    (captured : capture.turn emulator planId = .captured root)
    (dated : capture.gameAdapter.evaluator.Dated) {snapshot : MemorySnapshot}
    (shown : root.memorySnapshot = some snapshot) :
    AtNode plan root.savestate root.evaluatorSummary (livesOf snapshot)
        (execution.tick emulator).1 ∧
      (execution.tick emulator).1.playbackFrameIndex = 1 ∧
      (execution.tick emulator).1.completed =
        (root.evaluatorSummary.terminal || decide (1 ≥ plan.frames.length)) ∧
      ((execution.tick emulator).1.completed = true →
        (execution.tick emulator).1.completionReason = some .completed) := by
  obtain ⟨healthy, advances, gameplay, rfl⟩ := of_captured captured
  have playsOn : (execution.nextPlayed emulator setupFrame).stopped = false :=
    mirrors.nextPlayed ▸ healthy
  obtain ⟨playing, ticked⟩ :=
    tick_playing mirrors.playing mirrors.running (mirrors.index ▸ first) playsOn
  rw [mirrors.nextPlayed] at ticked
  have settles := (ticked.resolve_right fun stalls => advances stalls.1).2
  set played := capture.play emulator with playedIs
  obtain ⟨inGameplay, unscripted⟩ := of_decide_eq_true gameplay
  have before : capture.lastGameState = some 1 :=
    (capture.gameAdapter.source_resolveControllerMask _ _).mp unscripted
  have snapshotIs : played.stepResult.memorySnapshot = some snapshot := shown
  have evaluated : (played.gameAdapter, played.evaluation) = execution.gameAdapter.evaluateFrame
      played.stepResult.advancedFrames (some snapshot) := by
    rw [← snapshotIs, mirrors.gameAdapter]
    rfl
  have reported : played.evaluation = (execution.gameAdapter.evaluateFrame
      played.stepResult.advancedFrames (some snapshot)).2 := congrArg Prod.snd evaluated
  have merged : played.lastGameState = played.evaluation.gameState.or capture.lastGameState := rfl
  have gameState : played.evaluation.gameState = some 1 := by
    rw [merged, reported, NesSuperMarioBrosGameAdapter.gameState_evaluateFrame] at inGameplay
    rw [reported, NesSuperMarioBrosGameAdapter.gameState_evaluateFrame]
    split at inGameplay
    case isTrue plays => exact if_pos plays
    case isFalse => exact absurd (show (0 : UInt8) = 1 from inGameplay) (by decide)
  have noted : played.lastGameState = some 1 := by
    rw [merged, gameState]
    rfl
  rw [reported] at gameState
  obtain ⟨late, other, same, plays⟩ := execution.gameAdapter.of_gameState_evaluateFrame gameState
  cases same
  obtain ⟨atRoot, done⟩ := AtNode.of_settles (mirrors.gameAdapter ▸ dated) late plays evaluated
    noted playing settles
  have summary : (capture.rootOf planId played).evaluatorSummary =
      buildSmbSearchEvaluatorSummary (execution.gameAdapter.evaluator.evaluate
        ⟨played.stepResult.advancedFrames, RamExtractor.extract snapshot true⟩).2 (some 1) := by
    unfold RootCapture.rootOf
    rw [noted, reported, NesSuperMarioBrosGameAdapter.evaluateFrame_playing _ late plays]
    rfl
  have index : (execution.tick emulator).1.playbackFrameIndex = 1 := by
    rw [settles.index, gameplay, mirrors.index]
    rfl
  rw [summary]
  refine ⟨atRoot, index, ?_, settles.reason⟩
  rw [settles.completed, index, mirrors.playing.plan, done]
  rfl

end

section

variable {emulator : Emulator S} {planId : UUID} {root : SmbDfsSearch.Root S}

theorem rootPrefixFrames_captured {turns : ℕ} {capture : RootCapture S}
    (captured : RootCapture.captureRoot emulator planId turns capture = .ok root) :
    root.rootPrefixFrames = capture.capturedPrefixFrames ++ [setupFrame] := by
  induction turns generalizing capture with
  | zero => exact absurd captured nofun
  | succ turns ih =>
      rw [RootCapture.captureRoot] at captured
      cases turned : capture.turn emulator planId with
      | failed message =>
          rw [turned] at captured
          exact absurd captured nofun
      | captured found =>
          rw [turned] at captured
          obtain rfl := Except.ok.inj captured
          obtain ⟨_, _, _, rfl⟩ := of_captured turned
          rfl
      | passed next =>
          rw [turned] at captured
          rw [ih captured]
          obtain ⟨_, ⟨_, rfl⟩ | ⟨_, _, rfl⟩⟩ := of_passed turned <;> rfl

theorem replays_branch_iff {plan : Plan} {actions : List SmbSearchLegalAction} {final : S}
    {last : SmbSearchEvaluatorSummary}
    (captured : RootCapture.rootFrom emulator planId = .ok root)
    {snapshot : MemorySnapshot} (shown : root.memorySnapshot = some snapshot)
    (branch : Branch emulator root.savestate root.evaluatorSummary actions final last)
    (higher : ∀ before middle between action, actions = before ++ [action] →
      Branch emulator root.savestate root.evaluatorSummary before middle between →
        SmbDfsSearch.rank between < SmbDfsSearch.rank last)
    (frames : plan.frames =
      root.rootPrefixFrames ++ actions.map smbSearchLegalActionToPlayerControlFrame)
    (frontier : plan.summary.bestFrontier = last.bestFrontier) :
    Replays emulator plan final ↔ Unbroken emulator planId root actions := by
  have oneFrame : root.rootPrefixFrames = [setupFrame] := rootPrefixFrames_captured captured
  have first : plan.frames[0]? = some setupFrame := by
    rw [frames, oneFrame]
    rfl
  have length : plan.frames.length = 1 + actions.length := by
    rw [frames, oneFrame, List.length_append, List.length_map, List.length_singleton]
  have start : Mirrors plan { driver := emulator.powerOn } (startPlayback emulator plan) :=
    ⟨⟨rfl, rfl, rfl⟩, rfl, rfl, rfl, rfl, rfl⟩
  have fresh : ({} : NesSuperMarioBrosEvaluator).Dated := ⟨le_refl 0, by decide⟩
  rcases start.run first captured fresh with
    ⟨passes, last, arrived, there, dated, turned, onward⟩ | ⟨broken, ended, ends, index⟩
  · obtain ⟨atRoot, index, completed, reason⟩ := there.captured first turned dated shown
    have arrives : ∀ final, Ends emulator (arrived.tick emulator).1 final →
        Ends emulator (startPlayback emulator plan) final :=
      fun final ends => onward final (.tick there.running ends)
    by_cases rootGoesOn : actions ≠ [] → root.evaluatorSummary.terminal = false
    · have goesOn : (arrived.tick emulator).1.completed = decide (actions = []) := by
        rw [completed, length]
        cases actions with
        | nil => exact Bool.or_true _
        | cons action actions =>
            rw [rootGoesOn (List.cons_ne_nil _ _), Bool.false_or]
            exact decide_eq_decide.mpr ⟨fun long => by rw [List.length_cons] at long; omega, nofun⟩
      have followed := AtNode.follow branch frames higher atRoot
        (by rw [index, oneFrame, List.length_singleton]) goesOn reason
      rcases followed with ⟨loses, ended, ends, driver, consumed, why, further⟩ |
        ⟨loses, ended, ends, short⟩
      · refine iff_of_true ⟨ended, arrives ended ends, driver, consumed, why,
          further.trans frontier.symm⟩ ⟨passes, rootGoesOn, ?_⟩
        intro other same
        obtain rfl := Option.some.inj (same.symm.trans shown)
        exact loses
      · refine iff_of_false ?_ fun unbroken => loses (unbroken.losesNoLife snapshot shown)
        rintro ⟨final, ending, replayed⟩
        obtain rfl := ending.unique (arrives ended ends)
        exact short.elim (fun fewer => fewer replayed.consumed)
          fun nearer => nearer (replayed.bestFrontier.trans frontier)
    · refine iff_of_false ?_ fun unbroken => rootGoesOn unbroken.rootGoesOn
      obtain ⟨more, terminal⟩ := Classical.not_imp.mp rootGoesOn
      have stops : (arrived.tick emulator).1.completed = true := by
        rw [completed, Bool.eq_true_of_not_eq_false terminal, Bool.true_or]
      rintro ⟨final, ending, replayed⟩
      obtain rfl := ending.unique (arrives _ (.here stops))
      have consumed := replayed.consumed
      rw [index, length] at consumed
      exact more (List.eq_nil_of_length_eq_zero (by omega))
  · refine iff_of_false ?_ fun unbroken => broken unbroken.passes
    rintro ⟨final, ending, replayed⟩
    obtain rfl := ending.unique ends
    have consumed := replayed.consumed
    rw [index, length] at consumed
    omega

/-- **A found plan can be replayed.** Whatever the options, the calls and the moment, the plan of a
search leads to its best leaf, the search has at every node on the way what the emulator leads to,
and playing the plan from power-on feeds the emulator the same masks through the same states to
the same end exactly when no frame before the root ends the episode, nor the root's own unless it
is the leaf, and no life is lost from there on. -/
theorem replays_iff {emulator : Emulator S} {options : SmbDfsSearchOptions} {planId : UUID}
    {first search : SmbDfsSearch (Recorded S)} {calls : List (SmbDfsSearch.Call (Recorded S))}
    (started : SmbDfsSearch.startDfs emulator.recorded options planId = .ok first)
    (run : ((SmbDfsSearch.machine (Recorded S)).guarded
      (SmbDfsSearch.Plays emulator.recorded)).Run first calls search) :
    ∃ root leaf actions final summary,
      RootCapture.rootFrom emulator.recorded planId = .ok root ∧
      search.bestLeafIndex = some leaf ∧ (treeOf search.nodes).Path leaf actions ∧
      Branch emulator.recorded root.savestate root.evaluatorSummary actions final summary ∧
      search.PlaysEmulator emulator.recorded root ∧
      (root.memorySnapshot.isSome → (Replays emulator.recorded search.plan final ↔
        Unbroken emulator.recorded planId root actions)) := by
  obtain ⟨root, captured, rfl⟩ : ∃ root, RootCapture.rootFrom emulator.recorded planId = .ok root ∧
      first = SmbDfsSearch.start options root := by
    unfold SmbDfsSearch.startDfs at started
    cases captured : RootCapture.rootFrom emulator.recorded planId with
    | error message =>
        rw [captured] at started
        exact absurd started nofun
    | ok root =>
        rw [captured] at started
        exact ⟨root, rfl, (Except.ok.inj started).symm⟩
  obtain ⟨knows, plays⟩ := SmbDfsSearch.playsEmulator_of_run run
  obtain ⟨leaf, summary, leads⟩ := knows.leads
  have present := SmbDfsSearch.lt_length_of_summaryAt leads.found
  obtain ⟨actions, path⟩ :=
    knows.planted.grown.exists_path (by rw [length_treeOf]; exact present)
  obtain ⟨node, final, found, branch, _⟩ := plays.branch leaf actions leads.alive path
  have isSummary : node.evaluatorSummary = summary := by
    have known := leads.found
    rw [SmbDfsSearch.summaryAt, found] at known
    exact Option.some.inj known
  rw [isSummary] at branch
  refine ⟨root, leaf, actions, final, summary, captured, leads.isBest, path, branch, plays, ?_⟩
  intro shown
  obtain ⟨snapshot, isSnapshot⟩ := Option.isSome_iff_exists.mp shown
  refine replays_branch_iff captured isSnapshot branch ?_ ?_ leads.planFrontier
  · -- The leaf ranks above its parent, which came alive before it.
    rintro before middle between action rfl above
    obtain ⟨parent, abovePath, edge⟩ : ∃ parent, (treeOf search.nodes).Path parent before ∧
        (treeOf search.nodes).IsChild parent action leaf := by
      generalize same : before ++ [action] = labels at path
      cases path with
      | root => exact absurd same (by simp)
      | @step parent _ label labels abovePath edge =>
          obtain ⟨rfl, single⟩ := List.append_inj' same rfl
          obtain rfl := (List.cons.inj single).1
          exact ⟨parent, abovePath, edge⟩
    have alive := plays.parents parent action leaf edge leads.alive
    obtain ⟨parentNode, _, parentFound, parentBranch, _⟩ :=
      plays.branch parent before alive abovePath
    obtain ⟨_, rfl⟩ := above.unique parentBranch
    refine leads.earliest parent _ alive ?_ (knows.planted.grown.parent_lt edge)
    rw [SmbDfsSearch.summaryAt, parentFound, Option.map_some]
  · rw [leads.frames actions path, plays.prefixFrames]

def titleSnapshot : MemorySnapshot := .blank

/-- A console that shows its title for a number of frames before the player stands in a stage. -/
def titleEmulator (titleFrames : ℕ) : Emulator ℕ where
  powerOn := 0
  step frame _ :=
    (frame + 1,
      { advancedFrames := 1
        runtimeHealthy := true
        runtimeRunning := true
        memorySnapshot :=
          some (if frame < titleFrames then titleSnapshot else SmbDfsSearch.standingSnapshot)
        scenarioVideoFrame := none
        lastError := "" })
  frameSnapshot _ := none

theorem exists_root {S : Type} (emulator : Emulator S)
    (found : ((RootCapture.rootFrom emulator UUID.nil).toOption.bind
      SmbDfsSearch.Root.memorySnapshot).isSome = true) :
    ∃ root, RootCapture.rootFrom emulator UUID.nil = .ok root ∧ root.memorySnapshot.isSome := by
  cases captured : RootCapture.rootFrom emulator UUID.nil with
  | error message =>
      rw [captured] at found
      exact absurd found Bool.false_ne_true
  | ok root =>
      rw [captured] at found
      exact ⟨root, rfl, found⟩

theorem replays_iff_titled : ∃ search final,
    SmbDfsSearch.startDfs (titleEmulator 0).recorded {} UUID.nil = .ok search ∧
      Replays (titleEmulator 0).recorded search.plan final := by
  obtain ⟨root, captured, shown⟩ :=
    exists_root (titleEmulator 0).recorded (by decide +kernel)
  have started : SmbDfsSearch.startDfs (titleEmulator 0).recorded {} UUID.nil =
      .ok (SmbDfsSearch.start {} root) := by
    rw [SmbDfsSearch.startDfs, captured]
    rfl
  obtain ⟨other, leaf, actions, final, summary, same, isBest, path, _, _, replays⟩ :=
    replays_iff started (.nil _)
  obtain rfl := Except.ok.inj (captured.symm.trans same)
  obtain rfl := Option.some.inj isBest
  obtain rfl := path.unique (.root rfl)
  refine ⟨_, final, started, (replays shown).mpr ⟨?_, fun more => absurd rfl more, fun _ _ => trivial⟩⟩
  decide +kernel

/-- A title that is shown for too long ends the playback, but not the capture of the root. -/
theorem not_replays_titled :
    ¬ ∀ (emulator : Emulator ℕ) (options : SmbDfsSearchOptions) (planId : UUID)
      (root : SmbDfsSearch.Root (Recorded ℕ)) (first search : SmbDfsSearch (Recorded ℕ))
      (calls : List (SmbDfsSearch.Call (Recorded ℕ))) (leaf : ℕ)
      (actions : List SmbSearchLegalAction) (final : Recorded ℕ)
      (summary : SmbSearchEvaluatorSummary),
      RootCapture.rootFrom emulator.recorded planId = .ok root →
      SmbDfsSearch.startDfs emulator.recorded options planId = .ok first →
      ((SmbDfsSearch.machine (Recorded ℕ)).guarded
        (SmbDfsSearch.Plays emulator.recorded)).Run first calls search →
      search.bestLeafIndex = some leaf → (treeOf search.nodes).Path leaf actions →
      Branch emulator.recorded root.savestate root.evaluatorSummary actions final summary →
        Replays emulator.recorded search.plan final := by
  intro always
  obtain ⟨root, captured, shown⟩ :=
    exists_root (titleEmulator 550).recorded (by decide +kernel)
  obtain ⟨snapshot, isSnapshot⟩ := Option.isSome_iff_exists.mp shown
  have started : SmbDfsSearch.startDfs (titleEmulator 550).recorded {} UUID.nil =
      .ok (SmbDfsSearch.start {} root) := by
    rw [SmbDfsSearch.startDfs, captured]
    rfl
  have replays := always (titleEmulator 550) {} UUID.nil root _ _ [] 0 [] root.savestate
    root.evaluatorSummary captured started (.nil _) rfl (.root rfl) (.nil _ _)
  obtain ⟨leaf, summary, leads⟩ := (SmbDfsSearch.knowsBest_start {} root).leads
  obtain rfl : 0 = leaf := Option.some.inj leads.isBest
  have unbroken := (replays_branch_iff captured isSnapshot (.nil _ _)
    (fun before _ _ action same _ => absurd same (by simp)) (leads.frames [] (.root rfl))
    rfl).mp replays
  exact absurd unbroken.passes (by decide +kernel)

end

end SmbPlanExecution

end DirtSim
