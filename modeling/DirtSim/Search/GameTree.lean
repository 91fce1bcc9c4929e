import DirtSim.Foundation.Within
import DirtSim.Search.TickEffect

/-! # The tree a game unfolds

Without transpositions a search expands a tree that depends on the game and the options alone
(`Expands`). Where the game looks the same, a node that is no worse in any count unfolds everything
the other one does (`Covers.expands`).
-/

namespace DirtSim

open Foundation

variable {S : Type}

/-! ## What the search sees -/

/-- Two states the search cannot tell apart. -/
structure NesSuperMarioBrosState.Alike (one other : NesSuperMarioBrosState) : Prop where
  phase : one.phase = other.phase
  gameMode : one.gameMode = other.gameMode
  lifeState : one.lifeState = other.lifeState
  airborne : one.airborne = other.airborne
  horizontalSpeedNormalized : one.horizontalSpeedNormalized = other.horizontalSpeedNormalized
  verticalSpeedNormalized : one.verticalSpeedNormalized = other.verticalSpeedNormalized
  facingX : one.facingX = other.facingX
  movementX : one.movementX = other.movementX
  absoluteX : one.absoluteX = other.absoluteX
  world : one.world = other.world
  level : one.level = other.level
  playerYScreen : one.playerYScreen = other.playerYScreen

/-- Two snapshots of the same mode and position. -/
structure SameSeen (one other : MemorySnapshot) : Prop where
  gameMode : (RamExtractor.extract one true).gameMode = (RamExtractor.extract other true).gameMode
  position : positionOf (RamExtractor.extract one true) one =
    positionOf (RamExtractor.extract other true) other

theorem encodeAxisSign_decodeFacingX (byte : UInt8) :
    encodeAxisSign (RamExtractor.decodeFacingX byte) = RamExtractor.decodeFacingX byte := by
  rw [RamExtractor.decodeFacingX]
  split
  · rfl
  · split <;> rfl

theorem cpuRam_eq_of_ramBytes {one other : MemorySnapshot} (address : Fin 8192)
    (same : buildClosedLossTranspositionRamBytes one = buildClosedLossTranspositionRamBytes other)
    (recorded : address ∈ kClosedLossTranspositionRamByteAddrs)
    (kept : isClosedLossTranspositionInputMirrorRamAddr address = false) :
    one.cpuRam address = other.cpuRam address := by
  have bytes := List.map_inj_left.mp same address recorded
  rwa [if_neg (Bool.eq_false_iff.mp kept), if_neg (Bool.eq_false_iff.mp kept)] at bytes

theorem SameSeen.alike {one other : MemorySnapshot} (seen : SameSeen one other) :
    (RamExtractor.extract one true).Alike (RamExtractor.extract other true) := by
  have ramBytes := congrArg ClosedLossTranspositionKey.ramBytes seen.position
  have shape := congrArg ClosedLossTranspositionKey.toClosedLossTranspositionShapeKey seen.position
  have facing := congrArg ClosedLossTranspositionShapeKey.facingX shape
  have movement := congrArg ClosedLossTranspositionShapeKey.movementX shape
  have playerState := cpuRam_eq_of_ramBytes 0x000E ramBytes (by decide) (by decide)
  have floatState := cpuRam_eq_of_ramBytes 0x001D ramBytes (by decide) (by decide)
  have horizontal := cpuRam_eq_of_ramBytes 0x0057 ramBytes (by decide) (by decide)
  have vertical := cpuRam_eq_of_ramBytes 0x009F ramBytes (by decide) (by decide)
  exact {
    phase := by
      have mode := seen.gameMode
      simp only [RamExtractor.extract] at mode ⊢
      rw [mode]
    gameMode := seen.gameMode
    lifeState := by simp [RamExtractor.extract, playerState]
    airborne := by simp [RamExtractor.extract, floatState]
    horizontalSpeedNormalized := by simp [RamExtractor.extract, horizontal]
    verticalSpeedNormalized := by simp [RamExtractor.extract, vertical]
    facingX := by
      simp only [positionOf, RamExtractor.extract, encodeAxisSign_decodeFacingX] at facing
      exact facing
    movementX := by
      simp only [positionOf, RamExtractor.extract, encodeAxisSign_decodeFacingX] at movement
      exact movement
    absoluteX := congrArg ClosedLossTranspositionShapeKey.absoluteX shape
    world := congrArg ClosedLossTranspositionShapeKey.world shape
    level := congrArg ClosedLossTranspositionShapeKey.level shape
    playerYScreen := congrArg ClosedLossTranspositionShapeKey.playerYScreen shape }

/-! ## Evaluating alike -/

namespace NesSuperMarioBrosEvaluator

/-- An evaluator as far as another one, no later and no longer without progress. -/
structure Ahead (one other : NesSuperMarioBrosEvaluator) : Prop where
  bestStageIndex : one.bestStageIndex = other.bestStageIndex
  bestAbsoluteX : one.bestAbsoluteX = other.bestAbsoluteX
  gameplayFrameCount : one.gameplayFrameCount ≤ other.gameplayFrameCount
  progressed : one.lastProgressFrame ≤ one.gameplayFrameCount
  otherProgressed : other.lastProgressFrame ≤ other.gameplayFrameCount
  framesSinceProgress : one.gameplayFrameCount - one.lastProgressFrame ≤
    other.gameplayFrameCount - other.lastProgressFrame

variable {one other : NesSuperMarioBrosEvaluator} {first second : NesSuperMarioBrosState}

theorem getStageIndex_alike (alike : first.Alike second) :
    getStageIndex first = getStageIndex second := by
  rw [getStageIndex, getStageIndex, alike.world, alike.level]

theorem Ahead.clearLevels (ahead : Ahead one other) (alike : first.Alike second) :
    Ahead (one.clearLevels first) (other.clearLevels second) := by
  rw [NesSuperMarioBrosEvaluator.clearLevels, NesSuperMarioBrosEvaluator.clearLevels,
    getStageIndex_alike alike, ahead.bestStageIndex]
  split
  · exact ⟨rfl, rfl, ahead.gameplayFrameCount, le_refl _, le_refl _, by simp⟩
  · exact ahead

theorem Ahead.coverDistance (ahead : Ahead one other) (alike : first.Alike second) :
    Ahead (one.coverDistance first) (other.coverDistance second) := by
  rw [NesSuperMarioBrosEvaluator.coverDistance, NesSuperMarioBrosEvaluator.coverDistance,
    getStageIndex_alike alike, ahead.bestStageIndex, alike.absoluteX, ahead.bestAbsoluteX]
  split
  · exact ⟨rfl, rfl, ahead.gameplayFrameCount, le_refl _, le_refl _, by simp⟩
  · exact ahead

def advance (evaluator : NesSuperMarioBrosEvaluator) (input : NesSuperMarioBrosEvaluatorInput) :
    NesSuperMarioBrosEvaluator :=
  (({ evaluator.countFrames input with
    hasLastLives := true, lastLives := input.state.lives }).clearLevels input.state).coverDistance
      input.state

theorem evaluate_alive (evaluator : NesSuperMarioBrosEvaluator)
    (input : NesSuperMarioBrosEvaluatorInput) (unknown : evaluator.hasLastLives = false)
    (plays : input.state.phase = .gameplay) (normal : input.state.gameMode = .normal)
    (lives : input.state.lifeState = .alive) :
    evaluator.evaluate input = (evaluator.advance input,
      (evaluator.advance input).makeSnapshot
        ((evaluator.advance input).endReasonAlive input.state)
        ((evaluator.advance input).endReasonAlive input.state ≠ .none)) := by
  have stillUnknown : (evaluator.countFrames input).hasLastLives = false := by
    rw [countFrames]
    split <;> exact unknown
  have goesOn : ¬ (input.state.gameMode = .endGame ∨ input.state.lifeState ≠ .alive) := by
    rw [normal, lives]
    exact fun ended => ended.elim SmbGameMode.noConfusion fun dead => dead rfl
  rw [evaluate]
  dsimp only
  rw [if_neg (fun stops => stops.1 plays), stillUnknown,
    if_neg (fun lost => Bool.false_ne_true lost.1), if_neg goesOn]
  rfl

theorem done_of_not_alive (evaluator : NesSuperMarioBrosEvaluator)
    (input : NesSuperMarioBrosEvaluatorInput) (plays : input.state.phase = .gameplay)
    (dies : input.state.lifeState ≠ .alive) : (evaluator.evaluate input).2.done = true := by
  simp only [evaluate, plays, ne_eq, not_true_eq_false, false_and, ↓reduceIte, dies,
    not_false_eq_true, or_true]
  split <;> rfl

theorem Ahead.countFrames (ahead : Ahead one other) (known : one.hasBestProgress = true)
    (otherKnown : other.hasBestProgress = true) (advancedFrames : ℕ) :
    Ahead (one.countFrames ⟨advancedFrames, first⟩) (other.countFrames ⟨advancedFrames, second⟩) := by
  obtain ⟨stage, absoluteX, count, progressed, otherProgressed, since⟩ := ahead
  simp only [NesSuperMarioBrosEvaluator.countFrames, known, otherKnown, ↓reduceIte]
  exact ⟨stage, absoluteX, by dsimp only; omega, by dsimp only; omega, by dsimp only; omega,
    by dsimp only; omega⟩

theorem Ahead.advance (ahead : Ahead one other) (known : one.hasBestProgress = true)
    (otherKnown : other.hasBestProgress = true) (alike : first.Alike second)
    (advancedFrames : ℕ) :
    Ahead (one.advance ⟨advancedFrames, first⟩) (other.advance ⟨advancedFrames, second⟩) := by
  have counted : Ahead (one.countFrames ⟨advancedFrames, first⟩)
      (other.countFrames ⟨advancedFrames, second⟩) :=
    ahead.countFrames known otherKnown advancedFrames
  obtain ⟨stage, absoluteX, count, progressed, otherProgressed, since⟩ := counted
  refine Ahead.coverDistance (Ahead.clearLevels ?_ alike) alike
  exact ⟨stage, absoluteX, count, progressed, otherProgressed, since⟩

end NesSuperMarioBrosEvaluator

/-- A summary as far as another one, in no more frames and no longer without progress. -/
structure SmbSearchEvaluatorSummary.Ahead (one other : SmbSearchEvaluatorSummary) : Prop where
  bestFrontier : one.bestFrontier = other.bestFrontier
  gameplayFrames : one.gameplayFrames ≤ other.gameplayFrames
  framesSinceProgress : one.gameplayFramesSinceProgress ≤ other.gameplayFramesSinceProgress

section

variable {parent other : SmbSearchEvaluatorSummary} {advancedFrames : ℕ}
  {state first second : NesSuperMarioBrosState}

theorem restoredEvaluator_hasLastLives (summary : SmbSearchEvaluatorSummary) :
    (restoredEvaluator summary).hasLastLives = false := by
  rw [restoredEvaluator]
  split <;> rfl

theorem evaluateChild_alive (parent : SmbSearchEvaluatorSummary) (advancedFrames : ℕ)
    (plays : state.phase = .gameplay) (normal : state.gameMode = .normal)
    (lives : state.lifeState = .alive) :
    evaluateChild parent advancedFrames state = buildSmbSearchEvaluatorSummary
      (((restoredEvaluator parent).advance ⟨advancedFrames, state⟩).makeSnapshot
        (((restoredEvaluator parent).advance ⟨advancedFrames, state⟩).endReasonAlive state)
        (((restoredEvaluator parent).advance ⟨advancedFrames, state⟩).endReasonAlive state ≠ .none))
      (some 1) := by
  rw [evaluateChild, NesSuperMarioBrosEvaluator.evaluate_alive _ _
    (restoredEvaluator_hasLastLives parent) plays normal lives, if_pos plays]

theorem terminal_evaluateChild (parent : SmbSearchEvaluatorSummary) (advancedFrames : ℕ)
    (plays : state.phase = .gameplay) (normal : state.gameMode = .normal)
    (lives : state.lifeState = .alive) :
    (evaluateChild parent advancedFrames state).terminal = true ↔
      state.playerYScreen ≥ NesSuperMarioBrosEvaluator.kBelowScreenTerminalPlayerYScreenThreshold ∨
        (evaluateChild parent advancedFrames state).gameplayFramesSinceProgress ≥
          NesSuperMarioBrosEvaluator.kNoProgressTimeoutFrames := by
  rw [evaluateChild_alive parent advancedFrames plays normal lives]
  refine decide_eq_true_iff.trans ?_
  simp only [buildSmbSearchEvaluatorSummary, NesSuperMarioBrosEvaluator.makeSnapshot,
    NesSuperMarioBrosEvaluator.endReasonAlive]
  split
  · rename_i fell
    exact iff_of_true SmbEpisodeEndReason.noConfusion (Or.inl fell)
  · rename_i above
    split
    · rename_i late
      exact iff_of_true SmbEpisodeEndReason.noConfusion (Or.inr late)
    · rename_i early
      exact iff_of_false (fun ends => ends rfl) (not_or.mpr ⟨above, early⟩)

theorem terminal_of_not_alive (parent : SmbSearchEvaluatorSummary) (advancedFrames : ℕ)
    (plays : state.phase = .gameplay) (dies : state.lifeState ≠ .alive) :
    (evaluateChild parent advancedFrames state).terminal = true :=
  NesSuperMarioBrosEvaluator.done_of_not_alive _ _ plays dies

theorem SmbSearchEvaluatorSummary.Ahead.evaluateChild (ahead : parent.Ahead other)
    (plays : parent.gameState = some 1) (otherPlays : other.gameState = some 1)
    (alike : first.Alike second) (gameplay : second.phase = .gameplay)
    (normal : second.gameMode = .normal) (lives : second.lifeState = .alive) :
    (evaluateChild parent advancedFrames first).Ahead
      (evaluateChild other advancedFrames second) := by
  have restored : (restoredEvaluator parent).Ahead (restoredEvaluator other) := by
    obtain ⟨frontier, frames, since⟩ := ahead
    rw [restoredEvaluator, restoredEvaluator, plays, otherPlays, Option.getD_some, if_pos rfl,
      if_pos rfl, frontier]
    exact ⟨rfl, rfl, frames, Nat.sub_le _ _, Nat.sub_le _ _, by
      simp only [NesSuperMarioBrosEvaluator.restoreProgress]
      omega⟩
  have known : ∀ {summary : SmbSearchEvaluatorSummary}, summary.gameState = some 1 →
      (restoredEvaluator summary).hasBestProgress = true := by
    intro summary playing
    rw [restoredEvaluator, playing, Option.getD_some, if_pos rfl]
    rfl
  have advanced := restored.advance (known plays) (known otherPlays) alike advancedFrames
  rw [evaluateChild_alive parent advancedFrames (alike.phase.trans gameplay)
    (alike.gameMode.trans normal) (alike.lifeState.trans lives),
    evaluateChild_alive other advancedFrames gameplay normal lives]
  exact ⟨by
    simp [buildSmbSearchEvaluatorSummary, NesSuperMarioBrosEvaluator.makeSnapshot,
      advanced.bestStageIndex, advanced.bestAbsoluteX],
    advanced.gameplayFrameCount, advanced.framesSinceProgress⟩

end

/-! ## The tree -/

def Produced (driver : Driver S) (arrival : Arrival S) : Prop :=
  ∃ savestate action, (driver savestate action).receive = .ok arrival

def Arrival.key (arrival : Arrival S) : Option ClosedLossTranspositionKey :=
  buildClosedLossTranspositionKey {} (RamExtractor.extract arrival.memorySnapshot true)
    arrival.memorySnapshot

/-- Where two arrivals are at one position, every action takes the game on in the same way as far
as the search can see. -/
def Respects (driver : Driver S) : Prop :=
  ∀ one other : Arrival S, Produced driver one → Produced driver other →
    ∀ key, one.key = some key → other.key = some key →
      ∀ action next, (driver (some one.savestate) action).receive = .ok next →
        ∃ same, (driver (some other.savestate) action).receive = .ok same ∧
          same.advancedFrames = next.advancedFrames ∧
            SameSeen same.memorySnapshot next.memorySnapshot

def childOf (options : SmbDfsSearchOptions) (parent : SmbSearchNode S)
    (action : SmbSearchLegalAction) (arrival : Arrival S) : SmbSearchNode S :=
  (judgeArrival {} options 0 parent action arrival).child

def orderingOf (options : SmbDfsSearchOptions) (node : SmbSearchNode S) :
    SmbSearchActionOrdering :=
  match node.actionFromParent with
  | none => buildDfsActionOrder false 0 .none none options.groundedVerticalJumpPrioritizationEnabled
  | some action => (SmbDfsSearch.childFrame options 0 (RamExtractor.extract node.memorySnapshot true) action true
      .none).actionOrdering

/-- A node that is expanded unless its position is known to be lost. -/
structure Viable (options : SmbDfsSearchOptions) (node : SmbSearchNode S) : Prop where
  goesOn : node.evaluatorSummary.terminal = false
  normal : (RamExtractor.extract node.memorySnapshot true).gameMode = .normal
  moves : node.velocityStuckFrameCount < kVelocityPruneConsecutiveFrameThreshold
  progresses : node.evaluatorSummary.gameplayFramesSinceProgress < options.stallFrameLimit

def Expands (driver : Driver S) (options : SmbDfsSearchOptions)
    (node child : SmbSearchNode S) : Prop :=
  ∃ action ∈ (orderingOf options node).actions, ∃ arrival,
    (driver node.savestate action).receive = .ok arrival ∧
      child = childOf options node action arrival ∧ Viable options child

def Born (driver : Driver S) (options : SmbDfsSearchOptions) (node : SmbSearchNode S) : Prop :=
  ∃ (parent : SmbSearchNode S) (action : SmbSearchLegalAction) (arrival : Arrival S),
    (driver parent.savestate action).receive = .ok arrival ∧
      node = childOf options parent action arrival

section

variable {driver : Driver S} {options : SmbDfsSearchOptions}
  {known node child parent : SmbSearchNode S} {action : SmbSearchLegalAction}
  {arrival : Arrival S}

theorem gameplay_of_normal {snapshot : MemorySnapshot}
    (normal : (RamExtractor.extract snapshot true).gameMode = .normal) :
    (RamExtractor.extract snapshot true).phase = .gameplay :=
  if_pos ⟨rfl, normal⟩

theorem Viable.lives (viable : Viable options node) (born : Born driver options node) :
    (RamExtractor.extract node.memorySnapshot true).lifeState = .alive := by
  obtain ⟨parent, action, arrival, _, rfl⟩ := born
  refine not_not.mp fun dies => ?_
  have terminal := terminal_of_not_alive parent.evaluatorSummary arrival.advancedFrames
    (gameplay_of_normal viable.normal) dies
  have goesOn := viable.goesOn
  exact Bool.false_ne_true (goesOn.symm.trans terminal)

theorem Viable.gameState (viable : Viable options node) (born : Born driver options node) :
    node.evaluatorSummary.gameState = some 1 := by
  have lives := viable.lives born
  have plays := gameplay_of_normal viable.normal
  obtain ⟨parent, action, arrival, _, rfl⟩ := born
  exact if_pos plays

/-- A node covers another one that it is no worse than. -/
structure Covers (driver : Driver S) (options : SmbDfsSearchOptions)
    (known node : SmbSearchNode S) : Prop where
  knownBorn : Born driver options known
  nodeBorn : Born driver options node
  seen : SameSeen known.memorySnapshot node.memorySnapshot
  viable : Viable options node
  ahead : known.evaluatorSummary.Ahead node.evaluatorSummary
  velocityStuckFrameCount : known.velocityStuckFrameCount ≤ node.velocityStuckFrameCount

theorem Born.terminal_iff (born : Born driver options node)
    (normal : (RamExtractor.extract node.memorySnapshot true).gameMode = .normal)
    (lives : (RamExtractor.extract node.memorySnapshot true).lifeState = .alive) :
    node.evaluatorSummary.terminal = true ↔
      (RamExtractor.extract node.memorySnapshot true).playerYScreen ≥
          NesSuperMarioBrosEvaluator.kBelowScreenTerminalPlayerYScreenThreshold ∨
        node.evaluatorSummary.gameplayFramesSinceProgress ≥
          NesSuperMarioBrosEvaluator.kNoProgressTimeoutFrames := by
  obtain ⟨parent, action, arrival, _, rfl⟩ := born
  exact terminal_evaluateChild parent.evaluatorSummary arrival.advancedFrames
    (gameplay_of_normal normal) normal lives

theorem Covers.known_viable (covers : Covers driver options known node) :
    Viable options known := by
  have alike := covers.seen.alike
  have lives := covers.viable.lives covers.nodeBorn
  have normal := alike.gameMode.trans covers.viable.normal
  refine ⟨?_, normal, Nat.lt_of_le_of_lt covers.velocityStuckFrameCount covers.viable.moves,
    Nat.lt_of_le_of_lt covers.ahead.framesSinceProgress covers.viable.progresses⟩
  refine Bool.eq_false_iff.mpr fun ends => ?_
  refine Bool.eq_false_iff.mp covers.viable.goesOn
    ((covers.nodeBorn.terminal_iff covers.viable.normal lives).mpr ?_)
  rcases (covers.knownBorn.terminal_iff normal (alike.lifeState.trans lives)).mp ends with fell | late
  · exact Or.inl (alike.playerYScreen ▸ fell)
  · exact Or.inr (Nat.le_trans late covers.ahead.framesSinceProgress)

theorem Born.produced (born : Born driver options node) :
    ∃ arrival, Produced driver arrival ∧ node.savestate = some arrival.savestate ∧
      node.memorySnapshot = arrival.memorySnapshot := by
  obtain ⟨parent, action, arrival, received, rfl⟩ := born
  exact ⟨arrival, ⟨_, _, received⟩, rfl, rfl⟩

theorem Born.currentFrontier (born : Born driver options node) :
    node.currentFrontier =
      encodeCurrentFrontier (RamExtractor.extract node.memorySnapshot true) := by
  obtain ⟨parent, action, arrival, _, rfl⟩ := born
  rfl

theorem Born.playerYScreen (born : Born driver options node) :
    node.playerYScreen = (RamExtractor.extract node.memorySnapshot true).playerYScreen := by
  obtain ⟨parent, action, arrival, _, rfl⟩ := born
  rfl

theorem getHorizontalDirection_alike {first second : NesSuperMarioBrosState}
    (alike : first.Alike second) : getHorizontalDirection first = getHorizontalDirection second := by
  rw [getHorizontalDirection, getHorizontalDirection, alike.movementX,
    alike.horizontalSpeedNormalized, alike.facingX]

theorem Born.mem_orderingOf (born : Born driver options node) :
    action ∈ (orderingOf options node).actions ↔
      ¬(((RamExtractor.extract node.memorySnapshot true).airborne ∧
          (RamExtractor.extract node.memorySnapshot true).verticalSpeedNormalized > 0) ∧
            isJumpButtonAction action) ∨
        (((RamExtractor.extract node.memorySnapshot true).airborne ∧
          (RamExtractor.extract node.memorySnapshot true).verticalSpeedNormalized > 0) ∧
          action ∈ (makeDescendingRunJumpRescueAction
            (getHorizontalDirection (RamExtractor.extract node.memorySnapshot true))).toList) := by
  obtain ⟨parent, fromParent, arrival, _, rfl⟩ := born
  exact mem_buildDfsActionOrder

theorem mem_orderingOf_alike (knownBorn : Born driver options known)
    (nodeBorn : Born driver options node)
    (alike : (RamExtractor.extract known.memorySnapshot true).Alike
      (RamExtractor.extract node.memorySnapshot true)) :
    action ∈ (orderingOf options known).actions ↔ action ∈ (orderingOf options node).actions := by
  rw [knownBorn.mem_orderingOf, nodeBorn.mem_orderingOf, alike.airborne,
    alike.verticalSpeedNormalized, getHorizontalDirection_alike alike]

theorem countVelocityStuck_le {first second : NesSuperMarioBrosState}
    {firstSummary secondSummary : SmbSearchEvaluatorSummary} {nonGameplay : Bool}
    (alike : first.Alike second) (currentFrontier : known.currentFrontier = node.currentFrontier)
    (playerYScreen : known.playerYScreen = node.playerYScreen)
    (stuck : known.velocityStuckFrameCount ≤ node.velocityStuckFrameCount)
    (ahead : firstSummary.Ahead secondSummary) (goesOn : secondSummary.terminal = false) :
    countVelocityStuck options known first firstSummary nonGameplay ≤
      countVelocityStuck options node second secondSummary false := by
  simp only [countVelocityStuck, decide_eq_true_eq]
  split
  · rename_i candidate
    obtain ⟨enabled, _, _, still, grounded, low, slow, late⟩ := candidate
    have laterToo : secondSummary.gameplayFramesSinceProgress > 0 :=
      Nat.lt_of_lt_of_le late ahead.framesSinceProgress
    rw [if_pos]
    · exact min_le_min_right _ (Nat.succ_le_succ stuck)
    · refine ⟨enabled, ?_, rfl, ?_, ?_, ?_, ?_, laterToo⟩
      · rw [goesOn]
        rfl
      · rw [← alike.absoluteX, ← currentFrontier]
        exact still
      · rw [← alike.airborne]
        exact grounded
      · rw [← alike.playerYScreen, ← playerYScreen]
        exact low
      · rw [← alike.horizontalSpeedNormalized]
        exact slow
  · exact Nat.zero_le _

theorem Viable.nonGameplay (viable : Viable options (childOf options parent action arrival)) :
    (judgeArrival {} options 0 parent action arrival).verdict.nonGameplay = false := by
  refine decide_eq_false fun leaves => ?_
  exact leaves.2 viable.normal

theorem Born.key_of_viable (born : Born driver options node) (viable : Viable options node)
    (produced : node.memorySnapshot = arrival.memorySnapshot) :
    arrival.key = some (positionOf (RamExtractor.extract node.memorySnapshot true)
      node.memorySnapshot) := by
  have lives := viable.lives born
  have normal := viable.normal
  rw [produced] at lives normal ⊢
  rw [Arrival.key, buildClosedLossTranspositionKey]
  refine (if_neg Bool.false_ne_true).trans ?_
  rw [if_neg, if_neg]
  · exact Nat.not_lt_zero _
  · exact fun apart => apart.elim (fun other => other normal) fun dies => dies lives

/-- **What covers a node unfolds all that the node does.** -/
theorem Covers.expands (respects : Respects driver) (covers : Covers driver options known node)
    (expands : Expands driver options node child) :
    ∃ same, Expands driver options known same ∧ Covers driver options same child := by
  obtain ⟨action, tried, arrival, received, rfl, viable⟩ := expands
  have alike := covers.seen.alike
  have knownViable := covers.known_viable
  obtain ⟨nodeArrival, nodeProduced, nodeState, nodeSeen⟩ := covers.nodeBorn.produced
  obtain ⟨knownArrival, knownProduced, knownState, knownSeen⟩ := covers.knownBorn.produced
  have nodeKey := covers.nodeBorn.key_of_viable covers.viable nodeSeen
  have knownKey := covers.knownBorn.key_of_viable knownViable knownSeen
  rw [covers.seen.position] at knownKey
  rw [nodeState] at received
  obtain ⟨same, sameReceived, frames, seen⟩ := respects nodeArrival knownArrival nodeProduced
    knownProduced _ nodeKey knownKey action arrival received
  rw [← knownState] at sameReceived
  rw [← nodeState] at received
  have childBorn : Born driver options (childOf options node action arrival) :=
    ⟨node, action, arrival, received, rfl⟩
  have sameBorn : Born driver options (childOf options known action same) :=
    ⟨known, action, same, sameReceived, rfl⟩
  have ahead : (evaluateChild known.evaluatorSummary same.advancedFrames
      (RamExtractor.extract same.memorySnapshot true)).Ahead
        (evaluateChild node.evaluatorSummary arrival.advancedFrames
          (RamExtractor.extract arrival.memorySnapshot true)) := by
    rw [frames]
    exact covers.ahead.evaluateChild (knownViable.gameState covers.knownBorn)
      (covers.viable.gameState covers.nodeBorn) seen.alike (gameplay_of_normal viable.normal)
      viable.normal (viable.lives childBorn)
  have currentFrontier : known.currentFrontier = node.currentFrontier := by
    rw [covers.knownBorn.currentFrontier, covers.nodeBorn.currentFrontier, encodeCurrentFrontier,
      encodeCurrentFrontier, NesSuperMarioBrosEvaluator.getStageIndex_alike alike, alike.absoluteX]
  have playerYScreen : known.playerYScreen = node.playerYScreen := by
    rw [covers.knownBorn.playerYScreen, covers.nodeBorn.playerYScreen, alike.playerYScreen]
  have stuck : (childOf options known action same).velocityStuckFrameCount ≤
      (childOf options node action arrival).velocityStuckFrameCount := by
    have plays := viable.nonGameplay
    refine Nat.le_trans (countVelocityStuck_le seen.alike currentFrontier playerYScreen
      covers.velocityStuckFrameCount ahead viable.goesOn) ?_
    exact Nat.le_of_eq (congrArg (countVelocityStuck options node _ _) plays.symm)
  have childCovers : Covers driver options (childOf options known action same)
      (childOf options node action arrival) := ⟨sameBorn, childBorn, seen, viable, ahead, stuck⟩
  refine ⟨_, ⟨action, ?_, same, sameReceived, rfl, childCovers.known_viable⟩, childCovers⟩
  exact (mem_orderingOf_alike covers.knownBorn covers.nodeBorn alike).mpr tried

theorem expandedAlive_iff_viable (tree : SearchTree S) (options : SmbDfsSearchOptions)
    (parentIndex : ℕ) (parent : SmbSearchNode S) (action : SmbSearchLegalAction)
    (arrival : Arrival S) :
    (judgeArrival tree options parentIndex parent action arrival).verdict.expandedAlive = true ↔
      Viable options (childOf options parent action arrival) ∧
        (judgeArrival tree options parentIndex parent action
          arrival).verdict.prunedTransposition = false := by
  rw [Verdict.expandedAlive_iff]
  constructor
  · rintro ⟨_, goesOn, unpruned, plays, moves, progresses⟩
    have normal : (RamExtractor.extract arrival.memorySnapshot true).gameMode = .normal := by
      refine not_not.mp fun leaves => ?_
      refine of_decide_eq_false plays ⟨?_, leaves⟩
      exact (Bool.not_eq_true' _).mpr goesOn
    refine ⟨⟨goesOn, normal, Nat.lt_of_not_le (of_decide_eq_false moves), ?_⟩, unpruned⟩
    refine Nat.lt_of_not_le fun late => ?_
    rw [judgeArrival, judge] at progresses goesOn plays
    dsimp only at progresses goesOn plays
    rw [plays, goesOn, Bool.not_false, Bool.true_and, Bool.true_and] at progresses
    exact of_decide_eq_false progresses late
  · rintro ⟨viable, unpruned⟩
    have plays := viable.nonGameplay
    refine ⟨?_, viable.goesOn, unpruned, plays, ?_, ?_⟩
    · refine decide_eq_false fun below => ?_
      exact Bool.false_ne_true (viable.goesOn.symm.trans (terminal_of_belowScreen _ _ _ below))
    · exact decide_eq_false (Nat.not_le.mpr viable.moves)
    · refine Bool.and_eq_false_iff.mpr (Or.inr (decide_eq_false ?_))
      exact Nat.not_le.mpr viable.progresses

end

end DirtSim
