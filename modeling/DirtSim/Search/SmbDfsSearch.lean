import DirtSim.Core.Uuid
import DirtSim.Foundation.Transition
import DirtSim.Search.SearchTree

/-! # The depth-first search

One tick loads the savestate of the node on top of the stack, plays its next action and judges
the child that results, or takes an exhausted node off the stack. The emulator is a driver: any
function from a savestate and an action to a response. A tick may meet any driver.
-/

namespace DirtSim

open Foundation

inductive SmbDfsSearchCompletionReason
  | completed | stopped | error
deriving DecidableEq, Repr

structure SmbDfsSearchTickResult where
  completed : Bool := false
  frameAdvanced : Bool := false
  renderChanged : Bool := false
  error : Option String := none

inductive SmbDfsSearchTraceEventType
  | backtracked | completedBudgetExceeded | completedExhausted | completedMilestoneReached | error
  | expandedAlive | prunedDead | prunedStalled | prunedVelocityStuck | rootInitialized | stopped
  | prunedBelowScreen | prunedTransposition | prunedNonGameplay
deriving DecidableEq, Repr

inductive SearchProgressEvent
  | unknown | rootInitialized | expandedAlive | backtracked | prunedDead | prunedStalled
  | prunedVelocityStuck | completedBudgetExceeded | completedExhausted
  | completedMilestoneReached | stopped | error | prunedBelowScreen | prunedTransposition
  | prunedNonGameplay
deriving DecidableEq, Repr

def toSearchProgressEvent : SmbDfsSearchTraceEventType → SearchProgressEvent
  | .backtracked => .backtracked
  | .completedBudgetExceeded => .completedBudgetExceeded
  | .completedExhausted => .completedExhausted
  | .completedMilestoneReached => .completedMilestoneReached
  | .error => .error
  | .expandedAlive => .expandedAlive
  | .prunedDead => .prunedDead
  | .prunedStalled => .prunedStalled
  | .prunedVelocityStuck => .prunedVelocityStuck
  | .prunedBelowScreen => .prunedBelowScreen
  | .prunedTransposition => .prunedTransposition
  | .prunedNonGameplay => .prunedNonGameplay
  | .rootInitialized => .rootInitialized
  | .stopped => .stopped

structure SmbDfsSearchTraceEntry where
  eventType : SmbDfsSearchTraceEventType
  nodeIndex : ℕ := 0
  parentIndex : Option ℕ := none
  action : Option SmbSearchLegalAction := none
  gameplayFrame : ℕ := 0
  frontier : ℕ := 0
  evaluationScore : ℚ := 0
  framesSinceProgress : ℕ := 0
  groundedVerticalJumpPriorityAction : Bool := false
  closedLossCandidate : Bool := false
  closedLossProven : Bool := false
  closedLossApproximateTransposition : ClosedLossTranspositionShapeProbeResult := {}
  closedLossBlockReason : SmbDfsClosedLossBlockReason := .none

structure SearchProgress where
  paused : Bool := false
  bestFrontier : ℕ := 0
  currentGameplayFrame : ℕ := 0
  lastSearchEvent : SearchProgressEvent := .unknown
  searchedNodeCount : ℕ := 0
  groundedVerticalJumpPriorityActionCount : ℕ := 0

structure PlanSummary where
  id : UUID := UUID.nil
  bestFrontier : ℕ := 0
  elapsedFrames : ℕ := 0

structure Plan where
  summary : PlanSummary := {}
  frames : List PlayerControlFrame := []

/-- What the search shows of the world. -/
structure WorldData where
  width : ℤ := 256
  height : ℤ := 240
  timestep : ℤ := 0

structure SmbDfsSearch (S : Type) extends SearchTree S where
  options : SmbDfsSearchOptions
  worldData : WorldData := {}
  scenarioVideoFrame : Option ScenarioVideoFrame := none
  plan : Plan := {}
  progress : SearchProgress := {}
  rootPrefixFrames : List PlayerControlFrame := []
  trace : List SmbDfsSearchTraceEntry := []
  bestLeafIndex : Option ℕ := none
  bestFrontier : ℕ := 0
  bestScore : ℚ := 0
  completed : Bool := false
  paused : Bool := false
  completionReason : Option SmbDfsSearchCompletionReason := none
  completionErrorMessage : Option String := none

/-! ## The emulator -/

structure StepResult where
  advancedFrames : ℕ
  runtimeHealthy : Bool
  runtimeRunning : Bool
  memorySnapshot : Option MemorySnapshot
  scenarioVideoFrame : Option ScenarioVideoFrame
  lastError : String

/-- What the emulator does when it is asked to load a savestate, to play an action for a step
and to capture what it has reached. -/
structure DriverResponse (S : Type) where
  loaded : Bool
  runtimeLastError : String
  stepResult : StepResult
  savestate : Option S
  frameSnapshot : Option ScenarioVideoFrame

abbrev Driver (S : Type) := Option S → SmbSearchLegalAction → DriverResponse S

/-- A step that went well. -/
structure Arrival (S : Type) where
  advancedFrames : ℕ
  memorySnapshot : MemorySnapshot
  savestate : S
  scenarioVideoFrame : Option ScenarioVideoFrame

variable {S : Type}

def DriverResponse.receive (response : DriverResponse S) : Except String (Arrival S) :=
  let step := response.stepResult
  if !response.loaded then
    .error (if response.runtimeLastError.isEmpty then "Failed to load SMB DFS parent savestate"
      else response.runtimeLastError)
  else if !step.runtimeHealthy || !step.runtimeRunning then
    .error (if step.lastError.isEmpty then "NES runtime stopped during DFS expansion"
      else step.lastError)
  else if step.advancedFrames = 0 then
    .error "DFS expansion did not advance the NES runtime"
  else match step.memorySnapshot with
    | none => .error "DFS expansion did not provide an NES memory snapshot"
    | some memorySnapshot =>
        match response.savestate with
        | none => .error "Failed to capture SMB DFS child savestate"
        | some savestate => .ok
            { advancedFrames := step.advancedFrames
              memorySnapshot := memorySnapshot
              savestate := savestate
              scenarioVideoFrame := step.scenarioVideoFrame.or response.frameSnapshot }

/-! ## Judging a child -/

def encodeCurrentFrontier (state : NesSuperMarioBrosState) : ℕ :=
  encodeSmbFrontier (NesSuperMarioBrosEvaluator.getStageIndex state) state.absoluteX

def getHorizontalDirection (state : NesSuperMarioBrosState) : SmbSearchHorizontalDirection :=
  if state.movementX > 0 then .right
  else if state.movementX < 0 then .left
  else if state.horizontalSpeedNormalized > 0 then .right
  else if state.horizontalSpeedNormalized < 0 then .left
  else if state.facingX > 0 then .right
  else if state.facingX < 0 then .left
  else .none

/-- The evaluator at a node: it continues from gameplay and starts anew from anything else. -/
def restoredEvaluator (summary : SmbSearchEvaluatorSummary) : NesSuperMarioBrosEvaluator :=
  if summary.gameState.getD 0 = 1 then
    NesSuperMarioBrosEvaluator.restoreProgress (decodeSmbStageIndex summary.bestFrontier)
      (decodeSmbAbsoluteX summary.bestFrontier) summary.distanceRewardTotal
      summary.levelClearRewardTotal summary.gameplayFrames summary.gameplayFramesSinceProgress
  else {}

def evaluateChild (parent : SmbSearchEvaluatorSummary) (advancedFrames : ℕ)
    (state : NesSuperMarioBrosState) : SmbSearchEvaluatorSummary :=
  buildSmbSearchEvaluatorSummary ((restoredEvaluator parent).evaluate ⟨advancedFrames, state⟩).2
    (if state.phase = .gameplay then some 1 else some 0)

def kVelocityPruneConsecutiveFrameThreshold : ℕ := 2

def kVelocityPruneHorizontalSpeedEpsilon : ℚ := 1 / 20

/-- Everything that decides whether a child is expanded. -/
structure Verdict where
  terminal : Bool
  belowScreen : Bool
  nonGameplay : Bool
  prunedTransposition : Bool
  velocityStuckFrameCount : ℕ
  stalled : Bool

namespace Verdict

def velocityStuck (verdict : Verdict) : Bool :=
  verdict.velocityStuckFrameCount ≥ kVelocityPruneConsecutiveFrameThreshold

def terminalLoss (verdict : Verdict) : Bool := verdict.terminal && !verdict.belowScreen

def traceEvent (verdict : Verdict) : SmbDfsSearchTraceEventType :=
  if verdict.belowScreen then .prunedBelowScreen
  else if verdict.terminalLoss then .prunedDead
  else if verdict.prunedTransposition then .prunedTransposition
  else if verdict.nonGameplay then .prunedNonGameplay
  else if verdict.velocityStuck then .prunedVelocityStuck
  else if verdict.stalled then .prunedStalled
  else .expandedAlive

def expandedAlive (verdict : Verdict) : Bool := verdict.traceEvent = .expandedAlive

def pushed (verdict : Verdict) : Bool :=
  !verdict.terminal && !verdict.prunedTransposition && !verdict.nonGameplay &&
    !verdict.velocityStuck && !verdict.stalled

def childOutcome (verdict : Verdict) : SmbSearchNodeOutcome :=
  if verdict.expandedAlive then .opened
  else if verdict.nonGameplay then .notClosedLoss
  else .closedLoss

end Verdict

/-- How many nodes in a row have stood still at a wall. -/
def countVelocityStuck (options : SmbDfsSearchOptions) (parent : SmbSearchNode S)
    (state : NesSuperMarioBrosState) (summary : SmbSearchEvaluatorSummary) (nonGameplay : Bool) :
    ℕ :=
  let velocityStuckCandidate : Bool := options.velocityPruningEnabled ∧ !summary.terminal ∧
    !nonGameplay ∧ state.absoluteX = decodeSmbAbsoluteX parent.currentFrontier ∧
    !state.airborne ∧ state.playerYScreen ≥ parent.playerYScreen ∧
    |state.horizontalSpeedNormalized| ≤ kVelocityPruneHorizontalSpeedEpsilon ∧
    summary.gameplayFramesSinceProgress > 0
  if velocityStuckCandidate then min (parent.velocityStuckFrameCount + 1) 255 else 0

def judge (tree : SearchTree S) (options : SmbDfsSearchOptions) (parent : SmbSearchNode S)
    (state : NesSuperMarioBrosState) (summary : SmbSearchEvaluatorSummary)
    (key : Option ClosedLossTranspositionKey) : Verdict :=
  let nonGameplay : Bool := !summary.terminal ∧ state.gameMode ≠ .normal
  { terminal := summary.terminal
    belowScreen := summary.endReason = .fellBelowScreen
    nonGameplay := nonGameplay
    prunedTransposition := !summary.terminal && !nonGameplay &&
      key.any fun key => tree.isClosedLossTranspositionPruned key summary
    velocityStuckFrameCount := countVelocityStuck options parent state summary nonGameplay
    stalled := !summary.terminal && !nonGameplay &&
      decide (summary.gameplayFramesSinceProgress ≥ options.stallFrameLimit) }

/-- A child with all that was computed about it. -/
structure Judgement (S : Type) where
  state : NesSuperMarioBrosState
  summary : SmbSearchEvaluatorSummary
  key : Option ClosedLossTranspositionKey
  verdict : Verdict
  child : SmbSearchNode S

/-- Evaluates and judges the node a step arrives at. -/
def judgeArrival (tree : SearchTree S) (options : SmbDfsSearchOptions) (parentIndex : ℕ)
    (parent : SmbSearchNode S) (action : SmbSearchLegalAction) (arrival : Arrival S) :
    Judgement S :=
  let state := RamExtractor.extract arrival.memorySnapshot true
  let summary := evaluateChild parent.evaluatorSummary arrival.advancedFrames state
  let key := buildClosedLossTranspositionKey options state arrival.memorySnapshot
  let verdict := judge tree options parent state summary key
  { state := state
    summary := summary
    key := key
    verdict := verdict
    child :=
      { savestate := some arrival.savestate
        memorySnapshot := arrival.memorySnapshot
        scenarioVideoFrame := arrival.scenarioVideoFrame
        evaluatorSummary := summary
        parentIndex := some parentIndex
        actionFromParent := some action
        currentFrontier := encodeCurrentFrontier state
        gameplayFrame := summary.gameplayFrames
        playerYScreen := state.playerYScreen
        velocityStuckFrameCount := verdict.velocityStuckFrameCount } }

/-! ## Completing and reporting -/

namespace SmbDfsSearch

def recordTrace (search : SmbDfsSearch S) (entry : SmbDfsSearchTraceEntry) : SmbDfsSearch S :=
  { search with trace := search.trace ++ [entry] }

def setSearchEvent (search : SmbDfsSearch S) (event : SearchProgressEvent) : SmbDfsSearch S :=
  { search with progress := { search.progress with lastSearchEvent := event } }

def emptyPlan (search : SmbDfsSearch S) : Plan where
  summary :=
    { search.plan.summary with bestFrontier := search.progress.bestFrontier, elapsedFrames := 0 }
  frames := []

/-- The plan that leads to the best leaf; as it was when the walk to the root does not end. -/
def bestPlan (search : SmbDfsSearch S) : Plan :=
  match search.bestLeafIndex with
  | none => search.emptyPlan
  | some bestLeafIndex =>
      match reconstructPlanFrames search.nodes bestLeafIndex with
      | none => search.plan
      | some (.error _) => search.emptyPlan
      | some (.ok planFrames) =>
          { summary :=
              { search.plan.summary with
                bestFrontier := search.bestFrontier
                elapsedFrames := (search.rootPrefixFrames ++ planFrames).length }
            frames := search.rootPrefixFrames ++ planFrames }

def rebuildBestPlan (search : SmbDfsSearch S) : SmbDfsSearch S :=
  { search with plan := search.bestPlan }

/-- The last entry of a completed search names its best node. -/
def completionEntry (search : SmbDfsSearch S) (eventType : SmbDfsSearchTraceEventType) :
    SmbDfsSearchTraceEntry :=
  let nodeIndex := search.bestLeafIndex.getD 0
  let node := search.nodes[nodeIndex]?
  { eventType := eventType
    nodeIndex := nodeIndex
    parentIndex := node.bind SmbSearchNode.parentIndex
    action := node.bind SmbSearchNode.actionFromParent
    gameplayFrame := (node.map SmbSearchNode.gameplayFrame).getD 0
    frontier := search.bestFrontier
    evaluationScore := search.bestScore
    framesSinceProgress :=
      (node.map fun node => node.evaluatorSummary.gameplayFramesSinceProgress).getD 0 }

def finish (search : SmbDfsSearch S) (event : SearchProgressEvent)
    (reason : SmbDfsSearchCompletionReason) (message : Option String) : SmbDfsSearch S :=
  let rebuilt := search.rebuildBestPlan
  { rebuilt with
    completed := true
    paused := false
    progress := { rebuilt.progress with paused := false, lastSearchEvent := event }
    completionReason := some reason
    completionErrorMessage := message }

def completeWithError (search : SmbDfsSearch S) (errorMessage : String) : SmbDfsSearch S :=
  let finished := search.finish .error .error (some errorMessage)
  finished.recordTrace (finished.completionEntry .error)

def completeWithTraceEvent (search : SmbDfsSearch S) (eventType : SmbDfsSearchTraceEventType) :
    SmbDfsSearch S :=
  let finished := search.finish (toSearchProgressEvent eventType) .completed none
  finished.recordTrace (finished.completionEntry eventType)

def improves (search : SmbDfsSearch S) (summary : SmbSearchEvaluatorSummary) : Bool :=
  search.bestLeafIndex = none ∨ summary.bestFrontier > search.bestFrontier ∨
    (summary.bestFrontier = search.bestFrontier ∧ summary.evaluationScore > search.bestScore)

def takeBest (search : SmbDfsSearch S) (nodeIndex : ℕ) (summary : SmbSearchEvaluatorSummary) :
    SmbDfsSearch S :=
  rebuildBestPlan { search with
    bestLeafIndex := some nodeIndex
    bestFrontier := summary.bestFrontier
    bestScore := summary.evaluationScore
    progress := { search.progress with bestFrontier := summary.bestFrontier } }

def updateBestLeaf (search : SmbDfsSearch S) (nodeIndex : ℕ) : SmbDfsSearch S :=
  match search.nodes[nodeIndex]? with
  | none => search
  | some candidate =>
      if search.improves candidate.evaluatorSummary then
        search.takeBest nodeIndex candidate.evaluatorSummary
      else search

def updateRenderableState (search : SmbDfsSearch S) (node : SmbSearchNode S) : SmbDfsSearch S :=
  { search with
    scenarioVideoFrame := node.scenarioVideoFrame
    progress := { search.progress with currentGameplayFrame := node.gameplayFrame }
    worldData :=
      { width := (node.scenarioVideoFrame.map ScenarioVideoFrame.width).getD search.worldData.width
        height :=
          (node.scenarioVideoFrame.map ScenarioVideoFrame.height).getD search.worldData.height
        timestep := node.gameplayFrame } }

/-! ## One tick -/

def budgetSpent (search : SmbDfsSearch S) : Bool :=
  search.options.maxSearchedNodeCount > 0 ∧
    search.progress.searchedNodeCount ≥ search.options.maxSearchedNodeCount

def tickEmpty (search : SmbDfsSearch S) : SmbDfsSearch S × SmbDfsSearchTickResult :=
  (search.completeWithTraceEvent
    (if search.budgetSpent then .completedBudgetExceeded else .completedExhausted),
    { completed := true })

def backtracked (search : SmbDfsSearch S) (dfsFrame : DfsFrame) (rest : List DfsFrame) :
    SmbDfsSearch S :=
  let node := search.nodes[dfsFrame.nodeIndex]?
  let summary := node.map SmbSearchNode.evaluatorSummary
  let traced := search.recordTrace
    { eventType := .backtracked
      nodeIndex := dfsFrame.nodeIndex
      parentIndex := node.bind SmbSearchNode.parentIndex
      action := node.bind SmbSearchNode.actionFromParent
      gameplayFrame := (node.map SmbSearchNode.gameplayFrame).getD 0
      frontier := (summary.map SmbSearchEvaluatorSummary.bestFrontier).getD 0
      evaluationScore := (summary.map SmbSearchEvaluatorSummary.evaluationScore).getD 0
      framesSinceProgress :=
        (summary.map SmbSearchEvaluatorSummary.gameplayFramesSinceProgress).getD 0
      closedLossCandidate := dfsFrame.closedLossCandidate
      closedLossProven := SearchTree.exhaustedOutcome dfsFrame = .closedLoss
      closedLossBlockReason := SearchTree.exhaustedBlockReason dfsFrame }
  setSearchEvent { traced with toSearchTree := search.toSearchTree.backtrack dfsFrame rest }
    .backtracked

/-- A turn of the loop that finds the node on top of the stack exhausted. When it was the last
one the loop goes on, and finds the stack empty. -/
def tickBacktrack (search : SmbDfsSearch S) (dfsFrame : DfsFrame) (rest : List DfsFrame) :
    SmbDfsSearch S × SmbDfsSearchTickResult :=
  let popped := search.backtracked dfsFrame rest
  match rest with
  | [] => popped.tickEmpty
  | parent :: _ =>
      match popped.nodes[parent.nodeIndex]? with
      | none => (popped, { renderChanged := true })
      | some node => (popped.updateRenderableState node, { renderChanged := true })

def addChild (search : SmbDfsSearch S) (child : SmbSearchNode S)
    (key : Option ClosedLossTranspositionKey) (groundedVerticalJumpPriorityAction : Bool) :
    SmbDfsSearch S :=
  let grown := { search with
    toSearchTree := search.toSearchTree.addNode child key .none
    progress := { search.progress with
      searchedNodeCount := search.progress.searchedNodeCount + 1
      groundedVerticalJumpPriorityActionCount :=
        search.progress.groundedVerticalJumpPriorityActionCount +
          if groundedVerticalJumpPriorityAction then 1 else 0 } }
  grown.updateRenderableState child

def childFrame (options : SmbDfsSearchOptions) (childIndex : ℕ) (state : NesSuperMarioBrosState)
    (action : SmbSearchLegalAction) (closedLossCandidate : Bool)
    (blockReason : SmbDfsClosedLossBlockReason) : DfsFrame where
  nodeIndex := childIndex
  nextActionIndex := 0
  actionOrdering := buildDfsActionOrder state.airborne state.verticalSpeedNormalized
    (getHorizontalDirection state) (some action)
    options.groundedVerticalJumpPrioritizationEnabled
  closedLossCandidate := closedLossCandidate
  closedLossBlockReason := blockReason

def expandChild (search : SmbDfsSearch S) (childIndex : ℕ) (dfsFrame : DfsFrame) :
    SmbDfsSearch S :=
  let updated := search.updateBestLeaf childIndex
  { updated with toSearchTree := updated.toSearchTree.pushFrame dfsFrame }

/-- Stops at the milestone, when one is set and reached. -/
def checkMilestone (search : SmbDfsSearch S) : SmbDfsSearch S × SmbDfsSearchTickResult :=
  if search.options.stopAfterBestFrontier.any fun frontier => frontier ≤ search.bestFrontier then
    (search.completeWithTraceEvent .completedMilestoneReached,
      { completed := true, frameAdvanced := true, renderChanged := true })
  else
    (search, { completed := search.completed, frameAdvanced := true, renderChanged := true })

/-- An expanded child is a candidate from the start. -/
def childCandidate (grown : SearchTree S) (childIndex : ℕ) (verdict : Verdict) : Bool :=
  verdict.expandedAlive && grown.isClosedLossCandidate childIndex

def childInitialBlockReason (grown : SearchTree S) (childIndex : ℕ) (verdict : Verdict) :
    SmbDfsClosedLossBlockReason :=
  if verdict.expandedAlive then grown.getInitialClosedLossBlockReason childIndex else .none

def childBlockReason (grown : SearchTree S) (childIndex : ℕ) (verdict : Verdict) :
    SmbDfsClosedLossBlockReason :=
  if verdict.expandedAlive then childInitialBlockReason grown childIndex verdict
  else if verdict.nonGameplay then .nonGameplay
  else .none

/-- Adds the child a step arrived at and records how it was judged. -/
def recordChild (search : SmbDfsSearch S) (dfsFrame : DfsFrame) (action : SmbSearchLegalAction)
    (judgement : Judgement S) : SmbDfsSearch S :=
  let summary := judgement.summary
  let verdict := judgement.verdict
  let probe : ClosedLossTranspositionShapeProbeResult :=
    if summary.terminal ∨ verdict.nonGameplay then {}
    else (judgement.key.map fun key => search.probeClosedLossTranspositionShape
      (buildClosedLossTranspositionShapeKey key) key summary).getD {}
  let priorityAction : Bool := dfsFrame.nextActionIndex <
    dfsFrame.actionOrdering.groundedVerticalJumpPriorityActionCount
  let childIndex := search.nodes.length
  let grown := search.addChild judgement.child judgement.key priorityAction
  (grown.recordTrace
    { eventType := verdict.traceEvent
      nodeIndex := childIndex
      parentIndex := some dfsFrame.nodeIndex
      action := some action
      gameplayFrame := summary.gameplayFrames
      frontier := summary.bestFrontier
      evaluationScore := summary.evaluationScore
      framesSinceProgress := summary.gameplayFramesSinceProgress
      groundedVerticalJumpPriorityAction := priorityAction
      closedLossCandidate :=
        if verdict.expandedAlive then childCandidate grown.toSearchTree childIndex verdict
        else verdict.childOutcome = .closedLoss
      closedLossProven := verdict.childOutcome = .closedLoss
      closedLossApproximateTransposition := probe
      closedLossBlockReason := childBlockReason grown.toSearchTree childIndex verdict
    }).setSearchEvent (toSearchProgressEvent verdict.traceEvent)

/-- Adds the child a step arrived at and expands or prunes it. -/
def settleChild (search : SmbDfsSearch S) (dfsFrame : DfsFrame) (action : SmbSearchLegalAction)
    (judgement : Judgement S) : SmbDfsSearch S :=
  let verdict := judgement.verdict
  let childIndex := search.nodes.length
  let recorded := search.recordChild dfsFrame action judgement
  let grown := recorded.toSearchTree
  if verdict.pushed then
    recorded.expandChild childIndex (childFrame search.options childIndex judgement.state action
      (childCandidate grown childIndex verdict) (childInitialBlockReason grown childIndex verdict))
  else { recorded with
    toSearchTree := grown.prune childIndex verdict.childOutcome
      (childBlockReason grown childIndex verdict) }

/-- A turn of the loop that plays the next action of the node on top of the stack. -/
def tickExpand (driver : Driver S) (search : SmbDfsSearch S) (dfsFrame : DfsFrame)
    (rest : List DfsFrame) : SmbDfsSearch S × SmbDfsSearchTickResult :=
  let advanced := { search with toSearchTree := search.toSearchTree.advance dfsFrame rest }
  match search.nodes[dfsFrame.nodeIndex]?,
    dfsFrame.actionOrdering.actions[dfsFrame.nextActionIndex]? with
  | some parent, some action =>
      match (driver parent.savestate action).receive with
      | .error message =>
          (advanced.completeWithError message, { completed := true, error := some message })
      | .ok arrival =>
          (advanced.settleChild dfsFrame action (judgeArrival advanced.toSearchTree
            search.options dfsFrame.nodeIndex parent action arrival)).checkMilestone
  -- Both indices are in range.
  | _, _ => (advanced, {})

def tick (driver : Driver S) (search : SmbDfsSearch S) :
    SmbDfsSearch S × SmbDfsSearchTickResult :=
  if search.completed then
    (search, {
      completed := true
      error := if search.completionReason = some .error then search.completionErrorMessage
        else none })
  else if search.paused then (search, {})
  else match search.dfsStack with
    | [] => search.tickEmpty
    | dfsFrame :: rest =>
        if search.budgetSpent then
          (search.completeWithTraceEvent .completedBudgetExceeded, { completed := true })
        else if dfsFrame.nextActionIndex ≥ dfsFrame.actionOrdering.count then
          search.tickBacktrack dfsFrame rest
        else tickExpand driver search dfsFrame rest

def pauseSet (search : SmbDfsSearch S) (paused : Bool) : SmbDfsSearch S :=
  { search with paused := paused, progress := { search.progress with paused := paused } }

/-- The entry of a stopped search; its numbers are the best node's own. -/
def stopEntry (search : SmbDfsSearch S) : SmbDfsSearchTraceEntry :=
  match search.bestLeafIndex with
  | none => { eventType := .stopped }
  | some bestLeafIndex =>
      let node := search.nodes[bestLeafIndex]?
      let summary := node.map SmbSearchNode.evaluatorSummary
      { eventType := .stopped
        nodeIndex := bestLeafIndex
        parentIndex := node.bind SmbSearchNode.parentIndex
        action := node.bind SmbSearchNode.actionFromParent
        gameplayFrame := (node.map SmbSearchNode.gameplayFrame).getD 0
        frontier := (summary.map SmbSearchEvaluatorSummary.bestFrontier).getD 0
        evaluationScore := (summary.map SmbSearchEvaluatorSummary.evaluationScore).getD 0
        framesSinceProgress :=
          (summary.map SmbSearchEvaluatorSummary.gameplayFramesSinceProgress).getD 0 }

def stop (search : SmbDfsSearch S) : SmbDfsSearch S :=
  if search.completed then search
  else
    let finished := search.finish .stopped .stopped none
    finished.recordTrace finished.stopEntry

/-! ## Starting and running -/

/-- What a search starts from: a captured game or a fixture. -/
structure Root (S : Type) where
  planId : UUID
  rootPrefixFrames : List PlayerControlFrame
  savestate : S
  evaluatorSummary : SmbSearchEvaluatorSummary
  memorySnapshot : Option MemorySnapshot
  scenarioVideoFrame : Option ScenarioVideoFrame

def rootNode (root : Root S) : SmbSearchNode S where
  savestate := some root.savestate
  memorySnapshot := root.memorySnapshot.getD .blank
  scenarioVideoFrame := root.scenarioVideoFrame
  evaluatorSummary := root.evaluatorSummary
  parentIndex := none
  actionFromParent := none
  currentFrontier := root.evaluatorSummary.bestFrontier
  gameplayFrame := root.evaluatorSummary.gameplayFrames
  playerYScreen := 0
  velocityStuckFrameCount := 0

def initializeRuntime (options : SmbDfsSearchOptions) (planId : UUID) : SmbDfsSearch S where
  options := options
  plan := { summary := { id := planId } }

def initializeRootNode (search : SmbDfsSearch S) (root : Root S) : SmbDfsSearch S :=
  let summary := root.evaluatorSummary
  -- The root's block reason is asked for when the root is already among the nodes.
  let planted := { search with
    toSearchTree := search.toSearchTree.addNode (rootNode root) none .none }
  let candidate := planted.isClosedLossCandidate 0
  let blockReason := planted.getInitialClosedLossBlockReason 0
  let stacked := { search with
    toSearchTree := (search.toSearchTree.addNode (rootNode root) none blockReason).pushFrame
      { nodeIndex := 0
        nextActionIndex := 0
        actionOrdering := buildDfsActionOrder false 0 .none none
          search.options.groundedVerticalJumpPrioritizationEnabled
        closedLossCandidate := candidate
        closedLossBlockReason := blockReason }
    bestLeafIndex := some 0
    bestFrontier := summary.bestFrontier
    bestScore := summary.evaluationScore
    progress := { search.progress with bestFrontier := summary.bestFrontier } }
  ((stacked.updateRenderableState (rootNode root)).setSearchEvent
    .rootInitialized).rebuildBestPlan.recordTrace
      { eventType := .rootInitialized
        gameplayFrame := summary.gameplayFrames
        frontier := summary.bestFrontier
        evaluationScore := summary.evaluationScore
        framesSinceProgress := summary.gameplayFramesSinceProgress
        closedLossCandidate := candidate
        closedLossBlockReason := blockReason }

def start (options : SmbDfsSearchOptions) (root : Root S) : SmbDfsSearch S :=
  initializeRootNode
    { initializeRuntime options root.planId with rootPrefixFrames := root.rootPrefixFrames } root

/-- The calls on a search; every tick may meet another driver. -/
inductive Call (S : Type)
  | tick (driver : Driver S)
  | pauseSet (paused : Bool)
  | stop

def Call.apply (search : SmbDfsSearch S) : Call S → SmbDfsSearch S
  | .tick driver => (search.tick driver).1
  | .pauseSet paused => search.pauseSet paused
  | .stop => search.stop

def machine (S : Type) : Machine (Call S) (SmbDfsSearch S) where
  initial search := ∃ options root, search = start options root
  step before call after := after = call.apply before

end SmbDfsSearch

end DirtSim
