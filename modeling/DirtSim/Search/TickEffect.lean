import DirtSim.Search.SmbDfsSearch

/-! # What one call can do

Most of a tick only reports: it changes neither the tree nor what is known to be best
(`SmbDfsSearch.Rests`). What is left is one of four changes (`SmbDfsSearch.TickEffect`): none,
an action given up after an error, an exhausted node taken off the stack, or a child added.
-/

namespace DirtSim

open Foundation

variable {S : Type}
variable (tree : SearchTree S)

/-! ## Verdicts -/

theorem terminal_of_belowScreen (parent : SmbSearchEvaluatorSummary) (advancedFrames : ℕ)
    (state : NesSuperMarioBrosState)
    (below : (evaluateChild parent advancedFrames state).endReason = .fellBelowScreen) :
    (evaluateChild parent advancedFrames state).terminal = true :=
  NesSuperMarioBrosEvaluator.done_of_fellBelowScreen _ _ below

theorem Verdict.expandedAlive_iff (verdict : Verdict) :
    verdict.expandedAlive = true ↔ verdict.belowScreen = false ∧ verdict.terminal = false ∧
      verdict.prunedTransposition = false ∧ verdict.nonGameplay = false ∧
        verdict.velocityStuck = false ∧ verdict.stalled = false := by
  rw [expandedAlive, decide_eq_true_iff, traceEvent, terminalLoss]
  cases verdict.belowScreen <;> cases verdict.terminal <;> cases verdict.prunedTransposition <;>
    cases verdict.nonGameplay <;> cases verdict.velocityStuck <;> cases verdict.stalled <;> simp

theorem Verdict.pushed_eq_expandedAlive {verdict : Verdict}
    (ends : verdict.belowScreen = true → verdict.terminal = true) :
    verdict.pushed = verdict.expandedAlive := by
  rw [Bool.eq_iff_iff, expandedAlive_iff]
  simp only [pushed, Bool.and_eq_true, Bool.not_eq_true', and_assoc]
  refine ⟨fun all => ⟨?_, all⟩, fun all => all.2⟩
  cases below : verdict.belowScreen with
  | false => rfl
  | true =>
      rw [ends below] at all
      cases all.1

theorem judgeArrival_pushed (options : SmbDfsSearchOptions) (parentIndex : ℕ)
    (parent : SmbSearchNode S) (action : SmbSearchLegalAction) (arrival : Arrival S) :
    (judgeArrival tree options parentIndex parent action arrival).verdict.pushed =
      (judgeArrival tree options parentIndex parent action arrival).verdict.expandedAlive := by
  refine Verdict.pushed_eq_expandedAlive ?_
  intro below
  exact terminal_of_belowScreen _ _ _ (of_decide_eq_true below)

theorem Verdict.traceEvent_of_pruned {verdict : Verdict}
    (ends : verdict.belowScreen = true → verdict.terminal = true)
    (plays : verdict.nonGameplay = true → verdict.terminal = false)
    (unprobed : verdict.nonGameplay = true → verdict.prunedTransposition = false)
    (pruned : verdict.expandedAlive = false) :
    (verdict.childOutcome = .closedLoss ∧ verdict.traceEvent ≠ .prunedNonGameplay) ∨
      (verdict.childOutcome = .notClosedLoss ∧ verdict.traceEvent = .prunedNonGameplay) := by
  simp only [childOutcome, pruned, Bool.false_eq_true, ↓reduceIte]
  cases leaves : verdict.nonGameplay with
  | true =>
      have alive := plays leaves
      have above : verdict.belowScreen = false := by
        cases below : verdict.belowScreen with
        | false => rfl
        | true => exact absurd (ends below) (by rw [alive]; exact Bool.false_ne_true)
      exact Or.inr ⟨rfl, by
        simp [traceEvent, terminalLoss, above, alive, unprobed leaves, leaves]⟩
  | false =>
      refine Or.inl ⟨rfl, ?_⟩
      simp only [traceEvent, leaves, Bool.false_eq_true, ↓reduceIte]
      split
      · exact SmbDfsSearchTraceEventType.noConfusion
      · split
        · exact SmbDfsSearchTraceEventType.noConfusion
        · split
          · exact SmbDfsSearchTraceEventType.noConfusion
          · split
            · exact SmbDfsSearchTraceEventType.noConfusion
            · split <;> exact SmbDfsSearchTraceEventType.noConfusion

theorem judgeArrival_pruned (options : SmbDfsSearchOptions) (parentIndex : ℕ)
    (parent : SmbSearchNode S) (action : SmbSearchLegalAction) (arrival : Arrival S)
    (pruned : (judgeArrival tree options parentIndex parent action
      arrival).verdict.expandedAlive = false) :
    ((judgeArrival tree options parentIndex parent action arrival).verdict.childOutcome =
        .closedLoss ∧
      (judgeArrival tree options parentIndex parent action arrival).verdict.traceEvent ≠
        .prunedNonGameplay) ∨
    ((judgeArrival tree options parentIndex parent action arrival).verdict.childOutcome =
        .notClosedLoss ∧
      (judgeArrival tree options parentIndex parent action arrival).verdict.traceEvent =
        .prunedNonGameplay) := by
  refine Verdict.traceEvent_of_pruned ?_ ?_ ?_ pruned
  · intro below
    exact terminal_of_belowScreen _ _ _ (of_decide_eq_true below)
  · intro leaves
    exact (Bool.not_eq_true' _).mp (of_decide_eq_true leaves).1
  · intro leaves
    simp only [judgeArrival, judge] at leaves ⊢
    rw [leaves, Bool.not_true, Bool.and_false, Bool.false_and]

namespace SmbDfsSearch

variable (search : SmbDfsSearch S) {judgement : Judgement S}

/-! ## Reporting -/

/-- The trace grows by entries that record no new node. -/
def Quiet (before after : SmbDfsSearch S) : Prop :=
  ∃ entries, after.trace = before.trace ++ entries ∧
    ∀ entry ∈ entries, entry.eventType ≠ .expandedAlive ∧ entry.eventType ≠ .prunedNonGameplay

/-- Nothing changes but what is reported. -/
structure Rests (before after : SmbDfsSearch S) : Prop where
  tree : after.toSearchTree = before.toSearchTree
  options : after.options = before.options
  prefixFrames : after.rootPrefixFrames = before.rootPrefixFrames
  bestLeafIndex : after.bestLeafIndex = before.bestLeafIndex
  bestFrontier : after.bestFrontier = before.bestFrontier
  bestScore : after.bestScore = before.bestScore
  reportedFrontier : after.progress.bestFrontier = before.progress.bestFrontier
  count : after.progress.searchedNodeCount = before.progress.searchedNodeCount
  plan : after.plan = before.plan ∨ after.plan = after.bestPlan
  trace : Quiet before after
  completed : before.completed = true → after.completed = true

theorem Quiet.refl : Quiet search search :=
  ⟨[], (List.append_nil _).symm, fun _ absurd => nomatch absurd⟩

theorem Quiet.trans {first second third : SmbDfsSearch S} (one : Quiet first second)
    (two : Quiet second third) : Quiet first third := by
  obtain ⟨entries, grown, quiet⟩ := one
  obtain ⟨more, grownMore, quietMore⟩ := two
  refine ⟨entries ++ more, by rw [grownMore, grown, List.append_assoc], ?_⟩
  intro entry present
  rcases List.mem_append.mp present with old | new
  · exact quiet entry old
  · exact quietMore entry new

theorem Rests.refl : Rests search search where
  tree := rfl
  options := rfl
  prefixFrames := rfl
  bestLeafIndex := rfl
  bestFrontier := rfl
  bestScore := rfl
  reportedFrontier := rfl
  count := rfl
  plan := Or.inl rfl
  trace := Quiet.refl search
  completed := id

theorem bestPlan_congr {first second : SmbDfsSearch S} (nodes : first.nodes = second.nodes)
    (prefixFrames : first.rootPrefixFrames = second.rootPrefixFrames)
    (bestLeafIndex : first.bestLeafIndex = second.bestLeafIndex)
    (bestFrontier : first.bestFrontier = second.bestFrontier)
    (reported : first.progress.bestFrontier = second.progress.bestFrontier)
    (plan : first.plan = second.plan) : first.bestPlan = second.bestPlan := by
  simp [bestPlan, emptyPlan, nodes, prefixFrames, bestLeafIndex, bestFrontier, reported, plan]

theorem bestPlan_rebuildBestPlan : search.rebuildBestPlan.bestPlan = search.bestPlan := by
  cases best : search.bestLeafIndex with
  | none => simp [bestPlan, rebuildBestPlan, emptyPlan, best]
  | some leaf =>
      cases walk : reconstructPlanFrames search.nodes leaf with
      | none => simp [bestPlan, rebuildBestPlan, best, walk]
      | some result =>
          cases result with
          | error message => simp [bestPlan, rebuildBestPlan, emptyPlan, best, walk]
          | ok frames => simp [bestPlan, rebuildBestPlan, best, walk]

theorem Rests.trans {first second third : SmbDfsSearch S} (one : Rests first second)
    (two : Rests second third) : Rests first third where
  tree := two.tree.trans one.tree
  options := two.options.trans one.options
  prefixFrames := two.prefixFrames.trans one.prefixFrames
  bestLeafIndex := two.bestLeafIndex.trans one.bestLeafIndex
  bestFrontier := two.bestFrontier.trans one.bestFrontier
  bestScore := two.bestScore.trans one.bestScore
  reportedFrontier := two.reportedFrontier.trans one.reportedFrontier
  count := two.count.trans one.count
  plan := by
    rcases two.plan with kept | rebuilt
    · rcases one.plan with keptBefore | rebuiltBefore
      · exact Or.inl (kept.trans keptBefore)
      · exact Or.inr ((kept.trans rebuiltBefore).trans (bestPlan_congr (congrArg SearchTree.nodes two.tree)
          two.prefixFrames two.bestLeafIndex two.bestFrontier two.reportedFrontier kept).symm)
    · exact Or.inr rebuilt
  trace := one.trace.trans two.trace
  completed already := two.completed (one.completed already)

theorem rests_recordTrace {entry : SmbDfsSearchTraceEntry}
    (quiet : entry.eventType ≠ .expandedAlive ∧ entry.eventType ≠ .prunedNonGameplay) :
    Rests search (search.recordTrace entry) :=
  { Rests.refl search with
    trace := ⟨[entry], rfl, fun other present => by
      rw [List.mem_singleton.mp present]
      exact quiet⟩ }

theorem rests_finish (event : SearchProgressEvent) (reason : SmbDfsSearchCompletionReason)
    (message : Option String) : Rests search (search.finish event reason message) :=
  { Rests.refl search with
    plan := Or.inr (bestPlan_rebuildBestPlan search).symm
    completed := fun _ => rfl }

theorem rests_completeWithError (message : String) :
    Rests search (search.completeWithError message) :=
  (rests_finish search _ _ _).trans (rests_recordTrace _
    ⟨SmbDfsSearchTraceEventType.noConfusion, SmbDfsSearchTraceEventType.noConfusion⟩)

theorem rests_completeWithTraceEvent {eventType : SmbDfsSearchTraceEventType}
    (quiet : eventType ≠ .expandedAlive ∧ eventType ≠ .prunedNonGameplay) :
    Rests search (search.completeWithTraceEvent eventType) :=
  (rests_finish search _ _ _).trans (rests_recordTrace _ quiet)

theorem rests_updateRenderableState (node : SmbSearchNode S) :
    Rests search (search.updateRenderableState node) :=
  { Rests.refl search with }

theorem rests_pauseSet (paused : Bool) : Rests search (search.pauseSet paused) :=
  { Rests.refl search with }

theorem rests_stop : Rests search search.stop := by
  rw [stop]
  split
  · exact Rests.refl search
  · refine (rests_finish search _ _ _).trans (rests_recordTrace _ ?_)
    rw [stopEntry]
    split <;> exact ⟨SmbDfsSearchTraceEventType.noConfusion, SmbDfsSearchTraceEventType.noConfusion⟩

theorem rests_tickEmpty : Rests search search.tickEmpty.1 := by
  refine rests_completeWithTraceEvent search ?_
  split <;> exact ⟨SmbDfsSearchTraceEventType.noConfusion, SmbDfsSearchTraceEventType.noConfusion⟩

theorem rests_checkMilestone : Rests search search.checkMilestone.1 := by
  rw [checkMilestone]
  split
  · exact rests_completeWithTraceEvent search
      ⟨SmbDfsSearchTraceEventType.noConfusion, SmbDfsSearchTraceEventType.noConfusion⟩
  · exact Rests.refl search

/-! ## Adding a child -/

theorem updateBestLeaf_toSearchTree (nodeIndex : ℕ) :
    (search.updateBestLeaf nodeIndex).toSearchTree = search.toSearchTree := by
  rw [updateBestLeaf]
  split
  · rfl
  · split <;> rfl

/-- What adding a child changes, whether it is expanded or pruned. -/
structure Adds (before : SmbDfsSearch S) (judgement : Judgement S) (after : SmbDfsSearch S) :
    Prop where
  options : after.options = before.options
  prefixFrames : after.rootPrefixFrames = before.rootPrefixFrames
  count : after.progress.searchedNodeCount = before.progress.searchedNodeCount + 1
  trace : ∃ entry, after.trace = before.trace ++ [entry] ∧
    entry.eventType = judgement.verdict.traceEvent ∧ entry.nodeIndex = before.nodes.length

/-- The best leaf and the plan stay. -/
structure KeepsBest (before after : SmbDfsSearch S) : Prop where
  bestLeafIndex : after.bestLeafIndex = before.bestLeafIndex
  bestFrontier : after.bestFrontier = before.bestFrontier
  bestScore : after.bestScore = before.bestScore
  reportedFrontier : after.progress.bestFrontier = before.progress.bestFrontier
  plan : after.plan = before.plan

/-- A node becomes the best leaf and the plan leads to it. -/
structure TakesBest (after : SmbDfsSearch S) (nodeIndex : ℕ)
    (summary : SmbSearchEvaluatorSummary) : Prop where
  bestLeafIndex : after.bestLeafIndex = some nodeIndex
  bestFrontier : after.bestFrontier = summary.bestFrontier
  bestScore : after.bestScore = summary.evaluationScore
  reportedFrontier : after.progress.bestFrontier = summary.bestFrontier
  plan : after.plan = after.bestPlan

theorem getInitialClosedLossBlockReason_addNode (node : SmbSearchNode S)
    (key : Option ClosedLossTranspositionKey) (blockReason : SmbDfsClosedLossBlockReason) :
    (tree.addNode node key blockReason).isClosedLossCandidate tree.nodes.length = true ∧
      (tree.addNode node key blockReason).getInitialClosedLossBlockReason tree.nodes.length =
        .none := by
  have present : tree.nodes.length < (tree.nodes ++ [node]).length := by
    rw [List.length_append, List.length_singleton]
    exact Nat.lt_succ_self _
  have candidate := decide_eq_true present
  exact ⟨candidate, if_pos candidate⟩

theorem adds_recordChild (dfsFrame : DfsFrame) (action : SmbSearchLegalAction)
    (judgement : Judgement S) :
    Adds search judgement (search.recordChild dfsFrame action judgement) where
  options := rfl
  prefixFrames := rfl
  count := rfl
  trace := ⟨_, rfl, rfl, rfl⟩

theorem keepsBest_recordChild (dfsFrame : DfsFrame) (action : SmbSearchLegalAction)
    (judgement : Judgement S) : KeepsBest search (search.recordChild dfsFrame action judgement) :=
  ⟨rfl, rfl, rfl, rfl, rfl⟩

theorem plan_takeBest (nodeIndex : ℕ) (summary : SmbSearchEvaluatorSummary) :
    (search.takeBest nodeIndex summary).plan = (search.takeBest nodeIndex summary).bestPlan :=
  (bestPlan_rebuildBestPlan { search with
    bestLeafIndex := some nodeIndex
    bestFrontier := summary.bestFrontier
    bestScore := summary.evaluationScore
    progress := { search.progress with bestFrontier := summary.bestFrontier } }).symm

theorem expandChild_best {nodeIndex : ℕ} (dfsFrame : DfsFrame) {node : SmbSearchNode S}
    (found : search.nodes[nodeIndex]? = some node) :
    (search.improves node.evaluatorSummary = true ∧
        TakesBest (search.expandChild nodeIndex dfsFrame) nodeIndex node.evaluatorSummary) ∨
      (search.improves node.evaluatorSummary = false ∧
        KeepsBest search (search.expandChild nodeIndex dfsFrame)) := by
  rw [expandChild, updateBestLeaf, found]
  dsimp only
  cases improves : search.improves node.evaluatorSummary with
  | true =>
      rw [if_pos rfl]
      have rebuilt := search.plan_takeBest nodeIndex node.evaluatorSummary
      exact Or.inl ⟨rfl, rfl, rfl, rfl, rfl,
        rebuilt.trans (bestPlan_congr rfl rfl rfl rfl rfl rfl)⟩
  | false =>
      rw [if_neg Bool.false_ne_true]
      exact Or.inr ⟨rfl, rfl, rfl, rfl, rfl, rfl⟩

theorem expandChild_toSearchTree (nodeIndex : ℕ) (dfsFrame : DfsFrame) :
    (search.expandChild nodeIndex dfsFrame).toSearchTree =
      search.toSearchTree.pushFrame dfsFrame := by
  rw [expandChild, updateBestLeaf_toSearchTree]

theorem Adds.expandChild {before search : SmbDfsSearch S} (adds : Adds before judgement search)
    (nodeIndex : ℕ) (dfsFrame : DfsFrame) :
    Adds before judgement (search.expandChild nodeIndex dfsFrame) := by
  rw [SmbDfsSearch.expandChild, updateBestLeaf]
  split
  · exact ⟨adds.options, adds.prefixFrames, adds.count, adds.trace⟩
  · split <;> exact ⟨adds.options, adds.prefixFrames, adds.count, adds.trace⟩

section

variable (dfsFrame : DfsFrame) (action : SmbSearchLegalAction)
include dfsFrame action

theorem adds_settleChild (judgement : Judgement S) :
    Adds search judgement (search.settleChild dfsFrame action judgement) := by
  have adds := search.adds_recordChild dfsFrame action judgement
  rw [settleChild]
  split
  · exact adds.expandChild _ _
  · exact ⟨adds.options, adds.prefixFrames, adds.count, adds.trace⟩

theorem settleChild_pushed (pushed : judgement.verdict.pushed = true)
    (alive : judgement.verdict.expandedAlive = true) :
    search.settleChild dfsFrame action judgement =
      (search.recordChild dfsFrame action judgement).expandChild search.nodes.length
        (childFrame search.options search.nodes.length judgement.state action true .none) := by
  obtain ⟨candidate, reason⟩ := getInitialClosedLossBlockReason_addNode search.toSearchTree
    judgement.child judgement.key .none
  have isCandidate : childCandidate (search.recordChild dfsFrame action judgement).toSearchTree
      search.nodes.length judgement.verdict = true := by
    rw [childCandidate, alive, Bool.true_and]
    exact candidate
  have noReason : childInitialBlockReason
      (search.recordChild dfsFrame action judgement).toSearchTree search.nodes.length
        judgement.verdict = .none := by
    rw [childInitialBlockReason, if_pos alive]
    exact reason
  rw [settleChild]
  rw [if_pos pushed, isCandidate, noReason]

theorem settleChild_pruned (pruned : judgement.verdict.pushed = false)
    (dead : judgement.verdict.expandedAlive = false) :
    search.settleChild dfsFrame action judgement =
      { search.recordChild dfsFrame action judgement with
        toSearchTree := (search.addNode judgement.child judgement.key .none).prune
          search.nodes.length judgement.verdict.childOutcome
            (if judgement.verdict.nonGameplay then .nonGameplay else .none) } := by
  have reason : childBlockReason (search.recordChild dfsFrame action judgement).toSearchTree
      search.nodes.length judgement.verdict =
        if judgement.verdict.nonGameplay then .nonGameplay else .none := by
    rw [childBlockReason, if_neg (Bool.eq_false_iff.mp dead)]
  rw [settleChild]
  rw [if_neg (Bool.eq_false_iff.mp pruned), reason]
  rfl

theorem toSearchTree_settleChild_pushed (pushed : judgement.verdict.pushed = true)
    (alive : judgement.verdict.expandedAlive = true) :
    (search.settleChild dfsFrame action judgement).toSearchTree =
      (search.addNode judgement.child judgement.key .none).pushFrame
        (childFrame search.options search.nodes.length judgement.state action true .none) := by
  rw [settleChild_pushed search dfsFrame action pushed alive]
  exact expandChild_toSearchTree ..

theorem toSearchTree_settleChild_pruned (pruned : judgement.verdict.pushed = false)
    (dead : judgement.verdict.expandedAlive = false) :
    (search.settleChild dfsFrame action judgement).toSearchTree =
      (search.addNode judgement.child judgement.key .none).prune search.nodes.length
        judgement.verdict.childOutcome
        (if judgement.verdict.nonGameplay then .nonGameplay else .none) := by
  rw [settleChild_pruned search dfsFrame action pruned dead]

end

/-! ## Ticks -/

def advanced (search : SmbDfsSearch S) (dfsFrame : DfsFrame) (rest : List DfsFrame) :
    SmbDfsSearch S :=
  { search with toSearchTree := search.toSearchTree.advance dfsFrame rest }

/-- The changes a tick can make. -/
inductive TickEffect (driver : Driver S) (before after : SmbDfsSearch S) : Prop
  | rested (rests : Rests before after)
  | failed (dfsFrame : DfsFrame) (rest : List DfsFrame) (active : before.completed = false)
      (stack : before.dfsStack = dfsFrame :: rest) (completed : after.completed = true)
      (rests : Rests (before.advanced dfsFrame rest) after)
  | backtracked (dfsFrame : DfsFrame) (rest : List DfsFrame) (active : before.completed = false)
      (stack : before.dfsStack = dfsFrame :: rest)
      (exhausted : dfsFrame.nextActionIndex ≥ dfsFrame.actionOrdering.count)
      (rests : Rests (before.backtracked dfsFrame rest) after)
  | settled (dfsFrame : DfsFrame) (rest : List DfsFrame) (parent : SmbSearchNode S)
      (action : SmbSearchLegalAction) (arrival : Arrival S) (active : before.completed = false)
      (stack : before.dfsStack = dfsFrame :: rest) (unspent : before.budgetSpent = false)
      (found : before.nodes[dfsFrame.nodeIndex]? = some parent)
      (next : dfsFrame.actionOrdering.actions[dfsFrame.nextActionIndex]? = some action)
      (received : (driver parent.savestate action).receive = .ok arrival)
      (rests : Rests ((before.advanced dfsFrame rest).settleChild dfsFrame action
        (judgeArrival before.toSearchTree before.options dfsFrame.nodeIndex parent action arrival))
        after)

/-- What a search needs to know to be sure of a next step: its top frame names a node. -/
def TopFound (search : SmbDfsSearch S) : Prop :=
  ∀ dfsFrame ∈ search.dfsStack.head?, dfsFrame.nodeIndex < search.nodes.length

/-- **The effect of a tick.** -/
theorem tick_cases (driver : Driver S) (search : SmbDfsSearch S) (found : search.TopFound) :
    TickEffect driver search (tick driver search).1 := by
  rw [tick]
  split
  · exact .rested (Rests.refl search)
  · rename_i running
    have active := Bool.eq_false_iff.mpr running
    split
    · exact .rested (Rests.refl search)
    · split
      · exact .rested (rests_tickEmpty search)
      · rename_i dfsFrame rest stack
        split
        · exact .rested (rests_completeWithTraceEvent search
            ⟨SmbDfsSearchTraceEventType.noConfusion, SmbDfsSearchTraceEventType.noConfusion⟩)
        · rename_i unspent
          split
          · rename_i exhausted
            refine .backtracked dfsFrame rest active stack exhausted ?_
            cases rest with
            | nil => exact rests_tickEmpty _
            | cons parent rest =>
                simp only [tickBacktrack]
                split
                · exact Rests.refl _
                · exact rests_updateRenderableState _ _
          · rename_i remaining
            have inRange := Nat.lt_of_not_le remaining
            have isTop := found dfsFrame (by rw [stack]; rfl)
            have parentFound := List.getElem?_eq_getElem isTop
            have actionFound := List.getElem?_eq_getElem inRange
            rw [tickExpand]
            simp only [parentFound, actionFound]
            split
            · rename_i message _
              exact .failed dfsFrame rest active stack rfl (rests_completeWithError _ message)
            · rename_i arrival received
              exact .settled dfsFrame rest _ _ arrival active stack (Bool.eq_false_iff.mpr unspent)
                parentFound actionFound received (rests_checkMilestone _)

end SmbDfsSearch

end DirtSim
