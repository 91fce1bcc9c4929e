import DirtSim.Search.GameTree
import DirtSim.Search.LossSoundness

/-! # What transpositions cost

Every node that is expanded belongs to the tree of the game (`SmbDfsSearch.Unfolds`), so pruning
transpositions never finds more. It finds as much when each child pruned is covered by a closed loss
(`SmbDfsSearch.Bounds`), which the table does not ask for.
-/

namespace DirtSim

open Foundation

variable {S : Type}

/-- What stays of a node when its heavy data is released. -/
structure Keeps (kept whole : SmbSearchNode S) : Prop where
  evaluatorSummary : kept.evaluatorSummary = whole.evaluatorSummary
  currentFrontier : kept.currentFrontier = whole.currentFrontier
  playerYScreen : kept.playerYScreen = whole.playerYScreen
  velocityStuckFrameCount : kept.velocityStuckFrameCount = whole.velocityStuckFrameCount
  savestate : kept.savestate.isSome → kept.savestate = whole.savestate

theorem Keeps.refl (node : SmbSearchNode S) : Keeps node node := ⟨rfl, rfl, rfl, rfl, fun _ => rfl⟩

theorem Keeps.released {kept whole : SmbSearchNode S} (keeps : Keeps kept whole) :
    Keeps { kept with savestate := none, memorySnapshot := .blank, scenarioVideoFrame := none }
      whole :=
  ⟨keeps.evaluatorSummary, keeps.currentFrontier, keeps.playerYScreen,
    keeps.velocityStuckFrameCount, fun held => nomatch held⟩

theorem Keeps.judgeArrival {kept whole : SmbSearchNode S} (keeps : Keeps kept whole)
    (tree : SearchTree S) (options : SmbDfsSearchOptions) (parentIndex : ℕ)
    (action : SmbSearchLegalAction) (arrival : Arrival S) :
    judgeArrival tree options parentIndex kept action arrival =
      judgeArrival tree options parentIndex whole action arrival := by
  have stuck : ∀ state summary nonGameplay, countVelocityStuck options kept state summary
      nonGameplay = countVelocityStuck options whole state summary nonGameplay := by
    intro state summary nonGameplay
    simp [countVelocityStuck, keeps.currentFrontier, keeps.playerYScreen,
      keeps.velocityStuckFrameCount]
  simp [DirtSim.judgeArrival, judge, keeps.evaluatorSummary, stuck]

theorem Keeps.childOf (tree : SearchTree S) (options : SmbDfsSearchOptions) (parentIndex : ℕ)
    (parent : SmbSearchNode S) (action : SmbSearchLegalAction) (arrival : Arrival S) :
    Keeps (DirtSim.judgeArrival tree options parentIndex parent action arrival).child
      (childOf options parent action arrival) :=
  ⟨rfl, rfl, rfl, rfl, fun _ => rfl⟩

namespace SmbDfsSearch

variable {key : ClosedLossTranspositionKey}

/-- A closed loss at the position of a child got exactly as far, in no more frames, has been no
longer without progress and has stood still no longer. -/
def Covered (search : SmbDfsSearch S) (key : ClosedLossTranspositionKey)
    (child : SmbSearchNode S) : Prop :=
  ∃ (i : ℕ) (node : SmbSearchNode S), search.nodes[i]? = some node ∧
    search.closedLossTranspositionKeys[i]? = some (some key) ∧
      search.nodeOutcomes[i]? = some .closedLoss ∧
        node.evaluatorSummary.Ahead child.evaluatorSummary ∧
          node.velocityStuckFrameCount ≤ child.velocityStuckFrameCount

/-- The child that the next tick prunes as a transposition, if it does, is covered. -/
def CoversTransposition (driver : Driver S) (search : SmbDfsSearch S) : Prop :=
  ∀ dfsFrame rest parent action arrival key, search.dfsStack = dfsFrame :: rest →
    search.nodes[dfsFrame.nodeIndex]? = some parent →
      dfsFrame.actionOrdering.actions[dfsFrame.nextActionIndex]? = some action →
        (driver parent.savestate action).receive = .ok arrival →
          (judgeArrival search.toSearchTree search.options dfsFrame.nodeIndex parent action
            arrival).verdict.prunedTransposition = true →
            (judgeArrival search.toSearchTree search.options dfsFrame.nodeIndex parent action
              arrival).key = some key →
              search.Covered key (judgeArrival search.toSearchTree search.options
                dfsFrame.nodeIndex parent action arrival).child

/-- The nodes of a search, with all their data, as nodes of the tree of the game. -/
structure Unfolds (driver : Driver S) (origin : SmbSearchNode S) (search : SmbDfsSearch S)
    (whole : ℕ → SmbSearchNode S) : Prop where
  root : whole 0 = origin
  kept : ∀ (i : ℕ) (node : SmbSearchNode S), search.nodes[i]? = some node → Keeps node (whole i)
  edges : ∀ parent action child, (treeOf search.nodes).IsChild parent action child →
    ∃ arrival, (driver (whole parent).savestate action).receive = .ok arrival ∧
      whole child = childOf search.options (whole parent) action arrival
  keys : ∀ (i : ℕ) key, search.closedLossTranspositionKeys[i]? = some (some key) → 0 < i ∧
    (RamExtractor.extract (whole i).memorySnapshot true).gameMode = .normal ∧
      key = positionOf (RamExtractor.extract (whole i).memorySnapshot true)
        (whole i).memorySnapshot
  orders : ∀ dfsFrame ∈ search.dfsStack,
    dfsFrame.actionOrdering = orderingOf search.options (whole dfsFrame.nodeIndex)
  stackAlive : ∀ i ∈ search.stackIndices, search.Alive i
  reached : ∀ i, search.Alive i →
    Relation.ReflTransGen (Expands driver search.options) origin (whole i)

def bestFrontierOf (node : SmbSearchNode S) : ℕ := node.evaluatorSummary.bestFrontier

def Bounds (driver : Driver S) (search : SmbDfsSearch S) (whole : ℕ → SmbSearchNode S) : Prop :=
  ∀ i < search.nodes.length, i ∉ search.stackIndices →
    i = 0 ∨ Viable search.options (whole i) →
      Within (Expands driver search.options) bestFrontierOf search.bestFrontier (whole i)

section

variable {driver : Driver S} {origin : SmbSearchNode S} {before after search : SmbDfsSearch S}
  {whole : ℕ → SmbSearchNode S} {dfsFrame : DfsFrame} {rest : List DfsFrame}

theorem unfolds_start (driver : Driver S) (options : SmbDfsSearchOptions) (root : Root S) :
    Unfolds driver (rootNode root) (start options root) fun _ => rootNode root where
  root := rfl
  kept i node found := by
    have first : i < 1 := (List.getElem?_eq_some_iff.mp found).1
    rw [Nat.lt_one_iff.mp first] at found
    rw [← Option.some.inj found]
    exact Keeps.refl _
  edges parent action child edge := by
    have first : child < 1 := edge.lt_length
    rw [Nat.lt_one_iff.mp first] at edge
    cases edge
  keys i key found := by
    have first : i < 1 := (List.getElem?_eq_some_iff.mp found).1
    rw [Nat.lt_one_iff.mp first] at found
    cases found
  orders dfsFrame present := by
    rw [List.mem_singleton.mp present]
    rfl
  stackAlive i stacked := Or.inl (List.mem_singleton.mp stacked)
  reached _ _ := .refl

theorem Unfolds.of_rests (unfolds : Unfolds driver origin before whole)
    (rests : Rests before after) : Unfolds driver origin after whole where
  root := unfolds.root
  kept := by rw [rests.tree]; exact unfolds.kept
  edges := by rw [rests.tree, rests.options]; exact unfolds.edges
  keys := by rw [rests.tree]; exact unfolds.keys
  orders := by rw [rests.tree, rests.options]; exact unfolds.orders
  stackAlive i stacked := by
    rw [rests.tree] at stacked
    exact (alive_of_quiet rests.trace i).mpr (unfolds.stackAlive i stacked)
  reached i alive := by
    rw [rests.options]
    exact unfolds.reached i ((alive_of_quiet rests.trace i).mp alive)

theorem Bounds.of_rests (bounds : Bounds driver before whole) (rests : Rests before after) :
    Bounds driver after whole := by
  rw [Bounds, rests.tree, rests.options, rests.bestFrontier]
  exact bounds

theorem Unfolds.advanced (unfolds : Unfolds driver origin before whole)
    (stack : before.dfsStack = dfsFrame :: rest) :
    Unfolds driver origin (before.advanced dfsFrame rest) whole where
  root := unfolds.root
  kept := unfolds.kept
  edges := unfolds.edges
  keys := unfolds.keys
  orders other present := by
    rcases List.mem_cons.mp present with rfl | below
    · exact unfolds.orders dfsFrame (stack ▸ List.mem_cons_self)
    · exact unfolds.orders other (stack ▸ List.mem_cons_of_mem _ below)
  stackAlive i stacked := unfolds.stackAlive i (SearchTree.stackIndices_advance stack ▸ stacked)
  reached := unfolds.reached

theorem Bounds.advanced (bounds : Bounds driver before whole)
    (stack : before.dfsStack = dfsFrame :: rest) :
    Bounds driver (before.advanced dfsFrame rest) whole := by
  intro i present off
  exact bounds i present (SearchTree.stackIndices_advance stack ▸ off)

theorem quiet_backtracked (before : SmbDfsSearch S) (dfsFrame : DfsFrame)
    (rest : List DfsFrame) : Quiet before (before.backtracked dfsFrame rest) := by
  refine ⟨_, rfl, ?_⟩
  intro entry present
  rw [List.mem_singleton.mp present]
  exact ⟨SmbDfsSearchTraceEventType.noConfusion, SmbDfsSearchTraceEventType.noConfusion⟩

theorem kept_release (tree : SearchTree S)
    (kept : ∀ (i : ℕ) (node : SmbSearchNode S), tree.nodes[i]? = some node → Keeps node (whole i))
    (nodeIndex : ℕ) : ∀ (i : ℕ) (node : SmbSearchNode S),
      (tree.releaseNodeHeavyData nodeIndex).nodes[i]? = some node → Keeps node (whole i) := by
  intro i node found
  rw [getElem?_releaseNodeHeavyData] at found
  split at found
  · obtain ⟨old, isOld, rfl⟩ := Option.map_eq_some_iff.mp found
    exact (kept i old isOld).released
  · exact kept i node found

theorem Unfolds.backtracked (unfolds : Unfolds driver origin before whole)
    (stack : before.dfsStack = dfsFrame :: rest) :
    Unfolds driver origin (before.backtracked dfsFrame rest) whole where
  root := unfolds.root
  kept := kept_release _ unfolds.kept dfsFrame.nodeIndex
  edges parent action child edge := by
    rw [show treeOf (before.backtracked dfsFrame rest).nodes = _ from
      SearchTree.treeOf_releaseNodeHeavyData _ _] at edge
    exact unfolds.edges parent action child edge
  keys := unfolds.keys
  orders := SearchTree.forall_noteTop
    (fun other => other.actionOrdering = orderingOf before.options (whole other.nodeIndex))
    (fun _ _ _ => id) fun other below => unfolds.orders other (stack ▸ List.mem_cons_of_mem _ below)
  stackAlive i stacked := by
    rw [show (before.backtracked dfsFrame rest).stackIndices = _ from
      SearchTree.stackIndices_backtrack before.toSearchTree dfsFrame rest] at stacked
    refine (alive_of_quiet (quiet_backtracked before dfsFrame rest) i).mpr
      (unfolds.stackAlive i ?_)
    rw [SearchTree.stackIndices, stack, List.map_cons]
    exact List.mem_cons_of_mem _ stacked
  reached i alive :=
    unfolds.reached i ((alive_of_quiet (quiet_backtracked before dfsFrame rest) i).mp alive)

theorem bestFrontier_le_of_alive (knows : search.KnowsBest)
    (unfolds : Unfolds driver origin search whole) {i : ℕ} (alive : search.Alive i) :
    bestFrontierOf (whole i) ≤ search.bestFrontier := by
  obtain ⟨leaf, summary, leads⟩ := knows.leads
  have found := List.getElem?_eq_getElem (knows.aliveFound i alive)
  have summaryFound : search.summaryAt i =
      some (search.nodes.get ⟨i, knows.aliveFound i alive⟩).evaluatorSummary := by
    rw [summaryAt, found, Option.map_some, List.get_eq_getElem]
  have ranked := leads.highest i _ alive summaryFound
  have keeps := unfolds.kept i _ found
  rw [bestFrontierOf, ← keeps.evaluatorSummary, leads.bestFrontier]
  exact Prod.Lex.monotone_fst _ _ ranked

theorem Bounds.backtracked (bounds : Bounds driver before whole)
    (unfolds : Unfolds driver origin before whole) (knows : before.KnowsBest)
    {proof : ProofSearch SmbSearchLegalAction} (views : before.Views proof)
    (active : before.completed = false) (stack : before.dfsStack = dfsFrame :: rest)
    (exhausted : dfsFrame.nextActionIndex ≥ dfsFrame.actionOrdering.count) :
    Bounds driver (before.backtracked dfsFrame rest) whole := by
  have onTop : dfsFrame ∈ before.dfsStack := stack ▸ List.mem_cons_self
  have indices : before.stackIndices = dfsFrame.nodeIndex :: rest.map DfsFrame.nodeIndex := by
    rw [SearchTree.stackIndices, stack, List.map_cons]
  have isStacked : dfsFrame.nodeIndex ∈ before.stackIndices := indices ▸ List.mem_cons_self
  intro i present off _
  rw [show (before.backtracked dfsFrame rest).stackIndices = _ from
    SearchTree.stackIndices_backtrack before.toSearchTree dfsFrame rest] at off
  rw [show (before.backtracked dfsFrame rest).nodes.length = before.nodes.length from
    List.length_modify _ _ _] at present
  by_cases same : i = dfsFrame.nodeIndex
  · subst same
    refine Within.of_successors
      (bestFrontier_le_of_alive knows unfolds (unfolds.stackAlive _ isStacked)) ?_
    intro child follows
    obtain ⟨action, tried, arrival, received, isChild, viable⟩ := follows
    have inTree : action ∈ (treeOf before.nodes).childLabels dfsFrame.nodeIndex := by
      rw [views.tried active dfsFrame onTop, List.take_of_length_le exhausted,
        unfolds.orders dfsFrame onTop]
      exact tried
    obtain ⟨childIndex, edge⟩ := ParentTree.mem_childLabels.mp inTree
    obtain ⟨sameArrival, sameReceived, isWhole⟩ := unfolds.edges _ action childIndex edge
    have isSame : arrival = sameArrival := Except.ok.inj (received.symm.trans sameReceived)
    have isNode : child = whole childIndex := by
      rw [isChild, isWhole, isSame]
      rfl
    -- A child comes later than all that is on the stack.
    have later := knows.planted.grown.parent_lt edge
    have ordered : before.stackIndices.Pairwise (· > ·) := by
      rcases knows.planted.chain with empty | ancestry
      · rw [SearchTree.stackIndices, empty]
        exact List.Pairwise.nil
      · exact ancestry.pairwise knows.planted.grown
    have childOff : childIndex ∉ before.stackIndices := by
      rw [indices, List.mem_cons]
      rw [indices, List.pairwise_cons] at ordered
      rintro (isTop | below)
      · exact Nat.ne_of_gt later isTop
      · exact Nat.lt_asymm later (ordered.1 childIndex below)
    have childPresent := edge.lt_length
    rw [length_treeOf] at childPresent
    rw [isNode] at viable ⊢
    exact bounds childIndex childPresent childOff (Or.inr viable)
  · have wasOff : i ∉ before.stackIndices := by
      rw [indices, List.mem_cons]
      exact fun stacked => stacked.elim same off
    exact bounds i present wasOff ‹_›

theorem nodes_settleChild (before : SmbDfsSearch S) (dfsFrame : DfsFrame)
    (action : SmbSearchLegalAction) {judgement : Judgement S}
    (agree : judgement.verdict.pushed = judgement.verdict.expandedAlive)
    (kept : ∀ (i : ℕ) (node : SmbSearchNode S),
      (before.nodes ++ [judgement.child])[i]? = some node → Keeps node (whole i)) :
    ∀ (i : ℕ) (node : SmbSearchNode S),
      (before.settleChild dfsFrame action judgement).nodes[i]? = some node →
        Keeps node (whole i) := by
  cases pushed : judgement.verdict.pushed with
  | true =>
      rw [toSearchTree_settleChild_pushed before dfsFrame action pushed (agree.symm.trans pushed)]
      exact kept
  | false =>
      rw [toSearchTree_settleChild_pruned before dfsFrame action pushed (agree.symm.trans pushed),
        SearchTree.nodes_prune]
      exact kept_release (before.addNode judgement.child judgement.key .none) kept _

theorem keys_settleChild (before : SmbDfsSearch S) (dfsFrame : DfsFrame)
    (action : SmbSearchLegalAction) {judgement : Judgement S}
    (agree : judgement.verdict.pushed = judgement.verdict.expandedAlive) :
    (before.settleChild dfsFrame action judgement).closedLossTranspositionKeys =
      before.closedLossTranspositionKeys ++ [judgement.key] := by
  cases pushed : judgement.verdict.pushed with
  | true =>
      rw [toSearchTree_settleChild_pushed before dfsFrame action pushed (agree.symm.trans pushed)]
      rfl
  | false =>
      rw [toSearchTree_settleChild_pruned before dfsFrame action pushed (agree.symm.trans pushed)]
      obtain ⟨_, _, same⟩ := (before.addNode judgement.child judgement.key .none).prune_eq
        before.nodes.length judgement.verdict.childOutcome
          (if judgement.verdict.nonGameplay then .nonGameplay else .none)
      rw [same]
      rfl

theorem bestFrontier_le_settleChild (knows : before.KnowsBest) (dfsFrame : DfsFrame)
    (action : SmbSearchLegalAction) {judgement : Judgement S}
    (agree : judgement.verdict.pushed = judgement.verdict.expandedAlive) :
    before.bestFrontier ≤ (before.settleChild dfsFrame action judgement).bestFrontier := by
  obtain ⟨leaf, best, leads⟩ := knows.leads
  rcases settleChild_best dfsFrame action agree leads with ⟨_, ahead, takes⟩ | ⟨_, keeps⟩
  · rw [takes.bestFrontier, leads.bestFrontier]
    exact Prod.Lex.monotone_fst _ _ (le_of_lt ahead)
  · exact Nat.le_of_eq keeps.bestFrontier.symm

theorem buildClosedLossTranspositionKey_eq_some {options : SmbDfsSearchOptions}
    {state : NesSuperMarioBrosState} {snapshot : MemorySnapshot}
    (built : buildClosedLossTranspositionKey options state snapshot = some key) :
    state.gameMode = .normal ∧ key = positionOf state snapshot := by
  rw [buildClosedLossTranspositionKey] at built
  split at built
  · cases built
  · split at built
    · cases built
    · rename_i plays
      split at built
      · cases built
      · exact ⟨not_not.mp (not_or.mp plays).1, (Option.some.inj built).symm⟩

end

section

variable {driver : Driver S} {origin : SmbSearchNode S} {before search : SmbDfsSearch S}
  {whole : ℕ → SmbSearchNode S} {dfsFrame : DfsFrame} {rest : List DfsFrame}
  {parent : SmbSearchNode S} {action : SmbSearchLegalAction} {arrival : Arrival S}

def withChild (search : SmbDfsSearch S) (whole : ℕ → SmbSearchNode S) (dfsFrame : DfsFrame)
    (action : SmbSearchLegalAction) (arrival : Arrival S) : ℕ → SmbSearchNode S :=
  Function.update whole search.nodes.length
    (childOf search.options (whole dfsFrame.nodeIndex) action arrival)

variable (search whole dfsFrame action arrival) in
theorem withChild_new :
    withChild search whole dfsFrame action arrival search.nodes.length =
      childOf search.options (whole dfsFrame.nodeIndex) action arrival :=
  Function.update_self ..

theorem withChild_old {i : ℕ} (isOld : i < search.nodes.length) :
    withChild search whole dfsFrame action arrival i = whole i :=
  Function.update_of_ne (Nat.ne_of_lt isOld) _ _

theorem savestate_of_stacked (unfolds : Unfolds driver origin search whole)
    (planted : search.Planted) (stack : search.dfsStack = dfsFrame :: rest)
    (found : search.nodes[dfsFrame.nodeIndex]? = some parent) :
    parent.savestate = (whole dfsFrame.nodeIndex).savestate := by
  refine (unfolds.kept _ _ found).savestate ((planted.held _ _ found).mpr ?_)
  rw [SearchTree.stackIndices, stack]
  exact List.mem_cons_self

/-- What is known of a judgement on the child that an action leads to. -/
structure Judged (options : SmbDfsSearchOptions) (above : SmbSearchNode S)
    (action : SmbSearchLegalAction) (arrival : Arrival S) (parentIndex : ℕ)
    (judgement : Judgement S) : Prop where
  agree : judgement.verdict.pushed = judgement.verdict.expandedAlive
  link : judgement.child.link = some (parentIndex, action)
  keeps : Keeps judgement.child (childOf options above action arrival)
  viable : judgement.verdict.expandedAlive = true ↔
    Viable options (childOf options above action arrival) ∧
      judgement.verdict.prunedTransposition = false
  state : judgement.state = RamExtractor.extract arrival.memorySnapshot true
  key : ∀ key, judgement.key = some key →
    (RamExtractor.extract arrival.memorySnapshot true).gameMode = .normal ∧
      key = positionOf (RamExtractor.extract arrival.memorySnapshot true) arrival.memorySnapshot
  keyed : judgement.verdict.prunedTransposition = true → ∃ key, judgement.key = some key

theorem judged_judgeArrival {above : SmbSearchNode S} (keeps : Keeps parent above)
    (tree : SearchTree S) (options : SmbDfsSearchOptions) (parentIndex : ℕ)
    (action : SmbSearchLegalAction) (arrival : Arrival S) :
    Judged options above action arrival parentIndex
      (judgeArrival tree options parentIndex parent action arrival) := by
  rw [keeps.judgeArrival]
  exact {
    agree := judgeArrival_pushed ..
    link := judgeArrival_link ..
    keeps := Keeps.childOf ..
    viable := expandedAlive_iff_viable ..
    state := rfl
    key := fun _ => buildClosedLossTranspositionKey_eq_some
    keyed := by
      intro pruned
      have isKeyed := (Bool.and_eq_true_iff.mp pruned).2
      rw [Option.any_eq_true] at isKeyed
      obtain ⟨key, isKey, _⟩ := isKeyed
      exact ⟨key, isKey⟩ }

theorem Unfolds.settleChild (unfolds : Unfolds driver origin before whole)
    (knows : before.KnowsBest) (stack : before.dfsStack = dfsFrame :: rest)
    (next : dfsFrame.actionOrdering.actions[dfsFrame.nextActionIndex]? = some action)
    (received : (driver (whole dfsFrame.nodeIndex).savestate action).receive = .ok arrival)
    {judgement : Judgement S}
    (judged : Judged before.options (whole dfsFrame.nodeIndex) action arrival dfsFrame.nodeIndex
      judgement) :
    Unfolds driver origin ((before.advanced dfsFrame rest).settleChild dfsFrame action judgement)
      (withChild before whole dfsFrame action arrival) := by
  have planted := knows.planted
  have onTop : dfsFrame ∈ before.dfsStack := stack ▸ List.mem_cons_self
  have isStacked : dfsFrame.nodeIndex ∈ before.stackIndices := List.mem_map_of_mem onTop
  have present := planted.lt_length isStacked
  have advanced := unfolds.advanced stack
  have agree := judged.agree
  have adds := (before.advanced dfsFrame rest).adds_settleChild dfsFrame action judgement
  have links : treeOf ((before.advanced dfsFrame rest).settleChild dfsFrame action
      judgement).nodes = treeOf before.nodes ++ [some (dfsFrame.nodeIndex, action)] := by
    rw [← judged.link]
    exact (settleChild_extends (before.advanced dfsFrame rest) dfsFrame action agree).1
  have keys : ((before.advanced dfsFrame rest).settleChild dfsFrame action
      judgement).closedLossTranspositionKeys =
        before.closedLossTranspositionKeys ++ [judgement.key] :=
    keys_settleChild (before.advanced dfsFrame rest) dfsFrame action agree
  have level : before.closedLossTranspositionKeys.length = before.nodes.length :=
    planted.keys.trans planted.nodes.symm
  have new := withChild_new before whole dfsFrame action arrival
  have stacked : ∀ i ∈ (before.advanced dfsFrame rest).stackIndices, i < before.nodes.length := by
    intro i isStacked
    exact planted.lt_length (SearchTree.stackIndices_advance stack ▸ isStacked)
  have options : ((before.advanced dfsFrame rest).settleChild dfsFrame action judgement).options =
      before.options := adds.options
  have expands : judgement.verdict.expandedAlive = true →
      Expands driver before.options (whole dfsFrame.nodeIndex)
        (childOf before.options (whole dfsFrame.nodeIndex) action arrival) := by
    intro expanded
    refine ⟨action, ?_, arrival, received, rfl, (judged.viable.mp expanded).1⟩
    rw [← unfolds.orders dfsFrame onTop]
    exact List.mem_of_getElem? next
  exact {
    root := by
      rw [withChild_old (Nat.lt_of_le_of_lt (Nat.zero_le _) present)]
      exact unfolds.root
    kept := by
      refine nodes_settleChild (before.advanced dfsFrame rest) dfsFrame action agree ?_
      intro i node isNode
      rcases Nat.lt_trichotomy i before.nodes.length with isOld | rfl | beyond
      · rw [withChild_old isOld]
        exact unfolds.kept i node ((List.getElem?_append_left isOld).symm.trans isNode)
      · rw [new, ← Option.some.inj (List.getElem?_concat_length.symm.trans isNode)]
        exact judged.keeps
      · have bound := (List.getElem?_eq_some_iff.mp isNode).1
        rw [List.length_append, List.length_singleton] at bound
        exact absurd bound (Nat.not_lt.mpr beyond)
    edges := by
      intro above edgeAction child edge
      rw [links] at edge
      rw [options]
      rcases ParentTree.isChild_append_singleton.mp edge with oldEdge | ⟨isNew, rfl, rfl⟩
      · have childOld := oldEdge.lt_length
        have aboveOld := Nat.lt_trans (planted.grown.parent_lt oldEdge) childOld
        rw [length_treeOf] at childOld aboveOld
        rw [withChild_old childOld, withChild_old aboveOld]
        exact unfolds.edges above edgeAction child oldEdge
      · rw [length_treeOf] at isNew
        rw [isNew]
        refine ⟨arrival, ?_, ?_⟩
        · rw [withChild_old present]
          exact received
        · rw [withChild_old present]
          exact new
    keys := by
      intro i key isKey
      rw [keys] at isKey
      rcases Nat.lt_trichotomy i before.nodes.length with isOld | rfl | beyond
      · rw [withChild_old isOld]
        exact unfolds.keys i key
          ((List.getElem?_append_left (level.symm ▸ isOld)).symm.trans isKey)
      · rw [new]
        refine ⟨Nat.lt_of_le_of_lt (Nat.zero_le _) present, ?_⟩
        refine judged.key key (Option.some.inj (Eq.trans ?_ isKey))
        rw [← level, List.getElem?_concat_length]
      · have bound := (List.getElem?_eq_some_iff.mp isKey).1
        rw [List.length_append, List.length_singleton] at bound
        exact absurd bound (Nat.not_lt.mpr (level ▸ beyond))
    orders := by
      have old : ∀ other ∈ (before.advanced dfsFrame rest).dfsStack, other.actionOrdering =
          orderingOf before.options
            (withChild before whole dfsFrame action arrival other.nodeIndex) := by
        intro other isFrame
        rw [withChild_old (stacked _ (List.mem_map_of_mem isFrame))]
        exact advanced.orders other isFrame
      rw [options]
      cases pushed : judgement.verdict.pushed with
      | true =>
          rw [toSearchTree_settleChild_pushed _ dfsFrame action pushed (agree.symm.trans pushed)]
          intro other isFrame
          rcases List.mem_cons.mp isFrame with rfl | below
          · rw [childFrame_nodeIndex, judged.state]
            rw [show (before.advanced dfsFrame rest).nodes.length = before.nodes.length from rfl, new]
            rfl
          · exact old other below
      | false =>
          rw [toSearchTree_settleChild_pruned _ dfsFrame action pushed (agree.symm.trans pushed),
            SearchTree.dfsStack_prune]
          exact SearchTree.forall_noteTop
            (fun other => other.actionOrdering = orderingOf before.options
              (withChild before whole dfsFrame action arrival other.nodeIndex))
            (fun _ _ _ => id) old
    stackAlive := by
      intro i isStacked
      rw [adds.alive_iff i]
      cases pushed : judgement.verdict.pushed with
      | true =>
          have alive := agree.symm.trans pushed
          rw [toSearchTree_settleChild_pushed _ dfsFrame action pushed alive] at isStacked
          rcases List.mem_cons.mp isStacked with isNew | below
          · exact Or.inr ⟨alive, isNew⟩
          · exact Or.inl (advanced.stackAlive i below)
      | false =>
          rw [toSearchTree_settleChild_pruned _ dfsFrame action pushed (agree.symm.trans pushed),
            SearchTree.stackIndices_prune] at isStacked
          exact Or.inl (advanced.stackAlive i isStacked)
    reached := by
      intro i alive
      rw [options]
      rcases (adds.alive_iff i).mp alive with wasAlive | ⟨expanded, isNew⟩
      · have isOld : i < before.nodes.length := knows.aliveFound i wasAlive
        rw [withChild_old isOld]
        exact unfolds.reached i wasAlive
      · rw [isNew, show (before.advanced dfsFrame rest).nodes.length = before.nodes.length from rfl,
          new]
        exact (unfolds.reached _ (unfolds.stackAlive _ isStacked)).tail (expands expanded) }

theorem within_of_covered (respects : Respects driver)
    (unfolds : Unfolds driver origin before whole) (bounds : Bounds driver before whole)
    (planted : before.Planted) {proof : ProofSearch SmbSearchLegalAction}
    (views : before.Views proof) (sound : proof.Sound)
    (received : (driver (whole dfsFrame.nodeIndex).savestate action).receive = .ok arrival)
    {judgement : Judgement S}
    (judged : Judged before.options (whole dfsFrame.nodeIndex) action arrival dfsFrame.nodeIndex
      judgement) (isKey : judgement.key = some key) (viable : Viable before.options
      (childOf before.options (whole dfsFrame.nodeIndex) action arrival))
    (covered : before.Covered key judgement.child) :
    Within (Expands driver before.options) bestFrontierOf before.bestFrontier
      (childOf before.options (whole dfsFrame.nodeIndex) action arrival) := by
  obtain ⟨i, node, found, hasKey, lost, ahead, stuck⟩ := covered
  obtain ⟨later, normal, isPosition⟩ := unfolds.keys i key hasKey
  obtain ⟨childNormal, childPosition⟩ := judged.key key isKey
  have keeps := unfolds.kept i node found
  have present : i < before.nodes.length := (List.getElem?_eq_some_iff.mp found).1
  have born : Born driver before.options (whole i) := by
    obtain ⟨parent, label, edge, _⟩ :=
      planted.grown.earlier i later (by rw [length_treeOf]; exact present)
    obtain ⟨from_, arrived, isWhole⟩ := unfolds.edges parent label i edge
    exact ⟨_, _, from_, arrived, isWhole⟩
  have covers : Covers driver before.options (whole i)
      (childOf before.options (whole dfsFrame.nodeIndex) action arrival) := {
    knownBorn := born
    nodeBorn := ⟨_, action, arrival, received, rfl⟩
    seen := ⟨normal.trans childNormal.symm, isPosition.symm.trans childPosition⟩
    viable := viable
    ahead := by
      rw [← keeps.evaluatorSummary, ← judged.keeps.evaluatorSummary]
      exact ahead
    velocityStuckFrameCount := by
      rw [← keeps.velocityStuckFrameCount, ← judged.keeps.velocityStuckFrameCount]
      exact stuck }
  have off : i ∉ before.stackIndices := by
    intro stacked
    obtain ⟨frame, isFrame, same⟩ := List.mem_map.mp stacked
    exact views.not_lost sound isFrame (same ▸ lost)
  refine (bounds i present off (Or.inr covers.known_viable)).of_simulation
    (Covers driver before.options) ?_ ?_ covers
  · intro known other successor related expands
    exact related.expands respects expands
  · intro known other related
    exact Nat.le_of_eq related.ahead.bestFrontier.symm

theorem Bounds.settleChild (bounds : Bounds driver before whole) (respects : Respects driver)
    (unfolds : Unfolds driver origin before whole) (knows : before.KnowsBest)
    {proof : ProofSearch SmbSearchLegalAction} (views : before.Views proof) (sound : proof.Sound)
    (stack : before.dfsStack = dfsFrame :: rest)
    (received : (driver (whole dfsFrame.nodeIndex).savestate action).receive = .ok arrival)
    {judgement : Judgement S}
    (judged : Judged before.options (whole dfsFrame.nodeIndex) action arrival dfsFrame.nodeIndex
      judgement)
    (covered : ∀ key, judgement.verdict.prunedTransposition = true → judgement.key = some key →
      before.Covered key judgement.child) :
    Bounds driver ((before.advanced dfsFrame rest).settleChild dfsFrame action judgement)
      (withChild before whole dfsFrame action arrival) := by
  have planted := knows.planted
  have agree := judged.agree
  have adds := (before.advanced dfsFrame rest).adds_settleChild dfsFrame action judgement
  have options : ((before.advanced dfsFrame rest).settleChild dfsFrame action judgement).options =
      before.options := adds.options
  have links := (settleChild_extends (before.advanced dfsFrame rest) dfsFrame action agree).1
  have length : ((before.advanced dfsFrame rest).settleChild dfsFrame action
      judgement).nodes.length = before.nodes.length + 1 := by
    rw [← length_treeOf, links, List.length_append, length_treeOf, List.length_singleton]
    rfl
  have grows : before.bestFrontier ≤
      ((before.advanced dfsFrame rest).settleChild dfsFrame action judgement).bestFrontier :=
    bestFrontier_le_settleChild (knows.advanced stack) dfsFrame action agree
  intro i present off expands
  rw [options] at expands ⊢
  rw [length] at present
  refine Within.mono ?_ grows
  rcases Nat.lt_or_eq_of_le (Nat.le_of_lt_succ present) with isOld | rfl
  · rw [withChild_old isOld] at expands ⊢
    refine bounds i isOld (fun stacked => off ?_) expands
    rw [← SearchTree.stackIndices_advance stack] at stacked
    cases pushed : judgement.verdict.pushed with
    | true =>
        rw [toSearchTree_settleChild_pushed _ dfsFrame action pushed (agree.symm.trans pushed)]
        exact List.mem_cons_of_mem _ stacked
    | false =>
        rw [toSearchTree_settleChild_pruned _ dfsFrame action pushed (agree.symm.trans pushed),
          SearchTree.stackIndices_prune]
        exact stacked
  · rw [withChild_new] at expands ⊢
    have viable := expands.resolve_left (Nat.ne_of_gt (Nat.lt_of_le_of_lt (Nat.zero_le _)
      (planted.lt_length (i := dfsFrame.nodeIndex) (by
        rw [SearchTree.stackIndices, stack]
        exact List.mem_cons_self))))
    have pruned : judgement.verdict.prunedTransposition = true := by
      refine Bool.not_eq_false _ |>.mp fun unpruned => ?_
      have alive := judged.viable.mpr ⟨viable, unpruned⟩
      rw [toSearchTree_settleChild_pushed _ dfsFrame action (agree.trans alive) alive] at off
      exact off List.mem_cons_self
    obtain ⟨key, isKey⟩ := judged.keyed pruned
    exact within_of_covered respects unfolds bounds planted views sound received judged isKey viable
      (covered key pruned isKey)

theorem unfolds_tick (driver : Driver S) (knows : before.KnowsLosses)
    (unfolds : Unfolds driver origin before whole) :
    ∃ next, Unfolds driver origin (before.tick driver).1 next ∧
      (Respects driver → before.CoversTransposition driver → Bounds driver before whole →
        Bounds driver (before.tick driver).1 next) := by
  have planted := knows.knowsBest.planted
  obtain ⟨proof, views, sound⟩ := knows.simulated
  cases before.tick_cases driver planted.topFound with
  | rested rests =>
      exact ⟨whole, unfolds.of_rests rests, fun _ _ bounds => bounds.of_rests rests⟩
  | failed dfsFrame rest _ stack _ rests =>
      exact ⟨whole, (unfolds.advanced stack).of_rests rests,
        fun _ _ bounds => (bounds.advanced stack).of_rests rests⟩
  | backtracked dfsFrame rest active stack exhausted rests =>
      refine ⟨whole, (unfolds.backtracked stack).of_rests rests, fun _ _ bounds => ?_⟩
      exact (bounds.backtracked unfolds knows.knowsBest views active stack exhausted).of_rests rests
  | settled dfsFrame rest parent action arrival _ stack _ found next received rests =>
      have judged := judged_judgeArrival (unfolds.kept _ _ found) before.toSearchTree before.options
        dfsFrame.nodeIndex action arrival
      have wholeReceived : (driver (whole dfsFrame.nodeIndex).savestate action).receive =
          .ok arrival := by
        rw [← savestate_of_stacked unfolds planted stack found]
        exact received
      refine ⟨_, (unfolds.settleChild knows.knowsBest stack next wholeReceived judged).of_rests rests,
        fun respects covers bounds => Bounds.of_rests ?_ rests⟩
      refine bounds.settleChild respects unfolds knows.knowsBest views sound stack wholeReceived
        judged ?_
      intro key pruned isKey
      exact covers dfsFrame rest parent action arrival key stack found next received pruned isKey

end

section

/-! ## Running to the end -/

variable {driver : Driver S} {search : SmbDfsSearch S}

def Exhausted (search : SmbDfsSearch S) : Prop :=
  search.progress.lastSearchEvent = .completedExhausted

instance (search : SmbDfsSearch S) : Decidable search.Exhausted :=
  inferInstanceAs (Decidable (search.progress.lastSearchEvent = .completedExhausted))

theorem toSearchProgressEvent_traceEvent (verdict : Verdict) :
    toSearchProgressEvent verdict.traceEvent ≠ .completedExhausted := by
  rw [Verdict.traceEvent]
  split
  · exact SearchProgressEvent.noConfusion
  · split
    · exact SearchProgressEvent.noConfusion
    · split
      · exact SearchProgressEvent.noConfusion
      · split
        · exact SearchProgressEvent.noConfusion
        · split
          · exact SearchProgressEvent.noConfusion
          · split <;> exact SearchProgressEvent.noConfusion

theorem lastSearchEvent_settleChild (search : SmbDfsSearch S) (dfsFrame : DfsFrame)
    (action : SmbSearchLegalAction) (judgement : Judgement S) :
    (search.settleChild dfsFrame action judgement).progress.lastSearchEvent =
      toSearchProgressEvent judgement.verdict.traceEvent := by
  rw [settleChild]
  split
  · rw [expandChild, updateBestLeaf]
    split
    · rfl
    · split <;> rfl
  · rfl

theorem exhausted_of_tickExpand {dfsFrame : DfsFrame} {rest : List DfsFrame}
    (exhausted : (tickExpand driver search dfsFrame rest).1.Exhausted) : search.Exhausted := by
  rw [tickExpand] at exhausted
  split at exhausted
  · split at exhausted
    · cases exhausted
    · rw [checkMilestone] at exhausted
      split at exhausted
      · cases exhausted
      · rw [Exhausted, lastSearchEvent_settleChild] at exhausted
        exact absurd exhausted (toSearchProgressEvent_traceEvent _)
  · exact exhausted

theorem dfsStack_tick (empty : search.Exhausted → search.dfsStack = [])
    (exhausted : (search.tick driver).1.Exhausted) : (search.tick driver).1.dfsStack = [] := by
  rw [tick] at exhausted ⊢
  split at exhausted
  · rename_i completed
    rw [if_pos completed]
    exact empty exhausted
  · rename_i running
    rw [if_neg running]
    split at exhausted
    · rename_i paused
      rw [if_pos paused]
      exact empty exhausted
    · rename_i playing
      rw [if_neg playing]
      split at exhausted
      · rename_i stack
        exact (congrArg SearchTree.dfsStack (rests_tickEmpty search).tree).trans stack
      · rename_i dfsFrame rest stack
        split at exhausted
        · cases exhausted
        · rename_i unspent
          rw [if_neg unspent]
          split at exhausted
          · rename_i spent
            rw [if_pos spent]
            cases rest with
            | nil =>
                exact congrArg SearchTree.dfsStack
                  (rests_tickEmpty (search.backtracked dfsFrame [])).tree
            | cons parent rest =>
                rw [tickBacktrack] at exhausted
                split at exhausted <;> cases exhausted
          · rw [empty (exhausted_of_tickExpand exhausted)] at stack
            cases stack

theorem options_tick (driver : Driver S) (planted : search.Planted) :
    (search.tick driver).1.options = search.options := by
  cases search.tick_cases driver planted.topFound with
  | rested rests => exact rests.options
  | failed _ _ _ _ _ rests => exact rests.options
  | backtracked _ _ _ _ _ rests => exact rests.options
  | settled dfsFrame rest parent action arrival _ _ _ _ _ _ rests =>
      exact rests.options.trans (adds_settleChild _ dfsFrame action _).options

def ticks (driver : Driver S) (search : SmbDfsSearch S) : ℕ → SmbDfsSearch S
  | 0 => search
  | count + 1 => ((ticks driver search count).tick driver).1

section

variable {options : SmbDfsSearchOptions} {root : Root S} {count : ℕ}

theorem reachable_ticks (driver : Driver S) (options : SmbDfsSearchOptions) (root : Root S)
    (count : ℕ) : (machine S).Reachable (ticks driver (start options root) count) := by
  induction count with
  | zero => exact ⟨_, [], ⟨options, root, rfl⟩, .nil _⟩
  | succ count ih =>
      have moved : (machine S).step (ticks driver (start options root) count) (.tick driver)
          (ticks driver (start options root) (count + 1)) := rfl
      exact ih.step moved

theorem options_ticks (driver : Driver S) (options : SmbDfsSearchOptions) (root : Root S)
    (count : ℕ) : (ticks driver (start options root) count).options = options := by
  induction count with
  | zero => rfl
  | succ count ih =>
      have knows := knowsBest_of_reachable (reachable_ticks driver options root count)
      exact (options_tick driver knows.planted).trans ih

theorem dfsStack_ticks (exhausted : (ticks driver (start options root) count).Exhausted) :
    (ticks driver (start options root) count).dfsStack = [] := by
  induction count with
  | zero => cases exhausted
  | succ count ih => exact dfsStack_tick ih exhausted

theorem unfolds_ticks (driver : Driver S) (options : SmbDfsSearchOptions) (root : Root S)
    (count : ℕ) :
    ∃ whole, Unfolds driver (rootNode root) (ticks driver (start options root) count) whole ∧
      (Respects driver →
        (∀ earlier < count, (ticks driver (start options root) earlier).CoversTransposition driver) →
          Bounds driver (ticks driver (start options root) count) whole) := by
  induction count with
  | zero =>
      refine ⟨_, unfolds_start driver options root, fun _ _ i present off => ?_⟩
      exact absurd (List.mem_singleton.mpr (Nat.lt_one_iff.mp present)) off
  | succ count ih =>
      obtain ⟨whole, unfolds, bounds⟩ := ih
      have knows := knowsLosses_of_reachable (reachable_ticks driver options root count)
      obtain ⟨next, unfoldsNext, boundsNext⟩ := unfolds_tick driver knows unfolds
      refine ⟨next, unfoldsNext, fun respects covers => ?_⟩
      exact boundsNext respects (covers count (Nat.lt_succ_self _))
        (bounds respects fun earlier before => covers earlier (Nat.lt_succ_of_lt before))

theorem reached_ticks (driver : Driver S) (options : SmbDfsSearchOptions) (root : Root S)
    (count : ℕ) :
    ∃ found, Relation.ReflTransGen (Expands driver options) (rootNode root) found ∧
      bestFrontierOf found = (ticks driver (start options root) count).bestFrontier := by
  obtain ⟨whole, unfolds, _⟩ := unfolds_ticks driver options root count
  have knows := knowsBest_of_reachable (reachable_ticks driver options root count)
  obtain ⟨leaf, summary, leads⟩ := knows.leads
  have reached := unfolds.reached leaf leads.alive
  rw [options_ticks] at reached
  refine ⟨whole leaf, reached, ?_⟩
  obtain ⟨node, isNode, isSummary⟩ := Option.map_eq_some_iff.mp leads.found
  rw [bestFrontierOf, ← (unfolds.kept leaf node isNode).evaluatorSummary, isSummary,
    leads.bestFrontier]

theorem within_ticks (respects : Respects driver)
    (covers : ∀ earlier < count,
      (ticks driver (start options root) earlier).CoversTransposition driver)
    (exhausted : (ticks driver (start options root) count).Exhausted) :
    Within (Expands driver options) bestFrontierOf
      (ticks driver (start options root) count).bestFrontier (rootNode root) := by
  obtain ⟨whole, unfolds, bounds⟩ := unfolds_ticks driver options root count
  have knows := knowsBest_of_reachable (reachable_ticks driver options root count)
  have off : 0 ∉ (ticks driver (start options root) count).stackIndices := by
    rw [SearchTree.stackIndices, dfsStack_ticks exhausted]
    exact List.not_mem_nil
  have bounded := bounds respects covers 0 (knows.aliveFound 0 (Or.inl rfl)) off (Or.inl rfl)
  rw [unfolds.root, options_ticks] at bounded
  exact bounded

end

theorem expands_congr (options : SmbDfsSearchOptions) (enabled : Bool) :
    Expands driver { options with fallingTranspositionPruningEnabled := enabled } =
      Expands driver options := by
  funext node child
  refine propext (exists_congr fun action => and_congr Iff.rfl (exists_congr fun arrival =>
    and_congr_right fun _ => and_congr Iff.rfl ?_))
  exact ⟨fun viable => ⟨viable.goesOn, viable.normal, viable.moves, viable.progresses⟩,
    fun viable => ⟨viable.goesOn, viable.normal, viable.moves, viable.progresses⟩⟩

theorem coversTransposition_of_disabled
    (disabled : search.options.fallingTranspositionPruningEnabled = false) :
    search.CoversTransposition driver := by
  intro dfsFrame rest parent action arrival key _ _ _ _ _ isKey
  rw [judgeArrival] at isKey
  dsimp only at isKey
  rw [buildClosedLossTranspositionKey, disabled] at isKey
  cases isKey

/-- **What pruning transpositions costs.** An exhausted search that prunes transpositions gets no
further than one that does not. It gets as far when every child it prunes as a transposition is
covered by a closed loss. -/
theorem bestFrontier_of_transpositions (respects : Respects driver)
    (options : SmbDfsSearchOptions) (root : Root S) {pruned plain : ℕ}
    (on : (ticks driver (start { options with fallingTranspositionPruningEnabled := true } root)
      pruned).Exhausted)
    (off : (ticks driver (start { options with fallingTranspositionPruningEnabled := false } root)
      plain).Exhausted) :
    (ticks driver (start { options with fallingTranspositionPruningEnabled := true } root)
        pruned).bestFrontier ≤
      (ticks driver (start { options with fallingTranspositionPruningEnabled := false } root)
        plain).bestFrontier ∧
    ((∀ earlier < pruned,
        (ticks driver (start { options with fallingTranspositionPruningEnabled := true } root)
          earlier).CoversTransposition driver) →
      (ticks driver (start { options with fallingTranspositionPruningEnabled := true } root)
          pruned).bestFrontier =
        (ticks driver (start { options with fallingTranspositionPruningEnabled := false } root)
          plain).bestFrontier) := by
  have plainBound := within_ticks respects (fun earlier _ => coversTransposition_of_disabled (by
    rw [options_ticks])) off
  rw [expands_congr] at plainBound
  obtain ⟨found, reached, isBest⟩ := reached_ticks driver
    { options with fallingTranspositionPruningEnabled := true } root pruned
  rw [expands_congr] at reached
  have further := isBest ▸ plainBound found reached
  refine ⟨further, fun covers => le_antisymm further ?_⟩
  have prunedBound := within_ticks respects covers on
  rw [expands_congr] at prunedBound
  obtain ⟨other, otherReached, isOther⟩ := reached_ticks driver
    { options with fallingTranspositionPruningEnabled := false } root plain
  rw [expands_congr] at otherReached
  exact isOther ▸ prunedBound other otherReached

end

section

/-! ## A detour that is missed

The way straight ahead leads back to a place that is also reached from aside. Who was ahead
before stalls there; who was not goes on from there beyond all that was reached. The first loses
and is remembered as further, so the second is pruned.
-/

inductive Spot
  | entrance | ahead | aside | back | beyond | furthest | lost
deriving DecidableEq

namespace Spot

def absoluteX : Spot → UInt8
  | entrance => 0
  | ahead => 10
  | aside => 6
  | back => 5
  | beyond => 7
  | furthest => 11
  | lost => 0

def next : Spot → SmbSearchLegalAction → Spot
  | entrance, .rightRun => ahead
  | entrance, .rightJumpRun => aside
  | ahead, .rightRun => back
  | aside, .rightRun => back
  | back, .rightRun => beyond
  | beyond, .rightRun => furthest
  | _, _ => lost

def snapshot (spot : Spot) : MemorySnapshot :=
  ⟨fun address =>
    if address = 0x0770 then 1
    else if address = 0x000E then (if spot = lost then 11 else 8)
    else if address = 0x0086 then spot.absoluteX
    else 0⟩

/-- Every action takes half of the frames after which a player without progress has stalled. -/
def driver : Driver Spot := fun savestate action =>
  { loaded := true
    runtimeLastError := ""
    stepResult :=
      { advancedFrames := 60
        runtimeHealthy := true
        runtimeRunning := true
        memorySnapshot := savestate.map fun spot => (spot.next action).snapshot
        scenarioVideoFrame := none
        lastError := "" }
    savestate := savestate.map fun spot => spot.next action
    frameSnapshot := none }

def root : Root Spot where
  planId := UUID.nil
  rootPrefixFrames := []
  savestate := entrance
  evaluatorSummary :=
    { bestFrontier := 0
      gameplayFrames := 0
      gameplayFramesSinceProgress := 0
      distanceRewardTotal := 0
      endReason := .none
      evaluationScore := 0
      levelClearRewardTotal := 0
      gameState := some 1
      terminal := false }
  memorySnapshot := some entrance.snapshot
  scenarioVideoFrame := none

def options (pruning : Bool) : SmbDfsSearchOptions :=
  { maxSearchedNodeCount := 0, fallingTranspositionPruningEnabled := pruning }

theorem produced {arrival : Arrival Spot} (produced : Produced driver arrival) :
    arrival.memorySnapshot = arrival.savestate.snapshot := by
  obtain ⟨savestate, action, received⟩ := produced
  cases savestate with
  | none => cases received
  | some spot =>
      rw [← Except.ok.inj received]

theorem eq_of_key {one other : Spot}
    (isKey : buildClosedLossTranspositionKey {} (RamExtractor.extract one.snapshot true)
      one.snapshot = some key)
    (sameKey : buildClosedLossTranspositionKey {} (RamExtractor.extract other.snapshot true)
      other.snapshot = some key) : one = other := by
  have place : ∀ {spot : Spot}, buildClosedLossTranspositionKey {}
      (RamExtractor.extract spot.snapshot true) spot.snapshot = some key →
        spot ≠ lost ∧ key.absoluteX = RamExtractor.decodeAbsoluteX 0 spot.absoluteX := by
    intro spot built
    refine ⟨?_, congrArg (fun key => key.absoluteX) (buildClosedLossTranspositionKey_eq_some built).2⟩
    rintro rfl
    cases built
  obtain ⟨oneLives, onePlace⟩ := place isKey
  obtain ⟨otherLives, otherPlace⟩ := place sameKey
  have samePlace := onePlace.symm.trans otherPlace
  clear place isKey sameKey onePlace otherPlace
  revert oneLives otherLives samePlace
  cases one <;> cases other <;> decide

theorem respects : Respects driver := by
  intro one other oneProduced otherProduced key isKey sameKey action next received
  rw [Arrival.key, produced oneProduced] at isKey
  rw [Arrival.key, produced otherProduced] at sameKey
  refine ⟨next, ?_, rfl, rfl, rfl⟩
  rw [← eq_of_key isKey sameKey]
  exact received

theorem exhausted : (ticks driver (start (options true) root) 48).Exhausted ∧
    (ticks driver (start (options false) root) 84).Exhausted := by
  decide +kernel

end Spot

/-- The detour is found without pruning transpositions only. -/
theorem not_same_bestFrontier_detour :
    ¬ ∀ driver : Driver Spot, Respects driver → ∀ (options : SmbDfsSearchOptions)
      (root : Root Spot) (pruned plain : ℕ), options.maxSearchedNodeCount = 0 →
        options.stopAfterBestFrontier = none →
        (ticks driver (start { options with fallingTranspositionPruningEnabled := true } root)
          pruned).Exhausted →
        (ticks driver (start { options with fallingTranspositionPruningEnabled := false } root)
          plain).Exhausted →
        (ticks driver (start { options with fallingTranspositionPruningEnabled := true } root)
          pruned).bestFrontier =
        (ticks driver (start { options with fallingTranspositionPruningEnabled := false } root)
          plain).bestFrontier := by
  intro same
  have found : (ticks Spot.driver (start (Spot.options true) Spot.root) 48).bestFrontier = 10 ∧
      (ticks Spot.driver (start (Spot.options false) Spot.root) 84).bestFrontier = 11 := by
    decide +kernel
  have equal := same Spot.driver Spot.respects (Spot.options true) Spot.root 48 84 rfl rfl
    Spot.exhausted.1 Spot.exhausted.2
  have apart : (10 : ℕ) = 11 := found.1.symm.trans (equal.trans found.2)
  exact absurd apart (by decide)

theorem bestFrontier_of_transpositions_detour :
    (ticks Spot.driver (start (Spot.options true) Spot.root) 48).bestFrontier ≤
      (ticks Spot.driver (start (Spot.options false) Spot.root) 84).bestFrontier :=
  (bestFrontier_of_transpositions Spot.respects (Spot.options true) Spot.root
    Spot.exhausted.1 Spot.exhausted.2).1

end

end SmbDfsSearch

end DirtSim
