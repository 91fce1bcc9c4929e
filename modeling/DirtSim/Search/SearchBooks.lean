import DirtSim.Search.TickEffect

/-! # The search balances its books

The parallel vectors stay equally long, the stack is a chain of parents, and a node has its
savestate exactly as long as it is on the stack (`SmbDfsSearch.Balanced`). So no released
savestate is ever loaded, and what is loaded is what was captured
(`SmbDfsSearch.balanced_of_run`).
-/

namespace DirtSim

open Foundation

namespace SmbDfsSearch

variable {S : Type}
variable {rest : List DfsFrame}

/-- What the vectors, the stack and the count have to do with each other. -/
structure Balanced (search : SmbDfsSearch S) : Prop where
  nodes : search.nodes.length = search.progress.searchedNodeCount + 1
  outcomes : search.nodeOutcomes.length = search.progress.searchedNodeCount + 1
  blockReasons : search.closedLossBlockReasons.length = search.progress.searchedNodeCount + 1
  keys : search.closedLossTranspositionKeys.length = search.progress.searchedNodeCount + 1
  parents : ∀ (i : ℕ) (node : SmbSearchNode S), search.nodes[i]? = some node → 0 < i →
    ∃ parent, node.parentIndex = some parent ∧ parent < i
  chain : search.dfsStack = [] ∨ (treeOf search.nodes).Ancestry search.stackIndices
  held : ∀ (i : ℕ) (node : SmbSearchNode S), search.nodes[i]? = some node →
    (node.savestate.isSome ↔ i ∈ search.stackIndices)
  budget : 0 < search.options.maxSearchedNodeCount →
    search.progress.searchedNodeCount ≤ search.options.maxSearchedNodeCount

/-- The nodes of the search form a tree. -/
structure Planted (search : SmbDfsSearch S) : Prop extends Balanced search where
  grown : (treeOf search.nodes).Grown
  linked : ∀ node ∈ search.nodes, node.Linked

section

variable {before after search : SmbDfsSearch S}
variable {dfsFrame : DfsFrame} {action : SmbSearchLegalAction} {child : SmbSearchNode S}
  {others : List ℕ}

theorem Planted.of_rests (planted : before.Planted) (rests : Rests before after) :
    after.Planted where
  nodes := by rw [rests.tree, rests.count]; exact planted.nodes
  outcomes := by rw [rests.tree, rests.count]; exact planted.outcomes
  blockReasons := by rw [rests.tree, rests.count]; exact planted.blockReasons
  keys := by rw [rests.tree, rests.count]; exact planted.keys
  parents := by rw [rests.tree]; exact planted.parents
  chain := by rw [rests.tree]; exact planted.chain
  held := by rw [rests.tree]; exact planted.held
  budget := by rw [rests.options, rests.count]; exact planted.budget
  grown := by rw [rests.tree]; exact planted.grown
  linked := by rw [rests.tree]; exact planted.linked

theorem Planted.lt_length (planted : search.Planted) {i : ℕ} (stacked : i ∈ search.stackIndices) :
    i < search.nodes.length := by
  rcases planted.chain with empty | ancestry
  · rw [SearchTree.stackIndices, empty] at stacked
    cases stacked
  · have bound := ancestry.lt_length planted.grown i stacked
    rw [length_treeOf] at bound
    exact bound

theorem Planted.length_not_stacked (planted : search.Planted) :
    search.nodes.length ∉ search.stackIndices :=
  fun stacked => absurd (planted.lt_length stacked) (Nat.lt_irrefl _)

theorem Planted.topFound (planted : search.Planted) : search.TopFound := by
  intro dfsFrame isTop
  refine planted.lt_length (List.mem_map.mpr ⟨dfsFrame, ?_, rfl⟩)
  exact List.mem_of_head? isTop

theorem Planted.nodup (planted : search.Planted) : search.stackIndices.Nodup := by
  rcases planted.chain with empty | ancestry
  · rw [SearchTree.stackIndices, empty]
    exact List.nodup_nil
  · exact ancestry.nodup planted.grown

theorem planted_start (options : SmbDfsSearchOptions) (root : Root S) :
    (start options root).Planted where
  nodes := rfl
  outcomes := rfl
  blockReasons := rfl
  keys := rfl
  parents i node found later := by
    have bound : i < 1 := (List.getElem?_eq_some_iff.mp found).1
    omega
  chain := Or.inr .root
  held i node found := by
    have bound : i < 1 := (List.getElem?_eq_some_iff.mp found).1
    have isRoot : i = 0 := by omega
    subst isRoot
    cases found
    exact ⟨fun _ => List.mem_cons_self, fun _ => rfl⟩
  budget _ := Nat.zero_le _
  grown := ParentTree.grown_singleton
  linked node present := by
    rw [List.mem_singleton.mp present]
    rfl

theorem Planted.advanced (planted : search.Planted) (stack : search.dfsStack = dfsFrame :: rest) :
    (search.advanced dfsFrame rest).Planted :=
  have same := SearchTree.stackIndices_advance stack
  { planted with
    chain := Or.inr (by
      rcases planted.chain with empty | ancestry
      · rw [empty] at stack
        cases stack
      · exact same ▸ ancestry)
    held := fun i node found => by
      rw [planted.held i node found]
      exact (same ▸ Iff.rfl) }

theorem getElem?_releaseNodeHeavyData (tree : SearchTree S) (nodeIndex i : ℕ) :
    (tree.releaseNodeHeavyData nodeIndex).nodes[i]? =
      if nodeIndex = i then (tree.nodes[i]?).map fun node => { node with
        savestate := none, memorySnapshot := .blank, scenarioVideoFrame := none }
      else tree.nodes[i]? := by
  simp only [SearchTree.releaseNodeHeavyData, List.getElem?_modify]
  split
  · rfl
  · exact Option.map_id'

theorem linked_releaseNodeHeavyData {tree : SearchTree S} (linked : ∀ node ∈ tree.nodes, node.Linked)
    (nodeIndex : ℕ) : ∀ node ∈ (tree.releaseNodeHeavyData nodeIndex).nodes, node.Linked := by
  intro node present
  obtain ⟨i, found⟩ := List.mem_iff_getElem?.mp present
  rw [getElem?_releaseNodeHeavyData] at found
  split at found
  · obtain ⟨old, isOld, rfl⟩ := Option.map_eq_some_iff.mp found
    exact linked old (List.mem_of_getElem? isOld)
  · exact linked node (List.mem_of_getElem? found)

theorem parents_of_grown {nodes : List (SmbSearchNode S)} (grown : (treeOf nodes).Grown) :
    ∀ (i : ℕ) (node : SmbSearchNode S), nodes[i]? = some node → 0 < i →
      ∃ parent, node.parentIndex = some parent ∧ parent < i := by
  intro i node found later
  obtain ⟨bound, _⟩ := List.getElem?_eq_some_iff.mp found
  obtain ⟨parent, label, link, earlier⟩ := grown.earlier i later (by rw [length_treeOf]; exact bound)
  rw [treeOf, List.getElem?_map, found, Option.map_some] at link
  exact ⟨parent, (SmbSearchNode.of_link_some (Option.some.inj link)).1, earlier⟩

theorem held_release {tree : SearchTree S} {nodeIndex : ℕ} {before after : List ℕ}
    (held : ∀ (i : ℕ) (node : SmbSearchNode S), tree.nodes[i]? = some node →
      (node.savestate.isSome ↔ i ∈ before))
    (leaves : nodeIndex ∉ after) (others : ∀ i, i ≠ nodeIndex → (i ∈ before ↔ i ∈ after)) :
    ∀ (i : ℕ) (node : SmbSearchNode S),
      (tree.releaseNodeHeavyData nodeIndex).nodes[i]? = some node →
        (node.savestate.isSome ↔ i ∈ after) := by
  intro i node found
  rw [getElem?_releaseNodeHeavyData] at found
  split at found
  · rename_i same
    subst same
    obtain ⟨old, _, rfl⟩ := Option.map_eq_some_iff.mp found
    exact ⟨fun holds => (nomatch holds), fun stacked => absurd stacked leaves⟩
  · rename_i apart
    rw [held i node found]
    exact others i fun same => apart same.symm

theorem Planted.backtracked (planted : search.Planted) (stack : search.dfsStack = dfsFrame :: rest) :
    (search.backtracked dfsFrame rest).Planted := by
  have indices : search.stackIndices = dfsFrame.nodeIndex :: rest.map DfsFrame.nodeIndex := by
    rw [SearchTree.stackIndices, stack, List.map_cons]
  have left := SearchTree.stackIndices_backtrack search.toSearchTree dfsFrame rest
  have links := SearchTree.treeOf_releaseNodeHeavyData search.toSearchTree dfsFrame.nodeIndex
  have gone : dfsFrame.nodeIndex ∉ rest.map DfsFrame.nodeIndex :=
    (List.nodup_cons.mp (indices ▸ planted.nodup)).1
  have grown : (treeOf (search.backtracked dfsFrame rest).nodes).Grown := links ▸ planted.grown
  exact {
    nodes := (List.length_modify _ _ _).trans planted.nodes
    outcomes := List.length_set.trans planted.outcomes
    blockReasons := List.length_set.trans planted.blockReasons
    keys := planted.keys
    parents := parents_of_grown grown
    chain := by
      rcases planted.chain with empty | ancestry
      · rw [empty] at stack
        cases stack
      · cases rest with
        | nil => exact Or.inl rfl
        | cons parent rest =>
            refine Or.inr ?_
            rw [indices] at ancestry
            rw [show (search.backtracked dfsFrame (parent :: rest)).stackIndices = _ from left]
            exact links ▸ ancestry.tail
    held := by
      rw [show (search.backtracked dfsFrame rest).stackIndices = _ from left]
      refine held_release planted.held gone ?_
      intro i apart
      rw [indices, List.mem_cons]
      exact or_iff_right apart
    budget := planted.budget
    grown := grown
    linked := linked_releaseNodeHeavyData planted.linked dfsFrame.nodeIndex }

theorem Planted.grown_addNode (planted : search.Planted) {parent : ℕ}
    (present : parent < search.nodes.length) (link : child.link = some (parent, action)) :
    (treeOf (search.nodes ++ [child])).Grown := by
  rw [treeOf_append]
  have added : treeOf [child] = [some (parent, action)] := by
    rw [treeOf, List.map_singleton, link]
  rw [added]
  exact planted.grown.append (by rw [length_treeOf]; exact present) action

theorem linked_of_link {parent : ℕ} (link : child.link = some (parent, action)) : child.Linked := by
  obtain ⟨hasParent, hasAction⟩ := SmbSearchNode.of_link_some link
  rw [SmbSearchNode.Linked, hasParent, hasAction, Option.isSome_some, Option.isSome_some]

theorem lt_of_unspent (unspent : search.budgetSpent = false)
    (limited : 0 < search.options.maxSearchedNodeCount) :
    search.progress.searchedNodeCount < search.options.maxSearchedNodeCount := by
  rw [budgetSpent, decide_eq_false_iff_not, not_and] at unspent
  exact Nat.lt_of_not_le (unspent limited)

theorem Planted.held_addNode (planted : search.Planted) (captured : child.savestate.isSome) :
    ∀ (i : ℕ) (node : SmbSearchNode S), (search.nodes ++ [child])[i]? = some node →
      (node.savestate.isSome ↔ i ∈ search.nodes.length :: search.stackIndices) := by
  intro i node found
  rcases Nat.lt_trichotomy i search.nodes.length with old | rfl | beyond
  · rw [planted.held i node ((List.getElem?_append_left old).symm.trans found), List.mem_cons]
    exact (or_iff_right (Nat.ne_of_lt old)).symm
  · cases List.getElem?_concat_length.symm.trans found
    exact ⟨fun _ => List.mem_cons_self, fun _ => captured⟩
  · have bound : i < (search.nodes ++ [child]).length := (List.getElem?_eq_some_iff.mp found).1
    rw [List.length_append, List.length_singleton] at bound
    omega

section

variable (planted : search.Planted) {top : ℕ} (indices : search.stackIndices = top :: others)
  (link : child.link = some (top, action)) (captured : child.savestate.isSome)
  (unspent : search.budgetSpent = false)
include planted indices link captured unspent

theorem Planted.push {key : Option ClosedLossTranspositionKey} {childFrame : DfsFrame}
    (isChild : childFrame.nodeIndex = search.nodes.length)
    (options : after.options = search.options)
    (count : after.progress.searchedNodeCount = search.progress.searchedNodeCount + 1)
    (tree : after.toSearchTree = (search.addNode child key .none).pushFrame childFrame) :
    after.Planted := by
  have present : top < search.nodes.length :=
    planted.lt_length (indices ▸ List.mem_cons_self)
  have grown := planted.grown_addNode present link
  have edge : (treeOf (search.nodes ++ [child])).IsChild top action search.nodes.length := by
    rw [ParentTree.IsChild, treeOf, List.getElem?_map, List.getElem?_concat_length,
      Option.map_some, link]
  have pushed : after.stackIndices = search.nodes.length :: search.stackIndices := by
    rw [tree, ← isChild]
    rfl
  exact {
    nodes := by rw [tree, count, ← planted.nodes]; exact List.length_append
    outcomes := by rw [tree, count, ← planted.outcomes]; exact List.length_append
    blockReasons := by rw [tree, count, ← planted.blockReasons]; exact List.length_append
    keys := by rw [tree, count, ← planted.keys]; exact List.length_append
    parents := by rw [tree]; exact parents_of_grown grown
    chain := by
      refine Or.inr ?_
      rw [pushed, indices, tree]
      refine .child edge ?_
      rcases planted.chain with empty | ancestry
      · rw [SearchTree.stackIndices, empty] at indices
        cases indices
      · rw [indices] at ancestry
        exact treeOf_append _ _ ▸ ancestry.append
    held := by
      rw [pushed, tree]
      exact planted.held_addNode captured
    budget := by
      rw [options, count]
      exact lt_of_unspent unspent
    grown := by rw [tree]; exact grown
    linked := by
      rw [tree]
      intro node isNode
      rcases List.mem_append.mp isNode with old | new
      · exact planted.linked node old
      · rw [List.mem_singleton.mp new]
        exact linked_of_link link }

theorem Planted.prune {key : Option ClosedLossTranspositionKey} {outcome : SmbSearchNodeOutcome}
    {blockReason : SmbDfsClosedLossBlockReason} (options : after.options = search.options)
    (count : after.progress.searchedNodeCount = search.progress.searchedNodeCount + 1)
    (tree : after.toSearchTree =
      (search.addNode child key .none).prune search.nodes.length outcome blockReason) :
    after.Planted := by
  have present : top < search.nodes.length :=
    planted.lt_length (indices ▸ List.mem_cons_self)
  have nodes : after.nodes =
      ((search.addNode child key .none).releaseNodeHeavyData search.nodes.length).nodes := by
    rw [tree, SearchTree.nodes_prune]
  have links : treeOf after.nodes = treeOf (search.nodes ++ [child]) := by
    rw [nodes, SearchTree.treeOf_releaseNodeHeavyData]
    rfl
  have grown : (treeOf after.nodes).Grown := links ▸ planted.grown_addNode present link
  have stacked : after.stackIndices = search.stackIndices := by
    rw [tree, SearchTree.stackIndices_prune]
    rfl
  obtain ⟨_, _, pruned⟩ := (search.addNode child key .none).prune_eq search.nodes.length outcome
    blockReason
  rw [pruned] at tree
  exact {
    nodes := by
      rw [nodes, count, ← planted.nodes]
      exact (List.length_modify _ _ _).trans List.length_append
    outcomes := by
      rw [tree, count, ← planted.outcomes]
      exact List.length_set.trans List.length_append
    blockReasons := by
      rw [tree, count, ← planted.blockReasons]
      exact List.length_set.trans List.length_append
    keys := by rw [tree, count, ← planted.keys]; exact List.length_append
    parents := parents_of_grown grown
    chain := by
      rw [stacked, links]
      rcases planted.chain with empty | ancestry
      · rw [SearchTree.stackIndices, empty] at indices
        cases indices
      · exact Or.inr (treeOf_append _ _ ▸ ancestry.append)
    held := by
      rw [stacked, nodes]
      refine held_release (planted.held_addNode captured) planted.length_not_stacked ?_
      intro i apart
      rw [List.mem_cons]
      exact or_iff_right apart
    budget := by
      rw [options, count]
      exact lt_of_unspent unspent
    grown := grown
    linked := by
      rw [nodes]
      refine linked_releaseNodeHeavyData ?_ _
      intro node isNode
      rcases List.mem_append.mp isNode with old | new
      · exact planted.linked node old
      · rw [List.mem_singleton.mp new]
        exact linked_of_link link }

end

theorem judgeArrival_link (tree : SearchTree S) (options : SmbDfsSearchOptions) (parentIndex : ℕ)
    (parent : SmbSearchNode S) (action : SmbSearchLegalAction) (arrival : Arrival S) :
    (judgeArrival tree options parentIndex parent action arrival).child.link =
      some (parentIndex, action) := rfl

theorem childFrame_nodeIndex (options : SmbDfsSearchOptions) (childIndex : ℕ)
    (state : NesSuperMarioBrosState) (action : SmbSearchLegalAction) (candidate : Bool)
    (blockReason : SmbDfsClosedLossBlockReason) :
    (childFrame options childIndex state action candidate blockReason).nodeIndex = childIndex := rfl

theorem Planted.settleChild (planted : search.Planted)
    (indices : search.stackIndices = dfsFrame.nodeIndex :: others)
    (unspent : search.budgetSpent = false) {judgement : Judgement S}
    (link : judgement.child.link = some (dfsFrame.nodeIndex, action))
    (captured : judgement.child.savestate.isSome)
    (agree : judgement.verdict.pushed = judgement.verdict.expandedAlive) :
    (search.settleChild dfsFrame action judgement).Planted := by
  have adds := search.adds_settleChild dfsFrame action judgement
  cases pushed : judgement.verdict.pushed with
  | true =>
      exact planted.push indices link captured unspent (childFrame_nodeIndex ..) adds.options
        adds.count (toSearchTree_settleChild_pushed search dfsFrame action pushed
          (agree.symm.trans pushed))
  | false =>
      exact planted.prune indices link captured unspent adds.options adds.count
        (toSearchTree_settleChild_pruned search dfsFrame action pushed (agree.symm.trans pushed))

theorem Planted.tick (planted : search.Planted) (driver : Driver S) :
    (search.tick driver).1.Planted := by
  cases search.tick_cases driver planted.topFound with
  | rested rests => exact planted.of_rests rests
  | failed dfsFrame rest _ stack _ rests => exact (planted.advanced stack).of_rests rests
  | backtracked dfsFrame rest _ stack _ rests => exact (planted.backtracked stack).of_rests rests
  | settled dfsFrame rest parent action arrival _ stack unspent _ _ _ rests =>
      have indices : (search.advanced dfsFrame rest).stackIndices =
        dfsFrame.nodeIndex :: rest.map DfsFrame.nodeIndex := rfl
      refine Planted.of_rests ?_ rests
      exact (planted.advanced stack).settleChild indices unspent (judgeArrival_link ..) rfl
        (judgeArrival_pushed ..)

theorem planted_step {call : Call S} (planted : before.Planted)
    (moved : (machine S).step before call after) : after.Planted := by
  cases moved
  cases call with
  | tick driver => exact planted.tick driver
  | pauseSet paused => exact planted.of_rests (rests_pauseSet before paused)
  | stop => exact planted.of_rests (rests_stop before)

theorem planted_of_initial (initial : (machine S).initial search) : search.Planted := by
  obtain ⟨options, root, rfl⟩ := initial
  exact planted_start options root

theorem Planted.of_run (planted : before.Planted) {calls : List (Call S)}
    (run : (machine S).Run before calls after) : after.Planted :=
  run.invariant (fun _ _ _ => planted_step) planted

end

section

/-! ## Savestates that are loaded are intact -/

variable {before after search : SmbDfsSearch S}

/-- Every node that is on the stack afterwards and existed before was there before, unchanged. -/
def KeepsStacked (before after : SmbDfsSearch S) : Prop :=
  ∀ i ∈ after.stackIndices, i < before.nodes.length →
    i ∈ before.stackIndices ∧ after.nodes[i]? = before.nodes[i]?

theorem KeepsStacked.of_tree (tree : after.toSearchTree = before.toSearchTree) :
    KeepsStacked before after := by
  intro i stacked _
  rw [tree] at stacked ⊢
  exact ⟨stacked, rfl⟩

theorem keepsStacked_backtracked (planted : before.Planted) {dfsFrame : DfsFrame}
    (stack : before.dfsStack = dfsFrame :: rest) :
    KeepsStacked before (before.backtracked dfsFrame rest) := by
  have indices : before.stackIndices = dfsFrame.nodeIndex :: rest.map DfsFrame.nodeIndex := by
    rw [SearchTree.stackIndices, stack, List.map_cons]
  have gone := (List.nodup_cons.mp (indices ▸ planted.nodup)).1
  intro i stacked _
  rw [show (before.backtracked dfsFrame rest).stackIndices = _ from
    SearchTree.stackIndices_backtrack before.toSearchTree dfsFrame rest] at stacked
  have apart : dfsFrame.nodeIndex ≠ i := fun same => gone (same ▸ stacked)
  refine ⟨indices ▸ List.mem_cons_of_mem _ stacked, ?_⟩
  rw [show (before.backtracked dfsFrame rest).nodes =
    (before.releaseNodeHeavyData dfsFrame.nodeIndex).nodes from rfl,
    getElem?_releaseNodeHeavyData, if_neg apart]

theorem keepsStacked_settleChild (dfsFrame : DfsFrame) (action : SmbSearchLegalAction)
    {judgement : Judgement S} (agree : judgement.verdict.pushed = judgement.verdict.expandedAlive) :
    KeepsStacked before (before.settleChild dfsFrame action judgement) := by
  intro i stacked old
  have kept : (before.nodes ++ [judgement.child])[i]? = before.nodes[i]? :=
    List.getElem?_append_left old
  cases pushed : judgement.verdict.pushed with
  | true =>
      rw [toSearchTree_settleChild_pushed before dfsFrame action pushed
        (agree.symm.trans pushed)] at stacked ⊢
      cases stacked with
      | head => exact absurd old (Nat.lt_irrefl _)
      | tail _ stacked => exact ⟨stacked, kept⟩
  | false =>
      rw [toSearchTree_settleChild_pruned before dfsFrame action pushed
        (agree.symm.trans pushed)] at stacked ⊢
      rw [SearchTree.stackIndices_prune] at stacked
      refine ⟨stacked, ?_⟩
      rw [SearchTree.nodes_prune, getElem?_releaseNodeHeavyData, if_neg (Nat.ne_of_gt old)]
      exact kept

theorem keepsStacked_step {call : Call S} (planted : before.Planted)
    (moved : (machine S).step before call after) : KeepsStacked before after := by
  cases moved
  cases call with
  | pauseSet paused => exact .of_tree (rests_pauseSet before paused).tree
  | stop => exact .of_tree (rests_stop before).tree
  | tick driver =>
      have effect := before.tick_cases driver planted.topFound
      intro i
      cases effect with
      | rested rests => exact KeepsStacked.of_tree rests.tree i
      | failed dfsFrame rest _ stack _ rests =>
          rw [show (Call.apply before (.tick driver)).toSearchTree = _ from rests.tree]
          intro stacked _
          exact ⟨SearchTree.stackIndices_advance stack ▸ stacked, rfl⟩
      | backtracked dfsFrame rest _ stack _ rests =>
          rw [show (Call.apply before (.tick driver)).toSearchTree = _ from rests.tree]
          exact keepsStacked_backtracked planted stack i
      | settled dfsFrame rest parent action arrival _ stack _ _ _ _ rests =>
          rw [show (Call.apply before (.tick driver)).toSearchTree = _ from rests.tree]
          intro stacked old
          obtain ⟨wasStacked, kept⟩ := keepsStacked_settleChild dfsFrame action
            (judgeArrival_pushed ..) i stacked old
          exact ⟨SearchTree.stackIndices_advance stack ▸ wasStacked, kept⟩

theorem count_le_of_step {call : Call S} (planted : before.Planted)
    (moved : (machine S).step before call after) :
    before.progress.searchedNodeCount ≤ after.progress.searchedNodeCount := by
  cases moved
  cases call with
  | pauseSet paused => exact Nat.le_of_eq (rests_pauseSet before paused).count.symm
  | stop => exact Nat.le_of_eq (rests_stop before).count.symm
  | tick driver =>
      cases before.tick_cases driver planted.topFound with
      | rested rests => exact Nat.le_of_eq rests.count.symm
      | failed dfsFrame rest _ _ _ rests => exact Nat.le_of_eq rests.count.symm
      | backtracked dfsFrame rest _ _ _ rests => exact Nat.le_of_eq rests.count.symm
      | settled dfsFrame rest parent action arrival _ _ _ _ _ _ rests =>
          have adds := (before.advanced dfsFrame rest).adds_settleChild dfsFrame action
            (judgeArrival before.toSearchTree before.options dfsFrame.nodeIndex parent action
              arrival)
          have counted := rests.count.trans adds.count
          exact Nat.le_trans (Nat.le_succ _) (Nat.le_of_eq counted.symm)

theorem keepsStacked_run (planted : before.Planted) {calls : List (Call S)}
    (run : (machine S).Run before calls after) :
    before.nodes.length ≤ after.nodes.length ∧ KeepsStacked before after := by
  induction run with
  | nil state => exact ⟨Nat.le_refl _, .of_tree rfl⟩
  | cons moved rest ih =>
      have next := planted_step planted moved
      obtain ⟨grows, kept⟩ := ih next
      have first := keepsStacked_step planted moved
      have grew := count_le_of_step planted moved
      rw [← Nat.add_le_add_iff_right, ← planted.nodes, ← next.nodes] at grew
      refine ⟨Nat.le_trans grew grows, ?_⟩
      intro i stacked old
      obtain ⟨stackedThen, same⟩ := kept i stacked (Nat.lt_of_lt_of_le old grew)
      obtain ⟨stackedBefore, sameBefore⟩ := first i stackedThen old
      exact ⟨stackedBefore, same.trans sameBefore⟩

theorem Planted.tick_congr (planted : search.Planted) {driver other : Driver S}
    (agree : ∀ savestate action, driver (some savestate) action = other (some savestate) action) :
    search.tick driver = search.tick other := by
  rw [SmbDfsSearch.tick, SmbDfsSearch.tick]
  split
  · rfl
  · split
    · rfl
    · split
      · rfl
      · rename_i dfsFrame rest stack
        have stacked : dfsFrame.nodeIndex ∈ search.stackIndices := by
          rw [SearchTree.stackIndices, stack]
          exact List.mem_cons_self
        obtain ⟨node, found⟩ : ∃ node, search.nodes[dfsFrame.nodeIndex]? = some node :=
          ⟨_, List.getElem?_eq_getElem (planted.lt_length stacked)⟩
        obtain ⟨savestate, captured⟩ :=
          Option.isSome_iff_exists.mp ((planted.held _ _ found).mpr stacked)
        have same : tickExpand driver search dfsFrame rest =
            tickExpand other search dfsFrame rest := by
          rw [tickExpand, tickExpand, found]
          cases dfsFrame.actionOrdering.actions[dfsFrame.nextActionIndex]? with
          | none => rfl
          | some action =>
              dsimp only
              rw [captured, agree]
        rw [same]

/-- **The books of the search balance.** In every state a started search reaches: the vectors
have one entry for each node searched and one for the root, parents come first, the stack is a
chain of parents from the root, the savestates held are those of the stack, and the budget is
kept. What is loaded is a savestate as it was captured, whenever that was. -/
theorem balanced_of_run {start middle final : SmbDfsSearch S} {before after : List (Call S)}
    (initial : (machine S).initial start) (first : (machine S).Run start before middle)
    (second : (machine S).Run middle after final) :
    final.Balanced ∧
      (∀ i ∈ final.stackIndices, i < middle.nodes.length →
        final.nodes[i]? = middle.nodes[i]? ∧
          ∃ node savestate, middle.nodes[i]? = some node ∧ node.savestate = some savestate) ∧
      ∀ driver other : Driver S,
        (∀ savestate action, driver (some savestate) action = other (some savestate) action) →
          final.tick driver = final.tick other := by
  have plantedMiddle := (planted_of_initial initial).of_run first
  have plantedFinal := plantedMiddle.of_run second
  refine ⟨plantedFinal.toBalanced, ?_, fun _ _ => plantedFinal.tick_congr⟩
  intro i stacked old
  obtain ⟨wasStacked, same⟩ := (keepsStacked_run plantedMiddle second).2 i stacked old
  have found := List.getElem?_eq_getElem old
  obtain ⟨savestate, captured⟩ :=
    Option.isSome_iff_exists.mp ((plantedMiddle.held i _ found).mpr wasStacked)
  exact ⟨same, _, savestate, found, captured⟩

def standingSnapshot : MemorySnapshot :=
  ⟨fun address => if address = 0x0770 then 1 else if address = 0x000E then 8 else 0⟩

/-- An emulator in which every action leaves the player standing. -/
def standingDriver : Driver Unit := fun _ _ =>
  { loaded := true
    runtimeLastError := ""
    stepResult :=
      { advancedFrames := 1
        runtimeHealthy := true
        runtimeRunning := true
        memorySnapshot := some standingSnapshot
        scenarioVideoFrame := none
        lastError := "" }
    savestate := some ()
    frameSnapshot := none }

def standingRoot : Root Unit where
  planId := UUID.nil
  rootPrefixFrames := [smbSearchLegalActionToPlayerControlFrame .rightRun]
  savestate := ()
  evaluatorSummary :=
    { bestFrontier := 0
      gameplayFrames := 1
      gameplayFramesSinceProgress := 0
      distanceRewardTotal := 0
      endReason := .none
      evaluationScore := 0
      levelClearRewardTotal := 0
      gameState := some 1
      terminal := false }
  memorySnapshot := some standingSnapshot
  scenarioVideoFrame := none

theorem balanced_standing :
    (((start {} standingRoot).tick standingDriver).1.stop).Balanced :=
  (balanced_of_run ⟨{}, standingRoot, rfl⟩
    (.cons (show (machine Unit).step _ (.tick standingDriver) _ from rfl) (.nil _))
    (.cons (show (machine Unit).step _ .stop _ from rfl) (.nil _))).1

end

end SmbDfsSearch

end DirtSim
