import DirtSim.Search.BestPlan
import DirtSim.Search.PlanExecution

/-! # The game along a path

A search that plays one emulator has, at every node that came alive, the state and the summary
that the actions on the path to it lead to from the root, and so has every node on that path
(`SmbDfsSearch.playsEmulator_of_run`).
-/

namespace DirtSim

open Foundation

variable {S : Type}
variable {action : SmbSearchLegalAction} {arrival : Arrival S}

/-- From one node to another over children that come alive, by states and summaries. -/
inductive Branch (emulator : Emulator S) : S → SmbSearchEvaluatorSummary →
    List SmbSearchLegalAction → S → SmbSearchEvaluatorSummary → Prop
  | nil (state : S) (summary : SmbSearchEvaluatorSummary) :
      Branch emulator state summary [] state summary
  | cons {state final : S} {summary last : SmbSearchEvaluatorSummary}
      {action : SmbSearchLegalAction} {actions : List SmbSearchLegalAction} {arrival : Arrival S}
      (received : (emulator.driver (some state) action).receive = .ok arrival)
      (normal : (RamExtractor.extract arrival.memorySnapshot true).gameMode = .normal)
      (goesOn : (evaluateChild summary arrival.advancedFrames
        (RamExtractor.extract arrival.memorySnapshot true)).terminal = false)
      (rest : Branch emulator arrival.savestate (evaluateChild summary arrival.advancedFrames
        (RamExtractor.extract arrival.memorySnapshot true)) actions final last) :
      Branch emulator state summary (action :: actions) final last

section

variable {emulator : Emulator S} {state middle final : S}
  {summary between last : SmbSearchEvaluatorSummary} {actions more : List SmbSearchLegalAction}

theorem Branch.append (front : Branch emulator state summary actions middle between)
    (back : Branch emulator middle between more final last) :
    Branch emulator state summary (actions ++ more) final last := by
  induction front with
  | nil => exact back
  | cons received normal goesOn _ ih => exact .cons received normal goesOn (ih back)

theorem Branch.unique {final' : S} {last' : SmbSearchEvaluatorSummary}
    (one : Branch emulator state summary actions final last)
    (other : Branch emulator state summary actions final' last') :
    final = final' ∧ last = last' := by
  induction one with
  | nil =>
      cases other
      exact ⟨rfl, rfl⟩
  | cons received _ _ _ ih =>
      cases other with
      | cons received' _ _ rest =>
          obtain rfl := Except.ok.inj (received.symm.trans received')
          exact ih rest

theorem savestate_of_receive {savestate : Option S}
    (received : (emulator.driver savestate action).receive = .ok arrival) :
    ∃ state, savestate = some state := by
  cases savestate with
  | none => exact absurd received nofun
  | some state => exact ⟨state, rfl⟩

end

namespace SmbDfsSearch

def Plays (emulator : Emulator S) (_ : SmbDfsSearch S) : Call S → Prop
  | .tick driver => driver = emulator.driver
  | .pauseSet _ => True
  | .stop => True

/-- What the nodes that came alive have to do with the emulator. -/
structure PlaysEmulator (emulator : Emulator S) (root : Root S) (search : SmbDfsSearch S) :
    Prop where
  prefixFrames : search.rootPrefixFrames = root.rootPrefixFrames
  stacked : ∀ i ∈ search.stackIndices, search.Alive i
  parents : ∀ parent action child, (treeOf search.nodes).IsChild parent action child →
    search.Alive child → search.Alive parent
  branch : ∀ i actions, search.Alive i → (treeOf search.nodes).Path i actions →
    ∃ node state, search.nodes[i]? = some node ∧
      Branch emulator root.savestate root.evaluatorSummary actions state node.evaluatorSummary ∧
      ∀ held, node.savestate = some held → held = state

section

variable {emulator : Emulator S} {root : Root S} {before after : SmbDfsSearch S}
variable {dfsFrame : DfsFrame}

section

variable (plays : before.PlaysEmulator emulator root)
include plays

theorem PlaysEmulator.lighten (prefixFrames : after.rootPrefixFrames = before.rootPrefixFrames)
    (stack : ∀ i ∈ after.stackIndices, i ∈ before.stackIndices)
    (alive : ∀ i, after.Alive i ↔ before.Alive i) (tree : treeOf after.nodes = treeOf before.nodes)
    (nodes : ∀ (i : ℕ) (node : SmbSearchNode S), before.nodes[i]? = some node →
      ∃ lighter, after.nodes[i]? = some lighter ∧
        lighter.evaluatorSummary = node.evaluatorSummary ∧
        ∀ held, lighter.savestate = some held → node.savestate = some held) :
    after.PlaysEmulator emulator root where
  prefixFrames := prefixFrames.trans plays.prefixFrames
  stacked i stacked := (alive i).mpr (plays.stacked i (stack i stacked))
  parents := by
    intro parent action child edge isAlive
    rw [tree] at edge
    exact (alive parent).mpr (plays.parents parent action child edge ((alive child).mp isAlive))
  branch := by
    intro i actions isAlive path
    rw [tree] at path
    obtain ⟨node, state, found, branch, holds⟩ :=
      plays.branch i actions ((alive i).mp isAlive) path
    obtain ⟨lighter, foundThen, summary, kept⟩ := nodes i node found
    exact ⟨lighter, state, foundThen, summary ▸ branch,
      fun held isHeld => holds held (kept held isHeld)⟩

theorem PlaysEmulator.of_rests (rests : Rests before after) :
    after.PlaysEmulator emulator root := by
  refine plays.lighten rests.prefixFrames ?_ (alive_of_quiet rests.trace) ?_ ?_
  · intro i stacked
    rw [rests.tree] at stacked
    exact stacked
  · rw [rests.tree]
  · intro i node found
    rw [rests.tree]
    exact ⟨node, found, rfl, fun _ held => held⟩

theorem PlaysEmulator.advanced {rest : List DfsFrame} (stack : before.dfsStack = dfsFrame :: rest) :
    (before.advanced dfsFrame rest).PlaysEmulator emulator root :=
  plays.lighten rfl (fun _ stacked => SearchTree.stackIndices_advance stack ▸ stacked)
    (fun _ => Iff.rfl) rfl fun _ node found => ⟨node, found, rfl, fun _ held => held⟩

theorem PlaysEmulator.backtracked {rest : List DfsFrame}
    (stack : before.dfsStack = dfsFrame :: rest) :
    (before.backtracked dfsFrame rest).PlaysEmulator emulator root := by
  refine plays.lighten rfl ?_ ?_ (SearchTree.treeOf_releaseNodeHeavyData _ _) ?_
  · intro i stacked
    rw [show (before.backtracked dfsFrame rest).stackIndices = _ from
      SearchTree.stackIndices_backtrack before.toSearchTree dfsFrame rest] at stacked
    rw [SearchTree.stackIndices, stack, List.map_cons]
    exact List.mem_cons_of_mem _ stacked
  · refine alive_of_quiet ⟨_, rfl, ?_⟩
    intro entry present
    rw [List.mem_singleton.mp present]
    exact ⟨SmbDfsSearchTraceEventType.noConfusion, SmbDfsSearchTraceEventType.noConfusion⟩
  · intro i node found
    rw [show (before.backtracked dfsFrame rest).nodes =
      (before.releaseNodeHeavyData dfsFrame.nodeIndex).nodes from rfl,
      getElem?_releaseNodeHeavyData, found]
    split
    · exact ⟨_, rfl, rfl, fun held absent => absurd absent (Option.some_ne_none held).symm⟩
    · exact ⟨node, rfl, rfl, fun _ held => held⟩

end

theorem goesOn_of_expandedAlive {tree : SearchTree S} {options : SmbDfsSearchOptions}
    {parentIndex : ℕ} {parent : SmbSearchNode S}
    (alive : (judgeArrival tree options parentIndex parent action
      arrival).verdict.expandedAlive = true) :
    (RamExtractor.extract arrival.memorySnapshot true).gameMode = .normal ∧
      (evaluateChild parent.evaluatorSummary arrival.advancedFrames
        (RamExtractor.extract arrival.memorySnapshot true)).terminal = false := by
  obtain ⟨_, goesOn, _, plays, _, _⟩ := (Verdict.expandedAlive_iff _).mp alive
  simp only [judgeArrival, judge, decide_eq_false_iff_not, not_and, ne_eq, not_not] at goesOn plays
  exact ⟨plays (by rw [goesOn]; rfl), goesOn⟩

theorem getElem?_settleChild (dfsFrame : DfsFrame) (action : SmbSearchLegalAction)
    {judgement : Judgement S} (agree : judgement.verdict.pushed = judgement.verdict.expandedAlive)
    {i : ℕ} (kept : judgement.verdict.expandedAlive = true ∨ i < before.nodes.length) :
    (before.settleChild dfsFrame action judgement).nodes[i]? =
      (before.nodes ++ [judgement.child])[i]? := by
  cases pushed : judgement.verdict.pushed with
  | true =>
      rw [toSearchTree_settleChild_pushed before dfsFrame action pushed (agree.symm.trans pushed)]
      rfl
  | false =>
      have dead := agree.symm.trans pushed
      have old := kept.resolve_left (Bool.eq_false_iff.mp dead)
      rw [toSearchTree_settleChild_pruned before dfsFrame action pushed dead,
        SearchTree.nodes_prune, getElem?_releaseNodeHeavyData, if_neg (Nat.ne_of_gt old)]
      rfl

theorem PlaysEmulator.settleChild (plays : before.PlaysEmulator emulator root)
    (knows : before.KnowsBest) (top : dfsFrame.nodeIndex ∈ before.stackIndices)
    {parent : SmbSearchNode S} (found : before.nodes[dfsFrame.nodeIndex]? = some parent)
    (received : (emulator.driver parent.savestate action).receive = .ok arrival)
    (tree : SearchTree S) (options : SmbDfsSearchOptions) :
    (before.settleChild dfsFrame action (judgeArrival tree options dfsFrame.nodeIndex parent action
      arrival)).PlaysEmulator emulator root := by
  set judgement := judgeArrival tree options dfsFrame.nodeIndex parent action arrival with judged
  have agree : judgement.verdict.pushed = judgement.verdict.expandedAlive :=
    judgeArrival_pushed tree options dfsFrame.nodeIndex parent action arrival
  obtain ⟨links, _⟩ := settleChild_extends before dfsFrame action agree
  have adds := before.adds_settleChild dfsFrame action judgement
  have alive := adds.alive_iff
  have topAlive := plays.stacked _ top
  have present : dfsFrame.nodeIndex < (treeOf before.nodes).length := by
    rw [length_treeOf]
    exact knows.planted.lt_length top
  have edges : ∀ parentIndex label child,
      (treeOf (before.settleChild dfsFrame action judgement).nodes).IsChild parentIndex label child ↔
        (treeOf before.nodes).IsChild parentIndex label child ∨
          (child = before.nodes.length ∧ parentIndex = dfsFrame.nodeIndex ∧ label = action) := by
    intro parentIndex label child
    rw [links, judged, show (judgeArrival tree options dfsFrame.nodeIndex parent action
      arrival).child.link = some (dfsFrame.nodeIndex, action) from judgeArrival_link ..,
      ParentTree.isChild_append_singleton, length_treeOf]
  refine ⟨adds.prefixFrames.trans plays.prefixFrames, ?_, ?_, ?_⟩
  · intro i stacked
    cases pushed : judgement.verdict.pushed with
    | true =>
        have expanded := agree.symm.trans pushed
        rw [toSearchTree_settleChild_pushed before dfsFrame action pushed expanded] at stacked
        cases stacked with
        | head => exact (alive _).mpr (Or.inr ⟨expanded, rfl⟩)
        | tail _ stacked => exact (alive i).mpr (Or.inl (plays.stacked i stacked))
    | false =>
        rw [toSearchTree_settleChild_pruned before dfsFrame action pushed
          (agree.symm.trans pushed), SearchTree.stackIndices_prune] at stacked
        exact (alive i).mpr (Or.inl (plays.stacked i stacked))
  · intro parentIndex label child edge isAlive
    rcases (edges parentIndex label child).mp edge with old | ⟨_, rfl, _⟩
    · have bound := old.lt_length
      rw [length_treeOf] at bound
      rcases (alive child).mp isAlive with wasAlive | ⟨_, rfl⟩
      · exact (alive parentIndex).mpr (Or.inl (plays.parents parentIndex label child old wasAlive))
      · exact absurd bound (Nat.lt_irrefl _)
    · exact (alive _).mpr (Or.inl topAlive)
  · intro i actions isAlive path
    rw [links] at path
    rcases (alive i).mp isAlive with wasAlive | ⟨expanded, rfl⟩
    · have old := knows.aliveFound i wasAlive
      obtain ⟨known, knownPath⟩ :=
        knows.planted.grown.exists_path (by rw [length_treeOf]; exact old)
      obtain rfl := path.unique knownPath.append
      obtain ⟨node, state, isNode, branch, holds⟩ := plays.branch i actions wasAlive knownPath
      refine ⟨node, state, ?_, branch, holds⟩
      rw [getElem?_settleChild dfsFrame action agree (Or.inr old), List.getElem?_append_left old]
      exact isNode
    · -- The new child: one step from the node on top of the stack.
      obtain ⟨above, abovePath⟩ := knows.planted.grown.exists_path present
      have edge := (edges dfsFrame.nodeIndex action before.nodes.length).mpr
        (Or.inr ⟨rfl, rfl, rfl⟩)
      rw [links] at edge
      obtain rfl := path.unique (.step abovePath.append edge)
      obtain ⟨node, state, isNode, branch, holds⟩ := plays.branch _ above topAlive abovePath
      obtain rfl := Option.some.inj (isNode.symm.trans found)
      obtain ⟨held, isHeld⟩ := savestate_of_receive received
      obtain rfl := holds held isHeld
      obtain ⟨normal, goesOn⟩ := goesOn_of_expandedAlive expanded
      rw [isHeld] at received
      refine ⟨judgement.child, arrival.savestate, ?_,
        branch.append (.cons received normal goesOn (.nil _ _)), ?_⟩
      · rw [getElem?_settleChild dfsFrame action agree (Or.inl expanded),
          List.getElem?_concat_length]
      · intro held isHeld
        exact (Option.some.inj isHeld).symm

theorem playsEmulator_start (emulator : Emulator S) (options : SmbDfsSearchOptions)
    (root : Root S) : (start options root).PlaysEmulator emulator root where
  prefixFrames := rfl
  stacked i stacked := Or.inl (List.mem_singleton.mp stacked)
  parents parent action child edge isAlive := by
    have bound := edge.lt_length
    have isRoot : child = 0 := Nat.lt_one_iff.mp bound
    subst isRoot
    exact absurd edge nofun
  branch i actions isAlive path := by
    have bound : i < 1 := (knowsBest_start options root).aliveFound i isAlive
    have isRoot : i = 0 := Nat.lt_one_iff.mp bound
    subst isRoot
    obtain rfl := path.unique (.root rfl)
    exact ⟨rootNode root, root.savestate, rfl, .nil _ _, fun held isHeld =>
      (Option.some.inj isHeld).symm⟩

theorem PlaysEmulator.step (plays : before.PlaysEmulator emulator root)
    (knows : before.KnowsBest) {call : Call S} (met : before.Plays emulator call) :
    (call.apply before).PlaysEmulator emulator root := by
  cases call with
  | pauseSet paused => exact plays.of_rests (rests_pauseSet before paused)
  | stop => exact plays.of_rests (rests_stop before)
  | tick driver =>
      obtain rfl := met
      cases before.tick_cases emulator.driver knows.planted.topFound with
      | rested rests => exact plays.of_rests rests
      | failed dfsFrame rest _ stack _ rests => exact (plays.advanced stack).of_rests rests
      | backtracked dfsFrame rest _ stack _ rests => exact (plays.backtracked stack).of_rests rests
      | settled dfsFrame rest parent action arrival _ stack _ found _ received rests =>
          have top : dfsFrame.nodeIndex ∈ (before.advanced dfsFrame rest).stackIndices :=
            List.mem_cons_self
          refine PlaysEmulator.of_rests ?_ rests
          exact (plays.advanced stack).settleChild (knows.advanced stack) top found received
            before.toSearchTree before.options

/-- **Along every path.** Whatever the options, the pauses and the moment it is stopped at, a
search that plays one emulator has what the emulator leads to at every node that came alive. -/
theorem playsEmulator_of_run {options : SmbDfsSearchOptions} {calls : List (Call S)}
    (run : ((machine S).guarded (Plays emulator)).Run (start options root) calls after) :
    after.KnowsBest ∧ after.PlaysEmulator emulator root := by
  have kept : ∀ (before : SmbDfsSearch S) (call : Call S) (after : SmbDfsSearch S),
      before.KnowsBest ∧ before.PlaysEmulator emulator root →
        ((machine S).guarded (Plays emulator)).step before call after →
          after.KnowsBest ∧ after.PlaysEmulator emulator root := by
    rintro before call after ⟨knows, plays⟩ ⟨moved, met⟩
    obtain rfl : after = call.apply before := moved
    refine ⟨?_, plays.step knows met⟩
    cases call with
    | tick driver => exact knows.tick driver
    | pauseSet paused => exact knows.of_rests (rests_pauseSet before paused)
    | stop => exact knows.of_rests (rests_stop before)
  exact run.invariant kept
    ⟨knowsBest_start options root, playsEmulator_start emulator options root⟩

end

end SmbDfsSearch

end DirtSim
