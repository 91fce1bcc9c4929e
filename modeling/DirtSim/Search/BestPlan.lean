import DirtSim.Search.SearchBooks
import Mathlib.Data.Prod.Lex

/-! # The plan leads to the best node

Nodes are ranked by how far they got and then by their score. The best leaf is the earliest of
the highest rank among the root and the nodes expanded so far, and the published plan is the way
to it (`SmbDfsSearch.best_plan_of_reachable`).
-/

namespace DirtSim

open Foundation

namespace SmbDfsSearch

variable {S : Type}
variable {leaf : ℕ} {summary : SmbSearchEvaluatorSummary}

def rank (summary : SmbSearchEvaluatorSummary) : ℕ ×ₗ ℚ :=
  toLex (summary.bestFrontier, summary.evaluationScore)

def Alive (search : SmbDfsSearch S) (nodeIndex : ℕ) : Prop :=
  nodeIndex = 0 ∨ ∃ entry ∈ search.trace,
    entry.eventType = .expandedAlive ∧ entry.nodeIndex = nodeIndex

def summaryAt (search : SmbDfsSearch S) (nodeIndex : ℕ) : Option SmbSearchEvaluatorSummary :=
  search.nodes[nodeIndex]?.map SmbSearchNode.evaluatorSummary

/-- A leaf that is best among the nodes alive, with the plan that leads to it. -/
structure Leads (search : SmbDfsSearch S) (leaf : ℕ) (summary : SmbSearchEvaluatorSummary) :
    Prop where
  isBest : search.bestLeafIndex = some leaf
  found : search.summaryAt leaf = some summary
  bestFrontier : search.bestFrontier = summary.bestFrontier
  bestScore : search.bestScore = summary.evaluationScore
  reportedFrontier : search.progress.bestFrontier = summary.bestFrontier
  alive : search.Alive leaf
  highest : ∀ other ranked, search.Alive other → search.summaryAt other = some ranked →
    rank ranked ≤ rank summary
  earliest : ∀ other ranked, search.Alive other → search.summaryAt other = some ranked →
    other < leaf → rank ranked < rank summary
  frames : ∀ actions, (treeOf search.nodes).Path leaf actions → search.plan.frames =
    search.rootPrefixFrames ++ actions.map smbSearchLegalActionToPlayerControlFrame
  planFrontier : search.plan.summary.bestFrontier = summary.bestFrontier
  elapsedFrames : search.plan.summary.elapsedFrames = search.plan.frames.length

/-- What the search knows of the best. -/
structure KnowsBest (search : SmbDfsSearch S) : Prop where
  planted : search.Planted
  aliveFound : ∀ nodeIndex, search.Alive nodeIndex → nodeIndex < search.nodes.length
  leads : ∃ leaf summary, search.Leads leaf summary

section

variable {search : SmbDfsSearch S}

theorem improves_iff {best summary : SmbSearchEvaluatorSummary} (leads : search.Leads leaf best) :
    search.improves summary = true ↔ rank best < rank summary := by
  rw [improves, decide_eq_true_iff, leads.isBest, leads.bestFrontier, leads.bestScore, rank, rank,
    Prod.Lex.toLex_lt_toLex]
  constructor
  · rintro (absent | further | ⟨asFar, higher⟩)
    · cases absent
    · exact Or.inl further
    · exact Or.inr ⟨asFar.symm, higher⟩
  · rintro (further | ⟨asFar, higher⟩)
    · exact Or.inr (Or.inl further)
    · exact Or.inr (Or.inr ⟨asFar.symm, higher⟩)

end

section

variable {search : SmbDfsSearch S}

theorem bestPlan_eq (planted : search.Planted) (isBest : search.bestLeafIndex = some leaf)
    (present : leaf < search.nodes.length) {actions : List SmbSearchLegalAction}
    (path : (treeOf search.nodes).Path leaf actions) :
    search.bestPlan.frames =
        search.rootPrefixFrames ++ actions.map smbSearchLegalActionToPlayerControlFrame ∧
      search.bestPlan.summary.bestFrontier = search.bestFrontier ∧
      search.bestPlan.summary.elapsedFrames = search.bestPlan.frames.length := by
  have walked := reconstructPlanFrames_of_path planted.linked planted.grown path present
  simp [bestPlan, isBest, walked]

theorem lt_length_of_summaryAt {nodeIndex : ℕ} (found : search.summaryAt nodeIndex = some summary) :
    nodeIndex < search.nodes.length := by
  obtain ⟨_, isNode, _⟩ := Option.map_eq_some_iff.mp found
  exact (List.getElem?_eq_some_iff.mp isNode).1

theorem Leads.of_rebuilt (planted : search.Planted) (isBest : search.bestLeafIndex = some leaf)
    (found : search.summaryAt leaf = some summary)
    (bestFrontier : search.bestFrontier = summary.bestFrontier)
    (bestScore : search.bestScore = summary.evaluationScore)
    (reported : search.progress.bestFrontier = summary.bestFrontier) (alive : search.Alive leaf)
    (highest : ∀ other ranked, search.Alive other → search.summaryAt other = some ranked →
      rank ranked ≤ rank summary)
    (earliest : ∀ other ranked, search.Alive other → search.summaryAt other = some ranked →
      other < leaf → rank ranked < rank summary) (rebuilt : search.plan = search.bestPlan) :
    search.Leads leaf summary := by
  have present := lt_length_of_summaryAt found
  obtain ⟨actions, path⟩ := planted.grown.exists_path (by rw [length_treeOf]; exact present)
  obtain ⟨frames, frontier, elapsed⟩ := bestPlan_eq planted isBest present path
  rw [← rebuilt] at frames frontier elapsed
  exact {
    isBest := isBest
    found := found
    bestFrontier := bestFrontier
    bestScore := bestScore
    reportedFrontier := reported
    alive := alive
    highest := highest
    earliest := earliest
    frames := fun others otherPath => otherPath.unique path ▸ frames
    planFrontier := frontier.trans bestFrontier
    elapsedFrames := elapsed }

end

section

variable {before after : SmbDfsSearch S}
variable {judgement : Judgement S}

theorem alive_of_quiet (quiet : Quiet before after) (nodeIndex : ℕ) :
    after.Alive nodeIndex ↔ before.Alive nodeIndex := by
  obtain ⟨entries, grown, silent⟩ := quiet
  simp only [Alive, grown, List.mem_append, or_and_right, exists_or]
  constructor
  · rintro (isRoot | old | ⟨entry, new, isAlive, _⟩)
    · exact Or.inl isRoot
    · exact Or.inr old
    · exact absurd isAlive (silent entry new).1
  · rintro (isRoot | old)
    · exact Or.inl isRoot
    · exact Or.inr (Or.inl old)

theorem Leads.keep (leads : before.Leads leaf summary) (planted : before.Planted)
    (tree : ∃ more, treeOf after.nodes = treeOf before.nodes ++ more)
    (summaries : ∀ i < before.nodes.length, after.summaryAt i = before.summaryAt i)
    (prefixFrames : after.rootPrefixFrames = before.rootPrefixFrames)
    (best : KeepsBest before after) (alive : after.Alive leaf)
    (behind : ∀ other ranked, after.Alive other → after.summaryAt other = some ranked →
      (before.Alive other ∧ other < before.nodes.length) ∨
        (rank ranked ≤ rank summary ∧ leaf ≤ other)) : after.Leads leaf summary := by
  have present := lt_length_of_summaryAt leads.found
  obtain ⟨more, grown⟩ := tree
  obtain ⟨actions, path⟩ := planted.grown.exists_path (by rw [length_treeOf]; exact present)
  exact {
    isBest := best.bestLeafIndex.trans leads.isBest
    found := (summaries leaf present).trans leads.found
    bestFrontier := best.bestFrontier.trans leads.bestFrontier
    bestScore := best.bestScore.trans leads.bestScore
    reportedFrontier := best.reportedFrontier.trans leads.reportedFrontier
    alive := alive
    highest := by
      intro other ranked isAlive found
      rcases behind other ranked isAlive found with ⟨wasAlive, old⟩ | ⟨lower, _⟩
      · exact leads.highest other ranked wasAlive ((summaries other old).symm.trans found)
      · exact lower
    earliest := by
      intro other ranked isAlive found isEarlier
      rcases behind other ranked isAlive found with ⟨wasAlive, old⟩ | ⟨_, isLater⟩
      · exact leads.earliest other ranked wasAlive ((summaries other old).symm.trans found)
          isEarlier
      · exact absurd isEarlier (Nat.not_lt.mpr isLater)
    frames := by
      intro others otherPath
      rw [grown] at otherPath
      rw [best.plan, prefixFrames, otherPath.unique path.append]
      exact leads.frames actions path
    planFrontier := by rw [best.plan]; exact leads.planFrontier
    elapsedFrames := by rw [best.plan]; exact leads.elapsedFrames }

theorem KnowsBest.of_rests (knows : before.KnowsBest) (rests : Rests before after) :
    after.KnowsBest := by
  have planted := knows.planted.of_rests rests
  have alive := alive_of_quiet rests.trace
  obtain ⟨leaf, summary, leads⟩ := knows.leads
  have same : ∀ i, after.summaryAt i = before.summaryAt i := by
    intro i
    rw [summaryAt, summaryAt, rests.tree]
  have aliveFound : ∀ nodeIndex, after.Alive nodeIndex → nodeIndex < after.nodes.length := by
    intro nodeIndex isAlive
    rw [rests.tree]
    exact knows.aliveFound nodeIndex ((alive nodeIndex).mp isAlive)
  refine ⟨planted, aliveFound, leaf, summary, ?_⟩
  rcases rests.plan with kept | rebuilt
  · refine leads.keep knows.planted ⟨[], ?_⟩ (fun i _ => same i) rests.prefixFrames
      ⟨rests.bestLeafIndex, rests.bestFrontier, rests.bestScore, rests.reportedFrontier, kept⟩
      ((alive leaf).mpr leads.alive) ?_
    · rw [rests.tree, List.append_nil]
    · intro other ranked isAlive _
      have wasAlive := (alive other).mp isAlive
      exact Or.inl ⟨wasAlive, knows.aliveFound other wasAlive⟩
  · refine Leads.of_rebuilt planted (rests.bestLeafIndex.trans leads.isBest)
      ((same leaf).trans leads.found) (rests.bestFrontier.trans leads.bestFrontier)
      (rests.bestScore.trans leads.bestScore) (rests.reportedFrontier.trans leads.reportedFrontier)
      ((alive leaf).mpr leads.alive) ?_ ?_ rebuilt
    · intro other ranked isAlive found
      exact leads.highest other ranked ((alive other).mp isAlive) ((same other).symm.trans found)
    · intro other ranked isAlive found
      exact leads.earliest other ranked ((alive other).mp isAlive) ((same other).symm.trans found)

theorem KnowsBest.of_same (knows : before.KnowsBest) (planted : after.Planted)
    (tree : treeOf after.nodes = treeOf before.nodes)
    (summaries : ∀ i, after.summaryAt i = before.summaryAt i)
    (prefixFrames : after.rootPrefixFrames = before.rootPrefixFrames)
    (best : KeepsBest before after) (quiet : Quiet before after) : after.KnowsBest := by
  have alive := alive_of_quiet quiet
  have length : after.nodes.length = before.nodes.length := by
    rw [← length_treeOf, tree, length_treeOf]
  obtain ⟨leaf, summary, leads⟩ := knows.leads
  refine ⟨planted, ?_, leaf, summary, ?_⟩
  · intro nodeIndex isAlive
    rw [length]
    exact knows.aliveFound nodeIndex ((alive nodeIndex).mp isAlive)
  · refine leads.keep knows.planted ⟨[], by rw [tree, List.append_nil]⟩ (fun i _ => summaries i)
      prefixFrames best ((alive leaf).mpr leads.alive) ?_
    intro other ranked isAlive _
    have wasAlive := (alive other).mp isAlive
    exact Or.inl ⟨wasAlive, knows.aliveFound other wasAlive⟩

theorem KnowsBest.advanced (knows : before.KnowsBest) {dfsFrame : DfsFrame}
    {rest : List DfsFrame} (stack : before.dfsStack = dfsFrame :: rest) :
    (before.advanced dfsFrame rest).KnowsBest :=
  knows.of_same (knows.planted.advanced stack) rfl (fun _ => rfl) rfl ⟨rfl, rfl, rfl, rfl, rfl⟩
    ⟨[], (List.append_nil _).symm, fun _ absurd => nomatch absurd⟩

theorem summary_releaseNodeHeavyData (tree : SearchTree S) (nodeIndex i : ℕ) :
    (tree.releaseNodeHeavyData nodeIndex).nodes[i]?.map SmbSearchNode.evaluatorSummary =
      tree.nodes[i]?.map SmbSearchNode.evaluatorSummary := by
  rw [getElem?_releaseNodeHeavyData]
  split
  · rw [Option.map_map]
    rfl
  · rfl

theorem KnowsBest.backtracked (knows : before.KnowsBest) {dfsFrame : DfsFrame}
    {rest : List DfsFrame} (stack : before.dfsStack = dfsFrame :: rest) :
    (before.backtracked dfsFrame rest).KnowsBest := by
  refine knows.of_same (knows.planted.backtracked stack)
    (SearchTree.treeOf_releaseNodeHeavyData _ _)
    (summary_releaseNodeHeavyData before.toSearchTree dfsFrame.nodeIndex) rfl
    ⟨rfl, rfl, rfl, rfl, rfl⟩ ⟨_, rfl, ?_⟩
  intro entry present
  rw [List.mem_singleton.mp present]
  exact ⟨SmbDfsSearchTraceEventType.noConfusion, SmbDfsSearchTraceEventType.noConfusion⟩

theorem Adds.alive_iff (adds : Adds before judgement after) (nodeIndex : ℕ) :
    after.Alive nodeIndex ↔ before.Alive nodeIndex ∨
      (judgement.verdict.expandedAlive = true ∧ nodeIndex = before.nodes.length) := by
  obtain ⟨entry, grown, event, index⟩ := adds.trace
  simp only [Alive, grown, List.mem_append, List.mem_singleton, or_and_right, exists_or,
    Verdict.expandedAlive, decide_eq_true_iff, ← event, ← index, or_assoc]
  refine or_congr_right (or_congr_right ?_)
  constructor
  · rintro ⟨_, rfl, isAlive, same⟩
    exact ⟨isAlive, same.symm⟩
  · rintro ⟨isAlive, same⟩
    exact ⟨entry, rfl, isAlive, same.symm⟩

theorem settleChild_extends (before : SmbDfsSearch S) (dfsFrame : DfsFrame)
    (action : SmbSearchLegalAction)
    (agree : judgement.verdict.pushed = judgement.verdict.expandedAlive) :
    treeOf (before.settleChild dfsFrame action judgement).nodes =
        treeOf before.nodes ++ [judgement.child.link] ∧
      ∀ i, (before.settleChild dfsFrame action judgement).summaryAt i =
        (before.nodes ++ [judgement.child])[i]?.map SmbSearchNode.evaluatorSummary := by
  have added : treeOf (before.nodes ++ [judgement.child]) =
      treeOf before.nodes ++ [judgement.child.link] := treeOf_append _ _
  cases pushed : judgement.verdict.pushed with
  | true =>
      simp only [summaryAt]
      rw [toSearchTree_settleChild_pushed before dfsFrame action pushed (agree.symm.trans pushed)]
      exact ⟨added, fun _ => rfl⟩
  | false =>
      simp only [summaryAt]
      rw [toSearchTree_settleChild_pruned before dfsFrame action pushed (agree.symm.trans pushed),
        SearchTree.nodes_prune]
      exact ⟨(SearchTree.treeOf_releaseNodeHeavyData _ _).trans added,
        summary_releaseNodeHeavyData (before.addNode judgement.child judgement.key .none) _⟩

theorem settleChild_best (dfsFrame : DfsFrame) (action : SmbSearchLegalAction)
    (agree : judgement.verdict.pushed = judgement.verdict.expandedAlive)
    {best : SmbSearchEvaluatorSummary} (leads : before.Leads leaf best) :
    (judgement.verdict.expandedAlive = true ∧
        rank best < rank judgement.child.evaluatorSummary ∧
        TakesBest (before.settleChild dfsFrame action judgement) before.nodes.length
          judgement.child.evaluatorSummary) ∨
      ((judgement.verdict.expandedAlive = true →
          rank judgement.child.evaluatorSummary ≤ rank best) ∧
        KeepsBest before (before.settleChild dfsFrame action judgement)) := by
  have recorded := before.keepsBest_recordChild dfsFrame action judgement
  cases pushed : judgement.verdict.pushed with
  | true =>
      have alive := agree.symm.trans pushed
      rw [settleChild_pushed before dfsFrame action pushed alive]
      have found : (before.recordChild dfsFrame action judgement).nodes[before.nodes.length]? =
          some judgement.child := List.getElem?_concat_length
      have improves : before.improves judgement.child.evaluatorSummary = true ↔
          rank best < rank judgement.child.evaluatorSummary := improves_iff leads
      rcases expandChild_best (before.recordChild dfsFrame action judgement)
        (childFrame before.options before.nodes.length judgement.state action true .none) found with
        ⟨better, takes⟩ | ⟨worse, keeps⟩
      · exact Or.inl ⟨alive, improves.mp better, takes⟩
      · refine Or.inr ⟨fun _ => not_lt.mp fun ahead => ?_,
          ⟨keeps.bestLeafIndex, keeps.bestFrontier, keeps.bestScore, keeps.reportedFrontier,
            keeps.plan⟩⟩
        exact absurd (improves.mpr ahead) (Bool.eq_false_iff.mp worse)
  | false =>
      have dead := agree.symm.trans pushed
      rw [settleChild_pruned before dfsFrame action pushed dead]
      refine Or.inr ⟨fun alive => absurd alive (Bool.eq_false_iff.mp dead), ?_⟩
      exact ⟨recorded.bestLeafIndex, recorded.bestFrontier, recorded.bestScore,
        recorded.reportedFrontier, recorded.plan⟩

theorem KnowsBest.settleChild (knows : before.KnowsBest) (dfsFrame : DfsFrame)
    (action : SmbSearchLegalAction)
    (agree : judgement.verdict.pushed = judgement.verdict.expandedAlive)
    (planted : (before.settleChild dfsFrame action judgement).Planted) :
    (before.settleChild dfsFrame action judgement).KnowsBest := by
  obtain ⟨tree, summaries⟩ := settleChild_extends before dfsFrame action agree
  have adds := before.adds_settleChild dfsFrame action judgement
  have alive := adds.alive_iff
  have length : (before.settleChild dfsFrame action judgement).nodes.length =
      before.nodes.length + 1 := by
    rw [planted.nodes, knows.planted.nodes, adds.count]
  have old : ∀ i < before.nodes.length,
      (before.settleChild dfsFrame action judgement).summaryAt i = before.summaryAt i := by
    intro i bound
    rw [summaries, List.getElem?_append_left bound, summaryAt]
  have new : (before.settleChild dfsFrame action judgement).summaryAt before.nodes.length =
      some judgement.child.evaluatorSummary := by
    rw [summaries, List.getElem?_concat_length, Option.map_some]
  obtain ⟨leaf, best, leads⟩ := knows.leads
  have present := lt_length_of_summaryAt leads.found
  refine ⟨planted, ?_, ?_⟩
  · intro nodeIndex isAlive
    rw [length]
    rcases (alive nodeIndex).mp isAlive with wasAlive | ⟨_, same⟩
    · exact Nat.lt_succ_of_lt (knows.aliveFound nodeIndex wasAlive)
    · rw [same]
      exact Nat.lt_succ_self _
  · rcases settleChild_best dfsFrame action agree leads with ⟨expanded, ahead, takes⟩ |
      ⟨behind, keeps⟩
    · -- The child overtakes the best leaf, and with it every node that was alive.
      refine ⟨before.nodes.length, judgement.child.evaluatorSummary, Leads.of_rebuilt planted
        takes.bestLeafIndex new takes.bestFrontier takes.bestScore takes.reportedFrontier
        ((alive _).mpr (Or.inr ⟨expanded, rfl⟩)) ?_ ?_ takes.plan⟩
      · intro other ranked isAlive found
        rcases (alive other).mp isAlive with wasAlive | ⟨_, rfl⟩
        · rw [old other (knows.aliveFound other wasAlive)] at found
          exact le_of_lt (lt_of_le_of_lt (leads.highest other ranked wasAlive found) ahead)
        · rw [new] at found
          cases found
          exact le_refl _
      · intro other ranked isAlive found isEarlier
        rcases (alive other).mp isAlive with wasAlive | ⟨_, rfl⟩
        · rw [old other isEarlier] at found
          exact lt_of_le_of_lt (leads.highest other ranked wasAlive found) ahead
        · exact absurd isEarlier (Nat.lt_irrefl _)
    · refine ⟨leaf, best, leads.keep knows.planted ⟨_, tree⟩ old adds.prefixFrames keeps
        ((alive leaf).mpr (Or.inl leads.alive)) ?_⟩
      intro other ranked isAlive found
      rcases (alive other).mp isAlive with wasAlive | ⟨expanded, rfl⟩
      · exact Or.inl ⟨wasAlive, knows.aliveFound other wasAlive⟩
      · rw [new] at found
        cases found
        exact Or.inr ⟨behind expanded, Nat.le_of_lt present⟩

theorem knowsBest_start (options : SmbDfsSearchOptions) (root : Root S) :
    (start options root).KnowsBest := by
  have planted := planted_start options root
  have onlyRoot : ∀ nodeIndex, (start options root).Alive nodeIndex → nodeIndex = 0 := by
    rintro nodeIndex (isRoot | ⟨entry, present, isAlive, _⟩)
    · exact isRoot
    · rw [List.mem_singleton.mp present] at isAlive
      cases isAlive
  refine ⟨planted, ?_, 0, root.evaluatorSummary, Leads.of_rebuilt planted rfl rfl rfl rfl rfl
    (Or.inl rfl) ?_ ?_ ?_⟩
  · intro nodeIndex isAlive
    rw [onlyRoot nodeIndex isAlive]
    exact Nat.lt_succ_self 0
  · intro other ranked isAlive found
    rw [onlyRoot other isAlive] at found
    cases found
    exact le_refl _
  · intro other ranked isAlive _ isEarlier
    exact absurd isEarlier (Nat.not_lt_zero _)
  · rfl

theorem KnowsBest.tick (knows : before.KnowsBest) (driver : Driver S) :
    (before.tick driver).1.KnowsBest := by
  cases before.tick_cases driver knows.planted.topFound with
  | rested rests => exact knows.of_rests rests
  | failed dfsFrame rest _ stack _ rests => exact (knows.advanced stack).of_rests rests
  | backtracked dfsFrame rest _ stack _ rests => exact (knows.backtracked stack).of_rests rests
  | settled dfsFrame rest parent action arrival _ stack unspent _ _ _ rests =>
      have indices : (before.advanced dfsFrame rest).stackIndices =
        dfsFrame.nodeIndex :: rest.map DfsFrame.nodeIndex := rfl
      have agree := judgeArrival_pushed before.toSearchTree before.options dfsFrame.nodeIndex parent
        action arrival
      refine KnowsBest.of_rests ?_ rests
      exact (knows.advanced stack).settleChild dfsFrame action agree
        ((knows.planted.advanced stack).settleChild indices unspent (judgeArrival_link ..) rfl
          agree)

theorem knowsBest_of_reachable (reached : (machine S).Reachable after) : after.KnowsBest := by
  refine reached.invariant ?_ ?_
  · rintro search ⟨options, root, rfl⟩
    exact knowsBest_start options root
  · intro before call after knows moved
    cases moved
    cases call with
    | tick driver => exact knows.tick driver
    | pauseSet paused => exact knows.of_rests (rests_pauseSet before paused)
    | stop => exact knows.of_rests (rests_stop before)

end

/-- **The published plan.** In every state a started search reaches, the best leaf is the
earliest node of the highest rank among the root and the nodes expanded alive, the plan is what
precedes the root followed by the frames on the only way to that leaf, its summary says how long
it is and how far it gets, and walking up from the leaf ends without error. -/
theorem best_plan_of_reachable {search : SmbDfsSearch S} (reached : (machine S).Reachable search) :
    ∃ leaf summary actions, search.bestLeafIndex = some leaf ∧
      search.summaryAt leaf = some summary ∧ search.Alive leaf ∧
      (∀ other ranked, search.Alive other → search.summaryAt other = some ranked →
        rank ranked ≤ rank summary ∧ (other < leaf → rank ranked < rank summary)) ∧
      (∀ others, (treeOf search.nodes).Path leaf others ↔ others = actions) ∧
      search.plan.frames = search.rootPrefixFrames ++
        actions.map smbSearchLegalActionToPlayerControlFrame ∧
      search.plan.summary.elapsedFrames = search.plan.frames.length ∧
      search.plan.summary.bestFrontier = search.progress.bestFrontier ∧
      search.progress.bestFrontier = summary.bestFrontier ∧
      reconstructPlanFrames search.nodes leaf =
        some (.ok (actions.map smbSearchLegalActionToPlayerControlFrame)) := by
  obtain ⟨planted, _, leaf, summary, leads⟩ := knowsBest_of_reachable reached
  have present := lt_length_of_summaryAt leads.found
  obtain ⟨actions, path⟩ := planted.grown.exists_path (by rw [length_treeOf]; exact present)
  refine ⟨leaf, summary, actions, leads.isBest, leads.found, leads.alive, ?_, ?_,
    leads.frames actions path, leads.elapsedFrames,
    leads.planFrontier.trans leads.reportedFrontier.symm, leads.reportedFrontier,
    reconstructPlanFrames_of_path planted.linked planted.grown path present⟩
  · intro other ranked isAlive found
    exact ⟨leads.highest other ranked isAlive found, leads.earliest other ranked isAlive found⟩
  · intro others
    exact ⟨fun otherPath => otherPath.unique path, fun same => same ▸ path⟩

theorem best_plan_standing :
    ∃ (leaf : ℕ) (actions : List SmbSearchLegalAction),
      (((start {} standingRoot).tick standingDriver).1.stop).bestLeafIndex = some leaf ∧
      reconstructPlanFrames (((start {} standingRoot).tick standingDriver).1.stop).nodes leaf =
        some (.ok (actions.map smbSearchLegalActionToPlayerControlFrame)) := by
  have started : (machine Unit).Reachable (start {} standingRoot) :=
    ⟨_, [], ⟨{}, standingRoot, rfl⟩, .nil _⟩
  have ticked := started.step (show (machine Unit).step _ (.tick standingDriver) _ from rfl)
  obtain ⟨leaf, _, actions, isBest, _, _, _, _, _, _, _, _, walked⟩ :=
    best_plan_of_reachable (ticked.step (show (machine Unit).step _ .stop _ from rfl))
  exact ⟨leaf, actions, isBest, walked⟩

end SmbDfsSearch

end DirtSim
