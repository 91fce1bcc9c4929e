import DirtSim.Foundation.ProofSearch
import DirtSim.Search.BestPlan

/-! # Closed losses are exhausted

The search proves losses the way of `Foundation.ProofSearch`: a closed loss is a proven node, and a
node that left gameplay is where proofs fail. Each call on the search is some steps of the
abstract one (`SmbDfsSearch.Views.step`); a pruned child is expanded and settled at once.
-/

namespace DirtSim

open Foundation

def SmbSearchNodeOutcome.status : SmbSearchNodeOutcome → ProofStatus
  | .opened => .opened
  | .closedLoss => .proven
  | .notClosedLoss => .refuted

theorem SmbSearchNodeOutcome.status_injective :
    Function.Injective SmbSearchNodeOutcome.status := by
  intro one other same
  cases one <;> cases other <;> first | rfl | cases same

variable {S : Type}

namespace SearchTree

theorem closedLossCandidate_noteChildOutcome (dfsFrame : DfsFrame)
    (outcome : SmbSearchNodeOutcome) (blockReason : SmbDfsClosedLossBlockReason) :
    (noteChildOutcome dfsFrame outcome blockReason).closedLossCandidate =
      (dfsFrame.closedLossCandidate && decide (outcome = .closedLoss)) := by
  rw [noteChildOutcome]
  split
  · rename_i lost
    rw [decide_eq_true lost, Bool.and_true]
  · rename_i open_
    rw [decide_eq_false open_, Bool.and_false]

theorem forall_noteTop {tree : SearchTree S} {outcome : SmbSearchNodeOutcome}
    {blockReason : SmbDfsClosedLossBlockReason} (property : DfsFrame → Prop)
    (unmarked : ∀ dfsFrame candidate reason, property dfsFrame →
      property { dfsFrame with
        closedLossCandidate := candidate, closedLossBlockReason := reason })
    (holds : ∀ dfsFrame ∈ tree.dfsStack, property dfsFrame) :
    ∀ dfsFrame ∈ (tree.noteTop outcome blockReason).dfsStack, property dfsFrame := by
  intro dfsFrame present
  rw [noteTop] at present
  cases stack : tree.dfsStack with
  | nil =>
      rw [stack] at present
      cases present
  | cons top rest =>
      simp only [stack, List.modifyHead_cons] at present
      rcases List.mem_cons.mp present with rfl | below
      · have before := holds top (stack ▸ List.mem_cons_self)
        rw [noteChildOutcome]
        split
        · exact before
        · exact unmarked _ _ _ before
      · exact holds dfsFrame (stack ▸ List.mem_cons_of_mem _ below)

end SearchTree

namespace SmbDfsSearch

def LeftGameplay (search : SmbDfsSearch S) (nodeIndex : ℕ) : Prop :=
  ∃ entry ∈ search.trace, entry.eventType = .prunedNonGameplay ∧ entry.nodeIndex = nodeIndex

def markOf (dfsFrame : DfsFrame) : ℕ × Bool := (dfsFrame.nodeIndex, dfsFrame.closedLossCandidate)

/-- The abstract search that a search carries out. -/
structure Views (search : SmbDfsSearch S) (proof : ProofSearch SmbSearchLegalAction) : Prop where
  tree : proof.tree = treeOf search.nodes
  status : ∀ (i : ℕ) (outcome : SmbSearchNodeOutcome), search.nodeOutcomes[i]? = some outcome →
    proof.status i = outcome.status
  stack : proof.stack = search.dfsStack.map markOf
  labels : ∀ dfsFrame ∈ search.dfsStack,
    proof.labels dfsFrame.nodeIndex = dfsFrame.actionOrdering.actions
  tried : search.completed = false → ∀ dfsFrame ∈ search.dfsStack,
    (treeOf search.nodes).childLabels dfsFrame.nodeIndex =
      dfsFrame.actionOrdering.actions.take dfsFrame.nextActionIndex
  escapes : ∀ i, proof.escapes i ↔ search.LeftGameplay i

section

variable {before after search : SmbDfsSearch S} {proof : ProofSearch SmbSearchLegalAction}
  {dfsFrame : DfsFrame} {rest : List DfsFrame}
variable {judgement : Judgement S} {action : SmbSearchLegalAction}

theorem leftGameplay_of_quiet (quiet : Quiet before after) (nodeIndex : ℕ) :
    after.LeftGameplay nodeIndex ↔ before.LeftGameplay nodeIndex := by
  obtain ⟨entries, grown, silent⟩ := quiet
  simp only [LeftGameplay, grown, List.mem_append, or_and_right, exists_or, or_iff_left_iff_imp]
  intro ⟨entry, new, left, _⟩
  exact absurd left (silent entry new).2

theorem Adds.leftGameplay_iff (adds : Adds before judgement after) (nodeIndex : ℕ) :
    after.LeftGameplay nodeIndex ↔ before.LeftGameplay nodeIndex ∨
      (judgement.verdict.traceEvent = .prunedNonGameplay ∧ nodeIndex = before.nodes.length) := by
  obtain ⟨entry, grown, event, index⟩ := adds.trace
  simp only [LeftGameplay, grown, List.mem_append, List.mem_singleton, or_and_right, exists_or,
    ← event, ← index]
  refine or_congr_right ?_
  constructor
  · rintro ⟨_, rfl, left, same⟩
    exact ⟨left, same.symm⟩
  · rintro ⟨left, same⟩
    exact ⟨entry, rfl, left, same.symm⟩

def rootActions (options : SmbDfsSearchOptions) : List SmbSearchLegalAction :=
  (buildDfsActionOrder false 0 .none none
    options.groundedVerticalJumpPrioritizationEnabled).actions

theorem mem_dfsStack_start {options : SmbDfsSearchOptions} {root : Root S}
    (present : dfsFrame ∈ (start options root).dfsStack) :
    dfsFrame.nodeIndex = 0 ∧ dfsFrame.nextActionIndex = 0 ∧
      dfsFrame.actionOrdering.actions = rootActions options := by
  rw [List.mem_singleton.mp present]
  exact ⟨rfl, rfl, rfl⟩

theorem views_start (options : SmbDfsSearchOptions) (root : Root S) :
    Views (start options root) (ProofSearch.root (rootActions options)) where
  tree := rfl
  status i outcome found := by
    have first : i < 1 := (List.getElem?_eq_some_iff.mp found).1
    rw [Nat.lt_one_iff.mp first] at found
    cases found
    rfl
  stack := rfl
  labels dfsFrame present := by
    rw [(mem_dfsStack_start present).2.2, ProofSearch.root]
  tried _ dfsFrame present := by
    obtain ⟨isRoot, next, _⟩ := mem_dfsStack_start present
    rw [isRoot, next]
    rfl
  escapes i := by
    refine ⟨False.elim, ?_⟩
    intro ⟨entry, present, left, _⟩
    rw [List.mem_singleton.mp present] at left
    cases left

theorem Views.of_rests (views : before.Views proof) (rests : Rests before after) :
    after.Views proof where
  tree := by rw [rests.tree]; exact views.tree
  status := by rw [rests.tree]; exact views.status
  stack := by rw [rests.tree]; exact views.stack
  labels := by rw [rests.tree]; exact views.labels
  tried := by
    intro active
    rw [rests.tree]
    refine views.tried (Bool.eq_false_iff.mpr fun completed => ?_)
    rw [rests.completed completed] at active
    cases active
  escapes i := (views.escapes i).trans (leftGameplay_of_quiet rests.trace i).symm

theorem Views.labels_advanced (views : before.Views proof)
    (stack : before.dfsStack = dfsFrame :: rest) :
    ∀ other ∈ (before.advanced dfsFrame rest).dfsStack,
      proof.labels other.nodeIndex = other.actionOrdering.actions := by
  intro other present
  rcases List.mem_cons.mp present with rfl | below
  · exact views.labels dfsFrame (stack ▸ List.mem_cons_self)
  · exact views.labels other (stack ▸ List.mem_cons_of_mem _ below)

theorem Views.failed (views : before.Views proof) (stack : before.dfsStack = dfsFrame :: rest)
    (completed : after.completed = true) (rests : Rests (before.advanced dfsFrame rest) after) :
    after.Views proof where
  tree := by rw [rests.tree]; exact views.tree
  status := by rw [rests.tree]; exact views.status
  stack := by
    rw [rests.tree, views.stack, stack]
    rfl
  labels := by
    rw [rests.tree]
    exact views.labels_advanced stack
  tried active := by
    rw [completed] at active
    cases active
  escapes i := (views.escapes i).trans (leftGameplay_of_quiet rests.trace i).symm

theorem map_markOf_noteTop (tree : SearchTree S) (outcome : SmbSearchNodeOutcome)
    (blockReason : SmbDfsClosedLossBlockReason) :
    (tree.noteTop outcome blockReason).dfsStack.map markOf =
      (tree.dfsStack.map markOf).modifyHead fun frame =>
        (frame.1, frame.2 && decide (outcome = .closedLoss)) := by
  rw [SearchTree.noteTop]
  cases tree.dfsStack with
  | nil => rfl
  | cons top rest =>
      simp [markOf, SearchTree.nodeIndex_noteChildOutcome,
        SearchTree.closedLossCandidate_noteChildOutcome]

theorem status_settle {outcomes : List SmbSearchNodeOutcome} {nodeIndex : ℕ} {intact : Bool}
    {marks : List (ℕ × Bool)} {outcome : SmbSearchNodeOutcome}
    (status : ∀ (i : ℕ) (known : SmbSearchNodeOutcome), outcomes[i]? = some known →
      proof.status i = known.status)
    (same : (if intact then ProofStatus.proven else .refuted) = outcome.status) :
    ∀ (i : ℕ) (known : SmbSearchNodeOutcome), (outcomes.set nodeIndex outcome)[i]? = some known →
      (proof.settle nodeIndex intact marks).status i = known.status := by
  intro i known found
  rw [List.getElem?_set] at found
  split at found
  · rename_i isNode
    subst isNode
    split at found
    · rw [← Option.some.inj found, ← same]
      exact Function.update_self ..
    · cases found
  · rename_i apart
    exact (Function.update_of_ne (Ne.symm apart) _ _).trans (status i known found)

theorem Views.backtracked (views : before.Views proof) (active : before.completed = false)
    (stack : before.dfsStack = dfsFrame :: rest)
    (exhausted : dfsFrame.nextActionIndex ≥ dfsFrame.actionOrdering.count) :
    ∃ next, ProofSearch.Step proof next ∧ (before.backtracked dfsFrame rest).Views next := by
  have onTop : dfsFrame ∈ before.dfsStack := stack ▸ List.mem_cons_self
  have marks : proof.stack = markOf dfsFrame :: rest.map markOf := by
    rw [views.stack, stack, List.map_cons]
  have tried : proof.tree.childLabels dfsFrame.nodeIndex = proof.labels dfsFrame.nodeIndex := by
    rw [views.tree, views.tried active dfsFrame onTop, views.labels dfsFrame onTop]
    exact List.take_of_length_le exhausted
  have links := SearchTree.treeOf_releaseNodeHeavyData before.toSearchTree dfsFrame.nodeIndex
  have inRest : ∀ other ∈ rest, other ∈ before.dfsStack :=
    fun other below => stack ▸ List.mem_cons_of_mem _ below
  refine ⟨_, .settle marks tried, ?_⟩
  exact {
    tree := views.tree.trans links.symm
    status := by
      refine status_settle views.status ?_
      rw [SearchTree.exhaustedOutcome]
      cases dfsFrame.closedLossCandidate <;> rfl
    stack := by
      refine Eq.trans ?_ (map_markOf_noteTop _ _ _).symm
      have lost : decide (SearchTree.exhaustedOutcome dfsFrame = .closedLoss) =
          dfsFrame.closedLossCandidate := by
        rw [SearchTree.exhaustedOutcome]
        cases dfsFrame.closedLossCandidate <;> rfl
      rw [lost]
      rfl
    labels := SearchTree.forall_noteTop
      (fun other => proof.labels other.nodeIndex = other.actionOrdering.actions)
      (fun _ _ _ => id) fun other below => views.labels other (inRest other below)
    tried := by
      intro _
      refine SearchTree.forall_noteTop (fun other => ParentTree.childLabels _ other.nodeIndex =
        other.actionOrdering.actions.take other.nextActionIndex) (fun _ _ _ => id) ?_
      intro other below
      exact (congrArg (fun tree => ParentTree.childLabels tree other.nodeIndex) links).trans
        (views.tried active other (inRest other below))
    escapes := by
      intro i
      refine (views.escapes i).trans (leftGameplay_of_quiet ⟨_, rfl, ?_⟩ i).symm
      intro entry present
      rw [List.mem_singleton.mp present]
      exact ⟨SmbDfsSearchTraceEventType.noConfusion, SmbDfsSearchTraceEventType.noConfusion⟩ }

theorem Views.tried_advanced (views : before.Views proof) (active : before.completed = false)
    (planted : before.Planted) (stack : before.dfsStack = dfsFrame :: rest)
    (next : dfsFrame.actionOrdering.actions[dfsFrame.nextActionIndex]? = some action) :
    ∀ other ∈ (before.advanced dfsFrame rest).dfsStack,
      ParentTree.childLabels (treeOf before.nodes ++ [some (dfsFrame.nodeIndex, action)])
          other.nodeIndex =
        other.actionOrdering.actions.take other.nextActionIndex := by
  have distinct := planted.nodup
  rw [SearchTree.stackIndices, stack, List.map_cons, List.nodup_cons] at distinct
  intro other present
  rw [ParentTree.childLabels_append, ParentTree.childLabels_link]
  rcases List.mem_cons.mp present with rfl | below
  · rw [if_pos rfl, views.tried active dfsFrame (stack ▸ List.mem_cons_self), List.take_add_one,
      next, Option.toList_some]
  · have apart : dfsFrame.nodeIndex ≠ other.nodeIndex := by
      intro same
      exact distinct.1 (same ▸ List.mem_map_of_mem below)
    rw [if_neg apart, List.append_nil]
    exact views.tried active other (stack ▸ List.mem_cons_of_mem _ below)

theorem Views.length (views : search.Views proof) : proof.tree.length = search.nodes.length := by
  rw [views.tree, length_treeOf]

theorem labels_expand (planted : before.Planted) (views : before.Views proof)
    (stack : before.dfsStack = dfsFrame :: rest) {labels : List SmbSearchLegalAction}
    {escaped : Bool} :
    ∀ other ∈ (before.advanced dfsFrame rest).dfsStack,
      (proof.expand dfsFrame.nodeIndex action labels escaped).labels other.nodeIndex =
        other.actionOrdering.actions := by
  intro other present
  have isOld : other.nodeIndex < before.nodes.length := by
    refine planted.lt_length ?_
    rw [← SearchTree.stackIndices_advance stack]
    exact List.mem_map_of_mem present
  refine Eq.trans ?_ (views.labels_advanced stack other present)
  exact Function.update_of_ne (Nat.ne_of_lt (views.length ▸ isOld)) _ _

theorem status_expand (views : before.Views proof) (planted : before.Planted) {parent : ℕ}
    {labels : List SmbSearchLegalAction} {escaped : Bool} :
    ∀ (i : ℕ) (known : SmbSearchNodeOutcome),
      (before.nodeOutcomes ++ [SmbSearchNodeOutcome.opened])[i]? = some known →
        (proof.expand parent action labels escaped).status i = known.status := by
  intro i known found
  have level : before.nodeOutcomes.length = proof.tree.length := by
    rw [planted.outcomes, views.length, planted.nodes]
  rcases Nat.lt_trichotomy i before.nodeOutcomes.length with isOld | rfl | beyond
  · rw [List.getElem?_append_left isOld] at found
    exact (Function.update_of_ne (Nat.ne_of_lt (level ▸ isOld)) _ _).trans
      (views.status i known found)
  · rw [List.getElem?_concat_length] at found
    cases found
    rw [level]
    exact Function.update_self ..
  · have bound := (List.getElem?_eq_some_iff.mp found).1
    rw [List.length_append, List.length_singleton] at bound
    omega

variable (before) in
theorem treeOf_addNode {parent : ℕ} (link : judgement.child.link = some (parent, action)) :
    treeOf (before.nodes ++ [judgement.child]) =
      treeOf before.nodes ++ [some (parent, action)] := by
  rw [treeOf_append]
  exact congrArg (fun edge => treeOf before.nodes ++ [edge]) link

theorem childLabels_new (planted : before.Planted) (stack : before.dfsStack = dfsFrame :: rest)
    (action : SmbSearchLegalAction) :
    ParentTree.childLabels (treeOf before.nodes ++ [some (dfsFrame.nodeIndex, action)])
      before.nodes.length = [] := by
  have isParent := planted.lt_length (i := dfsFrame.nodeIndex) (by
    rw [SearchTree.stackIndices, stack]
    exact List.mem_cons_self)
  rw [ParentTree.childLabels_append, ParentTree.childLabels_link,
    if_neg (Nat.ne_of_lt isParent), List.append_nil, ← length_treeOf]
  exact ProofSearch.childLabels_length planted.grown

section

variable (views : before.Views proof) (planted : before.Planted) (active : before.completed = false)
  (stack : before.dfsStack = dfsFrame :: rest)
  (next : dfsFrame.actionOrdering.actions[dfsFrame.nextActionIndex]? = some action)
  (link : judgement.child.link = some (dfsFrame.nodeIndex, action))
include views planted active stack next link

theorem Views.pushed (alive : judgement.verdict.expandedAlive = true)
    (pushed : judgement.verdict.pushed = true) :
    ∃ next, ProofSearch.Steps proof next ∧
      ((before.advanced dfsFrame rest).settleChild dfsFrame action judgement).Views next := by
  have marks : proof.stack = markOf dfsFrame :: rest.map markOf := by
    rw [views.stack, stack, List.map_cons]
  have tree := toSearchTree_settleChild_pushed (before.advanced dfsFrame rest) dfsFrame action
    pushed alive
  have links := treeOf_addNode before link
  have adds := (before.advanced dfsFrame rest).adds_settleChild dfsFrame action judgement
  refine ⟨_, .single (.expand marks action (childFrame before.options before.nodes.length
    judgement.state action true .none).actionOrdering.actions
    (nodup_buildDfsActionOrder ..) false), ?_⟩
  exact {
    tree := by
      rw [tree, ProofSearch.expand, views.tree]
      exact links.symm
    status := by
      rw [tree]
      exact status_expand views planted
    stack := by
      rw [tree, ProofSearch.expand, views.length, marks]
      rfl
    labels := by
      rw [tree]
      intro other present
      rcases List.mem_cons.mp present with rfl | below
      · have isNew := views.length.symm
        exact (congrArg _ isNew).trans (Function.update_self ..)
      · exact labels_expand planted views stack other below
    tried := by
      intro _
      rw [tree]
      intro other present
      refine (congrArg (fun tree => ParentTree.childLabels tree other.nodeIndex) links).trans ?_
      rcases List.mem_cons.mp present with rfl | below
      · exact childLabels_new planted stack action
      · exact views.tried_advanced active planted stack next other below
    escapes := by
      intro i
      rw [adds.leftGameplay_iff i]
      have event := of_decide_eq_true alive
      rw [event]
      refine or_congr (views.escapes i) (and_congr ?_ ?_)
      · exact iff_of_false Bool.false_ne_true SmbDfsSearchTraceEventType.noConfusion
      · rw [views.length]
        rfl }

theorem Views.pruned (dead : judgement.verdict.expandedAlive = false)
    (pushed : judgement.verdict.pushed = false) (lost : Bool)
    (event : judgement.verdict.traceEvent = .prunedNonGameplay ↔ lost = false)
    (outcome : judgement.verdict.childOutcome = if lost then .closedLoss else .notClosedLoss) :
    ∃ next, ProofSearch.Steps proof next ∧
      ((before.advanced dfsFrame rest).settleChild dfsFrame action judgement).Views next := by
  have marks : proof.stack = markOf dfsFrame :: rest.map markOf := by
    rw [views.stack, stack, List.map_cons]
  have tree := toSearchTree_settleChild_pruned (before.advanced dfsFrame rest) dfsFrame action
    pushed dead
  have links := treeOf_addNode before link
  have adds := (before.advanced dfsFrame rest).adds_settleChild dfsFrame action judgement
  have leaf : (proof.expand dfsFrame.nodeIndex action [] (!lost)).tree.childLabels
      proof.tree.length =
        (proof.expand dfsFrame.nodeIndex action [] (!lost)).labels proof.tree.length := by
    have none : (proof.expand dfsFrame.nodeIndex action [] (!lost)).labels proof.tree.length = [] :=
      Function.update_self ..
    rw [none, ProofSearch.expand, views.tree, length_treeOf]
    exact childLabels_new planted stack action
  have kept : (treeOf (((before.advanced dfsFrame rest).addNode judgement.child judgement.key
      .none).releaseNodeHeavyData before.nodes.length).nodes) =
        treeOf before.nodes ++ [some (dfsFrame.nodeIndex, action)] :=
    (SearchTree.treeOf_releaseNodeHeavyData _ _).trans links
  refine ⟨_, .tail (.single (.expand marks action [] List.nodup_nil (!lost))) (.settle rfl leaf), ?_⟩
  exact {
    tree := by
      rw [tree, SearchTree.nodes_prune, ProofSearch.settle, ProofSearch.expand, views.tree]
      exact kept.symm
    status := by
      rw [tree, SearchTree.nodeOutcomes_prune, Bool.not_not, views.length]
      refine status_settle (status_expand views planted) ?_
      rw [outcome]
      cases lost <;> rfl
    stack := by
      have same : decide ((if lost = true then SmbSearchNodeOutcome.closedLoss
          else .notClosedLoss) = .closedLoss) = lost := by
        cases lost <;> rfl
      rw [tree, SearchTree.dfsStack_prune, map_markOf_noteTop, outcome, same, ProofSearch.settle,
        Bool.not_not, marks]
      rfl
    labels := by
      rw [tree, SearchTree.dfsStack_prune]
      exact SearchTree.forall_noteTop
        (fun other => (proof.expand dfsFrame.nodeIndex action [] (!lost)).labels other.nodeIndex =
          other.actionOrdering.actions)
        (fun _ _ _ => id) (labels_expand planted views stack)
    tried := by
      intro _
      rw [tree, SearchTree.dfsStack_prune, SearchTree.nodes_prune]
      refine SearchTree.forall_noteTop (fun other => ParentTree.childLabels _ other.nodeIndex =
        other.actionOrdering.actions.take other.nextActionIndex) (fun _ _ _ => id) ?_
      intro other present
      exact (congrArg (fun tree => ParentTree.childLabels tree other.nodeIndex) kept).trans
        (views.tried_advanced active planted stack next other present)
    escapes := by
      intro i
      rw [adds.leftGameplay_iff i, event]
      refine or_congr (views.escapes i) (and_congr ?_ ?_)
      · exact Iff.of_eq (Bool.not_eq_true' lost)
      · rw [views.length]
        rfl }

end

/-- **One call is some steps of the abstract search.** -/
theorem Views.step (views : before.Views proof) (planted : before.Planted)
    {call : Call S} (moved : (machine S).step before call after) :
    ∃ next, ProofSearch.Steps proof next ∧ after.Views next := by
  cases moved
  cases call with
  | pauseSet paused => exact ⟨proof, .refl, views.of_rests (rests_pauseSet before paused)⟩
  | stop => exact ⟨proof, .refl, views.of_rests (rests_stop before)⟩
  | tick driver =>
      cases before.tick_cases driver planted.topFound with
      | rested rests => exact ⟨proof, .refl, views.of_rests rests⟩
      | failed dfsFrame rest _ stack completed rests =>
          exact ⟨proof, .refl, views.failed stack completed rests⟩
      | backtracked dfsFrame rest active stack exhausted rests =>
          obtain ⟨next, settled, viewed⟩ := views.backtracked active stack exhausted
          exact ⟨next, .single settled, viewed.of_rests rests⟩
      | settled dfsFrame rest parent action arrival active stack _ _ next _ rests =>
          have agree := judgeArrival_pushed before.toSearchTree before.options dfsFrame.nodeIndex
            parent action arrival
          have link := judgeArrival_link before.toSearchTree before.options dfsFrame.nodeIndex
            parent action arrival
          cases alive : (judgeArrival before.toSearchTree before.options dfsFrame.nodeIndex parent
              action arrival).verdict.expandedAlive with
          | true =>
              obtain ⟨further, moved, viewed⟩ := views.pushed planted active stack next link alive
                (agree.trans alive)
              exact ⟨further, moved, viewed.of_rests rests⟩
          | false =>
              rcases judgeArrival_pruned before.toSearchTree before.options dfsFrame.nodeIndex
                parent action arrival alive with ⟨outcome, event⟩ | ⟨outcome, event⟩
              · obtain ⟨further, moved, viewed⟩ := views.pruned planted active stack next link alive
                  (agree.trans alive) true ⟨fun left => absurd left event, nofun⟩ outcome
                exact ⟨further, moved, viewed.of_rests rests⟩
              · obtain ⟨further, moved, viewed⟩ := views.pruned planted active stack next link alive
                  (agree.trans alive) false ⟨fun _ => rfl, fun _ => event⟩ outcome
                exact ⟨further, moved, viewed.of_rests rests⟩

theorem Views.run (views : before.Views proof) (planted : before.Planted)
    {calls : List (Call S)} (run : (machine S).Run before calls after) :
    ∃ next, ProofSearch.Steps proof next ∧ after.Views next := by
  induction run generalizing proof with
  | nil => exact ⟨proof, .refl, views⟩
  | cons moved _ ih =>
      obtain ⟨middle, first, viewed⟩ := views.step planted moved
      obtain ⟨next, second, last⟩ := ih viewed (planted_step planted moved)
      exact ⟨next, first.trans second, last⟩

end

end SmbDfsSearch

end DirtSim
