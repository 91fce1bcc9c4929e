import DirtSim.Search.ClosedLoss
import DirtSim.Search.LossTables

/-! # Closed losses are lost

The marks of the abstract search say what the outcomes of the concrete one mean, and with what is
recorded of a run they say it of every node that was expanded
(`SmbDfsSearch.closed_loss_sound`).
-/

namespace DirtSim

open Foundation

variable {S : Type}

namespace SmbDfsSearch

section

variable {before after search : SmbDfsSearch S} {proof : ProofSearch SmbSearchLegalAction}
variable {i : ℕ} {call : Call S} {calls : List (Call S)}

theorem Views.outcome_of_status (views : search.Views proof) (planted : search.Planted)
    (present : i < search.nodes.length) (outcome : SmbSearchNodeOutcome)
    (status : proof.status i = outcome.status) : search.nodeOutcomes[i]? = some outcome := by
  have bound : i < search.nodeOutcomes.length := by
    rw [planted.outcomes, ← planted.nodes]
    exact present
  have found := List.getElem?_eq_getElem bound
  rw [views.status i _ found] at status
  rw [found, SmbSearchNodeOutcome.status_injective status]

theorem Views.not_lost (views : search.Views proof) (sound : proof.Sound) {dfsFrame : DfsFrame}
    (stacked : dfsFrame ∈ search.dfsStack) :
    search.nodeOutcomes[dfsFrame.nodeIndex]? ≠ some .closedLoss := by
  intro lost
  have proven := views.status _ _ lost
  have isStacked : dfsFrame.nodeIndex ∈ proof.stacked := by
    rw [ProofSearch.stacked, views.stack, List.map_map]
    exact List.mem_map_of_mem stacked
  rw [sound.opened _ isStacked] at proven
  cases proven

/-- The nodes where the game left normal play were not expanded. -/
def LeftDead (search : SmbDfsSearch S) : Prop :=
  ∀ i, search.LeftGameplay i → i < search.nodes.length ∧ ¬ search.Alive i

theorem LeftDead.of_quiet (dead : before.LeftDead)
    (length : after.nodes.length = before.nodes.length) (quiet : Quiet before after) :
    after.LeftDead := by
  intro i left
  rw [length, alive_of_quiet quiet i]
  exact dead i ((leftGameplay_of_quiet quiet i).mp left)

theorem LeftDead.of_adds (dead : before.LeftDead) {judgement : Judgement S}
    (adds : Adds before judgement after)
    (aliveFound : ∀ i, before.Alive i → i < before.nodes.length)
    (length : after.nodes.length = before.nodes.length + 1) : after.LeftDead := by
  intro i left
  rw [length, adds.alive_iff i]
  rcases (adds.leftGameplay_iff i).mp left with old | ⟨event, rfl⟩
  · obtain ⟨present, isDead⟩ := dead i old
    refine ⟨Nat.lt_succ_of_lt present, ?_⟩
    rintro (alive | ⟨_, same⟩)
    · exact isDead alive
    · exact Nat.ne_of_lt present same
  · refine ⟨Nat.lt_succ_self _, ?_⟩
    rintro (alive | ⟨expanded, _⟩)
    · exact Nat.lt_irrefl _ (aliveFound _ alive)
    · rw [Verdict.expandedAlive, event] at expanded
      exact SmbDfsSearchTraceEventType.noConfusion (of_decide_eq_true expanded)

/-- What the search knows of losses. -/
structure KnowsLosses (search : SmbDfsSearch S) : Prop where
  knowsBest : search.KnowsBest
  simulated : ∃ proof, search.Views proof ∧ proof.Sound
  honest : search.Honest
  leftDead : search.LeftDead

theorem knowsLosses_start (options : SmbDfsSearchOptions) (root : Root S) :
    (start options root).KnowsLosses where
  knowsBest := knowsBest_start options root
  simulated := ⟨_, views_start options root, ProofSearch.sound_root (nodup_buildDfsActionOrder ..)⟩
  honest := ⟨fun _ _ => nofun, fun _ _ => nofun⟩
  leftDead i left := by
    obtain ⟨entry, present, isLeft, _⟩ := left
    rw [List.mem_singleton.mp present] at isLeft
    cases isLeft

theorem call_cases (planted : before.Planted) (moved : (machine S).step before call after) :
    Rests before after ∨ ∃ driver, TickEffect driver before after := by
  cases moved
  cases call with
  | tick driver => exact Or.inr ⟨driver, before.tick_cases driver planted.topFound⟩
  | pauseSet paused => exact Or.inl (rests_pauseSet before paused)
  | stop => exact Or.inl (rests_stop before)

theorem KnowsLosses.honest_step (knows : before.KnowsLosses)
    (moved : (machine S).step before call after) : after.Honest := by
  have planted := knows.knowsBest.planted
  obtain ⟨proof, views, sound⟩ := knows.simulated
  rcases call_cases planted moved with rests | ⟨driver, effect⟩
  · exact rests.tree ▸ knows.honest
  · cases effect with
    | rested rests => exact rests.tree ▸ knows.honest
    | failed dfsFrame rest _ _ _ rests =>
        rw [rests.tree]
        exact knows.honest.mono rfl rfl fun _ _ => id
    | backtracked dfsFrame rest _ stack _ rests =>
        rw [rests.tree]
        exact knows.honest.backtrack (views.not_lost sound (stack ▸ List.mem_cons_self)) rest
    | settled dfsFrame rest parent action arrival _ _ _ _ _ _ rests =>
        have agree := judgeArrival_pushed before.toSearchTree before.options dfsFrame.nodeIndex
          parent action arrival
        have advanced : (before.advanced dfsFrame rest).Honest :=
          knows.honest.mono rfl rfl fun _ _ => id
        have added := advanced.addNode
          (judgeArrival before.toSearchTree before.options dfsFrame.nodeIndex parent action
            arrival).child
          (judgeArrival before.toSearchTree before.options dfsFrame.nodeIndex parent action
            arrival).key .none
        rw [rests.tree]
        cases alive : (judgeArrival before.toSearchTree before.options dfsFrame.nodeIndex parent
            action arrival).verdict.expandedAlive with
        | true =>
            rw [toSearchTree_settleChild_pushed _ _ _ (agree.trans alive) alive]
            exact added.mono rfl rfl fun _ _ => id
        | false =>
            rw [toSearchTree_settleChild_pruned _ _ _ (agree.trans alive) alive]
            refine added.prune ?_ _ _
            have level : before.nodes.length = before.nodeOutcomes.length :=
              planted.nodes.trans planted.outcomes.symm
            have isOpen : (before.nodeOutcomes ++ [SmbSearchNodeOutcome.opened])[before.nodes.length]? =
                some .opened := by
              rw [level]
              exact List.getElem?_concat_length
            exact fun lost => nomatch isOpen.symm.trans lost

theorem KnowsLosses.leftDead_step (knows : before.KnowsLosses)
    (moved : (machine S).step before call after) : after.LeftDead := by
  have planted := knows.knowsBest.planted
  rcases call_cases planted moved with rests | ⟨driver, effect⟩
  · exact knows.leftDead.of_quiet (by rw [rests.tree]) rests.trace
  · cases effect with
    | rested rests => exact knows.leftDead.of_quiet (by rw [rests.tree]) rests.trace
    | failed dfsFrame rest _ _ _ rests =>
        exact knows.leftDead.of_quiet (by rw [rests.tree]; rfl) rests.trace
    | backtracked dfsFrame rest _ stack _ rests =>
        have still : (before.backtracked dfsFrame rest).LeftDead := by
          refine knows.leftDead.of_quiet (List.length_modify _ _ _) ⟨_, rfl, ?_⟩
          intro entry present
          rw [List.mem_singleton.mp present]
          exact ⟨SmbDfsSearchTraceEventType.noConfusion, SmbDfsSearchTraceEventType.noConfusion⟩
        exact still.of_quiet (by rw [rests.tree]) rests.trace
    | settled dfsFrame rest parent action arrival _ stack unspent _ _ _ rests =>
        have added := planted_step planted moved
        have adds := (before.advanced dfsFrame rest).adds_settleChild dfsFrame action
          (judgeArrival before.toSearchTree before.options dfsFrame.nodeIndex parent action arrival)
        have length : ((before.advanced dfsFrame rest).settleChild dfsFrame action
            (judgeArrival before.toSearchTree before.options dfsFrame.nodeIndex parent action
              arrival)).nodes.length = before.nodes.length + 1 := by
          rw [← rests.tree, added.nodes, planted.nodes, rests.count, adds.count]
          rfl
        have dead : (before.advanced dfsFrame rest).LeftDead := knows.leftDead
        have grown := dead.of_adds adds knows.knowsBest.aliveFound length
        exact grown.of_quiet (by rw [rests.tree]) rests.trace

theorem KnowsLosses.step (knows : before.KnowsLosses) (best : after.KnowsBest)
    (moved : (machine S).step before call after) : after.KnowsLosses := by
  obtain ⟨proof, views, sound⟩ := knows.simulated
  obtain ⟨next, steps, viewed⟩ := views.step knows.knowsBest.planted moved
  exact ⟨best, ⟨next, viewed, sound.steps steps⟩, knows.honest_step moved,
    knows.leftDead_step moved⟩

theorem knowsLosses_of_reachable (reached : (machine S).Reachable search) :
    search.KnowsLosses := by
  let property (search : SmbDfsSearch S) : Prop :=
    (machine S).Reachable search ∧ search.KnowsLosses
  have both : property search := by
    refine reached.invariant ?_ ?_
    · rintro started ⟨options, root, rfl⟩
      exact ⟨⟨_, [], ⟨options, root, rfl⟩, .nil _⟩, knowsLosses_start options root⟩
    · intro before call after ⟨reachedBefore, knows⟩ moved
      have reachedAfter := reachedBefore.step moved
      exact ⟨reachedAfter, knows.step (knowsBest_of_reachable reachedAfter) moved⟩
  exact both.2

theorem stacked_of_alive (planted : before.Planted) (moved : (machine S).step before call after)
    (alive : after.Alive i) : before.Alive i ∨ i ∈ after.stackIndices := by
  rcases call_cases planted moved with rests | ⟨driver, effect⟩
  · exact Or.inl ((alive_of_quiet rests.trace i).mp alive)
  · cases effect with
    | rested rests => exact Or.inl ((alive_of_quiet rests.trace i).mp alive)
    | failed dfsFrame rest _ _ _ rests => exact Or.inl ((alive_of_quiet rests.trace i).mp alive)
    | backtracked dfsFrame rest _ stack _ rests =>
        have quiet : Quiet before (before.backtracked dfsFrame rest) := by
          refine ⟨_, rfl, fun entry present => ?_⟩
          rw [List.mem_singleton.mp present]
          exact ⟨SmbDfsSearchTraceEventType.noConfusion, SmbDfsSearchTraceEventType.noConfusion⟩
        exact Or.inl ((alive_of_quiet quiet i).mp ((alive_of_quiet rests.trace i).mp alive))
    | settled dfsFrame rest parent action arrival _ _ _ _ _ _ rests =>
        have adds := (before.advanced dfsFrame rest).adds_settleChild dfsFrame action
          (judgeArrival before.toSearchTree before.options dfsFrame.nodeIndex parent action arrival)
        have agree := judgeArrival_pushed before.toSearchTree before.options dfsFrame.nodeIndex
          parent action arrival
        rcases (adds.alive_iff i).mp ((alive_of_quiet rests.trace i).mp alive) with
          old | ⟨expanded, rfl⟩
        · exact Or.inl old
        · rw [rests.tree, toSearchTree_settleChild_pushed _ _ _ (agree.trans expanded) expanded]
          exact Or.inr List.mem_cons_self

/-- At some time in a run a node was on the stack to be expanded in an order of actions. -/
def Expanded (first : SmbDfsSearch S) (calls : List (Call S)) (last : SmbDfsSearch S) (i : ℕ)
    (ordering : SmbSearchActionOrdering) : Prop :=
  ∃ earlier later middle, calls = earlier ++ later ∧ (machine S).Run first earlier middle ∧
    (machine S).Run middle later last ∧
      ∃ dfsFrame ∈ middle.dfsStack, dfsFrame.nodeIndex = i ∧ dfsFrame.actionOrdering = ordering

theorem expanded_of_stacked (run : (machine S).Run before calls after)
    (stacked : i ∈ before.stackIndices) : ∃ ordering, Expanded before calls after i ordering := by
  obtain ⟨dfsFrame, present, same⟩ := List.mem_map.mp stacked
  exact ⟨_, [], calls, before, rfl, .nil before, run, dfsFrame, present, same, rfl⟩

theorem Expanded.cons {middle last : SmbDfsSearch S} {ordering : SmbSearchActionOrdering}
    (expanded : Expanded middle calls last i ordering) (moved : (machine S).step before call middle) :
    Expanded before (call :: calls) last i ordering := by
  obtain ⟨earlier, later, there, split, first, second, found⟩ := expanded
  exact ⟨call :: earlier, later, there, congrArg _ split, .cons moved first, second, found⟩

theorem expanded_of_alive (planted : before.Planted) (run : (machine S).Run before calls after)
    (alive : after.Alive i) :
    before.Alive i ∨ ∃ ordering, Expanded before calls after i ordering := by
  induction run with
  | nil => exact Or.inl alive
  | cons moved rest ih =>
      rcases ih (planted_step planted moved) alive with wasAlive | ⟨ordering, expanded⟩
      · rcases stacked_of_alive planted moved wasAlive with alive | stacked
        · exact Or.inl alive
        · obtain ⟨ordering, expanded⟩ := expanded_of_stacked rest stacked
          exact Or.inr ⟨ordering, expanded.cons moved⟩
      · exact Or.inr ⟨ordering, expanded.cons moved⟩

theorem expanded_of_run {first last : SmbDfsSearch S} (initial : (machine S).initial first)
    (run : (machine S).Run first calls last) (alive : last.Alive i) :
    ∃ ordering, Expanded first calls last i ordering := by
  rcases expanded_of_alive (planted_of_initial initial) run alive with wasAlive | expanded
  · obtain ⟨options, root, rfl⟩ := initial
    refine expanded_of_stacked run ?_
    rcases wasAlive with rfl | ⟨entry, present, isAlive, _⟩
    · exact List.mem_cons_self
    · rw [List.mem_singleton.mp present] at isAlive
      cases isAlive
  · exact expanded

theorem exhausted_of_expanded {first last : SmbDfsSearch S} (initial : (machine S).initial first)
    {ordering : SmbSearchActionOrdering} (expanded : Expanded first calls last i ordering)
    (lost : last.nodeOutcomes[i]? = some .closedLoss) :
    i ∉ last.stackIndices ∧
      (∀ action ∈ ordering.actions, ∃! child, (treeOf last.nodes).IsChild i action child) ∧
      ∀ action child, (treeOf last.nodes).IsChild i action child →
        action ∈ ordering.actions ∧ last.nodeOutcomes[child]? = some .closedLoss := by
  obtain ⟨earlier, later, middle, _, run, rest, dfsFrame, stacked, rfl, rfl⟩ := expanded
  obtain ⟨proof, views, sound⟩ := (knowsLosses_of_reachable ⟨first, earlier, initial, run⟩).simulated
  have plantedMiddle := (planted_of_initial initial).of_run run
  have planted := plantedMiddle.of_run rest
  obtain ⟨next, steps, viewed⟩ := views.run plantedMiddle rest
  have soundLast := sound.steps steps
  obtain ⟨grows, keeps⟩ := ProofSearch.Steps.keeps_labels steps
  have wasPresent : dfsFrame.nodeIndex < proof.tree.length := by
    rw [views.length]
    exact plantedMiddle.lt_length (List.mem_map_of_mem stacked)
  have present := Nat.lt_of_lt_of_le wasPresent grows
  have proven := viewed.status _ _ lost
  have labels := (keeps _ wasPresent).trans (views.labels dfsFrame stacked)
  obtain ⟨off, explored, unique⟩ := soundLast.exhausted_of_proven present proven
  rw [labels] at explored unique
  refine ⟨?_, ?_, ?_⟩
  · rwa [ProofSearch.stacked, viewed.stack, List.map_map] at off
  · intro action isAction
    exact viewed.tree ▸ unique action isAction
  · intro action child edge
    rw [← viewed.tree] at edge
    refine ⟨explored ▸ ParentTree.mem_childLabels.mpr ⟨child, edge⟩, ?_⟩
    refine viewed.outcome_of_status planted ?_ _ (soundLast.proven _ action child edge proven)
    rw [← viewed.length]
    exact edge.lt_length

/-- **Proofs of losses are sound.** In every state a started search reaches: every node recorded
as expanded was on the stack. When it is a closed loss it has left the stack, every action of its
order has one child, and these are its children, all of them closed losses. A node that is no
closed loss lies above one where the game left normal play, and not only at itself when it was
expanded. What the tables hold was published by closed losses. -/
theorem closed_loss_sound {first last : SmbDfsSearch S} {calls : List (Call S)}
    (initial : (machine S).initial first) (run : (machine S).Run first calls last) :
    (∀ i, last.Alive i → ∃ ordering, Expanded first calls last i ordering) ∧
      (∀ i ordering, Expanded first calls last i ordering →
        last.nodeOutcomes[i]? = some .closedLoss →
          i ∉ last.stackIndices ∧
          (∀ action ∈ ordering.actions, ∃! child, (treeOf last.nodes).IsChild i action child) ∧
          ∀ action child, (treeOf last.nodes).IsChild i action child →
            action ∈ ordering.actions ∧ last.nodeOutcomes[child]? = some .closedLoss) ∧
      (∀ i : ℕ, last.nodeOutcomes[i]? = some .notClosedLoss →
        ∃ below, (treeOf last.nodes).Descends i below ∧ last.LeftGameplay below ∧
          (last.Alive i → below ≠ i)) ∧
      last.Honest := by
  have knows := knowsLosses_of_reachable ⟨first, calls, initial, run⟩
  refine ⟨fun i alive => expanded_of_run initial run alive,
    fun i ordering expanded lost => exhausted_of_expanded initial expanded lost, ?_, knows.honest⟩
  intro i outcome
  obtain ⟨proof, views, sound⟩ := knows.simulated
  have present : i < proof.tree.length := by
    have bound := (List.getElem?_eq_some_iff.mp outcome).1
    rw [views.length, knows.knowsBest.planted.nodes, ← knows.knowsBest.planted.outcomes]
    exact bound
  obtain ⟨below, descends, escapes⟩ := sound.refuted i present (views.status i _ outcome)
  have left := (views.escapes below).mp escapes
  refine ⟨below, views.tree ▸ descends, left, ?_⟩
  rintro alive rfl
  exact (knows.leftDead below left).2 alive

theorem closed_loss_sound_standing :
    ∃ ordering, Expanded (start {} standingRoot) [.tick standingDriver, .stop]
      (((start {} standingRoot).tick standingDriver).1.stop) 0 ordering :=
  (closed_loss_sound ⟨{}, standingRoot, rfl⟩
    (.cons (show (machine Unit).step _ (.tick standingDriver) _ from rfl)
      (.cons (show (machine Unit).step _ .stop _ from rfl) (.nil _)))).1 0 (Or.inl rfl)

end

end SmbDfsSearch

end DirtSim
