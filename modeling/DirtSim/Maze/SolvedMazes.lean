import DirtSim.Maze.PerfectMazes

/-! # Mazes are solved

The search of a maze finds each cell once and keeps for it the cell from which it was found, so that
it knows a simple path to every cell that it has found (`Searching`). As a perfect maze is connected,
it visits the goal before it runs out of cells, and as there are no cycles the path to the goal is the
only one (`mazes_are_solved`).
-/

namespace DirtSim

open Foundation

namespace MazeSolverSession

variable {width height : ℕ} {model : MazeModel width height}
  {session : MazeSolverSession width height}

/-! ## The path -/

theorem ascend_lineage {parents : Fin (width * height) → Option (Fin (width * height))}
    {cells : List (Fin (width * height))} (lineage : Lineage parents cells) {limit : ℕ}
    (short : cells.length ≤ limit) : ascend parents limit cells.head? = some cells := by
  induction lineage generalizing limit with
  | first orphan =>
      cases limit with
      | zero => exact absurd short (Nat.not_succ_le_zero _)
      | succ limit =>
          rw [List.head?_cons, ascend, orphan, ascend]
          rfl
  | child isParent above ih =>
      cases limit with
      | zero => exact absurd short (Nat.not_succ_le_zero _)
      | succ limit =>
          have rest := ih (Nat.le_of_succ_le_succ short)
          rw [List.head?_cons] at rest
          rw [List.head?_cons, ascend, isParent, rest]
          rfl

/-- The solution is the only simple path from the start to the goal. -/
def Solved (model : MazeModel width height) (session : MazeSolverSession width height) : Prop :=
  session.complete = true ∧
    ∃ walk : model.passages.Walk model.startIndex model.goalIndex, walk.IsPath ∧
      walk.support = session.solutionPath ∧
      ∀ other : model.passages.Walk model.startIndex model.goalIndex, other.IsPath → other = walk

/-! ## Steps -/

/-- A search that has taken a number of steps, and visited as many cells. -/
structure Searching (model : MazeModel width height) (session : MazeSolverSession width height)
    (steps : ℕ) : Prop where
  running : session.complete = false
  explored : Explored model.passages model.startIndex session.queue session.queueHead
    session.parents
  head_le : session.queueHead ≤ session.queue.length
  enqueued : ∀ index, session.enqueuedFlags index = true ↔ index ∈ session.queue
  visited : ∀ index, session.visitedFlags index = true ↔
    index ∈ session.queue.take session.queueHead
  missing : model.goalIndex ∉ session.queue.take session.queueHead
  taken : session.queueHead = steps

/-- A search that is looking through the openings of a cell, and has looked in some directions. -/
structure Looking (model : MazeModel width height) (session : MazeSolverSession width height)
    (head : ℕ) (currentIndex : Fin (width * height)) (looked : List MazeDirection) : Prop where
  running : session.complete = false
  isHead : session.queueHead = head + 1
  next : session.queue[head]? = some currentIndex
  explored : Explored model.passages model.startIndex session.queue head session.parents
  enqueued : ∀ index, session.enqueuedFlags index = true ↔ index ∈ session.queue
  visited : ∀ index, session.visitedFlags index = true ↔ index ∈ session.queue.take (head + 1)
  missing : model.goalIndex ∉ session.queue.take (head + 1)
  seen : ∀ direction ∈ looked, model.IsOpen currentIndex direction →
    ∀ other, MazeModel.neighbor currentIndex direction = some other → other ∈ session.queue

variable {head : ℕ} {currentIndex : Fin (width * height)} {looked : List MazeDirection}

theorem Looking.head_lt (looking : Looking model session head currentIndex looked) :
    head < session.queue.length := (List.getElem?_eq_some_iff.mp looking.next).1

theorem Looking.look (symmetric : model.Symmetric)
    (looking : Looking model session head currentIndex looked) (direction : MazeDirection) :
    ∃ after, look model currentIndex session direction = some after ∧
      Looking model after head currentIndex (looked ++ [direction]) := by
  have kept (enough : model.IsOpen currentIndex direction → ∀ other,
      MazeModel.neighbor currentIndex direction = some other → other ∈ session.queue) :
      Looking model session head currentIndex (looked ++ [direction]) := by
    refine { looking with seen := fun way listed => ?_ }
    rcases List.mem_append.mp listed with before | last
    · exact looking.seen way before
    · exact List.mem_singleton.mp last ▸ enough
  unfold MazeSolverSession.look
  split
  case isTrue isShut => exact ⟨session, rfl, kept fun isOpen => absurd isOpen isShut⟩
  case isFalse notShut =>
    have isOpen := Decidable.not_not.mp notShut
    obtain ⟨other, next, back⟩ := symmetric currentIndex direction isOpen
    rw [next]
    dsimp only
    split
    case isTrue found =>
      refine ⟨session, rfl, kept fun _ other' next' => ?_⟩
      obtain rfl := Option.some.inj (next.symm.trans next')
      exact (looking.enqueued other).mp found
    case isFalse unfound =>
      have fresh : other ∉ session.queue := fun there => unfound ((looking.enqueued other).mpr there)
      have here : currentIndex ∈ session.queue := List.mem_of_getElem? looking.next
      have adjacent : model.passages.Adj currentIndex other :=
        symmetric.adj_iff.mpr ⟨direction, isOpen, next⟩
      have front : (session.queue ++ [other]).take (head + 1) = session.queue.take (head + 1) :=
        List.take_append_of_le_length looking.head_lt
      refine ⟨_, rfl, looking.running, looking.isHead, ?_,
        looking.explored.find looking.head_lt.le here adjacent fresh, fun index => ?_, ?_, ?_,
        fun way listed isOpen' other' next' => ?_⟩
      · rw [List.getElem?_append_left looking.head_lt]
        exact looking.next
      · dsimp only
        rw [List.mem_append, List.mem_singleton, MazeModel.update_true_iff, looking.enqueued]
        exact or_comm
      · dsimp only
        rw [front]
        exact looking.visited
      · rw [front]
        exact looking.missing
      · rcases List.mem_append.mp listed with before | last
        · exact List.mem_append_left _ (looking.seen way before isOpen' other' next')
        · rw [List.mem_singleton.mp last] at next'
          obtain rfl := Option.some.inj (next.symm.trans next')
          exact List.mem_append_right _ (List.mem_singleton_self _)

theorem Looking.foldlM (symmetric : model.Symmetric) (directions : List MazeDirection)
    (looking : Looking model session head currentIndex looked) :
    ∃ after, directions.foldlM (MazeSolverSession.look model currentIndex) session = some after ∧
      Looking model after head currentIndex (looked ++ directions) := by
  induction directions generalizing session looked with
  | nil =>
      rw [List.append_nil]
      exact ⟨session, rfl, looking⟩
  | cons direction directions ih =>
      obtain ⟨middle, first, looking'⟩ := looking.look symmetric direction
      obtain ⟨after, rest, looking''⟩ := ih looking'
      rw [List.append_assoc] at looking''
      refine ⟨after, ?_, looking''⟩
      rw [List.foldlM_cons, first]
      exact rest

theorem Looking.searching (symmetric : model.Symmetric)
    (looking : Looking model session head currentIndex MazeDirection.all) :
    Searching model session (head + 1) := by
  refine ⟨looking.running, ?_, ?_, looking.enqueued, ?_, ?_, looking.isHead⟩
  · rw [looking.isHead]
    refine looking.explored.finish looking.next fun other adjacent => ?_
    obtain ⟨direction, isOpen, next⟩ := symmetric.adj_iff.mp adjacent
    exact looking.seen direction direction.mem_all isOpen other next
  · rw [looking.isHead]
    exact looking.head_lt
  · rw [looking.isHead]
    exact looking.visited
  · rw [looking.isHead]
    exact looking.missing

variable {steps : ℕ}

section

variable (searching : Searching model session steps)
include searching

theorem Searching.fresh (next : session.queue[session.queueHead]? = some currentIndex) :
    session.visitedFlags currentIndex = false := by
  refine Bool.eq_false_iff.mpr fun again => ?_
  obtain ⟨inside, here⟩ := List.getElem?_eq_some_iff.mp next
  obtain ⟨place, before, same⟩ := List.mem_take_iff_getElem.mp ((searching.visited _).mp again)
  have equal := (searching.explored.nodup.getElem_inj_iff).mp (same.trans here.symm)
  omega

theorem Searching.head_lt (perfect : model.Perfect) : session.queueHead < session.queue.length := by
  by_contra exhausted
  have all := searching.explored.mem_of_reachable (not_lt.mp exhausted)
    (perfect.spanning.connected.preconnected model.startIndex model.goalIndex)
  have missing := searching.missing
  rw [List.take_of_length_le (not_lt.mp exhausted)] at missing
  exact missing all

theorem Searching.solve (perfect : model.Perfect) (here : model.goalIndex ∈ session.queue) :
    ∃ cells, ascend session.parents (width * height) (some model.goalIndex) = some cells ∧
      ∃ walk : model.passages.Walk model.startIndex model.goalIndex, walk.IsPath ∧
        walk.support = cells.reverse ∧
        ∀ other : model.passages.Walk model.startIndex model.goalIndex, other.IsPath →
          other = walk := by
  obtain ⟨walk, isPath, _, lineage⟩ := searching.explored.traced model.goalIndex here
  have short : walk.support.reverse.length ≤ width * height := by
    rw [List.length_reverse]
    exact isPath.support_nodup.length_le_card.trans (Fintype.card_fin _).le
  have top : walk.support.reverse.head? = some model.goalIndex := by
    rw [← SimpleGraph.Walk.support_reverse, ← SimpleGraph.Walk.cons_tail_support]
    rfl
  refine ⟨walk.support.reverse, top ▸ ascend_lineage lineage short, walk, isPath,
    (List.reverse_reverse _).symm, fun other isOther => ?_⟩
  exact (perfect.spanning.existsUnique_path _ _).unique isOther isPath

theorem Searching.advanceOneStep (perfect : model.Perfect) :
    ∃ after, session.advanceOneStep model = some after ∧
      (Searching model after (steps + 1) ∨ Solved model after) := by
  have inside := searching.head_lt perfect
  have next := List.getElem?_eq_getElem inside
  set currentIndex := session.queue[session.queueHead]
  have here : currentIndex ∈ session.queue := List.getElem_mem inside
  unfold MazeSolverSession.advanceOneStep
  rw [next]
  dsimp only
  split
  case isTrue isGoal =>
    rw [isGoal] at here ⊢
    obtain ⟨cells, ascends, walk, isPath, isSupport, unique⟩ := searching.solve perfect here
    unfold rebuildSolutionPath
    rw [ascends]
    exact ⟨_, rfl, .inr ⟨rfl, walk, isPath, isSupport, unique⟩⟩
  case isFalse elsewhere =>
    have front : session.queue.take (session.queueHead + 1) =
        session.queue.take session.queueHead ++ [currentIndex] := by
      rw [List.take_add_one, next]
      rfl
    have looking : Looking model { session with
        queueHead := session.queueHead + 1
        visitedFlags := Function.update session.visitedFlags currentIndex true }
        session.queueHead currentIndex [] := by
      refine ⟨searching.running, rfl, next, searching.explored, searching.enqueued,
        fun index => ?_, ?_, fun _ none => absurd none List.not_mem_nil⟩
      · dsimp only
        rw [front, List.mem_append, List.mem_singleton, MazeModel.update_true_iff,
          searching.visited]
        exact or_comm
      · dsimp only
        rw [front, List.mem_append, List.mem_singleton]
        exact not_or.mpr ⟨searching.missing, fun same => elsewhere same.symm⟩
    obtain ⟨after, looks, looking'⟩ := looking.foldlM perfect.symmetric MazeDirection.all
    rw [← searching.taken]
    exact ⟨after, looks, .inl (looking'.searching perfect.symmetric)⟩

/-! ## Runs -/

theorem Searching.advanceSteps (perfect : model.Perfect) (stepBudget : ℕ) :
    ∃ after, session.advanceSteps model stepBudget = some after ∧
      (Searching model after (steps + stepBudget) ∨ Solved model after) := by
  induction stepBudget generalizing session steps with
  | zero => exact ⟨session, rfl, .inl searching⟩
  | succ stepBudget ih =>
      unfold MazeSolverSession.advanceSteps
      rw [searching.running, if_neg Bool.false_ne_true]
      obtain ⟨middle, first, outcome⟩ := searching.advanceOneStep perfect
      rw [first, Option.bind_some]
      rcases outcome with searching' | solved
      · have rest := ih searching'
        rw [Nat.add_right_comm steps 1 stepBudget] at rest
        exact rest
      · refine ⟨middle, ?_, .inr solved⟩
        cases stepBudget with
        | zero => rfl
        | succ stepBudget => exact if_pos solved.1

end

theorem advance_spec (perfect : model.Perfect) (stepBudget : ℕ)
    (state : Searching model session steps ∨ Solved model session) :
    ∃ after, session.advance model stepBudget = some after ∧
      (Searching model after (steps + stepBudget) ∨ Solved model after) := by
  unfold advance
  rcases state with searching | solved
  · obtain ⟨after, advanced, outcome⟩ := searching.advanceSteps perfect stepBudget
    rw [searching.running, if_neg Bool.false_ne_true, advanced]
    refine ⟨_, rfl, ?_⟩
    dsimp only
    rcases outcome with searching' | solved
    · rw [searching'.running, if_neg Bool.false_ne_true]
      exact .inl ⟨searching'.running, searching'.explored, searching'.head_le,
        searching'.enqueued, searching'.visited, searching'.missing, searching'.taken⟩
    · rw [if_pos solved.1]
      exact .inr solved
  · rw [if_pos solved.1]
    exact ⟨session, rfl, .inr solved⟩

theorem foldlM_advance (perfect : model.Perfect) (stepBudgets : List ℕ)
    (state : Searching model session steps ∨ Solved model session) :
    ∃ after, stepBudgets.foldlM (advance model) session = some after ∧
      (Searching model after (steps + stepBudgets.sum) ∨ Solved model after) := by
  induction stepBudgets generalizing session steps with
  | nil => exact ⟨session, rfl, state⟩
  | cons stepBudget stepBudgets ih =>
      obtain ⟨middle, first, state'⟩ := advance_spec perfect stepBudget state
      obtain ⟨after, rest, state''⟩ := ih state'
      rw [Nat.add_assoc, ← List.sum_cons] at state''
      refine ⟨after, ?_, state''⟩
      rw [List.foldlM_cons, first]
      exact rest

theorem searching_start (model : MazeModel width height) : Searching model (start model) 0 := by
  refine ⟨rfl, .begin model.passages model.startIndex, Nat.zero_le _, fun index => ?_,
    fun index => iff_of_false Bool.false_ne_true List.not_mem_nil, List.not_mem_nil, rfl⟩
  unfold start rebuildFrontier
  rw [List.mem_singleton, MazeModel.update_true_iff]
  exact or_iff_left Bool.false_ne_true

/-- **Solving a maze.** In a perfect maze, after any budgets of steps, no assertion has failed, no
visited cell is visited again, the search is complete when there have been as many steps as cells,
and when it is complete the solution is the only simple path. -/
theorem solved (perfect : model.Perfect) (stepBudgets : List ℕ) :
    ∃ session, stepBudgets.foldlM (advance model) (start model) = some session ∧
      (width * height ≤ stepBudgets.sum → session.complete = true) ∧
      (session.complete = false → ∀ index, session.queue[session.queueHead]? = some index →
        session.visitedFlags index = false) ∧
      (session.complete = true → Solved model session) := by
  obtain ⟨session, runs, state⟩ := foldlM_advance perfect stepBudgets (.inl (searching_start model))
  refine ⟨session, runs, fun enough => ?_, fun running index next => ?_, fun complete => ?_⟩
  · rcases state with searching | solved
    · have inside := searching.head_lt perfect
      have most := searching.explored.nodup.length_le_card.trans (Fintype.card_fin _).le
      have taken := searching.taken
      omega
    · exact solved.1
  · rcases state with searching | solved
    · exact searching.fresh next
    · exact absurd (running.symm.trans solved.1) Bool.false_ne_true
  · rcases state with searching | solved
    · exact absurd (searching.running.symm.trans complete) Bool.false_ne_true
    · exact solved

end MazeSolverSession

theorem MazeModel.Perfect.setEndpoints {width height : ℕ} {model : MazeModel width height}
    (perfect : model.Perfect) (startIndex goalIndex : Fin (width * height)) :
    (model.setEndpoints startIndex goalIndex).Perfect := ⟨perfect.symmetric, perfect.spanning⟩

open MazeGeneratorSession MazeSolverSession

/-- **Perfect mazes, solved.** For every size, seed and budgets of steps a maze is complete from the
known number of steps on, and is perfect then; and whatever the endpoints and the budgets, its
search completes without a failed assertion, visits no cell again, and finds the only simple path. -/
theorem mazes_are_perfect_and_solved {G : Type} [SeededEngine G] {width height : ℕ}
    (nonempty : 0 < width * height) (seed : UInt32) (stepBudgets : List ℕ) :
    let session : MazeGeneratorSession G width height :=
      stepBudgets.foldl MazeGeneratorSession.advance
        (MazeGeneratorSession.start nonempty (.new nonempty) seed)
    (session.complete = true ↔ 2 * (width * height) - 1 ≤ stepBudgets.sum) ∧
      (session.complete = true → session.model.Perfect ∧
        ∀ (startIndex goalIndex : Fin (width * height)) (solverBudgets : List ℕ),
          let maze := session.model.setEndpoints startIndex goalIndex
          ∃ solver, solverBudgets.foldlM (MazeSolverSession.advance maze)
              (MazeSolverSession.start maze) = some solver ∧
            (width * height ≤ solverBudgets.sum → solver.complete = true) ∧
            (solver.complete = false → ∀ index, solver.queue[solver.queueHead]? = some index →
              solver.visitedFlags index = false) ∧
            (solver.complete = true → Solved maze solver)) := by
  intro session
  obtain ⟨complete_iff, perfect⟩ := generated (G := G) nonempty seed stepBudgets
  refine ⟨complete_iff, fun complete => ⟨perfect complete, ?_⟩⟩
  intro startIndex goalIndex solverBudgets maze
  exact solved ((perfect complete).setEndpoints startIndex goalIndex) solverBudgets

/-- An engine that always draws the least number. -/
scoped instance leastEngine : SeededEngine Unit where
  seeded _ := ()
  uniform _ last := (⟨0, Nat.succ_pos last⟩, ())

theorem four_cells : 0 < 2 * 2 := Nat.succ_pos 3

theorem mazes_are_perfect_and_solved_four :
    let session : MazeGeneratorSession Unit 2 2 :=
      [3, 4].foldl MazeGeneratorSession.advance
        (MazeGeneratorSession.start four_cells (.new four_cells) 0)
    session.complete = true ∧ session.model.Perfect := by
  intro session
  obtain ⟨complete_iff, perfect⟩ :=
    mazes_are_perfect_and_solved (G := Unit) four_cells 0 [3, 4]
  have complete := complete_iff.mpr (le_refl 7)
  exact ⟨complete, (perfect complete).1⟩

end DirtSim
