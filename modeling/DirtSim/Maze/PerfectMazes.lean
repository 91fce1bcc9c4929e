import DirtSim.Foundation.GraphSearch
import DirtSim.Maze.MazeModel

/-! # Mazes are perfect

While a maze is made, the visited cells and the passages between them are a tree, and a visited cell
that is not on the stack has no neighbour left to visit. Each step either visits one more cell or
leaves one for good, so that the number of steps is known, and at the end every cell has been visited
(`advance_spec`).
-/

namespace DirtSim

open Foundation

namespace MazeModel

variable {width height : ℕ}

/-! ## Coordinates -/

theorem coordForIndex_of_indexForCoord {coord : MazeCoord} {index : Fin (width * height)}
    (found : indexForCoord coord = some index) : coordForIndex index = coord := by
  unfold indexForCoord at found
  split at found
  case isTrue valid =>
    cases found
    obtain ⟨x, y⟩ := coord
    obtain ⟨x_nonneg, y_nonneg, x_lt, y_lt⟩ := valid
    lift x to ℕ using x_nonneg
    lift y to ℕ using y_nonneg
    have column : x < width := Int.ofNat_lt.mp x_lt
    have index : ((y : ℤ) * width + x).toNat = x + width * y := by
      rw [← Int.natCast_mul, ← Int.natCast_add, Int.toNat_natCast, Nat.add_comm, Nat.mul_comm]
    unfold coordForIndex
    dsimp only
    rw [index, Nat.add_mul_mod_self_left, Nat.mod_eq_of_lt column,
      Nat.add_mul_div_left _ _ (Nat.zero_lt_of_lt column), Nat.div_eq_of_lt column, Nat.zero_add]
  case isFalse => cases found

theorem width_pos (index : Fin (width * height)) : 0 < width :=
  Nat.pos_of_mul_pos_right (Nat.zero_lt_of_lt index.isLt)

theorem isValidCoord_coordForIndex (index : Fin (width * height)) :
    IsValidCoord width height (coordForIndex index) := by
  refine ⟨Int.natCast_nonneg _, Int.natCast_nonneg _, Int.ofNat_lt.mpr ?_, Int.ofNat_lt.mpr ?_⟩
  · exact Nat.mod_lt _ (width_pos index)
  · exact Nat.div_lt_of_lt_mul index.isLt

theorem val_eq (index : Fin (width * height)) :
    (index.val : ℤ) = (coordForIndex index).y * width + (coordForIndex index).x := by
  unfold coordForIndex
  rw [← Int.natCast_mul, ← Int.natCast_add, Nat.div_add_mod']

theorem indexForCoord_coordForIndex (index : Fin (width * height)) :
    indexForCoord (coordForIndex index) = some index := by
  unfold indexForCoord
  rw [dif_pos (isValidCoord_coordForIndex index)]
  refine congrArg some (Fin.ext ?_)
  dsimp only
  rw [← val_eq, Int.toNat_natCast]

theorem exists_neighbor {index : Fin (width * height)} {direction : MazeDirection}
    (valid : IsValidCoord width height (neighborCoord index direction)) :
    ∃ other, neighbor index direction = some other := by
  unfold neighbor indexForCoord
  rw [dif_pos valid]
  exact ⟨_, rfl⟩

theorem neighbor_eq_some_iff {index other : Fin (width * height)} {direction : MazeDirection} :
    neighbor index direction = some other ↔
      coordForIndex other = neighborCoord index direction := by
  constructor
  · exact coordForIndex_of_indexForCoord
  · intro same
    unfold neighbor
    rw [← same]
    exact indexForCoord_coordForIndex other

section

variable {index other : Fin (width * height)} {direction : MazeDirection}
  (next : neighbor index direction = some other)
include next

theorem neighbor_opposite : neighbor other direction.opposite = some index := by
  rw [neighbor_eq_some_iff] at next ⊢
  unfold neighborCoord at next ⊢
  rw [next]
  cases direction <;> simp [MazeDirection.delta, MazeDirection.opposite]

theorem neighbor_ne : index ≠ other := by
  rintro rfl
  rw [neighbor_eq_some_iff] at next
  unfold neighborCoord at next
  cases direction <;> simp [MazeDirection.delta, MazeCoord.ext_iff] at next

end

theorem update_true_iff {flags : Fin (width * height) → Bool} {index other : Fin (width * height)} :
    Function.update flags index true other = true ↔ other = index ∨ flags other = true := by
  by_cases same : other = index
  · rw [same, Function.update_self]
    exact iff_of_true rfl (.inl rfl)
  · rw [Function.update_of_ne same]
    exact (or_iff_right same).symm

theorem exists_neighbor_lt {index : Fin (width * height)} (later : 0 < index.val) :
    ∃ direction other, neighbor index direction = some other ∧ other.val < index.val := by
  have value := val_eq index
  have positive : (0 : ℤ) < width := Int.ofNat_lt.mpr (width_pos index)
  obtain ⟨x_nonneg, y_nonneg, x_lt, y_lt⟩ := isValidCoord_coordForIndex index
  have before {direction : MazeDirection}
      (valid : IsValidCoord width height (neighborCoord index direction))
      (less : direction.delta.2 * width + direction.delta.1 < 0) :
      ∃ direction other, neighbor index direction = some other ∧ other.val < index.val := by
    obtain ⟨other, next⟩ := exists_neighbor valid
    have value' := val_eq other
    rw [neighbor_eq_some_iff.mp next] at value'
    unfold neighborCoord at value'
    dsimp only at value'
    rw [Int.add_mul] at value'
    exact ⟨direction, other, next, by omega⟩
  by_cases inner : 0 < (coordForIndex index).x
  · have valid : IsValidCoord width height (neighborCoord index .west) := by
      unfold IsValidCoord neighborCoord MazeDirection.delta
      dsimp only
      omega
    exact before valid (show 0 * (width : ℤ) + -1 < 0 by omega)
  · have below : 0 < (coordForIndex index).y := by
      refine lt_of_le_of_ne y_nonneg fun top => ?_
      rw [← top, Int.zero_mul] at value
      omega
    have valid : IsValidCoord width height (neighborCoord index .north) := by
      unfold IsValidCoord neighborCoord MazeDirection.delta
      dsimp only
      omega
    exact before valid (show -1 * (width : ℤ) + 0 < 0 by omega)

theorem forall_of_closed {seen : Fin (width * height) → Prop}
    (closed : ∀ index direction other, seen index → neighbor index direction = some other →
      seen other) {first : Fin (width * height)} (isSeen : seen first)
    (index : Fin (width * height)) : seen index := by
  -- Seen cells lead back to the first one, and from there to all others.
  have same (value : ℕ) (bound : value < width * height) :
      seen ⟨value, bound⟩ ↔ seen ⟨0, Nat.zero_lt_of_lt bound⟩ := by
    induction value using Nat.strongRecOn with
    | ind value ih =>
        by_cases later : 0 < value
        · obtain ⟨direction, other, next, less⟩ := @exists_neighbor_lt width height ⟨value, bound⟩ later
          refine Iff.trans ⟨fun here => closed _ _ _ here next, fun there => ?_⟩
            (ih other.val less other.isLt)
          exact closed _ _ _ there (neighbor_opposite next)
        · obtain rfl := Nat.eq_zero_of_not_pos later
          exact Iff.rfl
  exact (same index.val index.isLt).mpr ((same first.val first.isLt).mp isSeen)

/-! ## Passages -/

section

variable {model : MazeModel width height}
variable {index other : Fin (width * height)}

theorem isOpen_iff (model : MazeModel width height) (index : Fin (width * height))
    (direction : MazeDirection) :
    model.IsOpen index direction ↔ (model.openings index).getLsbD direction.number = true := by
  have isBit : BitVec.twoPow 8 direction.number ≠ 0#8 := by cases direction <;> decide
  unfold IsOpen MazeDirection.bit
  rw [← BitVec.twoPow_eq, BitVec.and_twoPow]
  split
  case isTrue isSet => exact iff_of_true isBit isSet
  case isFalse unset => exact iff_of_false (fun other => other rfl) unset

theorem isOpen_new (nonempty : 0 < width * height) (index : Fin (width * height))
    (direction : MazeDirection) : ¬ (new nonempty).IsOpen index direction := by
  unfold IsOpen new
  rw [BitVec.zero_and]
  exact fun other => other rfl

theorem isOpen_addOpening (index other : Fin (width * height))
    (direction otherDirection : MazeDirection) :
    (model.addOpening index direction).IsOpen other otherDirection ↔
      model.IsOpen other otherDirection ∨ (other = index ∧ otherDirection = direction) := by
  rw [isOpen_iff, isOpen_iff]
  unfold addOpening
  dsimp only
  by_cases same : other = index
  · subst same
    have added : direction.bit.getLsbD otherDirection.number = true ↔
        otherDirection = direction := by
      cases direction <;> cases otherDirection <;> decide
    rw [Function.update_self, BitVec.getLsbD_or, Bool.or_eq_true, added]
    exact or_congr_right (and_iff_right rfl).symm
  · rw [Function.update_of_ne same]
    exact (or_iff_left fun both => same both.1).symm

def Leads (model : MazeModel width height) (index other : Fin (width * height)) : Prop :=
  ∃ direction, model.IsOpen index direction ∧ neighbor index direction = some other

/-- Every opening leads to a cell of the grid, which has the opening back. -/
def Symmetric (model : MazeModel width height) : Prop :=
  ∀ index direction, model.IsOpen index direction →
    ∃ other, neighbor index direction = some other ∧ model.IsOpen other direction.opposite

/-- The cells, with an edge wherever there is an opening. -/
def passages (model : MazeModel width height) : SimpleGraph (Fin (width * height)) :=
  SimpleGraph.fromRel model.Leads

/-- The openings are passages in the grid, and the passages are a spanning tree. -/
structure Perfect (model : MazeModel width height) : Prop where
  symmetric : model.Symmetric
  spanning : model.passages.IsTree

theorem Symmetric.leads_symm (symmetric : model.Symmetric) (leads : model.Leads index other) :
    model.Leads other index := by
  obtain ⟨direction, isOpen, next⟩ := leads
  obtain ⟨other', next', back⟩ := symmetric index direction isOpen
  obtain rfl := Option.some.inj (next.symm.trans next')
  exact ⟨direction.opposite, back, neighbor_opposite next⟩

theorem Leads.ne (leads : model.Leads index other) : index ≠ other := by
  obtain ⟨direction, _, next⟩ := leads
  exact neighbor_ne next

theorem Symmetric.adj_iff (symmetric : model.Symmetric) :
    model.passages.Adj index other ↔ model.Leads index other := by
  unfold passages
  rw [SimpleGraph.fromRel_adj]
  constructor
  · rintro ⟨_, leads | leads⟩
    · exact leads
    · exact symmetric.leads_symm leads
  · intro leads
    exact ⟨leads.ne, .inl leads⟩

theorem symmetric_new (nonempty : 0 < width * height) : (new nonempty).Symmetric :=
  fun index direction isOpen => absurd isOpen (isOpen_new nonempty index direction)

theorem passages_new (nonempty : 0 < width * height) : (new nonempty).passages = ⊥ := by
  ext index other
  rw [(symmetric_new nonempty).adj_iff, SimpleGraph.bot_adj, iff_false]
  rintro ⟨direction, isOpen, _⟩
  exact isOpen_new nonempty index direction isOpen

section

variable {index other : Fin (width * height)} {direction : MazeDirection}

theorem opposite_opposite (direction : MazeDirection) : direction.opposite.opposite = direction := by
  cases direction <;> rfl

theorem Symmetric.openPassage (symmetric : model.Symmetric)
    (next : neighbor index direction = some other) :
    ((model.addOpening index direction).addOpening other direction.opposite).Symmetric := by
  intro third thirdDirection isOpen
  simp only [isOpen_addOpening] at isOpen ⊢
  rcases isOpen with (before | ⟨rfl, rfl⟩) | ⟨rfl, rfl⟩
  · obtain ⟨fourth, next', back⟩ := symmetric third thirdDirection before
    exact ⟨fourth, next', .inl (.inl back)⟩
  · exact ⟨other, next, .inr ⟨rfl, rfl⟩⟩
  · refine ⟨index, neighbor_opposite next, .inl (.inr ⟨rfl, opposite_opposite direction⟩)⟩

theorem Symmetric.passages_openPassage (symmetric : model.Symmetric)
    (next : neighbor index direction = some other) :
    ((model.addOpening index direction).addOpening other direction.opposite).passages =
      model.passages ⊔ SimpleGraph.edge index other := by
  ext third fourth
  rw [(symmetric.openPassage next).adj_iff, SimpleGraph.sup_adj, symmetric.adj_iff,
    SimpleGraph.edge_adj]
  unfold Leads
  simp only [isOpen_addOpening]
  constructor
  · rintro ⟨way, (before | ⟨rfl, rfl⟩) | ⟨rfl, rfl⟩, next'⟩
    · exact .inl ⟨way, before, next'⟩
    · obtain rfl := Option.some.inj (next.symm.trans next')
      exact .inr ⟨.inl ⟨rfl, rfl⟩, neighbor_ne next⟩
    · obtain rfl := Option.some.inj ((neighbor_opposite next).symm.trans next')
      exact .inr ⟨.inr ⟨rfl, rfl⟩, (neighbor_ne next).symm⟩
  · rintro (⟨way, before, next'⟩ | ⟨⟨rfl, rfl⟩ | ⟨rfl, rfl⟩, _⟩)
    · exact ⟨way, .inl (.inl before), next'⟩
    · exact ⟨direction, .inl (.inr ⟨rfl, rfl⟩), next⟩
    · exact ⟨direction.opposite, .inr ⟨rfl, rfl⟩, neighbor_opposite next⟩

end

end

end MazeModel

namespace MazeGeneratorSession

/-! ## Making a maze -/

variable {G : Type} {width height : ℕ} {session : MazeGeneratorSession G width height} {steps : ℕ}

theorem mem_collectUnvisitedNeighbors {index other : Fin (width * height)}
    {direction : MazeDirection} :
    (direction, other) ∈ session.collectUnvisitedNeighbors index ↔
      MazeModel.neighbor index direction = some other ∧ session.visitedFlags other = false := by
  unfold collectUnvisitedNeighbors
  rw [List.mem_filterMap]
  constructor
  · rintro ⟨way, _, found⟩
    cases next : MazeModel.neighbor index way with
    | none =>
        rw [next] at found
        cases found
    | some neighborIndex =>
        rw [next] at found
        dsimp only at found
        split at found
        case isTrue => cases found
        case isFalse unvisited =>
          cases found
          exact ⟨next, Bool.eq_false_of_not_eq_true unvisited⟩
  · rintro ⟨next, unvisited⟩
    refine ⟨direction, direction.mem_all, ?_⟩
    rw [next]
    exact if_neg (Bool.not_eq_true _ ▸ unvisited)

/-- A maze that is being made, after a number of steps: each cell has taken a step to be visited,
and another one if it has been left. -/
structure Growing (session : MazeGeneratorSession G width height) (steps : ℕ) : Prop where
  running : session.complete = false
  symmetric : session.model.Symmetric
  tree : TreeOn session.model.passages {index | session.visitedFlags index = true}
  unfinished : session.stack ≠ []
  stacked : ∀ index ∈ session.stack, session.visitedFlags index = true
  left : ∀ index, session.visitedFlags index = true → index ∉ session.stack →
    ∀ direction other, MazeModel.neighbor index direction = some other →
      session.visitedFlags other = true
  counted : session.visitedCount =
    (Finset.univ.filter fun index => session.visitedFlags index = true).card
  taken : steps + session.stack.length + 1 = 2 * session.visitedCount

section

variable (growing : Growing session steps)
include growing

theorem Growing.visitedCount_le : session.visitedCount ≤ width * height := by
  rw [growing.counted]
  exact (Finset.card_le_univ _).trans (Fintype.card_fin _).le

theorem Growing.visit {currentIndex choice : Fin (width * height)}
    {below : List (Fin (width * height))} (stack : session.stack = currentIndex :: below)
    {direction : MazeDirection} (next : MazeModel.neighbor currentIndex direction = some choice)
    (unvisited : session.visitedFlags choice = false) (rng : G) :
    Growing ({ session with
      rng := rng
      model := (session.model.addOpening currentIndex direction).addOpening choice
        direction.opposite
      visitedFlags := Function.update session.visitedFlags choice true
      visitedCount := session.visitedCount + 1
      stack := choice :: session.stack
      activeCellIndex := some choice } : MazeGeneratorSession G width height) (steps + 1) := by
  have isVisited : session.visitedFlags currentIndex = true :=
    growing.stacked currentIndex (stack ▸ List.mem_cons_self)
  have visited : {index | Function.update session.visitedFlags choice true index = true} =
      insert choice {index | session.visitedFlags index = true} :=
    Set.ext fun _ => MazeModel.update_true_iff
  have fresh : choice ∉ {index | session.visitedFlags index = true} := by
    intro there
    exact Bool.false_ne_true (unvisited.symm.trans there)
  refine ⟨growing.running, growing.symmetric.openPassage next, ?_, List.cons_ne_nil _ _,
    fun index listed => ?_, fun index isVisited' gone way other next' => ?_, ?_, ?_⟩
  · dsimp only
    rw [growing.symmetric.passages_openPassage next, visited]
    exact growing.tree.grow isVisited fresh
  · refine MazeModel.update_true_iff.mpr ?_
    exact (List.mem_cons.mp listed).imp_right (growing.stacked index)
  · refine MazeModel.update_true_iff.mpr (.inr ?_)
    have elsewhere := not_or.mp (mt List.mem_cons.mpr gone)
    have before := (MazeModel.update_true_iff.mp isVisited').resolve_left elsewhere.1
    exact growing.left index before elsewhere.2 way other next'
  · have more : (Finset.univ.filter fun index =>
        Function.update session.visitedFlags choice true index = true) =
          insert choice (Finset.univ.filter fun index => session.visitedFlags index = true) := by
      ext index
      simp [MazeModel.update_true_iff]
    rw [more, Finset.card_insert_of_notMem, growing.counted]
    simp only [Finset.mem_filter, Finset.mem_univ, true_and]
    exact fresh
  · have taken := growing.taken
    dsimp only
    rw [List.length_cons]
    omega

theorem Growing.leave {currentIndex : Fin (width * height)} {below : List (Fin (width * height))}
    (stack : session.stack = currentIndex :: below)
    (done : ∀ direction other, MazeModel.neighbor currentIndex direction = some other →
      session.visitedFlags other = true) (index : Fin (width * height))
    (isVisited : session.visitedFlags index = true) (gone : index ∉ below)
    (direction : MazeDirection) (other : Fin (width * height))
    (next : MazeModel.neighbor index direction = some other) :
    session.visitedFlags other = true := by
  by_cases same : index = currentIndex
  · exact done direction other (same ▸ next)
  · refine growing.left index isVisited ?_ direction other next
    rw [stack]
    exact mt List.mem_cons.mp (not_or.mpr ⟨same, gone⟩)

theorem Growing.finish {currentIndex : Fin (width * height)}
    (stack : session.stack = [currentIndex])
    (done : ∀ direction other, MazeModel.neighbor currentIndex direction = some other →
      session.visitedFlags other = true) :
    session.model.Perfect ∧ steps + 2 = 2 * (width * height) := by
  have left := growing.leave stack done
  have here := growing.stacked currentIndex (stack ▸ List.mem_cons_self)
  have all : ∀ index, session.visitedFlags index = true :=
    MazeModel.forall_of_closed (fun index direction other isVisited next =>
      left index isVisited List.not_mem_nil direction other next) here
  refine ⟨⟨growing.symmetric, growing.tree.isTree currentIndex all⟩, ?_⟩
  have counted := growing.counted
  rw [Finset.filter_true_of_mem fun index _ => all index, Finset.card_univ, Fintype.card_fin]
    at counted
  have taken := growing.taken
  rw [stack, counted] at taken
  exact taken

end

variable [SeededEngine G]

theorem Growing.advanceOneStep (growing : Growing session steps) :
    Growing session.advanceOneStep (steps + 1) ∨
      (session.advanceOneStep.complete = true ∧ session.advanceOneStep.model.Perfect ∧
        steps + 2 = 2 * (width * height)) := by
  unfold MazeGeneratorSession.advanceOneStep
  split
  case h_1 empty => exact absurd empty growing.unfinished
  case h_2 currentIndex below stack =>
    split
    case h_1 none =>
      have done (direction : MazeDirection) (other : Fin (width * height))
          (next : MazeModel.neighbor currentIndex direction = some other) :
          session.visitedFlags other = true := by
        by_contra unvisited
        have listed := mem_collectUnvisitedNeighbors.mpr
          ⟨next, Bool.eq_false_of_not_eq_true unvisited⟩
        rw [none] at listed
        exact List.not_mem_nil listed
      split
      case h_1 => exact .inr ⟨rfl, growing.finish stack done⟩
      case h_2 back rest =>
        refine .inl ⟨growing.running, growing.symmetric, growing.tree, List.cons_ne_nil _ _,
          fun index listed => ?_, growing.leave stack done, growing.counted, ?_⟩
        · exact growing.stacked index (stack ▸ List.mem_cons_of_mem _ listed)
        · have taken := growing.taken
          rw [stack, List.length_cons] at taken
          dsimp only
          omega
    case h_2 first others choices =>
      left
      set drawn := SeededEngine.uniform session.rng others.length
      have listed : (first :: others).get drawn.1 ∈
          session.collectUnvisitedNeighbors currentIndex := by
        rw [choices]
        exact List.get_mem _ _
      obtain ⟨next, unvisited⟩ := mem_collectUnvisitedNeighbors.mp listed
      exact growing.visit stack next unvisited drawn.2

theorem growing_start (nonempty : 0 < width * height) (seed : UInt32) :
    Growing (start nonempty (.new nonempty) seed : MazeGeneratorSession G width height) 0 := by
  unfold start
  dsimp only
  set active := Fin.cast (pred_succ nonempty)
    (SeededEngine.uniform (SeededEngine.seeded seed : G) (width * height - 1)).1
  have visited_iff (index : Fin (width * height)) :
      Function.update (fun _ => false) active true index = true ↔ index = active := by
    rw [MazeModel.update_true_iff]
    exact or_iff_left Bool.false_ne_true
  refine ⟨rfl, MazeModel.symmetric_new nonempty, ?_, List.cons_ne_nil _ _, fun index listed => ?_,
    fun index isVisited gone => ?_, ?_, rfl⟩
  · dsimp only
    rw [MazeModel.passages_new, show {index | Function.update (fun _ => false) active true index =
      true} = {active} from Set.ext visited_iff]
    exact .singleton active
  · exact (visited_iff index).mpr (List.mem_singleton.mp listed)
  · exact absurd (List.mem_singleton.mpr ((visited_iff index).mp isVisited)) gone
  · dsimp only
    simp [visited_iff, Finset.filter_eq']

theorem advance_of_complete (complete : session.complete = true) (stepBudget : ℕ) :
    session.advance stepBudget = session := by
  cases stepBudget with
  | zero => rfl
  | succ stepBudget => exact if_pos complete

theorem advance_succ (running : ¬ session.complete = true) (stepBudget : ℕ) :
    session.advance (stepBudget + 1) = session.advanceOneStep.advance stepBudget :=
  if_neg running

theorem advance_spec (growing : Growing session steps) (stepBudget : ℕ) :
    Growing (session.advance stepBudget) (steps + stepBudget) ∨
      ((session.advance stepBudget).complete = true ∧ (session.advance stepBudget).model.Perfect ∧
        2 * (width * height) ≤ steps + stepBudget + 1) := by
  induction stepBudget generalizing session steps with
  | zero => exact .inl growing
  | succ stepBudget ih =>
      rw [advance_succ (Bool.eq_false_iff.mp growing.running)]
      rcases growing.advanceOneStep with grows | ⟨complete, perfect, taken⟩
      · have rest := ih grows
        rw [Nat.add_right_comm steps 1 stepBudget] at rest
        exact rest
      · rw [advance_of_complete complete]
        exact .inr ⟨complete, perfect, by omega⟩

theorem advance_add (session : MazeGeneratorSession G width height) (first second : ℕ) :
    (session.advance first).advance second = session.advance (first + second) := by
  induction first generalizing session with
  | zero =>
      rw [Nat.zero_add]
      rfl
  | succ first ih =>
      by_cases complete : session.complete = true
      · simp [advance_of_complete complete]
      · rw [Nat.add_right_comm, advance_succ complete, advance_succ complete, ih]

theorem foldl_advance (session : MazeGeneratorSession G width height) (stepBudgets : List ℕ) :
    stepBudgets.foldl advance session = session.advance stepBudgets.sum := by
  induction stepBudgets generalizing session with
  | nil => rfl
  | cons stepBudget stepBudgets ih => rw [List.foldl_cons, ih, advance_add, List.sum_cons]

/-- **Making a maze.** After any budgets of steps the maze is complete if and only if one step less
than twice as many as there are cells were allowed, and then it is perfect. -/
theorem generated (nonempty : 0 < width * height) (seed : UInt32) (stepBudgets : List ℕ) :
    let session : MazeGeneratorSession G width height :=
      stepBudgets.foldl advance (start nonempty (.new nonempty) seed)
    (session.complete = true ↔ 2 * (width * height) - 1 ≤ stepBudgets.sum) ∧
      (session.complete = true → session.model.Perfect) := by
  rw [foldl_advance]
  rcases advance_spec (growing_start (G := G) nonempty seed) stepBudgets.sum with
    grows | ⟨complete, perfect, taken⟩
  · have unfinished := List.length_pos_iff.mpr grows.unfinished
    have taken := grows.taken
    have most := grows.visitedCount_le
    refine ⟨iff_of_false ?_ (by omega), fun complete => ?_⟩
    · rw [grows.running]
      exact Bool.false_ne_true
    · rw [grows.running] at complete
      exact absurd complete Bool.false_ne_true
  · exact ⟨iff_of_true complete (by omega), fun _ => perfect⟩

end MazeGeneratorSession

end DirtSim
