import Mathlib.Data.Fin.Basic
import Mathlib.Logic.Function.Basic
import Mathlib.Tactic.Common

/-! # Mazes

A maze is made by walking from cell to cell at random, and back where all neighbours have been
visited, and it is solved by a breadth-first search. Indexes are not limited in size. Where the
source would stop at an assertion there is no result.
-/

namespace DirtSim

inductive MazeDirection
  | north | east | south | west
deriving DecidableEq, Repr

namespace MazeDirection

def number : MazeDirection → ℕ
  | north => 0
  | east => 1
  | south => 2
  | west => 3

def all : List MazeDirection := [north, east, south, west]

def bit (direction : MazeDirection) : BitVec 8 := 1#8 <<< direction.number

def delta : MazeDirection → ℤ × ℤ
  | north => (0, -1)
  | east => (1, 0)
  | south => (0, 1)
  | west => (-1, 0)

def opposite : MazeDirection → MazeDirection
  | north => south
  | east => west
  | south => north
  | west => east

theorem mem_all (direction : MazeDirection) : direction ∈ all := by cases direction <;> decide

end MazeDirection

@[ext] structure MazeCoord where
  x : ℤ
  y : ℤ
deriving DecidableEq, Repr

structure MazeModel (width height : ℕ) where
  openings : Fin (width * height) → BitVec 8
  startIndex : Fin (width * height)
  goalIndex : Fin (width * height)

namespace MazeModel

variable {width height : ℕ}

theorem pred_lt {count : ℕ} (nonempty : 0 < count) : count - 1 < count := Nat.pred_lt nonempty.ne'

def new (nonempty : 0 < width * height) : MazeModel width height where
  openings _ := 0#8
  startIndex := ⟨0, nonempty⟩
  goalIndex := ⟨width * height - 1, pred_lt nonempty⟩

def coordForIndex (index : Fin (width * height)) : MazeCoord where
  x := (index.val % width : ℕ)
  y := (index.val / width : ℕ)

variable (width height) in
def IsValidCoord (coord : MazeCoord) : Prop :=
  0 ≤ coord.x ∧ 0 ≤ coord.y ∧ coord.x < width ∧ coord.y < height

instance (coord : MazeCoord) : Decidable (IsValidCoord width height coord) :=
  inferInstanceAs (Decidable (_ ∧ _ ∧ _ ∧ _))

theorem index_lt {coord : MazeCoord} (valid : IsValidCoord width height coord) :
    (coord.y * width + coord.x).toNat < width * height := by
  obtain ⟨x, y⟩ := coord
  obtain ⟨x_nonneg, y_nonneg, x_lt, y_lt⟩ := valid
  lift x to ℕ using x_nonneg
  lift y to ℕ using y_nonneg
  have column : x < width := Int.ofNat_lt.mp x_lt
  have row : y + 1 ≤ height := Int.ofNat_lt.mp y_lt
  have index : ((y : ℤ) * width + x).toNat = y * width + x := by
    rw [← Int.natCast_mul, ← Int.natCast_add, Int.toNat_natCast]
  have later := Nat.mul_le_mul_right width row
  rw [Nat.succ_mul, Nat.mul_comm height width] at later
  rw [index]
  exact (Nat.add_lt_add_left column _).trans_le later

def indexForCoord (coord : MazeCoord) : Option (Fin (width * height)) :=
  if valid : IsValidCoord width height coord then
    some ⟨(coord.y * width + coord.x).toNat, index_lt valid⟩
  else none

def neighborCoord (index : Fin (width * height)) (direction : MazeDirection) : MazeCoord where
  x := (coordForIndex index).x + direction.delta.1
  y := (coordForIndex index).y + direction.delta.2

def neighbor (index : Fin (width * height)) (direction : MazeDirection) :
    Option (Fin (width * height)) := indexForCoord (neighborCoord index direction)

def IsOpen (model : MazeModel width height) (index : Fin (width * height))
    (direction : MazeDirection) : Prop := model.openings index &&& direction.bit ≠ 0#8

instance (model : MazeModel width height) (index : Fin (width * height))
    (direction : MazeDirection) : Decidable (model.IsOpen index direction) :=
  inferInstanceAs (Decidable (_ ≠ _))

def addOpening (model : MazeModel width height) (index : Fin (width * height))
    (direction : MazeDirection) : MazeModel width height :=
  { model with
    openings := Function.update model.openings index (model.openings index ||| direction.bit) }

def setEndpoints (model : MazeModel width height) (startIndex goalIndex : Fin (width * height)) :
    MazeModel width height := { model with startIndex := startIndex, goalIndex := goalIndex }

end MazeModel

/-! ## Making a maze -/

/-- A random number engine, and uniform draws of numbers up to a largest one. -/
class SeededEngine (G : Type) where
  seeded : UInt32 → G
  uniform : G → (last : ℕ) → Fin (last + 1) × G

structure MazeGeneratorSession (G : Type) (width height : ℕ) where
  activeCellIndex : Option (Fin (width * height))
  complete : Bool := false
  model : MazeModel width height
  rng : G
  stack : List (Fin (width * height))
  visitedFlags : Fin (width * height) → Bool
  visitedCount : ℕ

namespace MazeGeneratorSession

variable {G : Type} {width height : ℕ}

section

variable [SeededEngine G]

theorem pred_succ {count : ℕ} (nonempty : 0 < count) : count - 1 + 1 = count :=
  Nat.sub_add_cancel nonempty

def start (nonempty : 0 < width * height) (model : MazeModel width height) (seed : UInt32) :
    MazeGeneratorSession G width height :=
  let drawn := SeededEngine.uniform (SeededEngine.seeded seed : G) (width * height - 1)
  let active := Fin.cast (pred_succ nonempty) drawn.1
  { activeCellIndex := some active
    model := model
    rng := drawn.2
    stack := [active]
    visitedFlags := Function.update (fun _ => false) active true
    visitedCount := 1 }

end

def collectUnvisitedNeighbors (session : MazeGeneratorSession G width height)
    (index : Fin (width * height)) : List (MazeDirection × Fin (width * height)) :=
  MazeDirection.all.filterMap fun direction =>
    match MazeModel.neighbor index direction with
    | none => none
    | some neighborIndex =>
        if session.visitedFlags neighborIndex then none else some (direction, neighborIndex)

def openPassage (session : MazeGeneratorSession G width height) (fromIndex : Fin (width * height))
    (direction : MazeDirection) (toIndex : Fin (width * height)) :
    MazeGeneratorSession G width height :=
  { session with
    model := (session.model.addOpening fromIndex direction).addOpening toIndex direction.opposite }

section

variable [SeededEngine G]

def advanceOneStep (session : MazeGeneratorSession G width height) :
    MazeGeneratorSession G width height :=
  match session.stack with
  | [] => { session with complete := true, activeCellIndex := none }
  | currentIndex :: below =>
      match session.collectUnvisitedNeighbors currentIndex with
      | [] =>
          match below with
          | [] => { session with stack := [], complete := true, activeCellIndex := none }
          | back :: _ => { session with stack := below, activeCellIndex := some back }
      | first :: others =>
          let drawn := SeededEngine.uniform session.rng others.length
          let choice := (first :: others).get drawn.1
          let opened := { session with rng := drawn.2 }.openPassage currentIndex choice.1 choice.2
          { opened with
            visitedFlags := Function.update session.visitedFlags choice.2 true
            visitedCount := session.visitedCount + 1
            stack := choice.2 :: session.stack
            activeCellIndex := some choice.2 }

def advance (session : MazeGeneratorSession G width height) :
    ℕ → MazeGeneratorSession G width height
  | 0 => session
  | stepBudget + 1 =>
      if session.complete then session else session.advanceOneStep.advance stepBudget

end

end MazeGeneratorSession

/-! ## Solving a maze -/

structure MazeSolverSession (width height : ℕ) where
  complete : Bool := false
  frontier : List (Fin (width * height)) := []
  frontierFlags : Fin (width * height) → Bool := fun _ => false
  enqueuedFlags : Fin (width * height) → Bool := fun _ => false
  parents : Fin (width * height) → Option (Fin (width * height)) := fun _ => none
  queueHead : ℕ := 0
  queue : List (Fin (width * height)) := []
  solutionPath : List (Fin (width * height)) := []
  visitedFlags : Fin (width * height) → Bool := fun _ => false

namespace MazeSolverSession

variable {width height : ℕ}

def clearFrontier (session : MazeSolverSession width height) : MazeSolverSession width height :=
  { session with frontier := [], frontierFlags := fun _ => false }

def rebuildFrontier (session : MazeSolverSession width height) : MazeSolverSession width height :=
  let frontier := session.queue.drop session.queueHead
  { session with
    frontier := frontier
    frontierFlags := fun index => decide (index ∈ frontier) }

def start (model : MazeModel width height) : MazeSolverSession width height :=
  rebuildFrontier
    { queue := [model.startIndex]
      enqueuedFlags := Function.update (fun _ => false) model.startIndex true }

/-- The cells from one up to the first, each the parent of the one before it. The source has no
limit for their number. -/
def ascend (parents : Fin (width * height) → Option (Fin (width * height))) :
    ℕ → Option (Fin (width * height)) → Option (List (Fin (width * height)))
  | _, none => some []
  | 0, some _ => none
  | limit + 1, some currentIndex =>
      (ascend parents limit (parents currentIndex)).map (currentIndex :: ·)

def rebuildSolutionPath (session : MazeSolverSession width height)
    (goalIndex : Fin (width * height)) : Option (MazeSolverSession width height) :=
  (ascend session.parents (width * height) (some goalIndex)).map fun cells =>
    { session with solutionPath := cells.reverse }

def look (model : MazeModel width height) (currentIndex : Fin (width * height))
    (session : MazeSolverSession width height) (direction : MazeDirection) :
    Option (MazeSolverSession width height) :=
  if ¬ model.IsOpen currentIndex direction then some session
  else
    match MazeModel.neighbor currentIndex direction with
    | none => none
    | some neighborIndex =>
        if session.enqueuedFlags neighborIndex then some session
        else some { session with
          enqueuedFlags := Function.update session.enqueuedFlags neighborIndex true
          parents := Function.update session.parents neighborIndex (some currentIndex)
          queue := session.queue ++ [neighborIndex] }

def advanceOneStep (model : MazeModel width height) (session : MazeSolverSession width height) :
    Option (MazeSolverSession width height) :=
  match session.queue[session.queueHead]? with
  | none => some { session.clearFrontier with complete := true }
  | some currentIndex =>
      let visiting := { session with
        queueHead := session.queueHead + 1
        visitedFlags := Function.update session.visitedFlags currentIndex true }
      if currentIndex = model.goalIndex then
        (visiting.rebuildSolutionPath currentIndex).map fun solved =>
          { solved.clearFrontier with complete := true }
      else MazeDirection.all.foldlM (look model currentIndex) visiting

def advanceSteps (model : MazeModel width height) (session : MazeSolverSession width height) :
    ℕ → Option (MazeSolverSession width height)
  | 0 => some session
  | stepBudget + 1 =>
      if session.complete then some session
      else (session.advanceOneStep model).bind fun next => next.advanceSteps model stepBudget

def advance (model : MazeModel width height) (session : MazeSolverSession width height)
    (stepBudget : ℕ) : Option (MazeSolverSession width height) :=
  if session.complete then some session
  else (session.advanceSteps model stepBudget).map fun advanced =>
    if advanced.complete then advanced else advanced.rebuildFrontier

end MazeSolverSession

end DirtSim
