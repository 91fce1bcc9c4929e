import DirtSim.Foundation.Crew
import DirtSim.Training.ExpectedResults

/-! # The evaluation executor

Workers take evaluations from one queue and hand the results back through two. A worker's phase says
where it is in the code; what it does between two phases is one access to what the threads share. A
wait on a condition variable is spelled out.
-/

namespace DirtSim

open Foundation

/-- An evaluation in the queue. The number counts what was submitted before it; only statements
about the executor read it. -/
structure QueuedEvaluation where
  number : ℕ
  request : EvaluationRequest

/-- An evaluation with its result. -/
structure FinishedEvaluation (F : Type) where
  queued : QueuedEvaluation
  totalFitness : F

def FinishedEvaluation.completed {F : Type} (finished : FinishedEvaluation F) :
    CompletedEvaluation F :=
  finished.queued.request.completed finished.totalFitness

/-- What the workers and the thread of the state machine share. The active handle is named by the
number of the evaluation that claimed it. -/
structure EvaluationExecutor (F : Type) where
  taskQueue : List QueuedEvaluation
  taskMutexHeld : Bool
  resultQueue : List (FinishedEvaluation F)
  paused : Bool
  pauseMutexHeld : Bool
  stopRequested : Bool
  allowedConcurrency : ℤ
  activeEvaluations : ℤ
  activeHandle : Option ℕ
  visibleCompleted : List (FinishedEvaluation F)

/-- Where a worker is in a pass of an evaluation. -/
inductive PassStage
  /-- At the condition of the loop. -/
  | loopTop
  /-- Evaluating the predicate of the pause, with `pauseMutex`. -/
  | checkingPause
  /-- The predicate was false; `pauseMutex` is not released yet. -/
  | pauseDeclined
  | pauseBlocked
  | pauseWoken
  /-- Past the pause. -/
  | stepping
  /-- The runner is done. -/
  | passed

/-- Where a worker is. -/
inductive WorkerPhase (F : Type)
  | looping
  /-- Evaluating the predicate of `taskCv`, with `taskMutex`. -/
  | evaluating
  /-- `stopRequested` was read as false. -/
  | consulting
  /-- The queue was not empty, and so many evaluations were active. -/
  | counted (active : ℤ)
  /-- The predicate was false; `taskMutex` is not released yet. -/
  | declined
  | blocked
  | woken
  /-- The predicate was true at this limit. -/
  | admitted (limit : ℤ)
  /-- The predicate was true for `stopRequested`. -/
  | leaving
  | taken (queued : QueuedEvaluation)
  | running (stage : PassStage) (queued : QueuedEvaluation) (visible : Bool)
  | finishing (finished : FinishedEvaluation F) (visible : Bool)
  | delivering (finished : FinishedEvaluation F)
  | returning (result : Option (FinishedEvaluation F))
  | decremented (result : Option (FinishedEvaluation F))
  | notified (result : Option (FinishedEvaluation F))
  | publishing (finished : FinishedEvaluation F)
  | exited

/-- The passes of an evaluation look at `stopRequested` here. -/
def PassStage.checksStop : PassStage → Bool
  | .loopTop | .stepping | .passed => true
  | .checkingPause | .pauseDeclined | .pauseBlocked | .pauseWoken => false

namespace EvaluationExecutor

variable {F : Type}

def lockTask (executor : EvaluationExecutor F) : EvaluationExecutor F :=
  { executor with taskMutexHeld := true }

def unlockTask (executor : EvaluationExecutor F) : EvaluationExecutor F :=
  { executor with taskMutexHeld := false }

def lockPause (executor : EvaluationExecutor F) : EvaluationExecutor F :=
  { executor with pauseMutexHeld := true }

def unlockPause (executor : EvaluationExecutor F) : EvaluationExecutor F :=
  { executor with pauseMutexHeld := false }

/-- Taking an evaluation off the queue; `taskMutex` is released at the end of the block. -/
def take (executor : EvaluationExecutor F) (rest : List QueuedEvaluation) :
    EvaluationExecutor F :=
  { executor with
    taskQueue := rest
    activeEvaluations := executor.activeEvaluations + 1
    taskMutexHeld := false }

def visibleEvaluationClaim (executor : EvaluationExecutor F) (queued : QueuedEvaluation) :
    EvaluationExecutor F :=
  { executor with activeHandle := some queued.number }

def visibleEvaluationRelease (executor : EvaluationExecutor F) (queued : QueuedEvaluation)
    (visible : Bool) : EvaluationExecutor F :=
  { executor with
    activeHandle :=
      if visible = true ∧ executor.activeHandle = some queued.number then none
      else executor.activeHandle }

def visibleEvaluationComplete (executor : EvaluationExecutor F)
    (finished : FinishedEvaluation F) : EvaluationExecutor F :=
  { executor.visibleEvaluationRelease finished.queued true with
    visibleCompleted := executor.visibleCompleted ++ [finished] }

def decrement (executor : EvaluationExecutor F) : EvaluationExecutor F :=
  { executor with activeEvaluations := executor.activeEvaluations - 1 }

def publish (executor : EvaluationExecutor F) (finished : FinishedEvaluation F) :
    EvaluationExecutor F :=
  { executor with resultQueue := executor.resultQueue ++ [finished] }

end EvaluationExecutor

section

variable {F : Type}

open EvaluationExecutor

/-- What a worker does next by itself. `notify_one` is a step of the whole system. -/
inductive WorkerMove (executor : EvaluationExecutor F) :
    WorkerPhase F → EvaluationExecutor F → WorkerPhase F → Prop
  | lock (free : executor.taskMutexHeld = false) :
      WorkerMove executor .looping executor.lockTask .evaluating
  | relock (free : executor.taskMutexHeld = false) :
      WorkerMove executor .woken executor.lockTask .evaluating
  | seeStop (stop : executor.stopRequested = true) :
      WorkerMove executor .evaluating executor .leaving
  | seeNoStop (goes : executor.stopRequested = false) :
      WorkerMove executor .evaluating executor .consulting
  | seeEmpty (empty : executor.taskQueue = []) :
      WorkerMove executor .consulting executor .declined
  | count (waiting : executor.taskQueue ≠ []) :
      WorkerMove executor .consulting executor (.counted executor.activeEvaluations)
  | letIn {active : ℤ} (below : active < executor.allowedConcurrency) :
      WorkerMove executor (.counted active) executor (.admitted executor.allowedConcurrency)
  | decline {active : ℤ} (full : ¬ active < executor.allowedConcurrency) :
      WorkerMove executor (.counted active) executor .declined
  | block : WorkerMove executor .declined executor.unlockTask .blocked
  | leave : WorkerMove executor .leaving executor.unlockTask .exited
  | quit {limit : ℤ} (stop : executor.stopRequested = true) :
      WorkerMove executor (.admitted limit) executor.unlockTask .exited
  | take {limit : ℤ} {queued : QueuedEvaluation} {rest : List QueuedEvaluation}
      (goes : executor.stopRequested = false) (front : executor.taskQueue = queued :: rest) :
      WorkerMove executor (.admitted limit) (executor.take rest) (.taken queued)
  | claim {queued : QueuedEvaluation} (free : executor.activeHandle = none) :
      WorkerMove executor (.taken queued) (executor.visibleEvaluationClaim queued)
        (.running .loopTop queued true)
  | share {queued : QueuedEvaluation} (busy : executor.activeHandle ≠ none) :
      WorkerMove executor (.taken queued) executor (.running .loopTop queued false)
  | enterPause {queued : QueuedEvaluation} {visible : Bool}
      (free : executor.pauseMutexHeld = false) :
      WorkerMove executor (.running .loopTop queued visible) executor.lockPause
        (.running .checkingPause queued visible)
  | passPause {queued : QueuedEvaluation} {visible : Bool}
      (passes : executor.paused = false ∨ executor.stopRequested = true) :
      WorkerMove executor (.running .checkingPause queued visible) executor.unlockPause
        (.running .stepping queued visible)
  | declinePause {queued : QueuedEvaluation} {visible : Bool} (paused : executor.paused = true)
      (goes : executor.stopRequested = false) :
      WorkerMove executor (.running .checkingPause queued visible) executor
        (.running .pauseDeclined queued visible)
  | blockPause {queued : QueuedEvaluation} {visible : Bool} :
      WorkerMove executor (.running .pauseDeclined queued visible) executor.unlockPause
        (.running .pauseBlocked queued visible)
  | relockPause {queued : QueuedEvaluation} {visible : Bool}
      (free : executor.pauseMutexHeld = false) :
      WorkerMove executor (.running .pauseWoken queued visible) executor.lockPause
        (.running .checkingPause queued visible)
  | goOn {queued : QueuedEvaluation} {visible : Bool} (goes : executor.stopRequested = false) :
      WorkerMove executor (.running .stepping queued visible) executor
        (.running .loopTop queued visible)
  | endPass {queued : QueuedEvaluation} {visible : Bool} (goes : executor.stopRequested = false) :
      WorkerMove executor (.running .stepping queued visible) executor
        (.running .passed queued visible)
  | nextPass {queued : QueuedEvaluation} {visible : Bool} (goes : executor.stopRequested = false) :
      WorkerMove executor (.running .passed queued visible) executor
        (.running .loopTop queued visible)
  | finishPasses {queued : QueuedEvaluation} {visible : Bool} (totalFitness : F)
      (goes : executor.stopRequested = false) :
      WorkerMove executor (.running .passed queued visible) executor
        (.finishing { queued := queued, totalFitness := totalFitness } visible)
  | abandon {stage : PassStage} {queued : QueuedEvaluation} {visible : Bool}
      (checks : stage.checksStop = true) (stop : executor.stopRequested = true) :
      WorkerMove executor (.running stage queued visible)
        (executor.visibleEvaluationRelease queued visible) (.returning none)
  | handBack {finished : FinishedEvaluation F} :
      WorkerMove executor (.finishing finished false) executor (.returning (some finished))
  | finishVisible {finished : FinishedEvaluation F} (goes : executor.stopRequested = false) :
      WorkerMove executor (.finishing finished true) executor (.delivering finished)
  | releaseVisible {finished : FinishedEvaluation F} (stop : executor.stopRequested = true) :
      WorkerMove executor (.finishing finished true)
        (executor.visibleEvaluationRelease finished.queued true) (.returning none)
  | complete {finished : FinishedEvaluation F} :
      WorkerMove executor (.delivering finished) (executor.visibleEvaluationComplete finished)
        (.returning none)
  | decrement {result : Option (FinishedEvaluation F)} :
      WorkerMove executor (.returning result) executor.decrement (.decremented result)
  | exit {result : Option (FinishedEvaluation F)} (stop : executor.stopRequested = true) :
      WorkerMove executor (.notified result) executor .exited
  | loopAgain (goes : executor.stopRequested = false) :
      WorkerMove executor (.notified none) executor .looping
  | keepResult {finished : FinishedEvaluation F} (goes : executor.stopRequested = false) :
      WorkerMove executor (.notified (some finished)) executor (.publishing finished)
  | publish {finished : FinishedEvaluation F} :
      WorkerMove executor (.publishing finished) (executor.publish finished) .looping

end

namespace WorkerPhase

variable {F : Type}
variable (phase : WorkerPhase F)

/-! ## What a worker holds -/

def task : WorkerPhase F → ℕ
  | .evaluating | .consulting | .counted _ | .declined | .admitted _ | .leaving => 1
  | _ => 0

def pause : WorkerPhase F → ℕ
  | .running .checkingPause _ _ | .running .pauseDeclined _ _ => 1
  | _ => 0

def active : WorkerPhase F → ℕ
  | .taken _ | .running _ _ _ | .finishing _ _ | .delivering _ | .returning _ => 1
  | _ => 0

def awake : WorkerPhase F → ℕ
  | .blocked | .exited => 0
  | _ => 1

def visible : WorkerPhase F → Multiset ℕ
  | .running _ queued true => {queued.number}
  | .finishing finished true | .delivering finished => {finished.queued.number}
  | _ => 0

def carried : WorkerPhase F → Multiset QueuedEvaluation
  | .taken queued | .running _ queued _ => {queued}
  | .finishing finished _ | .delivering finished | .returning (some finished)
  | .decremented (some finished) | .notified (some finished) | .publishing finished =>
      {finished.queued}
  | _ => 0

def wake : WorkerPhase F → WorkerPhase F
  | .blocked => .woken
  | phase => phase

def wakePause : WorkerPhase F → WorkerPhase F
  | .running .pauseBlocked queued visible => .running .pauseWoken queued visible
  | phase => phase

theorem task_le_one : phase.task ≤ 1 := by
  cases phase <;> simp [task]

theorem active_add_task_le_awake : phase.active + phase.task ≤ phase.awake := by
  cases phase <;> simp [active, task, awake]

theorem active_le_awake : phase.active ≤ phase.awake :=
  (Nat.le_add_right _ _).trans phase.active_add_task_le_awake

theorem wakePause_ne {queued : QueuedEvaluation} {visible : Bool} :
    phase.wakePause ≠ .running .pauseBlocked queued visible := by
  cases phase with
  | running stage => cases stage <;> (intro same; cases same)
  | _ => intro same; cases same

theorem awake_wake {phase : WorkerPhase F} (present : phase ≠ .exited) :
    phase.wake.awake = 1 := by
  cases phase with
  | exited => exact absurd rfl present
  | _ => rfl

end WorkerPhase

namespace EvaluationExecutor

variable {F : Type}

def stored (executor : EvaluationExecutor F) : Multiset QueuedEvaluation :=
  (executor.taskQueue : Multiset QueuedEvaluation) +
    (executor.resultQueue.map FinishedEvaluation.queued : Multiset QueuedEvaluation) +
    (executor.visibleCompleted.map FinishedEvaluation.queued : Multiset QueuedEvaluation)

def shown (executor : EvaluationExecutor F) : Multiset ℕ :=
  (executor.activeHandle.toList : Multiset ℕ)

end EvaluationExecutor

section

/-! ## What a move does to what is held -/

variable {F : Type} {executor after : EvaluationExecutor F} {phase next : WorkerPhase F}

open EvaluationExecutor WorkerPhase

section

variable (moved : WorkerMove executor phase after next)
include moved

theorem WorkerMove.frame :
    after.stopRequested = executor.stopRequested ∧ after.paused = executor.paused ∧
      after.allowedConcurrency = executor.allowedConcurrency := by
  cases moved <;> exact ⟨rfl, rfl, rfl⟩

theorem WorkerMove.task (owned : phase.task ≤ executor.taskMutexHeld.toNat) :
    after.taskMutexHeld.toNat + phase.task = executor.taskMutexHeld.toNat + next.task := by
  have held : 1 ≤ executor.taskMutexHeld.toNat → executor.taskMutexHeld = true := by
    cases executor.taskMutexHeld <;> simp
  cases moved with
  | lock free | relock free => simp [WorkerPhase.task, lockTask, free]
  | block | leave | quit | take => simp [WorkerPhase.task, unlockTask, EvaluationExecutor.take, held owned]
  | _ => rfl

theorem WorkerMove.pause (owned : phase.pause ≤ executor.pauseMutexHeld.toNat) :
    after.pauseMutexHeld.toNat + phase.pause = executor.pauseMutexHeld.toNat + next.pause := by
  have held : 1 ≤ executor.pauseMutexHeld.toNat → executor.pauseMutexHeld = true := by
    cases executor.pauseMutexHeld <;> simp
  cases moved with
  | enterPause free | relockPause free => simp [WorkerPhase.pause, lockPause, free]
  | passPause | blockPause => simp [WorkerPhase.pause, unlockPause, held owned]
  | @abandon stage _ _ checks =>
      cases stage with
      | checkingPause | pauseDeclined => cases checks
      | _ => rfl
  | _ => rfl

theorem WorkerMove.active :
    after.activeEvaluations + phase.active = executor.activeEvaluations + next.active := by
  cases moved <;> simp [WorkerPhase.active, EvaluationExecutor.take, EvaluationExecutor.decrement,
    lockTask, unlockTask, lockPause, unlockPause, visibleEvaluationClaim,
    visibleEvaluationRelease, visibleEvaluationComplete, EvaluationExecutor.publish]

theorem WorkerMove.shown (owned : phase.visible ≤ executor.shown) :
    after.shown + phase.visible = executor.shown + next.visible := by
  have handle : ∀ number : ℕ, {number} ≤ executor.shown → executor.activeHandle = some number := by
    intro number bound
    rw [EvaluationExecutor.shown] at bound
    cases same : executor.activeHandle with
    | none => simp [same] at bound
    | some other => simp_all
  cases moved with
  | claim free =>
      simp [EvaluationExecutor.shown, WorkerPhase.visible, visibleEvaluationClaim, free]
  | @abandon _ queued visible =>
      cases visible with
      | true =>
          simp [EvaluationExecutor.shown, WorkerPhase.visible, visibleEvaluationRelease,
            handle _ owned]
      | false => simp [EvaluationExecutor.shown, WorkerPhase.visible, visibleEvaluationRelease]
  | releaseVisible =>
      simp [EvaluationExecutor.shown, WorkerPhase.visible, visibleEvaluationRelease,
        handle _ owned]
  | complete =>
      simp [EvaluationExecutor.shown, WorkerPhase.visible, visibleEvaluationComplete,
        visibleEvaluationRelease, handle _ owned]
  | @enterPause _ visible | @passPause _ visible | @declinePause _ visible
  | @blockPause _ visible | @relockPause _ visible | @goOn _ visible | @endPass _ visible
  | @nextPass _ visible | @finishPasses _ visible => cases visible <;> rfl
  | _ => rfl

theorem WorkerMove.stored (goes : executor.stopRequested = false) :
    after.stored + next.carried = executor.stored + phase.carried := by
  cases moved with
  | take _ front =>
      simp [EvaluationExecutor.stored, WorkerPhase.carried, EvaluationExecutor.take, front,
        add_comm, ← Multiset.cons_coe]
  | complete =>
      simp [EvaluationExecutor.stored, WorkerPhase.carried, visibleEvaluationComplete,
        visibleEvaluationRelease, ← Multiset.coe_add, add_assoc]
  | publish =>
      simp [EvaluationExecutor.stored, WorkerPhase.carried, EvaluationExecutor.publish,
        ← Multiset.coe_add, ← Multiset.cons_coe, add_assoc, add_comm]
  | @decrement result => cases result <;> rfl
  | abandon _ stop | releaseVisible stop | exit stop =>
      rw [goes] at stop
      cases stop
  | _ => rfl

theorem WorkerMove.outside (outside : phase.task = 0) :
    after.taskQueue = executor.taskQueue ∧
      after.activeEvaluations ≤ executor.activeEvaluations := by
  cases moved with
  | decrement => exact ⟨rfl, by simp [EvaluationExecutor.decrement]⟩
  | take => cases outside
  | _ => exact ⟨rfl, le_refl _⟩

theorem WorkerMove.waiting (waiting : after.taskQueue ≠ []) : executor.taskQueue ≠ [] := by
  cases moved with
  | take _ front =>
      rw [front]
      exact List.cons_ne_nil _ _
  | _ => exact waiting

theorem WorkerMove.remains (goes : executor.stopRequested = false)
    (remains : phase ≠ .leaving ∧ phase ≠ .exited) : next ≠ .leaving ∧ next ≠ .exited := by
  cases moved with
  | leave => exact absurd rfl remains.1
  | seeStop stop | quit stop | exit stop =>
      rw [goes] at stop
      cases stop
  | _ => constructor <;> (intro same; cases same)

theorem WorkerMove.awake (goes : executor.stopRequested = false) (stays : phase ≠ .declined)
    (remains : phase ≠ .leaving) : phase.awake ≤ next.awake := by
  cases moved with
  | block => exact absurd rfl stays
  | leave => exact absurd rfl remains
  | quit stop | exit stop =>
      rw [goes] at stop
      cases stop
  | _ => exact le_refl _

end

end

end DirtSim
