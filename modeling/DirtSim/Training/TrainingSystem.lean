import DirtSim.Training.EvaluationExecutor

/-! # The training and its executor

The thread of the state machine drains the two queues of results, submits what a result calls for,
and pauses, limits or stops the workers. All take their steps in any order. What was submitted and
returned is written down; only statements read it.
-/

namespace DirtSim

open Foundation

/-- Where the thread of the state machine is. -/
inductive MainPhase
  | serving
  /-- In a submission, before the assertion about the active handle. -/
  | submitting (submission : Submission)
  /-- In a submission, past the assertion. -/
  | enqueuing (submission : Submission)
  /-- About to notify all waiters of `taskCv`. -/
  | announcing
  /-- About to notify all waiters of `pauseCv`. -/
  | announcingPause
  | aborted
  /-- In `stop`, once `stopRequested` is stored. -/
  | stopping
  /-- In `stop`, once the pause is lifted. -/
  | unpaused
  /-- In `stop`, once `pauseCv` is notified. -/
  | pauseNotified
  /-- In `stop`, once `taskCv` is notified too. -/
  | joining
  | stopped

structure TrainingSystem (F : Type) where
  executor : EvaluationExecutor F
  workers : List (WorkerPhase F)
  main : MainPhase
  evolution : Evolution F
  /-- The results drained and not handled yet. -/
  inbox : List (FinishedEvaluation F)
  submitted : List QueuedEvaluation
  drained : List (FinishedEvaluation F)
  ticked : List (FinishedEvaluation F)

/-- One step of the workers or of the thread of the state machine. -/
inductive TrainingAction
  | work
  | wakeSpuriously
  | completedDrain
  | visibleTick
  | processResult
  | submit
  | enqueue
  | announce
  | announcePause
  | allowedConcurrencySet (allowedConcurrency : ℤ)
  | pauseSet (paused : Bool)
  | command
  | stop
  | liftPause
  | stopNotifyPause
  | stopNotifyTask
  | join
  deriving DecidableEq

def Submission.queued (submission : Submission) (first : ℕ) : List QueuedEvaluation :=
  (submission.requests.zipIdx first).map fun entry =>
    { number := entry.2, request := entry.1 }

def Submission.enqueue (submission : Submission) (first : ℕ) (queue : List QueuedEvaluation) :
    List QueuedEvaluation :=
  match submission with
  | .generationBatch _ => submission.queued first
  | .robustnessPass _ _ => queue ++ submission.queued first

section

variable (submission : Submission)

theorem Submission.map_request_queued (first : ℕ) :
    (submission.queued first).map QueuedEvaluation.request = submission.requests := by
  rw [queued, List.map_map]
  exact List.zipIdx_map_fst first submission.requests

theorem Submission.map_number_queued (first : ℕ) :
    (submission.queued first).map QueuedEvaluation.number =
      List.range' first submission.requests.length := by
  rw [queued, List.map_map]
  exact List.zipIdx_map_snd first submission.requests

theorem Submission.length_queued (first : ℕ) :
    (submission.queued first).length = submission.requests.length := by
  rw [← submission.map_request_queued first, List.length_map]

theorem Submission.enqueue_nil (first : ℕ) :
    submission.enqueue first [] = submission.queued first := by
  cases submission <;> rfl

end

def MainPhase.afterResult : Option Submission → MainPhase
  | none => .serving
  | some submission => .submitting submission

/-- `notify_one` wakes one waiter of `taskCv` if there is one. -/
inductive NotifiesOne {F : Type} : List (WorkerPhase F) → List (WorkerPhase F) → Prop
  | nobody {workers : List (WorkerPhase F)} (none : ∀ phase ∈ workers, phase ≠ .blocked) :
      NotifiesOne workers workers
  | waiter {front back : List (WorkerPhase F)} :
      NotifiesOne (front ++ .blocked :: back) (front ++ .woken :: back)

namespace TrainingSystem

variable {F : Type}

/-- The system when the training starts: no worker has done anything, and the whole population is
about to be submitted. -/
def start (maxParallelEvaluations : ℤ) (evolution : Evolution F) : TrainingSystem F where
  executor := {
    taskQueue := []
    taskMutexHeld := false
    resultQueue := []
    paused := false
    pauseMutexHeld := false
    stopRequested := false
    allowedConcurrency := max 1 maxParallelEvaluations
    activeEvaluations := 0
    activeHandle := none
    visibleCompleted := [] }
  workers := List.replicate (max 1 maxParallelEvaluations).toNat .looping
  main := .submitting evolution.queueGenerationTasks
  evolution := evolution
  inbox := []
  submitted := []
  drained := []
  ticked := []

def clampConcurrency (system : TrainingSystem F) (allowedConcurrency : ℤ) : ℤ :=
  max 0 (min allowedConcurrency system.workers.length)

variable [FitnessArithmetic F]

/-- The steps of the system. -/
inductive Step (setup : TrainingSetup) (system : TrainingSystem F) :
    TrainingAction → TrainingSystem F → Prop
  | work (front : List (WorkerPhase F)) {phase next : WorkerPhase F}
      (back : List (WorkerPhase F)) {executor : EvaluationExecutor F}
      (split : system.workers = front ++ phase :: back)
      (moved : WorkerMove system.executor phase executor next) :
      Step setup system .work
        { system with executor := executor, workers := front ++ next :: back }
  | notifyOne (front : List (WorkerPhase F)) {result : Option (FinishedEvaluation F)}
      (back : List (WorkerPhase F)) {workers : List (WorkerPhase F)}
      (split : system.workers = front ++ .decremented result :: back)
      (notified : NotifiesOne (front ++ .notified result :: back) workers) :
      Step setup system .work { system with workers := workers }
  | wakeSpuriously (front : List (WorkerPhase F)) {phase : WorkerPhase F}
      (back : List (WorkerPhase F)) (split : system.workers = front ++ phase :: back)
      (sleeps : phase.wake.wakePause ≠ phase) :
      Step setup system .wakeSpuriously
        { system with workers := front ++ phase.wake.wakePause :: back }
  | completedDrain (serving : system.main = .serving) (handled : system.inbox = []) :
      Step setup system .completedDrain { system with
        executor := { system.executor with resultQueue := [] }
        inbox := system.executor.resultQueue
        drained := system.drained ++ system.executor.resultQueue }
  | visibleTick (serving : system.main = .serving) (handled : system.inbox = []) :
      Step setup system .visibleTick { system with
        executor := { system.executor with visibleCompleted := [] }
        inbox := system.executor.visibleCompleted
        ticked := system.ticked ++ system.executor.visibleCompleted }
  | processResult {finished : FinishedEvaluation F} {rest : List (FinishedEvaluation F)}
      {environment : ResultEnvironment F} {bred : Evolution.Bred F} {evolution : Evolution F}
      {submission : Option Submission} (serving : system.main = .serving)
      (first : system.inbox = finished :: rest)
      (processed : system.evolution.processResult setup environment bred finished.completed =
        some (evolution, submission)) :
      Step setup system .processResult { system with
        evolution := evolution
        inbox := rest
        main := .afterResult submission }
  | submit {submission : Submission} (submitting : system.main = .submitting submission)
      (none : system.executor.activeHandle = none) :
      Step setup system .submit { system with main := .enqueuing submission }
  | assertionFails {submission : Submission} (submitting : system.main = .submitting submission)
      (some : system.executor.activeHandle ≠ none) :
      Step setup system .submit { system with main := .aborted }
  | enqueue {submission : Submission} (enqueuing : system.main = .enqueuing submission)
      (free : system.executor.taskMutexHeld = false) :
      Step setup system .enqueue { system with
        executor := { system.executor with
          taskQueue := submission.enqueue system.submitted.length system.executor.taskQueue }
        submitted := system.submitted ++ submission.queued system.submitted.length
        main := .announcing }
  | announce (announcing : system.main = .announcing) :
      Step setup system .announce { system with
        workers := system.workers.map WorkerPhase.wake
        main := .serving }
  | announcePause (announcing : system.main = .announcingPause) :
      Step setup system .announcePause { system with
        workers := system.workers.map WorkerPhase.wakePause
        main := .serving }
  | allowedConcurrencySet (allowedConcurrency : ℤ) (serving : system.main = .serving) :
      Step setup system (.allowedConcurrencySet allowedConcurrency) { system with
        executor := { system.executor with
          allowedConcurrency := system.clampConcurrency allowedConcurrency }
        main := .announcing }
  | pauseSet (paused : Bool) (serving : system.main = .serving)
      (free : system.executor.pauseMutexHeld = false) :
      Step setup system (.pauseSet paused) { system with
        executor := { system.executor with paused := paused }
        main := .announcingPause }
  | command {event : Evolution.Event F} {evolution : Evolution F}
      (serving : system.main = .serving)
      (other : ∀ environment bred result, event ≠ .result environment bred result)
      (applied : event.apply setup system.evolution = some evolution) :
      Step setup system .command { system with evolution := evolution }
  | stop (serving : system.main = .serving) :
      Step setup system .stop { system with
        executor := { system.executor with stopRequested := true }
        main := .stopping }
  | liftPause (stopping : system.main = .stopping)
      (free : system.executor.pauseMutexHeld = false) :
      Step setup system .liftPause { system with
        executor := { system.executor with paused := false }
        main := .unpaused }
  | stopNotifyPause (unpaused : system.main = .unpaused) :
      Step setup system .stopNotifyPause { system with
        workers := system.workers.map WorkerPhase.wakePause
        main := .pauseNotified }
  | stopNotifyTask (pauseNotified : system.main = .pauseNotified) :
      Step setup system .stopNotifyTask { system with
        workers := system.workers.map WorkerPhase.wake
        main := .joining }
  | join (joining : system.main = .joining) (gone : ∀ phase ∈ system.workers, phase = .exited) :
      Step setup system .join { system with
        executor := { system.executor with
          taskQueue := []
          resultQueue := []
          allowedConcurrency := 0
          activeEvaluations := 0
          activeHandle := none
          visibleCompleted := []
          stopRequested := false }
        workers := []
        main := .stopped }

def machine (F : Type) [FitnessArithmetic F] (setup : TrainingSetup) :
    Machine TrainingAction (TrainingSystem F) where
  initial system := ∃ maxParallelEvaluations repository randomGenomes evolution,
    Evolution.initializePopulation setup repository randomGenomes = some evolution ∧
      system = start maxParallelEvaluations evolution
  step := Step setup

end TrainingSystem

section

/-! ## Being notified

Besides its own moves, a worker is only woken, or gets past its own `notify_one`. -/

variable {F : Type}
variable (phase : WorkerPhase F) {before after : List (WorkerPhase F)}

inductive Alert : WorkerPhase F → WorkerPhase F → Prop
  | stay (phase : WorkerPhase F) : Alert phase phase
  | wake : Alert .blocked .woken
  | wakePause (queued : QueuedEvaluation) (visible : Bool) :
      Alert (.running .pauseBlocked queued visible) (.running .pauseWoken queued visible)
  | notified (result : Option (FinishedEvaluation F)) :
      Alert (.decremented result) (.notified result)

def Alerted (before after : List (WorkerPhase F)) : Prop := List.Forall₂ Alert before after

theorem alert_wake : Alert phase phase.wake := by
  cases phase with
  | blocked => exact .wake
  | _ => exact .stay _

theorem alert_wakePause : Alert phase phase.wakePause := by
  cases phase with
  | running stage queued visible =>
      cases stage with
      | pauseBlocked => exact .wakePause queued visible
      | _ => exact .stay _
  | _ => exact .stay _

theorem Alert.trans {phase middle next : WorkerPhase F} (first : Alert phase middle)
    (second : Alert middle next) : Alert phase next := by
  cases first with
  | stay => exact second
  | wake =>
      cases second
      exact .wake
  | wakePause queued visible =>
      cases second
      exact .wakePause queued visible
  | notified result =>
      cases second
      exact .notified result

theorem alert_wakes : Alert phase phase.wake.wakePause :=
  (alert_wake phase).trans (alert_wakePause phase.wake)

theorem Alerted.refl (workers : List (WorkerPhase F)) : Alerted workers workers := by
  induction workers with
  | nil => exact .nil
  | cons phase workers ih => exact .cons (.stay phase) ih

theorem Alerted.trans {before middle after : List (WorkerPhase F)}
    (first : Alerted before middle) (second : Alerted middle after) : Alerted before after := by
  induction first generalizing after with
  | nil => exact second
  | cons alert _ ih =>
      cases second with
      | cons other rest => exact .cons (alert.trans other) (ih rest)

theorem Alerted.map {wake : WorkerPhase F → WorkerPhase F} (wakes : ∀ phase, Alert phase (wake phase))
    (workers : List (WorkerPhase F)) : Alerted workers (workers.map wake) := by
  induction workers with
  | nil => exact .nil
  | cons phase workers ih => exact .cons (wakes phase) ih

theorem Alerted.splice {phase next : WorkerPhase F} (alert : Alert phase next)
    (front back : List (WorkerPhase F)) :
    Alerted (front ++ phase :: back) (front ++ next :: back) := by
  induction front with
  | nil => exact .cons alert (Alerted.refl back)
  | cons other front ih => exact .cons (.stay other) ih

theorem NotifiesOne.alerted (notified : NotifiesOne before after) : Alerted before after := by
  cases notified with
  | nobody => exact Alerted.refl before
  | waiter => exact Alerted.splice .wake _ _

theorem Alerted.of_notifyOne {workers after front back : List (WorkerPhase F)}
    {result : Option (FinishedEvaluation F)} (split : workers = front ++ .decremented result :: back)
    (notified : NotifiesOne (front ++ .notified result :: back) after) : Alerted workers after := by
  rw [split]
  exact (splice (.notified result) front back).trans notified.alerted

theorem Alerted.of_wake {workers front back : List (WorkerPhase F)} {phase : WorkerPhase F}
    (split : workers = front ++ phase :: back) :
    Alerted workers (front ++ phase.wake.wakePause :: back) := by
  rw [split]
  exact splice (alert_wakes phase) front back

theorem Alerted.tally_eq {M : Type} [AddCommMonoid M] {held : WorkerPhase F → M}
    (same : ∀ phase next, Alert phase next → held next = held phase)
    (alerted : Alerted before after) : tally held after = tally held before := by
  induction alerted with
  | nil => rfl
  | cons alert _ ih => rw [tally_cons, tally_cons, same _ _ alert, ih]

theorem Alerted.tally_le {held : WorkerPhase F → ℕ}
    (bound : ∀ phase next, Alert phase next → held phase ≤ held next)
    (alerted : Alerted before after) : tally held before ≤ tally held after := by
  induction alerted with
  | nil => exact le_refl 0
  | cons alert _ ih =>
      rw [tally_cons, tally_cons]
      exact Nat.add_le_add (bound _ _ alert) ih

theorem Alerted.exists_of_mem (alerted : Alerted before after) {next : WorkerPhase F}
    (member : next ∈ after) : ∃ phase ∈ before, Alert phase next := by
  induction alerted with
  | nil => cases member
  | @cons phase alertedPhase _ _ alert _ ih =>
      rcases List.mem_cons.mp member with rfl | later
      · exact ⟨phase, List.mem_cons_self, alert⟩
      · obtain ⟨other, among, alert⟩ := ih later
        exact ⟨other, List.mem_cons_of_mem _ among, alert⟩

end

namespace TrainingSystem

variable {F : Type} [FitnessArithmetic F] {setup : TrainingSetup} {system after : TrainingSystem F}
  {action : TrainingAction}

/-- A step is the move of one worker, or alerts workers without touching what they hold, or
ends the last `stop`. -/
theorem Step.workers_cases (step : Step setup system action after) :
    (action = .work ∧ ∃ front phase next back executor, system.workers = front ++ phase :: back ∧
        WorkerMove system.executor phase executor next ∧
        after = { system with executor := executor, workers := front ++ next :: back }) ∨
      (Alerted system.workers after.workers ∧
        after.executor.taskMutexHeld = system.executor.taskMutexHeld ∧
        after.executor.pauseMutexHeld = system.executor.pauseMutexHeld ∧
        after.executor.activeEvaluations = system.executor.activeEvaluations ∧
        after.executor.activeHandle = system.executor.activeHandle ∧
        (after.executor.taskQueue = system.executor.taskQueue ∨
          system.executor.taskMutexHeld = false) ∧
        (after.executor.paused = system.executor.paused ∨
          system.executor.pauseMutexHeld = false)) ∨
      (action = .join ∧ after.workers = [] ∧
        (∀ phase ∈ system.workers, phase = WorkerPhase.exited) ∧
        after.executor.taskMutexHeld = system.executor.taskMutexHeld ∧
        after.executor.pauseMutexHeld = system.executor.pauseMutexHeld ∧
        after.executor.activeEvaluations = 0 ∧ after.executor.activeHandle = none) := by
  cases step with
  | work front back split moved => exact Or.inl ⟨rfl, front, _, _, back, _, split, moved, rfl⟩
  | notifyOne front back split notified =>
      exact Or.inr (Or.inl ⟨.of_notifyOne split notified, rfl, rfl, rfl, rfl, Or.inl rfl, Or.inl rfl⟩)
  | wakeSpuriously front back split =>
      exact Or.inr (Or.inl ⟨.of_wake split, rfl, rfl, rfl, rfl, Or.inl rfl, Or.inl rfl⟩)
  | announce | stopNotifyTask =>
      exact Or.inr (Or.inl ⟨Alerted.map alert_wake _, rfl, rfl, rfl, rfl, Or.inl rfl, Or.inl rfl⟩)
  | announcePause | stopNotifyPause =>
      exact Or.inr (Or.inl ⟨Alerted.map alert_wakePause _, rfl, rfl, rfl, rfl, Or.inl rfl, Or.inl rfl⟩)
  | join joining gone => exact Or.inr (Or.inr ⟨rfl, rfl, gone, rfl, rfl, rfl, rfl⟩)
  | pauseSet _ _ free | liftPause _ free =>
      exact Or.inr (Or.inl ⟨Alerted.refl _, rfl, rfl, rfl, rfl, Or.inl rfl, Or.inr free⟩)
  | enqueue _ free =>
      exact Or.inr (Or.inl ⟨Alerted.refl _, rfl, rfl, rfl, rfl, Or.inr free, Or.inl rfl⟩)
  | _ => exact Or.inr (Or.inl ⟨Alerted.refl _, rfl, rfl, rfl, rfl, Or.inl rfl, Or.inl rfl⟩)

end TrainingSystem

end DirtSim
