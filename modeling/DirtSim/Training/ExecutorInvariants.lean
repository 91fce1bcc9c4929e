import DirtSim.Training.TrainingSystem

/-! # What the executor's state says about its workers

A mutex is held exactly when one worker holds it, the active evaluations are counted, and the
active handle is the one handle a worker has. With this, a worker that cannot move is asleep or
waits for a worker that can.
-/

namespace DirtSim

open Foundation

section

variable {F : Type} {phase next : WorkerPhase F}

section

variable (alert : Alert phase next)
include alert

theorem Alert.task : next.task = phase.task := by
  cases alert <;> rfl

theorem Alert.pause : next.pause = phase.pause := by
  cases alert <;> rfl

theorem Alert.active : next.active = phase.active := by
  cases alert <;> rfl

theorem Alert.visible : next.visible = phase.visible := by
  cases alert with
  | wakePause queued visible => cases visible <;> rfl
  | _ => rfl

theorem Alert.carried : next.carried = phase.carried := by
  cases alert with
  | notified result => cases result <;> rfl
  | _ => rfl

theorem Alert.awake : phase.awake ≤ next.awake := by
  cases alert with
  | wake => exact Nat.zero_le 1
  | _ => exact le_refl _

theorem Alert.remains (remains : phase ≠ .leaving ∧ phase ≠ .exited) :
    next ≠ .leaving ∧ next ≠ .exited := by
  cases alert with
  | stay => exact remains
  | _ => constructor <;> (intro same; cases same)

end

end

namespace TrainingSystem

variable {F : Type}

/-- The locks, the count and the handle belong to the workers that have them. -/
structure Orderly (system : TrainingSystem F) : Prop where
  task : system.executor.taskMutexHeld.toNat = tally WorkerPhase.task system.workers
  pause : system.executor.pauseMutexHeld.toNat = tally WorkerPhase.pause system.workers
  active : system.executor.activeEvaluations = (tally WorkerPhase.active system.workers : ℕ)
  shown : system.executor.shown = tally WorkerPhase.visible system.workers

theorem orderly_start (maxParallelEvaluations : ℤ) (evolution : Evolution F) :
    (start maxParallelEvaluations evolution).Orderly where
  task := (tally_replicate_zero WorkerPhase.task rfl _).symm
  pause := (tally_replicate_zero WorkerPhase.pause rfl _).symm
  active := congrArg Nat.cast (tally_replicate_zero WorkerPhase.active rfl _).symm
  shown := (tally_replicate_zero WorkerPhase.visible rfl _).symm

variable [FitnessArithmetic F] {setup : TrainingSetup} {system after : TrainingSystem F}
  {action : TrainingAction}

theorem Orderly.step (orderly : system.Orderly) (step : Step setup system action after) :
    after.Orderly := by
  rcases step.workers_cases with
    ⟨_, front, phase, next, back, executor, split, moved, same⟩ |
      ⟨alerted, task, pause, active, handle, _⟩ | ⟨_, none, gone, task, pause, active, handle⟩
  · have member : phase ∈ system.workers := split ▸ List.mem_append_right _ List.mem_cons_self
    have ownsTask : phase.task ≤ system.executor.taskMutexHeld.toNat :=
      orderly.task ▸ held_le_tally member
    have ownsPause : phase.pause ≤ system.executor.pauseMutexHeld.toNat :=
      orderly.pause ▸ held_le_tally member
    have ownsHandle : phase.visible ≤ system.executor.shown :=
      orderly.shown ▸ held_le_tally member
    have active := orderly.active
    have counted := moved.active
    rw [split, tally_split] at active
    rw [same]
    constructor
    · exact owed_of_move (moved.task ownsTask) (split ▸ orderly.task)
    · exact owed_of_move (moved.pause ownsPause) (split ▸ orderly.pause)
    · dsimp only
      rw [tally_split]
      omega
    · exact owed_of_move (moved.shown ownsHandle) (split ▸ orderly.shown)
  · constructor
    · rw [task, alerted.tally_eq fun _ _ => Alert.task]
      exact orderly.task
    · rw [pause, alerted.tally_eq fun _ _ => Alert.pause]
      exact orderly.pause
    · rw [active, alerted.tally_eq fun _ _ => Alert.active]
      exact orderly.active
    · rw [EvaluationExecutor.shown, handle, alerted.tally_eq fun _ _ => Alert.visible]
      exact orderly.shown
  · have unlocked : tally WorkerPhase.task system.workers = 0 :=
      tally_eq_zero fun phase member => by rw [gone phase member]; rfl
    have unlockedPause : tally WorkerPhase.pause system.workers = 0 :=
      tally_eq_zero fun phase member => by rw [gone phase member]; rfl
    constructor
    · rw [task, none, orderly.task, unlocked, tally_nil]
    · rw [pause, none, orderly.pause, unlockedPause, tally_nil]
    · rw [active, none, tally_nil]
      rfl
    · rw [EvaluationExecutor.shown, handle, none, tally_nil]
      rfl

end TrainingSystem

section

/-! ## Whom the predicate admits -/

variable {F : Type} {executor after : EvaluationExecutor F} {phase next : WorkerPhase F}

/-- What a worker found while it holds `taskMutex` still bounds what is there. -/
def WorkerPhase.Sound (executor : EvaluationExecutor F) : WorkerPhase F → Prop
  | .counted active => executor.taskQueue ≠ [] ∧ executor.activeEvaluations ≤ active
  | .admitted limit => executor.taskQueue ≠ [] ∧ executor.activeEvaluations < limit
  | _ => True

theorem WorkerPhase.sound_of_outside (executor : EvaluationExecutor F)
    (outside : phase.task = 0) : phase.Sound executor := by
  cases phase with
  | counted | admitted => cases outside
  | _ => trivial

theorem WorkerPhase.Sound.mono (sound : phase.Sound executor)
    (queue : after.taskQueue = executor.taskQueue)
    (active : after.activeEvaluations ≤ executor.activeEvaluations) : phase.Sound after := by
  cases phase with
  | counted _ => exact ⟨queue ▸ sound.1, active.trans sound.2⟩
  | admitted limit => exact ⟨queue ▸ sound.1, lt_of_le_of_lt active sound.2⟩
  | _ => trivial

theorem WorkerMove.sound (moved : WorkerMove executor phase after next)
    (sound : phase.Sound executor) : next.Sound after := by
  cases moved with
  | count waiting => exact ⟨waiting, le_refl _⟩
  | letIn below => exact ⟨sound.1, lt_of_le_of_lt sound.2 below⟩
  | _ => trivial

theorem Alert.sound (alert : Alert phase next) (sound : phase.Sound executor) :
    next.Sound executor := by
  cases alert with
  | stay => exact sound
  | _ => trivial

end

namespace TrainingSystem

variable {F : Type} [FitnessArithmetic F] {setup : TrainingSetup} {system after : TrainingSystem F}
  {action : TrainingAction}

section

omit [FitnessArithmetic F]

theorem Orderly.alone (orderly : system.Orderly) {front back : List (WorkerPhase F)}
    {phase other : WorkerPhase F} (split : system.workers = front ++ phase :: back)
    (holds : phase.task = 1) (member : other ∈ front ++ back) : other.task = 0 := by
  apply held_eq_zero_of_alone _ holds member
  rw [← split, ← orderly.task]
  exact Bool.toNat_le _

theorem Orderly.outsidePause (orderly : system.Orderly)
    (free : system.executor.pauseMutexHeld = false) {phase : WorkerPhase F}
    (member : phase ∈ system.workers) : phase.pause = 0 := by
  apply held_eq_zero _ member
  rw [← orderly.pause, free]
  rfl

theorem Orderly.outside (orderly : system.Orderly) (free : system.executor.taskMutexHeld = false)
    {phase : WorkerPhase F} (member : phase ∈ system.workers) : phase.task = 0 := by
  apply held_eq_zero _ member
  rw [← orderly.task, free]
  rfl

end

def AllSound (system : TrainingSystem F) : Prop :=
  ∀ phase ∈ system.workers, phase.Sound system.executor

theorem AllSound.step (sound : system.AllSound) (orderly : system.Orderly)
    (step : Step setup system action after) : after.AllSound := by
  rcases step.workers_cases with
    ⟨_, front, mover, next, back, executor, split, moved, same⟩ |
      ⟨alerted, _, _, active, _, queue, _⟩ | ⟨_, none, _⟩
  · rw [same]
    intro phase member
    have mover_sound := sound mover (split ▸ mem_splice.mpr (Or.inl rfl))
    rcases mem_splice.mp member with rfl | other
    · exact moved.sound mover_sound
    · have kept := sound phase (split ▸ mem_splice.mpr (Or.inr other))
      by_cases holds : mover.task = 0
      · obtain ⟨queue, active⟩ := moved.outside holds
        exact kept.mono queue active
      · have owner : mover.task = 1 := by
          have bound := mover.task_le_one
          omega
        exact WorkerPhase.sound_of_outside _ (orderly.alone split owner other)
  · intro next member
    obtain ⟨phase, among, alert⟩ := alerted.exists_of_mem member
    rcases queue with queue | free
    · exact alert.sound ((sound phase among).mono queue active.le)
    · exact alert.sound (WorkerPhase.sound_of_outside _ (orderly.outside free among))
  · intro phase member
    rw [none] at member
    cases member

end TrainingSystem

section

/-! ## Who can move -/

variable {F : Type} {executor after : EvaluationExecutor F} {phase next : WorkerPhase F}

def WorkerPhase.Asleep : WorkerPhase F → Prop
  | .blocked | .running .pauseBlocked _ _ | .exited => True
  | _ => False

def WorkerPhase.Waits (executor : EvaluationExecutor F) : WorkerPhase F → Prop
  | .looping | .woken => executor.taskMutexHeld = true
  | .running .loopTop _ _ | .running .pauseWoken _ _ => executor.pauseMutexHeld = true
  | _ => False

theorem WorkerPhase.moves_or_waits (sound : phase.Sound executor) :
    (∃ after next, WorkerMove executor phase after next) ∨
      (∃ result, phase = .decremented result) ∨ phase.Asleep ∨ phase.Waits executor := by
  cases phase with
  | looping | woken =>
      cases free : executor.taskMutexHeld with
      | true => exact Or.inr (Or.inr (Or.inr free))
      | false => first | exact Or.inl ⟨_, _, .lock free⟩ | exact Or.inl ⟨_, _, .relock free⟩
  | evaluating =>
      cases stop : executor.stopRequested with
      | true => exact Or.inl ⟨_, _, .seeStop stop⟩
      | false => exact Or.inl ⟨_, _, .seeNoStop stop⟩
  | consulting =>
      by_cases empty : executor.taskQueue = []
      · exact Or.inl ⟨_, _, .seeEmpty empty⟩
      · exact Or.inl ⟨_, _, .count empty⟩
  | counted active =>
      by_cases below : active < executor.allowedConcurrency
      · exact Or.inl ⟨_, _, .letIn below⟩
      · exact Or.inl ⟨_, _, .decline below⟩
  | declined => exact Or.inl ⟨_, _, .block⟩
  | admitted limit =>
      cases stop : executor.stopRequested with
      | true => exact Or.inl ⟨_, _, .quit stop⟩
      | false =>
          obtain ⟨queued, rest, front⟩ := List.exists_cons_of_ne_nil sound.1
          exact Or.inl ⟨_, _, .take stop front⟩
  | leaving => exact Or.inl ⟨_, _, .leave⟩
  | taken queued =>
      by_cases free : executor.activeHandle = none
      · exact Or.inl ⟨_, _, .claim free⟩
      · exact Or.inl ⟨_, _, .share free⟩
  | running stage queued visible =>
      cases stage with
      | loopTop =>
          cases free : executor.pauseMutexHeld with
          | true => exact Or.inr (Or.inr (Or.inr free))
          | false => exact Or.inl ⟨_, _, .enterPause free⟩
      | checkingPause =>
          cases paused : executor.paused with
          | false => exact Or.inl ⟨_, _, .passPause (Or.inl paused)⟩
          | true =>
              cases stop : executor.stopRequested with
              | true => exact Or.inl ⟨_, _, .passPause (Or.inr stop)⟩
              | false => exact Or.inl ⟨_, _, .declinePause paused stop⟩
      | pauseDeclined => exact Or.inl ⟨_, _, .blockPause⟩
      | pauseBlocked => exact Or.inr (Or.inr (Or.inl trivial))
      | pauseWoken =>
          cases free : executor.pauseMutexHeld with
          | true => exact Or.inr (Or.inr (Or.inr free))
          | false => exact Or.inl ⟨_, _, .relockPause free⟩
      | stepping =>
          cases stop : executor.stopRequested with
          | true => exact Or.inl ⟨_, _, .abandon rfl stop⟩
          | false => exact Or.inl ⟨_, _, .goOn stop⟩
      | passed =>
          cases stop : executor.stopRequested with
          | true => exact Or.inl ⟨_, _, .abandon rfl stop⟩
          | false => exact Or.inl ⟨_, _, .nextPass stop⟩
  | finishing finished visible =>
      cases visible with
      | false => exact Or.inl ⟨_, _, .handBack⟩
      | true =>
          cases stop : executor.stopRequested with
          | true => exact Or.inl ⟨_, _, .releaseVisible stop⟩
          | false => exact Or.inl ⟨_, _, .finishVisible stop⟩
  | delivering finished => exact Or.inl ⟨_, _, .complete⟩
  | returning result => exact Or.inl ⟨_, _, .decrement⟩
  | decremented result => exact Or.inr (Or.inl ⟨result, rfl⟩)
  | notified result =>
      cases stop : executor.stopRequested with
      | true => exact Or.inl ⟨_, _, .exit stop⟩
      | false =>
          cases result with
          | none => exact Or.inl ⟨_, _, .loopAgain stop⟩
          | some finished => exact Or.inl ⟨_, _, .keepResult stop⟩
  | publishing finished => exact Or.inl ⟨_, _, .publish⟩
  | blocked | exited => exact Or.inr (Or.inr (Or.inl trivial))

theorem WorkerPhase.holds_nothing (idle : phase.Asleep ∨ phase.Waits executor) :
    phase.task = 0 ∧ phase.pause = 0 := by
  cases phase with
  | looping | blocked | woken | exited => exact ⟨rfl, rfl⟩
  | running stage =>
      cases stage with
      | checkingPause | pauseDeclined =>
          rcases idle with asleep | waits
          · cases asleep
          · cases waits
      | _ => exact ⟨rfl, rfl⟩
  | _ =>
      rcases idle with asleep | waits
      · cases asleep
      · cases waits

theorem WorkerPhase.asleep_of_free (idle : phase.Asleep ∨ phase.Waits executor)
    (taskFree : executor.taskMutexHeld = false) (pauseFree : executor.pauseMutexHeld = false) :
    phase.Asleep := by
  rcases idle with asleep | waits
  · exact asleep
  · cases phase with
    | looping | woken => exact Bool.noConfusion (taskFree.symm.trans waits)
    | running stage =>
        cases stage with
        | loopTop | pauseWoken => exact Bool.noConfusion (pauseFree.symm.trans waits)
        | _ => cases waits
    | _ => cases waits

theorem exists_notifiesOne (workers : List (WorkerPhase F)) :
    ∃ after, NotifiesOne workers after := by
  by_cases waiter : .blocked ∈ workers
  · obtain ⟨front, back, rfl⟩ := List.append_of_mem waiter
    exact ⟨_, .waiter⟩
  · refine ⟨workers, .nobody fun phase member same => ?_⟩
    exact waiter (same ▸ member)

end

namespace TrainingSystem

variable {F : Type} [FitnessArithmetic F] {setup : TrainingSetup} {system : TrainingSystem F}

/-- **Nobody waits for nobody.** When no worker has a step, all of them sleep or are gone. -/
theorem asleep_of_stuck (orderly : system.Orderly) (sound : system.AllSound)
    (stuck : ∀ after, ¬ Step setup system .work after) {phase : WorkerPhase F}
    (member : phase ∈ system.workers) : phase.Asleep := by
  have idle : ∀ phase ∈ system.workers, phase.Asleep ∨ phase.Waits system.executor := by
    intro phase member
    obtain ⟨front, back, split⟩ := List.append_of_mem member
    rcases WorkerPhase.moves_or_waits (sound phase member) with
      ⟨_, _, moved⟩ | ⟨result, rfl⟩ | idle
    · exact absurd (.work front back split moved) (stuck _)
    · obtain ⟨after, notified⟩ := exists_notifiesOne (front ++ .notified result :: back)
      exact absurd (.notifyOne front back split notified) (stuck _)
    · exact idle
  have taskFree : system.executor.taskMutexHeld = false := by
    have none : tally WorkerPhase.task system.workers = 0 :=
      tally_eq_zero fun phase member => (WorkerPhase.holds_nothing (idle phase member)).1
    exact Bool.toNat_eq_zero.mp (orderly.task.trans none)
  have pauseFree : system.executor.pauseMutexHeld = false := by
    have none : tally WorkerPhase.pause system.workers = 0 :=
      tally_eq_zero fun phase member => (WorkerPhase.holds_nothing (idle phase member)).2
    exact Bool.toNat_eq_zero.mp (orderly.pause.trans none)
  exact WorkerPhase.asleep_of_free (idle phase member) taskFree pauseFree

end TrainingSystem

end DirtSim
