import DirtSim.Training.Delivery

/-! # Every evaluation is returned once

With a limit of at least one, an evaluation that waits in the queue has a worker that will look
for it: a worker goes to sleep on a queue that is not empty only while another one is awake. So
when no worker can do anything, whatever is left lies in the two queues of results.
-/

namespace DirtSim

open Foundation

section

variable {F : Type} {executor after : EvaluationExecutor F} {phase next : WorkerPhase F}
  {queue : List QueuedEvaluation} {awake more : ℕ}

/-- A worker about to sleep although there may be work leaves another one awake. -/
def WorkerPhase.Heeds (queue : List QueuedEvaluation) (awake : ℕ) : WorkerPhase F → Prop
  | .counted active => 1 ≤ active → 2 ≤ awake
  | .declined => queue ≠ [] → 2 ≤ awake
  | _ => True

theorem WorkerPhase.heeds_of_outside (outside : phase.task = 0) : phase.Heeds queue awake := by
  cases phase with
  | counted | declined => cases outside
  | _ => trivial

theorem WorkerPhase.Heeds.mono (heeds : phase.Heeds queue awake) (bound : awake ≤ more) :
    phase.Heeds queue more := by
  cases phase with
  | counted => exact fun some => (heeds some).trans bound
  | declined => exact fun some => (heeds some).trans bound
  | _ => trivial

theorem Alert.heeds (alert : Alert phase next) (heeds : phase.Heeds queue awake) :
    next.Heeds queue awake := by
  cases alert with
  | stay => exact heeds
  | _ => trivial

theorem WorkerMove.heeds (moved : WorkerMove executor phase after next)
    (heeds : phase.Heeds executor.taskQueue awake) (limited : 1 ≤ executor.allowedConcurrency)
    (counted : phase = .consulting → executor.activeEvaluations + 1 ≤ awake) :
    next.Heeds after.taskQueue awake := by
  cases moved with
  | seeEmpty empty => exact fun some => absurd empty some
  | count => 
      intro some
      have bound := counted rfl
      omega
  | decline full =>
      intro _
      exact heeds (by omega)
  | _ => trivial

end

def TrainingAction.LimitsAndGoesOn : TrainingAction → Prop
  | .allowedConcurrencySet allowedConcurrency => 1 ≤ allowedConcurrency
  | .stop => False
  | _ => True

namespace TrainingSystem

variable {F : Type} [FitnessArithmetic F] {setup : TrainingSetup} {system after : TrainingSystem F}
  {action : TrainingAction}
variable {queued : QueuedEvaluation}

/-- An evaluation that waits is going to be looked for, and a paused worker to be woken. -/
structure Attended (system : TrainingSystem F) : Prop where
  limited : 1 ≤ system.executor.allowedConcurrency
  manned : system.workers ≠ []
  heeds : ∀ phase ∈ system.workers,
    phase.Heeds system.executor.taskQueue (tally WorkerPhase.awake system.workers)
  attended : system.executor.taskQueue ≠ [] →
    system.main = .announcing ∨ 1 ≤ tally WorkerPhase.awake system.workers
  declinedPause : ∀ queued visible, .running .pauseDeclined queued visible ∈ system.workers →
    system.executor.paused = true
  blockedPause : ∀ queued visible, .running .pauseBlocked queued visible ∈ system.workers →
    system.executor.paused = true ∨ system.main = .announcingPause

theorem Delivering.not_join (delivering : Delivering setup system)
    (step : Step setup system action after) : action ≠ .join := by
  have expects := delivering.expects
  cases step with
  | join joining =>
      rw [Expects, joining] at expects
      exact expects.elim
  | _ => intro same; cases same

theorem Attended.limited_step (attended : system.Attended) (step : Step setup system action after)
    (limits : action.LimitsAndGoesOn) (goesOn : action ≠ .join) :
    1 ≤ after.executor.allowedConcurrency := by
  cases step with
  | work _ _ _ moved => exact moved.frame.2.2 ▸ attended.limited
  | allowedConcurrencySet allowedConcurrency =>
      have manned := List.length_pos_of_ne_nil attended.manned
      have limits : 1 ≤ allowedConcurrency := limits
      show 1 ≤ max 0 (min allowedConcurrency (system.workers.length : ℤ))
      omega
  | join => exact absurd rfl goesOn
  | _ => exact attended.limited

theorem Attended.manned_step (attended : system.Attended) (step : Step setup system action after)
    (goesOn : action ≠ .join) : after.workers ≠ [] := by
  rcases step.workers_cases with
    ⟨_, front, _, next, back, _, _, _, same⟩ | ⟨alerted, _⟩ | ⟨joined, _⟩
  · rw [same]
    exact List.append_ne_nil_of_right_ne_nil _ (List.cons_ne_nil _ _)
  · intro none
    exact attended.manned (List.length_eq_zero_iff.mp
      ((List.Forall₂.length_eq alerted).trans (congrArg List.length none)))
  · exact absurd joined goesOn

omit [FitnessArithmetic F] in
theorem awake_move {front back : List (WorkerPhase F)} {phase next : WorkerPhase F}
    (stays : phase.awake ≤ next.awake) :
    tally WorkerPhase.awake (front ++ phase :: back) ≤
      tally WorkerPhase.awake (front ++ next :: back) := by
  rw [tally_split, tally_split]
  omega

theorem Attended.heeds_step (attended : system.Attended) (delivering : Delivering setup system)
    (step : Step setup system action after) (goesOn : action ≠ .join) :
    ∀ phase ∈ after.workers,
      phase.Heeds after.executor.taskQueue (tally WorkerPhase.awake after.workers) := by
  rcases step.workers_cases with
    ⟨_, front, mover, next, back, executor, split, moved, same⟩ |
      ⟨alerted, _, _, _, _, queue, _⟩ | ⟨joined, _⟩
  · rw [same]
    have among : mover ∈ system.workers := split ▸ mem_splice.mpr (Or.inl rfl)
    have counted : mover = .consulting → system.executor.activeEvaluations + 1 ≤
        (tally WorkerPhase.awake system.workers : ℕ) := by
      rintro rfl
      have fewer := tally_le_tally WorkerPhase.active_le_awake (front ++ back)
      rw [delivering.orderly.active, split, tally_split, tally_split]
      simp only [WorkerPhase.active, WorkerPhase.awake]
      omega
    have nextHeeds := moved.heeds (attended.heeds mover among) attended.limited counted
    intro phase member
    by_cases sleeps : mover = .declined
    · rcases mem_splice.mp member with rfl | other
      · rw [sleeps] at moved
        cases moved
        trivial
      · apply WorkerPhase.heeds_of_outside
        exact delivering.orderly.alone split (sleeps ▸ rfl) other
    · have more : tally WorkerPhase.awake system.workers ≤
          tally WorkerPhase.awake (front ++ next :: back) := by
        rw [split]
        exact awake_move (moved.awake delivering.goes sleeps (delivering.remain mover among).1)
      rcases mem_splice.mp member with rfl | other
      · exact nextHeeds.mono more
      · by_cases holds : mover.task = 0
        · have kept := attended.heeds phase (split ▸ mem_splice.mpr (Or.inr other))
          rw [← (moved.outside holds).1] at kept
          exact kept.mono more
        · have bound := mover.task_le_one
          exact WorkerPhase.heeds_of_outside
            (delivering.orderly.alone split (by omega) other)
  · have more := alerted.tally_le fun _ _ => Alert.awake
    intro next member
    obtain ⟨phase, among, alert⟩ := alerted.exists_of_mem member
    rcases queue with queue | free
    · rw [queue]
      exact alert.heeds ((attended.heeds phase among).mono more)
    · exact alert.heeds (WorkerPhase.heeds_of_outside (delivering.orderly.outside free among))
  · exact absurd joined goesOn

theorem Attended.attended_step (attended : system.Attended) (delivering : Delivering setup system)
    (step : Step setup system action after) :
    after.executor.taskQueue ≠ [] →
      after.main = .announcing ∨ 1 ≤ tally WorkerPhase.awake after.workers := by
  have kept := attended.attended
  intro waiting
  cases step with
  | @work front mover next back executor split moved =>
      have some := moved.waiting waiting
      refine (kept some).imp_right fun one => ?_
      have among : mover ∈ system.workers := split ▸ mem_splice.mpr (Or.inl rfl)
      by_cases sleeps : mover = .declined
      · have two := attended.heeds mover among
        rw [sleeps] at two moved
        have two := two some
        rw [split, sleeps, tally_split] at two
        rw [tally_split]
        simp only [WorkerPhase.awake] at two
        omega
      · have more : tally WorkerPhase.awake (front ++ mover :: back) ≤
            tally WorkerPhase.awake (front ++ next :: back) :=
          awake_move (moved.awake delivering.goes sleeps (delivering.remain mover among).1)
        exact one.trans (split ▸ more)
  | notifyOne front back split notified =>
      exact (kept waiting).imp_right fun one =>
        one.trans ((Alerted.of_notifyOne split notified).tally_le fun _ _ => Alert.awake)
  | wakeSpuriously front back split =>
      exact (kept waiting).imp_right fun one =>
        one.trans ((Alerted.of_wake split).tally_le fun _ _ => Alert.awake)
  | announce =>
      obtain ⟨phase, workers, same⟩ := List.exists_cons_of_ne_nil attended.manned
      have present := (delivering.remain phase (same ▸ List.mem_cons_self)).2
      refine Or.inr ?_
      show 1 ≤ tally WorkerPhase.awake (system.workers.map WorkerPhase.wake)
      rw [same, List.map_cons, tally_cons, WorkerPhase.awake_wake present]
      exact Nat.le_add_right 1 _
  | announcePause serving | stopNotifyPause serving =>
      have one := (kept waiting).resolve_left fun same => by rw [serving] at same; cases same
      exact Or.inr (one.trans ((Alerted.map alert_wakePause _).tally_le fun _ _ => Alert.awake))
  | stopNotifyTask serving =>
      have one := (kept waiting).resolve_left fun same => by rw [serving] at same; cases same
      exact Or.inr (one.trans ((Alerted.map alert_wake _).tally_le fun _ _ => Alert.awake))
  | enqueue => exact Or.inl rfl
  | allowedConcurrencySet => exact Or.inl rfl
  | join => exact absurd rfl waiting
  | command => exact kept waiting
  | completedDrain serving | visibleTick serving | processResult serving | pauseSet _ serving
  | stop serving | submit serving | assertionFails serving | liftPause serving =>
      exact Or.inr ((kept waiting).resolve_left fun same => by rw [serving] at same; cases same)

theorem Attended.declinedPause_step (attended : system.Attended)
    (delivering : Delivering setup system) (step : Step setup system action after) {visible : Bool}
    (member : .running .pauseDeclined queued visible ∈ after.workers) :
    after.executor.paused = true := by
  rcases step.workers_cases with
    ⟨_, front, mover, next, back, executor, split, moved, same⟩ |
      ⟨alerted, _, _, _, _, _, paused⟩ | ⟨_, none, _⟩
  · rw [same] at member ⊢
    rcases mem_splice.mp member with rfl | other
    · cases moved with
      | declinePause paused => exact paused
    · exact moved.frame.2.1.trans
        (attended.declinedPause queued visible (split ▸ mem_splice.mpr (Or.inr other)))
  · obtain ⟨phase, among, alert⟩ := alerted.exists_of_mem member
    cases alert with
    | stay =>
        rcases paused with paused | free
        · exact paused.trans (attended.declinedPause queued visible among)
        · cases delivering.orderly.outsidePause free among
  · rw [none] at member
    cases member

theorem Attended.blockedPause_step (attended : system.Attended)
    (delivering : Delivering setup system) (step : Step setup system action after)
    (goesOn : action ≠ .stop) {visible : Bool}
    (member : .running .pauseBlocked queued visible ∈ after.workers) :
    after.executor.paused = true ∨ after.main = .announcingPause := by
  have kept := attended.blockedPause queued visible
  have expects := delivering.expects
  cases step with
  | work front back split moved =>
      rw [moved.frame.2.1]
      rcases mem_splice.mp member with same | other
      · cases same
        cases moved with
        | blockPause => 
            exact Or.inl (attended.declinedPause queued visible
              (split ▸ mem_splice.mpr (Or.inl rfl)))
      · exact kept (split ▸ mem_splice.mpr (Or.inr other))
  | notifyOne front back split notified =>
      obtain ⟨phase, among, alert⟩ := (Alerted.of_notifyOne split notified).exists_of_mem member
      cases alert
      exact kept among
  | wakeSpuriously front back split =>
      obtain ⟨phase, among, alert⟩ := (Alerted.of_wake split).exists_of_mem member
      cases alert
      exact kept among
  | announce announcing =>
      obtain ⟨phase, among, alert⟩ := (Alerted.map alert_wake _).exists_of_mem member
      cases alert
      exact (kept among).imp_right fun same => by rw [announcing] at same; cases same
  | announcePause =>
      obtain ⟨phase, _, same⟩ := List.mem_map.mp member
      exact absurd same phase.wakePause_ne
  | pauseSet => exact Or.inr rfl
  | command => exact kept member
  | completedDrain serving | visibleTick serving | processResult serving | submit serving
  | assertionFails serving | enqueue serving | allowedConcurrencySet _ serving =>
      exact (kept member).imp_right fun same => by rw [serving] at same; cases same
  | stop => exact absurd rfl goesOn
  | liftPause main | stopNotifyPause main | stopNotifyTask main | join main =>
      rw [Expects, main] at expects
      exact expects.elim

theorem Attended.step (attended : system.Attended) (delivering : Delivering setup system)
    (step : Step setup system action after) (limits : action.LimitsAndGoesOn) :
    after.Attended := by
  have goesOn : action ≠ .stop := fun same => by rw [same] at limits; exact limits
  have joins := delivering.not_join step
  exact ⟨attended.limited_step step limits joins, attended.manned_step step joins,
    attended.heeds_step delivering step joins, attended.attended_step delivering step,
    fun _ _ => attended.declinedPause_step delivering step,
    fun _ _ => attended.blockedPause_step delivering step goesOn⟩

omit [FitnessArithmetic F] in
theorem attended_start (maxParallelEvaluations : ℤ) (evolution : Evolution F) :
    (start maxParallelEvaluations evolution).Attended := by
  refine ⟨le_max_left _ _, ?_, ?_, fun waiting => absurd rfl waiting, ?_, ?_⟩
  · intro none
    have length := congrArg List.length none
    rw [start, List.length_replicate] at length
    simp only [List.length_nil] at length
    omega
  · intro phase member
    rw [List.eq_of_mem_replicate member]
    trivial
  · intro _ _ member
    cases List.eq_of_mem_replicate member
  · intro _ _ member
    cases List.eq_of_mem_replicate member

theorem attended_of_run {first : TrainingSystem F} {labels : List TrainingAction}
    (initial : (machine F setup).initial first) (run : (machine F setup).Run first labels system)
    (limits : ∀ action ∈ labels, action.LimitsAndGoesOn) : system.Attended := by
  have guarded := run.guard fun action member _ => limits action member
  have both : Delivering setup system ∧ system.Attended := by
    apply guarded.invariant
    · intro before action next holds moved
      have goesOn : action ≠ .stop := fun same => by
        have limits := moved.2
        rw [same] at limits
        exact limits
      exact ⟨holds.1.step moved.1 goesOn, holds.2.step holds.1 moved.1 moved.2⟩
    · obtain ⟨maxParallelEvaluations, repository, _, evolution, started, rfl⟩ := initial
      exact ⟨delivering_start _ repository started, attended_start _ evolution⟩
  exact both.2

theorem Attended.undelivered_of_stuck (attended : system.Attended)
    (delivering : Delivering setup system) (serving : system.main = .serving)
    (unpaused : system.executor.paused = false)
    (stuck : ∀ after, ¬ Step setup system .work after) :
    system.undelivered =
      (system.executor.resultQueue.map FinishedEvaluation.queued : Multiset QueuedEvaluation) +
        (system.executor.visibleCompleted.map FinishedEvaluation.queued :
          Multiset QueuedEvaluation) := by
  have blocked : ∀ phase ∈ system.workers, phase = .blocked := by
    intro phase member
    have asleep := asleep_of_stuck delivering.orderly delivering.sound stuck member
    cases phase with
    | blocked => rfl
    | exited => exact absurd rfl (delivering.remain _ member).2
    | running stage queued visible =>
        cases stage with
        | pauseBlocked =>
            rcases attended.blockedPause queued visible member with paused | announcing
            · exact Bool.noConfusion (unpaused.symm.trans paused)
            · rw [serving] at announcing
              cases announcing
        | _ => cases asleep
    | _ => cases asleep
  have empty : system.executor.taskQueue = [] := by
    by_contra waiting
    have none : tally WorkerPhase.awake system.workers = 0 :=
      tally_eq_zero fun phase member => by rw [blocked phase member]; rfl
    rcases attended.attended waiting with announcing | one
    · rw [serving] at announcing
      cases announcing
    · omega
  have carried : tally WorkerPhase.carried system.workers = 0 :=
    tally_eq_zero fun phase member => by rw [blocked phase member]; rfl
  rw [undelivered, carried, EvaluationExecutor.stored, empty, add_zero, Multiset.coe_nil, zero_add]

/-- No new limit is set while a worker that was admitted has not taken its evaluation. -/
def KeepsLimit (system : TrainingSystem F) (action : TrainingAction) : Prop :=
  ∀ allowedConcurrency, action = .allowedConcurrencySet allowedConcurrency →
    ∀ limit, .admitted limit ∉ system.workers

/-- The limit a worker was admitted at is the limit. -/
def AtLimit (system : TrainingSystem F) : Prop :=
  ∀ limit, .admitted limit ∈ system.workers → limit = system.executor.allowedConcurrency

omit [FitnessArithmetic F] in
theorem AtLimit.of_alerted (atLimit : system.AtLimit) {workers : List (WorkerPhase F)}
    (alerted : Alerted system.workers workers) {limit : ℤ} (member : .admitted limit ∈ workers) :
    limit = system.executor.allowedConcurrency := by
  obtain ⟨phase, among, alert⟩ := alerted.exists_of_mem member
  cases alert
  exact atLimit limit among

theorem AtLimit.step (atLimit : system.AtLimit) (step : Step setup system action after)
    (keeps : system.KeepsLimit action) : after.AtLimit := by
  cases step with
  | work front back split moved =>
      intro limit member
      rcases mem_splice.mp member with same | other
      · cases same
        cases moved
        rfl
      · exact (atLimit limit (split ▸ mem_splice.mpr (Or.inr other))).trans moved.frame.2.2.symm
  | notifyOne front back split notified =>
      exact fun limit => atLimit.of_alerted (.of_notifyOne split notified)
  | wakeSpuriously front back split => exact fun limit => atLimit.of_alerted (.of_wake split)
  | announce | stopNotifyTask => exact fun limit => atLimit.of_alerted (.map alert_wake _)
  | announcePause | stopNotifyPause =>
      exact fun limit => atLimit.of_alerted (.map alert_wakePause _)
  | allowedConcurrencySet =>
      intro limit member
      exact absurd member (keeps _ rfl limit)
  | join =>
      intro limit member
      cases member
  | _ => exact atLimit

theorem atLimit_of_guarded {first : TrainingSystem F} {labels : List TrainingAction}
    (initial : (machine F setup).initial first)
    (run : ((machine F setup).guarded KeepsLimit).Run first labels system) : system.AtLimit := by
  apply run.invariant
  · intro before action next atLimit moved
    exact atLimit.step moved.1 moved.2
  · obtain ⟨_, _, _, evolution, _, rfl⟩ := initial
    intro limit member
    cases List.eq_of_mem_replicate member

theorem Delivering.returned_nodup (delivering : Delivering setup system) :
    ((system.drained ++ system.ticked).map fun finished => finished.queued.number).Nodup := by
  have fewer : system.returned.map QueuedEvaluation.number ≤
      (system.submitted : Multiset QueuedEvaluation).map QueuedEvaluation.number := by
    apply Multiset.map_le_map
    rw [delivering.conserved]
    exact Multiset.le_add_right _ _
  have distinct : ((system.submitted : Multiset QueuedEvaluation).map
      QueuedEvaluation.number).Nodup := by
    rw [Multiset.map_coe, delivering.numbered]
    exact Multiset.coe_nodup.mpr List.nodup_range
  have once := Multiset.nodup_of_le fewer distinct
  rw [returned, Multiset.map_coe, List.map_map] at once
  exact Multiset.coe_nodup.mp once

/-- **Every evaluation is returned once.** In every run without a stop, whatever was submitted is
either returned, once and by one of the two queues, or still in one place inside the executor. At
most one evaluation is visible, no handle is active once everything is returned, and the
assertions of the submissions never fail. A worker takes an evaluation only while fewer are
active than the limit that it read with `taskMutex`, which is the limit unless a new one was set
since. With limits of at least one, and while the training is not paused, the workers come to
rest only when all that is left lies in the two queues of results. -/
theorem each_evaluation_returned_once {first : TrainingSystem F} {labels : List TrainingAction}
    (initial : (machine F setup).initial first) (run : (machine F setup).Run first labels system)
    (goesOn : .stop ∉ labels) :
    (system.submitted : Multiset QueuedEvaluation) = system.returned + system.undelivered ∧
      ((system.drained ++ system.ticked).map fun finished => finished.queued.number).Nodup ∧
      (tally WorkerPhase.visible system.workers).card ≤ 1 ∧
      (system.undelivered = 0 → system.executor.activeHandle = none) ∧
      system.main ≠ .aborted ∧
      (∀ limit, .admitted limit ∈ system.workers → system.executor.activeEvaluations < limit) ∧
      (((machine F setup).guarded KeepsLimit).Run first labels system →
        ∀ limit, .admitted limit ∈ system.workers →
          limit = system.executor.allowedConcurrency) ∧
      ((∀ action ∈ labels, action.LimitsAndGoesOn) → system.main = .serving →
        system.executor.paused = false → (∀ after, ¬ Step setup system .work after) →
        system.undelivered =
          (system.executor.resultQueue.map FinishedEvaluation.queued :
              Multiset QueuedEvaluation) +
            (system.executor.visibleCompleted.map FinishedEvaluation.queued :
              Multiset QueuedEvaluation)) := by
  have delivering : Delivering setup system := by
    apply delivering_of_guarded
    refine ⟨first, labels, initial, run.guard fun action member _ same => goesOn (same ▸ member)⟩
  refine ⟨delivering.conserved, delivering.returned_nodup, ?_,
    delivering.orderly.activeHandle_eq_none, ?_, ?_, ?_, ?_⟩
  · rw [← delivering.orderly.shown, EvaluationExecutor.shown, Multiset.coe_card]
    cases system.executor.activeHandle <;> simp
  · intro aborted
    have expects := delivering.expects
    rw [Expects, aborted] at expects
    exact expects
  · intro limit member
    exact (delivering.sound _ member).2
  · intro guarded
    exact atLimit_of_guarded initial guarded
  · intro limits serving unpaused stuck
    exact (attended_of_run initial run limits).undelivered_of_stuck delivering serving unpaused
      stuck

section

/-! ## A limit set between the predicate and the taking -/

open Evolution

theorem exists_contestants : ∃ evolution : Evolution ℚ,
    initializePopulation (contestSetup {}) {} [[], [contestGenome]] = some evolution ∧
      evolution.population.length = 2 :=
  Option.map_eq_some_iff.mp (show (initializePopulation (contestSetup {}) {}
    [[], [contestGenome]]).map (fun evolution : Evolution ℚ => evolution.population.length) =
      some 2 by decide +kernel)

theorem exists_overtaken (setup : TrainingSetup) (evolution : Evolution F)
    {rest : List QueuedEvaluation}
    (front : evolution.queueGenerationTasks.queued 0 = queued :: rest) :
    ∃ system, (machine F setup).Run (start 1 evolution)
        [.submit, .enqueue, .announce, .work, .work, .work, .work, .allowedConcurrencySet 0]
        system ∧
      system.workers = [.admitted 1] ∧ system.executor.taskQueue = queued :: rest ∧
      system.executor.stopRequested = false ∧ system.executor.activeEvaluations = 0 ∧
      system.executor.allowedConcurrency = 0 := by
  have waiting : evolution.queueGenerationTasks.queued 0 ≠ [] := by
    rw [front]
    exact List.cons_ne_nil _ _
  refine ⟨_, .cons (.submit rfl rfl) (.cons (.enqueue rfl rfl) (.cons (.announce rfl)
    (.cons (.work [] [] rfl (.lock rfl)) (.cons (.work [] [] rfl (.seeNoStop rfl))
    (.cons (.work [] [] rfl (.count waiting)) (.cons (.work [] [] rfl (.letIn zero_lt_one))
    (.cons (.allowedConcurrencySet 0 rfl) (.nil _)))))))), rfl, front, rfl, rfl, rfl⟩

theorem exists_firstTask {evolution : Evolution ℚ} (two : evolution.population.length = 2) :
    ∃ queued rest, evolution.queueGenerationTasks.queued 0 = queued :: rest := by
  apply List.exists_cons_of_ne_nil
  intro none
  have length := evolution.queueGenerationTasks.length_queued 0
  rw [none, queueGenerationTasks, Submission.requests, List.length_map, List.length_range,
    two] at length
  cases length

/-- The worker that was admitted takes its evaluation although none may run any more. -/
theorem not_below_limit :
    ¬ ∀ (setup : TrainingSetup) (first system : TrainingSystem ℚ) (labels : List TrainingAction),
      (machine ℚ setup).initial first → (machine ℚ setup).Run first labels system →
        .stop ∉ labels → ∀ (front back : List (WorkerPhase ℚ)) (limit : ℤ)
          (executor : EvaluationExecutor ℚ) (queued : QueuedEvaluation),
          system.workers = front ++ .admitted limit :: back →
          WorkerMove system.executor (.admitted limit) executor (.taken queued) →
          system.executor.activeEvaluations < system.executor.allowedConcurrency := by
  intro always
  obtain ⟨evolution, started, two⟩ := exists_contestants
  obtain ⟨queued, rest, front⟩ := exists_firstTask two
  obtain ⟨system, run, workers, queue, goes, active, limit⟩ :=
    exists_overtaken (contestSetup {}) evolution front
  have below := always (contestSetup {}) _ system _ ⟨1, {}, _, evolution, started, rfl⟩ run
    (by decide) [] [] 1 _ queued workers (.take goes queue)
  rw [active, limit] at below
  exact lt_irrefl _ below

theorem each_evaluation_returned_once_overtaken :
    ∃ (evolution : Evolution ℚ) (system : TrainingSystem ℚ),
      (machine ℚ (contestSetup {})).Run (start 1 evolution)
        [.submit, .enqueue, .announce, .work, .work, .work, .work, .allowedConcurrencySet 0]
        system ∧
      (system.submitted : Multiset QueuedEvaluation) = system.returned + system.undelivered ∧
      system.workers = [.admitted 1] ∧ system.executor.activeEvaluations < 1 := by
  obtain ⟨evolution, started, two⟩ := exists_contestants
  obtain ⟨queued, rest, front⟩ := exists_firstTask two
  obtain ⟨system, run, workers, _⟩ :=
    exists_overtaken (contestSetup {}) evolution front
  obtain ⟨conserved, _, _, _, _, below, _⟩ := each_evaluation_returned_once
    ⟨1, {}, _, evolution, started, rfl⟩ run (by decide)
  exact ⟨evolution, system, run, conserved, workers,
    below 1 (workers ▸ List.mem_singleton_self _)⟩

/-- **Locks and counts.** In every interleaving, also while the executor stops, the workers that
hold a mutex, evaluate or show their evaluation are those its state speaks of, and what a worker has
seen under the mutex holds until it acts on it. -/
theorem orderly_allSound_of_reachable {setup : TrainingSetup} {system : TrainingSystem F}
    (reached : (machine F setup).Reachable system) : system.Orderly ∧ system.AllSound := by
  apply reached.invariant
  · rintro state ⟨_, _, _, evolution, _, rfl⟩
    refine ⟨orderly_start _ evolution, fun phase member => ?_⟩
    rw [List.eq_of_mem_replicate member]
    trivial
  · intro before action after holds moved
    exact ⟨holds.1.step moved, holds.2.step holds.1 moved⟩

theorem orderly_allSound_overtaken : ∃ system : TrainingSystem ℚ,
    system.workers = [.admitted 1] ∧ system.Orderly ∧ system.AllSound := by
  obtain ⟨evolution, started, two⟩ := exists_contestants
  obtain ⟨queued, rest, front⟩ := exists_firstTask two
  obtain ⟨system, run, workers, _⟩ := exists_overtaken (contestSetup {}) evolution front
  exact ⟨system, workers,
    orderly_allSound_of_reachable ⟨_, _, ⟨1, {}, _, evolution, started, rfl⟩, run⟩⟩

end

end TrainingSystem

end DirtSim
