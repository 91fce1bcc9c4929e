import DirtSim.Training.ExecutorInvariants

/-! # Stopping

`stop` stores `stopRequested` without `taskMutex` and then notifies: a worker that has evaluated its
predicate and not yet gone to sleep is not woken. Where no worker is between the two, every run ends
with all workers joined.
-/

namespace DirtSim

open Foundation

section

variable {F : Type} {executor after : EvaluationExecutor F} {phase next : WorkerPhase F}

/-- The worker read `stopRequested` before it was set and goes to sleep with what it finds. -/
def WorkerPhase.MissesStop (executor : EvaluationExecutor F) : WorkerPhase F → Prop
  | .consulting => executor.taskQueue = [] ∨
      ¬ executor.activeEvaluations < executor.allowedConcurrency
  | .counted active => ¬ active < executor.allowedConcurrency
  | .declined => True
  | _ => False

def WorkerPhase.PauseDeclined : WorkerPhase F → Prop
  | .running .pauseDeclined _ _ => True
  | _ => False

def WorkerPhase.PauseBlocked : WorkerPhase F → Prop
  | .running .pauseBlocked _ _ => True
  | _ => False

/-- The worker is awake and will see `stopRequested`. -/
def WorkerPhase.Warned (executor : EvaluationExecutor F) : WorkerPhase F → Prop
  | .consulting => executor.taskQueue ≠ [] ∧
      executor.activeEvaluations < executor.allowedConcurrency
  | .counted active => active < executor.allowedConcurrency
  | .declined | .blocked => False
  | .running .pauseDeclined _ _ | .running .pauseBlocked _ _ => False
  | _ => True

def WorkerPhase.distance : WorkerPhase F → ℕ
  | .exited | .blocked | .declined => 0
  | .running .pauseDeclined _ _ | .running .pauseBlocked _ _ => 0
  | .leaving | .admitted _ => 1
  | .counted _ => 2
  | .consulting => 3
  | .evaluating => 4
  | .looping | .woken => 5
  | .publishing _ => 6
  | .notified _ => 7
  | .decremented _ => 8
  | .returning _ => 9
  | .delivering _ => 10
  | .finishing _ _ => 11
  | .running .passed _ _ => 12
  | .running .stepping _ _ => 13
  | .running .checkingPause _ _ => 14
  | .running .loopTop _ _ | .running .pauseWoken _ _ => 15
  | .taken _ => 16

/-- A worker that sees `stopRequested` comes closer to its end with each step, and never goes
back to sleep. -/
theorem WorkerMove.warned (moved : WorkerMove executor phase after next)
    (stop : executor.stopRequested = true) (warned : phase.Warned executor) :
    next.Warned after ∧ next.distance < phase.distance := by
  cases moved with
  | lock | relock => exact ⟨trivial, by simp [WorkerPhase.distance]⟩
  | seeStop => exact ⟨trivial, by simp [WorkerPhase.distance]⟩
  | seeEmpty empty => exact absurd empty warned.1
  | count => exact ⟨warned.2, by simp [WorkerPhase.distance]⟩
  | letIn => exact ⟨trivial, by simp [WorkerPhase.distance]⟩
  | decline full => exact absurd warned full
  | block | blockPause => exact warned.elim
  | leave | quit => exact ⟨trivial, by simp [WorkerPhase.distance]⟩
  | claim | share | enterPause | passPause | relockPause =>
      exact ⟨trivial, by simp [WorkerPhase.distance]⟩
  | @abandon stage _ _ checks =>
      refine ⟨trivial, ?_⟩
      cases stage with
      | pauseDeclined | pauseBlocked => cases checks
      | _ => simp [WorkerPhase.distance]
  | handBack | releaseVisible | complete | decrement | exit | publish =>
      exact ⟨trivial, by simp [WorkerPhase.distance]⟩
  | seeNoStop goes | take goes | declinePause _ goes | goOn goes | endPass goes | nextPass goes
  | finishPasses _ goes | finishVisible goes | loopAgain goes | keepResult goes =>
      exact Bool.noConfusion (stop.symm.trans goes)

theorem WorkerMove.not_pauseDeclined (moved : WorkerMove executor phase after next)
    (stop : executor.stopRequested = true) : ¬ next.PauseDeclined := by
  cases moved with
  | declinePause _ goes => exact Bool.noConfusion (stop.symm.trans goes)
  | _ => exact id

theorem WorkerMove.not_pauseBlocked (moved : WorkerMove executor phase after next)
    (unpaused : ¬ phase.PauseDeclined) : ¬ next.PauseBlocked := by
  cases moved with
  | blockPause => exact absurd trivial unpaused
  | _ => exact id

theorem WorkerPhase.Warned.outside (warned : phase.Warned executor)
    (queue : after.taskQueue = executor.taskQueue)
    (active : after.activeEvaluations ≤ executor.activeEvaluations)
    (limit : after.allowedConcurrency = executor.allowedConcurrency) : phase.Warned after := by
  cases phase with
  | consulting => exact ⟨queue ▸ warned.1, limit ▸ lt_of_le_of_lt active warned.2⟩
  | counted active =>
      show active < after.allowedConcurrency
      rw [limit]
      exact warned
  | running stage => cases stage <;> exact warned
  | _ => exact warned

theorem WorkerPhase.Warned.of_free (warned : phase.Warned executor) (outside : phase.task = 0) :
    phase.Warned after := by
  cases phase with
  | consulting | counted => cases outside
  | running stage => cases stage <;> exact warned
  | _ => exact warned

theorem WorkerPhase.warned_wake (sees : ¬ phase.MissesStop executor)
    (unpaused : ¬ phase.PauseDeclined) (awakePause : ¬ phase.PauseBlocked) :
    phase.wake.Warned executor := by
  cases phase with
  | consulting => exact ⟨fun empty => sees (Or.inl empty), not_not.mp fun full =>
      sees (Or.inr full)⟩
  | counted => exact not_not.mp sees
  | declined => exact sees trivial
  | running stage =>
      cases stage with
      | pauseDeclined => exact unpaused trivial
      | pauseBlocked => exact awakePause trivial
      | _ => trivial
  | _ => trivial

theorem WorkerPhase.Warned.awake (warned : phase.Warned executor) :
    phase ≠ .blocked ∧ ¬ phase.PauseBlocked := by
  cases phase with
  | blocked => exact warned.elim
  | running stage =>
      cases stage with
      | pauseBlocked => exact warned.elim
      | _ => exact ⟨(fun same => by cases same), id⟩
  | _ => exact ⟨(fun same => by cases same), id⟩

theorem NotifiesOne.eq_of_awake {before after : List (WorkerPhase F)}
    (notified : NotifiesOne before after) (awake : ∀ phase ∈ before, phase ≠ .blocked) :
    after = before := by
  cases notified with
  | nobody => rfl
  | waiter => exact absurd rfl (awake .blocked (mem_splice.mpr (Or.inl rfl)))

theorem WorkerPhase.Warned.not_asleep (warned : phase.Warned executor) (asleep : phase.Asleep) :
    phase = .exited := by
  cases phase with
  | exited => rfl
  | blocked => exact warned.elim
  | running stage =>
      cases stage with
      | pauseBlocked => exact warned.elim
      | _ => exact asleep.elim
  | _ => exact asleep.elim

end

section

variable {F : Type} {executor after : EvaluationExecutor F} {phase next : WorkerPhase F}
  {main : MainPhase}

/-- What holds for each worker once `stop` has come so far. -/
def MainPhase.Secured (executor : EvaluationExecutor F) (phase : WorkerPhase F) :
    MainPhase → Prop
  | .unpaused => ¬ phase.PauseDeclined
  | .pauseNotified => ¬ phase.PauseDeclined ∧ ¬ phase.PauseBlocked
  | .joining => phase.Warned executor
  | _ => True

def MainPhase.Stops : MainPhase → Prop
  | .stopping | .unpaused | .pauseNotified | .joining => True
  | _ => False

theorem WorkerPhase.not_pauseDeclined_of_outside (outside : phase.pause = 0) :
    ¬ phase.PauseDeclined := by
  cases phase with
  | running stage =>
      cases stage with
      | pauseDeclined => cases outside
      | _ => exact id
  | _ => exact id

theorem WorkerPhase.wakePause_secured (unpaused : ¬ phase.PauseDeclined) :
    ¬ phase.wakePause.PauseDeclined ∧ ¬ phase.wakePause.PauseBlocked := by
  cases phase with
  | running stage =>
      cases stage with
      | pauseDeclined => exact absurd trivial unpaused
      | _ => exact ⟨id, id⟩
  | _ => exact ⟨id, id⟩

theorem MainPhase.not_stops_afterResult (submission : Option Submission) :
    ¬ (MainPhase.afterResult submission).Stops := by
  cases submission <;> exact id

theorem MainPhase.secured_of_not_stops (goesOn : ¬ main.Stops) : main.Secured executor phase := by
  cases main with
  | stopping | unpaused | pauseNotified | joining => exact absurd trivial goesOn
  | _ => trivial

theorem WorkerMove.secured (moved : WorkerMove executor phase after next)
    (stop : executor.stopRequested = true) (secured : main.Secured executor phase) :
    main.Secured after next := by
  cases main with
  | unpaused => exact moved.not_pauseDeclined stop
  | pauseNotified => exact ⟨moved.not_pauseDeclined stop, moved.not_pauseBlocked secured.1⟩
  | joining => exact (moved.warned stop secured).1
  | _ => trivial

theorem Alert.secured (alert : Alert phase next) (secured : main.Secured executor phase) :
    main.Secured executor next := by
  cases alert with
  | stay => exact secured
  | _ => cases main <;> first | trivial | exact id | exact ⟨id, id⟩

theorem MainPhase.Secured.outside (secured : main.Secured executor phase)
    (queue : after.taskQueue = executor.taskQueue)
    (active : after.activeEvaluations ≤ executor.activeEvaluations)
    (limit : after.allowedConcurrency = executor.allowedConcurrency) :
    main.Secured after phase := by
  cases main with
  | joining => exact WorkerPhase.Warned.outside secured queue active limit
  | _ => exact secured

theorem MainPhase.Secured.of_free (secured : main.Secured executor phase)
    (outside : phase.task = 0) : main.Secured after phase := by
  cases main with
  | joining => exact WorkerPhase.Warned.of_free secured outside
  | _ => exact secured

end

namespace TrainingSystem

variable {F : Type} [FitnessArithmetic F] {setup : TrainingSetup} {system after : TrainingSystem F}
  {action : TrainingAction}

/-- When `stop` notifies the waiters of `taskCv`, no worker has missed it. -/
def NobodyMissesStop (system : TrainingSystem F) (action : TrainingAction) : Prop :=
  action = .stopNotifyTask → ∀ phase ∈ system.workers, ¬ phase.MissesStop system.executor

structure Stopping (system : TrainingSystem F) : Prop where
  stop : system.main.Stops → system.executor.stopRequested = true
  secured : ∀ phase ∈ system.workers, system.main.Secured system.executor phase

theorem Stopping.stop_step (stopping : system.Stopping) (step : Step setup system action after) :
    after.main.Stops → after.executor.stopRequested = true := by
  have kept := stopping.stop
  cases step with
  | work front back split moved => exact fun stops => moved.frame.1.trans (kept stops)
  | processResult => exact fun stops => absurd stops (MainPhase.not_stops_afterResult _)
  | submit | assertionFails | enqueue | announce | announcePause | allowedConcurrencySet
  | pauseSet | join => exact False.elim
  | stop => exact fun _ => rfl
  | liftPause main | stopNotifyPause main | stopNotifyTask main =>
      rw [main] at kept
      exact fun _ => kept trivial
  | _ => exact kept

theorem Stopping.secured_step (stopping : system.Stopping) (orderly : system.Orderly)
    (step : Step setup system action after) (noticed : system.NobodyMissesStop action) :
    ∀ phase ∈ after.workers, after.main.Secured after.executor phase := by
  have secured := stopping.secured
  have alerted : ∀ {workers : List (WorkerPhase F)}, Alerted system.workers workers →
      ∀ phase ∈ workers, system.main.Secured system.executor phase := by
    intro workers alerted next member
    obtain ⟨phase, among, alert⟩ := alerted.exists_of_mem member
    exact alert.secured (secured phase among)
  cases step with
  | @work front mover next back executor split moved =>
      intro phase member
      by_cases stops : system.main.Stops
      · have stop := stopping.stop stops
        have moverSecured := secured mover (split ▸ mem_splice.mpr (Or.inl rfl))
        rcases mem_splice.mp member with rfl | other
        · exact moved.secured stop moverSecured
        · have kept := secured phase (split ▸ mem_splice.mpr (Or.inr other))
          by_cases holds : mover.task = 0
          · obtain ⟨queue, active⟩ := moved.outside holds
            exact kept.outside queue active moved.frame.2.2
          · have bound := mover.task_le_one
            exact kept.of_free (orderly.alone split (by omega) other)
      · exact MainPhase.secured_of_not_stops stops
  | notifyOne front back split notified => exact alerted (.of_notifyOne split notified)
  | wakeSpuriously front back split => exact alerted (.of_wake split)
  | liftPause main free =>
      intro phase member
      exact WorkerPhase.not_pauseDeclined_of_outside (orderly.outsidePause free member)
  | stopNotifyPause main =>
      intro next member
      obtain ⟨phase, among, rfl⟩ := List.mem_map.mp member
      have unpaused := secured phase among
      rw [main] at unpaused
      exact WorkerPhase.wakePause_secured unpaused
  | stopNotifyTask main =>
      intro next member
      obtain ⟨phase, among, rfl⟩ := List.mem_map.mp member
      have unpaused := secured phase among
      rw [main] at unpaused
      exact WorkerPhase.warned_wake (noticed rfl phase among) unpaused.1 unpaused.2
  | stop => exact fun _ _ => trivial
  | processResult =>
      exact fun _ _ => MainPhase.secured_of_not_stops (MainPhase.not_stops_afterResult _)
  | completedDrain serving | visibleTick serving | command serving =>
      exact fun _ _ => MainPhase.secured_of_not_stops (by rw [serving]; exact id)
  | _ => exact fun _ _ => MainPhase.secured_of_not_stops id

theorem stopping_of_guarded
    (reached : ((machine F setup).guarded NobodyMissesStop).Reachable system) :
    system.Orderly ∧ system.AllSound ∧ system.Stopping := by
  apply reached.invariant
  · intro state initial
    obtain ⟨maxParallelEvaluations, _, _, evolution, _, rfl⟩ := initial
    refine ⟨orderly_start _ evolution, ?_, ⟨False.elim, fun _ _ => trivial⟩⟩
    intro phase member
    rw [List.eq_of_mem_replicate member]
    trivial
  · intro before action next holds moved
    obtain ⟨orderly, sound, stopping⟩ := holds
    exact ⟨orderly.step moved.1, sound.step orderly moved.1, stopping.stop_step moved.1,
      stopping.secured_step orderly moved.1 moved.2⟩

/-- All notifications of `stop` are out, and all workers are warned. -/
structure Joining (system : TrainingSystem F) : Prop where
  joining : system.main = .joining
  orderly : system.Orderly
  sound : system.AllSound
  stopping : system.Stopping

section

omit [FitnessArithmetic F]

theorem Joining.stop (waits : system.Joining) : system.executor.stopRequested = true :=
  waits.stopping.stop (by rw [waits.joining]; trivial)

theorem Joining.warned (waits : system.Joining) {phase : WorkerPhase F}
    (member : phase ∈ system.workers) : phase.Warned system.executor := by
  have secured := waits.stopping.secured phase member
  rw [waits.joining] at secured
  exact secured

end

theorem Joining.possible (waits : system.Joining) :
    ∃ action after, Step setup system action after := by
  by_cases stuck : ∀ after, ¬ Step setup system .work after
  · refine ⟨.join, _, .join waits.joining fun phase member => ?_⟩
    exact (waits.warned member).not_asleep
      (asleep_of_stuck waits.orderly waits.sound stuck member)
  · obtain ⟨after, step⟩ := not_forall.mp stuck
    exact ⟨.work, after, not_not.mp step⟩

omit [FitnessArithmetic F] in
theorem Joining.not_blocked (waits : system.Joining) {phase : WorkerPhase F}
    (member : phase ∈ system.workers) : phase.wake.wakePause = phase := by
  have warned := waits.warned member
  cases phase with
  | blocked => exact warned.elim
  | running stage =>
      cases stage with
      | pauseBlocked => exact warned.elim
      | _ => rfl
  | _ => rfl

theorem Joining.closer (waits : system.Joining) (step : Step setup system action after) :
    after.main = .stopped ∨ (after.Joining ∧
      tally WorkerPhase.distance after.workers < tally WorkerPhase.distance system.workers) := by
  have main := waits.joining
  have other : action ≠ .stopNotifyTask := by
    intro same
    rw [same] at step
    cases step with
    | stopNotifyTask notified =>
        rw [main] at notified
        cases notified
  have noticed : system.NobodyMissesStop action := fun same => absurd same other
  have orderly := waits.orderly.step step
  have sound := waits.sound.step waits.orderly step
  have stops := waits.stopping.stop_step step
  have secured := waits.stopping.secured_step waits.orderly step noticed
  cases step with
  | @work front mover next back executor split moved =>
      refine Or.inr ⟨⟨main, orderly, sound, ⟨stops, secured⟩⟩, ?_⟩
      have nearer := (moved.warned waits.stop
        (waits.warned (split ▸ mem_splice.mpr (Or.inl rfl)))).2
      rw [split, tally_split, tally_split]
      omega
  | @notifyOne front result back workers split notified =>
      refine Or.inr ⟨⟨main, orderly, sound, ⟨stops, secured⟩⟩, ?_⟩
      have awake : ∀ phase ∈ front ++ .notified result :: back, phase ≠ .blocked := by
        intro phase member
        rcases mem_splice.mp member with rfl | other
        · intro same
          cases same
        · exact (waits.warned (split ▸ mem_splice.mpr (Or.inr other))).awake.1
      rw [notified.eq_of_awake awake, split, tally_split, tally_split]
      simp only [WorkerPhase.distance]
      omega
  | wakeSpuriously front back split sleeps =>
      exact absurd (waits.not_blocked (split ▸ mem_splice.mpr (Or.inl rfl))) sleeps
  | join => exact Or.inl rfl
  | stopNotifyTask => exact absurd rfl other
  | completedDrain serving | visibleTick serving | processResult serving | submit serving
  | assertionFails serving | enqueue serving | announce serving | announcePause serving
  | allowedConcurrencySet _ serving | pauseSet _ serving | command serving | stop serving
  | liftPause serving | stopNotifyPause serving =>
      rw [main] at serving
      cases serving

/-- **Nobody is stranded.** When no worker has missed the stop at the moment `taskCv` is notified,
nobody sleeps on `taskCv` or `pauseCv` from then on, and every run goes on until all workers are
joined. -/
theorem stop_strands_nobody {first : TrainingSystem F} {actions : List TrainingAction}
    (initial : (machine F setup).initial first)
    (run : ((machine F setup).guarded NobodyMissesStop).Run first actions system)
    (joining : system.main = .joining) :
    (∀ phase ∈ system.workers, phase ≠ .blocked ∧ ¬ phase.PauseBlocked) ∧
      (machine F setup).Inevitable (fun later => later.main = .stopped) system := by
  obtain ⟨orderly, sound, stopping⟩ := stopping_of_guarded ⟨first, actions, initial, run⟩
  have waits : system.Joining := ⟨joining, orderly, sound, stopping⟩
  refine ⟨fun phase member => (waits.warned member).awake, ?_⟩
  · apply Machine.inevitable_of_rank (fun later => tally WorkerPhase.distance later.workers)
      _ _ waits
    · intro state holds
      exact holds.possible
    · intro state action next holds moved
      exact holds.closer moved

section

/-! ## A worker that misses the stop -/

open Evolution

def soloSetup : TrainingSetup :=
  { contestSetup {} with
    trainingSpec := {
      scenarioId := ⟨8⟩
      organismType := .tree
      population := [{ brainKind := text "RuleBased", count := 1 }] } }

theorem exists_solo : ∃ evolution : Evolution ℚ,
    initializePopulation soloSetup {} [[]] = some evolution ∧ evolution.population.length = 1 :=
  Option.map_eq_some_iff.mp (show (initializePopulation soloSetup {} [[]]).map
    (fun evolution : Evolution ℚ => evolution.population.length) = some 1 by decide +kernel)

theorem queued_solo {evolution : Evolution ℚ} (one : evolution.population.length = 1) :
    ∃ queued, evolution.queueGenerationTasks.queued 0 = [queued] := by
  apply List.length_eq_one_iff.mp
  rw [Submission.length_queued, queueGenerationTasks, Submission.requests, List.length_map,
    List.length_range, one]

theorem exists_declined (evolution : Evolution ℚ) {queued : QueuedEvaluation}
    (only : evolution.queueGenerationTasks.queued 0 = [queued]) :
    ∃ actions system, (machine ℚ soloSetup).Run (start 1 evolution) actions system ∧
      .stopNotifyTask ∉ actions ∧ system.main = .serving ∧ system.workers = [.declined] ∧
      system.executor.pauseMutexHeld = false := by
  have waiting : evolution.queueGenerationTasks.queued 0 ≠ [] := by
    rw [only]
    exact List.cons_ne_nil _ _
  refine ⟨_, _, .cons (.submit rfl rfl) (.cons (.enqueue rfl rfl) (.cons (.announce rfl)
    (.cons (.work [] [] rfl (.lock rfl)) (.cons (.work [] [] rfl (.seeNoStop rfl))
    (.cons (.work [] [] rfl (.count waiting)) (.cons (.work [] [] rfl (.letIn zero_lt_one))
    (.cons (.work [] [] rfl (.take rfl only)) (.cons (.work [] [] rfl (.claim rfl))
    (.cons (.work [] [] rfl (.enterPause rfl)) (.cons (.work [] [] rfl (.passPause (Or.inl rfl)))
    (.cons (.work [] [] rfl (.endPass rfl)) (.cons (.work [] [] rfl (.finishPasses 0 rfl))
    (.cons (.work [] [] rfl (.finishVisible rfl)) (.cons (.work [] [] rfl .complete)
    (.cons (.work [] [] rfl .decrement) (.cons (.notifyOne [] [] rfl (.nobody ?_))
    (.cons (.work [] [] rfl (.loopAgain rfl)) (.cons (.work [] [] rfl (.lock rfl))
    (.cons (.work [] [] rfl (.seeNoStop rfl)) (.cons (.work [] [] rfl (.seeEmpty rfl))
    (.nil _))))))))))))))))))))), by decide, rfl, rfl, rfl⟩
  intro phase member same
  rw [same] at member
  cases List.eq_of_mem_singleton member

/-- After all notifications of `stop`, the only worker may be asleep on `taskCv`. -/
theorem stop_strands_worker :
    ¬ ∀ (setup : TrainingSetup) (first system : TrainingSystem ℚ)
      (actions : List TrainingAction), (machine ℚ setup).initial first →
        (machine ℚ setup).Run first actions system → system.main = .joining →
        ∀ phase ∈ system.workers, phase ≠ .blocked := by
  intro always
  obtain ⟨evolution, started, one⟩ := exists_solo
  obtain ⟨queued, only⟩ := queued_solo one
  obtain ⟨actions, system, run, _, serving, declined, free⟩ := exists_declined evolution only
  have notified : (system.workers.map WorkerPhase.wakePause).map WorkerPhase.wake =
      [.declined] := by
    rw [declined]
    rfl
  -- The worker blocks only after the last notification.
  have stopped := Machine.Run.append_iff.mpr ⟨system, run, .cons (.stop serving)
    (.cons (.liftPause rfl free) (.cons (.stopNotifyPause rfl) (.cons (.stopNotifyTask rfl)
    (.cons (.work [] [] notified .block) (.nil _)))))⟩
  exact always soloSetup _ _ _ ⟨1, {}, _, evolution, started, rfl⟩ stopped rfl .blocked
    (List.mem_singleton_self _) rfl

theorem stop_strands_nobody_solo :
    ∃ (evolution : Evolution ℚ) (actions : List TrainingAction) (system : TrainingSystem ℚ),
      ((machine ℚ soloSetup).guarded NobodyMissesStop).Run (start 1 evolution) actions system ∧
      system.main = .joining ∧ system.workers = [.woken] ∧
      (machine ℚ soloSetup).Inevitable (fun later => later.main = .stopped) system := by
  obtain ⟨evolution, started, one⟩ := exists_solo
  obtain ⟨queued, only⟩ := queued_solo one
  obtain ⟨actions, system, run, unnotified, serving, declined, free⟩ :=
    exists_declined evolution only
  have early : ((machine ℚ soloSetup).guarded NobodyMissesStop).Run (start 1 evolution) actions
      system := run.guard fun action member _ same => absurd (same ▸ member) unnotified
  have late : ∃ actions later,
      ((machine ℚ soloSetup).guarded NobodyMissesStop).Run system actions later ∧
        later.main = .joining ∧ later.workers = [.woken] := by
    refine ⟨_, _, .cons ⟨.work [] [] declined .block, fun same => by cases same⟩
      (.cons ⟨.stop serving, fun same => by cases same⟩
      (.cons ⟨.liftPause rfl free, fun same => by cases same⟩
      (.cons ⟨.stopNotifyPause rfl, fun same => by cases same⟩
      (.cons ⟨.stopNotifyTask rfl, ?_⟩ (.nil _))))), rfl, rfl⟩
    intro _ phase member
    rw [List.eq_of_mem_singleton member]
    exact id
  obtain ⟨more, later, rest, joining, workers⟩ := late
  have whole := Machine.Run.append_iff.mpr ⟨system, early, rest⟩
  exact ⟨evolution, actions ++ more, later, whole, joining, workers,
    (stop_strands_nobody ⟨1, {}, _, evolution, started, rfl⟩ whole joining).2⟩

end

end TrainingSystem

end DirtSim
