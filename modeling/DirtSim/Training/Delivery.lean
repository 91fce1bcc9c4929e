import DirtSim.Training.ExecutorInvariants

/-! # Delivery

Until the executor is stopped, each evaluation that was submitted is in one place: in a queue,
with a worker, or returned. The training waits for exactly those not handled yet, so it submits
only when nothing is left: no batch clears a queue that is not empty, and no handle is active.
-/

namespace DirtSim

open Foundation

namespace TrainingSystem

variable {F : Type}

def undelivered (system : TrainingSystem F) : Multiset QueuedEvaluation :=
  system.executor.stored + tally WorkerPhase.carried system.workers

def returned (system : TrainingSystem F) : Multiset QueuedEvaluation :=
  ((system.drained ++ system.ticked).map FinishedEvaluation.queued : Multiset QueuedEvaluation)

def pending (system : TrainingSystem F) : Multiset QueuedEvaluation :=
  system.undelivered +
    (system.inbox.map FinishedEvaluation.queued : Multiset QueuedEvaluation)

variable [FitnessArithmetic F] {setup : TrainingSetup} {system after : TrainingSystem F}
  {action : TrainingAction}

def Owes (evolution : Evolution F) (pending : Multiset QueuedEvaluation) : Prop :=
  pending.card = evolution.awaited ∧ ∀ queued ∈ pending, evolution.Awaits queued.request

/-- The run waits for exactly the results that are not handled yet; while it submits, there are
none. -/
def Expects (system : TrainingSystem F) : Prop :=
  match system.main with
  | .submitting submission | .enqueuing submission =>
      system.pending = 0 ∧ system.evolution.Submits submission
  | .serving | .announcing | .announcingPause => Owes system.evolution system.pending
  | _ => False

/-- Nothing has stopped, and every evaluation is accounted for. -/
structure Delivering (setup : TrainingSetup) (system : TrainingSystem F) : Prop where
  orderly : system.Orderly
  sound : system.AllSound
  goes : system.executor.stopRequested = false
  remain : ∀ phase ∈ system.workers, phase ≠ .leaving ∧ phase ≠ .exited
  waiting : Evolution.Waiting setup system.evolution
  expects : system.Expects
  conserved : (system.submitted : Multiset QueuedEvaluation) =
    system.returned + system.undelivered
  numbered : system.submitted.map QueuedEvaluation.number =
    List.range system.submitted.length

section

variable {workers : List (WorkerPhase F)} {executor : EvaluationExecutor F}

section

omit [FitnessArithmetic F]

theorem undelivered_of_alerted (alerted : Alerted system.workers workers) :
    undelivered { system with workers := workers } = system.undelivered := by
  rw [undelivered, undelivered, alerted.tally_eq fun _ _ => Alert.carried]

theorem undelivered_of_move {front back : List (WorkerPhase F)} {phase next : WorkerPhase F}
    (split : system.workers = front ++ phase :: back)
    (moved : WorkerMove system.executor phase executor next)
    (goes : system.executor.stopRequested = false) :
    undelivered { system with executor := executor, workers := front ++ next :: back } =
      system.undelivered := by
  rw [undelivered, undelivered, split]
  exact conserved_of_move (moved.stored goes)

theorem visible_of_carried {phase : WorkerPhase F} (none : phase.carried = 0) :
    phase.visible = 0 := by
  cases phase with
  | running | finishing | delivering => exact absurd none (Multiset.singleton_ne_zero _)
  | _ => rfl

theorem Orderly.activeHandle_eq_none (orderly : system.Orderly)
    (delivered : system.undelivered = 0) : system.executor.activeHandle = none := by
  have carried : tally WorkerPhase.carried system.workers = 0 := by
    rw [undelivered, add_eq_zero] at delivered
    exact delivered.2
  have shown : system.executor.shown = 0 := by
    rw [orderly.shown]
    exact tally_eq_zero fun phase member => visible_of_carried (held_eq_zero carried member)
  rw [EvaluationExecutor.shown, Multiset.coe_eq_zero] at shown
  exact Option.toList_eq_nil_iff.mp shown

end

theorem progress_of_other {event : Evolution.Event F} {before next : Evolution F}
    (other : ∀ environment bred result, event ≠ .result environment bred result)
    (applied : event.apply setup before = some next) :
    next.awaited = before.awaited ∧ ∀ request, before.Awaits request → next.Awaits request := by
  cases event with
  | result environment bred result => exact absurd rfl (other environment bred result)
  | storeBest environment =>
      obtain ⟨repository, bestGenomeId, same⟩ := Evolution.storeBestGenome_effect applied
      rw [same]
      exact ⟨rfl, fun _ awaits => awaits⟩
  | genomeSet | genomeDelete =>
      cases applied
      exact ⟨rfl, fun _ awaits => awaits⟩

section

omit [FitnessArithmetic F]

theorem pending_of_undelivered
    (kept : undelivered { system with executor := executor, workers := workers } =
      system.undelivered) :
    pending { system with executor := executor, workers := workers } = system.pending :=
  congrArg (· + (system.inbox.map FinishedEvaluation.queued : Multiset QueuedEvaluation)) kept

theorem expects_of_undelivered (expects : system.Expects)
    (kept : undelivered { system with executor := executor, workers := workers } =
      system.undelivered) : Expects { system with executor := executor, workers := workers } := by
  rw [Expects, pending_of_undelivered kept]
  exact expects

theorem pending_completedDrain (handled : system.inbox = []) :
    system.pending = pending { system with
      executor := { system.executor with resultQueue := [] }
      inbox := system.executor.resultQueue } := by
  simp only [pending, undelivered, EvaluationExecutor.stored, handled, List.map_nil,
    Multiset.coe_nil]
  abel

theorem pending_visibleTick (handled : system.inbox = []) :
    system.pending = pending { system with
      executor := { system.executor with visibleCompleted := [] }
      inbox := system.executor.visibleCompleted } := by
  simp only [pending, undelivered, EvaluationExecutor.stored, handled, List.map_nil,
    Multiset.coe_nil]
  abel

theorem undelivered_enqueue {submission : Submission} {first : ℕ}
    (empty : system.executor.taskQueue = []) :
    undelivered { system with
      executor := { system.executor with
        taskQueue := submission.enqueue first system.executor.taskQueue } } =
      (submission.queued first : Multiset QueuedEvaluation) + system.undelivered := by
  simp only [undelivered, EvaluationExecutor.stored, empty, Submission.enqueue_nil,
    Multiset.coe_nil]
  abel

end

theorem Delivering.expects_processResult (delivering : Delivering setup system)
    {finished : FinishedEvaluation F} {rest : List (FinishedEvaluation F)}
    {environment : ResultEnvironment F} {bred : Evolution.Bred F} {evolution : Evolution F}
    {submission : Option Submission} (serving : system.main = .serving)
    (first : system.inbox = finished :: rest)
    (processed : system.evolution.processResult setup environment bred finished.completed =
      some (evolution, submission)) :
    Expects { system with
      evolution := evolution
      inbox := rest
      main := .afterResult submission } := by
  have expects := delivering.expects
  rw [Expects, serving] at expects
  obtain ⟨count, awaits⟩ := expects
  have split : system.pending = finished.queued ::ₘ (system.undelivered +
      (rest.map FinishedEvaluation.queued : Multiset QueuedEvaluation)) := by
    rw [pending, first, List.map_cons, ← Multiset.cons_coe, Multiset.add_cons]
  rw [split, Multiset.card_cons] at count
  have positive : 0 < system.evolution.awaited := by omega
  have awaited := awaits finished.queued (split ▸ Multiset.mem_cons_self _ _)
  rcases Evolution.processResult_awaits delivering.waiting positive awaited processed with
    ⟨rfl, fewer, kept⟩ | ⟨submitted, rfl, last, submits⟩
  · refine ⟨?_, ?_⟩
    · show (system.undelivered +
        (rest.map FinishedEvaluation.queued : Multiset QueuedEvaluation)).card = evolution.awaited
      omega
    · intro queued member
      have among : queued ∈ system.pending := split ▸ Multiset.mem_cons_of_mem member
      have more : 0 < (system.undelivered +
          (rest.map FinishedEvaluation.queued : Multiset QueuedEvaluation)).card :=
        Multiset.card_pos_iff_exists_mem.mpr ⟨queued, member⟩
      exact kept (by omega) queued.request (awaits queued among)
  · refine ⟨Multiset.card_eq_zero.mp ?_, submits⟩
    show (system.undelivered +
      (rest.map FinishedEvaluation.queued : Multiset QueuedEvaluation)).card = 0
    omega

theorem Delivering.nothingLeft (delivering : Delivering setup system)
    {submission : Submission} (enqueuing : system.main = .enqueuing submission) :
    system.executor.taskQueue = [] ∧ system.undelivered = 0 ∧ system.inbox = [] := by
  have expects := delivering.expects
  rw [Expects, enqueuing] at expects
  have none := expects.1
  rw [pending, add_eq_zero, Multiset.coe_eq_zero, List.map_eq_nil_iff] at none
  refine ⟨?_, none⟩
  have stored := none.1
  rw [undelivered, EvaluationExecutor.stored, add_eq_zero, add_eq_zero, add_eq_zero] at stored
  exact (Multiset.coe_eq_zero _).mp stored.1.1.1

end

section

/-! ## What each step keeps -/

section

variable (delivering : Delivering setup system) (step : Step setup system action after)
include delivering step

theorem Delivering.goes_step (goesOn : action ≠ .stop) : after.executor.stopRequested = false := by
  cases step with
  | work _ _ _ moved => exact moved.frame.1.trans delivering.goes
  | stop => exact absurd rfl goesOn
  | join => rfl
  | _ => exact delivering.goes

theorem Delivering.remain_step : ∀ phase ∈ after.workers, phase ≠ .leaving ∧ phase ≠ .exited := by
  have remain := delivering.remain
  rcases step.workers_cases with
    ⟨_, front, mover, next, back, executor, split, moved, same⟩ | ⟨alerted, _⟩ | ⟨_, none, _⟩
  · rw [same]
    intro phase member
    rcases mem_splice.mp member with rfl | other
    · exact moved.remains delivering.goes (remain mover (split ▸ mem_splice.mpr (Or.inl rfl)))
    · exact remain phase (split ▸ mem_splice.mpr (Or.inr other))
  · intro next member
    obtain ⟨phase, among, alert⟩ := alerted.exists_of_mem member
    exact alert.remains (remain phase among)
  · intro phase member
    rw [none] at member
    cases member

theorem Delivering.waiting_step : Evolution.Waiting setup after.evolution := by
  cases step with
  | @processResult finished rest environment bred evolution submission _ _ processed =>
      have applied : (Evolution.Event.result environment bred finished.completed).apply setup
          system.evolution = some evolution :=
        Option.map_eq_some_iff.mpr ⟨(evolution, submission), processed, rfl⟩
      exact (delivering.waiting.step applied).1
  | command _ _ applied => exact (delivering.waiting.step applied).1
  | _ => exact delivering.waiting

theorem Delivering.expects_step (goesOn : action ≠ .stop) : after.Expects := by
  have expects := delivering.expects
  cases step with
  | work front back split moved =>
      exact expects_of_undelivered expects (undelivered_of_move split moved delivering.goes)
  | notifyOne front back split notified =>
      exact expects_of_undelivered expects
        (undelivered_of_alerted (.of_notifyOne split notified))
  | wakeSpuriously front back split =>
      exact expects_of_undelivered expects (undelivered_of_alerted (.of_wake split))
  | completedDrain serving handled =>
      rw [Expects, serving] at expects ⊢
      have same : system.pending = _ := pending_completedDrain handled
      exact same ▸ expects
  | visibleTick serving handled =>
      rw [Expects, serving] at expects ⊢
      have same : system.pending = _ := pending_visibleTick handled
      exact same ▸ expects
  | processResult serving first processed =>
      exact delivering.expects_processResult serving first processed
  | submit submitting => 
      rw [Expects, submitting] at expects
      exact expects
  | assertionFails submitting some =>
      rw [Expects, submitting, pending, add_eq_zero] at expects
      exact absurd (delivering.orderly.activeHandle_eq_none expects.1.1) some
  | @enqueue submission enqueuing free =>
      obtain ⟨empty, delivered, handled⟩ := delivering.nothingLeft enqueuing
      rw [Expects, enqueuing] at expects
      obtain ⟨count, awaits⟩ := expects.2
      have left : pending { system with executor := { system.executor with
          taskQueue := submission.enqueue system.submitted.length system.executor.taskQueue } } =
          (submission.queued system.submitted.length : Multiset QueuedEvaluation) := by
        rw [pending, undelivered_enqueue empty, delivered, handled]
        exact (add_zero _).trans (add_zero _)
      have owes : Owes system.evolution (pending { system with
          executor := { system.executor with
            taskQueue := submission.enqueue system.submitted.length
              system.executor.taskQueue } }) := by
        rw [left]
        refine ⟨?_, fun queued member => awaits queued.request ?_⟩
        · rw [Multiset.coe_card, submission.length_queued, count]
        · rw [← submission.map_request_queued system.submitted.length]
          exact List.mem_map_of_mem (Multiset.mem_coe.mp member)
      exact owes
  | announce announcing =>
      rw [Expects, announcing] at expects
      have owes : Owes system.evolution
          (pending { system with workers := system.workers.map WorkerPhase.wake }) := by
        rw [pending_of_undelivered (undelivered_of_alerted (.map alert_wake _))]
        exact expects
      exact owes
  | announcePause announcing =>
      rw [Expects, announcing] at expects
      have owes : Owes system.evolution
          (pending { system with workers := system.workers.map WorkerPhase.wakePause }) := by
        rw [pending_of_undelivered (undelivered_of_alerted (.map alert_wakePause _))]
        exact expects
      exact owes
  | allowedConcurrencySet _ serving | pauseSet _ serving =>
      rw [Expects, serving] at expects
      exact expects
  | command serving other applied =>
      obtain ⟨awaited, awaits⟩ := progress_of_other other applied
      rw [Expects, serving] at expects ⊢
      exact ⟨expects.1.trans awaited.symm, fun queued member =>
        awaits queued.request (expects.2 queued member)⟩
  | stop => exact absurd rfl goesOn
  | liftPause main | stopNotifyPause main | stopNotifyTask main | join main =>
      rw [Expects, main] at expects
      exact expects.elim

end

section

omit [FitnessArithmetic F]

theorem returned_completedDrain : system.returned + system.undelivered =
    returned { system with drained := system.drained ++ system.executor.resultQueue } +
      undelivered { system with executor := { system.executor with resultQueue := [] } } := by
  simp only [returned, undelivered, EvaluationExecutor.stored, List.map_append, List.map_nil,
    Multiset.coe_nil, ← Multiset.coe_add]
  abel

theorem returned_visibleTick : system.returned + system.undelivered =
    returned { system with ticked := system.ticked ++ system.executor.visibleCompleted } +
      undelivered { system with executor := { system.executor with visibleCompleted := [] } } := by
  simp only [returned, undelivered, EvaluationExecutor.stored, List.map_append, List.map_nil,
    Multiset.coe_nil, ← Multiset.coe_add]
  abel

end

theorem Delivering.conserved_step (delivering : Delivering setup system)
    (step : Step setup system action after) (goesOn : action ≠ .stop) :
    (after.submitted : Multiset QueuedEvaluation) = after.returned + after.undelivered := by
  have conserved := delivering.conserved
  have expects := delivering.expects
  have keep : ∀ {undelivered : Multiset QueuedEvaluation}, undelivered = system.undelivered →
      (system.submitted : Multiset QueuedEvaluation) = system.returned + undelivered := by
    intro undelivered same
    rw [same]
    exact conserved
  cases step with
  | work front back split moved => exact keep (undelivered_of_move split moved delivering.goes)
  | notifyOne front back split notified =>
      exact keep (undelivered_of_alerted (.of_notifyOne split notified))
  | wakeSpuriously front back split => exact keep (undelivered_of_alerted (.of_wake split))
  | announce => exact keep (undelivered_of_alerted (.map alert_wake _))
  | announcePause => exact keep (undelivered_of_alerted (.map alert_wakePause _))
  | completedDrain => exact conserved.trans returned_completedDrain
  | visibleTick => exact conserved.trans returned_visibleTick
  | @enqueue submission enqueuing free =>
      obtain ⟨empty, _, _⟩ := delivering.nothingLeft enqueuing
      have grown : (system.submitted ++ submission.queued system.submitted.length :
          Multiset QueuedEvaluation) = system.returned + undelivered { system with
            executor := { system.executor with
              taskQueue := submission.enqueue system.submitted.length
                system.executor.taskQueue } } := by
        rw [undelivered_enqueue empty, ← Multiset.coe_add, conserved]
        abel
      exact grown
  | stop => exact absurd rfl goesOn
  | liftPause main | stopNotifyPause main | stopNotifyTask main | join main =>
      rw [Expects, main] at expects
      exact expects.elim
  | _ => exact conserved

theorem Delivering.step (delivering : Delivering setup system)
    (step : Step setup system action after) (goesOn : action ≠ .stop) :
    Delivering setup after where
  orderly := delivering.orderly.step step
  sound := delivering.sound.step delivering.orderly step
  goes := delivering.goes_step step goesOn
  remain := delivering.remain_step step
  waiting := delivering.waiting_step step
  expects := delivering.expects_step step goesOn
  conserved := delivering.conserved_step step goesOn
  numbered := by
    have numbered := delivering.numbered
    cases step with
    | @enqueue submission enqueuing free =>
        show (system.submitted ++ submission.queued system.submitted.length).map
          QueuedEvaluation.number = _
        rw [List.map_append, numbered, submission.map_number_queued, List.length_append,
          submission.length_queued, List.range_eq_range', List.range_eq_range']
        have joined : List.range' 0 system.submitted.length ++
            List.range' (0 + system.submitted.length) submission.requests.length =
              List.range' 0 (system.submitted.length + submission.requests.length) :=
          List.range'_append_1
        rw [Nat.zero_add] at joined
        exact joined
    | _ => exact numbered

theorem delivering_start (maxParallelEvaluations : ℤ) (repository : GenomeRepository F)
    {randomGenomes : List (List Genome)} {evolution : Evolution F}
    (started : Evolution.initializePopulation setup repository randomGenomes = some evolution) :
    Delivering setup (start maxParallelEvaluations evolution) := by
  have nothing : (start maxParallelEvaluations evolution).undelivered = 0 := by
    have carried : tally WorkerPhase.carried (start maxParallelEvaluations evolution).workers = 0 :=
      tally_replicate_zero WorkerPhase.carried rfl _
    rw [undelivered, carried]
    rfl
  refine ⟨orderly_start _ _, ?_, rfl, ?_, Evolution.waiting_of_initial repository started, ?_, ?_,
    rfl⟩
  · intro phase member
    rw [List.eq_of_mem_replicate member]
    trivial
  · intro phase member
    rw [List.eq_of_mem_replicate member]
    constructor <;> (intro same; cases same)
  · refine ⟨?_, Evolution.submits_initial repository started⟩
    rw [pending, nothing]
    rfl
  · rw [nothing]
    rfl

theorem delivering_of_guarded
    (reached : ((machine F setup).guarded fun _ action => action ≠ .stop).Reachable system) :
    Delivering setup system := by
  apply reached.invariant
  · intro state initial
    obtain ⟨_, repository, _, evolution, started, rfl⟩ := initial
    exact delivering_start _ repository started
  · intro before action next delivering moved
    exact delivering.step moved.1 moved.2

end

end TrainingSystem

end DirtSim
