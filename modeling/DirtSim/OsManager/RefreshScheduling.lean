import DirtSim.OsManager.NetworkService

/-! # When a refresh is scheduled

The flags of the service tell which sources are attached, as long as the diagnostics mode is not
switched off while it is on, and the worker does not start with a flag left from its last run
(`refreshes_scheduled`). `g_source_remove` does not find the diagnostics source, and the flags are
not cleared when the worker ends.
-/

namespace DirtSim.NetworkService

open Foundation

namespace Impl

def attached (impl : Impl) (kind : SourceKind) : ℕ :=
  (impl.mainContext.map fun context => context.count kind).getD 0

/-- What the flags say of a running worker. -/
structure Scheduled (impl : Impl) : Prop where
  refresh : impl.refreshScheduled = true ↔ impl.attached .scheduledRefresh = 1
  diagnostics : impl.diagnosticsModeActive = true ↔ impl.attached .diagnosticsRefresh = 1
  periodic : impl.attached .periodicRefresh = 1

/-- A diagnostics source is not given up, and the worker starts with the flags cleared. -/
def Careful (impl : Impl) : Event → Prop
  | .setDiagnosticsMode false => impl.diagnosticsModeActive = false
  | .start => impl.worker = .down →
      impl.refreshScheduled = false ∧ impl.diagnosticsModeActive = false
  | _ => True

/-! ## The invariant -/

/-- The flags count the sources, and only an attached diagnostics source has a number. -/
structure Sound (impl : Impl) : Prop where
  present : impl.mainContext = none ↔ impl.worker = .down
  refresh : impl.worker ≠ .down →
    impl.attached .scheduledRefresh = impl.refreshScheduled.toNat
  diagnostics : impl.worker ≠ .down →
    impl.attached .diagnosticsRefresh = impl.diagnosticsModeActive.toNat
  periodic : impl.worker ≠ .down → impl.attached .periodicRefresh = 1
  diagnosticsId : impl.diagnosticsRefreshSourceId = 0 ↔ impl.attached .diagnosticsRefresh = 0

variable {impl after : Impl}

theorem attached_some {context : SourceContext SourceKind} (here : impl.mainContext = some context)
    (kind : SourceKind) : impl.attached kind = context.count kind := by
  rw [attached, here, Option.map_some, Option.getD_some]

theorem toNat_eq_one (flag : Bool) : flag = true ↔ flag.toNat = 1 := by
  cases flag <;> simp

theorem Sound.scheduled (sound : impl.Sound) (up : impl.worker ≠ .down) : impl.Scheduled where
  refresh := by rw [sound.refresh up, toNat_eq_one]
  diagnostics := by rw [sound.diagnostics up, toNat_eq_one]
  periodic := sound.periodic up

theorem Sound.context (sound : impl.Sound) (up : impl.worker ≠ .down) :
    ∃ context, impl.mainContext = some context := by
  rw [← Option.ne_none_iff_exists']
  exact fun missing => up (sound.present.mp missing)

/-- The invariant of a running worker, told of its context. -/
structure Sound.In (impl : Impl) (context : SourceContext SourceKind) : Prop where
  up : impl.worker ≠ .down
  here : impl.mainContext = some context
  refresh : context.count .scheduledRefresh = impl.refreshScheduled.toNat
  diagnostics : context.count .diagnosticsRefresh = impl.diagnosticsModeActive.toNat
  periodic : context.count .periodicRefresh = 1
  diagnosticsId : impl.diagnosticsRefreshSourceId = 0 ↔ context.count .diagnosticsRefresh = 0

theorem Sound.In.sound {context : SourceContext SourceKind} (inside : Sound.In impl context) :
    impl.Sound where
  present := by simp [inside.here, inside.up]
  refresh _ := by rw [attached_some inside.here, inside.refresh]
  diagnostics _ := by rw [attached_some inside.here, inside.diagnostics]
  periodic _ := by rw [attached_some inside.here, inside.periodic]
  diagnosticsId := by rw [attached_some inside.here, inside.diagnosticsId]

theorem Sound.inside {context : SourceContext SourceKind} (sound : impl.Sound)
    (here : impl.mainContext = some context) : Sound.In impl context := by
  have up : impl.worker ≠ .down := fun down => by
    rw [sound.present.mpr down] at here
    cases here
  refine ⟨up, here, ?_, ?_, ?_, ?_⟩
  · rw [← sound.refresh up, attached_some here]
  · rw [← sound.diagnostics up, attached_some here]
  · rw [← sound.periodic up, attached_some here]
  · rw [sound.diagnosticsId, attached_some here]

/-! ## What each operation does -/

theorem scheduleRefresh_cases (impl : Impl) (forceScan : Bool) :
    ((impl.refreshScheduled = true ∨ impl.stopRequested = true ∨ impl.mainContext = none) ∧
      impl.scheduleRefresh forceScan =
        { impl with refreshForceScan := impl.refreshForceScan || forceScan }) ∨
    ∃ context, impl.mainContext = some context ∧ impl.refreshScheduled = false ∧
      impl.scheduleRefresh forceScan =
        { impl with
          refreshForceScan := impl.refreshForceScan || forceScan
          mainContext := some (context.attach .scheduledRefresh)
          scheduledRefreshSourceId := context.nextId
          refreshScheduled := true } := by
  by_cases idle : impl.refreshScheduled = true ∨ impl.stopRequested = true ∨
      impl.mainContext = none
  · left
    refine ⟨idle, ?_⟩
    simp only [scheduleRefresh, Bool.or_eq_true, Option.isNone_iff_eq_none]
    rw [if_pos (by tauto)]
  · right
    simp only [not_or, Bool.not_eq_true] at idle
    obtain ⟨unscheduled, running, some_context⟩ := idle
    obtain ⟨context, here⟩ := Option.ne_none_iff_exists'.mp some_context
    refine ⟨context, here, unscheduled, ?_⟩
    simp only [scheduleRefresh, unscheduled, running, here, attach]
    rfl

theorem Sound.scheduleRefresh (sound : impl.Sound) (forceScan : Bool) :
    (impl.scheduleRefresh forceScan).Sound := by
  rcases scheduleRefresh_cases impl forceScan with ⟨-, asked⟩ | ⟨context, here, idle, scheduled⟩
  · rw [asked]
    exact ⟨sound.present, sound.refresh, sound.diagnostics, sound.periodic, sound.diagnosticsId⟩
  · have inside := sound.inside here
    rw [scheduled]
    refine Sound.In.sound (?_ : Sound.In _ (context.attach .scheduledRefresh))
    refine ⟨inside.up, rfl, ?_, ?_, ?_, ?_⟩
    · simp [inside.refresh, idle]
    · simpa using inside.diagnostics
    · simpa using inside.periodic
    · simpa using inside.diagnosticsId

theorem start_sound (sound : impl.Sound) (careful : impl.Careful .start) : impl.start.Sound := by
  by_cases down : impl.worker = .down
  · obtain ⟨unscheduled, inactive⟩ := careful down
    have unnumbered : impl.diagnosticsRefreshSourceId = 0 := by
      rw [sound.diagnosticsId, attached, sound.present.mpr down]
      rfl
    rw [start, if_pos down]
    refine Sound.In.sound (?_ : Sound.In _ (SourceContext.new.attach .periodicRefresh))
    refine ⟨?_, rfl, ?_, ?_, ?_, ?_⟩
    · simp [attachPeriodicRefresh, attach]
    · simp [attachPeriodicRefresh, attach, unscheduled]
    · simp [attachPeriodicRefresh, attach, inactive]
    · simp
    · simp [attachPeriodicRefresh, attach, unnumbered]
  · rwa [start, if_neg down]

theorem Sound.enterLoop (sound : impl.Sound) (up : impl.worker ≠ .down) : impl.enterLoop.Sound := by
  obtain ⟨context, here⟩ := sound.context up
  have asked := sound.scheduleRefresh true
  have present : ∃ context, (impl.scheduleRefresh true).mainContext = some context := by
    rcases scheduleRefresh_cases impl true with ⟨-, asked⟩ | ⟨context, -, -, scheduled⟩
    · exact ⟨context, by rw [asked]; exact here⟩
    · exact ⟨_, by rw [scheduled]⟩
  obtain ⟨context, here⟩ := present
  have inside := asked.inside here
  exact Sound.In.sound
    ⟨by simp [Impl.enterLoop], here, inside.refresh, inside.diagnostics, inside.periodic,
      inside.diagnosticsId⟩

theorem cleanupWorkerState_sound (impl : Impl) : impl.cleanupWorkerState.Sound := by
  have unnumbered : impl.removeScheduled.removeDiagnostics.removePeriodic.diagnosticsRefreshSourceId
      = 0 := by
    simp only [removePeriodic, removeDiagnostics, removeSource]
    split_ifs <;> simp_all
  refine ⟨?_, ?_, ?_, ?_, ?_⟩
  · simp [cleanupWorkerState]
  · simp [cleanupWorkerState]
  · simp [cleanupWorkerState]
  · simp [cleanupWorkerState]
  · simp [cleanupWorkerState, attached, unnumbered]

section

variable (sound : impl.Sound)
include sound

theorem Sound.activate (up : impl.worker ≠ .down) :
    { impl with diagnosticsModeActive := true }.updateDiagnosticsRefreshSource.Sound := by
  obtain ⟨context, here⟩ := sound.context up
  have inside := sound.inside here
  by_cases unnumbered : impl.diagnosticsRefreshSourceId = 0
  · have none_yet := inside.diagnosticsId.mp unnumbered
    refine Sound.In.sound (?_ : Sound.In _ (context.attach .diagnosticsRefresh))
    simp only [updateDiagnosticsRefreshSource, unnumbered, here, attachDiagnosticsRefresh, attach,
      Option.isSome_some, decide_true, Bool.and_self, ↓reduceIte]
    refine ⟨inside.up, rfl, ?_, ?_, ?_, ?_⟩
    · simpa using inside.refresh
    · simp [none_yet]
    · simpa using inside.periodic
    · simp [none_yet, Nat.ne_of_gt context.nextId_pos]
  · have active : context.count .diagnosticsRefresh = (true : Bool).toNat := by
      have counted := inside.diagnostics
      have some_attached := inside.diagnosticsId.not.mp unnumbered
      cases flag : impl.diagnosticsModeActive with
      | true => rw [counted, flag]
      | false =>
          rw [counted, flag] at some_attached
          exact absurd rfl some_attached
    refine Sound.In.sound (?_ : Sound.In _ context)
    simp only [updateDiagnosticsRefreshSource, unnumbered, decide_false, Bool.false_and,
      Bool.false_eq_true, ↓reduceIte]
    exact ⟨inside.up, here, inside.refresh, active, inside.periodic, inside.diagnosticsId⟩

theorem Sound.setDiagnosticsMode (up : impl.worker ≠ .down) {active : Bool}
    (careful : impl.Careful (.setDiagnosticsMode active)) :
    (impl.setDiagnosticsMode active).Sound := by
  cases active with
  | true => exact (sound.activate up).scheduleRefresh true
  | false =>
      -- The mode is off already, so there is no source to remove.
      have inactive : impl.diagnosticsModeActive = false := careful
      have unnumbered : impl.diagnosticsRefreshSourceId = 0 := by
        rw [sound.diagnosticsId, sound.diagnostics up, inactive]
        rfl
      have unchanged : impl.setDiagnosticsMode false = impl := by
        obtain ⟨⟩ := impl
        simp_all [Impl.setDiagnosticsMode, updateDiagnosticsRefreshSource]
      rwa [unchanged]

theorem Sound.runScheduledRefresh {context : SourceContext SourceKind} {id : ℕ}
    (here : impl.mainContext = some context) (found : context.find? id = some .scheduledRefresh) :
    (impl.detach id).runScheduledRefresh.Sound := by
  have inside := sound.inside here
  have one := SourceContext.count_remove found .scheduledRefresh
  have below := Bool.toNat_le impl.refreshScheduled
  rw [inside.refresh, if_pos rfl] at one
  refine Sound.In.sound (?_ : Sound.In _ (context.remove id))
  refine ⟨inside.up, by simp [Impl.runScheduledRefresh, detach, here], ?_, ?_, ?_, ?_⟩
  · simp only [Impl.runScheduledRefresh, Bool.toNat_false]
    omega
  · rw [SourceContext.count_remove_of_ne found (by decide)]
    exact inside.diagnostics
  · rw [SourceContext.count_remove_of_ne found (by decide)]
    exact inside.periodic
  · rw [SourceContext.count_remove_of_ne found (by decide)]
    exact inside.diagnosticsId

theorem Sound.detachOther {context : SourceContext SourceKind} {id : ℕ}
    (here : impl.mainContext = some context) (found : context.find? id = some .other) :
    (impl.detach id).Sound := by
  have inside := sound.inside here
  have same : ∀ kind, SourceKind.other ≠ kind →
      (context.remove id).count kind = context.count kind := fun kind =>
    SourceContext.count_remove_of_ne found
  refine Sound.In.sound (?_ : Sound.In _ (context.remove id))
  refine ⟨inside.up, by simp [detach, here], ?_, ?_, ?_, ?_⟩
  · rw [same _ (by decide)]
    exact inside.refresh
  · rw [same _ (by decide)]
    exact inside.diagnostics
  · rw [same _ (by decide)]
    exact inside.periodic
  · rw [same _ (by decide)]
    exact inside.diagnosticsId

theorem Sound.attachOther (up : impl.worker ≠ .down) : (impl.attach .other).1.Sound := by
  obtain ⟨context, here⟩ := sound.context up
  have inside := sound.inside here
  refine Sound.In.sound (?_ : Sound.In _ (context.attach .other))
  simp only [attach, here]
  refine ⟨inside.up, rfl, ?_, ?_, ?_, ?_⟩
  · simpa using inside.refresh
  · simpa using inside.diagnostics
  · simpa using inside.periodic
  · simpa using inside.diagnosticsId

/-- **A careful step keeps the invariant.** -/
theorem Sound.step {event : Event} (careful : impl.Careful event)
    (stepped : impl.step event = some after) : after.Sound := by
  cases event with
  | start =>
      cases stepped
      exact start_sound sound careful
  | enterLoop =>
      obtain ⟨ready, moved⟩ := Option.ite_none_right_eq_some.mp stepped
      cases moved
      exact sound.enterLoop (by simp [ready])
  | requestStop =>
      simp only [Impl.step] at stepped
      split at stepped
      · cases stepped
        exact sound
      · cases stepped
        exact ⟨sound.present, sound.refresh, sound.diagnostics, sound.periodic,
          sound.diagnosticsId⟩
  | leaveLoop =>
      obtain ⟨-, moved⟩ := Option.ite_none_right_eq_some.mp stepped
      cases moved
      exact cleanupWorkerState_sound impl
  | setDiagnosticsMode active =>
      obtain ⟨looping, moved⟩ := Option.ite_none_right_eq_some.mp stepped
      cases moved
      exact sound.setDiagnosticsMode (by simp [looping]) careful
  | requestScan hasClient =>
      obtain ⟨looping, moved⟩ := Option.ite_none_right_eq_some.mp stepped
      cases moved
      cases hasClient with
      | true => exact sound.scheduleRefresh true
      | false => exact sound
  | signal =>
      obtain ⟨looping, moved⟩ := Option.ite_none_right_eq_some.mp stepped
      cases moved
      exact sound.scheduleRefresh false
  | attachOther =>
      obtain ⟨up, moved⟩ := Option.ite_none_left_eq_some.mp stepped
      cases moved
      exact sound.attachOther up
  | dispatch id =>
      obtain ⟨looping, dispatched⟩ := Option.ite_none_right_eq_some.mp stepped
      obtain ⟨kind, found, rfl⟩ := Option.map_eq_some_iff.mp dispatched
      obtain ⟨context, here, listed⟩ := Option.bind_eq_some_iff.mp found
      cases kind with
      | periodicRefresh => exact sound.scheduleRefresh false
      | diagnosticsRefresh => exact sound.scheduleRefresh true
      | scheduledRefresh => exact sound.runScheduledRefresh here listed
      | other => exact sound.detachOther here listed

/-- **A step that is not careful shows at once.** -/
theorem Sound.careful {event : Event} (stepped : impl.step event = some after)
    (scheduled : after.worker ≠ .down → after.Scheduled) : impl.Careful event := by
  cases event with
  | start =>
      intro down
      cases stepped
      have started : impl.start = attachPeriodicRefresh
          { impl with worker := .ready, stopRequested := false, mainContext := some .new } :=
        if_pos down
      rw [started] at scheduled
      have flags := scheduled (by simp [attachPeriodicRefresh, attach])
      have unscheduled := flags.refresh
      have inactive := flags.diagnostics
      simp only [attachPeriodicRefresh, attach, attached, Option.map_some, Option.getD_some,
        SourceContext.count_attach, SourceContext.count_new] at unscheduled inactive
      exact ⟨by simpa using unscheduled, by simpa using inactive⟩
  | setDiagnosticsMode active =>
      obtain ⟨looping, moved⟩ := Option.ite_none_right_eq_some.mp stepped
      cases moved
      cases active with
      | true => trivial
      | false =>
          -- The source is still attached when the mode is off.
          have kept : (impl.setDiagnosticsMode false).diagnosticsModeActive = false ∧
              (impl.setDiagnosticsMode false).worker = impl.worker ∧
              (impl.setDiagnosticsMode false).mainContext = impl.mainContext := by
            simp only [Impl.setDiagnosticsMode, updateDiagnosticsRefreshSource, removeSource]
            split_ifs <;> simp_all
          obtain ⟨off, worker, same⟩ := kept
          have still := (scheduled (by simp [worker, looping])).diagnostics
          have count : (impl.setDiagnosticsMode false).attached .diagnosticsRefresh =
              impl.attached .diagnosticsRefresh := by rw [attached, same, attached]
          rw [off, count, sound.diagnostics (by simp [looping]), ← toNat_eq_one] at still
          exact Bool.eq_false_iff.mpr fun active => Bool.false_ne_true (still.mpr active)
  | _ => trivial

end

/-! ## Scans that are asked for -/

def AsksToScan (impl : Impl) : Event → Prop
  | .enterLoop => True
  | .setDiagnosticsMode active => active = true
  | .requestScan hasClient => hasClient = true
  | .dispatch id => impl.mainContext.bind (·.find? id) = some .diagnosticsRefresh
  | _ => False

def DispatchesRefresh (impl : Impl) : Event → Prop
  | .dispatch id => impl.mainContext.bind (·.find? id) = some .scheduledRefresh
  | _ => False

theorem scheduleRefresh_forceScan (impl : Impl) (forceScan : Bool) :
    (impl.scheduleRefresh forceScan).refreshForceScan =
      (impl.refreshForceScan || forceScan) := by
  rcases scheduleRefresh_cases impl forceScan with ⟨-, asked⟩ | ⟨context, -, -, scheduled⟩
  · rw [asked]
  · rw [scheduled]

theorem scheduleRefresh_worker (impl : Impl) (forceScan : Bool) :
    (impl.scheduleRefresh forceScan).worker = impl.worker := by
  rcases scheduleRefresh_cases impl forceScan with ⟨-, asked⟩ | ⟨context, -, -, scheduled⟩
  · rw [asked]
  · rw [scheduled]

theorem updateDiagnosticsRefreshSource_kept (impl : Impl) :
    impl.updateDiagnosticsRefreshSource.worker = impl.worker ∧
      impl.updateDiagnosticsRefreshSource.stopRequested = impl.stopRequested ∧
      impl.updateDiagnosticsRefreshSource.refreshForceScan = impl.refreshForceScan := by
  simp only [updateDiagnosticsRefreshSource, attachDiagnosticsRefresh, attach, removeSource]
  split_ifs <;> try split
  all_goals exact ⟨rfl, rfl, rfl⟩

theorem setDiagnosticsMode_forceScan (impl : Impl) (active : Bool) :
    (impl.setDiagnosticsMode active).refreshForceScan = (impl.refreshForceScan || active) := by
  have updated := (updateDiagnosticsRefreshSource_kept
    { impl with diagnosticsModeActive := active }).2.2
  cases active with
  | true =>
      rw [Impl.setDiagnosticsMode, if_pos rfl, scheduleRefresh_forceScan, updated]
  | false => rw [Impl.setDiagnosticsMode, if_neg Bool.false_ne_true, updated, Bool.or_false]

theorem step_forceScan {event : Event} (stepped : impl.step event = some after)
    (waits : ¬ impl.DispatchesRefresh event)
    (asked : impl.refreshForceScan = true ∨ impl.AsksToScan event) :
    after.refreshForceScan = true := by
  cases event with
  | start =>
      cases stepped
      have kept : impl.start.refreshForceScan = impl.refreshForceScan := by
        simp only [start, attachPeriodicRefresh, attach]
        split_ifs <;> rfl
      rw [kept]
      exact asked.resolve_right id
  | enterLoop =>
      obtain ⟨-, moved⟩ := Option.ite_none_right_eq_some.mp stepped
      cases moved
      simp [Impl.enterLoop, scheduleRefresh_forceScan]
  | requestStop =>
      have flagged := asked.resolve_right id
      simp only [Impl.step] at stepped
      split at stepped <;> obtain rfl := Option.some.inj stepped <;> exact flagged
  | leaveLoop =>
      have flagged := asked.resolve_right id
      obtain ⟨-, moved⟩ := Option.ite_none_right_eq_some.mp stepped
      cases moved
      simp only [cleanupWorkerState, removePeriodic, removeDiagnostics, removeScheduled,
        removeSource]
      split_ifs <;> exact flagged
  | setDiagnosticsMode active =>
      obtain ⟨-, moved⟩ := Option.ite_none_right_eq_some.mp stepped
      cases moved
      rw [setDiagnosticsMode_forceScan, Bool.or_eq_true]
      exact asked
  | requestScan hasClient =>
      obtain ⟨-, moved⟩ := Option.ite_none_right_eq_some.mp stepped
      cases moved
      cases hasClient with
      | true => simp [Impl.requestScan, scheduleRefresh_forceScan]
      | false => exact asked.resolve_right Bool.false_ne_true
  | signal =>
      obtain ⟨-, moved⟩ := Option.ite_none_right_eq_some.mp stepped
      cases moved
      rw [scheduleRefresh_forceScan, asked.resolve_right id]
      rfl
  | attachOther =>
      have flagged := asked.resolve_right id
      obtain ⟨-, moved⟩ := Option.ite_none_left_eq_some.mp stepped
      cases moved
      simp only [attach]
      split <;> exact flagged
  | dispatch id =>
      obtain ⟨-, dispatched⟩ := Option.ite_none_right_eq_some.mp stepped
      obtain ⟨kind, found, rfl⟩ := Option.map_eq_some_iff.mp dispatched
      simp only [AsksToScan, DispatchesRefresh, found, Option.some.injEq] at asked waits
      cases kind with
      | periodicRefresh =>
          rw [dispatch, scheduleRefresh_forceScan, asked.resolve_right (by decide)]
          rfl
      | diagnosticsRefresh => simp [dispatch, scheduleRefresh_forceScan]
      | scheduledRefresh => exact absurd rfl waits
      | other => exact asked.resolve_right (by decide)

theorem refreshes_of_dispatch {id : ℕ} (dispatches : impl.DispatchesRefresh (.dispatch id))
    (stepped : impl.step (.dispatch id) = some after) :
    after.refreshes = impl.refreshes ++ [impl.refreshForceScan] := by
  obtain ⟨-, dispatched⟩ := Option.ite_none_right_eq_some.mp stepped
  rw [show impl.mainContext.bind (·.find? id) = some .scheduledRefresh from dispatches] at dispatched
  cases dispatched
  rfl

theorem step_scheduled {event : Event} (asks : impl.AsksToScan event)
    (lasts : impl.stopRequested = false) (sound : impl.Sound)
    (stepped : impl.step event = some after) :
    after.refreshScheduled = true ∧ after.worker ≠ .down := by
  have scheduled : ∀ {impl : Impl}, impl.stopRequested = false → impl.Sound →
      impl.worker ≠ .down → (impl.scheduleRefresh true).refreshScheduled = true ∧
        (impl.scheduleRefresh true).worker ≠ .down := by
    intro impl lasts sound up
    refine ⟨?_, by rwa [scheduleRefresh_worker]⟩
    rcases scheduleRefresh_cases impl true with ⟨idle, asked⟩ | ⟨context, -, -, scheduled⟩
    · rw [asked]
      exact idle.resolve_right (by simp [lasts, sound.present, up])
    · rw [scheduled]
  cases event with
  | enterLoop =>
      obtain ⟨ready, moved⟩ := Option.ite_none_right_eq_some.mp stepped
      cases moved
      exact ⟨(scheduled lasts sound (by simp [ready])).1, by simp [Impl.enterLoop]⟩
  | setDiagnosticsMode active =>
      obtain ⟨looping, moved⟩ := Option.ite_none_right_eq_some.mp stepped
      cases moved
      obtain rfl : active = true := asks
      obtain ⟨worker, stop, -⟩ :=
        updateDiagnosticsRefreshSource_kept { impl with diagnosticsModeActive := true }
      exact scheduled (stop.trans lasts) (sound.activate (by simp [looping]))
        (by rw [worker]; simp [looping])
  | requestScan hasClient =>
      obtain ⟨looping, moved⟩ := Option.ite_none_right_eq_some.mp stepped
      cases moved
      obtain rfl : hasClient = true := asks
      exact scheduled lasts sound (by simp [looping])
  | dispatch id =>
      obtain ⟨looping, dispatched⟩ := Option.ite_none_right_eq_some.mp stepped
      rw [show impl.mainContext.bind (·.find? id) = some .diagnosticsRefresh from asks]
        at dispatched
      cases dispatched
      exact scheduled lasts sound (by simp [looping])
  | _ => exact asks.elim

end Impl

/-! ## Whole runs -/

variable {start impl : Impl} {events : List Event}

theorem sound_initial (initial : machine.initial start) : start.Sound := by
  obtain ⟨defaultContext, rfl⟩ := initial
  exact ⟨by simp, by simp, by simp, by simp, by simp [Impl.attached]⟩

theorem guarded_iff (sound : start.Sound) (run : machine.Run start events impl) :
    (machine.guarded Impl.Careful).Run start events impl ↔
      ∀ front back middle, events = front ++ back → machine.Run start front middle →
        middle.worker ≠ .down → middle.Scheduled := by
  induction run with
  | nil start =>
      refine ⟨fun _ front back middle split passed up => ?_, fun _ => .nil start⟩
      obtain ⟨rfl, rfl⟩ := List.nil_eq_append_iff.mp split
      cases passed
      exact sound.scheduled up
  | @cons before after last event events moved rest ih =>
      constructor
      · intro guarded front back middle split passed up
        cases guarded with
        | cons first later =>
            cases passed with
            | nil => exact sound.scheduled up
            | cons first' later' =>
                -- A step has one outcome only.
                obtain ⟨rfl, shorter⟩ := List.cons.inj split
                obtain rfl := Option.some.inj (moved.symm.trans first.1)
                obtain rfl := Option.some.inj (moved.symm.trans first')
                exact (ih (sound.step first.2 moved)).mp later _ back middle shorter later' up
      · intro scheduled
        have next : after.worker ≠ .down → after.Scheduled :=
          scheduled [event] events after rfl (.cons moved (.nil after))
        have careful := sound.careful moved next
        refine .cons ⟨moved, careful⟩ ((ih (sound.step careful moved)).mpr ?_)
        intro front back middle split passed up
        exact scheduled (event :: front) back middle (by rw [split, List.cons_append])
          (.cons moved passed) up

theorem guarded_sound (sound : start.Sound)
    (run : (machine.guarded Impl.Careful).Run start events impl) : impl.Sound :=
  run.invariant (fun _ _ _ sound moved => sound.step moved.2 moved.1) sound

/-- **Refreshes are scheduled when the flags say so, along exactly the careful runs**; there a scan
that is asked for has an idle source, unless the worker is to stop. In every run a scan that was
asked for is made by the next refresh. -/
theorem refreshes_scheduled (initial : machine.initial start)
    (run : machine.Run start events impl) :
    ((machine.guarded Impl.Careful).Run start events impl ↔
      ∀ front back middle, events = front ++ back → machine.Run start front middle →
        middle.worker ≠ .down → middle.Scheduled) ∧
    ((machine.guarded Impl.Careful).Run start events impl →
      ∀ request asked, impl.AsksToScan request → impl.stopRequested = false →
        impl.step request = some asked → asked.attached .scheduledRefresh = 1) ∧
    (∀ request asked waiting pending id refreshed, impl.AsksToScan request →
      impl.step request = some asked →
      (machine.guarded fun state event => ¬ state.DispatchesRefresh event).Run asked waiting
        pending →
      pending.DispatchesRefresh (.dispatch id) → pending.step (.dispatch id) = some refreshed →
      refreshed.refreshes = pending.refreshes ++ [true]) := by
  refine ⟨guarded_iff (sound_initial initial) run, fun guarded request asked asks lasts stepped => ?_,
    fun request asked waiting pending id refreshed asks stepped waits dispatches next => ?_⟩
  · have sound := guarded_sound (sound_initial initial) guarded
    have careful : impl.Careful request := by
      cases request with
      | start => exact asks.elim
      | setDiagnosticsMode active =>
          obtain rfl : active = true := asks
          trivial
      | _ => trivial
    obtain ⟨flagged, up⟩ := Impl.step_scheduled asks lasts sound stepped
    rw [(sound.step careful stepped).refresh up, flagged]
    rfl
  · have not_yet : ¬ impl.DispatchesRefresh request := by
      cases request with
      | dispatch id =>
          intro refresh
          exact absurd (asks.symm.trans refresh) (by decide)
      | _ => exact not_false
    have flagged := Impl.step_forceScan stepped not_yet (.inr asks)
    have kept : ∀ (before : Impl) (event : Event) (after : Impl), before.refreshForceScan = true →
        (machine.guarded fun state event => ¬ state.DispatchesRefresh event).step before event after →
        after.refreshForceScan = true := fun before event after flagged moved =>
      Impl.step_forceScan moved.1 moved.2 (.inl flagged)
    have waited : pending.refreshForceScan = true := waits.invariant kept flagged
    rw [Impl.refreshes_of_dispatch dispatches next, waited]

theorem run_cons {before after last : Impl} {event : Event} {events : List Event}
    (moved : before.step event = some after) (rest : machine.Run after events last) :
    machine.Run before (event :: events) last := .cons moved rest

def restart : List Event := [.start, .enterLoop, .requestStop, .leaveLoop, .start, .enterLoop]

/-- After the restart no refresh is attached, and none will be. -/
theorem restart_swallows : ∃ impl, machine.Run { defaultContext := .new } restart impl ∧
    impl.worker ≠ .down ∧ ¬ impl.Scheduled := by
  unfold restart
  refine ⟨_, run_cons rfl (run_cons rfl (run_cons rfl (run_cons rfl (run_cons rfl (run_cons rfl
    (.nil _)))))), ?_, fun scheduled => ?_⟩
  · decide
  · exact absurd (scheduled.refresh.mp rfl) (by decide)

theorem refreshes_scheduled_restart :
    (machine.guarded Impl.Careful).Run { defaultContext := .new } [.start, .enterLoop]
        (Impl.enterLoop (Impl.start { defaultContext := .new })) ↔
      ∀ front back middle, [Event.start, .enterLoop] = front ++ back →
        machine.Run { defaultContext := .new } front middle →
        middle.worker ≠ .down → middle.Scheduled :=
  (refreshes_scheduled ⟨.new, rfl⟩ (run_cons rfl (run_cons rfl (.nil _)))).1

end DirtSim.NetworkService
