import DirtSim.Clock.ClockEvents

/-! # Conflicts of the clock's events

The marquee and the meltdown never run together, since each of them waits in the queue while the
other is active. An update leaves only such events in the queue, and a new configuration stops and
removes whatever it does not allow.
-/

namespace DirtSim

open Foundation
open scoped FloatOperations

namespace ClockScenario

variable {K : Type}

section

variable (scenario : ClockScenario K)

/-! ## Single events -/

def conflictPartner : ClockEventType → Option ClockEventType
  | .meltdown => some .marquee
  | .marquee => some .meltdown
  | _ => none

theorem blocked_iff (type : ClockEventType) :
    scenario.isEventBlockedByConflict type = true ↔
      ∃ partner, conflictPartner type = some partner ∧ scenario.isEventActive partner = true := by
  cases type <;> simp [isEventBlockedByConflict, conflictPartner]

/-- The marquee and the meltdown are not both active, and no event is queued twice. -/
structure Orderly (scenario : ClockScenario K) : Prop where
  exclusive :
    ¬(scenario.isEventActive .marquee = true ∧ scenario.isEventActive .meltdown = true)
  queue : scenario.queuedEvents.Nodup

theorem isEventActive_startEvent (type other : ClockEventType) :
    (scenario.startEvent type).isEventActive other = true ↔
      other = type ∨ scenario.isEventActive other = true := by
  unfold isEventActive startEvent EventManager.isEventActive EventManager.addActiveEvent
  by_cases same : other = type
  · subst same
    simp
  · simp [same]

theorem isEventActive_removeActiveEvent (type other : ClockEventType) :
    (scenario.removeActiveEvent type).isEventActive other = true ↔
      other ≠ type ∧ scenario.isEventActive other = true := by
  unfold isEventActive removeActiveEvent EventManager.isEventActive EventManager.removeActiveEvent
  by_cases same : other = type
  · subst same
    simp
  · simp [same]

theorem Orderly.of_fewer {before after : ClockScenario K} (orderly : Orderly before)
    (fewer : ∀ type, after.isEventActive type = true → before.isEventActive type = true)
    (queue : after.queuedEvents = before.queuedEvents) : Orderly after where
  exclusive both := orderly.exclusive ⟨fewer _ both.1, fewer _ both.2⟩
  queue := queue ▸ orderly.queue

section

variable {scenario : ClockScenario K} (orderly : Orderly scenario)
include orderly

theorem Orderly.startEvent {type : ClockEventType}
    (free : scenario.isEventBlockedByConflict type = false) :
    Orderly (scenario.startEvent type) where
  exclusive := by
    intro both
    obtain ⟨marquee, meltdown⟩ := both
    rw [isEventActive_startEvent] at marquee meltdown
    rcases marquee with rfl | marquee
    · rcases meltdown with same | meltdown
      · cases same
      · rw [isEventBlockedByConflict, meltdown] at free
        cases free
    · rcases meltdown with rfl | meltdown
      · rw [isEventBlockedByConflict, marquee] at free
        cases free
      · exact orderly.exclusive ⟨marquee, meltdown⟩
  queue := orderly.queue

theorem Orderly.queueEvent (type : ClockEventType) : Orderly (scenario.queueEvent type) := by
  unfold ClockScenario.queueEvent
  split
  · exact orderly
  · split
    · exact orderly
    · rename_i absent
      refine ⟨orderly.exclusive, ?_⟩
      apply orderly.queue.append (List.nodup_singleton type)
      intro other member last
      rw [List.mem_singleton.mp last] at member
      exact absent member

theorem Orderly.startOrQueue (type : ClockEventType) : Orderly (scenario.startOrQueue type) := by
  unfold ClockScenario.startOrQueue
  split
  case isTrue => exact orderly.queueEvent type
  case isFalse free => exact orderly.startEvent (Bool.eq_false_iff.mpr free)

theorem Orderly.triggerEvent (type : ClockEventType) : Orderly (scenario.triggerEvent type).2 := by
  unfold ClockScenario.triggerEvent
  split
  · exact orderly
  · exact orderly.startOrQueue type

theorem Orderly.endEvent (type : ClockEventType) (setCooldown : Bool) :
    Orderly ((scenario.endEvent type setCooldown).removeActiveEvent type) := by
  have ended : Orderly (scenario.endEvent type setCooldown) := by
    cases setCooldown with
    | false => exact orderly
    | true => exact orderly.of_fewer (fun _ active => active) rfl
  exact ended.of_fewer (fun other active =>
    ((isEventActive_removeActiveEvent _ _ _).mp active).2) rfl

end

theorem foldl_kept {property : ClockScenario K → Prop}
    {step : ClockScenario K → ClockEventType → ClockScenario K}
    (kept : ∀ scenario type, property scenario → property (step scenario type))
    (types : List ClockEventType) {scenario : ClockScenario K} (holds : property scenario) :
    property (types.foldl step scenario) := by
  induction types generalizing scenario with
  | nil => exact holds
  | cons type types ih => exact ih (kept scenario type holds)

end

section

/-! ## The queue -/

/-- An event that waits: it is allowed, it is not active and the event it conflicts with is. -/
structure Waits (scenario : ClockScenario K) (type : ClockEventType) : Prop where
  allowed : scenario.isEventAllowed type = true
  inactive : scenario.isEventActive type = false
  partner : ∃ partner, conflictPartner type = some partner ∧
    scenario.isEventActive partner = true

/-- What working through some entries of the queue does. -/
structure Processed (before : ClockScenario K) (queue : List ClockEventType)
    (after : ClockScenario K) (remaining : List ClockEventType) : Prop where
  orderly : Orderly after
  config : after.config = before.config
  sublist : remaining.Sublist queue
  more : ∀ type, before.isEventActive type = true → after.isEventActive type = true
  started : ∀ type, after.isEventActive type = true →
    before.isEventActive type = true ∨ type ∈ queue
  waits : ∀ type ∈ remaining, Waits after type

theorem Orderly.processQueue {scenario : ClockScenario K} (orderly : Orderly scenario)
    {queue : List ClockEventType} (nodup : queue.Nodup) :
    Processed scenario queue (scenario.processQueue queue).1 (scenario.processQueue queue).2 := by
  induction queue generalizing scenario with
  | nil =>
      exact ⟨orderly, rfl, .refl [], fun _ active => active, fun _ active => .inl active,
        fun _ member => absurd member List.not_mem_nil⟩
  | cons type queue ih =>
      obtain ⟨fresh, nodup⟩ := List.nodup_cons.mp nodup
      -- An entry that is dropped leaves the rest to be worked through.
      have dropped : Processed scenario (type :: queue) (scenario.processQueue queue).1
          (scenario.processQueue queue).2 := by
        have rest := ih orderly nodup
        exact ⟨rest.orderly, rest.config, rest.sublist.cons type, rest.more,
          fun other active => (rest.started other active).imp_right (List.mem_cons_of_mem _),
          rest.waits⟩
      rw [ClockScenario.processQueue]
      unfold processQueuedEvent
      split
      · exact dropped
      · rename_i allowed
        split
        · exact dropped
        · rename_i inactive
          split
          · rename_i blocked
            have rest := ih orderly nodup
            refine ⟨rest.orderly, rest.config, rest.sublist.cons_cons type, rest.more,
              dropped.started, ?_⟩
            intro other member
            rcases List.mem_cons.mp member with rfl | later
            · obtain ⟨partner, conflict, active⟩ := (blocked_iff _ _).mp blocked
              refine ⟨?_, ?_, partner, conflict, rest.more _ active⟩
              · rw [isEventAllowed, rest.config]
                simpa only [Bool.not_eq_true', Bool.not_eq_false, isEventAllowed] using allowed
              · rw [Bool.eq_false_iff]
                intro started
                rcases rest.started _ started with already | queued
                · exact inactive already
                · exact fresh queued
            · exact rest.waits _ later
          · rename_i free
            have rest := ih (orderly.startEvent (Bool.eq_false_iff.mpr free)) nodup
            refine ⟨rest.orderly, rest.config, rest.sublist.cons type, ?_, ?_, rest.waits⟩
            · intro other active
              exact rest.more _ ((isEventActive_startEvent _ _ _).mpr (.inr active))
            · intro other active
              rcases rest.started _ active with started | queued
              · rcases (isEventActive_startEvent _ _ _).mp started with rfl | already
                · exact .inr List.mem_cons_self
                · exact .inl already
              · exact .inr (List.mem_cons_of_mem _ queued)

theorem Orderly.processQueuedEvents {scenario : ClockScenario K} (orderly : Orderly scenario) :
    Orderly scenario.processQueuedEvents ∧
      ∀ type ∈ scenario.processQueuedEvents.queuedEvents,
        Waits scenario.processQueuedEvents type := by
  have processed := orderly.processQueue orderly.queue
  constructor
  · exact ⟨processed.orderly.exclusive, orderly.queue.sublist processed.sublist⟩
  · intro type member
    obtain ⟨allowed, inactive, partner⟩ := processed.waits type member
    exact ⟨allowed, inactive, partner⟩

end

section

/-! ## Updates -/

variable [FloatOperations K]
variable {scenario : ClockScenario K}

theorem Orderly.tryTrigger (orderly : Orderly scenario) (triggerType : EventTriggerType)
    (happens : ClockEventType → K → Bool) (type : ClockEventType) :
    Orderly (scenario.tryTrigger triggerType happens type) := by
  unfold ClockScenario.tryTrigger
  dsimp only
  split
  · exact orderly
  · split
    · exact orderly
    · split
      · exact orderly
      · split
        · exact orderly
        · split
          · exact orderly.startOrQueue type
          · exact orderly

theorem Orderly.tryTriggerEvents (orderly : Orderly scenario) (triggerType : EventTriggerType)
    (happens : ClockEventType → K → Bool) :
    Orderly (scenario.tryTriggerEvents triggerType happens) := by
  unfold ClockScenario.tryTriggerEvents
  split
  · exact orderly
  · exact foldl_kept (fun _ type kept => kept.tryTrigger triggerType happens type) _ orderly

omit [FloatOperations K] in
theorem Orderly.of_same {before after : ClockScenario K} (orderly : Orderly before)
    (same : ∀ type, after.isEventActive type = before.isEventActive type)
    (queue : after.queuedEvents = before.queuedEvents) : Orderly after :=
  orderly.of_fewer (fun type active => same type ▸ active) queue

section

variable (orderly : Orderly scenario)
include orderly

theorem Orderly.updateActiveEvents (frame : Frame K) :
    Orderly (scenario.updateActiveEvents frame) := by
  refine orderly.of_same ?_ rfl
  intro type
  exact Option.isSome_map

theorem Orderly.endEvents : Orderly scenario.endEvents :=
  foldl_kept (fun _ type kept => kept.endEvent type true) _ orderly

theorem Orderly.updateTimes (frame : Frame K) : Orderly (scenario.updateTimes frame) :=
  orderly.of_same (fun _ => rfl) rfl

theorem Orderly.checkTimeChange (frame : Frame K) : Orderly (scenario.checkTimeChange frame) := by
  unfold ClockScenario.checkTimeChange
  split
  · exact orderly.tryTriggerEvents .onTimeChange _
  · exact orderly

theorem Orderly.checkPeriodically (frame : Frame K) :
    Orderly (scenario.checkPeriodically frame) := by
  have restarted : Orderly scenario.resetTriggerCheckTimer := orderly.of_same (fun _ => rfl) rfl
  unfold ClockScenario.checkPeriodically
  split
  · exact restarted.tryTriggerEvents .periodic _
  · exact orderly

theorem Orderly.updateEvents (frame : Frame K) :
    Orderly (scenario.updateEvents frame) ∧
      (FloatOperations.le scenario.config.eventFrequency 0 = false →
        ∀ type ∈ (scenario.updateEvents frame).queuedEvents,
          Waits (scenario.updateEvents frame) type) := by
  have triggered :=
    ((orderly.updateTimes frame).checkTimeChange frame).checkPeriodically frame
  obtain ⟨processed, waits⟩ :=
    ((triggered.updateActiveEvents frame).endEvents).processQueuedEvents
  unfold ClockScenario.updateEvents
  split
  case isTrue skipped =>
    exact ⟨orderly, fun runs => absurd skipped (Bool.eq_false_iff.mp runs)⟩
  case isFalse => exact ⟨processed, fun _ => waits⟩

end

end

section

/-! ## Configurations -/

variable [FloatOperations K]
variable (scenario : ClockScenario K)

theorem Orderly.reset (currentTime : String) : Orderly (scenario.reset currentTime) :=
  ⟨fun both => Bool.false_ne_true both.1, List.nodup_nil⟩

section

omit [FloatOperations K]

theorem Orderly.stopEventIfDisabled {scenario : ClockScenario K} (orderly : Orderly scenario)
    (type : ClockEventType) : Orderly (scenario.stopEventIfDisabled type) := by
  unfold ClockScenario.stopEventIfDisabled
  split
  · exact orderly
  · split
    · exact orderly.endEvent type false
    · exact orderly

theorem stopEventIfDisabled_config (type : ClockEventType) :
    (scenario.stopEventIfDisabled type).config = scenario.config := by
  unfold ClockScenario.stopEventIfDisabled
  split
  · rfl
  · split <;> rfl

theorem isEventActive_stopEventIfDisabled {scenario : ClockScenario K}
    {type other : ClockEventType}
    (active : (scenario.stopEventIfDisabled type).isEventActive other = true) :
    scenario.isEventActive other = true ∧
      (other = type → scenario.isEventAllowed other = true) := by
  unfold ClockScenario.stopEventIfDisabled at active
  split at active
  case isTrue allowed => exact ⟨active, fun same => same ▸ allowed⟩
  case isFalse =>
    split at active
    case isTrue running =>
      obtain ⟨apart, remains⟩ := (isEventActive_removeActiveEvent _ _ _).mp active
      exact ⟨remains, fun same => absurd same apart⟩
    case isFalse idle => exact ⟨active, fun same => absurd (same ▸ active) idle⟩

theorem isEventActive_stopped {types : List ClockEventType} {scenario : ClockScenario K}
    {other : ClockEventType}
    (active : (types.foldl (fun current type => current.stopEventIfDisabled type)
      scenario).isEventActive other = true) :
    scenario.isEventActive other = true ∧
      (other ∈ types → scenario.isEventAllowed other = true) := by
  induction types generalizing scenario with
  | nil => exact ⟨active, fun member => absurd member List.not_mem_nil⟩
  | cons type types ih =>
      obtain ⟨stopped, later⟩ := ih active
      obtain ⟨before, first⟩ := isEventActive_stopEventIfDisabled stopped
      refine ⟨before, ?_⟩
      intro member
      rcases List.mem_cons.mp member with same | rest
      · exact first same
      · have allowed := later rest
        rw [isEventAllowed, stopEventIfDisabled_config] at allowed
        exact allowed

theorem stopDisabledEvents_config : scenario.stopDisabledEvents.config = scenario.config :=
  @foldl_kept K (fun current => current.config = scenario.config) _
    (fun current type kept => (stopEventIfDisabled_config current type).trans kept) _ _ rfl

end

/-- Everything that is active or queued is allowed. -/
structure Permitted (scenario : ClockScenario K) : Prop where
  active : ∀ type, scenario.isEventActive type = true → scenario.isEventAllowed type = true
  queued : ∀ type ∈ scenario.queuedEvents, scenario.isEventAllowed type = true

theorem Orderly.applyConfig {scenario : ClockScenario K} (orderly : Orderly scenario)
    (incoming : ClockConfig K) (currentTime : String) :
    Orderly (scenario.applyConfig incoming currentTime) := by
  unfold ClockScenario.applyConfig
  split
  · exact Orderly.reset _ currentTime
  · exact orderly.of_same (fun _ => rfl) rfl

theorem Orderly.setConfig {scenario : ClockScenario K} (orderly : Orderly scenario)
    (newConfig : ScenarioConfig K) (currentTime : String) :
    Orderly (scenario.setConfig newConfig currentTime) := by
  cases newConfig with
  | other => exact orderly
  | clock incoming =>
      have stopped : Orderly (scenario.applyConfig incoming currentTime).stopDisabledEvents :=
        foldl_kept (fun _ type kept => kept.stopEventIfDisabled type) _
          (orderly.applyConfig incoming currentTime)
      exact ⟨stopped.exclusive, stopped.queue.filter _⟩

theorem applyConfig_config (incoming : ClockConfig K) (currentTime : String) :
    (scenario.applyConfig incoming currentTime).config = incoming := by
  unfold applyConfig
  split <;> rfl

theorem setConfig_permits (incoming : ClockConfig K) (currentTime : String) :
    (scenario.setConfig (.clock incoming) currentTime).config = incoming ∧
      Permitted (scenario.setConfig (.clock incoming) currentTime) := by
  have config := stopDisabledEvents_config (scenario.applyConfig incoming currentTime)
  refine ⟨config.trans (applyConfig_config scenario incoming currentTime), ?_, ?_⟩
  · intro type active
    have all : type ∈ allEventTypes := by cases type <;> decide
    have allowed := (isEventActive_stopped active).2 all
    rw [isEventAllowed, ← config] at allowed
    exact allowed
  · intro type member
    exact (List.mem_filter.mp member).2

end

section

/-! ## Runs -/

variable [FloatOperations K]

theorem orderly_of_reachable {scenario : ClockScenario K}
    (reached : (machine (K := K)).Reachable scenario) : Orderly scenario := by
  apply reached.invariant
  · intro scenario initial
    obtain ⟨manager, queue, _⟩ := initial
    constructor
    · intro both
      rw [isEventActive, manager] at both
      exact Bool.false_ne_true both.1
    · rw [queue]
      exact List.nodup_nil
  · intro before label after orderly moved
    rw [← moved]
    cases label with
    | updateEvents frame => exact (orderly.updateEvents frame).1
    | tick frame =>
        have ticked : Orderly { before with firstTickDone := true } :=
          orderly.of_same (fun _ => rfl) rfl
        exact (ticked.updateEvents frame).1
    | triggerEvent type => exact orderly.triggerEvent type
    | setConfig newConfig currentTime => exact orderly.setConfig newConfig currentTime
    | reset currentTime => exact Orderly.reset before currentTime

/-- **Events respect their conflicts and the configuration.** In every state of every run the
marquee and the meltdown are not both active and no event is queued twice. After an update that is
not skipped each queued event waits for its conflict to end, and after each new configuration all
that is active or queued is allowed by it. -/
theorem orderly_runs {scenario : ClockScenario K}
    (reached : (machine (K := K)).Reachable scenario) :
    Orderly scenario ∧
      (∀ frame : Frame K, FloatOperations.le scenario.config.eventFrequency 0 = false →
        (∀ type ∈ (scenario.updateEvents frame).queuedEvents,
            Waits (scenario.updateEvents frame) type) ∧
          ∀ type ∈ (scenario.tick frame).queuedEvents, Waits (scenario.tick frame) type) ∧
      ∀ (incoming : ClockConfig K) (currentTime : String),
        (scenario.setConfig (.clock incoming) currentTime).config = incoming ∧
          Permitted (scenario.setConfig (.clock incoming) currentTime) := by
  have orderly := orderly_of_reachable reached
  have ticked : Orderly { scenario with firstTickDone := true } :=
    orderly.of_same (fun _ => rfl) rfl
  refine ⟨orderly, ?_, fun incoming currentTime => setConfig_permits _ incoming currentTime⟩
  intro frame runs
  exact ⟨(orderly.updateEvents frame).2 runs, (ticked.updateEvents frame).2 runs⟩

theorem orderly_runs_waiting :
    let scenario := (fresh.triggerEvent .marquee).2.triggerEvent .meltdown |>.2
    Orderly scenario ∧
      (∀ frame : Frame ℚ, FloatOperations.le scenario.config.eventFrequency 0 = false →
        (∀ type ∈ (scenario.updateEvents frame).queuedEvents,
            Waits (scenario.updateEvents frame) type) ∧
          ∀ type ∈ (scenario.tick frame).queuedEvents, Waits (scenario.tick frame) type) ∧
      ∀ (incoming : ClockConfig ℚ) (currentTime : String),
        (scenario.setConfig (.clock incoming) currentTime).config = incoming ∧
          Permitted (scenario.setConfig (.clock incoming) currentTime) :=
  orderly_runs
    ⟨fresh, [.triggerEvent .marquee, .triggerEvent .meltdown], ⟨rfl, rfl, rfl⟩,
      .cons rfl (.cons rfl (.nil _))⟩

end

end ClockScenario

end DirtSim
