import DirtSim.Foundation.FloatOperations
import DirtSim.Foundation.Transition
import Mathlib.Logic.Function.Basic
import Mathlib.Tactic.DeriveFintype

/-! # The events of the clock

The clock scenario starts events by chance, once a second or when the shown time changes, and ends
them when their time is up. An event whose conflicting event is active waits in a queue. What an
event does to the world is left out. Of the arithmetic only the operations are used.
-/

namespace DirtSim

open Foundation
open scoped FloatOperations

inductive ClockEventType
  | colorCycle
  | colorShowcase
  | digitSlide
  | duck
  | marquee
  | meltdown
  | rain
deriving DecidableEq

inductive EventTriggerType
  | periodic
  | onTimeChange
deriving DecidableEq

structure EventTimingConfig (K : Type) where
  triggerType : EventTriggerType
  duration : K
  chance : K
  cooldown : K

structure ClockEventConfigs (K : Type) where
  colorCycle : EventTimingConfig K
  colorShowcase : EventTimingConfig K
  digitSlide : EventTimingConfig K
  duck : EventTimingConfig K
  marquee : EventTimingConfig K
  meltdown : EventTimingConfig K
  rain : EventTimingConfig K

def ClockEventConfigs.default : ClockEventConfigs ℚ where
  colorCycle := ⟨.onTimeChange, 10, 15 / 100, 15⟩
  colorShowcase := ⟨.onTimeChange, 10, 3 / 10, 60⟩
  digitSlide := ⟨.onTimeChange, 5, 1 / 2, 60⟩
  duck := ⟨.periodic, 30, 5 / 100, 10⟩
  marquee := ⟨.onTimeChange, 10, 2 / 10, 5⟩
  meltdown := ⟨.onTimeChange, 20, 2 / 10, 30⟩
  rain := ⟨.periodic, 20, 1 / 100, 30⟩

inductive ClockFont
  | dotMatrix
  | montserrat24
  | notoColorEmoji
  | segment7
  | segment7ExtraTall
  | segment7Jumbo
  | segment7Large
  | segment7Tall
deriving DecidableEq

/-- What the events read of the clock's configuration. -/
structure ClockConfig (K : Type) where
  colorCycleEnabled : Bool
  colorShowcaseEnabled : Bool
  digitSlideEnabled : Bool
  duckEnabled : Bool
  marqueeEnabled : Bool
  meltdownEnabled : Bool
  rainEnabled : Bool
  showSeconds : Bool
  font : ClockFont
  eventFrequency : K

def ClockConfig.default : ClockConfig ℚ where
  colorCycleEnabled := true
  colorShowcaseEnabled := true
  digitSlideEnabled := true
  duckEnabled := true
  marqueeEnabled := true
  meltdownEnabled := true
  rainEnabled := true
  showSeconds := false
  font := .segment7Large
  eventFrequency := 1 / 2

/-- The configuration of a scenario, which may be that of another scenario. -/
inductive ScenarioConfig (K : Type)
  | clock (config : ClockConfig K)
  | other

structure ActiveEvent (K : Type) where
  remainingTime : K

structure EventManager (K : Type) where
  activeEvents : ClockEventType → Option (ActiveEvent K)
  eventCooldowns : ClockEventType → Option K
  timeSinceLastTriggerCheck : K
  lastTriggerCheckTime : String
  timeChangedThisFrame : Bool

namespace EventManager

variable {K : Type} (manager : EventManager K)

def isEventActive (type : ClockEventType) : Bool := (manager.activeEvents type).isSome

def setCooldown (type : ClockEventType) (duration : K) : EventManager K :=
  { manager with eventCooldowns := Function.update manager.eventCooldowns type (some duration) }

def addActiveEvent (type : ClockEventType) (event : ActiveEvent K) : EventManager K :=
  { manager with activeEvents := Function.update manager.activeEvents type (some event) }

def removeActiveEvent (type : ClockEventType) : EventManager K :=
  { manager with activeEvents := Function.update manager.activeEvents type none }

variable [FloatOperations K]

def resetTriggerCheckTimer : EventManager K := { manager with timeSinceLastTriggerCheck := 0 }

def updateTimeTracking (currentTime : String) (deltaTime : K) : EventManager K :=
  { manager with
    timeChangedThisFrame := currentTime ≠ manager.lastTriggerCheckTime
    lastTriggerCheckTime := currentTime
    timeSinceLastTriggerCheck := manager.timeSinceLastTriggerCheck + deltaTime }

def shouldCheckPeriodicTriggers : Bool :=
  FloatOperations.le 1 manager.timeSinceLastTriggerCheck

def updateCooldowns (deltaTime : K) : EventManager K :=
  { manager with
    eventCooldowns := fun type =>
      (manager.eventCooldowns type).map fun cooldown =>
        if FloatOperations.lt 0 cooldown then cooldown - deltaTime else cooldown }

def isOnCooldown (type : ClockEventType) : Bool :=
  match manager.eventCooldowns type with
  | some cooldown => FloatOperations.lt 0 cooldown
  | none => false

end EventManager

def EventManager.cleared {K : Type} [FloatOperations K] : EventManager K where
  activeEvents _ := none
  eventCooldowns _ := none
  timeSinceLastTriggerCheck := 0
  lastTriggerCheckTime := ""
  timeChangedThisFrame := false

/-- The part of the clock scenario that runs the events. -/
structure ClockScenario (K : Type) where
  config : ClockConfig K
  eventConfigs : ClockEventConfigs K
  eventManager : EventManager K
  queuedEvents : List ClockEventType
  firstTickDone : Bool

namespace ClockScenario

def fresh : ClockScenario ℚ where
  config := .default
  eventConfigs := .default
  eventManager := .cleared
  queuedEvents := []
  firstTickDone := false

variable {K : Type}

section

/-! ## Starting, queueing and ending -/

def allEventTypes : List ClockEventType :=
  [.colorCycle, .colorShowcase, .digitSlide, .duck, .marquee, .meltdown, .rain]

def getEventTiming (scenario : ClockScenario K) : ClockEventType → EventTimingConfig K
  | .colorCycle => scenario.eventConfigs.colorCycle
  | .colorShowcase => scenario.eventConfigs.colorShowcase
  | .digitSlide => scenario.eventConfigs.digitSlide
  | .duck => scenario.eventConfigs.duck
  | .marquee => scenario.eventConfigs.marquee
  | .meltdown => scenario.eventConfigs.meltdown
  | .rain => scenario.eventConfigs.rain

def isEnabled (config : ClockConfig K) : ClockEventType → Bool
  | .colorCycle => config.colorCycleEnabled
  | .colorShowcase => config.colorShowcaseEnabled
  | .digitSlide => config.digitSlideEnabled
  | .duck => config.duckEnabled
  | .marquee => config.marqueeEnabled
  | .meltdown => config.meltdownEnabled
  | .rain => config.rainEnabled

def isEventAllowed (scenario : ClockScenario K) (type : ClockEventType) : Bool :=
  isEnabled scenario.config type

def isEventActive (scenario : ClockScenario K) (type : ClockEventType) : Bool :=
  scenario.eventManager.isEventActive type

def isEventBlockedByConflict (scenario : ClockScenario K) : ClockEventType → Bool
  | .meltdown => scenario.isEventActive .marquee
  | .marquee => scenario.isEventActive .meltdown
  | _ => false

def queueEvent (scenario : ClockScenario K) (type : ClockEventType) : ClockScenario K :=
  if !scenario.isEventAllowed type then scenario
  else if type ∈ scenario.queuedEvents then scenario
  else { scenario with queuedEvents := scenario.queuedEvents ++ [type] }

def startEvent (scenario : ClockScenario K) (type : ClockEventType) : ClockScenario K :=
  { scenario with
    eventManager :=
      scenario.eventManager.addActiveEvent type
        { remainingTime := (scenario.getEventTiming type).duration } }

def endEvent (scenario : ClockScenario K) (type : ClockEventType) (setCooldown : Bool) :
    ClockScenario K :=
  if setCooldown then
    { scenario with
      eventManager :=
        scenario.eventManager.setCooldown type (scenario.getEventTiming type).cooldown }
  else scenario

def removeActiveEvent (scenario : ClockScenario K) (type : ClockEventType) : ClockScenario K :=
  { scenario with eventManager := scenario.eventManager.removeActiveEvent type }

/-- An event that is to start waits for the event it conflicts with. -/
def startOrQueue (scenario : ClockScenario K) (type : ClockEventType) : ClockScenario K :=
  if scenario.isEventBlockedByConflict type then scenario.queueEvent type
  else scenario.startEvent type

def triggerEvent (scenario : ClockScenario K) (type : ClockEventType) : Bool × ClockScenario K :=
  if scenario.isEventActive type then (false, scenario) else (true, scenario.startOrQueue type)

/-- One entry of the queue: it is dropped, it stays, or its event starts. -/
def processQueuedEvent (scenario : ClockScenario K) (type : ClockEventType) :
    ClockScenario K × List ClockEventType :=
  if !scenario.isEventAllowed type then (scenario, [])
  else if scenario.isEventActive type then (scenario, [])
  else if scenario.isEventBlockedByConflict type then (scenario, [type])
  else (scenario.startEvent type, [])

/-- The entries of the queue in turn, with those that remain. -/
def processQueue (scenario : ClockScenario K) :
    List ClockEventType → ClockScenario K × List ClockEventType
  | [] => (scenario, [])
  | type :: queue =>
      let first := scenario.processQueuedEvent type
      let rest := first.1.processQueue queue
      (rest.1, first.2 ++ rest.2)

def processQueuedEvents (scenario : ClockScenario K) : ClockScenario K :=
  let processed := scenario.processQueue scenario.queuedEvents
  { processed.1 with queuedEvents := processed.2 }

end

section

/-! ## One update -/

variable [FloatOperations K]

/-- What an update finds: the time, the random draws for each event, and what the events that are
active do to their remaining times. -/
structure Frame (K : Type) where
  deltaTime : K
  currentTime : String
  timeChangeDraw : ClockEventType → K
  periodicDraw : ClockEventType → K
  updateEvent : ClockEventType → K → K

/-- Starts an event by chance when it is triggered in this way, allowed, inactive and not on
cooldown. -/
def tryTrigger (scenario : ClockScenario K) (triggerType : EventTriggerType)
    (happens : ClockEventType → K → Bool) (type : ClockEventType) : ClockScenario K :=
  let timing := scenario.getEventTiming type
  if timing.triggerType ≠ triggerType then scenario
  else if !scenario.isEventAllowed type then scenario
  else if scenario.isEventActive type then scenario
  else if scenario.eventManager.isOnCooldown type then scenario
  else if happens type (timing.chance * scenario.config.eventFrequency) then
    scenario.startOrQueue type
  else scenario

def tryTriggerEvents (scenario : ClockScenario K) (triggerType : EventTriggerType)
    (happens : ClockEventType → K → Bool) : ClockScenario K :=
  if !scenario.firstTickDone then scenario
  else
    allEventTypes.foldl (fun current type => current.tryTrigger triggerType happens type) scenario

def tryTriggerPeriodicEvents (scenario : ClockScenario K) (frame : Frame K) : ClockScenario K :=
  scenario.tryTriggerEvents .periodic fun type chance =>
    FloatOperations.lt (frame.periodicDraw type) chance

def tryTriggerTimeChangeEvents (scenario : ClockScenario K) (frame : Frame K) :
    ClockScenario K :=
  scenario.tryTriggerEvents .onTimeChange fun type chance =>
    FloatOperations.le 1 chance || FloatOperations.lt (frame.timeChangeDraw type) chance

/-- Lets the active events act and takes the time from them. -/
def updateActiveEvents (scenario : ClockScenario K) (frame : Frame K) : ClockScenario K :=
  { scenario with
    eventManager :=
      { scenario.eventManager with
        activeEvents := fun type =>
          (scenario.eventManager.activeEvents type).map fun event =>
            { remainingTime := frame.updateEvent type event.remainingTime - frame.deltaTime } } }

def isTimeUp (scenario : ClockScenario K) (type : ClockEventType) : Bool :=
  match scenario.eventManager.activeEvents type with
  | some event => FloatOperations.le event.remainingTime 0
  | none => false

def endEvents (scenario : ClockScenario K) : ClockScenario K :=
  (allEventTypes.filter scenario.isTimeUp).foldl
    (fun current type => (current.endEvent type true).removeActiveEvent type) scenario

def updateTimes (scenario : ClockScenario K) (frame : Frame K) : ClockScenario K :=
  { scenario with
    eventManager :=
      (scenario.eventManager.updateCooldowns frame.deltaTime).updateTimeTracking frame.currentTime
        frame.deltaTime }

/-- The events that the change of the shown time may start. -/
def checkTimeChange (scenario : ClockScenario K) (frame : Frame K) : ClockScenario K :=
  if scenario.eventManager.timeChangedThisFrame then scenario.tryTriggerTimeChangeEvents frame
  else scenario

def resetTriggerCheckTimer (scenario : ClockScenario K) : ClockScenario K :=
  { scenario with eventManager := scenario.eventManager.resetTriggerCheckTimer }

def checkPeriodically (scenario : ClockScenario K) (frame : Frame K) : ClockScenario K :=
  if scenario.eventManager.shouldCheckPeriodicTriggers then
    scenario.resetTriggerCheckTimer.tryTriggerPeriodicEvents frame
  else scenario

def updateEvents (scenario : ClockScenario K) (frame : Frame K) : ClockScenario K :=
  if FloatOperations.le scenario.config.eventFrequency 0 then scenario
  else
    let triggered := ((scenario.updateTimes frame).checkTimeChange frame).checkPeriodically frame
    ((triggered.updateActiveEvents frame).endEvents).processQueuedEvents

def tick (scenario : ClockScenario K) (frame : Frame K) : ClockScenario K :=
  { scenario with firstTickDone := true }.updateEvents frame

end

section

/-! ## Configurations and resets -/

variable [FloatOperations K]

def cancelAllEvents (scenario : ClockScenario K) : ClockScenario K :=
  { scenario with queuedEvents := [], eventManager := .cleared }

def setup (scenario : ClockScenario K) (currentTime : String) : ClockScenario K :=
  { scenario with
    eventManager := scenario.eventManager.updateTimeTracking currentTime 0 }

def reset (scenario : ClockScenario K) (currentTime : String) : ClockScenario K :=
  scenario.cancelAllEvents.setup currentTime

def stopEventIfDisabled (scenario : ClockScenario K) (type : ClockEventType) : ClockScenario K :=
  if scenario.isEventAllowed type then scenario
  else if scenario.isEventActive type then
    (scenario.endEvent type false).removeActiveEvent type
  else scenario

def stopDisabledEvents (scenario : ClockScenario K) : ClockScenario K :=
  allEventTypes.foldl (fun current type => current.stopEventIfDisabled type) scenario

def isLayoutChanged (scenario : ClockScenario K) (incoming : ClockConfig K) : Bool :=
  incoming.showSeconds ≠ scenario.config.showSeconds || incoming.font ≠ scenario.config.font

def applyConfig (scenario : ClockScenario K) (incoming : ClockConfig K) (currentTime : String) :
    ClockScenario K :=
  if scenario.isLayoutChanged incoming then
    { scenario with config := incoming }.cancelAllEvents.reset currentTime
  else { scenario with config := incoming }

def setConfig (scenario : ClockScenario K) (newConfig : ScenarioConfig K) (currentTime : String) :
    ClockScenario K :=
  match newConfig with
  | .clock incoming =>
      let stopped := (scenario.applyConfig incoming currentTime).stopDisabledEvents
      { stopped with queuedEvents := stopped.queuedEvents.filter stopped.isEventAllowed }
  | .other => scenario

end

section

/-! ## Runs -/

variable [FloatOperations K]

inductive Action (K : Type)
  | updateEvents (frame : Frame K)
  | tick (frame : Frame K)
  | triggerEvent (type : ClockEventType)
  | setConfig (newConfig : ScenarioConfig K) (currentTime : String)
  | reset (currentTime : String)

def act (scenario : ClockScenario K) : Action K → ClockScenario K
  | .updateEvents frame => scenario.updateEvents frame
  | .tick frame => scenario.tick frame
  | .triggerEvent type => (scenario.triggerEvent type).2
  | .setConfig newConfig currentTime => scenario.setConfig newConfig currentTime
  | .reset currentTime => scenario.reset currentTime

def machine : Machine (Action K) (ClockScenario K) where
  initial scenario :=
    scenario.eventManager = .cleared ∧ scenario.queuedEvents = [] ∧ scenario.firstTickDone = false
  step before action after := before.act action = after

end

end ClockScenario

end DirtSim
