import DirtSim.Foundation.SourceContext
import DirtSim.Foundation.Transition

/-! # The worker of the network service

Refreshes are asked for by timeout sources, signals and callers, and made by an idle source that is
attached when none is pending. Every run of the worker has a new context, while the numbers of the
sources live in the service, and `g_source_remove` looks in the default context only. Loading the
snapshot is left out.
-/

namespace DirtSim

open Foundation

namespace NetworkService

inductive SourceKind
  | periodicRefresh
  | diagnosticsRefresh
  | scheduledRefresh
  /-- A task of a caller, or a source of the client library. -/
  | other
deriving DecidableEq, Repr

/-- Where the worker is: not running, ready but not yet in its loop, or in it. -/
inductive Worker
  | down
  | ready
  | looping
deriving DecidableEq, Repr

structure Impl where
  worker : Worker := .down
  stopRequested : Bool := false
  mainContext : Option (SourceContext SourceKind) := none
  defaultContext : SourceContext SourceKind
  diagnosticsRefreshSourceId : ℕ := 0
  periodicRefreshSourceId : ℕ := 0
  scheduledRefreshSourceId : ℕ := 0
  diagnosticsModeActive : Bool := false
  refreshScheduled : Bool := false
  refreshForceScan : Bool := false
  /-- What `refreshSnapshot` was called with by the idle source, oldest first. -/
  refreshes : List Bool := []

namespace Impl

/-! ## Sources -/

/-- `g_source_attach` to the worker's context, which is the default one without a worker. -/
def attach (impl : Impl) (kind : SourceKind) : Impl × ℕ :=
  match impl.mainContext with
  | some context => ({ impl with mainContext := some (context.attach kind) }, context.nextId)
  | none =>
      ({ impl with defaultContext := impl.defaultContext.attach kind }, impl.defaultContext.nextId)

def removeSource (impl : Impl) (id : ℕ) : Impl :=
  { impl with defaultContext := impl.defaultContext.remove id }

def scheduleRefresh (impl : Impl) (forceScan : Bool) : Impl :=
  let asked := { impl with refreshForceScan := impl.refreshForceScan || forceScan }
  if asked.refreshScheduled || asked.stopRequested || asked.mainContext.isNone then asked
  else
    let (attached, id) := asked.attach .scheduledRefresh
    { attached with scheduledRefreshSourceId := id, refreshScheduled := true }

def attachPeriodicRefresh (impl : Impl) : Impl :=
  let (attached, id) := impl.attach .periodicRefresh
  { attached with periodicRefreshSourceId := id }

def attachDiagnosticsRefresh (impl : Impl) : Impl :=
  let (attached, id) := impl.attach .diagnosticsRefresh
  { attached with diagnosticsRefreshSourceId := id }

def updateDiagnosticsRefreshSource (impl : Impl) : Impl :=
  if impl.diagnosticsModeActive then
    if impl.diagnosticsRefreshSourceId = 0 && impl.mainContext.isSome then
      impl.attachDiagnosticsRefresh
    else impl
  else if impl.diagnosticsRefreshSourceId ≠ 0 then
    { impl.removeSource impl.diagnosticsRefreshSourceId with diagnosticsRefreshSourceId := 0 }
  else impl

/-! ## The worker -/

def start (impl : Impl) : Impl :=
  if impl.worker = .down then
    attachPeriodicRefresh
      { impl with worker := .ready, stopRequested := false, mainContext := some .new }
  else impl

/-- The worker asks for a first refresh and enters its loop. -/
def enterLoop (impl : Impl) : Impl := { impl.scheduleRefresh true with worker := .looping }

def removeScheduled (impl : Impl) : Impl :=
  if impl.scheduledRefreshSourceId ≠ 0 then
    { impl.removeSource impl.scheduledRefreshSourceId with scheduledRefreshSourceId := 0 }
  else impl

def removeDiagnostics (impl : Impl) : Impl :=
  if impl.diagnosticsRefreshSourceId ≠ 0 then
    { impl.removeSource impl.diagnosticsRefreshSourceId with diagnosticsRefreshSourceId := 0 }
  else impl

def removePeriodic (impl : Impl) : Impl :=
  if impl.periodicRefreshSourceId ≠ 0 then
    { impl.removeSource impl.periodicRefreshSourceId with periodicRefreshSourceId := 0 }
  else impl

def cleanupWorkerState (impl : Impl) : Impl :=
  { impl.removeScheduled.removeDiagnostics.removePeriodic with
    mainContext := none
    worker := .down
    stopRequested := false }

/-! ## Requests and sources -/

def requestScan (impl : Impl) (hasClient : Bool) : Impl :=
  if hasClient then impl.scheduleRefresh true else impl

def setDiagnosticsMode (impl : Impl) (active : Bool) : Impl :=
  let updated := { impl with diagnosticsModeActive := active }.updateDiagnosticsRefreshSource
  if active then updated.scheduleRefresh true else updated

def runScheduledRefresh (impl : Impl) : Impl :=
  { impl with
    scheduledRefreshSourceId := 0
    refreshScheduled := false
    refreshForceScan := false
    refreshes := impl.refreshes ++ [impl.refreshForceScan] }

def detach (impl : Impl) (id : ℕ) : Impl :=
  { impl with mainContext := impl.mainContext.map fun context => context.remove id }

def dispatch (impl : Impl) (id : ℕ) : SourceKind → Impl
  | .periodicRefresh => impl.scheduleRefresh false
  | .diagnosticsRefresh => impl.scheduleRefresh true
  | .scheduledRefresh => (impl.detach id).runScheduledRefresh
  | .other => impl.detach id

end Impl

/-! ## Runs -/

inductive Event
  | start
  | enterLoop
  /-- `stop` tells the worker to leave its loop. -/
  | requestStop
  | leaveLoop
  | setDiagnosticsMode (active : Bool)
  | requestScan (hasClient : Bool)
  /-- A signal of the client or of the device. -/
  | signal
  /-- A caller or the client library attaches a source. -/
  | attachOther
  | dispatch (id : ℕ)
deriving DecidableEq, Repr

def Impl.step (impl : Impl) : Event → Option Impl
  | .start => some impl.start
  | .enterLoop => if impl.worker = .ready then some impl.enterLoop else none
  | .requestStop =>
      if impl.worker = .down then some impl else some { impl with stopRequested := true }
  | .leaveLoop =>
      if impl.worker = .looping ∧ impl.stopRequested then some impl.cleanupWorkerState else none
  | .setDiagnosticsMode active =>
      if impl.worker = .looping then some (impl.setDiagnosticsMode active) else none
  | .requestScan hasClient =>
      if impl.worker = .looping then some (impl.requestScan hasClient) else none
  | .signal => if impl.worker = .looping then some (impl.scheduleRefresh false) else none
  | .attachOther =>
      if impl.worker = .down then none else some (impl.attach .other).1
  | .dispatch id =>
      if impl.worker = .looping then
        (impl.mainContext.bind (·.find? id)).map (impl.dispatch id)
      else none

/-- The service starts without a worker; the default context may have any sources. -/
def machine : Machine Event Impl where
  initial impl := ∃ defaultContext, impl = { defaultContext := defaultContext }
  step before event after := before.step event = some after

end NetworkService

end DirtSim
