import DirtSim.Foundation.Transition
import Mathlib.Algebra.Group.Int.Defs
import Mathlib.Algebra.Order.Group.Nat

/-! # The planner of the radio scan

In discovery the planner chooses the candidate tuning whose last visit is longest ago, and otherwise
each in turn. A discovery is due after a number of tracking steps, and whenever some candidate has
waited too long. Times are nanoseconds; counts do not overflow.
-/

namespace DirtSim

open Foundation

namespace OsManager

section

/-! ## Tunings -/

inductive ScannerBand
  | band24Ghz
  | band5Ghz
deriving DecidableEq

def kScannerBand24PrimaryChannels : List ℤ := [1, 2, 3, 4, 5, 6, 7, 8, 9, 10, 11]

def kScannerBand5PrimaryChannels : List ℤ :=
  [36, 40, 44, 48, 52, 56, 60, 64, 100, 104, 108, 112, 116,
    120, 124, 128, 132, 136, 140, 144, 149, 153, 157, 161, 165]

def kScannerBand5Centers40Mhz : List ℤ :=
  [38, 46, 54, 62, 102, 110, 118, 126, 134, 142, 151, 159]

def kScannerBand5Centers80Mhz : List ℤ := [42, 58, 106, 122, 138, 155]

structure ScannerTuning where
  band : ScannerBand
  primaryChannel : ℤ
  widthMhz : ℤ
  centerChannel : Option ℤ
deriving DecidableEq

structure ScannerAutoConfig where
  band : ScannerBand
  widthMhz : ℤ
deriving DecidableEq

def scannerDefaultWidthMhz (_ : ScannerBand) : ℤ := 20

def scannerWidthSupported : ScannerBand → ℤ → Bool
  | .band24Ghz, widthMhz => widthMhz = 20
  | .band5Ghz, widthMhz => widthMhz = 20 || widthMhz = 40 || widthMhz = 80

def scannerBandPrimaryChannels : ScannerBand → List ℤ
  | .band24Ghz => kScannerBand24PrimaryChannels
  | .band5Ghz => kScannerBand5PrimaryChannels

def scannerManualTargetChannels : ScannerBand → ℤ → List ℤ
  | .band24Ghz, widthMhz => if widthMhz ≠ 20 then [] else kScannerBand24PrimaryChannels
  | .band5Ghz, widthMhz =>
      if widthMhz = 20 then kScannerBand5PrimaryChannels
      else if widthMhz = 40 then kScannerBand5Centers40Mhz
      else if widthMhz = 80 then kScannerBand5Centers80Mhz
      else []

def scannerTuningCoveredPrimaryChannels (tuning : ScannerTuning) : List ℤ :=
  if tuning.widthMhz ≤ 20 then [tuning.primaryChannel]
  else
    match tuning.band, tuning.centerChannel with
    | .band5Ghz, some center =>
        if tuning.widthMhz = 40 then [center - 2, center + 2]
        else if tuning.widthMhz = 80 then [center - 6, center - 2, center + 2, center + 6]
        else [tuning.primaryChannel]
    | _, _ => [tuning.primaryChannel]

def scannerTuningMatchesConfig (tuning : ScannerTuning) (config : ScannerAutoConfig) : Bool :=
  tuning.band = config.band && tuning.widthMhz = config.widthMhz

/-- One tuning for a center channel, at the first channel that it covers. -/
def centerTuning (widthMhz centerChannel : ℤ) : List ScannerTuning :=
  match scannerTuningCoveredPrimaryChannels
      ⟨.band5Ghz, centerChannel, widthMhz, some centerChannel⟩ with
  | [] => []
  | front :: _ => [⟨.band5Ghz, front, widthMhz, some centerChannel⟩]

def supportedScannerTunings : List ScannerTuning :=
  (scannerBandPrimaryChannels .band24Ghz).map (fun channel => ⟨.band24Ghz, channel, 20, none⟩) ++
    (scannerBandPrimaryChannels .band5Ghz).map (fun channel => ⟨.band5Ghz, channel, 20, none⟩) ++
    (scannerManualTargetChannels .band5Ghz 40).flatMap (centerTuning 40) ++
    (scannerManualTargetChannels .band5Ghz 80).flatMap (centerTuning 80)

end

section

/-! ## Times -/

/-- A time of the steady clock in nanoseconds, in 64 bits. -/
structure TimePoint where
  nanoseconds : ℕ
  inRange : nanoseconds < 2 ^ 63

def ageMs (timePoint now : TimePoint) : ℤ :=
  Int.tdiv ((now.nanoseconds : ℤ) - timePoint.nanoseconds) 1000000

def ageMsOrMax (timePoint : Option TimePoint) (now : TimePoint) : ℤ :=
  match timePoint with
  | none => 2 ^ 63 - 1
  | some timePoint => ageMs timePoint now

end

/-- The bounds of the dwell times are ordered, as the clamping between them asks for. -/
structure AdaptiveScanPlannerConfig where
  trackingDwellMs : ℤ
  discoveryDwellMs : ℤ
  minDwellMs : ℤ
  maxDwellMs : ℤ
  dwellOrdered : minDwellMs ≤ maxDwellMs
  trackingStepsPerDiscovery : ℕ
  trackingJitterMs : ℤ
  discoveryJitterMs : ℤ
  maxRevisitAgeMs : ℤ
  rngSeed : UInt32

structure ScanStep where
  tuning : ScannerTuning
  dwellMs : ℤ

structure StepObservation where
  step : ScanStep
  sawTraffic : Bool
  newRadiosSeen : ℕ
  strongestSignalDbm : Option ℤ

structure TuningState where
  tuning : ScannerTuning
  consecutiveEmptyVisits : ℕ := 0
  lastNewRadiosSeen : ℕ := 0
  lastObservedAt : Option TimePoint := none
  lastVisitedAt : Option TimePoint := none
  strongestSignalDbm : Option ℤ := none

structure AdaptiveScanPlanner where
  config : AdaptiveScanPlannerConfig
  autoConfig : ScannerAutoConfig
  nextTrackingIndex : ℕ
  tuningStates : List TuningState
  stepsSinceDiscovery : ℕ
  jitterState : UInt32

namespace AdaptiveScanPlanner

section

/-! ## Choosing a tuning -/

def focusCandidates (planner : AdaptiveScanPlanner) : List TuningState :=
  planner.tuningStates.filter fun state =>
    scannerTuningMatchesConfig state.tuning planner.autoConfig

def candidatePreferredForDiscovery (candidate currentBest : TuningState) (now : TimePoint) :
    Bool :=
  let candidateVisitedAgeMs := ageMsOrMax candidate.lastVisitedAt now
  let currentVisitedAgeMs := ageMsOrMax currentBest.lastVisitedAt now
  let candidateObservedAgeMs := ageMsOrMax candidate.lastObservedAt now
  let currentObservedAgeMs := ageMsOrMax currentBest.lastObservedAt now
  if candidateVisitedAgeMs ≠ currentVisitedAgeMs then candidateVisitedAgeMs > currentVisitedAgeMs
  else if candidate.lastObservedAt.isSome ≠ currentBest.lastObservedAt.isSome then
    !candidate.lastObservedAt.isSome
  else if candidateObservedAgeMs ≠ currentObservedAgeMs then
    candidateObservedAgeMs > currentObservedAgeMs
  else if candidate.consecutiveEmptyVisits ≠ currentBest.consecutiveEmptyVisits then
    candidate.consecutiveEmptyVisits < currentBest.consecutiveEmptyVisits
  else candidate.tuning.primaryChannel < currentBest.tuning.primaryChannel

def hasOverdueCandidate (planner : AdaptiveScanPlanner) (now : TimePoint) : Bool :=
  planner.focusCandidates.any fun state =>
    match state.lastVisitedAt with
    | none => false
    | some visitedAt => ageMs visitedAt now > planner.config.maxRevisitAgeMs

def selectDiscoveryTuning (planner : AdaptiveScanPlanner) (now : TimePoint) :
    Option ScannerTuning :=
  match planner.focusCandidates with
  | [] => none
  | first :: rest =>
      some (rest.foldl (fun bestState candidate =>
        if candidatePreferredForDiscovery candidate bestState now then candidate else bestState)
        first).tuning

def selectTrackingTuning (planner : AdaptiveScanPlanner) :
    Option (ScannerTuning × AdaptiveScanPlanner) :=
  let candidates := planner.focusCandidates
  (candidates[planner.nextTrackingIndex % candidates.length]?).map fun state =>
    (state.tuning,
      { planner with
        nextTrackingIndex := (planner.nextTrackingIndex + 1) % candidates.length })

def syncTrackingCursorAfterTuning (planner : AdaptiveScanPlanner) (tuning : ScannerTuning) :
    AdaptiveScanPlanner :=
  let candidates := planner.focusCandidates
  match candidates.findIdx? (fun state => state.tuning = tuning) with
  | none => { planner with nextTrackingIndex := 0 }
  | some index => { planner with nextTrackingIndex := (index + 1) % candidates.length }

def clampMs (value low high : ℤ) : ℤ :=
  if value < low then low else if high < value then high else value

def jitteredDwellMs (planner : AdaptiveScanPlanner) (baseDwellMs maxJitterMs : ℤ) :
    ℤ × AdaptiveScanPlanner :=
  let jitterState := planner.jitterState * 1664525 + 1013904223
  let span := maxJitterMs * 2 + 1
  let jitter := (jitterState % UInt32.ofInt span).toInt32.toInt - maxJitterMs
  (clampMs (baseDwellMs + jitter) planner.config.minDwellMs planner.config.maxDwellMs,
    { planner with jitterState := jitterState })

end

section

/-! ## Operations -/

def reset (planner : AdaptiveScanPlanner) : AdaptiveScanPlanner :=
  { planner with
    tuningStates := planner.tuningStates.map fun state => { tuning := state.tuning }
    autoConfig := ⟨.band5Ghz, 20⟩
    nextTrackingIndex := 0
    stepsSinceDiscovery := planner.config.trackingStepsPerDiscovery
    jitterState := planner.config.rngSeed }

def new (config : AdaptiveScanPlannerConfig) : AdaptiveScanPlanner :=
  reset
    { config := config
      autoConfig := ⟨.band5Ghz, 20⟩
      nextTrackingIndex := 0
      tuningStates := supportedScannerTunings.map fun tuning => { tuning := tuning }
      stepsSinceDiscovery := 0
      jitterState := 0 }

def effectiveConfig (config : ScannerAutoConfig) : ScannerAutoConfig :=
  ⟨config.band,
    if scannerWidthSupported config.band config.widthMhz then config.widthMhz
    else scannerDefaultWidthMhz config.band⟩

def setAutoConfig (planner : AdaptiveScanPlanner) (config : ScannerAutoConfig) :
    AdaptiveScanPlanner :=
  if planner.autoConfig = effectiveConfig config then planner
  else
    { planner with
      autoConfig := effectiveConfig config
      nextTrackingIndex := 0
      stepsSinceDiscovery := planner.config.trackingStepsPerDiscovery }

def shouldUseDiscovery (planner : AdaptiveScanPlanner) (now : TimePoint) : Bool :=
  planner.hasOverdueCandidate now ||
    planner.stepsSinceDiscovery ≥ planner.config.trackingStepsPerDiscovery

def nextStep (planner : AdaptiveScanPlanner) (now : TimePoint) :
    Option (ScanStep × AdaptiveScanPlanner) :=
  if planner.shouldUseDiscovery now then
    (planner.selectDiscoveryTuning now).map fun tuning =>
      let synced := { planner with stepsSinceDiscovery := 0 }.syncTrackingCursorAfterTuning tuning
      let dwell := synced.jitteredDwellMs planner.config.discoveryDwellMs
        planner.config.discoveryJitterMs
      (⟨tuning, dwell.1⟩, dwell.2)
  else
    planner.selectTrackingTuning.map fun selected =>
      let counted :=
        { selected.2 with stepsSinceDiscovery := selected.2.stepsSinceDiscovery + 1 }
      let dwell := counted.jitteredDwellMs planner.config.trackingDwellMs
        planner.config.trackingJitterMs
      (⟨selected.1, dwell.1⟩, dwell.2)

def observe (state : TuningState) (observation : StepObservation) (now : TimePoint) :
    TuningState :=
  if observation.sawTraffic then
    { state with
      lastVisitedAt := some now
      consecutiveEmptyVisits := 0
      lastNewRadiosSeen := observation.newRadiosSeen
      lastObservedAt := some now
      strongestSignalDbm := observation.strongestSignalDbm }
  else
    { state with
      lastVisitedAt := some now
      consecutiveEmptyVisits := state.consecutiveEmptyVisits + 1
      lastNewRadiosSeen := 0 }

/-- The state of the observed tuning changes, which must be one of the planner's tunings. -/
def recordObservation (planner : AdaptiveScanPlanner) (observation : StepObservation)
    (now : TimePoint) : Option AdaptiveScanPlanner :=
  (planner.tuningStates.findIdx? fun state => state.tuning = observation.step.tuning).map
    fun index =>
      { planner with
        tuningStates :=
          planner.tuningStates.modify index fun state => observe state observation now }

end

end AdaptiveScanPlanner

end OsManager

end DirtSim
