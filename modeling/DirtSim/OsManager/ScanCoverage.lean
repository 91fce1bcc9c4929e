import DirtSim.Foundation.Patrol
import DirtSim.OsManager.AdaptiveScanPlanner
import Mathlib.Tactic.SplitIfs
import Mathlib.Data.List.Nodup

/-! # Coverage of the radio scan

A scan asks for a step, listens, and records what was observed. Between two discoveries there are
only so many tracking steps, and a discovery goes to the candidate whose last visit is longest ago,
so the scan is a patrol of the candidates.
-/

namespace DirtSim

open Foundation

namespace OsManager

namespace AdaptiveScanPlanner

variable {tuning : ScannerTuning} {input : ScanInput} {patrol : Patrol ScannerTuning}

section

variable {planner : AdaptiveScanPlanner}

/-! ## The candidates -/

def candidateTunings (planner : AdaptiveScanPlanner) : List ScannerTuning :=
  planner.focusCandidates.map (·.tuning)

/-- The planner knows each tuning once, and its configuration is one that the radio supports. -/
structure Tuned (planner : AdaptiveScanPlanner) : Prop where
  tunings : planner.tuningStates.map (·.tuning) = supportedScannerTunings
  width : scannerWidthSupported planner.autoConfig.band planner.autoConfig.widthMhz = true

theorem nodup_supportedScannerTunings : supportedScannerTunings.Nodup := by decide +kernel

theorem effectiveConfig_supported (config : ScannerAutoConfig) :
    scannerWidthSupported (effectiveConfig config).band (effectiveConfig config).widthMhz =
      true := by
  unfold effectiveConfig
  split_ifs with supported
  · exact supported
  · cases config.band <;> rfl

theorem supportedTuning_of_width {config : ScannerAutoConfig}
    (width : scannerWidthSupported config.band config.widthMhz = true) :
    ∃ tuning ∈ supportedScannerTunings, scannerTuningMatchesConfig tuning config = true := by
  obtain ⟨band, widthMhz⟩ := config
  cases band with
  | band24Ghz =>
      have twenty : widthMhz = 20 := of_decide_eq_true width
      subst twenty
      decide +kernel
  | band5Ghz =>
      have known : (widthMhz = 20 ∨ widthMhz = 40) ∨ widthMhz = 80 := by
        simpa only [scannerWidthSupported, Bool.or_eq_true, decide_eq_true_eq] using width
      rcases known with (rfl | rfl) | rfl <;> decide +kernel

theorem Tuned.distinct (tuned : planner.Tuned) : (planner.tuningStates.map (·.tuning)).Nodup :=
  tuned.tunings ▸ nodup_supportedScannerTunings

theorem Tuned.candidates_ne_nil (tuned : planner.Tuned) : planner.focusCandidates ≠ [] := by
  obtain ⟨tuning, supported, matching⟩ := supportedTuning_of_width tuned.width
  rw [← tuned.tunings] at supported
  obtain ⟨state, known, rfl⟩ := List.mem_map.mp supported
  exact List.ne_nil_of_mem (List.mem_filter.mpr ⟨known, matching⟩)

theorem Tuned.nodup_candidateTunings (tuned : planner.Tuned) : planner.candidateTunings.Nodup :=
  tuned.distinct.sublist (List.Sublist.map _ List.filter_sublist)

theorem mem_candidateTunings (candidate : tuning ∈ planner.candidateTunings) :
    tuning ∈ planner.tuningStates.map (·.tuning) ∧
      scannerTuningMatchesConfig tuning planner.autoConfig = true := by
  obtain ⟨state, listed, rfl⟩ := List.mem_map.mp candidate
  obtain ⟨known, matching⟩ := List.mem_filter.mp listed
  exact ⟨List.mem_map_of_mem known, matching⟩

end

section

/-! ## The chosen tunings -/

theorem foldl_best {α : Type} (preferred : α → α → Bool) (rank : α → ℤ)
    (better : ∀ candidate best, preferred candidate best = true → rank best ≤ rank candidate)
    (kept : ∀ candidate best, preferred candidate best = false → rank candidate ≤ rank best)
    (entries : List α) (first : α) :
    let best := entries.foldl
      (fun best candidate => if preferred candidate best then candidate else best) first
    best ∈ first :: entries ∧ ∀ entry ∈ first :: entries, rank entry ≤ rank best := by
  induction entries generalizing first with
  | nil =>
      refine ⟨List.mem_cons_self, fun entry listed => ?_⟩
      rw [List.mem_singleton.mp listed, List.foldl_nil]
  | cons candidate entries ih =>
      rw [List.foldl_cons]
      cases chosen : preferred candidate first with
      | true =>
          rw [if_pos rfl]
          obtain ⟨member, most⟩ := ih candidate
          refine ⟨List.mem_cons_of_mem _ member, fun entry listed => ?_⟩
          rcases List.mem_cons.mp listed with rfl | listed
          · exact (better _ _ chosen).trans (most _ List.mem_cons_self)
          · exact most entry listed
      | false =>
          rw [if_neg Bool.false_ne_true]
          obtain ⟨member, most⟩ := ih first
          refine ⟨?_, fun entry listed => ?_⟩
          · rcases List.mem_cons.mp member with same | later
            · rw [same]
              exact List.mem_cons_self
            · exact List.mem_cons_of_mem _ (List.mem_cons_of_mem _ later)
          · rcases List.mem_cons.mp listed with rfl | listed
            · exact most _ List.mem_cons_self
            · rcases List.mem_cons.mp listed with rfl | listed
              · exact (kept _ _ chosen).trans (most _ List.mem_cons_self)
              · exact most entry (List.mem_cons_of_mem _ listed)

theorem visitedAge_of_preferred {candidate best : TuningState} {now : TimePoint}
    (chosen : candidatePreferredForDiscovery candidate best now = true) :
    ageMsOrMax best.lastVisitedAt now ≤ ageMsOrMax candidate.lastVisitedAt now := by
  by_cases same : ageMsOrMax candidate.lastVisitedAt now = ageMsOrMax best.lastVisitedAt now
  · exact same.ge
  · have later : candidatePreferredForDiscovery candidate best now =
        decide (ageMsOrMax candidate.lastVisitedAt now > ageMsOrMax best.lastVisitedAt now) :=
      if_pos same
    rw [later] at chosen
    exact (of_decide_eq_true chosen).le

theorem visitedAge_of_not_preferred {candidate best : TuningState} {now : TimePoint}
    (kept : candidatePreferredForDiscovery candidate best now = false) :
    ageMsOrMax candidate.lastVisitedAt now ≤ ageMsOrMax best.lastVisitedAt now := by
  by_cases same : ageMsOrMax candidate.lastVisitedAt now = ageMsOrMax best.lastVisitedAt now
  · exact same.le
  · have later : candidatePreferredForDiscovery candidate best now =
        decide (ageMsOrMax candidate.lastVisitedAt now > ageMsOrMax best.lastVisitedAt now) :=
      if_pos same
    rw [later] at kept
    exact not_lt.mp (of_decide_eq_false kept)

/-- **Discovery** goes to a candidate whose last visit is longest ago. -/
theorem selectDiscoveryTuning_eq {planner : AdaptiveScanPlanner} (tuned : planner.Tuned)
    (now : TimePoint) :
    ∃ best ∈ planner.focusCandidates,
      planner.selectDiscoveryTuning now = some best.tuning ∧
        ∀ state ∈ planner.focusCandidates,
          ageMsOrMax state.lastVisitedAt now ≤ ageMsOrMax best.lastVisitedAt now := by
  unfold selectDiscoveryTuning
  cases listed : planner.focusCandidates with
  | nil => exact absurd listed tuned.candidates_ne_nil
  | cons first rest =>
      obtain ⟨member, most⟩ := foldl_best
        (fun candidate best => candidatePreferredForDiscovery candidate best now)
        (fun state => ageMsOrMax state.lastVisitedAt now)
        (fun _ _ => visitedAge_of_preferred) (fun _ _ => visitedAge_of_not_preferred) rest first
      exact ⟨_, member, rfl, most⟩

end

section

variable {planner after : AdaptiveScanPlanner} {now : TimePoint} {step : ScanStep}

/-! ## Single steps -/

/-- What asking for a step leaves of the planner. -/
structure SameTunings (before after : AdaptiveScanPlanner) : Prop where
  config : after.config = before.config
  autoConfig : after.autoConfig = before.autoConfig
  tuningStates : after.tuningStates = before.tuningStates

theorem SameTunings.trans {before middle after : AdaptiveScanPlanner}
    (first : SameTunings before middle) (second : SameTunings middle after) :
    SameTunings before after where
  config := second.config.trans first.config
  autoConfig := second.autoConfig.trans first.autoConfig
  tuningStates := second.tuningStates.trans first.tuningStates

theorem clampMs_within (value : ℤ) {low high : ℤ} (ordered : low ≤ high) :
    low ≤ clampMs value low high ∧ clampMs value low high ≤ high := by
  unfold clampMs
  split_ifs with below above
  · exact ⟨le_rfl, ordered⟩
  · exact ⟨ordered, le_rfl⟩
  · exact ⟨not_lt.mp below, not_lt.mp above⟩

theorem jitteredDwellMs_within {planner : AdaptiveScanPlanner} {config : AdaptiveScanPlannerConfig}
    (same : planner.config = config) (baseDwellMs maxJitterMs : ℤ) :
    config.minDwellMs ≤ (planner.jitteredDwellMs baseDwellMs maxJitterMs).1 ∧
      (planner.jitteredDwellMs baseDwellMs maxJitterMs).1 ≤ config.maxDwellMs := by
  subst same
  exact clampMs_within _ planner.config.dwellOrdered

theorem jitteredDwellMs_same (planner : AdaptiveScanPlanner) (baseDwellMs maxJitterMs : ℤ) :
    SameTunings planner (planner.jitteredDwellMs baseDwellMs maxJitterMs).2 ∧
      (planner.jitteredDwellMs baseDwellMs maxJitterMs).2.stepsSinceDiscovery =
        planner.stepsSinceDiscovery := by
  -- the fields are compared one by one, so that the jitter is never computed
  cases planner
  exact ⟨⟨rfl, rfl, rfl⟩, rfl⟩

theorem sync_same (planner : AdaptiveScanPlanner) (tuning : ScannerTuning) :
    SameTunings planner (planner.syncTrackingCursorAfterTuning tuning) ∧
      (planner.syncTrackingCursorAfterTuning tuning).stepsSinceDiscovery =
        planner.stepsSinceDiscovery := by
  unfold syncTrackingCursorAfterTuning
  dsimp only
  split
  · exact ⟨⟨rfl, rfl, rfl⟩, rfl⟩
  · exact ⟨⟨rfl, rfl, rfl⟩, rfl⟩

/-- A step goes to a candidate. It is a discovery, or one of the tracking steps that the
configuration has between two discoveries. -/
structure Stepped (before : AdaptiveScanPlanner) (now : TimePoint) (step : ScanStep)
    (after : AdaptiveScanPlanner) : Prop where
  same : SameTunings before after
  candidate : step.tuning ∈ before.candidateTunings
  dwell : before.config.minDwellMs ≤ step.dwellMs ∧ step.dwellMs ≤ before.config.maxDwellMs
  turn : (before.selectDiscoveryTuning now = some step.tuning ∧ after.stepsSinceDiscovery = 0) ∨
    (before.stepsSinceDiscovery < before.config.trackingStepsPerDiscovery ∧
      after.stepsSinceDiscovery = before.stepsSinceDiscovery + 1)

theorem stepped_of_discovery (due : planner.shouldUseDiscovery now = true) (tuned : planner.Tuned)
    (moved : planner.nextStep now = some (step, after)) : Stepped planner now step after := by
  obtain ⟨best, member, chosen, -⟩ := selectDiscoveryTuning_eq tuned now
  rw [nextStep, if_pos due, chosen, Option.map_some] at moved
  obtain ⟨rfl, rfl⟩ := Prod.mk.inj (Option.some.inj moved)
  have restarted : SameTunings planner { planner with stepsSinceDiscovery := 0 } :=
    ⟨rfl, rfl, rfl⟩
  obtain ⟨synced, steps⟩ := sync_same { planner with stepsSinceDiscovery := 0 } best.tuning
  have jittered := jitteredDwellMs_same
    ({ planner with stepsSinceDiscovery := 0 }.syncTrackingCursorAfterTuning best.tuning)
    planner.config.discoveryDwellMs planner.config.discoveryJitterMs
  exact {
    same := (restarted.trans synced).trans jittered.1
    candidate := List.mem_map_of_mem member
    dwell := jitteredDwellMs_within synced.config _ _
    turn := .inl ⟨chosen, jittered.2.trans steps⟩ }

theorem stepped_of_tracking (early : planner.shouldUseDiscovery now = false)
    (moved : planner.nextStep now = some (step, after)) : Stepped planner now step after := by
  rw [nextStep, if_neg (Bool.eq_false_iff.mp early)] at moved
  obtain ⟨⟨tuning, tracked⟩, selected, moved⟩ := Option.map_eq_some_iff.mp moved
  obtain ⟨rfl, rfl⟩ := Prod.mk.inj moved
  obtain ⟨state, found, moved⟩ := Option.map_eq_some_iff.mp selected
  obtain ⟨rfl, rfl⟩ := Prod.mk.inj moved
  have few : planner.stepsSinceDiscovery < planner.config.trackingStepsPerDiscovery := by
    rw [shouldUseDiscovery, Bool.or_eq_false_iff] at early
    exact not_le.mp (of_decide_eq_false early.2)
  exact {
    same := ⟨rfl, rfl, rfl⟩
    candidate := List.mem_map_of_mem (List.mem_of_getElem? found)
    dwell := jitteredDwellMs_within rfl _ _
    turn := .inr ⟨few, rfl⟩ }

theorem nextStep_stepped (tuned : planner.Tuned) (moved : planner.nextStep now = some (step, after)) :
    Stepped planner now step after := by
  cases due : planner.shouldUseDiscovery now with
  | true => exact stepped_of_discovery due tuned moved
  | false => exact stepped_of_tracking due moved

theorem nextStep_isSome {planner : AdaptiveScanPlanner} (tuned : planner.Tuned)
    (now : TimePoint) : ∃ step after, planner.nextStep now = some (step, after) := by
  cases due : planner.shouldUseDiscovery now with
  | true =>
      obtain ⟨best, -, chosen, -⟩ := selectDiscoveryTuning_eq tuned now
      rw [nextStep, if_pos due, chosen, Option.map_some]
      exact ⟨_, _, rfl⟩
  | false =>
      have some_candidate : 0 < planner.focusCandidates.length :=
        List.length_pos_iff.mpr tuned.candidates_ne_nil
      rw [nextStep, if_neg (Bool.eq_false_iff.mp due), selectTrackingTuning,
        List.getElem?_eq_getElem (Nat.mod_lt _ some_candidate)]
      exact ⟨_, _, rfl⟩

end

section

/-! ## Observations -/

theorem modify_findIdx {α κ : Type} [DecidableEq κ] (key : α → κ) (change : α → α) (sought : κ)
    {entries : List α} (distinct : (entries.map key).Nodup) (known : sought ∈ entries.map key) :
    ∃ index, entries.findIdx? (fun entry => key entry = sought) = some index ∧
      entries.modify index change =
        entries.map fun entry => if key entry = sought then change entry else entry := by
  induction entries with
  | nil => cases known
  | cons entry entries ih =>
      rw [List.map_cons] at distinct known
      obtain ⟨fresh, distinct⟩ := List.nodup_cons.mp distinct
      rw [List.findIdx?_cons, List.map_cons]
      by_cases same : key entry = sought
      · rw [if_pos (decide_eq_true same), if_pos same]
        refine ⟨0, rfl, ?_⟩
        rw [List.modify_zero_cons]
        congr 1
        refine (List.map_id entries).symm.trans (List.map_congr_left fun other listed => ?_)
        have different : key other ≠ sought := by
          intro equal
          rw [same, ← equal] at fresh
          exact fresh (List.mem_map_of_mem listed)
        rw [if_neg different, id]
      · obtain ⟨index, found, modified⟩ :=
          ih distinct ((List.mem_cons.mp known).resolve_left fun equal => same equal.symm)
        rw [if_neg (fun holds => same (of_decide_eq_true holds)), if_neg same, found]
        exact ⟨index + 1, rfl, by rw [List.modify_succ_cons, modified]⟩

theorem observe_tuning (state : TuningState) (observation : StepObservation) (now : TimePoint) :
    (observe state observation now).tuning = state.tuning := by
  unfold observe
  split_ifs <;> rfl

theorem observe_lastVisitedAt (state : TuningState) (observation : StepObservation)
    (now : TimePoint) : (observe state observation now).lastVisitedAt = some now := by
  unfold observe
  split_ifs <;> rfl

theorem recordObservation_eq {planner : AdaptiveScanPlanner} {observation : StepObservation}
    (distinct : (planner.tuningStates.map (·.tuning)).Nodup)
    (known : observation.step.tuning ∈ planner.tuningStates.map (·.tuning)) (now : TimePoint) :
    planner.recordObservation observation now =
      some { planner with
        tuningStates := planner.tuningStates.map fun state =>
          if state.tuning = observation.step.tuning then observe state observation now
          else state } := by
  obtain ⟨index, found, modified⟩ :=
    modify_findIdx (·.tuning) (fun state => observe state observation now) _ distinct known
  rw [recordObservation, found, Option.map_some, modified]

theorem known_of_recordObservation {planner after : AdaptiveScanPlanner}
    {observation : StepObservation} {now : TimePoint}
    (recorded : planner.recordObservation observation now = some after) :
    observation.step.tuning ∈ planner.tuningStates.map (·.tuning) := by
  obtain ⟨index, found, -⟩ := Option.map_eq_some_iff.mp recorded
  obtain ⟨inside, same, -⟩ := List.findIdx?_eq_some_iff_getElem.mp found
  exact List.mem_map.mpr ⟨_, List.getElem_mem inside, of_decide_eq_true same⟩

/-- What an observation leaves of the planner. -/
structure Recorded (before : AdaptiveScanPlanner) (tuning : ScannerTuning) (now : TimePoint)
    (after : AdaptiveScanPlanner) : Prop where
  config : after.config = before.config
  autoConfig : after.autoConfig = before.autoConfig
  stepsSinceDiscovery : after.stepsSinceDiscovery = before.stepsSinceDiscovery
  tunings : after.tuningStates.map (·.tuning) = before.tuningStates.map (·.tuning)
  visits : ∀ state ∈ after.tuningStates,
    (state.tuning ≠ tuning ∧ state ∈ before.tuningStates) ∨
      (state.tuning = tuning ∧ state.lastVisitedAt = some now)

theorem Tuned.recordObservation {planner : AdaptiveScanPlanner} (tuned : planner.Tuned)
    (observation : StepObservation)
    (known : observation.step.tuning ∈ planner.tuningStates.map (·.tuning)) (now : TimePoint) :
    ∃ after, planner.recordObservation observation now = some after ∧
      Recorded planner observation.step.tuning now after := by
  refine ⟨_, recordObservation_eq tuned.distinct known now, rfl, rfl, rfl, ?_, ?_⟩
  · rw [List.map_map]
    refine List.map_congr_left fun state _ => ?_
    rw [Function.comp_apply]
    split_ifs
    · exact observe_tuning _ _ _
    · rfl
  · intro state listed
    obtain ⟨old, member, rfl⟩ := List.mem_map.mp listed
    split_ifs with same
    · exact .inr ⟨(observe_tuning _ _ _).trans same, observe_lastVisitedAt _ _ _⟩
    · exact .inl ⟨same, member⟩

end

section

variable {clock : Option TimePoint} {now : TimePoint}

/-! ## Scans -/

/-- What comes from outside in one round of the scan. -/
structure ScanInput where
  startedAt : TimePoint
  observedAt : TimePoint
  sawTraffic : Bool
  newRadiosSeen : ℕ
  strongestSignalDbm : Option ℤ

def ScanInput.observation (input : ScanInput) (step : ScanStep) : StepObservation :=
  ⟨step, input.sawTraffic, input.newRadiosSeen, input.strongestSignalDbm⟩

/-- The planner is asked for a step, and the observation of that step is recorded. -/
def scanOnce (planner : AdaptiveScanPlanner) (input : ScanInput) :
    Option (ScanStep × AdaptiveScanPlanner) :=
  (planner.nextStep input.startedAt).bind fun moved =>
    (moved.2.recordObservation (input.observation moved.1) input.observedAt).map fun after =>
      (moved.1, after)

def scan : AdaptiveScanPlanner → List ScanInput → Option (List ScanStep × AdaptiveScanPlanner)
  | planner, [] => some ([], planner)
  | planner, input :: inputs =>
      (planner.scanOnce input).bind fun once =>
        (scan once.2 inputs).map fun rest => (once.1 :: rest.1, rest.2)

def Since (clock : Option TimePoint) (now : TimePoint) : Prop :=
  ∀ earlier ∈ clock, earlier.nanoseconds ≤ now.nanoseconds

/-- Each round is observed a millisecond or more after the last time of the clock, and the times of
a round are in order. -/
structure Timely (clock : Option TimePoint) (input : ScanInput) : Prop where
  started : Since clock input.startedAt
  observed : input.startedAt.nanoseconds ≤ input.observedAt.nanoseconds
  advanced : ∀ earlier ∈ clock, earlier.nanoseconds + 1000000 ≤ input.observedAt.nanoseconds

def TimelyInputs : Option TimePoint → List ScanInput → Prop
  | _, [] => True
  | clock, input :: inputs => Timely clock input ∧ TimelyInputs (some input.observedAt) inputs

/-- No visit lies in the future, and there were no more tracking steps than there may be. -/
structure Sound (planner : AdaptiveScanPlanner) (clock : Option TimePoint) : Prop where
  tuned : planner.Tuned
  steps : planner.stepsSinceDiscovery ≤ planner.config.trackingStepsPerDiscovery
  past : ∀ state ∈ planner.tuningStates, ∀ visitedAt ∈ state.lastVisitedAt,
    ∃ latest ∈ clock, visitedAt.nanoseconds ≤ latest.nanoseconds

theorem Sound.past_now {planner : AdaptiveScanPlanner} (sound : planner.Sound clock)
    (later : Since clock now) {state : TuningState} (known : state ∈ planner.tuningStates)
    {visitedAt : TimePoint} (visited : visitedAt ∈ state.lastVisitedAt) :
    visitedAt.nanoseconds ≤ now.nanoseconds := by
  obtain ⟨latest, last, before⟩ := sound.past state known visitedAt visited
  exact before.trans (later latest last)

theorem Sound.nextStep {planner after : AdaptiveScanPlanner} (sound : planner.Sound clock)
    (later : Since clock now) {step : ScanStep} (stepped : Stepped planner now step after) :
    after.Sound (some now) where
  tuned := ⟨stepped.same.tuningStates ▸ sound.tuned.tunings,
    stepped.same.autoConfig ▸ sound.tuned.width⟩
  steps := by
    rw [stepped.same.config]
    rcases stepped.turn with ⟨-, none⟩ | ⟨few, more⟩
    · exact none ▸ Nat.zero_le _
    · exact more ▸ few
  past state known visitedAt visited :=
    ⟨now, rfl, sound.past_now later (stepped.same.tuningStates ▸ known) visited⟩

theorem Sound.recordObservation {planner after : AdaptiveScanPlanner} (sound : planner.Sound clock)
    (later : Since clock now) (recorded : Recorded planner tuning now after) :
    after.Sound (some now) where
  tuned := ⟨recorded.tunings.trans sound.tuned.tunings,
    recorded.autoConfig ▸ sound.tuned.width⟩
  steps := by
    rw [recorded.stepsSinceDiscovery, recorded.config]
    exact sound.steps
  past state known visitedAt visited := by
    refine ⟨now, rfl, ?_⟩
    rcases recorded.visits state known with ⟨-, old⟩ | ⟨-, just⟩
    · exact sound.past_now later old visited
    · obtain rfl := Option.some.inj (just.symm.trans visited)
      exact le_rfl

/-- One round of the scan. -/
structure Scanned (before : AdaptiveScanPlanner) (input : ScanInput) (step : ScanStep)
    (after : AdaptiveScanPlanner) : Prop where
  config : after.config = before.config
  autoConfig : after.autoConfig = before.autoConfig
  tunings : after.tuningStates.map (·.tuning) = before.tuningStates.map (·.tuning)
  candidate : step.tuning ∈ before.candidateTunings
  dwell : before.config.minDwellMs ≤ step.dwellMs ∧ step.dwellMs ≤ before.config.maxDwellMs
  turn : (before.selectDiscoveryTuning input.startedAt = some step.tuning ∧
      after.stepsSinceDiscovery = 0) ∨
    (before.stepsSinceDiscovery < before.config.trackingStepsPerDiscovery ∧
      after.stepsSinceDiscovery = before.stepsSinceDiscovery + 1)
  visits : ∀ state ∈ after.tuningStates,
    (state.tuning ≠ step.tuning ∧ state ∈ before.tuningStates) ∨
      (state.tuning = step.tuning ∧ state.lastVisitedAt = some input.observedAt)

/-- **One round** has a result, and leaves the planner sound. -/
theorem Sound.scanOnce {planner : AdaptiveScanPlanner} (sound : planner.Sound clock)
    (timely : Timely clock input) :
    ∃ step after, planner.scanOnce input = some (step, after) ∧
      Scanned planner input step after ∧ after.Sound (some input.observedAt) := by
  obtain ⟨step, moved, found⟩ := nextStep_isSome sound.tuned input.startedAt
  have stepped := nextStep_stepped sound.tuned found
  have soundly := sound.nextStep timely.started stepped
  have known : step.tuning ∈ moved.tuningStates.map (·.tuning) := by
    rw [stepped.same.tuningStates]
    exact (mem_candidateTunings stepped.candidate).1
  obtain ⟨after, result, recorded⟩ := soundly.tuned.recordObservation
    (input.observation step) known input.observedAt
  have later : Since (some input.startedAt) input.observedAt := by
    intro earlier same
    cases same
    exact timely.observed
  refine ⟨step, after, ?_, ?_, soundly.recordObservation later recorded⟩
  · rw [AdaptiveScanPlanner.scanOnce, found, Option.bind_some, result, Option.map_some]
  · exact {
      config := recorded.config.trans stepped.same.config
      autoConfig := recorded.autoConfig.trans stepped.same.autoConfig
      tunings := recorded.tunings.trans (by rw [stepped.same.tuningStates])
      candidate := stepped.candidate
      dwell := stepped.dwell
      turn := by
        rw [recorded.stepsSinceDiscovery]
        exact stepped.turn
      visits := by
        rw [← stepped.same.tuningStates]
        exact recorded.visits }

theorem candidateTunings_eq (planner : AdaptiveScanPlanner) :
    planner.candidateTunings = (planner.tuningStates.map (·.tuning)).filter fun tuning =>
      scannerTuningMatchesConfig tuning planner.autoConfig := by
  rw [List.filter_map]
  rfl

theorem Scanned.candidateTunings {before after : AdaptiveScanPlanner} {step : ScanStep}
    (scanned : Scanned before input step after) :
    after.candidateTunings = before.candidateTunings := by
  rw [candidateTunings_eq, candidateTunings_eq, scanned.tunings, scanned.autoConfig]

end

section

/-! ## The scan as a patrol -/

/-- Whatever was visited in the patrol was visited a millisecond or more after whatever was not. -/
structure Follows (planner : AdaptiveScanPlanner) (patrol : Patrol ScannerTuning) : Prop where
  free : patrol.free = planner.stepsSinceDiscovery
  ahead : ∀ seen ∈ planner.focusCandidates, seen.tuning ∈ patrol.visited →
    ∃ seenAt ∈ seen.lastVisitedAt, ∀ left ∈ planner.focusCandidates,
      left.tuning ∉ patrol.visited → ∀ leftAt ∈ left.lastVisitedAt,
        leftAt.nanoseconds + 1000000 ≤ seenAt.nanoseconds

theorem ageMs_lt_of_later {seenAt leftAt now : TimePoint}
    (later : leftAt.nanoseconds + 1000000 ≤ seenAt.nanoseconds)
    (past : seenAt.nanoseconds ≤ now.nanoseconds) : ageMs seenAt now < ageMs leftAt now := by
  unfold ageMs
  rw [Int.tdiv_eq_ediv_of_nonneg (by omega), Int.tdiv_eq_ediv_of_nonneg (by omega)]
  omega

theorem ageMs_lt_max {seenAt now : TimePoint} (past : seenAt.nanoseconds ≤ now.nanoseconds) :
    ageMs seenAt now < ageMsOrMax none now := by
  have inRange := now.inRange
  have largest : ageMsOrMax none now = 2 ^ 63 - 1 := rfl
  rw [largest, ageMs, Int.tdiv_eq_ediv_of_nonneg (by omega)]
  omega

theorem Follows.fresh {planner : AdaptiveScanPlanner} {clock : Option TimePoint}
    (follows : planner.Follows patrol) (sound : planner.Sound clock) {now : TimePoint}
    (later : Since clock now) (chosen : planner.selectDiscoveryTuning now = some tuning)
    (some_left : ¬planner.candidateTunings.toFinset ⊆ patrol.visited) :
    tuning ∉ patrol.visited := by
  obtain ⟨best, member, found, most⟩ := selectDiscoveryTuning_eq sound.tuned now
  obtain rfl := Option.some.inj (found.symm.trans chosen)
  intro visited
  obtain ⟨seenAt, seen, ahead⟩ := follows.ahead best member visited
  have past := sound.past_now later (List.mem_filter.mp member).1 seen
  obtain ⟨tuning, candidate, unseen⟩ := Finset.not_subset.mp some_left
  obtain ⟨left, listed, rfl⟩ := List.mem_map.mp (List.mem_toFinset.mp candidate)
  have oldest := most left listed
  rw [Option.mem_def.mp seen] at oldest
  apply oldest.not_gt
  cases lastVisited : left.lastVisitedAt with
  | none => exact ageMs_lt_max past
  | some leftAt => exact ageMs_lt_of_later (ahead left listed unseen leftAt lastVisited) past

/-- **A round of the scan** is a round of the patrol. -/
theorem Follows.scanned {planner after : AdaptiveScanPlanner} {clock : Option TimePoint}
    (follows : planner.Follows patrol) (sound : planner.Sound clock) (timely : Timely clock input)
    {step : ScanStep} (scanned : Scanned planner input step after) :
    ∃ next, Patrol.Round planner.candidateTunings.toFinset
        planner.config.trackingStepsPerDiscovery patrol step.tuning next ∧
      after.Follows next := by
  have ahead : ∀ seen ∈ after.focusCandidates, seen.tuning ∈ insert step.tuning patrol.visited →
      ∃ seenAt ∈ seen.lastVisitedAt, ∀ left ∈ after.focusCandidates,
        left.tuning ∉ insert step.tuning patrol.visited → ∀ leftAt ∈ left.lastVisitedAt,
          leftAt.nanoseconds + 1000000 ≤ seenAt.nanoseconds := by
    -- what is left was left before, with the same visits
    have remained {left : TuningState} (listed : left ∈ after.focusCandidates)
        (unseen : left.tuning ∉ insert step.tuning patrol.visited) :
        left ∈ planner.focusCandidates ∧ left.tuning ∉ patrol.visited := by
      obtain ⟨different, unvisited⟩ := not_or.mp (fun holds => unseen (Finset.mem_insert.mpr holds))
      obtain ⟨known, matching⟩ := List.mem_filter.mp listed
      rw [scanned.autoConfig] at matching
      rcases scanned.visits left known with ⟨-, old⟩ | ⟨same, -⟩
      · exact ⟨List.mem_filter.mpr ⟨old, matching⟩, unvisited⟩
      · exact absurd same different
    intro seen listed visited
    obtain ⟨known, matching⟩ := List.mem_filter.mp listed
    rw [scanned.autoConfig] at matching
    rcases scanned.visits seen known with ⟨different, old⟩ | ⟨-, just⟩
    · obtain ⟨seenAt, seenLast, ahead⟩ := follows.ahead seen (List.mem_filter.mpr ⟨old, matching⟩)
        ((Finset.mem_insert.mp visited).resolve_left different)
      refine ⟨seenAt, seenLast, fun left leftListed unseen => ?_⟩
      obtain ⟨candidate, unvisited⟩ := remained leftListed unseen
      exact ahead left candidate unvisited
    · refine ⟨input.observedAt, just, fun left leftListed unseen leftAt leftLast => ?_⟩
      obtain ⟨candidate, -⟩ := remained leftListed unseen
      obtain ⟨latest, last, before⟩ :=
        sound.past left (List.mem_filter.mp candidate).1 leftAt leftLast
      have advanced := timely.advanced latest last
      omega
  rcases scanned.turn with ⟨chosen, none⟩ | ⟨early, more⟩
  · exact ⟨_, .due (follows.fresh sound timely.started chosen), none.symm, ahead⟩
  · rw [← follows.free] at early more
    exact ⟨_, .free early, more.symm, ahead⟩

end

section

variable {planner : AdaptiveScanPlanner} {clock : Option TimePoint} {inputs : List ScanInput}

/-! ## Histories of a planner -/

inductive ScanAction
  | reset
  | setAutoConfig (config : ScannerAutoConfig)
  | nextStep (now : TimePoint)
  | recordObservation (observation : StepObservation) (now : TimePoint)

/-- A planner, and the last time that it was given. -/
structure ScanState where
  planner : AdaptiveScanPlanner
  clock : Option TimePoint

/-- What a caller may do, at times of a steady clock. Only tunings of the planner are observed. -/
inductive ScanMove (before : ScanState) : ScanAction → ScanState → Prop
  | reset : ScanMove before .reset ⟨before.planner.reset, before.clock⟩
  | setAutoConfig (config : ScannerAutoConfig) :
      ScanMove before (.setAutoConfig config)
        ⟨before.planner.setAutoConfig config, before.clock⟩
  | nextStep {now : TimePoint} {step : ScanStep} {planner : AdaptiveScanPlanner}
      (later : Since before.clock now) (moved : before.planner.nextStep now = some (step, planner)) :
      ScanMove before (.nextStep now) ⟨planner, some now⟩
  | recordObservation {now : TimePoint} {observation : StepObservation}
      {planner : AdaptiveScanPlanner} (later : Since before.clock now)
      (recorded : before.planner.recordObservation observation now = some planner) :
      ScanMove before (.recordObservation observation now) ⟨planner, some now⟩

def scanMachine : Machine ScanAction ScanState where
  initial state := (∃ config, state.planner = new config) ∧ state.clock = none
  step := ScanMove

theorem Sound.reset (tunings : planner.tuningStates.map (·.tuning) = supportedScannerTunings)
    (clock : Option TimePoint) : planner.reset.Sound clock where
  tuned := by
    refine ⟨?_, rfl⟩
    rw [AdaptiveScanPlanner.reset, List.map_map]
    exact tunings
  steps := le_rfl
  past state known visitedAt visited := by
    obtain ⟨old, -, rfl⟩ := List.mem_map.mp known
    cases visited

theorem Sound.setAutoConfig (sound : planner.Sound clock) (config : ScannerAutoConfig) :
    (planner.setAutoConfig config).Sound clock := by
  unfold AdaptiveScanPlanner.setAutoConfig
  split_ifs with same
  · exact sound
  · exact ⟨⟨sound.tuned.tunings, effectiveConfig_supported config⟩, le_rfl, sound.past⟩

theorem sound_of_reachable {state : ScanState} (reached : scanMachine.Reachable state) :
    state.planner.Sound state.clock := by
  refine @Machine.Reachable.invariant _ _ _ (fun state => state.planner.Sound state.clock)
    ?_ ?_ _ reached
  · intro state initial
    obtain ⟨⟨config, made⟩, -⟩ := initial
    rw [made]
    apply Sound.reset
    rw [List.map_map]
    exact List.map_id _
  · intro before action after sound moved
    cases moved with
    | reset => exact Sound.reset sound.tuned.tunings _
    | setAutoConfig config => exact sound.setAutoConfig config
    | nextStep later moved => exact sound.nextStep later (nextStep_stepped sound.tuned moved)
    | recordObservation later recorded =>
        obtain ⟨after, same, result⟩ := sound.tuned.recordObservation _
          (known_of_recordObservation recorded) _
        obtain rfl := Option.some.inj (same.symm.trans recorded)
        exact sound.recordObservation later result

theorem Follows.scan (follows : planner.Follows patrol) (sound : planner.Sound clock)
    (timely : TimelyInputs clock inputs) :
    ∃ steps after last, planner.scan inputs = some (steps, after) ∧
      steps.length = inputs.length ∧
      (Patrol.machine planner.candidateTunings.toFinset
        planner.config.trackingStepsPerDiscovery).Run patrol (steps.map (·.tuning)) last ∧
      ∀ step ∈ steps, planner.config.minDwellMs ≤ step.dwellMs ∧
        step.dwellMs ≤ planner.config.maxDwellMs := by
  induction inputs generalizing planner clock patrol with
  | nil =>
      exact ⟨[], planner, patrol, rfl, rfl, .nil patrol, fun step none => nomatch none⟩
  | cons input inputs ih =>
      obtain ⟨first, rest⟩ := timely
      obtain ⟨step, moved, result, scanned, soundly⟩ := sound.scanOnce first
      obtain ⟨next, round, nextFollows⟩ := follows.scanned sound first scanned
      obtain ⟨steps, after, last, results, length, run, dwells⟩ := ih nextFollows soundly rest
      rw [scanned.candidateTunings, scanned.config] at run
      rw [scanned.config] at dwells
      refine ⟨step :: steps, after, last, ?_, ?_, ?_, ?_⟩
      · rw [AdaptiveScanPlanner.scan, result, Option.bind_some, results, Option.map_some]
      · rw [List.length_cons, List.length_cons, length]
      · exact .cons ⟨List.mem_toFinset.mpr scanned.candidate, round⟩ run
      · intro other listed
        rcases List.mem_cons.mp listed with rfl | listed
        · exact scanned.dwell
        · exact dwells other listed

theorem follows_anew (planner : AdaptiveScanPlanner) :
    planner.Follows ⟨∅, planner.stepsSinceDiscovery⟩ :=
  ⟨rfl, fun _ _ none => absurd none (Finset.notMem_empty _)⟩

section

variable (sound : planner.Sound clock) (timely : TimelyInputs clock inputs) {steps : List ScanStep}
  {after : AdaptiveScanPlanner} (result : planner.scan inputs = some (steps, after))
include sound timely result

theorem Sound.scan_first (enough : planner.candidateTunings.length *
      (planner.config.trackingStepsPerDiscovery + 1) ≤ steps.length) :
    ∀ tuning ∈ planner.candidateTunings,
      tuning ∈ (steps.take (planner.candidateTunings.length *
        (planner.config.trackingStepsPerDiscovery + 1))).map (·.tuning) := by
  obtain ⟨visited, _, last, found, -, run, -⟩ := (follows_anew planner).scan sound timely
  have same : visited = steps := (Prod.mk.inj (Option.some.inj (found.symm.trans result))).1
  rw [same] at run
  have number := List.toFinset_card_of_nodup sound.tuned.nodup_candidateTunings
  rw [← List.take_append_drop (planner.candidateTunings.length *
    (planner.config.trackingStepsPerDiscovery + 1)) steps, List.map_append] at run
  obtain ⟨middle, front, -⟩ := Machine.Run.append_iff.mp run
  have covered := Patrol.covers ⟨rfl, sound.steps⟩ front (by
    rw [number, List.length_map, List.length_take, min_eq_left enough])
  intro tuning candidate
  exact List.mem_toFinset.mp (covered (List.mem_toFinset.mpr candidate))

theorem Sound.scan_windows (first : ℕ) (enough : first + planner.candidateTunings.length *
      (planner.config.trackingStepsPerDiscovery + 1) ≤ steps.length) :
    ∀ tuning ∈ planner.candidateTunings,
      tuning ∈ ((steps.drop first).take (planner.candidateTunings.length *
        (planner.config.trackingStepsPerDiscovery + 1))).map (·.tuning) := by
  induction first generalizing planner clock inputs steps with
  | zero =>
      rw [Nat.zero_add] at enough
      exact sound.scan_first timely result enough
  | succ first ih =>
      cases inputs with
      | nil =>
          obtain ⟨rfl, rfl⟩ := Prod.mk.inj (Option.some.inj result)
          rw [List.length_nil] at enough
          omega
      | cons input inputs =>
          obtain ⟨opening, rest⟩ := timely
          obtain ⟨step, moved, once, scanned, soundly⟩ := sound.scanOnce opening
          rw [AdaptiveScanPlanner.scan, once, Option.bind_some] at result
          obtain ⟨⟨later, last⟩, found, same⟩ := Option.map_eq_some_iff.mp result
          obtain ⟨rfl, rfl⟩ := Prod.mk.inj same
          rw [List.drop_succ_cons, ← scanned.candidateTunings, ← scanned.config]
          apply ih soundly rest found
          rw [scanned.candidateTunings, scanned.config]
          change first + 1 + _ ≤ later.length + 1 at enough
          omega

end

/-- **No channel starves.** A scan in the order of time always has a next step. Every step goes to a
tuning of the configured band and width for a time within the bounds, and every stretch of as many
steps as there are candidates, times the distance of two discoveries, goes to every candidate. -/
theorem scan_covers {state : ScanState} (reached : scanMachine.Reachable state)
    (inputs : List ScanInput) (timely : TimelyInputs state.clock inputs) :
    ∃ steps after, state.planner.scan inputs = some (steps, after) ∧
      steps.length = inputs.length ∧
      (∀ step ∈ steps,
        scannerTuningMatchesConfig step.tuning state.planner.autoConfig = true ∧
          state.planner.config.minDwellMs ≤ step.dwellMs ∧
          step.dwellMs ≤ state.planner.config.maxDwellMs) ∧
      ∀ first, first + state.planner.candidateTunings.length *
          (state.planner.config.trackingStepsPerDiscovery + 1) ≤ steps.length →
        ∀ tuning ∈ state.planner.candidateTunings,
          tuning ∈ ((steps.drop first).take (state.planner.candidateTunings.length *
            (state.planner.config.trackingStepsPerDiscovery + 1))).map (·.tuning) := by
  have sound := sound_of_reachable reached
  obtain ⟨steps, after, last, result, length, run, dwells⟩ :=
    (follows_anew state.planner).scan sound timely
  refine ⟨steps, after, result, length, fun step listed => ⟨?_, dwells step listed⟩,
    fun first enough => sound.scan_windows timely result first enough⟩
  have candidate := Patrol.mem_of_run run _ (List.mem_map_of_mem listed)
  exact (mem_candidateTunings (List.mem_toFinset.mp candidate)).2

def onlyDiscoveries : AdaptiveScanPlannerConfig where
  trackingDwellMs := 150
  discoveryDwellMs := 175
  minDwellMs := 75
  maxDwellMs := 250
  dwellOrdered := by decide
  trackingStepsPerDiscovery := 0
  trackingJitterMs := 20
  discoveryJitterMs := 25
  maxRevisitAgeMs := 2500
  rngSeed := 1

def widePlanner : AdaptiveScanPlanner := (new onlyDiscoveries).setAutoConfig ⟨.band5Ghz, 80⟩

def quietRound (startedAt observedAt : TimePoint) : ScanInput :=
  ⟨startedAt, observedAt, false, 0, none⟩

theorem timely_quietRound {startedAt : TimePoint} (observedAt : TimePoint)
    (clock : Option TimePoint) (last : ∀ earlier ∈ clock, earlier = startedAt)
    (advanced : startedAt.nanoseconds + 1000000 ≤ observedAt.nanoseconds) :
    Timely clock (quietRound startedAt observedAt) where
  started earlier known := by rw [last earlier known]; exact le_rfl
  observed := (Nat.le_add_right _ _).trans advanced
  advanced earlier known := by rw [last earlier known]; exact advanced

def sixRounds : List ScanInput :=
  [quietRound ⟨0, by decide⟩ ⟨1000000, by decide⟩,
    quietRound ⟨1000000, by decide⟩ ⟨2000000, by decide⟩,
    quietRound ⟨2000000, by decide⟩ ⟨3000000, by decide⟩,
    quietRound ⟨3000000, by decide⟩ ⟨4000000, by decide⟩,
    quietRound ⟨4000000, by decide⟩ ⟨5000000, by decide⟩,
    quietRound ⟨5000000, by decide⟩ ⟨6000000, by decide⟩]

theorem scan_covers_sixRounds :
    ∃ steps after, widePlanner.scan sixRounds = some (steps, after) ∧
      ∀ tuning ∈ widePlanner.candidateTunings, tuning ∈ steps.map (·.tuning) := by
  have reached : scanMachine.Reachable ⟨widePlanner, none⟩ :=
    ⟨⟨new onlyDiscoveries, none⟩, [.setAutoConfig ⟨.band5Ghz, 80⟩], ⟨⟨onlyDiscoveries, rfl⟩, rfl⟩,
      .cons (.setAutoConfig _) (.nil _)⟩
  have timely : TimelyInputs none sixRounds := by
    refine ⟨timely_quietRound _ none ?_ (by decide), timely_quietRound _ (some _) ?_ (by decide),
      timely_quietRound _ (some _) ?_ (by decide), timely_quietRound _ (some _) ?_ (by decide),
      timely_quietRound _ (some _) ?_ (by decide), timely_quietRound _ (some _) ?_ (by decide),
      trivial⟩ <;> exact fun earlier last => by cases last <;> rfl
  have six : widePlanner.candidateTunings.length *
      (widePlanner.config.trackingStepsPerDiscovery + 1) = 6 := by decide +kernel
  obtain ⟨steps, after, result, length, -, windows⟩ := scan_covers reached sixRounds timely
  refine ⟨steps, after, result, fun tuning candidate => ?_⟩
  have first := windows 0 (by rw [six, length]; decide) tuning candidate
  rw [six] at first
  exact List.mem_map.mpr ((List.mem_map.mp first).imp fun step found =>
    ⟨List.mem_of_mem_take found.1, found.2⟩)

end

end AdaptiveScanPlanner

end OsManager

end DirtSim
