import DirtSim.Server.UserSettings

/-! # Sanitized user settings

Settings are checked field by field before they are written, and again after they are read. Each
check leaves a value it has passed once as it is, so what was sanitized is not changed again
(`sanitizeUserSettings_idempotent`). Most checks of floating-point numbers are comparisons, which
`nan` passes.
-/

namespace DirtSim.Server

open Foundation

section

abbrev Checked (α : Type) := α × List String

variable {α : Type}

def resetUnless (valid : α → Bool) (fallback : α) (message : String) (value : α) : Checked α :=
  if valid value then (value, []) else (fallback, [message])

variable [LT α] [DecidableLT α]

def clampMin (low : α) (message : String) (value : α) : Checked α :=
  if value < low then (low, [message]) else (value, [])

def clampMax (high : α) (message : String) (value : α) : Checked α :=
  if high < value then (high, [message]) else (value, [])

def clamp (low high : α) (lowMessage highMessage : String) (value : α) : Checked α :=
  if value < low then (low, [lowMessage])
  else if high < value then (high, [highMessage])
  else (value, [])

omit [LT α] [DecidableLT α] in
theorem resetUnless_idempotent (valid : α → Bool) (fallback : α) (good : valid fallback = true)
    (message : String) (value : α) :
    resetUnless valid fallback message (resetUnless valid fallback message value).1 =
      ((resetUnless valid fallback message value).1, []) := by
  unfold resetUnless
  by_cases passes : valid value = true
  · rw [if_pos passes, if_pos passes]
  · rw [if_neg passes, if_pos good]

theorem clampMin_idempotent (low : α) (irreflexive : ¬ low < low) (message : String) (value : α) :
    clampMin low message (clampMin low message value).1 = ((clampMin low message value).1, []) := by
  unfold clampMin
  by_cases below : value < low
  · rw [if_pos below, if_neg irreflexive]
  · rw [if_neg below, if_neg below]

theorem clampMax_idempotent (high : α) (irreflexive : ¬ high < high) (message : String)
    (value : α) :
    clampMax high message (clampMax high message value).1 =
      ((clampMax high message value).1, []) := by
  unfold clampMax
  by_cases above : high < value
  · rw [if_pos above, if_neg irreflexive]
  · rw [if_neg above, if_neg above]

theorem clamp_idempotent (low high : α) (irreflexive : ¬ low < low ∧ ¬ high < high)
    (ordered : ¬ high < low) (lowMessage highMessage : String) (value : α) :
    clamp low high lowMessage highMessage (clamp low high lowMessage highMessage value).1 =
      ((clamp low high lowMessage highMessage value).1, []) := by
  unfold clamp
  by_cases below : value < low
  · rw [if_pos below, if_neg irreflexive.1, if_neg ordered]
  · by_cases above : high < value
    · rw [if_neg below, if_pos above, if_neg ordered, if_neg irreflexive.2]
    · rw [if_neg below, if_neg above, if_neg below, if_neg above]

end

section

def kStartMenuIdleTimeoutMinMs : Int32 := 5000
def kStartMenuIdleTimeoutMaxMs : Int32 := 3600000
def kGenomeArchiveMaxSizePerBucketMax : Int32 := 1000
def kNtscNesFramePeriodMs : ℚ := 1000.0 / 60.0988
def kNtscNesFrameDelayMaxMs : ℚ := kNtscNesFramePeriodMs - 0.001

def SearchSettings.MaxSearchedNodeCountMin : UInt32 := 100
def SearchSettings.MaxSearchedNodeCountMax : UInt32 := 500000
def SearchSettings.PlanPlaybackFrameDelayMsMax : UInt32 := 1000
def SearchSettings.StallFrameLimitMin : UInt32 := 1
def SearchSettings.StallFrameLimitMax : UInt32 := 300

def getMetadata (scenario : ScenarioType) : Bool := decide scenario.Named

def isNesScenario (scenario : ScenarioType) : Bool :=
  scenario = ScenarioType.NesFlappyParatroopa || scenario = ScenarioType.NesSuperMarioBros ||
    scenario = ScenarioType.NesSuperTiltBro

def sanitizeClock (config : Config.Clock) : Checked Config.Clock :=
  let timezone := resetUnless (fun zone => decide zone.Named) ClockTimezone.LosAngeles
    "clockScenarioConfig.timezone reset to default timezone" config.timezone
  ({ config with timezone := timezone.1 }, timezone.2)

def sanitizeFrameDelayMs : Binary64 → Checked Binary64
  | .finite value =>
      if value < 0 then (0, ["nesSessionSettings.frameDelayMs clamped to 0"])
      else if kNtscNesFramePeriodMs ≤ value then
        (.finite kNtscNesFrameDelayMaxMs,
          ["nesSessionSettings.frameDelayMs clamped below one NES frame"])
      else (.finite value, [])
  | _ => (0, ["nesSessionSettings.frameDelayMs reset to 0"])

def sanitizeNesSession (settings : NesSessionSettings) : Checked NesSessionSettings :=
  let frameDelayMs := sanitizeFrameDelayMs settings.frameDelayMs
  ({ settings with frameDelayMs := frameDelayMs.1 }, frameDelayMs.2)

def sanitizeSearch (settings : SearchSettings) : Checked SearchSettings :=
  let maxSearchedNodeCount := clamp SearchSettings.MaxSearchedNodeCountMin
    SearchSettings.MaxSearchedNodeCountMax
    "searchSettings.maxSearchedNodeCount clamped to minimum"
    "searchSettings.maxSearchedNodeCount clamped to maximum" settings.maxSearchedNodeCount
  let stallFrameLimit := clamp SearchSettings.StallFrameLimitMin SearchSettings.StallFrameLimitMax
    "searchSettings.stallFrameLimit clamped to minimum"
    "searchSettings.stallFrameLimit clamped to maximum" settings.stallFrameLimit
  let planPlaybackFrameDelayMs := clampMax SearchSettings.PlanPlaybackFrameDelayMsMax
    "searchSettings.planPlaybackFrameDelayMs clamped to maximum" settings.planPlaybackFrameDelayMs
  ({ settings with
      maxSearchedNodeCount := maxSearchedNodeCount.1
      stallFrameLimit := stallFrameLimit.1
      planPlaybackFrameDelayMs := planPlaybackFrameDelayMs.1 },
    maxSearchedNodeCount.2 ++ stallFrameLimit.2 ++ planPlaybackFrameDelayMs.2)

def sanitizeUiTraining (config : UiTrainingConfig) : Checked UiTrainingConfig :=
  let streamIntervalMs := clampMin 0 "uiTraining.streamIntervalMs clamped to 0"
    config.streamIntervalMs
  let bestPlaybackIntervalMs := clampMin 1 "uiTraining.bestPlaybackIntervalMs clamped to 1"
    config.bestPlaybackIntervalMs
  let nesTileDebugView := resetUnless (fun view => decide view.Named) NesTileDebugView.NormalVideo
    "uiTraining.nesTileDebugView reset to NormalVideo" config.nesTileDebugView
  ({ config with
      streamIntervalMs := streamIntervalMs.1
      bestPlaybackIntervalMs := bestPlaybackIntervalMs.1
      nesTileDebugView := nesTileDebugView.1 },
    streamIntervalMs.2 ++ bestPlaybackIntervalMs.2 ++ nesTileDebugView.2)

def sanitizeEvolution (config : EvolutionConfig) : Checked EvolutionConfig :=
  let targetCpuPercent := clamp 0 100 "targetCpuPercent clamped to 0"
    "targetCpuPercent clamped to 100" config.targetCpuPercent
  let genomeArchiveMaxSize := clamp 0 kGenomeArchiveMaxSizePerBucketMax
    "genomeArchiveMaxSize clamped to 0" "genomeArchiveMaxSize clamped to 1000"
    config.genomeArchiveMaxSize
  let robustFitnessEvaluationCount := clampMin 0 "robustFitnessEvaluationCount clamped to 0"
    config.robustFitnessEvaluationCount
  let warmStartSeedCount := clampMin 0 "warmStartSeedCount clamped to 0" config.warmStartSeedCount
  let warmStartSeedPercent := clamp 0 100 "warmStartSeedPercent clamped to 0"
    "warmStartSeedPercent clamped to 100" config.warmStartSeedPercent
  let warmStartMinRobustEvalCount := clampMin 1 "warmStartMinRobustEvalCount clamped to 1"
    config.warmStartMinRobustEvalCount
  let warmStartNoveltyWeight := clamp 0 1 "warmStartNoveltyWeight clamped to 0"
    "warmStartNoveltyWeight clamped to 1" config.warmStartNoveltyWeight
  let warmStartFitnessFloorPercentile := clamp 0 100 "warmStartFitnessFloorPercentile clamped to 0"
    "warmStartFitnessFloorPercentile clamped to 100" config.warmStartFitnessFloorPercentile
  let diversityEliteCount := clampMin 0 "diversityEliteCount clamped to 0"
    config.diversityEliteCount
  let diversityEliteFitnessEpsilon := clampMin 0 "diversityEliteFitnessEpsilon clamped to 0"
    config.diversityEliteFitnessEpsilon
  let stagnationWindowGenerations := clamp 1 100 "stagnationWindowGenerations clamped to 1"
    "stagnationWindowGenerations clamped to 100" config.stagnationWindowGenerations
  let recoveryWindowGenerations := clamp 0 100 "recoveryWindowGenerations clamped to 0"
    "recoveryWindowGenerations clamped to 100" config.recoveryWindowGenerations
  ({ config with
      targetCpuPercent := targetCpuPercent.1
      genomeArchiveMaxSize := genomeArchiveMaxSize.1
      robustFitnessEvaluationCount := robustFitnessEvaluationCount.1
      warmStartSeedCount := warmStartSeedCount.1
      warmStartSeedPercent := warmStartSeedPercent.1
      warmStartMinRobustEvalCount := warmStartMinRobustEvalCount.1
      warmStartNoveltyWeight := warmStartNoveltyWeight.1
      warmStartFitnessFloorPercentile := warmStartFitnessFloorPercentile.1
      diversityEliteCount := diversityEliteCount.1
      diversityEliteFitnessEpsilon := diversityEliteFitnessEpsilon.1
      stagnationWindowGenerations := stagnationWindowGenerations.1
      recoveryWindowGenerations := recoveryWindowGenerations.1 },
    targetCpuPercent.2 ++ genomeArchiveMaxSize.2 ++ robustFitnessEvaluationCount.2 ++
      warmStartSeedCount.2 ++ warmStartSeedPercent.2 ++ warmStartMinRobustEvalCount.2 ++
      warmStartNoveltyWeight.2 ++ warmStartFitnessFloorPercentile.2 ++ diversityEliteCount.2 ++
      diversityEliteFitnessEpsilon.2 ++ stagnationWindowGenerations.2 ++
      recoveryWindowGenerations.2)

def sanitizeSigma (sigma : Binary64) : Checked Binary64 :=
  if sigma.isfinite then
    clamp 0 0.3 "mutationConfig.sigma clamped to 0" "mutationConfig.sigma clamped to 0.3" sigma
  else (({} : MutationConfig).sigma, ["mutationConfig.sigma reset to default"])

def sanitizeMutation (config : MutationConfig) : Checked MutationConfig :=
  let perturbationsPerOffspring := clamp 0 5000 "perturbationsPerOffspring clamped to 0"
    "perturbationsPerOffspring clamped to 5000" config.perturbationsPerOffspring
  let resetsPerOffspring := clamp 0 200 "resetsPerOffspring clamped to 0"
    "resetsPerOffspring clamped to 200" config.resetsPerOffspring
  let sigma := sanitizeSigma config.sigma
  ({ perturbationsPerOffspring := perturbationsPerOffspring.1
     resetsPerOffspring := resetsPerOffspring.1
     sigma := sigma.1 },
    perturbationsPerOffspring.2 ++ resetsPerOffspring.2 ++ sigma.2)

/-- Seeds that are nil or no longer in the repository are replaced by random genomes. -/
def sanitizePopulation (genomeExists : UUID → Bool) (index : ℕ) (population : PopulationSpec) :
    Checked PopulationSpec :=
  let seedGenomes := population.seedGenomes.filter fun genomeId =>
    !(genomeId.isNil || !genomeExists genomeId)
  let removedSeedCount :=
    Int32.ofNat population.seedGenomes.length - Int32.ofNat seedGenomes.length
  if removedSeedCount ≤ 0 then ({ population with seedGenomes := seedGenomes }, [])
  else
    ({ population with
        seedGenomes := seedGenomes
        randomCount := population.randomCount + removedSeedCount },
      ["trainingSpec population[" ++ toString index ++ "] removed " ++ toString removedSeedCount ++
        " missing seed genome(s)"])

def sanitizePopulations (genomeExists : UUID → Bool) :
    ℕ → List PopulationSpec → Checked (List PopulationSpec)
  | _, [] => ([], [])
  | index, population :: populations =>
      let first := sanitizePopulation genomeExists index population
      let rest := sanitizePopulations genomeExists (index + 1) populations
      (first.1 :: rest.1, first.2 ++ rest.2)

/-- Training on a NES scenario needs a NES duck, and the other way round. -/
def checkTrainingTarget (spec : TrainingSpec) : Except String Unit :=
  if spec.organismType = OrganismKind.NES_DUCK || isNesScenario spec.scenarioId then
    if spec.organismType ≠ OrganismKind.NES_DUCK then
      .error "Invalid trainingSpec: NES scenario requires NES_DUCK organismType"
    else if !isNesScenario spec.scenarioId then
      .error "Invalid trainingSpec: NES_DUCK requires NES scenarioId"
    else .ok ()
  else .ok ()

/-- The settings with all fields checked, and what was changed; an error ends the process. -/
def sanitizeUserSettings (genomeExists : UUID → Bool) (input : UserSettings) :
    Except String (Checked UserSettings) :=
  let clock := sanitizeClock input.clockScenarioConfig
  let nesSession := sanitizeNesSession input.nesSessionSettings
  let search := sanitizeSearch input.searchSettings
  let volumePercent := clamp 0 100 "volumePercent clamped to 0" "volumePercent clamped to 100"
    input.volumePercent
  let defaultScenario := resetUnless getMetadata ({} : UserSettings).defaultScenario
    "defaultScenario reset to fallback scenario" input.defaultScenario
  let startMenuIdleAction := resetUnless
    (fun action => decide (action.value ≤ StartMenuIdleAction.TrainingSession.value))
    StartMenuIdleAction.ClockScenario "startMenuIdleAction reset to ClockScenario"
    input.startMenuIdleAction
  let startMenuIdleTimeoutMs := clamp kStartMenuIdleTimeoutMinMs kStartMenuIdleTimeoutMaxMs
    "startMenuIdleTimeoutMs clamped to minimum timeout"
    "startMenuIdleTimeoutMs clamped to maximum timeout" input.startMenuIdleTimeoutMs
  let uiTraining := sanitizeUiTraining input.uiTraining
  let trainingResumePolicy := resetUnless
    (fun policy => decide (policy.value ≤ TrainingResumePolicy.WarmFromBest.value))
    TrainingResumePolicy.WarmFromBest "trainingResumePolicy reset to WarmFromBest"
    input.trainingResumePolicy
  let evolution := sanitizeEvolution input.evolutionConfig
  let mutation := sanitizeMutation input.mutationConfig
  let population := sanitizePopulations genomeExists 0 input.trainingSpec.population
  (checkTrainingTarget input.trainingSpec).map fun _ =>
    ({ input with
        clockScenarioConfig := clock.1
        nesSessionSettings := nesSession.1
        searchSettings := search.1
        volumePercent := volumePercent.1
        defaultScenario := defaultScenario.1
        startMenuIdleAction := startMenuIdleAction.1
        startMenuIdleTimeoutMs := startMenuIdleTimeoutMs.1
        uiTraining := uiTraining.1
        trainingResumePolicy := trainingResumePolicy.1
        evolutionConfig := evolution.1
        mutationConfig := mutation.1
        trainingSpec := { input.trainingSpec with population := population.1 } },
      clock.2 ++ nesSession.2 ++ search.2 ++ volumePercent.2 ++ defaultScenario.2 ++
        startMenuIdleAction.2 ++ startMenuIdleTimeoutMs.2 ++ uiTraining.2 ++
        trainingResumePolicy.2 ++ evolution.2 ++ mutation.2 ++ population.2)

end

section

/-! ## What was sanitized is not changed again -/

theorem sanitizeClock_idempotent (config : Config.Clock) :
    sanitizeClock (sanitizeClock config).1 = ((sanitizeClock config).1, []) := by
  unfold sanitizeClock
  simp (disch := decide) [resetUnless_idempotent]

theorem sanitizeFrameDelayMs_finite (value : ℚ) : sanitizeFrameDelayMs (.finite value) =
    if value < 0 then (0, ["nesSessionSettings.frameDelayMs clamped to 0"])
    else if kNtscNesFramePeriodMs ≤ value then
      (.finite kNtscNesFrameDelayMaxMs,
        ["nesSessionSettings.frameDelayMs clamped below one NES frame"])
    else (.finite value, []) := rfl

theorem sanitizeFrameDelayMs_idempotent (value : Binary64) :
    sanitizeFrameDelayMs (sanitizeFrameDelayMs value).1 = ((sanitizeFrameDelayMs value).1, []) := by
  have positive : ¬ kNtscNesFrameDelayMaxMs < 0 := by
    unfold kNtscNesFrameDelayMaxMs kNtscNesFramePeriodMs
    norm_num
  have short : ¬ kNtscNesFramePeriodMs ≤ kNtscNesFrameDelayMaxMs := by
    unfold kNtscNesFrameDelayMaxMs
    norm_num
  have period : ¬ kNtscNesFramePeriodMs ≤ 0 := by
    unfold kNtscNesFramePeriodMs
    norm_num
  have zero : sanitizeFrameDelayMs (.finite 0) = (.finite 0, []) := by
    rw [sanitizeFrameDelayMs_finite, if_neg (lt_irrefl 0), if_neg period]
  cases value with
  | finite value =>
      rw [sanitizeFrameDelayMs_finite]
      by_cases below : value < 0
      · rw [if_pos below]
        exact zero
      · by_cases above : kNtscNesFramePeriodMs ≤ value
        · rw [if_neg below, if_pos above, sanitizeFrameDelayMs_finite, if_neg positive,
            if_neg short]
        · rw [if_neg below, if_neg above, sanitizeFrameDelayMs_finite, if_neg below, if_neg above]
  | infinite negative => exact zero
  | nan => exact zero

theorem isfinite_sanitizeFrameDelayMs (value : Binary64) :
    (sanitizeFrameDelayMs value).1.isfinite = true := by
  cases value with
  | finite value =>
      rw [sanitizeFrameDelayMs_finite]
      split
      · rfl
      · split <;> rfl
  | infinite negative => rfl
  | nan => rfl

theorem sanitizeNesSession_idempotent (settings : NesSessionSettings) :
    sanitizeNesSession (sanitizeNesSession settings).1 = ((sanitizeNesSession settings).1, []) := by
  unfold sanitizeNesSession
  simp [sanitizeFrameDelayMs_idempotent]

theorem sanitizeSearch_idempotent (settings : SearchSettings) :
    sanitizeSearch (sanitizeSearch settings).1 = ((sanitizeSearch settings).1, []) := by
  unfold sanitizeSearch
  simp (disch := decide) [clamp_idempotent, clampMax_idempotent]

theorem sanitizeUiTraining_idempotent (config : UiTrainingConfig) :
    sanitizeUiTraining (sanitizeUiTraining config).1 = ((sanitizeUiTraining config).1, []) := by
  unfold sanitizeUiTraining
  simp (disch := decide) [clampMin_idempotent, resetUnless_idempotent]

theorem sanitizeEvolution_idempotent (config : EvolutionConfig) :
    sanitizeEvolution (sanitizeEvolution config).1 = ((sanitizeEvolution config).1, []) := by
  unfold sanitizeEvolution
  simp (disch := decide) [clamp_idempotent, clampMin_idempotent]

theorem isfinite_clamp {low high : ℚ} {value : Binary64} {lowMessage highMessage : String} :
    (clamp (.finite low) (.finite high) lowMessage highMessage value).1.isfinite = true ↔
      value ≠ .nan := by
  unfold clamp
  cases value with
  | finite value =>
      refine iff_of_true ?_ nofun
      split
      · rfl
      · split <;> rfl
  | infinite negative =>
      refine iff_of_true ?_ nofun
      cases negative <;> rfl
  | nan => exact iff_of_false nofun (not_not.mpr rfl)

theorem isfinite_clampMin {low : ℚ} {value : Binary64} {message : String} :
    (clampMin (.finite low) message value).1.isfinite = true ↔
      value ≠ .nan ∧ value ≠ .infinite false := by
  unfold clampMin
  cases value with
  | finite value =>
      refine iff_of_true ?_ ⟨nofun, nofun⟩
      split <;> rfl
  | infinite negative =>
      cases negative with
      | true => exact iff_of_true rfl ⟨nofun, nofun⟩
      | false => exact iff_of_false nofun fun both => both.2 rfl
  | nan => exact iff_of_false nofun fun both => both.1 rfl

theorem isfinite_sanitizeSigma (sigma : Binary64) : (sanitizeSigma sigma).1.isfinite = true := by
  unfold sanitizeSigma
  split
  case isTrue finite =>
      refine isfinite_clamp.mpr ?_
      rintro rfl
      exact Bool.false_ne_true finite
  case isFalse infinite => rfl

theorem sanitizeSigma_idempotent (sigma : Binary64) :
    sanitizeSigma (sanitizeSigma sigma).1 = ((sanitizeSigma sigma).1, []) := by
  have finite := isfinite_sanitizeSigma sigma
  have ordered : ¬ (0.3 : Binary64) < 0 := mt Binary64.lt_finite.mp (by norm_num)
  have again : sanitizeSigma (sanitizeSigma sigma).1 =
      clamp 0 0.3 "mutationConfig.sigma clamped to 0" "mutationConfig.sigma clamped to 0.3"
        (sanitizeSigma sigma).1 := if_pos finite
  rw [again]
  unfold sanitizeSigma
  split
  case isTrue finite =>
      exact clamp_idempotent _ _ ⟨Binary64.lt_irrefl _, Binary64.lt_irrefl _⟩ ordered _ _ _
  case isFalse infinite =>
      have positive : ¬ (0.05 : Binary64) < 0 := mt Binary64.lt_finite.mp (by norm_num)
      have small : ¬ (0.3 : Binary64) < 0.05 := mt Binary64.lt_finite.mp (by norm_num)
      unfold clamp
      exact (if_neg positive).trans (if_neg small)

theorem sanitizeMutation_idempotent (config : MutationConfig) :
    sanitizeMutation (sanitizeMutation config).1 = ((sanitizeMutation config).1, []) := by
  unfold sanitizeMutation
  simp (disch := decide) [clamp_idempotent, sanitizeSigma_idempotent]

theorem sanitizePopulation_idempotent (genomeExists : UUID → Bool) (index : ℕ)
    (population : PopulationSpec) :
    sanitizePopulation genomeExists index (sanitizePopulation genomeExists index population).1 =
      ((sanitizePopulation genomeExists index population).1, []) := by
  have filtered : (sanitizePopulation genomeExists index population).1.seedGenomes =
      population.seedGenomes.filter fun genomeId =>
        !(genomeId.isNil || !genomeExists genomeId) := by
    unfold sanitizePopulation
    dsimp only
    split <;> rfl
  generalize (sanitizePopulation genomeExists index population).1 = cleaned at filtered ⊢
  have same : (cleaned.seedGenomes.filter fun genomeId =>
      !(genomeId.isNil || !genomeExists genomeId)) = cleaned.seedGenomes := by
    rw [filtered, List.filter_filter]
    simp
  unfold sanitizePopulation
  dsimp only
  rw [same, Int32.sub_self, if_pos (Int32.le_refl 0)]

theorem sanitizePopulations_idempotent (genomeExists : UUID → Bool) (index : ℕ)
    (populations : List PopulationSpec) :
    sanitizePopulations genomeExists index
        (sanitizePopulations genomeExists index populations).1 =
      ((sanitizePopulations genomeExists index populations).1, []) := by
  induction populations generalizing index with
  | nil => rfl
  | cons population populations ih =>
      have split (first : PopulationSpec) (rest : List PopulationSpec) :
          sanitizePopulations genomeExists index (first :: rest) =
            ((sanitizePopulation genomeExists index first).1 ::
                (sanitizePopulations genomeExists (index + 1) rest).1,
              (sanitizePopulation genomeExists index first).2 ++
                (sanitizePopulations genomeExists (index + 1) rest).2) := rfl
      rw [split, split, sanitizePopulation_idempotent, ih]
      rfl

/-- **Sanitized settings stay as they are.** -/
theorem sanitizeUserSettings_idempotent {genomeExists : UUID → Bool} {input settings : UserSettings}
    {updates : List String}
    (sanitized : sanitizeUserSettings genomeExists input = .ok (settings, updates)) :
    sanitizeUserSettings genomeExists settings = .ok (settings, []) := by
  obtain ⟨_, target, rebuilt⟩ := map_ok.mp sanitized
  obtain ⟨rfl, _⟩ := Prod.mk.inj rebuilt
  unfold sanitizeUserSettings
  simp (disch := decide) only [sanitizeClock_idempotent, sanitizeNesSession_idempotent,
    sanitizeSearch_idempotent, clamp_idempotent, resetUnless_idempotent,
    sanitizeUiTraining_idempotent, sanitizeEvolution_idempotent, sanitizeMutation_idempotent,
    sanitizePopulations_idempotent, List.append_nil]
  change (checkTrainingTarget input.trainingSpec).map _ = _
  rw [target]
  rfl

end

end DirtSim.Server
