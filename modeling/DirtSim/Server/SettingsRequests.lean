import DirtSim.Foundation.Transition
import DirtSim.Server.Sanitize

/-! # Requests about user settings

Each of four requests sanitizes new settings, writes them, and only then keeps and applies them; one
that is refused changes nothing (`Host.reachable_inStep`). Settings with members that no check looks
at may be written in a form that does not load.
-/

namespace DirtSim.Server

variable {settings : UserSettings}

open Foundation

section

/-- How an attempt to write the file goes. -/
inductive WriteAttempt
  | notOpened
  | notWritten
  | completes
deriving DecidableEq

def Texts (settings : UserSettings) : Prop :=
  ∀ population ∈ settings.trainingSpec.population, population.brainKind.Valid ∧
    ∀ variant ∈ population.brainVariant, variant.Valid

instance (settings : UserSettings) : Decidable (Texts settings) :=
  inferInstanceAs (Decidable (∀ _ ∈ _, _))

/-- Whether the settings replace the file. Text that is not valid throws, and ends the process. -/
def persistUserSettingsToDisk (attempt : WriteAttempt) (settings : UserSettings) :
    Except String Bool :=
  if attempt = .notOpened then .ok false
  else if ¬ Texts settings then .error "[json.exception.type_error.316] invalid UTF-8 byte"
  else .ok (decide (attempt = .completes))

/-- The settings of a file; without one, or with one that does not parse, the defaults. -/
def loadUserSettingsFromDisk (genomeExists : UUID → Bool) (file : Option Json) :
    Except String UserSettings :=
  match file with
  | none => .ok {}
  | some json =>
      match Reflected.read "UserSettings" ({} : UserSettings) json with
      | .error _ => .ok {}
      | .ok parsed => (sanitizeUserSettings genomeExists parsed).map Prod.fst

inductive ScenarioConfig
  | clock (config : Config.Clock)
  | sandbox (config : Config.Sandbox)
  | raining (config : Config.Raining)
  | treeGermination (config : Config.TreeGermination)
deriving DecidableEq

def makeScenarioConfigFromUserSettings (settings : UserSettings) (scenarioId : ScenarioType) :
    Option ScenarioConfig :=
  if scenarioId = ScenarioType.Clock then some (.clock settings.clockScenarioConfig)
  else if scenarioId = ScenarioType.Sandbox then some (.sandbox settings.sandboxScenarioConfig)
  else if scenarioId = ScenarioType.Raining then some (.raining settings.rainingScenarioConfig)
  else if scenarioId = ScenarioType.TreeGermination then
    some (.treeGermination settings.treeGerminationScenarioConfig)
  else none

/-- Which scenario configurations a request touches. -/
structure Touched where
  clock : Bool
  sandbox : Bool
  raining : Bool
  treeGermination : Bool

def isScenarioConfigTouched (scenarioId : ScenarioType) (touched : Touched) : Bool :=
  if scenarioId = ScenarioType.Clock then touched.clock
  else if scenarioId = ScenarioType.Sandbox then touched.sandbox
  else if scenarioId = ScenarioType.Raining then touched.raining
  else if scenarioId = ScenarioType.TreeGermination then touched.treeGermination
  else false

/-- The scenario that runs, is paused or is trained on, and the configuration it was given. -/
structure ActiveScenario where
  scenarioId : ScenarioType
  config : Option ScenarioConfig
deriving DecidableEq

def applyScenarioConfigUpdatesToActiveState (settings : UserSettings) (touched : Touched)
    (active : ActiveScenario) : ActiveScenario :=
  if isScenarioConfigTouched active.scenarioId touched then
    match makeScenarioConfigFromUserSettings settings active.scenarioId with
    | none => active
    | some config => { active with config := some config }
  else active

/-- What the server has in memory. -/
structure StateMachine where
  userSettings : UserSettings
  nesFrameDelayEnabled : Bool
  nesFrameDelayMs : Binary64
  active : Option ActiveScenario

def StateMachine.applyNesSessionSettingsToLiveState (server : StateMachine) : StateMachine :=
  { server with
    nesFrameDelayEnabled := server.userSettings.nesSessionSettings.frameDelayEnabled
    nesFrameDelayMs := server.userSettings.nesSessionSettings.frameDelayMs }

namespace UserSettingsPatch

structure Command where
  clockScenarioConfig : Option Config.Clock := none
  sandboxScenarioConfig : Option Config.Sandbox := none
  rainingScenarioConfig : Option Config.Raining := none
  treeGerminationScenarioConfig : Option Config.TreeGermination := none
  nesSessionSettings : Option NesSessionSettings := none
  searchSettings : Option SearchSettings := none
  volumePercent : Option Int32 := none
  defaultScenario : Option ScenarioType := none
  startMenuIdleAction : Option StartMenuIdleAction := none
  startMenuIdleTimeoutMs : Option Int32 := none
  trainingSpec : Option TrainingSpec := none
  evolutionConfig : Option EvolutionConfig := none
  mutationConfig : Option MutationConfig := none
  trainingResumePolicy : Option TrainingResumePolicy := none
  uiTraining : Option UiTrainingConfig := none
  networkLiveScanPreferred : Option Bool := none
deriving DecidableEq

def Command.isEmpty (command : Command) : Bool := decide (command = {})

def Command.patch (command : Command) (settings : UserSettings) : UserSettings where
  clockScenarioConfig := command.clockScenarioConfig.getD settings.clockScenarioConfig
  sandboxScenarioConfig := command.sandboxScenarioConfig.getD settings.sandboxScenarioConfig
  rainingScenarioConfig := command.rainingScenarioConfig.getD settings.rainingScenarioConfig
  treeGerminationScenarioConfig :=
    command.treeGerminationScenarioConfig.getD settings.treeGerminationScenarioConfig
  nesSessionSettings := command.nesSessionSettings.getD settings.nesSessionSettings
  searchSettings := command.searchSettings.getD settings.searchSettings
  volumePercent := command.volumePercent.getD settings.volumePercent
  defaultScenario := command.defaultScenario.getD settings.defaultScenario
  startMenuIdleAction := command.startMenuIdleAction.getD settings.startMenuIdleAction
  startMenuIdleTimeoutMs := command.startMenuIdleTimeoutMs.getD settings.startMenuIdleTimeoutMs
  trainingSpec := command.trainingSpec.getD settings.trainingSpec
  evolutionConfig := command.evolutionConfig.getD settings.evolutionConfig
  mutationConfig := command.mutationConfig.getD settings.mutationConfig
  trainingResumePolicy := command.trainingResumePolicy.getD settings.trainingResumePolicy
  uiTraining := command.uiTraining.getD settings.uiTraining
  networkLiveScanPreferred :=
    command.networkLiveScanPreferred.getD settings.networkLiveScanPreferred

def Command.touched (command : Command) : Touched where
  clock := command.clockScenarioConfig.isSome
  sandbox := command.sandboxScenarioConfig.isSome
  raining := command.rainingScenarioConfig.isSome
  treeGermination := command.treeGerminationScenarioConfig.isSome

end UserSettingsPatch

inductive Request
  | nesFrameDelaySet (enabled : Bool) (frame_delay_ms : Binary64)
  | userSettingsPatch (command : UserSettingsPatch.Command)
  | userSettingsSet (settings : UserSettings)
  | userSettingsReset

inductive Okay
  | nesFrameDelay (enabled : Bool) (frame_delay_ms : Binary64)
  | settings (settings : UserSettings)

/-- The answer to a request, the server after it, and the settings it wrote. -/
structure Handled where
  answer : Except String Okay
  server : StateMachine
  written : Option UserSettings

def Request.target (settings : UserSettings) : Request → UserSettings
  | .nesFrameDelaySet enabled frame_delay_ms =>
      { settings with
        nesSessionSettings := { frameDelayEnabled := enabled, frameDelayMs := frame_delay_ms } }
  | .userSettingsPatch command => command.patch settings
  | .userSettingsSet settings => settings
  | .userSettingsReset => {}

/-- Writes the settings, and only then keeps and applies them. -/
def StateMachine.persistAndApply (server : StateMachine) (attempt : WriteAttempt)
    (settings : UserSettings) (touched : Touched) (okay : StateMachine → Okay) :
    Except String Handled :=
  (persistUserSettingsToDisk attempt settings).map fun persisted =>
    if persisted then
      let applied := { server with userSettings := settings }.applyNesSessionSettingsToLiveState
      let after := { applied with
        active := applied.active.map (applyScenarioConfigUpdatesToActiveState settings touched) }
      { answer := .ok (okay after), server := after, written := some settings }
    else { answer := .error "Failed to persist user settings", server := server, written := none }

def StateMachine.handleEvent (server : StateMachine) (genomeExists : UUID → Bool)
    (attempt : WriteAttempt) (request : Request) : Except String Handled :=
  let patched := request.target server.userSettings
  match request with
  | .nesFrameDelaySet _ _ =>
      match sanitizeUserSettings genomeExists patched with
      | .error reason => .error reason
      | .ok (sanitized, _) =>
          server.persistAndApply attempt sanitized ⟨false, false, false, false⟩ fun after =>
            .nesFrameDelay after.nesFrameDelayEnabled after.nesFrameDelayMs
  | .userSettingsPatch command =>
      if command.isEmpty then
        .ok { answer := .error "No fields provided to patch", server := server, written := none }
      else
        match sanitizeUserSettings genomeExists patched with
        | .error reason => .error reason
        | .ok (sanitized, _) =>
            server.persistAndApply attempt sanitized command.touched fun after =>
              .settings after.userSettings
  | .userSettingsSet _ =>
      match sanitizeUserSettings genomeExists patched with
      | .error reason => .error reason
      | .ok (sanitized, _) =>
          server.persistAndApply attempt sanitized ⟨true, true, true, true⟩ fun after =>
            .settings after.userSettings
  | .userSettingsReset =>
      server.persistAndApply attempt {} ⟨true, true, true, true⟩ fun after =>
        .settings after.userSettings

end

section

/-- A server, its file, the settings written last by it, and the genomes there were at its last
access to the file. -/
structure Host where
  server : StateMachine
  file : Option Json
  lastWritten : Option UserSettings
  genomeExists : UUID → Bool

/-- The server loads a file that is missing or was written by an earlier one. Where settings change
in this, the file is rewritten, or the attempt fails. -/
inductive Starts : Host → Prop
  | start {file : Option Json} {genomeExists : UUID → Bool} {settings : UserSettings}
      (active : Option ActiveScenario)
      (found : file = none ∨ ∃ earlier : UserSettings, file = some (Reflected.write earlier))
      (loaded : loadUserSettingsFromDisk genomeExists file = .ok settings) (rewritten : Bool) :
      Starts {
        server :=
          { userSettings := settings
            nesFrameDelayEnabled := settings.nesSessionSettings.frameDelayEnabled
            nesFrameDelayMs := settings.nesSessionSettings.frameDelayMs
            active := active }
        file := if rewritten then some (Reflected.write settings) else file
        lastWritten := if rewritten then some settings else none
        genomeExists := genomeExists }

/-- A request, the genomes there are, and how writing the file goes. -/
structure Event where
  request : Request
  genomeExists : UUID → Bool
  attempt : WriteAttempt

def Host.handle (host : Host) (event : Event) : Except String Handled :=
  host.server.handleEvent event.genomeExists event.attempt event.request

def Host.after (host : Host) (event : Event) (handled : Handled) : Host :=
  match handled.written with
  | none => { host with server := handled.server }
  | some settings =>
      { server := handled.server
        file := some (Reflected.write settings)
        lastWritten := some settings
        genomeExists := event.genomeExists }

def machine : Machine Event Host where
  initial := Starts
  step before event after := ∃ handled, before.handle event = .ok handled ∧
    after = before.after event handled

def Config.Clock.Survives (config : Config.Clock) : Prop :=
  config.font.Named ∧ config.digitMaterial.Named ∧ config.colorsPerSecond.isfinite ∧
    config.eventFrequency.isfinite ∧ config.horizontalScale.isfinite ∧
    config.verticalScale.isfinite ∧ config.glowConfig.digitIntensity.isfinite ∧
    config.glowConfig.floorIntensity.isfinite ∧ config.glowConfig.obstacleIntensity.isfinite ∧
    config.glowConfig.wallIntensity.isfinite ∧ config.glowConfig.waterIntensity.isfinite

def EvolutionConfig.Survives (config : EvolutionConfig) : Prop :=
  config.warmStartSeedPercent ≠ .nan ∧ config.warmStartNoveltyWeight ≠ .nan ∧
    config.warmStartFitnessFloorPercentile ≠ .nan ∧
    (config.diversityEliteFitnessEpsilon ≠ .nan ∧
      config.diversityEliteFitnessEpsilon ≠ .infinite false) ∧
    config.stagnationImprovementEpsilon.isfinite ∧ config.maxSimulationTime.isfinite ∧
    config.energyReference.isfinite ∧ config.waterReference.isfinite

/-- Numbers that no check makes finite are finite, and bytes that no check resets are named. -/
structure Survives (settings : UserSettings) : Prop where
  clock : settings.clockScenarioConfig.Survives
  sandbox : settings.sandboxScenarioConfig.rainRate.isfinite
  raining : settings.rainingScenarioConfig.rainRate.isfinite ∧
    settings.rainingScenarioConfig.drainSize.isfinite ∧
    settings.rainingScenarioConfig.maxFillPercent.isfinite
  treeGermination : settings.treeGerminationScenarioConfig.brain_type.Named
  training : settings.trainingSpec.scenarioId.Named ∧ settings.trainingSpec.organismType.Named
  evolution : settings.evolutionConfig.Survives

/-- The settings that a request asks for survive, should the write complete. -/
def Lasting (host : Host) (event : Event) : Prop :=
  event.attempt = .completes → Survives (event.request.target host.server.userSettings)

/-- Memory is what was written last, and what the file holds since. -/
def Host.InStep (host : Host) : Prop :=
  ∀ settings ∈ host.lastWritten, host.server.userSettings = settings ∧
    host.file = some (Reflected.write settings)

/-- A server started on the file has the same settings. -/
def Host.Restarts (host : Host) : Prop :=
  loadUserSettingsFromDisk host.genomeExists host.file = .ok host.server.userSettings

end

section

variable {message : String}

/-! ## Which settings can be stored -/

theorem storable_clock (config : Config.Clock) :
    Reflected.Storable config ↔ config.Survives ∧ config.timezone.Named := by
  constructor
  · rintro ⟨-, -, -, -, -, -, -, -, -, -, font, colors, frequency, width, height,
      ⟨-, digit, floor, obstacle, wall, water, -⟩, material, -, -, -, -, timezone, -⟩
    exact ⟨⟨font, material, colors, frequency, width, height, digit, floor, obstacle, wall, water⟩,
      timezone⟩
  · rintro ⟨⟨font, material, colors, frequency, width, height, digit, floor, obstacle, wall,
      water⟩, timezone⟩
    exact ⟨trivial, trivial, trivial, trivial, trivial, trivial, trivial, trivial, trivial, trivial,
      font, colors, frequency, width, height,
      ⟨trivial, digit, floor, obstacle, wall, water, trivial⟩, material, trivial, trivial, trivial,
      trivial, timezone, trivial⟩

theorem storable_evolution (config : EvolutionConfig) :
    Reflected.Storable config ↔ config.diversityEliteFitnessEpsilon.isfinite ∧
      config.warmStartSeedPercent.isfinite ∧ config.warmStartNoveltyWeight.isfinite ∧
      config.warmStartFitnessFloorPercentile.isfinite ∧
      config.stagnationImprovementEpsilon.isfinite ∧ config.maxSimulationTime.isfinite ∧
      config.energyReference.isfinite ∧ config.waterReference.isfinite := by
  constructor
  · rintro ⟨-, -, -, -, -, -, -, epsilon, -, -, percent, -, -, novelty, floor, improvement, -, -,
      time, energy, water, -⟩
    exact ⟨epsilon, percent, novelty, floor, improvement, time, energy, water⟩
  · rintro ⟨epsilon, percent, novelty, floor, improvement, time, energy, water⟩
    exact ⟨trivial, trivial, trivial, trivial, trivial, trivial, trivial, epsilon, trivial, trivial,
      percent, trivial, trivial, novelty, floor, improvement, trivial, trivial, time, energy, water,
      trivial⟩

theorem storable_training (spec : TrainingSpec) :
    Reflected.Storable spec ↔ (spec.scenarioId.Named ∧ spec.organismType.Named) ∧
      ∀ population ∈ spec.population, population.brainKind.Valid ∧
        ∀ variant ∈ population.brainVariant, variant.Valid := by
  constructor
  · rintro ⟨scenario, organism, populations, -⟩
    refine ⟨⟨scenario, organism⟩, fun population member => ?_⟩
    obtain ⟨kind, variant, -⟩ := populations population member
    exact ⟨kind, variant⟩
  · rintro ⟨⟨scenario, organism⟩, populations⟩
    refine ⟨scenario, organism, fun population member => ?_, trivial⟩
    obtain ⟨kind, variant⟩ := populations population member
    exact ⟨kind, variant, trivial, fun _ _ => trivial, trivial, trivial⟩

theorem storable_settings (settings : UserSettings) :
    Reflected.Storable settings ↔ Reflected.Storable settings.clockScenarioConfig ∧
      settings.sandboxScenarioConfig.rainRate.isfinite ∧
      (settings.rainingScenarioConfig.rainRate.isfinite ∧
        settings.rainingScenarioConfig.drainSize.isfinite ∧
        settings.rainingScenarioConfig.maxFillPercent.isfinite) ∧
      settings.treeGerminationScenarioConfig.brain_type.Named ∧
      settings.nesSessionSettings.frameDelayMs.isfinite ∧ settings.defaultScenario.Named ∧
      settings.startMenuIdleAction.Named ∧ Reflected.Storable settings.trainingSpec ∧
      Reflected.Storable settings.evolutionConfig ∧ settings.mutationConfig.sigma.isfinite ∧
      Reflected.Storable settings.trainingResumePolicy ∧
      settings.uiTraining.nesTileDebugView.Named := by
  constructor
  · rintro ⟨clock, ⟨-, -, -, sandbox, -⟩, ⟨rain, drain, fill, -⟩, ⟨brain, -⟩, ⟨-, delay, -⟩, -, -,
      scenario, action, -, training, evolution, ⟨-, -, sigma, -⟩, policy, ⟨-, -, -, -, view, -⟩, -⟩
    exact ⟨clock, sandbox, ⟨rain, drain, fill⟩, brain, delay, scenario, action, training, evolution,
      sigma, policy, view⟩
  · rintro ⟨clock, sandbox, ⟨rain, drain, fill⟩, brain, delay, scenario, action, training,
      evolution, sigma, policy, view⟩
    exact ⟨clock, ⟨trivial, trivial, trivial, sandbox, trivial⟩, ⟨rain, drain, fill, trivial⟩,
      ⟨brain, trivial, trivial, trivial⟩, ⟨trivial, delay, trivial⟩,
      ⟨trivial, trivial, trivial, trivial, trivial, trivial, trivial⟩, trivial, scenario, action,
      trivial, training, evolution, ⟨trivial, trivial, sigma, trivial⟩, policy,
      ⟨trivial, trivial, trivial, fun _ _ => trivial, view, trivial⟩, trivial, trivial⟩

theorem named_resetUnless {enumerators : Enumerators} {fallback value : Enumerated enumerators}
    (good : fallback.Named) :
    (resetUnless (fun enum => decide enum.Named) fallback message value).1.Named := by
  unfold resetUnless
  split
  case isTrue named => exact of_decide_eq_true named
  case isFalse nameless => exact good

theorem named_startMenuIdleAction (action : StartMenuIdleAction) :
    (resetUnless (fun action : StartMenuIdleAction =>
      decide (action.value ≤ StartMenuIdleAction.TrainingSession.value))
      StartMenuIdleAction.ClockScenario message action).1.Named := by
  unfold resetUnless
  split
  case isTrue small =>
      have bound := UInt8.le_iff_toNat_le.mp (of_decide_eq_true small)
      exact Nat.lt_succ_of_le bound
  case isFalse large =>
      exact (by decide : Enumerated.Named StartMenuIdleAction.ClockScenario)

theorem storable_trainingResumePolicy (policy : TrainingResumePolicy) :
    Reflected.Storable (resetUnless (fun policy : TrainingResumePolicy =>
      decide (policy.value ≤ TrainingResumePolicy.WarmFromBest.value))
      TrainingResumePolicy.WarmFromBest message policy).1 := by
  unfold resetUnless
  split
  case isTrue small =>
      have bound : policy.value.toNat ≤ 1 :=
        UInt8.le_iff_toNat_le.mp (of_decide_eq_true small)
      rcases Nat.le_one_iff_eq_zero_or_eq_one.mp bound with zero | one
      · exact Or.inl (congrArg TrainingResumePolicy.mk (UInt8.toNat_inj.mp zero))
      · exact Or.inr (congrArg TrainingResumePolicy.mk (UInt8.toNat_inj.mp one))
  case isFalse large => exact Or.inr rfl

theorem storable_sanitizeEvolution (config : EvolutionConfig) :
    Reflected.Storable (sanitizeEvolution config).1 ↔ config.Survives := by
  rw [storable_evolution]
  constructor
  · rintro ⟨epsilon, percent, novelty, floor, unchecked⟩
    exact ⟨isfinite_clamp.mp percent, isfinite_clamp.mp novelty, isfinite_clamp.mp floor,
      isfinite_clampMin.mp epsilon, unchecked⟩
  · rintro ⟨percent, novelty, floor, epsilon, unchecked⟩
    exact ⟨isfinite_clampMin.mpr epsilon, isfinite_clamp.mpr percent, isfinite_clamp.mpr novelty,
      isfinite_clamp.mpr floor, unchecked⟩

theorem survives_evolution {config : EvolutionConfig} (storable : Reflected.Storable config) :
    config.Survives := by
  obtain ⟨epsilon, percent, novelty, floor, unchecked⟩ := (storable_evolution config).mp storable
  have number {value : Binary64} (finite : value.isfinite = true) : value ≠ .nan := by
    rintro rfl
    exact Bool.false_ne_true finite
  refine ⟨number percent, number novelty, number floor, ⟨number epsilon, fun infinite => ?_⟩,
    unchecked⟩
  rw [infinite] at epsilon
  exact Bool.false_ne_true epsilon

theorem texts_sanitizePopulations (genomeExists : UUID → Bool) (index : ℕ)
    (populations : List PopulationSpec) :
    (∀ population ∈ (sanitizePopulations genomeExists index populations).1,
      population.brainKind.Valid ∧ ∀ variant ∈ population.brainVariant, variant.Valid) ↔
    ∀ population ∈ populations,
      population.brainKind.Valid ∧ ∀ variant ∈ population.brainVariant, variant.Valid := by
  induction populations generalizing index with
  | nil => exact Iff.rfl
  | cons population populations ih =>
      have same : (sanitizePopulation genomeExists index population).1.brainKind =
          population.brainKind ∧
          (sanitizePopulation genomeExists index population).1.brainVariant =
            population.brainVariant := by
        unfold sanitizePopulation
        dsimp only
        split <;> exact ⟨rfl, rfl⟩
      have split : (sanitizePopulations genomeExists index (population :: populations)).1 =
          (sanitizePopulation genomeExists index population).1 ::
            (sanitizePopulations genomeExists (index + 1) populations).1 := rfl
      rw [split, List.forall_mem_cons, List.forall_mem_cons, ih, same.1, same.2]

theorem survives_of_storable (storable : Reflected.Storable settings) :
    Survives settings ∧ Texts settings := by
  obtain ⟨clock, sandbox, raining, brain, -, -, -, training, evolution, -⟩ :=
    (storable_settings settings).mp storable
  obtain ⟨named, texts⟩ := (storable_training _).mp training
  exact ⟨⟨((storable_clock _).mp clock).1, sandbox, raining, brain, named,
    survives_evolution evolution⟩, texts⟩

/-- **Sanitized settings can be stored exactly when those they came from survive.** -/
theorem storable_sanitize {genomeExists : UUID → Bool} {input settings : UserSettings}
    {updates : List String}
    (sanitized : sanitizeUserSettings genomeExists input = .ok (settings, updates)) :
    Reflected.Storable settings ↔ Survives input ∧ Texts input := by
  obtain ⟨_, _, rebuilt⟩ := map_ok.mp sanitized
  obtain ⟨rfl, _⟩ := Prod.mk.inj rebuilt
  rw [storable_settings, storable_clock, storable_training, storable_sanitizeEvolution]
  constructor
  · rintro ⟨⟨clock, -⟩, sandbox, raining, brain, -, -, -, ⟨named, texts⟩, evolution, -⟩
    exact ⟨⟨clock, sandbox, raining, brain, named, evolution⟩,
      (texts_sanitizePopulations genomeExists 0 _).mp texts⟩
  · rintro ⟨⟨clock, sandbox, raining, brain, named, evolution⟩, texts⟩
    refine ⟨⟨clock, named_resetUnless (by decide)⟩, sandbox, raining, brain,
      isfinite_sanitizeFrameDelayMs _, named_resetUnless (by decide), ?_,
      ⟨named, (texts_sanitizePopulations genomeExists 0 _).mpr texts⟩, evolution,
      isfinite_sanitizeSigma _, ?_, named_resetUnless (by decide)⟩
    · exact named_startMenuIdleAction input.startMenuIdleAction
    · exact storable_trainingResumePolicy input.trainingResumePolicy

end

section

/-! ## What a request does -/

variable {genomeExists : UUID → Bool}
variable {updates : List String}

theorem survives_default : Survives {} :=
  (survives_of_storable Reflected.storable_initial).1

theorem load_written {input settings : UserSettings}
    (sanitized : sanitizeUserSettings genomeExists input = .ok (settings, updates))
    (texts : Texts input) :
    loadUserSettingsFromDisk genomeExists (some (Reflected.write settings)) = .ok settings ↔
      Survives input := by
  have storable := storable_sanitize sanitized
  rw [and_iff_left texts] at storable
  have law : Reflected.read "UserSettings" ({} : UserSettings) (Reflected.write settings) =
      .ok settings ↔ Reflected.Storable settings :=
    Reflected.read_write Reflected.blank_initial
  rw [← storable]
  unfold loadUserSettingsFromDisk
  dsimp only
  constructor
  · intro loaded
    cases read : Reflected.read "UserSettings" ({} : UserSettings) (Reflected.write settings) with
    | error reason =>
        rw [read] at loaded
        obtain rfl := Except.ok.inj loaded
        exact Reflected.storable_initial
    | ok parsed =>
        rw [read] at loaded
        obtain ⟨⟨cleaned, changes⟩, again, rfl⟩ := map_ok.mp loaded
        have earlier : Reflected.Storable parsed :=
          Reflected.storable_read Reflected.storable_initial read
        exact (storable_sanitize again).mpr (survives_of_storable earlier)
  · intro holds
    rw [law.mpr holds]
    exact map_ok.mpr ⟨(settings, []), sanitizeUserSettings_idempotent sanitized, rfl⟩

theorem clamp_between {low high value : ℚ} {lowMessage highMessage : String}
    (between : low ≤ value ∧ value ≤ high) :
    clamp (Binary64.finite low) (Binary64.finite high) lowMessage highMessage
        (Binary64.finite value) = (Binary64.finite value, []) := by
  unfold clamp
  rw [if_neg (mt Binary64.lt_finite.mp (not_lt.mpr between.1)),
    if_neg (mt Binary64.lt_finite.mp (not_lt.mpr between.2))]

theorem sanitizeEvolution_default : sanitizeEvolution {} = ({}, []) := by
  have percent {lowMessage highMessage : String} :
      clamp (0 : Binary64) 100 lowMessage highMessage 20.0 = (20.0, []) :=
    clamp_between (by norm_num)
  have novelty {lowMessage highMessage : String} :
      clamp (0 : Binary64) 1 lowMessage highMessage 0.3 = (0.3, []) :=
    clamp_between (by norm_num)
  have floor {lowMessage highMessage : String} :
      clamp (0 : Binary64) 100 lowMessage highMessage 60.0 = (60.0, []) :=
    clamp_between (by norm_num)
  have epsilon {message : String} : clampMin (0 : Binary64) message 0.0 = (0.0, []) :=
    if_neg (mt Binary64.lt_finite.mp (by norm_num))
  unfold sanitizeEvolution
  rw [percent, novelty, floor, epsilon]
  rfl

theorem sanitizeMutation_default : sanitizeMutation {} = ({}, []) := by
  have sigma {lowMessage highMessage : String} :
      clamp (0 : Binary64) 0.3 lowMessage highMessage 0.05 = (0.05, []) :=
    clamp_between (by norm_num)
  have sanitized : sanitizeSigma 0.05 = (0.05, []) := (if_pos rfl).trans sigma
  unfold sanitizeMutation
  rw [sanitized]
  rfl

theorem sanitizeNesSession_default : sanitizeNesSession {} = ({}, []) := by
  have short : ¬ kNtscNesFramePeriodMs ≤ 0.0 := by
    unfold kNtscNesFramePeriodMs
    norm_num
  have delay : sanitizeFrameDelayMs 0.0 = (0.0, []) :=
    (sanitizeFrameDelayMs_finite 0.0).trans ((if_neg (by norm_num)).trans (if_neg short))
  unfold sanitizeNesSession
  rw [delay]

theorem sanitizeUserSettings_default : sanitizeUserSettings genomeExists {} = .ok ({}, []) := by
  unfold sanitizeUserSettings
  rw [sanitizeNesSession_default, sanitizeEvolution_default, sanitizeMutation_default]
  rfl

theorem texts_sanitize {input settings : UserSettings}
    (sanitized : sanitizeUserSettings genomeExists input = .ok (settings, updates)) :
    Texts settings ↔ Texts input := by
  obtain ⟨_, _, rebuilt⟩ := map_ok.mp sanitized
  obtain ⟨rfl, _⟩ := Prod.mk.inj rebuilt
  exact texts_sanitizePopulations genomeExists 0 _

/-- What handling a request comes to. -/
inductive Does (server : StateMachine) (genomeExists : UUID → Bool) (attempt : WriteAttempt)
    (target : UserSettings) (handled : Handled) : Prop
  | refused {reason : String} (answer : handled.answer = .error reason)
      (unchanged : handled.server = server) (unwritten : handled.written = none)
  | accepted {settings : UserSettings} {updates : List String} {okay : Okay}
      (sanitized : sanitizeUserSettings genomeExists target = .ok (settings, updates))
      (texts : Texts target) (completes : attempt = .completes)
      (answer : handled.answer = .ok okay) (kept : handled.server.userSettings = settings)
      (written : handled.written = some settings)

variable {server : StateMachine} {attempt : WriteAttempt} {handled : Handled}

theorem persistAndApply_does {target settings : UserSettings} {touched : Touched}
    {okay : StateMachine → Okay}
    (sanitized : sanitizeUserSettings genomeExists target = .ok (settings, updates))
    (done : server.persistAndApply attempt settings touched okay = .ok handled) :
    Does server genomeExists attempt target handled := by
  obtain ⟨persisted, attempted, rfl⟩ := map_ok.mp done
  unfold persistUserSettingsToDisk at attempted
  split at attempted
  · obtain rfl := Except.ok.inj attempted
    exact .refused rfl rfl rfl
  · split at attempted
    · exact nomatch attempted
    case isFalse texts =>
      obtain rfl := Except.ok.inj attempted
      cases attempt with
      | notOpened => exact .refused rfl rfl rfl
      | notWritten => exact .refused rfl rfl rfl
      | completes =>
          exact .accepted sanitized ((texts_sanitize sanitized).mp (not_not.mp texts)) rfl rfl rfl
            rfl

theorem handleEvent_does {request : Request}
    (done : server.handleEvent genomeExists attempt request = .ok handled) :
    Does server genomeExists attempt (request.target server.userSettings) handled := by
  unfold StateMachine.handleEvent at done
  dsimp only at done
  cases request with
  | nesFrameDelaySet enabled frame_delay_ms =>
      dsimp only at done
      split at done
      · exact nomatch done
      case h_2 settings updates sanitized => exact persistAndApply_does sanitized done
  | userSettingsPatch command =>
      dsimp only at done
      split at done
      · obtain rfl := Except.ok.inj done
        exact .refused rfl rfl rfl
      · split at done
        · exact nomatch done
        case h_2 settings updates sanitized => exact persistAndApply_does sanitized done
  | userSettingsSet settings =>
      dsimp only at done
      split at done
      · exact nomatch done
      case h_2 settings updates sanitized => exact persistAndApply_does sanitized done
  | userSettingsReset => exact persistAndApply_does sanitizeUserSettings_default done

/-! ## Runs -/

namespace Host

variable {host : Host} {event : Event}

theorem after_refused (unwritten : handled.written = none)
    (unchanged : handled.server = host.server) : host.after event handled = host := by
  unfold after
  rw [unwritten, unchanged]

theorem after_accepted (written : handled.written = some settings) :
    host.after event handled =
      { server := handled.server
        file := some (Reflected.write settings)
        lastWritten := some settings
        genomeExists := event.genomeExists } := by
  unfold after
  rw [written]

theorem InStep.after (known : host.InStep) (done : host.handle event = .ok handled) :
    (host.after event handled).InStep := by
  cases handleEvent_does done with
  | refused answer unchanged unwritten =>
      rw [after_refused unwritten unchanged]
      exact known
  | accepted sanitized texts completes answer kept written =>
      rw [after_accepted written]
      rintro settings same
      cases same
      exact ⟨kept, rfl⟩

theorem restarts_accepted {okay : Okay} (done : host.handle event = .ok handled)
    (accepted : handled.answer = .ok okay) :
    (host.after event handled).Restarts ↔ Lasting host event := by
  cases handleEvent_does done with
  | refused answer unchanged unwritten => exact nomatch answer.symm.trans accepted
  | accepted sanitized texts completes answer kept written =>
      rw [after_accepted written]
      unfold Restarts
      rw [kept, load_written sanitized texts]
      exact ⟨fun survives _ => survives, fun lasting => lasting completes⟩

theorem Restarts.after (known : host.Restarts) (done : host.handle event = .ok handled)
    (lasting : Lasting host event) : (host.after event handled).Restarts := by
  cases handleEvent_does done with
  | refused answer unchanged unwritten =>
      rw [after_refused unwritten unchanged]
      exact known
  | accepted sanitized texts completes answer kept written =>
      exact (restarts_accepted done answer).mpr lasting

theorem Restarts.of_starts (starts : Starts host) : host.Restarts := by
  obtain ⟨active, found, loaded, rewritten⟩ := starts
  unfold Restarts
  have defaults {genomeExists : UUID → Bool} :
      loadUserSettingsFromDisk genomeExists (some (Reflected.write ({} : UserSettings))) = .ok {} :=
    (load_written sanitizeUserSettings_default nofun).mpr survives_default
  cases rewritten with
  | false => exact loaded
  | true =>
      rcases found with rfl | ⟨earlier, rfl⟩
      · obtain rfl := Except.ok.inj loaded
        exact defaults
      · unfold loadUserSettingsFromDisk at loaded
        dsimp only at loaded
        cases read :
            Reflected.read "UserSettings" ({} : UserSettings) (Reflected.write earlier) with
        | error reason =>
            rw [read] at loaded
            obtain rfl := Except.ok.inj loaded
            exact defaults
        | ok parsed =>
            rw [read] at loaded
            obtain ⟨⟨settings, updates⟩, sanitized, rfl⟩ := map_ok.mp loaded
            obtain ⟨survives, texts⟩ :=
              survives_of_storable (Reflected.storable_read Reflected.storable_initial read)
            exact (load_written sanitized texts).mpr survives

theorem InStep.of_starts (starts : Starts host) : host.InStep := by
  obtain ⟨active, found, loaded, rewritten⟩ := starts
  intro settings same
  cases rewritten with
  | false => exact absurd same (Option.not_mem_none settings)
  | true => exact ⟨Option.some.inj same, congrArg (some ∘ Reflected.write) (Option.some.inj same)⟩

/-- **In every run the settings in memory are those written last, and a refused request changes
nothing; in a run of requests whose settings survive, a restart gives the same settings.** An
accepted request whose settings do not survive breaks this. -/
theorem reachable_inStep (reachable : machine.Reachable host) :
    host.InStep ∧
      (∀ event handled reason, host.handle event = .ok handled →
        handled.answer = .error reason → host.after event handled = host) ∧
      (∀ event handled okay, host.handle event = .ok handled → handled.answer = .ok okay →
        ((host.after event handled).Restarts ↔ Lasting host event)) ∧
      ((machine.guarded Lasting).Reachable host → host.Restarts) := by
  refine ⟨?_, ?_, fun event handled okay => restarts_accepted, ?_⟩
  · refine reachable.invariant (fun start => InStep.of_starts) ?_
    rintro before event after known ⟨handled, done, rfl⟩
    exact known.after done
  · intro event handled reason done refused
    cases handleEvent_does done with
    | refused answer unchanged unwritten => exact after_refused unwritten unchanged
    | accepted sanitized texts completes answer kept written =>
        exact nomatch answer.symm.trans refused
  · intro careful
    refine careful.invariant (fun start => Restarts.of_starts) ?_
    rintro before event after known ⟨⟨handled, done, rfl⟩, lasting⟩
    exact known.after done lasting

def unwritten : Host where
  server :=
    { userSettings := {}
      nesFrameDelayEnabled := false
      nesFrameDelayMs := 0.0
      active := none }
  file := none
  lastWritten := none
  genomeExists _ := false

theorem starts_unwritten : Starts unwritten := .start none (Or.inl rfl) rfl false

def requestFrom (request : Request) : Event where
  request := request
  genomeExists _ := false
  attempt := .completes

theorem handleEvent_patch {command : UserSettingsPatch.Command} (filled : command.isEmpty = false)
    (sanitized : sanitizeUserSettings genomeExists (command.patch server.userSettings) =
      .ok (settings, updates)) :
    server.handleEvent genomeExists attempt (.userSettingsPatch command) =
      server.persistAndApply attempt settings command.touched fun after =>
        .settings after.userSettings := by
  unfold StateMachine.handleEvent Request.target
  dsimp only
  rw [filled, sanitized]
  rfl

theorem reachable_inStep_volume :
    let event := requestFrom (.userSettingsPatch { volumePercent := some 130 })
    let handled : Handled :=
      { answer := .ok (.settings { volumePercent := 100 })
        server := { unwritten.server with userSettings := { volumePercent := 100 } }
        written := some { volumePercent := 100 } }
    (unwritten.after event handled).InStep ∧ (unwritten.after event handled).Restarts := by
  intro event handled
  have sanitized : sanitizeUserSettings (fun _ => false) { volumePercent := 130 } =
      .ok ({ volumePercent := 100 }, ["volumePercent clamped to 100"]) := by
    unfold sanitizeUserSettings
    rw [sanitizeNesSession_default, sanitizeEvolution_default, sanitizeMutation_default]
    rfl
  have done : unwritten.handle event = .ok handled := (handleEvent_patch rfl sanitized).trans rfl
  have lasting : Lasting unwritten event := fun _ =>
    ⟨survives_default.clock, survives_default.sandbox, survives_default.raining,
      survives_default.treeGermination, survives_default.training, survives_default.evolution⟩
  obtain ⟨inStep, -, -, restarts⟩ := reachable_inStep
    ⟨unwritten, [event], starts_unwritten, .cons ⟨handled, done, rfl⟩ (.nil _)⟩
  exact ⟨inStep, restarts
    ⟨unwritten, [event], starts_unwritten, .cons ⟨⟨handled, done, rfl⟩, lasting⟩ (.nil _)⟩⟩

def cloudy : UserSettings := { sandboxScenarioConfig := { rainRate := .nan } }

/-- A rain rate that is no number is accepted, and resets all settings at the next start. -/
theorem not_reachable_restarts : ¬ ∀ host, machine.Reachable host → host.Restarts := by
  intro always
  let event := requestFrom (.userSettingsPatch
    { sandboxScenarioConfig := some cloudy.sandboxScenarioConfig })
  let handled : Handled :=
    { answer := .ok (.settings cloudy)
      server := { unwritten.server with userSettings := cloudy }
      written := some cloudy }
  have sanitized : sanitizeUserSettings (fun _ => false) cloudy = .ok (cloudy, []) := by
    unfold sanitizeUserSettings cloudy
    rw [sanitizeNesSession_default, sanitizeEvolution_default, sanitizeMutation_default]
    rfl
  have done : unwritten.handle event = .ok handled := (handleEvent_patch rfl sanitized).trans rfl
  have restarts := always (unwritten.after event handled)
    ⟨unwritten, [event], starts_unwritten, .cons ⟨handled, done, rfl⟩ (.nil _)⟩
  have survives : Survives cloudy := (restarts_accepted done rfl).mp restarts rfl
  exact Bool.false_ne_true survives.sandbox

end Host

end

end DirtSim.Server
