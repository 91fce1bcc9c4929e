import DirtSim.Core.Uuid
import DirtSim.Foundation.Json

/-! # User settings

The settings of a user as they are kept in memory, sent by clients and written to disk. A client
can send any byte where an enumeration is meant, and any floating-point number.
-/

namespace DirtSim.Server

open Foundation

section

def clockFonts : Enumerators where
  names := ["DotMatrix", "Montserrat24", "NotoColorEmoji", "Segment7", "Segment7ExtraTall",
    "Segment7Jumbo", "Segment7Large", "Segment7Tall"]
  nodup := by decide
  named := by decide
  nonempty := by decide
  small := by decide

def materials : Enumerators where
  names := ["Air", "Dirt", "Leaf", "Metal", "Root", "Sand", "Seed", "Wall", "Water", "Wood"]
  nodup := by decide
  named := by decide
  nonempty := by decide
  small := by decide

def clockTimezones : Enumerators where
  names := ["Local", "LosAngeles", "Denver", "Chicago", "NewYork", "UTC", "London", "Paris",
    "Tokyo", "Sydney"]
  nodup := by decide
  named := by decide
  nonempty := by decide
  small := by decide

def treeBrainTypes : Enumerators where
  names := ["RULE_BASED", "NEURAL_NET"]
  nodup := by decide
  named := by decide
  nonempty := by decide
  small := by decide

def scenarios : Enumerators where
  names := ["Benchmark", "Clock", "DamBreak", "Empty", "GooseTest", "Lights", "Raining", "Sandbox",
    "TreeGermination", "NesFlappyParatroopa", "NesSuperMarioBros", "NesSuperTiltBro",
    "WaterEqualization"]
  nodup := by decide
  named := by decide
  nonempty := by decide
  small := by decide
  notString _ json := json.typeError "string"
  unknown _ text := "Unknown scenario id: " ++ text

def startMenuIdleActions : Enumerators where
  names := ["ClockScenario", "None", "TrainingSession"]
  nodup := by decide
  named := by decide
  nonempty := by decide
  small := by decide

def organismTypes : Enumerators where
  names := ["DUCK", "GOOSE", "TREE", "NES_DUCK"]
  nodup := by decide
  named := by decide
  nonempty := by decide
  small := by decide

def nesTileDebugViews : Enumerators where
  names := ["NormalVideo", "PatternPixels", "ScreenTokens", "PlayerRelativeTokens", "Comparison"]
  nodup := by decide
  named := by decide
  nonempty := by decide
  small := by decide

abbrev ClockFont := Enumerated clockFonts
abbrev MaterialType := Enumerated materials
abbrev ClockTimezone := Enumerated clockTimezones
abbrev TreeBrainType := Enumerated treeBrainTypes
abbrev ScenarioType := Enumerated scenarios
abbrev StartMenuIdleAction := Enumerated startMenuIdleActions
abbrev OrganismKind := Enumerated organismTypes
abbrev NesTileDebugView := Enumerated nesTileDebugViews

def ClockFont.Segment7Large : ClockFont := ⟨6⟩
def MaterialType.Metal : MaterialType := ⟨3⟩
def ClockTimezone.LosAngeles : ClockTimezone := ⟨1⟩
def TreeBrainType.RULE_BASED : TreeBrainType := ⟨0⟩
def ScenarioType.Clock : ScenarioType := ⟨1⟩
def ScenarioType.Raining : ScenarioType := ⟨6⟩
def ScenarioType.Sandbox : ScenarioType := ⟨7⟩
def ScenarioType.TreeGermination : ScenarioType := ⟨8⟩
def ScenarioType.NesFlappyParatroopa : ScenarioType := ⟨9⟩
def ScenarioType.NesSuperMarioBros : ScenarioType := ⟨10⟩
def ScenarioType.NesSuperTiltBro : ScenarioType := ⟨11⟩
def StartMenuIdleAction.ClockScenario : StartMenuIdleAction := ⟨0⟩
def StartMenuIdleAction.TrainingSession : StartMenuIdleAction := ⟨2⟩
def OrganismKind.TREE : OrganismKind := ⟨2⟩
def OrganismKind.NES_DUCK : OrganismKind := ⟨3⟩
def NesTileDebugView.NormalVideo : NesTileDebugView := ⟨0⟩

/-- Read from any JSON: what is not `Fresh` is `WarmFromBest`. -/
structure TrainingResumePolicy where
  value : UInt8
deriving DecidableEq

namespace TrainingResumePolicy

def Fresh : TrainingResumePolicy := ⟨0⟩
def WarmFromBest : TrainingResumePolicy := ⟨1⟩

instance : Reflected TrainingResumePolicy where
  initial := Fresh
  write policy := .string (if policy = Fresh then "Fresh" else "WarmFromBest")
  read _ _
    | .integer value => .ok (if Int32.ofInt value ≤ 0 then Fresh else WarmFromBest)
    | .string text => .ok (if text = "Fresh" then Fresh else WarmFromBest)
    | _ => .ok WarmFromBest
  Blank _ := True
  Storable policy := policy = Fresh ∨ policy = WarmFromBest
  blank_initial := trivial
  storable_initial := Or.inl rfl
  write_ne_null _ := nofun
  read_write {_ _ policy} _ := by
    dsimp only
    by_cases fresh : policy = Fresh
    · rw [if_pos fresh, if_pos rfl, fresh]
      exact iff_of_true rfl (Or.inl rfl)
    · rw [if_neg fresh, if_neg (by decide), or_iff_right fresh, Except.ok.injEq]
      exact eq_comm
  storable_read {_ _ policy json} _ read := by
    cases json with
    | integer value =>
        obtain rfl := Except.ok.inj read
        split
        · exact Or.inl rfl
        · exact Or.inr rfl
    | string text =>
        obtain rfl := Except.ok.inj read
        split
        · exact Or.inl rfl
        · exact Or.inr rfl
    | _ => exact Or.inr (Except.ok.inj read).symm

end TrainingResumePolicy

instance : Reflected UUID where
  initial := .nil
  write uuid := .string (String.ofList uuid.toString)
  read _ _
    | .string text =>
        match UUID.fromString text.toList with
        | some uuid => .ok uuid
        | none => .error "Invalid UUID string"
    | json => .error (json.typeError "string")
  Blank _ := True
  Storable _ := True
  blank_initial := trivial
  storable_initial := trivial
  write_ne_null _ := nofun
  read_write {_ _ uuid} _ := by
    dsimp only
    rw [String.toList_ofList, UUID.fromString_toString]
    exact iff_of_true rfl trivial
  storable_read _ _ := trivial

end

section

structure GlowConfig where
  digitColor : UInt32 := 0
  digitIntensity : Binary64 := 3.0
  floorIntensity : Binary64 := 1.0
  obstacleIntensity : Binary64 := 2.0
  wallIntensity : Binary64 := 1.0
  waterIntensity : Binary64 := 1.0
deriving DecidableEq

def GlowConfig.layout :
    Layout GlowConfig (UInt32 × Binary64 × Binary64 × Binary64 × Binary64 × Binary64 × Unit) where
  names := ["digitColor", "digitIntensity", "floorIntensity", "obstacleIntensity", "wallIntensity",
    "waterIntensity"]
  nodup := by decide
  complete := rfl
  members :=
    { toFun config := (config.digitColor, config.digitIntensity, config.floorIntensity,
        config.obstacleIntensity, config.wallIntensity, config.waterIntensity, ())
      invFun := fun (a, b, c, d, e, f, ()) => ⟨a, b, c, d, e, f⟩
      left_inv _ := rfl
      right_inv _ := rfl }
  initial := {}
  blank := ⟨trivial, trivial, trivial, trivial, trivial, trivial, trivial⟩
  storable := ⟨trivial, rfl, rfl, rfl, rfl, rfl, trivial⟩

instance : Reflected GlowConfig := GlowConfig.layout.reflected

structure Config.Clock where
  autoScale : Bool := true
  colorCycleEnabled : Bool := true
  colorShowcaseEnabled : Bool := true
  digitSlideEnabled : Bool := true
  duckEnabled : Bool := true
  marqueeEnabled : Bool := true
  meltdownEnabled : Bool := true
  obstacleCourseEnabled : Bool := false
  rainEnabled : Bool := true
  showSeconds : Bool := false
  font : ClockFont := ClockFont.Segment7Large
  colorsPerSecond : Binary64 := 4.0
  eventFrequency : Binary64 := 0.5
  horizontalScale : Binary64 := 1.1
  verticalScale : Binary64 := 2.0
  glowConfig : GlowConfig := {}
  digitMaterial : MaterialType := MaterialType.Metal
  marginPixels : UInt32 := 20
  targetDisplayHeight : UInt32 := 480
  targetDisplayWidth : UInt32 := 752
  targetDigitHeightPercent : UInt8 := 0
  timezone : ClockTimezone := ClockTimezone.LosAngeles
deriving DecidableEq

def Config.Clock.layout :
    Layout Config.Clock (Bool × Bool × Bool × Bool × Bool × Bool × Bool × Bool × Bool × Bool ×
      ClockFont × Binary64 × Binary64 × Binary64 × Binary64 × GlowConfig × MaterialType × UInt32 ×
      UInt32 × UInt32 × UInt8 × ClockTimezone × Unit) where
  names := ["autoScale", "colorCycleEnabled", "colorShowcaseEnabled", "digitSlideEnabled",
    "duckEnabled", "marqueeEnabled", "meltdownEnabled", "obstacleCourseEnabled", "rainEnabled",
    "showSeconds", "font", "colorsPerSecond", "eventFrequency", "horizontalScale", "verticalScale",
    "glowConfig", "digitMaterial", "marginPixels", "targetDisplayHeight", "targetDisplayWidth",
    "targetDigitHeightPercent", "timezone"]
  nodup := by decide
  complete := rfl
  members :=
    { toFun value := (value.autoScale, value.colorCycleEnabled, value.colorShowcaseEnabled,
        value.digitSlideEnabled, value.duckEnabled, value.marqueeEnabled, value.meltdownEnabled,
        value.obstacleCourseEnabled, value.rainEnabled, value.showSeconds, value.font,
        value.colorsPerSecond, value.eventFrequency, value.horizontalScale, value.verticalScale,
        value.glowConfig, value.digitMaterial, value.marginPixels, value.targetDisplayHeight,
        value.targetDisplayWidth, value.targetDigitHeightPercent, value.timezone, ())
      invFun := fun (a, b, c, d, e, f, g, h, i, j, k, l, m, n, o, p, q, r, s, t, u, v, ()) =>
        ⟨a, b, c, d, e, f, g, h, i, j, k, l, m, n, o, p, q, r, s, t, u, v⟩
      left_inv _ := rfl
      right_inv _ := rfl }
  initial := {}
  blank := ⟨trivial, trivial, trivial, trivial, trivial, trivial, trivial, trivial, trivial,
    trivial, trivial, trivial, trivial, trivial, trivial, Reflected.blank_initial, trivial, trivial,
    trivial, trivial, trivial, trivial, trivial⟩
  storable := ⟨trivial, trivial, trivial, trivial, trivial, trivial, trivial, trivial, trivial,
    trivial, Nat.le_of_ble_eq_true rfl, rfl, rfl, rfl, rfl, Reflected.storable_initial,
    Nat.le_of_ble_eq_true rfl, trivial, trivial, trivial, trivial, Nat.le_of_ble_eq_true rfl,
    trivial⟩

instance : Reflected Config.Clock := Config.Clock.layout.reflected

structure Config.Sandbox where
  quadrantEnabled : Bool := true
  waterColumnEnabled : Bool := true
  rightThrowEnabled : Bool := true
  rainRate : Binary64 := 0.0
deriving DecidableEq

def Config.Sandbox.layout :
    Layout Config.Sandbox (Bool × Bool × Bool × Binary64 × Unit) where
  names := ["quadrantEnabled", "waterColumnEnabled", "rightThrowEnabled", "rainRate"]
  nodup := by decide
  complete := rfl
  members :=
    { toFun value := (value.quadrantEnabled, value.waterColumnEnabled, value.rightThrowEnabled,
        value.rainRate, ())
      invFun := fun (a, b, c, d, ()) =>
        ⟨a, b, c, d⟩
      left_inv _ := rfl
      right_inv _ := rfl }
  initial := {}
  blank := ⟨trivial, trivial, trivial, trivial, trivial⟩
  storable := ⟨trivial, trivial, trivial, rfl, trivial⟩

instance : Reflected Config.Sandbox := Config.Sandbox.layout.reflected

structure Config.Raining where
  rainRate : Binary64 := 5.0
  drainSize : Binary64 := 0.0
  maxFillPercent : Binary64 := 0.0
deriving DecidableEq

def Config.Raining.layout :
    Layout Config.Raining (Binary64 × Binary64 × Binary64 × Unit) where
  names := ["rainRate", "drainSize", "maxFillPercent"]
  nodup := by decide
  complete := rfl
  members :=
    { toFun value := (value.rainRate, value.drainSize, value.maxFillPercent, ())
      invFun := fun (a, b, c, ()) =>
        ⟨a, b, c⟩
      left_inv _ := rfl
      right_inv _ := rfl }
  initial := {}
  blank := ⟨trivial, trivial, trivial, trivial⟩
  storable := ⟨rfl, rfl, rfl, trivial⟩

instance : Reflected Config.Raining := Config.Raining.layout.reflected

structure Config.TreeGermination where
  brain_type : TreeBrainType := TreeBrainType.RULE_BASED
  neural_seed : UInt32 := 42
  genome_id : UUID := .nil
deriving DecidableEq

def Config.TreeGermination.layout :
    Layout Config.TreeGermination (TreeBrainType × UInt32 × UUID × Unit) where
  names := ["brain_type", "neural_seed", "genome_id"]
  nodup := by decide
  complete := rfl
  members :=
    { toFun value := (value.brain_type, value.neural_seed, value.genome_id, ())
      invFun := fun (a, b, c, ()) =>
        ⟨a, b, c⟩
      left_inv _ := rfl
      right_inv _ := rfl }
  initial := {}
  blank := ⟨trivial, trivial, trivial, trivial⟩
  storable := ⟨Nat.le_of_ble_eq_true rfl, trivial, trivial, trivial⟩

instance : Reflected Config.TreeGermination := Config.TreeGermination.layout.reflected

structure NesSessionSettings where
  frameDelayEnabled : Bool := false
  frameDelayMs : Binary64 := 0.0
deriving DecidableEq

def NesSessionSettings.layout :
    Layout NesSessionSettings (Bool × Binary64 × Unit) where
  names := ["frameDelayEnabled", "frameDelayMs"]
  nodup := by decide
  complete := rfl
  members :=
    { toFun value := (value.frameDelayEnabled, value.frameDelayMs, ())
      invFun := fun (a, b, ()) =>
        ⟨a, b⟩
      left_inv _ := rfl
      right_inv _ := rfl }
  initial := {}
  blank := ⟨trivial, trivial, trivial⟩
  storable := ⟨trivial, rfl, trivial⟩

instance : Reflected NesSessionSettings := NesSessionSettings.layout.reflected

structure SearchSettings where
  maxSearchedNodeCount : UInt32 := 5000
  stallFrameLimit : UInt32 := 30
  planPlaybackFrameDelayMs : UInt32 := 0
  velocityPruningEnabled : Bool := true
  belowScreenPruningEnabled : Bool := true
  groundedVerticalJumpPrioritizationEnabled : Bool := true
deriving DecidableEq

def SearchSettings.layout :
    Layout SearchSettings (UInt32 × UInt32 × UInt32 × Bool × Bool × Bool × Unit) where
  names := ["maxSearchedNodeCount", "stallFrameLimit", "planPlaybackFrameDelayMs",
    "velocityPruningEnabled", "belowScreenPruningEnabled",
    "groundedVerticalJumpPrioritizationEnabled"]
  nodup := by decide
  complete := rfl
  members :=
    { toFun value := (value.maxSearchedNodeCount, value.stallFrameLimit,
        value.planPlaybackFrameDelayMs, value.velocityPruningEnabled,
        value.belowScreenPruningEnabled, value.groundedVerticalJumpPrioritizationEnabled, ())
      invFun := fun (a, b, c, d, e, f, ()) =>
        ⟨a, b, c, d, e, f⟩
      left_inv _ := rfl
      right_inv _ := rfl }
  initial := {}
  blank := ⟨trivial, trivial, trivial, trivial, trivial, trivial, trivial⟩
  storable := ⟨trivial, trivial, trivial, trivial, trivial, trivial, trivial⟩

instance : Reflected SearchSettings := SearchSettings.layout.reflected

structure PopulationSpec where
  brainKind : Text := ⟨[]⟩
  brainVariant : Option Text := none
  count : Int32 := 0
  seedGenomes : List UUID := []
  randomCount : Int32 := 0
deriving DecidableEq

def PopulationSpec.layout :
    Layout PopulationSpec (Text × Option Text × Int32 × List UUID × Int32 × Unit) where
  names := ["brainKind", "brainVariant", "count", "seedGenomes", "randomCount"]
  nodup := by decide
  complete := rfl
  members :=
    { toFun value := (value.brainKind, value.brainVariant, value.count, value.seedGenomes,
        value.randomCount, ())
      invFun := fun (a, b, c, d, e, ()) =>
        ⟨a, b, c, d, e⟩
      left_inv _ := rfl
      right_inv _ := rfl }
  initial := {}
  blank := ⟨trivial, rfl, trivial, trivial, trivial, trivial⟩
  storable := ⟨Text.valid_empty, nofun, trivial, fun _ member => absurd member List.not_mem_nil,
    trivial, trivial⟩

instance : Reflected PopulationSpec := PopulationSpec.layout.reflected

structure TrainingSpec where
  scenarioId : ScenarioType := ScenarioType.TreeGermination
  organismType : OrganismKind := OrganismKind.TREE
  population : List PopulationSpec := []
deriving DecidableEq

def TrainingSpec.layout :
    Layout TrainingSpec (ScenarioType × OrganismKind × List PopulationSpec × Unit) where
  names := ["scenarioId", "organismType", "population"]
  nodup := by decide
  complete := rfl
  members :=
    { toFun value := (value.scenarioId, value.organismType, value.population, ())
      invFun := fun (a, b, c, ()) =>
        ⟨a, b, c⟩
      left_inv _ := rfl
      right_inv _ := rfl }
  initial := {}
  blank := ⟨trivial, trivial, trivial, trivial⟩
  storable := ⟨Nat.le_of_ble_eq_true rfl, Nat.le_of_ble_eq_true rfl,
    fun _ member => absurd member List.not_mem_nil, trivial⟩

instance : Reflected TrainingSpec := TrainingSpec.layout.reflected

structure EvolutionConfig where
  populationSize : Int32 := 50
  tournamentSize : Int32 := 3
  maxGenerations : Int32 := 1
  maxParallelEvaluations : Int32 := 0
  targetCpuPercent : Int32 := 0
  genomeArchiveMaxSize : Int32 := 1000
  diversityEliteCount : Int32 := 1
  diversityEliteFitnessEpsilon : Binary64 := 0.0
  robustFitnessEvaluationCount : Int32 := 3
  warmStartSeedCount : Int32 := 3
  warmStartSeedPercent : Binary64 := 20.0
  warmStartMinRobustEvalCount : Int32 := 2
  warmStartAlwaysIncludeBest : Bool := true
  warmStartNoveltyWeight : Binary64 := 0.3
  warmStartFitnessFloorPercentile : Binary64 := 60.0
  stagnationImprovementEpsilon : Binary64 := 0.001
  stagnationWindowGenerations : Int32 := 5
  recoveryWindowGenerations : Int32 := 3
  maxSimulationTime : Binary64 := 1000.0
  energyReference : Binary64 := 100.0
  waterReference : Binary64 := 100.0
deriving DecidableEq

def EvolutionConfig.layout :
    Layout EvolutionConfig (Int32 × Int32 × Int32 × Int32 × Int32 × Int32 × Int32 × Binary64 ×
      Int32 × Int32 × Binary64 × Int32 × Bool × Binary64 × Binary64 × Binary64 × Int32 × Int32 ×
      Binary64 × Binary64 × Binary64 × Unit) where
  names := ["populationSize", "tournamentSize", "maxGenerations", "maxParallelEvaluations",
    "targetCpuPercent", "genomeArchiveMaxSize", "diversityEliteCount",
    "diversityEliteFitnessEpsilon", "robustFitnessEvaluationCount", "warmStartSeedCount",
    "warmStartSeedPercent", "warmStartMinRobustEvalCount", "warmStartAlwaysIncludeBest",
    "warmStartNoveltyWeight", "warmStartFitnessFloorPercentile", "stagnationImprovementEpsilon",
    "stagnationWindowGenerations", "recoveryWindowGenerations", "maxSimulationTime",
    "energyReference", "waterReference"]
  nodup := by decide
  complete := rfl
  members :=
    { toFun value := (value.populationSize, value.tournamentSize, value.maxGenerations,
        value.maxParallelEvaluations, value.targetCpuPercent, value.genomeArchiveMaxSize,
        value.diversityEliteCount, value.diversityEliteFitnessEpsilon,
        value.robustFitnessEvaluationCount, value.warmStartSeedCount, value.warmStartSeedPercent,
        value.warmStartMinRobustEvalCount, value.warmStartAlwaysIncludeBest,
        value.warmStartNoveltyWeight, value.warmStartFitnessFloorPercentile,
        value.stagnationImprovementEpsilon, value.stagnationWindowGenerations,
        value.recoveryWindowGenerations, value.maxSimulationTime, value.energyReference,
        value.waterReference, ())
      invFun := fun (a, b, c, d, e, f, g, h, i, j, k, l, m, n, o, p, q, r, s, t, u, ()) =>
        ⟨a, b, c, d, e, f, g, h, i, j, k, l, m, n, o, p, q, r, s, t, u⟩
      left_inv _ := rfl
      right_inv _ := rfl }
  initial := {}
  blank := ⟨trivial, trivial, trivial, trivial, trivial, trivial, trivial, trivial, trivial,
    trivial, trivial, trivial, trivial, trivial, trivial, trivial, trivial, trivial, trivial,
    trivial, trivial, trivial⟩
  storable := ⟨trivial, trivial, trivial, trivial, trivial, trivial, trivial, rfl, trivial, trivial,
    rfl, trivial, trivial, rfl, rfl, rfl, trivial, trivial, rfl, rfl, rfl, trivial⟩

instance : Reflected EvolutionConfig := EvolutionConfig.layout.reflected

structure MutationConfig where
  perturbationsPerOffspring : Int32 := 200
  resetsPerOffspring : Int32 := 1
  sigma : Binary64 := 0.05
deriving DecidableEq

def MutationConfig.layout :
    Layout MutationConfig (Int32 × Int32 × Binary64 × Unit) where
  names := ["perturbationsPerOffspring", "resetsPerOffspring", "sigma"]
  nodup := by decide
  complete := rfl
  members :=
    { toFun value := (value.perturbationsPerOffspring, value.resetsPerOffspring, value.sigma, ())
      invFun := fun (a, b, c, ()) =>
        ⟨a, b, c⟩
      left_inv _ := rfl
      right_inv _ := rfl }
  initial := {}
  blank := ⟨trivial, trivial, trivial, trivial⟩
  storable := ⟨trivial, trivial, rfl, trivial⟩

instance : Reflected MutationConfig := MutationConfig.layout.reflected

structure UiTrainingConfig where
  streamIntervalMs : Int32 := 16
  bestPlaybackEnabled : Bool := false
  bestPlaybackIntervalMs : Int32 := 16
  nesControllerOverlayEnabled : Option Bool := none
  nesTileDebugView : NesTileDebugView := NesTileDebugView.NormalVideo
deriving DecidableEq

def UiTrainingConfig.layout :
    Layout UiTrainingConfig (Int32 × Bool × Int32 × Option Bool × NesTileDebugView × Unit) where
  names := ["streamIntervalMs", "bestPlaybackEnabled", "bestPlaybackIntervalMs",
    "nesControllerOverlayEnabled", "nesTileDebugView"]
  nodup := by decide
  complete := rfl
  members :=
    { toFun value := (value.streamIntervalMs, value.bestPlaybackEnabled,
        value.bestPlaybackIntervalMs, value.nesControllerOverlayEnabled, value.nesTileDebugView, ())
      invFun := fun (a, b, c, d, e, ()) =>
        ⟨a, b, c, d, e⟩
      left_inv _ := rfl
      right_inv _ := rfl }
  initial := {}
  blank := ⟨trivial, trivial, trivial, rfl, trivial, trivial⟩
  storable := ⟨trivial, trivial, trivial, nofun, Nat.le_of_ble_eq_true rfl, trivial⟩

instance : Reflected UiTrainingConfig := UiTrainingConfig.layout.reflected

structure UserSettings where
  clockScenarioConfig : Config.Clock := {}
  sandboxScenarioConfig : Config.Sandbox := {}
  rainingScenarioConfig : Config.Raining := {}
  treeGerminationScenarioConfig : Config.TreeGermination := {}
  nesSessionSettings : NesSessionSettings := {}
  searchSettings : SearchSettings := {}
  volumePercent : Int32 := 20
  defaultScenario : ScenarioType := ScenarioType.Sandbox
  startMenuIdleAction : StartMenuIdleAction := StartMenuIdleAction.ClockScenario
  startMenuIdleTimeoutMs : Int32 := 60000
  trainingSpec : TrainingSpec := {}
  evolutionConfig : EvolutionConfig := {}
  mutationConfig : MutationConfig := {}
  trainingResumePolicy : TrainingResumePolicy := TrainingResumePolicy.WarmFromBest
  uiTraining : UiTrainingConfig := {}
  networkLiveScanPreferred : Bool := false
deriving DecidableEq

def UserSettings.layout :
    Layout UserSettings (Config.Clock × Config.Sandbox × Config.Raining × Config.TreeGermination ×
      NesSessionSettings × SearchSettings × Int32 × ScenarioType × StartMenuIdleAction × Int32 ×
      TrainingSpec × EvolutionConfig × MutationConfig × TrainingResumePolicy × UiTrainingConfig ×
      Bool × Unit) where
  names := ["clockScenarioConfig", "sandboxScenarioConfig", "rainingScenarioConfig",
    "treeGerminationScenarioConfig", "nesSessionSettings", "searchSettings", "volumePercent",
    "defaultScenario", "startMenuIdleAction", "startMenuIdleTimeoutMs", "trainingSpec",
    "evolutionConfig", "mutationConfig", "trainingResumePolicy", "uiTraining",
    "networkLiveScanPreferred"]
  nodup := by decide
  complete := rfl
  members :=
    { toFun value := (value.clockScenarioConfig, value.sandboxScenarioConfig,
        value.rainingScenarioConfig, value.treeGerminationScenarioConfig, value.nesSessionSettings,
        value.searchSettings, value.volumePercent, value.defaultScenario, value.startMenuIdleAction,
        value.startMenuIdleTimeoutMs, value.trainingSpec, value.evolutionConfig,
        value.mutationConfig, value.trainingResumePolicy, value.uiTraining,
        value.networkLiveScanPreferred, ())
      invFun := fun (a, b, c, d, e, f, g, h, i, j, k, l, m, n, o, p, ()) =>
        ⟨a, b, c, d, e, f, g, h, i, j, k, l, m, n, o, p⟩
      left_inv _ := rfl
      right_inv _ := rfl }
  initial := {}
  blank := ⟨Reflected.blank_initial, Reflected.blank_initial, Reflected.blank_initial,
    Reflected.blank_initial, Reflected.blank_initial, Reflected.blank_initial, trivial, trivial,
    trivial, trivial, Reflected.blank_initial, Reflected.blank_initial, Reflected.blank_initial,
    trivial, Reflected.blank_initial, trivial, trivial⟩
  storable := ⟨Reflected.storable_initial, Reflected.storable_initial, Reflected.storable_initial,
    Reflected.storable_initial, Reflected.storable_initial, Reflected.storable_initial, trivial,
    Nat.le_of_ble_eq_true rfl, Nat.le_of_ble_eq_true rfl, trivial, Reflected.storable_initial,
    Reflected.storable_initial, Reflected.storable_initial, Or.inr rfl, Reflected.storable_initial,
    trivial, trivial⟩

instance : Reflected UserSettings := UserSettings.layout.reflected

end

end DirtSim.Server
