import DirtSim.Evolution.Deduplication

/-! # The state of a training run

A run evaluates a population, one result after another in the order in which the workers finish,
validates the candidate that beat the best fitness, and promotes it into the repository. What the
run reads from outside is an argument (`StoreEnvironment`). Telemetry, snapshots and broadcasts are
left out.
-/

namespace DirtSim

open Foundation Double

/-- The arithmetic and the limits that fitness values are compared with. -/
class FitnessArithmetic (F : Type) extends Double F where
  one : F
  lowest : F
  abs : F → F
  sub : F → F → F
  mul : F → F → F
  bestFitnessTieRelativeEpsilon : F

instance : FitnessArithmetic ℚ where
  one := 1
  lowest := -(2 ^ 1024 - 2 ^ 971)
  abs value := |value|
  sub first second := first - second
  mul first second := first * second
  bestFitnessTieRelativeEpsilon := 1 / 10 ^ 12

/-- Numbers are compared in a strict order, in which any two above a third are comparable; what
is no number compares with nothing. -/
class LawfulComparison (F : Type) [Double F] : Prop where
  irrefl : ∀ value : F, less value value = false
  trans : ∀ first second third : F, less first second = true → less second third = true →
    less first third = true
  connected : ∀ floor first second : F, less floor first = true → less floor second = true →
    less first second = true ∨ equal first second = true ∨ less second first = true

instance : LawfulComparison ℚ where
  irrefl value := decide_eq_false (lt_irrefl value)
  trans _ _ _ first second :=
    decide_eq_true (lt_trans (of_decide_eq_true first) (of_decide_eq_true second))
  connected _ first second _ _ := by
    rcases lt_trichotomy first second with below | same | above
    · exact Or.inl (decide_eq_true below)
    · exact Or.inr (Or.inl (decide_eq_true same))
    · exact Or.inr (Or.inr (decide_eq_true above))

theorem LawfulComparison.asymm {F : Type} [Double F] [LawfulComparison F] {first second : F}
    (below : less first second = true) : less second first = false := by
  cases above : less second first with
  | false => rfl
  | true =>
      have itself := LawfulComparison.trans first second first below above
      rw [LawfulComparison.irrefl] at itself
      cases itself

def text (characters : String) : ByteString := characters.toUTF8.toList

inductive EvaluationTaskType
  | generationEval | robustnessEval
deriving DecidableEq, Repr

/-- A finished evaluation, as far as the run reads it. -/
structure CompletedEvaluation (F : Type) where
  taskType : EvaluationTaskType
  index : ℤ
  robustGeneration : ℤ := -1
  robustSampleOrdinal : ℤ := 0
  totalFitness : F
deriving DecidableEq, Repr

/-- One entry of the population wanted at the start. -/
structure PopulationSpec where
  brainKind : ByteString
  brainVariant : Option ByteString := none
  count : ℕ := 0
  seedGenomes : List GenomeId := []
  randomCount : ℕ := 0

structure TrainingSpec where
  scenarioId : ScenarioId
  organismType : OrganismType
  population : List PopulationSpec

structure EvolutionConfig where
  maxGenerations : ℤ := 1
  genomeArchiveMaxSize : ℤ := 1000
  robustFitnessEvaluationCount : ℤ := 3

structure BrainRegistryEntry where
  requiresGenome : Bool
  allowsMutation : Bool

/-- What stays as it is for a whole run. -/
structure TrainingSetup where
  evolutionConfig : EvolutionConfig
  trainingSpec : TrainingSpec
  brainRegistry : OrganismType → ByteString → ByteString → Option BrainRegistryEntry
  genomePoolId : GenomePoolId
  trainingSessionId : UUID
  nesTileBrainCompatibility : Option NesTileBrainCompatibilityMetadata := none

/-- An order in which a hash map presents its entries. -/
structure Presentation (F : Type) where
  reorder : Dict GenomeId (GenomeMetadata F) → Dict GenomeId (GenomeMetadata F)
  same : ∀ metadata : Dict GenomeId (GenomeMetadata F), metadata.SameEntries (reorder metadata)

/-- What storing a genome reads from outside. -/
structure StoreEnvironment (F : Type) where
  draws : List Draw
  now : UInt64
  presentation : Presentation F

/-- A result may promote a genome and then store a checkpoint. -/
structure ResultEnvironment (F : Type) where
  promotion : StoreEnvironment F
  checkpoint : StoreEnvironment F

structure Evolution.Individual (F : Type) where
  brainKind : ByteString
  brainVariant : Option ByteString := none
  scenarioId : ScenarioId
  genome : Option Genome := none
  allowsMutation : Bool := false
  parentFitness : Option F := none

inductive Evolution.IndividualOrigin
  | unknown | seed | eliteCarryover | offspringMutated | offspringClone
deriving DecidableEq, Repr

/-- The survivors and the offspring of a generation; breeding never leaves nobody. -/
structure Evolution.Bred (F : Type) where
  members : List (Evolution.Individual F × Evolution.IndividualOrigin)
  nonempty : members ≠ []

/-- The genome that may become the best of its generation. -/
structure Evolution.PendingBestState (F : Type) where
  robustness : Bool
  robustnessGeneration : ℤ
  robustnessIndex : ℤ
  robustnessFirstSample : F

/-- The validation of a candidate by further samples. -/
structure Evolution.RobustnessPassState (F : Type) where
  active : Bool := false
  generation : ℤ := -1
  index : ℤ := -1
  targetEvalCount : ℤ := 0
  pendingSamples : ℤ := 0
  completedSamples : ℤ := 0
  samples : List F := []

structure EvaluationRequest where
  taskType : EvaluationTaskType
  index : ℤ
  robustGeneration : ℤ := -1
  robustSampleOrdinal : ℤ := 0
deriving DecidableEq, Repr

/-- What a step hands to the evaluation executor. -/
inductive Submission
  | generationBatch (requests : List EvaluationRequest)
  | robustnessPass (request : EvaluationRequest) (targetEvalCount : ℤ)

structure Evolution (F : Type) where
  population : List (Evolution.Individual F)
  populationOrigins : List Evolution.IndividualOrigin
  fitnessScores : List F
  generation : ℤ := 0
  currentEval : ℕ := 0
  bestFitnessThisGen : F
  bestThisGenOrigin : Evolution.IndividualOrigin := .unknown
  bestFitnessAllTime : F
  bestGenomeId : GenomeId := invalidGenomeId
  robustEvaluationCount : ℕ := 0
  completedEvaluations : ℕ := 0
  pendingBest : Evolution.PendingBestState F
  robustnessPass : Evolution.RobustnessPassState F := {}
  trainingComplete : Bool := false
  repository : GenomeRepository F
  /-- The genomes promoted so far with their fitness, a history that no step reads. -/
  promotions : List (Genome × F) := []

namespace Evolution

variable {F : Type} [FitnessArithmetic F]

open FitnessArithmetic

def saveInterval : ℤ := 10

def fitnessTiesBest (fitness bestFitness : F) : Bool :=
  if equal fitness bestFitness then true
  else
    let distance := abs (sub fitness bestFitness)
    let tolerance := mul bestFitnessTieRelativeEpsilon (larger one (abs bestFitness))
    less distance tolerance || equal distance tolerance

def resolveRobustnessPassSampleCount (configuredCount : ℤ) : ℤ :=
  if configuredCount ≤ 0 then 0 else configuredCount

namespace PendingBestState

def cleared : PendingBestState F where
  robustness := false
  robustnessGeneration := -1
  robustnessIndex := -1
  robustnessFirstSample := zero

end PendingBestState

def InRange (state : Evolution F) (index : ℤ) : Prop :=
  0 ≤ index ∧ index < state.population.length

instance (state : Evolution F) (index : ℤ) : Decidable (state.InRange index) :=
  inferInstanceAs (Decidable (_ ∧ _))

def individualAt (state : Evolution F) (index : ℤ) : Option (Individual F) :=
  if state.InRange index then state.population[index.toNat]? else none

/-- The individual at an index together with its genome, if it has one. -/
def carrierAt (state : Evolution F) (index : ℤ) : Option (Individual F × Genome) :=
  (state.individualAt index).bind fun individual =>
    individual.genome.map fun genome => (individual, genome)

def originAt (state : Evolution F) (index : ℤ) : IndividualOrigin :=
  if 0 ≤ index then state.populationOrigins[index.toNat]?.getD .unknown else .unknown

section

def brainCompatibilityMetadataForIndividual (setup : TrainingSetup) (individual : Individual F) :
    Option NesTileBrainCompatibilityMetadata :=
  if individual.brainKind = text "NesTileRecurrent" then setup.nesTileBrainCompatibility else none

def managedMetadata (setup : TrainingSetup) (now : UInt64) (individual : Individual F)
    (name : ByteString) (scenarioId : ScenarioId) (generation : ℤ) (fitness robustFitness : F)
    (robustEvalCount : ℤ) (robustFitnessSamples : List F) : GenomeMetadata F where
  name := name
  fitness := fitness
  robustFitness := robustFitness
  robustEvalCount := robustEvalCount
  robustFitnessSamples := robustFitnessSamples
  generation := generation
  createdTimestamp := now
  scenarioId := scenarioId
  notes := []
  organismType := some setup.trainingSpec.organismType
  brainKind := some individual.brainKind
  brainVariant := individual.brainVariant
  trainingSessionId := some setup.trainingSessionId
  genomePoolId := setup.genomePoolId
  nesTileBrainCompatibility := brainCompatibilityMetadataForIndividual setup individual

def storeManagedGenome (environment : StoreEnvironment F) (repository : GenomeRepository F)
    (genome : Genome) (metadata : GenomeMetadata F) (archiveMaxSize : ℤ) :
    Option (GenomeRepository F × StoreByHashResult) :=
  (repository.storeOrUpdateByHash genome metadata none environment.draws).bind fun stored =>
    if archiveMaxSize > 0 then
      ((stored.1.presenting
          (environment.presentation.reorder stored.1.metadata)).pruneManagedByFitness
        archiveMaxSize.toNat).map fun pruned => (pruned.1, stored.2)
    else some stored

/-- The fittest individual with a genome, the first of equals. -/
def fittestCarrier (scored : List (Individual F × F)) : Option (Individual F × Genome × F) :=
  scored.foldl
    (fun best entry => match entry.1.genome, best with
      | none, best => best
      | some genome, none => some (entry.1, genome, entry.2)
      | some genome, some (_, _, bestFit) =>
          if less bestFit entry.2 then some (entry.1, genome, entry.2) else best) none

def checkpointMetadata (setup : TrainingSetup) (now : UInt64) (state : Evolution F)
    (individual : Individual F) (bestFit : F) : GenomeMetadata F :=
  managedMetadata setup now individual (text ("checkpoint_gen_" ++ toString state.generation))
    setup.trainingSpec.scenarioId state.generation bestFit zero 0 []

/-- Stores a checkpoint of the current population and takes over the repository's best. -/
def storeBestGenome (setup : TrainingSetup) (environment : StoreEnvironment F)
    (state : Evolution F) : Option (Evolution F) :=
  match fittestCarrier (state.population.zip state.fitnessScores) with
  | none => some state
  | some (individual, genome, bestFit) =>
      (storeManagedGenome environment state.repository genome
        (checkpointMetadata setup environment.now state individual bestFit)
        setup.evolutionConfig.genomeArchiveMaxSize).map fun stored =>
          { state with
            repository := stored.1
            bestGenomeId := stored.1.bestId.getD invalidGenomeId }

end

section

/-- Takes down the score of an evaluated individual. -/
def recordScore (state : Evolution F) (result : CompletedEvaluation F) : Evolution F :=
  { state with
    fitnessScores := state.fitnessScores.set result.index.toNat result.totalFitness
    completedEvaluations := state.completedEvaluations + 1
    currentEval := state.currentEval + 1 }

/-- An individual without a genome may be the best of its generation at once. -/
def recordGenerationBest (state : Evolution F) (individual : Individual F)
    (result : CompletedEvaluation F) : Evolution F :=
  if individual.genome.isNone ∧
      (state.currentEval = 1 ∨ less state.bestFitnessThisGen result.totalFitness = true) then
    { state with
      bestFitnessThisGen := result.totalFitness
      bestThisGenOrigin := state.originAt result.index }
  else state

/-- A result replaces the candidate unless a better one of this generation is there. -/
def ReplacesCandidate (state : Evolution F) (result : CompletedEvaluation F) : Prop :=
  state.pendingBest.robustness = false ∨
    state.pendingBest.robustnessGeneration ≠ state.generation ∨
    less state.pendingBest.robustnessFirstSample result.totalFitness = true

instance (state : Evolution F) (result : CompletedEvaluation F) :
    Decidable (state.ReplacesCandidate result) := inferInstanceAs (Decidable (_ ∨ _))

/-- Compares a result with the best fitness so far: a genome becomes the candidate of its
generation, an individual without one sets the best fitness. -/
def considerBest (state : Evolution F) (individual : Individual F)
    (result : CompletedEvaluation F) : Evolution F :=
  if less state.bestFitnessAllTime result.totalFitness then
    if individual.genome.isSome then
      if state.ReplacesCandidate result then
        { state with
          pendingBest := {
            robustness := true
            robustnessGeneration := state.generation
            robustnessIndex := result.index
            robustnessFirstSample := result.totalFitness } }
      else state
    else
      { state with
        bestFitnessAllTime := result.totalFitness
        pendingBest := .cleared
        bestGenomeId := invalidGenomeId }
  else state

/-- What a generation result changes before the generation may be complete. -/
def recordResult (state : Evolution F) (result : CompletedEvaluation F) : Evolution F :=
  match state.individualAt result.index with
  | none => state
  | some individual =>
      (((state.recordScore result).recordGenerationBest individual result).considerBest
        individual result)

/-- A sample counts only for the candidate being validated. -/
def AcceptsSample (state : Evolution F) (result : CompletedEvaluation F) : Prop :=
  state.robustnessPass.active = true ∧
    result.robustGeneration = state.robustnessPass.generation ∧
    result.index = state.robustnessPass.index ∧ 0 < state.robustnessPass.pendingSamples

instance (state : Evolution F) (result : CompletedEvaluation F) :
    Decidable (state.AcceptsSample result) := inferInstanceAs (Decidable (_ ∧ _))

def handleRobustnessSampleResult (state : Evolution F) (result : CompletedEvaluation F) :
    Evolution F :=
  if state.AcceptsSample result then
    { state with
      robustnessPass := { state.robustnessPass with
        samples := state.robustnessPass.samples ++ [result.totalFitness]
        pendingSamples := state.robustnessPass.pendingSamples - 1
        completedSamples := state.robustnessPass.completedSamples + 1 } }
  else state

end

section

/-- A validated fitness makes its genome the best: there is no best genome yet, or it is
higher than the best fitness and no tie. -/
def ImprovesBest (state : Evolution F) (fitness : F) : Prop :=
  state.bestGenomeId.isNil = true ∨
    (fitnessTiesBest fitness state.bestFitnessAllTime = false ∧
      less state.bestFitnessAllTime fitness = true)

instance (state : Evolution F) (fitness : F) : Decidable (state.ImprovesBest fitness) :=
  inferInstanceAs (Decidable (_ ∨ _))

def promote (setup : TrainingSetup) (environment : StoreEnvironment F) (state : Evolution F)
    (genome : Genome) (metadata : GenomeMetadata F) (fitness : F) : Option (Evolution F) :=
  (storeManagedGenome environment state.repository genome metadata
    setup.evolutionConfig.genomeArchiveMaxSize).map fun stored =>
      { state with
        repository := stored.1.markAsBest stored.2.id
        bestGenomeId := stored.2.id
        bestFitnessAllTime := fitness
        promotions := state.promotions ++ [(genome, fitness)] }

/-- Promotes a genome when its fitness improves on the best. -/
def promoteIfBetter (setup : TrainingSetup) (environment : StoreEnvironment F)
    (state : Evolution F) (genome : Genome) (metadata : GenomeMetadata F) (fitness : F) :
    Option (Evolution F) :=
  if state.ImprovesBest fitness then state.promote setup environment genome metadata fitness
  else some state

def evaluationName (generation index : ℤ) : ByteString :=
  text ("gen_" ++ toString generation ++ "_eval_" ++ toString index)

def candidate (state : Evolution F) : Option (Individual F × Genome) :=
  if state.pendingBest.robustness = true ∧
      state.pendingBest.robustnessGeneration = state.generation then
    state.carrierAt state.pendingBest.robustnessIndex
  else none

/-- The metadata of a candidate decided on its first sample. -/
def firstSampleMetadata (setup : TrainingSetup) (now : UInt64) (state : Evolution F)
    (individual : Individual F) : GenomeMetadata F :=
  let pending := state.pendingBest
  managedMetadata setup now individual
    (evaluationName pending.robustnessGeneration pending.robustnessIndex)
    individual.scenarioId pending.robustnessGeneration pending.robustnessFirstSample
    pending.robustnessFirstSample 1 [pending.robustnessFirstSample]

def finalizePendingBestWithoutRobustnessPass (setup : TrainingSetup)
    (environment : StoreEnvironment F) (state : Evolution F) : Option (Evolution F) :=
  if state.pendingBest.robustness = false then some state
  else match state.candidate with
    | none => some { state with pendingBest := .cleared }
    | some (individual, genome) =>
        let bestFitness := state.pendingBest.robustnessFirstSample
        let noted := { state with
          bestFitnessThisGen := bestFitness
          bestThisGenOrigin := state.originAt state.pendingBest.robustnessIndex }
        (noted.promoteIfBetter setup environment genome
          (firstSampleMetadata setup environment.now state individual) bestFitness).map
            fun decided => { decided with pendingBest := .cleared }

def startRobustnessPass (setup : TrainingSetup) (state : Evolution F) :
    Evolution F × Option Submission :=
  if state.robustnessPass.active = true ∨ state.pendingBest.robustness = false then (state, none)
  else match state.candidate with
    | none => ({ state with pendingBest := { state.pendingBest with robustness := false } }, none)
    | some _ =>
        let targetSampleCount := resolveRobustnessPassSampleCount
          setup.evolutionConfig.robustFitnessEvaluationCount
        if targetSampleCount ≤ 0 then (state, none)
        else
          ({ state with
            robustnessPass := {
              active := true
              generation := state.generation
              index := state.pendingBest.robustnessIndex
              targetEvalCount := targetSampleCount
              completedSamples := 0
              pendingSamples := targetSampleCount
              samples := [] }
            pendingBest := { state.pendingBest with robustness := false } },
          some (.robustnessPass
            { taskType := .robustnessEval
              index := state.pendingBest.robustnessIndex
              robustGeneration := state.generation } targetSampleCount))

def sampleWindow (samples : List F) : List F :=
  if samples.length > robustFitnessSampleWindow then
    samples.drop (samples.length - robustFitnessSampleWindow)
  else samples

/-- The metadata of a candidate decided on the median of its samples. -/
def validatedMetadata (setup : TrainingSetup) (now : UInt64) (state : Evolution F)
    (individual : Individual F) : GenomeMetadata F :=
  let pass := state.robustnessPass
  let samples := sampleWindow pass.samples
  let firstSampleFitness :=
    if isFinite state.pendingBest.robustnessFirstSample then
      state.pendingBest.robustnessFirstSample
    else samples.headD zero
  managedMetadata setup now individual (evaluationName pass.generation pass.index)
    individual.scenarioId pass.generation firstSampleFitness (computeMedian samples)
    pass.targetEvalCount samples

def finalizeRobustnessPass (setup : TrainingSetup) (environment : StoreEnvironment F)
    (state : Evolution F) : Option (Evolution F) :=
  if state.robustnessPass.active = false ∨ 0 < state.robustnessPass.pendingSamples then some state
  else match state.carrierAt state.robustnessPass.index with
    | none => some { state with robustnessPass := {} }
    | some (individual, genome) =>
        let robustFitness := computeMedian (sampleWindow state.robustnessPass.samples)
        let noted := { state with
          bestFitnessThisGen := robustFitness
          robustEvaluationCount := state.robustEvaluationCount + 1
          bestThisGenOrigin := state.originAt state.robustnessPass.index }
        (noted.promoteIfBetter setup environment genome
          (validatedMetadata setup environment.now state individual) robustFitness).map
            fun decided => { decided with robustnessPass := {}, pendingBest := .cleared }

end

section

def queueGenerationTasks (state : Evolution F) : Submission :=
  .generationBatch ((List.range state.population.length).map fun (i : ℕ) =>
    { taskType := .generationEval, index := i })

/-- The next generation starts unevaluated; after the last one the counts stay as they are. -/
def resetForNextGeneration (setup : TrainingSetup) (state : Evolution F) : Evolution F :=
  if setup.evolutionConfig.maxGenerations ≤ 0 ∨
      state.generation < setup.evolutionConfig.maxGenerations then
    { state with
      currentEval := 0
      fitnessScores := List.replicate state.population.length zero }
  else state

/-- The checkpoint that is due every few generations. -/
def storeIfDue (setup : TrainingSetup) (environment : StoreEnvironment F) (state : Evolution F) :
    Option (Evolution F) :=
  if state.generation % saveInterval = 0 then state.storeBestGenome setup environment
  else some state

/-- Drops the candidate, stores the checkpoint and moves on to the bred population; aborts while
a candidate is being validated. -/
def advanceGeneration (setup : TrainingSetup) (environment : StoreEnvironment F) (bred : Bred F)
    (state : Evolution F) : Option (Evolution F) :=
  if state.robustnessPass.active then none
  else
    (storeIfDue setup environment { state with pendingBest := .cleared }).map fun stored =>
      resetForNextGeneration setup { stored with
        population := bred.members.map Prod.fst
        populationOrigins := bred.members.map Prod.snd
        generation := stored.generation + 1 }

/-- Ends the training after its last generation, and otherwise starts the next one. -/
def completeGeneration (setup : TrainingSetup) (environment : StoreEnvironment F) (bred : Bred F)
    (state : Evolution F) : Option (Evolution F × Option Submission) :=
  if setup.evolutionConfig.maxGenerations > 0 ∧
      state.generation + 1 ≥ setup.evolutionConfig.maxGenerations then
    some ({ state with
      trainingComplete := true
      generation := setup.evolutionConfig.maxGenerations }, none)
  else (state.advanceGeneration setup environment bred).map fun advanced =>
    (advanced, some advanced.queueGenerationTasks)

/-- Goes on with a generation whose results are all in. -/
def concludeGeneration (setup : TrainingSetup) (environment : ResultEnvironment F)
    (bred : Bred F) (state : Evolution F) : Option (Evolution F × Option Submission) :=
  let started := state.startRobustnessPass setup
  if started.1.robustnessPass.active then
    if 0 < started.1.robustnessPass.pendingSamples then some started
    else (started.1.finalizeRobustnessPass setup environment.promotion).bind
      (completeGeneration setup environment.checkpoint bred)
  else completeGeneration setup environment.checkpoint bred started.1

def maybeCompleteGeneration (setup : TrainingSetup) (environment : ResultEnvironment F)
    (bred : Bred F) (state : Evolution F) : Option (Evolution F × Option Submission) :=
  if state.currentEval < state.population.length then some (state, none)
  else
    (if resolveRobustnessPassSampleCount
        setup.evolutionConfig.robustFitnessEvaluationCount ≤ 0 then
      state.finalizePendingBestWithoutRobustnessPass setup environment.promotion
    else some state).bind (concludeGeneration setup environment bred)

def processResult (setup : TrainingSetup) (environment : ResultEnvironment F) (bred : Bred F)
    (state : Evolution F) (result : CompletedEvaluation F) :
    Option (Evolution F × Option Submission) :=
  if ¬ state.InRange result.index then some (state, none)
  else match result.taskType with
    | .robustnessEval =>
        (state.handleRobustnessSampleResult result).maybeCompleteGeneration setup environment bred
    | .generationEval =>
        (state.recordResult result).maybeCompleteGeneration setup environment bred

end

section

/-- The individuals of one entry: its seeds from the repository and then random genomes, or
clones of a brain without a genome. Aborts where the entry contradicts the brain. -/
def initialIndividuals (setup : TrainingSetup) (repository : GenomeRepository F)
    (randomGenomes : List Genome) (spec : PopulationSpec) : Option (List (Individual F)) :=
  (setup.brainRegistry setup.trainingSpec.organismType spec.brainKind
      (spec.brainVariant.getD [])).bind fun entry =>
    let individual (genome : Option Genome) : Individual F := {
      brainKind := spec.brainKind
      brainVariant := spec.brainVariant
      scenarioId := setup.trainingSpec.scenarioId
      genome := genome
      allowsMutation := entry.allowsMutation }
    if entry.requiresGenome then
      if spec.count = spec.seedGenomes.length + spec.randomCount ∧
          randomGenomes.length = spec.randomCount then
        (spec.seedGenomes.mapM repository.genomes.lookup).map fun seeds =>
          (seeds ++ randomGenomes).map fun genome => individual (some genome)
      else none
    else if spec.seedGenomes = [] ∧ spec.randomCount = 0 then
      some (List.replicate spec.count (individual none))
    else none

def initializePopulation (setup : TrainingSetup) (repository : GenomeRepository F)
    (randomGenomes : List (List Genome)) : Option (Evolution F) :=
  if setup.trainingSpec.population = [] ∨
      randomGenomes.length ≠ setup.trainingSpec.population.length then none
  else
    ((setup.trainingSpec.population.zip randomGenomes).mapM fun entry =>
      initialIndividuals setup repository entry.2 entry.1).map fun groups =>
        let population := groups.flatten
        { population := population
          populationOrigins := List.replicate population.length .seed
          fitnessScores := List.replicate population.length zero
          bestFitnessThisGen := zero
          bestFitnessAllTime := lowest
          pendingBest := .cleared
          repository := repository }

end

end Evolution

end DirtSim
