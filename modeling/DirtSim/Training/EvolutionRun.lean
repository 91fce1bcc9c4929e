import DirtSim.Training.EvolutionState

/-! # Runs of the training

A run starts with `initializePopulation` over any repository and takes results in any order. The
best genome is stored when the training is stopped or left, and genomes may be set and deleted
by command at any time. One lemma for each operation says which part of the state it changes.
-/

namespace DirtSim

open Foundation Double

namespace Evolution

variable {F : Type} [FitnessArithmetic F]

open FitnessArithmetic

/-- What happens to a run. -/
inductive Event (F : Type)
  | result (environment : ResultEnvironment F) (bred : Bred F) (result : CompletedEvaluation F)
  | storeBest (environment : StoreEnvironment F)
  | genomeSet (id : GenomeId) (genome : Genome) (metadata : GenomeMetadata F) (draw : Draw)
  | genomeDelete (id : GenomeId)

def Event.apply (setup : TrainingSetup) (state : Evolution F) : Event F → Option (Evolution F)
  | .result environment bred completed =>
      (state.processResult setup environment bred completed).map Prod.fst
  | .storeBest environment => state.storeBestGenome setup environment
  | .genomeSet id genome metadata draw =>
      some { state with repository := state.repository.store id genome metadata draw }
  | .genomeDelete id => some { state with repository := state.repository.remove id }

def machine (F : Type) [FitnessArithmetic F] (setup : TrainingSetup) :
    Machine (Event F) (Evolution F) where
  initial state := ∃ repository randomGenomes,
    initializePopulation setup repository randomGenomes = some state
  step before event after := event.apply setup before = some after

section

/-! ## What each operation changes -/

variable {setup : TrainingSetup} {state after : Evolution F}
variable {environment : StoreEnvironment F} {bred : Bred F} {submission : Option Submission}

theorem recordResult_cases (state : Evolution F) (result : CompletedEvaluation F) :
    (state.individualAt result.index = none ∧ state.recordResult result = state) ∨
      ∃ individual bestThisGen origin, state.individualAt result.index = some individual ∧
        state.recordResult result =
          ({ state with
            fitnessScores := state.fitnessScores.set result.index.toNat result.totalFitness
            completedEvaluations := state.completedEvaluations + 1
            currentEval := state.currentEval + 1
            bestFitnessThisGen := bestThisGen
            bestThisGenOrigin := origin } : Evolution F).considerBest individual result := by
  cases found : state.individualAt result.index with
  | none =>
      left
      refine ⟨rfl, ?_⟩
      rw [recordResult, found]
  | some individual =>
      right
      rw [recordResult, found]
      dsimp only
      rw [recordGenerationBest]
      split
      · exact ⟨individual, _, _, rfl, rfl⟩
      · exact ⟨individual, _, _, rfl, rfl⟩

/-- A result at most as good as the best changes nothing; a better one becomes the candidate of
its generation, unless a better one is there, or sets the best fitness. -/
theorem considerBest_cases (state : Evolution F) (individual : Individual F)
    (result : CompletedEvaluation F) :
    (state.considerBest individual result = state) ∨
      (less state.bestFitnessAllTime result.totalFitness = true ∧
        individual.genome.isSome = true ∧
        state.considerBest individual result = { state with
          pendingBest := {
            robustness := true
            robustnessGeneration := state.generation
            robustnessIndex := result.index
            robustnessFirstSample := result.totalFitness } }) ∨
      (less state.bestFitnessAllTime result.totalFitness = true ∧
        individual.genome.isSome = false ∧
        state.considerBest individual result = { state with
          bestFitnessAllTime := result.totalFitness
          pendingBest := .cleared
          bestGenomeId := invalidGenomeId }) := by
  rw [considerBest]
  split
  · rename_i better
    split
    · rename_i carries
      split
      · exact Or.inr (Or.inl ⟨better, carries, rfl⟩)
      · exact Or.inl rfl
    · rename_i plain
      exact Or.inr (Or.inr ⟨better, Bool.eq_false_iff.mpr plain, rfl⟩)
  · exact Or.inl rfl

omit [FitnessArithmetic F] in
theorem handleRobustnessSampleResult_accepted (state : Evolution F)
    {result : CompletedEvaluation F} (accepted : state.AcceptsSample result) :
    state.handleRobustnessSampleResult result = { state with
      robustnessPass := { state.robustnessPass with
        samples := state.robustnessPass.samples ++ [result.totalFitness]
        pendingSamples := state.robustnessPass.pendingSamples - 1
        completedSamples := state.robustnessPass.completedSamples + 1 } } :=
  if_pos accepted

theorem storeBestGenome_effect (stored : state.storeBestGenome setup environment = some after) :
    ∃ repository id, after = { state with repository := repository, bestGenomeId := id } := by
  rw [storeBestGenome] at stored
  split at stored
  · cases stored
    exact ⟨state.repository, state.bestGenomeId, rfl⟩
  · obtain ⟨result, _, rfl⟩ := Option.map_eq_some_iff.mp stored
    exact ⟨_, _, rfl⟩

theorem storeIfDue_effect (stored : state.storeIfDue setup environment = some after) :
    ∃ repository id, after = { state with repository := repository, bestGenomeId := id } := by
  rw [storeIfDue] at stored
  split at stored
  · exact storeBestGenome_effect stored
  · cases stored
    exact ⟨state.repository, state.bestGenomeId, rfl⟩

theorem promote_effect {genome : Genome} {metadata : GenomeMetadata F} {fitness : F}
    (promoted : state.promote setup environment genome metadata fitness = some after) :
    ∃ repository id, after = { state with
      repository := repository
      bestGenomeId := id
      bestFitnessAllTime := fitness
      promotions := state.promotions ++ [(genome, fitness)] } := by
  obtain ⟨result, _, rfl⟩ := Option.map_eq_some_iff.mp promoted
  exact ⟨_, _, rfl⟩

theorem promoteIfBetter_cases {genome : Genome} {metadata : GenomeMetadata F} {fitness : F}
    (decided : state.promoteIfBetter setup environment genome metadata fitness = some after) :
    (¬ state.ImprovesBest fitness ∧ after = state) ∨
      (state.ImprovesBest fitness ∧
        state.promote setup environment genome metadata fitness = some after) := by
  rw [promoteIfBetter] at decided
  split at decided
  · rename_i improves
    exact Or.inr ⟨improves, decided⟩
  · rename_i short
    cases decided
    exact Or.inl ⟨short, rfl⟩

theorem resetForNextGeneration_effect (setup : TrainingSetup) (state : Evolution F) :
    ∃ evaluated scores, state.resetForNextGeneration setup =
      { state with currentEval := evaluated, fitnessScores := scores } := by
  rw [resetForNextGeneration]
  split
  · exact ⟨_, _, rfl⟩
  · exact ⟨state.currentEval, state.fitnessScores, rfl⟩

/-- Advancing drops the candidate, stores the checkpoint that is due and takes over the bred
population; the best fitness and the promotions stay. -/
theorem advanceGeneration_effect
    (advanced : state.advanceGeneration setup environment bred = some after) :
    ∃ stored, storeIfDue setup environment { state with pendingBest := .cleared } = some stored ∧
      ∃ evaluated scores, after = { stored with
        population := bred.members.map Prod.fst
        populationOrigins := bred.members.map Prod.snd
        generation := stored.generation + 1
        currentEval := evaluated
        fitnessScores := scores } := by
  rw [advanceGeneration] at advanced
  split at advanced
  · cases advanced
  · obtain ⟨stored, saved, rfl⟩ := Option.map_eq_some_iff.mp advanced
    obtain ⟨evaluated, scores, reset⟩ := resetForNextGeneration_effect setup { stored with
      population := bred.members.map Prod.fst
      populationOrigins := bred.members.map Prod.snd
      generation := stored.generation + 1 }
    exact ⟨stored, saved, evaluated, scores, reset⟩

theorem completeGeneration_cases
    (completed : state.completeGeneration setup environment bred = some (after, submission)) :
    (after = { state with
        trainingComplete := true
        generation := setup.evolutionConfig.maxGenerations } ∧ submission = none) ∨
      (state.advanceGeneration setup environment bred = some after ∧
        submission = some after.queueGenerationTasks) := by
  rw [completeGeneration] at completed
  split at completed
  · cases completed
    exact Or.inl ⟨rfl, rfl⟩
  · obtain ⟨advanced, moved, same⟩ := Option.map_eq_some_iff.mp completed
    cases same
    exact Or.inr ⟨moved, rfl⟩

theorem finalizePendingBestWithoutRobustnessPass_cases
    (finalized : state.finalizePendingBestWithoutRobustnessPass setup environment = some after) :
    (state.pendingBest.robustness = false ∧ after = state) ∨
      (state.pendingBest.robustness = true ∧ after = { state with pendingBest := .cleared }) ∨
      ∃ individual genome bestThisGen origin decided,
        state.pendingBest.robustness = true ∧
        state.candidate = some (individual, genome) ∧
        promoteIfBetter setup environment
          { state with bestFitnessThisGen := bestThisGen, bestThisGenOrigin := origin }
          genome (firstSampleMetadata setup environment.now state individual)
          state.pendingBest.robustnessFirstSample = some decided ∧
        after = { decided with pendingBest := .cleared } := by
  rw [finalizePendingBestWithoutRobustnessPass] at finalized
  split at finalized
  · rename_i unarmed
    cases finalized
    exact Or.inl ⟨unarmed, rfl⟩
  · rename_i armed
    have armed := Bool.eq_true_of_not_eq_false armed
    split at finalized
    · cases finalized
      exact Or.inr (Or.inl ⟨armed, rfl⟩)
    · rename_i individual genome found
      obtain ⟨decided, promoted, rfl⟩ := Option.map_eq_some_iff.mp finalized
      exact Or.inr (Or.inr ⟨individual, genome, _, _, decided, armed, found, promoted, rfl⟩)

theorem finalizeRobustnessPass_cases (active : state.robustnessPass.active = true)
    (finished : ¬ 0 < state.robustnessPass.pendingSamples)
    (finalized : state.finalizeRobustnessPass setup environment = some after) :
    (state.carrierAt state.robustnessPass.index = none ∧
        after = { state with robustnessPass := {} }) ∨
      ∃ individual genome bestThisGen origin evaluations decided,
        state.carrierAt state.robustnessPass.index = some (individual, genome) ∧
        promoteIfBetter setup environment
          { state with
            bestFitnessThisGen := bestThisGen
            bestThisGenOrigin := origin
            robustEvaluationCount := evaluations }
          genome (validatedMetadata setup environment.now state individual)
          (computeMedian (sampleWindow state.robustnessPass.samples)) = some decided ∧
        after = { decided with robustnessPass := {}, pendingBest := .cleared } := by
  rw [finalizeRobustnessPass, if_neg] at finalized
  · split at finalized
    · rename_i missing
      cases finalized
      exact Or.inl ⟨missing, rfl⟩
    · rename_i individual genome found
      obtain ⟨decided, promoted, rfl⟩ := Option.map_eq_some_iff.mp finalized
      exact Or.inr ⟨individual, genome, _, _, _, decided, found, promoted, rfl⟩
  · intro either
    rcases either with inactive | waiting
    · exact Bool.noConfusion (active.symm.trans inactive)
    · exact finished waiting

omit [FitnessArithmetic F] in
/-- A validation is running already, or there is no candidate to validate, or none may be, or
the candidate's validation starts. -/
theorem startRobustnessPass_cases (setup : TrainingSetup) (state : Evolution F) :
    (state.startRobustnessPass setup = (state, none) ∧
        (state.robustnessPass.active = true ∨ state.pendingBest.robustness = false ∨
          resolveRobustnessPassSampleCount
            setup.evolutionConfig.robustFitnessEvaluationCount ≤ 0)) ∨
      (state.robustnessPass.active = false ∧ state.candidate = none ∧
        state.startRobustnessPass setup =
          ({ state with pendingBest := { state.pendingBest with robustness := false } }, none)) ∨
      (state.robustnessPass.active = false ∧ state.pendingBest.robustness = true ∧
        state.candidate.isSome = true ∧
        0 < resolveRobustnessPassSampleCount setup.evolutionConfig.robustFitnessEvaluationCount ∧
        state.startRobustnessPass setup =
          ({ state with
            robustnessPass := {
              active := true
              generation := state.generation
              index := state.pendingBest.robustnessIndex
              targetEvalCount := resolveRobustnessPassSampleCount
                setup.evolutionConfig.robustFitnessEvaluationCount
              completedSamples := 0
              pendingSamples := resolveRobustnessPassSampleCount
                setup.evolutionConfig.robustFitnessEvaluationCount
              samples := [] }
            pendingBest := { state.pendingBest with robustness := false } },
          some (.robustnessPass
            { taskType := .robustnessEval
              index := state.pendingBest.robustnessIndex
              robustGeneration := state.generation }
            (resolveRobustnessPassSampleCount
              setup.evolutionConfig.robustFitnessEvaluationCount)))) := by
  rw [startRobustnessPass]
  dsimp only
  split
  · rename_i idle
    left
    exact ⟨rfl, idle.imp_right Or.inl⟩
  · rename_i armed
    obtain ⟨inactive, armed⟩ := not_or.mp armed
    have inactive := Bool.eq_false_iff.mpr inactive
    have armed := Bool.eq_true_of_not_eq_false armed
    split
    · rename_i missing
      exact Or.inr (Or.inl ⟨inactive, missing, rfl⟩)
    · rename_i found
      split
      · rename_i none
        exact Or.inl ⟨rfl, Or.inr (Or.inr none)⟩
      · rename_i some
        refine Or.inr (Or.inr ⟨inactive, armed, ?_, not_le.mp some, rfl⟩)
        rw [found]
        rfl

/-- A generation whose results are in waits for samples, or is completed with or without a
decision on samples. -/
theorem concludeGeneration_cases {environment : ResultEnvironment F}
    (concluded : state.concludeGeneration setup environment bred = some (after, submission)) :
    ((state.startRobustnessPass setup).1.robustnessPass.active = true ∧
        0 < (state.startRobustnessPass setup).1.robustnessPass.pendingSamples ∧
        (after, submission) = state.startRobustnessPass setup) ∨
      ((state.startRobustnessPass setup).1.robustnessPass.active = true ∧
        ¬ 0 < (state.startRobustnessPass setup).1.robustnessPass.pendingSamples ∧
        ∃ decided, (state.startRobustnessPass setup).1.finalizeRobustnessPass setup
            environment.promotion = some decided ∧
          decided.completeGeneration setup environment.checkpoint bred =
            some (after, submission)) ∨
      ((state.startRobustnessPass setup).1.robustnessPass.active = false ∧
        (state.startRobustnessPass setup).1.completeGeneration setup environment.checkpoint bred =
          some (after, submission)) := by
  simp only [concludeGeneration] at concluded
  split at concluded
  · rename_i active
    split at concluded
    · rename_i waiting
      exact Or.inl ⟨active, waiting, (Option.some.inj concluded).symm⟩
    · rename_i finished
      exact Or.inr (Or.inl ⟨active, finished, Option.bind_eq_some_iff.mp concluded⟩)
  · rename_i inactive
    exact Or.inr (Or.inr ⟨Bool.eq_false_iff.mpr inactive, concluded⟩)

theorem concludeGeneration_active (active : state.robustnessPass.active = true)
    (environment : ResultEnvironment F) (bred : Bred F) :
    state.concludeGeneration setup environment bred =
      if 0 < state.robustnessPass.pendingSamples then some (state, none)
      else (state.finalizeRobustnessPass setup environment.promotion).bind
        (completeGeneration setup environment.checkpoint bred) := by
  rw [concludeGeneration, startRobustnessPass, if_pos (Or.inl active)]
  rw [if_pos active]

theorem completeGeneration_bestFitnessAllTime
    (completed : state.completeGeneration setup environment bred = some (after, submission)) :
    after.bestFitnessAllTime = state.bestFitnessAllTime := by
  rcases completeGeneration_cases completed with ⟨ended, _⟩ | ⟨advanced, _⟩
  · rw [ended]
  · obtain ⟨stored, saved, _, _, same⟩ := advanceGeneration_effect advanced
    obtain ⟨repository, id, effect⟩ := storeIfDue_effect saved
    rw [same, effect]

omit [FitnessArithmetic F] in
theorem inRange_of_carrierAt {index : ℤ} (carried : (state.carrierAt index).isSome = true) :
    state.InRange index := by
  by_contra outside
  rw [carrierAt, individualAt, if_neg outside] at carried
  cases carried

end

section

/-! ## Runs computed from their events -/

def follow (setup : TrainingSetup) (state : Evolution F) (events : List (Event F)) :
    Option (Evolution F) :=
  events.foldlM (fun current event => event.apply setup current) state

theorem run_of_follow {setup : TrainingSetup} {state after : Evolution F} {events : List (Event F)}
    (followed : state.follow setup events = some after) :
    (machine F setup).Run state events after := by
  induction events generalizing state with
  | nil =>
      cases followed
      exact .nil after
  | cons event events ih =>
      obtain ⟨middle, moved, rest⟩ := Option.bind_eq_some_iff.mp followed
      exact .cons moved (ih rest)

/-- One tree with a rule-based brain and one with a network. -/
def contestSetup (evolutionConfig : EvolutionConfig) : TrainingSetup where
  evolutionConfig := evolutionConfig
  trainingSpec := {
    scenarioId := ⟨8⟩
    organismType := .tree
    population := [{ brainKind := text "RuleBased", count := 1 },
      { brainKind := text "NeuralNet", count := 1, randomCount := 1 }] }
  brainRegistry _ brainKind _ :=
    if brainKind = text "NeuralNet" then some { requiresGenome := true, allowsMutation := true }
    else some { requiresGenome := false, allowsMutation := false }
  genomePoolId := .dirtSim
  trainingSessionId := UUID.generate 0 0

def contestGenome : Genome where
  weights := [0]

/-- The state after some events of the contest, from a repository. -/
def contest (evolutionConfig : EvolutionConfig) (repository : GenomeRepository ℚ)
    (events : List (Event ℚ)) : Option (Evolution ℚ) :=
  (initializePopulation (contestSetup evolutionConfig) repository [[], [contestGenome]]).bind
    fun start => start.follow (contestSetup evolutionConfig) events

section

variable {evolutionConfig : EvolutionConfig} {repository : GenomeRepository ℚ}
  {events : List (Event ℚ)} {after : Evolution ℚ}
  (reached : contest evolutionConfig repository events = some after)
include reached

theorem run_of_contest :
    ∃ start, (machine ℚ (contestSetup evolutionConfig)).initial start ∧
      (machine ℚ (contestSetup evolutionConfig)).Run start events after := by
  obtain ⟨start, started, followed⟩ := Option.bind_eq_some_iff.mp reached
  exact ⟨start, ⟨repository, _, started⟩, run_of_follow followed⟩

theorem reachable_of_contest : (machine ℚ (contestSetup evolutionConfig)).Reachable after := by
  obtain ⟨start, initial, run⟩ := run_of_contest reached
  exact ⟨start, events, initial, run⟩

end

/-- Storing at a given time, with one draw for each new identifier. -/
def storingAt (now : UInt64) (draw : Draw) : StoreEnvironment ℚ where
  draws := [draw]
  now := now
  presentation := { reorder := id, same := fun _ => List.Perm.refl _ }

/-- A result of the contest, with the contestants as its next generation. -/
def contestResult (environment : ResultEnvironment ℚ) (result : CompletedEvaluation ℚ) : Event ℚ :=
  .result environment
    { members := [
        ({ brainKind := text "RuleBased", scenarioId := ⟨8⟩ }, .eliteCarryover),
        ({ brainKind := text "NeuralNet", scenarioId := ⟨8⟩, genome := some contestGenome },
          .eliteCarryover)]
      nonempty := List.cons_ne_nil _ _ } result

end

end Evolution

end DirtSim
