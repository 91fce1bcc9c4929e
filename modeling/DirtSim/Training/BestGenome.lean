import DirtSim.Evolution.Retention
import DirtSim.Training.AllTimeBest

/-! # The reported best genome

A promotion stores the genome, prunes the archive and only then marks the genome as best; a
checkpoint takes over whatever the repository holds for best. Where neither misleads, the reported
genome was promoted with the reported fitness (`Evolution.earned_of_guarded`).
-/

namespace DirtSim

open Foundation Double

namespace Evolution

variable {F : Type} [FitnessArithmetic F]

/-- The reported genome exists and was promoted with the reported fitness. -/
def Earned (state : Evolution F) : Prop :=
  state.bestGenomeId ≠ invalidGenomeId →
    ∃ genome, state.repository.genomes.lookup state.bestGenomeId = some genome ∧
      (genome, state.bestFitnessAllTime) ∈ state.promotions

section

/-- A genome that is stored and then pruned for is not itself pruned. -/
def StaysStored (setup : TrainingSetup) (environment : StoreEnvironment F)
    (repository : GenomeRepository F) (genome : Genome) (metadata : GenomeMetadata F) : Prop :=
  ∀ stored ∈ repository.storeOrUpdateByHash genome metadata none environment.draws,
    stored.2.id ∉ (stored.1.presenting
      (environment.presentation.reorder stored.1.metadata)).pruneVictims
        setup.evolutionConfig.genomeArchiveMaxSize.toNat

instance (setup : TrainingSetup) (environment : StoreEnvironment F)
    (repository : GenomeRepository F) (genome : Genome) (metadata : GenomeMetadata F) :
    Decidable (StaysStored setup environment repository genome metadata) :=
  inferInstanceAs (Decidable (∀ _ ∈ _, _))

/-- Where the content hash of a genome leads to the best genome, it is that genome. -/
def SparesBest (state : Evolution F) (genome : Genome) (metadata : GenomeMetadata F) : Prop :=
  state.repository.hashToId.lookup
      (computeContentHash genome (normalizeRobustMetadata metadata)) = some state.bestGenomeId →
    state.repository.genomes.lookup state.bestGenomeId = some genome

instance (state : Evolution F) (genome : Genome) (metadata : GenomeMetadata F) :
    Decidable (state.SparesBest genome metadata) := inferInstanceAs (Decidable (_ → _))

/-- A checkpoint is taken while the repository has the run's best genome for its best, or while
neither has one, and does not store another genome in its place. -/
def KeepsBestAtCheckpoint (setup : TrainingSetup) (environment : StoreEnvironment F)
    (state : Evolution F) : Prop :=
  ∀ fittest ∈ fittestCarrier (state.population.zip state.fitnessScores),
    state.repository.bestId.getD invalidGenomeId = state.bestGenomeId ∧
      state.SparesBest fittest.2.1
        (checkpointMetadata setup environment.now state fittest.1 fittest.2.2)

instance (setup : TrainingSetup) (environment : StoreEnvironment F) (state : Evolution F) :
    Decidable (state.KeepsBestAtCheckpoint setup environment) :=
  inferInstanceAs (Decidable (∀ _ ∈ _, _))

/-- A candidate that is decided and improves on the best stays stored. -/
def StoresPromoted (setup : TrainingSetup) (environment : StoreEnvironment F)
    (state : Evolution F) : Prop :=
  (resolveRobustnessPassSampleCount setup.evolutionConfig.robustFitnessEvaluationCount ≤ 0 →
    ∀ carrier ∈ state.candidate, state.ImprovesBest state.pendingBest.robustnessFirstSample →
      StaysStored setup environment state.repository carrier.2
        (firstSampleMetadata setup environment.now state carrier.1)) ∧
  (state.robustnessPass.active = true → ¬ 0 < state.robustnessPass.pendingSamples →
    ∀ carrier ∈ state.carrierAt state.robustnessPass.index,
      state.ImprovesBest (computeMedian (sampleWindow state.robustnessPass.samples)) →
        StaysStored setup environment state.repository carrier.2
          (validatedMetadata setup environment.now state carrier.1))

instance (setup : TrainingSetup) (environment : StoreEnvironment F) (state : Evolution F) :
    Decidable (state.StoresPromoted setup environment) :=
  inferInstanceAs (Decidable ((_ → ∀ _ ∈ _, _ → _) ∧ (_ → _ → ∀ _ ∈ _, _ → _)))

/-- The state in which a generation is completed, its candidate decided; `none` while samples are
waited for. -/
def decideCandidate (setup : TrainingSetup) (environment : StoreEnvironment F)
    (state : Evolution F) : Option (Evolution F) :=
  (if resolveRobustnessPassSampleCount
      setup.evolutionConfig.robustFitnessEvaluationCount ≤ 0 then
    state.finalizePendingBestWithoutRobustnessPass setup environment
  else some state).bind fun decided =>
    let started := (decided.startRobustnessPass setup).1
    if started.robustnessPass.active then
      if 0 < started.robustnessPass.pendingSamples then none
      else started.finalizeRobustnessPass setup environment
    else some started

def ChecksIn (setup : TrainingSetup) (state : Evolution F) : Prop :=
  ¬ (setup.evolutionConfig.maxGenerations > 0 ∧
      state.generation + 1 ≥ setup.evolutionConfig.maxGenerations) ∧
    state.generation % saveInterval = 0

instance (setup : TrainingSetup) (state : Evolution F) : Decidable (state.ChecksIn setup) :=
  inferInstanceAs (Decidable (_ ∧ _))

def takeDown (state : Evolution F) (result : CompletedEvaluation F) : Evolution F :=
  match result.taskType with
  | .robustnessEval => state.handleRobustnessSampleResult result
  | .generationEval => state.recordResult result

/-- The event promotes only genomes that stay stored, takes no checkpoint that replaces the best
genome, and does not set or delete it by command. -/
def Event.KeepsEarned (setup : TrainingSetup) (state : Evolution F) : Event F → Prop
  | .result environment _ completed =>
      let recorded := state.takeDown completed
      state.InRange completed.index → recorded.population.length ≤ recorded.currentEval →
        recorded.StoresPromoted setup environment.promotion ∧
          ∀ decided ∈ recorded.decideCandidate setup environment.promotion,
            decided.ChecksIn setup → decided.KeepsBestAtCheckpoint setup environment.checkpoint
  | .storeBest environment => state.KeepsBestAtCheckpoint setup environment
  | .genomeSet id genome _ draw =>
      GenomeRepository.storeId id draw = state.bestGenomeId →
        state.repository.genomes.lookup state.bestGenomeId = some genome
  | .genomeDelete id => id = state.bestGenomeId → state.bestGenomeId = invalidGenomeId

instance (setup : TrainingSetup) (state : Evolution F) :
    (event : Event F) → Decidable (event.KeepsEarned setup state)
  | .result .. => inferInstanceAs (Decidable (_ → _ → _ ∧ ∀ _ ∈ _, _ → _))
  | .storeBest .. => inferInstanceAs (Decidable (KeepsBestAtCheckpoint ..))
  | .genomeSet .. => inferInstanceAs (Decidable (_ → _))
  | .genomeDelete .. => inferInstanceAs (Decidable (_ → _))

end

section

variable {setup : TrainingSetup} {state after : Evolution F}

/-- The reported genome is the repository's best and has earned the reported fitness. -/
def Backed (state : Evolution F) : Prop :=
  state.bestGenomeId ≠ invalidGenomeId →
    state.repository.bestId = some state.bestGenomeId ∧
      ∃ genome, state.repository.genomes.lookup state.bestGenomeId = some genome ∧
        (genome, state.bestFitnessAllTime) ∈ state.promotions

section

omit [FitnessArithmetic F]

theorem Backed.earned (backed : Backed state) : Earned state := by
  intro named
  exact (backed named).2

theorem backed_of_unnamed (unnamed : state.bestGenomeId = invalidGenomeId) : Backed state := by
  intro named
  exact absurd unnamed named

end

theorem storeManagedGenome_effect {environment : StoreEnvironment F}
    {repository : GenomeRepository F} {genome : Genome} {metadata : GenomeMetadata F}
    {archiveMaxSize : ℤ} {result : GenomeRepository F × StoreByHashResult}
    (stored : storeManagedGenome environment repository genome metadata archiveMaxSize =
      some result) :
    ∃ written, repository.storeOrUpdateByHash genome metadata none environment.draws =
        some (written, result.2) ∧
      result.1.bestId = repository.bestId ∧
      ∀ id, result.1.genomes.lookup id =
        if id ∈ (written.presenting
            (environment.presentation.reorder written.metadata)).pruneVictims
              archiveMaxSize.toNat then none
        else (repository.genomes.insert result.2.id genome).lookup id := by
  obtain ⟨⟨written, outcome⟩, kept, pruned⟩ := Option.bind_eq_some_iff.mp stored
  obtain ⟨genomes, bestId, _⟩ := GenomeRepository.storeOrUpdateByHash_effect kept
  dsimp only at pruned genomes bestId
  split at pruned
  · obtain ⟨⟨thinned, count⟩, removed, rfl⟩ := Option.map_eq_some_iff.mp pruned
    refine ⟨written, kept, ?_, ?_⟩
    · exact (GenomeRepository.bestId_pruneManagedByFitness removed).trans bestId
    · intro id
      rw [← genomes]
      exact GenomeRepository.lookup_genomes_pruneManagedByFitness removed id
  · rename_i unlimited
    cases pruned
    refine ⟨written, kept, bestId, ?_⟩
    intro id
    have none : archiveMaxSize.toNat = 0 := Int.toNat_eq_zero.mpr (not_lt.mp unlimited)
    rw [none, GenomeRepository.pruneVictims, if_pos rfl, if_neg List.not_mem_nil, genomes]

theorem backed_of_promote {environment : StoreEnvironment F} {genome : Genome}
    {metadata : GenomeMetadata F} {fitness : F}
    (stays : StaysStored setup environment state.repository genome metadata)
    (promoted : state.promote setup environment genome metadata fitness = some after) :
    Backed after := by
  obtain ⟨⟨repository, outcome⟩, stored, rfl⟩ := Option.map_eq_some_iff.mp promoted
  obtain ⟨written, kept, _, lookup⟩ := storeManagedGenome_effect stored
  have present : repository.genomes.lookup outcome.id = some genome := by
    rw [lookup, if_neg (stays _ kept), AList.lookup_insert]
  have marked : repository.markAsBest outcome.id =
      { repository with bestId := some outcome.id } := by
    rw [GenomeRepository.markAsBest, if_pos]
    rw [present]
    rfl
  intro _
  rw [marked]
  exact ⟨rfl, genome, present, List.mem_append_right _ (List.mem_singleton_self _)⟩

theorem Backed.promoteIfBetter (backed : Backed state) {environment : StoreEnvironment F}
    {genome : Genome} {metadata : GenomeMetadata F} {fitness : F}
    (stays : state.ImprovesBest fitness →
      StaysStored setup environment state.repository genome metadata)
    (decided : state.promoteIfBetter setup environment genome metadata fitness = some after) :
    Backed after := by
  rcases promoteIfBetter_cases decided with ⟨_, same⟩ | ⟨improves, promoted⟩
  · rw [same]
    exact backed
  · exact backed_of_promote (stays improves) promoted

theorem Backed.storeBestGenome (backed : Backed state) {environment : StoreEnvironment F}
    (keeps : state.KeepsBestAtCheckpoint setup environment)
    (checkpoint : state.storeBestGenome setup environment = some after) : Backed after := by
  rw [Evolution.storeBestGenome] at checkpoint
  split at checkpoint
  · cases checkpoint
    exact backed
  · rename_i individual genome bestFit found
    obtain ⟨sameBest, spares⟩ := keeps _ found
    obtain ⟨⟨repository, outcome⟩, stored, rfl⟩ := Option.map_eq_some_iff.mp checkpoint
    obtain ⟨written, kept, bestId, lookup⟩ := storeManagedGenome_effect stored
    have reported : repository.bestId.getD invalidGenomeId = state.bestGenomeId := by
      rw [← sameBest, ← bestId]
    intro named
    dsimp only at named bestId ⊢
    rw [reported] at named ⊢
    obtain ⟨marked, best, present, earned⟩ := backed named
    refine ⟨bestId.trans marked, best, ?_, earned⟩
    have survives : state.bestGenomeId ∉ (written.presenting
        (environment.presentation.reorder written.metadata)).pruneVictims
          setup.evolutionConfig.genomeArchiveMaxSize.toNat := by
      intro victim
      apply GenomeRepository.bestId_ne_of_mem_pruneVictims victim
      exact (GenomeRepository.storeOrUpdateByHash_effect kept).2.1.trans marked
    rw [lookup, if_neg survives, Dict.lookup_insert]
    split
    · rename_i same
      rcases (GenomeRepository.storeOrUpdateByHash_effect kept).2.2 with known | free
      · rw [← same] at known
        rw [← spares known, present]
      · rw [← same, present] at free
        cases free
    · exact present

theorem Backed.takeDown (backed : Backed state) (result : CompletedEvaluation F) :
    Backed (state.takeDown result) := by
  rw [Evolution.takeDown]
  split
  · rw [handleRobustnessSampleResult]
    split
    · exact backed
    · exact backed
  · rcases recordResult_cases state result with ⟨_, same⟩ | ⟨individual, _, _, _, recorded⟩
    · rw [same]
      exact backed
    · rw [recorded]
      rcases considerBest_cases _ individual result with same | ⟨_, _, noted⟩ | ⟨_, _, set⟩
      · rw [same]
        exact backed
      · rw [noted]
        exact backed
      · rw [set]
        exact backed_of_unnamed rfl

omit [FitnessArithmetic F] in
theorem Backed.startRobustnessPass (backed : Backed state) :
    Backed (state.startRobustnessPass setup).1 := by
  rcases startRobustnessPass_cases setup state with ⟨same, _⟩ | ⟨_, _, dropped⟩ | ⟨_, _, _, _, started⟩
  · rw [same]
    exact backed
  · rw [dropped]
    exact backed
  · rw [started]
    exact backed

theorem Backed.finalizePendingBest (backed : Backed state) {environment : StoreEnvironment F}
    (stays : ∀ carrier ∈ state.candidate,
      state.ImprovesBest state.pendingBest.robustnessFirstSample →
        StaysStored setup environment state.repository carrier.2
          (firstSampleMetadata setup environment.now state carrier.1))
    (finalized : state.finalizePendingBestWithoutRobustnessPass setup environment = some after) :
    Backed after := by
  rcases finalizePendingBestWithoutRobustnessPass_cases finalized with
    ⟨_, same⟩ | ⟨_, cleared⟩ | ⟨individual, genome, bestThisGen, origin, decided, _, found,
      promoted, same⟩
  · rw [same]
    exact backed
  · rw [cleared]
    exact backed
  · have noted : Backed { state with
        bestFitnessThisGen := bestThisGen, bestThisGenOrigin := origin } := backed
    have kept := noted.promoteIfBetter (stays _ found) promoted
    rw [same]
    exact kept

theorem Backed.finalizeRobustnessPass (backed : Backed state) {environment : StoreEnvironment F}
    (active : state.robustnessPass.active = true)
    (finished : ¬ 0 < state.robustnessPass.pendingSamples)
    (stays : ∀ carrier ∈ state.carrierAt state.robustnessPass.index,
      state.ImprovesBest (computeMedian (sampleWindow state.robustnessPass.samples)) →
        StaysStored setup environment state.repository carrier.2
          (validatedMetadata setup environment.now state carrier.1))
    (finalized : state.finalizeRobustnessPass setup environment = some after) : Backed after := by
  rcases finalizeRobustnessPass_cases active finished finalized with
    ⟨_, reset⟩ | ⟨individual, genome, bestThisGen, origin, evaluations, decided, found, promoted,
      same⟩
  · rw [reset]
    exact backed
  · have noted : Backed { state with
        bestFitnessThisGen := bestThisGen
        bestThisGenOrigin := origin
        robustEvaluationCount := evaluations } := backed
    have kept := noted.promoteIfBetter (stays _ found) promoted
    rw [same]
    exact kept

theorem Backed.completeGeneration (backed : Backed state) {environment : StoreEnvironment F}
    {bred : Bred F} {submission : Option Submission}
    (keeps : state.ChecksIn setup → state.KeepsBestAtCheckpoint setup environment)
    (completed : state.completeGeneration setup environment bred = some (after, submission)) :
    Backed after := by
  rw [Evolution.completeGeneration] at completed
  split at completed
  · cases completed
    exact backed
  · rename_i goesOn
    obtain ⟨advanced, moved, same⟩ := Option.map_eq_some_iff.mp completed
    cases same
    obtain ⟨stored, saved, _, _, rest⟩ := advanceGeneration_effect moved
    have cleared : Backed { state with pendingBest := .cleared } := backed
    have kept : Backed stored := by
      rw [storeIfDue] at saved
      split at saved
      · rename_i due
        exact cleared.storeBestGenome (keeps ⟨goesOn, due⟩) saved
      · cases saved
        exact backed
    rw [rest]
    exact kept

omit [FitnessArithmetic F] in
theorem startRobustnessPass_finished
    (active : (state.startRobustnessPass setup).1.robustnessPass.active = true)
    (finished : ¬ 0 < (state.startRobustnessPass setup).1.robustnessPass.pendingSamples) :
    (state.startRobustnessPass setup).1 = state := by
  rcases startRobustnessPass_cases setup state with
    ⟨same, _⟩ | ⟨inactive, _, dropped⟩ | ⟨_, _, _, configured, started⟩
  · rw [same]
  · rw [dropped] at active
    exact Bool.noConfusion (inactive.symm.trans active)
  · rw [started] at finished
    exact absurd configured finished

theorem Backed.maybeCompleteGeneration (backed : Backed state) (sampling : Sampling setup state)
    {environment : ResultEnvironment F} {bred : Bred F} {submission : Option Submission}
    (keeps : state.population.length ≤ state.currentEval →
      state.StoresPromoted setup environment.promotion ∧
        ∀ decided ∈ state.decideCandidate setup environment.promotion,
          decided.ChecksIn setup → decided.KeepsBestAtCheckpoint setup environment.checkpoint)
    (concluded : state.maybeCompleteGeneration setup environment bred =
      some (after, submission)) : Backed after := by
  rw [Evolution.maybeCompleteGeneration] at concluded
  split at concluded
  · cases concluded
    exact backed
  · rename_i complete
    have complete := not_lt.mp complete
    obtain ⟨stores, keeps⟩ := keeps complete
    obtain ⟨first, finalized, concluded⟩ := Option.bind_eq_some_iff.mp concluded
    have decides : ∀ decided, (if (first.startRobustnessPass setup).1.robustnessPass.active then
          if 0 < (first.startRobustnessPass setup).1.robustnessPass.pendingSamples then none
          else (first.startRobustnessPass setup).1.finalizeRobustnessPass setup
            environment.promotion
        else some (first.startRobustnessPass setup).1) = some decided →
          decided.ChecksIn setup → decided.KeepsBestAtCheckpoint setup environment.checkpoint := by
      intro decided reached
      apply keeps decided
      rw [decideCandidate, finalized, Option.bind_some]
      exact reached
    have firstBacked : Backed first ∧ (first.robustnessPass.active = true → first = state) := by
      split at finalized
      · rename_i unconfigured
        have inactive : state.robustnessPass.active = false := by
          rw [Bool.eq_false_iff]
          intro active
          exact absurd unconfigured (not_le.mpr (sampling.configured active))
        obtain ⟨_, _, still, _⟩ := sampling.finalizePendingBest inactive complete finalized
        refine ⟨backed.finalizePendingBest (stores.1 unconfigured) finalized, ?_⟩
        intro active
        exact Bool.noConfusion (still.symm.trans active)
      · cases finalized
        exact ⟨backed, fun _ => rfl⟩
    have startedBacked : Backed (first.startRobustnessPass setup).1 :=
      firstBacked.1.startRobustnessPass
    rcases concludeGeneration_cases concluded with
      ⟨_, _, same⟩ | ⟨active, finished, decided, reached, completed⟩ | ⟨inactive, completed⟩
    · rw [(Prod.mk.inj same).1]
      exact startedBacked
    · have unchanged := startRobustnessPass_finished active finished
      have decidedBacked : Backed decided := by
        rw [unchanged] at active finished reached
        have untouched := firstBacked.2 active
        rw [untouched] at active finished reached
        exact backed.finalizeRobustnessPass active finished (stores.2 active finished) reached
      apply decidedBacked.completeGeneration _ completed
      apply decides decided
      rw [if_pos active, if_neg finished]
      exact reached
    · apply startedBacked.completeGeneration _ completed
      apply decides
      rw [inactive]
      rfl

end

section

variable {setup : TrainingSetup} {before after : Evolution F}

theorem Backed.step (backed : Backed before) (waiting : Waiting setup before) {event : Event F}
    (keeps : event.KeepsEarned setup before)
    (applied : event.apply setup before = some after) : Backed after := by
  cases event with
  | result environment bred completed =>
      obtain ⟨⟨final, submission⟩, processed, same⟩ := Option.map_eq_some_iff.mp applied
      cases same
      rw [processResult] at processed
      split at processed
      · cases processed
        exact backed
      · rename_i inside
        have keeps := keeps (not_not.mp inside)
        have taken := backed.takeDown completed
        split at processed
        · rename_i sample
          rw [Evolution.takeDown, sample] at keeps taken
          exact taken.maybeCompleteGeneration
            (waiting.toSampling.handleRobustnessSampleResult completed) keeps processed
        · rename_i generation
          rw [Evolution.takeDown, generation] at keeps taken
          exact taken.maybeCompleteGeneration (waiting.toSampling.recordResult completed).1 keeps
            processed
  | storeBest environment => exact backed.storeBestGenome keeps applied
  | genomeSet id genome metadata draw =>
      cases applied
      intro named
      obtain ⟨marked, best, present, earned⟩ := backed named
      refine ⟨marked, best, ?_, earned⟩
      have stored : (before.repository.store id genome metadata draw).genomes =
          before.repository.genomes.insert (GenomeRepository.storeId id draw) genome := rfl
      rw [stored, Dict.lookup_insert]
      split
      · rename_i same
        rw [← keeps same.symm, present]
      · exact present
  | genomeDelete id =>
      cases applied
      intro named
      obtain ⟨marked, best, present, earned⟩ := backed named
      have apart : before.bestGenomeId ≠ id := fun same => named (keeps same.symm)
      refine ⟨?_, best, ?_, earned⟩
      · dsimp only [GenomeRepository.remove, GenomeRepository.removeNoLock]
        rw [if_neg, marked]
        rw [marked]
        exact fun same => apart (Option.some.inj same)
      · dsimp only [GenomeRepository.remove, GenomeRepository.removeNoLock]
        rw [Dict.lookup_erase, if_neg apart, present]

/-- **The reported best genome.** In every state of a run whose promotions stay stored, whose
checkpoints keep the best genome and in which no command touches it, the reported genome exists
and was promoted with the reported fitness. -/
theorem earned_of_guarded
    (reached : ((machine F setup).guarded fun state event =>
      event.KeepsEarned setup state).Reachable after) : Earned after := by
  have holds : Waiting setup after ∧ Backed after := by
    apply reached.invariant
    · rintro state ⟨repository, randomGenomes, started⟩
      refine ⟨waiting_of_initial repository started, ?_⟩
      rw [initializePopulation] at started
      split at started
      · cases started
      · obtain ⟨groups, _, rfl⟩ := Option.map_eq_some_iff.mp started
        exact backed_of_unnamed rfl
    · rintro state event next ⟨waiting, backed⟩ ⟨moved, keeps⟩
      exact ⟨(waiting.step moved).1, backed.step waiting keeps moved⟩
  exact holds.2.earned

end

section

/-! ## Reporting the winner of a contest -/

def firstSamples (maxGenerations : ℤ) : EvolutionConfig where
  maxGenerations := maxGenerations
  robustFitnessEvaluationCount := 0

def earlierMetadata : GenomeMetadata ℚ where
  name := text "gen_3_eval_1"
  fitness := 100
  robustFitness := 100
  robustEvalCount := 1
  robustFitnessSamples := [100]
  generation := 3
  createdTimestamp := 0
  scenarioId := ⟨8⟩
  notes := []
  organismType := some .tree
  brainKind := some (text "NeuralNet")
  brainVariant := none
  trainingSessionId := some (UUID.generate 3 3)
  genomePoolId := .dirtSim
  nesTileBrainCompatibility := none

/-- What an earlier session left, its best genome included. -/
def earlierRepository : GenomeRepository ℚ :=
  (({} : GenomeRepository ℚ).store (UUID.generate 4 4) ⟨[1]⟩ earlierMetadata (0, 0)).markAsBest
    (UUID.generate 4 4)

def generationResult (index : ℤ) (fitness : ℚ) : CompletedEvaluation ℚ where
  taskType := .generationEval
  index := index
  totalFitness := fitness

/-- The tree without a genome reaches eleven and the one with a genome ten; the checkpoint of the
generation makes the run report the best genome of the earlier session. -/
theorem not_earned_of_checkpoint :
    ¬ ∀ (setup : TrainingSetup) (state : Evolution ℚ), 0 < setup.evolutionConfig.genomeArchiveMaxSize →
      (machine ℚ setup).Reachable state → Earned state := by
  intro always
  obtain ⟨state, reached, values⟩ := Option.map_eq_some_iff.mp
    (show (contest (firstSamples 2) earlierRepository
        [contestResult contestEnvironment (generationResult 0 11),
          contestResult contestEnvironment (generationResult 1 10)]).map
      (fun state => (decide (state.bestGenomeId = invalidGenomeId), state.promotions.length)) =
        some (false, 0) by decide +kernel)
  obtain ⟨named, unearned⟩ := Prod.mk.inj values
  obtain ⟨genome, _, earned⟩ := always _ state (by decide) (reachable_of_contest reached)
    (of_decide_eq_false named)
  rw [List.eq_nil_of_length_eq_zero unearned] at earned
  cases earned

/-- The state after some events, each of which keeps the best genome. -/
def followKeeping (setup : TrainingSetup) (state : Evolution ℚ) (events : List (Event ℚ)) :
    Option (Evolution ℚ) :=
  events.foldlM (fun current event =>
    if event.KeepsEarned setup current then event.apply setup current else none) state

theorem run_of_followKeeping {setup : TrainingSetup} {state after : Evolution ℚ}
    {events : List (Event ℚ)} (followed : followKeeping setup state events = some after) :
    ((machine ℚ setup).guarded fun state event => event.KeepsEarned setup state).Run state events
      after := by
  induction events generalizing state with
  | nil =>
      cases followed
      exact .nil after
  | cons event events ih =>
      obtain ⟨middle, moved, rest⟩ := Option.bind_eq_some_iff.mp followed
      dsimp only at moved
      split at moved
      · rename_i keeps
        exact .cons ⟨moved, keeps⟩ (ih rest)
      · cases moved

theorem earned_of_promotion :
    ∃ state : Evolution ℚ, state.bestFitnessAllTime = 12 ∧
      state.bestGenomeId ≠ invalidGenomeId ∧ Earned state := by
  have computed : ((initializePopulation (contestSetup (firstSamples 1)) earlierRepository
      [[], [contestGenome]]).bind fun start => followKeeping (contestSetup (firstSamples 1)) start
        [contestResult contestEnvironment (generationResult 0 10),
          contestResult contestEnvironment (generationResult 1 12)]).map
      (fun state : Evolution ℚ =>
        (state.bestFitnessAllTime, decide (state.bestGenomeId = invalidGenomeId))) =
      some (12, false) := by decide +kernel
  obtain ⟨state, reached, values⟩ := Option.map_eq_some_iff.mp computed
  obtain ⟨start, started, followed⟩ := Option.bind_eq_some_iff.mp reached
  obtain ⟨fitness, named⟩ := Prod.mk.inj values
  refine ⟨state, fitness, of_decide_eq_false named, ?_⟩
  exact earned_of_guarded ⟨start, _, ⟨_, _, started⟩, run_of_followKeeping followed⟩

end

end Evolution

end DirtSim
