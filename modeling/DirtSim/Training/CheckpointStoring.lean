import DirtSim.Training.SurvivorSelection

/-! # What a checkpoint stores

A checkpoint takes the fittest individual with a genome by the scores, and the score of one that has
not been evaluated yet is zero. So it stores the best evaluated one unless all of those did badly
(`GenerationCycle.checkpoint_storesEvaluated`).
-/

namespace DirtSim

open Foundation Double

namespace Evolution

variable {F : Type} [FitnessArithmetic F]

section

variable (scored : List (Individual F × F))

def carrierScore (scored : List (Individual F × F)) (index : ℕ) : Option F :=
  (scored[index]?).bind fun entry => entry.1.genome.map fun _ => entry.2

def fitter (fitness bestFit : F) : Bool := less bestFit fitness

/-- The index of the entry to be stored, with its score. -/
def checkpointIndex (scored : List (Individual F × F)) : Option (ℕ × F) :=
  leader fitter (carrierScore scored) (List.range scored.length)

theorem steady_fitter [LawfulComparison F] : Steady (fitter (F := F)) where
  irrefl := LawfulComparison.irrefl
  keeps old new other wins loses := by
    cases again : fitter other new with
    | false => rfl
    | true =>
        have above := LawfulComparison.trans _ _ _ wins again
        unfold fitter at loses
        rw [above] at loses
        cases loses

section

omit [FitnessArithmetic F]

theorem carrierScore_snoc (entry : Individual F × F) {index : ℕ} (before : index < scored.length) :
    carrierScore (scored ++ [entry]) index = carrierScore scored index := by
  rw [carrierScore, carrierScore, List.getElem?_append_left before]

theorem carrierScore_last (entry : Individual F × F) :
    carrierScore (scored ++ [entry]) scored.length = entry.1.genome.map fun _ => entry.2 := by
  rw [carrierScore, List.getElem?_concat_length]
  rfl

end

theorem checkpointIndex_snoc (entry : Individual F × F) :
    checkpointIndex (scored ++ [entry]) =
      challenge fitter (carrierScore (scored ++ [entry])) (checkpointIndex scored)
        scored.length := by
  rw [checkpointIndex, List.length_append, List.length_singleton, List.range_succ, leader_snoc,
    checkpointIndex]
  congr 1
  exact leader_congr fun index member => carrierScore_snoc _ _ (List.mem_range.mp member)

/-- The individual that a choice names, with its genome. -/
def chosenCarrier (scored : List (Individual F × F)) (choice : ℕ × F) :
    Option (Individual F × Genome × F) :=
  (scored[choice.1]?).bind fun entry => entry.1.genome.map fun genome =>
    (entry.1, genome, choice.2)

theorem fittestCarrier_eq :
    fittestCarrier scored = (checkpointIndex scored).bind (chosenCarrier scored) := by
  induction scored using List.reverseRecOn with
  | nil => rfl
  | append_singleton scored entry ih =>
      have kept : ((checkpointIndex scored).bind (chosenCarrier (scored ++ [entry]))) =
          fittestCarrier scored := by
        rw [ih]
        refine Option.bind_congr fun choice chosen => ?_
        have before := List.mem_range.mp (leader_mem chosen).1
        rw [chosenCarrier, chosenCarrier, List.getElem?_append_left before]
      have last (genome : Genome) (carries : entry.1.genome = some genome) :
          chosenCarrier (scored ++ [entry]) (scored.length, entry.2) =
            some (entry.1, genome, entry.2) := by
        rw [chosenCarrier, List.getElem?_concat_length, Option.bind_some, carries]
        rfl
      have step : fittestCarrier (scored ++ [entry]) = _ := List.foldl_append
      rw [List.foldl_cons, List.foldl_nil] at step
      rw [checkpointIndex_snoc, challenge, carrierScore_last]
      cases carries : entry.1.genome with
      | none =>
          rw [carries] at step
          exact step.trans kept.symm
      | some genome =>
          rw [carries] at step
          cases chosen : checkpointIndex scored with
          | none =>
              rw [chosen] at ih
              rw [show scored.foldl _ none = none from ih] at step
              exact step.trans (last genome carries).symm
          | some choice =>
              obtain ⟨inside, scoredHere⟩ := leader_mem chosen
              obtain ⟨earlier, found, valued⟩ := Option.bind_eq_some_iff.mp scoredHere
              obtain ⟨other, carriesToo, same⟩ := Option.map_eq_some_iff.mp valued
              have best : fittestCarrier scored = some (earlier.1, other, choice.2) := by
                rw [ih, chosen, Option.bind_some, chosenCarrier, found, Option.bind_some,
                  carriesToo]
                rfl
              rw [chosen, best] at kept
              rw [show scored.foldl _ none = _ from best] at step
              dsimp only [Option.map_some] at step ⊢
              rw [step, fitter]
              split
              case isTrue wins => exact (last genome carries).symm
              case isFalse loses => exact kept.symm

end

section

variable {setup : TrainingSetup} {state after : Evolution F} {bred : Bred F}
  {submission : Submission}

theorem advanceGeneration_of_completeGeneration {environment : StoreEnvironment F}
    (completed : state.completeGeneration setup environment bred = some (after, some submission)) :
    state.advanceGeneration setup environment bred = some after := by
  rcases completeGeneration_cases completed with ⟨_, none⟩ | ⟨advanced, _⟩
  · cases none
  · exact advanced

theorem advanceGeneration_of_processResult {environment : ResultEnvironment F}
    {result : CompletedEvaluation F} (inRange : state.InRange result.index)
    (processed : state.processResult setup environment bred result = some (after, some submission))
    (starts : submission.startsGeneration = true) :
    ∃ decided : Evolution F, decided.counted = (state.takeIn result).counted ∧
      decided.advanceGeneration setup environment.checkpoint bred = some after := by
  have concluded : (state.takeIn result).maybeCompleteGeneration setup environment bred =
      some (after, some submission) := by
    rw [processResult, if_neg (not_not.mpr inRange)] at processed
    rw [takeIn]
    cases task : result.taskType <;> simp only [task] at processed ⊢ <;> exact processed
  rw [maybeCompleteGeneration] at concluded
  split at concluded
  · cases concluded
  · obtain ⟨decided, finalized, concluded⟩ := Option.bind_eq_some_iff.mp concluded
    have kept : decided.counted = (state.takeIn result).counted := by
      split at finalized
      · exact counted_finalizePendingBest finalized
      · cases finalized
        rfl
    have started := counted_startRobustnessPass setup decided
    rcases concludeGeneration_cases concluded with
      ⟨_, _, same⟩ | ⟨active, finished, validated, finalized, completed⟩ | ⟨_, completed⟩
    · rw [startRobustnessPass_submission (Prod.mk.inj same).2.symm] at starts
      cases starts
    · exact ⟨validated,
        ((counted_finalizeRobustnessPass active finished finalized).1.trans started).trans kept,
        advanceGeneration_of_completeGeneration completed⟩
    · exact ⟨_, started.trans kept, advanceGeneration_of_completeGeneration completed⟩

end

end Evolution

/-- A run with the results of the current generation that it has processed, by index. -/
structure ScoredCycle (F : Type) where
  cycle : GenerationCycle F
  results : List (ℤ × F)

namespace ScoredCycle

open Evolution GenerationCycle

variable {F : Type} [BreedingArithmetic F]

section

def record (results : List (ℤ × F)) (request : EvaluationRequest) (totalFitness : F) :
    List (ℤ × F) :=
  match request.taskType with
  | .generationEval => results ++ [(request.index, totalFitness)]
  | .robustnessEval => results

/-- The results after a step; a new generation has none. -/
def resultsAfter (scored : ScoredCycle F) (after : GenerationCycle F) : Action F → List (ℤ × F)
  | .result request totalFitness _ _ _ =>
      if after.currentGeneration = scored.cycle.currentGeneration then
        record scored.results request totalFitness
      else []
  | .other _ => scored.results

def machine (F : Type) [BreedingArithmetic F] (setup : TrainingSetup) (config : BreedingConfig F) :
    Machine (Action F) (ScoredCycle F) where
  initial scored :=
    (GenerationCycle.machine F setup config).initial scored.cycle ∧ scored.results = []
  step before action after :=
    Step setup config before.cycle action after.cycle ∧
      after.results = before.resultsAfter after.cycle action

def scoredPopulation (evolution : Evolution F) : List (Individual F × F) :=
  evolution.population.zip evolution.fitnessScores

def Carrier (evolution : Evolution F) (index : ℕ) : Prop :=
  ∃ individual, evolution.population[index]? = some individual ∧
    individual.genome.isSome = true

/-- The index has been evaluated, with this result. -/
def Evaluated (results : List (ℤ × F)) (index : ℕ) (fitness : F) : Prop :=
  ((index : ℤ), fitness) ∈ results

/-- A checkpoint would store an evaluated individual that no evaluated one is fitter than. -/
def StoresEvaluated (evolution : Evolution F) (results : List (ℤ × F)) : Prop :=
  ∀ index fitness, checkpointIndex (scoredPopulation evolution) = some (index, fitness) →
    Evaluated results index fitness ∧
      ∀ other otherFitness, Carrier evolution other → Evaluated results other otherFitness →
        less fitness otherFitness = false

/-- Every carrier that has not been evaluated yet loses to an evaluated one: to a positive result,
or to zero at a smaller index. -/
def Outdone (evolution : Evolution F) (results : List (ℤ × F)) : Prop :=
  ∀ index, Carrier evolution index → (∀ fitness, ¬ Evaluated results index fitness) →
    ∃ other fitness, Carrier evolution other ∧ Evaluated results other fitness ∧
      (less zero fitness = true ∨ equal zero fitness = true ∧ other < index)

end

section

variable {setup : TrainingSetup} {config : BreedingConfig F}

/-- The individuals whose evaluations are outstanding. -/
def individualsLeft (outstanding : Multiset EvaluationRequest) : Multiset ℤ :=
  (outstanding.filter (·.taskType = .generationEval)).map EvaluationRequest.index

def indices (size : ℕ) : Multiset ℤ := ((List.range size).map fun (index : ℕ) => (index : ℤ) : List ℤ)

/-- Every individual has been evaluated once or is still to be, and the scores are the results. -/
structure Scored (evolution : Evolution F) (outstanding : Multiset EvaluationRequest)
    (results : List (ℤ × F)) : Prop where
  shared : (results.map Prod.fst : Multiset ℤ) + individualsLeft outstanding =
    indices evolution.population.length
  scores : ∀ index fitness, Evaluated results index fitness →
    evolution.fitnessScores[index]? = some fitness
  blank : ∀ index < evolution.population.length, (∀ fitness, ¬ Evaluated results index fitness) →
    evolution.fitnessScores[index]? = some zero

omit [BreedingArithmetic F] in
theorem individualsLeft_queueGenerationTasks (evolution : Evolution F) :
    individualsLeft (evolution.queueGenerationTasks.requests : Multiset EvaluationRequest) =
      indices evolution.population.length := by
  unfold individualsLeft indices queueGenerationTasks Submission.requests
  rw [Multiset.filter_eq_self.mpr, Multiset.map_coe, List.map_map]
  · rfl
  · intro request member
    obtain ⟨index, _, rfl⟩ := List.mem_map.mp (Multiset.mem_coe.mp member)
    rfl

theorem scored_start {evolution : Evolution F} {size : ℕ}
    (scores : evolution.fitnessScores = List.replicate size zero)
    (population : evolution.population.length = size) :
    Scored evolution evolution.queueGenerationTasks.requests ([] : List (ℤ × F)) where
  shared := by
    rw [individualsLeft_queueGenerationTasks]
    exact zero_add _
  scores _ _ none := absurd none List.not_mem_nil
  blank index inside _ := by
    rw [scores, List.getElem?_replicate, if_pos (population ▸ inside)]

section

omit [BreedingArithmetic F]

theorem individualsLeft_eq_zero {evolution : Evolution F} {outstanding : Multiset EvaluationRequest}
    (owed : Owed evolution outstanding)
    (complete : evolution.population.length ≤ evolution.currentEval) :
    individualsLeft outstanding = 0 := by
  have none : ∀ request ∈ outstanding, request.taskType ≠ .generationEval := by
    intro request member
    have awaits := owed.awaits request member
    have count := owed.count
    rw [Awaits] at awaits
    rw [awaited] at count
    split at awaits
    case isTrue active =>
        rw [awaits.1]
        decide
    case isFalse inactive =>
        rw [if_neg inactive, Nat.sub_eq_zero_of_le complete] at count
        rw [Multiset.card_eq_zero.mp count] at member
        exact absurd member (Multiset.notMem_zero request)
  rw [individualsLeft, Multiset.filter_eq_nil.mpr none]
  rfl

theorem nodup_indices (size : ℕ) : (indices size).Nodup :=
  Multiset.coe_nodup.mpr (List.nodup_range.map Nat.cast_injective)

theorem individualsLeft_cons (request : EvaluationRequest) (rest : Multiset EvaluationRequest) :
    individualsLeft (request ::ₘ rest) =
      match request.taskType with
      | .generationEval => request.index ::ₘ individualsLeft rest
      | .robustnessEval => individualsLeft rest := by
  unfold individualsLeft
  rw [Multiset.filter_cons]
  cases request.taskType with
  | generationEval => exact Multiset.map_cons ..
  | robustnessEval => exact congrArg _ (zero_add _)

end

variable {evolution after : Evolution F} {request : EvaluationRequest}
  {rest : Multiset EvaluationRequest} {results : List (ℤ × F)}

theorem Scored.record (scored : Scored evolution (request ::ₘ rest) results)
    (aligned : evolution.fitnessScores.length = evolution.population.length)
    (inRange : evolution.InRange request.index) (totalFitness : F) (after : Evolution F)
    (population : after.population = evolution.population)
    (scores : after.fitnessScores = match request.taskType with
      | .generationEval => evolution.fitnessScores.set request.index.toNat totalFitness
      | .robustnessEval => evolution.fitnessScores) :
    Scored after rest (ScoredCycle.record results request totalFitness) := by
  have shared := scored.shared
  rw [individualsLeft_cons] at shared
  unfold ScoredCycle.record
  cases task : request.taskType with
  | robustnessEval =>
      rw [task] at scores shared
      exact ⟨population ▸ shared, scores ▸ scored.scores, population ▸ scores ▸ scored.blank⟩
  | generationEval =>
      rw [task] at scores shared
      dsimp only at scores shared ⊢
      obtain ⟨place, same⟩ : ∃ place : ℕ, request.index = place :=
        ⟨request.index.toNat, (Int.toNat_of_nonneg inRange.1).symm⟩
      rw [same, Int.toNat_natCast] at scores
      have inside : place < evolution.fitnessScores.length := by
        rw [aligned]
        exact Int.ofNat_lt.mp (same ▸ inRange.2)
      have distinct := shared ▸ nodup_indices _
      have fresh {fitness : F} : ¬ Evaluated results place fitness := fun evaluated =>
        Multiset.disjoint_left.mp (Multiset.nodup_add.mp distinct).2.2
          (Multiset.mem_coe.mpr (List.mem_map.mpr ⟨_, evaluated, same.symm⟩))
          (Multiset.mem_cons_self _ _)
      refine ⟨?_, fun index fitness evaluated => ?_, fun index below missing => ?_⟩
      · rw [population, ← shared, List.map_append, List.map_singleton, ← Multiset.coe_add,
          Multiset.coe_singleton, add_assoc, Multiset.singleton_add]
      · rw [scores]
        rcases List.mem_append.mp evaluated with earlier | now
        · rw [List.getElem?_set_ne fun here => fresh (here ▸ earlier)]
          exact scored.scores index fitness earlier
        · have pair := List.mem_singleton.mp now
          have here : index = place :=
            Int.ofNat_inj.mp ((congrArg Prod.fst pair).trans same)
          rw [here, List.getElem?_set_self inside]
          exact congrArg some (congrArg Prod.snd pair).symm
      · rw [scores, List.getElem?_set_ne fun here => ?_]
        · exact scored.blank index (population ▸ below) fun fitness earlier =>
            missing fitness (List.mem_append_left _ earlier)
        · refine missing totalFitness (List.mem_append_right _ (List.mem_singleton.mpr ?_))
          rw [← here, same]

theorem scores_takeIn (inRange : evolution.InRange request.index) (totalFitness : F) :
    (evolution.takeIn (request.completed totalFitness)).population = evolution.population ∧
    (evolution.takeIn (request.completed totalFitness)).fitnessScores = match request.taskType with
      | .generationEval => evolution.fitnessScores.set request.index.toNat totalFitness
      | .robustnessEval => evolution.fitnessScores := by
  rw [Evolution.takeIn]
  cases task : request.taskType with
  | generationEval =>
      have counted : (evolution.recordResult (request.completed totalFitness)).counted = _ :=
        counted_recordResult inRange
      simp only [EvaluationRequest.completed, task] at counted ⊢
      exact ⟨congrArg Counted.population counted, congrArg Counted.fitnessScores counted⟩
  | robustnessEval =>
      have counted : (evolution.handleRobustnessSampleResult
          (request.completed totalFitness)).counted = _ :=
        counted_handleRobustnessSampleResult _
      simp only [EvaluationRequest.completed, task] at counted ⊢
      exact ⟨congrArg Counted.population counted, congrArg Counted.fitnessScores counted⟩

variable {cycle : GenerationCycle F}

theorem individualsLeft_submitted (tracked : Tracked setup cycle)
    (awaiting : cycle.outstanding = request ::ₘ rest) {totalFitness : F}
    {environment : ResultEnvironment F} {bred : Bred F} {submission : Option Submission}
    (processed : cycle.evolution.processResult setup environment bred
      (request.completed totalFitness) = some (after, submission))
    (kept : after.counted = (cycle.evolution.takeIn (request.completed totalFitness)).counted) :
    individualsLeft (rest + requestsOf submission) = individualsLeft rest := by
  have owed := tracked.owed_result awaiting processed
  have count := tracked.owed.count
  have awaits := tracked.owed.awaits
  rw [awaiting] at count awaits
  rw [Multiset.card_cons] at count
  have now := awaits request (Multiset.mem_cons_self _ _)
  obtain ⟨inRange, scores, more, _, taken, bounded, _⟩ :=
    tracked.takeIn awaiting totalFitness none
  rcases processResult_awaits tracked.waiting (by omega) now processed with
    ⟨rfl, _, _⟩ | ⟨submitted, rfl, last, _⟩
  · rw [requestsOf, add_zero]
  · have nobody : rest = 0 := Multiset.card_eq_zero.mp (by omega)
    have whole := kept.trans taken
    simp only [counted, Counted.mk.injEq] at whole
    obtain ⟨population, _, _, _, currentEval, _⟩ := whole
    have complete : after.population.length ≤ after.currentEval := by
      rw [population, currentEval]
      rw [Awaits] at now
      split at now
      case isTrue active => exact (tracked.waiting.evaluated active).trans (Nat.le_add_right _ _)
      case isFalse inactive =>
          have one : more = 1 := by
            have counted : (cycle.evolution.recordResult (request.completed totalFitness)).counted =
              _ := counted_recordResult inRange
            rw [Evolution.takeIn] at taken
            simp only [EvaluationRequest.completed, now.1] at taken counted
            have sum := congrArg Counted.currentEval (taken.symm.trans counted)
            dsimp only at sum
            exact Nat.add_left_cancel sum
          rw [awaited, if_neg inactive] at last
          omega
    rw [individualsLeft_eq_zero owed complete, nobody]
    rfl

/-- **One result.** -/
theorem Scored.result (scored : Scored cycle.evolution cycle.outstanding results)
    (tracked : Tracked setup cycle) (awaiting : cycle.outstanding = request ::ₘ rest)
    {totalFitness : F} {environment : ResultEnvironment F} {bred : Bred F}
    {next : GenerationCycle F} {submission : Option Submission}
    (processed : cycle.evolution.processResult setup environment bred
      (request.completed totalFitness) = some (next.evolution, submission))
    (outstanding : next.outstanding = rest + requestsOf submission) :
    Scored next.evolution next.outstanding
      (if next.currentGeneration = cycle.currentGeneration then
        ScoredCycle.record results request totalFitness
      else []) := by
  have goes := tracked.running_of_outstanding (awaiting ▸ Multiset.cons_ne_zero)
  obtain ⟨inRange, _⟩ := tracked.takeIn awaiting totalFitness none
  obtain ⟨samePopulation, sameScores⟩ := scores_takeIn inRange totalFitness
  have generation : cycle.currentGeneration = cycle.evolution.generation := by
    rw [currentGeneration, goes]
    rfl
  have now : (cycle.evolution.takeIn (request.completed totalFitness)).generation =
        cycle.evolution.generation ∧
      (cycle.evolution.takeIn (request.completed totalFitness)).trainingComplete = false := by
    obtain ⟨_, scores, more, _, taken, _⟩ := tracked.takeIn awaiting totalFitness none
    exact ⟨congrArg Counted.generation taken, (congrArg Counted.trainingComplete taken).trans goes⟩
  rw [awaiting] at scored
  rw [generation, outstanding]
  have recorded := scored.record tracked.aligned.scores inRange totalFitness next.evolution
  cases processResult_outcome inRange processed with
  | goesOn kept here =>
      have fields := kept
      simp only [counted, Counted.mk.injEq] at fields
      obtain ⟨population, _, scores, generation', _, _, goes'⟩ := fields
      have same : next.currentGeneration = cycle.evolution.generation := by
        rw [currentGeneration, goes', now.2, if_neg Bool.false_ne_true]
        exact generation'.trans now.1
      rw [if_pos same]
      have whole := recorded (population.trans samePopulation) (scores.trans sameScores)
      refine ⟨?_, whole.scores, whole.blank⟩
      rw [individualsLeft_submitted tracked awaiting processed kept]
      exact whole.shared
  | ends last complete inactive counts =>
      simp only [counted, Counted.mk.injEq] at counts
      obtain ⟨population, _, scores, generation', _, _, finished⟩ := counts
      have same : next.currentGeneration = cycle.evolution.generation := by
        have atLeast : setup.evolutionConfig.maxGenerations ≤ _ + 1 := last.2
        change _ ≤ (cycle.evolution.takeIn (request.completed totalFitness)).generation + 1 at atLeast
        have below := tracked.running goes
        have positive := last.1
        rw [now.1] at atLeast
        rw [currentGeneration, finished, if_pos rfl, generation']
        omega
      rw [if_pos same, requestsOf, add_zero]
      exact recorded (population.trans samePopulation) (scores.trans sameScores)
  | advances further complete counts =>
      simp only [counted, Counted.mk.injEq] at counts
      obtain ⟨population, _, scores, generation', _, _, goes'⟩ := counts
      have other : next.currentGeneration ≠ cycle.evolution.generation := by
        rw [currentGeneration, goes', now.2, if_neg Bool.false_ne_true, generation']
        omega
      have nobody : rest = 0 := by
        have count := tracked.owed.count
        have awaits := tracked.owed.awaits request (awaiting ▸ Multiset.mem_cons_self _ _)
        rw [awaiting, Multiset.card_cons] at count
        rcases processResult_awaits tracked.waiting (by omega) awaits processed with
          ⟨none, _⟩ | ⟨_, _, last, _⟩
        · cases none
        · exact Multiset.card_eq_zero.mp (by omega)
      rw [if_neg other, nobody, zero_add]
      exact scored_start scores (by rw [population, List.length_map])

/-- What holds of the scores in a run. -/
structure Kept (setup : TrainingSetup) (scored : ScoredCycle F) : Prop where
  tracked : Tracked setup scored.cycle
  scores : Scored scored.cycle.evolution scored.cycle.outstanding scored.results

theorem Kept.step {before next : ScoredCycle F} (kept : Kept setup before) {action : Action F}
    (moved : (machine F setup config).step before action next) : Kept setup next := by
  obtain ⟨stepped, results⟩ := moved
  refine ⟨kept.tracked.step stepped, ?_⟩
  rw [results]
  generalize next.cycle = after at stepped
  cases stepped with
  | stays awaiting processed here =>
      exact kept.scores.result kept.tracked awaiting processed rfl
  | advances awaiting breeds processed starts =>
      exact kept.scores.result kept.tracked awaiting processed rfl
  | @other event evolution commanded applied =>
      cases event with
      | result environment bred result => exact absurd rfl (commanded environment bred result)
      | storeBest environment =>
          obtain ⟨_, _, rfl⟩ := storeBestGenome_effect applied
          exact ⟨kept.scores.shared, kept.scores.scores, kept.scores.blank⟩
      | genomeSet | genomeDelete =>
          cases applied
          exact ⟨kept.scores.shared, kept.scores.scores, kept.scores.blank⟩

theorem kept_of_reachable {scored : ScoredCycle F}
    (reached : (machine F setup config).Reachable scored) : Kept setup scored := by
  apply reached.invariant
  · rintro ⟨cycle, results⟩ ⟨⟨repository, randomGenomes, evolution, started, same⟩, none⟩
    dsimp only at same none
    subst same none
    refine ⟨tracked_start repository started, ?_⟩
    rw [initializePopulation] at started
    split at started
    · cases started
    · obtain ⟨groups, _, rfl⟩ := Option.map_eq_some_iff.mp started
      exact scored_start rfl rfl
  · exact fun before action next kept moved => kept.step moved

end

section

variable {evolution : Evolution F} {outstanding : Multiset EvaluationRequest}
  {results : List (ℤ × F)} {setup : TrainingSetup} {config : BreedingConfig F}

/-- A checkpoint of the individual at an index, with its score, or none. -/
def storeChosen (setup : TrainingSetup) (environment : StoreEnvironment F)
    (evolution : Evolution F) (choice : Option (ℕ × F)) : Option (Evolution F) :=
  match choice.bind (chosenCarrier (scoredPopulation evolution)) with
  | none => some evolution
  | some (individual, genome, bestFit) =>
      (storeManagedGenome environment evolution.repository genome
        (checkpointMetadata setup environment.now evolution individual bestFit)
        setup.evolutionConfig.genomeArchiveMaxSize).map fun stored =>
          { evolution with
            repository := stored.1
            bestGenomeId := stored.1.bestId.getD invalidGenomeId }

theorem storeBestGenome_eq (environment : StoreEnvironment F) (evolution : Evolution F) :
    evolution.storeBestGenome setup environment =
      storeChosen setup environment evolution (checkpointIndex (scoredPopulation evolution)) := by
  rw [storeChosen, ← fittestCarrier_eq]
  rfl

section

omit [BreedingArithmetic F]

theorem carrierScore_scoredPopulation {index : ℕ} {fitness : F} :
    carrierScore (scoredPopulation evolution) index = some fitness ↔
      Carrier evolution index ∧ evolution.fitnessScores[index]? = some fitness := by
  unfold carrierScore scoredPopulation Carrier
  rw [Option.bind_eq_some_iff]
  constructor
  · rintro ⟨entry, found, valued⟩
    obtain ⟨individual, score⟩ := List.getElem?_zip_eq_some.mp found
    obtain ⟨genome, carries, rfl⟩ := Option.map_eq_some_iff.mp valued
    exact ⟨⟨entry.1, individual, Option.isSome_iff_exists.mpr ⟨genome, carries⟩⟩, score⟩
  · rintro ⟨⟨individual, found, carries⟩, score⟩
    obtain ⟨genome, carries⟩ := Option.isSome_iff_exists.mp carries
    exact ⟨(individual, fitness), List.getElem?_zip_eq_some.mpr ⟨found, score⟩,
      Option.map_eq_some_iff.mpr ⟨genome, carries, rfl⟩⟩

theorem mem_range_scoredPopulation {index : ℕ} {fitness : F}
    (scored : carrierScore (scoredPopulation evolution) index = some fitness) :
    index ∈ List.range (scoredPopulation evolution).length := by
  obtain ⟨entry, found, _⟩ := Option.bind_eq_some_iff.mp scored
  exact List.mem_range.mpr (List.getElem?_eq_some_iff.mp found).1

end

theorem mem_earlier {size index other : ℕ} {earlier later : List ℕ}
    (split : List.range size = earlier ++ index :: later) (smaller : other < index) :
    other ∈ earlier := by
  have inside : index < size := by
    rw [← List.mem_range, split]
    exact List.mem_append_right _ List.mem_cons_self
  have listed : other ∈ earlier ++ index :: later := by
    rw [← split, List.mem_range]
    omega
  have ascending : (List.range size).Pairwise (· < ·) := List.pairwise_lt_range
  rw [split] at ascending
  refine (List.mem_append.mp listed).resolve_right fun after => ?_
  rcases List.mem_cons.mp after with rfl | after
  · exact lt_irrefl _ smaller
  · exact lt_asymm smaller
      ((List.pairwise_cons.mp (List.pairwise_append.mp ascending).2.1).1 other after)

variable [LawfulNumbers F]

theorem Scored.storesEvaluated (scored : Scored evolution outstanding results)
    (outdone : Outdone evolution results) : StoresEvaluated evolution results := by
  intro index fitness chosen
  obtain ⟨_, value⟩ := leader_mem chosen
  obtain ⟨carrier, score⟩ := carrierScore_scoredPopulation.mp value
  have unbeaten : Unbeaten fitter (carrierScore (scoredPopulation evolution)) _ _ :=
    unbeaten_leader steady_fitter (List.range (scoredPopulation evolution).length)
  rw [show leader fitter (carrierScore (scoredPopulation evolution)) _ = _ from chosen] at unbeaten
  have others (other : ℕ) (otherFitness : F) (carries : Carrier evolution other)
      (evaluated : Evaluated results other otherFitness) : less fitness otherFitness = false := by
    have otherValue := carrierScore_scoredPopulation.mpr
      ⟨carries, scored.scores other otherFitness evaluated⟩
    exact unbeaten.2.2 other (mem_range_scoredPopulation otherValue) otherFitness otherValue
  refine ⟨?_, others⟩
  by_contra missing
  have unevaluated : ∀ result, ¬ Evaluated results index result := fun result evaluated => by
    have same := (scored.scores index result evaluated).symm.trans score
    exact missing (Option.some.inj same ▸ evaluated)
  have inside : index < evolution.population.length := by
    obtain ⟨_, found, _⟩ := carrier
    exact (List.getElem?_eq_some_iff.mp found).1
  have blank : zero = fitness :=
    Option.some.inj ((scored.blank index inside unevaluated).symm.trans score)
  obtain ⟨other, better, carries, evaluated, positive | ⟨tie, before⟩⟩ :=
    outdone index carrier unevaluated
  · have short := others other better carries evaluated
    rw [← blank, positive] at short
    cases short
  · -- the earlier one of equals leads
    obtain ⟨earlier, later, split, weaker⟩ := leader_first steady_fitter chosen
    have otherValue := carrierScore_scoredPopulation.mpr
      ⟨carries, scored.scores other better evaluated⟩
    obtain ⟨old, beats, keeps⟩ := weaker other (mem_earlier split before) better otherValue
    rw [fitter, ← blank] at beats
    rw [fitter, LawfulNumbers.less_of_less_equal _ _ _ beats tie] at keeps
    cases keeps

theorem Scored.outdone (scored : Scored evolution outstanding results)
    (numbers : ∀ result ∈ results, equal result.2 result.2 = true)
    (stores : StoresEvaluated evolution results) : Outdone evolution results := by
  intro index carrier unevaluated
  have inside : index < evolution.population.length := by
    obtain ⟨_, found, _⟩ := carrier
    exact (List.getElem?_eq_some_iff.mp found).1
  have value := carrierScore_scoredPopulation.mpr
    ⟨carrier, scored.blank index inside unevaluated⟩
  have unbeaten : Unbeaten fitter (carrierScore (scoredPopulation evolution))
      (List.range (scoredPopulation evolution).length)
      (checkpointIndex (scoredPopulation evolution)) := unbeaten_leader steady_fitter _
  cases chosen : checkpointIndex (scoredPopulation evolution) with
  | none =>
      rw [chosen] at unbeaten
      rw [unbeaten index (mem_range_scoredPopulation value)] at value
      cases value
  | some choice =>
      obtain ⟨other, fitness⟩ := choice
      obtain ⟨evaluated, _⟩ := stores other fitness chosen
      obtain ⟨carries, _⟩ := carrierScore_scoredPopulation.mp (leader_mem chosen).2
      rw [chosen] at unbeaten
      have short : less fitness zero = false :=
        unbeaten.2.2 index (mem_range_scoredPopulation value) zero value
      refine ⟨other, fitness, carries, evaluated, ?_⟩
      rcases LawfulNumbers.comparable zero fitness LawfulNumbers.zero_number
        (numbers _ evaluated) with positive | tie | negative
      · exact Or.inl positive
      · refine Or.inr ⟨tie, lt_of_not_ge fun later => ?_⟩
        rcases later.lt_or_eq with later | same
        · obtain ⟨earlier, after, split, weaker⟩ := leader_first steady_fitter chosen
          obtain ⟨old, beats, keeps⟩ := weaker index (mem_earlier split later) zero value
          rw [fitter] at beats keeps
          rw [LawfulNumbers.less_of_less_equal _ _ _ beats (LawfulNumbers.equal_symm _ _ tie)]
            at keeps
          cases keeps
        · exact unevaluated fitness (same ▸ evaluated)
      · rw [negative] at short
        cases short

theorem Scored.storesEvaluated_of_complete (scored : Scored evolution 0 results) :
    StoresEvaluated evolution results := by
  refine scored.storesEvaluated fun index carrier unevaluated => ?_
  have inside : index < evolution.population.length := by
    obtain ⟨_, found, _⟩ := carrier
    exact (List.getElem?_eq_some_iff.mp found).1
  have listed : (index : ℤ) ∈ (results.map Prod.fst : Multiset ℤ) + individualsLeft 0 := by
    rw [scored.shared]
    exact Multiset.mem_coe.mpr (List.mem_map.mpr ⟨index, List.mem_range.mpr inside, rfl⟩)
  rw [show individualsLeft 0 = 0 from rfl, add_zero] at listed
  obtain ⟨⟨_, fitness⟩, member, same⟩ := List.mem_map.mp (Multiset.mem_coe.mp listed)
  dsimp only at same
  subst same
  exact absurd member (unevaluated fitness)

end

section

/-! ## A training stopped at once -/

def stopped : Option (ScoredCycle ℚ) :=
  (initializePopulation (contestSetup {}) {} [[], [contestGenome]]).map fun evolution =>
    { cycle := start evolution, results := [] }

theorem reachable_stopped {scored : ScoredCycle ℚ} (found : stopped = some scored) :
    (machine ℚ (contestSetup {}) soloConfig).Reachable scored := by
  obtain ⟨evolution, started, rfl⟩ := Option.map_eq_some_iff.mp found
  exact ⟨_, [], ⟨⟨_, _, evolution, started, rfl⟩, rfl⟩, .nil _⟩

theorem exists_stopped : ∃ scored, stopped = some scored ∧ scored.results = [] ∧
    checkpointIndex (scoredPopulation scored.cycle.evolution) = some (1, 0) := by
  have chosen : stopped.map (fun scored =>
      checkpointIndex (scoredPopulation scored.cycle.evolution)) = some (some (1, 0)) := by
    decide +kernel
  obtain ⟨scored, found, same⟩ := Option.map_eq_some_iff.mp chosen
  refine ⟨scored, found, ?_, same⟩
  obtain ⟨evolution, _, rfl⟩ := Option.map_eq_some_iff.mp found
  rfl

end

end ScoredCycle

end DirtSim
