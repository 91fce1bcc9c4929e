import DirtSim.Training.Breeding
import DirtSim.Training.GenerationCounts
import Mathlib.Data.Multiset.AddSub
import Mathlib.Tactic.Ring

/-! # The bookkeeping of generations

A run hands whole generations and validations to the executor and takes their results in any order
(`GenerationCycle.machine`). Sizes and counts follow, and add up to the estimate
(`GenerationCycle.bookkeeping_of_reachable`). A history of the results is kept that no step reads.
-/

namespace DirtSim

open Foundation Double

def Evolution.estimateTotalEvaluations (maxGenerations populationSize : ℤ) : ℤ :=
  if maxGenerations ≤ 0 ∨ populationSize ≤ 0 then 0
  else
    let total := populationSize +
      (if maxGenerations > 1 then (maxGenerations - 1) * (populationSize * 2) else 0)
    if total > 2147483647 then 2147483647 else total

/-- A run with the data that breeding and its counts need. -/
structure GenerationCycle (F : Type) where
  evolution : Evolution F
  /-- The configured size, set from the first population. -/
  populationSize : ℕ
  wingUpSecondsPerIndividual : List F
  pruneBeforeBreeding : Bool
  /-- The evaluations handed to the executor and not taken back yet. -/
  outstanding : Multiset EvaluationRequest
  /-- The generation of every individual's result taken down so far. -/
  evaluatedIn : List ℤ

namespace GenerationCycle

variable {F : Type} [BreedingArithmetic F]

open Evolution

inductive Action (F : Type)
  | result (request : EvaluationRequest) (totalFitness : F) (wingUpSeconds : Option F)
      (environment : ResultEnvironment F) (choices : List OffspringChoice)
  | other (event : Evolution.Event F)

/-- The wing-up time that the result of an individual reports, if it does. -/
def recordWingUp (cycle : GenerationCycle F) (request : EvaluationRequest)
    (wingUpSeconds : Option F) : List F :=
  match request.taskType, wingUpSeconds with
  | .generationEval, some seconds =>
      cycle.wingUpSecondsPerIndividual.set request.index.toNat seconds
  | _, _ => cycle.wingUpSecondsPerIndividual

def recordGeneration (cycle : GenerationCycle F) (request : EvaluationRequest) : List ℤ :=
  match request.taskType with
  | .generationEval => cycle.evaluatedIn ++ [cycle.evolution.generation]
  | .robustnessEval => cycle.evaluatedIn

def requestsOf (submission : Option Submission) : Multiset EvaluationRequest :=
  match submission with
  | none => 0
  | some submitted => submitted.requests

/-- A result of any outstanding evaluation is taken in. When it completes the generation and
another one follows, that one is bred from the population as the result left it. -/
inductive Step (setup : TrainingSetup) (config : BreedingConfig F) (cycle : GenerationCycle F) :
    Action F → GenerationCycle F → Prop
  | stays {request : EvaluationRequest} {rest : Multiset EvaluationRequest} {totalFitness : F}
      {wingUpSeconds : Option F} {environment : ResultEnvironment F}
      {choices : List OffspringChoice} {bred : Bred F} {evolution : Evolution F}
      {submission : Option Submission} (awaiting : cycle.outstanding = request ::ₘ rest)
      (processed : cycle.evolution.processResult setup environment bred
        (request.completed totalFitness) = some (evolution, submission))
      (here : ∀ submitted ∈ submission, submitted.startsGeneration = false) :
      Step setup config cycle (.result request totalFitness wingUpSeconds environment choices)
        { cycle with
          evolution := evolution
          wingUpSecondsPerIndividual := cycle.recordWingUp request wingUpSeconds
          outstanding := rest + requestsOf submission
          evaluatedIn := cycle.recordGeneration request }
  | advances {request : EvaluationRequest} {rest : Multiset EvaluationRequest} {totalFitness : F}
      {wingUpSeconds : Option F} {environment : ResultEnvironment F}
      {choices : List OffspringChoice} {bred : Bred F} {evolution : Evolution F}
      {submission : Submission} (awaiting : cycle.outstanding = request ::ₘ rest)
      (breeds : (cycle.evolution.takeIn (request.completed totalFitness)).breed setup config
        cycle.populationSize cycle.pruneBeforeBreeding choices = some bred)
      (processed : cycle.evolution.processResult setup environment bred
        (request.completed totalFitness) = some (evolution, some submission))
      (starts : submission.startsGeneration = true) :
      Step setup config cycle (.result request totalFitness wingUpSeconds environment choices)
        { cycle with
          evolution := evolution
          wingUpSecondsPerIndividual :=
            if setup.evolutionConfig.maxGenerations ≤ 0 ∨
                evolution.generation < setup.evolutionConfig.maxGenerations then
              List.replicate evolution.population.length zero
            else cycle.recordWingUp request wingUpSeconds
          pruneBeforeBreeding := !choices.isEmpty
          outstanding := rest + (submission.requests : Multiset EvaluationRequest)
          evaluatedIn := cycle.recordGeneration request }
  | other {event : Evolution.Event F} {evolution : Evolution F}
      (commanded : ∀ environment bred result, event ≠ .result environment bred result)
      (applied : event.apply setup cycle.evolution = some evolution) :
      Step setup config cycle (.other event) { cycle with evolution := evolution }

def start (evolution : Evolution F) : GenerationCycle F where
  evolution := evolution
  populationSize := evolution.population.length
  wingUpSecondsPerIndividual := List.replicate evolution.population.length zero
  pruneBeforeBreeding := false
  outstanding := evolution.queueGenerationTasks.requests
  evaluatedIn := []

def machine (F : Type) [BreedingArithmetic F] (setup : TrainingSetup)
    (config : BreedingConfig F) : Machine (Action F) (GenerationCycle F) where
  initial cycle := ∃ repository randomGenomes evolution,
    initializePopulation setup repository randomGenomes = some evolution ∧ cycle = start evolution
  step := Step setup config

section

omit [BreedingArithmetic F]

/-- The generation being evaluated, or the last one once the training is complete. -/
def currentGeneration (cycle : GenerationCycle F) : ℤ :=
  if cycle.evolution.trainingComplete then cycle.evolution.generation - 1
  else cycle.evolution.generation

def generationSize (populationSize : ℕ) (generation : ℤ) : ℕ :=
  if generation = 0 then populationSize else 2 * populationSize

/-- How many individuals the generations before one have. -/
def evaluationsBefore (populationSize : ℕ) (generation : ℤ) : ℕ :=
  if generation = 0 then 0 else populationSize + (generation - 1).toNat * (2 * populationSize)

/-- The vectors beside the population have its length. -/
structure Aligned (cycle : GenerationCycle F) : Prop where
  origins : cycle.evolution.populationOrigins.length = cycle.evolution.population.length
  scores : cycle.evolution.fitnessScores.length = cycle.evolution.population.length
  wingUps : cycle.wingUpSecondsPerIndividual.length = cycle.evolution.population.length

/-- What the counts of a run say. -/
structure Bookkeeping (setup : TrainingSetup) (cycle : GenerationCycle F) : Prop where
  aligned : cycle.Aligned
  size : cycle.evolution.population.length =
    generationSize cycle.populationSize cycle.currentGeneration
  current : cycle.evolution.currentEval = cycle.evaluatedIn.count cycle.currentGeneration
  total : cycle.evolution.trainingComplete = true →
    (cycle.populationSize : ℤ) + (setup.evolutionConfig.maxGenerations - 1) *
        (cycle.populationSize * 2) ≤ 2147483647 →
      (cycle.evolution.completedEvaluations : ℤ) =
        estimateTotalEvaluations setup.evolutionConfig.maxGenerations cycle.populationSize
  generations : cycle.evolution.trainingComplete = true →
    0 < setup.evolutionConfig.maxGenerations ∧
      ∀ generation, cycle.evaluatedIn.count generation =
        if 0 ≤ generation ∧ generation < setup.evolutionConfig.maxGenerations then
          generationSize cycle.populationSize generation
        else 0

end

section

/-! ## What holds between results -/

variable {setup : TrainingSetup} {config : BreedingConfig F} {cycle after : GenerationCycle F}

/-- What is outstanding is what the run waits for. -/
structure Owed (evolution : Evolution F) (outstanding : Multiset EvaluationRequest) : Prop where
  count : outstanding.card = evolution.awaited
  awaits : ∀ request ∈ outstanding, evolution.Awaits request

/-- The counts of a run between two results. -/
structure Tracked (setup : TrainingSetup) (cycle : GenerationCycle F) : Prop where
  waiting : Waiting setup cycle.evolution
  owed : Owed cycle.evolution cycle.outstanding
  aligned : cycle.Aligned
  size : cycle.evolution.population.length =
    generationSize cycle.populationSize cycle.currentGeneration
  prunes : cycle.pruneBeforeBreeding = decide (0 < cycle.currentGeneration)
  evaluated : ∀ generation, cycle.evaluatedIn.count generation =
    if generation = cycle.currentGeneration then cycle.evolution.currentEval
    else if 0 ≤ generation ∧ generation < cycle.currentGeneration then
      generationSize cycle.populationSize generation
    else 0
  total : cycle.evolution.completedEvaluations =
    evaluationsBefore cycle.populationSize cycle.currentGeneration + cycle.evolution.currentEval
  started : 0 ≤ cycle.currentGeneration
  bounded : cycle.evolution.currentEval ≤ cycle.evolution.population.length
  running : cycle.evolution.trainingComplete = false →
    setup.evolutionConfig.maxGenerations ≤ 0 ∨
      cycle.evolution.generation < setup.evolutionConfig.maxGenerations
  ended : cycle.evolution.trainingComplete = true → 0 < setup.evolutionConfig.maxGenerations ∧
    cycle.evolution.generation = setup.evolutionConfig.maxGenerations ∧
    cycle.evolution.currentEval = cycle.evolution.population.length ∧ cycle.outstanding = 0

omit [BreedingArithmetic F] in
theorem owed_of_submits {evolution : Evolution F} {submission : Submission}
    (submits : evolution.Submits submission) :
    Owed evolution (submission.requests : Multiset EvaluationRequest) where
  count := submits.1
  awaits request member := submits.2 request (Multiset.mem_coe.mp member)

theorem tracked_start (repository : GenomeRepository F) {randomGenomes : List (List Genome)}
    {evolution : Evolution F}
    (started : initializePopulation setup repository randomGenomes = some evolution) :
    Tracked setup (start evolution) := by
  have waiting := waiting_of_initial repository started
  have submits := submits_initial repository started
  rw [initializePopulation] at started
  split at started
  · cases started
  · obtain ⟨groups, _, rfl⟩ := Option.map_eq_some_iff.mp started
    refine ⟨waiting, owed_of_submits submits, ⟨?_, ?_, ?_⟩, rfl, rfl, ?_, rfl, le_rfl,
      Nat.zero_le _, ?_, ?_⟩
    · exact List.length_replicate
    · exact List.length_replicate
    · exact List.length_replicate
    · intro generation
      simp only [start, List.count_nil, currentGeneration, Bool.false_eq_true, ↓reduceIte]
      split
      · rfl
      · rw [if_neg]
        rintro ⟨nonneg, negative⟩
        exact absurd negative (not_lt.mpr nonneg)
    · intro _
      by_cases endless : setup.evolutionConfig.maxGenerations ≤ 0
      · exact Or.inl endless
      · exact Or.inr (not_le.mp endless)
    · intro complete
      cases complete

section

variable (tracked : Tracked setup cycle) {request : EvaluationRequest}
  {rest : Multiset EvaluationRequest} (awaiting : cycle.outstanding = request ::ₘ rest)
include tracked awaiting

theorem Tracked.owed_result {totalFitness : F} {environment : ResultEnvironment F} {bred : Bred F}
    {evolution : Evolution F} {submission : Option Submission}
    (processed : cycle.evolution.processResult setup environment bred
      (request.completed totalFitness) = some (evolution, submission)) :
    Owed evolution (rest + requestsOf submission) := by
  have count := tracked.owed.count
  have awaits := tracked.owed.awaits
  rw [awaiting] at count awaits
  rw [Multiset.card_cons] at count
  rcases processResult_awaits tracked.waiting (by omega)
    (awaits request (Multiset.mem_cons_self _ _)) processed with
    ⟨rfl, fewer, kept⟩ | ⟨submitted, rfl, last, submits⟩
  · rw [requestsOf, add_zero]
    refine ⟨by omega, ?_⟩
    intro other member
    have more : 0 < rest.card := Multiset.card_pos_iff_exists_mem.mpr ⟨other, member⟩
    exact kept (by omega) other (awaits other (Multiset.mem_cons_of_mem member))
  · have none : rest = 0 := Multiset.card_eq_zero.mp (by omega)
    rw [none, zero_add]
    exact owed_of_submits submits

theorem Tracked.takeIn (totalFitness : F) (wingUpSeconds : Option F) :
    cycle.evolution.InRange request.index ∧
      ∃ scores more, scores.length = cycle.evolution.population.length ∧
        (cycle.evolution.takeIn (request.completed totalFitness)).counted =
          { cycle.evolution.counted with
            fitnessScores := scores
            completedEvaluations := cycle.evolution.completedEvaluations + more
            currentEval := cycle.evolution.currentEval + more } ∧
        cycle.evolution.currentEval + more ≤ cycle.evolution.population.length ∧
        cycle.recordGeneration request =
          cycle.evaluatedIn ++ List.replicate more cycle.evolution.generation ∧
        (cycle.recordWingUp request wingUpSeconds).length =
          cycle.evolution.population.length := by
  have awaits := tracked.owed.awaits request (awaiting ▸ Multiset.mem_cons_self _ _)
  have count := tracked.owed.count
  rw [awaiting, Multiset.card_cons] at count
  cases active : cycle.evolution.robustnessPass.active with
  | true =>
      rw [Awaits, if_pos active] at awaits
      obtain ⟨sample, _, sameIndex⟩ := awaits
      refine ⟨sameIndex ▸ inRange_of_carrierAt (tracked.waiting.carried active), _, 0,
        tracked.aligned.scores, ?_, tracked.bounded, ?_, ?_⟩
      · rw [Evolution.takeIn]
        simp only [EvaluationRequest.completed, sample]
        rw [counted_handleRobustnessSampleResult]
        rfl
      · rw [recordGeneration, sample, List.replicate_zero, List.append_nil]
      · simp only [recordWingUp, sample]
        exact tracked.aligned.wingUps
  | false =>
      rw [Awaits, active] at awaits
      obtain ⟨individual, inRange⟩ := awaits
      have left : 0 < cycle.evolution.population.length - cycle.evolution.currentEval := by
        rw [awaited, active] at count
        simp only [Bool.false_eq_true, ↓reduceIte] at count
        omega
      refine ⟨inRange, cycle.evolution.fitnessScores.set request.index.toNat totalFitness, 1, ?_,
        ?_, by omega, ?_, ?_⟩
      · rw [List.length_set]
        exact tracked.aligned.scores
      · rw [Evolution.takeIn]
        simp only [EvaluationRequest.completed, individual]
        exact counted_recordResult inRange
      · rw [recordGeneration, individual, List.replicate_one]
      · simp only [recordWingUp, individual]
        cases wingUpSeconds with
        | none => exact tracked.aligned.wingUps
        | some seconds =>
            rw [List.length_set]
            exact tracked.aligned.wingUps

end

section

omit [BreedingArithmetic F]

theorem count_append_replicate (evaluatedIn : List ℤ) (more : ℕ) (current generation : ℤ) :
    (evaluatedIn ++ List.replicate more current).count generation =
      evaluatedIn.count generation + if generation = current then more else 0 := by
  rw [List.count_append, List.count_replicate]
  by_cases same : generation = current
  · rw [if_pos same, if_pos (beq_iff_eq.mpr same.symm)]
  · rw [if_neg same, if_neg fun equal => same (beq_iff_eq.mp equal).symm]

theorem evaluationsBefore_succ (populationSize : ℕ) {generation : ℤ} (nonneg : 0 ≤ generation) :
    evaluationsBefore populationSize (generation + 1) =
      evaluationsBefore populationSize generation + generationSize populationSize generation := by
  rw [evaluationsBefore, evaluationsBefore, generationSize, if_neg (by omega),
    add_sub_cancel_right]
  by_cases first : generation = 0
  · rw [if_pos first, if_pos first, first]
    simp [zero_mul]
  · have later : generation.toNat = (generation - 1).toNat + 1 := by omega
    rw [if_neg first, if_neg first, later, add_mul, one_mul, add_assoc]

theorem evaluations_eq_estimate (populationSize : ℕ) {maxGenerations : ℤ}
    (positive : 0 < maxGenerations)
    (fits : (populationSize : ℤ) + (maxGenerations - 1) * (populationSize * 2) ≤ 2147483647) :
    ((evaluationsBefore populationSize (maxGenerations - 1) +
        generationSize populationSize (maxGenerations - 1) : ℕ) : ℤ) =
      estimateTotalEvaluations maxGenerations populationSize := by
  have closed : ((evaluationsBefore populationSize (maxGenerations - 1) +
      generationSize populationSize (maxGenerations - 1) : ℕ) : ℤ) =
        (populationSize : ℤ) + (maxGenerations - 1) * (populationSize * 2) := by
    obtain ⟨count, rfl⟩ : ∃ count : ℕ, maxGenerations = count + 1 :=
      ⟨(maxGenerations - 1).toNat, by omega⟩
    rw [add_sub_cancel_right]
    clear fits positive
    induction count with
    | zero => simp [evaluationsBefore, generationSize, zero_mul]
    | succ count ih =>
        have next : generationSize populationSize ((count : ℤ) + 1) = 2 * populationSize :=
          if_neg (by omega)
        rw [Nat.cast_succ, evaluationsBefore_succ _ (Int.natCast_nonneg count), next, Nat.cast_add,
          ih]
        push_cast
        ring
  rw [closed, estimateTotalEvaluations]
  by_cases nobody : (populationSize : ℤ) ≤ 0
  · have zero : (populationSize : ℤ) = 0 := le_antisymm nobody (Int.natCast_nonneg _)
    rw [if_pos (Or.inr nobody), zero]
    ring
  · rw [if_neg (not_or.mpr ⟨not_le.mpr positive, nobody⟩)]
    have total : (populationSize : ℤ) +
        (if maxGenerations > 1 then (maxGenerations - 1) * (populationSize * 2) else 0) =
          populationSize + (maxGenerations - 1) * (populationSize * 2) := by
      split
      · rfl
      · have single : maxGenerations = 1 := by omega
        rw [single]
        ring
    rw [total, if_neg (not_lt.mpr fits)]

end

theorem Tracked.running_of_outstanding (tracked : Tracked setup cycle)
    (some : cycle.outstanding ≠ 0) : cycle.evolution.trainingComplete = false := by
  cases complete : cycle.evolution.trainingComplete with
  | false => rfl
  | true => exact absurd (tracked.ended complete).2.2.2 some

/-- **One result.** -/
theorem Tracked.result (tracked : Tracked setup cycle) {request : EvaluationRequest}
    {rest : Multiset EvaluationRequest} (awaiting : cycle.outstanding = request ::ₘ rest)
    {totalFitness : F} (wingUpSeconds : Option F) {environment : ResultEnvironment F}
    {bred : Bred F} {evolution : Evolution F} {submission : Option Submission}
    (processed : cycle.evolution.processResult setup environment bred
      (request.completed totalFitness) = some (evolution, submission))
    (populationSize : after.populationSize = cycle.populationSize)
    (same : after.evolution = evolution)
    (outstanding : after.outstanding = rest + requestsOf submission)
    (history : after.evaluatedIn = cycle.recordGeneration request)
    (stays : (∀ submitted ∈ submission, submitted.startsGeneration = false) →
      after.wingUpSecondsPerIndividual = cycle.recordWingUp request wingUpSeconds ∧
        after.pruneBeforeBreeding = cycle.pruneBeforeBreeding)
    (advances : (∃ submitted ∈ submission, submitted.startsGeneration = true) →
      after.wingUpSecondsPerIndividual.length = bred.members.length ∧
        after.pruneBeforeBreeding = true ∧
        bred.members.length = 2 * cycle.populationSize) : Tracked setup after := by
  subst same
  have goes := tracked.running_of_outstanding (awaiting ▸ Multiset.cons_ne_zero)
  obtain ⟨inRange, scores, more, scored, taken, bounded, recorded, wings⟩ :=
    tracked.takeIn awaiting totalFitness wingUpSeconds
  have waiting : Waiting setup after.evolution := by
    have applied : (Evolution.Event.result environment bred (request.completed totalFitness)).apply
        setup cycle.evolution = some after.evolution :=
      Option.map_eq_some_iff.mpr ⟨_, processed, rfl⟩
    exact (tracked.waiting.step applied).1
  have owed : Owed after.evolution after.outstanding :=
    outstanding ▸ tracked.owed_result awaiting processed
  have generation : cycle.currentGeneration = cycle.evolution.generation := by
    rw [currentGeneration, goes]
    rfl
  have started := tracked.started
  have total := tracked.total
  have size := tracked.size
  have evaluated : ∀ other, after.evaluatedIn.count other =
      (if other = cycle.evolution.generation then cycle.evolution.currentEval + more
        else if 0 ≤ other ∧ other < cycle.evolution.generation then
          generationSize cycle.populationSize other
        else 0) := by
    intro other
    rw [history, recorded, count_append_replicate, tracked.evaluated other, generation]
    split <;> simp
  rw [generation] at started total size
  -- while its generation goes on, or was the last, a result leaves the other books as they were
  have stay {next : ℤ} {complete : Bool} (counts : after.evolution.counted =
        { cycle.evolution.counted with
          fitnessScores := scores
          completedEvaluations := cycle.evolution.completedEvaluations + more
          currentEval := cycle.evolution.currentEval + more
          generation := next
          trainingComplete := complete })
      (here : ∀ submitted ∈ submission, submitted.startsGeneration = false)
      (sameCurrent : (if complete then next - 1 else next) = cycle.evolution.generation)
      (running : complete = false → setup.evolutionConfig.maxGenerations ≤ 0 ∨
        next < setup.evolutionConfig.maxGenerations)
      (ended : complete = true → 0 < setup.evolutionConfig.maxGenerations ∧
        next = setup.evolutionConfig.maxGenerations ∧
        cycle.evolution.currentEval + more = cycle.evolution.population.length ∧
        after.outstanding = 0) : Tracked setup after := by
    simp only [counted, Counted.mk.injEq] at counts
    obtain ⟨population, origins, fitnessScores, rfl, currentEval, completed, rfl⟩ := counts
    obtain ⟨wingUps, prunes⟩ := stays here
    refine ⟨waiting, owed, ⟨?_, ?_, ?_⟩, ?_, ?_, ?_, ?_, ?_, ?_, running, ?_⟩
    · rw [origins, population]
      exact tracked.aligned.origins
    · rw [fitnessScores, population]
      exact scored
    · rw [wingUps, population]
      exact wings
    · rw [population, populationSize, currentGeneration, sameCurrent]
      exact size
    · rw [prunes, tracked.prunes, generation, currentGeneration, sameCurrent]
    · rw [currentGeneration, sameCurrent, currentEval, populationSize]
      exact evaluated
    · rw [completed, currentEval, currentGeneration, sameCurrent, populationSize, total, add_assoc]
    · rw [currentGeneration, sameCurrent]
      exact started
    · rw [currentEval, population]
      exact bounded
    · rw [currentEval, population]
      exact ended
  have outcome := processResult_outcome inRange processed
  rw [taken] at outcome
  cases outcome with
  | goesOn kept here =>
      apply stay kept here generation (fun _ => tracked.running goes)
      intro complete
      exact absurd (goes.symm.trans complete) Bool.false_ne_true
  | ends last complete inactive counts =>
      refine stay counts (fun _ none => by cases none) ?_ (fun goesOn => by cases goesOn) ?_
      · -- the generation that ended was the last one
        have below := tracked.running goes
        have atLeast : setup.evolutionConfig.maxGenerations ≤ cycle.evolution.generation + 1 :=
          last.2
        have positive := last.1
        rw [if_pos rfl]
        omega
      · intro _
        have whole : cycle.evolution.population.length ≤ cycle.evolution.currentEval + more :=
          complete
        refine ⟨last.1, rfl, le_antisymm bounded whole, ?_⟩
        have none := owed.count
        simp only [counted, Counted.mk.injEq] at counts
        obtain ⟨population, _, _, _, currentEval, _, _⟩ := counts
        rw [awaited, inactive, currentEval, population] at none
        simp only [Bool.false_eq_true, ↓reduceIte, Nat.sub_eq_zero_of_le whole] at none
        exact Multiset.card_eq_zero.mp none
  | advances further complete counts =>
      simp only [counted, Counted.mk.injEq] at counts
      obtain ⟨population, origins, fitnessScores, nextGeneration, currentEval, completed, same⟩ :=
        counts
      have stillGoes : after.evolution.trainingComplete = false := same.trans goes
      have nextCurrent : after.currentGeneration = cycle.evolution.generation + 1 := by
        rw [currentGeneration, stillGoes]
        exact nextGeneration
      have whole : cycle.evolution.population.length = cycle.evolution.currentEval + more :=
        le_antisymm complete bounded
      obtain ⟨wingUps, prunes, members⟩ := advances ⟨_, rfl, rfl⟩
      refine ⟨waiting, owed, ⟨?_, ?_, ?_⟩, ?_, ?_, ?_, ?_, ?_, ?_, ?_, ?_⟩
      · rw [origins, population, List.length_map, List.length_map]
      · rw [fitnessScores, population, List.length_map, List.length_replicate]
      · rw [wingUps, population, List.length_map]
      · rw [population, populationSize, nextCurrent, List.length_map, members, generationSize,
          if_neg (by omega)]
      · rw [prunes, nextCurrent, decide_eq_true (by omega)]
      · -- the generation just completed is now an earlier one, and the next one has no result
        intro other
        rw [evaluated, nextCurrent, currentEval, populationSize, ← whole, size]
        by_cases now : other = cycle.evolution.generation
        · rw [if_pos now, if_neg (by omega), if_pos (by omega), now]
        · rw [if_neg now]
          by_cases next : other = cycle.evolution.generation + 1
          · rw [if_pos next, if_neg (by omega)]
          · rw [if_neg next]
            by_cases earlier : 0 ≤ other ∧ other < cycle.evolution.generation
            · rw [if_pos earlier, if_pos (by omega)]
            · rw [if_neg earlier, if_neg (by omega)]
      · rw [completed, currentEval, nextCurrent, populationSize, evaluationsBefore_succ _ started,
          total, add_zero, add_assoc, ← whole, size]
      · rw [nextCurrent]
        omega
      · rw [currentEval]
        exact Nat.zero_le _
      · intro _
        rw [nextGeneration]
        exact further
      · intro complete
        rw [stillGoes] at complete
        cases complete

theorem Tracked.step (tracked : Tracked setup cycle) {action : Action F}
    (moved : Step setup config cycle action after) : Tracked setup after := by
  cases moved with
  | @stays request rest totalFitness wingUpSeconds environment choices bred evolution submission
      awaiting processed here =>
      refine tracked.result awaiting wingUpSeconds processed rfl rfl rfl rfl (fun _ => ⟨rfl, rfl⟩) ?_
      rintro ⟨submitted, among, starts⟩
      rw [here submitted among] at starts
      cases starts
  | @advances request rest totalFitness wingUpSeconds environment choices bred evolution submission
      awaiting breeds processed starts =>
      refine tracked.result awaiting wingUpSeconds processed rfl rfl rfl rfl ?_ ?_
      · intro here
        rw [here submission rfl] at starts
        cases starts
      · intro _
        obtain ⟨inRange, scores, more, scored, taken, _, _, _⟩ :=
          tracked.takeIn awaiting totalFitness wingUpSeconds
        simp only [counted, Counted.mk.injEq] at taken
        obtain ⟨population, origins, fitnessScores, _⟩ := taken
        obtain ⟨positive, chosen, members⟩ := length_breed
          (by rw [fitnessScores, population, scored])
          (by rw [origins, population, tracked.aligned.origins]) breeds
        have twice : bred.members.length = 2 * cycle.populationSize := by
          rw [members, population, tracked.size, tracked.prunes, generationSize]
          have started := tracked.started
          by_cases first : cycle.currentGeneration = 0
          · simp only [first, lt_irrefl, decide_false, Bool.false_eq_true, ↓reduceIte]
            omega
          · have later : 0 < cycle.currentGeneration := by omega
            simp only [first, later, decide_true, ↓reduceIte]
            omega
        refine ⟨?_, ?_, twice⟩
        · cases processResult_outcome inRange processed with
          | goesOn _ here =>
              rw [here submission rfl] at starts
              cases starts
          | advances further _ counts =>
              simp only [counted, Counted.mk.injEq] at counts
              obtain ⟨bredPopulation, _, _, nextGeneration, _⟩ := counts
              have resets : setup.evolutionConfig.maxGenerations ≤ 0 ∨
                  evolution.generation < setup.evolutionConfig.maxGenerations := by
                rw [nextGeneration]
                exact further
              rw [if_pos resets, List.length_replicate, bredPopulation, List.length_map]
        · have some : choices ≠ [] := List.ne_nil_of_length_pos (by omega)
          cases choices with
          | nil => exact absurd rfl some
          | cons _ _ => rfl
  | @other event evolution commanded applied =>
      have waiting := (tracked.waiting.step applied).1
      cases event with
      | result environment bred result => exact absurd rfl (commanded environment bred result)
      | storeBest environment =>
          obtain ⟨repository, bestGenomeId, same⟩ := storeBestGenome_effect applied
          subst same
          exact { tracked with
            waiting := waiting
            owed := ⟨tracked.owed.count, tracked.owed.awaits⟩
            aligned := ⟨tracked.aligned.origins, tracked.aligned.scores, tracked.aligned.wingUps⟩ }
      | genomeSet | genomeDelete =>
          cases applied
          exact { tracked with
            waiting := waiting
            owed := ⟨tracked.owed.count, tracked.owed.awaits⟩
            aligned := ⟨tracked.aligned.origins, tracked.aligned.scores, tracked.aligned.wingUps⟩ }

theorem tracked_of_reachable (reached : (machine F setup config).Reachable cycle) :
    Tracked setup cycle := by
  apply reached.invariant
  · intro state initial
    obtain ⟨repository, _, evolution, started, rfl⟩ := initial
    exact tracked_start repository started
  · intro before action next tracked moved
    exact tracked.step moved

/-- **The bookkeeping of a run.** At any time the vectors are aligned, the generation has its
size, and its results taken in are counted; a complete training has evaluated each of its
generations whole, as many individuals as estimated. -/
theorem bookkeeping_of_reachable (reached : (machine F setup config).Reachable cycle) :
    cycle.Bookkeeping setup := by
  have tracked := tracked_of_reachable reached
  have lastOf : cycle.evolution.trainingComplete = true →
      cycle.currentGeneration = setup.evolutionConfig.maxGenerations - 1 := by
    intro complete
    rw [currentGeneration, if_pos complete, (tracked.ended complete).2.1]
  refine ⟨tracked.aligned, tracked.size, ?_, ?_, ?_⟩
  · rw [tracked.evaluated, if_pos rfl]
  · intro complete fits
    obtain ⟨positive, _, whole, _⟩ := tracked.ended complete
    rw [tracked.total, lastOf complete, whole, tracked.size, lastOf complete]
    exact evaluations_eq_estimate cycle.populationSize positive fits
  · intro complete
    obtain ⟨positive, _, whole, _⟩ := tracked.ended complete
    refine ⟨positive, ?_⟩
    intro generation
    rw [tracked.evaluated, lastOf complete, whole, tracked.size, lastOf complete]
    by_cases last : generation = setup.evolutionConfig.maxGenerations - 1
    · rw [if_pos last, if_pos (by omega), last]
    · rw [if_neg last]
      by_cases earlier : 0 ≤ generation ∧ generation < setup.evolutionConfig.maxGenerations - 1
      · rw [if_pos earlier, if_pos (by omega)]
      · rw [if_neg earlier, if_neg (by omega)]

end

section

/-! ## One tree over two generations -/

/-- Enough for populations whose genomes are never compared. -/
instance : BreedingArithmetic ℚ where
  add first second := first + second
  div first second := first / second
  sqrt value := value
  ofWeight bits := bits.toNat
  ofNat count := count
  infinity := 2 ^ 1024
  distanceTieEpsilon := 1 / 10 ^ 12

def soloSetup : TrainingSetup :=
  { contestSetup { maxGenerations := 2 } with
    trainingSpec := {
      scenarioId := ⟨8⟩
      organismType := .tree
      population := [{ brainKind := text "RuleBased", count := 1 }] } }

def soloConfig : BreedingConfig ℚ where
  tournamentSize := 1
  diversityEliteFitnessEpsilon := 0

def soloEnvironment : ResultEnvironment ℚ := ⟨storingAt 0 (0, 0), storingAt 0 (0, 0)⟩

def soloChoice : OffspringChoice := { draws := [0], mutatedGenome := ⟨[]⟩, totalChanges := 0 }

def soloRequest (index : ℤ) : EvaluationRequest :=
  { taskType := .generationEval, index := index }

/-- The first population, the next generation, and the run after each of its three results. -/
structure SoloRun where
  first : Evolution ℚ
  bred : Bred ℚ
  second : Evolution ℚ × Option Submission
  third : Evolution ℚ × Option Submission
  last : Evolution ℚ × Option Submission

def soloRun : Option SoloRun :=
  (initializePopulation soloSetup {} [[]]).bind fun first =>
    ((first.takeIn ((soloRequest 0).completed 1)).breed soloSetup soloConfig 1 false
        [soloChoice]).bind fun bred =>
      (first.processResult soloSetup soloEnvironment bred ((soloRequest 0).completed 1)).bind
        fun second => (second.1.processResult soloSetup soloEnvironment bred
            ((soloRequest 0).completed 3)).bind fun third =>
          (third.1.processResult soloSetup soloEnvironment bred
            ((soloRequest 1).completed 2)).map fun last => ⟨first, bred, second, third, last⟩

/-- What is read off the run of one tree. -/
structure SoloFacts where
  individuals : ℕ
  submitted : Option (Bool × List EvaluationRequest)
  submittedThen : Option Bool
  submittedLast : Option Bool
  complete : Bool
  completedEvaluations : ℕ
deriving DecidableEq

def SoloRun.facts (run : SoloRun) : SoloFacts where
  individuals := run.first.population.length
  submitted := run.second.2.map fun submission =>
    (submission.startsGeneration, submission.requests)
  submittedThen := run.third.2.map Submission.startsGeneration
  submittedLast := run.last.2.map Submission.startsGeneration
  complete := run.last.1.trainingComplete
  completedEvaluations := run.last.1.completedEvaluations

theorem soloRun_facts : soloRun.map SoloRun.facts = some {
    individuals := 1
    submitted := some (true, [soloRequest 0, soloRequest 1])
    submittedThen := none
    submittedLast := none
    complete := true
    completedEvaluations := 3 } := by
  decide +kernel

theorem bookkeeping_of_solo :
    ∃ cycle, (machine ℚ soloSetup soloConfig).Reachable cycle ∧
      cycle.evolution.trainingComplete = true ∧ cycle.evolution.completedEvaluations = 3 ∧
      cycle.Bookkeeping soloSetup := by
  obtain ⟨run, ran, facts⟩ := Option.map_eq_some_iff.mp soloRun_facts
  obtain ⟨first, started, ran⟩ := Option.bind_eq_some_iff.mp ran
  obtain ⟨bred, breeds, ran⟩ := Option.bind_eq_some_iff.mp ran
  obtain ⟨⟨second, submission⟩, processed, ran⟩ := Option.bind_eq_some_iff.mp ran
  obtain ⟨⟨third, submissionThen⟩, processedThen, ran⟩ := Option.bind_eq_some_iff.mp ran
  obtain ⟨⟨last, submissionLast⟩, processedLast, same⟩ := Option.map_eq_some_iff.mp ran
  subst same
  simp only [SoloRun.facts, SoloFacts.mk.injEq, Option.map_eq_none_iff] at facts
  obtain ⟨one, batch, noneThen, noneLast, complete, three⟩ := facts
  obtain ⟨batch, submits, same⟩ := Option.map_eq_some_iff.mp batch
  obtain ⟨starts, requests⟩ := Prod.mk.inj same
  subst submits noneThen noneLast
  have queued : (start first).outstanding = soloRequest 0 ::ₘ 0 := by
    rw [start, queueGenerationTasks, one]
    rfl
  have reachedFirst : (machine ℚ soloSetup soloConfig).Reachable (start first) :=
    ⟨start first, [], ⟨{}, [[]], first, started, rfl⟩, .nil _⟩
  have breedsAll : (first.takeIn ((soloRequest 0).completed 1)).breed soloSetup soloConfig
      first.population.length false [soloChoice] = some bred := by
    rw [one]
    exact breeds
  have reachedSecond := reachedFirst.step (show (machine ℚ soloSetup soloConfig).step _
    (.result (soloRequest 0) 1 none soloEnvironment [soloChoice]) _ from
      .advances queued breedsAll processed starts)
  rw [requests, zero_add] at reachedSecond
  generalize both : (([soloRequest 0, soloRequest 1] : List EvaluationRequest) :
    Multiset EvaluationRequest) = waiting at reachedSecond
  rw [← Multiset.cons_coe] at both
  have reachedThird := reachedSecond.step (show (machine ℚ soloSetup soloConfig).step _
    (.result (soloRequest 0) 3 none soloEnvironment []) _ from
      .stays both.symm processedThen fun _ none => by cases none)
  have reachedLast := reachedThird.step (show (machine ℚ soloSetup soloConfig).step _
    (.result (soloRequest 1) 2 none soloEnvironment []) _ from
      .stays (Multiset.cons_zero _) processedLast fun _ none => by cases none)
  exact ⟨_, reachedLast, complete, three, bookkeeping_of_reachable reachedLast⟩

end

end GenerationCycle

end DirtSim
