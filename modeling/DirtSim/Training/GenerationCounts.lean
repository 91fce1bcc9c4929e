import DirtSim.Training.ExpectedResults

/-! # What is counted of a training run

A result changes the counts of a run in one of three ways once it is taken in: the generation
goes on, the training ends with it, or the next generation starts (`Evolution.Outcome`). Deciding
a candidate and storing genomes leave the counts alone.
-/

namespace DirtSim

open Foundation Double

def Submission.startsGeneration : Submission → Bool
  | .generationBatch _ => true
  | .robustnessPass _ _ => false

namespace Evolution

variable {F : Type}

/-- What is counted of a run. -/
structure Counted (F : Type) where
  population : List (Individual F)
  populationOrigins : List IndividualOrigin
  fitnessScores : List F
  generation : ℤ
  currentEval : ℕ
  completedEvaluations : ℕ
  trainingComplete : Bool

def counted (state : Evolution F) : Counted F where
  population := state.population
  populationOrigins := state.populationOrigins
  fitnessScores := state.fitnessScores
  generation := state.generation
  currentEval := state.currentEval
  completedEvaluations := state.completedEvaluations
  trainingComplete := state.trainingComplete

variable [FitnessArithmetic F]

/-- What a result changes before the generation may be complete. -/
def takeIn (state : Evolution F) (result : CompletedEvaluation F) : Evolution F :=
  match result.taskType with
  | .robustnessEval => state.handleRobustnessSampleResult result
  | .generationEval => state.recordResult result

section

/-! ## What is counted, step by step -/

variable {setup : TrainingSetup} {state after : Evolution F}
variable {environment : StoreEnvironment F} {bred : Bred F} {submission : Option Submission}

theorem counted_recordResult {result : CompletedEvaluation F} (inRange : state.InRange result.index) :
    (state.recordResult result).counted = { state.counted with
      fitnessScores := state.fitnessScores.set result.index.toNat result.totalFitness
      completedEvaluations := state.completedEvaluations + 1
      currentEval := state.currentEval + 1 } := by
  obtain ⟨_, _, recorded⟩ := recordResult_effect inRange
  rw [recorded]
  rfl

omit [FitnessArithmetic F] in
theorem counted_handleRobustnessSampleResult (result : CompletedEvaluation F) :
    (state.handleRobustnessSampleResult result).counted = state.counted := by
  rw [handleRobustnessSampleResult]
  split <;> rfl

theorem counted_promoteIfBetter {genome : Genome} {metadata : GenomeMetadata F} {fitness : F}
    (decided : state.promoteIfBetter setup environment genome metadata fitness = some after) :
    after.counted = state.counted := by
  rcases promoteIfBetter_cases decided with ⟨_, same⟩ | ⟨_, promoted⟩
  · rw [same]
  · obtain ⟨_, _, same⟩ := promote_effect promoted
    rw [same]
    rfl

theorem counted_finalizePendingBest
    (finalized : state.finalizePendingBestWithoutRobustnessPass setup environment = some after) :
    after.counted = state.counted := by
  rcases finalizePendingBestWithoutRobustnessPass_cases finalized with
    ⟨_, same⟩ | ⟨_, cleared⟩ | ⟨_, _, _, _, decided, _, _, promoted, same⟩
  · rw [same]
  · rw [cleared]
    rfl
  · have kept := counted_promoteIfBetter promoted
    rw [same]
    exact kept

theorem counted_finalizeRobustnessPass (active : state.robustnessPass.active = true)
    (finished : ¬ 0 < state.robustnessPass.pendingSamples)
    (finalized : state.finalizeRobustnessPass setup environment = some after) :
    after.counted = state.counted ∧ after.robustnessPass.active = false := by
  rcases finalizeRobustnessPass_cases active finished finalized with
    ⟨_, reset⟩ | ⟨_, _, _, _, _, decided, _, promoted, same⟩
  · rw [reset]
    exact ⟨rfl, rfl⟩
  · have kept := counted_promoteIfBetter promoted
    rw [same]
    exact ⟨kept, rfl⟩

section

omit [FitnessArithmetic F]

theorem counted_startRobustnessPass (setup : TrainingSetup) (state : Evolution F) :
    (state.startRobustnessPass setup).1.counted = state.counted := by
  rcases startRobustnessPass_cases setup state with ⟨same, _⟩ | ⟨_, _, same⟩ | ⟨_, _, _, _, same⟩
    <;> rw [same] <;> rfl

theorem startRobustnessPass_submission {submission : Submission}
    (submits : (state.startRobustnessPass setup).2 = some submission) :
    submission.startsGeneration = false := by
  rcases startRobustnessPass_cases setup state with ⟨same, _⟩ | ⟨_, _, same⟩ | ⟨_, _, _, _, same⟩
    <;> rw [same] at submits
  · cases submits
  · cases submits
  · cases submits
    rfl

end

/-- The generation goes on, the training ends with it, or the next one starts. -/
inductive Outcome (setup : TrainingSetup) (bred : Bred F) (before : Counted F) :
    Evolution F → Option Submission → Prop
  | goesOn {after : Evolution F} {submission : Option Submission}
      (same : after.counted = before)
      (here : ∀ submitted ∈ submission, submitted.startsGeneration = false) :
      Outcome setup bred before after submission
  | ends {after : Evolution F} (last : 0 < setup.evolutionConfig.maxGenerations ∧
        setup.evolutionConfig.maxGenerations ≤ before.generation + 1)
      (complete : before.population.length ≤ before.currentEval)
      (inactive : after.robustnessPass.active = false)
      (counts : after.counted = { before with
        trainingComplete := true
        generation := setup.evolutionConfig.maxGenerations }) :
      Outcome setup bred before after none
  | advances {after : Evolution F} (further : setup.evolutionConfig.maxGenerations ≤ 0 ∨
        before.generation + 1 < setup.evolutionConfig.maxGenerations)
      (complete : before.population.length ≤ before.currentEval)
      (counts : after.counted = { before with
        population := bred.members.map Prod.fst
        populationOrigins := bred.members.map Prod.snd
        fitnessScores := List.replicate bred.members.length zero
        generation := before.generation + 1
        currentEval := 0 }) :
      Outcome setup bred before after (some after.queueGenerationTasks)

theorem completeGeneration_outcome (complete : state.population.length ≤ state.currentEval)
    (inactive : state.robustnessPass.active = false)
    (completed : state.completeGeneration setup environment bred = some (after, submission)) :
    Outcome setup bred state.counted after submission := by
  rw [completeGeneration] at completed
  split at completed
  · rename_i last
    cases completed
    exact .ends last complete inactive rfl
  · rename_i goesOn
    obtain ⟨advanced, moved, same⟩ := Option.map_eq_some_iff.mp completed
    cases same
    rw [advanceGeneration, if_neg (Bool.eq_false_iff.mp inactive)] at moved
    obtain ⟨stored, saved, rfl⟩ := Option.map_eq_some_iff.mp moved
    obtain ⟨repository, id, effect⟩ := storeIfDue_effect saved
    have further : setup.evolutionConfig.maxGenerations ≤ 0 ∨
        state.generation + 1 < setup.evolutionConfig.maxGenerations := by
      by_contra neither
      rw [not_or] at neither
      exact goesOn ⟨not_le.mp neither.1, not_lt.mp neither.2⟩
    refine .advances further complete ?_
    rw [resetForNextGeneration, effect]
    rw [if_pos further, counted, counted]
    rw [List.length_map]

theorem concludeGeneration_outcome (complete : state.population.length ≤ state.currentEval)
    {environment : ResultEnvironment F}
    (concluded : state.concludeGeneration setup environment bred = some (after, submission)) :
    Outcome setup bred state.counted after submission := by
  have started := counted_startRobustnessPass setup state
  have stillComplete : ∀ other : Evolution F, other.counted = state.counted →
      other.population.length ≤ other.currentEval := by
    intro other same
    have population := congrArg Counted.population same
    have currentEval := congrArg Counted.currentEval same
    rw [show other.population = state.population from population,
      show other.currentEval = state.currentEval from currentEval]
    exact complete
  rcases concludeGeneration_cases concluded with
    ⟨_, _, same⟩ | ⟨active, finished, decided, finalized, completed⟩ | ⟨inactive, completed⟩
  · obtain ⟨sameState, sameSubmission⟩ := Prod.mk.inj same
    refine .goesOn (sameState ▸ started) ?_
    intro submitted among
    rw [sameSubmission] at among
    exact startRobustnessPass_submission among
  · obtain ⟨kept, inactive⟩ := counted_finalizeRobustnessPass active finished finalized
    have whole := kept.trans started
    rw [← whole]
    exact completeGeneration_outcome (stillComplete decided whole) inactive completed
  · rw [← started]
    exact completeGeneration_outcome (stillComplete _ started) inactive completed

/-- **What a possible end of a generation does to the counts.** -/
theorem maybeCompleteGeneration_outcome {environment : ResultEnvironment F}
    (concluded : state.maybeCompleteGeneration setup environment bred = some (after, submission)) :
    Outcome setup bred state.counted after submission := by
  rw [maybeCompleteGeneration] at concluded
  split at concluded
  · cases concluded
    exact .goesOn rfl fun _ none => by cases none
  · rename_i complete
    obtain ⟨decided, finalized, concluded⟩ := Option.bind_eq_some_iff.mp concluded
    have kept : decided.counted = state.counted := by
      split at finalized
      · exact counted_finalizePendingBest finalized
      · cases finalized
        rfl
    rw [← kept]
    refine concludeGeneration_outcome ?_ concluded
    have population : decided.population = state.population := congrArg Counted.population kept
    have currentEval : decided.currentEval = state.currentEval := congrArg Counted.currentEval kept
    rw [population, currentEval]
    exact not_lt.mp complete

theorem processResult_outcome {environment : ResultEnvironment F} {result : CompletedEvaluation F}
    (inRange : state.InRange result.index)
    (processed : state.processResult setup environment bred result = some (after, submission)) :
    Outcome setup bred (state.takeIn result).counted after submission := by
  rw [processResult, if_neg (not_not.mpr inRange)] at processed
  cases task : result.taskType <;> simp only [task, takeIn] at processed ⊢
  · exact maybeCompleteGeneration_outcome processed
  · exact maybeCompleteGeneration_outcome processed

end

end Evolution

end DirtSim
