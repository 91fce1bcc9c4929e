import DirtSim.Training.AllTimeBest
import DirtSim.Training.Standing

/-! # The results a training run waits for

Between results a run waits for a known number of further ones: the individuals of the
generation not yet evaluated, or the samples of the candidate being validated. Each result it
waits for makes them one fewer, and only the last of them is answered by a submission, which
makes the run wait for exactly what it submits.
-/

namespace DirtSim

open Foundation Double

/-- The evaluations a submission asks for; the samples of a candidate are numbered from one. -/
def Submission.requests : Submission → List EvaluationRequest
  | .generationBatch requests => requests
  | .robustnessPass request targetEvalCount => (List.range targetEvalCount.toNat).map fun i =>
      { request with robustSampleOrdinal := (i + 1 : ℕ) }

def EvaluationRequest.completed {F : Type} (request : EvaluationRequest) (totalFitness : F) :
    CompletedEvaluation F where
  taskType := request.taskType
  index := request.index
  robustGeneration := request.robustGeneration
  robustSampleOrdinal := request.robustSampleOrdinal
  totalFitness := totalFitness

namespace Evolution

variable {F : Type} [FitnessArithmetic F]

def awaited (state : Evolution F) : ℕ :=
  if state.robustnessPass.active then state.robustnessPass.pendingSamples.toNat
  else state.population.length - state.currentEval

def Awaits (state : Evolution F) (request : EvaluationRequest) : Prop :=
  if state.robustnessPass.active then
    request.taskType = .robustnessEval ∧
      request.robustGeneration = state.robustnessPass.generation ∧
      request.index = state.robustnessPass.index
  else request.taskType = .generationEval ∧ state.InRange request.index

/-- A submission asks for exactly the results that the run then waits for. -/
def Submits (state : Evolution F) (submission : Submission) : Prop :=
  submission.requests.length = state.awaited ∧
    ∀ request ∈ submission.requests, state.Awaits request

section

variable {setup : TrainingSetup} {state after : Evolution F}
variable {environment : StoreEnvironment F} {bred : Bred F} {submission : Option Submission}

omit [FitnessArithmetic F] in
theorem submits_queueGenerationTasks (inactive : state.robustnessPass.active = false)
    (unevaluated : state.currentEval = 0) : state.Submits state.queueGenerationTasks := by
  refine ⟨?_, ?_⟩
  · rw [queueGenerationTasks, Submission.requests, List.length_map, List.length_range, awaited,
      inactive, unevaluated]
    rfl
  · intro request member
    obtain ⟨i, bound, same⟩ := List.mem_map.mp member
    rw [Awaits, inactive, ← same]
    exact ⟨rfl, Int.natCast_nonneg i, Int.ofNat_lt.mpr (List.mem_range.mp bound)⟩

theorem submits_initial (repository : GenomeRepository F) {randomGenomes : List (List Genome)}
    (started : initializePopulation setup repository randomGenomes = some state) :
    state.Submits state.queueGenerationTasks := by
  rw [initializePopulation] at started
  split at started
  · cases started
  · obtain ⟨groups, _, rfl⟩ := Option.map_eq_some_iff.mp started
    exact submits_queueGenerationTasks rfl rfl

theorem promoteIfBetter_progress {genome : Genome} {metadata : GenomeMetadata F} {fitness : F}
    (decided : state.promoteIfBetter setup environment genome metadata fitness = some after) :
    after.population = state.population ∧ after.currentEval = state.currentEval ∧
      after.robustnessPass = state.robustnessPass := by
  rcases promoteIfBetter_cases decided with ⟨_, same⟩ | ⟨_, promoted⟩
  · rw [same]
    exact ⟨rfl, rfl, rfl⟩
  · obtain ⟨repository, id, same⟩ := promote_effect promoted
    rw [same]
    exact ⟨rfl, rfl, rfl⟩

theorem finalizePendingBest_progress
    (finalized : state.finalizePendingBestWithoutRobustnessPass setup environment = some after) :
    after.population = state.population ∧ after.currentEval = state.currentEval ∧
      after.robustnessPass = state.robustnessPass := by
  rcases finalizePendingBestWithoutRobustnessPass_cases finalized with
    ⟨_, same⟩ | ⟨_, cleared⟩ | ⟨_, _, _, _, decided, _, _, promoted, same⟩
  · rw [same]
    exact ⟨rfl, rfl, rfl⟩
  · rw [cleared]
    exact ⟨rfl, rfl, rfl⟩
  · have kept := promoteIfBetter_progress promoted
    rw [same]
    exact kept

theorem finalizeRobustnessPass_progress (active : state.robustnessPass.active = true)
    (finished : ¬ 0 < state.robustnessPass.pendingSamples)
    (finalized : state.finalizeRobustnessPass setup environment = some after) :
    after.population = state.population ∧ after.currentEval = state.currentEval ∧
      after.robustnessPass.active = false := by
  rcases finalizeRobustnessPass_cases active finished finalized with
    ⟨_, reset⟩ | ⟨_, _, _, _, _, decided, _, promoted, same⟩
  · rw [reset]
    exact ⟨rfl, rfl, rfl⟩
  · obtain ⟨population, currentEval, _⟩ := promoteIfBetter_progress promoted
    rw [same]
    exact ⟨population, currentEval, rfl⟩

theorem completeGeneration_submits (inactive : state.robustnessPass.active = false)
    (complete : state.population.length ≤ state.currentEval)
    (completed : state.completeGeneration setup environment bred = some (after, submission)) :
    (submission = none ∧ after.awaited = 0) ∨ ∃ submitted, submission = some submitted ∧
      after.Submits submitted := by
  rw [completeGeneration] at completed
  split at completed
  · cases completed
    refine Or.inl ⟨rfl, ?_⟩
    rw [awaited, inactive]
    exact Nat.sub_eq_zero_of_le complete
  · rename_i goesOn
    obtain ⟨advanced, moved, same⟩ := Option.map_eq_some_iff.mp completed
    cases same
    refine Or.inr ⟨_, rfl, ?_⟩
    rw [advanceGeneration, if_neg (Bool.eq_false_iff.mp inactive)] at moved
    obtain ⟨stored, saved, rfl⟩ := Option.map_eq_some_iff.mp moved
    obtain ⟨repository, id, effect⟩ := storeIfDue_effect saved
    have remaining : setup.evolutionConfig.maxGenerations ≤ 0 ∨
        stored.generation + 1 < setup.evolutionConfig.maxGenerations := by
      rw [effect]
      dsimp only
      omega
    rw [resetForNextGeneration, if_pos remaining, effect]
    exact submits_queueGenerationTasks inactive rfl

/-- A generation whose results are in is followed by the samples of its candidate, by the next
generation or by nothing. -/
theorem concludeGeneration_submits (inactive : state.robustnessPass.active = false)
    (complete : state.population.length ≤ state.currentEval) {environment : ResultEnvironment F}
    (concluded : state.concludeGeneration setup environment bred = some (after, submission)) :
    (submission = none ∧ after.awaited = 0) ∨ ∃ submitted, submission = some submitted ∧
      after.Submits submitted := by
  have cases := concludeGeneration_cases concluded
  rcases startRobustnessPass_cases setup state with
    ⟨same, _⟩ | ⟨_, _, dropped⟩ | ⟨_, _, _, configured, started⟩
  · rw [same] at cases
    rcases cases with ⟨active, _⟩ | ⟨active, _⟩ | ⟨_, completed⟩
    · exact Bool.noConfusion (inactive.symm.trans active)
    · exact Bool.noConfusion (inactive.symm.trans active)
    · exact completeGeneration_submits inactive complete completed
  · rw [dropped] at cases
    rcases cases with ⟨active, _⟩ | ⟨active, _⟩ | ⟨_, completed⟩
    · exact Bool.noConfusion (inactive.symm.trans active)
    · exact Bool.noConfusion (inactive.symm.trans active)
    · apply completeGeneration_submits _ _ completed
      · exact inactive
      · exact complete
  · rw [started] at cases
    rcases cases with ⟨_, _, same⟩ | ⟨_, finished, _⟩ | ⟨stopped, _⟩
    · obtain ⟨sameState, sameSubmission⟩ := Prod.mk.inj same
      refine Or.inr ⟨_, sameSubmission, ?_⟩
      rw [sameState]
      refine ⟨?_, ?_⟩
      · rw [Submission.requests, List.length_map, List.length_range]
        rfl
      · intro request member
        obtain ⟨i, _, same⟩ := List.mem_map.mp member
        rw [← same]
        exact ⟨rfl, rfl, rfl⟩
    · exact absurd configured finished
    · cases stopped

/-- One fewer result to wait for, or the last one came and what comes next is submitted. -/
def WaitsOn (state after : Evolution F) (submission : Option Submission) : Prop :=
  (submission = none ∧ after.awaited = state.awaited - 1 ∧
      (0 < after.awaited → ∀ request, state.Awaits request → after.Awaits request)) ∨
    ∃ submitted, submission = some submitted ∧ state.awaited = 1 ∧ after.Submits submitted

omit [FitnessArithmetic F] in
theorem waitsOn_of_last (last : state.awaited = 1)
    (next : (submission = none ∧ after.awaited = 0) ∨ ∃ submitted, submission = some submitted ∧
      after.Submits submitted) : WaitsOn state after submission := by
  rcases next with ⟨none, nothing⟩ | ⟨submitted, some, submits⟩
  · refine Or.inl ⟨none, ?_, ?_⟩
    · rw [nothing, last]
    · intro further
      omega
  · exact Or.inr ⟨submitted, some, last, submits⟩

theorem generationResult_awaits (inactive : state.robustnessPass.active = false)
    (pending : 0 < state.awaited) {result : CompletedEvaluation F}
    (inRange : state.InRange result.index) {environment : ResultEnvironment F}
    (processed : (state.recordResult result).maybeCompleteGeneration setup environment bred =
      some (after, submission)) : WaitsOn state after submission := by
  obtain ⟨_, _, recorded⟩ := recordResult_effect inRange
  have population : (state.recordResult result).population = state.population := by
    rw [recorded]
  have currentEval : (state.recordResult result).currentEval = state.currentEval + 1 := by
    rw [recorded]
  have samePass : (state.recordResult result).robustnessPass = state.robustnessPass := by
    rw [recorded]
  have stillInactive : (state.recordResult result).robustnessPass.active = false :=
    samePass ▸ inactive
  have waits : state.awaited = state.population.length - state.currentEval := by
    rw [awaited, inactive]
    rfl
  rw [maybeCompleteGeneration] at processed
  split at processed
  · cases processed
    refine Or.inl ⟨rfl, ?_, ?_⟩
    · rw [awaited, stillInactive, population, currentEval, waits]
      exact Nat.sub_succ _ _
    · intro _ request awaits
      rw [Awaits, stillInactive]
      rw [Awaits, inactive] at awaits
      exact ⟨awaits.1, (inRange_congr population _).mpr awaits.2⟩
  · rename_i complete
    rw [population, currentEval] at complete
    obtain ⟨decided, finalized, concluded⟩ := Option.bind_eq_some_iff.mp processed
    have progress : decided.population = (state.recordResult result).population ∧
        decided.currentEval = (state.recordResult result).currentEval ∧
        decided.robustnessPass = (state.recordResult result).robustnessPass := by
      split at finalized
      · exact finalizePendingBest_progress finalized
      · cases finalized
        exact ⟨rfl, rfl, rfl⟩
    obtain ⟨samePopulation, sameEval, decidedPass⟩ := progress
    have last : state.awaited = 1 := by
      rw [waits] at pending ⊢
      omega
    exact waitsOn_of_last last (concludeGeneration_submits (by rw [decidedPass, stillInactive])
      (by rw [samePopulation, sameEval, population, currentEval]; omega) concluded)

theorem sampleResult_awaits (waiting : Waiting setup state) {result : CompletedEvaluation F}
    (accepted : state.AcceptsSample result) {environment : ResultEnvironment F}
    (processed : (state.handleRobustnessSampleResult result).maybeCompleteGeneration setup
      environment bred = some (after, submission)) : WaitsOn state after submission := by
  have running := accepted.1
  have positive := accepted.2.2.2
  have sampled := state.handleRobustnessSampleResult_accepted accepted
  have active : (state.handleRobustnessSampleResult result).robustnessPass.active = true := by
    rw [sampled]
    exact running
  have complete : ¬ (state.handleRobustnessSampleResult result).currentEval <
      (state.handleRobustnessSampleResult result).population.length := by
    rw [sampled]
    exact not_lt.mpr (waiting.evaluated running)
  have left : (state.handleRobustnessSampleResult result).robustnessPass.pendingSamples =
      state.robustnessPass.pendingSamples - 1 := by
    rw [sampled]
  have waits : state.awaited = state.robustnessPass.pendingSamples.toNat := by
    rw [awaited, running]
    rfl
  rw [maybeCompleteGeneration, if_neg complete, if_neg (not_le.mpr (waiting.configured running)),
    Option.bind_some, concludeGeneration_active active, left] at processed
  split at processed
  · rename_i further
    cases processed
    refine Or.inl ⟨rfl, ?_, ?_⟩
    · rw [awaited, if_pos active, left, waits]
      omega
    · intro _ request awaits
      rw [Awaits, if_pos running] at awaits
      rw [Awaits, if_pos active, sampled]
      exact awaits
  · rename_i finished
    obtain ⟨decided, finalized, completed⟩ := Option.bind_eq_some_iff.mp processed
    obtain ⟨population, currentEval, ended⟩ :=
      finalizeRobustnessPass_progress active (left ▸ finished) finalized
    have last : state.awaited = 1 := by
      rw [waits]
      omega
    exact waitsOn_of_last last (completeGeneration_submits ended
      (by rw [population, currentEval]; exact not_lt.mp complete) completed)

/-- **A result that is waited for.** It leaves one fewer to wait for, or it is the last and the
run submits exactly what it waits for next. -/
theorem processResult_awaits (waiting : Waiting setup state) (pending : 0 < state.awaited)
    {request : EvaluationRequest} (awaits : state.Awaits request) {totalFitness : F}
    {environment : ResultEnvironment F}
    (processed : state.processResult setup environment bred (request.completed totalFitness) =
      some (after, submission)) : WaitsOn state after submission := by
  cases running : state.robustnessPass.active with
  | true =>
      rw [Awaits, if_pos running] at awaits
      rw [awaited, if_pos running] at pending
      obtain ⟨sample, sameGeneration, sameIndex⟩ := awaits
      have inRange : state.InRange (request.completed totalFitness).index := by
        rw [show (request.completed totalFitness).index = request.index from rfl, sameIndex]
        exact inRange_of_carrierAt (waiting.carried running)
      have accepted : state.AcceptsSample (request.completed totalFitness) :=
        ⟨running, sameGeneration, sameIndex, by omega⟩
      rw [processResult, if_neg (not_not.mpr inRange)] at processed
      rw [show (request.completed totalFitness).taskType = .robustnessEval from sample]
        at processed
      exact sampleResult_awaits waiting accepted processed
  | false =>
      have awaiting := awaits
      rw [Awaits, running] at awaiting
      obtain ⟨generation, inRange⟩ := awaiting
      have inside : state.InRange (request.completed totalFitness).index := inRange
      rw [processResult, if_neg (not_not.mpr inside)] at processed
      rw [show (request.completed totalFitness).taskType = .generationEval from generation]
        at processed
      exact generationResult_awaits running pending inRange processed

end

end Evolution

end DirtSim
