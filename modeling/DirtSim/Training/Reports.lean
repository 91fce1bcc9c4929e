import DirtSim.Training.EvolutionRun

/-! # The report of a generation

The best fitness of a generation and its origin are reported and read by nothing else. States
that differ in them only go through the same events to the same best fitness and the same best
genome (`Evolution.Agree.outcome`).
-/

namespace DirtSim

open Foundation Double

namespace Evolution

variable {F : Type} [FitnessArithmetic F]

def outcome (setup : TrainingSetup) (state : Evolution F) (events : List (Event F)) :
    Option (F × GenomeId) :=
  (state.follow setup events).map fun after => (after.bestFitnessAllTime, after.bestGenomeId)

section

/-! ## What a generation reports is read by nothing else -/

/-- The state with another report of its generation's best. -/
def withReport (bestThisGen : F) (origin : IndividualOrigin) (state : Evolution F) : Evolution F :=
  { state with bestFitnessThisGen := bestThisGen, bestThisGenOrigin := origin }

def Agree (first second : Evolution F) : Prop :=
  ∃ bestThisGen origin, second = first.withReport bestThisGen origin

/-- Both steps fail, or they lead to states that agree and submit the same. -/
def AgreeAfter {Output : Type} (first second : Option (Evolution F × Output)) : Prop :=
  ∃ bestThisGen origin, second = first.map (Prod.map (withReport bestThisGen origin) id)

variable (setup : TrainingSetup) (bestThisGen : F) (origin : IndividualOrigin)
  (state : Evolution F)
variable (environment : StoreEnvironment F)

theorem considerBest_withReport (individual : Individual F) (result : CompletedEvaluation F) :
    (state.withReport bestThisGen origin).considerBest individual result =
      (state.considerBest individual result).withReport bestThisGen origin := by
  simp only [considerBest, apply_ite (withReport bestThisGen origin)]
  rfl

omit [FitnessArithmetic F] in
theorem handleRobustnessSampleResult_withReport (result : CompletedEvaluation F) :
    (state.withReport bestThisGen origin).handleRobustnessSampleResult result =
      (state.handleRobustnessSampleResult result).withReport bestThisGen origin := by
  simp only [handleRobustnessSampleResult, apply_ite (withReport bestThisGen origin)]
  rfl

theorem promoteIfBetter_withReport (genome : Genome) (metadata : GenomeMetadata F) (fitness : F) :
    (state.withReport bestThisGen origin).promoteIfBetter setup environment genome metadata
        fitness =
      (state.promoteIfBetter setup environment genome metadata fitness).map
        (withReport bestThisGen origin) := by
  simp only [promoteIfBetter, promote, apply_ite (Option.map (withReport bestThisGen origin)),
    Option.map_map, Option.map_some]
  rfl

theorem storeBestGenome_withReport :
    (state.withReport bestThisGen origin).storeBestGenome setup environment =
      (state.storeBestGenome setup environment).map (withReport bestThisGen origin) := by
  rw [storeBestGenome, storeBestGenome, withReport]
  dsimp only
  split
  · rfl
  · rw [Option.map_map]
    rfl

theorem storeIfDue_withReport :
    (state.withReport bestThisGen origin).storeIfDue setup environment =
      (state.storeIfDue setup environment).map (withReport bestThisGen origin) := by
  simp only [storeIfDue, apply_ite (Option.map (withReport bestThisGen origin)), Option.map_some,
    storeBestGenome_withReport]
  rfl

omit [FitnessArithmetic F] in
theorem startRobustnessPass_withReport :
    (state.withReport bestThisGen origin).startRobustnessPass setup =
      (state.startRobustnessPass setup).map (withReport bestThisGen origin) id := by
  have same : (state.withReport bestThisGen origin).candidate = state.candidate := rfl
  cases found : state.candidate with
  | none =>
      simp only [startRobustnessPass, same, found,
        apply_ite (Prod.map (withReport bestThisGen origin) id)]
      rfl
  | some candidate =>
      simp only [startRobustnessPass, same, found,
        apply_ite (Prod.map (withReport bestThisGen origin) id)]
      rfl

theorem resetForNextGeneration_withReport :
    (state.withReport bestThisGen origin).resetForNextGeneration setup =
      (state.resetForNextGeneration setup).withReport bestThisGen origin := by
  simp only [resetForNextGeneration, apply_ite (withReport bestThisGen origin)]
  rfl

theorem advanceGeneration_withReport (bred : Bred F) :
    (state.withReport bestThisGen origin).advanceGeneration setup environment bred =
      (state.advanceGeneration setup environment bred).map (withReport bestThisGen origin) := by
  have stored := storeIfDue_withReport setup bestThisGen origin
    { state with pendingBest := .cleared } environment
  simp only [advanceGeneration, apply_ite (Option.map (withReport bestThisGen origin)),
    Option.map_map, Option.map_none, Function.comp_def, ← resetForNextGeneration_withReport]
  refine congrArg (fun next => if state.robustnessPass.active = true then none else next) ?_
  refine (congrArg (Option.map _) stored).trans ?_
  rw [Option.map_map]
  rfl

theorem completeGeneration_withReport (bred : Bred F) :
    (state.withReport bestThisGen origin).completeGeneration setup environment bred =
      (state.completeGeneration setup environment bred).map
        (Prod.map (withReport bestThisGen origin) id) := by
  simp only [completeGeneration,
    apply_ite (Option.map (Prod.map (withReport bestThisGen origin) id)), Option.map_map,
    advanceGeneration_withReport]
  rfl

theorem promoteIfBetter_report (genome : Genome) (metadata : GenomeMetadata F) (fitness : F) :
    (state.promoteIfBetter setup environment genome metadata fitness).map
        (withReport state.bestFitnessThisGen state.bestThisGenOrigin) =
      state.promoteIfBetter setup environment genome metadata fitness :=
  (promoteIfBetter_withReport setup state.bestFitnessThisGen state.bestThisGenOrigin state
    environment genome metadata fitness).symm

theorem finalizeRobustnessPass_withReport :
    ∃ reported reportedOrigin,
      (state.withReport bestThisGen origin).finalizeRobustnessPass setup environment =
        (state.finalizeRobustnessPass setup environment).map
          (withReport reported reportedOrigin) := by
  by_cases running : state.robustnessPass.active = false ∨ 0 < state.robustnessPass.pendingSamples
  · refine ⟨bestThisGen, origin, ?_⟩
    rw [finalizeRobustnessPass, finalizeRobustnessPass, if_pos running]
    exact if_pos running
  · have same : (state.withReport bestThisGen origin).carrierAt
        (state.withReport bestThisGen origin).robustnessPass.index =
          state.carrierAt state.robustnessPass.index := rfl
    have stillRunning : ¬ ((state.withReport bestThisGen origin).robustnessPass.active = false ∨
        0 < (state.withReport bestThisGen origin).robustnessPass.pendingSamples) := running
    cases found : state.carrierAt state.robustnessPass.index with
    | none =>
        refine ⟨bestThisGen, origin, ?_⟩
        rw [finalizeRobustnessPass, finalizeRobustnessPass, if_neg running, if_neg stillRunning,
          same, found]
        rfl
    | some carrier =>
        refine ⟨computeMedian (sampleWindow state.robustnessPass.samples),
          state.originAt state.robustnessPass.index, ?_⟩
        rw [finalizeRobustnessPass, finalizeRobustnessPass, if_neg running, if_neg stillRunning,
          same, found]
        dsimp only
        rw [Option.map_map, ← promoteIfBetter_report, Option.map_map]
        rfl

theorem finalizePendingBestWithoutRobustnessPass_withReport :
    ∃ reported reportedOrigin,
      (state.withReport bestThisGen origin).finalizePendingBestWithoutRobustnessPass setup
          environment =
        (state.finalizePendingBestWithoutRobustnessPass setup environment).map
          (withReport reported reportedOrigin) := by
  by_cases unarmed : state.pendingBest.robustness = false
  · refine ⟨bestThisGen, origin, ?_⟩
    rw [finalizePendingBestWithoutRobustnessPass, finalizePendingBestWithoutRobustnessPass,
      if_pos unarmed]
    exact if_pos unarmed
  · have same : (state.withReport bestThisGen origin).candidate = state.candidate := rfl
    have stillArmed : ¬ (state.withReport bestThisGen origin).pendingBest.robustness = false :=
      unarmed
    cases found : state.candidate with
    | none =>
        refine ⟨bestThisGen, origin, ?_⟩
        rw [finalizePendingBestWithoutRobustnessPass, finalizePendingBestWithoutRobustnessPass,
          if_neg unarmed, if_neg stillArmed, same, found]
        rfl
    | some carrier =>
        refine ⟨state.pendingBest.robustnessFirstSample,
          state.originAt state.pendingBest.robustnessIndex, ?_⟩
        rw [finalizePendingBestWithoutRobustnessPass, finalizePendingBestWithoutRobustnessPass,
          if_neg unarmed, if_neg stillArmed, same, found]
        dsimp only
        rw [Option.map_map, ← promoteIfBetter_report, Option.map_map]
        rfl

omit [FitnessArithmetic F] in
theorem agreeAfter_bind {Output : Type} {step : Evolution F → Option (Evolution F × Output)}
    {first second : Option (Evolution F)}
    (agree : ∃ reported reportedOrigin, second = first.map (withReport reported reportedOrigin))
    (steps : ∀ reported reportedOrigin middle, first = some middle →
      AgreeAfter (step middle) (step (withReport reported reportedOrigin middle))) :
    AgreeAfter (first.bind step) (second.bind step) := by
  obtain ⟨reported, reportedOrigin, same⟩ := agree
  cases found : first with
  | none =>
      rw [same, found]
      exact ⟨reported, reportedOrigin, rfl⟩
  | some middle =>
      rw [same, found]
      exact steps reported reportedOrigin middle found

theorem concludeGeneration_withReport (environment : ResultEnvironment F) (bred : Bred F) :
    AgreeAfter (state.concludeGeneration setup environment bred)
      ((state.withReport bestThisGen origin).concludeGeneration setup environment bred) := by
  rw [concludeGeneration, concludeGeneration, startRobustnessPass_withReport]
  generalize state.startRobustnessPass setup = started
  obtain ⟨started, submission⟩ := started
  dsimp only [Prod.map]
  by_cases active : started.robustnessPass.active = true
  · rw [if_pos active, if_pos (show (withReport bestThisGen origin started).robustnessPass.active =
      true from active)]
    by_cases waiting : 0 < started.robustnessPass.pendingSamples
    · rw [if_pos waiting, if_pos (show
        0 < (withReport bestThisGen origin started).robustnessPass.pendingSamples from waiting)]
      exact ⟨bestThisGen, origin, rfl⟩
    · rw [if_neg waiting, if_neg (show
        ¬ 0 < (withReport bestThisGen origin started).robustnessPass.pendingSamples from waiting)]
      apply agreeAfter_bind
      · exact finalizeRobustnessPass_withReport setup bestThisGen origin started environment.promotion
      · intro reported reportedOrigin decided _
        exact ⟨reported, reportedOrigin, completeGeneration_withReport ..⟩
  · rw [if_neg active, if_neg (show ¬ (withReport bestThisGen origin started).robustnessPass.active =
      true from active)]
    exact ⟨bestThisGen, origin, completeGeneration_withReport ..⟩

theorem maybeCompleteGeneration_withReport (environment : ResultEnvironment F) (bred : Bred F) :
    AgreeAfter (state.maybeCompleteGeneration setup environment bred)
      ((state.withReport bestThisGen origin).maybeCompleteGeneration setup environment bred) := by
  rw [maybeCompleteGeneration, maybeCompleteGeneration]
  by_cases missing : state.currentEval < state.population.length
  · rw [if_pos missing, if_pos (show (withReport bestThisGen origin state).currentEval <
      (withReport bestThisGen origin state).population.length from missing)]
    exact ⟨bestThisGen, origin, rfl⟩
  · rw [if_neg missing, if_neg (show ¬ (withReport bestThisGen origin state).currentEval <
      (withReport bestThisGen origin state).population.length from missing)]
    apply agreeAfter_bind
    · split
      · apply finalizePendingBestWithoutRobustnessPass_withReport
      · exact ⟨bestThisGen, origin, rfl⟩
    · intro reported reportedOrigin decided _
      apply concludeGeneration_withReport

end

section

/-! ## States that agree stay in agreement -/

variable (setup : TrainingSetup) {first second : Evolution F}

omit [FitnessArithmetic F] in
theorem Agree.refl (state : Evolution F) : Agree state state := ⟨_, _, rfl⟩

section

variable (agree : Agree first second)
include agree

theorem Agree.recordGenerationBest (individual : Individual F) (result : CompletedEvaluation F) :
    Agree (first.recordGenerationBest individual result)
      (second.recordGenerationBest individual result) := by
  obtain ⟨bestThisGen, origin, rfl⟩ := agree
  rw [Evolution.recordGenerationBest, Evolution.recordGenerationBest]
  split
  · split
    · exact ⟨_, _, rfl⟩
    · exact ⟨_, _, rfl⟩
  · split
    · exact ⟨_, _, rfl⟩
    · exact ⟨_, _, rfl⟩

theorem Agree.recordResult (result : CompletedEvaluation F) :
    Agree (first.recordResult result) (second.recordResult result) := by
  have sameIndividual : second.individualAt result.index = first.individualAt result.index := by
    obtain ⟨bestThisGen, origin, rfl⟩ := agree
    rfl
  have scored : Agree (first.recordScore result) (second.recordScore result) := by
    obtain ⟨bestThisGen, origin, rfl⟩ := agree
    exact ⟨bestThisGen, origin, rfl⟩
  rw [Evolution.recordResult, Evolution.recordResult, sameIndividual]
  cases first.individualAt result.index with
  | none => exact agree
  | some individual =>
      obtain ⟨bestThisGen, origin, noted⟩ := scored.recordGenerationBest individual result
      refine ⟨bestThisGen, origin, ?_⟩
      dsimp only
      rw [noted, considerBest_withReport]

theorem Agree.processResult (environment : ResultEnvironment F) (bred : Bred F)
    (result : CompletedEvaluation F) :
    AgreeAfter (first.processResult setup environment bred result)
      (second.processResult setup environment bred result) := by
  have sameRange : second.InRange result.index ↔ first.InRange result.index := by
    obtain ⟨bestThisGen, origin, rfl⟩ := agree
    exact Iff.rfl
  rw [Evolution.processResult, Evolution.processResult]
  by_cases inRange : first.InRange result.index
  · rw [if_neg (not_not.mpr inRange), if_neg (not_not.mpr (sameRange.mpr inRange))]
    cases result.taskType with
    | generationEval =>
        obtain ⟨bestThisGen, origin, recorded⟩ := agree.recordResult result
        rw [recorded]
        apply maybeCompleteGeneration_withReport
    | robustnessEval =>
        obtain ⟨bestThisGen, origin, rfl⟩ := agree
        rw [handleRobustnessSampleResult_withReport]
        apply maybeCompleteGeneration_withReport
  · obtain ⟨bestThisGen, origin, rfl⟩ := agree
    rw [if_pos inRange]
    exact ⟨bestThisGen, origin, if_pos inRange⟩

theorem Agree.apply (event : Event F) :
    ∃ bestThisGen origin, event.apply setup second =
      (event.apply setup first).map (withReport bestThisGen origin) := by
  cases event with
  | result environment bred completed =>
      obtain ⟨bestThisGen, origin, processed⟩ := agree.processResult setup environment bred completed
      refine ⟨bestThisGen, origin, ?_⟩
      simp only [Event.apply, processed, Option.map_map]
      rfl
  | storeBest environment =>
      obtain ⟨bestThisGen, origin, rfl⟩ := agree
      exact ⟨bestThisGen, origin, storeBestGenome_withReport ..⟩
  | genomeSet id genome metadata draw =>
      obtain ⟨bestThisGen, origin, rfl⟩ := agree
      exact ⟨bestThisGen, origin, rfl⟩
  | genomeDelete id =>
      obtain ⟨bestThisGen, origin, rfl⟩ := agree
      exact ⟨bestThisGen, origin, rfl⟩

/-- **Agreement over a run.** The same events lead states that agree to the same outcome. -/
theorem Agree.outcome (events : List (Event F)) :
    first.outcome setup events = second.outcome setup events := by
  induction events generalizing first second with
  | nil =>
      obtain ⟨bestThisGen, origin, rfl⟩ := agree
      rfl
  | cons event events ih =>
      obtain ⟨bestThisGen, origin, applied⟩ := agree.apply setup event
      simp only [Evolution.outcome, follow, List.foldlM_cons, applied]
      cases event.apply setup first with
      | none => rfl
      | some next => exact ih ⟨bestThisGen, origin, rfl⟩

end

end

end Evolution

end DirtSim
