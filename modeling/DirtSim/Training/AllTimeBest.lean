import DirtSim.Training.EvolutionRun

/-! # The best fitness over a run

The best fitness is written in three places. Two only raise it; the median of a candidate's samples
is also taken over when there is no best genome. Where no validation ends so, the best fitness never
gets worse (`Evolution.notWorse_of_guarded`).
-/

namespace DirtSim

open Foundation Double

namespace Evolution

variable {F : Type} [FitnessArithmetic F]

/-- The best fitness of one state is not below that of another. -/
def NotWorse (before after : Evolution F) : Prop :=
  less after.bestFitnessAllTime before.bestFitnessAllTime = false

/-- The result is the last sample that a validation waits for. -/
def EndsValidation (state : Evolution F) (result : CompletedEvaluation F) : Prop :=
  result.taskType = .robustnessEval ∧ state.AcceptsSample result ∧
    state.robustnessPass.pendingSamples = 1

/-- The median a validation comes to with one more sample. -/
def validatedFitness (state : Evolution F) (result : CompletedEvaluation F) : F :=
  computeMedian (sampleWindow (state.robustnessPass.samples ++ [result.totalFitness]))

/-- No validation ends below the best fitness while there is no best genome. -/
def Event.KeepsBest (state : Evolution F) : Event F → Prop
  | .result _ _ completed => state.EndsValidation completed →
      state.bestGenomeId.isNil = true →
        less (state.validatedFitness completed) state.bestFitnessAllTime = false
  | _ => True

section

/-! ## What holds between results -/

/-- A candidate is ahead of the best fitness, and samples are taken only after a whole
generation, for an individual with a genome. -/
structure Sampling (setup : TrainingSetup) (state : Evolution F) : Prop where
  ahead : state.pendingBest.robustness = true →
    less state.bestFitnessAllTime state.pendingBest.robustnessFirstSample = true
  configured : state.robustnessPass.active = true →
    0 < resolveRobustnessPassSampleCount setup.evolutionConfig.robustFitnessEvaluationCount
  evaluated : state.robustnessPass.active = true → state.population.length ≤ state.currentEval
  carried : state.robustnessPass.active = true →
    (state.carrierAt state.robustnessPass.index).isSome = true

/-- Between results a validation waits for samples. -/
structure Waiting (setup : TrainingSetup) (state : Evolution F) : Prop
    extends Sampling setup state where
  pending : state.robustnessPass.active = true → 0 < state.robustnessPass.pendingSamples

variable {setup : TrainingSetup} {state after : Evolution F}

theorem Sampling.of_cleared (cleared : state.pendingBest.robustness = false)
    (inactive : state.robustnessPass.active = false) : Sampling setup state where
  ahead armed := Bool.noConfusion (cleared.symm.trans armed)
  configured active := Bool.noConfusion (inactive.symm.trans active)
  evaluated active := Bool.noConfusion (inactive.symm.trans active)
  carried active := Bool.noConfusion (inactive.symm.trans active)

theorem Sampling.waiting (sampling : Sampling setup state)
    (inactive : state.robustnessPass.active = false) : Waiting setup state :=
  { sampling with pending := fun active => Bool.noConfusion (inactive.symm.trans active) }

theorem Waiting.of_idle (cleared : state.pendingBest.robustness = false)
    (inactive : state.robustnessPass.active = false) : Waiting setup state :=
  (Sampling.of_cleared cleared inactive).waiting inactive

theorem waiting_of_initial (repository : GenomeRepository F) {randomGenomes : List (List Genome)}
    (started : initializePopulation setup repository randomGenomes = some state) :
    Waiting setup state := by
  rw [initializePopulation] at started
  split at started
  · cases started
  · obtain ⟨groups, _, rfl⟩ := Option.map_eq_some_iff.mp started
    exact .of_idle rfl rfl

def Raised (before after : Evolution F) : Prop :=
  after.bestFitnessAllTime = before.bestFitnessAllTime ∨
    less before.bestFitnessAllTime after.bestFitnessAllTime = true

theorem Raised.notWorse [LawfulComparison F] {before : Evolution F} (raised : Raised before after) :
    NotWorse before after := by
  rcases raised with same | above
  · rw [NotWorse, same]
    exact LawfulComparison.irrefl _
  · exact LawfulComparison.asymm above

theorem Sampling.recordResult (sampling : Sampling setup state) (result : CompletedEvaluation F) :
    Sampling setup (state.recordResult result) ∧ Raised state (state.recordResult result) ∧
      (state.recordResult result).robustnessPass = state.robustnessPass := by
  rcases recordResult_cases state result with ⟨_, same⟩ | ⟨individual, _, _, _, recorded⟩
  · rw [same]
    exact ⟨sampling, Or.inl rfl, rfl⟩
  · rw [recorded]
    have evaluated := fun active => Nat.le_succ_of_le (sampling.evaluated active)
    rcases considerBest_cases _ individual result with same | ⟨better, _, noted⟩ | ⟨better, _, set⟩
    · rw [same]
      exact ⟨{ sampling with evaluated := evaluated }, Or.inl rfl, rfl⟩
    · rw [noted]
      exact ⟨{ sampling with ahead := fun _ => better, evaluated := evaluated }, Or.inl rfl, rfl⟩
    · rw [set]
      exact ⟨{ sampling with
        ahead := fun armed => Bool.noConfusion armed, evaluated := evaluated }, Or.inr better, rfl⟩

theorem Sampling.handleRobustnessSampleResult (sampling : Sampling setup state)
    (result : CompletedEvaluation F) :
    Sampling setup (state.handleRobustnessSampleResult result) := by
  rw [Evolution.handleRobustnessSampleResult]
  split
  · exact ⟨sampling.ahead, sampling.configured, sampling.evaluated, sampling.carried⟩
  · exact sampling

theorem Sampling.finalizePendingBest (sampling : Sampling setup state)
    (inactive : state.robustnessPass.active = false)
    (complete : state.population.length ≤ state.currentEval) {environment : StoreEnvironment F}
    (finalized : state.finalizePendingBestWithoutRobustnessPass setup environment = some after) :
    Sampling setup after ∧ Raised state after ∧ after.robustnessPass.active = false ∧
      after.population.length ≤ after.currentEval := by
  rcases finalizePendingBestWithoutRobustnessPass_cases finalized with
    ⟨_, same⟩ | ⟨_, cleared⟩ | ⟨_, _, _, _, decided, armed, _, promoted, same⟩
  · rw [same]
    exact ⟨sampling, Or.inl rfl, inactive, complete⟩
  · rw [cleared]
    exact ⟨.of_cleared rfl inactive, Or.inl rfl, inactive, complete⟩
  · rcases promoteIfBetter_cases promoted with ⟨_, kept⟩ | ⟨_, stored⟩
    · rw [same, kept]
      exact ⟨.of_cleared rfl inactive, Or.inl rfl, inactive, complete⟩
    · obtain ⟨repository, id, promotion⟩ := promote_effect stored
      rw [same, promotion]
      exact ⟨.of_cleared rfl inactive, Or.inr (sampling.ahead armed), inactive, complete⟩

omit [FitnessArithmetic F] in
theorem carrierAt_of_candidate (found : state.candidate.isSome = true) :
    (state.carrierAt state.pendingBest.robustnessIndex).isSome = true := by
  rw [candidate] at found
  split at found
  · exact found
  · cases found

theorem Sampling.startRobustnessPass (sampling : Sampling setup state)
    (complete : state.population.length ≤ state.currentEval) :
    Sampling setup (state.startRobustnessPass setup).1 ∧
      (state.startRobustnessPass setup).1.bestFitnessAllTime = state.bestFitnessAllTime ∧
      (0 < (state.startRobustnessPass setup).1.robustnessPass.pendingSamples ∨
        (state.startRobustnessPass setup).1.robustnessPass = state.robustnessPass) := by
  rcases startRobustnessPass_cases setup state with
    ⟨same, _⟩ | ⟨inactive, _, dropped⟩ | ⟨_, _, found, configured, started⟩
  · rw [same]
    exact ⟨sampling, rfl, Or.inr rfl⟩
  · rw [dropped]
    exact ⟨.of_cleared rfl inactive, rfl, Or.inr rfl⟩
  · have carried := carrierAt_of_candidate found
    rw [started]
    refine ⟨⟨?_, fun _ => configured, fun _ => complete, fun _ => carried⟩, rfl,
      Or.inl configured⟩
    intro armed
    cases armed

theorem Sampling.completeGeneration (sampling : Sampling setup state)
    (inactive : state.robustnessPass.active = false) {environment : StoreEnvironment F}
    {bred : Bred F} {submission : Option Submission}
    (completed : state.completeGeneration setup environment bred = some (after, submission)) :
    Waiting setup after := by
  rcases completeGeneration_cases completed with ⟨ended, _⟩ | ⟨advanced, _⟩
  · rw [ended]
    exact Sampling.waiting ⟨sampling.ahead, sampling.configured, sampling.evaluated,
      sampling.carried⟩ inactive
  · obtain ⟨stored, saved, _, _, same⟩ := advanceGeneration_effect advanced
    obtain ⟨repository, id, effect⟩ := storeIfDue_effect saved
    rw [same, effect]
    apply Waiting.of_idle
    · rfl
    · exact inactive

/-- A validation ended and its median was taken over without a best genome to compare with. -/
def TookMedian (before after : Evolution F) : Prop :=
  before.robustnessPass.active = true ∧ ¬ 0 < before.robustnessPass.pendingSamples ∧
    before.bestGenomeId.isNil = true ∧
    after.bestFitnessAllTime = computeMedian (sampleWindow before.robustnessPass.samples)

theorem finalizeRobustnessPass_effect {environment : StoreEnvironment F}
    (active : state.robustnessPass.active = true)
    (finished : ¬ 0 < state.robustnessPass.pendingSamples)
    (finalized : state.finalizeRobustnessPass setup environment = some after) :
    after.robustnessPass.active = false ∧
      (after.pendingBest.robustness = true → after.pendingBest = state.pendingBest ∧
        after.bestFitnessAllTime = state.bestFitnessAllTime) ∧
      (Raised state after ∨ TookMedian state after) := by
  rcases finalizeRobustnessPass_cases active finished finalized with
    ⟨_, reset⟩ | ⟨_, _, _, _, _, decided, _, promoted, same⟩
  · rw [reset]
    exact ⟨rfl, fun _ => ⟨rfl, rfl⟩, Or.inl (Or.inl rfl)⟩
  · rcases promoteIfBetter_cases promoted with ⟨_, kept⟩ | ⟨improves, stored⟩
    · rw [same, kept]
      exact ⟨rfl, fun armed => Bool.noConfusion armed, Or.inl (Or.inl rfl)⟩
    · obtain ⟨repository, id, promotion⟩ := promote_effect stored
      rw [same, promotion]
      refine ⟨rfl, fun armed => Bool.noConfusion armed, ?_⟩
      rcases improves with none | ⟨_, above⟩
      · exact Or.inr ⟨active, finished, none, rfl⟩
      · exact Or.inl (Or.inr above)

theorem Sampling.concludeGeneration_idle (sampling : Sampling setup state)
    (inactive : state.robustnessPass.active = false)
    (complete : state.population.length ≤ state.currentEval)
    {environment : ResultEnvironment F} {bred : Bred F} {submission : Option Submission}
    (concluded : state.concludeGeneration setup environment bred = some (after, submission)) :
    Waiting setup after ∧ after.bestFitnessAllTime = state.bestFitnessAllTime := by
  obtain ⟨startedSampling, sameBest, fresh⟩ := sampling.startRobustnessPass complete
  rcases concludeGeneration_cases concluded with
    ⟨_, waiting, same⟩ | ⟨active, finished, _⟩ | ⟨stillInactive, completed⟩
  · have started : after = (state.startRobustnessPass setup).1 := congrArg Prod.fst same
    rw [started]
    exact ⟨{ startedSampling with pending := fun _ => waiting }, sameBest⟩
  · rw [fresh.resolve_left finished, inactive] at active
    cases active
  · exact ⟨startedSampling.completeGeneration stillInactive completed,
      (completeGeneration_bestFitnessAllTime completed).trans sameBest⟩

theorem Sampling.concludeGeneration_active (sampling : Sampling setup state)
    (active : state.robustnessPass.active = true) {environment : ResultEnvironment F}
    {bred : Bred F} {submission : Option Submission}
    (concluded : state.concludeGeneration setup environment bred = some (after, submission)) :
    Waiting setup after ∧ (Raised state after ∨ TookMedian state after) := by
  rw [Evolution.concludeGeneration_active active] at concluded
  split at concluded
  · rename_i waiting
    cases concluded
    exact ⟨{ sampling with pending := fun _ => waiting }, Or.inl (Or.inl rfl)⟩
  · rename_i finished
    obtain ⟨decided, finalized, completed⟩ := Option.bind_eq_some_iff.mp concluded
    obtain ⟨ended, candidate, moved⟩ := finalizeRobustnessPass_effect active finished finalized
    have decidedSampling : Sampling setup decided := {
      ahead := fun armed => by
        obtain ⟨samePending, sameBest⟩ := candidate armed
        rw [samePending, sameBest]
        exact sampling.ahead (samePending ▸ armed)
      configured := fun active => Bool.noConfusion (ended.symm.trans active)
      evaluated := fun active => Bool.noConfusion (ended.symm.trans active)
      carried := fun active => Bool.noConfusion (ended.symm.trans active) }
    refine ⟨decidedSampling.completeGeneration ended completed, ?_⟩
    rw [Raised, TookMedian, completeGeneration_bestFitnessAllTime completed]
    exact moved

/-- **What a possible end of a generation does to the best fitness.** -/
theorem Sampling.maybeCompleteGeneration (sampling : Sampling setup state)
    {environment : ResultEnvironment F} {bred : Bred F} {submission : Option Submission}
    (concluded : state.maybeCompleteGeneration setup environment bred =
      some (after, submission)) :
    Waiting setup after ∧ (Raised state after ∨ TookMedian state after) := by
  rw [Evolution.maybeCompleteGeneration] at concluded
  split at concluded
  · rename_i missing
    cases concluded
    refine ⟨{ sampling with pending := ?_ }, Or.inl (Or.inl rfl)⟩
    intro active
    exact absurd (sampling.evaluated active) (not_le.mpr missing)
  · rename_i complete
    have complete := not_lt.mp complete
    obtain ⟨decided, finalized, concluded⟩ := Option.bind_eq_some_iff.mp concluded
    cases running : state.robustnessPass.active with
    | true =>
        rw [if_neg (not_le.mpr (sampling.configured running))] at finalized
        cases finalized
        exact sampling.concludeGeneration_active running concluded
    | false =>
        split at finalized
        · obtain ⟨decidedSampling, raised, inactive, stillComplete⟩ :=
            sampling.finalizePendingBest running complete finalized
          obtain ⟨waiting, kept⟩ :=
            decidedSampling.concludeGeneration_idle inactive stillComplete concluded
          refine ⟨waiting, Or.inl ?_⟩
          rw [Raised, kept]
          exact raised
        · cases finalized
          obtain ⟨waiting, kept⟩ := sampling.concludeGeneration_idle running complete concluded
          exact ⟨waiting, Or.inl (Or.inl kept)⟩

end

section

/-! ## What an event does to the best fitness -/

variable {setup : TrainingSetup} {before middle after : Evolution F}

theorem Waiting.endsValidation (waiting : Waiting setup before) {result : CompletedEvaluation F}
    (sample : result.taskType = .robustnessEval)
    (took : TookMedian (before.handleRobustnessSampleResult result) after) :
    before.EndsValidation result ∧ before.bestGenomeId.isNil = true ∧
      after.bestFitnessAllTime = before.validatedFitness result := by
  obtain ⟨active, finished, none, median⟩ := took
  rw [handleRobustnessSampleResult] at active finished none median
  split at active
  · rename_i accepted
    rw [if_pos accepted] at finished none median
    dsimp only at finished none median
    have positive := accepted.2.2.2
    exact ⟨⟨sample, accepted, by omega⟩, none, median⟩
  · rename_i ignored
    rw [if_neg ignored] at finished
    exact absurd (waiting.pending active) finished

/-- Between results nothing but a median taken over lowers the best fitness: it may rise once as
the result is taken down and once more as the generation is completed. -/
theorem Waiting.step (waiting : Waiting setup before) {event : Event F}
    (applied : event.apply setup before = some after) :
    Waiting setup after ∧ ((∃ middle, Raised before middle ∧ Raised middle after) ∨
      ∃ environment bred completed, event = .result environment bred completed ∧
        before.EndsValidation completed ∧ before.bestGenomeId.isNil = true ∧
        after.bestFitnessAllTime = before.validatedFitness completed) := by
  have unmoved : ∀ state : Evolution F, Raised state state := fun _ => Or.inl rfl
  cases event with
  | result environment bred completed =>
      obtain ⟨⟨final, submission⟩, processed, same⟩ := Option.map_eq_some_iff.mp applied
      cases same
      rw [processResult] at processed
      split at processed
      · cases processed
        exact ⟨waiting, Or.inl ⟨_, unmoved _, unmoved _⟩⟩
      · split at processed
        · rename_i sample
          obtain ⟨afterwards, moved⟩ :=
            (waiting.toSampling.handleRobustnessSampleResult completed).maybeCompleteGeneration
              processed
          refine ⟨afterwards, ?_⟩
          rcases moved with raised | took
          · left
            rw [handleRobustnessSampleResult] at raised
            split at raised
            · exact ⟨_, unmoved _, raised⟩
            · exact ⟨_, unmoved _, raised⟩
          · right
            exact ⟨environment, bred, completed, rfl, waiting.endsValidation sample took⟩
        · obtain ⟨recorded, raised, samePass⟩ := waiting.toSampling.recordResult completed
          obtain ⟨afterwards, moved⟩ := recorded.maybeCompleteGeneration processed
          refine ⟨afterwards, Or.inl ?_⟩
          rcases moved with further | ⟨active, finished, _⟩
          · exact ⟨_, raised, further⟩
          · rw [samePass] at active finished
            exact absurd (waiting.pending active) finished
  | storeBest environment =>
      obtain ⟨repository, id, same⟩ := storeBestGenome_effect applied
      rw [same]
      exact ⟨⟨⟨waiting.ahead, waiting.configured, waiting.evaluated, waiting.carried⟩,
        waiting.pending⟩, Or.inl ⟨_, unmoved _, unmoved _⟩⟩
  | genomeSet id genome metadata draw =>
      cases applied
      exact ⟨⟨⟨waiting.ahead, waiting.configured, waiting.evaluated, waiting.carried⟩,
        waiting.pending⟩, Or.inl ⟨_, unmoved _, unmoved _⟩⟩
  | genomeDelete id =>
      cases applied
      exact ⟨⟨⟨waiting.ahead, waiting.configured, waiting.evaluated, waiting.carried⟩,
        waiting.pending⟩, Or.inl ⟨_, unmoved _, unmoved _⟩⟩

theorem Waiting.takesMedian (waiting : Waiting setup before) {environment : ResultEnvironment F}
    {bred : Bred F} {completed : CompletedEvaluation F} (ends : before.EndsValidation completed)
    (none : before.bestGenomeId.isNil = true)
    (applied : (Event.result environment bred completed).apply setup before = some after) :
    after.bestFitnessAllTime = before.validatedFitness completed := by
  obtain ⟨sample, accepted, last⟩ := ends
  have sameIndex := accepted.2.2.1
  have carried := waiting.carried accepted.1
  have sampled := before.handleRobustnessSampleResult_accepted accepted
  have active : (before.handleRobustnessSampleResult completed).robustnessPass.active = true := by
    rw [sampled]
    exact accepted.1
  have finished :
      ¬ 0 < (before.handleRobustnessSampleResult completed).robustnessPass.pendingSamples := by
    rw [sampled]
    dsimp only
    omega
  have complete : ¬ (before.handleRobustnessSampleResult completed).currentEval <
      (before.handleRobustnessSampleResult completed).population.length := by
    rw [sampled]
    exact not_lt.mpr (waiting.evaluated accepted.1)
  obtain ⟨⟨final, submission⟩, processed, same⟩ := Option.map_eq_some_iff.mp applied
  cases same
  rw [processResult, if_neg, sample] at processed
  · dsimp only at processed
    rw [maybeCompleteGeneration, if_neg complete,
      if_neg (not_le.mpr (waiting.configured accepted.1)), Option.bind_some,
      concludeGeneration_active active, if_neg finished] at processed
    obtain ⟨decided, finalized, concluded⟩ := Option.bind_eq_some_iff.mp processed
    rw [completeGeneration_bestFitnessAllTime concluded]
    rcases finalizeRobustnessPass_cases active finished finalized with
      ⟨missing, _⟩ | ⟨_, _, _, _, _, promoted, _, decision, same⟩
    · rw [sampled] at missing
      rw [show before.carrierAt before.robustnessPass.index = Option.none from missing] at carried
      cases carried
    · rcases promoteIfBetter_cases decision with ⟨short, _⟩ | ⟨_, stored⟩
      · apply absurd _ short
        left
        rw [sampled]
        exact none
      · obtain ⟨repository, id, promotion⟩ := promote_effect stored
        rw [same, promotion, sampled]
        rfl
  · rw [not_not, sameIndex]
    exact inRange_of_carrierAt carried

end

section

variable {setup : TrainingSetup} {before after : Evolution F}

theorem waiting_of_reachable (reached : (machine F setup).Reachable before) :
    Waiting setup before := by
  apply reached.invariant
  · intro state initial
    obtain ⟨repository, randomGenomes, started⟩ := initial
    exact waiting_of_initial repository started
  · intro state event next waiting moved
    exact (waiting.step moved).1

variable [LawfulComparison F]

theorem Raised.trans {middle : Evolution F} (first : Raised before middle)
    (second : Raised middle after) : Raised before after := by
  rcases first with same | above
  · rw [Raised, ← same]
    exact second
  · rcases second with same | higher
    · rw [Raised, same]
      exact Or.inr above
    · exact Or.inr (LawfulComparison.trans _ _ _ above higher)

/-- The condition is exact: in a reachable state an event makes the best fitness worse just when
it ends a validation below it while there is no best genome. -/
theorem notWorse_iff_keepsBest (reached : (machine F setup).Reachable before) {event : Event F}
    (moved : (machine F setup).step before event after) :
    NotWorse before after ↔ event.KeepsBest before := by
  have waiting := waiting_of_reachable reached
  constructor
  · intro notWorse
    cases event with
    | result environment bred completed =>
        intro ends none
        rw [NotWorse, waiting.takesMedian ends none moved] at notWorse
        exact notWorse
    | storeBest environment => trivial
    | genomeSet id genome metadata draw => trivial
    | genomeDelete id => trivial
  · intro keeps
    rcases (waiting.step moved).2 with ⟨_, raised, further⟩ | ⟨_, _, _, same, ends, none, median⟩
    · exact (raised.trans further).notWorse
    · subst same
      rw [NotWorse, median]
      exact keeps ends none

/-- **The best fitness over a run.** In a run in which no validation ends below the best fitness
while there is no best genome, the best fitness never gets worse. -/
theorem notWorse_of_guarded
    (reached : ((machine F setup).guarded fun state event => event.KeepsBest state).Reachable
      before) {event : Event F}
    (moved : ((machine F setup).guarded fun state event => event.KeepsBest state).step before
      event after) : NotWorse before after := by
  obtain ⟨start, labels, initial, run⟩ := reached
  exact (notWorse_iff_keepsBest ⟨start, labels, initial, run.of_guarded⟩ moved.1).mpr moved.2

def oneSample : EvolutionConfig where
  robustFitnessEvaluationCount := 1

def contestEnvironment : ResultEnvironment ℚ where
  promotion := storingAt 1 (1, 1)
  checkpoint := storingAt 1 (2, 2)

def beatenContest : List (Event ℚ) := [
  contestResult contestEnvironment { taskType := .generationEval, index := 0, totalFitness := 10 },
  contestResult contestEnvironment { taskType := .generationEval, index := 1, totalFitness := 12 }]

def contestSample (fitness : ℚ) : CompletedEvaluation ℚ where
  taskType := .robustnessEval
  index := 1
  robustGeneration := 0
  totalFitness := fitness

def validation (fitness : ℚ) : Event ℚ := contestResult contestEnvironment (contestSample fitness)

/-- The best fitness before the sample, the median it comes to, and the best fitness after it. -/
def contestBests (fitness : ℚ) : Option (ℚ × ℚ × ℚ) :=
  (contest oneSample {} beatenContest).bind fun before =>
    ((validation fitness).apply (contestSetup oneSample) before).map fun after =>
      (before.bestFitnessAllTime, before.validatedFitness (contestSample fitness),
        after.bestFitnessAllTime)

theorem contestBests_iff {fitness first median second : ℚ} :
    contestBests fitness = some (first, median, second) ↔
      ∃ before after, contest oneSample {} beatenContest = some before ∧
        (machine ℚ (contestSetup oneSample)).step before (validation fitness) after ∧
        before.bestFitnessAllTime = first ∧
        before.validatedFitness (contestSample fitness) = median ∧
        after.bestFitnessAllTime = second := by
  simp only [contestBests, Option.bind_eq_some_iff, Option.map_eq_some_iff, Prod.mk.injEq]
  constructor
  · rintro ⟨before, reached, after, moved, values⟩
    exact ⟨before, after, reached, moved, values⟩
  · rintro ⟨before, after, reached, moved, values⟩
    exact ⟨before, reached, after, moved, values⟩

/-- A tree without a genome reaches ten and is beaten; the sample of three that validates the
winner becomes the best fitness. -/
theorem not_notWorse_of_lowSample :
    ¬ ∀ (setup : TrainingSetup) (before after : Evolution ℚ) (event : Event ℚ),
      (machine ℚ setup).Reachable before → (machine ℚ setup).step before event after →
        NotWorse before after := by
  intro always
  have computed : contestBests 3 = some (10, 3, 3) := by decide +kernel
  obtain ⟨before, after, reached, moved, first, _, second⟩ := contestBests_iff.mp computed
  have kept := always _ before after _ (reachable_of_contest reached) moved
  rw [NotWorse, first, second] at kept
  revert kept
  decide

theorem notWorse_of_highSample :
    ∃ before after : Evolution ℚ, before.bestFitnessAllTime = 10 ∧
      after.bestFitnessAllTime = 14 ∧ NotWorse before after := by
  have computed : contestBests 14 = some (10, 14, 14) := by decide +kernel
  obtain ⟨before, after, reached, moved, first, median, second⟩ := contestBests_iff.mp computed
  obtain ⟨start, initial, run⟩ := run_of_contest reached
  have keeps : (validation 14).KeepsBest before := by
    intro _ _
    rw [median, first]
    decide
  have guarded : ((machine ℚ (contestSetup oneSample)).guarded
      fun state event => event.KeepsBest state).Run start beatenContest before := by
    apply run.guard
    intro event member state
    rcases List.mem_pair.mp member with same | same
    · subst same
      intro ends
      cases ends.1
    · subst same
      intro ends
      cases ends.1
  exact ⟨before, after, first, second,
    notWorse_of_guarded ⟨start, _, initial, guarded⟩ ⟨moved, keeps⟩⟩

end

end Evolution

end DirtSim
