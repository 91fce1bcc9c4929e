import DirtSim.Foundation.Leader
import DirtSim.Training.EvolutionRun

/-! # What the results of a generation come to

Each result is scored and compared with the best fitness, the best genome and the candidate as
the results before it left them. As long as only individuals with a genome beat the best
fitness, or only ones without, the results come to what the fittest of them makes of this
standing (`Evolution.SettlesOn`).
-/

namespace DirtSim

open Foundation Double

namespace Evolution

variable {F : Type} [FitnessArithmetic F]

def Carries (state : Evolution F) (result : CompletedEvaluation F) : Bool :=
  (state.carrierAt result.index).isSome

/-- The results above the best fitness of the individuals with a genome, or of those without. -/
def contenders (state : Evolution F) (carrying : Bool) (results : List (CompletedEvaluation F)) :
    List (CompletedEvaluation F) :=
  results.filter fun result =>
    state.Carries result == carrying && less state.bestFitnessAllTime result.totalFitness

def Higher (first second : CompletedEvaluation F) : Prop :=
  less second.totalFitness first.totalFitness = true

/-- The results of a generation taken down in some order. -/
def recordAll (state : Evolution F) (order : List (CompletedEvaluation F)) : Evolution F :=
  order.foldl recordResult state

section

/-! ## What the results taken down so far come to -/

variable {state : Evolution F} {result : CompletedEvaluation F}
variable (order : List (CompletedEvaluation F)) {carrying : Bool}

/-- What a result may change of the best fitness, the best genome and the candidate. -/
def standing (state : Evolution F) : F × GenomeId × PendingBestState F :=
  (state.bestFitnessAllTime, state.bestGenomeId, state.pendingBest)

def noted (state : Evolution F) (result : CompletedEvaluation F) : PendingBestState F where
  robustness := true
  robustnessGeneration := state.generation
  robustnessIndex := result.index
  robustnessFirstSample := result.totalFitness

omit [FitnessArithmetic F] in
theorem exists_individual (inRange : state.InRange result.index) :
    ∃ individual, state.individualAt result.index = some individual ∧
      state.Carries result = individual.genome.isSome := by
  have bound : result.index.toNat < state.population.length :=
    (Int.toNat_lt inRange.1).mpr inRange.2
  have found : state.individualAt result.index = some state.population[result.index.toNat] := by
    rw [individualAt, if_pos inRange, List.getElem?_eq_getElem bound]
  refine ⟨_, found, ?_⟩
  rw [Carries, carrierAt, found, Option.bind_some, Option.isSome_map]

theorem standing_recordResult (inRange : state.InRange result.index) :
    (state.recordResult result).standing =
      if less state.bestFitnessAllTime result.totalFitness then
        if state.Carries result then
          if state.ReplacesCandidate result then
            (state.bestFitnessAllTime, state.bestGenomeId, state.noted result)
          else state.standing
        else (result.totalFitness, invalidGenomeId, .cleared)
      else state.standing := by
  obtain ⟨individual, found, carries⟩ := exists_individual inRange
  rcases recordResult_cases state result with ⟨missing, _⟩ | ⟨other, _, _, foundToo, recorded⟩
  · rw [found] at missing
    cases missing
  · rw [found] at foundToo
    cases foundToo
    rw [recorded, considerBest, carries]
    simp only [apply_ite standing]
    rfl

def scoresWith (scores : List F) (order : List (CompletedEvaluation F)) : List F :=
  order.foldl (fun scores result => scores.set result.index.toNat result.totalFitness) scores

theorem recordResult_effect (inRange : state.InRange result.index) :
    ∃ bestThisGen origin, state.recordResult result = { state with
      fitnessScores := state.fitnessScores.set result.index.toNat result.totalFitness
      completedEvaluations := state.completedEvaluations + 1
      currentEval := state.currentEval + 1
      bestFitnessThisGen := bestThisGen
      bestThisGenOrigin := origin
      bestFitnessAllTime := (state.recordResult result).bestFitnessAllTime
      bestGenomeId := (state.recordResult result).bestGenomeId
      pendingBest := (state.recordResult result).pendingBest } := by
  obtain ⟨individual, found, _⟩ := exists_individual inRange
  rcases recordResult_cases state result with ⟨missing, _⟩ | ⟨_, bestThisGen, origin, _, recorded⟩
  · rw [found] at missing
    cases missing
  · refine ⟨bestThisGen, origin, ?_⟩
    rw [recorded, considerBest]
    split
    · split
      · split
        · rfl
        · rfl
      · rfl
    · rfl

theorem recordAll_snoc (earlier : List (CompletedEvaluation F)) :
    state.recordAll (earlier ++ [result]) = (state.recordAll earlier).recordResult result := by
  rw [recordAll, List.foldl_append]
  rfl

theorem recordAll_effect (inRange : ∀ result ∈ order, state.InRange result.index) :
    ∃ bestThisGen origin, state.recordAll order = { state with
      fitnessScores := scoresWith state.fitnessScores order
      completedEvaluations := state.completedEvaluations + order.length
      currentEval := state.currentEval + order.length
      bestFitnessThisGen := bestThisGen
      bestThisGenOrigin := origin
      bestFitnessAllTime := (state.recordAll order).bestFitnessAllTime
      bestGenomeId := (state.recordAll order).bestGenomeId
      pendingBest := (state.recordAll order).pendingBest } := by
  induction order using List.reverseRecOn with
  | nil => exact ⟨state.bestFitnessThisGen, state.bestThisGenOrigin, rfl⟩
  | append_singleton earlier result ih =>
      obtain ⟨_, _, same⟩ := ih fun result member => inRange result (List.mem_append_left _ member)
      have last := inRange result (List.mem_append_right _ (List.mem_singleton_self result))
      rw [recordAll_snoc, scoresWith, List.foldl_append, ← scoresWith, List.length_append]
      generalize state.recordAll earlier = middle at same
      have stillInRange : middle.InRange result.index := by
        rw [same]
        exact last
      obtain ⟨bestThisGen, origin, recorded⟩ := recordResult_effect stillInRange
      refine ⟨bestThisGen, origin, recorded.trans ?_⟩
      rw [same]
      rfl

theorem recordAll_frame (inRange : ∀ result ∈ order, state.InRange result.index) :
    (state.recordAll order).population = state.population ∧
      (state.recordAll order).generation = state.generation ∧
      (state.recordAll order).robustnessPass = state.robustnessPass ∧
      (state.recordAll order).currentEval = state.currentEval + order.length := by
  obtain ⟨_, _, same⟩ := recordAll_effect order inRange
  rw [same]
  exact ⟨rfl, rfl, rfl, rfl⟩

section

omit [FitnessArithmetic F]

theorem inRange_congr {other : Evolution F} (population : other.population = state.population)
    (index : ℤ) : other.InRange index ↔ state.InRange index := by
  rw [InRange, InRange, population]

theorem carrierAt_congr {other : Evolution F} (population : other.population = state.population)
    (index : ℤ) : other.carrierAt index = state.carrierAt index := by
  rw [carrierAt, carrierAt, individualAt, individualAt]
  by_cases inRange : state.InRange index
  · rw [if_pos inRange, if_pos ((inRange_congr population index).mpr inRange), population]
  · rw [if_neg inRange, if_neg fun there => inRange ((inRange_congr population index).mp there)]

end

theorem standing_recordAll_snoc {earlier : List (CompletedEvaluation F)}
    (inRange : ∀ result ∈ earlier, state.InRange result.index)
    (last : state.InRange result.index) :
    (state.recordAll (earlier ++ [result])).standing =
      if less (state.recordAll earlier).bestFitnessAllTime result.totalFitness then
        if state.Carries result then
          if (state.recordAll earlier).ReplacesCandidate result then
            ((state.recordAll earlier).bestFitnessAllTime,
              (state.recordAll earlier).bestGenomeId, state.noted result)
          else (state.recordAll earlier).standing
        else (result.totalFitness, invalidGenomeId, .cleared)
      else (state.recordAll earlier).standing := by
  obtain ⟨population, generation, _, _⟩ := recordAll_frame earlier inRange
  have carries : (state.recordAll earlier).Carries result = state.Carries result := by
    rw [Carries, Carries, carrierAt_congr population]
  have noted : (state.recordAll earlier).noted result = state.noted result := by
    rw [Evolution.noted, Evolution.noted, generation]
  rw [recordAll_snoc, standing_recordResult ((inRange_congr population _).mpr last), carries, noted]

/-- The result is above the best fitness, and its individual has a genome or not. -/
def IsContender (state : Evolution F) (carrying : Bool) (result : CompletedEvaluation F) : Prop :=
  state.Carries result = carrying ∧ less state.bestFitnessAllTime result.totalFitness = true

theorem mem_contenders {results : List (CompletedEvaluation F)} :
    result ∈ state.contenders carrying results ↔
      result ∈ results ∧ state.IsContender carrying result := by
  rw [contenders, List.mem_filter, Bool.and_eq_true, beq_iff_eq, IsContender]

theorem contenders_snoc_of_contender (contends : state.IsContender carrying result)
    (earlier : List (CompletedEvaluation F)) :
    state.contenders carrying (earlier ++ [result]) =
      state.contenders carrying earlier ++ [result] := by
  rw [contenders, List.filter_append, List.filter_singleton, contends.1, contends.2, BEq.rfl]
  rfl

theorem contenders_snoc_of_not_contender (short : ¬ state.IsContender carrying result)
    (earlier : List (CompletedEvaluation F)) :
    state.contenders carrying (earlier ++ [result]) = state.contenders carrying earlier := by
  have dropped : (state.Carries result == carrying &&
      less state.bestFitnessAllTime result.totalFitness) = false := by
    rw [Bool.eq_false_iff, Ne, Bool.and_eq_true, beq_iff_eq]
    exact short
  rw [contenders, List.filter_append, List.filter_singleton, dropped, contenders]
  exact List.append_nil _

theorem contenders_eq_nil_of_snoc {earlier : List (CompletedEvaluation F)}
    (none : state.contenders carrying (earlier ++ [result]) = []) :
    state.contenders carrying earlier = [] ∧ ¬ state.IsContender carrying result := by
  rw [contenders, List.filter_append, List.append_eq_nil_iff] at none
  refine ⟨none.1, ?_⟩
  intro contends
  have kept : result ∈ state.contenders carrying [result] :=
    mem_contenders.mpr ⟨List.mem_singleton_self result, contends⟩
  rw [contenders, none.2] at kept
  cases kept

section

variable [LawfulComparison F]

theorem higher_irrefl (result : CompletedEvaluation F) :
    ¬ Higher result result := by
  intro higher
  rw [Higher, LawfulComparison.irrefl] at higher
  cases higher

theorem higher_trans (first second third : CompletedEvaluation F)
    (above : Higher first second) (further : Higher second third) : Higher first third :=
  LawfulComparison.trans _ _ _ further above

/-- The results come to what their leader makes of the standing, or leave it if none contends. -/
def SettlesOn (state : Evolution F) (carrying : Bool)
    (becomes : CompletedEvaluation F → F × GenomeId × PendingBestState F)
    (order : List (CompletedEvaluation F)) : Prop :=
  (∃ leader, Leads Higher (state.contenders carrying order) leader ∧
      (state.recordAll order).standing = becomes leader) ∨
    (state.contenders carrying order = [] ∧ (state.recordAll order).standing = state.standing)

/-- Nobody without a genome beats the best fitness: the candidate is the fittest contender, and
the best stays as it is. -/
theorem settlesOn_carrying (noCandidate : state.pendingBest.robustness = false)
    (order : List (CompletedEvaluation F))
    (inRange : ∀ result ∈ order, state.InRange result.index)
    (plainless : state.contenders false order = []) :
    state.SettlesOn true
      (fun leader => (state.bestFitnessAllTime, state.bestGenomeId, state.noted leader)) order := by
  induction order using List.reverseRecOn with
  | nil => exact Or.inr ⟨rfl, rfl⟩
  | append_singleton earlier result ih =>
      obtain ⟨plainlessBefore, notPlain⟩ := contenders_eq_nil_of_snoc plainless
      have before := fun result member => inRange result (List.mem_append_left _ member)
      have last := inRange result (List.mem_append_right _ (List.mem_singleton_self result))
      obtain ⟨_, generation, _, _⟩ := recordAll_frame earlier before
      have recorded := standing_recordAll_snoc before last
      by_cases contends : state.IsContender true result
      · rw [SettlesOn, contenders_snoc_of_contender contends]
        left
        rcases ih before plainlessBefore with ⟨leader, leads, stands⟩ | ⟨none, stands⟩
        · obtain ⟨sameBest, rest⟩ := Prod.mk.inj stands
          obtain ⟨sameId, samePending⟩ := Prod.mk.inj rest
          by_cases higher : Higher result leader
          · refine ⟨result, leads.snoc_of_above higher_irrefl higher_trans higher, ?_⟩
            rw [recorded, sameBest, sameId, if_pos contends.2, if_pos contends.1, if_pos]
            right
            right
            rw [samePending]
            exact higher
          · refine ⟨leader, leads.snoc_of_not_above higher, ?_⟩
            rw [recorded, sameBest, if_pos contends.2, if_pos contends.1, if_neg]
            · exact stands
            · rw [ReplacesCandidate, samePending, generation]
              rintro (unarmed | elsewhere | above)
              · cases unarmed
              · exact elsewhere rfl
              · exact higher above
        · obtain ⟨sameBest, rest⟩ := Prod.mk.inj stands
          obtain ⟨sameId, samePending⟩ := Prod.mk.inj rest
          refine ⟨result, ?_, ?_⟩
          · rw [none]
            exact leads_singleton higher_irrefl result
          · rw [recorded, sameBest, sameId, if_pos contends.2, if_pos contends.1, if_pos]
            left
            rw [samePending]
            exact noCandidate
      · rw [SettlesOn, contenders_snoc_of_not_contender contends]
        have short : less state.bestFitnessAllTime result.totalFitness = false := by
          rw [Bool.eq_false_iff]
          intro better
          cases carries : state.Carries result with
          | true => exact contends ⟨carries, better⟩
          | false => exact notPlain ⟨carries, better⟩
        rcases ih before plainlessBefore with ⟨leader, leads, stands⟩ | ⟨none, stands⟩
        · refine Or.inl ⟨leader, leads, ?_⟩
          rw [recorded, (Prod.mk.inj stands).1, short]
          exact stands
        · refine Or.inr ⟨none, ?_⟩
          rw [recorded, (Prod.mk.inj stands).1, short]
          exact stands

theorem settlesOn_plain (inRange : ∀ result ∈ order, state.InRange result.index)
    (carryless : state.contenders true order = []) :
    state.SettlesOn false (fun leader => (leader.totalFitness, invalidGenomeId, .cleared))
      order := by
  induction order using List.reverseRecOn with
  | nil => exact Or.inr ⟨rfl, rfl⟩
  | append_singleton earlier result ih =>
      obtain ⟨carrylessBefore, notCarrying⟩ := contenders_eq_nil_of_snoc carryless
      have before := fun result member => inRange result (List.mem_append_left _ member)
      have last := inRange result (List.mem_append_right _ (List.mem_singleton_self result))
      have recorded := standing_recordAll_snoc before last
      by_cases contends : state.IsContender false result
      · rw [SettlesOn, contenders_snoc_of_contender contends]
        have plain : ¬ state.Carries result = true := Bool.eq_false_iff.mp contends.1
        left
        rcases ih before carrylessBefore with ⟨leader, leads, stands⟩ | ⟨none, stands⟩
        · by_cases higher : less leader.totalFitness result.totalFitness = true
          · refine ⟨result, leads.snoc_of_above higher_irrefl higher_trans higher, ?_⟩
            rw [recorded, (Prod.mk.inj stands).1, if_pos higher, if_neg plain]
          · refine ⟨leader, leads.snoc_of_not_above higher, ?_⟩
            rw [recorded, (Prod.mk.inj stands).1, if_neg higher]
            exact stands
        · refine ⟨result, ?_, ?_⟩
          · rw [none]
            exact leads_singleton higher_irrefl result
          · rw [recorded, (Prod.mk.inj stands).1, if_pos contends.2, if_neg plain]
      · rw [SettlesOn, contenders_snoc_of_not_contender contends]
        have short : ¬ less state.bestFitnessAllTime result.totalFitness = true := by
          intro better
          cases carries : state.Carries result with
          | true => exact notCarrying ⟨carries, better⟩
          | false => exact contends ⟨carries, better⟩
        rcases ih before carrylessBefore with ⟨leader, leads, stands⟩ | ⟨none, stands⟩
        · refine Or.inl ⟨leader, leads, ?_⟩
          have floor := (mem_contenders.mp leads.1).2.2
          rw [recorded, (Prod.mk.inj stands).1, if_neg]
          · exact stands
          · intro better
            exact short (LawfulComparison.trans _ _ _ floor better)
        · refine Or.inr ⟨none, ?_⟩
          rw [recorded, (Prod.mk.inj stands).1, if_neg short]
          exact stands

theorem bestFitnessAllTime_recordAll (inRange : ∀ result ∈ order, state.InRange result.index) :
    (state.recordAll order).bestFitnessAllTime = state.bestFitnessAllTime ∨
      ∃ result ∈ state.contenders false order,
        (state.recordAll order).bestFitnessAllTime = result.totalFitness := by
  induction order using List.reverseRecOn with
  | nil => exact Or.inl rfl
  | append_singleton earlier result ih =>
      have before := fun result member => inRange result (List.mem_append_left _ member)
      have last := inRange result (List.mem_append_right _ (List.mem_singleton_self result))
      have best := congrArg Prod.fst (standing_recordAll_snoc before last)
      have kept : ∀ other ∈ state.contenders false earlier,
          other ∈ state.contenders false (earlier ++ [result]) := by
        intro other member
        obtain ⟨present, contends⟩ := mem_contenders.mp member
        exact mem_contenders.mpr ⟨List.mem_append_left _ present, contends⟩
      have moved : (state.recordAll (earlier ++ [result])).bestFitnessAllTime =
            (state.recordAll earlier).bestFitnessAllTime ∨
          (state.Carries result = false ∧
            less (state.recordAll earlier).bestFitnessAllTime result.totalFitness = true ∧
            (state.recordAll (earlier ++ [result])).bestFitnessAllTime = result.totalFitness) := by
        split at best
        · rename_i better
          split at best
          · split at best
            · exact Or.inl best
            · exact Or.inl best
          · rename_i plain
            exact Or.inr ⟨Bool.eq_false_iff.mpr plain, better, best⟩
        · exact Or.inl best
      rcases moved with same | ⟨plain, better, set⟩
      · rw [same]
        rcases ih before with same | ⟨other, member, same⟩
        · exact Or.inl same
        · exact Or.inr ⟨other, kept other member, same⟩
      · right
        refine ⟨result, mem_contenders.mpr ⟨?_, plain, ?_⟩, set⟩
        · exact List.mem_append_right _ (List.mem_singleton_self result)
        · rcases ih before with same | ⟨other, member, same⟩
          · rw [← same]
            exact better
          · rw [same] at better
            exact LawfulComparison.trans _ _ _ (mem_contenders.mp member).2.2 better

end

end

end Evolution

end DirtSim
