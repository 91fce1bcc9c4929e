import DirtSim.Training.Reports
import DirtSim.Training.Standing

/-! # The order in which the workers finish

An individual without a genome that beats the best fitness drops the candidate noted so far. So the
outcome depends on the order of the results as soon as individuals of both kinds beat it, and
otherwise not (`Evolution.orderIndependent_iff`).
-/

namespace DirtSim

open Foundation Double

namespace Evolution

variable {F : Type} [FitnessArithmetic F]

section

/-- Nothing of the generation is evaluated yet. -/
structure AtGenerationStart (state : Evolution F) : Prop where
  unevaluated : state.currentEval = 0
  noCandidate : state.pendingBest.robustness = false
  noValidation : state.robustnessPass.active = false

/-- One result for each individual, no two with the same fitness. -/
structure GenerationResults (state : Evolution F) (results : List (CompletedEvaluation F)) :
    Prop where
  generation : ∀ result ∈ results, result.taskType = .generationEval
  indices : (results.map CompletedEvaluation.index).Perm
    ((List.range state.population.length).map fun (i : ℕ) => (i : ℤ))
  untied : ∀ first ∈ results, ∀ second ∈ results, first.index ≠ second.index →
    equal first.totalFitness second.totalFitness = false

/-- The fittest contender with a genome, if there is one. -/
def SelectsFittest (state : Evolution F) (results : List (CompletedEvaluation F)) :
    Option ℤ → Prop
  | none => state.contenders true results = []
  | some index => ∃ result, Leads Higher (state.contenders true results) result ∧
      result.index = index

def candidateIndex (state : Evolution F) : Option ℤ :=
  state.candidate.map fun _ => state.pendingBest.robustnessIndex

def validatedIndex (state : Evolution F) : Option ℤ :=
  if state.robustnessPass.active then some state.robustnessPass.index else none

/-- The results in some order, each with what its processing reads from outside. -/
def resultEvents (environments : ℕ → ResultEnvironment F) (bred : ℕ → Bred F)
    (order : List (CompletedEvaluation F)) : List (Event F) :=
  order.mapIdx fun i result => .result (environments i) (bred i) result

/-- Every order of the results ends with the fittest contender as the candidate, which is the one
validated where samples are configured, and any two orders followed by the same events lead to
the same best fitness and the same best genome. -/
structure OrderIndependent (setup : TrainingSetup) (state : Evolution F)
    (results : List (CompletedEvaluation F)) : Prop where
  selected : ∀ order : List (CompletedEvaluation F), order.Perm results →
    state.SelectsFittest results (state.recordAll order).candidateIndex
  validated : 0 < setup.evolutionConfig.robustFitnessEvaluationCount →
    ∀ order : List (CompletedEvaluation F), order.Perm results →
      ∀ environments bred after,
        state.follow setup (resultEvents environments bred order) = some after →
          state.SelectsFittest results after.validatedIndex
  agreed : ∀ first second : List (CompletedEvaluation F), first.Perm results →
    second.Perm results → ∀ environments bred (later : List (Event F)),
      state.outcome setup (resultEvents environments bred first ++ later) =
        state.outcome setup (resultEvents environments bred second ++ later)

end

section

/-! ## The results of a whole generation -/

variable {state : Evolution F} {results order : List (CompletedEvaluation F)}

section

variable (given : state.GenerationResults results)
include given

theorem GenerationResults.perm (perm : order.Perm results) : state.GenerationResults order where
  generation result member := given.generation result (perm.mem_iff.mp member)
  indices := (perm.map _).trans given.indices
  untied first member second memberToo :=
    given.untied first (perm.mem_iff.mp member) second (perm.mem_iff.mp memberToo)

theorem GenerationResults.inRange : ∀ result ∈ results, state.InRange result.index := by
  intro result member
  have listed := given.indices.mem_iff.mp (List.mem_map_of_mem member)
  obtain ⟨i, bound, same⟩ := List.mem_map.mp listed
  rw [← same]
  exact ⟨Int.natCast_nonneg i, Int.ofNat_lt.mpr (List.mem_range.mp bound)⟩

theorem GenerationResults.length : results.length = state.population.length := by
  have same := given.indices.length_eq
  rw [List.length_map, List.length_map, List.length_range] at same
  exact same

theorem GenerationResults.nodup : (results.map CompletedEvaluation.index).Nodup := by
  apply given.indices.nodup_iff.mpr
  exact List.nodup_range.map fun _ _ same => Int.ofNat_inj.mp same

theorem GenerationResults.eq_of_index {first second : CompletedEvaluation F}
    (member : first ∈ results) (memberToo : second ∈ results) (same : first.index = second.index) :
    first = second :=
  List.inj_on_of_nodup_map given.nodup member memberToo same

end

theorem GenerationResults.connected [LawfulComparison F] (given : state.GenerationResults results)
    (carrying : Bool) : ∀ first ∈ state.contenders carrying results,
      ∀ second ∈ state.contenders carrying results,
        Higher first second ∨ first = second ∨ Higher second first := by
  intro first member second memberToo
  obtain ⟨present, _, above⟩ := mem_contenders.mp member
  obtain ⟨presentToo, _, aboveToo⟩ := mem_contenders.mp memberToo
  rcases LawfulComparison.connected _ _ _ above aboveToo with lower | tied | higher
  · exact Or.inr (Or.inr lower)
  · refine Or.inr (Or.inl (given.eq_of_index present presentToo ?_))
    by_contra apart
    rw [given.untied first present second presentToo apart] at tied
    cases tied
  · exact Or.inl higher

theorem GenerationResults.scoresWith (given : state.GenerationResults results)
    (perm : order.Perm results) (scores : List F) :
    Evolution.scoresWith scores order = Evolution.scoresWith scores results := by
  apply perm.foldl_eq'
  intro first member second memberToo scores
  have ordered := given.perm perm
  by_cases same : first.index = second.index
  · rw [ordered.eq_of_index member memberToo same]
  · have floor := (ordered.inRange first member).1
    have floorToo := (ordered.inRange second memberToo).1
    apply List.set_comm
    omega

theorem SettlesOn.perm [LawfulComparison F] (given : state.GenerationResults results)
    (perm : order.Perm results) {carrying : Bool}
    {becomes : CompletedEvaluation F → F × GenomeId × PendingBestState F}
    (settles : state.SettlesOn carrying becomes order)
    (settlesToo : state.SettlesOn carrying becomes results) :
    (state.recordAll order).standing = (state.recordAll results).standing := by
  have reordered : (state.contenders carrying order).Perm (state.contenders carrying results) :=
    perm.filter _
  rcases settles with ⟨leader, leads, stands⟩ | ⟨none, stands⟩
  · rcases settlesToo with ⟨other, leadsToo, standsToo⟩ | ⟨noneToo, _⟩
    · have same := (leads.perm reordered).unique leadsToo (given.connected carrying)
      rw [stands, standsToo, same]
    · rw [noneToo] at reordered
      rw [reordered.eq_nil] at leads
      cases leads.1
  · rcases settlesToo with ⟨other, leadsToo, _⟩ | ⟨_, standsToo⟩
    · rw [none] at reordered
      rw [reordered.symm.eq_nil] at leadsToo
      cases leadsToo.1
    · rw [stands, standsToo]

theorem contenders_eq_nil_iff (perm : order.Perm results) (carrying : Bool) :
    state.contenders carrying order = [] ↔ state.contenders carrying results = [] := by
  have reordered : (state.contenders carrying order).Perm (state.contenders carrying results) :=
    perm.filter _
  constructor
  · intro none
    rw [none] at reordered
    exact reordered.symm.eq_nil
  · intro none
    rw [none] at reordered
    exact reordered.eq_nil

section

variable [LawfulComparison F]

section

variable (start : state.AtGenerationStart) (given : state.GenerationResults results)
  (oneKind : state.contenders true results = [] ∨ state.contenders false results = [])
  (perm : order.Perm results)
include start given oneKind perm

/-- Every order of the results comes to the same standing when only one kind of individual beats
the best fitness. -/
theorem standing_recordAll_perm :
    (state.recordAll order).standing = (state.recordAll results).standing := by
  have ordered := (given.perm perm).inRange
  rcases oneKind with carryless | plainless
  · apply SettlesOn.perm given perm
    · exact settlesOn_plain order ordered ((contenders_eq_nil_iff perm true).mpr carryless)
    · exact settlesOn_plain results given.inRange carryless
  · apply SettlesOn.perm given perm
    · exact settlesOn_carrying start.noCandidate order ordered
        ((contenders_eq_nil_iff perm false).mpr plainless)
    · exact settlesOn_carrying start.noCandidate results given.inRange plainless

theorem agree_recordAll : Agree (state.recordAll results) (state.recordAll order) := by
  obtain ⟨_, _, first⟩ := recordAll_effect results given.inRange
  obtain ⟨bestThisGen, origin, second⟩ := recordAll_effect order (given.perm perm).inRange
  have stands := standing_recordAll_perm start given oneKind perm
  obtain ⟨sameBest, rest⟩ := Prod.mk.inj stands
  obtain ⟨sameId, samePending⟩ := Prod.mk.inj rest
  refine ⟨bestThisGen, origin, ?_⟩
  rw [second, first, given.scoresWith perm, perm.length_eq, sameBest, sameId, samePending]
  rfl

end

omit [FitnessArithmetic F] [LawfulComparison F] in
theorem candidateIndex_of_unarmed (unarmed : state.pendingBest.robustness = false) :
    state.candidateIndex = none := by
  rw [candidateIndex, candidate, if_neg]
  · rfl
  · intro armed
    exact Bool.noConfusion (unarmed.symm.trans armed.1)

theorem selectsFittest_recordAll (start : state.AtGenerationStart)
    (given : state.GenerationResults results)
    (oneKind : state.contenders true results = [] ∨ state.contenders false results = []) :
    state.SelectsFittest results (state.recordAll results).candidateIndex := by
  obtain ⟨population, generation, _, _⟩ := recordAll_frame results given.inRange
  rcases oneKind with carryless | plainless
  · have unarmed : (state.recordAll results).pendingBest.robustness = false := by
      rcases settlesOn_plain results given.inRange carryless with ⟨_, _, stands⟩ | ⟨_, stands⟩
      · rw [show (state.recordAll results).pendingBest = .cleared from
          congrArg (fun standing => standing.2.2) stands]
        rfl
      · rw [show (state.recordAll results).pendingBest = state.pendingBest from
          congrArg (fun standing => standing.2.2) stands]
        exact start.noCandidate
    rw [candidateIndex_of_unarmed unarmed]
    exact carryless
  · rcases settlesOn_carrying start.noCandidate results given.inRange plainless with
      ⟨leader, leads, stands⟩ | ⟨carryless, stands⟩
    · have pending : (state.recordAll results).pendingBest = state.noted leader :=
        congrArg (fun standing => standing.2.2) stands
      have carries : (state.carrierAt leader.index).isSome = true := (mem_contenders.mp leads.1).2.1
      obtain ⟨carrier, found⟩ := Option.isSome_iff_exists.mp carries
      have chosen : (state.recordAll results).candidateIndex = some leader.index := by
        rw [candidateIndex, candidate, if_pos, pending]
        · rw [show (state.recordAll results).carrierAt (state.noted leader).robustnessIndex =
            some carrier from (carrierAt_congr population _).trans found]
          rfl
        · rw [pending, generation]
          exact ⟨rfl, rfl⟩
      rw [chosen]
      exact ⟨leader, leads, rfl⟩
    · rw [candidateIndex_of_unarmed]
      · exact carryless
      · rw [show (state.recordAll results).pendingBest = state.pendingBest from
          congrArg (fun standing => standing.2.2) stands]
        exact start.noCandidate

end

section

/-! ## Processing the results of a generation -/

variable (setup : TrainingSetup) (environments : ℕ → ResultEnvironment F) (bred : ℕ → Bred F)

omit [FitnessArithmetic F] in
theorem resultEvents_cons (result : CompletedEvaluation F) :
    resultEvents environments bred (result :: order) =
      .result (environments 0) (bred 0) result ::
        resultEvents (fun i => environments (i + 1)) (fun i => bred (i + 1)) order := by
  rw [resultEvents, List.mapIdx_cons]
  rfl

theorem apply_generationResult (environment : ResultEnvironment F) (bred : Bred F)
    {result : CompletedEvaluation F} (generation : result.taskType = .generationEval)
    (inRange : state.InRange result.index) :
    (Event.result environment bred result).apply setup state =
      ((state.recordResult result).maybeCompleteGeneration setup environment bred).map
        Prod.fst := by
  rw [Event.apply, processResult, if_neg (not_not.mpr inRange), generation]

theorem follow_resultEvents (nonempty : order ≠ [])
    (generation : ∀ result ∈ order, result.taskType = .generationEval)
    (inRange : ∀ result ∈ order, state.InRange result.index)
    (fits : state.currentEval + order.length ≤ state.population.length) :
    state.follow setup (resultEvents environments bred order) =
      ((state.recordAll order).maybeCompleteGeneration setup (environments (order.length - 1))
        (bred (order.length - 1))).map Prod.fst := by
  induction order generalizing state environments bred with
  | nil => exact absurd rfl nonempty
  | cons result rest ih =>
      have first := apply_generationResult setup (environments 0) (bred 0)
        (generation result List.mem_cons_self) (inRange result List.mem_cons_self)
      rw [resultEvents_cons, follow, List.foldlM_cons, first]
      cases rest with
      | nil => exact bind_pure _
      | cons second rest =>
          obtain ⟨population, _, _, currentEval⟩ := recordAll_frame [result]
            fun other member => inRange other (List.mem_singleton.mp member ▸ List.mem_cons_self)
          have recorded : state.recordAll [result] = state.recordResult result := rfl
          rw [recorded] at population currentEval
          have missing : (state.recordResult result).currentEval <
              (state.recordResult result).population.length := by
            rw [population, currentEval]
            simp only [List.length_cons, List.length_nil] at fits ⊢
            omega
          rw [maybeCompleteGeneration, if_pos missing]
          apply ih
          · exact List.cons_ne_nil _ _
          · intro other member
            exact generation other (List.mem_cons_of_mem _ member)
          · intro other member
            exact (inRange_congr population _).mpr (inRange other (List.mem_cons_of_mem _ member))
          · rw [population, currentEval]
            simp only [List.length_cons, List.length_nil] at fits ⊢
            omega

theorem follow_append (first second : List (Event F)) :
    state.follow setup (first ++ second) =
      (state.follow setup first).bind fun middle => middle.follow setup second :=
  List.foldlM_append ..

theorem outcome_append (first second : List (Event F)) :
    state.outcome setup (first ++ second) =
      (state.follow setup first).bind fun middle => middle.outcome setup second := by
  rw [outcome, follow_append, Option.map_bind]
  rfl

variable {setup environments bred}

omit [FitnessArithmetic F] in
theorem validatedIndex_of_inactive (inactive : state.robustnessPass.active = false) :
    state.validatedIndex = none := by
  rw [validatedIndex, inactive]
  rfl

theorem validatedIndex_of_completed {environment : StoreEnvironment F} {bred : Bred F}
    {after : Evolution F} {submission : Option Submission}
    (completed : state.completeGeneration setup environment bred = some (after, submission))
    (inactive : state.robustnessPass.active = false) : after.validatedIndex = none := by
  apply validatedIndex_of_inactive
  rcases completeGeneration_cases completed with ⟨ended, _⟩ | ⟨advanced, _⟩
  · rw [ended]
    exact inactive
  · obtain ⟨stored, saved, _, _, same⟩ := advanceGeneration_effect advanced
    obtain ⟨repository, id, effect⟩ := storeIfDue_effect saved
    rw [same, effect]
    exact inactive

theorem validatedIndex_of_complete
    (configured : 0 < setup.evolutionConfig.robustFitnessEvaluationCount)
    (inactive : state.robustnessPass.active = false)
    (complete : ¬ state.currentEval < state.population.length)
    {environment : ResultEnvironment F} {bred : Bred F} {after : Evolution F}
    {submission : Option Submission}
    (completed : state.maybeCompleteGeneration setup environment bred =
      some (after, submission)) : after.validatedIndex = state.candidateIndex := by
  have count : ¬ resolveRobustnessPassSampleCount
      setup.evolutionConfig.robustFitnessEvaluationCount ≤ 0 := by
    rw [resolveRobustnessPassSampleCount, if_neg (not_le.mpr configured)]
    exact not_le.mpr configured
  rw [maybeCompleteGeneration, if_neg complete, if_neg count, Option.bind_some] at completed
  have concluded := concludeGeneration_cases completed
  rcases startRobustnessPass_cases setup state with
    ⟨same, idle⟩ | ⟨_, missing, dropped⟩ | ⟨_, _, found, _, started⟩
  · rw [same] at concluded
    rcases concluded with ⟨active, _⟩ | ⟨active, _⟩ | ⟨_, ended⟩
    · exact Bool.noConfusion (inactive.symm.trans active)
    · exact Bool.noConfusion (inactive.symm.trans active)
    · rw [validatedIndex_of_completed ended inactive]
      rcases idle with active | unarmed | unconfigured
      · exact Bool.noConfusion (inactive.symm.trans active)
      · exact (candidateIndex_of_unarmed unarmed).symm
      · exact absurd unconfigured count
  · rw [dropped] at concluded
    rcases concluded with ⟨active, _⟩ | ⟨active, _⟩ | ⟨_, ended⟩
    · exact Bool.noConfusion (inactive.symm.trans active)
    · exact Bool.noConfusion (inactive.symm.trans active)
    · rw [validatedIndex_of_completed ended inactive, candidateIndex, missing]
      rfl
  · obtain ⟨carrier, found⟩ := Option.isSome_iff_exists.mp found
    rw [started] at concluded
    rcases concluded with ⟨_, _, same⟩ | ⟨_, finished, _⟩ | ⟨stopped, _⟩
    · rw [(Prod.mk.inj same).1, candidateIndex, found]
      rfl
    · exact absurd (not_le.mp count) finished
    · cases stopped

end

section

variable [LawfulComparison F]

theorem orderIndependent_of_oneKind (setup : TrainingSetup) (start : state.AtGenerationStart)
    (given : state.GenerationResults results)
    (oneKind : state.contenders true results = [] ∨ state.contenders false results = []) :
    OrderIndependent setup state results := by
  have agree : ∀ order : List (CompletedEvaluation F), order.Perm results →
      Agree (state.recordAll results) (state.recordAll order) :=
    fun order perm => agree_recordAll start given oneKind perm
  have selected : ∀ order : List (CompletedEvaluation F), order.Perm results →
      state.SelectsFittest results (state.recordAll order).candidateIndex := by
    intro order perm
    obtain ⟨_, _, same⟩ := agree order perm
    rw [same]
    exact selectsFittest_recordAll start given oneKind
  have complete : ∀ order : List (CompletedEvaluation F), order.Perm results →
      ¬ (state.recordAll order).currentEval < (state.recordAll order).population.length := by
    intro order perm
    obtain ⟨population, _, _, currentEval⟩ := recordAll_frame order (given.perm perm).inRange
    rw [population, currentEval, start.unevaluated, (given.perm perm).length]
    omega
  have followed : ∀ order : List (CompletedEvaluation F), order.Perm results → order ≠ [] →
      ∀ environments bred, state.follow setup (resultEvents environments bred order) =
        ((state.recordAll order).maybeCompleteGeneration setup (environments (order.length - 1))
          (bred (order.length - 1))).map Prod.fst := by
    intro order perm nonempty environments bred
    apply follow_resultEvents
    · exact nonempty
    · exact (given.perm perm).generation
    · exact (given.perm perm).inRange
    · rw [start.unevaluated, (given.perm perm).length]
      omega
  refine ⟨selected, ?_, ?_⟩
  · intro configured order perm environments bred after moved
    by_cases empty : order = []
    · subst empty
      cases moved
      have none := perm.symm.eq_nil
      subst none
      rw [validatedIndex_of_inactive start.noValidation]
      rfl
    · rw [followed order perm empty] at moved
      obtain ⟨⟨_, submission⟩, completed, same⟩ := Option.map_eq_some_iff.mp moved
      cases same
      obtain ⟨_, _, robustnessPass, _⟩ := recordAll_frame order (given.perm perm).inRange
      rw [validatedIndex_of_complete configured _ (complete order perm) completed]
      · exact selected order perm
      · rw [robustnessPass]
        exact start.noValidation
  · intro first second firstPerm secondPerm environments bred later
    by_cases empty : first = []
    · subst empty
      have none := (firstPerm.trans secondPerm.symm).symm.eq_nil
      rw [none]
    · have filled : second ≠ [] := by
        intro none
        rw [none] at secondPerm
        exact empty (firstPerm.trans secondPerm.symm).eq_nil
      have sameLength : second.length = first.length :=
        (secondPerm.trans firstPerm.symm).length_eq
      obtain ⟨bestThisGen, origin, same⟩ := agree first firstPerm
      obtain ⟨otherBest, otherOrigin, sameToo⟩ := agree second secondPerm
      have related : ∃ bestThisGen origin, state.recordAll second =
          (state.recordAll first).withReport bestThisGen origin := by
        refine ⟨otherBest, otherOrigin, ?_⟩
        rw [same, sameToo]
        rfl
      obtain ⟨otherBest, otherOrigin, same⟩ := related
      rw [outcome_append, outcome_append, followed first firstPerm empty,
        followed second secondPerm filled, sameLength, same]
      obtain ⟨reported, reportedOrigin, completed⟩ := maybeCompleteGeneration_withReport setup
        otherBest otherOrigin (state.recordAll first) (environments (first.length - 1))
        (bred (first.length - 1))
      rw [completed]
      cases (state.recordAll first).maybeCompleteGeneration setup (environments (first.length - 1))
          (bred (first.length - 1)) with
      | none => rfl
      | some next => exact Agree.outcome setup ⟨reported, reportedOrigin, rfl⟩ later

theorem candidateIndex_of_plain_last (given : state.GenerationResults results)
    {top : CompletedEvaluation F} (leads : Leads Higher (state.contenders false results) top)
    {earlier : List (CompletedEvaluation F)} (perm : (earlier ++ [top]).Perm results) :
    (state.recordAll (earlier ++ [top])).candidateIndex = none := by
  have ordered := given.perm perm
  have before := fun result member => ordered.inRange result (List.mem_append_left _ member)
  have last := ordered.inRange top (List.mem_append_right _ (List.mem_singleton_self top))
  obtain ⟨_, plain, above⟩ := mem_contenders.mp leads.1
  have better : less (state.recordAll earlier).bestFitnessAllTime top.totalFitness = true := by
    rcases bestFitnessAllTime_recordAll earlier before with same | ⟨other, member, same⟩
    · rw [same]
      exact above
    · obtain ⟨present, contends⟩ := mem_contenders.mp member
      have contender : other ∈ state.contenders false results :=
        mem_contenders.mpr ⟨perm.mem_iff.mp (List.mem_append_left _ present), contends⟩
      rw [same]
      rcases given.connected false other contender top leads.1 with higher | itself | lower
      · exact absurd higher (leads.2 other contender)
      · have twice := List.nodup_append.mp (List.Nodup.of_map _ ordered.nodup)
        exact absurd itself (twice.2.2 other present top (List.mem_singleton_self top))
      · exact lower
  have stands := standing_recordAll_snoc before last
  rw [if_pos better, plain] at stands
  apply candidateIndex_of_unarmed
  rw [show (state.recordAll (earlier ++ [top])).pendingBest = .cleared from
    congrArg (fun standing => standing.2.2) stands]
  rfl

theorem oneKind_of_orderIndependent {setup : TrainingSetup}
    (given : state.GenerationResults results)
    (independent : OrderIndependent setup state results) :
    state.contenders true results = [] ∨ state.contenders false results = [] := by
  by_contra both
  obtain ⟨carrying, plain⟩ := not_or.mp both
  obtain ⟨top, leads⟩ := exists_leads higher_irrefl higher_trans plain
  obtain ⟨before, behind, split⟩ := List.append_of_mem (mem_contenders.mp leads.1).1
  have perm : (before ++ behind ++ [top]).Perm results := by
    rw [split]
    exact (List.perm_append_singleton top _).trans List.perm_middle.symm
  have selected := independent.selected _ perm
  rw [candidateIndex_of_plain_last given leads perm] at selected
  exact carrying selected

/-- **The order in which the workers finish.** The outcome of a generation does not depend on
it just when not both an individual with a genome and one without beat the best fitness from
before the generation. -/
theorem orderIndependent_iff (setup : TrainingSetup) (start : state.AtGenerationStart)
    (given : state.GenerationResults results) :
    OrderIndependent setup state results ↔
      state.contenders true results = [] ∨ state.contenders false results = [] := by
  constructor
  · intro independent
    exact oneKind_of_orderIndependent given independent
  · intro oneKind
    exact orderIndependent_of_oneKind setup start given oneKind

end

end

section

/-! ## A generation of two -/

/-- A contest of two generations, decided on first samples. -/
def twoGenerations : EvolutionConfig where
  maxGenerations := 2
  robustFitnessEvaluationCount := 0

/-- The results of a generation of the contest: without a genome, and with one. -/
def contestResults (plain carrying : ℚ) : List (CompletedEvaluation ℚ) := [
  { taskType := .generationEval, index := 0, totalFitness := plain },
  { taskType := .generationEval, index := 1, totalFitness := carrying }]

def contestEvents (order : List (CompletedEvaluation ℚ)) : List (Event ℚ) :=
  order.map (contestResult ⟨storingAt 1 (1, 1), storingAt 1 (2, 2)⟩)

theorem generationResults_contest {state : Evolution ℚ} (two : state.population.length = 2)
    {plain carrying : ℚ} (apart : plain ≠ carrying) :
    state.GenerationResults (contestResults plain carrying) where
  generation result member := by
    rcases List.mem_pair.mp member with same | same
    · rw [same]
    · rw [same]
  indices := by
    rw [two]
    exact List.Perm.refl _
  untied first member second memberToo other := by
    rcases List.mem_pair.mp member with same | same
    · rcases List.mem_pair.mp memberToo with sameToo | sameToo
      · rw [same, sameToo] at other
        exact absurd rfl other
      · rw [same, sameToo]
        exact decide_eq_false apart
    · rcases List.mem_pair.mp memberToo with sameToo | sameToo
      · rw [same, sameToo]
        exact decide_eq_false apart.symm
      · rw [same, sameToo] at other
        exact absurd rfl other

/-- The parts of a state that say whether a generation of two is about to start. -/
def startOf (state : Evolution ℚ) : ℕ × Bool × Bool × ℕ :=
  (state.currentEval, state.pendingBest.robustness, state.robustnessPass.active,
    state.population.length)

theorem atGenerationStart_of_startOf {state : Evolution ℚ}
    (fresh : startOf state = (0, false, false, 2)) :
    state.AtGenerationStart ∧ state.population.length = 2 := by
  simp only [startOf, Prod.mk.injEq] at fresh
  obtain ⟨unevaluated, noCandidate, noValidation, two⟩ := fresh
  exact ⟨⟨unevaluated, noCandidate, noValidation⟩, two⟩

/-- Fitness ten without a genome and twelve with one: the one without a genome drops the
candidate when it comes last. -/
theorem not_orderIndependent_of_contest :
    ¬ ∀ (setup : TrainingSetup) (state : Evolution ℚ) (results : List (CompletedEvaluation ℚ)),
      state.AtGenerationStart → state.GenerationResults results →
        OrderIndependent setup state results := by
  intro always
  obtain ⟨start, started, fresh⟩ := Option.map_eq_some_iff.mp
    (show (contest twoGenerations {} []).map startOf = some (0, false, false, 2) by decide +kernel)
  have candidates : (contest twoGenerations {} []).map (fun start =>
      ((start.recordAll (contestResults 10 12)).candidateIndex,
        (start.recordAll (contestResults 10 12).reverse).candidateIndex)) =
      some (some 1, none) := by decide +kernel
  rw [started, Option.map_some, Option.some_inj, Prod.mk.injEq] at candidates
  obtain ⟨atStart, two⟩ := atGenerationStart_of_startOf fresh
  have independent := always (contestSetup twoGenerations) start (contestResults 10 12) atStart
    (generationResults_contest two (by decide))
  have selected := independent.selected _ (List.Perm.refl _)
  have selectedToo := independent.selected _ (List.reverse_perm _)
  rw [candidates.1] at selected
  rw [candidates.2] at selectedToo
  obtain ⟨result, leads, _⟩ := selected
  have none : start.contenders true (contestResults 10 12) = [] := selectedToo
  rw [none] at leads
  cases leads.1

theorem orderIndependent_of_contest :
    ∃ state : Evolution ℚ, (machine ℚ (contestSetup twoGenerations)).Reachable state ∧
      state.bestFitnessAllTime = 11 ∧
      OrderIndependent (contestSetup twoGenerations) state (contestResults 10 12) := by
  obtain ⟨state, reached, fresh⟩ := Option.map_eq_some_iff.mp
    (show (contest twoGenerations {} (contestEvents (contestResults 11 10))).map startOf =
      some (0, false, false, 2) by decide +kernel)
  have facts : (contest twoGenerations {} (contestEvents (contestResults 11 10))).map
      (fun state => (state.bestFitnessAllTime,
        (state.contenders false (contestResults 10 12)).length)) = some (11, 0) := by decide +kernel
  rw [reached, Option.map_some, Option.some_inj, Prod.mk.injEq] at facts
  obtain ⟨atStart, two⟩ := atGenerationStart_of_startOf fresh
  refine ⟨state, reachable_of_contest reached, facts.1, ?_⟩
  apply (orderIndependent_iff _ atStart (generationResults_contest two (by decide))).mpr
  right
  exact List.eq_nil_of_length_eq_zero facts.2

end

end Evolution

end DirtSim
