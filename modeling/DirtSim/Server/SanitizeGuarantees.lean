import DirtSim.Server.Sanitize

/-! # What sanitizing guarantees

Settings come back from sanitizing unless the training target mixes a NES scenario with another
organism, or a NES duck with another scenario: then the process ends. Of a population's seeds those
are left that the repository has, and each of the others counts as one more random genome, as long as
the count stays in the range of its type.
-/

namespace DirtSim.Server

open Foundation

section

/-! ## Seeds and random genomes -/

variable {genomeExists : UUID → Bool} {population : PopulationSpec}
variable (index : ℕ)

def isMissing (genomeExists : UUID → Bool) (genomeId : UUID) : Bool :=
  genomeId.isNil || !genomeExists genomeId

def genomeTotal (population : PopulationSpec) : ℤ :=
  population.randomCount.toInt + population.seedGenomes.length

/-- The count of random genomes stays in range when the missing seeds are added to it. -/
def CountFits (genomeExists : UUID → Bool) (population : PopulationSpec) : Prop :=
  population.seedGenomes.countP (isMissing genomeExists) < 2 ^ 31 ∧
    population.randomCount.toInt + population.seedGenomes.countP (isMissing genomeExists) < 2 ^ 31

instance (genomeExists : UUID → Bool) (population : PopulationSpec) :
    Decidable (CountFits genomeExists population) :=
  inferInstanceAs (Decidable (_ ∧ _))

theorem length_seedGenomes (genomeExists : UUID → Bool) (seedGenomes : List UUID) :
    seedGenomes.length =
      (seedGenomes.filter fun genomeId => !(genomeId.isNil || !genomeExists genomeId)).length +
        seedGenomes.countP (isMissing genomeExists) := by
  have kept (genomeId : UUID) : (¬ isMissing genomeExists genomeId = true) ↔
      (!(genomeId.isNil || !genomeExists genomeId)) = true := by
    rw [isMissing, Bool.not_eq_true, Bool.not_eq_true']
  rw [List.length_eq_countP_add_countP (isMissing genomeExists), Nat.add_comm,
    ← List.countP_eq_length_filter]
  simp [kept]

theorem toInt_ofNat_sub (whole part : ℕ) :
    (Int32.ofNat whole - Int32.ofNat part).toInt = ((whole : ℤ) - part).bmod (2 ^ 32) := by
  rw [Int32.toInt_sub, Int32.toInt_ofNat', Int32.toInt_ofNat', Int32.size]
  exact Int.bmod_sub_bmod.trans Int.sub_bmod_bmod

theorem sanitizePopulation_seedGenomes :
    (sanitizePopulation genomeExists index population).1.seedGenomes =
      population.seedGenomes.filter fun genomeId =>
        !(genomeId.isNil || !genomeExists genomeId) := by
  unfold sanitizePopulation
  dsimp only
  split <;> rfl

theorem sanitizePopulation_randomCount :
    (sanitizePopulation genomeExists index population).1.randomCount =
      let removed := Int32.ofNat population.seedGenomes.length -
        Int32.ofNat (sanitizePopulation genomeExists index population).1.seedGenomes.length
      if removed ≤ 0 then population.randomCount else population.randomCount + removed := by
  rw [sanitizePopulation_seedGenomes]
  unfold sanitizePopulation
  dsimp only
  split <;> rfl

/-- **Seeds turn into random genomes.** The total stays the same if and only if the count of random
genomes stays in range. -/
theorem genomeTotal_sanitizePopulation_iff :
    genomeTotal (sanitizePopulation genomeExists index population).1 = genomeTotal population ↔
      CountFits genomeExists population := by
  have split := length_seedGenomes genomeExists population.seedGenomes
  rw [← sanitizePopulation_seedGenomes index] at split
  unfold genomeTotal CountFits
  rw [sanitizePopulation_randomCount]
  dsimp only
  generalize (sanitizePopulation genomeExists index population).1.seedGenomes.length = kept at *
  generalize population.seedGenomes.countP (isMissing genomeExists) = missing at *
  generalize population.seedGenomes.length = whole at *
  subst split
  have removed := toInt_ofNat_sub (kept + missing) kept
  rw [Nat.cast_add, add_sub_cancel_left] at removed
  generalize Int32.ofNat (kept + missing) - Int32.ofNat kept = difference at *
  have low := population.randomCount.le_toInt
  have high := population.randomCount.toInt_lt
  split
  case isTrue none_counted =>
      -- nothing is added: there was nothing to add, or the difference has wrapped around
      have nonpositive : difference.toInt ≤ 0 := Int32.le_iff_toInt_le.mp none_counted
      rw [removed, Int.bmod_def] at nonpositive
      omega
  case isFalse counted =>
      have positive : 0 < difference.toInt :=
        not_le.mp fun nonpositive => counted (Int32.le_iff_toInt_le.mpr nonpositive)
      have added : (population.randomCount + difference).toInt =
          (population.randomCount.toInt + missing).bmod (2 ^ 32) := by
        rw [Int32.toInt_add, removed, Int.add_bmod_bmod]
      rw [removed, Int.bmod_def] at positive
      rw [added, Int.bmod_def]
      omega

/-- What holds of a population before and after: it starts with as many genomes, and every seed that
is left is in the repository. -/
structure PopulationKept (genomeExists : UUID → Bool) (before after : PopulationSpec) : Prop where
  total : genomeTotal after = genomeTotal before
  present : ∀ genomeId ∈ after.seedGenomes, genomeExists genomeId = true

theorem populationKept_iff :
    PopulationKept genomeExists population (sanitizePopulation genomeExists index population).1 ↔
      CountFits genomeExists population := by
  refine ⟨fun kept => (genomeTotal_sanitizePopulation_iff index).mp kept.total, fun fits => ?_⟩
  refine ⟨(genomeTotal_sanitizePopulation_iff index).mpr fits, fun genomeId left => ?_⟩
  rw [sanitizePopulation_seedGenomes] at left
  have stays := (List.mem_filter.mp left).2
  simp only [Bool.not_or, Bool.not_not, Bool.and_eq_true] at stays
  exact stays.2

theorem populationsKept_iff (populations : List PopulationSpec) :
    List.Forall₂ (PopulationKept genomeExists) populations
        (sanitizePopulations genomeExists index populations).1 ↔
      ∀ population ∈ populations, CountFits genomeExists population := by
  induction populations generalizing index with
  | nil => exact iff_of_true .nil fun _ none => absurd none List.not_mem_nil
  | cons population populations ih =>
      rw [sanitizePopulations]
      rw [List.forall₂_cons, populationKept_iff, ih, List.forall_mem_cons]

end

section

variable {genomeExists : UUID → Bool} {input settings : UserSettings} {updates : List String}

/-- NES ducks train on NES scenarios, and nobody else does. -/
def TargetConsistent (spec : TrainingSpec) : Prop :=
  spec.organismType = OrganismKind.NES_DUCK ↔ isNesScenario spec.scenarioId = true

instance (spec : TrainingSpec) : Decidable (TargetConsistent spec) :=
  inferInstanceAs (Decidable (_ ↔ _))

theorem checkTrainingTarget_ok_iff (spec : TrainingSpec) :
    checkTrainingTarget spec = .ok () ↔ TargetConsistent spec := by
  unfold checkTrainingTarget TargetConsistent
  by_cases duck : spec.organismType = OrganismKind.NES_DUCK
  · cases nes : isNesScenario spec.scenarioId with
    | false =>
        simp only [duck, decide_true, Bool.true_or, if_true, ne_eq, not_true_eq_false, if_false,
          Bool.not_false]
        exact iff_of_false nofun fun same => absurd (same.mp trivial) nofun
    | true =>
        simp [duck]
  · cases nes : isNesScenario spec.scenarioId with
    | false =>
        simp [duck]
    | true =>
        simp only [duck, decide_false, Bool.or_true, if_true, ne_eq, not_false_eq_true]
        exact iff_of_false nofun fun same => same.mpr trivial

theorem sanitizeUserSettings_ok (sanitized : sanitizeUserSettings genomeExists input =
    .ok (settings, updates)) :
    TargetConsistent input.trainingSpec ∧ settings.trainingSpec.population =
      (sanitizePopulations genomeExists 0 input.trainingSpec.population).1 := by
  obtain ⟨_, target, rebuilt⟩ := map_ok.mp sanitized
  obtain ⟨rfl, _⟩ := Prod.mk.inj rebuilt
  exact ⟨(checkTrainingTarget_ok_iff _).mp target, rfl⟩

/-- **Sanitizing is safe** exactly for a consistent training target and populations whose counts
stay in range: it has a result, which it leaves as it is, and every population keeps its size and
only seeds of the repository. -/
theorem sanitized_safely_iff (genomeExists : UUID → Bool) (input : UserSettings) :
    (∃ settings updates, sanitizeUserSettings genomeExists input = .ok (settings, updates) ∧
      sanitizeUserSettings genomeExists settings = .ok (settings, []) ∧
      List.Forall₂ (PopulationKept genomeExists) input.trainingSpec.population
        settings.trainingSpec.population) ↔
    TargetConsistent input.trainingSpec ∧
      ∀ population ∈ input.trainingSpec.population, CountFits genomeExists population := by
  constructor
  · rintro ⟨settings, updates, sanitized, _, kept⟩
    obtain ⟨consistent, rebuilt⟩ := sanitizeUserSettings_ok sanitized
    rw [rebuilt] at kept
    exact ⟨consistent, (populationsKept_iff 0 _).mp kept⟩
  · rintro ⟨consistent, fit⟩
    have target := (checkTrainingTarget_ok_iff input.trainingSpec).mpr consistent
    obtain ⟨⟨settings, updates⟩, sanitized⟩ :
        ∃ checked, sanitizeUserSettings genomeExists input = .ok checked := by
      unfold sanitizeUserSettings
      dsimp only
      rw [target]
      exact ⟨_, rfl⟩
    refine ⟨settings, updates, sanitized, sanitizeUserSettings_idempotent sanitized, ?_⟩
    rw [(sanitizeUserSettings_ok sanitized).2]
    exact (populationsKept_iff 0 _).mpr fit

/-- A NES duck that trains on another scenario ends the process; and a count that is at its largest
wraps around when a seed is missing. -/
theorem not_sanitized_safely :
    (¬ ∀ genomeExists input, ∃ checked, sanitizeUserSettings genomeExists input = .ok checked) ∧
    ¬ ∀ genomeExists input settings updates,
      sanitizeUserSettings genomeExists input = .ok (settings, updates) →
      List.Forall₂ (PopulationKept genomeExists) input.trainingSpec.population
        settings.trainingSpec.population := by
  constructor
  · intro always
    obtain ⟨⟨settings, updates⟩, sanitized⟩ := always (fun _ => true)
      { trainingSpec := { organismType := OrganismKind.NES_DUCK } }
    have consistent := (sanitizeUserSettings_ok sanitized).1
    exact absurd consistent (by decide)
  · intro always
    let full : PopulationSpec := { seedGenomes := [UUID.nil], randomCount := 2147483647 }
    obtain ⟨⟨settings, updates⟩, sanitized⟩ : ∃ checked,
        sanitizeUserSettings (fun _ => true) { trainingSpec := { population := [full] } } =
          .ok checked := by
      exact ⟨_, rfl⟩
    have kept := always _ _ settings updates sanitized
    rw [(sanitizeUserSettings_ok sanitized).2, populationsKept_iff] at kept
    exact absurd (kept full List.mem_cons_self) (by decide +kernel)

end

end DirtSim.Server
