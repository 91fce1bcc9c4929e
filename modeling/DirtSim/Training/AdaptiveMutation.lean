import DirtSim.Evolution.GenomeMetadata
import DirtSim.Foundation.Numerals
import Mathlib.Algebra.Order.Floor.Ring
import Mathlib.Algebra.Order.Field.Basic
import Mathlib.Data.List.Induction
import Mathlib.Data.Rat.Floor
import Mathlib.Tactic.Linarith
import Mathlib.Tactic.NormNum

/-! # Adaptive mutation

A tracker counts the generations since the last improvement and names the phase of the training:
normal, a plateau, stuck, or recovering. The phase decides on the budgets of the next offspring;
while the training recovers they decay towards the configured ones.
-/

namespace DirtSim

open Double

/-- The arithmetic that best fitness values are tracked with. -/
class TrackedFitness (F : Type) extends Double F where
  add : F → F → F
  lowest : F

inductive TrainingPhase
  | normal | plateau | stuck | recovery
deriving DecidableEq, Repr

inductive AdaptiveMutationMode
  | baseline | explore | rescue | recover
deriving DecidableEq, Repr

inductive AdaptiveMutationControlMode
  | auto | baseline | explore | rescue
deriving DecidableEq, Repr

/-- The part of the evolution configuration that decides on the phase. -/
structure PhaseConfig (F : Type) where
  stagnationImprovementEpsilon : F
  stagnationWindowGenerations : ℤ := 5
  recoveryWindowGenerations : ℤ := 3

/-- How many weights of an offspring are perturbed and reset, and how far. -/
structure MutationConfig (K : Type*) where
  perturbationsPerOffspring : ℤ
  resetsPerOffspring : ℤ
  sigma : K
deriving DecidableEq

structure TrainingPhaseStatus where
  generationsSinceImprovement : ℤ := 0
  lastImprovementGeneration : ℤ := -1
  stagnationLevel : ℤ := 0
  recoveryLevel : ℤ := 0
  phase : TrainingPhase := .normal
deriving DecidableEq, Repr

structure TrainingPhaseTracker (F : Type) where
  lastMeaningfulBestFitness : F
  status : TrainingPhaseStatus := {}
deriving DecidableEq

namespace TrainingPhaseTracker

section

def int32 (value : ℤ) : ℤ := Int.bmod value 4294967296

def normalizeRecoveryWindow (value : ℤ) : ℤ := max value 0

def normalizeStagnationWindow (value : ℤ) : ℤ := max value 1

def recoveryLevelNext (recoveryLevel : ℤ) : ℤ := max (recoveryLevel - 1) 0

def stagnationLevelCompute (generationsSinceImprovement stagnationWindowGenerations : ℤ) : ℤ :=
  if generationsSinceImprovement ≥ int32 (stagnationWindowGenerations * 2) then 2
  else if generationsSinceImprovement ≥ stagnationWindowGenerations then 1
  else 0

def phaseResolve (status : TrainingPhaseStatus) : TrainingPhase :=
  if status.stagnationLevel ≥ 2 then .stuck
  else if status.stagnationLevel ≥ 1 then .plateau
  else if status.recoveryLevel > 0 then .recovery
  else .normal

variable {F : Type} [TrackedFitness F]

open TrackedFitness

def reset : TrainingPhaseTracker F where
  lastMeaningfulBestFitness := lowest

def exceeds (config : PhaseConfig F) (recorded completedBestFitness : F) : Bool :=
  less (add recorded (larger zero config.stagnationImprovementEpsilon)) completedBestFitness

/-- Whether a generation has improved; after a record that is not finite any generation has. -/
def improves (config : PhaseConfig F) (recorded completedBestFitness : F) : Bool :=
  !isFinite recorded || exceeds config recorded completedBestFitness

def updateCompletedGeneration (config : PhaseConfig F) (tracker : TrainingPhaseTracker F)
    (generation : ℤ) (completedBestFitness : F) : TrainingPhaseTracker F :=
  let status := tracker.status
  let recoveryWindowGenerations := normalizeRecoveryWindow config.recoveryWindowGenerations
  let stagnationWindowGenerations := normalizeStagnationWindow config.stagnationWindowGenerations
  let wasRecovery := status.phase = .recovery
  let wasStagnated := status.stagnationLevel > 0
  if improves config tracker.lastMeaningfulBestFitness completedBestFitness then
    let improvedStatus := { status with
      lastImprovementGeneration := generation
      generationsSinceImprovement := 0
      stagnationLevel := 0
      recoveryLevel :=
        if wasStagnated then recoveryWindowGenerations
        else if wasRecovery then recoveryLevelNext status.recoveryLevel
        else 0 }
    { lastMeaningfulBestFitness := completedBestFitness
      status := { improvedStatus with phase := phaseResolve improvedStatus } }
  else
    let stagnantStatus := { status with
      generationsSinceImprovement := status.generationsSinceImprovement + 1
      stagnationLevel :=
        stagnationLevelCompute (status.generationsSinceImprovement + 1) stagnationWindowGenerations
      recoveryLevel := recoveryLevelNext status.recoveryLevel }
    { tracker with status := { stagnantStatus with phase := phaseResolve stagnantStatus } }

end

end TrainingPhaseTracker

/-- The budgets in effect, and why. -/
structure EffectiveAdaptiveMutation (K : Type*) where
  mode : AdaptiveMutationMode
  mutationConfig : MutationConfig K
deriving DecidableEq

namespace AdaptiveMutation

variable {K : Type*} [Field K] [LinearOrder K] [FloorRing K]

section

def clampToInt (value : ℤ) : ℤ :=
  if value ≤ 0 then 0 else if value ≥ 2147483647 then 2147483647 else value

def llround (value : K) : ℤ := if 0 ≤ value then ⌊value + 1 / 2⌋ else -⌊-value + 1 / 2⌋

def scaledBudgetResolve (baseline : ℤ) (scale : K) (minIncrease : ℤ) : ℤ :=
  clampToInt (max baseline (max (llround ((baseline : K) * scale)) (baseline + minIncrease)))

def scaledSigmaResolve (baseline scale minIncrease : K) : K :=
  max baseline (max (baseline * scale) (baseline + minIncrease))

/-- How much of the surplus is left with a recovery level. -/
def recoveryFactor (recoveryLevel recoveryWindowGenerations : ℤ) : K :=
  let remainingSteps := max (recoveryLevel - 1) 0
  max 0 (min 1 ((remainingSteps : K) / (recoveryWindowGenerations : K)))

def recoveryBudgetResolve (baseline previous recoveryLevel recoveryWindowGenerations : ℤ) : ℤ :=
  if recoveryLevel ≤ 0 ∨ recoveryWindowGenerations ≤ 0 ∨ previous ≤ baseline then baseline
  else
    clampToInt (llround ((baseline : K) +
      ((previous - baseline : ℤ) : K) * recoveryFactor recoveryLevel recoveryWindowGenerations))

def recoverySigmaResolve (baseline previous : K) (recoveryLevel recoveryWindowGenerations : ℤ) :
    K :=
  if recoveryLevel ≤ 0 ∨ recoveryWindowGenerations ≤ 0 ∨ previous ≤ baseline then baseline
  else baseline + (previous - baseline) * recoveryFactor recoveryLevel recoveryWindowGenerations

def adaptiveMutationPhaseResolve (phase : TrainingPhase) :
    AdaptiveMutationControlMode → TrainingPhase
  | .auto => phase
  | .baseline => .normal
  | .explore => .plateau
  | .rescue => .stuck

def scaledConfig (baselineConfig : MutationConfig K) (perturbationsScale : K)
    (perturbationsMinIncrease : ℤ) (resetsScale : K) (resetsMinIncrease : ℤ) (sigmaScale : K)
    (sigmaMinIncrease : K) : MutationConfig K where
  perturbationsPerOffspring := scaledBudgetResolve baselineConfig.perturbationsPerOffspring
    perturbationsScale perturbationsMinIncrease
  resetsPerOffspring :=
    scaledBudgetResolve baselineConfig.resetsPerOffspring resetsScale resetsMinIncrease
  sigma := scaledSigmaResolve baselineConfig.sigma sigmaScale sigmaMinIncrease

def recoveryConfig (baselineConfig previous : MutationConfig K)
    (recoveryLevel recoveryWindowGenerations : ℤ) : MutationConfig K where
  perturbationsPerOffspring := recoveryBudgetResolve (K := K)
    baselineConfig.perturbationsPerOffspring previous.perturbationsPerOffspring recoveryLevel
    recoveryWindowGenerations
  resetsPerOffspring := recoveryBudgetResolve (K := K) baselineConfig.resetsPerOffspring
    previous.resetsPerOffspring recoveryLevel recoveryWindowGenerations
  sigma := recoverySigmaResolve baselineConfig.sigma previous.sigma recoveryLevel
    recoveryWindowGenerations

def adaptiveMutationResolve (baselineConfig : MutationConfig K)
    (trainingPhaseStatus : TrainingPhaseStatus)
    (previousEffective : EffectiveAdaptiveMutation K) (recoveryWindowGenerations : ℤ)
    (controlMode : AdaptiveMutationControlMode) : EffectiveAdaptiveMutation K :=
  match adaptiveMutationPhaseResolve trainingPhaseStatus.phase controlMode with
  | .normal => { mode := .baseline, mutationConfig := baselineConfig }
  | .plateau =>
      { mode := .explore
        mutationConfig := scaledConfig baselineConfig (3 / 2) 50 2 1 (5 / 4) (1 / 100) }
  | .stuck =>
      { mode := .rescue
        mutationConfig := scaledConfig baselineConfig (5 / 2) 150 4 2 (8 / 5) (1 / 50) }
  | .recovery =>
      { mode := .recover
        mutationConfig := recoveryConfig baselineConfig previousEffective.mutationConfig
          trainingPhaseStatus.recoveryLevel recoveryWindowGenerations }

end

end AdaptiveMutation

/-- A training, as far as it decides on the budgets of its offspring. -/
structure AdaptiveTraining (F : Type) (K : Type*) where
  generation : ℤ := 0
  trainingPhaseTracker : TrainingPhaseTracker F
  lastEffectiveAdaptiveMutation : EffectiveAdaptiveMutation K
deriving DecidableEq

/-- The best fitness of a completed generation and the control mode when its offspring are bred. -/
structure CompletedGeneration (F : Type) where
  bestFitness : F
  controlMode : AdaptiveMutationControlMode := .auto

namespace AdaptiveTraining

variable {F : Type} [TrackedFitness F] {K : Type*} [Field K] [LinearOrder K] [FloorRing K]

section

def start (baseline : MutationConfig K) : AdaptiveTraining F K where
  trainingPhaseTracker := .reset
  lastEffectiveAdaptiveMutation := { mode := .baseline, mutationConfig := baseline }

def advanceGeneration (config : PhaseConfig F) (baseline : MutationConfig K)
    (training : AdaptiveTraining F K) (completed : CompletedGeneration F) :
    AdaptiveTraining F K :=
  let tracker := training.trainingPhaseTracker.updateCompletedGeneration config
    training.generation completed.bestFitness
  { generation := training.generation + 1
    trainingPhaseTracker := tracker
    lastEffectiveAdaptiveMutation := AdaptiveMutation.adaptiveMutationResolve baseline
      tracker.status training.lastEffectiveAdaptiveMutation config.recoveryWindowGenerations
      completed.controlMode }

def after (config : PhaseConfig F) (baseline : MutationConfig K)
    (history : List (CompletedGeneration F)) : AdaptiveTraining F K :=
  history.foldl (advanceGeneration config baseline) (start baseline)

end

end AdaptiveTraining

namespace TrainingPhaseTracker

variable {F : Type} [TrackedFitness F] {config : PhaseConfig F} {tracker : TrainingPhaseTracker F}

section

/-! ## Phases -/

/-- The phase that a count of generations and a recovery level stand for. -/
def expectedPhase (stagnationWindowGenerations generationsSinceImprovement recoveryLevel : ℤ) :
    TrainingPhase :=
  if 2 * stagnationWindowGenerations ≤ generationsSinceImprovement then .stuck
  else if stagnationWindowGenerations ≤ generationsSinceImprovement then .plateau
  else if 0 < recoveryLevel then .recovery
  else .normal

def Doubles (config : PhaseConfig F) : Prop := config.stagnationWindowGenerations < 1073741824

instance (config : PhaseConfig F) : Decidable (Doubles config) :=
  inferInstanceAs (Decidable (_ < _))

/-- What the tracker keeps. -/
structure Consistent (config : PhaseConfig F) (status : TrainingPhaseStatus) : Prop where
  count : 0 ≤ status.generationsSinceImprovement
  stagnation : status.stagnationLevel =
    if 2 * normalizeStagnationWindow config.stagnationWindowGenerations ≤
      status.generationsSinceImprovement then 2
    else if normalizeStagnationWindow config.stagnationWindowGenerations ≤
      status.generationsSinceImprovement then 1
    else 0
  recovery : 0 ≤ status.recoveryLevel ∧
    status.recoveryLevel ≤ normalizeRecoveryWindow config.recoveryWindowGenerations
  phase : status.phase = phaseResolve status

section

omit [TrackedFitness F]

theorem int32_double (doubles : Doubles config) :
    int32 (normalizeStagnationWindow config.stagnationWindowGenerations * 2) =
      2 * normalizeStagnationWindow config.stagnationWindowGenerations := by
  unfold Doubles at doubles
  unfold int32 normalizeStagnationWindow
  rw [Int.bmod_eq_of_le (by omega) (by omega), mul_comm]

theorem Consistent.phase_eq {status : TrainingPhaseStatus} (consistent : Consistent config status) :
    status.phase = expectedPhase (normalizeStagnationWindow config.stagnationWindowGenerations)
      status.generationsSinceImprovement status.recoveryLevel := by
  rw [consistent.phase, phaseResolve, expectedPhase, consistent.stagnation]
  split
  case isTrue stuck => rfl
  case isFalse short =>
      split
      case isTrue plateau => rfl
      case isFalse recent => rfl

end

theorem consistent_reset : Consistent config (reset : TrainingPhaseTracker F).status := by
  refine ⟨le_rfl, ?_, ⟨le_rfl, le_max_right _ _⟩, rfl⟩
  have window : 1 ≤ normalizeStagnationWindow config.stagnationWindowGenerations :=
    le_max_right _ _
  change (0 : ℤ) = if 2 * _ ≤ (0 : ℤ) then 2 else if _ ≤ (0 : ℤ) then 1 else 0
  rw [if_neg (by omega), if_neg (by omega)]

/-- A generation that improves starts the count anew; recovery begins where the training had
stagnated, and goes on where it was under way. -/
theorem updateCompletedGeneration_improved (generation : ℤ) {best : F}
    (improved : improves config tracker.lastMeaningfulBestFitness best = true) :
    let next := tracker.updateCompletedGeneration config generation best
    next.lastMeaningfulBestFitness = best ∧ next.status.generationsSinceImprovement = 0 ∧
      next.status.stagnationLevel = 0 ∧
      next.status.recoveryLevel =
        (if tracker.status.stagnationLevel > 0 then
          normalizeRecoveryWindow config.recoveryWindowGenerations
        else if tracker.status.phase = .recovery then recoveryLevelNext tracker.status.recoveryLevel
        else 0) ∧
      next.status.phase = phaseResolve next.status := by
  intro next
  have same : next = _ := if_pos improved
  rw [same]
  exact ⟨rfl, rfl, rfl, rfl, rfl⟩

theorem updateCompletedGeneration_stagnant (generation : ℤ) {best : F}
    (stagnant : improves config tracker.lastMeaningfulBestFitness best = false) :
    let next := tracker.updateCompletedGeneration config generation best
    next.lastMeaningfulBestFitness = tracker.lastMeaningfulBestFitness ∧
      next.status.generationsSinceImprovement = tracker.status.generationsSinceImprovement + 1 ∧
      next.status.stagnationLevel =
        stagnationLevelCompute (tracker.status.generationsSinceImprovement + 1)
          (normalizeStagnationWindow config.stagnationWindowGenerations) ∧
      next.status.recoveryLevel = recoveryLevelNext tracker.status.recoveryLevel ∧
      next.status.phase = phaseResolve next.status := by
  intro next
  have same : next = _ := if_neg (Bool.eq_false_iff.mp stagnant)
  rw [same]
  exact ⟨rfl, rfl, rfl, rfl, rfl⟩

theorem recoveryLevelNext_bounds {recoveryLevel window : ℤ}
    (bounds : 0 ≤ recoveryLevel ∧ recoveryLevel ≤ window) :
    0 ≤ recoveryLevelNext recoveryLevel ∧ recoveryLevelNext recoveryLevel ≤ window := by
  unfold recoveryLevelNext
  omega

theorem Consistent.step (doubles : Doubles config) (consistent : Consistent config tracker.status)
    (generation : ℤ) (best : F) :
    Consistent config (tracker.updateCompletedGeneration config generation best).status := by
  have window : 1 ≤ normalizeStagnationWindow config.stagnationWindowGenerations :=
    le_max_right _ _
  have recovery : (0 : ℤ) ≤ normalizeRecoveryWindow config.recoveryWindowGenerations :=
    le_max_right _ _
  cases improved : improves config tracker.lastMeaningfulBestFitness best with
  | true =>
      obtain ⟨_, count, stagnation, level, phase⟩ :=
        updateCompletedGeneration_improved generation improved
      refine ⟨count.ge, ?_, ?_, phase⟩
      · rw [stagnation, count, if_neg (by omega), if_neg (by omega)]
      · rw [level]
        split
        · exact ⟨recovery, le_rfl⟩
        · split
          · exact recoveryLevelNext_bounds consistent.recovery
          · exact ⟨le_rfl, recovery⟩
  | false =>
      obtain ⟨_, count, stagnation, level, phase⟩ :=
        updateCompletedGeneration_stagnant generation improved
      have before := consistent.count
      refine ⟨by omega, ?_, level ▸ recoveryLevelNext_bounds consistent.recovery, phase⟩
      rw [stagnation, count, stagnationLevelCompute, int32_double doubles]

theorem Consistent.stuck_of_plateau (doubles : Doubles config)
    (consistent : Consistent config tracker.status) (generation : ℤ) (best : F)
    (stuck : (tracker.updateCompletedGeneration config generation best).status.phase = .stuck)
    (moving : tracker.status.phase ≠ .stuck) : tracker.status.phase = .plateau := by
  have window : 1 ≤ normalizeStagnationWindow config.stagnationWindowGenerations :=
    le_max_right _ _
  have after := (consistent.step doubles generation best).phase_eq
  have before := consistent.phase_eq
  rw [stuck, expectedPhase] at after
  rw [before, expectedPhase] at moving ⊢
  cases improved : improves config tracker.lastMeaningfulBestFitness best with
  | true =>
      obtain ⟨_, count, _⟩ := updateCompletedGeneration_improved generation improved
      rw [count, if_neg (by omega), if_neg (by omega)] at after
      split at after <;> cases after
  | false =>
      obtain ⟨_, count, _⟩ := updateCompletedGeneration_stagnant generation improved
      rw [count] at after
      split at after
      case isTrue twice =>
          by_cases already : 2 * normalizeStagnationWindow config.stagnationWindowGenerations ≤
            tracker.status.generationsSinceImprovement
          · exact absurd (if_pos already) moving
          · rw [if_neg already, if_pos (by omega)]
      case isFalse short =>
          split at after
          · cases after
          · split at after <;> cases after

theorem Consistent.not_recovery_of_normal (consistent : Consistent config tracker.status)
    (generation : ℤ) (best : F) (normal : tracker.status.phase = .normal) :
    (tracker.updateCompletedGeneration config generation best).status.phase ≠ .recovery := by
  have resolved := consistent.phase
  have recovery := consistent.recovery
  rw [normal, phaseResolve] at resolved
  split at resolved
  · cases resolved
  · split at resolved
    · cases resolved
    · rename_i flowing
      split at resolved
      · cases resolved
      · rename_i elapsed
        have none : tracker.status.recoveryLevel = 0 := by omega
        cases improved : improves config tracker.lastMeaningfulBestFitness best with
        | true =>
            obtain ⟨_, _, stagnation, level, phase⟩ :=
              updateCompletedGeneration_improved generation improved
            rw [if_neg (by omega), if_neg (by rw [normal]; decide)] at level
            rw [phase, phaseResolve, stagnation, level]
            decide
        | false =>
            obtain ⟨_, _, _, level, phase⟩ :=
              updateCompletedGeneration_stagnant generation improved
            rw [none] at level
            rw [phase, phaseResolve, level]
            split
            · decide
            · split <;> decide

end

end TrainingPhaseTracker

namespace MutationConfig

variable {K : Type*} [Field K] [LinearOrder K]

/-- No budget is larger. -/
instance : Preorder (MutationConfig K) where
  le first second := first.perturbationsPerOffspring ≤ second.perturbationsPerOffspring ∧
    first.resetsPerOffspring ≤ second.resetsPerOffspring ∧ first.sigma ≤ second.sigma
  le_refl _ := ⟨le_rfl, le_rfl, le_rfl⟩
  le_trans _ _ _ first second :=
    ⟨first.1.trans second.1, first.2.1.trans second.2.1, first.2.2.trans second.2.2⟩

/-- The budgets are not negative, and the counts are ints. -/
structure Valid (baseline : MutationConfig K) : Prop where
  perturbations : 0 ≤ baseline.perturbationsPerOffspring ∧
    baseline.perturbationsPerOffspring ≤ 2147483647
  resets : 0 ≤ baseline.resetsPerOffspring ∧ baseline.resetsPerOffspring ≤ 2147483647
  sigma : 0 ≤ baseline.sigma

end MutationConfig

namespace AdaptiveMutation

variable {K : Type*} [Field K] [LinearOrder K] [FloorRing K]

section

variable {baseline : MutationConfig K}

/-! ## Budgets -/

theorem le_clampToInt {floor value : ℤ} (above : floor ≤ value) (fits : floor ≤ 2147483647) :
    floor ≤ clampToInt value := by
  unfold clampToInt
  split
  · omega
  · split <;> omega

theorem clampToInt_le {value ceiling : ℤ} (below : value ≤ ceiling) (nonneg : 0 ≤ ceiling) :
    clampToInt value ≤ ceiling := by
  unfold clampToInt
  split
  · omega
  · split <;> omega

theorem le_scaledBudgetResolve {baseline : ℤ} (fits : baseline ≤ 2147483647) (scale : K)
    (minIncrease : ℤ) : baseline ≤ scaledBudgetResolve baseline scale minIncrease :=
  le_clampToInt (le_max_left _ _) fits

theorem le_scaledConfig (valid : baseline.Valid) (perturbationsScale : K)
    (perturbationsMinIncrease : ℤ) (resetsScale : K) (resetsMinIncrease : ℤ)
    (sigmaScale sigmaMinIncrease : K) :
    baseline ≤ scaledConfig baseline perturbationsScale perturbationsMinIncrease resetsScale
      resetsMinIncrease sigmaScale sigmaMinIncrease :=
  ⟨le_scaledBudgetResolve valid.perturbations.2 _ _, le_scaledBudgetResolve valid.resets.2 _ _,
    le_max_left _ _⟩

variable [IsStrictOrderedRing K]

section

omit [FloorRing K]

theorem recoveryFactor_bounds (recoveryLevel recoveryWindowGenerations : ℤ) :
    0 ≤ (recoveryFactor recoveryLevel recoveryWindowGenerations : K) ∧
      (recoveryFactor recoveryLevel recoveryWindowGenerations : K) ≤ 1 :=
  ⟨le_max_left _ _, max_le zero_le_one (min_le_left _ _)⟩

theorem recoveryFactor_one (recoveryWindowGenerations : ℤ) :
    (recoveryFactor 1 recoveryWindowGenerations : K) = 0 := by
  have none : max ((1 : ℤ) - 1) 0 = 0 := rfl
  unfold recoveryFactor
  dsimp only
  rw [none, Int.cast_zero, zero_div, min_eq_right zero_le_one, max_self]

theorem surplus_bounds {baseline previous factor : K} (above : baseline ≤ previous)
    (factorBounds : 0 ≤ factor ∧ factor ≤ 1) :
    baseline ≤ baseline + (previous - baseline) * factor ∧
      baseline + (previous - baseline) * factor ≤ previous := by
  have surplus : 0 ≤ previous - baseline := sub_nonneg.mpr above
  have some_left := mul_nonneg surplus factorBounds.1
  have at_most := mul_le_of_le_one_right surplus factorBounds.2
  constructor <;> linarith

end

theorem llround_intCast {value : ℤ} (nonneg : 0 ≤ value) : llround (value : K) = value := by
  have nonneg' : (0 : K) ≤ value := Int.cast_nonneg nonneg
  rw [llround, if_pos nonneg', Int.floor_eq_iff]
  constructor <;> linarith

theorem llround_bounds {floor ceiling : ℤ} {value : K} (nonneg : 0 ≤ floor)
    (above : (floor : K) ≤ value) (below : value ≤ ceiling) :
    floor ≤ llround value ∧ llround value ≤ ceiling := by
  have nonneg' : (0 : K) ≤ floor := Int.cast_nonneg nonneg
  rw [llround, if_pos (nonneg'.trans above)]
  constructor
  · refine Int.le_floor.mpr ?_
    linarith
  · refine Int.lt_add_one_iff.mp (Int.floor_lt.mpr ?_)
    push_cast
    linarith

theorem recoveryBudgetResolve_bounds {baseline previous : ℤ}
    (valid : 0 ≤ baseline ∧ baseline ≤ 2147483647) (above : baseline ≤ previous)
    (recoveryLevel recoveryWindowGenerations : ℤ) :
    baseline ≤ recoveryBudgetResolve (K := K) baseline previous recoveryLevel
        recoveryWindowGenerations ∧
      recoveryBudgetResolve (K := K) baseline previous recoveryLevel recoveryWindowGenerations ≤
        previous := by
  unfold recoveryBudgetResolve
  split
  · exact ⟨le_rfl, above⟩
  · have bounds := surplus_bounds (K := K) (Int.cast_le.mpr above)
      (recoveryFactor_bounds recoveryLevel recoveryWindowGenerations)
    rw [← Int.cast_sub] at bounds
    have rounded := llround_bounds valid.1 bounds.1 bounds.2
    exact ⟨le_clampToInt rounded.1 valid.2,
      clampToInt_le rounded.2 (valid.1.trans above)⟩

theorem recoveryBudgetResolve_one {baseline : ℤ}
    (valid : 0 ≤ baseline ∧ baseline ≤ 2147483647) (previous recoveryWindowGenerations : ℤ) :
    recoveryBudgetResolve (K := K) baseline previous 1 recoveryWindowGenerations = baseline := by
  unfold recoveryBudgetResolve
  split
  · rfl
  · rw [recoveryFactor_one, mul_zero, add_zero, llround_intCast valid.1]
    exact le_antisymm (clampToInt_le le_rfl valid.1) (le_clampToInt le_rfl valid.2)

section

omit [FloorRing K]

theorem recoverySigmaResolve_bounds {baseline previous : K} (above : baseline ≤ previous)
    (recoveryLevel recoveryWindowGenerations : ℤ) :
    baseline ≤ recoverySigmaResolve baseline previous recoveryLevel recoveryWindowGenerations ∧
      recoverySigmaResolve baseline previous recoveryLevel recoveryWindowGenerations ≤
        previous := by
  unfold recoverySigmaResolve
  split
  · exact ⟨le_rfl, above⟩
  · exact surplus_bounds above (recoveryFactor_bounds _ _)

theorem recoverySigmaResolve_one (baseline previous : K) (recoveryWindowGenerations : ℤ) :
    recoverySigmaResolve baseline previous 1 recoveryWindowGenerations = baseline := by
  unfold recoverySigmaResolve
  split
  · rfl
  · rw [recoveryFactor_one, mul_zero, add_zero]

end

theorem recoveryConfig_bounds {baseline previous : MutationConfig K} (valid : baseline.Valid)
    (above : baseline ≤ previous) (recoveryLevel recoveryWindowGenerations : ℤ) :
    baseline ≤ recoveryConfig baseline previous recoveryLevel recoveryWindowGenerations ∧
      recoveryConfig baseline previous recoveryLevel recoveryWindowGenerations ≤ previous := by
  have perturbations := recoveryBudgetResolve_bounds (K := K) valid.perturbations above.1
    recoveryLevel recoveryWindowGenerations
  have resets := recoveryBudgetResolve_bounds (K := K) valid.resets above.2.1 recoveryLevel
    recoveryWindowGenerations
  have sigma := recoverySigmaResolve_bounds above.2.2 recoveryLevel recoveryWindowGenerations
  exact ⟨⟨perturbations.1, resets.1, sigma.1⟩, ⟨perturbations.2, resets.2, sigma.2⟩⟩

theorem recoveryConfig_one (valid : baseline.Valid) (previous : MutationConfig K)
    (recoveryWindowGenerations : ℤ) :
    recoveryConfig baseline previous 1 recoveryWindowGenerations = baseline := by
  rw [recoveryConfig, recoveryBudgetResolve_one valid.perturbations,
    recoveryBudgetResolve_one valid.resets, recoverySigmaResolve_one]

/-- **Budgets never fall below the configured ones.** -/
theorem le_adaptiveMutationResolve (valid : baseline.Valid) (status : TrainingPhaseStatus)
    {previous : EffectiveAdaptiveMutation K} (above : baseline ≤ previous.mutationConfig)
    (recoveryWindowGenerations : ℤ) (controlMode : AdaptiveMutationControlMode) :
    baseline ≤ (adaptiveMutationResolve baseline status previous recoveryWindowGenerations
      controlMode).mutationConfig := by
  unfold adaptiveMutationResolve
  cases adaptiveMutationPhaseResolve status.phase controlMode with
  | normal => exact le_rfl
  | plateau => exact le_scaledConfig valid ..
  | stuck => exact le_scaledConfig valid ..
  | recovery => exact (recoveryConfig_bounds valid above _ _).1

end

end AdaptiveMutation

namespace AdaptiveTraining

open TrackedFitness TrainingPhaseTracker

variable {F : Type} [TrackedFitness F] {K : Type*} [Field K] [LinearOrder K] [FloorRing K]

section

def recorded (config : PhaseConfig F) (baseline : MutationConfig K)
    (history : List (CompletedGeneration F)) : F :=
  (after config baseline history).trainingPhaseTracker.lastMeaningfulBestFitness

def status (config : PhaseConfig F) (baseline : MutationConfig K)
    (history : List (CompletedGeneration F)) : TrainingPhaseStatus :=
  (after config baseline history).trainingPhaseTracker.status

def effective (config : PhaseConfig F) (baseline : MutationConfig K)
    (history : List (CompletedGeneration F)) : MutationConfig K :=
  (after config baseline history).lastEffectiveAdaptiveMutation.mutationConfig

/-- A history is its generations up to the last one that improved, or none, and those since. -/
structure SinceImprovement (config : PhaseConfig F) (baseline : MutationConfig K)
    (history before since : List (CompletedGeneration F)) : Prop where
  split : history = before ++ since
  stagnant : ∀ completed ∈ since,
    improves config (recorded config baseline history) completed.bestFitness = false
  improved : before = [] ∧ recorded config baseline history = lowest ∨
    ∃ earlier completed, before = earlier ++ [completed] ∧
      recorded config baseline history = completed.bestFitness ∧
      improves config (recorded config baseline earlier) completed.bestFitness = true

/-- What holds after any history. -/
structure FollowsStagnation (config : PhaseConfig F) (baseline : MutationConfig K)
    (history : List (CompletedGeneration F)) : Prop where
  count : ∃ before since, SinceImprovement config baseline history before since ∧
    (status config baseline history).generationsSinceImprovement = since.length
  phase : (status config baseline history).phase =
    expectedPhase (normalizeStagnationWindow config.stagnationWindowGenerations)
      (status config baseline history).generationsSinceImprovement
      (status config baseline history).recoveryLevel
  recovery : 0 ≤ (status config baseline history).recoveryLevel ∧
    (status config baseline history).recoveryLevel ≤
      normalizeRecoveryWindow config.recoveryWindowGenerations
  budgets : baseline ≤ effective config baseline history

/-- What holds of the phases before and after a generation. -/
structure EntersInOrder (before after : TrainingPhase) : Prop where
  stuck : after = .stuck → before ≠ .stuck → before = .plateau
  recovery : after = .recovery → before ≠ .normal

def Recovers (config : PhaseConfig F) (baseline : MutationConfig K)
    (history : List (CompletedGeneration F)) (completed : CompletedGeneration F) : Prop :=
  completed.controlMode = .auto ∧
    (status config baseline (history ++ [completed])).phase = .recovery

end

section

variable {config : PhaseConfig F} {baseline : MutationConfig K}
  {history : List (CompletedGeneration F)}

theorem after_snoc (history : List (CompletedGeneration F)) (completed : CompletedGeneration F) :
    after config baseline (history ++ [completed]) =
      advanceGeneration config baseline (after config baseline history) completed :=
  List.foldl_append

theorem consistent_status (doubles : Doubles config) (history : List (CompletedGeneration F)) :
    Consistent config (status config baseline history) := by
  induction history using List.reverseRecOn with
  | nil => exact consistent_reset
  | append_singleton history completed ih =>
      rw [status, after_snoc]
      exact ih.step doubles _ _

theorem exists_sinceImprovement (history : List (CompletedGeneration F)) :
    ∃ before since, SinceImprovement config baseline history before since ∧
      (status config baseline history).generationsSinceImprovement = since.length := by
  induction history using List.reverseRecOn with
  | nil =>
      exact ⟨[], [], ⟨rfl, fun _ none => absurd none List.not_mem_nil, Or.inl ⟨rfl, rfl⟩⟩, rfl⟩
  | append_singleton history completed ih =>
      obtain ⟨before, since, known, count⟩ := ih
      cases improved : improves config (recorded config baseline history)
          completed.bestFitness with
      | true =>
          obtain ⟨record, none, _⟩ := updateCompletedGeneration_improved
            (after config baseline history).generation improved
          refine ⟨history ++ [completed], [],
            ⟨(List.append_nil _).symm, fun _ none => absurd none List.not_mem_nil,
              Or.inr ⟨history, completed, rfl, ?_, improved⟩⟩, ?_⟩
          · rw [recorded, after_snoc]
            exact record
          · rw [status, after_snoc]
            exact none
      | false =>
          obtain ⟨record, more, _⟩ := updateCompletedGeneration_stagnant
            (after config baseline history).generation improved
          have kept : recorded config baseline (history ++ [completed]) =
              recorded config baseline history := by
            rw [recorded, after_snoc]
            exact record
          refine ⟨before, since ++ [completed], ⟨?_, ?_, ?_⟩, ?_⟩
          · rw [known.split, List.append_assoc]
          · rw [kept]
            intro other member
            rcases List.mem_append.mp member with earlier | last
            · exact known.stagnant other earlier
            · rw [List.mem_singleton.mp last]
              exact improved
          · rw [kept]
            exact known.improved
          · rw [status, after_snoc, List.length_append, List.length_singleton]
            push_cast
            rw [← count]
            exact more

variable [IsStrictOrderedRing K]

theorem le_effective (valid : baseline.Valid) (history : List (CompletedGeneration F)) :
    baseline ≤ effective config baseline history := by
  induction history using List.reverseRecOn with
  | nil => exact le_rfl
  | append_singleton history completed ih =>
      rw [effective, after_snoc]
      exact AdaptiveMutation.le_adaptiveMutationResolve valid _ ih _ _

theorem effective_of_recovers (valid : baseline.Valid) {completed : CompletedGeneration F}
    (recovers : Recovers config baseline history completed) :
    effective config baseline (history ++ [completed]) ≤ effective config baseline history ∧
      ((status config baseline (history ++ [completed])).recoveryLevel = 1 →
        effective config baseline (history ++ [completed]) = baseline) := by
  obtain ⟨automatic, recovery⟩ := recovers
  have resolved : effective config baseline (history ++ [completed]) =
      AdaptiveMutation.recoveryConfig baseline (effective config baseline history)
        (status config baseline (history ++ [completed])).recoveryLevel
        config.recoveryWindowGenerations := by
    unfold effective status at *
    rw [after_snoc] at recovery ⊢
    unfold advanceGeneration AdaptiveMutation.adaptiveMutationResolve at *
    dsimp only at recovery ⊢
    rw [automatic, AdaptiveMutation.adaptiveMutationPhaseResolve, recovery]
  rw [resolved]
  refine ⟨(AdaptiveMutation.recoveryConfig_bounds valid (le_effective valid history) _ _).2, ?_⟩
  intro last
  rw [last]
  exact AdaptiveMutation.recoveryConfig_one valid _ _

end

section

/-! ## Values at the ends of their ranges -/

/-- The rational numbers and positive infinity. -/
instance : TrackedFitness (WithTop ℚ) where
  zero := 0
  less first second := first < second
  equal first second := first = second
  isFinite value := value ≠ ⊤
  midpoint first second := (first + second).map (· / 2)
  add first second := first + second
  lowest := ((-(2 ^ 1024 - 2 ^ 971) : ℚ) : WithTop ℚ)

def defaultConfig : PhaseConfig (WithTop ℚ) where
  stagnationImprovementEpsilon := ((1 / 1000 : ℚ) : WithTop ℚ)

def defaultBudgets : MutationConfig ℚ where
  perturbationsPerOffspring := 200
  resetsPerOffspring := 1
  sigma := 1 / 20

theorem valid_defaultBudgets : defaultBudgets.Valid where
  perturbations := by decide
  resets := by decide
  sigma := by decide +kernel

end

end AdaptiveTraining

end DirtSim
