import DirtSim.Physics.CollisionLaws
import DirtSim.Physics.WoodenCells

/-! # Collisions obey the laws of mechanics while their records are current

A move carries the velocity and the masses of the moment when it was planned. Momentum and energy
obey their laws in every run whose collisions work with current records and pass on no more momentum
than an elastic collision would (`World.collisions_lawful`).
-/

namespace DirtSim

open Foundation WorldCollisionCalculator

variable {K : Type*} {F : Type} [Field K] [LinearOrder K]

namespace World

/-- The handler that a step ends up in. -/
inductive Responder
  | swap | transfer | compressionContact | fluidBlockedContact | elasticCollision
  | inelasticCollision | splash
deriving DecidableEq, Repr

def Responder.collides : Responder → Bool
  | .compressionContact | .fluidBlockedContact | .elasticCollision | .inelasticCollision => true
  | .swap | .transfer | .splash => false

def pair (world : World K F) (move : MaterialMove K) : Cell K × Cell K :=
  (world.cellAt move.fromPos, world.cellAt move.toPos)

variable [Analytic K] [Coordinate F]

/-- A transfer is reflected when an organism meets a cell that is not empty. -/
def transferResponder (prepared : World K F) (move : MaterialMove K) : Responder :=
  if prepared.organismManager.organismAt move.fromPos ≠ invalidOrganismId ∧
      !(prepared.cellAt move.toPos).isEmpty then .elasticCollision
  else .transfer

def responder (prepared : World K F) (move : MaterialMove K) : Responder :=
  if prepared.swaps move then .swap
  else
    match prepared.effectiveCollisionType move with
    | .transferOnly | .absorption => prepared.transferResponder move
    | .compressionContact => .compressionContact
    | .fluidBlockedContact => .fluidBlockedContact
    | .elasticReflection => .elasticCollision
    | .inelasticCollision =>
        if (prepared.handleWaterFragmentation move).1 then .splash else .inelasticCollision
    | .fragmentation => .inelasticCollision

/-- The laws of mechanics, for one step. -/
structure Lawful (move : MaterialMove K) (before after : World K F) : Prop where
  momentum : (before.prepareMove move).responder move = .inelasticCollision →
    (before.cellAt move.toPos).materialType ≠ .wall →
    KeepsMomentum move (before.pair move) (after.pair move)
  energy : ((before.prepareMove move).responder move).collides →
    pairEnergy (after.pair move) ≤ pairEnergy (before.pair move)

def StepsLawfully (world : World K F) (move : MaterialMove K) : Prop :=
  ∀ after, world.processMaterialMove move = some after → Lawful move world after

def CollidesSoundly (world : World K F) (move : MaterialMove K) : Prop :=
  let fromCell := world.cellAt move.fromPos
  let toCell := world.cellAt move.toPos
  match (world.prepareMove move).responder move with
  | .compressionContact => SoundCompression world.physicsSettings.gravity fromCell toCell move
  | .elasticCollision => SoundElastic fromCell toCell move
  | .inelasticCollision => SoundInelastic fromCell toCell move
  | .swap | .transfer | .fluidBlockedContact | .splash => True

section

variable {world : World K F} {move : MaterialMove K}

section

omit [Analytic K] [Coordinate F]

theorem accumulateDynamicPressure_cellAt (world : World K F) (place : Vector2i) (amount : K)
    (pos : Vector2i) :
    ∃ pressure, (world.accumulateDynamicPressure place amount).cellAt pos =
      { world.cellAt pos with pressure := pressure } := by
  unfold accumulateDynamicPressure
  split
  · exact ⟨_, rfl⟩
  · split
    case isTrue outside => exact ⟨_, rfl⟩
    case isFalse inside =>
        rw [Bool.not_eq_true', Bool.not_eq_false] at inside
        by_cases here : pos = place
        · subst here
          exact ⟨_, CellArray.cellAt_setCell_self (of_decide_eq_true inside) _⟩
        · exact ⟨_, CellArray.cellAt_setCell_ne _ _ here⟩

theorem prepareMove_cellAt (world : World K F) (move : MaterialMove K) (pos : Vector2i) :
    ∃ pressure, (world.prepareMove move).cellAt pos =
      { world.cellAt pos with pressure := pressure } := by
  unfold prepareMove
  split
  · exact ⟨_, rfl⟩
  · split
    · exact accumulateDynamicPressure_cellAt (world.noteMaterialMove move) _ _ pos
    · exact ⟨_, rfl⟩

end

theorem processMaterialMove_data {after : World K F}
    (processed : world.processMaterialMove move = some after)
    (stays : ¬ (world.prepareMove move).swaps move) :
    after.data = ((world.prepareMove move).handleCollision move
      ((world.prepareMove move).effectiveCollisionType move)).data := by
  simp only [processMaterialMove, stays, Bool.false_eq_true, ↓reduceIte] at processed
  split at processed
  · obtain ⟨manager, _, rfl⟩ := Option.map_eq_some_iff.mp processed
    rfl
  · rw [Option.some.injEq] at processed
    rw [← processed]

omit [LinearOrder K] [Analytic K] [Coordinate F] in
theorem pair_setCells (within : move.Within world.data.toGrid) (cells : Cell K × Cell K) :
    (world.setCells move cells).pair move = cells :=
  Prod.ext (cellAt_setCells_from within cells) (cellAt_setCells_to within.toInside cells)

omit [Coordinate F] in
theorem handleInelasticCollision_pair (within : move.Within world.data.toGrid) :
    (world.handleInelasticCollision move).pair move =
      settled (world.cellAt move.fromPos) (world.cellAt move.toPos) move := by
  unfold handleInelasticCollision
  dsimp only
  split
  · exact pair_setCells (by rwa [noteDeficit_data]) _
  · exact pair_setCells within _

variable [IsStrictOrderedRing K]

theorem handleCollision_pair (within : move.Within world.data.toGrid)
    (collides : (world.responder move).collides) :
    (world.handleCollision move (world.effectiveCollisionType move)).pair move =
      match world.responder move with
      | .compressionContact =>
          handleCompressionContact world.physicsSettings.gravity (world.cellAt move.fromPos)
            (world.cellAt move.toPos) move
      | .fluidBlockedContact =>
          handleFluidBlockedContact (world.cellAt move.fromPos) (world.cellAt move.toPos) move
      | .elasticCollision =>
          handleElasticCollision (world.cellAt move.fromPos) (world.cellAt move.toPos) move
      | _ => settled (world.cellAt move.fromPos) (world.cellAt move.toPos) move := by
  have transfers (owned : (world.transferResponder move).collides) :
      world.transferResponder move = .elasticCollision ∧
        (world.handleTransferMove move).pair move =
          handleElasticCollision (world.cellAt move.fromPos) (world.cellAt move.toPos) move := by
    unfold transferResponder at owned ⊢
    by_cases occupied : world.organismManager.organismAt move.fromPos ≠ invalidOrganismId ∧
        !(world.cellAt move.toPos).isEmpty
    · refine ⟨if_pos occupied, ?_⟩
      unfold handleTransferMove
      rw [if_pos occupied]
      exact pair_setCells within _
    · rw [if_neg occupied] at owned
      exact absurd owned (by decide)
  unfold responder at collides ⊢
  by_cases swapped : world.swaps move
  · rw [if_pos swapped] at collides
    exact absurd collides (by decide)
  · rw [if_neg swapped] at collides ⊢
    generalize world.effectiveCollisionType move = type at *
    cases type with
    | transferOnly =>
        obtain ⟨elastic, pair⟩ := transfers collides
        simp only [elastic]
        exact pair
    | absorption =>
        obtain ⟨elastic, pair⟩ := transfers collides
        simp only [elastic]
        rw [handleCollision, handleAbsorption_eq]
        exact pair
    | compressionContact => exact pair_setCells within _
    | fluidBlockedContact => exact pair_setCells within _
    | elasticReflection => exact pair_setCells within _
    | fragmentation => exact handleInelasticCollision_pair within
    | inelasticCollision =>
        by_cases splashed : (world.handleWaterFragmentation move).1
        · simp only [splashed, ↓reduceIte] at collides
          exact absurd collides (by decide)
        · simp only [splashed, Bool.false_eq_true, ↓reduceIte]
          have dry : (world.handleWaterFragmentation move).1 = false := by simpa using splashed
          have data := (handleWaterFragmentation_spares move world).2.2 dry
          have same (pos : Vector2i) :
              (world.handleWaterFragmentation move).2.cellAt pos = world.cellAt pos := by
            rw [cellAt, data, cellAt]
          have within' : move.Within (world.handleWaterFragmentation move).2.data.toGrid := by
            rwa [data]
          have pair := handleInelasticCollision_pair within'
          rw [same, same] at pair
          simp only [handleCollision, handleInelasticMove, splashed, Bool.false_eq_true, ↓reduceIte]
          exact pair

variable [ExactRoot K]

section

omit [Analytic K] [Coordinate F] [IsStrictOrderedRing K] [ExactRoot K]

theorem accumulateDynamicPressure_physicsSettings (world : World K F) (place : Vector2i)
    (amount : K) :
    (world.accumulateDynamicPressure place amount).physicsSettings = world.physicsSettings := by
  unfold accumulateDynamicPressure
  split
  · rfl
  · split <;> rfl

theorem prepareMove_physicsSettings (world : World K F) (move : MaterialMove K) :
    (world.prepareMove move).physicsSettings = world.physicsSettings := by
  unfold prepareMove
  split
  · rfl
  · split
    · exact accumulateDynamicPressure_physicsSettings (world.noteMaterialMove move) _ _
    · rfl

end

/-- **One step.** A collision that works with current records obeys the laws. -/
theorem stepsLawfully_of_sound (within : move.Within world.data.toGrid)
    (fills : world.data.UnitFills) (low : 0 ≤ move.restitutionCoefficient)
    (high : move.restitutionCoefficient ≤ 1) (sound : world.CollidesSoundly move) :
    world.StepsLawfully move := by
  intro after processed
  have leads := within.apart
  have conserves := prepareMove_conserves move fills
  have within' := within_of_size within conserves.width_eq conserves.height_eq
  have below : (world.cellAt move.fromPos).fillRatio ≤ 1 := (fills.fits within.fromInside).2
  obtain ⟨fromPressure, fromCell⟩ := prepareMove_cellAt world move move.fromPos
  obtain ⟨toPressure, toCell⟩ := prepareMove_cellAt world move move.toPos
  have handled (collides : ((world.prepareMove move).responder move).collides) :
      after.pair move = ((world.prepareMove move).handleCollision move
        ((world.prepareMove move).effectiveCollisionType move)).pair move := by
    have stays : ¬ (world.prepareMove move).swaps move := by
      intro swapped
      rw [responder, if_pos swapped] at collides
      exact absurd collides (by decide)
    rw [pair, pair, cellAt, cellAt, processMaterialMove_data processed stays, cellAt, cellAt]
  have pairs (collides : ((world.prepareMove move).responder move).collides) :=
    (handled collides).trans (handleCollision_pair within' collides)
  unfold CollidesSoundly at sound
  rw [fromCell, toCell, prepareMove_physicsSettings] at pairs
  constructor
  · intro inelastic notWall
    rw [inelastic] at sound pairs
    rw [pairs rfl]
    obtain ⟨velocity, source, target, answered, bounded, merges⟩ := sound
    exact settled_momentum leads ⟨velocity, source, target, answered, bounded, merges⟩ below
      notWall
  · intro collides
    rw [pairs collides]
    generalize (world.prepareMove move).responder move = responder at *
    cases responder with
    | swap => exact absurd collides (by decide)
    | transfer => exact absurd collides (by decide)
    | splash => exact absurd collides (by decide)
    | compressionContact => exact handleCompressionContact_energy_le leads sound
    | fluidBlockedContact => exact handleFluidBlockedContact_energy_le leads
    | elasticCollision =>
        obtain ⟨velocity, masses⟩ := sound
        exact handleElasticCollision_energy_le leads ⟨velocity, masses⟩ low high
    | inelasticCollision =>
        obtain ⟨velocity, source, target, answered, bounded, merges⟩ := sound
        exact settled_energy_le leads ⟨velocity, source, target, answered, bounded, merges⟩ below
          low high

end

section

variable {property : MaterialMove K → Prop}
  (created : ∀ (world : World K F) (fromCell toCell : Cell K) (fromPos toPos : Vector2i),
    property (world.createCollisionAwareMove fromCell toCell fromPos toPos))
  (pressed : ∀ move, property move → property
    { move with
      amount := 0
      collisionType := .compressionContact
      pressureFromExcess := 0
      restitutionCoefficient := 0 })
variable {queue : MoveQueue K F}

include created pressed

section

omit [Coordinate F]

theorem queueCrossing_all (pos direction : Vector2i) (all : ∀ move ∈ queue.moves, property move) :
    ∀ move ∈ (queueCrossing pos queue direction).moves, property move := by
  by_cases valid : queue.world.isValidCell (pos + direction)
  · simp only [queueCrossing, valid, ↓reduceIte]
    intro move queued
    rcases List.mem_append.mp queued with earlier | new
    · exact all move earlier
    · rw [List.mem_singleton.mp new]
      split
      · exact pressed _ (created _ _ _ _ _)
      · exact created _ _ _ _ _
  · simp only [queueCrossing, valid, Bool.false_eq_true, ↓reduceIte]
    exact all

theorem queueCrossings_all (pos : Vector2i) (directions : List Vector2i)
    (all : ∀ move ∈ queue.moves, property move) :
    ∀ move ∈ (directions.foldl (queueCrossing pos) queue).moves, property move := by
  induction directions generalizing queue with
  | nil => exact all
  | cons direction directions ih =>
      exact ih (queueCrossing_all created pressed pos direction all)

end

theorem computeCellMoves_all (deltaTime : K) (pos : Vector2i)
    (all : ∀ move ∈ queue.moves, property move) :
    ∀ move ∈ (computeCellMoves deltaTime queue pos).moves, property move := by
  unfold computeCellMoves
  split
  · exact all
  · exact queueCrossings_all created pressed pos _ all

theorem computeMaterialMoves_all (deltaTime : K) (world : World K F) :
    ∀ move ∈ (computeMaterialMoves deltaTime world).moves, property move := by
  have rows : ∀ (positions : List (ℤ × ℤ)) (queue : MoveQueue K F),
      (∀ move ∈ queue.moves, property move) →
      ∀ move ∈ (positions.foldl (fun queue cell =>
        computeCellMoves deltaTime queue ⟨cell.1, cell.2⟩) queue).moves, property move := by
    intro positions
    induction positions with
    | nil => exact fun _ all => all
    | cons cell positions ih =>
        exact fun queue all => ih _ (computeCellMoves_all created pressed deltaTime _ all)
  exact rows _ _ fun move none => absurd none List.not_mem_nil

end

section

variable [IsStrictOrderedRing K] [ExactRoot K]

omit [Coordinate F] [Analytic K] [ExactRoot K] in
theorem elasticity_mem (material : Material) :
    (0 : K) ≤ (Material.getProperties material).elasticity ∧
      (Material.getProperties (K := K) material).elasticity ≤ 1 := by
  cases material <;> simp only [Material.getProperties] <;> constructor <;> norm_num

omit [Coordinate F] in
theorem sqrt_le_one {value : K} (low : 0 ≤ value) (high : value ≤ 1) :
    Analytic.sqrt value ≤ 1 := by
  have square : Analytic.sqrt value * Analytic.sqrt value = value :=
    ExactRoot.mul_self_sqrt value low
  have root : 0 ≤ Analytic.sqrt value := ExactRoot.sqrt_nonneg value
  by_contra large
  have larger : 1 < Analytic.sqrt value * Analytic.sqrt value :=
    one_lt_mul_of_lt_of_le (not_le.mp large) (not_le.mp large).le
  exact absurd high (not_le.mpr (square ▸ larger))

theorem restitution_mem (deltaTime : K) (world : World K F) :
    ∀ move ∈ (computeMaterialMoves deltaTime world).moves,
      0 ≤ move.restitutionCoefficient ∧ move.restitutionCoefficient ≤ 1 := by
  refine computeMaterialMoves_all (fun world fromCell toCell fromPos toPos => ?_)
    (fun move _ => ⟨le_refl 0, zero_le_one⟩) deltaTime world
  have first := elasticity_mem (K := K) fromCell.materialType
  have second := elasticity_mem (K := K) toCell.materialType
  have root : (0 : K) ≤ Analytic.sqrt ((Material.getProperties fromCell.materialType).elasticity *
      (Material.getProperties toCell.materialType).elasticity) := ExactRoot.sqrt_nonneg _
  have small := sqrt_le_one (mul_nonneg first.1 second.1) (mul_le_one₀ first.2 second.1 second.2)
  unfold createCollisionAwareMove
  dsimp only
  split
  · exact ⟨root, small⟩
  · constructor
    · linarith
    · linarith
  · constructor <;> norm_num
  · exact ⟨le_refl 0, zero_le_one⟩

/-- **Collisions conserve momentum and never create energy**, in every run whose collisions work
with current records and pass on no more momentum than an elastic collision. -/
theorem collisions_lawful {planned world : World K F} (deltaTime : K)
    {shuffled : List (MaterialMove K)}
    (shuffle : shuffled.Perm (computeMaterialMoves deltaTime planned).moves)
    (width : world.data.width = planned.data.width)
    (height : world.data.height = planned.data.height) (fills : world.data.UnitFills)
    (sound : AtEachStep processMaterialMove CollidesSoundly world shuffled) :
    AtEachStep processMaterialMove StepsLawfully world shuffled := by
  let invariant (state : World K F) : Prop :=
    state.data.UnitFills ∧ state.data.width = planned.data.width ∧
      state.data.height = planned.data.height
  have within (state : World K F) (move : MaterialMove K) (listed : move ∈ shuffled)
      (holds : invariant state) : move.Within state.data.toGrid :=
    within_of_size (computeMaterialMoves_within deltaTime planned move (shuffle.mem_iff.mp listed))
      holds.2.1 holds.2.2
  refine .imp invariant (fun state move listed holds collides => ?_)
    (fun state move next listed holds moved => ?_) ⟨fills, width, height⟩ sound
  · obtain ⟨low, high⟩ := restitution_mem deltaTime planned move (shuffle.mem_iff.mp listed)
    exact stepsLawfully_of_sound (within state move listed holds) holds.1 low high collides
  · have step := processMaterialMove_conserves holds.1 (within state move listed holds) moved
    exact ⟨step.fills, step.width_eq.trans holds.2.1, step.height_eq.trans holds.2.2⟩

end

section

/-! ## One grain hits another -/

noncomputable def moving (material : Material) : Cell ℝ :=
  { Cell.blank with
    materialType := material, fillRatio := 1, com := ⟨95 / 100, 0⟩, velocity := ⟨1, 0⟩ }

noncomputable def resting (material : Material) : Cell ℝ :=
  { Cell.blank with materialType := material, fillRatio := 1 }

/-- Two full cells side by side, without gravity and swaps; the left one moves into the right. -/
noncomputable def colliding (source target : Material) : World ℝ ℚ :=
  { pouring with
    data := { pouring.data with cells := [moving source, resting target], length_cells := rfl }
    physicsSettings := { pouring.physicsSettings with gravity := 0, swapEnabled := false } }

noncomputable def advanced (material : Material) : Cell ℝ :=
  (moving material).setCOM ⟨105 / 100, 0⟩

noncomputable def hit (source target : Material) : MaterialMove ℝ :=
  (colliding source target).createCollisionAwareMove (moving source) (resting target) ⟨0, 0⟩ ⟨1, 0⟩

variable (source target : Material)

theorem colliding_left : (colliding source target).cellAt ⟨0, 0⟩ = moving source := rfl

theorem colliding_right : (colliding source target).cellAt ⟨1, 0⟩ = resting target := rfl

theorem inside_left : (colliding source target).data.InBounds 0 0 :=
  ⟨by decide, by decide, (by decide : (0 : ℤ) < (2 : ℕ)), (by decide : (0 : ℤ) < (1 : ℕ))⟩

theorem inside_right : (colliding source target).data.InBounds 1 0 :=
  ⟨by decide, by decide, (by decide : (1 : ℤ) < (2 : ℕ)), (by decide : (0 : ℤ) < (1 : ℕ))⟩

variable {source target}

theorem isCompressionGranular_iff {material : Material} :
    isCompressionGranular material ↔ material = .dirt ∨ material = .sand := by
  cases material <;> decide

theorem hit_amount : (hit source target).amount = 0 := by
  simp only [hit, createCollisionAwareMove, moving, resting, Cell.getCapacity, sub_self]
  exact min_eq_right zero_le_one

theorem queueCrossing_colliding :
    queueCrossing ⟨0, 0⟩ ⟨colliding source target, []⟩ ⟨1, 0⟩ =
      ⟨colliding source target, [hit source target]⟩ := by
  have valid : (colliding source target).isValidCell (⟨0, 0⟩ + ⟨1, 0⟩) = true :=
    decide_eq_true (inside_right source target)
  have weightless : isSupportedGranularCompressionCandidate (colliding source target).data
      (moving source) ⟨0, 0⟩ ⟨1, 0⟩ |(colliding source target).physicsSettings.gravity|
      ((colliding source target).physicsSettings.gravity > 0) true = false := by
    have gravity : (colliding source target).physicsSettings.gravity = 0 := rfl
    rw [gravity, isSupportedGranularCompressionCandidate, if_pos (by norm_num)]
  rw [queueCrossing]
  dsimp only
  rw [valid, if_pos rfl, colliding_left, weightless]
  rfl

theorem computeCellMoves_left (granular : isCompressionGranular source) :
    computeCellMoves (1 / 10) ⟨colliding source target, []⟩ ⟨0, 0⟩ =
      ⟨(colliding source target).setCell ⟨0, 0⟩ (advanced source), [hit source target]⟩ := by
  have unowned : (colliding source target).organismManager.organismAt ⟨0, 0⟩ = invalidOrganismId :=
    rfl
  have moves : (colliding source target).generatesMoves ⟨0, 0⟩ = true := by
    have filled : ¬ (1 : ℝ) < 1 / 1000 := by norm_num
    rw [generatesMoves, unowned, colliding_left]
    rcases isCompressionGranular_iff.mp granular with rfl | rfl <;>
      simp only [moving, Cell.isEmpty, Cell.isWall, Cell.minFillThreshold, filled] <;> rfl
  have newCOM : (moving source).com + (moving source).velocity.times (1 / 10) =
      ⟨105 / 100, 0⟩ := by
    ext
    · simp only [moving, Vector2.add_x, Vector2.times_x]
      norm_num
    · simp only [moving, Vector2.add_y, Vector2.times_y]
      norm_num
  have crossings : getAllBoundaryCrossings (⟨105 / 100, 0⟩ : Vector2 ℝ) = [⟨1, 0⟩] := by
    have right : (105 / 100 : ℝ) ≥ 1 := by norm_num
    have notLeft : ¬ (105 / 100 : ℝ) ≤ -1 := by norm_num
    have notDown : ¬ (0 : ℝ) ≥ 1 := by norm_num
    have notUp : ¬ (0 : ℝ) ≤ -1 := by norm_num
    simp [getAllBoundaryCrossings, right, notLeft, notDown, notUp]
  rw [computeCellMoves]
  dsimp only
  rw [moves, colliding_left, newCOM, crossings]
  simp only [keepDominant, List.length_singleton, gt_iff_lt, lt_self_iff_false, ↓reduceIte,
    List.foldl_cons, List.foldl_nil, queueCrossing_colliding, colliding_left]
  rfl

noncomputable def unmoved (material : Material) : Cell ℝ := (resting material).setCOM 0

noncomputable def collidingPlanned (source target : Material) : World ℝ ℚ :=
  ((colliding source target).setCell ⟨0, 0⟩ (advanced source)).setCell ⟨1, 0⟩ (unmoved target)

theorem computeCellMoves_right (granular : isCompressionGranular target) :
    computeCellMoves (1 / 10)
        ⟨(colliding source target).setCell ⟨0, 0⟩ (advanced source), [hit source target]⟩ ⟨1, 0⟩ =
      ⟨collidingPlanned source target, [hit source target]⟩ := by
  have unowned : ((colliding source target).setCell ⟨0, 0⟩ (advanced source)
      ).organismManager.organismAt ⟨1, 0⟩ = invalidOrganismId := rfl
  have here : ((colliding source target).setCell ⟨0, 0⟩ (advanced source)).cellAt ⟨1, 0⟩ =
      resting target := by
    have apart : (⟨1, 0⟩ : Vector2i) ≠ ⟨0, 0⟩ := by decide
    exact CellArray.cellAt_setCell_ne _ _ apart
  have moves : ((colliding source target).setCell ⟨0, 0⟩ (advanced source)).generatesMoves ⟨1, 0⟩ =
      true := by
    have filled : ¬ (1 : ℝ) < 1 / 1000 := by norm_num
    rw [generatesMoves, unowned, here]
    rcases isCompressionGranular_iff.mp granular with rfl | rfl <;>
      simp only [resting, Cell.isEmpty, Cell.isWall, Cell.minFillThreshold, filled] <;> rfl
  have newCOM : (resting target).com + (resting target).velocity.times (1 / 10) = 0 := by
    have still : (0 : Vector2 ℝ) + (0 : Vector2 ℝ).times (1 / 10) = 0 := by
      change (⟨0 + 0 * (1 / 10), 0 + 0 * (1 / 10)⟩ : Vector2 ℝ) = ⟨0, 0⟩
      rw [zero_mul, zero_add]
    exact still
  have crossings : getAllBoundaryCrossings (0 : Vector2 ℝ) = [] := by
    have notPositive : ¬ (0 : ℝ) ≥ 1 := by norm_num
    have notNegative : ¬ (0 : ℝ) ≤ -1 := by norm_num
    change (if (0 : ℝ) ≥ 1 then _ else _) ++ (if (0 : ℝ) ≤ -1 then _ else _) ++
      (if (0 : ℝ) ≥ 1 then _ else _) ++ (if (0 : ℝ) ≤ -1 then _ else _) = _
    simp [notPositive, notNegative]
  rw [computeCellMoves]
  dsimp only
  rw [moves, here, newCOM, crossings]
  simp only [keepDominant, List.length_nil, gt_iff_lt, not_lt_zero, ↓reduceIte, List.foldl_nil, here]
  rfl

section

variable (granular : isCompressionGranular source) (granular' : isCompressionGranular target)
include granular granular'

theorem computeMaterialMoves_colliding :
    computeMaterialMoves (1 / 10) (colliding source target) =
      ⟨collidingPlanned source target, [hit source target]⟩ := by
  have order : Grid.coordinates (colliding source target).data.width
      (colliding source target).data.height = [(0, 0), (1, 0)] := rfl
  rw [computeMaterialMoves, order, List.foldl_cons, List.foldl_cons, List.foldl_nil,
    computeCellMoves_left granular, computeCellMoves_right granular']

theorem hit_type : (hit source target).collisionType = .inelasticCollision := by
  rcases isCompressionGranular_iff.mp granular with rfl | rfl <;>
    rcases isCompressionGranular_iff.mp granular' with rfl | rfl <;>
    simp [hit, createCollisionAwareMove, moving, resting, isFluidBlockedContactCandidate,
      determineCollisionType, isCollisionRigid]

theorem hit_pressure : (hit source target).pressureFromExcess = 0 := by
  have filled : ¬ (1 : ℝ) < 1 / 1000 := by norm_num
  have suppressed : shouldSuppressGranularExcessMovePressure (moving source) (resting target) =
      true := by
    simp only [shouldSuppressGranularExcessMovePressure, moving, resting, granular, granular',
      Cell.isEmpty, Cell.minFillThreshold, filled, decide_false, Bool.not_false, Bool.and_self,
      Bool.true_or]
  simp only [hit, createCollisionAwareMove, suppressed, Bool.not_true, Bool.false_eq_true,
    and_false, ↓reduceIte, ite_self]

end

theorem calculateMaterialMass_full {cell : Cell ℝ} (full : cell.fillRatio = 1) :
    calculateMaterialMass cell = cell.materialType.getDensity := by
  have filled : ¬ (1 : ℝ) < 1 / 1000 := by norm_num
  simp only [calculateMaterialMass, Cell.isEmpty, Cell.minFillThreshold, full, filled,
    decide_false, Bool.false_eq_true, ↓reduceIte, mul_one]

theorem getMass_full {cell : Cell ℝ} (full : cell.fillRatio = 1) :
    cell.getMass = cell.materialType.getDensity := by
  have filled : ¬ (1 : ℝ) < 1 / 1000 := by norm_num
  simp only [Cell.getMass, Cell.isEmpty, Cell.minFillThreshold, full, filled,
    decide_false, Bool.false_eq_true, ↓reduceIte, one_mul]

theorem hit_bounce (granular : isCompressionGranular source)
    (granular' : isCompressionGranular target) : bounce (hit source target) = 3 / 100 := by
  have root : Analytic.sqrt (1 / 5 * (1 / 5) : ℝ) = 1 / 5 := Real.sqrt_mul_self (by norm_num)
  have elasticity {material : Material} (grain : isCompressionGranular material) :
      (Material.getProperties (K := ℝ) material).elasticity = 1 / 5 := by
    rcases isCompressionGranular_iff.mp grain with rfl | rfl <;> rfl
  have restitution : (hit source target).restitutionCoefficient =
      Analytic.sqrt ((Material.getProperties (K := ℝ) source).elasticity *
        (Material.getProperties (K := ℝ) target).elasticity) * (3 / 10) := by
    have type := hit_type granular granular'
    unfold hit createCollisionAwareMove at type ⊢
    dsimp only at type ⊢
    rw [type]
    rfl
  rw [bounce, restitution, elasticity granular, elasticity granular', root,
    inelasticRestitutionFactor]
  norm_num

theorem surfaceNormal_hit : surfaceNormal (hit source target) = ⟨1, 0⟩ := by
  have direction : (hit source target).getDirection = ⟨1, 0⟩ := by
    change (⟨((1 - 0 : ℤ) : ℝ), ((0 - 0 : ℤ) : ℝ)⟩ : Vector2 ℝ) = _
    norm_num
  have unit : (⟨1, 0⟩ : Vector2 ℝ).UnitLength := by
    norm_num [Vector2.UnitLength]
  rw [surfaceNormal, direction, unit.normalize_eq]

theorem collidingPlanned_left :
    (collidingPlanned source target).cellAt ⟨0, 0⟩ = advanced source := by
  have apart : (⟨0, 0⟩ : Vector2i) ≠ ⟨1, 0⟩ := by decide
  exact (CellArray.cellAt_setCell_ne _ _ apart).trans
    (CellArray.cellAt_setCell_self (inside_left source target) _)

theorem collidingPlanned_right :
    (collidingPlanned source target).cellAt ⟨1, 0⟩ = unmoved target :=
  CellArray.cellAt_setCell_self (CellArray.setCell_inBounds.mpr (inside_right source target)) _

section

variable (granular : isCompressionGranular source) (granular' : isCompressionGranular target)
include granular granular'

theorem prepareMove_hit :
    (collidingPlanned source target).prepareMove (hit source target) =
      (collidingPlanned source target).noteMaterialMove (hit source target) := by
  have contact : isContact .inelasticCollision = false := by decide
  simp [prepareMove, hit_type granular granular', hit_pressure granular granular', contact]

theorem swaps_hit :
    ((collidingPlanned source target).prepareMove (hit source target)).swaps (hit source target) =
      false := by
  rw [prepareMove_hit granular granular']
  have disabled : ((collidingPlanned source target).noteMaterialMove (hit source target)
      ).physicsSettings.swapEnabled = false := rfl
  simp [swaps, disabled]

theorem organismAt_hit :
    ((collidingPlanned source target).prepareMove (hit source target)).organismManager.organismAt
      (hit source target).fromPos = invalidOrganismId := by
  rw [prepareMove_hit granular granular']
  rfl

theorem prepared_left :
    ((collidingPlanned source target).prepareMove (hit source target)).cellAt
      (hit source target).fromPos = advanced source := by
  rw [prepareMove_hit granular granular']
  exact collidingPlanned_left

theorem prepared_right :
    ((collidingPlanned source target).prepareMove (hit source target)).cellAt
      (hit source target).toPos = unmoved target := by
  rw [prepareMove_hit granular granular']
  exact collidingPlanned_right

theorem responder_hit :
    ((collidingPlanned source target).prepareMove (hit source target)).responder
      (hit source target) = .inelasticCollision := by
  have swapless := swaps_hit granular granular'
  have unowned := organismAt_hit granular granular'
  have left := prepared_left granular granular'
  have right := prepared_right granular granular'
  generalize (collidingPlanned source target).prepareMove (hit source target) = world at *
  have type : world.effectiveCollisionType (hit source target) = .inelasticCollision := by
    rw [effectiveCollisionType, if_neg fun owned => owned.1 unowned, hit_type granular granular']
  have notWater {material : Material} (grain : isCompressionGranular material) :
      material ≠ .water := by
    rintro rfl
    exact absurd grain (by decide)
  have dry : (world.handleWaterFragmentation (hit source target)).1 = false := by
    refine handleWaterFragmentation_dry ?_ (Or.inr ?_)
    · rw [left]
      exact notWater granular
    · rw [right]
      exact notWater granular'
  simp [responder, swapless, type, dry]

end

theorem collided_current :
    (advanced source).velocity = (hit source target).momentum ∧
      (hit source target).materialMass = (advanced source).getMass ∧
      (hit source target).targetMass = (unmoved target).getMass :=
  ⟨rfl, (calculateMaterialMass_full rfl).trans (getMass_full rfl).symm,
    (calculateMaterialMass_full rfl).trans (getMass_full rfl).symm⟩

theorem passedOn_hit (granular : isCompressionGranular source)
    (granular' : isCompressionGranular target) :
    passedOn (hit source target) = 103 / 100 * source.getDensity := by
  have mass : (hit source target).materialMass = source.getDensity := calculateMaterialMass_full rfl
  have speed : (hit source target).momentum.dot ⟨1, 0⟩ = 1 := by
    change (1 : ℝ) * 1 + 0 * 0 = 1
    norm_num
  rw [passedOn, hit_bounce granular granular', mass, surfaceNormal_hit, speed]
  norm_num

theorem elasticImpulse_hit :
    TwoBodies.elasticImpulse (hit source target).materialMass (hit source target).targetMass
        ((hit source target).momentum.dot (surfaceNormal (hit source target)))
        ((unmoved target).velocity.dot (surfaceNormal (hit source target))) =
      2 * (source.getDensity * target.getDensity / (source.getDensity + target.getDensity)) := by
  have mass : (hit source target).materialMass = source.getDensity := calculateMaterialMass_full rfl
  have mass' : (hit source target).targetMass = target.getDensity := calculateMaterialMass_full rfl
  have speed : (hit source target).momentum.dot ⟨1, 0⟩ = 1 := by
    change (1 : ℝ) * 1 + 0 * 0 = 1
    norm_num
  have still : (unmoved target).velocity.dot ⟨1, 0⟩ = 0 := by
    change (0 : ℝ) * 1 + 0 * 0 = 0
    norm_num
  rw [TwoBodies.elasticImpulse, mass, mass', surfaceNormal_hit, speed, still]
  norm_num

theorem colliding_fills (source target : Material) :
    (colliding source target).data.UnitFills ∧ (collidingPlanned source target).data.UnitFills := by
  have unit : (0 : ℝ) ≤ 1 ∧ (1 : ℝ) ≤ 1 := ⟨zero_le_one, le_refl 1⟩
  have before : (colliding source target).data.UnitFills := by
    intro cell stored
    have either : cell = moving source ∨ cell ∈ [resting target] := List.mem_cons.mp stored
    rcases either with rfl | right
    · exact unit
    · rw [List.mem_singleton.mp right]
      exact unit
  have left : CellArray.Conserves 0 (colliding source target).data
      ((colliding source target).data.setCell ⟨0, 0⟩ (advanced source)) :=
    .setCell_same before (inside_left source target) ⟨rfl, rfl⟩
  have apart : (⟨1, 0⟩ : Vector2i) ≠ ⟨0, 0⟩ := by decide
  have same : Cell.SameMatter
      (((colliding source target).data.setCell ⟨0, 0⟩ (advanced source)).cellAt ⟨1, 0⟩)
      (unmoved target) := by
    rw [CellArray.cellAt_setCell_ne _ _ apart]
    exact ⟨rfl, rfl⟩
  exact ⟨before, (CellArray.Conserves.setCell_same left.fills
    (CellArray.setCell_inBounds.mpr (inside_right source target)) same).fills⟩

theorem hit_within (source target : Material) :
    (hit source target).Within (collidingPlanned source target).data.toGrid where
  fromInside :=
    CellArray.setCell_inBounds.mpr (CellArray.setCell_inBounds.mpr (inside_left source target))
  toInside :=
    CellArray.setCell_inBounds.mpr (CellArray.setCell_inBounds.mpr (inside_right source target))
  apart := (by decide : (⟨0, 0⟩ : Vector2i) ≠ ⟨1, 0⟩)

theorem dirt_sound : (collidingPlanned .dirt .sand).CollidesSoundly (hit .dirt .sand) := by
  have left : (collidingPlanned .dirt .sand).cellAt (hit .dirt .sand).fromPos = advanced .dirt :=
    collidingPlanned_left
  have right : (collidingPlanned .dirt .sand).cellAt (hit .dirt .sand).toPos = unmoved .sand :=
    collidingPlanned_right
  obtain ⟨velocity, mass, targetMass⟩ := @collided_current .dirt .sand
  rw [CollidesSoundly, responder_hit rfl rfl, left, right]
  have heavy : (0 : ℝ) < Material.sand.getDensity := Cell.getDensity_pos _
  refine ⟨velocity, mass, targetMass, fun _ => Or.inl ?_, fun _ => ?_, ?_⟩
  · rw [targetMass, getMass_full rfl]
    exact heavy
  · rw [passedOn_hit rfl rfl, elasticImpulse_hit, Set.mem_uIcc]
    refine Or.inl ⟨?_, ?_⟩ <;> norm_num [Material.getDensity, Material.getProperties]
  · intro _ _ other
    exact absurd other (by decide)

theorem collisions_lawful_dirt :
    AtEachStep processMaterialMove StepsLawfully
      (computeMaterialMoves (1 / 10) (colliding .dirt .sand)).world
      (computeMaterialMoves (1 / 10) (colliding .dirt .sand)).moves := by
  have fills := (colliding_fills .dirt .sand).2
  have computed : computeMaterialMoves (1 / 10) (colliding .dirt .sand) =
      ⟨collidingPlanned .dirt .sand, [hit .dirt .sand]⟩ := computeMaterialMoves_colliding rfl rfl
  have moves : [hit .dirt .sand].Perm (computeMaterialMoves (1 / 10) (colliding .dirt .sand)).moves := by
    rw [computed]
  rw [computed]
  exact collisions_lawful (1 / 10) moves rfl rfl fills ⟨dirt_sound, fun _ _ => trivial⟩

/-- Sand against dirt, which is lighter: the sand passes on more momentum than an elastic collision
would. -/
theorem not_collisions_lawful :
    ¬ ∀ (planned : World ℝ ℚ) (deltaTime : ℝ) (shuffled : List (MaterialMove ℝ)),
      planned.data.UnitFills → shuffled.Perm (computeMaterialMoves deltaTime planned).moves →
      AtEachStep processMaterialMove StepsLawfully (computeMaterialMoves deltaTime planned).world
        shuffled := by
  intro claim
  have lawful := claim (colliding .sand .dirt) (1 / 10) [hit .sand .dirt]
    (colliding_fills .sand .dirt).1 (by rw [computeMaterialMoves_colliding rfl rfl])
  rw [computeMaterialMoves_colliding rfl rfl] at lawful
  have swapless := @swaps_hit .sand .dirt rfl rfl
  have unowned := @organismAt_hit .sand .dirt rfl rfl
  have within := hit_within .sand .dirt
  have responds := @responder_hit .sand .dirt rfl rfl
  obtain ⟨after, processed⟩ : ∃ after,
      (collidingPlanned .sand .dirt).processMaterialMove (hit .sand .dirt) = some after := by
    simp [processMaterialMove, swapless, unowned]
  have less := (lawful.1 after processed).energy (responds ▸ rfl)
  have conserves := prepareMove_conserves (hit .sand .dirt) (colliding_fills .sand .dirt).2
  have pair := handleCollision_pair (within_of_size within conserves.width_eq conserves.height_eq)
    (responds ▸ rfl)
  rw [responds, prepared_left rfl rfl, prepared_right rfl rfl] at pair
  have data := processMaterialMove_data processed (by rw [swapless]; decide)
  have left : (collidingPlanned .sand .dirt).cellAt (hit .sand .dirt).fromPos = advanced .sand :=
    collidingPlanned_left
  have right : (collidingPlanned .sand .dirt).cellAt (hit .sand .dirt).toPos = unmoved .dirt :=
    collidingPlanned_right
  have idle : settled (advanced .sand) (unmoved .dirt) (hit .sand .dirt) =
      collided (advanced .sand) (unmoved .dirt) (hit .sand .dirt) := by
    simp [settled, Cell.transferToWithPhysics, hit_amount]
  rw [World.pair, cellAt, cellAt, data, ← cellAt, ← cellAt, ← World.pair, pair, World.pair, left,
    right, idle] at less
  obtain ⟨velocity, mass, targetMass⟩ := @collided_current .sand .dirt
  have sand : 0 < (advanced .sand).getMass := by
    rw [getMass_full rfl]
    exact Cell.getDensity_pos _
  have dirt : 0 < (unmoved .dirt).getMass := by
    rw [getMass_full rfl]
    exact Cell.getDensity_pos _
  have bounded := (collided_energy_le_iff within.apart velocity mass targetMass sand dirt).mp less
  rw [passedOn_hit rfl rfl, elasticImpulse_hit, Set.mem_uIcc] at bounded
  norm_num [Material.getDensity, Material.getProperties] at bounded

end

end World

end DirtSim
