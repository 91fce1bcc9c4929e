import DirtSim.Core.Real
import DirtSim.Foundation.Transition
import DirtSim.Physics.MaterialSwap
import DirtSim.Physics.WaterFragmentation

/-! # Material moves

The moves of a frame, computed on the world as it was, are shuffled and executed one after the
other on cells that earlier moves have already changed. Whatever the order, the stale amounts
and the rolls of the generator, each step keeps every fill ratio between 0 and 1, adds to no
material, and loses at most a fixed amount (`World.processMaterialMoves_conserve`).
-/

namespace DirtSim

open Foundation WorldCollisionCalculator

variable {K : Type*} {F : Type} [Field K] [LinearOrder K]

def WorldPressureCalculator.ensurePressureBuffers (calculator : WorldPressureCalculator K)
    (cells : CellArray K) : WorldPressureCalculator K :=
  let cellCount := cells.width * cells.height
  if calculator.dynamicPressure.length = cellCount ∧
      calculator.hydrostaticPressure.length = cellCount then calculator
  else
    { calculator with
      dynamicPressure := cells.cells.map fun cell => cell.pressure
      hydrostaticPressure := List.replicate cellCount 0 }

namespace World

def accumulateDynamicPressure (world : World K F) (pos : Vector2i) (amount : K) : World K F :=
  if amount ≤ 0 then world
  else
    let ensured := world.pressureCalculator.ensurePressureBuffers world.data
    if !world.isValidCell pos then { world with pressureCalculator := ensured }
    else
      let cell := world.cellAt pos
      { world with
        data := world.data.setCell pos { cell with pressure := cell.pressure + amount }
        pressureCalculator :=
          { ensured with
            dynamicPressure :=
              ensured.dynamicPressure.modify (world.data.index pos.x pos.y) fun pressure =>
                pressure + amount } }

def isContact (collisionType : CollisionType) : Bool :=
  collisionType = .compressionContact ∨ collisionType = .fluidBlockedContact

def noteMaterialMove (world : World K F) (move : MaterialMove K) : World K F :=
  { world with
    regionActivityTracker :=
      world.regionActivityTracker.noteMaterialMove move.fromPos.x move.fromPos.y move.toPos.x
        move.toPos.y }

/-- What comes before the collision itself: the tracker is told, and excess that could not
transfer turns into pressure, on the source if the target is a wall. -/
def prepareMove (world : World K F) (move : MaterialMove K) : World K F :=
  if isContact move.collisionType then world
  else if move.pressureFromExcess > 0 then
    let pressed :=
      if (world.cellAt move.toPos).materialType = .wall then move.fromPos else move.toPos
    (world.noteMaterialMove move).accumulateDynamicPressure pressed move.pressureFromExcess
  else world.noteMaterialMove move

def effectiveCollisionType (world : World K F) (move : MaterialMove K) : CollisionType :=
  let fromCell := world.cellAt move.fromPos
  let moveIsPartial := move.amount < fromCell.fillRatio - 1 / 1000
  let targetCantFit := (world.cellAt move.toPos).getCapacity < fromCell.fillRatio
  if world.organismManager.organismAt move.fromPos ≠ invalidOrganismId ∧
      (moveIsPartial ∨ targetCantFit) then .elasticReflection
  else move.collisionType

variable [Analytic K]

def handleInelasticMove (world : World K F) (move : MaterialMove K) : World K F :=
  let fragmented := world.handleWaterFragmentation move
  if fragmented.1 then fragmented.2 else fragmented.2.handleInelasticCollision move

def handleCollision (world : World K F) (move : MaterialMove K) (type : CollisionType) :
    World K F :=
  let fromCell := world.cellAt move.fromPos
  let toCell := world.cellAt move.toPos
  match type with
  | .transferOnly => world.handleTransferMove move
  | .compressionContact =>
      world.setCells move
        (handleCompressionContact world.physicsSettings.gravity fromCell toCell move)
  | .fluidBlockedContact => world.setCells move (handleFluidBlockedContact fromCell toCell move)
  | .elasticReflection => world.setCells move (handleElasticCollision fromCell toCell move)
  | .inelasticCollision => world.handleInelasticMove move
  | .fragmentation => world.handleFragmentation move
  | .absorption => world.handleAbsorption move

variable [Coordinate F]

def swaps (world : World K F) (move : MaterialMove K) : Bool :=
  world.physicsSettings.swapEnabled && move.collisionType ≠ .transferOnly &&
    !isContact move.collisionType &&
    world.shouldSwapMaterials move.fromPos (world.cellAt move.fromPos) (world.cellAt move.toPos)
      move.direction move

/-- One move. The organism manager aborts the program when its records disagree. -/
def processMaterialMove (world : World K F) (move : MaterialMove K) : Option (World K F) :=
  let prepared := world.prepareMove move
  let fromCell := prepared.cellAt move.fromPos
  let toCell := prepared.cellAt move.toPos
  if prepared.swaps move then
    let swapped :=
      prepared.setCells move (swapCounterMovingMaterials fromCell toCell move.direction move)
    (swapped.organismManager.swapOrganisms move.fromPos move.toPos).map fun manager =>
      { swapped with organismManager := manager }
  else
    let organismId := prepared.organismManager.organismAt move.fromPos
    let handled := prepared.handleCollision move (prepared.effectiveCollisionType move)
    if organismId ≠ invalidOrganismId ∧ (handled.cellAt move.fromPos).isEmpty then
      (handled.organismManager.moveOrganismCell move.fromPos move.toPos organismId).map
        fun manager => { handled with organismManager := manager }
    else some handled

def processMaterialMoves (world : World K F) (shuffled : List (MaterialMove K)) :
    Option (World K F) :=
  shuffled.foldlM processMaterialMove world

section

open Cell CellArray

variable [IsStrictOrderedRing K] {world : World K F} {move : MaterialMove K}

/-- What a step may lose: a splash of five fragments from each cell and the source's residue,
followed by a transfer. -/
def lossPerMove : K := 13 * minFillThreshold

section

omit [Analytic K] [Coordinate F]

theorem accumulateDynamicPressure_conserves (fills : world.data.UnitFills) (pos : Vector2i)
    (amount : K) : world.data.Conserves 0 (world.accumulateDynamicPressure pos amount).data := by
  unfold accumulateDynamicPressure
  split
  · exact .refl fills
  · split
    case isTrue outside => exact .refl fills
    case isFalse inside =>
        rw [Bool.not_eq_true', Bool.not_eq_false] at inside
        exact .setCell_same fills (of_decide_eq_true inside) ⟨rfl, rfl⟩

theorem prepareMove_conserves (move : MaterialMove K) (fills : world.data.UnitFills) :
    world.data.Conserves 0 (world.prepareMove move).data := by
  unfold prepareMove
  split
  · exact .refl fills
  · split
    · have fills' : (world.noteMaterialMove move).data.UnitFills := fills
      have pressed := accumulateDynamicPressure_conserves fills'
      exact pressed _ _
    · exact .refl fills

end

section

omit [Coordinate F]

theorem handleInelasticMove_conserves (fills : world.data.UnitFills)
    (within : move.Within world.data.toGrid) :
    world.data.Conserves lossPerMove (world.handleInelasticMove move).data := by
  have positive : (0 : K) < minFillThreshold := minFillThreshold_pos
  have fragmented := handleWaterFragmentation_conserves fills within
  have within' := within_of_size within fragmented.width_eq fragmented.height_eq
  have inelastic := handleInelasticCollision_conserves fragmented.fills within'
  unfold handleInelasticMove lossPerMove
  dsimp only
  split
  · exact fragmented.mono (by linarith)
  · exact (fragmented.trans inelastic).mono (by linarith)

theorem handleCollision_conserves (fills : world.data.UnitFills)
    (within : move.Within world.data.toGrid) (type : CollisionType) :
    world.data.Conserves lossPerMove (world.handleCollision move type).data := by
  have positive : (0 : K) < minFillThreshold := minFillThreshold_pos
  have free : (0 : K) ≤ lossPerMove := by
    unfold lossPerMove
    linarith
  have residues : minFillThreshold + minFillThreshold ≤ (lossPerMove : K) := by
    unfold lossPerMove
    linarith
  cases type with
  | transferOnly => exact (handleTransferMove_conserves fills within).mono residues
  | compressionContact =>
      exact (conserves_samePair fills within (handleCompressionContact_same _ _ _ _)).mono free
  | fluidBlockedContact =>
      exact (conserves_samePair fills within (handleFluidBlockedContact_same _ _ _)).mono free
  | elasticReflection =>
      exact (conserves_samePair fills within (handleElasticCollision_same _ _ _)).mono free
  | inelasticCollision => exact handleInelasticMove_conserves fills within
  | fragmentation => exact (handleInelasticCollision_conserves fills within).mono residues
  | absorption => exact (handleAbsorption_conserves fills within).mono residues

end

/-- **One step.** Whatever the move carries, as long as it leads from one cell to another. -/
theorem processMaterialMove_conserves (fills : world.data.UnitFills)
    (within : move.Within world.data.toGrid) {after : World K F}
    (processed : world.processMaterialMove move = some after) :
    world.data.Conserves lossPerMove after.data := by
  have prepared := prepareMove_conserves move fills
  have within' := within_of_size within prepared.width_eq prepared.height_eq
  have settled {final : CellArray K} {price : K} (le : price ≤ lossPerMove)
      (conserves : (world.prepareMove move).data.Conserves price final) :
      world.data.Conserves lossPerMove final :=
    (prepared.trans conserves).mono (by rwa [zero_add])
  by_cases swapped : (world.prepareMove move).swaps move
  · simp only [processMaterialMove, swapped, ↓reduceIte, Option.map_eq_some_iff] at processed
    obtain ⟨manager, _, rfl⟩ := processed
    refine settled ?_ (swap_conserves prepared.fills within' move.direction)
    exact mul_nonneg (Nat.ofNat_nonneg 13) minFillThreshold_pos.le
  · have handled := settled le_rfl (handleCollision_conserves prepared.fills within'
      ((world.prepareMove move).effectiveCollisionType move))
    simp only [processMaterialMove, swapped, Bool.false_eq_true, ↓reduceIte] at processed
    split at processed
    · obtain ⟨manager, _, rfl⟩ := Option.map_eq_some_iff.mp processed
      exact handled
    · rw [Option.some.injEq] at processed
      rw [← processed]
      exact handled

/-- **Material moves never create matter.** The moves computed on one state of the world,
shuffled in any way and executed on any state of the same size whose fill ratios lie between 0
and 1: each step keeps them there, adds to no material, and takes away at most `lossPerMove`. -/
theorem processMaterialMoves_conserve {computed : World K F} (deltaTime : K)
    {shuffled : List (MaterialMove K)}
    (shuffle : shuffled.Perm (computeMaterialMoves deltaTime computed).moves)
    (width : world.data.width = computed.data.width)
    (height : world.data.height = computed.data.height) (fills : world.data.UnitFills) :
    EachStep processMaterialMove
      (fun before after => before.data.Conserves lossPerMove after.data) world shuffled := by
  let invariant (state : World K F) : Prop :=
    state.data.UnitFills ∧ state.data.width = computed.data.width ∧
      state.data.height = computed.data.height
  refine .of_invariant invariant (fun state move next listed holds moved => ?_)
    ⟨fills, width, height⟩
  obtain ⟨filled, sameWidth, sameHeight⟩ := holds
  have within := computeMaterialMoves_within deltaTime computed move (shuffle.mem_iff.mp listed)
  have step := processMaterialMove_conserves filled
    (within_of_size within sameWidth sameHeight) moved
  exact ⟨step, step.fills, step.width_eq.trans sameWidth, step.height_eq.trans sameHeight⟩

/-- A full cell of water that is about to flow into the empty cell beside it. -/
noncomputable def pouring : World ℝ ℚ where
  data :=
    { width := 2
      height := 1
      cells :=
        [{ blank with materialType := .water, fillRatio := 1, com := ⟨9 / 10, 0⟩, velocity := ⟨1, 0⟩ },
          blank]
      length_cells := rfl
      width_pos := Nat.two_pos
      height_pos := Nat.one_pos
      width_le := two_le_limit
      height_le := one_le_limit }
  cohesionResistance := .generate 2 1 fun _ _ => 0
  physicsSettings :=
    { buoyancyEnergyScale := 0, cohesionResistanceFactor := 10, fluidLubricationFactor := 1 / 2
      waterSimMode := .legacyCell, fragmentationEnabled := true, fragmentationThreshold := 5
      fragmentationFullThreshold := 50, gravity := 98 / 10, horizontalFlowResistanceFactor := 1
      horizontalNonFluidPenalty := 1, horizontalNonFluidEnergyMultiplier := 1
      pressureDynamicStrength := 1, swapEnabled := true }
  organismManager := {}
  regionActivityTracker := .new
  pressureCalculator :=
    { dynamicPressure := [0, 0], hydrostaticPressure := [0, 0], blockedTransfers := [] }
  rng := Stream'.const (1 / 2)

theorem pouring_unitFills : pouring.data.UnitFills := by
  intro cell stored
  have either : cell = { blank with
      materialType := .water, fillRatio := 1, com := ⟨9 / 10, 0⟩, velocity := ⟨1, 0⟩ } ∨
      cell = blank := by
    simpa only [pouring, List.mem_cons, List.not_mem_nil, or_false] using stored
  rcases either with full | empty
  · rw [full]
    exact ⟨zero_le_one, le_refl 1⟩
  · rw [empty]
    exact blank_fits

theorem processMaterialMoves_conserve_pouring :
    EachStep processMaterialMove
      (fun before after => before.data.Conserves lossPerMove after.data) pouring
      (computeMaterialMoves 1 pouring).moves :=
  processMaterialMoves_conserve 1 (.refl _) rfl rfl pouring_unitFills

end

end World

end DirtSim
