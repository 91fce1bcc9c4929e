import DirtSim.Physics.CollisionResponse

/-! # Material swaps

Instead of colliding, two cells may exchange their materials. Whether they do depends on
momentum, cohesion, energy and where a displaced fluid could escape to; what they exchange is
material and fill, so no matter is gained or lost.
-/

namespace DirtSim

open Foundation WorldCollisionCalculator

variable {K : Type*} {F : Type} [Field K] [LinearOrder K]

namespace World

/-- Cohesive resistance of a cell and the number of its neighbours of the same material. -/
structure CohesionForce (K : Type*) where
  resistanceMagnitude : K
  connectedNeighbors : ℕ

def calculateCohesionForce (world : World K F) (pos : Vector2i) : CohesionForce K :=
  let cell := world.cellAt pos
  if cell.materialType = .air then { resistanceMagnitude := 0, connectedNeighbors := 0 }
  else
    let cardinal : List Vector2i := [⟨-1, 0⟩, ⟨0, -1⟩, ⟨0, 1⟩, ⟨1, 0⟩]
    let connected :=
      cardinal.filter fun offset =>
        let neighbor := world.cellAt (pos + offset)
        world.isValidCell (pos + offset) && neighbor.materialType = cell.materialType &&
          neighbor.fillRatio > minMatterThreshold
    let cohesion := (Material.getProperties cell.materialType).cohesion
    { resistanceMagnitude := cohesion * (connected.length : K) * cell.fillRatio
      connectedNeighbors := connected.length }

def calculateCohesionStrength (world : World K F) (cell : Cell K) (pos : Vector2i) : K :=
  if cell.isEmpty then 0 else (world.calculateCohesionForce pos).resistanceMagnitude

def getCohesionResistance (world : World K F) (pos : Vector2i) : K :=
  (world.cohesionResistance.get? pos.x pos.y).getD 0

def densitySupportsSwap (fromCell toCell : Cell K) (direction : Vector2i) : Bool :=
  let fromDensity : K := fromCell.materialType.getDensity
  let toDensity : K := toCell.materialType.getDensity
  if direction.y > 0 then fromDensity > toDensity else fromDensity < toDensity

/-- A fluid that would be displaced vertically has somewhere to escape to sideways. -/
def escapesLaterally (world : World K F) (toPos : Vector2i) (toCell : Cell K) : Bool :=
  [-1, 1].any fun dx =>
    let lateralPos : Vector2i := ⟨toPos.x + dx, toPos.y⟩
    let lateral := world.cellAt lateralPos
    world.isValidCell lateralPos &&
      (lateral.isEmpty || lateral.pressure < toCell.pressure * (1 / 2))

/-- Swaps are harder when the centers of mass are far from the shared side. -/
def comResistanceMultiplier (component : ℤ) (fromCom toCom : K) : K :=
  let comDistance :=
    if component > 0 then ((1 - fromCom) + (toCom + 1)) / 4 else ((fromCom + 1) + (1 - toCom)) / 4
  if comDistance > 3 / 10 then 1 + (comDistance - 3 / 10) * 14 else 1

/-- Resistance of the target to being displaced: its mass, its cohesion and its momentum against
the swap. -/
def swapResistance (world : World K F) (toPos : Vector2i) (toCell : Cell K)
    (direction : Vector2i) : K :=
  let toMass := (Material.getProperties toCell.materialType).density * toCell.fillRatio
  let opposingMomentum := max 0 (-toCell.velocity.dot direction.toVector2) * toMass
  toMass + world.getCohesionResistance toPos + opposingMomentum

def horizontalSwapOk (world : World K F) (toPos : Vector2i) (fromCell toCell : Cell K)
    (direction : Vector2i) : Bool :=
  let settings := world.physicsSettings
  let fromProps := Material.getProperties (K := K) fromCell.materialType
  let toProps := Material.getProperties (K := K) toCell.materialType
  let fromMomentum := fromProps.density * fromCell.fillRatio * |fromCell.velocity.x|
  let penalized :=
    if fromProps.isFluid && !toProps.isFluid then
      fromMomentum * settings.horizontalNonFluidPenalty
    else fromMomentum
  let toResistance :=
    world.swapResistance toPos toCell direction *
      comResistanceMultiplier direction.x fromCell.com.x toCell.com.x
  penalized > toResistance * settings.horizontalFlowResistanceFactor

/-- Density must support a vertical swap, and buoyancy assists the momentum. -/
def verticalSwapOk (world : World K F) (toPos : Vector2i) (fromCell toCell : Cell K)
    (direction : Vector2i) : Bool :=
  let settings := world.physicsSettings
  let fromProps := Material.getProperties (K := K) fromCell.materialType
  let toProps := Material.getProperties (K := K) toCell.materialType
  let fromMomentum := fromProps.density * fromCell.fillRatio * |fromCell.velocity.y|
  let buoyancyBoost := |fromProps.density - toProps.density| * settings.buoyancyEnergyScale
  let toResistance :=
    world.swapResistance toPos toCell direction *
      comResistanceMultiplier direction.y fromCell.com.y toCell.com.y
  densitySupportsSwap fromCell toCell direction &&
    fromMomentum + buoyancyBoost > toResistance * settings.horizontalFlowResistanceFactor

/-- Energy to accelerate the target's contents and to break the bonds of the source. -/
def swapCost (world : World K F) (fromPos : Vector2i) (fromCell toCell : Cell K)
    (direction : Vector2i) : K :=
  let settings := world.physicsSettings
  let fromProps := Material.getProperties (K := K) fromCell.materialType
  let toProps := Material.getProperties (K := K) toCell.materialType
  let bonds :=
    world.calculateCohesionStrength fromCell fromPos * settings.cohesionResistanceFactor
  let bondBreakingCost :=
    if fromProps.isFluid || toProps.isFluid then bonds * settings.fluidLubricationFactor else bonds
  let kinetic := 1 / 2 * toCell.getEffectiveDensity
  let cost :=
    if direction.y = 0 ∧ (!fromProps.isFluid || !toProps.isFluid) then
      kinetic * settings.horizontalNonFluidEnergyMultiplier
    else kinetic
  cost + bondBreakingCost

/-- Energy of the collision, and of buoyancy where density drives a vertical swap. -/
def availableEnergy (world : World K F) (fromCell toCell : Cell K) (direction : Vector2i)
    (move : MaterialMove K) : K :=
  let fromDensity : K := fromCell.materialType.getDensity
  let toDensity : K := toCell.materialType.getDensity
  if direction.y ≠ 0 ∧ densitySupportsSwap fromCell toCell direction ∧
      |fromDensity - toDensity| > 1 / 10 then
    move.collisionEnergy + |fromDensity - toDensity| * world.physicsSettings.buoyancyEnergyScale
  else move.collisionEnergy

def shouldSwapMaterials [Coordinate F] (world : World K F) (fromPos : Vector2i)
    (fromCell toCell : Cell K) (direction : Vector2i) (move : MaterialMove K) : Bool :=
  let toPos := fromPos + direction
  let toOwner := world.organismManager.organismAt toPos
  let displacesRigid :=
    toOwner ≠ invalidOrganismId &&
      (world.organismManager.getOrganism toOwner).any fun organism => organism.usesRigidBodyPhysics
  let toProps := Material.getProperties (K := K) toCell.materialType
  if fromCell.materialType = toCell.materialType then false
  else if displacesRigid then false
  else if direction.y ≠ 0 ∧ toProps.isFluid ∧ toCell.materialType ≠ .air ∧
      world.escapesLaterally toPos toCell then false
  else
    let displaces :=
      if direction.y = 0 then world.horizontalSwapOk toPos fromCell toCell direction
      else world.verticalSwapOk toPos fromCell toCell direction
    displaces &&
      !(world.availableEnergy fromCell toCell direction move <
        world.swapCost fromPos fromCell toCell direction)

/-- The velocity of the moving material after a swap: air costs nothing, other materials cost
the energy of displacing them. -/
def velocityAfterSwap [Analytic K] (fromCell toCell : Cell K) (move : MaterialMove K) :
    Vector2 K :=
  if fromCell.materialType = .air ∨ toCell.materialType = .air then move.momentum
  else
    let swapCost := 1 / 2 * toCell.getEffectiveDensity
    let remainingEnergy := max 0 (move.collisionEnergy - swapCost)
    let movingMass := fromCell.getEffectiveDensity
    let magnitude :=
      if movingMass > 1 / 1000000 ∧ remainingEnergy > 0 then
        Analytic.sqrt (2 * remainingEnergy / movingMass)
      else 0
    let velocityDirection :=
      if move.momentum.mag > 1 / 1000000 then move.momentum.normalize else 0
    velocityDirection.times magnitude

/-- Swaps the materials of two cells. The displaced material is pushed back by buoyancy. -/
def swapCounterMovingMaterials [Analytic K] (fromCell toCell : Cell K) (direction : Vector2i)
    (move : MaterialMove K) : Cell K × Cell K :=
  let landingCom := Cell.calculateTrajectoryLanding fromCell.com move.momentum move.getDirection
  let displacedCom : Vector2 K :=
    ⟨(direction.x : K) * (95 / 100), (direction.y : K) * (95 / 100)⟩
  let densityDiff : K := |fromCell.materialType.getDensity - toCell.materialType.getDensity|
  let opposingDir : Vector2 K := ⟨-direction.x, -direction.y⟩
  let displaced : Cell K :=
    { fromCell with
      materialType := toCell.materialType
      fillRatio := toCell.fillRatio
      velocity := opposingDir.times (densityDiff * 10) }
  let moved : Cell K :=
    { toCell with
      materialType := fromCell.materialType
      fillRatio := fromCell.fillRatio
      velocity := velocityAfterSwap fromCell toCell move }
  (displaced.setCOM displacedCom, moved.setCOM landingCom)

/-- **A swap** moves both fills as they are. -/
theorem swap_conserves [Analytic K] [IsStrictOrderedRing K] {world : World K F}
    {move : MaterialMove K} (fills : world.data.UnitFills)
    (within : move.Within world.data.toGrid) (direction : Vector2i) :
    world.data.Conserves 0
      (world.setCells move
        (swapCounterMovingMaterials (world.cellAt move.fromPos) (world.cellAt move.toPos)
          direction move)).data := by
  have fitsFrom := fills.fits within.fromInside
  have fitsTo := fills.fits within.toInside
  refine conserves_setCells fills within (.of_pair fitsTo fitsFrom (fun kind => ?_) ?_)
  · exact (add_comm _ _).le
  · rw [add_zero]
    exact (add_comm _ _).le

end World

end DirtSim
