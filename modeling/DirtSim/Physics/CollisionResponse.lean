import DirtSim.Physics.CollisionDetection

/-! # Collision response

The handlers that execute a move, one for each type of collision. The contacts and the elastic
collision change velocities and centers of mass only; the others also transfer material, which
settles at two thresholds of residue.
-/

namespace DirtSim

open Foundation

namespace WorldCollisionCalculator

variable {K : Type*} {F : Type} [Field K] [LinearOrder K]

/-- A velocity split along a surface normal. -/
structure VelocityComponents (K : Type*) where
  normal : Vector2 K
  tangential : Vector2 K
  normalScalar : K

def decomposeVelocity [Analytic K] (velocity surfaceNormal : Vector2 K) : VelocityComponents K :=
  let normalizedNormal := surfaceNormal.normalize
  let normalScalar := velocity.dot normalizedNormal
  let normal := normalizedNormal.times normalScalar
  { normal := normal, tangential := velocity - normal, normalScalar := normalScalar }

def separated (com normal : Vector2 K) (distance : K) : Vector2 K :=
  let along (component coordinate : K) : K :=
    if component > 1 / 2 then min coordinate (1 - distance)
    else if component < -(1 / 2) then max coordinate (-1 + distance)
    else coordinate
  ⟨along normal.x com.x, along normal.y com.y⟩

def clampCompressionBoundaryCrossing (cell : Cell K) (surfaceNormal : Vector2 K) : Cell K :=
  cell.setCOM (separated cell.com surfaceNormal (1 / 20))

def computeCompressionLoadRatio (cell : Cell K) (gravityMagnitude : K) : K :=
  if gravityMagnitude ≤ 1 / 1000 then 0
  else
    let selfWeight := cell.getMass * gravityMagnitude
    if selfWeight ≤ 1 / 1000 then 0 else max 0 (cell.staticLoad / selfWeight)

def computeCompressionRetainedNormalFraction (loadRatio : K) : K :=
  if loadRatio ≤ 5 / 4 then 1
  else if loadRatio ≥ 3 then 0
  else
    let plasticity := (loadRatio - 5 / 4) / (3 - 5 / 4)
    clamp (1 - plasticity) 0 1

def handleCompressionContact [Analytic K] (gravity : K) (fromCell toCell : Cell K)
    (move : MaterialMove K) : Cell K × Cell K :=
  let gravityMagnitude := |gravity|
  let surfaceNormal := move.getDirection.normalize
  let fromComp := decomposeVelocity fromCell.velocity surfaceNormal
  let toComp := decomposeVelocity toCell.velocity surfaceNormal
  let fromRetainedFraction :=
    computeCompressionRetainedNormalFraction
      (computeCompressionLoadRatio fromCell gravityMagnitude)
  if toCell.isEmpty ∨ isCompressionSupportSink toCell.materialType ∨
      !isCompressionGranular toCell.materialType then
    let clampedNormalScalar :=
      min fromComp.normalScalar toComp.normalScalar * fromRetainedFraction
    let slowed :=
      fromCell.withVelocity (fromComp.tangential + surfaceNormal.times clampedNormalScalar)
    (clampCompressionBoundaryCrossing slowed surfaceNormal, toCell)
  else
    (clampCompressionBoundaryCrossing (fromCell.withVelocity fromComp.tangential) surfaceNormal,
      toCell.withVelocity toComp.tangential)

def handleFluidBlockedContact [Analytic K] (fromCell toCell : Cell K) (move : MaterialMove K) :
    Cell K × Cell K :=
  let surfaceNormal := move.getDirection.normalize
  let fromComp := decomposeVelocity fromCell.velocity surfaceNormal
  let toComp := decomposeVelocity toCell.velocity surfaceNormal
  let stopped (comp : VelocityComponents K) : Vector2 K :=
    comp.tangential + surfaceNormal.times (min 0 comp.normalScalar)
  (clampCompressionBoundaryCrossing (fromCell.withVelocity (stopped fromComp)) surfaceNormal,
    toCell.withVelocity (stopped toComp))

/-- Two bodies exchange their normal velocities, or one is reflected off the surface. Material
stays where it is. -/
def handleElasticCollision [Analytic K] (fromCell toCell : Cell K) (move : MaterialMove K) :
    Cell K × Cell K :=
  let surfaceNormal := move.getDirection.normalize
  let v1 := decomposeVelocity move.momentum surfaceNormal
  if move.targetMass > 0 ∧ !toCell.isEmpty then
    let m1 := move.materialMass
    let m2 := move.targetMass
    let v2 := decomposeVelocity toCell.velocity surfaceNormal
    let v1New :=
      ((m1 - m2) * v1.normalScalar + 2 * m2 * v2.normalScalar) / (m1 + m2) *
        move.restitutionCoefficient
    let v2New :=
      ((m2 - m1) * v2.normalScalar + 2 * m1 * v1.normalScalar) / (m1 + m2) *
        move.restitutionCoefficient
    let bounced := fromCell.withVelocity (v1.tangential + surfaceNormal.times v1New)
    (bounced.setCOM (separated bounced.com move.getDirection (1 / 50)),
      toCell.withVelocity (v2.tangential + surfaceNormal.times v2New))
  else
    let reflected :=
      fromCell.withVelocity (v1.tangential + v1.normal.times (-move.restitutionCoefficient))
    (reflected.setCOM (separated reflected.com surfaceNormal (1 / 50)), toCell)

section

/-- A pair of cells that holds what another pair holds. -/
def SamePair (before after : Cell K × Cell K) : Prop :=
  Cell.SameMatter before.1 after.1 ∧ Cell.SameMatter before.2 after.2

variable [Analytic K]

theorem handleCompressionContact_same (gravity : K) (fromCell toCell : Cell K)
    (move : MaterialMove K) :
    SamePair (fromCell, toCell) (handleCompressionContact gravity fromCell toCell move) := by
  unfold handleCompressionContact
  split
  · exact ⟨⟨rfl, rfl⟩, ⟨rfl, rfl⟩⟩
  · exact ⟨⟨rfl, rfl⟩, ⟨rfl, rfl⟩⟩

theorem handleFluidBlockedContact_same (fromCell toCell : Cell K) (move : MaterialMove K) :
    SamePair (fromCell, toCell) (handleFluidBlockedContact fromCell toCell move) :=
  ⟨⟨rfl, rfl⟩, ⟨rfl, rfl⟩⟩

theorem handleElasticCollision_same (fromCell toCell : Cell K) (move : MaterialMove K) :
    SamePair (fromCell, toCell) (handleElasticCollision fromCell toCell move) := by
  unfold handleElasticCollision
  split
  · exact ⟨⟨rfl, rfl⟩, ⟨rfl, rfl⟩⟩
  · exact ⟨⟨rfl, rfl⟩, ⟨rfl, rfl⟩⟩

end

end WorldCollisionCalculator

namespace World

open WorldCollisionCalculator

variable {K : Type*} {F : Type} [Field K] [LinearOrder K]

def queueBlockedTransfer (world : World K F) (transfer : BlockedTransfer K) : World K F :=
  { world with
    pressureCalculator :=
      { world.pressureCalculator with
        blockedTransfers := world.pressureCalculator.blockedTransfers ++ [transfer] } }

/-- Queues what a transfer left behind, when dynamic pressure is on. -/
def noteDeficit [Analytic K] (world : World K F) (move : MaterialMove K) (velocity : Vector2 K)
    (deficit : K) : World K F :=
  if world.physicsSettings.pressureDynamicStrength > 0 then
    let blockedMass := deficit * move.material.getDensity
    world.queueBlockedTransfer
      { fromX := move.fromPos.x, fromY := move.fromPos.y, toX := move.toPos.x, toY := move.toPos.y
        transferAmount := deficit, velocity := velocity, energy := velocity.mag * blockedMass }
  else world

/-- A plain transfer. An organism does not enter a cell that is not empty, and what was not
accepted is reflected. -/
def handleTransferMove [Analytic K] (world : World K F) (move : MaterialMove K) : World K F :=
  let fromCell := world.cellAt move.fromPos
  let toCell := world.cellAt move.toPos
  if world.organismManager.organismAt move.fromPos ≠ invalidOrganismId ∧ !toCell.isEmpty then
    world.setCells move (handleElasticCollision fromCell toCell move)
  else
    let transfer := fromCell.transferToWithPhysics toCell move.amount move.getDirection
    let deficit := move.amount - transfer.accepted
    if deficit > minMatterThreshold then
      (world.noteDeficit move transfer.source.velocity deficit).setCells move
        (applyCellBoundaryReflection transfer.source move.direction move.material, transfer.target)
    else world.setCells move (transfer.source, transfer.target)

def pushed (toCell : Cell K) (move : MaterialMove K) (comp : VelocityComponents K)
    (inelasticRestitution : K) : Cell K :=
  if move.targetMass > 0 then
    let momentumTransferred :=
      (comp.normal.times (1 + inelasticRestitution)).times move.materialMass
    toCell.withVelocity (toCell.velocity + momentumTransferred.divide move.targetMass)
  else toCell

/-- The source bounces with energy loss, the target is pushed, and material is transferred as
far as it fits. -/
def handleInelasticCollision [Analytic K] (world : World K F) (move : MaterialMove K) :
    World K F :=
  let comp := decomposeVelocity move.momentum move.getDirection.normalize
  let inelasticRestitution := move.restitutionCoefficient * inelasticRestitutionFactor
  let fromCell :=
    (world.cellAt move.fromPos).withVelocity
      (comp.tangential + comp.normal.times (-inelasticRestitution))
  let toCell := pushed (world.cellAt move.toPos) move comp inelasticRestitution
  let transfer := fromCell.transferToWithPhysics toCell move.amount move.getDirection
  let deficit := move.amount - transfer.accepted
  let noted :=
    if deficit > minMatterThreshold then world.noteDeficit move transfer.source.velocity deficit
    else world
  noted.setCells move (transfer.source, transfer.target)

def handleFragmentation [Analytic K] (world : World K F) (move : MaterialMove K) : World K F :=
  world.handleInelasticCollision move

def handleAbsorption [Analytic K] (world : World K F) (move : MaterialMove K) : World K F :=
  let target := (world.cellAt move.toPos).materialType
  if move.material = .water ∧ target = .dirt then world.handleTransferMove move
  else if move.material = .dirt ∧ target = .water then world.handleTransferMove move
  else world.handleTransferMove move

section

open Cell

theorem reflect_same (cell : Cell K) (direction : Vector2i) (material : Material) :
    SameMatter cell (reflect cell direction material) := ⟨rfl, rfl⟩

theorem pushed_same (toCell : Cell K) (move : MaterialMove K) (comp : VelocityComponents K)
    (inelasticRestitution : K) : SameMatter toCell (pushed toCell move comp inelasticRestitution) := by
  unfold pushed
  split <;> exact ⟨rfl, rfl⟩

@[simp] theorem noteDeficit_data [Analytic K] (world : World K F) (move : MaterialMove K)
    (velocity : Vector2 K) (deficit : K) :
    (world.noteDeficit move velocity deficit).data = world.data := by
  unfold noteDeficit
  split <;> rfl

omit [Field K] [LinearOrder K] in
theorem setCells_data {first second : World K F} (same : first.data = second.data)
    (move : MaterialMove K) (cells : Cell K × Cell K) :
    (first.setCells move cells).data = (second.setCells move cells).data := by
  simp [setCells, setCell, same]

variable [IsStrictOrderedRing K] {world : World K F} {move : MaterialMove K}

theorem conserves_samePair (fills : world.data.UnitFills) (within : move.Within world.data.toGrid)
    {cells : Cell K × Cell K}
    (same : SamePair (world.cellAt move.fromPos, world.cellAt move.toPos) cells) :
    world.data.Conserves 0 (world.setCells move cells).data :=
  conserves_setCells fills within
    (.of_same (fills.fits within.fromInside) (fills.fits within.toInside) same.1 same.2)

theorem twoThresholds_nonneg : (0 : K) ≤ minFillThreshold + minFillThreshold :=
  add_nonneg minFillThreshold_pos.le minFillThreshold_pos.le

/-- A transfer between cells that hold what the cells of the move hold, followed by changes
that leave the matter alone. -/
theorem conserves_transfer (fills : world.data.UnitFills) (within : move.Within world.data.toGrid)
    {fromCell toCell : Cell K} (sameFrom : SameMatter (world.cellAt move.fromPos) fromCell)
    (sameTo : SameMatter (world.cellAt move.toPos) toCell) (normal : Vector2 K)
    {cells : Cell K × Cell K}
    (same : SamePair ((fromCell.transferToWithPhysics toCell move.amount normal).source,
      (fromCell.transferToWithPhysics toCell move.amount normal).target) cells) :
    world.data.Conserves (minFillThreshold + minFillThreshold) (world.setCells move cells).data := by
  have fitsFrom := fills.fits within.fromInside
  have fitsTo := fills.fits within.toInside
  have prepared := Ledger.Settles.of_same fitsFrom fitsTo sameFrom sameTo
  have moved := transferToWithPhysics_settles (sameFrom.fits fitsFrom) (sameTo.fits fitsTo)
    move.amount normal
  have fitsSource := moved.bounded _ List.mem_cons_self
  have fitsTarget := moved.bounded _ (List.mem_cons_of_mem _ List.mem_cons_self)
  have finished := Ledger.Settles.of_same fitsSource fitsTarget same.1 same.2
  refine (conserves_setCells fills within ((prepared.trans moved).trans finished)).mono ?_
  rw [zero_add, add_zero]

variable [Analytic K]

section

variable (fills : world.data.UnitFills) (within : move.Within world.data.toGrid)
include fills within

/-- **A transfer** keeps fills, creates nothing and loses at most two residues. -/
theorem handleTransferMove_conserves :
    world.data.Conserves (minFillThreshold + minFillThreshold)
      (world.handleTransferMove move).data := by
  unfold handleTransferMove
  dsimp only
  split
  case isTrue occupied =>
      exact (conserves_samePair fills within (handleElasticCollision_same _ _ _)).mono
        twoThresholds_nonneg
  case isFalse free =>
      split
      case isTrue incomplete =>
          rw [setCells_data (noteDeficit_data ..)]
          exact conserves_transfer fills within (.refl _) (.refl _) move.getDirection
            ⟨reflect_same _ _ _, .refl _⟩
      case isFalse complete =>
          exact conserves_transfer fills within (.refl _) (.refl _) move.getDirection
            ⟨.refl _, .refl _⟩

/-- **An inelastic collision** loses no more than the transfer in it. -/
theorem handleInelasticCollision_conserves :
    world.data.Conserves (minFillThreshold + minFillThreshold)
      (world.handleInelasticCollision move).data := by
  unfold handleInelasticCollision
  dsimp only
  have moved (velocity : Vector2 K) (comp : VelocityComponents K) (restitution : K) :=
    conserves_transfer fills within (withVelocity_same _ velocity)
      (pushed_same (world.cellAt move.toPos) move comp restitution) move.getDirection
      ⟨.refl _, .refl _⟩
  split
  · rw [setCells_data (noteDeficit_data ..)]
    exact moved _ _ _
  · exact moved _ _ _

theorem handleAbsorption_conserves :
    world.data.Conserves (minFillThreshold + minFillThreshold)
      (world.handleAbsorption move).data := by
  have transfer := handleTransferMove_conserves fills within
  unfold handleAbsorption
  dsimp only
  split
  · exact transfer
  · split <;> exact transfer

end

end

end World

end DirtSim
