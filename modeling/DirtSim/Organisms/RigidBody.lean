import DirtSim.Organisms.OrganismManager
import DirtSim.Physics.MaterialProperties
import DirtSim.Physics.World

/-! # Rigid bodies

A goose or a tree moves as one rigid body: its component gathers forces, integrates the velocity,
asks whether the cells of the next position are free, and projects its shape onto the grid.
Conversions to cell indices are exact here.
-/

namespace DirtSim

open Foundation

/-- A cell in an organism's own coordinates. -/
structure LocalCell (K : Type*) where
  localPos : Vector2i
  material : Material
  fillRatio : K
deriving DecidableEq, Repr

/-- What organisms see of the world. -/
structure OrganismWorld (K : Type) where
  data : CellArray K
  organismManager : OrganismManager K
  gravity : K
  airResistanceStrength : K

namespace OrganismWorld

variable {K : Type}

def InBounds (world : OrganismWorld K) (pos : Vector2i) : Prop := world.data.InBounds pos.x pos.y

instance (world : OrganismWorld K) (pos : Vector2i) : Decidable (world.InBounds pos) :=
  inferInstanceAs (Decidable (world.data.InBounds _ _))

def ownerAt (world : OrganismWorld K) (pos : Vector2i) : OrganismId :=
  world.organismManager.organismAt pos

def cellAt [Field K] (world : OrganismWorld K) (pos : Vector2i) : Cell K := world.data.cellAt pos

def setCell (world : OrganismWorld K) (pos : Vector2i) (cell : Cell K) : OrganismWorld K :=
  { world with data := world.data.setCell pos cell }

end OrganismWorld

variable {K : Type} [Field K] [LinearOrder K] [Coordinate K] [Analytic K]

open Coordinate

namespace LocalCell

def worldPos (cell : LocalCell K) (position : Vector2 K) : Vector2 K :=
  ⟨position.x + cell.localPos.x, position.y + cell.localPos.y⟩

def gridPos (cell : LocalCell K) (position : Vector2 K) : Vector2i :=
  ⟨floor (cell.worldPos position).x, floor (cell.worldPos position).y⟩

end LocalCell

/-- The grid cells of a shape, in the shape's order. -/
def gridCells (shape : List (LocalCell K)) (position : Vector2 K) : List Vector2i :=
  shape.map fun cell => cell.gridPos position

/-- How an organism appears on the grid. -/
structure LocalShapeProjection (K : Type) where
  localShape : List (LocalCell K) := []
  occupiedCells : List Vector2i := []
  lastOwnerId : OrganismId := 0

namespace LocalShapeProjection

def addCell (projection : LocalShapeProjection K) (localPos : Vector2i) (material : Material)
    (fillRatio : K) : LocalShapeProjection K :=
  { projection with localShape := projection.localShape ++ [⟨localPos, material, fillRatio⟩] }

def vacate (cell : Cell K) : Cell K :=
  { cell with materialType := .air, fillRatio := 0, velocity := 0, com := 0 }

/-- One cell of the last projection given up, if it still belongs to the body. -/
def clearCell (owner : OrganismId) (world : OrganismWorld K) (oldPos : Vector2i) :
    OrganismWorld K :=
  if world.InBounds oldPos ∧ world.ownerAt oldPos = owner then
    { world with
      organismManager := world.organismManager.removeCellsFromOrganism owner [oldPos]
      data := world.data.setCell oldPos (vacate (world.cellAt oldPos)) }
  else world

def clearWorld (projection : LocalShapeProjection K) (world : OrganismWorld K) : OrganismWorld K :=
  projection.occupiedCells.foldl (clearCell projection.lastOwnerId) world

def cleared (projection : LocalShapeProjection K) : LocalShapeProjection K :=
  { projection with occupiedCells := [] }

/-- A grid cell as the projection of a local cell writes it. -/
def paint (cell : Cell K) (localCell : LocalCell K) (position velocity : Vector2 K) : Cell K :=
  { cell with
    materialType := localCell.material
    fillRatio := localCell.fillRatio
    velocity := velocity
    com := ⟨centerOfMass (localCell.worldPos position).x, centerOfMass (localCell.worldPos position).y⟩
    pendingForce := 0 }

/-- One local cell projected; a cell outside the world is dropped. Aborts for an unknown
organism. -/
def projectCell (id : OrganismId) (position velocity : Vector2 K)
    (state : OrganismWorld K × List Vector2i) (localCell : LocalCell K) :
    Option (OrganismWorld K × List Vector2i) :=
  let world := state.1
  let gridPos := localCell.gridPos position
  if world.InBounds gridPos then
    (world.organismManager.addCellToOrganism id gridPos).map fun manager =>
      ({ world with
          organismManager := manager
          data := world.data.setCell gridPos
            (paint (world.cellAt gridPos) localCell position velocity) },
        state.2 ++ [gridPos])
  else some state

def project (projection : LocalShapeProjection K) (world : OrganismWorld K) (id : OrganismId)
    (position velocity : Vector2 K) : Option (LocalShapeProjection K × OrganismWorld K) :=
  (projection.localShape.foldlM (projectCell id position velocity)
    (projection.clearWorld world, [])).map fun state =>
      ({ projection with occupiedCells := state.2, lastOwnerId := id }, state.1)

end LocalShapeProjection

structure RigidBodyPhysicsComponent (K : Type) where
  pendingForce : Vector2 K
  material : Material

namespace RigidBodyPhysicsComponent

def addForce (physics : RigidBodyPhysicsComponent K) (force : Vector2 K) :
    RigidBodyPhysicsComponent K :=
  { physics with pendingForce := physics.pendingForce + force }

def applyAirResistance (physics : RigidBodyPhysicsComponent K) (world : OrganismWorld K)
    (velocity : Vector2 K) : RigidBodyPhysicsComponent K :=
  let vMag := velocity.mag
  if vMag < 1 / 100 then physics
  else
    let props : Material.ContactProperties K := Material.getContactProperties physics.material
    let dragMagnitude := world.airResistanceStrength * props.airResistance * vMag * vMag
    physics.addForce ⟨-velocity.x / vMag * dragMagnitude, -velocity.y / vMag * dragMagnitude⟩

def integrate (physics : RigidBodyPhysicsComponent K) (velocity : Vector2 K) (mass dt : K) :
    Vector2 K :=
  if mass < 1 / 10000 then velocity
  else ⟨velocity.x + physics.pendingForce.x / mass * dt,
    velocity.y + physics.pendingForce.y / mass * dt⟩

def clearPendingForce (physics : RigidBodyPhysicsComponent K) : RigidBodyPhysicsComponent K :=
  { physics with pendingForce := 0 }

end RigidBodyPhysicsComponent

structure CollisionResult (K : Type) where
  blocked : Bool
  blockedCells : List Vector2i
  contactNormal : Vector2 K

namespace RigidBodyCollisionComponent

def currentRef (currentCells : List Vector2i) : Vector2i :=
  if currentCells = [] then ⟨0, 0⟩
  else
    ⟨(currentCells.map Vector2i.x).sum.tdiv currentCells.length,
      (currentCells.map Vector2i.y).sum.tdiv currentCells.length⟩

/-- What a blocked cell inside the world adds to the normal: the axis along which it lies
farther from the body's centre, the vertical one when they tie. -/
def boundaryCrossedNormal (reference blockedPos : Vector2i) : Vector2 K :=
  let dx := blockedPos.x - reference.x
  let dy := blockedPos.y - reference.y
  if |dy| ≥ |dx| ∧ dy ≠ 0 then ⟨0, if dy > 0 then -1 else 1⟩
  else if dx ≠ 0 then ⟨if dx > 0 then -1 else 1, 0⟩
  else ⟨0, -1⟩

/-- What a cell outside the world adds to the normal. -/
def outsideNormal (world : OrganismWorld K) (pos : Vector2i) : Vector2 K :=
  ⟨(if pos.x < 0 then 1 else 0) - (if pos.x ≥ world.data.width then 1 else 0),
    (if pos.y < 0 then 1 else 0) - (if pos.y ≥ world.data.height then 1 else 0)⟩

def isSolid : Material → Bool
  | .dirt | .sand | .wood | .metal | .root => true
  | .air | .leaf | .seed | .wall | .water => false

/-- Whether a cell inside the world stops the body: a wall, a cell of another organism, or dense
solid material that is not its own. -/
def stops (world : OrganismWorld K) (organismId : OrganismId) (pos : Vector2i) : Bool :=
  let cell := world.cellAt pos
  let cellOrg := world.ownerAt pos
  cell.materialType = .wall ||
    (cellOrg ≠ invalidOrganismId && cellOrg ≠ organismId) ||
    (isSolid cell.materialType && cell.fillRatio > 4 / 5 && cellOrg ≠ organismId)

/-- The contribution of a predicted cell to the contact normal; `none` when it is free. -/
def obstruction (world : OrganismWorld K) (organismId : OrganismId) (reference pos : Vector2i) :
    Option (Vector2 K) :=
  if ¬ world.InBounds pos then some (outsideNormal world pos)
  else if stops world organismId pos then some (boundaryCrossedNormal reference pos)
  else none

def detect (world : OrganismWorld K) (organismId : OrganismId)
    (currentCells predictedCells : List Vector2i) : CollisionResult K :=
  let reference := currentRef currentCells
  let normals := predictedCells.filterMap (obstruction world organismId reference)
  let normalSum : Vector2 K := normals.foldl (· + ·) 0
  let len := normalSum.mag
  { blocked := normals ≠ []
    blockedCells := predictedCells.filter fun pos =>
      (obstruction world organismId reference pos).isSome
    contactNormal := if normals ≠ [] ∧ len > 1 / 10000 then normalSum.divide len else 0 }

def respond (collision : CollisionResult K) (velocity : Vector2 K) (restitution : K) :
    Vector2 K :=
  let normal := collision.contactNormal
  if collision.blocked = false ∨ normal = 0 then velocity
  else
    let vIntoSurface := velocity.x * normal.x + velocity.y * normal.y
    if vIntoSurface ≥ 0 then velocity
    else
      let impulse := -vIntoSurface * (1 + restitution)
      ⟨velocity.x + impulse * normal.x, velocity.y + impulse * normal.y⟩

/-- What one ground cell contributes: whether it counts as a contact, and its support. -/
def supportOf (cell : Cell K) : K :=
  match cell.materialType with
  | .wall | .metal | .wood | .dirt | .sand | .seed | .root => 1
  | .water => 1 / 2 * cell.fillRatio
  | .leaf => 3 / 10 * cell.fillRatio
  | .air => 0

/-- The contacts and the support under one cell added up; `none` at the edge of the world. -/
def addSupport (world : OrganismWorld K) (organismId : OrganismId) (gravityDir : Vector2i)
    (sums : ℕ × K) (pos : Vector2i) : Option (ℕ × K) :=
  let groundPos := pos + gravityDir
  if ¬ world.InBounds groundPos then none
  else if (world.cellAt groundPos).isEmpty || world.ownerAt groundPos = organismId then some sums
  else some (sums.1 + 1, sums.2 + supportOf (world.cellAt groundPos))

/-- The force the ground holds the body up with; the gravity direction is vertical. -/
def computeSupportForce (world : OrganismWorld K) (organismId : OrganismId)
    (currentCells : List Vector2i) (weight : K) (gravityDir : Vector2i) : Vector2 K :=
  if currentCells = [] ∨ weight < 1 / 10000 then 0
  else
    match currentCells.foldlM (addSupport world organismId gravityDir) (0, 0) with
    | none => ⟨-gravityDir.x * weight, -gravityDir.y * weight⟩
    | some (contactCount, supportFraction) =>
        if contactCount = 0 then 0
        else
          let share := min (supportFraction / contactCount) 1
          let normalized := if share > 1 / 2 then 1 else share
          let magnitude := weight * normalized
          ⟨-gravityDir.x * magnitude, -gravityDir.y * magnitude⟩

/-- The material under a cell, a wall at the edge of the world; `none` for an empty or own cell. -/
def groundMaterial (world : OrganismWorld K) (organismId : OrganismId) (pos : Vector2i) :
    Option Material :=
  let groundPos := pos + ⟨0, 1⟩
  if ¬ world.InBounds groundPos then some .wall
  else if (world.cellAt groundPos).isEmpty || world.ownerAt groundPos = organismId then none
  else some (world.cellAt groundPos).materialType

def average (materials : List Material) (property : Material.ContactProperties K → K) : K :=
  (materials.map fun material => property (Material.getContactProperties material)).sum /
    materials.length

/-- Friction against the horizontal motion, with a smooth passage from static to kinetic. -/
def computeGroundFriction (world : OrganismWorld K) (organismId : OrganismId)
    (currentCells : List Vector2i) (velocity : Vector2 K) (normalForce : K) : Vector2 K :=
  let tangentialSpeed := |velocity.x|
  let groundMaterials := currentCells.filterMap (groundMaterial world organismId)
  if normalForce < 1 / 100 ∨ currentCells = [] ∨ tangentialSpeed < 1 / 1000000 ∨
      groundMaterials = [] then 0
  else
    let staticFriction := average groundMaterials (·.staticFrictionCoefficient)
    let kineticFriction := average groundMaterials (·.kineticFrictionCoefficient)
    let stickVelocity := average groundMaterials (·.stickVelocity)
    let transitionWidth := average groundMaterials (·.frictionTransitionWidth)
    let t := min (max ((tangentialSpeed - stickVelocity) / transitionWidth) 0) 1
    let smoothT := t * t * (3 - 2 * t)
    let frictionCoefficient :=
      if tangentialSpeed ≥ stickVelocity then
        staticFriction * (1 - smoothT) + kineticFriction * smoothT
      else staticFriction
    let frictionMagnitude := frictionCoefficient * normalForce
    ⟨(if velocity.x > 0 then -1 else 1) * frictionMagnitude, 0⟩

end RigidBodyCollisionComponent

/-- The component of one body. -/
structure RigidBodyComponent (K : Type) where
  physics : RigidBodyPhysicsComponent K
  projection : LocalShapeProjection K

/-- What one update returns and writes through its references. -/
structure RigidBodyUpdate (K : Type) where
  component : RigidBodyComponent K
  world : OrganismWorld K
  position : Vector2 K
  velocity : Vector2 K
  onGround : Bool
  occupiedCells : List Vector2i

namespace RigidBodyComponent

open RigidBodyCollisionComponent

def new (material : Material) : RigidBodyComponent K :=
  { physics := { pendingForce := 0, material := material }, projection := {} }

def addCell (component : RigidBodyComponent K) (localPos : Vector2i) (material : Material)
    (fillRatio : K) : RigidBodyComponent K :=
  { component with projection := component.projection.addCell localPos material fillRatio }

/-- A coordinate kept inside its cell, off the borders by the margin. -/
def clampInCell (coordinate margin : K) : K :=
  let cellMin := (floor coordinate : K) + margin
  let cellMax := ((floor coordinate + 1 : ℤ) : K) - margin
  min (max coordinate cellMin) cellMax

/-- The position of a blocked body: unchanged, or clamped along the axes of the contact. -/
def clampPosition (contactNormal position : Vector2 K) (verticalMargin : K) : Vector2 K :=
  ⟨if contactNormal.x ≠ 0 then clampInCell position.x (1 / 100) else position.x,
    if contactNormal.y ≠ 0 then clampInCell position.y verticalMargin else position.y⟩

def gatherForces (component : RigidBodyComponent K) (id : OrganismId) (velocity : Vector2 K)
    (mass : K) (currentCells : List Vector2i) (world : OrganismWorld K)
    (externalForce : Vector2 K) : RigidBodyPhysicsComponent K × Bool :=
  let weight := mass * |world.gravity|
  let gravityDir : Vector2i := ⟨0, if world.gravity ≥ 0 then 1 else -1⟩
  let supportForce := computeSupportForce world id currentCells weight gravityDir
  let supportMagnitude := |supportForce.x| + |supportForce.y|
  let frictionForce := computeGroundFriction world id currentCells velocity supportMagnitude
  let forces := ((component.physics.addForce ⟨0, mass * world.gravity⟩).addForce
    supportForce).addForce frictionForce
  let pushed := if externalForce ≠ 0 then forces.addForce externalForce else forces
  (pushed.applyAirResistance world velocity, supportMagnitude > 1 / 100)

/-- Where a step ends: at the desired position, or clamped in its cells when that is blocked. -/
def moveBody (world : OrganismWorld K) (id : OrganismId) (position velocity : Vector2 K)
    (localShape : List (LocalCell K)) (deltaTime verticalMargin : K) : Vector2 K × Vector2 K :=
  let desiredPosition : Vector2 K :=
    ⟨position.x + velocity.x * deltaTime, position.y + velocity.y * deltaTime⟩
  let collisionResult := detect world id (gridCells localShape position)
    (gridCells localShape desiredPosition)
  if collisionResult.blocked then
    (clampPosition collisionResult.contactNormal position verticalMargin,
      respond collisionResult velocity 0)
  else (desiredPosition, velocity)

/-- One step of a body: forces, motion, projection. The source clears the projection once more
before it projects; the second time there is nothing left to clear. -/
def update (component : RigidBodyComponent K) (id : OrganismId) (position velocity : Vector2 K)
    (mass : K) (localShape : List (LocalCell K)) (world : OrganismWorld K) (deltaTime : K)
    (externalForce : Vector2 K) (verticalMargin : K) : Option (RigidBodyUpdate K) :=
  let currentCells := gridCells localShape position
  let (physics, onGround) :=
    component.gatherForces id velocity mass currentCells world externalForce
  let (position, velocity) := moveBody world id position (physics.integrate velocity mass deltaTime)
    localShape deltaTime verticalMargin
  let world := component.projection.clearWorld world
  (component.projection.cleared.project world id position velocity).map fun (projection, world) =>
    { component := { physics := physics.clearPendingForce, projection := projection }
      world := world, position := position, velocity := velocity, onGround := onGround
      occupiedCells := projection.occupiedCells }

end RigidBodyComponent

/-- What a rigid-body organism keeps beside what the organism manager keeps of it. -/
structure RigidOrganism (K : Type) where
  velocity : Vector2 K
  mass : K
  localShape : List (LocalCell K)
  occupiedCells : List Vector2i
  rigidBody : RigidBodyComponent K

/-- The world and its rigid-body organisms. -/
structure RigidWorld (K : Type) where
  world : OrganismWorld K
  bodies : Dict OrganismId (RigidOrganism K)

namespace Organism.Body

def place (body : Body K) : Vector2 K := ⟨body.position.1, body.position.2⟩

def sync (position : Vector2 K) (occupiedCells : List Vector2i) (body : Body K) : Body K :=
  { body with position := (position.x, position.y), cells := occupiedCells.toFinset }

end Organism.Body

/-- The arguments of one update of a body. `std::clamp` is defined for margins up to a half only;
the callers pass 0.01 and 0.25. -/
structure RigidCall (K : Type) [Field K] [LinearOrder K] where
  id : OrganismId
  velocity : Vector2 K
  mass : K
  deltaTime : K
  externalForce : Vector2 K
  verticalMargin : K
  verticalMargin_le : verticalMargin ≤ 1 / 2

namespace RigidWorld

/-- The world after an organism has copied its position and its cells from the result. -/
def syncWorld (id : OrganismId) (result : RigidBodyUpdate K) : OrganismWorld K :=
  { result.world with
    organismManager := { result.world.organismManager with
      organisms := result.world.organismManager.organisms.modify id
        (Organism.Body.sync result.position result.occupiedCells) } }

def syncOrganism (organism : RigidOrganism K) (mass : K) (result : RigidBodyUpdate K) :
    RigidOrganism K :=
  { organism with
    velocity := result.velocity, mass := mass
    occupiedCells := result.occupiedCells, rigidBody := result.component }

/-- An organism updates its rigid body and copies the result. The organism's own velocity and
mass are those of the call. `none` for an unknown organism or a failed assertion. -/
def update (state : RigidWorld K) (call : RigidCall K) : Option (RigidWorld K) := do
  let organism ← state.bodies.lookup call.id
  let body ← state.world.organismManager.getOrganism call.id
  let result ← organism.rigidBody.update call.id body.place call.velocity call.mass
    organism.localShape state.world call.deltaTime call.externalForce call.verticalMargin
  return {
    world := syncWorld call.id result
    bodies := state.bodies.insert call.id (syncOrganism organism call.mass result) }

end RigidWorld

end DirtSim
