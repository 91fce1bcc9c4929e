import DirtSim.Core.VectorSums
import DirtSim.Grid.Positions
import DirtSim.Physics.MaterialProperties
import DirtSim.Physics.World

/-! # Friction between cells

The friction on a contact follows from the force that presses the cells together, their slip and
their materials, but takes away no more than the slip. It is added up by one loop over all pairs
(`accumulateFrictionForces`), or from a list of contacts.
-/

namespace DirtSim

open Foundation

namespace WorldFrictionCalculator

variable {K : Type*} [Field K] [LinearOrder K]

def minNormalForce : K := 1 / 100

def minTangentialSpeed : K := 1 / 1000000

def calculateTangentialSlipCancellationForce (cellA cellB : Cell K)
    (tangentialSpeed deltaTime : K) : K :=
  if deltaTime ≤ 0 then 0
  else
    let effectiveMass :=
      if cellA.isWall ∧ ¬ cellB.isWall then cellB.getMass
      else if ¬ cellA.isWall ∧ cellB.isWall then cellA.getMass
      else
        let combinedMass := cellA.getMass + cellB.getMass
        if combinedMass > 0 then cellA.getMass * cellB.getMass / combinedMass else 0
    if effectiveMass ≤ 0 then 0 else effectiveMass * tangentialSpeed / deltaTime

/-- The force that presses two cells together: the excess pressure of the first, and the weight of
the upper one. -/
def calculateNormalForce (gravity : K) (cellA cellB : Cell K) (interfaceNormal : Vector2 K) : K :=
  let pressureDifference := cellA.pressure - cellB.pressure
  let fromPressure := if pressureDifference > 0 then pressureDifference * cellA.fillRatio else 0
  if interfaceNormal.y > 1 / 2 then fromPressure + cellA.getMass * gravity
  else if interfaceNormal.y < -(1 / 2) then fromPressure + cellB.getMass * gravity
  else fromPressure

def calculateTangentialVelocity (relativeVelocity interfaceNormal : Vector2 K) : Vector2 K :=
  let normalComponent := relativeVelocity.dot interfaceNormal
  relativeVelocity - interfaceNormal.times normalComponent

variable [Analytic K]

def calculateFrictionCoefficient (tangentialSpeed : K)
    (propsA propsB : Material.ContactProperties K) : K :=
  let staticFriction :=
    Analytic.sqrt (propsA.staticFrictionCoefficient * propsB.staticFrictionCoefficient)
  let kineticFriction :=
    Analytic.sqrt (propsA.kineticFrictionCoefficient * propsB.kineticFrictionCoefficient)
  let stickVelocity := (propsA.stickVelocity + propsB.stickVelocity) / 2
  let transitionWidth := (propsA.frictionTransitionWidth + propsB.frictionTransitionWidth) / 2
  if tangentialSpeed < stickVelocity then staticFriction
  else
    let t := (tangentialSpeed - stickVelocity) / transitionWidth
    let t := if t < 0 then 0 else t
    let t := if t > 1 then 1 else t
    let smoothT := t * t * (3 - 2 * t)
    staticFriction * (1 - smoothT) + kineticFriction * smoothT

/-- Two cells that touch. -/
structure ContactInterface (K : Type*) where
  cellAPos : Vector2i
  cellBPos : Vector2i
  /-- From the first cell to the second. -/
  interfaceNormal : Vector2 K
  contactArea : K
  normalForce : K
  relativeVelocity : Vector2 K
  tangentialVelocity : Vector2 K
  frictionCoefficient : K

def offsets : List Vector2i :=
  [-1, 0, 1].flatMap fun dx => [-1, 0, 1].map fun dy => ⟨dx, dy⟩

variable (cells : CellArray K)

/-- Empty cells, walls and fluids are not the first cell of a contact. -/
def skipsFirst (cellA : Cell K) : Bool :=
  cellA.isEmpty || cellA.isWall || (Material.getProperties (K := K) cellA.materialType).isFluid

def skipsSecond (cellB : Cell K) : Bool :=
  cellB.isEmpty || (Material.getProperties (K := K) cellB.materialType).isFluid

/-- A pair of cells is looked at once, from the left or from above. -/
def skipsPair (pos offset : Vector2i) : Prop :=
  let next := pos + offset
  (offset.x = 0 ∧ offset.y = 0) ∨ (offset.x ≠ 0 ∧ offset.y ≠ 0) ∨ next.x < pos.x ∨
    (next.x = pos.x ∧ next.y ≤ pos.y) ∨ ¬ cells.InBounds next.x next.y

instance (pos offset : Vector2i) : Decidable (skipsPair cells pos offset) :=
  inferInstanceAs (Decidable (_ ∨ _))

def addForce (debug : Grid (Vector2 K)) (pos : Vector2i) (force : Vector2 K) : Grid (Vector2 K) :=
  debug.set pos.x pos.y ((debug.get? pos.x pos.y).getD 0 + force)

variable (gravity frictionStrength deltaTime : K)

/-! ## One loop -/

def accumulatePair (pos : Vector2i) (debug : Grid (Vector2 K)) (offset : Vector2i) :
    Grid (Vector2 K) :=
  if skipsPair cells pos offset then debug
  else
    let next := pos + offset
    let cellA := cells.cellAt pos
    let cellB := cells.cellAt next
    if skipsSecond cellB then debug
    else
      let interfaceNormal : Vector2 K := (offset.toVector2 (K := K)).normalize
      let normalForce := calculateNormalForce gravity cellA cellB interfaceNormal
      if normalForce < minNormalForce then debug
      else
        let relativeVelocity := cellA.velocity - cellB.velocity
        let tangentialVelocity := calculateTangentialVelocity relativeVelocity interfaceNormal
        let tangentialSpeed := tangentialVelocity.mag
        if tangentialSpeed < minTangentialSpeed then debug
        else
          let frictionCoefficient := calculateFrictionCoefficient tangentialSpeed
            cellA.materialType.getContactProperties cellB.materialType.getContactProperties
          let coulombForceMagnitude := frictionCoefficient * normalForce * frictionStrength
          let cancellationForceMagnitude :=
            calculateTangentialSlipCancellationForce cellA cellB tangentialSpeed deltaTime
          let magnitude := min coulombForceMagnitude cancellationForceMagnitude
          if magnitude ≤ 0 then debug
          else
            let frictionDirection := tangentialVelocity.normalize.times (-1)
            let force := frictionDirection.times magnitude
            addForce (addForce debug pos force) next (-force)

def accumulateCell (debug : Grid (Vector2 K)) (pos : Vector2i) : Grid (Vector2 K) :=
  if skipsFirst (cells.cellAt pos) then debug
  else offsets.foldl (accumulatePair cells gravity frictionStrength deltaTime pos) debug

def accumulateFrictionForces (debug : Grid (Vector2 K)) : Grid (Vector2 K) :=
  (Vector2i.positions cells.width cells.height).foldl (accumulateCell cells gravity frictionStrength deltaTime) debug

/-! ## By contacts -/

def detectPair (pos : Vector2i) (contacts : List (ContactInterface K)) (offset : Vector2i) :
    List (ContactInterface K) :=
  let cellA := cells.cellAt pos
  if skipsPair cells pos offset then contacts
  else
    let next := pos + offset
    let cellB := cells.cellAt next
    if skipsSecond cellB then contacts
    else
      let interfaceNormal : Vector2 K := (offset.toVector2 (K := K)).normalize
      let contactArea := if |offset.x| + |offset.y| = 1 then 1 else 707 / 1000
      let normalForce := calculateNormalForce gravity cellA cellB interfaceNormal
      if normalForce < minNormalForce then contacts
      else
        let relativeVelocity := cellA.velocity - cellB.velocity
        let tangentialVelocity := calculateTangentialVelocity relativeVelocity interfaceNormal
        let tangentialSpeed := tangentialVelocity.mag
        if tangentialSpeed < minTangentialSpeed then contacts
        else
          contacts ++ [{
            cellAPos := pos
            cellBPos := next
            interfaceNormal := interfaceNormal
            contactArea := contactArea
            normalForce := normalForce
            relativeVelocity := relativeVelocity
            tangentialVelocity := tangentialVelocity
            frictionCoefficient := calculateFrictionCoefficient tangentialSpeed
              cellA.materialType.getContactProperties cellB.materialType.getContactProperties }]

def detectCell (contacts : List (ContactInterface K)) (pos : Vector2i) :
    List (ContactInterface K) :=
  if skipsFirst (cells.cellAt pos) then contacts
  else offsets.foldl (detectPair cells gravity pos) contacts

def detectContactInterfaces : List (ContactInterface K) :=
  (Vector2i.positions cells.width cells.height).foldl (detectCell cells gravity) []

/-- One contact. Without a force it is passed over. -/
def accumulateContact (debug : Grid (Vector2 K)) (contact : ContactInterface K) :
    Grid (Vector2 K) :=
  let coulombForceMagnitude :=
    contact.frictionCoefficient * contact.normalForce * frictionStrength
  let cancellationForceMagnitude := calculateTangentialSlipCancellationForce
    (cells.cellAt contact.cellAPos) (cells.cellAt contact.cellBPos)
    contact.tangentialVelocity.mag deltaTime
  let magnitude := min coulombForceMagnitude cancellationForceMagnitude
  if magnitude ≤ 0 then debug
  else
    let frictionDirection := contact.tangentialVelocity.normalize.times (-1)
    let force := frictionDirection.times magnitude
    addForce (addForce debug contact.cellAPos force) contact.cellBPos (-force)

def accumulateFrictionFromContacts (contacts : List (ContactInterface K))
    (debug : Grid (Vector2 K)) : Grid (Vector2 K) :=
  contacts.foldl (accumulateContact cells frictionStrength deltaTime) debug

def cleared : Grid (Vector2 K) := Grid.generate cells.width cells.height fun _ _ => 0

end WorldFrictionCalculator

end DirtSim
