import DirtSim.Grid.GridOfCells
import DirtSim.Physics.CellMatter
import DirtSim.Physics.MaterialProperties

/-! # Cohesion and adhesion

Cells of one material pull each other together (`WorldCohesionCalculator`); cells of different
materials stick to each other (`WorldAdhesionCalculator`). Both are calculated from the cells, and
once more from the packed materials of the cache.
-/

namespace DirtSim

namespace Material

def getAdhesion {K : Type*} [Field K] : Material → K
  | air => 0
  | dirt => 3 / 10
  | leaf => 3 / 10
  | metal => 1 / 10
  | root => 6 / 10
  | sand => 1 / 10
  | seed => 3 / 10
  | wall => 5 / 10
  | water => 3 / 10
  | wood => 3 / 10

end Material

def MaterialNeighborhood.read (neighborhood : MaterialNeighborhood) (dx dy : ℤ) : Option Material :=
  let shift := ((dy + 1) * 3 + (dx + 1)) * 4
  if 0 ≤ shift ∧ shift < 64 then neighborhood.getMaterial dx dy else none

variable {K : Type*} [Field K] [LinearOrder K]

def WorldCalculatorBase.minMatterThreshold : K := 1 / 1000

open WorldCalculatorBase

/-- The offsets of a square around a cell, in the order of the loops. -/
def squareOffsets (range : ℕ) : List (ℤ × ℤ) :=
  (List.range (2 * range + 1)).flatMap fun (i : ℕ) =>
    (List.range (2 * range + 1)).map fun (j : ℕ) => ((i : ℤ) - range, (j : ℤ) - range)

namespace WorldCohesionCalculator

structure COMCohesionForce (K : Type*) where
  forceDirection : Vector2 K
  forceMagnitude : K
  centerOfNeighbors : Vector2 K
  activeConnections : ℕ
  totalNeighborMass : K
  cellMass : K
  forceActive : Bool
  resistanceMagnitude : K

/-- What the loop over the neighbours gathers. -/
structure Gathered (K : Type*) where
  neighborCenterSum : Vector2 K
  totalWeight : K
  connectionCount : ℕ

/-! ## The loops -/

def Gathered.nothing : Gathered K := ⟨0, 0, 0⟩

def Gathered.add (gathered : Gathered K) (nx ny : ℤ) (neighbor : Cell K) : Gathered K :=
  let neighborWorldPos : Vector2 K := ⟨nx + neighbor.com.x, ny + neighbor.com.y⟩
  let weight := neighbor.fillRatio
  { neighborCenterSum := gathered.neighborCenterSum + neighborWorldPos.times weight
    totalWeight := gathered.totalWeight + weight
    connectionCount := gathered.connectionCount + 1 }

variable (cells : CellArray K) (x y : ℤ) (range : ℕ)

def gatherStep (gathered : Gathered K) (offset : ℤ × ℤ) : Gathered K :=
  let (dx, dy) := offset
  if dx = 0 ∧ dy = 0 then gathered
  else if dx ≠ 0 ∧ dy ≠ 0 then gathered
  else if cells.InBounds (x + dx) (y + dy) then
    let neighbor := cells.at (x + dx) (y + dy)
    if neighbor.materialType = (cells.at x y).materialType ∧
        neighbor.fillRatio > minMatterThreshold then
      gathered.add (x + dx) (y + dy) neighbor
    else gathered
  else gathered

def gather : Gathered K := (squareOffsets range).foldl (gatherStep cells x y) .nothing

/-- One offset of the loop over the packed materials. -/
def gatherStepCached (materials : MaterialNeighborhood) (gathered : Gathered K)
    (offset : ℤ × ℤ) : Option (Gathered K) :=
  let (dx, dy) := offset
  if dx = 0 ∧ dy = 0 then some gathered
  else if dx ≠ 0 ∧ dy ≠ 0 then some gathered
  else if ¬ cells.InBounds (x + dx) (y + dy) then some gathered
  else
    match materials.read 0 0, materials.read dx dy with
    | some myMaterial, some material =>
        if material = myMaterial then
          some (gathered.add (x + dx) (y + dy) (cells.at (x + dx) (y + dy)))
        else some gathered
    | _, _ => none

def gatherCached (materials : MaterialNeighborhood) : Option (Gathered K) :=
  (squareOffsets range).foldlM (gatherStepCached cells x y materials) .nothing

/-! ## The forces -/

variable [Analytic K] (cell : Cell K) (gathered : Gathered K)

/-- The number of cells in the square around a cell. -/
def maxConnections : K := (2 * range + 1) * (2 * range + 1) - 1

def Connected : Prop := 0 < gathered.connectionCount ∧ gathered.totalWeight > minMatterThreshold

instance : Decidable (Connected gathered) := inferInstanceAs (Decidable (_ ∧ _))

def neighborCenter : Vector2 K :=
  if Connected gathered then gathered.neighborCenterSum.divide gathered.totalWeight else 0

def lengthSq (vector : Vector2 K) : K := vector.x * vector.x + vector.y * vector.y

/-- The strength of the pull of some weight from a distance. -/
def clusteringMagnitude (totalWeight distance : K) : K :=
  let cohesion := (Material.getProperties cell.materialType).cohesion
  let distanceFactor := 1 / (distance + 1 / 10)
  let massFactor := totalWeight / maxConnections range
  min (cohesion * massFactor * distanceFactor * cell.fillRatio) (cohesion * 10)

def clusteringForce : Vector2 K :=
  if Connected gathered then
    let cellWorldPos : Vector2 K := ⟨x + cell.com.x, y + cell.com.y⟩
    let toNeighbors := neighborCenter gathered - cellWorldPos
    let distanceSq := lengthSq toNeighbors
    if distanceSq > 1 / 1000000 then
      let distance := Analytic.sqrt distanceSq
      let clusteringDirection := toNeighbors.times (1 / distance)
      let clusteringMagnitude := clusteringMagnitude range cell gathered.totalWeight distance
      (clusteringDirection.times clusteringMagnitude).times (1 / 2)
    else 0
  else 0

/-- The centre of mass is pulled to the middle when there are neighbours. -/
def Centers : Prop := 0 < gathered.connectionCount ∧ lengthSq cell.com > 1 / 1000000

instance : Decidable (Centers cell gathered) := inferInstanceAs (Decidable (_ ∧ _))

def centeringDirection : Vector2 K :=
  if Centers cell gathered then cell.com.times (-1 / Analytic.sqrt (lengthSq cell.com)) else 0

def centeringForce : Vector2 K :=
  if Centers cell gathered then
    let comOffset := Analytic.sqrt (lengthSq cell.com)
    let connectionFactor := (gathered.connectionCount : K) / maxConnections range
    let centeringMagnitude := (Material.getProperties cell.materialType).cohesion * comOffset *
      cell.fillRatio * connectionFactor
    ((centeringDirection cell gathered).times centeringMagnitude).times 1
  else 0

/-- The pull of the neighbours is compared with the direction to the middle. -/
def ChecksAlignment : Prop :=
  lengthSq (clusteringForce x y range cell gathered) > 1 / 1000000 ∧
    lengthSq cell.com > 1 / 1000000

instance : Decidable (ChecksAlignment x y range cell gathered) :=
  inferInstanceAs (Decidable (_ ∧ _))

def toNeighborsVec : Vector2 K := neighborCenter gathered - ⟨x, y⟩

def finalForce : Vector2 K :=
  let centering := centeringForce range cell gathered
  if ChecksAlignment x y range cell gathered then
    let magSq := lengthSq (toNeighborsVec x y gathered)
    let toNeighbors := (toNeighborsVec x y gathered).times (1 / Analytic.sqrt magSq)
    let alignment := toNeighbors.dot (centeringDirection cell gathered)
    if alignment > 0 then centering + (clusteringForce x y range cell gathered).times alignment
    else centering
  else centering

def forceFrom (totalNeighborMass : K) : COMCohesionForce K :=
  let force := finalForce x y range cell gathered
  { forceDirection := force
    forceMagnitude := Analytic.sqrt (lengthSq force)
    centerOfNeighbors := neighborCenter gathered
    activeConnections := gathered.connectionCount
    totalNeighborMass := totalNeighborMass
    cellMass := cell.getMass
    forceActive := 0 < gathered.connectionCount ∨ lengthSq cell.com > 1 / 1000000
    resistanceMagnitude := (Material.getProperties cell.materialType).cohesion *
      gathered.connectionCount * cell.fillRatio }

def noForce : COMCohesionForce K where
  forceDirection := 0
  forceMagnitude := 0
  centerOfNeighbors := 0
  activeConnections := 0
  totalNeighborMass := 0
  cellMass := 0
  forceActive := false
  resistanceMagnitude := 0

def calculateCOMCohesionForce : COMCohesionForce K :=
  if (cells.at x y).materialType = .air then noForce
  else forceFrom x y range (cells.at x y) (gather cells x y range) 0

def calculateCOMCohesionForceCached (materials : MaterialNeighborhood) :
    Option (COMCohesionForce K) :=
  if (cells.at x y).materialType = .air then some noForce
  else (gatherCached cells x y range materials).map fun gathered =>
    forceFrom x y range (cells.at x y) gathered gathered.totalWeight

end WorldCohesionCalculator

namespace WorldAdhesionCalculator

structure AdhesionForce (K : Type*) where
  forceDirection : Vector2 K
  forceMagnitude : K
  targetMaterial : Material
  contactPoints : ℕ

/-- What the loop over the neighbours adds up. -/
structure Contacts (K : Type*) where
  totalForce : Vector2 K
  contactCount : ℕ
  strongestAttractor : Material
  maxAdhesion : K

variable [Analytic K]

def Contacts.none : Contacts K := ⟨0, 0, .air, 0⟩

/-- The geometric mean of what two materials stick. -/
def mutualAdhesion (first second : Material) : K :=
  Analytic.sqrt (first.getAdhesion * second.getAdhesion)

def distanceWeight (dx dy : ℤ) : K := if |dx| + |dy| = 1 then 1 else 707 / 1000

/-- The force towards a neighbour. The direction is not made a unit vector: the source calls
`normalize` but drops its result. -/
def contactForce (cell neighbor : Cell K) (neighborMaterial : Material) (dx dy : ℤ) : Vector2 K :=
  let direction : Vector2 K := ⟨dx, dy⟩
  let forceStrength := mutualAdhesion cell.materialType neighborMaterial * neighbor.fillRatio *
    cell.fillRatio * distanceWeight dx dy
  direction.times forceStrength

def Contacts.add (contacts : Contacts K) (cell neighbor : Cell K) (neighborMaterial : Material)
    (dx dy : ℤ) : Contacts K :=
  let adhesion := mutualAdhesion cell.materialType neighborMaterial
  { totalForce := contacts.totalForce + contactForce cell neighbor neighborMaterial dx dy
    contactCount := contacts.contactCount + 1
    strongestAttractor :=
      if adhesion > contacts.maxAdhesion then neighborMaterial else contacts.strongestAttractor
    maxAdhesion := if adhesion > contacts.maxAdhesion then adhesion else contacts.maxAdhesion }

variable (cells : CellArray K) (x y : ℤ)

def contactStep (contacts : Contacts K) (offset : ℤ × ℤ) : Contacts K :=
  let (dx, dy) := offset
  if dx = 0 ∧ dy = 0 then contacts
  else if cells.InBounds (x + dx) (y + dy) then
    let cell := cells.at x y
    let neighbor := cells.at (x + dx) (y + dy)
    if neighbor.materialType = cell.materialType ∨ neighbor.materialType = .air then contacts
    else if neighbor.fillRatio > minMatterThreshold then
      contacts.add cell neighbor neighbor.materialType dx dy
    else contacts
  else contacts

/-- One offset of the loop over the packed materials. -/
def contactStepCached (materials : MaterialNeighborhood) (contacts : Contacts K)
    (offset : ℤ × ℤ) : Option (Contacts K) :=
  let (dx, dy) := offset
  if dx = 0 ∧ dy = 0 then some contacts
  else if ¬ cells.InBounds (x + dx) (y + dy) then some contacts
  else
    match materials.read 0 0, materials.read dx dy with
    | some myMaterial, some neighborMaterial =>
        if neighborMaterial = myMaterial ∨ neighborMaterial = .air then some contacts
        else some (contacts.add (cells.at x y) (cells.at (x + dx) (y + dy)) neighborMaterial dx dy)
    | _, _ => none

def forceFrom (contacts : Contacts K) : AdhesionForce K where
  forceDirection := contacts.totalForce
  forceMagnitude := contacts.totalForce.mag
  targetMaterial := contacts.strongestAttractor
  contactPoints := contacts.contactCount

def noForce : AdhesionForce K := ⟨0, 0, .air, 0⟩

def calculateAdhesionForce : AdhesionForce K :=
  if (cells.at x y).isEmpty then noForce
  else forceFrom ((squareOffsets 1).foldl (contactStep cells x y) .none)

def calculateAdhesionForceCached (materials : MaterialNeighborhood) : Option (AdhesionForce K) :=
  if (cells.at x y).isEmpty then some noForce
  else ((squareOffsets 1).foldlM (contactStepCached cells x y materials) .none).map forceFrom

end WorldAdhesionCalculator

end DirtSim
