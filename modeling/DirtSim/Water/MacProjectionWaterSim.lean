import DirtSim.Grid.Neighborhood
import DirtSim.Physics.World

/-! # The water solver

A step pushes the water out of cells that have become solid, moves the velocities on the faces
between the cells, and carries water across the faces, within what the cells have and hold. Numbers
are exact here. The masks and pressure buffers are written in every step before they are read.
-/

namespace DirtSim

open Foundation

variable {K : Type*} [Field K] [LinearOrder K]

def valueAt (field : Grid K) (pos : Vector2i) : K := (field.get? pos.x pos.y).getD 0

namespace MacProjectionWaterSim

/-- The parameters of the solver, as they are set by default. -/
structure Parameters (K : Type*) [Field K] where
  advectionCflLimit : K := 90 / 100
  advectionVolumeEpsilon : K := 1 / 10000
  displacementMaxRadius : ℤ := 8
  fluidMaskVolumeEpsilon : K := 1 / 10000
  pressureIterations : ℤ := 2
  pressureGradientVelocityScale : K := 1
  velocityCflLimit : K := 95 / 100
  velocityDampingPerSecond : K := 5 / 100
  velocitySleepEpsilon : K := 5 / 100000

/-- The faces between cells: left and right of them, or above and below. -/
inductive Axis
  | u | v
deriving DecidableEq, Repr

/-- The cell on the left of a face, or above it. The other one has the coordinates of the face. -/
def Axis.nearCell (axis : Axis) (face : Vector2i) : Vector2i :=
  match axis with
  | .u => ⟨face.x - 1, face.y⟩
  | .v => ⟨face.x, face.y - 1⟩

def Axis.onBoundary (axis : Axis) (width height : ℕ) (face : Vector2i) : Bool :=
  match axis with
  | .u => face.x = 0 ∨ face.x = width
  | .v => face.y = 0 ∨ face.y = height

def Axis.faces (axis : Axis) (width height : ℕ) : List Vector2i :=
  let all := match axis with
    | .u => Grid.coordinates (width + 1) height
    | .v => Grid.coordinates width (height + 1)
  all.map fun (x, y) => ⟨x, y⟩

/-- A cell with some other material than air in it. -/
def solidMask (data : CellArray K) (pos : Vector2i) : Bool :=
  !(data.cellAt pos).isEmpty && (data.cellAt pos).materialType != .air

def besideSolid (data : CellArray K) (axis : Axis) (face : Vector2i) : Bool :=
  solidMask data (axis.nearCell face) || solidMask data face

end MacProjectionWaterSim

open MacProjectionWaterSim

/-- What the solver remembers. -/
structure MacProjectionWaterSim (K : Type*) [Field K] where
  parameters : Parameters K
  waterVolume : Grid K
  uFaceVelocity : Grid K
  vFaceVelocity : Grid K

namespace MacProjectionWaterSim

section

/-! ## Displacement -/

/-- Water on its way out of a solid cell. -/
structure Displacement (K : Type*) where
  waterVolume : Grid K
  remaining : K

def tryDisplace (data : CellArray K) (state : Displacement K) (pos : Vector2i) : Displacement K :=
  if state.remaining ≤ 0 then state
  else if ¬ state.waterVolume.InBounds pos.x pos.y then state
  else if solidMask data pos then state
  else
    let capacity := max 0 (1 - valueAt state.waterVolume pos)
    if capacity ≤ 0 then state
    else
      let transfer := min capacity state.remaining
      { waterVolume :=
          state.waterVolume.set pos.x pos.y (valueAt state.waterVolume pos + transfer)
        remaining := state.remaining - transfer }

def sides (pos : Vector2i) : List Vector2i :=
  [⟨pos.x - 1, pos.y⟩, ⟨pos.x + 1, pos.y⟩, ⟨pos.x, pos.y - 1⟩, ⟨pos.x, pos.y + 1⟩]

/-- The cells tried at one radius: top and bottom row, then the columns between them. -/
def ring (pos : Vector2i) (radius : ℤ) : List Vector2i :=
  ((between (pos.x - radius) (pos.x + radius)).flatMap fun nx =>
    [⟨nx, pos.y - radius⟩, ⟨nx, pos.y + radius⟩]) ++
  (between (pos.y - radius + 1) (pos.y + radius - 1)).flatMap fun ny =>
    [⟨pos.x - radius, ny⟩, ⟨pos.x + radius, ny⟩]

def displaceToRing (data : CellArray K) (pos : Vector2i) (state : Displacement K) (radius : ℤ) :
    Displacement K :=
  if state.remaining > 0 then (ring pos radius).foldl (tryDisplace data) state else state

def displaced (data : CellArray K) (displacementMaxRadius : ℤ) (waterVolume : Grid K)
    (pos : Vector2i) : Displacement K :=
  let lifted : Displacement K :=
    { waterVolume := waterVolume.set pos.x pos.y 0, remaining := valueAt waterVolume pos }
  (between 2 displacementMaxRadius).foldl (displaceToRing data pos)
    ((sides pos).foldl (tryDisplace data) lifted)

/-- The scan that displaces water, with the volume it has seen in the other cells. -/
structure Scan (K : Type*) where
  waterVolume : Grid K
  totalWaterVolume : K

def displaceCell (data : CellArray K) (displacementMaxRadius : ℤ) (scan : Scan K)
    (pos : Vector2i) : Scan K :=
  if solidMask data pos = false then
    { scan with totalWaterVolume := scan.totalWaterVolume + valueAt scan.waterVolume pos }
  else if valueAt scan.waterVolume pos ≤ 0 then scan
  else
    { scan with
      waterVolume := (displaced data displacementMaxRadius scan.waterVolume pos).waterVolume }

def cells (width height : ℕ) : List Vector2i :=
  (Grid.coordinates width height).map fun (x, y) => ⟨x, y⟩

def displace (data : CellArray K) (displacementMaxRadius : ℤ) (waterVolume : Grid K) : Scan K :=
  (cells waterVolume.width waterVolume.height).foldl (displaceCell data displacementMaxRadius)
    { waterVolume := waterVolume, totalWaterVolume := 0 }

end

section

/-! ## Velocities

Every face reads its own old velocity and what was computed before, so that a pass over all faces
of an axis is a map. -/

variable (data : CellArray K) (parameters : Parameters K) (waterVolume : Grid K)

def fluidMask (pos : Vector2i) : Bool :=
  !solidMask data pos && valueAt waterVolume pos > parameters.fluidMaskVolumeEpsilon

def projectionMask (pos : Vector2i) : Bool :=
  if solidMask data pos then false else fluidMask data parameters waterVolume pos

def depthToBottom (x : ℤ) : ℕ → K
  | 0 => if fluidMask data parameters waterVolume ⟨x, 0⟩ then valueAt waterVolume ⟨x, 0⟩ else 0
  | y + 1 =>
      if fluidMask data parameters waterVolume ⟨x, (y : ℤ) + 1⟩ then
        depthToBottom x y + valueAt waterVolume ⟨x, (y : ℤ) + 1⟩
      else 0

def hydroPressure (gravity : K) (pos : Vector2i) : K :=
  if solidMask data pos ∨ fluidMask data parameters waterVolume pos = false then 0
  else gravity * depthToBottom data parameters waterVolume pos.x pos.y.toNat

def addGravity (gravity dt : K) (vFaceVelocity : Grid K) : Grid K :=
  vFaceVelocity.mapCells fun x y velocity =>
    let face : Vector2i := ⟨x, y⟩
    if Axis.v.onBoundary waterVolume.width waterVolume.height face then 0
    else if besideSolid data .v face then 0
    else if fluidMask data parameters waterVolume (Axis.v.nearCell face) = false ∧
      fluidMask data parameters waterVolume face = false then velocity
    else velocity + gravity * dt

def subtractHydroPressure (axis : Axis) (gravity dt : K) (faceVelocity : Grid K) : Grid K :=
  faceVelocity.mapCells fun x y velocity =>
    let face : Vector2i := ⟨x, y⟩
    if axis.onBoundary waterVolume.width waterVolume.height face then velocity
    else if besideSolid data axis face then velocity
    else velocity - dt * (hydroPressure data parameters waterVolume gravity face -
      hydroPressure data parameters waterVolume gravity (axis.nearCell face))

/-- No flow through the boundary or into solid cells. -/
def zeroBlocked (axis : Axis) (faceVelocity : Grid K) : Grid K :=
  faceVelocity.mapCells fun x y velocity =>
    if axis.onBoundary waterVolume.width waterVolume.height ⟨x, y⟩ then 0
    else if besideSolid data axis ⟨x, y⟩ then 0
    else velocity

def divergence (dt : K) (uFaceVelocity vFaceVelocity : Grid K) (pos : Vector2i) : K :=
  if projectionMask data parameters waterVolume pos = false then 0
  else
    let uRight := valueAt uFaceVelocity ⟨pos.x + 1, pos.y⟩
    let uLeft := valueAt uFaceVelocity pos
    let vDown := valueAt vFaceVelocity ⟨pos.x, pos.y + 1⟩
    let vUp := valueAt vFaceVelocity pos
    (uRight - uLeft + vDown - vUp) * (1 / dt)

/-- The sum over the neighbours of a cell and the number of those that are not solid. -/
def visitNeighbor (pressure : Grid K) (visited : K × K) (pos : Vector2i) : K × K :=
  let (sum, denom) := visited
  if ¬ waterVolume.InBounds pos.x pos.y then (sum, denom)
  else if solidMask data pos then (sum, denom)
  else if projectionMask data parameters waterVolume pos then
    (sum + valueAt pressure pos, denom + 1)
  else (sum, denom + 1)

def iterate (divergence : Vector2i → K) (pressure : Grid K) : Grid K :=
  pressure.mapCells fun x y _ =>
    let pos : Vector2i := ⟨x, y⟩
    let (sum, denom) := (sides pos).foldl (visitNeighbor data parameters waterVolume pressure) (0, 0)
    if projectionMask data parameters waterVolume pos = false then 0
    else if denom ≤ 0 then 0
    else (sum - divergence pos) / denom

def subtractGradient (axis : Axis) (dt : K) (pressure faceVelocity : Grid K) : Grid K :=
  faceVelocity.mapCells fun x y velocity =>
    let face : Vector2i := ⟨x, y⟩
    let masked (pos : Vector2i) : K :=
      if projectionMask data parameters waterVolume pos then valueAt pressure pos else 0
    if axis.onBoundary waterVolume.width waterVolume.height face then 0
    else if besideSolid data axis face then 0
    else if projectionMask data parameters waterVolume (axis.nearCell face) = false ∧
      projectionMask data parameters waterVolume face = false then 0
    else velocity - dt * parameters.pressureGradientVelocityScale *
      (masked face - masked (axis.nearCell face))

def limit (dt : K) (faceVelocity : Grid K) : Grid K :=
  let dampingFactor := clamp (1 - parameters.velocityDampingPerSecond * dt) 0 1
  let maxFaceSpeed := parameters.velocityCflLimit / dt
  faceVelocity.mapCells fun _ _ velocity =>
    let limited := clamp (velocity * dampingFactor) (-maxFaceSpeed) maxFaceSpeed
    if |limited| < parameters.velocitySleepEpsilon then 0 else limited

/-- The velocities that carry the water of this step. -/
def moveFaces (gravity dt : K) (uFaceVelocity vFaceVelocity : Grid K) : Axis → Grid K :=
  let pushedV := subtractHydroPressure data parameters waterVolume .v gravity dt
    (addGravity data parameters waterVolume gravity dt vFaceVelocity)
  let pushedU := subtractHydroPressure data parameters waterVolume .u gravity dt uFaceVelocity
  let closedU := zeroBlocked data waterVolume .u pushedU
  let closedV := zeroBlocked data waterVolume .v pushedV
  let flow := divergence data parameters waterVolume dt closedU closedV
  let still := Grid.generate waterVolume.width waterVolume.height fun _ _ => (0 : K)
  let pressure :=
    (iterate data parameters waterVolume flow)^[parameters.pressureIterations.toNat] still
  fun axis =>
    let closed := match axis with
      | .u => closedU
      | .v => closedV
    limit parameters dt (zeroBlocked data waterVolume axis
      (subtractGradient data parameters waterVolume axis dt pressure closed))

end

section

/-! ## Advection -/

/-- Water crosses one face. The volumes of the scratch field change from face to face; what a cell
gives is measured by what it held before all of them. -/
def advectFace (data : CellArray K) (parameters : Parameters K) (dt : K)
    (faceVelocity : Axis → Grid K) (waterVolume : Grid K) (volumeScratch : Grid K)
    (visited : Axis × Vector2i) : Grid K :=
  let (axis, face) := visited
  if besideSolid data axis face then volumeScratch
  else
    let velocity := valueAt (faceVelocity axis) face
    if velocity = 0 then volumeScratch
    else
      let cfl := clamp (velocity * dt) (-parameters.advectionCflLimit) parameters.advectionCflLimit
      if cfl = 0 then volumeScratch
      else
        let donor := if velocity > 0 then axis.nearCell face else face
        let receiver := if velocity > 0 then face else axis.nearCell face
        let donorSourceVol := valueAt waterVolume donor
        let donorAvailable := valueAt volumeScratch donor
        let receiverCapacity := max 0 (1 - valueAt volumeScratch receiver)
        if donorSourceVol ≤ parameters.advectionVolumeEpsilon then volumeScratch
        else if donorAvailable ≤ parameters.advectionVolumeEpsilon then volumeScratch
        else if receiverCapacity ≤ 0 then volumeScratch
        else
          let desired := |cfl| * donorSourceVol
          let transfer := min (min desired donorAvailable) receiverCapacity
          if transfer ≤ 0 then volumeScratch
          else
            let drained := volumeScratch.set donor.x donor.y (donorAvailable - transfer)
            drained.set receiver.x receiver.y (valueAt drained receiver + transfer)

/-- The faces between two cells, first those beside, then those above and below. -/
def innerFaces (width height : ℕ) : List (Axis × Vector2i) :=
  [Axis.u, Axis.v].flatMap fun axis =>
    ((axis.faces width height).filter fun face => !axis.onBoundary width height face).map
      fun face => (axis, face)

def advect (data : CellArray K) (parameters : Parameters K) (dt : K)
    (faceVelocity : Axis → Grid K) (waterVolume : Grid K) : Grid K :=
  (innerFaces waterVolume.width waterVolume.height).foldl
    (advectFace data parameters dt faceVelocity waterVolume) waterVolume

def commit (data : CellArray K) (volumeScratch : Grid K) : Grid K :=
  volumeScratch.mapCells fun x y volume =>
    if solidMask data ⟨x, y⟩ then 0 else clamp volume 0 1

end

def advanceTime (sim : MacProjectionWaterSim K) (data : CellArray K)
    (gravity deltaTimeSeconds : K) : MacProjectionWaterSim K :=
  if sim.waterVolume.width = 0 ∨ sim.waterVolume.height = 0 then sim
  else if deltaTimeSeconds ≤ 0 then sim
  else
    let scan := displace data sim.parameters.displacementMaxRadius sim.waterVolume
    if scan.totalWaterVolume ≤ 0 then
      { sim with
        waterVolume := scan.waterVolume
        uFaceVelocity := sim.uFaceVelocity.mapCells fun _ _ _ => 0
        vFaceVelocity := sim.vFaceVelocity.mapCells fun _ _ _ => 0 }
    else
      let faceVelocity := moveFaces data sim.parameters scan.waterVolume gravity deltaTimeSeconds
        sim.uFaceVelocity sim.vFaceVelocity
      { sim with
        waterVolume := commit data
          (advect data sim.parameters deltaTimeSeconds faceVelocity scan.waterVolume)
        uFaceVelocity := faceVelocity .u
        vFaceVelocity := faceVelocity .v }

end MacProjectionWaterSim

end DirtSim
