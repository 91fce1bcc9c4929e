import DirtSim.Physics.WholeOrganisms
import DirtSim.Water.MacProjectionWaterSim

/-! # Replacing the material of a cell

Material that is put into an occupied cell displaces what is there, with its organism, into a cell
nearby that belongs to no organism. Where none is found, what was in the cell is lost. Positions are
integers here; in the source a step beyond the largest coordinate leads to a negative one, and
neither is a cell.
-/

namespace DirtSim

open Foundation

variable {K : Type*} {F : Type} [Field K] [LinearOrder K]

def Cell.filled (material : Material) : Cell K :=
  { blank with materialType := material, fillRatio := 1 }

namespace World

def hasOrganism (world : World K F) (pos : Vector2i) : Bool := world.organismManager.hasOrganism pos

def noteExternalMutation (world : World K F) (pos : Vector2i) : World K F :=
  { world with
    regionActivityTracker :=
      world.regionActivityTracker.noteWakeAtCell pos.x pos.y .externalMutation }

section

/-! ## The search -/

/-- The neighbour found so far, as a step from the position. -/
structure BestNeighbor (K : Type*) where
  bestDir : Vector2i
  bestScore : K
  bestFill : K

def considerNeighbor (world : World K F) (pos : Vector2i) (best : BestNeighbor K)
    (dir : Vector2i) : BestNeighbor K :=
  let neighborPos := pos + dir
  if !world.isValidCell neighborPos then best
  else if world.hasOrganism neighborPos then best
  else
    let cell := world.cellAt pos
    let neighbor := world.cellAt neighborPos
    let comScore := cell.com.x * dir.x + cell.com.y * dir.y
    if neighbor.isEmpty then
      if comScore > best.bestScore ∨ best.bestFill > 1 / 2 then
        { bestDir := dir, bestScore := comScore, bestFill := 0 }
      else best
    else if best.bestFill > 1 / 2 ∧ neighbor.fillRatio < best.bestFill then
      { bestDir := dir, bestScore := comScore, bestFill := neighbor.fillRatio }
    else best

def directions : List Vector2i := [⟨1, 0⟩, ⟨-1, 0⟩, ⟨0, 1⟩, ⟨0, -1⟩]

def ringDirections (radius : ℤ) : List Vector2i :=
  (between (-radius) radius).flatMap fun dy =>
    ((between (-radius) radius).filter fun dx => |dx| = radius ∨ |dy| = radius).map fun dx =>
      ⟨dx, dy⟩

def BestNeighbor.start : BestNeighbor K := { bestDir := ⟨0, 0⟩, bestScore := -999, bestFill := 2 }

def findNeighbor (world : World K F) (pos : Vector2i) : BestNeighbor K :=
  let beside := directions.foldl (world.considerNeighbor pos) .start
  if beside.bestFill > 1 / 2 then
    (between 2 4).foldl
      (fun best radius => (ringDirections radius).foldl (world.considerNeighbor pos) best) beside
  else beside

end

section

/-! ## The replacement -/

variable [Coordinate F]

def swapCells (world : World K F) (pos1 pos2 : Vector2i) : Option (World K F) :=
  if !world.isValidCell pos1 || !world.isValidCell pos2 then some world
  else
    let swapped :=
      ((world.setCell pos1 (world.cellAt pos2)).setCell pos2 (world.cellAt pos1)
        |>.noteExternalMutation pos1).noteExternalMutation pos2
    if world.hasOrganism pos1 || world.hasOrganism pos2 then
      (swapped.organismManager.swapOrganisms pos1 pos2).map fun manager =>
        { swapped with organismManager := manager }
    else some swapped

def removeOrganismFromWorld (world : World K F) (id : OrganismId) : World K F :=
  match world.organismManager.getOrganism id with
  | none => world
  | some body =>
      { world with
        data :=
          { world.data with
            toGrid := world.data.mapCells fun x y cell =>
              if ⟨x, y⟩ ∈ body.cells then Cell.blank else cell }
        organismManager := world.organismManager.removeOrganism id }

/-- Without a neighbour to displace into, the material is lost, and so is its organism. -/
def overwriteInPlace (world : World K F) (pos : Vector2i) (material : Material) : World K F :=
  let freed :=
    if world.hasOrganism pos then
      world.removeOrganismFromWorld (world.organismManager.organismAt pos)
    else world
  freed.setCell pos (.filled material)

/-- What is in the cell goes to a neighbour. Aborts when that belongs to an organism. -/
def displaceInto (world : World K F) (pos : Vector2i) (material : Material)
    (emptyPos : Vector2i) : Option (World K F) :=
  if world.hasOrganism emptyPos then none
  else
    (world.swapCells emptyPos pos).map fun swapped =>
      ((swapped.setCell pos (.filled material)).noteExternalMutation pos).noteExternalMutation
        emptyPos

/-- Any material but air, where water is a material like the others. Aborts when an organism owns
an empty cell or one of the same material. -/
def replaceInCells (world : World K F) (pos : Vector2i) (material : Material) :
    Option (World K F) :=
  let cell := world.cellAt pos
  if cell.isEmpty ∨ cell.materialType = material then
    if world.hasOrganism pos then none
    else some ((world.setCell pos (.filled material)).noteExternalMutation pos)
  else
    let best := world.findNeighbor pos
    if best.bestDir = ⟨0, 0⟩ then some (world.overwriteInPlace pos material)
    else world.displaceInto pos material (pos + best.bestDir)

end

end World

section

/-! ## With the water layer -/

/-- The world with its layer of water, which the legacy mode does without. -/
structure WateredWorld (K : Type*) (F : Type) where
  world : World K F
  waterVolume : Option (Grid K)

namespace WateredWorld

def usesWaterLayer (state : WateredWorld K F) : Bool :=
  state.world.physicsSettings.waterSimMode = .macProjection

def syncToSettings (state : WateredWorld K F) : WateredWorld K F :=
  let width := state.world.data.width
  let height := state.world.data.height
  let fresh := Grid.generate width height fun _ _ => (0 : K)
  match state.world.physicsSettings.waterSimMode, state.waterVolume with
  | .legacyCell, _ => { state with waterVolume := none }
  | .macProjection, none => { state with waterVolume := some fresh }
  | .macProjection, some volume =>
      { state with
        waterVolume := some (if volume.width = width ∧ volume.height = height then volume else fresh) }

def noteExternalMutation (state : WateredWorld K F) (pos : Vector2i) : WateredWorld K F :=
  { state with world := state.world.noteExternalMutation pos }

def clearCellAtPosition (state : WateredWorld K F) (pos : Vector2i) : WateredWorld K F :=
  if !state.world.isValidCell pos then state
  else if state.world.hasOrganism pos then state
  else
    let synced := if state.usesWaterLayer then state.syncToSettings else state
    let changed := state.usesWaterLayer &&
      synced.waterVolume.any fun volume => valueAt volume pos > 0
    let drained :=
      if changed then
        { synced with waterVolume := synced.waterVolume.map (Grid.set · pos.x pos.y 0) }
      else synced
    if (state.world.cellAt pos).isEmpty then
      if changed then drained.noteExternalMutation pos else drained
    else
      { drained with world := drained.world.setCell pos .blank }.noteExternalMutation pos

/-- Water goes into the layer, unless an organism or a solid is in the way. -/
def replaceByWater (state : WateredWorld K F) (pos : Vector2i) : WateredWorld K F :=
  if state.world.hasOrganism pos then state
  else
    let synced := state.syncToSettings
    if MacProjectionWaterSim.solidMask state.world.data pos then synced
    else
      { synced with waterVolume := synced.waterVolume.map (Grid.set · pos.x pos.y 1) }
        |>.noteExternalMutation pos

variable [Coordinate F]

def replaceMaterialAtCell (state : WateredWorld K F) (pos : Vector2i) (material : Material) :
    Option (WateredWorld K F) :=
  if !state.world.isValidCell pos then some state
  else if material = .air then some (state.clearCellAtPosition pos)
  else if material = .water ∧ state.usesWaterLayer then some (state.replaceByWater pos)
  else (state.world.replaceInCells pos material).map fun world => { state with world := world }

end WateredWorld

end

end DirtSim
