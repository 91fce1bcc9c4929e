import DirtSim.Foundation.Transition
import DirtSim.Organisms.OrganismManager
import DirtSim.Physics.CellMatter

/-! # Arrays with one entry for each cell

The cells, their debug information, the organism grid and the pressure buffers are resized by
different calls. All have the size of the world as long as every document loaded has as many cells
(`World.sized_of_reachable`). Vectors are lists; a frame may do any writes to entries that are
there.
-/

namespace DirtSim.PerCell

open Foundation

def resize {α : Type} (size : ℕ) (fresh : α) (values : List α) : List α :=
  values.take size ++ List.replicate (size - values.length) fresh

theorem length_resize {α : Type} (size : ℕ) (fresh : α) (values : List α) :
    (resize size fresh values).length = size := by
  unfold resize
  rw [List.length_append, List.length_take, List.length_replicate]
  omega

variable {K : Type} [Field K] [LinearOrder K] [Coordinate K]

section

/-- The counters that each frame resets. -/
structure CellDebug (K : Type) where
  dynamic_pressure_reflection_injection_amount : K
  dynamic_pressure_reflection_injection_count : UInt16
  dynamic_pressure_target_injection_amount : K
  dynamic_pressure_target_injection_count : UInt16
  excess_move_pressure_injection_amount : K
  excess_move_pressure_injection_count : UInt16
  hydrostatic_pressure_injection_amount : K
  hydrostatic_pressure_injection_count : UInt16

def CellDebug.reset : CellDebug K := ⟨0, 0, 0, 0, 0, 0, 0, 0⟩

structure WorldData (K : Type) where
  width : ℕ
  height : ℕ
  cells : List (Cell K)
  debug_info : List (CellDebug K)
  timestep : ℤ := 0

namespace WorldData

def InBounds (data : WorldData K) (pos : Vector2i) : Prop :=
  0 ≤ pos.x ∧ 0 ≤ pos.y ∧ pos.x < data.width ∧ pos.y < data.height

instance (data : WorldData K) (pos : Vector2i) : Decidable (data.InBounds pos) :=
  inferInstanceAs (Decidable (_ ∧ _ ∧ _ ∧ _))

def cellCount (data : WorldData K) : ℕ := data.width * data.height

def at? (data : WorldData K) (pos : Vector2i) : Option (Cell K) :=
  if data.InBounds pos then data.cells[pos.y.toNat * data.width + pos.x.toNat]? else none

def changeCells (data : WorldData K) (positions : Finset Vector2i)
    (change : Vector2i → Cell K → Cell K) : WorldData K :=
  { data with
    cells := data.cells.mapIdx fun i cell =>
      let pos : Vector2i := ⟨(i % data.width : ℕ), (i / data.width : ℕ)⟩
      if pos ∈ positions then change pos cell else cell }

end WorldData

end

namespace WorldInterpolationTool

def bilinearInterpolateDouble (val00 val10 val01 val11 fx fy : K) : K :=
  val00 * (1 - fx) * (1 - fy) + val10 * fx * (1 - fy) + val01 * (1 - fx) * fy + val11 * fx * fy

def bilinearInterpolateVector2d (val00 val10 val01 val11 : Vector2 K) (fx fy : K) : Vector2 K :=
  ⟨bilinearInterpolateDouble val00.x val10.x val01.x val11.x fx fy,
    bilinearInterpolateDouble val00.y val10.y val01.y val11.y fx fy⟩

def interpolateMaterialType (m00 m10 m01 m11 : Material) (fx fy : K) : Material :=
  if fx < 1 / 2 ∧ fy < 1 / 2 then m00
  else if ¬ fx < 1 / 2 ∧ fy < 1 / 2 then m10
  else if fx < 1 / 2 ∧ ¬ fy < 1 / 2 then m01
  else m11

def bestCorner (corners : List (Cell K)) : Option Material × K :=
  corners.foldl (fun best corner =>
    if corner.materialType ≠ .air ∧ corner.fillRatio > best.2 then
      (some corner.materialType, corner.fillRatio)
    else best) (none, 0)

def createInterpolatedCellB (cell00 cell10 cell01 cell11 : Cell K) (fx fy : K) : Cell K :=
  let materialType := interpolateMaterialType cell00.materialType cell10.materialType
    cell01.materialType cell11.materialType fx fy
  let fillRatio := bilinearInterpolateDouble cell00.fillRatio cell10.fillRatio cell01.fillRatio
    cell11.fillRatio fx fy
  let fixed : Material × K :=
    if materialType = .air ∧ fillRatio > Cell.minFillThreshold then
      match (bestCorner [cell00, cell10, cell01, cell11]).1 with
      | some material => (material, fillRatio)
      | none => (materialType, 0)
    else (materialType, fillRatio)
  let com := bilinearInterpolateVector2d cell00.com cell10.com cell01.com cell11.com fx fy
  let velocity := bilinearInterpolateVector2d cell00.velocity cell10.velocity cell01.velocity
    cell11.velocity fx fy
  { ({ Cell.blank with
      materialType := fixed.1, fillRatio := max 0 (min 1 fixed.2) } : Cell K).setCOM com with
    velocity := velocity }

def source (new newSize oldSize : ℕ) : K :=
  let src := ((new : K) + 1 / 2) * ((oldSize : K) / (newSize : K)) - 1 / 2
  let low := if new = 0 then min src (49 / 100) else src
  if new + 1 = newSize then max low ((oldSize : K) - 1 + 1 / 100) else low

def clampToGrid (coordinate : ℤ) (size : ℕ) : ℕ := (max 0 (min ((size : ℤ) - 1) coordinate)).toNat

def interpolatedCell (oldCells : List (Cell K))
    (oldWidth oldHeight newWidth newHeight newX newY : ℕ) : Cell K :=
  let srcX : K := source newX newWidth oldWidth
  let srcY : K := source newY newHeight oldHeight
  let srcX0 := Coordinate.floor srcX
  let srcY0 := Coordinate.floor srcY
  let old (x y : ℤ) : Cell K :=
    oldCells.getD (clampToGrid y oldHeight * oldWidth + clampToGrid x oldWidth) Cell.blank
  createInterpolatedCellB (old srcX0 srcY0) (old (srcX0 + 1) srcY0) (old srcX0 (srcY0 + 1))
    (old (srcX0 + 1) (srcY0 + 1)) (srcX - srcX0) (srcY - srcY0)

def generateInterpolatedCellsB (oldCells : List (Cell K))
    (oldWidth oldHeight newWidth newHeight : ℕ) : Option (List (Cell K)) :=
  if oldCells = [] ∨ oldCells.length ≠ oldWidth * oldHeight ∨ newWidth = 0 ∨ newHeight = 0 then none
  else
    some ((List.range newHeight).flatMap fun newY => (List.range newWidth).map fun newX =>
      interpolatedCell oldCells oldWidth oldHeight newWidth newHeight newX newY)

end WorldInterpolationTool

structure World (K : Type) where
  data : WorldData K
  organism_manager : OrganismManager K
  dynamic_pressure : List K
  hydrostatic_pressure : List K

/-- A write to an entry of one of the arrays, or to the organisms beside their grid. -/
inductive Write (K : Type)
  | cell (index : ℕ) (cell : Cell K)
  | debug (index : ℕ) (debug : CellDebug K)
  | dynamicPressure (index : ℕ) (pressure : K)
  | hydrostaticPressure (index : ℕ) (pressure : K)
  | owner (pos : Vector2i) (id : OrganismId)
  | organisms (organisms : Dict OrganismId (Organism.Body K)) (nextId : OrganismId)

/-- What happens in a frame besides what is the same in all frames. -/
structure Frame (K : Type) where
  scaledDeltaTime : K
  beforePressure : List (Write K)
  beforeForces : List (Write K)
  afterForces : List (Write K)

namespace World

variable {before after : World K}

section

def construct (width height : ℕ) : World K where
  data :=
    { width := width
      height := height
      cells := (resize (width * height) (Cell.blank : Cell K) []).map fun _ => Cell.blank
      debug_info := resize (width * height) (CellDebug.reset : CellDebug K) [] }
  organism_manager := ({} : OrganismManager K).resizeGrid width height
  dynamic_pressure := []
  hydrostatic_pressure := []

/-- The anchor's cell with the center of mass that is stored there. -/
def continuousPosition (data : WorldData K) (body : Organism.Body K) : K × K :=
  let anchor := body.getAnchorCell
  let com : Vector2 K := match data.at? anchor with
    | some cell => cell.com
    | none => 0
  (anchor.x + (com.x + 1) / 2, anchor.y + (com.y + 1) / 2)

/-- All organisms' cells become wood in the new grid; assertions abort outside of it. -/
def reproject (organisms : List ((_ : OrganismId) × Organism.Body K)) (data : WorldData K) :
    Option (WorldData K) :=
  if ∃ entry ∈ organisms, ∃ pos ∈ entry.2.cells, ¬ data.InBounds pos then none
  else
    some (organisms.foldl (fun data entry =>
      data.changeCells entry.2.cells fun pos _ =>
        let wood : Cell K := { Cell.blank with materialType := .wood, fillRatio := 1 }
        if pos = entry.2.getAnchorCell then
          { wood with com := ⟨entry.2.centerOfMass.1, entry.2.centerOfMass.2⟩ }
        else wood) data)

/-- The resize keeps the world if its dimensions stay; assertions abort the program. -/
def resizeGrid (world : World K) (newWidth newHeight : ℕ) : Option (World K) :=
  if world.data.width = newWidth ∧ world.data.height = newHeight then some world
  else
    let captured := world.organism_manager.organisms.mapValues fun _ body =>
      { body with position := continuousPosition world.data body }
    let cleared := captured.entries.foldl (fun data entry =>
      data.changeCells entry.2.cells fun _ _ => Cell.blank) world.data
    match WorldInterpolationTool.generateInterpolatedCellsB cleared.cells world.data.width
      world.data.height newWidth newHeight with
    | none => none
    | some interpolatedCells =>
        let data : WorldData K :=
          { cleared with
            width := newWidth
            height := newHeight
            cells := interpolatedCells
            debug_info := resize (newWidth * newHeight) CellDebug.reset cleared.debug_info }
        let manager :=
          { world.organism_manager with organisms := captured }.resizeGrid newWidth newHeight
        (reproject manager.organisms.entries data).map fun reprojected =>
          { world with data := reprojected, organism_manager := manager }

def toJSON (world : World K) : WorldData K := world.data

/-- Loading a document replaces the data, and nothing else that has an entry for each cell. -/
def fromJSON (world : World K) (doc : WorldData K) : World K := { world with data := doc }

def ensurePressureBuffers (world : World K) : World K :=
  if world.dynamic_pressure.length = world.data.cellCount ∧
      world.hydrostatic_pressure.length = world.data.cellCount then world
  else
    { world with
      dynamic_pressure := (List.range world.data.cellCount).map fun i =>
        (world.data.cells.getD i Cell.blank).pressure
      hydrostatic_pressure :=
        (resize world.data.cellCount 0 world.hydrostatic_pressure).map fun _ => 0 }

def beginPressureFrame (world : World K) : World K :=
  let ensured := world.ensurePressureBuffers
  { ensured with hydrostatic_pressure := ensured.hydrostatic_pressure.map fun _ => 0 }

/-- The loop that clears pending forces: cell by cell it asks the organism grid who owns the cell.
`none` when the grid ends before the cells. -/
def clearPendingForces : List (Cell K) → List OrganismId → Option (List (Cell K))
  | [], _ => some []
  | _ :: _, [] => none
  | cell :: cells, owner :: owners =>
      (clearPendingForces cells owners).map fun rest =>
        (if owner = invalidOrganismId then { cell with pendingForce := 0 } else cell) :: rest

def write (world : World K) : Write K → World K
  | .cell index cell =>
      { world with data := { world.data with cells := world.data.cells.set index cell } }
  | .debug index debug =>
      { world with
        data := { world.data with debug_info := world.data.debug_info.set index debug } }
  | .dynamicPressure index pressure =>
      let ensured := world.ensurePressureBuffers
      { ensured with dynamic_pressure := ensured.dynamic_pressure.set index pressure }
  | .hydrostaticPressure index pressure =>
      let ensured := world.ensurePressureBuffers
      { ensured with hydrostatic_pressure := ensured.hydrostatic_pressure.set index pressure }
  | .owner pos id =>
      { world with organism_manager := world.organism_manager.setOrganismAt pos id }
  | .organisms organisms nextId =>
      { world with
        organism_manager :=
          { world.organism_manager with organisms := organisms, nextId := nextId } }

def advanceTime (world : World K) (frame : Frame K) : Option (World K) :=
  if frame.scaledDeltaTime = 0 then some world
  else
    let moved := frame.beforePressure.foldl write world
    let reset := { moved with
      data := { moved.data with debug_info := moved.data.debug_info.map fun _ => CellDebug.reset } }
    let pressed := frame.beforeForces.foldl write reset.beginPressureFrame
    match clearPendingForces pressed.data.cells pressed.organism_manager.grid.cells with
    | none => none
    | some cells =>
        let cleared := { pressed with data := { pressed.data with cells := cells } }
        let settled := frame.afterForces.foldl write cleared
        some { settled with data := { settled.data with timestep := settled.data.timestep + 1 } }

end

section

/-- The world's data have as many cells and debug entries as the world. -/
structure Stored (data : WorldData K) : Prop where
  cells : data.cells.length = data.cellCount
  debug_info : data.debug_info.length = data.cellCount

structure Sized (world : World K) : Prop extends Stored world.data where
  grid : world.organism_manager.grid.cells.length = world.data.cellCount

structure PressureSized (world : World K) : Prop where
  dynamic_pressure : world.dynamic_pressure.length = world.data.cellCount
  hydrostatic_pressure : world.hydrostatic_pressure.length = world.data.cellCount

inductive Operation (K : Type)
  | resizeGrid (newWidth newHeight : ℕ)
  | fromJSON (doc : WorldData K)
  | advanceTime (frame : Frame K)

inductive Performs (world : World K) : Operation K → World K → Prop
  | resizeGrid {newWidth newHeight : ℕ} {after : World K}
      (resized : world.resizeGrid newWidth newHeight = some after) :
      Performs world (.resizeGrid newWidth newHeight) after
  | fromJSON {source : World K} (stored : Stored source.data) :
      Performs world (.fromJSON source.toJSON) (world.fromJSON source.toJSON)
  | advanceTime {frame : Frame K} {after : World K}
      (advanced : world.advanceTime frame = some after) :
      Performs world (.advanceTime frame) after

def machine (K : Type) [Field K] [LinearOrder K] [Coordinate K] : Machine (Operation K) (World K)
    where
  initial world := ∃ width height, world = construct width height
  step := Performs

/-- A document that is loaded has as many cells as the world. -/
def Fits (world : World K) : Operation K → Prop
  | .fromJSON doc => doc.cellCount = world.data.cellCount
  | _ => True

end

section

variable (world : World K)

omit [LinearOrder K] [Coordinate K]

/-- The dimensions of the world and the sizes of what it keeps for every cell. -/
structure Shape where
  width : ℕ
  height : ℕ
  cells : ℕ
  debug_info : ℕ
  grid : ℕ

def shape (world : World K) : Shape where
  width := world.data.width
  height := world.data.height
  cells := world.data.cells.length
  debug_info := world.data.debug_info.length
  grid := world.organism_manager.grid.cells.length

omit [Field K] in
theorem Stored.of_shape (same : after.shape = before.shape) (stored : Stored before.data) :
    Stored after.data := by
  obtain ⟨width, height, cells, debug, _⟩ := Shape.mk.inj same
  refine ⟨?_, ?_⟩
  · rw [cells, stored.cells, WorldData.cellCount, WorldData.cellCount, width, height]
  · rw [debug, stored.debug_info, WorldData.cellCount, WorldData.cellCount, width, height]

omit [Field K] in
theorem Sized.of_shape (same : after.shape = before.shape) (sized : Sized before) :
    Sized after := by
  obtain ⟨width, height, _, _, grid⟩ := Shape.mk.inj same
  refine ⟨sized.toStored.of_shape same, ?_⟩
  rw [grid, sized.grid, WorldData.cellCount, WorldData.cellCount, width, height]

theorem ensurePressureBuffers_data : world.ensurePressureBuffers.data = world.data := by
  unfold ensurePressureBuffers
  split <;> rfl

theorem ensurePressureBuffers_organism_manager :
    world.ensurePressureBuffers.organism_manager = world.organism_manager := by
  unfold ensurePressureBuffers
  split <;> rfl

theorem shape_ensurePressureBuffers : world.ensurePressureBuffers.shape = world.shape := by
  unfold shape
  rw [ensurePressureBuffers_data, ensurePressureBuffers_organism_manager]

theorem pressureSized_ensurePressureBuffers : PressureSized world.ensurePressureBuffers := by
  unfold ensurePressureBuffers
  split
  case isTrue fitting => exact ⟨fitting.1, fitting.2⟩
  case isFalse =>
    refine ⟨?_, ?_⟩
    · exact (List.length_map _).trans List.length_range
    · exact (List.length_map _).trans (length_resize _ _ _)

theorem shape_write (change : Write K) : (world.write change).shape = world.shape := by
  cases change with
  | cell index cell => simp [write, shape]
  | debug index debug => simp [write, shape]
  | dynamicPressure index pressure => exact shape_ensurePressureBuffers world
  | hydrostaticPressure index pressure => exact shape_ensurePressureBuffers world
  | owner pos id =>
      have kept : (world.organism_manager.grid.set pos.x pos.y id).cells.length =
          world.organism_manager.grid.cells.length := by
        unfold Grid.set
        split
        case isTrue => exact List.length_set
        case isFalse => rfl
      simp [write, shape, OrganismManager.setOrganismAt, kept]
  | organisms organisms nextId => rfl

theorem PressureSized.write {world : World K} (sized : PressureSized world) (change : Write K) :
    PressureSized (world.write change) := by
  cases change with
  | cell index cell => exact ⟨sized.dynamic_pressure, sized.hydrostatic_pressure⟩
  | debug index debug => exact ⟨sized.dynamic_pressure, sized.hydrostatic_pressure⟩
  | dynamicPressure index pressure =>
      have fitted := pressureSized_ensurePressureBuffers world
      exact ⟨List.length_set.trans fitted.dynamic_pressure, fitted.hydrostatic_pressure⟩
  | hydrostaticPressure index pressure =>
      have fitted := pressureSized_ensurePressureBuffers world
      exact ⟨fitted.dynamic_pressure, List.length_set.trans fitted.hydrostatic_pressure⟩
  | owner pos id => exact ⟨sized.dynamic_pressure, sized.hydrostatic_pressure⟩
  | organisms organisms nextId => exact ⟨sized.dynamic_pressure, sized.hydrostatic_pressure⟩

theorem shape_writes (changes : List (Write K)) (world : World K) :
    (changes.foldl write world).shape = world.shape := by
  induction changes generalizing world with
  | nil => rfl
  | cons change changes ih => exact (ih _).trans (shape_write world change)

theorem PressureSized.writes (changes : List (Write K)) {world : World K}
    (sized : PressureSized world) : PressureSized (changes.foldl World.write world) := by
  induction changes generalizing world with
  | nil => exact sized
  | cons change changes ih => exact ih (sized.write change)

theorem pressureSized_beginPressureFrame : PressureSized world.beginPressureFrame := by
  have fitted := pressureSized_ensurePressureBuffers world
  exact ⟨fitted.dynamic_pressure, (List.length_map _).trans fitted.hydrostatic_pressure⟩

end

section

theorem length_generateInterpolatedCellsB {oldCells cells : List (Cell K)}
    {oldWidth oldHeight newWidth newHeight : ℕ}
    (generated : WorldInterpolationTool.generateInterpolatedCellsB oldCells oldWidth oldHeight
      newWidth newHeight = some cells) : cells.length = newWidth * newHeight := by
  unfold WorldInterpolationTool.generateInterpolatedCellsB at generated
  split at generated
  case isTrue => exact absurd generated nofun
  case isFalse =>
    cases generated
    simp only [List.length_flatMap, List.length_map, List.length_range, List.map_const',
      List.sum_replicate, smul_eq_mul]
    exact Nat.mul_comm _ _

/-- What drawing over the cells leaves as it was. -/
structure Drawn (before after : WorldData K) : Prop where
  width : after.width = before.width
  height : after.height = before.height
  cells : after.cells.length = before.cells.length
  debug_info : after.debug_info = before.debug_info

section

omit [Field K] [LinearOrder K] [Coordinate K]

theorem Drawn.stored {before after : WorldData K} (drawn : Drawn before after)
    (stored : Stored before) : Stored after := by
  have count : after.cellCount = before.cellCount := by
    rw [WorldData.cellCount, WorldData.cellCount, drawn.width, drawn.height]
  exact ⟨drawn.cells.trans (stored.cells.trans count.symm),
    (congrArg _ drawn.debug_info).trans (stored.debug_info.trans count.symm)⟩

theorem drawn_foldl_changeCells (organisms : List ((_ : OrganismId) × Organism.Body K))
    (change : (_ : OrganismId) × Organism.Body K → Vector2i → Cell K → Cell K)
    (data : WorldData K) :
    Drawn data (organisms.foldl (fun data entry =>
      data.changeCells entry.2.cells (change entry)) data) := by
  induction organisms generalizing data with
  | nil => exact ⟨rfl, rfl, rfl, rfl⟩
  | cons entry organisms ih =>
      have drawn := ih (data.changeCells entry.2.cells (change entry))
      exact ⟨drawn.width, drawn.height, drawn.cells.trans List.length_mapIdx, drawn.debug_info⟩

end

omit [LinearOrder K] in
theorem drawn_reproject {organisms : List ((_ : OrganismId) × Organism.Body K)}
    {data after : WorldData K} (reprojected : reproject organisms data = some after) :
    Drawn data after := by
  unfold reproject at reprojected
  split at reprojected
  case isTrue => exact absurd reprojected nofun
  case isFalse =>
    cases reprojected
    exact drawn_foldl_changeCells organisms _ data

omit [Field K] [LinearOrder K] in
theorem length_grid_resizeGrid (manager : OrganismManager K) (newWidth newHeight : ℕ) :
    (manager.resizeGrid newWidth newHeight).grid.cells.length = newWidth * newHeight := by
  have written : ∀ (entries : List ((_ : OrganismId) × Organism.Body K)) (grid : Grid OrganismId),
      (entries.foldl (fun grid entry => OrganismManager.writeCells grid entry.2.cells entry.1)
        grid).cells.length = grid.cells.length := by
    intro entries
    induction entries with
    | nil => exact fun grid => rfl
    | cons entry entries ih => exact fun grid => (ih _).trans List.length_mapIdx
  unfold OrganismManager.resizeGrid
  split
  case isTrue same => rw [Grid.length_cells, same.1, same.2]
  case isFalse => exact (written _ _).trans (Grid.length_cells _)

/-- **A resize fits every array** that it does not leave to the next frame, whatever their sizes
were. -/
theorem sized_resizeGrid {world after : World K} {newWidth newHeight : ℕ}
    (resized : world.resizeGrid newWidth newHeight = some after)
    (changes : ¬ (world.data.width = newWidth ∧ world.data.height = newHeight)) :
    Sized after := by
  unfold resizeGrid at resized
  rw [if_neg changes] at resized
  dsimp only at resized
  split at resized
  case h_1 => exact absurd resized nofun
  case h_2 interpolatedCells generated =>
    obtain ⟨data, reprojected, rfl⟩ := Option.map_eq_some_iff.mp resized
    have drawn := drawn_reproject reprojected
    have count : data.cellCount = newWidth * newHeight := by
      rw [WorldData.cellCount, drawn.width, drawn.height]
    refine ⟨drawn.stored ⟨?_, ?_⟩, ?_⟩
    · exact length_generateInterpolatedCellsB generated
    · exact length_resize _ _ _
    · exact (length_grid_resizeGrid _ newWidth newHeight).trans count.symm

end

section

omit [Coordinate K]

section

omit [LinearOrder K]

theorem clearPendingForces_eq_none_iff (cells : List (Cell K)) (owners : List OrganismId) :
    clearPendingForces cells owners = none ↔ owners.length < cells.length := by
  induction cells generalizing owners with
  | nil => exact ⟨nofun, fun short => absurd short (Nat.not_lt_zero _)⟩
  | cons cell cells ih =>
      cases owners with
      | nil => exact ⟨fun _ => Nat.succ_pos _, fun _ => rfl⟩
      | cons owner owners =>
          rw [clearPendingForces, Option.map_eq_none_iff, ih, List.length_cons, List.length_cons]
          exact Nat.succ_lt_succ_iff.symm

theorem length_clearPendingForces {cells after : List (Cell K)} {owners : List OrganismId}
    (cleared : clearPendingForces cells owners = some after) : after.length = cells.length := by
  induction cells generalizing owners after with
  | nil =>
      cases cleared
      rfl
  | cons cell cells ih =>
      cases owners with
      | nil => exact absurd cleared nofun
      | cons owner owners =>
          obtain ⟨rest, clearedRest, rfl⟩ := Option.map_eq_some_iff.mp cleared
          exact congrArg Nat.succ (ih clearedRest)

end

theorem advanceTime_cases (world : World K) (frame : Frame K) :
    (frame.scaledDeltaTime = 0 ∧ world.advanceTime frame = some world) ∨
      (frame.scaledDeltaTime ≠ 0 ∧ world.shape.grid < world.shape.cells ∧
        world.advanceTime frame = none) ∨
      (frame.scaledDeltaTime ≠ 0 ∧ world.shape.cells ≤ world.shape.grid ∧
        ∃ after, world.advanceTime frame = some after ∧ after.shape = world.shape ∧
          PressureSized after) := by
  by_cases still : frame.scaledDeltaTime = 0
  · exact Or.inl ⟨still, if_pos still⟩
  refine Or.inr ?_
  unfold advanceTime
  rw [if_neg still]
  dsimp only
  set moved := frame.beforePressure.foldl write world with movedIs
  set reset : World K := { moved with
    data := { moved.data with debug_info := moved.data.debug_info.map fun _ => CellDebug.reset } }
    with resetIs
  set pressed := frame.beforeForces.foldl write reset.beginPressureFrame with pressedIs
  have same : pressed.shape = world.shape := by
    calc pressed.shape = reset.beginPressureFrame.shape := shape_writes _ _
      _ = reset.shape := shape_ensurePressureBuffers reset
      _ = moved.shape := by simp [shape, resetIs]
      _ = world.shape := shape_writes _ _
  have fitted : PressureSized pressed :=
    (pressureSized_beginPressureFrame reset).writes frame.beforeForces
  have cells : pressed.data.cells.length = world.shape.cells := congrArg Shape.cells same
  have grid : pressed.organism_manager.grid.cells.length = world.shape.grid :=
    congrArg Shape.grid same
  cases cleared : clearPendingForces pressed.data.cells pressed.organism_manager.grid.cells with
  | none =>
      have short := (clearPendingForces_eq_none_iff _ _).mp cleared
      rw [cells, grid] at short
      exact Or.inl ⟨still, short, rfl⟩
  | some after =>
      have long : world.shape.cells ≤ world.shape.grid := by
        rw [← cells, ← grid]
        refine Nat.le_of_not_lt fun short => ?_
        rw [(clearPendingForces_eq_none_iff _ _).mpr short] at cleared
        exact absurd cleared nofun
      set clearedWorld : World K := { pressed with data := { pressed.data with cells := after } }
        with clearedIs
      have kept : clearedWorld.shape = pressed.shape := by
        simp [shape, clearedIs, length_clearPendingForces cleared]
      have clearedFits : PressureSized clearedWorld :=
        ⟨fitted.dynamic_pressure, fitted.hydrostatic_pressure⟩
      have settled := clearedFits.writes frame.afterForces
      refine Or.inr ⟨still, long, _, rfl, ?_, settled.dynamic_pressure,
        settled.hydrostatic_pressure⟩
      exact (shape_writes frame.afterForces clearedWorld).trans (kept.trans same)

end

section

omit [LinearOrder K] in
theorem sized_construct (width height : ℕ) : Sized (construct width height : World K) where
  cells := (List.length_map _).trans (length_resize _ _ _)
  debug_info := length_resize _ _ _
  grid := length_grid_resizeGrid _ width height

omit [Field K] [LinearOrder K] [Coordinate K] in
theorem sized_fromJSON_iff {world source : World K} (sized : Sized world)
    (stored : Stored source.data) :
    Sized (world.fromJSON source.toJSON) ↔ Fits world (.fromJSON source.toJSON) := by
  constructor
  · exact fun loaded => loaded.grid.symm.trans sized.grid
  · exact fun fits => ⟨stored, sized.grid.trans fits.symm⟩

theorem Sized.step {operation : Operation K} (sized : Sized before)
    (performed : Performs before operation after) (fits : Fits before operation) : Sized after := by
  cases performed with
  | @resizeGrid newWidth newHeight after resized =>
      by_cases unchanged : before.data.width = newWidth ∧ before.data.height = newHeight
      · rw [World.resizeGrid, if_pos unchanged] at resized
        cases resized
        exact sized
      · exact sized_resizeGrid resized unchanged
  | fromJSON stored => exact (sized_fromJSON_iff sized stored).mpr fits
  | @advanceTime frame after advanced =>
      obtain ⟨_, same⟩ | ⟨_, _, failed⟩ | ⟨_, _, next, ended, same, _⟩ :=
        advanceTime_cases before frame
      · obtain rfl := Option.some.inj (same.symm.trans advanced)
        exact sized
      · exact absurd (failed.symm.trans advanced) nofun
      · obtain rfl := Option.some.inj (ended.symm.trans advanced)
        exact sized.of_shape same

/-- **Every array has the size of the world.** As long as every document loaded has as many cells
as the world, all arrays fit and no frame reads past the end of the organism grid, and a frame that
runs leaves pressure buffers that fit. A document with another number of cells breaks this. -/
theorem sized_of_reachable {world : World K}
    (reached : ((machine K).guarded Fits).Reachable world) :
    Sized world ∧
      (∀ frame, ∃ after, world.advanceTime frame = some after ∧
        (frame.scaledDeltaTime ≠ 0 → PressureSized after)) ∧
      ∀ source : World K, Stored source.data →
        (Sized (world.fromJSON source.toJSON) ↔ Fits world (.fromJSON source.toJSON)) := by
  have sized : Sized world := by
    refine reached.invariant ?_ ?_
    · rintro start ⟨width, height, rfl⟩
      exact sized_construct width height
    · rintro before operation after sized ⟨performed, fits⟩
      exact sized.step performed fits
  refine ⟨sized, ?_, fun source stored => sized_fromJSON_iff sized stored⟩
  intro frame
  obtain ⟨still, same⟩ | ⟨_, short, _⟩ | ⟨_, _, after, ended, _, fitted⟩ :=
    advanceTime_cases world frame
  · exact ⟨world, same, fun moving => absurd still moving⟩
  · have even : world.shape.cells = world.shape.grid := sized.cells.trans sized.grid.symm
    omega
  · exact ⟨after, ended, fun _ => fitted⟩

theorem sized_of_reachable_loaded :
    Sized ((construct 2 1 : World ℚ).fromJSON (construct 1 2).toJSON) := by
  refine (sized_of_reachable ⟨construct 2 1, [.fromJSON (construct 1 2 : World ℚ).toJSON],
    ⟨2, 1, rfl⟩, .cons ⟨.fromJSON (sized_construct 1 2).toStored, rfl⟩ (.nil _)⟩).1

/-- Four cells loaded into a world of one, whose organism grid keeps one entry. -/
theorem not_sized_of_reachable :
    ¬ ∀ world : World ℚ, (machine ℚ).Reachable world →
      Sized world ∧ ∀ frame, ∃ after, world.advanceTime frame = some after := by
  intro always
  have loaded := always ((construct 1 1).fromJSON (construct 2 2).toJSON)
    ⟨construct 1 1, [.fromJSON (construct 2 2 : World ℚ).toJSON], ⟨1, 1, rfl⟩,
      .cons (.fromJSON (sized_construct 2 2).toStored) (.nil _)⟩
  obtain ⟨after, advanced⟩ := loaded.2 ⟨1, [], [], []⟩
  obtain ⟨still, _⟩ | ⟨_, _, failed⟩ | ⟨_, long, _⟩ :=
    advanceTime_cases ((construct 1 1 : World ℚ).fromJSON (construct 2 2).toJSON) ⟨1, [], [], []⟩
  · exact absurd still one_ne_zero
  · exact absurd (failed.symm.trans advanced) nofun
  · have cells : ((construct 1 1 : World ℚ).fromJSON (construct 2 2).toJSON).shape.cells = 4 :=
      (sized_construct (K := ℚ) 2 2).cells
    have grid : ((construct 1 1 : World ℚ).fromJSON (construct 2 2).toJSON).shape.grid = 1 :=
      (sized_construct (K := ℚ) 1 1).grid
    omega

end

end World

end DirtSim.PerCell
