import DirtSim.Core.Cell
import DirtSim.Grid.CellBitmap

/-! # The grid cache

The cache of empty cells, walls and neighbourhoods is built in a single pass, and by separate passes
in the comparison path. Both build the same cache, and it says what looking at the cells would say
(`GridOfCells.caches_agree`).
-/

namespace DirtSim

open Foundation

/-- Nine materials of four bits each. -/
structure MaterialNeighborhood where
  data : BitVec 64
deriving DecidableEq, Repr

namespace MaterialNeighborhood

/-- A value that numbers no material is not an enumerator; the source casts it all the same. -/
def getMaterialByBitPos (neighborhood : MaterialNeighborhood) (bitPos : ℕ) : Option Material :=
  Material.ofNumber ((neighborhood.data >>> (4 * bitPos)) &&& 0xF#64).toNat

def getMaterial (neighborhood : MaterialNeighborhood) (dx dy : ℤ) : Option Material :=
  neighborhood.getMaterialByBitPos (bitPosition dx dy)

def countMaterial (neighborhood : MaterialNeighborhood) (material : Material) : ℕ :=
  ([0, 1, 2, 3, 5, 6, 7, 8].filter fun i =>
    neighborhood.getMaterialByBitPos i = some material).length

end MaterialNeighborhood

variable {K : Type*} [Field K] [LinearOrder K]

def CellArray.at (cells : CellArray K) (x y : ℤ) : Cell K := (cells.get? x y).getD .blank

/-- The cache over a world's cells. -/
structure GridOfCells (K : Type*) where
  cells : CellArray K
  emptyCells : CellBitmap
  wallCells : CellBitmap
  emptyNeighborhoods : Grid (BitVec 64)
  materialNeighborhoods : Grid (BitVec 64)

namespace GridOfCells

def materialBits (material : Material) : BitVec 64 := BitVec.ofNat 64 material.number &&& 0xF#64

def populateMaps (grid : GridOfCells K) : GridOfCells K :=
  (Grid.coordinates grid.cells.width grid.cells.height).foldl
    (fun grid (x, y) =>
      let cell := grid.cells.at x y
      { grid with
        emptyCells := if cell.isEmpty then grid.emptyCells.set x y else grid.emptyCells
        wallCells := if cell.isWall then grid.wallCells.set x y else grid.wallCells }) grid

def precomputeEmptyNeighborhoods (grid : GridOfCells K) : GridOfCells K :=
  (Grid.coordinates grid.cells.width grid.cells.height).foldl
    (fun grid (x, y) =>
      { grid with
        emptyNeighborhoods :=
          grid.emptyNeighborhoods.set x y (grid.emptyCells.getNeighborhood3x3 x y).data }) grid

/-- The materials around a cell, with air outside the grid. -/
def packMaterialsOrAir (cells : CellArray K) (x y : ℤ) : BitVec 64 :=
  offsets.foldl
    (fun packed (dx, dy) =>
      let material := if cells.InBounds (x + dx) (y + dy) then
        (cells.at (x + dx) (y + dy)).materialType else .air
      packed ||| materialBits material <<< (4 * bitPosition dx dy)) 0#64

def precomputeMaterialNeighborhoods (grid : GridOfCells K) : GridOfCells K :=
  (Grid.coordinates grid.cells.width grid.cells.height).foldl
    (fun grid (x, y) =>
      { grid with
        materialNeighborhoods :=
          grid.materialNeighborhoods.set x y (packMaterialsOrAir grid.cells x y) }) grid

/-- The emptiness around a cell, read from the cells themselves. -/
def packEmpty (cells : CellArray K) (x y : ℤ) : BitVec 64 :=
  packLayers (fun dx dy => cells.InBounds (x + dx) (y + dy))
    fun dx dy => (cells.at (x + dx) (y + dy)).isEmpty

/-- The materials around a cell; nothing is packed for places outside the grid. -/
def packMaterials (cells : CellArray K) (x y : ℤ) : BitVec 64 :=
  offsets.foldl
    (fun packed (dx, dy) =>
      if cells.InBounds (x + dx) (y + dy) then
        packed ||| materialBits (cells.at (x + dx) (y + dy)).materialType <<<
          (4 * bitPosition dx dy)
      else packed) 0#64

/-- Both bitmaps and both neighbourhoods of one cell. -/
def populateCell (grid : GridOfCells K) (x y : ℤ) : GridOfCells K :=
  let cell := grid.cells.at x y
  { grid with
    emptyCells := if cell.isEmpty then grid.emptyCells.set x y else grid.emptyCells
    wallCells := if cell.isWall then grid.wallCells.set x y else grid.wallCells
    emptyNeighborhoods := grid.emptyNeighborhoods.set x y (packEmpty grid.cells x y)
    materialNeighborhoods := grid.materialNeighborhoods.set x y (packMaterials grid.cells x y) }

def populateAll (grid : GridOfCells K) : GridOfCells K :=
  (Grid.coordinates grid.cells.width grid.cells.height).foldl
    (fun grid (x, y) => grid.populateCell x y) grid

def cleared (cells : CellArray K) : GridOfCells K where
  cells := cells
  emptyCells := .new cells.width cells.height
  wallCells := .new cells.width cells.height
  emptyNeighborhoods := .generate cells.width cells.height fun _ _ => 0#64
  materialNeighborhoods := .generate cells.width cells.height fun _ _ => 0#64

def new (cells : CellArray K) : GridOfCells K := (cleared cells).populateAll

def rebuildSeparatePasses (grid : GridOfCells K) : GridOfCells K :=
  let reset := { grid with
    emptyCells := .new grid.cells.width grid.cells.height
    wallCells := .new grid.cells.width grid.cells.height
    emptyNeighborhoods := grid.emptyNeighborhoods.mapCells fun _ _ _ => 0#64
    materialNeighborhoods := grid.materialNeighborhoods.mapCells fun _ _ _ => 0#64 }
  reset.populateMaps.precomputeEmptyNeighborhoods.precomputeMaterialNeighborhoods

def getEmptyNeighborhood (grid : GridOfCells K) (x y : ℤ) : Neighborhood3x3 :=
  ⟨(grid.emptyNeighborhoods.get? x y).getD 0#64⟩

def getMaterialNeighborhood (grid : GridOfCells K) (x y : ℤ) : MaterialNeighborhood :=
  ⟨(grid.materialNeighborhoods.get? x y).getD 0#64⟩

def getBlocksX (grid : GridOfCells K) : ℕ := grid.emptyCells.blocks.width

def getBlocksY (grid : GridOfCells K) : ℕ := grid.emptyCells.blocks.height

section

variable (grid : GridOfCells K)

/-! ## Each pass as a pass over one component -/

def mark (property : Cell K → Bool) (cells : CellArray K) (positions : List (ℤ × ℤ))
    (bitmap : CellBitmap) : CellBitmap :=
  positions.foldl (fun bitmap (position : ℤ × ℤ) =>
    if property (cells.at position.1 position.2) then bitmap.set position.1 position.2
    else bitmap) bitmap

def store (word : ℤ → ℤ → BitVec 64) (positions : List (ℤ × ℤ)) (words : Grid (BitVec 64)) :
    Grid (BitVec 64) :=
  positions.foldl (fun words position =>
    words.set position.1 position.2 (word position.1 position.2)) words

theorem foldl_populateCell (positions : List (ℤ × ℤ)) (grid : GridOfCells K) :
    positions.foldl (fun grid (x, y) => grid.populateCell x y) grid =
      { cells := grid.cells
        emptyCells := mark Cell.isEmpty grid.cells positions grid.emptyCells
        wallCells := mark Cell.isWall grid.cells positions grid.wallCells
        emptyNeighborhoods := store (packEmpty grid.cells) positions grid.emptyNeighborhoods
        materialNeighborhoods :=
          store (packMaterials grid.cells) positions grid.materialNeighborhoods } := by
  induction positions generalizing grid with
  | nil => rfl
  | cons position positions ih =>
      rw [List.foldl_cons, ih]
      rfl

theorem populateMaps_eq :
    grid.populateMaps = { grid with
      emptyCells := mark Cell.isEmpty grid.cells
        (Grid.coordinates grid.cells.width grid.cells.height) grid.emptyCells
      wallCells := mark Cell.isWall grid.cells
        (Grid.coordinates grid.cells.width grid.cells.height) grid.wallCells } := by
  unfold populateMaps
  generalize Grid.coordinates grid.cells.width grid.cells.height = positions
  induction positions generalizing grid with
  | nil => rfl
  | cons position positions ih =>
      rw [List.foldl_cons, ih]
      rfl

omit [Field K] [LinearOrder K] in
theorem precomputeEmptyNeighborhoods_eq :
    grid.precomputeEmptyNeighborhoods = { grid with
      emptyNeighborhoods := store
        (fun x y => (grid.emptyCells.getNeighborhood3x3 x y).data)
        (Grid.coordinates grid.cells.width grid.cells.height) grid.emptyNeighborhoods } := by
  unfold precomputeEmptyNeighborhoods
  generalize Grid.coordinates grid.cells.width grid.cells.height = positions
  induction positions generalizing grid with
  | nil => rfl
  | cons position positions ih =>
      rw [List.foldl_cons, ih]
      rfl

omit [LinearOrder K] in
theorem precomputeMaterialNeighborhoods_eq :
    grid.precomputeMaterialNeighborhoods = { grid with
      materialNeighborhoods := store (packMaterialsOrAir grid.cells)
        (Grid.coordinates grid.cells.width grid.cells.height) grid.materialNeighborhoods } := by
  unfold precomputeMaterialNeighborhoods
  generalize Grid.coordinates grid.cells.width grid.cells.height = positions
  induction positions generalizing grid with
  | nil => rfl
  | cons position positions ih =>
      rw [List.foldl_cons, ih]
      rfl

theorem store_coordinates (word : ℤ → ℤ → BitVec 64) (words : Grid (BitVec 64)) :
    store word (Grid.coordinates words.width words.height) words =
      .generate words.width words.height word :=
  Grid.foldl_set_coordinates word words

end

section

variable (cells : CellArray K) {x y : ℤ}

omit [Field K] [LinearOrder K] in
theorem new_inGrid : (CellBitmap.new cells.width cells.height).InGrid x y ↔ cells.InBounds x y := by
  have wide := cells.width_le
  have high := cells.height_le
  unfold CellBitmap.InGrid CellBitmap.new Grid.InBounds
  rw [int16_of_bounds (by omega) (by omega), int16_of_bounds (by omega) (by omega)]
  simp only
  omega

section

omit [LinearOrder K]

theorem mark_inGrid (property : Cell K → Bool) (cells : CellArray K) (positions : List (ℤ × ℤ))
    (bitmap : CellBitmap) :
    (mark property cells positions bitmap).InGrid x y ↔ bitmap.InGrid x y := by
  induction positions generalizing bitmap with
  | nil => exact Iff.rfl
  | cons position positions ih =>
      refine (ih _).trans ?_
      by_cases marked : property (cells.at position.1 position.2) = true
      · simp only [marked, ↓reduceIte]
        exact Iff.rfl
      · simp [marked]

theorem isSet_mark (property : Cell K → Bool) (cells : CellArray K) (inside : cells.InBounds x y) :
    (mark property cells (Grid.coordinates cells.width cells.height)
      (.new cells.width cells.height)).isSet x y = property (cells.at x y) := by
  have wide := cells.width_le
  have high := cells.height_le
  have covered : (CellBitmap.new cells.width cells.height).Covered :=
    CellBitmap.new_covered (by omega) (by omega)
  have member : (x, y) ∈ Grid.coordinates cells.width cells.height :=
    Grid.mem_coordinates.mpr inside
  unfold mark
  rw [CellBitmap.isSet_foldl_set (fun x y => property (cells.at x y)) _ covered
    fun cell listed => (new_inGrid cells).mpr (Grid.mem_coordinates.mp listed),
    CellBitmap.isSet_new]
  simp [member]

end

theorem packLayers_congr {valid valid' value value' : ℤ → ℤ → Bool}
    (same : ∀ dx dy, valid dx dy = valid' dx dy)
    (agree : ∀ dx dy, valid dx dy = true → value dx dy = value' dx dy) :
    packLayers valid value = packLayers valid' value' := by
  have valid_eq : valid = valid' := funext fun dx => funext fun dy => same dx dy
  subst valid_eq
  rw [packLayers_eq, packLayers_eq]
  congr 1
  funext result offset
  unfold layerBits
  by_cases inside : valid offset.1 offset.2 = true
  · rw [agree _ _ inside]
  · simp [inside]

theorem getNeighborhood3x3_mark (x y : ℤ) :
    ((mark Cell.isEmpty cells (Grid.coordinates cells.width cells.height)
      (.new cells.width cells.height)).getNeighborhood3x3 x y).data = packEmpty cells x y := by
  rw [CellBitmap.getNeighborhood3x3_eq]
  unfold CellBitmap.slowNeighborhood packEmpty
  have bounds : ∀ x y, (mark Cell.isEmpty cells (Grid.coordinates cells.width cells.height)
      (.new cells.width cells.height)).InGrid x y ↔ cells.InBounds x y := by
    intro x y
    rw [mark_inGrid, new_inGrid]
  simp only
  refine packLayers_congr (fun dx dy => ?_) fun dx dy valid => ?_
  · simp [bounds]
  · rw [decide_eq_true_eq, bounds] at valid
    exact isSet_mark Cell.isEmpty cells valid

omit [LinearOrder K] in
theorem packMaterials_eq (x y : ℤ) : packMaterials cells x y = packMaterialsOrAir cells x y := by
  unfold packMaterials packMaterialsOrAir
  congr 1
  funext packed offset
  obtain ⟨dx, dy⟩ := offset
  by_cases inside : cells.InBounds (x + dx) (y + dy)
  · simp [inside]
  · have air : materialBits .air = 0#64 := by decide
    simp [inside, air]

def direct (cells : CellArray K) : GridOfCells K where
  cells := cells
  emptyCells := mark Cell.isEmpty cells (Grid.coordinates cells.width cells.height)
    (.new cells.width cells.height)
  wallCells := mark Cell.isWall cells (Grid.coordinates cells.width cells.height)
    (.new cells.width cells.height)
  emptyNeighborhoods := .generate cells.width cells.height (packEmpty cells)
  materialNeighborhoods := .generate cells.width cells.height (packMaterials cells)

theorem new_eq_direct : new cells = direct cells := by
  unfold new populateAll
  rw [foldl_populateCell]
  unfold direct
  congr 1
  · exact store_coordinates (packEmpty cells) (cleared cells).emptyNeighborhoods
  · exact store_coordinates (packMaterials cells) (cleared cells).materialNeighborhoods

theorem rebuildSeparatePasses_eq_direct {grid : GridOfCells K}
    (width : grid.emptyNeighborhoods.width = grid.cells.width)
    (height : grid.emptyNeighborhoods.height = grid.cells.height)
    (width' : grid.materialNeighborhoods.width = grid.cells.width)
    (height' : grid.materialNeighborhoods.height = grid.cells.height) :
    grid.rebuildSeparatePasses = direct grid.cells := by
  unfold rebuildSeparatePasses
  simp only [populateMaps_eq, precomputeEmptyNeighborhoods_eq, precomputeMaterialNeighborhoods_eq,
    getNeighborhood3x3_mark]
  unfold direct
  congr 1
  · rw [← width, ← height]
    exact store_coordinates _ (grid.emptyNeighborhoods.mapCells fun _ _ _ => 0#64)
  · rw [← width', ← height', funext fun x => funext fun y => packMaterials_eq grid.cells x y]
    exact store_coordinates _ (grid.materialNeighborhoods.mapCells fun _ _ _ => 0#64)

omit [LinearOrder K] in
theorem getMaterial_packMaterialsOrAir (x y : ℤ) {dx dy : ℤ} (member : (dx, dy) ∈ offsets) :
    (MaterialNeighborhood.mk (packMaterialsOrAir cells x y)).getMaterial dx dy =
      some (if cells.InBounds (x + dx) (y + dy) then
        (cells.at (x + dx) (y + dy)).materialType else .air) := by
  let material : ℤ × ℤ → Material := fun offset =>
    if cells.InBounds (x + offset.1) (y + offset.2) then
      (cells.at (x + offset.1) (y + offset.2)).materialType else .air
  have packed : packMaterialsOrAir cells x y = offsets.foldl (fun word offset =>
      word ||| BitVec.ofNat 64 (material offset).number <<<
        (4 * bitPosition offset.1 offset.2)) 0#64 := by
    unfold packMaterialsOrAir
    congr 1
    funext word offset
    obtain ⟨dx, dy⟩ := offset
    have whole : ∀ material : Material, materialBits material = BitVec.ofNat 64 material.number := by
      intro material
      cases material <;> decide
    simp [whole, material]
  have stored := @Bits.field_foldl_or (ℤ × ℤ) 64 4
    (fun offset => (material offset).number)
    (fun offset => bitPosition offset.1 offset.2) offsets
    (fun offset _ => (material offset).number_lt)
    (fun offset listed => by have := bitPosition_lt listed; omega) _ member
    (fun other listed same => by rw [bitPosition_inj listed member same])
  unfold MaterialNeighborhood.getMaterial MaterialNeighborhood.getMaterialByBitPos
  rw [packed]
  refine (congrArg Material.ofNumber stored).trans ?_
  exact Material.ofNumber_number _

theorem getMaterialNeighborhood_new {cells : CellArray K} (inside : cells.InBounds x y) :
    (new cells).getMaterialNeighborhood x y = ⟨packMaterialsOrAir cells x y⟩ := by
  have region : 0 ≤ x ∧ 0 ≤ y ∧ x < (cells.width : ℤ) ∧ y < (cells.height : ℤ) := inside
  rw [new_eq_direct, ← packMaterials_eq]
  unfold getMaterialNeighborhood direct
  rw [Grid.get?_generate, if_pos region]
  rfl

/-- **The cache is right.** Both ways of building it build the same one; for every cell of the
grid and every offset it says whether the neighbour exists, whether it is empty, and what it is
made of; and a neighbourhood taken from one block at once is the one read cell by cell. -/
theorem caches_agree (cells : CellArray K) :
    (new cells).rebuildSeparatePasses = new cells ∧
    (∀ x y dx dy, cells.InBounds x y → (dx, dy) ∈ offsets →
      ((new cells).getEmptyNeighborhood x y).isValidAt dx dy =
          decide (cells.InBounds (x + dx) (y + dy)) ∧
      ((new cells).getEmptyNeighborhood x y).getAt dx dy =
          (decide (cells.InBounds (x + dx) (y + dy)) &&
            (cells.at (x + dx) (y + dy)).isEmpty) ∧
      ((new cells).getMaterialNeighborhood x y).getMaterial dx dy =
          some (if cells.InBounds (x + dx) (y + dy) then
            (cells.at (x + dx) (y + dy)).materialType else .air)) ∧
    ∀ (bitmap : CellBitmap) (x y : ℤ), bitmap.FitsOneBlock x y →
      CellBitmap.fastNeighborhood (bitmap.getBlock (x / 8) (y / 8)) (x % 8) (y % 8) =
        bitmap.slowNeighborhood x y := by
  refine ⟨?_, ?_, fun bitmap x y fits => bitmap.fastNeighborhood_eq fits⟩
  · rw [new_eq_direct]
    exact rebuildSeparatePasses_eq_direct rfl rfl rfl rfl
  · intro x y dx dy inside member
    have region : 0 ≤ x ∧ 0 ≤ y ∧ x < (cells.width : ℤ) ∧ y < (cells.height : ℤ) := inside
    have empty : (new cells).getEmptyNeighborhood x y = ⟨packEmpty cells x y⟩ := by
      rw [new_eq_direct]
      unfold getEmptyNeighborhood direct
      rw [Grid.get?_generate, if_pos region]
      rfl
    rw [empty, getMaterialNeighborhood_new inside]
    refine ⟨?_, ?_, getMaterial_packMaterialsOrAir cells x y member⟩
    · unfold Neighborhood3x3.isValidAt
      rw [BitVec.getLsbD_ushiftRight, Nat.add_zero]
      exact getLsbD_packLayers_valid _ _ member
    · unfold Neighborhood3x3.getAt
      rw [BitVec.getLsbD_ushiftRight, Nat.add_zero]
      exact getLsbD_packLayers_value _ _ member

end

end GridOfCells

end DirtSim
