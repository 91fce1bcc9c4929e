import DirtSim.Foundation.WeightedMean
import DirtSim.Physics.CellMatter
import Mathlib.Algebra.Order.Floor.Ring

/-! # Resizing the world by interpolation

Each new cell takes its material from the nearest of four old cells and its fill from all four. The
border's coordinates are forced towards the old border, but its fill still comes from the next row
or column where the world shrinks (`WorldInterpolationTool.border_kept_iff`).
-/

namespace DirtSim

open Foundation

variable {K : Type*} [Field K] [LinearOrder K]

namespace WorldInterpolationTool

section

/-! ## Sampling -/

/-- The source coordinate of a new cell, along one axis. -/
def sourceCoordinate (oldSize newSize : ℕ) (newPos : ℤ) : K :=
  let scale : K := oldSize / newSize
  let src := (newPos + 1 / 2) * scale - 1 / 2
  -- New edge cells sample the old edge.
  let src := if newPos = 0 then min src (49 / 100) else src
  if newPos = newSize - 1 then max src (oldSize - 1 + 1 / 100) else src

def clampToGrid (pos : ℤ) (size : ℕ) : ℤ := max 0 (min (size - 1) pos)

/-- The cell of the source at a coordinate pair, which is inside it after clamping. -/
def cellAt (source : Grid (Cell K)) (x y : ℤ) : Cell K := (source.get? x y).getD Cell.blank

/-- The four source cells of a new cell, and where it lies between them. -/
structure Sample (K : Type*) where
  cell00 : Cell K
  cell10 : Cell K
  cell01 : Cell K
  cell11 : Cell K
  fx : K
  fy : K

def bilinearInterpolateDouble (val00 val10 val01 val11 fx fy : K) : K :=
  val00 * (1 - fx) * (1 - fy) + val10 * fx * (1 - fy) + val01 * (1 - fx) * fy + val11 * fx * fy

def bilinearInterpolateVector2d (val00 val10 val01 val11 : Vector2 K) (fx fy : K) : Vector2 K :=
  ⟨bilinearInterpolateDouble val00.x val10.x val01.x val11.x fx fy,
    bilinearInterpolateDouble val00.y val10.y val01.y val11.y fx fy⟩

def interpolateMaterialType (m00 m10 m01 m11 : Material) (fx fy : K) : Material :=
  if fx < 1 / 2 ∧ fy < 1 / 2 then m00
  else if fx ≥ 1 / 2 ∧ fy < 1 / 2 then m10
  else if fx < 1 / 2 ∧ fy ≥ 1 / 2 then m01
  else m11

namespace Sample

def corners (sample : Sample K) : List (Cell K) :=
  [sample.cell00, sample.cell10, sample.cell01, sample.cell11]

def bestCorner (sample : Sample K) : Option (Cell K) :=
  (sample.corners.foldl (fun (best : Option (Cell K) × K) corner =>
    if corner.materialType ≠ .air ∧ corner.fillRatio > best.2 then (some corner, corner.fillRatio)
    else best) (none, 0)).1

def nearestMaterial (sample : Sample K) : Material :=
  interpolateMaterialType sample.cell00.materialType sample.cell10.materialType
    sample.cell01.materialType sample.cell11.materialType sample.fx sample.fy

def fillRatio (sample : Sample K) : K :=
  bilinearInterpolateDouble sample.cell00.fillRatio sample.cell10.fillRatio
    sample.cell01.fillRatio sample.cell11.fillRatio sample.fx sample.fy

def matter (sample : Sample K) : Material × K :=
  if sample.nearestMaterial = .air ∧ sample.fillRatio > Cell.minFillThreshold then
    match sample.bestCorner with
    | some corner => (corner.materialType, sample.fillRatio)
    | none => (.air, 0)
  else (sample.nearestMaterial, sample.fillRatio)

end Sample

def createInterpolatedCellB (sample : Sample K) : Cell K :=
  let com := bilinearInterpolateVector2d sample.cell00.com sample.cell10.com sample.cell01.com
    sample.cell11.com sample.fx sample.fy
  let velocity := bilinearInterpolateVector2d sample.cell00.velocity sample.cell10.velocity
    sample.cell01.velocity sample.cell11.velocity sample.fx sample.fy
  let result : Cell K :=
    { Cell.blank with
      materialType := sample.matter.1, fillRatio := max 0 (min 1 sample.matter.2) }
  (result.setCOM com).withVelocity velocity

variable [FloorRing K]

def sample (source : Grid (Cell K)) (newWidth newHeight : ℕ) (newX newY : ℤ) : Sample K :=
  let srcX : K := sourceCoordinate source.width newWidth newX
  let srcY : K := sourceCoordinate source.height newHeight newY
  let x0 := clampToGrid ⌊srcX⌋ source.width
  let y0 := clampToGrid ⌊srcY⌋ source.height
  let x1 := clampToGrid (⌊srcX⌋ + 1) source.width
  let y1 := clampToGrid (⌊srcY⌋ + 1) source.height
  { cell00 := cellAt source x0 y0
    cell10 := cellAt source x1 y0
    cell01 := cellAt source x0 y1
    cell11 := cellAt source x1 y1
    fx := srcX - ⌊srcX⌋
    fy := srcY - ⌊srcY⌋ }

def generateInterpolatedCellsB (source : Grid (Cell K)) (newWidth newHeight : ℕ) :
    Grid (Cell K) :=
  .generate newWidth newHeight fun newX newY =>
    createInterpolatedCellB (sample source newWidth newHeight newX newY)

end

section

/-! ## One axis -/

variable [FloorRing K]

def Counts (K : Type*) [Field K] [LinearOrder K] [FloorRing K] (oldSize newSize : ℕ)
    (newPos pos : ℤ) : Prop :=
  let src : K := sourceCoordinate oldSize newSize newPos
  pos = clampToGrid ⌊src⌋ oldSize ∨ 0 < src - ⌊src⌋ ∧ pos = clampToGrid (⌊src⌋ + 1) oldSize

def nearest (K : Type*) [Field K] [LinearOrder K] [FloorRing K] (oldSize newSize : ℕ)
    (newPos : ℤ) : ℤ :=
  let src : K := sourceCoordinate oldSize newSize newPos
  if src - ⌊src⌋ < 1 / 2 then clampToGrid ⌊src⌋ oldSize else clampToGrid (⌊src⌋ + 1) oldSize

variable {oldSize newSize : ℕ} {newPos pos : ℤ}

theorem clampToGrid_bounds (positive : 0 < oldSize) (pos : ℤ) :
    0 ≤ clampToGrid pos oldSize ∧ clampToGrid pos oldSize < oldSize := by
  unfold clampToGrid
  omega

theorem clampToGrid_of_inside (low : 0 ≤ pos) (high : pos < oldSize) :
    clampToGrid pos oldSize = pos := by
  unfold clampToGrid
  omega

theorem Counts.bounds (counts : Counts K oldSize newSize newPos pos) (positive : 0 < oldSize) :
    0 ≤ pos ∧ pos < oldSize := by
  rcases counts with rfl | ⟨_, rfl⟩
  · exact clampToGrid_bounds positive _
  · exact clampToGrid_bounds positive _

variable [IsStrictOrderedRing K]

theorem counts_iff (low : 0 < pos) (high : pos < (oldSize : ℤ) - 1) :
    Counts K oldSize newSize newPos pos ↔
      |(sourceCoordinate oldSize newSize newPos : K) - pos| < 1 := by
  unfold Counts
  dsimp only
  set src : K := sourceCoordinate oldSize newSize newPos
  have floor_iff : pos = clampToGrid ⌊src⌋ oldSize ↔ ⌊src⌋ = pos := by
    unfold clampToGrid
    omega
  have next_iff : pos = clampToGrid (⌊src⌋ + 1) oldSize ↔ ⌊src⌋ = pos - 1 := by
    unfold clampToGrid
    omega
  rw [floor_iff, next_iff, abs_lt]
  constructor
  · rintro (at_floor | ⟨fraction, before⟩)
    · obtain ⟨below, above⟩ := Int.floor_eq_iff.mp at_floor
      constructor
      · linarith
      · linarith
    · obtain ⟨below, above⟩ := Int.floor_eq_iff.mp before
      rw [before] at fraction
      push_cast at below above fraction
      constructor
      · linarith
      · linarith
  · intro ⟨below, above⟩
    by_cases reached : (pos : K) ≤ src
    · left
      exact Int.floor_eq_iff.mpr ⟨reached, by linarith⟩
    · right
      have before : ⌊src⌋ = pos - 1 := by
        rw [Int.floor_eq_iff]
        push_cast
        constructor
        · linarith
        · linarith [not_le.mp reached]
      refine ⟨?_, before⟩
      rw [before]
      push_cast
      linarith

section

variable (old_pos : 0 < oldSize) (new_pos : 0 < newSize)
include old_pos new_pos

omit [FloorRing K] in
theorem sourceCoordinate_lt :
    (sourceCoordinate oldSize newSize ((newSize : ℤ) - 1) : K) < oldSize ∧
      (oldSize : K) - 1 ≤ sourceCoordinate oldSize newSize ((newSize : ℤ) - 1) := by
  have old_one : (1 : K) ≤ oldSize := by exact_mod_cast old_pos
  have new_real : (0 : K) < newSize := by exact_mod_cast new_pos
  have ratio_pos : (0 : K) < oldSize / newSize := div_pos (by linarith) new_real
  have whole : (newSize : K) * (oldSize / newSize) = oldSize :=
    mul_div_cancel₀ _ new_real.ne'
  have raw : ((((newSize : ℤ) - 1 : ℤ) : K) + 1 / 2) * (oldSize / newSize) - 1 / 2 < oldSize := by
    push_cast
    nlinarith
  unfold sourceCoordinate
  rw [if_pos rfl]
  constructor
  · apply max_lt
    · split
      · exact lt_of_le_of_lt (min_le_left _ _) raw
      · exact raw
    · linarith
  · apply le_max_of_le_right
    linarith

theorem floor_last :
    ⌊(sourceCoordinate oldSize newSize ((newSize : ℤ) - 1) : K)⌋ = (oldSize : ℤ) - 1 := by
  obtain ⟨above, below⟩ := sourceCoordinate_lt (K := K) old_pos new_pos
  rw [Int.floor_eq_iff]
  push_cast
  constructor
  · exact below
  · linarith

theorem counts_last (counts : Counts K oldSize newSize ((newSize : ℤ) - 1) pos) :
    pos = (oldSize : ℤ) - 1 := by
  unfold Counts at counts
  dsimp only at counts
  rw [floor_last old_pos new_pos] at counts
  unfold clampToGrid at counts
  omega

theorem nearest_last : nearest K oldSize newSize ((newSize : ℤ) - 1) = (oldSize : ℤ) - 1 := by
  unfold nearest
  dsimp only
  rw [floor_last old_pos new_pos]
  unfold clampToGrid
  split
  · omega
  · omega

end

section

variable (several : 2 ≤ newSize)
include several

omit [FloorRing K] [IsStrictOrderedRing K] in
theorem sourceCoordinate_first :
    (sourceCoordinate oldSize newSize 0 : K) =
      min (1 / 2 * ((oldSize : K) / newSize) - 1 / 2) (49 / 100) := by
  have not_last : (0 : ℤ) ≠ (newSize : ℤ) - 1 := by omega
  unfold sourceCoordinate
  rw [if_neg not_last, if_pos rfl, Int.cast_zero, zero_add]

theorem floor_first_of_le (old_pos : 0 < oldSize) (grows : oldSize ≤ newSize) :
    ⌊(sourceCoordinate oldSize newSize 0 : K)⌋ = -1 ∨
      (sourceCoordinate oldSize newSize 0 : K) = 0 := by
  have new_real : (0 : K) < newSize := by exact_mod_cast (by omega : 0 < newSize)
  have old_real : (0 : K) < oldSize := by exact_mod_cast old_pos
  have ratio_pos : (0 : K) < oldSize / newSize := div_pos old_real new_real
  have ratio_le : (oldSize : K) / newSize ≤ 1 := by
    rw [div_le_one new_real]
    exact_mod_cast grows
  have forced : (sourceCoordinate oldSize newSize 0 : K) =
      1 / 2 * (oldSize / newSize) - 1 / 2 := by
    rw [sourceCoordinate_first several, min_eq_left]
    linarith
  rcases ratio_le.lt_or_eq with shrinks | same
  · left
    rw [forced, Int.floor_eq_iff]
    push_cast
    constructor
    · linarith
    · linarith
  · right
    rw [forced, same]
    norm_num

theorem sourceCoordinate_first_of_lt (shrinks : newSize < oldSize) :
    0 < (sourceCoordinate oldSize newSize 0 : K) ∧
      (sourceCoordinate oldSize newSize 0 : K) < 1 / 2 ∧
      ⌊(sourceCoordinate oldSize newSize 0 : K)⌋ = 0 := by
  have new_real : (0 : K) < newSize := by exact_mod_cast (by omega : 0 < newSize)
  have ratio_lt : 1 < (oldSize : K) / newSize := by
    rw [one_lt_div new_real]
    exact_mod_cast shrinks
  have positive : 0 < (sourceCoordinate oldSize newSize 0 : K) := by
    rw [sourceCoordinate_first several]
    apply lt_min
    · linarith
    · norm_num
  have half : (sourceCoordinate oldSize newSize 0 : K) < 1 / 2 := by
    rw [sourceCoordinate_first several]
    apply lt_of_le_of_lt (min_le_right _ _)
    norm_num
  refine ⟨positive, half, ?_⟩
  rw [Int.floor_eq_iff, Int.cast_zero]
  constructor
  · exact positive.le
  · linarith

theorem counts_first (old_pos : 0 < oldSize) (counts : Counts K oldSize newSize 0 pos) :
    pos = 0 ∨ newSize < oldSize ∧ pos = 1 := by
  unfold Counts at counts
  dsimp only at counts
  by_cases shrinks : newSize < oldSize
  · rw [(sourceCoordinate_first_of_lt (K := K) several shrinks).2.2] at counts
    unfold clampToGrid at counts
    omega
  · left
    rcases floor_first_of_le (K := K) several old_pos (not_lt.mp shrinks) with before | zero
    · rw [before] at counts
      unfold clampToGrid at counts
      omega
    · rw [zero, Int.floor_zero, Int.cast_zero, sub_zero] at counts
      rcases counts with here | ⟨fraction, _⟩
      · unfold clampToGrid at here
        omega
      · exact absurd fraction (lt_irrefl 0)

theorem counts_second (shrinks : newSize < oldSize) : Counts K oldSize newSize 0 1 := by
  obtain ⟨positive, _, floor⟩ := sourceCoordinate_first_of_lt (K := K) several shrinks
  right
  rw [floor, Int.cast_zero, sub_zero]
  refine ⟨positive, ?_⟩
  unfold clampToGrid
  omega

theorem nearest_first (old_pos : 0 < oldSize) : nearest K oldSize newSize 0 = 0 := by
  unfold nearest
  dsimp only
  by_cases shrinks : newSize < oldSize
  · obtain ⟨_, half, floor⟩ := sourceCoordinate_first_of_lt (K := K) several shrinks
    rw [floor, Int.cast_zero, sub_zero, if_pos half]
    exact clampToGrid_of_inside (le_refl 0) (by omega)
  · rcases floor_first_of_le (K := K) several old_pos (not_lt.mp shrinks) with before | zero
    · rw [before]
      unfold clampToGrid
      split
      · omega
      · omega
    · rw [zero, Int.floor_zero, Int.cast_zero, sub_zero, if_pos (by norm_num)]
      exact clampToGrid_of_inside (le_refl 0) (by omega)

end

end

section

/-! ## One cell -/

/-- What a new cell owes its four source cells: a fill ratio, one of their materials, and no air
above the threshold. -/
structure Interpolates (sample : Sample K) (cell : Cell K) : Prop where
  fill_nonneg : 0 ≤ cell.fillRatio
  fill_le : cell.fillRatio ≤ 1
  material_mem : ∃ corner ∈ sample.corners, corner.materialType = cell.materialType
  air : cell.materialType = .air → cell.fillRatio ≤ Cell.minFillThreshold

variable {sample : Sample K}

omit [Field K] in
theorem foldl_bestCorner (corners : List (Cell K)) (best : Option (Cell K) × K)
    (sound : ∀ corner ∈ best.1, corner ∈ sample.corners ∧ corner.materialType ≠ .air)
    (listed : ∀ corner ∈ corners, corner ∈ sample.corners) :
    ∀ corner ∈ (corners.foldl (fun (best : Option (Cell K) × K) corner =>
        if corner.materialType ≠ .air ∧ corner.fillRatio > best.2 then
          (some corner, corner.fillRatio)
        else best) best).1, corner ∈ sample.corners ∧ corner.materialType ≠ .air := by
  induction corners generalizing best with
  | nil => exact sound
  | cons first corners ih =>
      obtain ⟨member, rest⟩ := List.forall_mem_cons.mp listed
      rw [List.foldl_cons]
      apply ih _ _ rest
      split
      case isTrue better =>
        intro corner chosen
        cases chosen
        exact ⟨member, better.1⟩
      case isFalse => exact sound

theorem bestCorner_spec {corner : Cell K} (best : sample.bestCorner = some corner) :
    corner ∈ sample.corners ∧ corner.materialType ≠ .air := by
  apply foldl_bestCorner sample.corners (none, 0) _ (fun _ member => member) corner best
  intro other chosen
  cases chosen

theorem nearestMaterial_mem (sample : Sample K) :
    ∃ corner ∈ sample.corners, corner.materialType = sample.nearestMaterial := by
  unfold Sample.nearestMaterial interpolateMaterialType Sample.corners
  split
  · exact ⟨sample.cell00, by simp, rfl⟩
  · split
    · exact ⟨sample.cell10, by simp, rfl⟩
    · split
      · exact ⟨sample.cell01, by simp, rfl⟩
      · exact ⟨sample.cell11, by simp, rfl⟩

theorem interpolateMaterialType_eq (m00 m10 m01 m11 : Material) (fx fy : K) :
    interpolateMaterialType m00 m10 m01 m11 fx fy =
      if fx < 1 / 2 then if fy < 1 / 2 then m00 else m01
      else if fy < 1 / 2 then m10 else m11 := by
  unfold interpolateMaterialType
  by_cases left : fx < 1 / 2
  · by_cases top : fy < 1 / 2
    · simp only [left, top, and_self, ↓reduceIte]
    · simp only [left, top, not_lt.mp top, not_le.mpr left, and_false, and_self,
        ↓reduceIte]
  · by_cases top : fy < 1 / 2
    · simp only [left, top, not_lt.mp left, and_self, false_and, ↓reduceIte]
    · simp only [left, top, and_false, false_and, ↓reduceIte]

theorem matter_spec [IsStrictOrderedRing K] (sample : Sample K) :
    (∃ corner ∈ sample.corners, corner.materialType = sample.matter.1) ∧
      (sample.matter.1 = .air → sample.matter.2 ≤ Cell.minFillThreshold) := by
  unfold Sample.matter
  split
  case isTrue hollow =>
    cases best : sample.bestCorner with
    | none =>
        obtain ⟨corner, member, same⟩ := nearestMaterial_mem sample
        refine ⟨⟨corner, member, same.trans hollow.1⟩, fun _ => ?_⟩
        simp only [Cell.minFillThreshold]
        positivity
    | some corner =>
        obtain ⟨member, solid⟩ := bestCorner_spec best
        exact ⟨⟨corner, member, rfl⟩, fun air => absurd air solid⟩
  case isFalse solid =>
    refine ⟨nearestMaterial_mem sample, fun air => ?_⟩
    rw [not_and, not_lt] at solid
    exact solid air

/-- **Every new cell** has a fill ratio, a sampled material and no air above the threshold. -/
theorem interpolates_create [IsStrictOrderedRing K] (sample : Sample K) :
    Interpolates sample (createInterpolatedCellB sample) := by
  obtain ⟨sampled, air⟩ := matter_spec sample
  have nonneg : (0 : K) ≤ Cell.minFillThreshold := by
    simp only [Cell.minFillThreshold]
    positivity
  refine ⟨le_max_left _ _, max_le zero_le_one (min_le_left _ _), sampled, ?_⟩
  intro hollow
  exact max_le nonneg ((min_le_right _ _).trans (air hollow))

def weights (sample : Sample K) : List (K × K) :=
  [((1 - sample.fx) * (1 - sample.fy), sample.cell00.fillRatio),
    (sample.fx * (1 - sample.fy), sample.cell10.fillRatio),
    ((1 - sample.fx) * sample.fy, sample.cell01.fillRatio),
    (sample.fx * sample.fy, sample.cell11.fillRatio)]

omit [LinearOrder K] in
theorem fillRatio_eq_weightedSum (sample : Sample K) :
    sample.fillRatio = weightedSum (weights sample) ∧ totalWeight (weights sample) = 1 := by
  simp only [Sample.fillRatio, bilinearInterpolateDouble, weights, weightedSum_cons,
    weightedSum_nil, totalWeight_cons, totalWeight_nil]
  constructor
  · ring
  · ring

theorem fillRatio_eq_one_iff [IsStrictOrderedRing K]
    (ratios : ∀ corner ∈ sample.corners, corner.fillRatio ≤ 1) (fx_nonneg : 0 ≤ sample.fx)
    (fx_lt : sample.fx < 1) (fy_nonneg : 0 ≤ sample.fy) (fy_lt : sample.fy < 1) :
    sample.fillRatio = 1 ↔ sample.cell00.fillRatio = 1 ∧
      (0 < sample.fx → sample.cell10.fillRatio = 1) ∧
      (0 < sample.fy → sample.cell01.fillRatio = 1) ∧
      (0 < sample.fx → 0 < sample.fy → sample.cell11.fillRatio = 1) := by
  obtain ⟨sum, total⟩ := fillRatio_eq_weightedSum sample
  have rest_x : 0 < 1 - sample.fx := sub_pos.mpr fx_lt
  have rest_y : 0 < 1 - sample.fy := sub_pos.mpr fy_lt
  have nonneg : ∀ entry ∈ weights sample, 0 ≤ entry.1 := by
    simp only [weights, List.forall_mem_cons, List.not_mem_nil, false_implies, implies_true,
      and_true]
    exact ⟨(mul_pos rest_x rest_y).le, mul_nonneg fx_nonneg rest_y.le,
      mul_nonneg rest_x.le fy_nonneg, mul_nonneg fx_nonneg fy_nonneg⟩
  have bound : ∀ entry ∈ weights sample, 0 < entry.1 → entry.2 ≤ 1 := by
    simp only [Sample.corners, List.forall_mem_cons] at ratios
    simp only [weights, List.forall_mem_cons, List.not_mem_nil, false_implies, implies_true,
      and_true]
    exact ⟨fun _ => ratios.1, fun _ => ratios.2.1, fun _ => ratios.2.2.1, fun _ => ratios.2.2.2.1⟩
  have reached := weightedSum_eq_iff nonneg bound
  rw [total, one_mul, ← sum] at reached
  rw [reached]
  simp only [weights, List.forall_mem_cons, List.not_mem_nil, false_implies, implies_true,
    and_true, mul_pos rest_x rest_y, true_implies, mul_pos_iff_of_pos_right rest_y,
    mul_pos_iff_of_pos_left rest_x]
  have both : 0 < sample.fx * sample.fy ↔ 0 < sample.fx ∧ 0 < sample.fy := by
    constructor
    · intro product
      refine ⟨fx_nonneg.lt_of_ne ?_, fy_nonneg.lt_of_ne ?_⟩
      · rintro zero
        rw [← zero, zero_mul] at product
        exact lt_irrefl 0 product
      · rintro zero
        rw [← zero, mul_zero] at product
        exact lt_irrefl 0 product
    · intro ⟨left, right⟩
      exact mul_pos left right
  rw [both, and_imp]

end

section

/-! ## The border -/

variable {source : Grid (Cell K)} {newWidth newHeight : ℕ} {newX newY : ℤ}

def OnBorder (grid : Grid (Cell K)) (x y : ℤ) : Prop :=
  grid.InBounds x y ∧ (x = 0 ∨ x = grid.width - 1 ∨ y = 0 ∨ y = grid.height - 1)

def Walled (grid : Grid (Cell K)) : Prop :=
  ∀ x y, OnBorder grid x y →
    (cellAt grid x y).materialType = .wall ∧ (cellAt grid x y).fillRatio = 1

def Ratios (grid : Grid (Cell K)) : Prop :=
  ∀ cell ∈ grid.cells, 0 ≤ cell.fillRatio ∧ cell.fillRatio ≤ 1

/-- Where a width shrinks, the second column is full at all rows less than one from the source
coordinate of some new row; the same where a height shrinks. -/
def RimFull (source : Grid (Cell K)) (newWidth newHeight : ℕ) : Prop :=
  (newWidth < source.width → ∀ newY y : ℤ, 0 ≤ newY → newY < newHeight → 0 ≤ y →
    y < source.height → |(sourceCoordinate source.height newHeight newY : K) - y| < 1 →
      (cellAt source 1 y).fillRatio = 1) ∧
  (newHeight < source.height → ∀ newX x : ℤ, 0 ≤ newX → newX < newWidth → 0 ≤ x →
    x < source.width → |(sourceCoordinate source.width newWidth newX : K) - x| < 1 →
      (cellAt source x 1).fillRatio = 1)

theorem Ratios.cellAt [IsStrictOrderedRing K] (ratios : Ratios source) (x y : ℤ) :
    0 ≤ (cellAt source x y).fillRatio ∧ (cellAt source x y).fillRatio ≤ 1 := by
  unfold WorldInterpolationTool.cellAt
  cases read : source.get? x y with
  | none => exact ⟨le_refl 0, zero_le_one⟩
  | some cell =>
      unfold Grid.get? at read
      split at read
      · exact ratios cell (List.mem_of_getElem? read)
      · cases read

variable [FloorRing K] [IsStrictOrderedRing K]

theorem counts_edge {oldSize newSize : ℕ} {newPos pos : ℤ} (several : 2 ≤ newSize)
    (old_pos : 0 < oldSize) (edge : newPos = 0 ∨ newPos = newSize - 1)
    (counts : Counts K oldSize newSize newPos pos) :
    pos = 0 ∨ pos = oldSize - 1 ∨ newSize < oldSize ∧ pos = 1 := by
  rcases edge with rfl | rfl
  · rcases counts_first several old_pos counts with first | second
    · exact Or.inl first
    · exact Or.inr (Or.inr second)
  · exact Or.inr (Or.inl (counts_last old_pos (by omega) counts))

theorem nearest_edge {oldSize newSize : ℕ} {newPos : ℤ} (several : 2 ≤ newSize)
    (old_pos : 0 < oldSize) (edge : newPos = 0 ∨ newPos = newSize - 1) :
    nearest K oldSize newSize newPos = 0 ∨ nearest K oldSize newSize newPos = oldSize - 1 := by
  rcases edge with rfl | rfl
  · exact Or.inl (nearest_first several old_pos)
  · exact Or.inr (nearest_last old_pos (by omega))

section

omit [IsStrictOrderedRing K]

theorem nearest_bounds {oldSize : ℕ} (old_pos : 0 < oldSize) (newSize : ℕ) (newPos : ℤ) :
    0 ≤ nearest K oldSize newSize newPos ∧ nearest K oldSize newSize newPos < oldSize := by
  unfold nearest
  dsimp only
  split
  · exact clampToGrid_bounds old_pos _
  · exact clampToGrid_bounds old_pos _

theorem nearestMaterial_sample (source : Grid (Cell K)) (newWidth newHeight : ℕ) (newX newY : ℤ) :
    (sample source newWidth newHeight newX newY).nearestMaterial =
      (cellAt source (nearest K source.width newWidth newX)
        (nearest K source.height newHeight newY)).materialType := by
  unfold Sample.nearestMaterial
  rw [interpolateMaterialType_eq]
  unfold sample nearest
  by_cases left : (sourceCoordinate source.width newWidth newX : K) -
      ⌊(sourceCoordinate source.width newWidth newX : K)⌋ < 1 / 2
  · by_cases top : (sourceCoordinate source.height newHeight newY : K) -
        ⌊(sourceCoordinate source.height newHeight newY : K)⌋ < 1 / 2
    · simp only [left, top, ↓reduceIte]
    · simp only [left, top, ↓reduceIte]
  · by_cases top : (sourceCoordinate source.height newHeight newY : K) -
        ⌊(sourceCoordinate source.height newHeight newY : K)⌋ < 1 / 2
    · simp only [left, top, ↓reduceIte]
    · simp only [left, top, ↓reduceIte]

end

theorem fillRatio_sample_iff (ratios : Ratios source) :
    (sample source newWidth newHeight newX newY).fillRatio = 1 ↔
      ∀ x y, Counts K source.width newWidth newX x → Counts K source.height newHeight newY y →
        (cellAt source x y).fillRatio = 1 := by
  have corners : ∀ corner ∈ (sample source newWidth newHeight newX newY).corners,
      corner.fillRatio ≤ 1 := by
    simp only [Sample.corners, sample, List.forall_mem_cons, List.not_mem_nil, false_implies,
      implies_true, and_true]
    exact ⟨(ratios.cellAt _ _).2, (ratios.cellAt _ _).2, (ratios.cellAt _ _).2,
      (ratios.cellAt _ _).2⟩
  rw [fillRatio_eq_one_iff corners (Int.fract_nonneg _) (Int.fract_lt_one _)
    (Int.fract_nonneg _) (Int.fract_lt_one _)]
  constructor
  · intro ⟨both, right, below, far⟩ x y counts_x counts_y
    rcases counts_x with rfl | ⟨fx_pos, rfl⟩
    · rcases counts_y with rfl | ⟨fy_pos, rfl⟩
      · exact both
      · exact below fy_pos
    · rcases counts_y with rfl | ⟨fy_pos, rfl⟩
      · exact right fx_pos
      · exact far fx_pos fy_pos
  · intro full
    exact ⟨full _ _ (Or.inl rfl) (Or.inl rfl),
      fun fx_pos => full _ _ (Or.inr ⟨fx_pos, rfl⟩) (Or.inl rfl),
      fun fy_pos => full _ _ (Or.inl rfl) (Or.inr ⟨fy_pos, rfl⟩),
      fun fx_pos fy_pos => full _ _ (Or.inr ⟨fx_pos, rfl⟩) (Or.inr ⟨fy_pos, rfl⟩)⟩

theorem fillRatio_sample_le (ratios : Ratios source) (newWidth newHeight : ℕ) (newX newY : ℤ) :
    (sample source newWidth newHeight newX newY).fillRatio ≤ 1 := by
  set here := sample source newWidth newHeight newX newY with here_def
  obtain ⟨sum, total⟩ := fillRatio_eq_weightedSum here
  have fx_nonneg : 0 ≤ here.fx := Int.fract_nonneg _
  have fy_nonneg : 0 ≤ here.fy := Int.fract_nonneg _
  have rest_x : 0 ≤ 1 - here.fx := sub_nonneg.mpr (Int.fract_lt_one _).le
  have rest_y : 0 ≤ 1 - here.fy := sub_nonneg.mpr (Int.fract_lt_one _).le
  have bounded := @weightedSum_le K _ _ _ (weights here) 1 ?_ ?_
  · rw [total, one_mul, ← sum] at bounded
    exact bounded
  · simp only [weights, List.forall_mem_cons, List.not_mem_nil, false_implies, implies_true,
      and_true]
    exact ⟨mul_nonneg rest_x rest_y, mul_nonneg fx_nonneg rest_y, mul_nonneg rest_x fy_nonneg,
      mul_nonneg fx_nonneg fy_nonneg⟩
  · simp only [weights, List.forall_mem_cons, List.not_mem_nil, false_implies, implies_true,
      and_true]
    exact ⟨fun _ => (ratios.cellAt _ _).2, fun _ => (ratios.cellAt _ _).2,
      fun _ => (ratios.cellAt _ _).2, fun _ => (ratios.cellAt _ _).2⟩

omit [IsStrictOrderedRing K] in
theorem get?_generateInterpolatedCellsB {cell : Cell K} :
    (generateInterpolatedCellsB source newWidth newHeight).get? newX newY = some cell ↔
      (0 ≤ newX ∧ 0 ≤ newY ∧ newX < newWidth ∧ newY < newHeight) ∧
        createInterpolatedCellB (sample source newWidth newHeight newX newY) = cell := by
  rw [generateInterpolatedCellsB, Grid.get?_generate]
  split
  case isTrue inside => simp [inside]
  case isFalse outside => simp [outside]

theorem border_cell (walled : Walled source) (ratios : Ratios source) (wide : 2 ≤ newWidth)
    (high : 2 ≤ newHeight) (width_pos : 0 < source.width) (height_pos : 0 < source.height)
    (edge : newX = 0 ∨ newX = newWidth - 1 ∨ newY = 0 ∨ newY = newHeight - 1) :
    (createInterpolatedCellB (sample source newWidth newHeight newX newY)).materialType = .wall ∧
      ((createInterpolatedCellB (sample source newWidth newHeight newX newY)).fillRatio = 1 ↔
        ∀ x y, Counts K source.width newWidth newX x → Counts K source.height newHeight newY y →
          (cellAt source x y).fillRatio = 1) := by
  have near_edge : OnBorder source (nearest K source.width newWidth newX)
      (nearest K source.height newHeight newY) := by
    obtain ⟨left, right⟩ := nearest_bounds (K := K) width_pos newWidth newX
    obtain ⟨top, bottom⟩ := nearest_bounds (K := K) height_pos newHeight newY
    refine ⟨⟨left, top, right, bottom⟩, ?_⟩
    rcases or_assoc.mpr edge with edge_x | edge_y
    · rcases nearest_edge (K := K) wide width_pos edge_x with first | last
      · exact Or.inl first
      · exact Or.inr (Or.inl last)
    · rcases nearest_edge (K := K) high height_pos edge_y with first | last
      · exact Or.inr (Or.inr (Or.inl first))
      · exact Or.inr (Or.inr (Or.inr last))
  have wall : (sample source newWidth newHeight newX newY).nearestMaterial = .wall := by
    rw [nearestMaterial_sample]
    exact (walled _ _ near_edge).1
  have matter : (sample source newWidth newHeight newX newY).matter =
      (.wall, (sample source newWidth newHeight newX newY).fillRatio) := by
    rw [Sample.matter, if_neg, wall]
    rintro ⟨air, _⟩
    rw [wall] at air
    cases air
  refine ⟨congrArg Prod.fst matter, ?_⟩
  rw [← fillRatio_sample_iff ratios]
  change max 0 (min 1 (sample source newWidth newHeight newX newY).matter.2) = 1 ↔ _
  rw [matter]
  rw [min_eq_right (fillRatio_sample_le ratios newWidth newHeight newX newY)]
  constructor
  · intro whole
    rcases max_choice 0 (sample source newWidth newHeight newX newY).fillRatio with low | same
    · rw [low] at whole
      exact absurd whole zero_ne_one
    · exact same ▸ whole
  · intro whole
    rw [whole, max_eq_right zero_le_one]

theorem Counts.near {oldSize newSize : ℕ} {newPos pos : ℤ} (old_pos : 0 < oldSize)
    (counts : Counts K oldSize newSize newPos pos) :
    pos = 0 ∨ pos = oldSize - 1 ∨
      |(sourceCoordinate oldSize newSize newPos : K) - pos| < 1 := by
  obtain ⟨low, high⟩ := counts.bounds old_pos
  by_cases first : pos = 0
  · exact Or.inl first
  · by_cases last : pos = (oldSize : ℤ) - 1
    · exact Or.inr (Or.inl last)
    · exact Or.inr (Or.inr ((counts_iff (by omega) (by omega)).mp counts))

omit [LinearOrder K] [FloorRing K] [IsStrictOrderedRing K] in
theorem Walled.full {x y : ℤ} (walled : Walled source) (inside : source.InBounds x y)
    (edge : x = 0 ∨ x = source.width - 1 ∨ y = 0 ∨ y = source.height - 1) :
    (cellAt source x y).fillRatio = 1 :=
  (walled x y ⟨inside, edge⟩).2

/-- **A whole wall stays whole** exactly when the second column and row are full where a shrunken
border samples them. -/
theorem walled_iff (walled : Walled source) (ratios : Ratios source) (wide : 2 ≤ newWidth)
    (high : 2 ≤ newHeight) (width_pos : 0 < source.width) (height_pos : 0 < source.height) :
    Walled (generateInterpolatedCellsB source newWidth newHeight) ↔
      RimFull source newWidth newHeight := by
  have created : ∀ newX newY : ℤ, 0 ≤ newX → 0 ≤ newY → newX < newWidth → newY < newHeight →
      cellAt (generateInterpolatedCellsB source newWidth newHeight) newX newY =
        createInterpolatedCellB (sample source newWidth newHeight newX newY) := by
    intro newX newY left top right bottom
    have read : (generateInterpolatedCellsB source newWidth newHeight).get? newX newY =
        some (createInterpolatedCellB (sample source newWidth newHeight newX newY)) :=
      get?_generateInterpolatedCellsB.mpr ⟨⟨left, top, right, bottom⟩, rfl⟩
    rw [cellAt, read, Option.getD_some]
  constructor
  · intro kept
    have full : ∀ newX newY : ℤ, 0 ≤ newX → 0 ≤ newY → newX < newWidth → newY < newHeight →
        (newX = 0 ∨ newX = newWidth - 1 ∨ newY = 0 ∨ newY = newHeight - 1) →
        ∀ x y, Counts K source.width newWidth newX x → Counts K source.height newHeight newY y →
          (cellAt source x y).fillRatio = 1 := by
      intro newX newY left top right bottom edge
      have whole := (kept newX newY ⟨⟨left, top, right, bottom⟩, edge⟩).2
      rw [created newX newY left top right bottom] at whole
      exact (border_cell walled ratios wide high width_pos height_pos edge).2.mp whole
    constructor
    · intro shrinks newY y top bottom low below near
      by_cases edge : y = 0 ∨ y = (source.height : ℤ) - 1
      · exact walled.full ⟨by omega, low, by omega, below⟩ (Or.inr (Or.inr edge))
      · have counts : Counts K source.height newHeight newY y :=
          (counts_iff (by omega) (by omega)).mpr near
        exact full 0 newY (le_refl 0) top (by omega) bottom (Or.inl rfl) 1 y
          (counts_second wide shrinks) counts
    · intro shrinks newX x left right low below near
      by_cases edge : x = 0 ∨ x = (source.width : ℤ) - 1
      · exact walled.full ⟨low, by omega, below, by omega⟩ (or_assoc.mp (Or.inl edge))
      · have counts : Counts K source.width newWidth newX x :=
          (counts_iff (by omega) (by omega)).mpr near
        exact full newX 0 left (le_refl 0) right (by omega) (Or.inr (Or.inr (Or.inl rfl))) x 1
          counts (counts_second high shrinks)
  · intro ⟨columns, rows⟩ newX newY ⟨⟨left, top, right, bottom⟩, edge⟩
    have right' : newX < newWidth := right
    have bottom' : newY < newHeight := bottom
    rw [created newX newY left top right' bottom']
    obtain ⟨wall, full⟩ := border_cell walled ratios wide high width_pos height_pos edge
    refine ⟨wall, full.mpr ?_⟩
    intro x y counts_x counts_y
    obtain ⟨low_x, high_x⟩ := counts_x.bounds width_pos
    obtain ⟨low_y, high_y⟩ := counts_y.bounds height_pos
    have inside : source.InBounds x y := ⟨low_x, low_y, high_x, high_y⟩
    rcases or_assoc.mpr edge with edge_x | edge_y
    · rcases counts_edge wide width_pos edge_x counts_x with first | last | ⟨shrinks, rfl⟩
      · exact walled.full inside (Or.inl first)
      · exact walled.full inside (Or.inr (Or.inl last))
      · rcases counts_y.near height_pos with first | last | near
        · exact walled.full inside (Or.inr (Or.inr (Or.inl first)))
        · exact walled.full inside (Or.inr (Or.inr (Or.inr last)))
        · exact columns shrinks newY y top bottom' low_y high_y near
    · rcases counts_edge high height_pos edge_y counts_y with first | last | ⟨shrinks, rfl⟩
      · exact walled.full inside (Or.inr (Or.inr (Or.inl first)))
      · exact walled.full inside (Or.inr (Or.inr (Or.inr last)))
      · rcases counts_x.near width_pos with first | last | near
        · exact walled.full inside (Or.inl first)
        · exact walled.full inside (Or.inr (Or.inl last))
        · exact rows shrinks newX x left right' low_x high_x near

/-- **Resizing** leaves a whole outer wall whole exactly when the second column and row are full
where a shrunken border samples them, and gives every new cell a fill ratio, a sampled material
and no air above the threshold. -/
theorem border_kept_iff (nonempty : source.cells ≠ []) (ratios : Ratios source)
    (newWidth newHeight : ℕ) :
    (2 ≤ newWidth → 2 ≤ newHeight → Walled source →
        (Walled (generateInterpolatedCellsB source newWidth newHeight) ↔
          RimFull source newWidth newHeight)) ∧
      ∀ newX newY cell,
        (generateInterpolatedCellsB source newWidth newHeight).get? newX newY = some cell →
          Interpolates (sample source newWidth newHeight newX newY) cell := by
  have some_cells : 0 < source.width * source.height := by
    rw [← source.length_cells]
    exact List.length_pos_of_ne_nil nonempty
  have width_pos : 0 < source.width := Nat.pos_of_mul_pos_right some_cells
  have height_pos : 0 < source.height := Nat.pos_of_mul_pos_left some_cells
  refine ⟨fun wide high walled => ?_, ?_⟩
  · exact walled_iff walled ratios wide high width_pos height_pos
  · intro newX newY cell created
    obtain ⟨_, rfl⟩ := get?_generateInterpolatedCellsB.mp created
    exact interpolates_create _

end

section

/-! ## A room of four by four cells -/

def room (inner : Cell ℚ) : Grid (Cell ℚ) :=
  .generate 4 4 fun x y =>
    if x = 0 ∨ x = 3 ∨ y = 0 ∨ y = 3 then
      { Cell.blank with materialType := .wall, fillRatio := 1 }
    else inner

theorem walled_room (inner : Cell ℚ) : Walled (room inner) := by
  intro x y ⟨inside, edge⟩
  have bounds : 0 ≤ x ∧ 0 ≤ y ∧ x < (4 : ℕ) ∧ y < (4 : ℕ) := inside
  have corner : x = 0 ∨ x = 3 ∨ y = 0 ∨ y = 3 := by
    have edge' : x = 0 ∨ x = (4 : ℕ) - 1 ∨ y = 0 ∨ y = (4 : ℕ) - 1 := edge
    omega
  rw [cellAt, room, Grid.get?_generate, if_pos bounds, if_pos corner]
  exact ⟨rfl, rfl⟩

theorem ratios_room {inner : Cell ℚ} (nonneg : 0 ≤ inner.fillRatio) (le : inner.fillRatio ≤ 1) :
    Ratios (room inner) := by
  intro cell listed
  obtain ⟨i, _, rfl⟩ := List.mem_map.mp listed
  dsimp only
  split
  · exact ⟨zero_le_one, le_refl 1⟩
  · exact ⟨nonneg, le⟩

/-- Halving an empty room thins its wall. -/
theorem not_border_kept :
    ¬ ∀ source : Grid (Cell ℚ), source.cells ≠ [] → Ratios source → Walled source →
      ∀ newWidth newHeight, 2 ≤ newWidth → 2 ≤ newHeight →
        Walled (generateInterpolatedCellsB source newWidth newHeight) := by
  intro all
  have walled := all (room Cell.blank) (by decide)
    (ratios_room (le_refl 0) (by decide +kernel)) (walled_room _) 2 2 (le_refl 2) (le_refl 2)
  have corner := (walled 0 0 ⟨by decide, Or.inl rfl⟩).2
  revert corner
  decide +kernel

theorem border_kept_full :
    Walled (generateInterpolatedCellsB
      (room { Cell.blank with materialType := .dirt, fillRatio := 1 }) 2 2) := by
  set full : Grid (Cell ℚ) := room { Cell.blank with materialType := .dirt, fillRatio := 1 }
  have ratios : Ratios full := ratios_room zero_le_one (le_refl 1)
  have filled : ∀ x y : ℤ, 0 ≤ x → 0 ≤ y → x < 4 → y < 4 → (cellAt full x y).fillRatio = 1 := by
    intro x y left top right bottom
    have bounds : 0 ≤ x ∧ 0 ≤ y ∧ x < (4 : ℕ) ∧ y < (4 : ℕ) := ⟨left, top, right, bottom⟩
    rw [cellAt, show full = room _ from rfl, room, Grid.get?_generate, if_pos bounds]
    rw [Option.getD_some]
    split
    · rfl
    · rfl
  apply ((border_kept_iff (List.ne_nil_of_length_eq_add_one full.length_cells) ratios 2 2).1
    (le_refl 2) (le_refl 2) (walled_room _)).mpr
  constructor
  · intro _ newY y _ _ low below _
    exact filled 1 y (by decide) low (by decide) below
  · intro _ newX x _ _ low below _
    exact filled x 1 low (by decide) below (by decide)

end

end WorldInterpolationTool

end DirtSim
