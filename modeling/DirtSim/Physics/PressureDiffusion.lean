import DirtSim.Foundation.Diffusion
import DirtSim.Physics.World

/-! # Pressure diffusion

Each open cell exchanges pressure with its open neighbours, at a rate that is the harmonic mean of
two coefficients. The strength of the settings multiplies only its own, so the pressure is conserved
exactly when no two open neighbours differ by it (`PressureDiffusion.diffuses_iff`).
-/

namespace DirtSim

open Foundation

variable {K : Type*} [Field K]

/-- How far pressure propagates through a material. -/
def Material.pressureDiffusion : Material → K
  | .air => 1
  | .dirt => 3 / 10
  | .leaf => 6 / 10
  | .metal => 1 / 10
  | .root => 4 / 10
  | .sand => 3 / 10
  | .seed => 1 / 10
  | .wall => 0
  | .water => 9 / 10
  | .wood => 15 / 100

namespace PressureDiffusion

/-- The settings of the diffusion. -/
structure Settings (K : Type*) where
  pressureDiffusionStrength : K
  pressureDiffusionIterations : ℤ

def treatAirAsBoundary : Bool := false

/-- The eight neighbours, in the order in which their fluxes are added up. -/
def neighborOffsets : List Vector2i :=
  [⟨-1, -1⟩, ⟨0, -1⟩, ⟨1, -1⟩, ⟨-1, 0⟩, ⟨1, 0⟩, ⟨-1, 1⟩, ⟨0, 1⟩, ⟨1, 1⟩]

/-- What a diagonal interface conducts of a straight one. -/
def diagonalFactor : K := 707107 / 1000000

/-- The harmonic mean of the coefficients on both sides. -/
def interfaceDiffusion (diffusionRate neighborDiffusion : K) : K :=
  2 * diffusionRate * neighborDiffusion / (diffusionRate + neighborDiffusion + 1 / 10000000000)

def towards (offset : Vector2i) (interface : K) : K :=
  if offset.x ≠ 0 ∧ offset.y ≠ 0 then interface * diagonalFactor else interface

def pressureAt (pressure : Grid K) (pos : Vector2i) : K := (pressure.get? pos.x pos.y).getD 0

variable [LinearOrder K]
variable (offset : Vector2i)

def diffusionRate (data : CellArray K) (strength : K) (pos : Vector2i) : K :=
  (data.cellAt pos).materialType.pressureDiffusion * strength

/-- The pressure and the coefficient that a cell sees on one side. A side without open neighbour is
sealed. -/
def neighborSide (data : CellArray K) (strength : K) (pressure : Grid K) (pos offset : Vector2i) :
    K × K :=
  let sealed := (pressureAt pressure pos, diffusionRate data strength pos)
  let neighbor := data.cellAt (pos + offset)
  if ¬ data.InBounds (pos + offset).x (pos + offset).y then sealed
  else if neighbor.materialType = .wall then sealed
  else if neighbor.isEmpty then sealed
  else if treatAirAsBoundary ∧ neighbor.materialType = .air then sealed
  else (pressureAt pressure (pos + offset), neighbor.materialType.pressureDiffusion)

def flux (data : CellArray K) (strength : K) (pressure : Grid K) (pos offset : Vector2i) : K :=
  let side := neighborSide data strength pressure pos offset
  towards offset (interfaceDiffusion (diffusionRate data strength pos) side.2) *
    (side.1 - pressureAt pressure pos)

def changed (data : CellArray K) (strength deltaTime : K) (pressure : Grid K) (pos : Vector2i) : K :=
  pressureAt pressure pos +
    (neighborOffsets.map (flux data strength pressure pos)).sum * deltaTime

/-- One iteration. Every cell reads the old buffer and writes its own entry of the new one. -/
def iteration (data : CellArray K) (settings : Settings K) (deltaTime : K) (pressure : Grid K) :
    Grid K :=
  pressure.mapCells fun x y current =>
    let cell := data.cellAt ⟨x, y⟩
    let newPressure := changed data settings.pressureDiffusionStrength deltaTime pressure ⟨x, y⟩
    if cell.isEmpty ∨ cell.materialType = .wall then current
    else if newPressure < 0 then 0 else newPressure

def iterations (settings : Settings K) : ℕ := (max 1 settings.pressureDiffusionIterations).toNat

def applyPressureDiffusion (data : CellArray K) (settings : Settings K) (deltaTime : K)
    (dynamicPressure : Grid K) : Grid K :=
  ((iteration data settings deltaTime)^[iterations settings] dynamicPressure).mapCells
    fun _ _ pressure => max 0 pressure

/-! ## What an iteration owes the cells -/

def IsOpen (data : CellArray K) (pos : Vector2i) : Prop :=
  data.InBounds pos.x pos.y ∧ (data.cellAt pos).isEmpty = false ∧
    (data.cellAt pos).materialType ≠ .wall

instance (data : CellArray K) (pos : Vector2i) : Decidable (IsOpen data pos) :=
  inferInstanceAs (Decidable (_ ∧ _ ∧ _))

def openCells (data : CellArray K) : Finset Vector2i :=
  (((Grid.coordinates data.width data.height).map fun (x, y) => (⟨x, y⟩ : Vector2i)).toFinset).filter
    (IsOpen data)

def surroundings (data : CellArray K) (pos : Vector2i) : Finset Vector2i :=
  insert pos ((openCells data).filter fun other => other - pos ∈ neighborOffsets)

/-- No interface between two open neighbours conducts better than the bound. -/
def BoundsInterfaces (data : CellArray K) (strength bound : K) : Prop :=
  ∀ pos ∈ openCells data, ∀ other ∈ openCells data, other - pos ∈ neighborOffsets →
    interfaceDiffusion (diffusionRate data strength pos)
      (data.cellAt other).materialType.pressureDiffusion ≤ bound

/-- A buffer of the world's size with no negative pressure. -/
structure Fits (data : CellArray K) (pressure : Grid K) : Prop where
  width : pressure.width = data.width
  height : pressure.height = data.height
  nonneg : ∀ pos, 0 ≤ pressureAt pressure pos

/-- What one iteration keeps. -/
structure Diffuses (data : CellArray K) (strength deltaTime : K) (before after : Grid K) : Prop where
  conserves : ∑ pos ∈ openCells data, pressureAt after pos =
    ∑ pos ∈ openCells data, pressureAt before pos
  bounded : ∀ pos ∈ openCells data, ∀ low high,
    (∀ other ∈ surroundings data pos,
      low ≤ pressureAt before other ∧ pressureAt before other ≤ high) →
        low ≤ pressureAt after pos ∧ pressureAt after pos ≤ high
  unclamped : ∀ pos ∈ openCells data,
    pressureAt after pos = changed data strength deltaTime before pos
  untouched : ∀ pos, ¬ IsOpen data pos → pressureAt after pos = pressureAt before pos

def iterated (data : CellArray K) (settings : Settings K) (deltaTime : K) (pressure : Grid K)
    (count : ℕ) : Grid K :=
  (iteration data settings deltaTime)^[count] pressure

/-- Open neighbours agree on how well they conduct. -/
def Agree (data : CellArray K) : Prop :=
  ∀ pos ∈ openCells data, ∀ other ∈ openCells data, other - pos ∈ neighborOffsets →
    ((data.cellAt pos).materialType.pressureDiffusion : K) =
      (data.cellAt other).materialType.pressureDiffusion

section

/-! ## An iteration as an exchange between places -/

variable {data : CellArray K} {strength deltaTime : K} {pressure : Grid K} {pos other : Vector2i}

theorem mem_openCells : pos ∈ openCells data ↔ IsOpen data pos := by
  rw [openCells, Finset.mem_filter, List.mem_toFinset, List.mem_map]
  constructor
  · intro ⟨_, isOpen⟩
    exact isOpen
  · intro isOpen
    exact ⟨⟨(pos.x, pos.y), Grid.mem_coordinates.mpr isOpen.1, rfl⟩, isOpen⟩

def exchange (data : CellArray K) (strength : K) : Diffusion Vector2i K where
  rate pos other :=
    if other - pos ∈ neighborOffsets then
      towards (other - pos) (interfaceDiffusion (diffusionRate data strength pos)
        (data.cellAt other).materialType.pressureDiffusion)
    else 0

theorem add_sub_cancel_offset (pos offset : Vector2i) : pos + offset - pos = offset := by
  ext
  · exact add_sub_cancel_left _ _
  · exact add_sub_cancel_left _ _

theorem add_sub_other (pos other : Vector2i) : pos + (other - pos) = other := by
  ext
  · exact add_sub_cancel _ _
  · exact add_sub_cancel _ _

omit [LinearOrder K] in
theorem sum_neighborOffsets (cells : Finset Vector2i) (value : Vector2i → K) (pos : Vector2i) :
    (neighborOffsets.map fun offset =>
      if pos + offset ∈ cells then value (pos + offset) else 0).sum =
        ∑ other ∈ cells, if other - pos ∈ neighborOffsets then value other else 0 := by
  have distinct : neighborOffsets.Nodup := by decide
  rw [← List.sum_toFinset _ distinct, ← Finset.sum_filter, ← Finset.sum_filter]
  refine Finset.sum_nbij' (pos + ·) (· - pos) ?_ ?_ ?_ ?_ ?_
  · intro offset member
    obtain ⟨listed, inside⟩ := Finset.mem_filter.mp member
    refine Finset.mem_filter.mpr ⟨inside, ?_⟩
    rw [add_sub_cancel_offset]
    exact List.mem_toFinset.mp listed
  · intro other member
    obtain ⟨inside, listed⟩ := Finset.mem_filter.mp member
    refine Finset.mem_filter.mpr ⟨List.mem_toFinset.mpr listed, ?_⟩
    rw [add_sub_other]
    exact inside
  · intro offset _
    exact add_sub_cancel_offset pos offset
  · intro other _
    exact add_sub_other pos other
  · intro offset _
    rfl

theorem flux_eq (data : CellArray K) (strength : K) (pressure : Grid K) (pos offset : Vector2i)
    (listed : offset ∈ neighborOffsets) :
    flux data strength pressure pos offset =
      if pos + offset ∈ openCells data then
        (exchange data strength).rate pos (pos + offset) *
          (pressureAt pressure (pos + offset) - pressureAt pressure pos)
      else 0 := by
  unfold flux neighborSide
  dsimp only
  by_cases inside : data.InBounds (pos + offset).x (pos + offset).y
  · by_cases wall : (data.cellAt (pos + offset)).materialType = .wall
    · have closed : pos + offset ∉ openCells data := fun member =>
        (mem_openCells.mp member).2.2 wall
      simp only [inside, wall, closed, not_true_eq_false, ↓reduceIte, sub_self, mul_zero]
    · cases empty : (data.cellAt (pos + offset)).isEmpty with
      | true =>
          have closed : pos + offset ∉ openCells data := fun member =>
            Bool.noConfusion (empty.symm.trans (mem_openCells.mp member).2.1)
          simp only [inside, wall, closed, not_true_eq_false, ↓reduceIte, sub_self, mul_zero]
      | false =>
          have isOpen : pos + offset ∈ openCells data := mem_openCells.mpr ⟨inside, empty, wall⟩
          simp only [inside, wall, isOpen, exchange, add_sub_cancel_offset, listed,
            treatAirAsBoundary, not_true_eq_false, Bool.false_eq_true, false_and, ↓reduceIte]
  · have closed : pos + offset ∉ openCells data := fun member =>
      inside (mem_openCells.mp member).1
    simp only [inside, closed, not_false_eq_true, ↓reduceIte, sub_self, mul_zero]

theorem changed_eq_step (data : CellArray K) (strength deltaTime : K) (pressure : Grid K)
    (pos : Vector2i) :
    changed data strength deltaTime pressure pos =
      (exchange data strength).step (openCells data) deltaTime (pressureAt pressure) pos := by
  have sides :=
    List.map_congr_left fun offset listed => flux_eq data strength pressure pos offset listed
  rw [changed, sides, sum_neighborOffsets (openCells data) (fun other =>
    (exchange data strength).rate pos other * (pressureAt pressure other - pressureAt pressure pos)),
    Diffusion.step]
  congr 2
  refine Finset.sum_congr rfl fun other _ => ?_
  by_cases beside : other - pos ∈ neighborOffsets
  · rw [if_pos beside]
  · simp [exchange, beside, zero_mul]

end

section

/-! ## The rates -/

variable [IsStrictOrderedRing K] {data : CellArray K} {strength deltaTime bound : K}
  {pos other : Vector2i}

theorem pressureDiffusion_bounds (material : Material) :
    0 ≤ (material.pressureDiffusion : K) ∧ (material.pressureDiffusion : K) ≤ 1 := by
  cases material with
  | air => exact ⟨zero_le_one, le_refl 1⟩
  | wall => exact ⟨le_refl 0, zero_le_one⟩
  | dirt | leaf | metal | root | sand | seed | water | wood =>
      simp only [Material.pressureDiffusion]
      constructor
      · positivity
      · norm_num

theorem interfaceDiffusion_bounds {rate neighbor : K} (rate_nonneg : 0 ≤ rate)
    (neighbor_nonneg : 0 ≤ neighbor) (neighbor_le : neighbor ≤ 1) :
    0 ≤ interfaceDiffusion rate neighbor ∧ interfaceDiffusion rate neighbor ≤ 2 := by
  have both : 0 < rate + neighbor + 1 / 10000000000 := by positivity
  constructor
  · exact div_nonneg (by positivity) both.le
  · rw [interfaceDiffusion, div_le_iff₀ both]
    have part : rate * neighbor ≤ rate := mul_le_of_le_one_right rate_nonneg neighbor_le
    linarith

theorem diagonalFactor_bounds : 0 ≤ (diagonalFactor : K) ∧ (diagonalFactor : K) ≤ 1 := by
  unfold diagonalFactor
  constructor
  · positivity
  · norm_num

theorem towards_mono {low high : K} (le : low ≤ high) :
    towards offset low ≤ towards offset high := by
  unfold towards
  split
  · exact mul_le_mul_of_nonneg_right le diagonalFactor_bounds.1
  · exact le

theorem towards_nonneg {interface : K} (nonneg : 0 ≤ interface) : 0 ≤ towards offset interface := by
  unfold towards
  split
  · exact mul_nonneg nonneg diagonalFactor_bounds.1
  · exact nonneg

theorem diffusionRate_nonneg (strong : 0 ≤ strength) (pos : Vector2i) :
    0 ≤ diffusionRate data strength pos :=
  mul_nonneg (pressureDiffusion_bounds _).1 strong

theorem rate_nonneg (strong : 0 ≤ strength) (pos other : Vector2i) :
    0 ≤ (exchange data strength).rate pos other := by
  simp only [exchange]
  split
  · obtain ⟨neighbor_nonneg, neighbor_le⟩ :=
      pressureDiffusion_bounds (K := K) (data.cellAt other).materialType
    exact towards_nonneg _ (interfaceDiffusion_bounds (diffusionRate_nonneg strong pos)
      neighbor_nonneg neighbor_le).1
  · exact le_refl 0

theorem sum_rates_le (nonneg : 0 ≤ bound) (bounds : BoundsInterfaces data strength bound)
    (isOpen : pos ∈ openCells data) :
    ∑ other ∈ openCells data, (exchange data strength).rate pos other ≤
      (4 + 4 * diagonalFactor) * bound := by
  have sides : ∑ other ∈ openCells data, (exchange data strength).rate pos other =
      (neighborOffsets.map fun offset => if pos + offset ∈ openCells data then
        (exchange data strength).rate pos (pos + offset) else 0).sum := by
    rw [sum_neighborOffsets (openCells data) ((exchange data strength).rate pos)]
    refine Finset.sum_congr rfl fun other _ => ?_
    simp only [exchange]
    split
    · rfl
    · rfl
  have each : ∀ offset ∈ neighborOffsets, (if pos + offset ∈ openCells data then
      (exchange data strength).rate pos (pos + offset) else 0) ≤ towards offset bound := by
    intro offset listed
    split
    case isTrue neighbor =>
      have beside : pos + offset - pos ∈ neighborOffsets := by
        rw [add_sub_cancel_offset]
        exact listed
      simp only [exchange, add_sub_cancel_offset, listed, ↓reduceIte]
      exact towards_mono offset (bounds pos isOpen _ neighbor beside)
    case isFalse => exact towards_nonneg offset nonneg
  calc _ ≤ (neighborOffsets.map fun offset => towards offset bound).sum := by
        rw [sides]
        exact List.sum_le_sum each
    _ = (4 + 4 * diagonalFactor) * bound := by
        simp [neighborOffsets, towards]
        ring

theorem stable_of_bound (bounds : BoundsInterfaces data strength bound) (forward : 0 ≤ deltaTime)
    (limited : (4 + 4 * diagonalFactor) * bound * deltaTime ≤ 1) (isOpen : pos ∈ openCells data) :
    (∑ other ∈ openCells data, (exchange data strength).rate pos other) * deltaTime ≤ 1 := by
  have widened : BoundsInterfaces data strength (max bound 0) :=
    fun pos isOpen other isOpen' beside =>
      (bounds pos isOpen other isOpen' beside).trans (le_max_left _ _)
  have moved := mul_le_mul_of_nonneg_right
    (sum_rates_le (le_max_right bound 0) widened isOpen) forward
  rcases max_choice bound 0 with same | zero
  · rw [same] at moved
    exact moved.trans limited
  · rw [zero, mul_zero, zero_mul] at moved
    exact moved.trans zero_le_one

theorem beside_of_beside (beside : other - pos ∈ neighborOffsets) :
    pos - other ∈ neighborOffsets := by
  have opposite : ∀ offset ∈ neighborOffsets, (⟨-offset.x, -offset.y⟩ : Vector2i) ∈
      neighborOffsets := by decide
  have turned : pos - other = ⟨-(other - pos).x, -(other - pos).y⟩ :=
    Vector2i.ext (neg_sub _ _).symm (neg_sub _ _).symm
  rw [turned]
  exact opposite _ beside

theorem beside_symm : other - pos ∈ neighborOffsets ↔ pos - other ∈ neighborOffsets :=
  ⟨beside_of_beside, beside_of_beside⟩

omit [LinearOrder K] [IsStrictOrderedRing K] in
theorem towards_symm (pos other : Vector2i) (interface : K) :
    towards (pos - other) interface = towards (other - pos) interface := by
  have same : ((pos - other).x ≠ 0 ∧ (pos - other).y ≠ 0) ↔
      ((other - pos).x ≠ 0 ∧ (other - pos).y ≠ 0) := by
    simp only [Vector2i.sub_x, Vector2i.sub_y]
    omega
  simp only [towards, same]

end

section

/-! ## One iteration -/

variable {data : CellArray K} {settings : Settings K} {deltaTime bound : K}
  {pressure : Grid K} {pos other : Vector2i}

theorem pressureAt_iteration (fits : Fits data pressure) (pos : Vector2i) :
    pressureAt (iteration data settings deltaTime pressure) pos =
      if IsOpen data pos then
        let newPressure := changed data settings.pressureDiffusionStrength deltaTime pressure pos
        if newPressure < 0 then 0 else newPressure
      else pressureAt pressure pos := by
  have dims : pressure.InBounds pos.x pos.y ↔ data.InBounds pos.x pos.y := by
    simp [Grid.InBounds, fits.width, fits.height]
  unfold pressureAt iteration
  rw [Grid.get?_mapCells]
  cases read : pressure.get? pos.x pos.y with
  | none =>
      have outside : ¬ data.InBounds pos.x pos.y := dims.not.mp (Grid.get?_eq_none_iff.mp read)
      have closed : ¬ IsOpen data pos := fun isOpen => outside isOpen.1
      rw [if_neg closed]
      rfl
  | some current =>
      have inside : data.InBounds pos.x pos.y := by
        rw [← dims, ← Grid.get?_isSome_iff, read]
        rfl
      simp only [Option.map_some, Option.getD_some]
      by_cases skipped : (data.cellAt pos).isEmpty = true ∨ (data.cellAt pos).materialType = .wall
      · have closed : ¬ IsOpen data pos := by
          intro isOpen
          obtain ⟨_, filled, notWall⟩ := isOpen
          rcases skipped with empty | wall
          · exact Bool.noConfusion (empty.symm.trans filled)
          · exact notWall wall
        rw [if_pos skipped, if_neg closed]
      · obtain ⟨filled, notWall⟩ := not_or.mp skipped
        have isOpen : IsOpen data pos := ⟨inside, Bool.eq_false_iff.mpr filled, notWall⟩
        rw [if_neg skipped, if_pos isOpen]

theorem Fits.iteration (fits : Fits data pressure) (settings : Settings K) (deltaTime : K) :
    Fits data (iteration data settings deltaTime pressure) where
  width := fits.width
  height := fits.height
  nonneg := by
    intro pos
    rw [pressureAt_iteration fits]
    dsimp only
    split
    · split
      · exact le_refl 0
      case isFalse clamped => exact not_lt.mp clamped
    · exact fits.nonneg pos

theorem Fits.iterated (fits : Fits data pressure) (settings : Settings K) (deltaTime : K)
    (count : ℕ) : Fits data (iterated data settings deltaTime pressure count) := by
  induction count with
  | zero => exact fits
  | succ count ih =>
      rw [PressureDiffusion.iterated, Function.iterate_succ_apply']
      exact ih.iteration settings deltaTime

theorem iterated_succ (count : ℕ) :
    iterated data settings deltaTime pressure (count + 1) =
      iteration data settings deltaTime (iterated data settings deltaTime pressure count) :=
  Function.iterate_succ_apply' _ _ _

variable [IsStrictOrderedRing K]

omit [IsStrictOrderedRing K] in
theorem mem_surroundings (inside : other ∈ openCells data)
    (apart : (exchange data settings.pressureDiffusionStrength).rate pos other ≠ 0) :
    other ∈ surroundings data pos := by
  apply Finset.mem_insert_of_mem (Finset.mem_filter.mpr ⟨inside, ?_⟩)
  by_contra away
  apply apart
  simp [exchange, away]

section

variable (strong : 0 ≤ settings.pressureDiffusionStrength) (forward : 0 ≤ deltaTime)
  (bounds : BoundsInterfaces data settings.pressureDiffusionStrength bound)
  (limited : (4 + 4 * diagonalFactor) * bound * deltaTime ≤ 1)

include strong forward bounds limited

theorem le_changed (isOpen : pos ∈ openCells data) {low : K}
    (above : ∀ other ∈ surroundings data pos, low ≤ pressureAt pressure other) :
    low ≤ changed data settings.pressureDiffusionStrength deltaTime pressure pos := by
  rw [changed_eq_step]
  apply Diffusion.le_step (fun other _ => rate_nonneg strong pos other) forward
    (stable_of_bound bounds forward limited isOpen) (above pos (Finset.mem_insert_self _ _))
  intro other inside apart
  exact above other (mem_surroundings inside apart)

theorem changed_le (isOpen : pos ∈ openCells data) {high : K}
    (below : ∀ other ∈ surroundings data pos, pressureAt pressure other ≤ high) :
    changed data settings.pressureDiffusionStrength deltaTime pressure pos ≤ high := by
  rw [changed_eq_step]
  apply Diffusion.step_le (fun other _ => rate_nonneg strong pos other) forward
    (stable_of_bound bounds forward limited isOpen) (below pos (Finset.mem_insert_self _ _))
  intro other inside apart
  exact below other (mem_surroundings inside apart)

theorem pressureAt_iteration_open (fits : Fits data pressure) (isOpen : pos ∈ openCells data) :
    pressureAt (iteration data settings deltaTime pressure) pos =
      changed data settings.pressureDiffusionStrength deltaTime pressure pos := by
  have nonneg := le_changed strong forward bounds limited isOpen
    (fun other _ => fits.nonneg other)
  rw [pressureAt_iteration fits, if_pos (mem_openCells.mp isOpen)]
  exact if_neg (not_lt.mpr nonneg)

theorem sum_iteration (fits : Fits data pressure) :
    ∑ pos ∈ openCells data, pressureAt (iteration data settings deltaTime pressure) pos =
      ∑ pos ∈ openCells data, pressureAt pressure pos +
        (∑ pos ∈ openCells data, pressureAt pressure pos *
          (exchange data settings.pressureDiffusionStrength).imbalance (openCells data) pos) *
            deltaTime := by
  rw [← Diffusion.sum_step]
  refine Finset.sum_congr rfl fun pos isOpen => ?_
  rw [pressureAt_iteration_open strong forward bounds limited fits isOpen, changed_eq_step]

theorem diffuses_of_symmetric (fits : Fits data pressure)
    (symmetric : ∀ pos ∈ openCells data, ∀ other ∈ openCells data,
      (exchange data settings.pressureDiffusionStrength).rate other pos =
        (exchange data settings.pressureDiffusionStrength).rate pos other) :
    Diffuses data settings.pressureDiffusionStrength deltaTime pressure
      (iteration data settings deltaTime pressure) where
  conserves := by
    rw [sum_iteration strong forward bounds limited fits]
    have even : ∑ pos ∈ openCells data, pressureAt pressure pos *
        (exchange data settings.pressureDiffusionStrength).imbalance (openCells data) pos = 0 := by
      refine Finset.sum_eq_zero fun pos isOpen => ?_
      rw [Diffusion.imbalance_of_symmetric _ _ (symmetric pos isOpen), mul_zero]
    rw [even, zero_mul, add_zero]
  bounded := by
    intro pos isOpen low high between
    rw [pressureAt_iteration_open strong forward bounds limited fits isOpen]
    exact ⟨le_changed strong forward bounds limited isOpen fun other near =>
        (between other near).1,
      changed_le strong forward bounds limited isOpen fun other near => (between other near).2⟩
  unclamped := fun pos isOpen =>
    pressureAt_iteration_open strong forward bounds limited fits isOpen
  untouched := by
    intro pos closed
    rw [pressureAt_iteration fits, if_neg closed]

end

end

section

/-! ## When interfaces look alike from both sides -/

variable [IsStrictOrderedRing K] {data : CellArray K} {strength : K} {pos other : Vector2i}
variable {first second : K}

omit [LinearOrder K] [IsStrictOrderedRing K] in
theorem interface_symm (alike : strength = 0 ∨ strength = 1 ∨ first = second) :
    interfaceDiffusion (first * strength) second = interfaceDiffusion (second * strength) first := by
  rcases alike with rfl | rfl | rfl
  · simp [interfaceDiffusion, mul_zero, zero_mul]
  · simp only [interfaceDiffusion, mul_one]
    rw [add_comm second first, mul_right_comm]
  · rfl

theorem interface_prefers (strong : 0 ≤ strength) (nonneg : 0 ≤ second) (higher : second ≤ first) :
    (strength ≤ 1 → interfaceDiffusion (second * strength) first ≤
      interfaceDiffusion (first * strength) second) ∧
    (1 ≤ strength → interfaceDiffusion (first * strength) second ≤
      interfaceDiffusion (second * strength) first) := by
  have first_nonneg : 0 ≤ first := nonneg.trans higher
  have numerator : 2 * (first * strength) * second = 2 * (second * strength) * first := by ring
  have product : 0 ≤ 2 * (second * strength) * first := by positivity
  have left : 0 < second * strength + first + 1 / 10000000000 := by positivity
  have right : 0 < first * strength + second + 1 / 10000000000 := by positivity
  unfold interfaceDiffusion
  rw [numerator]
  constructor
  · intro weak
    apply div_le_div_of_nonneg_left product right
    nlinarith [mul_nonneg (sub_nonneg.mpr weak) (sub_nonneg.mpr higher)]
  · intro mighty
    apply div_le_div_of_nonneg_left product left
    nlinarith [mul_nonneg (sub_nonneg.mpr mighty) (sub_nonneg.mpr higher)]

theorem interface_ne (strong : 0 < strength) (first_pos : 0 < first) (second_pos : 0 < second)
    (uneven : strength ≠ 1) (apart : first ≠ second) :
    interfaceDiffusion (first * strength) second ≠ interfaceDiffusion (second * strength) first := by
  have numerator : 2 * (first * strength) * second = 2 * (second * strength) * first := by ring
  have product : 2 * (second * strength) * first ≠ 0 := by positivity
  have left : second * strength + first + 1 / 10000000000 ≠ 0 := by positivity
  have right : first * strength + second + 1 / 10000000000 ≠ 0 := by positivity
  unfold interfaceDiffusion
  rw [numerator]
  intro same
  rw [div_eq_div_iff right left] at same
  have denominators := mul_left_cancel₀ product same
  have zero : (strength - 1) * (second - first) = 0 := by linear_combination denominators
  rcases mul_eq_zero.mp zero with one | equal
  · exact uneven (sub_eq_zero.mp one)
  · exact apart (sub_eq_zero.mp equal).symm

theorem towards_injective (same : towards offset first = towards offset second) :
    first = second := by
  have conducts : (diagonalFactor : K) ≠ 0 := by
    unfold diagonalFactor
    positivity
  unfold towards at same
  split at same
  · exact mul_right_cancel₀ conducts same
  · exact same

omit [LinearOrder K] [IsStrictOrderedRing K] in
theorem rate_symm_of_interface
    (alike : other - pos ∈ neighborOffsets →
      interfaceDiffusion (diffusionRate data strength pos)
          (data.cellAt other).materialType.pressureDiffusion =
        interfaceDiffusion (diffusionRate data strength other)
          (data.cellAt pos).materialType.pressureDiffusion) :
    (exchange data strength).rate other pos = (exchange data strength).rate pos other := by
  by_cases beside : other - pos ∈ neighborOffsets
  · simp [exchange, beside, beside_symm.mp beside, alike beside, towards_symm pos other]
  · simp [exchange, beside, beside_symm.not.mp beside]

theorem pressureDiffusion_pos {material : Material} (notWall : material ≠ .wall) :
    0 < (material.pressureDiffusion : K) := by
  cases material with
  | wall => exact absurd rfl notWall
  | air | dirt | leaf | metal | root | sand | seed | water | wood =>
      simp only [Material.pressureDiffusion]
      positivity

/-- A rate into the worse conductor is no lower than the rate back, if the strength is below one;
above one it is the other way around. -/
theorem rate_prefers (strong : 0 ≤ strength) {pos other : Vector2i}
    (higher : ((data.cellAt other).materialType.pressureDiffusion : K) ≤
      (data.cellAt pos).materialType.pressureDiffusion) :
    (strength ≤ 1 →
      (exchange data strength).rate other pos ≤ (exchange data strength).rate pos other) ∧
    (1 ≤ strength →
      (exchange data strength).rate pos other ≤ (exchange data strength).rate other pos) := by
  obtain ⟨weak, mighty⟩ := interface_prefers strong (pressureDiffusion_bounds _).1 higher
  by_cases beside : other - pos ∈ neighborOffsets
  · simp only [exchange, beside, beside_symm.mp beside, ↓reduceIte, towards_symm pos other]
    exact ⟨fun le => towards_mono _ (weak le), fun le => towards_mono _ (mighty le)⟩
  · simp [exchange, beside, beside_symm.not.mp beside]

theorem exists_imbalance (strong : 0 < strength) (uneven : strength ≠ 1)
    (disagree : ¬ Agree data) :
    ∃ pos ∈ openCells data, (exchange data strength).imbalance (openCells data) pos < 0 := by
  unfold Agree at disagree
  push Not at disagree
  obtain ⟨pos, isOpen, other, isOpen', beside, apart⟩ := disagree
  have asymmetric : (exchange data strength).rate pos other ≠
      (exchange data strength).rate other pos := by
    intro same
    simp only [exchange, beside, beside_symm.mp beside, ↓reduceIte, towards_symm pos other] at same
    exact interface_ne strong (pressureDiffusion_pos (mem_openCells.mp isOpen).2.2)
      (pressureDiffusion_pos (mem_openCells.mp isOpen').2.2) uneven apart
      (towards_injective _ same)
  have level : ∀ first second : Vector2i,
      ((data.cellAt first).materialType.pressureDiffusion : K) =
        (data.cellAt second).materialType.pressureDiffusion →
      (exchange data strength).rate first second = (exchange data strength).rate second first := by
    intro first second same
    apply rate_symm_of_interface
    intro _
    exact interface_symm (Or.inr (Or.inr same.symm))
  rcases uneven.lt_or_gt with weak | mighty
  · apply Diffusion.exists_unbalanced
      (fun pos => ((data.cellAt pos).materialType.pressureDiffusion : K)) _ level isOpen isOpen'
      asymmetric
    intro first second lower
    exact (rate_prefers strong.le lower.le).1 weak.le
  · apply Diffusion.exists_unbalanced
      (fun pos => -((data.cellAt pos).materialType.pressureDiffusion : K)) _ _ isOpen isOpen'
      asymmetric
    · intro first second lower
      exact (rate_prefers strong.le (neg_lt_neg_iff.mp lower).le).2 mighty.le
    · intro first second same
      exact level first second (neg_inj.mp same)

end

section

/-! ## All iterations -/

variable [IsStrictOrderedRing K] {data : CellArray K} {settings : Settings K}

def bump (data : CellArray K) (pos : Vector2i) : Grid K :=
  .generate data.width data.height fun x y => if (⟨x, y⟩ : Vector2i) = pos then 1 else 0

omit [LinearOrder K] [IsStrictOrderedRing K] in
theorem pressureAt_bump {pos : Vector2i} (inside : data.InBounds pos.x pos.y) (other : Vector2i) :
    pressureAt (bump data pos) other = if other = pos then 1 else 0 := by
  rw [pressureAt, bump, Grid.get?_generate]
  by_cases same : other = pos
  · have region : 0 ≤ other.x ∧ 0 ≤ other.y ∧ other.x < data.width ∧ other.y < data.height :=
      same ▸ inside
    rw [if_pos region, Option.getD_some]
  · rw [if_neg same]
    split
    · exact Option.getD_some
    · rfl

theorem fits_bump {pos : Vector2i} (inside : data.InBounds pos.x pos.y) :
    Fits data (bump data pos) where
  width := rfl
  height := rfl
  nonneg := by
    intro other
    rw [pressureAt_bump inside]
    split
    · exact zero_le_one
    · exact le_refl 0

/-- **Pressure diffusion.** Within the stability limit of the interfaces that occur, every iteration
from every pressure field conserves the pressure of the open cells, keeps each between those
around it without being clamped, and leaves the other cells alone, exactly when the strength is
zero or one or all open neighbours have equal coefficients; shorter time steps change nothing
about that. -/
theorem diffuses_iff (strong : 0 ≤ settings.pressureDiffusionStrength) {longest : K}
    (some_time : 0 < longest) :
    (∀ pressure, Fits data pressure → ∀ deltaTime bound, 0 ≤ deltaTime → deltaTime ≤ longest →
      BoundsInterfaces data settings.pressureDiffusionStrength bound →
      (4 + 4 * diagonalFactor) * bound * deltaTime ≤ 1 → ∀ count < iterations settings,
        Diffuses data settings.pressureDiffusionStrength deltaTime
          (iterated data settings deltaTime pressure count)
          (iterated data settings deltaTime pressure (count + 1))) ↔
      settings.pressureDiffusionStrength = 0 ∨ settings.pressureDiffusionStrength = 1 ∨
        Agree data := by
  constructor
  · intro diffuses
    by_contra uneven
    obtain ⟨nonzero, not_one, disagree⟩ := not_or.mp uneven |>.imp_right not_or.mp
    have positive := strong.lt_of_ne (Ne.symm nonzero)
    obtain ⟨pos, isOpen, lack⟩ := exists_imbalance positive not_one disagree
    have inside := (mem_openCells.mp isOpen).1
    have bounds : BoundsInterfaces data settings.pressureDiffusionStrength 2 := by
      intro first _ second _ _
      exact (interfaceDiffusion_bounds (diffusionRate_nonneg strong first)
        (pressureDiffusion_bounds _).1 (pressureDiffusion_bounds _).2).2
    obtain ⟨deltaTime, forward, short, limited⟩ : ∃ deltaTime : K, 0 < deltaTime ∧
        deltaTime ≤ longest ∧ (4 + 4 * diagonalFactor) * 2 * deltaTime ≤ 1 := by
      have nonneg : (0 : K) ≤ diagonalFactor := diagonalFactor_bounds.1
      have limit : (0 : K) < (4 + 4 * diagonalFactor) * 2 := by positivity
      refine ⟨min longest (1 / ((4 + 4 * diagonalFactor) * 2)),
        lt_min some_time (one_div_pos.mpr limit), min_le_left _ _, ?_⟩
      rw [mul_comm, ← le_div_iff₀ limit]
      exact min_le_right _ _
    have first : 0 < iterations settings := by
      unfold iterations
      omega
    have kept := (diffuses (bump data pos) (fits_bump inside) deltaTime 2 forward.le short bounds
      limited 0 first).conserves
    rw [iterated_succ, show iterated data settings _ (bump data pos) 0 = bump data pos from rfl,
      sum_iteration strong forward.le bounds limited (fits_bump inside)] at kept
    have alone : ∑ other ∈ openCells data, pressureAt (bump data pos) other *
        (exchange data settings.pressureDiffusionStrength).imbalance (openCells data) other =
          (exchange data settings.pressureDiffusionStrength).imbalance (openCells data) pos := by
      rw [Finset.sum_eq_single pos]
      · rw [pressureAt_bump inside, if_pos rfl, one_mul]
      · intro other _ apart
        rw [pressureAt_bump inside, if_neg apart, zero_mul]
      · exact fun missing => absurd isOpen missing
    rw [alone] at kept
    have drained := mul_neg_of_neg_of_pos lack forward
    linarith
  · intro alike pressure fits deltaTime bound forward _ bounds limited count _
    rw [iterated_succ]
    apply diffuses_of_symmetric strong forward bounds limited
      (fits.iterated settings deltaTime count)
    intro pos isOpen other isOpen'
    apply rate_symm_of_interface
    intro beside
    apply interface_symm
    exact alike.imp_right (Or.imp_right fun agree => agree pos isOpen other isOpen' beside)

end

section

/-! ## Two cells side by side -/

def pair (left right : Material) : CellArray ℚ where
  toGrid := .generate 2 1 fun x _ =>
    { Cell.blank with materialType := if x = 0 then left else right, fillRatio := 1 }
  width_pos := Nat.two_pos
  height_pos := Nat.one_pos
  width_le := two_le_limit
  height_le := one_le_limit

def defaultSettings : Settings ℚ where
  pressureDiffusionStrength := 10
  pressureDiffusionIterations := 2

theorem bounds_pair (left right : Material) :
    BoundsInterfaces (pair left right) defaultSettings.pressureDiffusionStrength 2 := by
  intro pos _ other _ _
  exact (interfaceDiffusion_bounds (diffusionRate_nonneg (Nat.ofNat_nonneg 10) pos)
    (pressureDiffusion_bounds _).1 (pressureDiffusion_bounds _).2).2

/-- Between water and dirt, one unit of pressure in the water becomes less. -/
theorem not_diffuses :
    ¬ ∀ (data : CellArray ℚ) (settings : Settings ℚ), 0 ≤ settings.pressureDiffusionStrength →
      ∀ pressure, Fits data pressure → ∀ deltaTime bound, 0 ≤ deltaTime →
        BoundsInterfaces data settings.pressureDiffusionStrength bound →
        (4 + 4 * diagonalFactor) * bound * deltaTime ≤ 1 → ∀ count < iterations settings,
          Diffuses data settings.pressureDiffusionStrength deltaTime
            (iterated data settings deltaTime pressure count)
            (iterated data settings deltaTime pressure (count + 1)) := by
  intro all
  have fits : Fits (pair .water .dirt) (bump (pair .water .dirt) ⟨0, 0⟩) :=
    fits_bump (by decide)
  have conserves := (all (pair .water .dirt) defaultSettings (by decide +kernel) _ fits (1 / 14) 2
    (by decide +kernel) (bounds_pair _ _) (by decide +kernel) 0 (by decide)).conserves
  revert conserves
  decide +kernel

theorem diffuses_water :
    Diffuses (pair .water .water) 10 (1 / 14)
      (iterated (pair .water .water) defaultSettings (1 / 14) (bump (pair .water .water) ⟨0, 0⟩) 0)
      (iterated (pair .water .water) defaultSettings (1 / 14) (bump (pair .water .water) ⟨0, 0⟩)
        1) := by
  have agree : Agree (pair .water .water) := by
    have same : ∀ pos ∈ openCells (pair .water .water),
        ((pair .water .water).cellAt pos).materialType = .water := by
      intro pos isOpen
      have region : 0 ≤ pos.x ∧ 0 ≤ pos.y ∧ pos.x < (2 : ℕ) ∧ pos.y < (1 : ℕ) :=
        (mem_openCells.mp isOpen).1
      rw [CellArray.cellAt, CellArray.at, pair, Grid.get?_generate, if_pos region,
        Option.getD_some, ite_self]
    intro pos isOpen other isOpen' _
    rw [same pos isOpen, same other isOpen']
  have fits : Fits (pair .water .water) (bump (pair .water .water) ⟨0, 0⟩) :=
    fits_bump (by decide)
  exact (diffuses_iff (Nat.ofNat_nonneg 10) (zero_lt_one' ℚ)).mpr (Or.inr (Or.inr agree)) _ fits
    (1 / 14) 2 (by decide +kernel) (by decide +kernel) (bounds_pair _ _) (by decide +kernel) 0
    (by decide)

end

end PressureDiffusion

end DirtSim
