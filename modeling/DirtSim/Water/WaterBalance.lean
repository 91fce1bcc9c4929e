import DirtSim.Foundation.Pouring
import DirtSim.Foundation.Transition
import DirtSim.Water.MacProjectionWaterSim

/-! # The balance of the water solver

Displacing water is emptying a vessel into others (`displaced_poured`), and what crosses a face is
decanted (`advectFace_cases`). A step loses only what its displacements are left with; but the four
cells diagonal to one are not tried (`MacProjectionWaterSim.keepsWater_iff`).
-/

namespace DirtSim

open Foundation Pouring

variable {K : Type*} [Field K] [LinearOrder K]

namespace MacProjectionWaterSim

/-! ## What a step owes the water -/

def openCells (data : CellArray K) (width height : ℕ) : Finset Vector2i :=
  (cells width height).toFinset.filter fun pos => solidMask data pos = false

def totalVolume (waterVolume : Grid K) : K :=
  ∑ pos ∈ (cells waterVolume.width waterVolume.height).toFinset, valueAt waterVolume pos

def lost (data : CellArray K) (displacementMaxRadius : ℤ) (waterVolume : Grid K)
    (pos : Vector2i) : K :=
  if solidMask data pos then
    (displaced data displacementMaxRadius waterVolume pos).remaining
  else 0

/-- The water that all cells lose, each in its turn. -/
def lostInAll (data : CellArray K) (displacementMaxRadius : ℤ) : Scan K → List Vector2i → K
  | _, [] => 0
  | scan, pos :: later => lost data displacementMaxRadius scan.waterVolume pos +
      lostInAll data displacementMaxRadius (displaceCell data displacementMaxRadius scan pos) later

/-- A property of every turn of the scan, over the volumes before it. -/
def AtEachTurn (data : CellArray K) (displacementMaxRadius : ℤ) (waterVolume : Grid K)
    (property : Grid K → Vector2i → Prop) : Prop :=
  AtEachStep (fun scan pos => some (displaceCell data displacementMaxRadius scan pos))
    (fun scan pos => property scan.waterVolume pos)
    { waterVolume := waterVolume, totalWaterVolume := 0 }
    (cells waterVolume.width waterVolume.height)

/-- A cell loses at most its own water, and leaves no room in any open cell within the radius when
it does. -/
def Wasteless (data : CellArray K) (displacementMaxRadius : ℤ) (waterVolume : Grid K)
    (pos : Vector2i) : Prop :=
  (0 ≤ lost data displacementMaxRadius waterVolume pos ∧
      lost data displacementMaxRadius waterVolume pos ≤ valueAt waterVolume pos) ∧
    (0 < lost data displacementMaxRadius waterVolume pos →
      ∀ other ∈ openCells data waterVolume.width waterVolume.height,
        distance pos other ≤ displacementMaxRadius →
          valueAt (displaced data displacementMaxRadius waterVolume pos).waterVolume other = 1)

/-- Water moves at most from one side of a face to the other, and only between two open cells. -/
def Crosses (data : CellArray K) (before after : Grid K) (axis : Axis) (face : Vector2i) : Prop :=
  after = before ∨
    (axis.nearCell face ∈ openCells data before.width before.height ∧
      face ∈ openCells data before.width before.height ∧
      valueAt after (axis.nearCell face) + valueAt after face =
        valueAt before (axis.nearCell face) + valueAt before face ∧
      ∀ other, other ≠ axis.nearCell face → other ≠ face →
        valueAt after other = valueAt before other)

/-- What a step from some volumes leaves behind. -/
structure KeepsWater (data : CellArray K) (gravity deltaTimeSeconds : K)
    (sim : MacProjectionWaterSim K) : Prop where
  bounded : Fits 1 (valueAt (sim.advanceTime data gravity deltaTimeSeconds).waterVolume)
  dry : ∀ pos, solidMask data pos →
    valueAt (sim.advanceTime data gravity deltaTimeSeconds).waterVolume pos = 0
  total : totalVolume (sim.advanceTime data gravity deltaTimeSeconds).waterVolume =
    totalVolume sim.waterVolume - lostInAll data sim.parameters.displacementMaxRadius
      { waterVolume := sim.waterVolume, totalWaterVolume := 0 }
      (cells sim.waterVolume.width sim.waterVolume.height)
  wasteless : AtEachTurn data sim.parameters.displacementMaxRadius sim.waterVolume
    (Wasteless data sim.parameters.displacementMaxRadius)
  closed : ∀ faceVelocity : Axis → Grid K,
    let waterVolume :=
      (displace data sim.parameters.displacementMaxRadius sim.waterVolume).waterVolume
    AtEachStep (fun scratch visited => some
        (advectFace data sim.parameters deltaTimeSeconds faceVelocity waterVolume scratch visited))
      (fun scratch visited => Crosses data scratch
        (advectFace data sim.parameters deltaTimeSeconds faceVelocity waterVolume scratch visited)
        visited.1 visited.2)
      waterVolume (innerFaces waterVolume.width waterVolume.height)

/-- The open cells that the water of a cell is offered to: beside it, and from radius two on. -/
def offered (data : CellArray K) (displacementMaxRadius : ℤ) (width height : ℕ)
    (pos : Vector2i) : Finset Vector2i :=
  (openCells data width height).filter fun other =>
    other ∈ sides pos ∨ 2 ≤ distance pos other ∧ distance pos other ≤ displacementMaxRadius

/-- The water of a solid cell fits into the open cells that are tried, or its diagonal neighbours
are out of reach or have no room. -/
def FindsRoom (data : CellArray K) (displacementMaxRadius : ℤ) (waterVolume : Grid K)
    (pos : Vector2i) : Prop :=
  solidMask data pos →
    valueAt waterVolume pos ≤
        ∑ other ∈ offered data displacementMaxRadius waterVolume.width waterVolume.height pos,
          (1 - valueAt waterVolume other) ∨
      displacementMaxRadius < 1 ∨
      ∀ other ∈ openCells data waterVolume.width waterVolume.height, IsDiagonal pos other →
        valueAt waterVolume other = 1

section

variable {pos : Vector2i}

/-! ## Fields of volumes -/

theorem mem_cells {width height : ℕ} :
    pos ∈ cells width height ↔ 0 ≤ pos.x ∧ 0 ≤ pos.y ∧ pos.x < width ∧ pos.y < height := by
  rw [← Grid.mem_coordinates, cells, List.mem_map]
  constructor
  · intro ⟨_, listed, same⟩
    rw [← same]
    exact listed
  · intro listed
    exact ⟨(pos.x, pos.y), listed, rfl⟩

theorem mem_openCells {data : CellArray K} {width height : ℕ} :
    pos ∈ openCells data width height ↔
      (0 ≤ pos.x ∧ 0 ≤ pos.y ∧ pos.x < width ∧ pos.y < height) ∧ solidMask data pos = false := by
  rw [openCells, Finset.mem_filter, List.mem_toFinset, mem_cells]

section

omit [LinearOrder K]

theorem valueAt_outside {field : Grid K} (outside : ¬ field.InBounds pos.x pos.y) :
    valueAt field pos = 0 := by
  rw [valueAt, Grid.get?_of_not_inBounds outside, Option.getD_none]

theorem valueAt_set {field : Grid K} (inside : field.InBounds pos.x pos.y) (value : K) :
    valueAt (field.set pos.x pos.y value) = Function.update (valueAt field) pos value := by
  funext other
  by_cases same : other = pos
  · rw [same, valueAt, Grid.get?_set_self inside, Option.getD_some, Function.update_self]
  · have apart : (other.x, other.y) ≠ (pos.x, pos.y) := fun equal =>
      same (Vector2i.ext (congrArg Prod.fst equal) (congrArg Prod.snd equal))
    rw [valueAt, Grid.get?_set_ne _ _ apart, Function.update_of_ne same, valueAt]

end

end

section

/-! ## Displacement as pouring -/

variable {data : CellArray K} {displacementMaxRadius : ℤ} {waterVolume : Grid K}
  {state : Displacement K} {pos other : Vector2i}

/-- The volumes are the levels, and the remaining water is in hand. -/
def Displacement.poured (state : Displacement K) : Pouring Vector2i K :=
  ⟨valueAt state.waterVolume, state.remaining⟩

@[simp] theorem tryDisplace_width :
    (tryDisplace data state pos).waterVolume.width = state.waterVolume.width := by
  unfold tryDisplace
  dsimp only
  split_ifs
  case neg => exact Grid.set_width ..
  all_goals rfl

@[simp] theorem tryDisplace_height :
    (tryDisplace data state pos).waterVolume.height = state.waterVolume.height := by
  unfold tryDisplace
  dsimp only
  split_ifs
  case neg => exact Grid.set_height ..
  all_goals rfl

theorem tryDisplace_poured (data : CellArray K) (some_rest : 0 ≤ state.remaining)
    (pos : Vector2i) :
    (tryDisplace data state pos).poured =
      if pos ∈ openCells data state.waterVolume.width state.waterVolume.height then
        pour 1 state.poured pos
      else state.poured := by
  have room_eq : room 1 state.poured.level pos = max 0 (1 - valueAt state.waterVolume pos) := rfl
  unfold tryDisplace
  by_cases empty : state.remaining ≤ 0
  · have nothing : min (room 1 state.poured.level pos) state.poured.rest = 0 := by
      rw [show state.poured.rest = 0 from le_antisymm empty some_rest, min_eq_right room_nonneg]
    rw [if_pos empty, pour_eq_self nothing, ite_self]
  · by_cases inside : state.waterVolume.InBounds pos.x pos.y
    · cases solid : solidMask data pos with
      | true =>
          have closed : pos ∉ openCells data state.waterVolume.width state.waterVolume.height :=
            fun member => Bool.noConfusion (solid.symm.trans (mem_openCells.mp member).2)
          simp [empty, inside, closed]
      | false =>
          have isOpen := mem_openCells.mpr ⟨inside, solid⟩
          simp only [empty, inside, isOpen, not_true_eq_false, Bool.false_eq_true, ↓reduceIte]
          split_ifs with full
          · have nothing : min (room 1 state.poured.level pos) state.poured.rest = 0 := by
              rw [room_eq, le_antisymm full (le_max_left _ _), min_eq_left]
              exact some_rest
            rw [pour_eq_self nothing]
          · rw [Displacement.poured, valueAt_set inside]
            rfl
    · have closed : pos ∉ openCells data state.waterVolume.width state.waterVolume.height :=
        fun member => inside (mem_openCells.mp member).1
      simp [empty, inside, closed]

theorem displaced_size (targets : List Vector2i) (state : Displacement K) :
    (targets.foldl (tryDisplace data) state).waterVolume.width = state.waterVolume.width ∧
      (targets.foldl (tryDisplace data) state).waterVolume.height = state.waterVolume.height := by
  induction targets generalizing state with
  | nil => exact ⟨rfl, rfl⟩
  | cons pos targets ih =>
      obtain ⟨width, height⟩ := ih (tryDisplace data state pos)
      rw [tryDisplace_width] at width
      rw [tryDisplace_height] at height
      exact ⟨width, height⟩

theorem foldl_tryDisplace_poured [IsStrictOrderedRing K] {targets : List Vector2i} (some_rest : 0 ≤ state.remaining) :
    (targets.foldl (tryDisplace data) state).poured =
      pourAll 1 state.poured (targets.filter fun pos =>
        pos ∈ openCells data state.waterVolume.width state.waterVolume.height) := by
  induction targets generalizing state with
  | nil => rfl
  | cons pos targets ih =>
      have first := tryDisplace_poured data some_rest pos
      have rest_nonneg : 0 ≤ (tryDisplace data state pos).remaining := by
        change 0 ≤ (tryDisplace data state pos).poured.rest
        rw [first]
        split
        · exact rest_pour_nonneg
        · exact some_rest
      have later := ih rest_nonneg
      rw [tryDisplace_width, tryDisplace_height, first] at later
      rw [List.foldl_cons, later, List.filter_cons]
      by_cases isOpen : pos ∈ openCells data state.waterVolume.width state.waterVolume.height
      · simp only [isOpen, ↓reduceIte, decide_true]
        rfl
      · simp [isOpen]

theorem foldl_tryDisplace_of_empty {targets : List Vector2i} (empty : state.remaining ≤ 0) :
    targets.foldl (tryDisplace data) state = state := by
  induction targets with
  | nil => rfl
  | cons pos targets ih =>
      have first : tryDisplace data state pos = state := by
        rw [tryDisplace, if_pos empty]
      rw [List.foldl_cons, first, ih]

def targets (displacementMaxRadius : ℤ) (pos : Vector2i) : List Vector2i :=
  sides pos ++ (between 2 displacementMaxRadius).flatMap (ring pos)

theorem displaceToRing_eq (pos : Vector2i) (state : Displacement K) (radius : ℤ) :
    displaceToRing data pos state radius = (ring pos radius).foldl (tryDisplace data) state := by
  unfold displaceToRing
  split
  · rfl
  · rename_i empty
    exact (foldl_tryDisplace_of_empty (not_lt.mp empty)).symm

theorem displaced_eq :
    displaced data displacementMaxRadius waterVolume pos =
      (targets displacementMaxRadius pos).foldl (tryDisplace data)
        ⟨waterVolume.set pos.x pos.y 0, valueAt waterVolume pos⟩ := by
  have rings : displaceToRing data pos = fun state radius =>
      (ring pos radius).foldl (tryDisplace data) state := by
    funext state radius
    exact displaceToRing_eq pos state radius
  rw [displaced, rings, targets, List.foldl_append, List.foldl_flatMap]

/-- The cells that the water of a cell can go to, in turn. -/
def openTargets (data : CellArray K) (displacementMaxRadius : ℤ) (width height : ℕ)
    (pos : Vector2i) : List Vector2i :=
  (targets displacementMaxRadius pos).filter fun other => other ∈ openCells data width height

theorem displaced_poured [IsStrictOrderedRing K] (data : CellArray K)
    (displacementMaxRadius : ℤ) (inside : waterVolume.InBounds pos.x pos.y)
    (nonneg : 0 ≤ valueAt waterVolume pos) :
    (displaced data displacementMaxRadius waterVolume pos).poured =
      evict 1 (valueAt waterVolume) pos
        (openTargets data displacementMaxRadius waterVolume.width waterVolume.height pos) := by
  have lifted : (⟨waterVolume.set pos.x pos.y 0, valueAt waterVolume pos⟩ : Displacement K).poured =
      ⟨Function.update (valueAt waterVolume) pos 0, valueAt waterVolume pos⟩ := by
    rw [Displacement.poured, valueAt_set inside]
  rw [displaced_eq, foldl_tryDisplace_poured nonneg, lifted, Grid.set_width, Grid.set_height]
  rfl

theorem displaced_width :
    (displaced data displacementMaxRadius waterVolume pos).waterVolume.width =
      waterVolume.width := by
  rw [displaced_eq, (displaced_size _ _).1, Grid.set_width]

theorem displaced_height :
    (displaced data displacementMaxRadius waterVolume pos).waterVolume.height =
      waterVolume.height := by
  rw [displaced_eq, (displaced_size _ _).2, Grid.set_height]

end

section

/-! ## Which cells are tried -/

variable {pos other : Vector2i}

theorem mem_sides : other ∈ sides pos ↔ distance pos other = 1 ∧ ¬ IsDiagonal pos other := by
  obtain ⟨x, y⟩ := pos
  obtain ⟨x', y'⟩ := other
  simp only [sides, List.mem_cons, List.not_mem_nil, or_false, Vector2i.mk.injEq, distance,
    IsDiagonal, abs_eq_max_neg]
  omega

theorem mem_ring {radius : ℤ} (positive : 0 < radius) :
    other ∈ ring pos radius ↔ distance pos other = radius := by
  obtain ⟨x, y⟩ := pos
  obtain ⟨x', y'⟩ := other
  simp only [ring, List.mem_append, List.mem_flatMap, mem_between, List.mem_cons,
    List.not_mem_nil, or_false, Vector2i.mk.injEq, distance, abs_eq_max_neg]
  constructor
  · rintro (⟨nx, bounds, same⟩ | ⟨ny, bounds, same⟩)
    · omega
    · omega
  · intro far
    by_cases row : y' = y - radius ∨ y' = y + radius
    · exact Or.inl ⟨x', by omega, by omega⟩
    · exact Or.inr ⟨y', by omega, by omega⟩

theorem mem_targets {displacementMaxRadius : ℤ} :
    other ∈ targets displacementMaxRadius pos ↔
      other ∈ sides pos ∨ 2 ≤ distance pos other ∧ distance pos other ≤ displacementMaxRadius := by
  rw [targets, List.mem_append, List.mem_flatMap]
  refine or_congr_right ?_
  constructor
  · intro ⟨radius, bounds, member⟩
    have bounds' := mem_between.mp bounds
    have far := (mem_ring (by omega)).mp member
    omega
  · intro ⟨from_two, to_radius⟩
    exact ⟨distance pos other, mem_between.mpr ⟨from_two, to_radius⟩,
      (mem_ring (by omega)).mpr rfl⟩

theorem toFinset_openTargets {data : CellArray K} {displacementMaxRadius : ℤ} {width height : ℕ} :
    (openTargets data displacementMaxRadius width height pos).toFinset =
      offered data displacementMaxRadius width height pos := by
  ext other
  rw [List.mem_toFinset, openTargets, List.mem_filter, offered, Finset.mem_filter, mem_targets,
    decide_eq_true_iff, and_comm]

end

section

/-! ## When a turn wastes nothing -/

variable [IsStrictOrderedRing K] {data : CellArray K} {displacementMaxRadius : ℤ}
  {waterVolume : Grid K} {pos : Vector2i}

theorem full_iff (fits : Fits 1 (valueAt waterVolume)) (other : Vector2i) :
    room 1 (valueAt waterVolume) other = 0 ↔ valueAt waterVolume other = 1 := by
  rw [room_of_fits fits, sub_eq_zero, eq_comm]

section

omit [IsStrictOrderedRing K]

theorem left_out_iff (solid : solidMask data pos) :
    (∀ other, other ∈ openCells data waterVolume.width waterVolume.height ∧
        distance pos other ≤ displacementMaxRadius →
      other ∉ openTargets data displacementMaxRadius waterVolume.width waterVolume.height pos →
        valueAt waterVolume other = 1) ↔
      displacementMaxRadius < 1 ∨
        ∀ other ∈ openCells data waterVolume.width waterVolume.height, IsDiagonal pos other →
          valueAt waterVolume other = 1 := by
  constructor
  · intro full
    rcases lt_or_ge displacementMaxRadius 1 with short | reaches
    · exact Or.inl short
    · right
      intro other isOpen diagonal
      have beside := diagonal.distance_eq
      apply full other ⟨isOpen, by omega⟩
      rw [openTargets, List.mem_filter, mem_targets, mem_sides]
      rintro ⟨⟨_, straight⟩ | ⟨far, _⟩, _⟩
      · exact straight diagonal
      · omega
  · rintro condition other ⟨isOpen, near⟩ missing
    have apart : other ≠ pos := by
      rintro rfl
      exact Bool.noConfusion (solid.symm.trans (mem_openCells.mp isOpen).2)
    have positive : 0 < distance pos other := by
      rw [← not_le, distance_le_zero_iff]
      exact apart
    have untried : other ∉ targets displacementMaxRadius pos := fun member =>
      missing (List.mem_filter.mpr ⟨member, decide_eq_true isOpen⟩)
    rw [mem_targets, mem_sides] at untried
    rcases condition with short | full
    · omega
    · apply full other isOpen
      by_contra straight
      have ring_or_side : distance pos other = 1 ∨ 2 ≤ distance pos other := by omega
      rcases ring_or_side with beside | far
      · exact untried (Or.inl ⟨beside, straight⟩)
      · exact untried (Or.inr ⟨far, near⟩)

theorem not_mem_openTargets_of_solid (displacementMaxRadius : ℤ) (width height : ℕ)
    (pos : Vector2i) {other : Vector2i} (solid : solidMask data other) :
    other ∉ openTargets data displacementMaxRadius width height pos := by
  intro member
  have isOpen := of_decide_eq_true (List.mem_filter.mp member).2
  exact Bool.noConfusion (solid.symm.trans (mem_openCells.mp isOpen).2)

end

theorem wasteless_iff (fits : Fits 1 (valueAt waterVolume))
    (listed : pos ∈ cells waterVolume.width waterVolume.height) :
    Wasteless data displacementMaxRadius waterVolume pos ↔
      FindsRoom data displacementMaxRadius waterVolume pos := by
  cases solid : solidMask data pos with
  | false =>
      simp [Wasteless, FindsRoom, lost, solid, (fits pos).1]
  | true =>
      have inside : waterVolume.InBounds pos.x pos.y := mem_cells.mp listed
      have poured := displaced_poured data displacementMaxRadius inside (fits pos).1
      have level (other : Vector2i) :
          valueAt (displaced data displacementMaxRadius waterVolume pos).waterVolume other =
            (evict 1 (valueAt waterVolume) pos (openTargets data displacementMaxRadius
              waterVolume.width waterVolume.height pos)).level other :=
        congrFun (congrArg Pouring.level poured) other
      have rest : lost data displacementMaxRadius waterVolume pos =
          (evict 1 (valueAt waterVolume) pos (openTargets data displacementMaxRadius
            waterVolume.width waterVolume.height pos)).rest := by
        rw [lost, if_pos solid]
        exact congrArg Pouring.rest poured
      have missing := not_mem_openTargets_of_solid displacementMaxRadius waterVolume.width
        waterVolume.height pos solid
      have decided := evict_wasteless_iff fits missing
        (fun other => other ∈ openCells data waterVolume.width waterVolume.height ∧
          distance pos other ≤ displacementMaxRadius)
        (fun wanted => Bool.noConfusion (solid.symm.trans (mem_openCells.mp wanted.1).2))
      have rooms : ∑ other ∈ (openTargets data displacementMaxRadius waterVolume.width
            waterVolume.height pos).toFinset, room 1 (valueAt waterVolume) other =
          ∑ other ∈ offered data displacementMaxRadius waterVolume.width waterVolume.height pos,
            (1 - valueAt waterVolume other) := by
        rw [toFinset_openTargets]
        exact Finset.sum_congr rfl fun other _ => room_of_fits fits
      simp only [full_iff fits, rooms, left_out_iff solid] at decided
      have full_after (other : Vector2i) :
          room 1 (evict 1 (valueAt waterVolume) pos (openTargets data displacementMaxRadius
            waterVolume.width waterVolume.height pos)).level other = 0 ↔
              valueAt (displaced data displacementMaxRadius waterVolume pos).waterVolume other =
                1 := by
        rw [room_of_fits (fits_evict fits), level, sub_eq_zero, eq_comm]
      simp only [full_after, ← rest, and_imp] at decided
      have own : 0 ≤ lost data displacementMaxRadius waterVolume pos ∧
          lost data displacementMaxRadius waterVolume pos ≤ valueAt waterVolume pos := by
        rw [rest]
        exact ⟨rest_evict_nonneg fits, rest_evict_le fits missing⟩
      rw [Wasteless, FindsRoom, and_iff_right own, decided, forall_prop_of_true solid]

end

section

/-! ## The scan -/

/-- A field of some size with every volume between 0 and 1. -/
structure IsVolume (width height : ℕ) (field : Grid K) : Prop where
  width_eq : field.width = width
  height_eq : field.height = height
  fits : Fits 1 (valueAt field)

variable [IsStrictOrderedRing K] (data : CellArray K) (displacementMaxRadius : ℤ)
  {width height : ℕ} {scan : Scan K} {pos other : Vector2i}

omit [IsStrictOrderedRing K] in
theorem IsVolume.total_eq {field : Grid K} (sound : IsVolume width height field) :
    totalVolume field = ∑ pos ∈ (cells width height).toFinset, valueAt field pos := by
  rw [totalVolume, sound.width_eq, sound.height_eq]

section

variable (sound : IsVolume width height scan.waterVolume) (listed : pos ∈ cells width height)
include sound listed

/-- One turn: either the volumes stay, and nothing is lost, or the cell is emptied into the open
ones among its targets. -/
theorem displaceCell_cases :
    let after := (displaceCell data displacementMaxRadius scan pos).waterVolume
    let emptied := evict 1 (valueAt scan.waterVolume) pos
      (openTargets data displacementMaxRadius width height pos)
    after.width = width ∧ after.height = height ∧
      ((solidMask data pos = false ∧ after = scan.waterVolume ∧
          lost data displacementMaxRadius scan.waterVolume pos = 0) ∨
        (solidMask data pos ∧ valueAt after = emptied.level ∧
          lost data displacementMaxRadius scan.waterVolume pos = emptied.rest)) := by
  obtain ⟨rfl, rfl, fits⟩ := sound
  have inside : scan.waterVolume.InBounds pos.x pos.y := mem_cells.mp listed
  have poured := displaced_poured data displacementMaxRadius inside (fits pos).1
  unfold displaceCell lost
  cases solid : solidMask data pos with
  | false =>
      simp
  | true =>
      simp only [Bool.true_eq_false, ↓reduceIte, false_and, true_and, false_or]
      split
      -- Emptying a dry cell changes nothing.
      · rename_i dry
        have empty : valueAt scan.waterVolume pos = 0 := le_antisymm dry (fits pos).1
        exact ⟨rfl, rfl, (level_evict_of_empty empty).symm, congrArg Pouring.rest poured⟩
      · exact ⟨displaced_width, displaced_height, congrArg Pouring.level poured,
          congrArg Pouring.rest poured⟩

theorem IsVolume.displaceCell :
    IsVolume width height (displaceCell data displacementMaxRadius scan pos).waterVolume := by
  obtain ⟨width_eq, height_eq, ⟨_, same, _⟩ | ⟨_, level, _⟩⟩ :=
    displaceCell_cases data displacementMaxRadius sound listed
  · exact same ▸ sound
  · exact ⟨width_eq, height_eq, level ▸ fits_evict sound.fits⟩

theorem totalVolume_displaceCell :
    totalVolume (displaceCell data displacementMaxRadius scan pos).waterVolume =
      totalVolume scan.waterVolume - lost data displacementMaxRadius scan.waterVolume pos := by
  have sound' := sound.displaceCell data displacementMaxRadius listed
  obtain ⟨_, _, ⟨_, same, nothing⟩ | ⟨_, level, rest⟩⟩ :=
    displaceCell_cases data displacementMaxRadius sound listed
  · rw [same, nothing, sub_zero]
  · rw [sound'.total_eq, sound.total_eq, level, rest]
    apply total_evict (List.mem_toFinset.mpr listed)
    intro other member
    have isOpen := of_decide_eq_true (List.mem_filter.mp member).2
    exact List.mem_toFinset.mpr (mem_cells.mpr (mem_openCells.mp isOpen).1)

theorem valueAt_displaceCell_of_solid (solid : solidMask data other) :
    valueAt (displaceCell data displacementMaxRadius scan pos).waterVolume other =
      if other = pos then 0 else valueAt scan.waterVolume other := by
  have missing := not_mem_openTargets_of_solid displacementMaxRadius width height pos solid
  obtain ⟨_, _, ⟨opened, same, _⟩ | ⟨_, level, _⟩⟩ :=
    displaceCell_cases data displacementMaxRadius sound listed
  · have apart : other ≠ pos := by
      rintro rfl
      exact Bool.noConfusion (solid.symm.trans opened)
    rw [same, if_neg apart]
  · rw [level]
    split
    · subst other
      exact level_evict_self missing
    · exact level_evict_of_ne ‹_› missing

end

theorem displaceCell_run {turns : List Vector2i} (listed : ∀ pos ∈ turns, pos ∈ cells width height)
    (sound : IsVolume width height scan.waterVolume) :
    let after := turns.foldl (displaceCell data displacementMaxRadius) scan
    IsVolume width height after.waterVolume ∧
      totalVolume after.waterVolume =
        totalVolume scan.waterVolume - lostInAll data displacementMaxRadius scan turns ∧
      ∀ other, solidMask data other →
        valueAt after.waterVolume other =
          if other ∈ turns then 0 else valueAt scan.waterVolume other := by
  induction turns generalizing scan with
  | nil =>
      refine ⟨sound, ?_, fun other _ => ?_⟩
      · rw [lostInAll, sub_zero, List.foldl_nil]
      · rw [if_neg List.not_mem_nil, List.foldl_nil]
  | cons pos turns ih =>
      have first := listed pos List.mem_cons_self
      have sound' := sound.displaceCell data displacementMaxRadius first
      obtain ⟨kept, total, dry⟩ :=
        ih (fun other later => listed other (List.mem_cons_of_mem _ later)) sound'
      refine ⟨kept, ?_, fun other solid => ?_⟩
      · rw [List.foldl_cons, total, totalVolume_displaceCell data displacementMaxRadius sound first,
          lostInAll, sub_sub]
      · rw [List.foldl_cons, dry other solid,
          valueAt_displaceCell_of_solid data displacementMaxRadius sound first solid]
        simp only [List.mem_cons]
        by_cases later : other ∈ turns
        · simp [later]
        · simp [later]

end

section

/-! ## Advection as decanting -/

variable {data : CellArray K} {width height : ℕ} {axis : Axis} {face : Vector2i}
variable {giver taker : Vector2i}

/-- Water goes from one side of a face to the other. -/
def Across (axis : Axis) (face giver taker : Vector2i) : Prop :=
  giver = axis.nearCell face ∧ taker = face ∨ giver = face ∧ taker = axis.nearCell face

theorem Across.ne (across : Across axis face giver taker) : giver ≠ taker := by
  have apart : axis.nearCell face ≠ face := by
    intro same
    cases axis with
    | u =>
        have column : face.x - 1 = face.x := congrArg Vector2i.x same
        omega
    | v =>
        have row : face.y - 1 = face.y := congrArg Vector2i.y same
        omega
  rcases across with ⟨gives, takes⟩ | ⟨gives, takes⟩
  · rw [gives, takes]
    exact apart
  · rw [gives, takes]
    exact apart.symm

theorem Across.both (across : Across axis face giver taker) (property : Vector2i → Prop)
    (near : property (axis.nearCell face)) (far : property face) :
    property giver ∧ property taker := by
  rcases across with ⟨gives, takes⟩ | ⟨gives, takes⟩
  · rw [gives, takes]
    exact ⟨near, far⟩
  · rw [gives, takes]
    exact ⟨far, near⟩

theorem cells_of_innerFaces (inner : (axis, face) ∈ innerFaces width height) :
    axis.nearCell face ∈ cells width height ∧ face ∈ cells width height := by
  obtain ⟨axis', _, listed⟩ := List.mem_flatMap.mp inner
  obtain ⟨face', filtered, same⟩ := List.mem_map.mp listed
  obtain ⟨rfl, rfl⟩ := Prod.mk.inj same
  obtain ⟨member, inside⟩ := List.mem_filter.mp filtered
  rw [mem_cells, mem_cells]
  cases axis' with
  | u =>
      obtain ⟨⟨x, y⟩, region, rfl⟩ := List.mem_map.mp member
      have bounds := Grid.mem_coordinates.mp region
      simp only [Axis.onBoundary, Bool.not_eq_true', decide_eq_false_iff_not, not_or] at inside
      simp only [Axis.nearCell]
      omega
  | v =>
      obtain ⟨⟨x, y⟩, region, rfl⟩ := List.mem_map.mp member
      have bounds := Grid.mem_coordinates.mp region
      simp only [Axis.onBoundary, Bool.not_eq_true', decide_eq_false_iff_not, not_or] at inside
      simp only [Axis.nearCell]
      omega

variable (data) (parameters : Parameters K) (dt : K) (faceVelocity : Axis → Grid K)
  (waterVolume : Grid K) {scratch : Grid K}

omit [LinearOrder K] in
theorem valueAt_set_set (gives : scratch.InBounds giver.x giver.y)
    (takes : scratch.InBounds taker.x taker.y) (apart : giver ≠ taker) (amount : K) :
    let drained := scratch.set giver.x giver.y (valueAt scratch giver - amount)
    valueAt (drained.set taker.x taker.y (valueAt drained taker + amount)) =
      decant (valueAt scratch) giver taker amount := by
  dsimp only
  rw [valueAt_set (Grid.set_inBounds.mpr takes), valueAt_set gives,
    Function.update_of_ne apart.symm, decant]

/-- Crossing a face: either nothing happens, or one side decants into the other what it has and
the other has room for. -/
theorem advectFace_cases (sound : IsVolume width height scratch)
    (inner : (axis, face) ∈ innerFaces width height) :
    let after := advectFace data parameters dt faceVelocity waterVolume scratch (axis, face)
    after = scratch ∨
      (axis.nearCell face ∈ openCells data width height ∧ face ∈ openCells data width height ∧
        after.width = width ∧ after.height = height ∧
        ∃ giver taker amount, Across axis face giver taker ∧ 0 ≤ amount ∧
          amount ≤ valueAt scratch giver ∧ amount ≤ room 1 (valueAt scratch) taker ∧
          valueAt after = decant (valueAt scratch) giver taker amount) := by
  obtain ⟨rfl, rfl, fits⟩ := sound
  obtain ⟨nearListed, faceListed⟩ := cells_of_innerFaces inner
  generalize computed :
    advectFace data parameters dt faceVelocity waterVolume scratch (axis, face) = after
  unfold advectFace at computed
  dsimp only at computed
  obtain ⟨giver, taker, given, taken, across⟩ : ∃ giver taker,
      (if valueAt (faceVelocity axis) face > 0 then axis.nearCell face else face) = giver ∧
      (if valueAt (faceVelocity axis) face > 0 then face else axis.nearCell face) = taker ∧
      Across axis face giver taker := by
    split
    · exact ⟨_, _, rfl, rfl, Or.inl ⟨rfl, rfl⟩⟩
    · exact ⟨_, _, rfl, rfl, Or.inr ⟨rfl, rfl⟩⟩
  rw [given, taken] at computed
  split_ifs at computed with blocked _ _ _ _ _ nothing
  case neg =>
    right
    obtain ⟨nearOpen, faceOpen⟩ := not_or.mp (Bool.or_eq_true _ _ ▸ blocked)
    obtain ⟨gives, takes⟩ := across.both
      (fun cell => scratch.InBounds cell.x cell.y) (mem_cells.mp nearListed) (mem_cells.mp faceListed)
    rw [← computed]
    refine ⟨mem_openCells.mpr ⟨mem_cells.mp nearListed, Bool.not_eq_true _ ▸ nearOpen⟩,
      mem_openCells.mpr ⟨mem_cells.mp faceListed, Bool.not_eq_true _ ▸ faceOpen⟩, ?_, ?_,
      giver, taker, _, across, (not_le.mp nothing).le, ?_, ?_,
      valueAt_set_set gives takes across.ne _⟩
    · rw [Grid.set_width, Grid.set_width]
    · rw [Grid.set_height, Grid.set_height]
    · exact (min_le_left _ _).trans (min_le_right _ _)
    · exact min_le_right _ _
  all_goals exact Or.inl computed.symm

theorem advectFace_keeps [IsStrictOrderedRing K] (sound : IsVolume width height scratch)
    (inner : (axis, face) ∈ innerFaces width height) :
    let after := advectFace data parameters dt faceVelocity waterVolume scratch (axis, face)
    IsVolume width height after ∧ totalVolume after = totalVolume scratch ∧
      Crosses data scratch after axis face ∧
      ∀ other, solidMask data other → valueAt after other = valueAt scratch other := by
  rcases advectFace_cases data parameters dt faceVelocity waterVolume sound inner with
    same | ⟨nearOpen, faceOpen, width_eq, height_eq, giver, taker, amount, across, nonneg,
      available, capacity, decanted⟩
  · rw [same]
    exact ⟨sound, rfl, Or.inl rfl, fun _ _ => rfl⟩
  · have sound' : IsVolume width height
        (advectFace data parameters dt faceVelocity waterVolume scratch (axis, face)) :=
      ⟨width_eq, height_eq,
        decanted ▸ fits_decant sound.fits nonneg available capacity across.ne⟩
    refine ⟨sound', ?_, Or.inr ⟨?_, ?_, ?_, ?_⟩, ?_⟩
    · obtain ⟨nearListed, faceListed⟩ := cells_of_innerFaces inner
      obtain ⟨gives, takes⟩ := across.both (· ∈ cells width height) nearListed faceListed
      rw [sound'.total_eq, sound.total_eq, decanted]
      exact total_decant (List.mem_toFinset.mpr gives) (List.mem_toFinset.mpr takes) across.ne amount
    · rw [sound.width_eq, sound.height_eq]
      exact nearOpen
    · rw [sound.width_eq, sound.height_eq]
      exact faceOpen
    · have moved : decant (valueAt scratch) giver taker amount giver +
          decant (valueAt scratch) giver taker amount taker =
            valueAt scratch giver + valueAt scratch taker := by
        rw [decant_giver across.ne, decant_taker]
        ring
      rw [decanted]
      rcases across with ⟨gives, takes⟩ | ⟨gives, takes⟩
      · rw [← gives, ← takes]
        exact moved
      · rw [← takes, ← gives, add_comm, moved, add_comm]
    · intro other notNear notFace
      obtain ⟨notGiver, notTaker⟩ := across.both (other ≠ ·) notNear notFace
      rw [decanted, decant_of_ne notGiver notTaker]
    · intro other solid
      have closed {cell : Vector2i} (isOpen : cell ∈ openCells data width height) :
          other ≠ cell := by
        rintro rfl
        exact Bool.noConfusion (solid.symm.trans (mem_openCells.mp isOpen).2)
      obtain ⟨notGiver, notTaker⟩ :=
        across.both (other ≠ ·) (closed nearOpen) (closed faceOpen)
      rw [decanted, decant_of_ne notGiver notTaker]

theorem advectFace_run [IsStrictOrderedRing K] {faces : List (Axis × Vector2i)}
    (inner : ∀ visited ∈ faces, visited ∈ innerFaces width height)
    (sound : IsVolume width height scratch) :
    let after := faces.foldl (advectFace data parameters dt faceVelocity waterVolume) scratch
    IsVolume width height after ∧ totalVolume after = totalVolume scratch ∧
      (∀ other, solidMask data other → valueAt after other = valueAt scratch other) ∧
      AtEachStep
        (fun scratch visited => some
          (advectFace data parameters dt faceVelocity waterVolume scratch visited))
        (fun scratch visited => Crosses data scratch
          (advectFace data parameters dt faceVelocity waterVolume scratch visited)
          visited.1 visited.2)
        scratch faces := by
  induction faces generalizing scratch with
  | nil => exact ⟨sound, rfl, fun _ _ => rfl, trivial⟩
  | cons visited faces ih =>
      obtain ⟨kept, total, crosses, dry⟩ := advectFace_keeps data parameters dt faceVelocity
        waterVolume sound (inner visited List.mem_cons_self)
      obtain ⟨kept', total', dry', crosses'⟩ :=
        ih (fun other later => inner other (List.mem_cons_of_mem _ later)) kept
      refine ⟨kept', total'.trans total, fun other solid => ?_, crosses, fun next moved => ?_⟩
      · exact (dry' other solid).trans (dry other solid)
      · rw [← Option.some.inj moved]
        exact crosses'

omit [Field K] in
theorem clamp_of_fits {volume low high : K} (above : low ≤ volume)
    (below : volume ≤ high) : clamp volume low high = volume := by
  rw [clamp, if_neg above.not_gt, if_neg below.not_gt]

theorem valueAt_commit (sound : IsVolume width height scratch)
    (dry : ∀ pos, solidMask data pos → valueAt scratch pos = 0) :
    valueAt (commit data scratch) = valueAt scratch := by
  funext pos
  by_cases inside : scratch.InBounds pos.x pos.y
  · obtain ⟨volume, read⟩ := Option.isSome_iff_exists.mp (Grid.get?_isSome_iff.mpr inside)
    have value : valueAt scratch pos = volume := by rw [valueAt, read, Option.getD_some]
    have bounds := sound.fits pos
    rw [value] at bounds
    rw [value, valueAt, commit, Grid.get?_mapCells, read, Option.map_some, Option.getD_some]
    split
    · rename_i solid
      exact (dry pos solid).symm.trans value
    · exact clamp_of_fits bounds.1 bounds.2
  · rw [valueAt_outside inside, valueAt_outside]
    simpa only [Grid.InBounds, commit, Grid.mapCells_width, Grid.mapCells_height] using inside

theorem totalVolume_commit (same : valueAt (commit data scratch) = valueAt scratch) :
    totalVolume (commit data scratch) = totalVolume scratch := by
  rw [totalVolume, totalVolume, same, commit, Grid.mapCells_width, Grid.mapCells_height]

end

section

/-! ## A whole step -/

variable {data : CellArray K} {sim : MacProjectionWaterSim K} {gravity deltaTimeSeconds : K}

theorem advanceTime_waterVolume (data : CellArray K) (sim : MacProjectionWaterSim K) (gravity : K)
    (forward : 0 < deltaTimeSeconds) :
    let displacedVolume :=
      (displace data sim.parameters.displacementMaxRadius sim.waterVolume).waterVolume
    (sim.advanceTime data gravity deltaTimeSeconds).waterVolume = displacedVolume ∨
      ∃ faceVelocity, (sim.advanceTime data gravity deltaTimeSeconds).waterVolume =
        commit data (advect data sim.parameters deltaTimeSeconds faceVelocity displacedVolume) := by
  unfold advanceTime
  dsimp only
  split_ifs with flat backward
  · left
    have none_listed : cells sim.waterVolume.width sim.waterVolume.height = [] := by
      rw [List.eq_nil_iff_forall_not_mem]
      intro pos listed
      have region := mem_cells.mp listed
      omega
    rw [displace, none_listed, List.foldl_nil]
  · exact absurd forward backward.not_gt
  · exact Or.inl rfl
  · exact Or.inr ⟨_, rfl⟩

variable [IsStrictOrderedRing K]

theorem displace_keeps (data : CellArray K) (displacementMaxRadius : ℤ) {waterVolume : Grid K}
    (fits : Fits 1 (valueAt waterVolume)) :
    let after := (displace data displacementMaxRadius waterVolume).waterVolume
    Fits 1 (valueAt after) ∧
      totalVolume after = totalVolume waterVolume - lostInAll data displacementMaxRadius
        { waterVolume := waterVolume, totalWaterVolume := 0 }
        (cells waterVolume.width waterVolume.height) ∧
      ∀ pos, solidMask data pos → valueAt after pos = 0 := by
  have sound : IsVolume waterVolume.width waterVolume.height
      ({ waterVolume := waterVolume, totalWaterVolume := 0 } : Scan K).waterVolume :=
    ⟨rfl, rfl, fits⟩
  obtain ⟨kept, total, dry⟩ :=
    displaceCell_run data displacementMaxRadius (fun _ listed => listed) sound
  refine ⟨kept.fits, total, fun pos solid => (dry pos solid).trans ?_⟩
  split
  · rfl
  · rename_i missing
    exact valueAt_outside fun inside => missing (mem_cells.mpr inside)

theorem atEachTurn_wasteless_iff (data : CellArray K) (displacementMaxRadius : ℤ)
    {waterVolume : Grid K} (fits : Fits 1 (valueAt waterVolume)) :
    AtEachTurn data displacementMaxRadius waterVolume (Wasteless data displacementMaxRadius) ↔
      AtEachTurn data displacementMaxRadius waterVolume (FindsRoom data displacementMaxRadius) := by
  apply AtEachStep.congr fun scan =>
    IsVolume waterVolume.width waterVolume.height scan.waterVolume
  · intro scan pos listed sound
    apply wasteless_iff sound.fits
    rw [sound.width_eq, sound.height_eq]
    exact listed
  · intro scan pos next listed sound _ moved
    rw [← Option.some.inj moved]
    exact sound.displaceCell data displacementMaxRadius listed
  · exact ⟨rfl, rfl, fits⟩

theorem advanceTime_keeps (data : CellArray K) (gravity : K) (forward : 0 < deltaTimeSeconds)
    (fits : Fits 1 (valueAt sim.waterVolume)) :
    let before := (displace data sim.parameters.displacementMaxRadius sim.waterVolume).waterVolume
    let after := (sim.advanceTime data gravity deltaTimeSeconds).waterVolume
    Fits 1 (valueAt after) ∧ totalVolume after = totalVolume before ∧
      ∀ pos, solidMask data pos → valueAt after pos = 0 := by
  obtain ⟨kept, _, dry⟩ := displace_keeps data sim.parameters.displacementMaxRadius fits
  rcases advanceTime_waterVolume data sim gravity forward with
    same | ⟨faceVelocity, same⟩
  · rw [same]
    exact ⟨kept, rfl, dry⟩
  · obtain ⟨swept, total, dry', _⟩ := advectFace_run data sim.parameters deltaTimeSeconds
      faceVelocity _ (fun _ inner => inner) ⟨rfl, rfl, kept⟩
    have committed := valueAt_commit data swept fun pos solid => (dry' pos solid).trans (dry pos solid)
    refine ⟨?_, ?_, fun pos solid => ?_⟩
    · rw [same, advect, committed]
      exact swept.fits
    · rw [same, advect, totalVolume_commit data committed]
      exact total
    · rw [same, advect, committed]
      exact (dry' pos solid).trans (dry pos solid)

/-- **The balance of water.** A step keeps the volumes between 0 and 1, dries the solid cells, lets
water cross only faces between two open cells, and loses only water for which no open cell within
the displacement radius has room, exactly when at the turn of every solid cell its water fits into
the open cells that are tried, or its diagonal neighbours have no room or are out of reach. -/
theorem keepsWater_iff (forward : 0 < deltaTimeSeconds) (fits : Fits 1 (valueAt sim.waterVolume)) :
    KeepsWater data gravity deltaTimeSeconds sim ↔
      AtEachTurn data sim.parameters.displacementMaxRadius sim.waterVolume
        (FindsRoom data sim.parameters.displacementMaxRadius) := by
  constructor
  · intro keeps
    exact (atEachTurn_wasteless_iff data _ fits).mp keeps.wasteless
  · intro room
    obtain ⟨bounded, total, dry⟩ := advanceTime_keeps data gravity forward fits
    obtain ⟨kept, balance, _⟩ := displace_keeps data sim.parameters.displacementMaxRadius fits
    exact
      { bounded := bounded
        dry := dry
        total := total.trans balance
        wasteless := (atEachTurn_wasteless_iff data _ fits).mpr room
        closed := fun faceVelocity =>
          (advectFace_run data sim.parameters deltaTimeSeconds faceVelocity _
            (fun _ inner => inner) ⟨rfl, rfl, kept⟩).2.2.2 }

end

section

/-! ## A closed corner -/

def square (dirt : List Vector2i) : CellArray ℚ where
  toGrid := .generate 2 2 fun x y =>
    if ⟨x, y⟩ ∈ dirt then { Cell.blank with materialType := .dirt, fillRatio := 1 } else Cell.blank
  width_pos := Nat.two_pos
  height_pos := Nat.two_pos
  width_le := two_le_limit
  height_le := two_le_limit

def pool : MacProjectionWaterSim ℚ where
  parameters := {}
  waterVolume := .generate 2 2 fun x y => if x = 0 ∧ y = 0 then 1 else 0
  uFaceVelocity := .generate 3 2 fun _ _ => 0
  vFaceVelocity := .generate 2 3 fun _ _ => 0

theorem fits_pool : Fits 1 (valueAt pool.waterVolume) := by
  intro pos
  rw [valueAt, pool, Grid.get?_generate]
  split_ifs
  all_goals decide

/-- Between two cells of dirt, the water of a third does not find the open cell diagonal to it. -/
theorem not_keepsWater :
    ¬ ∀ (data : CellArray ℚ) (sim : MacProjectionWaterSim ℚ) (gravity deltaTimeSeconds : ℚ),
      0 < deltaTimeSeconds → Fits 1 (valueAt sim.waterVolume) →
        KeepsWater data gravity deltaTimeSeconds sim := by
  intro all
  have wasteless := (all (square [⟨0, 0⟩, ⟨1, 0⟩, ⟨0, 1⟩]) pool 0 (1 / 60) (by decide +kernel)
    fits_pool).wasteless
  have turn := wasteless.1.2 (by decide +kernel) ⟨1, 1⟩ (by decide +kernel) (by decide +kernel)
  revert turn
  decide +kernel

theorem keepsWater_pool : KeepsWater (square [⟨0, 0⟩]) 0 (1 / 60) pool := by
  apply (keepsWater_iff (by decide +kernel) fits_pool).mpr
  -- Only the first cell has a turn with water to displace.
  refine ⟨fun _ => Or.inl ?_, fun _ _ => ⟨?_, fun _ _ => ⟨?_, fun _ _ => ⟨?_, fun _ _ => trivial⟩⟩⟩⟩
  · decide +kernel
  all_goals exact fun solid => absurd solid (by decide +kernel)

end

end MacProjectionWaterSim

end DirtSim
