import DirtSim.Core.Real
import DirtSim.Foundation.Occupancy
import DirtSim.Organisms.Ownership
import DirtSim.Organisms.RigidBody

/-! # Rigid bodies in the world

Each body asks for the cells of its next position before it takes them, so bodies that are in place
stay in place, in any order of updates (`RigidWorld.standing_of_run`).
-/

namespace DirtSim

open Foundation

/-- The floor of a coordinate is exact. -/
class ExactCoordinate (K : Type) [Field K] [LinearOrder K] [Coordinate K] : Prop where
  floor_eq_iff : ∀ {coordinate : K} {cell : ℤ},
    Coordinate.floor coordinate = cell ↔ (cell : K) ≤ coordinate ∧ coordinate < cell + 1

/-- The organism grid has the dimensions of the world. -/
def OrganismWorld.Sized {K : Type} (world : OrganismWorld K) : Prop :=
  ∀ pos, world.organismManager.inBounds pos ↔ world.InBounds pos

namespace RigidWorld

variable {K : Type} [Field K] [LinearOrder K] [Coordinate K] [Analytic K]

/-- A body projected in its place: its cells are the translate of its local shape, inside the
world and not walls, painted with its materials, and the organism grid names it there and nowhere
else. -/
structure InPlace (world : OrganismWorld K) (id : OrganismId) (organism : RigidOrganism K)
    (position : Vector2 K) : Prop where
  valid : id ≠ invalidOrganismId
  live : (world.organismManager.getOrganism id).map Organism.Body.place = some position
  shape : organism.rigidBody.projection.localShape = organism.localShape
  distinct : (organism.localShape.map LocalCell.localPos).Nodup
  occupied : organism.occupiedCells = gridCells organism.localShape position
  projected : organism.rigidBody.projection.occupiedCells = organism.occupiedCells
  owner : organism.rigidBody.projection.lastOwnerId = id
  inside : ∀ pos ∈ organism.occupiedCells, world.InBounds pos
  painted : ∀ cell ∈ organism.localShape,
    (world.cellAt (cell.gridPos position)).materialType = cell.material ∧
      (world.cellAt (cell.gridPos position)).fillRatio = cell.fillRatio
  notWall : ∀ pos ∈ organism.occupiedCells, (world.cellAt pos).materialType ≠ .wall
  named : Occupies world.ownerAt id organism.occupiedCells

/-- Every body is in place, and no two share a cell. -/
structure Standing (state : RigidWorld K) : Prop where
  sized : state.world.Sized
  inPlace : ∀ id organism, state.bodies.lookup id = some organism →
    ∃ position, InPlace state.world id organism position
  apart : ∀ first second organism organism', state.bodies.lookup first = some organism →
    state.bodies.lookup second = some organism' → first ≠ second →
      organism.occupiedCells.Disjoint organism'.occupiedCells

def machine (K : Type) [Field K] [LinearOrder K] [Coordinate K] [Analytic K] :
    Machine (RigidCall K) (RigidWorld K) where
  initial := Standing
  step before call after := before.update call = some after

end RigidWorld

section

/-! ## Cells of a position -/

variable {K : Type} [Field K] [LinearOrder K] [IsStrictOrderedRing K] [Coordinate K]
  [ExactCoordinate K]

open Coordinate ExactCoordinate

omit [IsStrictOrderedRing K] in
theorem le_coordinate_of_floor (coordinate : K) :
    (floor coordinate : K) ≤ coordinate ∧ coordinate < floor coordinate + 1 :=
  floor_eq_iff.mp rfl

theorem floor_add_int (coordinate : K) (offset : ℤ) :
    floor (coordinate + offset) = floor coordinate + offset := by
  obtain ⟨low, high⟩ := le_coordinate_of_floor coordinate
  rw [floor_eq_iff]
  push_cast
  constructor
  · linarith
  · linarith

theorem LocalCell.gridPos_eq (cell : LocalCell K) (position : Vector2 K) :
    cell.gridPos position = ⟨floor position.x, floor position.y⟩ + cell.localPos :=
  Vector2i.ext (floor_add_int position.x cell.localPos.x) (floor_add_int position.y cell.localPos.y)

theorem gridCells_congr (shape : List (LocalCell K)) {position position' : Vector2 K}
    (x : floor position.x = floor position'.x) (y : floor position.y = floor position'.y) :
    gridCells shape position = gridCells shape position' := by
  refine List.map_congr_left fun cell _ => ?_
  rw [cell.gridPos_eq, cell.gridPos_eq, x, y]

theorem gridCells_nodup {shape : List (LocalCell K)}
    (distinct : (shape.map LocalCell.localPos).Nodup) (position : Vector2 K) :
    (gridCells shape position).Nodup := by
  have offsets : gridCells shape position =
      (shape.map LocalCell.localPos).map (⟨floor position.x, floor position.y⟩ + ·) := by
    rw [List.map_map]
    exact List.map_congr_left fun cell _ => cell.gridPos_eq position
  rw [offsets]
  refine distinct.map fun first second same => ?_
  have x := congrArg Vector2i.x same
  have y := congrArg Vector2i.y same
  simp only [Vector2i.add_x, Vector2i.add_y, add_right_inj] at x y
  exact Vector2i.ext x y

theorem floor_clampInCell (coordinate : K) {margin : K} (narrow : margin ≤ 1 / 2) :
    floor (RigidBodyComponent.clampInCell coordinate margin) = floor coordinate := by
  obtain ⟨low, high⟩ := le_coordinate_of_floor coordinate
  have upper : ((floor coordinate + 1 : ℤ) : K) = floor coordinate + 1 := by push_cast; rfl
  rw [floor_eq_iff, RigidBodyComponent.clampInCell, upper]
  constructor
  · refine le_min (le_max_of_le_left low) ?_
    linarith
  · rcases le_or_gt margin 0 with outside | inside
    · refine lt_of_le_of_lt (min_le_left _ _) (max_lt high ?_)
      linarith
    · refine lt_of_le_of_lt (min_le_right _ _) ?_
      linarith

end

namespace OrganismWorld

variable {K : Type}

/-- Only cells of the list were written, and of the organisms only their cell sets. -/
structure Touches [Field K] (before after : OrganismWorld K) (places : List Vector2i) : Prop where
  sized : before.Sized → after.Sized
  inBounds : ∀ pos, after.InBounds pos ↔ before.InBounds pos
  cells : ∀ pos, pos ∉ places → after.cellAt pos = before.cellAt pos
  places : ∀ id, (after.organismManager.getOrganism id).map Organism.Body.place =
    (before.organismManager.getOrganism id).map Organism.Body.place

namespace Touches

variable [Field K] {before middle after : OrganismWorld K} {first second : List Vector2i}

theorem refl (world : OrganismWorld K) : Touches world world [] :=
  ⟨id, fun _ => Iff.rfl, fun _ _ => rfl, fun _ => rfl⟩

theorem trans (front : Touches before middle first) (back : Touches middle after second) :
    Touches before after (first ++ second) where
  sized := fun sized => back.sized (front.sized sized)
  inBounds := fun pos => (back.inBounds pos).trans (front.inBounds pos)
  cells := fun pos outside =>
    (back.cells pos fun member => outside (List.mem_append_right _ member)).trans
      (front.cells pos fun member => outside (List.mem_append_left _ member))
  places := fun id => (back.places id).trans (front.places id)

theorem mono (touches : Touches before after first) (within : first ⊆ second) :
    Touches before after second :=
  ⟨touches.sized, touches.inBounds, fun pos outside => touches.cells pos fun member =>
    outside (within member), touches.places⟩

theorem isSome (touches : Touches before after first) (id : OrganismId) :
    (after.organismManager.getOrganism id).isSome =
      (before.organismManager.getOrganism id).isSome := by
  have same := congrArg Option.isSome (touches.places id)
  simpa only [Option.isSome_map] using same

end Touches

theorem inBounds_of_ownerAt {world : OrganismWorld K} (sized : world.Sized) {pos : Vector2i}
    (owned : world.ownerAt pos ≠ invalidOrganismId) : world.InBounds pos := by
  by_contra outside
  exact owned (OrganismManager.organismAt_of_not_inBounds fun inside => outside ((sized pos).mp inside))

end OrganismWorld

namespace LocalShapeProjection

open OrganismWorld

variable {K : Type} [Field K]

section

variable {world : OrganismWorld K} {owner : OrganismId}

omit [Field K] in
theorem place_modify_cells (organisms : Dict OrganismId (Organism.Body K)) (key id : OrganismId)
    (change : Finset Vector2i → Finset Vector2i) :
    ((organisms.modify key fun body => { body with cells := change body.cells }).lookup id).map
      Organism.Body.place = (organisms.lookup id).map Organism.Body.place := by
  rw [Dict.lookup_modify]
  by_cases same : id = key
  · subst same
    rw [if_pos rfl, Option.map_map]
    rfl
  · rw [if_neg same]

section

variable (sized : world.Sized) (valid : owner ≠ invalidOrganismId)
  (live : (world.organismManager.getOrganism owner).isSome)
include sized valid live

theorem clearCell_spec (oldPos : Vector2i) :
    Touches world (clearCell owner world oldPos) [oldPos] ∧
      ∀ pos, (clearCell owner world oldPos).ownerAt pos =
        if pos = oldPos ∧ world.ownerAt pos = owner then invalidOrganismId
        else world.ownerAt pos := by
  unfold clearCell
  by_cases own : world.InBounds oldPos ∧ world.ownerAt oldPos = owner
  · rw [if_pos own]
    have inside : world.organismManager.inBounds oldPos := (sized oldPos).mpr own.1
    obtain ⟨body, found⟩ := Option.isSome_iff_exists.mp live
    have removed : world.organismManager.removeCellsFromOrganism owner [oldPos] =
        OrganismManager.removeCellFromOrganism owner world.organismManager oldPos := by
      simp [OrganismManager.removeCellsFromOrganism, found]
    rw [removed]
    refine ⟨⟨fun _ pos => ?_, fun pos => CellArray.setCell_inBounds, fun pos apart => ?_,
      fun id => place_modify_cells world.organismManager.organisms owner id (·.erase oldPos)⟩,
      fun pos => ?_⟩
    · exact OrganismManager.setOrganismAt_inBounds.trans
        ((sized pos).trans CellArray.setCell_inBounds.symm)
    · exact CellArray.cellAt_setCell_ne _ _ fun same => apart (List.mem_singleton.mpr same)
    · have written := OrganismManager.organismAt_setOrganismAt inside pos invalidOrganismId
      refine Eq.trans written ?_
      by_cases here : pos = oldPos
      · subst here
        simp [own.2]
      · simp only [here, false_and, ↓reduceIte]
        rfl
  · rw [if_neg own]
    refine ⟨(Touches.refl world).mono (List.nil_subset _), fun pos => ?_⟩
    rw [if_neg]
    rintro ⟨rfl, owned⟩
    refine own ⟨inBounds_of_ownerAt sized ?_, owned⟩
    rw [owned]
    exact valid

theorem clearCells_spec (places : List Vector2i) :
    Touches world (places.foldl (clearCell owner) world) places ∧
      ∀ pos, (places.foldl (clearCell owner) world).ownerAt pos =
        if pos ∈ places ∧ world.ownerAt pos = owner then invalidOrganismId
        else world.ownerAt pos := by
  induction places generalizing world with
  | nil =>
      refine ⟨Touches.refl world, fun pos => ?_⟩
      simp
  | cons oldPos places ih =>
      obtain ⟨touches, owners⟩ := clearCell_spec sized valid live oldPos
      have live' := live
      rw [← touches.isSome owner] at live'
      obtain ⟨rest, owners'⟩ := ih (touches.sized sized) live'
      refine ⟨touches.trans rest, fun pos => ?_⟩
      rw [List.foldl_cons, owners' pos, owners pos]
      by_cases owned : world.ownerAt pos = owner
      · by_cases here : pos = oldPos
        · subst here
          simp [owned]
        · simp [here]
      · simp [owned]

end

end

section

variable [Coordinate K] {world : OrganismWorld K} {id : OrganismId}

open OrganismManager

omit [Field K] [Coordinate K] in
theorem exists_addCellToOrganism (manager : OrganismManager K)
    (live : (manager.getOrganism id).isSome) (pos : Vector2i) :
    ∃ after, manager.addCellToOrganism id pos = some after ∧
      (∀ other, after.inBounds other ↔ manager.inBounds other) ∧
      (∀ other, (after.getOrganism other).map Organism.Body.place =
        (manager.getOrganism other).map Organism.Body.place) ∧
      ∀ other, manager.inBounds pos →
        after.organismAt other = if other = pos then id else manager.organismAt other := by
  obtain ⟨body, found⟩ := Option.isSome_iff_exists.mp live
  have added : manager.addCellToOrganism id pos = some { manager.setOrganismAt pos id with
      organisms := manager.organisms.modify id fun body =>
        { body with cells := insert pos body.cells } } := by
    simp [OrganismManager.addCellToOrganism, found]
  exact ⟨_, added, fun _ => setOrganismAt_inBounds,
    fun other => place_modify_cells manager.organisms id other (insert pos),
    fun other inside => organismAt_setOrganismAt inside other id⟩

section

variable (sized : world.Sized) (live : (world.organismManager.getOrganism id).isSome)
  (position velocity : Vector2 K) (occupied : List Vector2i)
include sized live position velocity occupied

theorem projectCell_spec {cell : LocalCell K} (inside : world.InBounds (cell.gridPos position)) :
    ∃ after, projectCell id position velocity (world, occupied) cell =
        some (after, occupied ++ [cell.gridPos position]) ∧
      Touches world after [cell.gridPos position] ∧
      (∀ pos, after.ownerAt pos =
        if pos = cell.gridPos position then id else world.ownerAt pos) ∧
      after.cellAt (cell.gridPos position) =
        paint (world.cellAt (cell.gridPos position)) cell position velocity := by
  obtain ⟨manager, added, bounds, positions, owners⟩ :=
    exists_addCellToOrganism world.organismManager live (cell.gridPos position)
  refine ⟨{ world with
    organismManager := manager
    data := world.data.setCell (cell.gridPos position)
      (paint (world.cellAt (cell.gridPos position)) cell position velocity) },
    ?_, ⟨fun _ pos => ?_, fun pos => CellArray.setCell_inBounds, fun pos apart => ?_, positions⟩,
    fun pos => owners pos ((sized _).mpr inside), ?_⟩
  · simp [projectCell, inside, added]
  · exact (bounds pos).trans ((sized pos).trans CellArray.setCell_inBounds.symm)
  · exact CellArray.cellAt_setCell_ne _ _ fun same => apart (List.mem_singleton.mpr same)
  · exact CellArray.cellAt_setCell_self inside _

/-- **Projecting a shape** inside the world: each of its cells is named and painted, and nothing
else changes. -/
theorem projectCells_spec (shape : List (LocalCell K))
    (inside : ∀ pos ∈ gridCells shape position, world.InBounds pos) :
    ∃ after, shape.foldlM (projectCell id position velocity) (world, occupied) =
        some (after, occupied ++ gridCells shape position) ∧
      Touches world after (gridCells shape position) ∧
      (∀ pos, after.ownerAt pos =
        if pos ∈ gridCells shape position then id else world.ownerAt pos) ∧
      ((gridCells shape position).Nodup → ∀ cell ∈ shape, after.cellAt (cell.gridPos position) =
        paint (world.cellAt (cell.gridPos position)) cell position velocity) := by
  induction shape generalizing world occupied with
  | nil =>
      refine ⟨world, ?_, Touches.refl world, fun pos => ?_, ?_⟩
      · simp only [List.foldlM_nil, gridCells, List.map_nil, List.append_nil]
        rfl
      · simp [gridCells]
      · exact fun _ cell member => absurd member List.not_mem_nil
  | cons cell shape ih =>
      have cells : gridCells (cell :: shape) position =
          cell.gridPos position :: gridCells shape position := rfl
      rw [cells] at inside
      obtain ⟨middle, projected, touches, owners, painted⟩ :=
        projectCell_spec sized live position velocity occupied (inside _ List.mem_cons_self)
      have live' := live
      rw [← touches.isSome id] at live'
      obtain ⟨after, rest, touches', owners', painted'⟩ := ih (touches.sized sized) live'
        (occupied ++ [cell.gridPos position]) fun pos member =>
          (touches.inBounds pos).mpr (inside pos (List.mem_cons_of_mem _ member))
      rw [cells]
      refine ⟨after, ?_, touches.trans touches', fun pos => ?_, ?_⟩
      · rw [List.foldlM_cons, projected]
        refine Eq.trans rest ?_
        rw [List.append_assoc, List.singleton_append]
      · rw [owners' pos, owners pos]
        by_cases later : pos ∈ gridCells shape position
        · simp [later]
        · simp [later]
      · intro nodup other member
        obtain ⟨fresh, nodup'⟩ := List.nodup_cons.mp nodup
        rcases List.mem_cons.mp member with rfl | later
        · rw [touches'.cells _ fresh, painted]
        · have apart : other.gridPos position ≠ cell.gridPos position := fun same =>
            fresh (same ▸ List.mem_map_of_mem later)
          rw [painted' nodup' other later, touches.cells]
          exact fun same => apart (List.mem_singleton.mp same)

end

end

theorem reproject_spec [Coordinate K] {projection : LocalShapeProjection K}
    {world : OrganismWorld K} {id : OrganismId} (sized : world.Sized)
    (valid : id ≠ invalidOrganismId) (live : (world.organismManager.getOrganism id).isSome)
    (owner : projection.lastOwnerId = id)
    (held : Occupies world.ownerAt id projection.occupiedCells) (position velocity : Vector2 K)
    (inside : ∀ pos ∈ gridCells projection.localShape position, world.InBounds pos) :
    ∃ after, projection.cleared.project (projection.clearWorld world) id position velocity =
        some ({ projection with
          occupiedCells := gridCells projection.localShape position, lastOwnerId := id }, after) ∧
      Touches world after
        (projection.occupiedCells ++ gridCells projection.localShape position) ∧
      Relocated world.ownerAt after.ownerAt invalidOrganismId id projection.occupiedCells
        (gridCells projection.localShape position) ∧
      ((gridCells projection.localShape position).Nodup → ∀ cell ∈ projection.localShape,
        (after.cellAt (cell.gridPos position)).materialType = cell.material ∧
          (after.cellAt (cell.gridPos position)).fillRatio = cell.fillRatio) := by
  have valid' : projection.lastOwnerId ≠ invalidOrganismId := owner ▸ valid
  have live' := owner ▸ live
  obtain ⟨touches, owners⟩ := clearCells_spec sized valid' live' projection.occupiedCells
  rw [owner] at owners touches
  have named := live
  rw [← touches.isSome id] at named
  obtain ⟨after, projected, touches', owners', painted⟩ := projectCells_spec (touches.sized sized)
    named position velocity [] projection.localShape fun pos member =>
      (touches.inBounds pos).mpr (inside pos member)
  have same : projection.cleared.clearWorld (projection.clearWorld world) =
      projection.occupiedCells.foldl (clearCell id) world := by
    simp [clearWorld, cleared, owner]
  refine ⟨after, ?_, touches.trans touches', fun pos => ?_, fun nodup cell member => ?_⟩
  · rw [project, same]
    simp [cleared, projected]
  · rw [owners' pos, owners pos]
    by_cases taken : pos ∈ gridCells projection.localShape position
    · simp [taken]
    · by_cases left : pos ∈ projection.occupiedCells
      · simp [taken, left, (held pos).mpr left]
      · simp [taken, left]
  · rw [painted nodup cell member]
    exact ⟨rfl, rfl⟩

end LocalShapeProjection

section

/-! ## One update -/

variable {K : Type} [Field K] [LinearOrder K] [IsStrictOrderedRing K] [Coordinate K]
  [ExactCoordinate K] [Analytic K]

open RigidBodyCollisionComponent RigidBodyComponent

omit [IsStrictOrderedRing K] [Coordinate K] [ExactCoordinate K] in
theorem room_of_not_blocked {world : OrganismWorld K} {id : OrganismId}
    {currentCells predictedCells : List Vector2i}
    (free : (detect world id currentCells predictedCells).blocked = false) {pos : Vector2i}
    (member : pos ∈ predictedCells) :
    world.InBounds pos ∧ (world.cellAt pos).materialType ≠ .wall ∧
      OpenTo world.ownerAt invalidOrganismId id pos := by
  have unobstructed : obstruction world id (currentRef currentCells) pos = none := by
    have none_found := of_decide_eq_false free
    rw [not_not, List.filterMap_eq_nil_iff] at none_found
    exact none_found pos member
  unfold obstruction at unobstructed
  by_cases inside : world.InBounds pos
  · by_cases stopped : stops world id pos
    · simp only [inside, not_true_eq_false, stopped, ↓reduceIte, reduceCtorEq] at unobstructed
    · simp only [stops, Bool.or_eq_true, Bool.and_eq_true, decide_eq_true_eq, not_or, not_and,
        not_not] at stopped
      refine ⟨inside, stopped.1.1, ?_⟩
      by_cases vacant : world.ownerAt pos = invalidOrganismId
      · exact Or.inl vacant
      · exact Or.inr (stopped.1.2 vacant)
  · simp only [inside, not_false_eq_true, ↓reduceIte, reduceCtorEq] at unobstructed

/-- **Where a body may end up**: either in the cells it has, or in predicted cells that do not
block. -/
theorem gridCells_moveBody (world : OrganismWorld K) (id : OrganismId)
    (position velocity : Vector2 K) (shape : List (LocalCell K)) (deltaTime : K)
    {verticalMargin : K} (narrow : verticalMargin ≤ 1 / 2) :
    gridCells shape (moveBody world id position velocity shape deltaTime verticalMargin).1 =
        gridCells shape position ∨
      ∀ pos ∈ gridCells shape
          (moveBody world id position velocity shape deltaTime verticalMargin).1,
        world.InBounds pos ∧ (world.cellAt pos).materialType ≠ .wall ∧
          OpenTo world.ownerAt invalidOrganismId id pos := by
  have hundredth : (1 : K) / 100 ≤ 1 / 2 := by norm_num
  unfold moveBody
  dsimp only
  split
  · left
    refine gridCells_congr shape ?_ ?_
    · simp only [clampPosition]
      split
      · exact floor_clampInCell position.x hundredth
      · rfl
    · simp only [clampPosition]
      split
      · exact floor_clampInCell position.y narrow
      · rfl
  · rename_i free
    right
    intro pos member
    exact room_of_not_blocked (Bool.eq_false_iff.mpr free) member

end

namespace RigidWorld

/-! ## Runs of updates -/

section

variable {K : Type} [Field K] [Coordinate K]

open OrganismWorld

/-- What an update returns for a body with this shape and these old cells. -/
structure Reprojected (world : OrganismWorld K) (id : OrganismId) (shape : List (LocalCell K))
    (old : List Vector2i) (result : RigidBodyUpdate K) : Prop where
  projection : result.component.projection =
    { localShape := shape, occupiedCells := result.occupiedCells, lastOwnerId := id }
  occupied : result.occupiedCells = gridCells shape result.position
  room : ∀ pos ∈ result.occupiedCells, world.InBounds pos ∧
    (world.cellAt pos).materialType ≠ .wall ∧ OpenTo world.ownerAt invalidOrganismId id pos
  touches : Touches world result.world (old ++ result.occupiedCells)
  relocated : Relocated world.ownerAt result.world.ownerAt invalidOrganismId id old
    result.occupiedCells
  painted : (shape.map LocalCell.localPos).Nodup → ∀ cell ∈ shape,
    (result.world.cellAt (cell.gridPos result.position)).materialType = cell.material ∧
      (result.world.cellAt (cell.gridPos result.position)).fillRatio = cell.fillRatio

namespace Reprojected

variable {state : RigidWorld K} {id : OrganismId} {organism : RigidOrganism K}
  {position : Vector2 K} {result : RigidBodyUpdate K}

omit [Coordinate K] in
theorem places_syncWorld {world : OrganismWorld K}
    (reprojected : Touches world result.world places)
    (live : (world.organismManager.getOrganism id).map Organism.Body.place = some position)
    (other : OrganismId) :
    ((syncWorld id result).organismManager.getOrganism other).map Organism.Body.place =
      if other = id then some result.position
      else (world.organismManager.getOrganism other).map Organism.Body.place := by
  have kept := reprojected.places
  change ((result.world.organismManager.organisms.modify id _).lookup other).map _ = _
  rw [Dict.lookup_modify]
  by_cases same : other = id
  · subst same
    obtain ⟨body, known, _⟩ := Option.map_eq_some_iff.mp ((kept other).trans live)
    have known' : result.world.organismManager.organisms.lookup other = some body := known
    simp only [↓reduceIte, known', Option.map_some]
    rfl
  · simp only [same, ↓reduceIte]
    exact kept other

section

variable {world : OrganismWorld K} (inPlace : InPlace world id organism position)
  (reprojected : Reprojected world id organism.localShape organism.occupiedCells result)
include inPlace reprojected

theorem self (mass : K) :
    InPlace (syncWorld id result) id (syncOrganism organism mass result) result.position where
  valid := inPlace.valid
  live := by rw [places_syncWorld reprojected.touches inPlace.live, if_pos rfl]
  shape := congrArg LocalShapeProjection.localShape reprojected.projection
  distinct := inPlace.distinct
  occupied := reprojected.occupied
  projected := congrArg LocalShapeProjection.occupiedCells reprojected.projection
  owner := congrArg LocalShapeProjection.lastOwnerId reprojected.projection
  inside := fun pos member => (reprojected.touches.inBounds pos).mpr (reprojected.room pos member).1
  painted := reprojected.painted inPlace.distinct
  notWall := by
    intro pos member
    have member' : pos ∈ gridCells organism.localShape result.position := reprojected.occupied ▸ member
    obtain ⟨cell, listed, rfl⟩ := List.mem_map.mp member'
    have solid := inPlace.notWall (cell.gridPos position) (by
      rw [inPlace.occupied]
      exact List.mem_map_of_mem listed)
    rw [(inPlace.painted cell listed).1] at solid
    exact (reprojected.painted inPlace.distinct cell listed).1.trans_ne solid
  named := reprojected.relocated.occupies inPlace.valid inPlace.named

theorem other {other : OrganismId} {organism' : RigidOrganism K} {position' : Vector2 K}
    (apart : other ≠ id) (inPlace' : InPlace world other organism' position') :
    InPlace (syncWorld id result) other organism' position' := by
  have open_ := fun pos member => (reprojected.room pos member).2.2
  have unchanged : ∀ pos ∈ organism'.occupiedCells,
      (syncWorld id result).cellAt pos = world.cellAt pos := by
    intro pos member
    obtain ⟨left, taken⟩ := inPlace.named.untouched open_ apart inPlace'.valid inPlace'.named member
    refine reprojected.touches.cells pos fun written => ?_
    rcases List.mem_append.mp written with old | new
    · exact left old
    · exact taken new
  refine { inPlace' with live := ?_, inside := ?_, painted := ?_, notWall := ?_, named := ?_ }
  · rw [places_syncWorld reprojected.touches inPlace.live, if_neg apart]
    exact inPlace'.live
  · exact fun pos member => (reprojected.touches.inBounds pos).mpr (inPlace'.inside pos member)
  · intro cell listed
    rw [unchanged _ (by rw [inPlace'.occupied]; exact List.mem_map_of_mem listed)]
    exact inPlace'.painted cell listed
  · intro pos member
    rw [unchanged pos member]
    exact inPlace'.notWall pos member
  · exact reprojected.relocated.keeps inPlace.named open_ apart inPlace'.valid inPlace'.named

end

end Reprojected

end

section

variable {K : Type} [Field K] [LinearOrder K] [IsStrictOrderedRing K] [Coordinate K]
  [ExactCoordinate K] [Analytic K]

theorem InPlace.exists_result {world : OrganismWorld K} {id : OrganismId}
    {organism : RigidOrganism K} {position : Vector2 K} (sized : world.Sized)
    (inPlace : InPlace world id organism position) (velocity : Vector2 K) (mass deltaTime : K)
    (externalForce : Vector2 K) {verticalMargin : K} (narrow : verticalMargin ≤ 1 / 2) :
    ∃ result, organism.rigidBody.update id position velocity mass organism.localShape world
        deltaTime externalForce verticalMargin = some result ∧
      Reprojected world id organism.localShape organism.occupiedCells result := by
  rcases forces : organism.rigidBody.gatherForces id velocity mass
    (gridCells organism.localShape position) world externalForce with ⟨physics, onGround⟩
  rcases moved : RigidBodyComponent.moveBody world id position
    (physics.integrate velocity mass deltaTime) organism.localShape deltaTime verticalMargin with
    ⟨position', velocity'⟩
  have room : ∀ pos ∈ gridCells organism.localShape position', world.InBounds pos ∧
      (world.cellAt pos).materialType ≠ .wall ∧
        OpenTo world.ownerAt invalidOrganismId id pos := by
    have ends := gridCells_moveBody world id position (physics.integrate velocity mass deltaTime)
      organism.localShape deltaTime narrow
    rw [moved] at ends
    rcases ends with stayed | free
    · rw [stayed, ← inPlace.occupied]
      exact fun pos member => ⟨inPlace.inside pos member, inPlace.notWall pos member,
        inPlace.named.openTo member⟩
    · exact free
  have live : (world.organismManager.getOrganism id).isSome := by
    have place := congrArg Option.isSome inPlace.live
    simpa only [Option.isSome_map, Option.isSome_some] using place
  have held := inPlace.named
  rw [← inPlace.projected] at held
  rw [← inPlace.shape] at room
  obtain ⟨after, projected, touches, relocated, painted⟩ :=
    LocalShapeProjection.reproject_spec sized inPlace.valid live inPlace.owner held position'
      velocity' fun pos member => (room pos member).1
  rw [inPlace.shape] at room projected touches relocated painted
  rw [inPlace.projected] at touches relocated
  refine ⟨{
    component := {
      physics := physics.clearPendingForce
      projection := {
        localShape := organism.localShape
        occupiedCells := gridCells organism.localShape position'
        lastOwnerId := id } }
    world := after, position := position', velocity := velocity', onGround := onGround
    occupiedCells := gridCells organism.localShape position' }, ?_,
    rfl, rfl, room, touches, relocated, fun distinct => painted (gridCells_nodup distinct position')⟩
  simp [RigidBodyComponent.update, forces, moved, projected]

theorem Standing.exists_update {state : RigidWorld K} (standing : state.Standing)
    {call : RigidCall K} {organism : RigidOrganism K}
    (found : state.bodies.lookup call.id = some organism) :
    ∃ result, Reprojected state.world call.id organism.localShape organism.occupiedCells result ∧
      state.update call = some {
        world := syncWorld call.id result
        bodies := state.bodies.insert call.id (syncOrganism organism call.mass result) } := by
  obtain ⟨position, inPlace⟩ := standing.inPlace call.id organism found
  obtain ⟨body, known, rfl⟩ := Option.map_eq_some_iff.mp inPlace.live
  obtain ⟨result, returned, reprojected⟩ := inPlace.exists_result standing.sized call.velocity
    call.mass call.deltaTime call.externalForce call.verticalMargin_le
  refine ⟨result, reprojected, ?_⟩
  simp [update, found, known, returned]

/-- **One call** keeps every body in place and every wall a wall. -/
theorem Standing.step {before after : RigidWorld K} (standing : before.Standing)
    {call : RigidCall K} (moved : before.update call = some after) :
    after.Standing ∧ ∀ pos, (before.world.cellAt pos).materialType = .wall →
      (after.world.cellAt pos).materialType = .wall := by
  cases found : before.bodies.lookup call.id with
  | none =>
      simp only [update, found, Option.bind_eq_bind, Option.bind_none, reduceCtorEq] at moved
  | some organism =>
      obtain ⟨result, reprojected, returned⟩ := standing.exists_update found
      obtain rfl := Option.some.inj (returned.symm.trans moved)
      obtain ⟨position, inPlace⟩ := standing.inPlace call.id organism found
      have kept : ∀ id organism', (before.bodies.insert call.id
          (syncOrganism organism call.mass result)).lookup id = some organism' →
          ∃ position', InPlace (syncWorld call.id result) id organism' position' := by
        intro id organism' listed
        rw [Dict.lookup_insert] at listed
        by_cases same : id = call.id
        · subst same
          rw [if_pos rfl] at listed
          cases listed
          exact ⟨_, reprojected.self inPlace call.mass⟩
        · rw [if_neg same] at listed
          obtain ⟨position', inPlace'⟩ := standing.inPlace id organism' listed
          exact ⟨_, reprojected.other inPlace same inPlace'⟩
      refine ⟨⟨?_, kept, ?_⟩, ?_⟩
      · exact reprojected.touches.sized standing.sized
      · intro first second organism' organism'' listed listed' apart
        obtain ⟨_, inPlace'⟩ := kept first organism' listed
        obtain ⟨_, inPlace''⟩ := kept second organism'' listed'
        exact inPlace'.named.disjoint inPlace''.named apart
      · intro pos wall
        refine (congrArg Cell.materialType (reprojected.touches.cells pos fun written => ?_)).trans
          wall
        rcases List.mem_append.mp written with old | new
        · exact inPlace.notWall pos old wall
        · exact (reprojected.room pos new).2.1 wall

/-- **Rigid bodies stay apart.** After any calls in any order every body is in place: inside the
world, apart from the others and from walls, named by the organism grid on exactly the cells of
its shape. No wall was broken, and the next call of any body returns. -/
theorem standing_of_run {before after : RigidWorld K} {calls : List (RigidCall K)}
    (start : before.Standing) (run : (machine K).Run before calls after) :
    after.Standing ∧
      (∀ pos, (before.world.cellAt pos).materialType = .wall →
        (after.world.cellAt pos).materialType = .wall) ∧
      ∀ call : RigidCall K, (after.bodies.lookup call.id).isSome → (after.update call).isSome := by
  induction run with
  | nil state =>
      refine ⟨start, fun _ wall => wall, fun call listed => ?_⟩
      obtain ⟨organism, found⟩ := Option.isSome_iff_exists.mp listed
      obtain ⟨result, _, returned⟩ := start.exists_update found
      rw [returned, Option.isSome_some]
  | cons moved rest ih =>
      obtain ⟨standing, walls⟩ := start.step moved
      obtain ⟨stands, kept, returns⟩ := ih standing
      exact ⟨stands, fun pos wall => kept pos (walls pos wall), returns⟩

end

section

/-- Exact positions over the reals. -/
noncomputable instance : Coordinate ℝ where
  floor := Int.floor
  cellCenter cell := cell + 1 / 2
  rescale coordinate newSize oldSize := coordinate * ((newSize : ℝ) / oldSize)
  centerOfMass coordinate := (coordinate - ⌊coordinate⌋) * 2 - 1

instance : ExactCoordinate ℝ := ⟨Int.floor_eq_iff⟩

noncomputable def projectedGoose : RigidOrganism ℝ where
  velocity := 0
  mass := 3 / 10
  localShape := [⟨⟨0, 0⟩, .wood, 1⟩]
  occupiedCells := [⟨0, 0⟩]
  rigidBody := {
    physics := { pendingForce := 0, material := .wood }
    projection := {
      localShape := [⟨⟨0, 0⟩, .wood, 1⟩], occupiedCells := [⟨0, 0⟩], lastOwnerId := 1 } }

noncomputable def lonelyGoose : RigidWorld ℝ where
  world := {
    data := {
      toGrid := Grid.generate 1 1 fun _ _ =>
        { (Cell.blank : Cell ℝ) with materialType := .wood, fillRatio := 1 }
      width_pos := Nat.one_pos, height_pos := Nat.one_pos
      width_le := by decide, height_le := by decide }
    organismManager := {
      organisms := (∅ : Dict OrganismId (Organism.Body ℝ)).insert 1
        { Organism.Body.spawn .goose ⟨0, 0⟩ with position := (1 / 2, 1 / 2) }
      nextId := 2
      grid := Grid.generate 1 1 fun _ _ => 1 }
    gravity := 98 / 10
    airResistanceStrength := 1 / 10 }
  bodies := (∅ : Dict OrganismId (RigidOrganism ℝ)).insert 1 projectedGoose

theorem lookup_lonelyGoose (id : OrganismId) :
    lonelyGoose.bodies.lookup id = if id = 1 then some projectedGoose else none := by
  rw [lonelyGoose, Dict.lookup_insert]
  rfl

theorem mem_onlyCell {pos : Vector2i} :
    (0 ≤ pos.x ∧ 0 ≤ pos.y ∧ pos.x < (1 : ℕ) ∧ pos.y < (1 : ℕ)) ↔ pos ∈ [(⟨0, 0⟩ : Vector2i)] := by
  rw [List.mem_singleton]
  constructor
  · rintro ⟨left, top, right, bottom⟩
    have x : pos.x = 0 := by push_cast at right; omega
    have y : pos.y = 0 := by push_cast at bottom; omega
    exact Vector2i.ext x y
  · rintro rfl
    decide

theorem gridPos_middle : (⟨⟨0, 0⟩, .wood, 1⟩ : LocalCell ℝ).gridPos ⟨1 / 2, 1 / 2⟩ = ⟨0, 0⟩ := by
  have middle : (Coordinate.floor (1 / 2 : ℝ) : ℤ) = 0 := by
    rw [ExactCoordinate.floor_eq_iff]
    norm_num
  rw [LocalCell.gridPos_eq]
  simp only [middle]
  rfl

theorem inPlace_projectedGoose :
    InPlace lonelyGoose.world 1 projectedGoose ⟨1 / 2, 1 / 2⟩ := by
  have onlyCell : lonelyGoose.world.cellAt ⟨0, 0⟩ =
      { (Cell.blank : Cell ℝ) with materialType := .wood, fillRatio := 1 } := rfl
  exact {
    valid := by decide
    live := rfl
    shape := rfl
    distinct := List.nodup_singleton _
    occupied := (congrArg (fun pos => [pos]) gridPos_middle).symm
    projected := rfl
    owner := rfl
    inside := fun pos member => mem_onlyCell.mpr member
    painted := by
      intro cell member
      rw [List.mem_singleton.mp member, gridPos_middle, onlyCell]
      exact ⟨rfl, rfl⟩
    notWall := by
      intro pos member
      rw [List.mem_singleton.mp member, onlyCell]
      exact Material.noConfusion
    named := by
      intro pos
      have read : lonelyGoose.world.ownerAt pos =
          ((Grid.generate 1 1 fun _ _ => (1 : OrganismId)).get? pos.x pos.y).getD 0 := rfl
      rw [read, Grid.get?_generate]
      by_cases inside : pos ∈ [(⟨0, 0⟩ : Vector2i)]
      · rw [if_pos (mem_onlyCell.mpr inside)]
        exact iff_of_true rfl inside
      · rw [if_neg fun region => inside (mem_onlyCell.mp region)]
        exact iff_of_false (by decide) inside }

theorem standing_lonelyGoose : lonelyGoose.Standing where
  sized := fun _ => Iff.rfl
  inPlace := by
    intro id organism found
    rw [lookup_lonelyGoose] at found
    by_cases same : id = 1
    · rw [if_pos same] at found
      cases found
      subst same
      exact ⟨_, inPlace_projectedGoose⟩
    · rw [if_neg same] at found
      cases found
  apart := by
    intro first second organism organism' found found' apart
    rw [lookup_lonelyGoose] at found found'
    by_cases same : first = 1
    · by_cases same' : second = 1
      · exact absurd (same.trans same'.symm) apart
      · rw [if_neg same'] at found'
        cases found'
    · rw [if_neg same] at found
      cases found

noncomputable def jump : RigidCall ℝ where
  id := 1
  velocity := ⟨3, 0⟩
  mass := 3 / 10
  deltaTime := 1 / 4
  externalForce := ⟨0, -150⟩
  verticalMargin := 1 / 4
  verticalMargin_le := by norm_num

theorem standing_lonelyGoose_jump : ∃ after, (machine ℝ).Run lonelyGoose [jump] after ∧
    after.Standing := by
  have found : lonelyGoose.bodies.lookup jump.id = some projectedGoose := lookup_lonelyGoose 1
  obtain ⟨result, _, returned⟩ := standing_lonelyGoose.exists_update found
  have run : (machine ℝ).Run lonelyGoose [jump] _ := .cons returned (.nil _)
  exact ⟨_, run, (standing_of_run standing_lonelyGoose run).1⟩

end

end RigidWorld

end DirtSim
