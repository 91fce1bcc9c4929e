import DirtSim.Foundation.VacancySearch
import DirtSim.Physics.MaterialReplacement

/-! # What a replacement displaces

The search settles on the first free cell beside the position that is at most half full; an empty
one found later may be passed over, and what was in the settled one is overwritten. Diagonal cells
are not searched. Where neither matters, a replacement displaces what was in the cell and nothing
else (`World.replaces_iff`).
-/

namespace DirtSim

open Foundation

variable {K : Type*} {F : Type} [Field K] [LinearOrder K]

namespace World

section

/-! ## What a replacement owes the world -/

/-- A cell of the world that belongs to no organism. -/
def IsFree (world : World K F) (pos : Vector2i) : Prop :=
  world.isValidCell pos ∧ world.hasOrganism pos = false

instance (world : World K F) (pos : Vector2i) : Decidable (world.IsFree pos) :=
  inferInstanceAs (Decidable (_ ∧ _))

/-- What was in the cell is now in another one, and so is its owner. Nothing else has changed. -/
structure Moved [Coordinate F] (before after : World K F) (pos : Vector2i) (material : Material)
    (target : Vector2i) : Prop where
  placed : (after.cellAt pos).materialType = material ∧ (after.cellAt pos).fillRatio = 1
  moved : after.cellAt target = before.cellAt pos
  others : ∀ other, other ≠ pos → other ≠ target → after.cellAt other = before.cellAt other
  vacated : after.hasOrganism pos = false
  owner : after.organismManager.organismAt target = before.organismManager.organismAt pos
  owners : ∀ other, other ≠ pos → other ≠ target →
    after.organismManager.organismAt other = before.organismManager.organismAt other
  carried : before.hasOrganism pos → ∀ body,
    before.organismManager.getOrganism (before.organismManager.organismAt pos) = some body →
      after.organismManager.getOrganism (before.organismManager.organismAt pos) =
        some (OrganismManager.transferred pos target body)
  organisms : ∀ id, (id = before.organismManager.organismAt pos → before.hasOrganism pos = false) →
    after.organismManager.getOrganism id = before.organismManager.getOrganism id

/-- The other cell is one that was empty before. -/
structure Displaced [Coordinate F] (before after : World K F) (pos : Vector2i) (material : Material)
    (target : Vector2i) : Prop extends Moved before after pos material target where
  inside : before.isValidCell target
  empty : (before.cellAt target).isEmpty

/-- Every organism that is gone afterwards had no free cell within a distance of four from the
position. -/
def RemovesOnlyTrapped (before after : World K F) (pos : Vector2i) : Prop :=
  ∀ id, (before.organismManager.getOrganism id).isSome →
    after.organismManager.getOrganism id = none →
      ∀ other, distance pos other ≤ 4 → ¬ before.IsFree other

/-- The steps to the free cells beside a position, in the order of the search. -/
def freeDirections (world : World K F) (pos : Vector2i) : List Vector2i :=
  directions.filter fun dir => world.IsFree (pos + dir)

/-- How the search judges the cells around a position. -/
def neighborSpots (world : World K F) (pos : Vector2i) : Spots Vector2i K where
  vacant dir := (world.cellAt (pos + dir)).isEmpty
  load dir := (world.cellAt (pos + dir)).fillRatio
  appeal dir := (world.cellAt pos).com.x * dir.x + (world.cellAt pos).com.y * dir.y
  limit := 1 / 2

/-- An organism in the cell has a free diagonal neighbour only where another cell within a distance
of four is free. -/
def HasStraightWay (world : World K F) (pos : Vector2i) : Prop :=
  world.hasOrganism pos → (∃ other, world.IsFree other ∧ IsDiagonal pos other) →
    ∃ other, world.IsFree other ∧ ¬ IsDiagonal pos other ∧ distance pos other ≤ 4

/-- A replacement beside an empty free cell displaces what was there and nothing else, and none
removes an organism that has a free cell around it. -/
structure Replaces [Coordinate F] (state : WateredWorld K F) (pos : Vector2i) (material : Material) :
    Prop where
  displaces : (∃ dir ∈ directions, state.world.IsFree (pos + dir) ∧
      (state.world.cellAt (pos + dir)).isEmpty) →
    ∃ after target, state.replaceMaterialAtCell pos material = some after ∧
      state.world.Displaced after.world pos material target
  spares : ∀ after, state.replaceMaterialAtCell pos material = some after →
    state.world.RemovesOnlyTrapped after.world pos

end

section

/-! ## The search as a search for a vacancy -/

variable {world : World K F} {pos : Vector2i}
variable {dir : Vector2i}

def BestNeighbor.kept (best : BestNeighbor K) : Spots.Kept Vector2i K :=
  { spot := best.bestDir, appeal := best.bestScore, load := best.bestFill }

theorem considerNeighbor_kept (best : BestNeighbor K) (dir : Vector2i) :
    (world.considerNeighbor pos best dir).kept =
      if world.IsFree (pos + dir) then (world.neighborSpots pos).consider best.kept dir
      else best.kept := by
  unfold considerNeighbor
  by_cases free : world.IsFree (pos + dir)
  · rw [if_pos free]
    simp only [free.1, free.2, Bool.not_true, Bool.false_eq_true, ↓reduceIte,
      apply_ite BestNeighbor.kept]
    rfl
  · rw [if_neg free]
    cases valid : world.isValidCell (pos + dir) with
    | false => simp [valid]
    | true =>
        have owned : world.hasOrganism (pos + dir) = true :=
          Bool.not_eq_false _ ▸ fun nobody => free ⟨valid, nobody⟩
        simp [valid, owned]

theorem foldl_considerNeighbor_kept (world : World K F) (pos : Vector2i) (best : BestNeighbor K)
    (dirs : List Vector2i) :
    (dirs.foldl (world.considerNeighbor pos) best).kept =
      (world.neighborSpots pos).search best.kept
        (dirs.filter fun dir => world.IsFree (pos + dir)) := by
  induction dirs generalizing best with
  | nil => rfl
  | cons dir dirs ih =>
      rw [List.foldl_cons, ih, considerNeighbor_kept, List.filter_cons]
      by_cases free : world.IsFree (pos + dir)
      · simp only [free, ↓reduceIte, decide_true]
        rfl
      · simp [free]

/-- The steps to the free cells of the rings, in the order of the search. -/
def freeRings (world : World K F) (pos : Vector2i) : List Vector2i :=
  ((between 2 4).flatMap ringDirections).filter fun dir => world.IsFree (pos + dir)

theorem findNeighbor_kept (world : World K F) (pos : Vector2i) :
    (world.findNeighbor pos).kept =
      let beside := (world.neighborSpots pos).search BestNeighbor.start.kept
        (world.freeDirections pos)
      if beside.load > 1 / 2 then (world.neighborSpots pos).search beside (world.freeRings pos)
      else beside := by
  have first := foldl_considerNeighbor_kept world pos .start directions
  have load : (directions.foldl (world.considerNeighbor pos) .start).bestFill =
      ((world.neighborSpots pos).search BestNeighbor.start.kept (world.freeDirections pos)).load :=
    congrArg Spots.Kept.load first
  unfold findNeighbor
  dsimp only
  rw [← List.foldl_flatMap, apply_ite BestNeighbor.kept, foldl_considerNeighbor_kept, first, load]
  rfl

theorem pos_add_zero : pos + ⟨0, 0⟩ = pos := Vector2i.ext (add_zero _) (add_zero _)

theorem pos_add_ne (apart : dir ≠ ⟨0, 0⟩) : pos + dir ≠ pos := by
  intro same
  have x : pos.x + dir.x = pos.x := congrArg Vector2i.x same
  have y : pos.y + dir.y = pos.y := congrArg Vector2i.y same
  refine apart (Vector2i.ext ?_ ?_)
  · change dir.x = 0
    omega
  · change dir.y = 0
    omega

theorem mem_directions (pos : Vector2i) :
    dir ∈ directions ↔ distance pos (pos + dir) = 1 ∧ ¬ IsDiagonal pos (pos + dir) := by
  obtain ⟨x, y⟩ := dir
  simp only [directions, List.mem_cons, List.not_mem_nil, or_false, Vector2i.mk.injEq, distance,
    IsDiagonal, Vector2i.add_x, Vector2i.add_y, add_sub_cancel_left, abs_eq_max_neg]
  omega

theorem mem_ringDirections (pos : Vector2i) :
    dir ∈ (between 2 4).flatMap ringDirections ↔
      2 ≤ distance pos (pos + dir) ∧ distance pos (pos + dir) ≤ 4 := by
  obtain ⟨x, y⟩ := dir
  simp only [ringDirections, List.mem_flatMap, mem_between, List.mem_map, List.mem_filter,
    Vector2i.mk.injEq, distance, Vector2i.add_x, Vector2i.add_y,
    add_sub_cancel_left, abs_eq_max_neg]
  constructor
  · rintro ⟨radius, bounds, dy, rows, dx, ⟨columns, edge⟩, rfl, rfl⟩
    have onEdge := of_decide_eq_true edge
    omega
  · intro near
    exact ⟨max (max x (-x)) (max y (-y)), by omega, y, by omega, x,
      ⟨by omega, decide_eq_true (by omega)⟩, rfl, rfl⟩

section

omit [Field K] [LinearOrder K]

theorem free_of_mem (member : dir ∈ world.freeDirections pos ++ world.freeRings pos) :
    world.IsFree (pos + dir) ∧ dir ≠ ⟨0, 0⟩ := by
  have away (near : distance pos (pos + dir) ≥ 1) : dir ≠ ⟨0, 0⟩ := by
    rintro rfl
    have here : distance pos (pos + ⟨0, 0⟩) ≤ 0 := distance_le_zero_iff.mpr pos_add_zero
    omega
  rcases List.mem_append.mp member with beside | ring
  · obtain ⟨listed, free⟩ := List.mem_filter.mp beside
    exact ⟨of_decide_eq_true free, away ((mem_directions pos).mp listed).1.ge⟩
  · obtain ⟨listed, free⟩ := List.mem_filter.mp ring
    have near := (mem_ringDirections pos).mp listed
    exact ⟨of_decide_eq_true free, away (by omega)⟩

theorem exists_mem_iff (owned : world.hasOrganism pos) :
    (∃ dir, dir ∈ world.freeDirections pos ++ world.freeRings pos) ↔
      ∃ other, world.IsFree other ∧ ¬ IsDiagonal pos other ∧ distance pos other ≤ 4 := by
  constructor
  · intro ⟨dir, member⟩
    refine ⟨pos + dir, (free_of_mem member).1, ?_⟩
    rcases List.mem_append.mp member with beside | ring
    · obtain ⟨near, straight⟩ := (mem_directions pos).mp (List.mem_filter.mp beside).1
      exact ⟨straight, by omega⟩
    · have near := (mem_ringDirections pos).mp (List.mem_filter.mp ring).1
      refine ⟨fun diagonal => ?_, near.2⟩
      have beside := diagonal.distance_eq
      omega
  · intro ⟨other, free, straight, near⟩
    have step : pos + (other - pos) = other :=
      Vector2i.ext (add_sub_cancel _ _) (add_sub_cancel _ _)
    have apart : ¬ distance pos other ≤ 0 := by
      rw [distance_le_zero_iff]
      rintro rfl
      exact Bool.noConfusion (owned.symm.trans free.2)
    refine ⟨other - pos, List.mem_append.mpr ?_⟩
    have free' : decide (world.IsFree (pos + (other - pos))) = true := by
      rw [step]
      exact decide_eq_true free
    have beside_or_ring : distance pos other = 1 ∨ 2 ≤ distance pos other := by omega
    rcases beside_or_ring with beside | ring
    · refine Or.inl (List.mem_filter.mpr ⟨(mem_directions pos).mpr ?_, free'⟩)
      rw [step]
      exact ⟨beside, straight⟩
    · refine Or.inr (List.mem_filter.mpr ⟨(mem_ringDirections pos).mpr ?_, free'⟩)
      rw [step]
      exact ⟨ring, near⟩

end

variable [IsStrictOrderedRing K]

omit [LinearOrder K] [IsStrictOrderedRing K] in
theorem start_kept :
    (BestNeighbor.start : BestNeighbor K).kept = { spot := ⟨0, 0⟩, appeal := -999, load := 2 } := rfl

theorem half_lt_two : (1 / 2 : K) < 2 := by norm_num

theorem half_nonneg : (0 : K) ≤ 1 / 2 := by norm_num

theorem load_lt (fills : world.data.UnitFills) (free : world.IsFree (pos + dir)) :
    (world.neighborSpots pos).load dir < 2 := by
  have inside := of_decide_eq_true free.1
  have filled : (world.cellAt (pos + dir)).fillRatio ≤ 1 := (fills.fits inside).2
  have enough : (1 : K) < 2 := one_lt_two
  exact filled.trans_lt enough

theorem beside_mem (fills : world.data.UnitFills) (some_free : world.freeDirections pos ≠ []) :
    ((world.neighborSpots pos).search BestNeighbor.start.kept (world.freeDirections pos)).spot ∈
      world.freeDirections pos := by
  apply Spots.search_mem half_lt_two some_free
  intro dir member
  exact load_lt fills (of_decide_eq_true (List.mem_filter.mp member).2)

theorem bestDir_spec (pos : Vector2i) (fills : world.data.UnitFills) :
    ((world.findNeighbor pos).bestDir = ⟨0, 0⟩ ∧
        world.freeDirections pos = [] ∧ world.freeRings pos = []) ∨
      (world.findNeighbor pos).bestDir ∈ world.freeDirections pos ++ world.freeRings pos := by
  have spot : (world.findNeighbor pos).bestDir = (world.findNeighbor pos).kept.spot := rfl
  rw [spot, findNeighbor_kept]
  dsimp only
  by_cases none_beside : world.freeDirections pos = []
  · have unchanged : (world.neighborSpots pos).search BestNeighbor.start.kept
        (world.freeDirections pos) = BestNeighbor.start.kept := by
      rw [none_beside]
      rfl
    have unsettled : BestNeighbor.start.kept.load > (1 / 2 : K) := half_lt_two
    rw [unchanged, if_pos unsettled]
    by_cases none_around : world.freeRings pos = []
    · left
      rw [none_around]
      exact ⟨rfl, none_beside, rfl⟩
    · right
      apply List.mem_append_right
      apply Spots.search_mem half_lt_two none_around
      intro dir member
      exact load_lt fills (of_decide_eq_true (List.mem_filter.mp member).2)
  · have beside := beside_mem fills none_beside
    right
    split
    · have found : ((world.neighborSpots pos).search ((world.neighborSpots pos).search
          BestNeighbor.start.kept (world.freeDirections pos)) (world.freeRings pos)).spot ∈ _ :=
        Spots.search_mem_cons
      rcases List.mem_cons.mp found with same | ring
      · rw [same]
        exact List.mem_append_left _ beside
      · exact List.mem_append_right _ ring
    · exact List.mem_append_left _ beside

theorem isEmpty_bestDir_iff
    (occupied : (world.cellAt pos).isEmpty = false)
    (room : ∃ dir ∈ world.freeDirections pos, (world.cellAt (pos + dir)).isEmpty) :
    (world.cellAt (pos + (world.findNeighbor pos).bestDir)).isEmpty ↔
      (world.neighborSpots pos).FindsVacancy (world.freeDirections pos) := by
  obtain ⟨dir, member, vacant⟩ := room
  have settled : ((world.neighborSpots pos).search BestNeighbor.start.kept
      (world.freeDirections pos)).load ≤ 1 / 2 :=
    Spots.search_settles half_nonneg member vacant
  have spot : (world.findNeighbor pos).bestDir = ((world.neighborSpots pos).search
      BestNeighbor.start.kept (world.freeDirections pos)).spot := by
    have kept := findNeighbor_kept world pos
    dsimp only at kept
    rw [if_neg settled.not_gt] at kept
    exact congrArg Spots.Kept.spot kept
  rw [spot]
  change (world.neighborSpots pos).vacant _ ↔ _
  apply Spots.vacant_search_iff half_nonneg half_lt_two
  rw [start_kept]
  change (world.cellAt (pos + ⟨0, 0⟩)).isEmpty = false
  rw [pos_add_zero]
  exact occupied

end

section

/-! ## What becomes of the cell -/

variable [Coordinate F] {world : World K F} {pos target : Vector2i} {material : Material}

section

omit [Field K] [LinearOrder K] [Coordinate F]

theorem hasOrganism_iff : world.hasOrganism pos ↔
    world.organismManager.organismAt pos ≠ invalidOrganismId := by
  rw [hasOrganism, OrganismManager.hasOrganism, bne_iff_ne]

theorem organismAt_of_free (free : world.hasOrganism pos = false) :
    world.organismManager.organismAt pos = invalidOrganismId := by
  by_contra owned
  exact Bool.noConfusion (free.symm.trans (hasOrganism_iff.mpr owned))

end

theorem swapOrganisms_of_free {manager : OrganismManager F} (here : manager.inBounds pos)
    (there : manager.inBounds target) (free : manager.organismAt target = invalidOrganismId)
    (owned : manager.organismAt pos ≠ invalidOrganismId)
    (live : (manager.getOrganism (manager.organismAt pos)).isSome) :
    ∃ after, manager.swapOrganisms target pos = some after ∧
      (∀ other, after.organismAt other =
        if other = pos then invalidOrganismId
        else if other = target then manager.organismAt pos else manager.organismAt other) ∧
      ∀ id, after.getOrganism id =
        if id = manager.organismAt pos then
          (manager.getOrganism id).map (OrganismManager.transferred pos target)
        else manager.getOrganism id := by
  have present : (manager.organisms.lookup (manager.organismAt pos)).isNone = false := by
    rw [← Option.not_isSome, Bool.not_eq_false']
    exact live
  have apart : ¬ (manager.organismAt target = manager.organismAt pos ∧
      manager.organismAt target ≠ invalidOrganismId) := fun both => both.2 free
  refine ⟨{ (manager.setOrganismAt target (manager.organismAt pos)).setOrganismAt pos
      invalidOrganismId with
    organisms := OrganismManager.transferCell manager.organisms (manager.organismAt pos) pos
      target }, ?_, fun other => ?_, fun id => ?_⟩
  · simp only [OrganismManager.swapOrganisms, if_neg apart]
    simp only [free, ↓reduceIte, owned, OrganismManager.setOrganismAt, present, Bool.false_eq_true,
      Option.bind_eq_bind, Option.bind_some, Option.pure_def]
  · exact OrganismManager.organismAt_setOrganismAt_twice there here other _ _
  · refine (Dict.lookup_modify (manager.organismAt pos) id _ manager.organisms).trans ?_
    split
    · subst id
      rfl
    · rfl

omit [LinearOrder K] [Coordinate F] in
theorem cellAt_displaced (inside : world.isValidCell pos) (inside' : world.isValidCell target)
    (other : Vector2i) (first second : Cell K) :
    (((world.setCell target first).setCell pos second).setCell pos (.filled material)).cellAt other =
      if other = pos then .filled material else if other = target then first
      else world.cellAt other := by
  have here := of_decide_eq_true inside
  have there := of_decide_eq_true inside'
  by_cases same : other = pos
  · rw [if_pos same, same]
    exact CellArray.cellAt_setCell_self
      (CellArray.setCell_inBounds.mpr (CellArray.setCell_inBounds.mpr here)) _
  · rw [if_neg same]
    have outer := CellArray.cellAt_setCell_ne ((world.setCell target first).setCell pos second).data
      (.filled material) same
    have inner := CellArray.cellAt_setCell_ne (world.setCell target first).data second same
    refine (outer.trans inner).trans ?_
    split
    · subst other
      exact CellArray.cellAt_setCell_self there _
    · exact CellArray.cellAt_setCell_ne world.data first ‹_›

omit [LinearOrder K] in
theorem Moved.of_reads {after : World K F} (apart : target ≠ pos)
    (cells : ∀ other, after.cellAt other =
      if other = pos then .filled material else if other = target then world.cellAt pos
      else world.cellAt other)
    (owners : ∀ other, after.organismManager.organismAt other =
      if other = pos then invalidOrganismId
      else if other = target then world.organismManager.organismAt pos
      else world.organismManager.organismAt other)
    (organisms : ∀ id, after.organismManager.getOrganism id =
      if id = world.organismManager.organismAt pos ∧ world.hasOrganism pos then
        (world.organismManager.getOrganism id).map (OrganismManager.transferred pos target)
      else world.organismManager.getOrganism id) : world.Moved after pos material target where
  placed := by
    rw [cells, if_pos rfl]
    exact ⟨rfl, rfl⟩
  moved := by rw [cells, if_neg apart, if_pos rfl]
  others other notPos notTarget := by rw [cells, if_neg notPos, if_neg notTarget]
  vacated := by
    have nobody := owners pos
    rw [if_pos rfl] at nobody
    rw [← Bool.not_eq_true, hasOrganism_iff, not_not]
    exact nobody
  owner := by rw [owners, if_neg apart, if_pos rfl]
  owners other notPos notTarget := by rw [owners, if_neg notPos, if_neg notTarget]
  carried owned body found := by rw [organisms, if_pos ⟨rfl, owned⟩, found, Option.map_some]
  organisms id spared := by
    rw [organisms, if_neg]
    rintro ⟨same, owned⟩
    exact Bool.noConfusion ((spared same).symm.trans owned)

/-- The world after a displacement, but for the manager. -/
def exchanged (world : World K F) (pos target : Vector2i) (material : Material)
    (manager : OrganismManager F) : World K F :=
  let swapped :=
    ((world.setCell target (world.cellAt pos)).setCell pos (world.cellAt target)
      |>.noteExternalMutation target).noteExternalMutation pos
  ((({ swapped with organismManager := manager } : World K F).setCell pos (.filled material))
    |>.noteExternalMutation pos).noteExternalMutation target

omit [LinearOrder K] [Coordinate F] in
theorem cellAt_exchanged (inside : world.isValidCell pos) (inside' : world.isValidCell target)
    (manager : OrganismManager F) (other : Vector2i) :
    (world.exchanged pos target material manager).cellAt other =
      if other = pos then .filled material else if other = target then world.cellAt pos
      else world.cellAt other :=
  cellAt_displaced inside inside' other (world.cellAt pos) (world.cellAt target)

omit [LinearOrder K] in
theorem displaceInto_moves (tracked : world.Tracked) (inside : world.isValidCell pos)
    (free : world.IsFree target) (apart : target ≠ pos) (material : Material) :
    ∃ after, world.displaceInto pos material target = some after ∧
      world.Moved after pos material target := by
  have nobody := organismAt_of_free free.2
  have here : world.organismManager.inBounds pos := tracked.inBounds (of_decide_eq_true inside)
  have there : world.organismManager.inBounds target := tracked.inBounds (of_decide_eq_true free.1)
  cases owned : world.hasOrganism pos with
  | false =>
      have vacant := organismAt_of_free owned
      refine ⟨world.exchanged pos target material world.organismManager, ?_,
        .of_reads apart (cellAt_exchanged inside free.1 _) (fun other => ?_) (fun id => ?_)⟩
      · simp only [displaceInto, swapCells, free.1, free.2, inside, owned, Bool.not_true,
          Bool.or_self, Bool.false_eq_true, ↓reduceIte, Option.map_some]
        rfl
      · change world.organismManager.organismAt other = _
        split
        · subst other
          exact vacant
        · split
          · subst other
            exact nobody.trans vacant.symm
          · rfl
      · rw [if_neg fun both => Bool.noConfusion (owned.symm.trans both.2)]
        rfl
  | true =>
      have valid := hasOrganism_iff.mp owned
      obtain ⟨manager, swapped, owners, organisms⟩ :=
        swapOrganisms_of_free here there nobody valid (tracked.live pos valid)
      refine ⟨world.exchanged pos target material manager, ?_,
        .of_reads apart (cellAt_exchanged inside free.1 _) owners (fun id => ?_)⟩
      · simp only [displaceInto, swapCells, free.1, free.2, inside, owned, Bool.not_true,
          Bool.or_self, Bool.or_true, Bool.false_eq_true, ↓reduceIte]
        have exchange : (((((world.setCell target (world.cellAt pos)).setCell pos
            (world.cellAt target)).noteExternalMutation target).noteExternalMutation
              pos).organismManager.swapOrganisms target pos) = some manager := swapped
        rw [exchange]
        rfl
      · simp only [owned, and_true]
        exact organisms id

omit [LinearOrder K] [Coordinate F] in
theorem getOrganism_overwriteInPlace (pos : Vector2i) (tracked : world.Tracked)
    (material : Material) (id : OrganismId) :
    (world.overwriteInPlace pos material).organismManager.getOrganism id =
      if id = world.organismManager.organismAt pos ∧ world.hasOrganism pos then none
      else world.organismManager.getOrganism id := by
  unfold overwriteInPlace
  cases owned : world.hasOrganism pos with
  | false =>
      simp only [Bool.false_eq_true, and_false, ↓reduceIte]
      rfl
  | true =>
      obtain ⟨body, found⟩ :=
        Option.isSome_iff_exists.mp (tracked.live pos (hasOrganism_iff.mp owned))
      simp only [↓reduceIte, and_true, removeOrganismFromWorld, found, OrganismManager.removeOrganism]
      exact Dict.lookup_erase _ id world.organismManager.organisms

variable [IsStrictOrderedRing K]

section

variable (tracked : world.Tracked) (fills : world.data.UnitFills) (inside : world.isValidCell pos)
  (occupied : (world.cellAt pos).isEmpty = false)
  (different : (world.cellAt pos).materialType ≠ material)
include tracked fills inside occupied different

/-- What a replacement of other material does: it overwrites the cell where the search sees no free
one, and displaces into the free one that it ends at otherwise. -/
theorem replaceInCells_cases :
    (world.freeDirections pos = [] ∧ world.freeRings pos = [] ∧
        world.replaceInCells pos material = some (world.overwriteInPlace pos material)) ∨
      ((world.findNeighbor pos).bestDir ∈ world.freeDirections pos ++ world.freeRings pos ∧
        ∃ after, world.replaceInCells pos material = some after ∧
          world.Moved after pos material (pos + (world.findNeighbor pos).bestDir)) := by
  have replaced : world.replaceInCells pos material =
      if (world.findNeighbor pos).bestDir = ⟨0, 0⟩ then some (world.overwriteInPlace pos material)
      else world.displaceInto pos material (pos + (world.findNeighbor pos).bestDir) := by
    simp [replaceInCells, occupied, different]
  rw [replaced]
  rcases bestDir_spec pos fills with ⟨nowhere, none_beside, none_around⟩ | member
  · exact Or.inl ⟨none_beside, none_around, if_pos nowhere⟩
  · obtain ⟨free, apart⟩ := free_of_mem member
    rw [if_neg apart]
    exact Or.inr ⟨member, displaceInto_moves tracked inside free (pos_add_ne apart) material⟩

theorem exists_displaced_iff
    (room : ∃ dir ∈ world.freeDirections pos, (world.cellAt (pos + dir)).isEmpty) :
    (∃ after target, world.replaceInCells pos material = some after ∧
        world.Displaced after pos material target) ↔
      (world.neighborSpots pos).FindsVacancy (world.freeDirections pos) := by
  rw [← isEmpty_bestDir_iff occupied room]
  rcases replaceInCells_cases tracked fills inside occupied different with
    ⟨none_beside, _, _⟩ | ⟨member, after, replaced, moves⟩
  · obtain ⟨dir, beside, _⟩ := room
    rw [none_beside] at beside
    exact absurd beside List.not_mem_nil
  · constructor
    · intro ⟨after', target, replaced', displaced⟩
      have same : after' = after := Option.some.inj (replaced'.symm.trans replaced)
      subst same
      by_contra taken
      -- The cell that was empty is another one, and still holds what it held.
      have notBest : target ≠ pos + (world.findNeighbor pos).bestDir := by
        intro here
        exact taken (here ▸ displaced.empty)
      have notPos : target ≠ pos := by
        intro here
        exact Bool.noConfusion ((here ▸ displaced.empty).symm.trans occupied)
      have kept := moves.others target notPos notBest
      rw [displaced.moved] at kept
      exact Bool.noConfusion ((kept ▸ occupied).symm.trans displaced.empty)
    · intro empty
      exact ⟨after, _, replaced, moves, (free_of_mem member).1.1, empty⟩

end

omit [LinearOrder K] [IsStrictOrderedRing K] in
theorem Moved.spares {after : World K F} (moves : world.Moved after pos material target) :
    world.RemovesOnlyTrapped after pos := by
  intro id live gone
  obtain ⟨body, found⟩ := Option.isSome_iff_exists.mp live
  by_cases owner : id = world.organismManager.organismAt pos ∧ world.hasOrganism pos
  · obtain ⟨rfl, owned⟩ := owner
    rw [moves.carried owned body found] at gone
    exact absurd gone nofun
  · have spared : id = world.organismManager.organismAt pos → world.hasOrganism pos = false :=
      fun same => Bool.not_eq_true _ ▸ fun owned => owner ⟨same, owned⟩
    rw [moves.organisms id spared, found] at gone
    exact absurd gone nofun

/-- No organism with a free cell around it is removed exactly when the one in the cell has a way
that is not diagonal, if it has any. -/
theorem removesOnlyTrapped_iff (tracked : world.Tracked) (fills : world.data.UnitFills)
    (inside : world.isValidCell pos) (occupied : (world.cellAt pos).isEmpty = false)
    (different : (world.cellAt pos).materialType ≠ material) :
    (∀ after, world.replaceInCells pos material = some after →
      world.RemovesOnlyTrapped after pos) ↔ world.HasStraightWay pos := by
  rcases replaceInCells_cases tracked fills inside occupied different with
    ⟨none_beside, none_around, replaced⟩ | ⟨member, after, replaced, moves⟩
  · have removed := getOrganism_overwriteInPlace pos tracked material
    constructor
    · intro spares owned ⟨other, free, diagonal⟩
      have live := tracked.live pos (hasOrganism_iff.mp owned)
      have gone := (removed (world.organismManager.organismAt pos)).trans (if_pos ⟨rfl, owned⟩)
      have near : distance pos other ≤ 4 := by
        rw [diagonal.distance_eq]
        decide
      exact absurd free (spares _ replaced _ live gone other near)
    · intro way after replaced' id live gone other near free
      rw [← Option.some.inj (replaced.symm.trans replaced'), removed] at gone
      split at gone
      · rename_i owner
        have straight : ∃ cell, world.IsFree cell ∧ ¬ IsDiagonal pos cell ∧
            distance pos cell ≤ 4 := by
          by_cases diagonal : IsDiagonal pos other
          · exact way owner.2 ⟨other, free, diagonal⟩
          · exact ⟨other, free, diagonal, near⟩
        obtain ⟨dir, seen⟩ := (exists_mem_iff owner.2).mpr straight
        rw [none_beside, none_around] at seen
        exact absurd seen List.not_mem_nil
      · rw [gone] at live
        exact absurd live nofun
  · constructor
    · intro _ owned _
      exact (exists_mem_iff owned).mp ⟨_, member⟩
    · intro _ after' replaced'
      rw [← Option.some.inj (replaced.symm.trans replaced')]
      exact moves.spares

section

variable {state : WateredWorld K F}

omit [IsStrictOrderedRing K] in
theorem replaceMaterialAtCell_of_legacy
    (legacy : state.world.physicsSettings.waterSimMode = .legacyCell)
    (inside : state.world.isValidCell pos) (solid : material ≠ .air) :
    state.replaceMaterialAtCell pos material =
      (state.world.replaceInCells pos material).map fun world => { state with world := world } := by
  have noLayer : state.usesWaterLayer = false := by
    simp [WateredWorld.usesWaterLayer, legacy]
  simp [WateredWorld.replaceMaterialAtCell, inside, solid, noLayer]

variable (legacy : state.world.physicsSettings.waterSimMode = .legacyCell)
  (tracked : state.world.Tracked) (fills : state.world.data.UnitFills)
  (inside : state.world.isValidCell pos) (solid : material ≠ .air)
  (occupied : (state.world.cellAt pos).isEmpty = false)
  (different : (state.world.cellAt pos).materialType ≠ material)

include legacy tracked fills inside solid occupied different

theorem displaces_iff
    (room : ∃ dir ∈ state.world.freeDirections pos, (state.world.cellAt (pos + dir)).isEmpty) :
    (∃ after target, state.replaceMaterialAtCell pos material = some after ∧
        state.world.Displaced after.world pos material target) ↔
      (state.world.neighborSpots pos).FindsVacancy (state.world.freeDirections pos) := by
  rw [← exists_displaced_iff tracked fills inside occupied different room,
    replaceMaterialAtCell_of_legacy legacy inside solid]
  constructor
  · intro ⟨after, target, mapped, displaced⟩
    obtain ⟨world, result, rfl⟩ := Option.map_eq_some_iff.mp mapped
    exact ⟨world, target, result, displaced⟩
  · intro ⟨world, target, result, displaced⟩
    exact ⟨_, target, Option.map_eq_some_iff.mpr ⟨world, result, rfl⟩, displaced⟩

theorem spares_iff :
    (∀ after, state.replaceMaterialAtCell pos material = some after →
        state.world.RemovesOnlyTrapped after.world pos) ↔ state.world.HasStraightWay pos := by
  rw [← removesOnlyTrapped_iff tracked fills inside occupied different,
    replaceMaterialAtCell_of_legacy legacy inside solid]
  constructor
  · intro spares world result
    exact spares _ (Option.map_eq_some_iff.mpr ⟨world, result, rfl⟩)
  · intro spares after mapped
    obtain ⟨world, result, rfl⟩ := Option.map_eq_some_iff.mp mapped
    exact spares world result

/-- **Replacements.** Without a water layer, putting material into a cell with other material
displaces what is there into an empty cell when there is one beside it, and removes no organism that
has a free cell within a distance of four, exactly when two conditions hold. The first free cell
beside the position that is at most half full is empty, or a later empty one lies more in the
direction of the center of mass. And an organism in the cell has a free diagonal neighbour only
where another cell in reach is free. -/
theorem replaces_iff :
    Replaces state pos material ↔
      ((∃ dir ∈ state.world.freeDirections pos, (state.world.cellAt (pos + dir)).isEmpty) →
        (state.world.neighborSpots pos).FindsVacancy (state.world.freeDirections pos)) ∧
      state.world.HasStraightWay pos := by
  have beside : (∃ dir ∈ directions, state.world.IsFree (pos + dir) ∧
        (state.world.cellAt (pos + dir)).isEmpty) ↔
      ∃ dir ∈ state.world.freeDirections pos, (state.world.cellAt (pos + dir)).isEmpty := by
    simp [freeDirections, and_assoc]
  have displaces := displaces_iff legacy tracked fills inside solid occupied different
  have spares := spares_iff legacy tracked fills inside solid occupied different
  constructor
  · intro replaces
    refine ⟨fun room => ?_, spares.mp replaces.spares⟩
    exact (displaces room).mp (replaces.displaces (beside.mpr room))
  · intro ⟨finds, way⟩
    refine ⟨fun room => ?_, spares.mpr way⟩
    have room' := beside.mp room
    exact (displaces room').mpr (finds room')

end

end

section

/-! ## Three cells in a row -/

def fillOf (material : Material) (fillRatio : ℚ) : Cell ℚ :=
  { Cell.blank with materialType := material, fillRatio := fillRatio }

def rowCells (left right : Cell ℚ) : CellArray ℚ where
  toGrid := .generate 3 1 fun x _ => if x = 0 then left else if x = 1 then fillOf .dirt 1 else right
  width_pos := pos_three
  height_pos := Nat.one_pos
  width_le := three_le_limit
  height_le := one_le_limit

def rowOf (left right : Cell ℚ) : WateredWorld ℚ ℚ where
  world :=
    { data := rowCells left right
      cohesionResistance := .generate 3 1 fun _ _ => 0
      physicsSettings :=
        { buoyancyEnergyScale := 0, cohesionResistanceFactor := 10, fluidLubricationFactor := 1 / 2
          waterSimMode := .legacyCell, fragmentationEnabled := true, fragmentationThreshold := 5
          fragmentationFullThreshold := 50, gravity := 98 / 10, horizontalFlowResistanceFactor := 1
          horizontalNonFluidPenalty := 1, horizontalNonFluidEnergyMultiplier := 1
          pressureDynamicStrength := 1, swapEnabled := true }
      organismManager := { grid := .generate 3 1 fun _ _ => invalidOrganismId }
      regionActivityTracker := .new
      pressureCalculator :=
        { dynamicPressure := [0, 0, 0], hydrostaticPressure := [0, 0, 0], blockedTransfers := [] }
      rng := Stream'.const (1 / 2) }
  waterVolume := none

variable {left right : Cell ℚ}

theorem rowOf_nobody (pos : Vector2i) :
    (rowOf left right).world.organismManager.organismAt pos = invalidOrganismId := by
  rw [OrganismManager.organismAt, rowOf, Grid.get?_generate]
  split
  · rfl
  · rfl

theorem rowOf_tracked : (rowOf left right).world.Tracked where
  width := rfl
  height := rfl
  live pos owned := absurd (rowOf_nobody pos) owned

theorem rowOf_unitFills (fits : Cell.matter.Fits left) (fits' : Cell.matter.Fits right) :
    (rowOf left right).world.data.UnitFills := by
  intro cell stored
  obtain ⟨i, _, rfl⟩ := List.mem_map.mp stored
  dsimp only
  split_ifs
  · exact fits
  · exact ⟨zero_le_one, le_refl 1⟩
  · exact fits'

/-- Sand on the right is overwritten although there is room on the left. -/
theorem not_replaces :
    ¬ ∀ (state : WateredWorld ℚ ℚ) (pos : Vector2i) (material : Material),
      state.world.physicsSettings.waterSimMode = .legacyCell → state.world.Tracked →
      state.world.data.UnitFills → state.world.isValidCell pos → material ≠ .air →
      (state.world.cellAt pos).isEmpty = false →
      (state.world.cellAt pos).materialType ≠ material → Replaces state pos material := by
  intro all
  have legacy : (rowOf .blank (fillOf .sand (2 / 5))).world.physicsSettings.waterSimMode =
    .legacyCell := rfl
  have fills : (rowOf .blank (fillOf .sand (2 / 5))).world.data.UnitFills :=
    rowOf_unitFills Cell.blank_fits ⟨by decide +kernel, by decide +kernel⟩
  have inside : (rowOf .blank (fillOf .sand (2 / 5))).world.isValidCell ⟨1, 0⟩ := by decide
  have occupied : ((rowOf .blank (fillOf .sand (2 / 5))).world.cellAt ⟨1, 0⟩).isEmpty = false := by
    decide +kernel
  have different : ((rowOf .blank (fillOf .sand (2 / 5))).world.cellAt ⟨1, 0⟩).materialType ≠
    .metal := by decide
  have replaces := all _ _ _ legacy rowOf_tracked fills inside (by decide) occupied different
  have finds := (displaces_iff legacy rowOf_tracked fills inside (by decide) occupied different
    (by decide +kernel)).mp (replaces.displaces (by decide +kernel))
  revert finds
  decide +kernel

theorem replaces_row : Replaces (rowOf (fillOf .sand (2 / 5)) .blank) ⟨1, 0⟩ .metal := by
  have fills : (rowOf (fillOf .sand (2 / 5)) .blank).world.data.UnitFills :=
    rowOf_unitFills ⟨by decide +kernel, by decide +kernel⟩ Cell.blank_fits
  apply (replaces_iff rfl rowOf_tracked fills (by decide) (by decide) (by decide +kernel)
    (by decide)).mpr
  refine ⟨fun _ => by decide +kernel, fun owned => ?_⟩
  exact absurd (rowOf_nobody _) (hasOrganism_iff.mp owned)

end

end World

end DirtSim
