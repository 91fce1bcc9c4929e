import DirtSim.Clock.Doorways

/-! # Open doors when the walls are drawn

Drawing the walls keeps a cell passable that no wall is listed for, even though what the walls
displace may end up there. So the walls keep an open door passable exactly when no other wall is
listed for its cell.
-/

namespace DirtSim

open Foundation

variable {K : Type*} {F : Type} [Field K] [LinearOrder K]

section

/-! ## Drawing around a cell -/

namespace World

def Passable (world : World K F) (pos : Vector2i) : Prop := (world.cellAt pos).isWall = false

omit [LinearOrder K] in
theorem blank_passable : (Cell.blank : Cell K).isWall = false := rfl

variable {world after : World K F} {pos other : Vector2i}

section

omit [LinearOrder K]

theorem Passable.setCell_ne (passable : world.Passable other) (apart : other ≠ pos)
    (cell : Cell K) : (world.setCell pos cell).Passable other := by
  have kept : (world.setCell pos cell).cellAt other = world.cellAt other :=
    CellArray.cellAt_setCell_ne world.data cell apart
  rw [Passable, kept]
  exact passable

theorem Passable.setCell (passable : world.Passable other) (pos : Vector2i) {cell : Cell K}
    (soft : cell.isWall = false) : (world.setCell pos cell).Passable other := by
  by_cases same : other = pos
  · subst same
    by_cases inside : world.data.InBounds other.x other.y
    · have placed : (world.setCell other cell).cellAt other = cell :=
        CellArray.cellAt_setCell_self inside cell
      rw [Passable, placed]
      exact soft
    · have kept : (world.setCell other cell).data.toGrid = world.data.toGrid := if_neg inside
      rw [Passable, World.cellAt, CellArray.cellAt, CellArray.at, kept]
      exact passable
  · exact passable.setCell_ne same cell

theorem Passable.removeOrganismFromWorld (passable : world.Passable other) (id : OrganismId) :
    (world.removeOrganismFromWorld id).Passable other := by
  unfold World.removeOrganismFromWorld
  split
  · exact passable
  · rename_i body found
    rw [Passable, World.cellAt, CellArray.cellAt, CellArray.at, Grid.get?_mapCells]
    rw [Passable, World.cellAt, CellArray.cellAt, CellArray.at] at passable
    cases read : world.data.get? other.x other.y with
    | none => rfl
    | some cell =>
        rw [read] at passable
        rw [Option.map_some, Option.getD_some]
        split
        · rfl
        · exact passable

end

variable [Coordinate F]

omit [LinearOrder K] in
theorem Passable.swapCells {target : Vector2i} (passable : world.Passable other)
    (apart : other ≠ pos) (soft : (world.cellAt pos).isWall = false)
    (swapped : world.swapCells target pos = some after) : after.Passable other := by
  have written : (((world.setCell target (world.cellAt pos)).setCell pos
      (world.cellAt target))).Passable other :=
    (passable.setCell target soft).setCell_ne apart _
  unfold World.swapCells at swapped
  split_ifs at swapped with outside owned
  · exact Option.some.inj swapped ▸ passable
  · obtain ⟨manager, -, rfl⟩ := Option.map_eq_some_iff.mp swapped
    exact written
  · exact Option.some.inj swapped ▸ written

theorem Passable.replaceInCells (passable : world.Passable other) (apart : other ≠ pos)
    (replaced : world.replaceInCells pos .wall = some after) : after.Passable other := by
  unfold World.replaceInCells at replaced
  dsimp only at replaced
  split_ifs at replaced with same owned nowhere
  · exact Option.some.inj replaced ▸ passable.setCell_ne apart _
  · rw [← Option.some.inj replaced]
    unfold World.overwriteInPlace
    split
    · exact (passable.removeOrganismFromWorld _).setCell_ne apart _
    · exact passable.setCell_ne apart _
  · have soft : (world.cellAt pos).isWall = false :=
      decide_eq_false fun wall => same (.inr wall)
    unfold World.displaceInto at replaced
    split_ifs at replaced with taken
    obtain ⟨swapped, exchanged, rfl⟩ := Option.map_eq_some_iff.mp replaced
    exact (passable.swapCells apart soft exchanged).setCell_ne apart _

end World

namespace ClockFixtures

variable [Coordinate F] {state after : WateredWorld K F} {pos : Vector2i}

theorem passable_replaceMaterialAtCell {target : Vector2i} (passable : state.world.Passable pos)
    (apart : pos ≠ target) (replaced : state.replaceMaterialAtCell target .wall = some after) :
    after.world.Passable pos := by
  unfold WateredWorld.replaceMaterialAtCell at replaced
  split_ifs at replaced with outside air water
  · exact Option.some.inj replaced ▸ passable
  · cases air
  · cases water.1
  · obtain ⟨world, walled, rfl⟩ := Option.map_eq_some_iff.mp replaced
    exact passable.replaceInCells apart walled

/-- **Walls elsewhere** keep a cell passable. -/
theorem passable_applyWalls {walls : List WallSpec} (passable : state.world.Passable pos)
    (unlisted : ¬Lists walls pos) (applied : applyWalls state walls = some after) :
    after.world.Passable pos := by
  induction walls generalizing state with
  | nil => exact Option.some.inj applied ▸ passable
  | cons wall walls ih =>
      rw [applyWalls, List.foldlM_cons] at applied
      obtain ⟨walled, first, rest⟩ := Option.bind_eq_some_iff.mp applied
      obtain ⟨replaced, placed, kept⟩ := Option.bind_eq_some_iff.mp first
      have apart : pos ≠ wall.position := fun same => unlisted ⟨wall, List.mem_cons_self, same.symm⟩
      have firstly := passable_replaceMaterialAtCell passable apart placed
      split_ifs at kept with inside
      cases kept
      apply ih firstly ?_ rest
      intro listed
      obtain ⟨spec, member, same⟩ := listed
      exact unlisted ⟨spec, List.mem_cons_of_mem _ member, same⟩

omit [LinearOrder K] [Coordinate F] in
theorem passable_clearPits (fixtures : ClockFixtures) (columns : List ℤ)
    (passable : state.world.Passable pos) :
    (columns.foldl fixtures.clearPit state).world.Passable pos := by
  induction columns generalizing state with
  | nil => exact passable
  | cons x columns ih =>
      rw [List.foldl_cons]
      apply ih
      unfold clearPit
      dsimp only
      split
      · exact passable.setCell _ World.blank_passable
      · exact passable

theorem passable_redrawWalls {fixtures : ClockFixtures} (passable : state.world.Passable pos)
    (unlisted : ¬Lists (fixtures.generateWallSpecs state.world.data) pos)
    (drawn : fixtures.redrawWalls state = some after) : after.world.Passable pos := by
  obtain ⟨walled, applied, rfl⟩ := Option.map_eq_some_iff.mp drawn
  exact passable_clearPits fixtures _ (passable_applyWalls passable unlisted applied)

end ClockFixtures

end

namespace ClockFixtures

section

/-! ## What the walls keep -/

def OnBorder (data : CellArray K) (pos : Vector2i) : Prop :=
  data.InBounds pos.x pos.y ∧
    (pos.x = 0 ∨ pos.x = data.width - 1 ∨ pos.y = 0 ∨ pos.y = data.height - 1)

/-- An open door, or an open drain cell or a pit in the floor. -/
def IsOpening (fixtures : ClockFixtures) (data : CellArray K) (pos : Vector2i) : Prop :=
  fixtures.doorManager.isOpenDoorAt data pos = true ∨
    (pos.y = data.height - 1 ∧
      (fixtures.isDrainCell pos.x = true ∨ fixtures.obstacleManager.isPitAt pos.x = true))

variable [Coordinate F]

/-- No wall is listed where a door is open, drawing the walls makes none there, and the border is
walled everywhere else. -/
structure NeverWalledOver (fixtures : ClockFixtures) (state : WateredWorld K F) : Prop where
  unlisted : ∀ door ∈ fixtures.doorManager.listed, door.isOpen = true →
    ¬Lists (fixtures.generateWallSpecs state.world.data) (door.position state.world.data)
  passable : ∀ after, fixtures.redrawWalls state = some after →
    ∀ door ∈ fixtures.doorManager.listed, door.isOpen = true →
      state.world.Passable (door.position state.world.data) →
      after.world.Passable (door.position state.world.data)
  walled : ∀ pos, OnBorder state.world.data pos → ¬fixtures.IsOpening state.world.data pos →
    Lists (fixtures.generateWallSpecs state.world.data) pos

omit [Field K] [LinearOrder K] in
theorem lists_border (fixtures : ClockFixtures) {data : CellArray K} {pos : Vector2i}
    (border : OnBorder data pos) (solid : ¬fixtures.IsOpening data pos) :
    Lists (fixtures.generateWallSpecs data) pos := by
  obtain ⟨⟨left, top, right, bottom⟩, side⟩ := border
  obtain ⟨shut, floor⟩ := not_or.mp solid
  rw [Bool.not_eq_true] at shut
  have small : toInt16 0 = 0 := rfl
  have last : toInt16 (data.width - 1) = data.width - 1 :=
    toInt16_column (by decide) (by decide)
  rw [lists_generateWallSpecs]
  obtain first | final | above | ground := side
  · refine .inr (.inr (.inl ?_))
    exact (lists_sideBorder fixtures data 0 small pos).mpr ⟨first, ⟨top, bottom⟩, shut⟩
  · refine .inr (.inr (.inr (.inl ?_)))
    exact (lists_sideBorder fixtures data _ last pos).mpr ⟨final, ⟨top, bottom⟩, shut⟩
  · exact .inl ((lists_topBorder data pos).mpr ⟨⟨left, right⟩, above⟩)
  · obtain ⟨dry, level⟩ := not_or.mp fun gap => floor ⟨ground, gap⟩
    rw [Bool.not_eq_true] at dry level
    exact .inr (.inl ((lists_bottomBorder fixtures data pos).mpr
      ⟨⟨left, right⟩, ground, shut, dry, level⟩))

/-- **Open doors are never walled over** in just those states of the doors, the hurdles and the
world in which every open door is free. -/
theorem neverWalledOver_iff {doors : DoorManager}
    (reached : (DoorManager.doorMachine K F).Reachable doors) (obstacles : ObstacleManager)
    (drain : DrainManager) (state : WateredWorld K F) :
    NeverWalledOver ⟨obstacles, drain, doors⟩ state ↔
      ∀ door ∈ doors.listed, door.isOpen = true →
        FreeDoorway ⟨obstacles, drain, doors⟩ state.world.data door := by
  have lows := DoorManager.low_of_reachable reached
  constructor
  · intro never door listed opened
    exact (not_lists_position_iff lows listed opened).mp (never.unlisted door listed opened)
  · intro free
    have unlisted (door : Door) (listed : door ∈ doors.listed) (opened : door.isOpen = true) :
        ¬Lists (generateWallSpecs ⟨obstacles, drain, doors⟩ state.world.data)
          (door.position state.world.data) :=
      (not_lists_position_iff lows listed opened).mpr (free door listed opened)
    exact {
      unlisted := unlisted
      passable := fun after drawn door listed opened passable =>
        passable_redrawWalls passable (unlisted door listed opened) drawn
      walled := fun pos border solid => lists_border _ border solid }

end

section

/-! ## A small room -/

theorem four_pos : 0 < 4 := by decide

theorem four_le_limit : 4 ≤ 32767 := by decide

def room : WateredWorld ℚ ℚ where
  world :=
    { data :=
        { toGrid := .generate 4 4 fun _ _ => .blank
          width_pos := four_pos
          height_pos := four_pos
          width_le := four_le_limit
          height_le := four_le_limit }
      cohesionResistance := .generate 4 4 fun _ _ => 0
      physicsSettings :=
        { buoyancyEnergyScale := 0, cohesionResistanceFactor := 10, fluidLubricationFactor := 1 / 2
          waterSimMode := .legacyCell, fragmentationEnabled := true, fragmentationThreshold := 5
          fragmentationFullThreshold := 50, gravity := 98 / 10, horizontalFlowResistanceFactor := 1
          horizontalNonFluidPenalty := 1, horizontalNonFluidEnergyMultiplier := 1
          pressureDynamicStrength := 1, swapEnabled := true }
      organismManager := { grid := .generate 4 4 fun _ _ => invalidOrganismId }
      regionActivityTracker := .new
      pressureCalculator :=
        { dynamicPressure := List.replicate 16 0, hydrostaticPressure := List.replicate 16 0
          blockedTransfers := [] }
      rng := Stream'.const (1 / 2) }
  waterVolume := none

def lowDoor (isOpen : Bool) : Door := ⟨.left, 1, isOpen, none⟩

theorem openDoor_room (manager : DoorManager) (id : DoorId)
    (found : manager.doors.lookup id = some (lowDoor false)) :
    ∃ walled, manager.openDoor id room = some (true, manager.setOpen id true, walled) := by
  have shut : (lowDoor false).isOpen = false := rfl
  have inside : room.world.isValidCell ((lowDoor false).position room.world.data) = true := by
    decide +kernel
  have roofInside : room.world.isValidCell ((lowDoor false).roofPosition room.world.data) =
    true := by decide +kernel
  have placed : (WateredWorld.replaceMaterialAtCell
      { room with world := room.world.setCell ((lowDoor false).position room.world.data) .blank }
      ((lowDoor false).roofPosition room.world.data) .wall).isSome := by decide +kernel
  obtain ⟨roofed, result⟩ := Option.isSome_iff_exists.mp placed
  refine ⟨roofed, ?_⟩
  simp [DoorManager.openDoor, found, shut, inside, roofInside, result]

theorem closeDoor_room (manager : DoorManager) (id : DoorId)
    (found : manager.doors.lookup id = some (lowDoor true)) :
    ∃ walled, manager.closeDoor id room = some (manager.setOpen id false, walled) := by
  have opened : (lowDoor true).isOpen = true := rfl
  have inside : room.world.isValidCell ((lowDoor true).position room.world.data) = true := by
    decide +kernel
  have placed : (room.replaceMaterialAtCell ((lowDoor true).position room.world.data)
      .wall).isSome := by decide +kernel
  obtain ⟨walled, result⟩ := Option.isSome_iff_exists.mp placed
  simp only [DoorManager.closeDoor, found, opened, inside, Bool.not_true, Bool.false_eq_true,
    ↓reduceIte, result, Option.map_some]
  exact ⟨_, rfl⟩

def oneDoor : DoorManager := (({} : DoorManager).createDoor .left 1).2

/-- The door was closed, and a second one was made at its place before it was removed. -/
def twoDoors : DoorManager :=
  ((((oneDoor.setOpen 1 true).setOpen 1 false).scheduleRemoval 1 2000 0).createDoor .left 1).2

theorem reachable_oneDoor :
    (DoorManager.doorMachine ℚ ℚ).Reachable (oneDoor.setOpen 1 true) := by
  obtain ⟨walled, opened⟩ := openDoor_room oneDoor 1 rfl
  exact ⟨{}, _, rfl, .cons (.createDoor .left 1) (.cons (.openDoor opened) (.nil _))⟩

theorem reachable_twoDoors :
    (DoorManager.doorMachine ℚ ℚ).Reachable (twoDoors.setOpen 2 true) := by
  obtain ⟨first, closed⟩ := closeDoor_room (oneDoor.setOpen 1 true) 1 rfl
  obtain ⟨second, opened⟩ := openDoor_room twoDoors 2 rfl
  exact (((reachable_oneDoor.step (.closeDoor closed)).step (.scheduleRemoval 1 2000 0)).step
    (.createDoor .left 1)).step (.openDoor opened)

/-- The closed door is walled where the second one is open. -/
theorem not_neverWalledOver :
    ¬∀ doors : DoorManager, (DoorManager.doorMachine ℚ ℚ).Reachable doors →
      ∀ (obstacles : ObstacleManager) (drain : DrainManager) (state : WateredWorld ℚ ℚ),
        NeverWalledOver ⟨obstacles, drain, doors⟩ state := by
  intro all
  have never := all _ reachable_twoDoors {} {} room
  have listed : (⟨.left, 1, true, none⟩ : Door) ∈ (twoDoors.setOpen 2 true).listed := by decide
  have free := (not_lists_position_iff (DoorManager.low_of_reachable reachable_twoDoors) listed
    rfl).mp (never.unlisted _ listed rfl)
  have shut : (⟨.left, 1, false, some 2000000000⟩ : Door) ∈ (twoDoors.setOpen 2 true).listed := by
    decide
  exact free.noClosedDoor _ shut rfl rfl rfl

theorem neverWalledOver_oneDoor : NeverWalledOver ⟨{}, {}, oneDoor.setOpen 1 true⟩ room := by
  apply (neverWalledOver_iff reachable_oneDoor {} {} room).mpr
  intro door listed opened
  have only : door = ⟨.left, 1, true, none⟩ := by
    have known : (oneDoor.setOpen 1 true).listed = [⟨.left, 1, true, none⟩] := by decide
    rw [known] at listed
    exact List.mem_singleton.mp listed
  subst only
  exact {
    aboveFloor := by decide
    belowCeiling := by decide
    noHurdle := fun _ _ => rfl
    noRoof := by decide
    noLintel := by decide
    noClosedDoor := by decide }

end

end ClockFixtures

end DirtSim
