import DirtSim.Clock.WallSpecs

/-! # Doorways among the walls

The groups of walls that the clock lists have each their own test for openings, so a wall of one
group may be where a door of another is open (`ClockFixtures.not_lists_position_iff`).
-/

namespace DirtSim

open Foundation

section

/-! ## Histories of the doors -/

namespace DoorManager

variable {K : Type*} {F : Type} [Field K] [LinearOrder K] [Coordinate F]
variable {manager : DoorManager} {before after : DoorManager}

inductive DoorAction
  | createDoor (side : DoorSide) (cellsAboveFloor : UInt32)
  | openDoor (id : DoorId)
  | closeDoor (id : DoorId)
  | scheduleRemoval (id : DoorId) (delayMs now : ℤ)
  | update (now : ℤ)
  | removeDoor (id : DoorId)
  | clear

/-- What may happen to the doors. A door is opened and closed in any world. -/
inductive DoorMove (K : Type*) (F : Type) [Field K] [LinearOrder K] [Coordinate F]
    (before : DoorManager) : DoorAction → DoorManager → Prop
  | createDoor (side : DoorSide) (cellsAboveFloor : UInt32) :
      DoorMove K F before (.createDoor side cellsAboveFloor)
        (before.createDoor side cellsAboveFloor).2
  | openDoor {id : DoorId} {state walled : WateredWorld K F} {opened : Bool} {after : DoorManager}
      (moved : before.openDoor id state = some (opened, after, walled)) :
      DoorMove K F before (.openDoor id) after
  | closeDoor {id : DoorId} {state walled : WateredWorld K F} {after : DoorManager}
      (moved : before.closeDoor id state = some (after, walled)) :
      DoorMove K F before (.closeDoor id) after
  | scheduleRemoval (id : DoorId) (delayMs now : ℤ) :
      DoorMove K F before (.scheduleRemoval id delayMs now)
        (before.scheduleRemoval id delayMs now)
  | update (now : ℤ) : DoorMove K F before (.update now) (before.update now)
  | removeDoor (id : DoorId) : DoorMove K F before (.removeDoor id) (before.removeDoor id)
  | clear : DoorMove K F before .clear before.clear

def doorMachine (K : Type*) (F : Type) [Field K] [LinearOrder K] [Coordinate F] :
    Machine DoorAction DoorManager where
  initial manager := manager = {}
  step := DoorMove K F

theorem mem_listed_iff {door : Door} :
    door ∈ manager.listed ↔ ∃ id, manager.doors.lookup id = some door := by
  constructor
  · intro listed
    obtain ⟨entry, member, rfl⟩ := List.mem_map.mp listed
    exact ⟨entry.1, AList.mem_lookup_iff.mpr member⟩
  · intro known
    obtain ⟨id, found⟩ := known
    exact List.mem_map.mpr ⟨⟨id, door⟩, AList.mem_lookup_iff.mp found, rfl⟩

def Low (manager : DoorManager) : Prop :=
  ∀ id door, manager.doors.lookup id = some door → door.isOpen = true →
    door.cellsAboveFloor.toNat < 32767

theorem Low.of_lookup (low : before.Low) (known : ∀ id door, after.doors.lookup id = some door →
      (∃ old, before.doors.lookup id = some old ∧ door.cellsAboveFloor = old.cellsAboveFloor ∧
        (door.isOpen = true → old.isOpen = true)) ∨
      (door.isOpen = true → door.cellsAboveFloor.toNat < 32767)) : after.Low := by
  intro id door found opened
  rcases known id door found with ⟨old, oldFound, height, was⟩ | short
  · rw [height]
    exact low id old oldFound (was opened)
  · exact short opened

theorem Low.of_fewer (low : before.Low)
    (fewer : ∀ id door, after.doors.lookup id = some door → before.doors.lookup id = some door) :
    after.Low :=
  low.of_lookup fun id door found => .inl ⟨door, fewer id door found, rfl, fun opened => opened⟩

omit [Field K] [LinearOrder K] in
theorem cells_lt_of_inBounds {door : Door} {data : CellArray K}
    (inside : data.InBounds (door.position data).x (door.position data).y) :
    door.cellsAboveFloor.toNat < data.height := by
  obtain ⟨-, above, -, below⟩ := inside
  have few := door.cellsAboveFloor.toNat_lt
  have low := data.height_le
  rw [Door.position, toInt32, Int.bmod_def] at above below
  dsimp only at above below
  split at above
  · omega
  · omega

theorem Low.setOpen (low : manager.Low) {id : DoorId} {isOpen : Bool}
    (short : isOpen = true → ∀ door, manager.doors.lookup id = some door →
      door.cellsAboveFloor.toNat < 32767) : (manager.setOpen id isOpen).Low := by
  refine low.of_lookup fun other door found => ?_
  rw [DoorManager.setOpen, Dict.lookup_modify] at found
  split at found
  · obtain ⟨old, oldFound, rfl⟩ := Option.map_eq_some_iff.mp found
    exact .inr fun opened => short opened old oldFound
  · exact .inl ⟨door, found, rfl, fun opened => opened⟩

theorem Low.openDoor {manager after : DoorManager} (low : manager.Low) {id : DoorId}
    {state walled : WateredWorld K F} {opened : Bool}
    (moved : manager.openDoor id state = some (opened, after, walled)) : after.Low := by
  unfold DoorManager.openDoor at moved
  cases found : manager.doors.lookup id with
  | none =>
      simp only [found, Option.some.injEq, Prod.mk.injEq] at moved
      exact moved.2.1 ▸ low
  | some door =>
      have same {refused : Bool}
          (unchanged : some (refused, manager, state) = some (opened, after, walled)) :
          after.Low := by
        obtain ⟨-, rfl, -⟩ := Prod.mk.inj (Option.some.inj unchanged)
        exact low
      simp only [found] at moved
      split_ifs at moved with already outside roofOutside
      · exact same moved
      · exact same moved
      · exact same moved
      · obtain ⟨roofed, -, same⟩ := Option.map_eq_some_iff.mp moved
        rw [← (Prod.mk.inj (Prod.mk.inj same).2).1]
        refine low.setOpen fun _ other otherFound => ?_
        obtain rfl := Option.some.inj (found.symm.trans otherFound)
        have inside : state.world.isValidCell (door.position state.world.data) = true := by
          simpa only [Bool.not_eq_true', Bool.not_eq_false] using outside
        have below := cells_lt_of_inBounds (of_decide_eq_true inside)
        have small := state.world.data.height_le
        omega

theorem Low.closeDoor {manager after : DoorManager} (low : manager.Low) {id : DoorId}
    {state walled : WateredWorld K F}
    (moved : manager.closeDoor id state = some (after, walled)) : after.Low := by
  unfold DoorManager.closeDoor at moved
  cases found : manager.doors.lookup id with
  | none =>
      simp only [found, Option.some.injEq, Prod.mk.injEq] at moved
      exact moved.1 ▸ low
  | some door =>
      simp only [found] at moved
      split at moved
      · exact (Prod.mk.inj (Option.some.inj moved)).1 ▸ low
      · obtain ⟨closed, -, same⟩ := Option.map_eq_some_iff.mp moved
        rw [← (Prod.mk.inj same).1]
        exact low.setOpen nofun

/-- **Every move** keeps the open doors low. -/
theorem Low.move (low : before.Low) {action : DoorAction} (moved : DoorMove K F before action after) :
    after.Low := by
  cases moved with
  | createDoor side cellsAboveFloor =>
      refine low.of_lookup fun id door found => ?_
      rw [createDoor, Dict.lookup_insert] at found
      split at found
      · cases found
        exact .inr nofun
      · exact .inl ⟨door, found, rfl, fun opened => opened⟩
  | openDoor moved => exact low.openDoor moved
  | closeDoor moved => exact low.closeDoor moved
  | scheduleRemoval id delayMs now =>
      refine low.of_lookup fun other door found => ?_
      rw [scheduleRemoval, Dict.lookup_modify] at found
      split at found
      · rename_i same
        obtain ⟨old, oldFound, rfl⟩ := Option.map_eq_some_iff.mp found
        exact .inl ⟨old, same ▸ oldFound, rfl, fun opened => opened⟩
      · exact .inl ⟨door, found, rfl, fun opened => opened⟩
  | update now =>
      refine low.of_fewer fun id door found => ?_
      rw [update, Dict.lookup_eraseAll] at found
      split at found
      · cases found
      · exact found
  | removeDoor id =>
      refine low.of_fewer fun other door found => ?_
      rw [removeDoor, Dict.lookup_erase] at found
      split at found
      · cases found
      · exact found
  | clear => exact fun id door found => nomatch found

theorem low_of_reachable (reached : (doorMachine K F).Reachable manager) : manager.Low := by
  refine reached.invariant ?_ fun before action after low moved => low.move moved
  intro start empty
  rw [empty]
  exact fun id door found => nomatch found

end DoorManager

end

namespace ClockFixtures

section

/-! ## Where walls are listed -/

variable {K : Type*} (fixtures : ClockFixtures) (data : CellArray K)
variable (pos : Vector2i)

def Lists (specs : List WallSpec) (pos : Vector2i) : Prop := ∃ spec ∈ specs, spec.position = pos

theorem lists_append (first second : List WallSpec) (pos : Vector2i) :
    Lists (first ++ second) pos ↔ Lists first pos ∨ Lists second pos := by
  simp [Lists, or_and_right, exists_or]

theorem mem_upTo {size : ℕ} {x : ℤ} : x ∈ upTo size ↔ 0 ≤ x ∧ x < size := by
  simp only [upTo, List.mem_map, List.mem_range]
  constructor
  · intro known
    obtain ⟨index, below, rfl⟩ := known
    omega
  · intro within
    exact ⟨x.toNat, by omega, Int.toNat_of_nonneg within.1⟩

theorem toInt16_of_small {value : ℤ} (low : -32768 ≤ value) (high : value < 32768) :
    toInt16 value = value := by
  rw [toInt16, Int.bmod_def]
  split
  · omega
  · omega

variable {data} in
theorem toInt16_row {back : ℤ} (nonneg : 0 ≤ back) (few : back ≤ 32768) :
    toInt16 (data.height - back) = data.height - back := by
  have low := data.height_le
  exact toInt16_of_small (by omega) (by omega)

variable {data} in
theorem toInt16_column {back : ℤ} (nonneg : 0 ≤ back) (few : back ≤ 32768) :
    toInt16 (data.width - back) = data.width - back := by
  have low := data.width_le
  exact toInt16_of_small (by omega) (by omega)

theorem lists_topBorder :
    Lists (topBorder data) pos ↔ (0 ≤ pos.x ∧ pos.x < data.width) ∧ pos.y = 0 := by
  constructor
  · intro listed
    obtain ⟨spec, member, rfl⟩ := listed
    obtain ⟨x, column, rfl⟩ := List.mem_map.mp member
    exact ⟨mem_upTo.mp column, rfl⟩
  · intro holds
    obtain ⟨column, top⟩ := holds
    exact ⟨_, List.mem_map_of_mem (mem_upTo.mpr column), Vector2i.ext rfl top.symm⟩

theorem lists_bottomBorder :
    Lists (fixtures.bottomBorder data) pos ↔
      (0 ≤ pos.x ∧ pos.x < data.width) ∧ pos.y = data.height - 1 ∧
        fixtures.doorManager.isOpenDoorAt data pos = false ∧ fixtures.isDrainCell pos.x = false ∧
        fixtures.obstacleManager.isPitAt pos.x = false := by
  have row : toInt16 (data.height - 1) = data.height - 1 := toInt16_row (by decide) (by decide)
  constructor
  · intro listed
    obtain ⟨spec, member, rfl⟩ := listed
    obtain ⟨x, kept, rfl⟩ := List.mem_map.mp member
    obtain ⟨column, closed⟩ := List.mem_filter.mp kept
    simp only [Bool.and_eq_true, Bool.not_eq_true'] at closed
    rw [WallSpec.position, row]
    exact ⟨mem_upTo.mp column, rfl, closed.1.1, closed.1.2, closed.2⟩
  · intro holds
    obtain ⟨column, bottom, closed, dry, solid⟩ := holds
    have place : pos = ⟨pos.x, data.height - 1⟩ := Vector2i.ext rfl bottom
    refine ⟨_, List.mem_map_of_mem (List.mem_filter.mpr ⟨mem_upTo.mpr column, ?_⟩), ?_⟩
    · rw [← place, closed, dry, solid]
      rfl
    · rw [WallSpec.position, row]
      exact place.symm

theorem lists_sideBorder (x : ℤ) (small : toInt16 x = x) (pos : Vector2i) :
    Lists (fixtures.sideBorder data x) pos ↔
      pos.x = x ∧ (0 ≤ pos.y ∧ pos.y < data.height) ∧
        fixtures.doorManager.isOpenDoorAt data pos = false := by
  constructor
  · intro listed
    obtain ⟨spec, member, rfl⟩ := listed
    obtain ⟨y, kept, rfl⟩ := List.mem_map.mp member
    obtain ⟨row, closed⟩ := List.mem_filter.mp kept
    rw [WallSpec.position, small]
    rw [Bool.not_eq_true'] at closed
    exact ⟨rfl, mem_upTo.mp row, closed⟩
  · intro holds
    obtain ⟨rfl, row, closed⟩ := holds
    refine ⟨_, List.mem_map_of_mem (List.mem_filter.mpr ⟨mem_upTo.mpr row, ?_⟩), ?_⟩
    · rw [closed]
      rfl
    · rw [WallSpec.position, small]

theorem lists_hurdles :
    Lists (fixtures.hurdles data) pos ↔
      2 < data.height ∧ (0 ≤ pos.x ∧ pos.x < data.width) ∧ pos.y = data.height - 2 ∧
        fixtures.obstacleManager.isHurdleAt pos.x = true := by
  have row : toInt16 (data.height - 2) = data.height - 2 := toInt16_row (by decide) (by decide)
  unfold hurdles
  split
  · rename_i high
    constructor
    · intro listed
      obtain ⟨spec, member, rfl⟩ := listed
      obtain ⟨x, kept, rfl⟩ := List.mem_map.mp member
      obtain ⟨column, hurdle⟩ := List.mem_filter.mp kept
      rw [WallSpec.position, row]
      exact ⟨high, mem_upTo.mp column, rfl, hurdle⟩
    · intro holds
      obtain ⟨-, column, above, hurdle⟩ := holds
      refine ⟨_, List.mem_map_of_mem (List.mem_filter.mpr ⟨mem_upTo.mpr column, hurdle⟩), ?_⟩
      rw [WallSpec.position, row]
      exact Vector2i.ext rfl above.symm
  · rename_i low
    constructor
    · intro listed
      obtain ⟨spec, member, -⟩ := listed
      cases member
    · intro holds
      exact absurd holds.1 low

theorem lists_doorWalls (places : List Vector2i) (pos : Vector2i) :
    Lists (places.map doorWall) pos ↔
      ∃ place ∈ places, toInt16 place.x = pos.x ∧ toInt16 place.y = pos.y := by
  constructor
  · intro listed
    obtain ⟨spec, member, rfl⟩ := listed
    obtain ⟨place, known, rfl⟩ := List.mem_map.mp member
    exact ⟨place, known, rfl, rfl⟩
  · intro holds
    obtain ⟨place, known, column, row⟩ := holds
    exact ⟨_, List.mem_map_of_mem known, Vector2i.ext column row⟩

theorem isOpenDoorAt_iff {manager : DoorManager} {pos : Vector2i} :
    manager.isOpenDoorAt data pos = true ↔
      ∃ door ∈ manager.listed, door.isOpen = true ∧ door.position data = pos := by
  simp [DoorManager.isOpenDoorAt]

theorem lists_roofs :
    Lists (fixtures.roofs data) pos ↔
      ∃ door ∈ fixtures.doorManager.listed, door.isOpen = true ∧
        toInt16 (door.roofPosition data).x = pos.x ∧
        toInt16 (door.roofPosition data).y = pos.y := by
  rw [roofs, lists_doorWalls]
  simp only [DoorManager.getRoofPositions, List.mem_map, List.mem_filter]
  constructor
  · intro holds
    obtain ⟨_, ⟨door, ⟨known, opened⟩, rfl⟩, place⟩ := holds
    exact ⟨door, known, opened, place⟩
  · intro holds
    obtain ⟨door, known, opened, place⟩ := holds
    exact ⟨_, ⟨door, ⟨known, opened⟩, rfl⟩, place⟩

theorem mem_framePositions (door : Door) (place : Vector2i) :
    place ∈ DoorManager.framePositions data door ↔
      (door.isOpen = false ∧ place = door.position data) ∨
        (0 < (door.position data).y ∧
          place = ⟨(door.position data).x, (door.position data).y - 1⟩) ∨
        place = ⟨(door.position data).x, data.height - 1⟩ := by
  have shut : place ∈ (if door.isOpen then [] else [door.position data]) ↔
      door.isOpen = false ∧ place = door.position data := by
    cases door.isOpen <;> simp
  have above (lintel : Vector2i) : place ∈ (if lintel.y ≥ 0 then [lintel] else []) ↔
      0 ≤ lintel.y ∧ place = lintel := by
    split
    · simp [*]
    · simp [*]
  have level : 0 ≤ (door.position data).y - 1 ↔ 0 < (door.position data).y := by omega
  rw [DoorManager.framePositions, List.mem_append, List.mem_append, shut, above, List.mem_singleton,
    level, or_assoc]

theorem lists_frames :
    Lists (fixtures.frames data) pos ↔
      ∃ door ∈ fixtures.doorManager.listed, toInt16 (door.position data).x = pos.x ∧
        ((door.isOpen = false ∧ toInt16 (door.position data).y = pos.y) ∨
          (0 < (door.position data).y ∧ toInt16 ((door.position data).y - 1) = pos.y) ∨
          toInt16 (data.height - 1) = pos.y) := by
  have framed (door : Door) :
      (∃ place ∈ DoorManager.framePositions data door,
        toInt16 place.x = pos.x ∧ toInt16 place.y = pos.y) ↔
      toInt16 (door.position data).x = pos.x ∧
        ((door.isOpen = false ∧ toInt16 (door.position data).y = pos.y) ∨
          (0 < (door.position data).y ∧ toInt16 ((door.position data).y - 1) = pos.y) ∨
          toInt16 (data.height - 1) = pos.y) := by
    simp only [mem_framePositions]
    constructor
    · intro holds
      obtain ⟨place, ⟨shut, rfl⟩ | ⟨above, rfl⟩ | rfl, column, row⟩ := holds
      · exact ⟨column, .inl ⟨shut, row⟩⟩
      · exact ⟨column, .inr (.inl ⟨above, row⟩)⟩
      · exact ⟨column, .inr (.inr row)⟩
    · intro holds
      obtain ⟨column, ⟨shut, row⟩ | ⟨above, row⟩ | row⟩ := holds
      · exact ⟨_, .inl ⟨shut, rfl⟩, column, row⟩
      · exact ⟨_, .inr (.inl ⟨above, rfl⟩), column, row⟩
      · exact ⟨_, .inr (.inr rfl), column, row⟩
  rw [frames, lists_doorWalls]
  simp only [DoorManager.getFramePositions, List.mem_flatMap]
  constructor
  · intro holds
    obtain ⟨place, ⟨door, known, listed⟩, same⟩ := holds
    exact ⟨door, known, (framed door).mp ⟨place, listed, same⟩⟩
  · intro holds
    obtain ⟨door, known, same⟩ := holds
    obtain ⟨place, listed, same⟩ := (framed door).mpr same
    exact ⟨place, ⟨door, known, listed⟩, same⟩

theorem lists_generateWallSpecs :
    Lists (fixtures.generateWallSpecs data) pos ↔
      Lists (topBorder data) pos ∨ Lists (fixtures.bottomBorder data) pos ∨
        Lists (fixtures.leftBorder data) pos ∨ Lists (fixtures.rightBorder data) pos ∨
        Lists (fixtures.hurdles data) pos ∨ Lists (fixtures.roofs data) pos ∨
        Lists (fixtures.frames data) pos := by
  simp [generateWallSpecs, lists_append]

end

section

/-! ## Open doors that no wall covers -/

variable {K : Type*}

/-- A door that is neither at the floor nor in the top row, and whose cell is neither a hurdle, nor
the roof of an open door, nor the wall above another door, nor another door that is closed. Heights
of closed doors count as they are read from 16 bits. -/
structure FreeDoorway (fixtures : ClockFixtures) (data : CellArray K) (door : Door) : Prop where
  aboveFloor : door.cellsAboveFloor.toNat ≠ 0
  belowCeiling : door.cellsAboveFloor.toNat + 1 ≠ data.height
  noHurdle : 2 < data.height → door.cellsAboveFloor.toNat = 1 →
    fixtures.obstacleManager.isHurdleAt (door.position data).x = false
  noRoof : ∀ other ∈ fixtures.doorManager.listed, other.isOpen = true →
    (other.roofPosition data).x = (door.position data).x →
    other.cellsAboveFloor.toNat + 1 ≠ door.cellsAboveFloor.toNat
  noLintel : ∀ other ∈ fixtures.doorManager.listed,
    (other.position data).x = (door.position data).x → 0 < (other.position data).y →
    (other.cellsAboveFloor.toNat + 1) % 65536 ≠ door.cellsAboveFloor.toNat
  noClosedDoor : ∀ other ∈ fixtures.doorManager.listed, other.isOpen = false →
    (other.position data).x = (door.position data).x →
    other.cellsAboveFloor.toNat % 65536 ≠ door.cellsAboveFloor.toNat

variable {fixtures : ClockFixtures} {data : CellArray K} {door other : Door}

theorem position_row (data : CellArray K) (low : door.cellsAboveFloor.toNat < 32767) :
    (door.position data).y = data.height - 1 - door.cellsAboveFloor.toNat := by
  have high := data.height_le
  rw [Door.position, toInt32, Int.bmod_def]
  dsimp only
  split <;> omega

theorem position_column (door : Door) (data : CellArray K) :
    0 ≤ (door.position data).x ∧ (door.position data).x < data.width := by
  have wide := data.width_pos
  rw [Door.position]
  dsimp only
  split <;> omega

theorem toInt16_position_column (door : Door) (data : CellArray K) :
    toInt16 (door.position data).x = (door.position data).x := by
  have low := data.width_le
  obtain ⟨nonneg, inside⟩ := position_column door data
  exact toInt16_of_small (by omega) (by omega)

theorem toInt16_roof_column (door : Door) (data : CellArray K) :
    toInt16 (door.roofPosition data).x = (door.roofPosition data).x := by
  have low := data.width_le
  obtain ⟨nonneg, inside⟩ := position_column door data
  rw [Door.roofPosition]
  dsimp only
  split
  · exact toInt16_of_small (by omega) (by omega)
  · exact toInt16_of_small (by omega) (by omega)

theorem toInt16_position_row (low : door.cellsAboveFloor.toNat < 32767) :
    toInt16 (other.position data).y = (door.position data).y ↔
      other.cellsAboveFloor.toNat % 65536 = door.cellsAboveFloor.toNat := by
  have high := data.height_le
  have few := other.cellsAboveFloor.toNat_lt
  rw [position_row data low, Door.position, toInt16, toInt32]
  dsimp only
  rw [Int.bmod_def, Int.bmod_def]
  split_ifs <;> omega

theorem toInt16_lintel_row (low : door.cellsAboveFloor.toNat < 32767) :
    toInt16 ((other.position data).y - 1) = (door.position data).y ↔
      (other.cellsAboveFloor.toNat + 1) % 65536 = door.cellsAboveFloor.toNat := by
  have high := data.height_le
  have few := other.cellsAboveFloor.toNat_lt
  rw [position_row data low, Door.position, toInt16, toInt32]
  dsimp only
  rw [Int.bmod_def, Int.bmod_def]
  split_ifs <;> omega

theorem lists_frames_door (low : door.cellsAboveFloor.toNat < 32767)
    (listed : door ∈ fixtures.doorManager.listed) :
    Lists (fixtures.frames data) (door.position data) ↔
      door.cellsAboveFloor.toNat = 0 ∨ ∃ other ∈ fixtures.doorManager.listed,
        (other.position data).x = (door.position data).x ∧
          ((other.isOpen = false ∧
              other.cellsAboveFloor.toNat % 65536 = door.cellsAboveFloor.toNat) ∨
            (0 < (other.position data).y ∧
              (other.cellsAboveFloor.toNat + 1) % 65536 = door.cellsAboveFloor.toNat)) := by
  have floor : toInt16 (data.height - 1) = (door.position data).y ↔
      door.cellsAboveFloor.toNat = 0 := by
    rw [toInt16_row (by decide) (by decide), position_row data low]
    omega
  simp only [lists_frames, toInt16_position_column, toInt16_position_row low,
    toInt16_lintel_row low, floor]
  constructor
  · intro holds
    obtain ⟨other, known, column, shut | above | ground⟩ := holds
    · exact .inr ⟨other, known, column, .inl shut⟩
    · exact .inr ⟨other, known, column, .inr above⟩
    · exact .inl ground
  · intro holds
    obtain ground | ⟨other, known, column, shut | above⟩ := holds
    · exact ⟨door, listed, rfl, .inr (.inr ground)⟩
    · exact ⟨other, known, column, .inl shut⟩
    · exact ⟨other, known, column, .inr (.inl above)⟩

theorem lists_roofs_door (lows : fixtures.doorManager.Low)
    (low : door.cellsAboveFloor.toNat < 32767) :
    Lists (fixtures.roofs data) (door.position data) ↔
      ∃ other ∈ fixtures.doorManager.listed, other.isOpen = true ∧
        (other.roofPosition data).x = (door.position data).x ∧
        other.cellsAboveFloor.toNat + 1 = door.cellsAboveFloor.toNat := by
  rw [lists_roofs]
  refine exists_congr fun other => and_congr_right fun known => and_congr_right fun opened => ?_
  obtain ⟨id, found⟩ := DoorManager.mem_listed_iff.mp known
  have otherLow := lows id other found opened
  have roof : (other.roofPosition data).y = (other.position data).y - 1 := rfl
  rw [toInt16_roof_column, roof, toInt16_lintel_row low, Nat.mod_eq_of_lt (by omega)]

/-- **Where an open door is walled over.** The borders leave it out, except for the top row. -/
theorem not_lists_position_iff (lows : fixtures.doorManager.Low)
    (listed : door ∈ fixtures.doorManager.listed) (opened : door.isOpen = true) :
    ¬Lists (fixtures.generateWallSpecs data) (door.position data) ↔
      FreeDoorway fixtures data door := by
  obtain ⟨id, found⟩ := DoorManager.mem_listed_iff.mp listed
  have low := lows id door found opened
  have here := (isOpenDoorAt_iff data).mpr ⟨door, listed, opened, rfl⟩
  have small : toInt16 0 = 0 := rfl
  have last : toInt16 (data.width - 1) = data.width - 1 :=
    toInt16_column (by decide) (by decide)
  have column := position_column door data
  have row := position_row data low
  rw [lists_generateWallSpecs, lists_topBorder, lists_bottomBorder, leftBorder,
    lists_sideBorder _ _ _ small, rightBorder, lists_sideBorder _ _ _ last, lists_hurdles,
    lists_roofs_door lows low, lists_frames_door low listed]
  simp only [here, Bool.true_eq_false, false_and, and_false, false_or, not_or]
  constructor
  · intro free
    obtain ⟨ceiling, hurdle, roof, ground, frame⟩ := free
    exact {
      aboveFloor := ground
      belowCeiling := fun top => ceiling ⟨column, by omega⟩
      noHurdle := fun high second => Bool.eq_false_iff.mpr fun there =>
        hurdle ⟨high, column, by omega, there⟩
      noRoof := fun other known up beside higher => roof ⟨other, known, up, beside, higher⟩
      noLintel := fun other known beside inside higher =>
        frame ⟨other, known, beside, .inr ⟨inside, higher⟩⟩
      noClosedDoor := fun other known shut beside same =>
        frame ⟨other, known, beside, .inl ⟨shut, same⟩⟩ }
  · intro free
    refine ⟨fun top => free.belowCeiling (by omega), fun hurdle => ?_, fun roof => ?_,
      free.aboveFloor, fun frame => ?_⟩
    · obtain ⟨high, -, second, there⟩ := hurdle
      exact Bool.false_ne_true ((free.noHurdle high (by omega)).symm.trans there)
    · obtain ⟨other, known, up, beside, higher⟩ := roof
      exact free.noRoof other known up beside higher
    · obtain ⟨other, known, beside, ⟨shut, same⟩ | ⟨inside, higher⟩⟩ := frame
      · exact free.noClosedDoor other known shut beside same
      · exact free.noLintel other known beside inside higher

end

end ClockFixtures

end DirtSim
