import DirtSim.Foundation.Transition
import DirtSim.Physics.MaterialReplacement

/-! # The doors of the clock

A door is an opening in the left or right wall, at a height above the floor. The places of its cells
are computed from the size of the world at the time, so that a door stays where it is when the world
is resized. A door that is closed may live on until it is due to be removed. Times are nanoseconds
of a steady clock.
-/

namespace DirtSim

open Foundation

/-- What is left of a number in a signed field of 16 bits. -/
def toInt16 (value : ℤ) : ℤ := Int.bmod value (2 ^ 16)

/-- What is left of a number in a signed field of 32 bits. -/
def toInt32 (value : ℤ) : ℤ := Int.bmod value (2 ^ 32)

inductive DoorSide
  | left
  | right
deriving DecidableEq

abbrev DoorId := ℤ

structure Door where
  side : DoorSide
  cellsAboveFloor : UInt32
  isOpen : Bool
  removalTime : Option ℤ
deriving DecidableEq

structure DoorManager where
  doors : Dict DoorId Door := ∅
  nextId : DoorId := 1

namespace Door

variable {K : Type*} (door : Door) (data : CellArray K)

def position : Vector2i where
  x := if door.side = .left then 0 else data.width - 1
  y := toInt32 (data.height - 1 - door.cellsAboveFloor.toNat)

def roofPosition : Vector2i where
  x := (door.position data).x + if door.side = .left then 1 else -1
  y := (door.position data).y - 1

end Door

namespace DoorManager

section

/-! ## Queries -/

variable {K : Type*} (manager : DoorManager) (data : CellArray K)

def listed : List Door := manager.doors.entries.map fun entry => entry.2

def isOpenDoorAt (pos : Vector2i) : Bool :=
  manager.listed.any fun door => door.isOpen && door.position data = pos

def getRoofPositions : List Vector2i :=
  (manager.listed.filter (·.isOpen)).map fun door => door.roofPosition data

/-- The frame of one door: itself while it is closed, the cell above it, and the floor below it. -/
def framePositions (door : Door) : List Vector2i :=
  let doorPos := door.position data
  let aboveDoor : Vector2i := ⟨doorPos.x, doorPos.y - 1⟩
  let floorAtDoor : Vector2i := ⟨doorPos.x, data.height - 1⟩
  (if door.isOpen then [] else [doorPos]) ++ (if aboveDoor.y ≥ 0 then [aboveDoor] else []) ++
    [floorAtDoor]

def getFramePositions : List Vector2i := manager.listed.flatMap (framePositions data)

end

section

/-! ## Operations -/

def createDoor (manager : DoorManager) (side : DoorSide) (cellsAboveFloor : UInt32) :
    DoorId × DoorManager :=
  (manager.nextId,
    { doors := manager.doors.insert manager.nextId ⟨side, cellsAboveFloor, false, none⟩
      nextId := manager.nextId + 1 })

def setOpen (manager : DoorManager) (id : DoorId) (isOpen : Bool) : DoorManager :=
  { manager with doors := Dict.modify id (fun door => { door with isOpen := isOpen }) manager.doors }

def removeDoor (manager : DoorManager) (id : DoorId) : DoorManager :=
  { manager with doors := manager.doors.erase id }

def scheduleRemoval (manager : DoorManager) (id : DoorId) (delayMs now : ℤ) : DoorManager :=
  { manager with
    doors :=
      Dict.modify id (fun door => { door with removalTime := some (now + delayMs * 1000000) })
        manager.doors }

def isDue (now : ℤ) (door : Door) : Bool := door.removalTime.any fun removalTime => now ≥ removalTime

def update (manager : DoorManager) (now : ℤ) : DoorManager :=
  let toRemove := (manager.doors.entries.filter fun entry => isDue now entry.2).map (·.1)
  { manager with doors := toRemove.foldl (fun doors id => doors.erase id) manager.doors }

def clear (_ : DoorManager) : DoorManager := {}

variable {K : Type*} {F : Type} [Field K] [LinearOrder K] [Coordinate F]

/-- Opens a door that is in the world with its roof, and tells whether it did. Aborts where the roof
cannot be placed. -/
def openDoor (manager : DoorManager) (id : DoorId) (state : WateredWorld K F) :
    Option (Bool × DoorManager × WateredWorld K F) :=
  match manager.doors.lookup id with
  | none => some (false, manager, state)
  | some door =>
      let doorPos := door.position state.world.data
      let roofPos := door.roofPosition state.world.data
      if door.isOpen then some (false, manager, state)
      else if !state.world.isValidCell doorPos then some (false, manager, state)
      else if !state.world.isValidCell roofPos then some (false, manager, state)
      else
        let cleared := { state with world := state.world.setCell doorPos .blank }
        (cleared.replaceMaterialAtCell roofPos .wall).map fun roofed =>
          (true, manager.setOpen id true, roofed)

def closeDoor (manager : DoorManager) (id : DoorId) (state : WateredWorld K F) :
    Option (DoorManager × WateredWorld K F) :=
  match manager.doors.lookup id with
  | none => some (manager, state)
  | some door =>
      if !door.isOpen then some (manager, state)
      else
        let roofPos := door.roofPosition state.world.data
        let walled :=
          if state.world.isValidCell (door.position state.world.data) then
            state.replaceMaterialAtCell (door.position state.world.data) .wall
          else some state
        walled.map fun walled =>
          (manager.setOpen id false,
            if state.world.isValidCell roofPos then
              { walled with world := walled.world.setCell roofPos .blank }
            else walled)

end

end DoorManager

end DirtSim
