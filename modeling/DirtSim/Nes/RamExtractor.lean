import DirtSim.Foundation.Numerals
import Mathlib.Algebra.Order.Field.Rat
import Mathlib.Tactic.Common

/-! # Reading the game state from memory

The emulated console's memory is decoded into the state of the game. Speeds and directions are
small multiples of simple fractions, so rational numbers stand for the floating-point ones.
-/

namespace DirtSim

/-- The bytes of the console's work memory. -/
structure MemorySnapshot where
  cpuRam : Fin 8192 → UInt8

def MemorySnapshot.blank : MemorySnapshot := ⟨fun _ => 0⟩

inductive SmbPhase
  | nonGameplay | gameplay
deriving DecidableEq, Repr

inductive SmbGameMode
  | startDemo | normal | endCurrentWorld | endGame | unknown
deriving DecidableEq, Repr

inductive SmbLifeState
  | alive | dying | dead
deriving DecidableEq, Repr

inductive SmbPlayerState
  | leftmostOfScreen | climbingVine | enteringReversedLPipe | goingDownPipe | autowalk
  | autowalkAlt | playerDies | enteringArea | normal | growing | shrinking | dying
  | becomingFire | unknown
deriving DecidableEq, Repr

inductive SmbFloatState
  | groundedOrOther | jumping | walkedOffLedge | slidingFlagpole | unknown
deriving DecidableEq, Repr

inductive SmbPowerupState
  | small | big | fire
deriving DecidableEq, Repr

structure NesSuperMarioBrosState where
  phase : SmbPhase
  gameMode : SmbGameMode
  lifeState : SmbLifeState
  playerState : SmbPlayerState
  floatState : SmbFloatState
  powerupState : SmbPowerupState
  airborne : Bool
  enemyPresent : Bool
  secondEnemyPresent : Bool
  facingX : ℤ
  movementX : ℤ
  horizontalSpeedNormalized : ℚ
  verticalSpeedNormalized : ℚ
  nearestEnemyDx : ℤ
  nearestEnemyDy : ℤ
  secondNearestEnemyDx : ℤ
  secondNearestEnemyDy : ℤ
  world : UInt8
  level : UInt8
  absoluteX : UInt16
  playerXScreen : UInt8
  playerYScreen : UInt8
  lives : UInt8

namespace RamExtractor

/-! ## Decoding single bytes -/

def decodeAbsoluteX (playerXPage playerXScreen : UInt8) : UInt16 :=
  (playerXPage.toUInt16 <<< 8) ||| playerXScreen.toUInt16

def signed (byte : UInt8) : ℤ := byte.toInt8.toInt

def clampUnit (value : ℚ) : ℚ := max (-1) (min value 1)

def decodeHorizontalSpeedNormalized (horizontalSpeed : UInt8) : ℚ :=
  clampUnit (signed horizontalSpeed / 40)

def decodeVerticalSpeedNormalized (verticalSpeed : UInt8) : ℚ :=
  clampUnit (signed verticalSpeed / 128)

def decodeFacingX (rawFacingDirection : UInt8) : ℤ :=
  if rawFacingDirection = 1 then 1 else if rawFacingDirection = 2 then -1 else 0

def decodeGameMode (gameEngine : UInt8) : SmbGameMode :=
  if gameEngine = 0 then .startDemo
  else if gameEngine = 1 then .normal
  else if gameEngine = 2 then .endCurrentWorld
  else if gameEngine = 3 then .endGame
  else .unknown

def decodeFloatState (playerFloatState : UInt8) : SmbFloatState :=
  if playerFloatState = 0 then .groundedOrOther
  else if playerFloatState = 1 then .jumping
  else if playerFloatState = 2 then .walkedOffLedge
  else if playerFloatState = 3 then .slidingFlagpole
  else .unknown

/-- The player states in the order of their numbers, from zero. -/
def playerStates : List SmbPlayerState :=
  [.leftmostOfScreen, .climbingVine, .enteringReversedLPipe, .goingDownPipe, .autowalk,
    .autowalkAlt, .playerDies, .enteringArea, .normal, .growing, .shrinking, .dying, .becomingFire]

def decodePlayerState (playerState : UInt8) : SmbPlayerState :=
  playerStates.getD playerState.toNat .unknown

def decodeLifeState : SmbPlayerState → SmbLifeState
  | .leftmostOfScreen => .dead
  | .playerDies | .dying => .dying
  | _ => .alive

def decodePhase (gameMode : SmbGameMode) (setupComplete : Bool) : SmbPhase :=
  if setupComplete ∧ gameMode = .normal then .gameplay else .nonGameplay

def decodePowerupState (powerupState : UInt8) : SmbPowerupState :=
  if powerupState ≥ 2 then .fire else if powerupState = 1 then .big else .small

def isAirborne (playerFloatState : SmbFloatState) : Bool :=
  playerFloatState = .jumping ∨ playerFloatState = .walkedOffLedge

/-! ## The nearest enemies -/

structure DecodedEnemy where
  dx : ℤ
  dy : ℤ
  distanceSquared : ℤ

def toInt16 (value : ℤ) : ℤ := value.bmod 65536

def decodeEnemy (enemyXPage enemyXScreen enemyYScreen : UInt8) (playerAbsoluteX : UInt16)
    (playerYScreen : UInt8) : DecodedEnemy :=
  let enemyAbsoluteX := decodeAbsoluteX enemyXPage enemyXScreen
  let dx := toInt16 (toInt16 enemyAbsoluteX.toNat - toInt16 playerAbsoluteX.toNat)
  let dy := toInt16 (toInt16 enemyYScreen.toNat - toInt16 playerYScreen.toNat)
  { dx := dx, dy := dy, distanceSquared := dx * dx + dy * dy }

/-- Keeps the two nearest enemies, an earlier one first among equals. -/
def noteEnemy (nearest : List DecodedEnemy) (enemy : DecodedEnemy) : List DecodedEnemy :=
  match nearest with
  | [] => [enemy]
  | [first] =>
      if enemy.distanceSquared < first.distanceSquared then [enemy, first] else [first, enemy]
  | first :: second :: _ =>
      if enemy.distanceSquared ≥ second.distanceSquared then nearest
      else if enemy.distanceSquared < first.distanceSquared then [enemy, first]
      else [first, enemy]

/-- The addresses of one enemy slot: active, type, page, screen position across and down. -/
structure EnemySlot where
  active : Fin 8192
  type : Fin 8192
  xPage : Fin 8192
  xScreen : Fin 8192
  yScreen : Fin 8192

def enemySlots : List EnemySlot :=
  [⟨0x000F, 0x0016, 0x006E, 0x0087, 0x00CF⟩, ⟨0x0010, 0x0017, 0x006F, 0x0088, 0x00D0⟩,
    ⟨0x0011, 0x0018, 0x0070, 0x0089, 0x00D1⟩, ⟨0x0012, 0x0019, 0x0071, 0x008A, 0x00D2⟩,
    ⟨0x0013, 0x001A, 0x0072, 0x008B, 0x00D3⟩]

def nearestEnemies (snapshot : MemorySnapshot) (playerAbsoluteX : UInt16)
    (playerYScreen : UInt8) : List DecodedEnemy :=
  enemySlots.foldl
    (fun nearest slot =>
      if snapshot.cpuRam slot.active = 0 then nearest
      else if snapshot.cpuRam slot.type = 0 then nearest
      else noteEnemy nearest (decodeEnemy (snapshot.cpuRam slot.xPage)
        (snapshot.cpuRam slot.xScreen) (snapshot.cpuRam slot.yScreen) playerAbsoluteX
        playerYScreen)) []

/-! ## The whole state -/

def extract (snapshot : MemorySnapshot) (setupComplete : Bool) : NesSuperMarioBrosState :=
  let playerState := decodePlayerState (snapshot.cpuRam 0x000E)
  let playerFloatState := decodeFloatState (snapshot.cpuRam 0x001D)
  let gameMode := decodeGameMode (snapshot.cpuRam 0x0770)
  let playerAbsoluteX := decodeAbsoluteX (snapshot.cpuRam 0x006D) (snapshot.cpuRam 0x0086)
  let playerYScreen := snapshot.cpuRam 0x00CE
  let enemies := nearestEnemies snapshot playerAbsoluteX playerYScreen
  { phase := decodePhase gameMode setupComplete
    gameMode := gameMode
    lifeState := decodeLifeState playerState
    playerState := playerState
    floatState := playerFloatState
    powerupState := decodePowerupState (snapshot.cpuRam 0x0756)
    airborne := isAirborne playerFloatState
    enemyPresent := enemies[0]?.isSome
    secondEnemyPresent := enemies[1]?.isSome
    facingX := decodeFacingX (snapshot.cpuRam 0x0033)
    movementX := decodeFacingX (snapshot.cpuRam 0x0045)
    horizontalSpeedNormalized := decodeHorizontalSpeedNormalized (snapshot.cpuRam 0x0057)
    verticalSpeedNormalized := decodeVerticalSpeedNormalized (snapshot.cpuRam 0x009F)
    nearestEnemyDx := (enemies[0]?.map DecodedEnemy.dx).getD 0
    nearestEnemyDy := (enemies[0]?.map DecodedEnemy.dy).getD 0
    secondNearestEnemyDx := (enemies[1]?.map DecodedEnemy.dx).getD 0
    secondNearestEnemyDy := (enemies[1]?.map DecodedEnemy.dy).getD 0
    world := snapshot.cpuRam 0x075F
    level := snapshot.cpuRam 0x0760
    absoluteX := playerAbsoluteX
    playerXScreen := snapshot.cpuRam 0x0086
    playerYScreen := playerYScreen
    lives := snapshot.cpuRam 0x075A }

end RamExtractor

end DirtSim
