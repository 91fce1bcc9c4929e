import DirtSim.Physics.World

/-! # Collision detection

Each cell's center of mass is advanced by its velocity, and where it leaves the cell a move to the
neighbour is queued. The amounts may be out of date when it is executed; that it leads to a cell of
the world lasts (`World.computeMaterialMoves_within`).
-/

namespace DirtSim

open Foundation

namespace WorldCollisionCalculator

section

def isCollisionRigid : Material → Bool
  | .metal | .wood | .seed | .wall => true
  | _ => false

def isCompressionGranular : Material → Bool
  | .dirt | .sand => true
  | _ => false

def isCompressionSupportSink : Material → Bool
  | .metal | .wall | .wood => true
  | _ => false

end

variable {K : Type*} {F : Type} [Field K] [LinearOrder K]

def minMatterThreshold : K := 1 / 1000

def fragmentationThreshold : K := 15

def inelasticRestitutionFactor : K := 1 / 2

def shouldSuppressGranularExcessMovePressure (fromCell toCell : Cell K) : Bool :=
  isCompressionGranular fromCell.materialType && !toCell.isEmpty &&
    (isCompressionGranular toCell.materialType || isCompressionSupportSink toCell.materialType)

def isFluidBlockedContactCandidate (fromCell toCell : Cell K) (fromPos toPos : Vector2i)
    (amount : K) : Bool :=
  fromCell.materialType = .water && toCell.materialType = .water && fromPos.y < toPos.y &&
    amount ≤ 1 / 10000 && toCell.getCapacity ≤ 1 / 10000

def getAllBoundaryCrossings (newCOM : Vector2 K) : List Vector2i :=
  (if newCOM.x ≥ 1 then [⟨1, 0⟩] else []) ++ (if newCOM.x ≤ -1 then [⟨-1, 0⟩] else []) ++
    (if newCOM.y ≥ 1 then [⟨0, 1⟩] else []) ++ (if newCOM.y ≤ -1 then [⟨0, -1⟩] else [])

def calculateMaterialMass (cell : Cell K) : K :=
  if cell.isEmpty then 0 else cell.materialType.getDensity * cell.fillRatio

/-- Kinetic energy along the direction of the move, of the reduced mass when the target has
mass. -/
def calculateCollisionEnergy (momentum : Vector2 K) (direction : Vector2i)
    (fromCell toCell : Cell K) : K :=
  let movingMass := calculateMaterialMass fromCell
  let velocityInDirection := |momentum.dot direction.toVector2|
  let targetMass := calculateMaterialMass toCell
  let effectiveMass :=
    if targetMass > 0 then movingMass * targetMass / (movingMass + targetMass) else movingMass
  1 / 2 * effectiveMass * velocityInDirection * velocityInDirection

def determineCollisionType (source target : Material) (collisionEnergy : K) : CollisionType :=
  if target = .air then .transferOnly
  else if collisionEnergy > fragmentationThreshold ∧ (source = .wood ∨ source = .leaf) ∧
      (target = .metal ∨ target = .wall) then .fragmentation
  else if source = .metal ∨ target = .metal then
    if target = .wall ∨ source = .wall then .elasticReflection
    else if (source = .metal ∧ target = .metal) ∨ (source = .metal ∧ isCollisionRigid target) ∨
        (target = .metal ∧ isCollisionRigid source) then .elasticReflection
    else .inelasticCollision
  else if target = .wall then .elasticReflection
  else if source = .wood ∧ isCollisionRigid target then .elasticReflection
  else if source = .air then .elasticReflection
  else if isCollisionRigid source ∧ isCollisionRigid target then
    let avgElasticity : K :=
      ((Material.getProperties source).elasticity + (Material.getProperties target).elasticity) / 2
    if avgElasticity > 1 / 2 then .elasticReflection else .inelasticCollision
  else if (source = .water ∧ target = .dirt) ∨ (source = .dirt ∧ target = .water) then .absorption
  else .inelasticCollision

end WorldCollisionCalculator

namespace World

variable {K : Type*} {F : Type} [Field K] [LinearOrder K]

section

def isLoadBearingGranularCell (cell : Cell K) : Bool :=
  !cell.isEmpty &&
    match cell.materialType with
    | .dirt | .sand => true
    | _ => false

def isGranularSupportSinkMaterial : Material → Bool
  | .metal | .wall | .wood => true
  | _ => false

def isGranularSupportSinkCell (cell : Cell K) : Bool :=
  !cell.isEmpty && isGranularSupportSinkMaterial cell.materialType

/-- Rows from a cell to the edge of the world on the side that gravity pulls to. -/
def rowsBelow (cells : CellArray K) (gravityDown : Bool) (y : ℤ) : ℕ :=
  if gravityDown then (cells.height - y).toNat else (y + 1).toNat

def supportOffsetY (gravityDown : Bool) : ℤ := if gravityDown then 1 else -1

/-- Whether load-bearing cells lead from a cell, row by row, to a cell that supports them. The
source caches the results during one computation of moves, which changes neither fill nor
material of a cell. -/
def hasSupportedGranularPath (cells : CellArray K) (gravityDown : Bool) (x y : ℤ) : Bool :=
  if inside : cells.InBounds x y then
    if !isLoadBearingGranularCell (cells.at x y) then false
    else
      let supportY := y + supportOffsetY gravityDown
      if ¬ cells.InBounds x supportY then false
      else
        let directSupport := cells.at x supportY
        if isGranularSupportSinkCell directSupport then true
        else if isLoadBearingGranularCell directSupport &&
            hasSupportedGranularPath cells gravityDown x supportY then true
        else
          let supports (diagonalX : ℤ) (path : Bool) : Bool :=
            decide (cells.InBounds diagonalX supportY) &&
              isLoadBearingGranularCell (cells.at diagonalX supportY) && path
          supports (x - 1) (hasSupportedGranularPath cells gravityDown (x - 1) supportY) ||
            supports (x + 1) (hasSupportedGranularPath cells gravityDown (x + 1) supportY)
  else false
termination_by rowsBelow cells gravityDown y
decreasing_by
  all_goals
    obtain ⟨_, top, _, bottom⟩ := inside
    cases gravityDown <;> simp only [rowsBelow, supportOffsetY, ↓reduceIte, Bool.false_eq_true] <;>
      omega

def carriesTransmittedGranularLoad (cell : Cell K) (gravityMagnitude : K) : Bool :=
  if gravityMagnitude ≤ 1 / 10000 ∨ !isLoadBearingGranularCell cell then false
  else cell.staticLoad > cell.getMass * gravityMagnitude + 1 / 1000

def isSupportedGranularCompressionTarget (cells : CellArray K) (pos : Vector2i)
    (gravityDown : Bool) (gravityMagnitude : K) : Bool :=
  if ¬ cells.InBounds pos.x pos.y then false
  else
    let cell := cells.cellAt pos
    if cell.isEmpty then false
    else if isGranularSupportSinkCell cell then true
    else if !isLoadBearingGranularCell cell then false
    else if cell.fillRatio < 95 / 100 then false
    else if cell.getCapacity > 2 / 100 then false
    else if !carriesTransmittedGranularLoad cell gravityMagnitude then false
    else hasSupportedGranularPath cells gravityDown pos.x pos.y

/-- Whether a move presses a supported grain against its support. The source also asks without
`requireGravityAlignment`, for the debug overlay. -/
def isSupportedGranularCompressionCandidate (cells : CellArray K) (fromCell : Cell K)
    (fromPos direction : Vector2i) (gravityMagnitude : K) (gravityDown : Bool)
    (requireGravityAlignment : Bool) : Bool :=
  if gravityMagnitude ≤ 1 / 10000 then false
  else if requireGravityAlignment ∧
      (direction.x ≠ 0 ∨ direction.y ≠ supportOffsetY gravityDown) then false
  else if !isLoadBearingGranularCell fromCell then false
  else if fromCell.fillRatio < 95 / 100 then false
  else if !hasSupportedGranularPath cells gravityDown fromPos.x fromPos.y then false
  else if !carriesTransmittedGranularLoad fromCell gravityMagnitude ∧
      !requireGravityAlignment then false
  else if fromCell.velocity.dot direction.toVector2 ≤ 0 then false
  else
    let targetPos := fromPos + direction
    if ¬ cells.InBounds targetPos.x targetPos.y then false
    else
      let toCell := cells.cellAt targetPos
      if toCell.isEmpty then false
      else if toCell.getCapacity > 2 / 100 then false
      else isSupportedGranularCompressionTarget cells targetPos gravityDown gravityMagnitude

end

variable [Analytic K]

open WorldCollisionCalculator in
/-- A material move with its collision physics. Only what fits is queued; the excess becomes
pressure. -/
def createCollisionAwareMove (world : World K F) (fromCell toCell : Cell K)
    (fromPos toPos : Vector2i) : MaterialMove K :=
  let settings := world.physicsSettings
  let wantsToTransfer := fromCell.fillRatio
  let amount := min wantsToTransfer toCell.getCapacity
  let excess := wantsToTransfer - amount
  let excessPressure :=
    if excess > minMatterThreshold ∧ settings.pressureDynamicStrength > 0 ∧
        !shouldSuppressGranularExcessMovePressure fromCell toCell then
      let blockedMass := excess * fromCell.materialType.getDensity
      let energy := fromCell.velocity.mag * blockedMass
      energy * (1 / 10) * settings.pressureDynamicStrength
    else 0
  let collisionEnergy :=
    calculateCollisionEnergy fromCell.velocity (toPos - fromPos) fromCell toCell
  let determined :=
    determineCollisionType fromCell.materialType toCell.materialType collisionEnergy
  let fluidBlocked :=
    settings.waterSimMode = .macProjection ∧
      isFluidBlockedContactCandidate fromCell toCell fromPos toPos amount
  let collisionType := if fluidBlocked then .fluidBlockedContact else determined
  -- Organisms must not fragment by a partial transfer.
  let collisionType :=
    if world.organismManager.organismAt fromPos ≠ invalidOrganismId ∧
        collisionType = .transferOnly ∧ !toCell.isEmpty then .elasticReflection
    else collisionType
  let elasticities : K :=
    (Material.getProperties fromCell.materialType).elasticity *
      (Material.getProperties toCell.materialType).elasticity
  let restitution :=
    match collisionType with
    | .elasticReflection => Analytic.sqrt elasticities
    | .inelasticCollision => Analytic.sqrt elasticities * (3 / 10)
    | .fragmentation => 1 / 10
    | _ => 0
  { amount := amount
    momentum := fromCell.velocity
    fromPos := fromPos
    toPos := toPos
    material := fromCell.materialType
    collisionType := collisionType
    collisionEnergy := collisionEnergy
    restitutionCoefficient := restitution
    materialMass := calculateMaterialMass fromCell
    targetMass := calculateMaterialMass toCell
    pressureFromExcess := if fluidBlocked then 0 else excessPressure }

/-- Elastic reflection at the edge of the world, or where a transfer between cells failed. -/
def reflect (cell : Cell K) (direction : Vector2i) (material : Material) : Cell K :=
  let elasticity := (Material.getProperties material).elasticity
  let side (component : ℤ) : K := if component > 0 then 99 / 100 else -(99 / 100)
  let velocity : Vector2 K :=
    { x := if direction.x ≠ 0 then -cell.velocity.x * elasticity else cell.velocity.x
      y := if direction.y ≠ 0 then -cell.velocity.y * elasticity else cell.velocity.y }
  let com : Vector2 K :=
    { x := if direction.x ≠ 0 then side direction.x else cell.com.x
      y := if direction.y ≠ 0 then side direction.y else cell.com.y }
  (cell.withVelocity velocity).setCOM com

def applyBoundaryReflection (cell : Cell K) (direction : Vector2i) : Cell K :=
  reflect cell direction cell.materialType

def applyCellBoundaryReflection (cell : Cell K) (direction : Vector2i) (material : Material) :
    Cell K :=
  reflect cell direction material

/-- Moves queued so far, over the world whose centers of mass are being advanced. -/
structure MoveQueue (K : Type*) (F : Type) where
  world : World K F
  moves : List (MaterialMove K)

/-- A cell that generates moves: it holds material other than wall and air, and no organism
with its own physics. -/
def generatesMoves [Coordinate F] (world : World K F) (pos : Vector2i) : Bool :=
  let cell := world.cellAt pos
  let owner := world.organismManager.organismAt pos
  let rigid :=
    owner ≠ invalidOrganismId &&
      (world.organismManager.getOrganism owner).any fun organism => organism.usesRigidBodyPhysics
  !cell.isEmpty && !cell.isWall && cell.materialType ≠ .air && !rigid

/-- One crossing of a side: a move to the neighbour, or a reflection at the edge of the world. -/
def queueCrossing (pos : Vector2i) (queue : MoveQueue K F) (direction : Vector2i) :
    MoveQueue K F :=
  let world := queue.world
  let cell := world.cellAt pos
  let targetPos := pos + direction
  if world.isValidCell targetPos then
    let gravity := world.physicsSettings.gravity
    let isGravityCompressionCandidate :=
      isSupportedGranularCompressionCandidate world.data cell pos direction |gravity|
        (gravity > 0) true
    let move := world.createCollisionAwareMove cell (world.cellAt targetPos) pos targetPos
    let queued :=
      if isGravityCompressionCandidate then
        { move with
          amount := 0
          collisionType := .compressionContact
          pressureFromExcess := 0
          restitutionCoefficient := 0 }
      else move
    { queue with moves := queue.moves ++ [queued] }
  else { queue with world := world.setCell pos (applyBoundaryReflection cell direction) }

/-- The center of mass after the crossings: advanced, except for what was reflected. -/
def updatedCOM (cell : Cell K) (newCOM : Vector2 K) (crossed : List Vector2i)
    (reflected : Bool) : Vector2 K :=
  if !reflected then newCOM
  else
    { x :=
        if crossed.all (fun direction => direction.x = 0) ∧ |newCOM.x| < 1 then newCOM.x
        else cell.com.x
      y :=
        if crossed.all (fun direction => direction.y = 0) ∧ |newCOM.y| < 1 then newCOM.y
        else cell.com.y }

/-- At a corner the direction of the faster component is kept: it overwrites the first entry of
the crossings, and the others stay where they are. -/
def keepDominant (velocity : Vector2 K) (crossings : List Vector2i) : List Vector2i :=
  let keepIdx := if |velocity.x| > |velocity.y| then 0 else crossings.length - 1
  if crossings.length > 1 then crossings.set 0 (crossings.getD keepIdx ⟨0, 0⟩) else crossings

def computeCellMoves [Coordinate F] (deltaTime : K) (queue : MoveQueue K F) (pos : Vector2i) :
    MoveQueue K F :=
  if !queue.world.generatesMoves pos then queue
  else
    let cell := queue.world.cellAt pos
    let newCOM := cell.com + cell.velocity.times deltaTime
    let crossings := WorldCollisionCalculator.getAllBoundaryCrossings newCOM
    let crossed := keepDominant cell.velocity crossings
    let processed := if crossings.length > 1 then crossed.take 1 else crossed
    let advanced := processed.foldl (queueCrossing pos) queue
    let reflected := processed.any fun direction => !queue.world.isValidCell (pos + direction)
    let reflectedCell := advanced.world.cellAt pos
    { advanced with
      world := advanced.world.setCell pos
        (reflectedCell.setCOM (updatedCOM reflectedCell newCOM crossed reflected)) }

def computeMaterialMoves [Coordinate F] (deltaTime : K) (world : World K F) : MoveQueue K F :=
  (Grid.coordinates world.data.width world.data.height).foldl
    (fun queue cell => computeCellMoves deltaTime queue ⟨cell.1, cell.2⟩)
    { world := world, moves := [] }

section

variable {direction : Vector2i} {cells : Grid (Cell K)} {queue : MoveQueue K F}

omit [Field K] [LinearOrder K] [Analytic K] in
theorem within_of_size {cells others : Grid (Cell K)} {move : MaterialMove K}
    (within : move.Within cells) (width : others.width = cells.width)
    (height : others.height = cells.height) : move.Within others := by
  obtain ⟨source, target, apart⟩ := within
  refine ⟨?_, ?_, apart⟩
  · simpa only [Grid.InBounds, width, height] using source
  · simpa only [Grid.InBounds, width, height] using target

section

omit [Analytic K]

theorem crossing_ne_zero {newCOM : Vector2 K}
    (crossing : direction ∈ WorldCollisionCalculator.getAllBoundaryCrossings newCOM) :
    direction ≠ ⟨0, 0⟩ := by
  simp only [WorldCollisionCalculator.getAllBoundaryCrossings, List.mem_append] at crossing
  rcases crossing with ((right | left) | down) | up
  · rw [List.mem_ite_nil_right, List.mem_singleton] at right
    simp [right.2, Vector2i.mk.injEq]
  · rw [List.mem_ite_nil_right, List.mem_singleton] at left
    simp [left.2, Vector2i.mk.injEq, Int.reduceNeg]
  · rw [List.mem_ite_nil_right, List.mem_singleton] at down
    simp [down.2, Vector2i.mk.injEq]
  · rw [List.mem_ite_nil_right, List.mem_singleton] at up
    simp [up.2, Vector2i.mk.injEq, Int.reduceNeg]

theorem mem_of_mem_keepDominant {velocity : Vector2 K} {crossings : List Vector2i}
    (kept : direction ∈ keepDominant velocity crossings) : direction ∈ crossings := by
  by_cases corner : crossings.length > 1
  · simp only [keepDominant, corner, ↓reduceIte] at kept
    rcases List.mem_or_eq_of_mem_set kept with old | overwritten
    · exact old
    · rw [overwritten, List.getD_eq_getElem?_getD]
      split
      · rw [List.getElem?_eq_getElem (by omega)]
        exact List.getElem_mem _
      · rw [List.getElem?_eq_getElem (by omega)]
        exact List.getElem_mem _
  · simpa only [keepDominant, corner, ↓reduceIte] using kept

end

omit [Field K] [LinearOrder K] [Analytic K] in
theorem mem_processed {corner : Prop} [Decidable corner] {crossed : List Vector2i}
    (processed : direction ∈ if corner then crossed.take 1 else crossed) : direction ∈ crossed := by
  split at processed
  · exact List.mem_of_mem_take processed
  · exact processed

/-- The dimensions of the world and the queued moves between its cells. -/
def MoveQueue.Sound (cells : Grid (Cell K)) (queue : MoveQueue K F) : Prop :=
  queue.world.data.width = cells.width ∧ queue.world.data.height = cells.height ∧
    ∀ move ∈ queue.moves, move.Within cells

omit [Field K] [LinearOrder K] [Analytic K] in
theorem sound_setCell (sound : queue.Sound cells) (pos : Vector2i) (cell : Cell K) :
    MoveQueue.Sound cells { queue with world := queue.world.setCell pos cell } := by
  obtain ⟨width, height, moves⟩ := sound
  exact ⟨(CellArray.setCell_width ..).trans width, (CellArray.setCell_height ..).trans height,
    moves⟩

theorem queueCrossing_sound (sound : queue.Sound cells) {pos direction : Vector2i}
    (inside : cells.InBounds pos.x pos.y) (crossing : direction ≠ ⟨0, 0⟩) :
    (queueCrossing pos queue direction).Sound cells := by
  by_cases valid : queue.world.isValidCell (pos + direction)
  · simp only [queueCrossing, valid, ↓reduceIte]
    refine ⟨sound.1, sound.2.1, fun move queued => ?_⟩
    rcases List.mem_append.mp queued with earlier | new
    · exact sound.2.2 move earlier
    · have target : cells.InBounds (pos + direction).x (pos + direction).y := by
        simpa only [Grid.InBounds, sound.1, sound.2.1] using of_decide_eq_true valid
      have apart : pos ≠ pos + direction := by
        intro same
        have x := congrArg Vector2i.x same
        have y := congrArg Vector2i.y same
        simp only [Vector2i.add_x, Vector2i.add_y] at x y
        have flatX : direction.x = 0 := by omega
        have flatY : direction.y = 0 := by omega
        exact crossing (Vector2i.ext flatX flatY)
      rw [List.mem_singleton.mp new]
      split <;> exact ⟨inside, target, apart⟩
  · simp only [queueCrossing, valid, Bool.false_eq_true, ↓reduceIte]
    exact sound_setCell sound _ _

theorem queueCrossings_sound {pos : Vector2i} (inside : cells.InBounds pos.x pos.y)
    {directions : List Vector2i} (crossings : ∀ direction ∈ directions, direction ≠ ⟨0, 0⟩)
    (sound : queue.Sound cells) : (directions.foldl (queueCrossing pos) queue).Sound cells := by
  induction directions generalizing queue with
  | nil => exact sound
  | cons direction directions ih =>
      have first := queueCrossing_sound sound inside (crossings direction List.mem_cons_self)
      exact ih (fun other later => crossings other (List.mem_cons_of_mem _ later)) first

theorem computeCellMoves_sound [Coordinate F] {pos : Vector2i} (inside : cells.InBounds pos.x pos.y)
    (deltaTime : K) (sound : queue.Sound cells) :
    (computeCellMoves deltaTime queue pos).Sound cells := by
  unfold computeCellMoves
  split
  · exact sound
  · refine sound_setCell (queueCrossings_sound inside (fun direction processed => ?_) sound) _ _
    have listed := mem_processed processed
    exact crossing_ne_zero (mem_of_mem_keepDominant listed)

theorem computeMaterialMoves_sound [Coordinate F] (deltaTime : K) (world : World K F) :
    (computeMaterialMoves deltaTime world).Sound world.data.toGrid := by
  have sound : ∀ (positions : List (ℤ × ℤ)) (queue : MoveQueue K F),
      (∀ cell ∈ positions, world.data.InBounds cell.1 cell.2) →
      queue.Sound world.data.toGrid →
      (positions.foldl (fun queue cell => computeCellMoves deltaTime queue ⟨cell.1, cell.2⟩)
        queue).Sound world.data.toGrid := by
    intro positions
    induction positions with
    | nil => exact fun _ _ sound => sound
    | cons cell positions ih =>
        intro queue inside sound
        refine ih _ (fun other later => inside other (List.mem_cons_of_mem _ later)) ?_
        exact computeCellMoves_sound (inside cell List.mem_cons_self) deltaTime sound
  refine sound _ _ (fun cell listed => Grid.mem_coordinates.mp listed) ?_
  exact ⟨rfl, rfl, fun move none => absurd none List.not_mem_nil⟩

/-- **Every move leads from one cell of the world to another.** -/
theorem computeMaterialMoves_within [Coordinate F] (deltaTime : K) (world : World K F) :
    ∀ move ∈ (computeMaterialMoves deltaTime world).moves, move.Within world.data.toGrid :=
  (computeMaterialMoves_sound deltaTime world).2.2

end

end World

end DirtSim
