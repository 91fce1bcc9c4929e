import DirtSim.Physics.CollisionResponse
import Mathlib.Tactic.FinCases

/-! # Water fragmentation

High-energy collisions make water splash. Each of the two cells that holds water sprays
fragments over its neighbours, never onto the other one, and never below the threshold of an
empty cell. Each fragment that lands costs at most the residue it overwrites, and there are at
most five.
-/

namespace DirtSim

open Foundation WorldCollisionCalculator

variable {K : Type*} {F : Type} [Field K] [LinearOrder K]

/-- A fragment on its way to a neighbour. -/
structure FragTarget (K : Type*) where
  offset : Vector2i
  velocity : Vector2 K
  amount : K

namespace FragTarget

def before (first second : Vector2i) : Bool :=
  first.x < second.x ∨ (first.x = second.x ∧ first.y < second.y)

def neighbors : List Vector2i :=
  [⟨-1, -1⟩, ⟨-1, 0⟩, ⟨-1, 1⟩, ⟨0, -1⟩, ⟨0, 1⟩, ⟨1, -1⟩, ⟨1, 0⟩, ⟨1, 1⟩]

def closer [Analytic K] (fragDir : Vector2 K) (best : K × Vector2i) (offset : Vector2i) :
    K × Vector2i :=
  let dot := fragDir.dot offset.toVector2.normalize
  if dot > best.1 then (dot, offset) else best

/-- The neighbour whose direction is closest to a fragment's. -/
def nearestNeighbor [Analytic K] (fragDir : Vector2 K) : Vector2i :=
  (neighbors.foldl (closer fragDir) (-2, ⟨0, 0⟩)).2

/-- Angles spread evenly over the arc; two fragments go to its ends. -/
def fragAngles (numFrags : ℕ) (arcWidth : K) : List K :=
  let halfArc := arcWidth / 2
  if numFrags = 2 then [-halfArc, halfArc]
  else (List.range numFrags).map fun (i : ℕ) => -halfArc + (i : K) / ((numFrags : K) - 1) * arcWidth

def make [Analytic K] (params : FragmentationParams K) (baseAngle arcWidth amount angleOffset : K) :
    FragTarget K :=
  let fragAngle := baseAngle + angleOffset
  let fragDir : Vector2 K := ⟨Analytic.cos fragAngle, Analytic.sin fragAngle⟩
  let edgeFactor := |angleOffset| / (arcWidth / 2)
  let speedMultiplier := 1 + (params.edgeSpeedFactor - 1) * edgeFactor
  { offset := nearestNeighbor fragDir
    velocity := fragDir.times (params.baseSpeed * speedMultiplier)
    amount := amount }

/-- Two fragments for one cell: the velocities are averaged and the amounts added. -/
def join (first second : FragTarget K) : FragTarget K :=
  let totalAmount := first.amount + second.amount
  if totalAmount ≤ 0 then first
  else
    { first with
      velocity :=
        (first.velocity.times first.amount + second.velocity.times second.amount).divide totalAmount
      amount := totalAmount }

def merge (frag : FragTarget K) : List (FragTarget K) → List (FragTarget K)
  | [] => [frag]
  | target :: rest =>
      if before frag.offset target.offset then frag :: target :: rest
      else if frag.offset = target.offset then join target frag :: rest
      else target :: merge frag rest

def mergeAll (frags : List (FragTarget K)) : List (FragTarget K) :=
  frags.foldl (fun merged frag => merge frag merged) []

section

theorem join_offset (first second : FragTarget K) : (join first second).offset = first.offset := by
  unfold join
  dsimp only
  split <;> rfl

theorem length_merge_le (frag : FragTarget K) (merged : List (FragTarget K)) :
    (merge frag merged).length ≤ merged.length + 1 := by
  induction merged with
  | nil => exact le_refl _
  | cons target rest ih =>
      unfold merge
      split
      · exact le_refl _
      · split
        · exact Nat.le_succ _
        · exact Nat.succ_le_succ ih

theorem length_foldl_merge_le (frags merged : List (FragTarget K)) :
    (frags.foldl (fun merged frag => merge frag merged) merged).length ≤
      merged.length + frags.length := by
  induction frags generalizing merged with
  | nil => exact le_refl _
  | cons frag frags ih =>
      have step := length_merge_le frag merged
      calc _ ≤ (merge frag merged).length + frags.length := ih _
        _ ≤ merged.length + (frag :: frags).length := by
            rw [List.length_cons]
            omega

theorem offset_merge {property : Vector2i → Prop} {frag : FragTarget K} (new : property frag.offset)
    {merged : List (FragTarget K)} (old : ∀ target ∈ merged, property target.offset) :
    ∀ target ∈ merge frag merged, property target.offset := by
  induction merged with
  | nil =>
      intro target member
      rw [List.mem_singleton.mp member]
      exact new
  | cons first rest ih =>
      have later : ∀ target ∈ rest, property target.offset :=
        fun target member => old target (List.mem_cons_of_mem _ member)
      unfold merge
      split
      · exact List.forall_mem_cons.mpr ⟨new, old⟩
      · split
        · refine List.forall_mem_cons.mpr ⟨?_, later⟩
          rw [join_offset]
          exact old first List.mem_cons_self
        · exact List.forall_mem_cons.mpr ⟨old first List.mem_cons_self, ih later⟩

theorem offset_mergeAll {property : Vector2i → Prop} {frags : List (FragTarget K)}
    (all : ∀ frag ∈ frags, property frag.offset) :
    ∀ target ∈ mergeAll frags, property target.offset := by
  have kept : ∀ merged : List (FragTarget K), (∀ target ∈ merged, property target.offset) →
      ∀ target ∈ frags.foldl (fun merged frag => merge frag merged) merged,
        property target.offset := by
    induction frags with
    | nil => exact fun _ old => old
    | cons frag frags ih =>
        intro merged old
        exact ih (fun other later => all other (List.mem_cons_of_mem _ later)) _
          (offset_merge (all frag List.mem_cons_self) old)
  exact kept [] fun target none => absurd none List.not_mem_nil

omit [LinearOrder K] in
theorem length_fragAngles (numFrags : ℕ) (arcWidth : K) :
    (fragAngles numFrags arcWidth).length = numFrags := by
  unfold fragAngles
  split
  case isTrue two => rw [two, List.length_cons, List.length_singleton]
  case isFalse more => rw [List.length_map, List.length_range]

end

section

variable [Analytic K] [IsStrictOrderedRing K]
variable (fragDir : Vector2 K)

omit [IsStrictOrderedRing K] in
theorem closer_foldl_cases (offsets : List Vector2i) (best : K × Vector2i) :
    (offsets.foldl (closer fragDir) best).2 ∈ offsets ∨
      (offsets.foldl (closer fragDir) best = best ∧
        ∀ offset ∈ offsets, fragDir.dot offset.toVector2.normalize ≤ best.1) := by
  induction offsets generalizing best with
  | nil => exact .inr ⟨rfl, fun offset none => absurd none List.not_mem_nil⟩
  | cons offset offsets ih =>
      rw [List.foldl_cons]
      rcases ih (closer fragDir best offset) with found | ⟨same, below⟩
      · exact .inl (List.mem_cons_of_mem _ found)
      · by_cases better : fragDir.dot offset.toVector2.normalize > best.1
        · refine .inl ?_
          rw [same, closer, if_pos better]
          exact List.mem_cons_self
        · have unchanged : closer fragDir best offset = best := if_neg better
          rw [unchanged] at same below
          rw [unchanged]
          exact .inr ⟨same, List.forall_mem_cons.mpr ⟨not_lt.mp better, below⟩⟩

/-- Left and right neighbour lie in opposite directions, so one of them is within the bound
that the comparison starts from. -/
theorem dot_left_add_dot_right :
    fragDir.dot (Vector2i.toVector2 ⟨-1, 0⟩).normalize +
      fragDir.dot (Vector2i.toVector2 ⟨1, 0⟩).normalize = 0 := by
  have same : (Vector2i.toVector2 ⟨-1, 0⟩ : Vector2 K).mag =
      (Vector2i.toVector2 ⟨1, 0⟩ : Vector2 K).mag := by
    simp [Vector2.mag, Vector2i.toVector2, Int.reduceNeg]
  simp only [Vector2.normalize, same]
  split <;>
    simp only [Vector2.dot, Vector2.times, Vector2i.toVector2, Int.reduceNeg, Int.cast_neg,
      Int.cast_one, Int.cast_zero] <;>
    ring

theorem nearestNeighbor_mem : nearestNeighbor fragDir ∈ neighbors := by
  rcases closer_foldl_cases fragDir neighbors (-2, ⟨0, 0⟩) with found | ⟨_, below⟩
  · exact found
  · have left := below ⟨-1, 0⟩ (by decide)
    have right := below ⟨1, 0⟩ (by decide)
    have opposite := dot_left_add_dot_right fragDir
    dsimp only at left right
    linarith

end

end FragTarget

namespace World

/-- The world while a cell sprays, and how much it has sprayed. -/
structure Spray (K : Type*) (F : Type) where
  world : World K F
  sprayed : K

/-- A cell with a fragment added: an empty cell turns to water, water is merged with, and other
materials refuse. -/
def receiveFragment (target : Cell K) (frag : FragTarget K) (toTransfer : K) : Option (Cell K) :=
  let landingCom : Vector2 K :=
    ⟨-(frag.offset.x : K) * (9 / 10), -(frag.offset.y : K) * (9 / 10)⟩
  if target.isEmpty then
    some ({ target with
      materialType := .water
      fillRatio := toTransfer
      velocity := frag.velocity }.setCOM landingCom)
  else if target.materialType = .water then
    let oldMass := target.fillRatio
    let totalMass := oldMass + toTransfer
    some ({ target with
      velocity :=
        (target.velocity.times oldMass + frag.velocity.times toTransfer).divide totalMass
      fillRatio := target.fillRatio + toTransfer }.setCOM
        ((target.com.times oldMass + landingCom.times toTransfer).divide totalMass))
  else none

/-- Where a fragment can be placed: the amount that fits and leaves the source its threshold,
and the target cell with it. -/
def placement (world : World K F) (sourcePos avoidPos : Vector2i) (frag : FragTarget K) :
    Option (K × Cell K) :=
  let targetPos := sourcePos + frag.offset
  if !world.isValidCell targetPos ∨ targetPos = avoidPos then none
  else
    let source := world.cellAt sourcePos
    let target := world.cellAt targetPos
    let toTransfer :=
      min (min frag.amount target.getCapacity) (source.fillRatio - minMatterThreshold)
    if target.getCapacity < minMatterThreshold ∨ toTransfer < 1 / 100 then none
    else (receiveFragment target frag toTransfer).map fun filled => (toTransfer, filled)

def placeFragment (sourcePos avoidPos : Vector2i) (spray : Spray K F) (frag : FragTarget K) :
    Spray K F :=
  let source := spray.world.cellAt sourcePos
  match spray.world.placement sourcePos avoidPos frag with
  | none => spray
  | some (toTransfer, filled) =>
      { world :=
          (spray.world.setCell sourcePos
            { source with fillRatio := source.fillRatio - toTransfer }).setCell
            (sourcePos + frag.offset) filled
        sprayed := spray.sprayed + toTransfer }

/-- Sprays fragments of one cell over its neighbours and returns how much was sprayed. -/
def fragmentSingleCell [Analytic K] (world : World K F) (sourcePos avoidPos : Vector2i)
    (sprayDirection : Vector2 K) (numFrags : ℕ) (arcWidth : K) (params : FragmentationParams K) :
    Spray K F :=
  let source := world.cellAt sourcePos
  let nothing : Spray K F := { world := world, sprayed := 0 }
  if numFrags < 2 ∨ arcWidth ≤ 0 ∨ source.fillRatio < minMatterThreshold ∨
      params.sprayFraction ≤ 0 then nothing
  else
    let baseAngle := Analytic.atan2 sprayDirection.y sprayDirection.x
    let fragAmountEach := source.fillRatio * params.sprayFraction / numFrags
    if fragAmountEach ≤ 0 then nothing
    else
      let frags :=
        (FragTarget.fragAngles numFrags arcWidth).map
          (FragTarget.make params baseAngle arcWidth fragAmountEach)
      let spray := (FragTarget.mergeAll frags).foldl (placeFragment sourcePos avoidPos) nothing
      if (spray.world.cellAt sourcePos).fillRatio < minMatterThreshold then
        { spray with world := spray.world.setCell sourcePos .blank }
      else spray

/-- The number of fragments by energy; one means no fragmentation. -/
def fragmentCount (settings : PhysicsSettings K) (energy : K) : ℕ :=
  let full := settings.fragmentationFullThreshold
  if energy > full * 2 then 5
  else if energy > full * (3 / 2) then 4
  else if energy > full then 3
  else if energy > settings.fragmentationThreshold then 2
  else 1

/-- How far the energy of a collision lies on the way between the two thresholds. The quotient
is infinite when they are equal; all its uses are clamped to at most 2. -/
def energyRatio (settings : PhysicsSettings K) (energy : K) : K :=
  if settings.fragmentationFullThreshold = settings.fragmentationThreshold then 2
  else
    (energy - settings.fragmentationThreshold) /
      (settings.fragmentationFullThreshold - settings.fragmentationThreshold)

def sprayDirection [Analytic K] (radialDir reflected : Vector2 K) (radialBias : K) : Vector2 K :=
  let reflectDir := if reflected.normalize.mag < 1 / 100 then radialDir else reflected.normalize
  let blended := (radialDir.times radialBias + reflectDir.times (1 - radialBias)).normalize
  if blended.mag < 1 / 100 then radialDir else blended

def arcWidth (params : FragmentationParams K) (ratio : K) : K :=
  min (params.minArc + (params.maxArc - params.minArc) * clamp ratio 0 2) params.maxArc

/-- A cell sprayed if it is water; its parameters are scaled by the momentum of the collision. -/
def sprayWater [Analytic K] (world : World K F) (move : MaterialMove K) (isWater : Bool)
    (sourcePos avoidPos : Vector2i) (radialDir reflected : Vector2 K) (material : Material) :
    Spray K F :=
  let settings := world.physicsSettings
  let params : FragmentationParams K := getMaterialFragmentationParams material
  if isWater then
    world.fragmentSingleCell sourcePos avoidPos (sprayDirection radialDir reflected params.radialBias)
      (fragmentCount settings move.collisionEnergy)
      (arcWidth params (energyRatio settings move.collisionEnergy))
      { params with baseSpeed := move.momentum.mag * params.baseSpeed }
  else { world := world, sprayed := 0 }

/-- What remains of both cells after a splash: the source bounces or is cleared, and the target
is pushed. -/
def settleFragmented (world : World K F) (move : MaterialMove K)
    (fromComp : VelocityComponents K) (fromIsWater : Bool) : World K F :=
  let inelasticRestitution := move.restitutionCoefficient * inelasticRestitutionFactor
  let fromCell := world.cellAt move.fromPos
  let toCell := world.cellAt move.toPos
  if !fromIsWater then world
  else
    let remaining :=
      if fromCell.fillRatio > minMatterThreshold then
        fromCell.withVelocity
          (fromComp.tangential + fromComp.normal.times (-inelasticRestitution))
      else .blank
    world.setCells move
      (remaining,
        if !toCell.isEmpty then pushed toCell move fromComp inelasticRestitution else toCell)

def splash [Analytic K] (world : World K F) (move : MaterialMove K) : Bool × World K F :=
  let fromCell := world.cellAt move.fromPos
  let toCell := world.cellAt move.toPos
  let fromIsWater : Bool := fromCell.materialType = .water
  let toIsWater : Bool := toCell.materialType = .water
  let surfaceNormal := move.getDirection.normalize
  let fromComp := decomposeVelocity move.momentum surfaceNormal
  let toComp := decomposeVelocity toCell.velocity surfaceNormal
  let fromSpray :=
    world.sprayWater move fromIsWater move.fromPos move.toPos (surfaceNormal.times (-1))
      (fromComp.tangential - fromComp.normal) fromCell.materialType
  let toSpray :=
    fromSpray.world.sprayWater move toIsWater move.toPos move.fromPos surfaceNormal
      (toComp.tangential + toComp.normal) toCell.materialType
  if fromSpray.sprayed < minMatterThreshold ∧ toSpray.sprayed < minMatterThreshold then
    (false, toSpray.world)
  else (true, toSpray.world.settleFragmented move fromComp fromIsWater)

/-- Water fragmentation on high-energy impact. Returns whether it handled the collision. -/
def handleWaterFragmentation [Analytic K] (world : World K F) (move : MaterialMove K) :
    Bool × World K F :=
  let settings := world.physicsSettings
  let fromIsWater : Bool := (world.cellAt move.fromPos).materialType = .water
  let toIsWater : Bool := (world.cellAt move.toPos).materialType = .water
  if !settings.fragmentationEnabled ∨ move.collisionEnergy < settings.fragmentationThreshold ∨
      (!fromIsWater ∧ !toIsWater) then (false, world)
  else
    let probability := clamp (energyRatio settings move.collisionEnergy) 0 1
    let rolled := { world with rng := world.rng.tail }
    if world.rng.head > probability ∨ fragmentCount settings move.collisionEnergy = 1 then
      (false, rolled)
    else rolled.splash move

section

open Cell

variable [IsStrictOrderedRing K]
variable {frag : FragTarget K} {world : World K F} {sourcePos avoidPos : Vector2i}
  {move : MaterialMove K}

theorem receiveFragment_receives {target : Cell K} {toTransfer : K} (fits : matter.Fits target)
    (positive : 0 ≤ toTransfer) (room : toTransfer ≤ target.getCapacity) {filled : Cell K}
    (received : receiveFragment target frag toTransfer = some filled) :
    matter.Receives minFillThreshold .water toTransfer target filled := by
  by_cases empty : target.isEmpty
  · simp only [receiveFragment, empty, ↓reduceIte, Option.some.injEq] at received
    subst received
    have below : toTransfer ≤ 1 - target.fillRatio := room
    have filled : 0 ≤ target.fillRatio := fits.1
    exact receives_overwrite fits empty rfl rfl positive (by linarith)
  · by_cases water : target.materialType = .water
    · simp only [receiveFragment, empty, Bool.false_eq_true, ↓reduceIte, water,
        Option.some.injEq] at received
      subst received
      rw [← water]
      exact receives_merge fits rfl rfl positive room
    · simp only [receiveFragment, empty, Bool.false_eq_true, ↓reduceIte, water,
        reduceCtorEq] at received

/-- A source that can go on spraying: water above the threshold of an empty cell. -/
structure Sprays (world : World K F) (sourcePos : Vector2i) : Prop where
  inside : world.data.InBounds sourcePos.x sourcePos.y
  water : (world.cellAt sourcePos).materialType = .water
  filled : minFillThreshold ≤ (world.cellAt sourcePos).fillRatio

theorem releases_spray {source : Cell K} (fits : matter.Fits source) {toTransfer : K}
    (positive : 0 ≤ toTransfer) (left : minFillThreshold ≤ source.fillRatio - toTransfer) :
    matter.Releases 0 source.materialType toTransfer source
      { source with fillRatio := source.fillRatio - toTransfer } where
  fits := by
    have below : source.fillRatio ≤ 1 := fits.2
    refine ⟨minFillThreshold_pos.le.trans left, ?_⟩
    change source.fillRatio - toTransfer ≤ 1
    linarith
  holding_le other := by
    rw [holding_eq, holding_eq]
    split <;> simp
  amount_le := by
    change source.fillRatio ≤ source.fillRatio - toTransfer + toTransfer + 0
    rw [sub_add_cancel, add_zero]

omit [Field K] [LinearOrder K] [IsStrictOrderedRing K] in
theorem ne_add_neighbor (pos : Vector2i) {offset : Vector2i}
    (neighbor : offset ∈ FragTarget.neighbors) : pos ≠ pos + offset := by
  intro same
  have x := congrArg Vector2i.x same
  have y := congrArg Vector2i.y same
  simp only [Vector2i.add_x, Vector2i.add_y, left_eq_add] at x y
  have zero : offset = ⟨0, 0⟩ := Vector2i.ext x y
  rw [zero] at neighbor
  exact absurd neighbor (by decide)

theorem placement_spec {toTransfer : K} {filled : Cell K}
    (placed : world.placement sourcePos avoidPos frag = some (toTransfer, filled)) :
    world.data.InBounds (sourcePos + frag.offset).x (sourcePos + frag.offset).y ∧
      sourcePos + frag.offset ≠ avoidPos ∧ 0 ≤ toTransfer ∧
      toTransfer ≤ (world.cellAt (sourcePos + frag.offset)).getCapacity ∧
      minFillThreshold ≤ (world.cellAt sourcePos).fillRatio - toTransfer ∧
      receiveFragment (world.cellAt (sourcePos + frag.offset)) frag toTransfer = some filled := by
  simp only [placement, Option.ite_none_left_eq_some, not_or, not_lt, Option.map_eq_some_iff,
    Prod.mk.injEq] at placed
  obtain ⟨⟨valid, allowed⟩, ⟨_, visible⟩, cell, received, amount, rfl⟩ := placed
  rw [amount] at received visible
  have inside : world.isValidCell (sourcePos + frag.offset) := by
    simpa only [Bool.not_eq_true', Bool.not_eq_false] using valid
  have hundredth : (0 : K) ≤ 1 / 100 := by positivity
  have room : toTransfer ≤ (world.cellAt (sourcePos + frag.offset)).getCapacity := by
    rw [← amount]
    exact (min_le_left _ _).trans (min_le_right _ _)
  have spared : toTransfer ≤ (world.cellAt sourcePos).fillRatio - minFillThreshold := by
    rw [← amount]
    exact min_le_right _ _
  exact ⟨of_decide_eq_true inside, allowed, hundredth.trans visible, room, le_sub_comm.mp spared,
    received⟩

/-- **One fragment** costs at most what it overwrites. The source stays water above the
threshold, and the cell to avoid stays as it is. -/
theorem placeFragment_conserves {spray : Spray K F} (fills : spray.world.data.UnitFills)
    (sprays : spray.world.Sprays sourcePos) (elsewhere : avoidPos ≠ sourcePos)
    (neighbor : frag.offset ∈ FragTarget.neighbors) :
    spray.world.data.Conserves minFillThreshold
        (placeFragment sourcePos avoidPos spray frag).world.data ∧
      (placeFragment sourcePos avoidPos spray frag).world.Sprays sourcePos ∧
      (placeFragment sourcePos avoidPos spray frag).world.cellAt avoidPos =
        spray.world.cellAt avoidPos := by
  cases placed : spray.world.placement sourcePos avoidPos frag with
  | none =>
      have unplaced : placeFragment sourcePos avoidPos spray frag = spray := by
        simp [placeFragment, placed]
      rw [unplaced]
      exact ⟨(CellArray.Conserves.refl fills).mono minFillThreshold_pos.le, sprays, rfl⟩
  | some placement =>
      obtain ⟨toTransfer, filled⟩ := placement
      obtain ⟨inside, allowed, positive, room, spared, received⟩ := placement_spec placed
      have apart := ne_add_neighbor sourcePos neighbor
      have fitsSource := fills.fits sprays.inside
      have released := releases_spray fitsSource positive spared
      have taken := receiveFragment_receives (fills.fits inside) positive room received
      rw [← sprays.water] at taken
      simp only [placeFragment, placed]
      refine ⟨?_, ⟨?_, ?_, ?_⟩, ?_⟩
      · refine (CellArray.Conserves.setCells fills sprays.inside inside apart
          (.of_exchange released taken)).mono ?_
        rw [zero_add]
      · exact CellArray.setCell_inBounds.mpr (CellArray.setCell_inBounds.mpr sprays.inside)
      · rw [cellAt, setCell, CellArray.cellAt_setCell_ne _ _ apart, setCell,
          CellArray.cellAt_setCell_self sprays.inside]
        exact sprays.water
      · rw [cellAt, setCell, CellArray.cellAt_setCell_ne _ _ apart, setCell,
          CellArray.cellAt_setCell_self sprays.inside]
        exact spared
      · rw [cellAt, setCell, CellArray.cellAt_setCell_ne _ _ allowed.symm, setCell,
          CellArray.cellAt_setCell_ne _ _ elsewhere]
        rfl

theorem placeFragments_conserves (elsewhere : avoidPos ≠ sourcePos) {frags : List (FragTarget K)}
    (neighbors : ∀ frag ∈ frags, frag.offset ∈ FragTarget.neighbors) {spray : Spray K F}
    (fills : spray.world.data.UnitFills) (sprays : spray.world.Sprays sourcePos) :
    let sprayed := frags.foldl (placeFragment sourcePos avoidPos) spray
    spray.world.data.Conserves ((frags.length : K) * minFillThreshold) sprayed.world.data ∧
      sprayed.world.Sprays sourcePos ∧
      sprayed.world.cellAt avoidPos = spray.world.cellAt avoidPos := by
  induction frags generalizing spray with
  | nil =>
      refine ⟨?_, sprays, rfl⟩
      rw [List.length_nil, Nat.cast_zero, zero_mul]
      exact .refl fills
  | cons frag frags ih =>
      obtain ⟨one, still, kept⟩ := placeFragment_conserves fills sprays elsewhere
        (neighbors frag List.mem_cons_self)
      obtain ⟨rest, finally_, kept'⟩ := ih
        (fun other later => neighbors other (List.mem_cons_of_mem _ later)) one.fills still
      refine ⟨(one.trans rest).mono ?_, finally_, kept'.trans kept⟩
      rw [List.length_cons, Nat.cast_add, Nat.cast_one, add_mul, one_mul, add_comm]

omit [IsStrictOrderedRing K] in
theorem fragmentCount_le (settings : PhysicsSettings K) (energy : K) :
    fragmentCount settings energy ≤ 5 := by
  unfold fragmentCount
  dsimp only
  split
  · exact le_refl 5
  · split
    · decide
    · split
      · decide
      · split <;> decide

variable [Analytic K]

/-- **A cell of water that sprays** loses at most a threshold for each fragment, and leaves the
cell to avoid as it is. -/
theorem fragmentSingleCell_conserves (fills : world.data.UnitFills)
    (inside : world.data.InBounds sourcePos.x sourcePos.y) (elsewhere : avoidPos ≠ sourcePos)
    (water : (world.cellAt sourcePos).materialType = .water) (sprayDirection : Vector2 K)
    (numFrags : ℕ) (arcWidth : K) (params : FragmentationParams K) :
    let spray := world.fragmentSingleCell sourcePos avoidPos sprayDirection numFrags arcWidth params
    world.data.Conserves ((numFrags : K) * minFillThreshold) spray.world.data ∧
      spray.world.cellAt avoidPos = world.cellAt avoidPos := by
  have price : (0 : K) ≤ numFrags * minFillThreshold :=
    mul_nonneg (Nat.cast_nonneg _) minFillThreshold_pos.le
  have nothing : world.data.Conserves ((numFrags : K) * minFillThreshold) world.data ∧
      world.cellAt avoidPos = world.cellAt avoidPos :=
    ⟨(CellArray.Conserves.refl fills).mono price, rfl⟩
  unfold fragmentSingleCell
  dsimp only
  split
  case isTrue idle => exact nothing
  case isFalse active =>
      split
      case isTrue none_each => exact nothing
      case isFalse some_each =>
          simp only [not_or, not_lt] at active
          have sprays : world.Sprays sourcePos := ⟨inside, water, active.2.2.1⟩
          generalize framed :
            (FragTarget.fragAngles numFrags arcWidth).map (FragTarget.make params _ arcWidth _) =
              frags
          have count : (FragTarget.mergeAll frags).length ≤ numFrags := by
            refine (FragTarget.length_foldl_merge_le frags []).trans (le_of_eq ?_)
            rw [← framed, List.length_map, FragTarget.length_fragAngles, List.length_nil, zero_add]
          have neighbors : ∀ frag ∈ FragTarget.mergeAll frags,
              frag.offset ∈ FragTarget.neighbors := by
            refine FragTarget.offset_mergeAll fun frag made => ?_
            rw [← framed] at made
            obtain ⟨angle, _, rfl⟩ := List.mem_map.mp made
            exact FragTarget.nearestNeighbor_mem _
          obtain ⟨conserves, still, kept⟩ :=
            placeFragments_conserves elsewhere neighbors
              (show (Spray.mk world 0).world.data.UnitFills from fills) sprays
          have above : minMatterThreshold ≤ _ := still.filled
          rw [if_neg (not_lt.mpr above)]
          refine ⟨conserves.mono ?_, kept⟩
          exact mul_le_mul_of_nonneg_right (Nat.cast_le.mpr count) minFillThreshold_pos.le

theorem sprayWater_conserves {isWater : Bool} (fills : world.data.UnitFills)
    (inside : world.data.InBounds sourcePos.x sourcePos.y) (elsewhere : avoidPos ≠ sourcePos)
    (water : isWater → (world.cellAt sourcePos).materialType = .water)
    (radialDir reflected : Vector2 K) (material : Material) :
    let spray := world.sprayWater move isWater sourcePos avoidPos radialDir reflected material
    world.data.Conserves (5 * minFillThreshold) spray.world.data ∧
      spray.world.cellAt avoidPos = world.cellAt avoidPos := by
  have price : (0 : K) ≤ 5 * minFillThreshold :=
    mul_nonneg (Nat.ofNat_nonneg 5) minFillThreshold_pos.le
  unfold sprayWater
  split
  case isTrue sprays =>
      have bound : ((fragmentCount world.physicsSettings move.collisionEnergy : ℕ) : K) ≤ 5 := by
        exact_mod_cast fragmentCount_le world.physicsSettings move.collisionEnergy
      obtain ⟨conserves, kept⟩ :=
        fragmentSingleCell_conserves fills inside elsewhere (water sprays) _ _ _ _
      exact ⟨conserves.mono (mul_le_mul_of_nonneg_right bound minFillThreshold_pos.le), kept⟩
  case isFalse dry => exact ⟨(CellArray.Conserves.refl fills).mono price, rfl⟩

section

variable (fills : world.data.UnitFills) (within : move.Within world.data.toGrid)
include fills within

omit [Analytic K] in
theorem settleFragmented_conserves (fromComp : VelocityComponents K) (fromIsWater : Bool) :
    world.data.Conserves minFillThreshold
      (world.settleFragmented move fromComp fromIsWater).data := by
  have fitsFrom := fills.fits within.fromInside
  have fitsTo := fills.fits within.toInside
  have sameTo (condition : Prop) [Decidable condition] (restitution : K) :
      SameMatter (world.cellAt move.toPos)
        (if condition then pushed (world.cellAt move.toPos) move fromComp restitution
        else world.cellAt move.toPos) := by
    split
    · exact pushed_same _ _ _ _
    · exact .refl _
  unfold settleFragmented
  dsimp only
  split
  case isTrue dry => exact (CellArray.Conserves.refl fills).mono minFillThreshold_pos.le
  case isFalse wet =>
      by_cases remains : (world.cellAt move.fromPos).fillRatio > minMatterThreshold
      · rw [if_pos remains]
        refine (conserves_samePair fills within ⟨?_, ?_⟩).mono minFillThreshold_pos.le
        · exact withVelocity_same _ _
        · exact sameTo _ _
      · rw [if_neg remains]
        have residue : (world.cellAt move.fromPos).fillRatio ≤ minFillThreshold :=
          not_lt.mp remains
        have same := sameTo (!(world.cellAt move.toPos).isEmpty)
          (move.restitutionCoefficient * inelasticRestitutionFactor)
        refine conserves_setCells fills within (.of_pair blank_fits (same.fits fitsTo) ?_ ?_)
        · intro kind
          rw [holding_blank, zero_add, ← same.holding kind]
          exact le_add_of_nonneg_left (holding_nonneg fitsFrom kind)
        · rw [← same.2]
          change (world.cellAt move.fromPos).fillRatio + (world.cellAt move.toPos).fillRatio ≤
            0 + (world.cellAt move.toPos).fillRatio + minFillThreshold
          linarith

/-- **A splash** costs at most a threshold for each fragment and one for the source. -/
theorem splash_conserves :
    world.data.Conserves (11 * minFillThreshold) (world.splash move).2.data := by
  have positive : (0 : K) < minFillThreshold := minFillThreshold_pos
  unfold splash
  dsimp only
  generalize firstSpray : world.sprayWater move _ move.fromPos move.toPos _ _ _ = fromSpray
  obtain ⟨first, kept⟩ := sprayWater_conserves fills within.fromInside within.apart.symm
    of_decide_eq_true _ _ _ |> firstSpray.subst (motive := fun spray =>
      world.data.Conserves (5 * minFillThreshold) spray.world.data ∧
        spray.world.cellAt move.toPos = world.cellAt move.toPos)
  -- The first spray has left the target alone, so it is still the water it was.
  have toInside : fromSpray.world.data.InBounds move.toPos.x move.toPos.y :=
    first.inBounds.mpr within.toInside
  generalize secondSpray : fromSpray.world.sprayWater move _ move.toPos move.fromPos _ _ _ = toSpray
  obtain ⟨second, _⟩ := sprayWater_conserves first.fills toInside within.apart
    (fun water => by
      rw [kept]
      exact of_decide_eq_true water) _ _ _ |> secondSpray.subst (motive := fun spray =>
      fromSpray.world.data.Conserves (5 * minFillThreshold) spray.world.data ∧
        spray.world.cellAt move.fromPos = fromSpray.world.cellAt move.fromPos)
  have both := first.trans second
  split
  · exact both.mono (by linarith)
  · have within' := within_of_size within both.width_eq both.height_eq
    exact (both.trans (settleFragmented_conserves both.fills within' _ _)).mono (by linarith)

theorem handleWaterFragmentation_conserves :
    world.data.Conserves (11 * minFillThreshold) (world.handleWaterFragmentation move).2.data := by
  have untouched : world.data.Conserves (11 * minFillThreshold) world.data :=
    (CellArray.Conserves.refl fills).mono
      (mul_nonneg (Nat.ofNat_nonneg 11) minFillThreshold_pos.le)
  unfold handleWaterFragmentation
  dsimp only
  split
  · exact untouched
  · split
    · exact untouched
    · have fills' : ({ world with rng := world.rng.tail } : World K F).data.UnitFills := fills
      exact splash_conserves fills' within

end

end

end World

end DirtSim
