import DirtSim.Foundation.Transition
import DirtSim.Organisms.RigidBody
import DirtSim.Physics.CellMatter

/-! # Trees

A tree is a rigid body that carries out the commands of its brain. A command is validated when it
is decided and its energy put aside; when its time has run out it is validated again and executed.
Growing adds a cell to the local shape, which the rigid body projects onto the grid. The counts of
command signatures, which nothing but a report reads, are left out.
-/

namespace DirtSim

open Foundation

inductive GrowthStage
  | seed | germination | sapling | mature | decline
deriving DecidableEq, Repr

/-- Commands with their target and the seconds they take. -/
inductive TreeCommand (K : Type)
  | wait
  | cancel
  | growWood (targetPos : Vector2i) (executionTimeSeconds : K)
  | growLeaf (targetPos : Vector2i) (executionTimeSeconds : K)
  | growRoot (targetPos : Vector2i) (executionTimeSeconds : K)
  | produceSeed (position : Vector2i) (executionTimeSeconds : K)
deriving DecidableEq

inductive TreeCommandType
  | waitCommand | cancelCommand | growWoodCommand | growLeafCommand | growRootCommand
  | produceSeedCommand
deriving DecidableEq, Repr

inductive CommandResult
  | success | insufficientEnergy | invalidTarget | blocked
deriving DecidableEq, Repr

structure CommandExecutionResult where
  result : CommandResult
  message : String
deriving DecidableEq, Repr

def CommandExecutionResult.succeeded (result : CommandExecutionResult) : Bool :=
  result.result = .success

variable {K : Type}

namespace TreeCommand

def getCommandType : TreeCommand K → TreeCommandType
  | wait => .waitCommand
  | cancel => .cancelCommand
  | growWood _ _ => .growWoodCommand
  | growLeaf _ _ => .growLeafCommand
  | growRoot _ _ => .growRootCommand
  | produceSeed _ _ => .produceSeedCommand

def growth : TreeCommand K → Option (Vector2i × Material)
  | growWood targetPos _ => some (targetPos, .wood)
  | growLeaf targetPos _ => some (targetPos, .leaf)
  | growRoot targetPos _ => some (targetPos, .root)
  | wait | cancel | produceSeed _ _ => none

variable [Field K]

def executionTimeSeconds : TreeCommand K → K
  | growWood _ time | growLeaf _ time | growRoot _ time | produceSeed _ time => time
  | wait | cancel => 0

def getEnergyCost : TreeCommand K → K
  | growWood _ _ => 10
  | growLeaf _ _ => 8
  | growRoot _ _ => 12
  | produceSeed _ _ => 50
  | wait | cancel => 0

end TreeCommand

structure TreeResourceTotals (K : Type) where
  waterAbsorbed : K
  energyProduced : K
  seedsProduced : ℕ

/-- A tree beside its rigid body. `hasBrain` stands for the brain, whose decisions are inputs. -/
structure Tree (K : Type) where
  stage : GrowthStage
  ageSeconds : K
  totalEnergy : K
  totalWater : K
  commandAcceptedCount : ℕ
  commandRejectedCount : ℕ
  idleCancelCount : ℕ
  hasLastCommandResult : Bool
  lastCommandAccepted : Bool
  reservedEnergy : K
  hasReservedEnergy : Bool
  reservedCommandType : TreeCommandType
  currentCommand : Option (TreeCommand K)
  seedParentId : OrganismId
  timeRemainingSeconds : K
  totalCommandTimeSeconds : K
  hasBrain : Bool
  resourceTotals : TreeResourceTotals K
  body : RigidOrganism K

/-- The world and its trees. Other organisms are known to the organism manager only. -/
structure Forest (K : Type) where
  world : OrganismWorld K
  trees : Dict OrganismId (Tree K)

variable [Field K] [LinearOrder K]

def Cell.addMaterial (cell : Cell K) (type : Material) (amount : K) : Cell K :=
  if amount ≤ 0 then cell
  else if cell.isEmpty then { cell with materialType := type, fillRatio := min amount 1 }
  else if cell.materialType ≠ type then cell
  else { cell with fillRatio := cell.fillRatio + min amount cell.getCapacity }

namespace LocalCell

def mass (cell : LocalCell K) : K :=
  (Material.getProperties cell.material).density * cell.fillRatio

end LocalCell

def shapeMass (shape : List (LocalCell K)) : K := (shape.map LocalCell.mass).sum

/-- The centre of mass of a shape, in local coordinates. -/
def shapeCenterOfMass (shape : List (LocalCell K)) : K × K :=
  let mass := shapeMass shape
  if shape = [] ∨ mass < 1 / 10000 then (0, 0)
  else ((shape.map fun cell => (cell.localPos.x : K) * cell.mass).sum / mass,
    (shape.map fun cell => (cell.localPos.y : K) * cell.mass).sum / mass)

namespace Tree

def kEnergyCap : K := 100
def kMaintenanceCostPerCell : K := 1 / 5
def kPhotosynthesisRate : K := 3 / 5
def kWaterCapacity : K := 120
def kWaterDecayRate : K := 2 / 100
def kWaterFromAir : K := 2 / 100
def kWaterFromSoil : K := 3 / 10
def kWaterFromWater : K := 6 / 5
def kWaterUsePerLeaf : K := 12 / 100
def kMatureAgeSeconds : K := 300

/-- Reserved energy goes back to the tree, up to the cap. -/
def refund (tree : Tree K) : K :=
  if tree.hasReservedEnergy ∧ tree.reservedEnergy > 0 then
    min (tree.totalEnergy + tree.reservedEnergy) kEnergyCap
  else tree.totalEnergy

def isEnergyReservedForCommand (tree : Tree K) (cmd : TreeCommand K) (energyCost : K) : Bool :=
  if energyCost ≤ 0 then true
  else if ¬ tree.hasReservedEnergy then false
  else if tree.reservedCommandType ≠ cmd.getCommandType then false
  else tree.reservedEnergy ≥ energyCost

def new [Coordinate K] (startingEnergy : K) (seedParentId : OrganismId) (hasBrain : Bool) :
    Tree K :=
  let shape : List (LocalCell K) := [⟨⟨0, 0⟩, .seed, 1⟩]
  { stage := .seed, ageSeconds := 0, totalEnergy := startingEnergy, totalWater := 0
    commandAcceptedCount := 0, commandRejectedCount := 0, idleCancelCount := 0
    hasLastCommandResult := false, lastCommandAccepted := false
    reservedEnergy := 0, hasReservedEnergy := false, reservedCommandType := .waitCommand
    currentCommand := none, seedParentId := seedParentId
    timeRemainingSeconds := 0, totalCommandTimeSeconds := 0, hasBrain := hasBrain
    resourceTotals := { waterAbsorbed := 0, energyProduced := 0, seedsProduced := 0 }
    body := {
      velocity := 0, mass := shapeMass shape, localShape := shape, occupiedCells := []
      rigidBody := (RigidBodyComponent.new .seed).addCell ⟨0, 0⟩ .seed 1 } }

def addCellToLocalShape (tree : Tree K) (localPos : Vector2i) (material : Material)
    (fillRatio : K) : Tree K :=
  let shape := tree.body.localShape ++ [⟨localPos, material, fillRatio⟩]
  { tree with
    body := { tree.body with
      rigidBody := tree.body.rigidBody.addCell localPos material fillRatio
      localShape := shape, mass := shapeMass shape } }

end Tree

section

/-! ## Commands -/

def kCardinalDirections : List Vector2i := [⟨0, 1⟩, ⟨0, -1⟩, ⟨-1, 0⟩, ⟨1, 0⟩]

/-- A cardinal neighbour inside the world that the tree owns and that has one of the materials. -/
def hasOwnedNeighborWithMaterial (world : OrganismWorld K) (id : OrganismId) (pos : Vector2i)
    (allowedMaterials : List Material) : Bool :=
  kCardinalDirections.any fun dir =>
    world.InBounds (pos + dir) && world.ownerAt (pos + dir) = id &&
      (world.cellAt (pos + dir)).materialType ∈ allowedMaterials

/-- The texts of one growth command. -/
structure GrowthTexts where
  insufficientEnergy : String
  outOfBounds : String
  alreadyOwned : String
  valid : String
  notAdjacent : String

/-- Validation of a growth command: energy, bounds, the tree's own cells, adjacency. -/
def validateGrowth (tree : Tree K) (world : OrganismWorld K) (id : OrganismId)
    (checkEnergy : Bool) (energyCost : K) (texts : GrowthTexts) (allowedMaterials : List Material)
    (targetPos : Vector2i) : CommandExecutionResult :=
  if checkEnergy ∧ tree.totalEnergy < energyCost then
    ⟨.insufficientEnergy, texts.insufficientEnergy⟩
  else if ¬ world.InBounds targetPos then ⟨.invalidTarget, texts.outOfBounds⟩
  else if world.ownerAt targetPos = id then ⟨.invalidTarget, texts.alreadyOwned⟩
  else if hasOwnedNeighborWithMaterial world id targetPos allowedMaterials then
    ⟨.success, texts.valid⟩
  else ⟨.invalidTarget, texts.notAdjacent⟩

def woodTexts : GrowthTexts where
  insufficientEnergy := "Not enough energy for WOOD growth"
  outOfBounds := "WOOD target out of bounds"
  alreadyOwned := "WOOD target already owned by tree"
  valid := "WOOD target valid"
  notAdjacent := "WOOD requires cardinal adjacency to WOOD or SEED"

def leafTexts : GrowthTexts where
  insufficientEnergy := "Not enough energy for LEAF growth"
  outOfBounds := "LEAF target out of bounds"
  alreadyOwned := "LEAF target already owned by tree"
  valid := "LEAF target valid"
  notAdjacent := "LEAF requires cardinal adjacency to WOOD"

def rootTexts : GrowthTexts where
  insufficientEnergy := "Not enough energy for ROOT growth"
  outOfBounds := "ROOT target out of bounds"
  alreadyOwned := "ROOT target already owned by tree"
  valid := "ROOT target valid"
  notAdjacent := "ROOT requires cardinal adjacency to SEED or ROOT"

/-- Seeds need air, and respect the cells of other organisms. -/
def validateSeed (tree : Tree K) (world : OrganismWorld K) (id : OrganismId) (checkEnergy : Bool)
    (position : Vector2i) : CommandExecutionResult :=
  let targetOwner := world.ownerAt position
  if checkEnergy ∧ tree.totalEnergy < 50 then
    ⟨.insufficientEnergy, "Not enough energy for seed production"⟩
  else if ¬ world.InBounds position then ⟨.invalidTarget, "Seed position out of bounds"⟩
  else if ¬ hasOwnedNeighborWithMaterial world id position [.leaf, .wood] then
    ⟨.invalidTarget, "SEED requires cardinal adjacency to WOOD or LEAF"⟩
  else if (world.cellAt position).materialType ≠ .air then
    ⟨.blocked, "SEED can only be placed in AIR cells"⟩
  else if targetOwner ≠ invalidOrganismId ∧ targetOwner ≠ id then
    ⟨.blocked, "Cannot place SEED in another organism's cell"⟩
  else ⟨.success, "SEED target valid"⟩

def treeCommandValidate (tree : Tree K) (world : OrganismWorld K) (id : OrganismId)
    (cmd : TreeCommand K) (checkEnergy : Bool) : CommandExecutionResult :=
  match cmd with
  | .growWood targetPos _ =>
      validateGrowth tree world id checkEnergy 10 woodTexts [.seed, .wood] targetPos
  | .growLeaf targetPos _ =>
      validateGrowth tree world id checkEnergy 8 leafTexts [.wood] targetPos
  | .growRoot targetPos _ =>
      validateGrowth tree world id checkEnergy 12 rootTexts [.root, .seed] targetPos
  | .produceSeed position _ => validateSeed tree world id checkEnergy position
  | .wait => ⟨.success, "Wait"⟩
  | .cancel => ⟨.success, "Cancel"⟩

end

namespace Forest

variable [Coordinate K] [Analytic K]

def getAnchorCell (forest : Forest K) (id : OrganismId) : Vector2i :=
  match forest.world.organismManager.getOrganism id with
  | none => ⟨0, 0⟩
  | some body => body.getAnchorCell

def setTree (forest : Forest K) (id : OrganismId) (tree : Tree K) : Forest K :=
  { forest with trees := forest.trees.insert id tree }

def createTree (forest : Forest K) (pos : Vector2i) (startingEnergy : K)
    (seedParentId : OrganismId) (hasBrain : Bool) : Forest K where
  world :=
    { forest.world with
      data := if forest.world.InBounds pos then
          forest.world.data.setCell pos ((forest.world.cellAt pos).addMaterial .seed 1)
        else forest.world.data
      organismManager := forest.world.organismManager.createTree pos }
  trees := forest.trees.emplace forest.world.organismManager.nextId
    (Tree.new startingEnergy seedParentId hasBrain)

def recomputeCenterOfMass (world : OrganismWorld K) (id : OrganismId) (tree : Tree K) :
    OrganismWorld K :=
  { world with
    organismManager := { world.organismManager with
      organisms := world.organismManager.organisms.modify id fun body =>
        { body with centerOfMass := shapeCenterOfMass tree.body.localShape } } }

/-- Executes a growth command: the target becomes a cell of the local shape. -/
def executeGrowth (forest : Forest K) (id : OrganismId) (tree : Tree K) (targetPos : Vector2i)
    (material : Material) : Tree K × Forest K :=
  let grown := tree.addCellToLocalShape (targetPos - forest.getAnchorCell id) material 1
  (grown, { forest with world := recomputeCenterOfMass forest.world id grown })

/-- `TreeCommandProcessor::execute`: validates again, this time without the energy, which must
have been put aside. -/
def execute (forest : Forest K) (id : OrganismId) (tree : Tree K) (cmd : TreeCommand K) :
    CommandExecutionResult × Tree K × Forest K :=
  let validation := treeCommandValidate tree forest.world id cmd false
  if ¬ validation.succeeded then (validation, tree, forest)
  else if cmd.getEnergyCost > 0 ∧ ¬ tree.isEnergyReservedForCommand cmd cmd.getEnergyCost then
    (⟨.insufficientEnergy, "Energy not reserved for command"⟩, tree, forest)
  else
    match cmd with
    | .growWood targetPos _ =>
        (⟨.success, "WOOD growth successful"⟩, forest.executeGrowth id tree targetPos .wood)
    | .growLeaf targetPos _ =>
        (⟨.success, "LEAF growth successful"⟩, forest.executeGrowth id tree targetPos .leaf)
    | .growRoot targetPos _ =>
        (⟨.success, "ROOT growth successful"⟩, forest.executeGrowth id tree targetPos .root)
    | .produceSeed position _ =>
        (⟨.success, "Seed production successful"⟩,
          { tree with resourceTotals := { tree.resourceTotals with
              seedsProduced := tree.resourceTotals.seedsProduced + 1 } },
          forest.createTree position 0 id false)
    | .wait => (⟨.success, "Wait"⟩, tree, forest)
    | .cancel => (⟨.success, "Cancel"⟩, tree, forest)

def executeCommand (forest : Forest K) (id : OrganismId) (tree : Tree K) (cmd : TreeCommand K) :
    Tree K × Forest K :=
  let (result, executed, forest) := forest.execute id tree cmd
  let accepted := result.succeeded
  ({ executed with
      hasLastCommandResult := true
      lastCommandAccepted := accepted
      commandAcceptedCount := executed.commandAcceptedCount + if accepted then 1 else 0
      commandRejectedCount := executed.commandRejectedCount + if accepted then 0 else 1
      totalEnergy := if accepted then executed.totalEnergy else executed.refund
      reservedEnergy := 0
      hasReservedEnergy := false
      reservedCommandType := .waitCommand }, forest)

/-- The cells an organism loses track of: outside the world, empty, or owned by another. The set
has no order; all of them are given up at once. -/
def lostCells (world : OrganismWorld K) (id : OrganismId) (body : Organism.Body K) :
    Finset Vector2i :=
  body.cells.filter fun pos =>
    ¬ world.InBounds pos ∨ (world.cellAt pos).isEmpty ∨ world.ownerAt pos ≠ id

def pruneDisconnectedCells (world : OrganismWorld K) (id : OrganismId) : OrganismWorld K :=
  match world.organismManager.getOrganism id with
  | none => world
  | some body =>
      { world with
        organismManager := { world.organismManager with
          grid := OrganismManager.writeCells world.organismManager.grid
            (lostCells world id body) invalidOrganismId
          organisms := world.organismManager.organisms.modify id fun body =>
            { body with cells := body.cells \ lostCells world id body } } }

/-- The current command's timer; a command whose time is up is executed. -/
def tickCommand (forest : Forest K) (id : OrganismId) (tree : Tree K) (deltaTime : K) :
    Tree K × Forest K :=
  match tree.currentCommand with
  | none => (tree, forest)
  | some cmd =>
      let remaining := tree.timeRemainingSeconds - deltaTime
      let ticked := { tree with timeRemainingSeconds := remaining }
      if remaining ≤ 0 then
        let (executed, forest) := forest.executeCommand id ticked cmd
        ({ executed with currentCommand := none }, forest)
      else (ticked, forest)

/-- One step of the tree's rigid body, and the copies the tree keeps. -/
def updateBody (forest : Forest K) (id : OrganismId) (tree : Tree K) (deltaTime : K) :
    Option (Tree K × Forest K) := do
  let body ← forest.world.organismManager.getOrganism id
  let result ← tree.body.rigidBody.update id body.place tree.body.velocity tree.body.mass
    tree.body.localShape forest.world deltaTime 0 (1 / 100)
  return ({ tree with body := RigidWorld.syncOrganism tree.body tree.body.mass result },
    { forest with world := RigidWorld.syncWorld id result })

end Forest

namespace Tree

section

/-! ## Resources and stages -/

/-- The water one seed or root cell takes from a neighbour. -/
def waterFrom (cell : Cell K) : K :=
  match cell.materialType with
  | .water => kWaterFromWater * cell.fillRatio
  | .dirt | .sand => kWaterFromSoil * cell.fillRatio
  | .air => kWaterFromAir
  | .leaf | .metal | .root | .seed | .wall | .wood => 0

/-- The water a cell of the tree takes from its neighbours inside the world. -/
def waterGain (world : OrganismWorld K) (pos : Vector2i) : K :=
  if (world.cellAt pos).materialType = .seed ∨ (world.cellAt pos).materialType = .root then
    ((kCardinalDirections.map (pos + ·)).map fun neighbor =>
      if world.InBounds neighbor then waterFrom (world.cellAt neighbor) else 0).sum
  else 0

def cellsOf (world : OrganismWorld K) (cells : Finset Vector2i) (materials : List Material) :
    Finset Vector2i :=
  cells.filter fun pos => world.InBounds pos ∧ (world.cellAt pos).materialType ∈ materials

/-- Water and energy over a time step. `light` is the brightness of each cell, when the light of
this frame can be used. -/
def updateResources (tree : Tree K) (world : OrganismWorld K) (cells : Finset Vector2i)
    (light : Option (Vector2i → K)) (deltaTime : K) : Tree K :=
  if deltaTime ≤ 0 ∨ cells = ∅ then tree
  else
    let leaves := cellsOf world cells [.leaf]
    let living := cellsOf world cells [.seed, .root, .leaf, .wood]
    let leafCells : K := leaves.card
    let gain := living.sum (waterGain world)
    let headroom := max 0 (kWaterCapacity - tree.totalWater)
    let added := if gain > 0 then max 0 (min headroom (gain * deltaTime)) else 0
    let water := tree.totalWater + added
    let water := if water > 0 then max 0 (water - water * kWaterDecayRate * deltaTime) else water
    let avgLight := match light with
      | some brightness => if leaves = ∅ then 0 else leaves.sum brightness / leafCells
      | none => 0
    let needed := leafCells * kWaterUsePerLeaf * deltaTime
    let used := if needed > 0 then min water needed else 0
    let waterFactor := if needed > 0 then used / needed else 0
    let produced := leafCells * avgLight * kPhotosynthesisRate * deltaTime * waterFactor
    let maintenance := living.card * kMaintenanceCostPerCell * deltaTime
    { tree with
      totalWater := min (max (water - used) 0) kWaterCapacity
      totalEnergy := min (max (tree.totalEnergy + (produced - maintenance)) 0) kEnergyCap
      resourceTotals := { tree.resourceTotals with
        waterAbsorbed := tree.resourceTotals.waterAbsorbed + added
        energyProduced := tree.resourceTotals.energyProduced + produced } }

def countMaterial (shape : List (LocalCell K)) (material : Material) : ℕ :=
  shape.countP fun cell => cell.material = material

def computeDynamicStage (tree : Tree K) : GrowthStage :=
  let shape := tree.body.localShape
  let woodAboveSeed := shape.any fun cell => cell.material = .wood && cell.localPos.y < 0
  if countMaterial shape .seed = 0 ∨ countMaterial shape .root = 0 then .seed
  else if ¬ woodAboveSeed then .germination
  else if tree.ageSeconds ≥ kMatureAgeSeconds ∧ countMaterial shape .leaf ≥ 10 ∧
      countMaterial shape .root ≥ 10 ∧ countMaterial shape .wood ≥ 10 then .mature
  else .sapling

end

section

/-! ## Decisions -/

def reject (tree : Tree K) : Tree K :=
  { tree with
    hasLastCommandResult := true
    lastCommandAccepted := false
    commandRejectedCount := tree.commandRejectedCount + 1 }

def start (tree : Tree K) (cmd : TreeCommand K) : Tree K :=
  let energyCost := cmd.getEnergyCost
  let costs := energyCost > 0
  { tree with
    totalEnergy := if costs then max 0 (tree.totalEnergy - energyCost) else tree.totalEnergy
    reservedEnergy := if costs then energyCost else 0
    hasReservedEnergy := costs
    reservedCommandType := if costs then cmd.getCommandType else .waitCommand
    currentCommand := some cmd
    timeRemainingSeconds := cmd.executionTimeSeconds
    totalCommandTimeSeconds := cmd.executionTimeSeconds }

/-- The command in progress is cancelled and its energy given back. -/
def cancelCurrent (tree : Tree K) : Tree K :=
  match tree.currentCommand with
  | none => { tree with idleCancelCount := tree.idleCancelCount + 1 }
  | some _ =>
      let refunded := if tree.hasReservedEnergy ∧ tree.reservedEnergy > 0 then
          { tree with
            totalEnergy := tree.refund, reservedEnergy := 0, hasReservedEnergy := false
            reservedCommandType := .waitCommand }
        else tree
      { refunded with
        currentCommand := none, timeRemainingSeconds := 0, totalCommandTimeSeconds := 0 }

/-- An action command is validated and started, unless another one is in progress. -/
def proposeCommand (tree : Tree K) (world : OrganismWorld K) (id : OrganismId)
    (cmd : TreeCommand K) : Tree K :=
  if tree.currentCommand.isSome then tree
  else if ¬ (treeCommandValidate tree world id cmd true).succeeded then tree.reject
  else if cmd.getEnergyCost > 0 ∧ tree.totalEnergy < cmd.getEnergyCost then tree.reject
  else tree.start cmd

def processBrainDecision (tree : Tree K) (world : OrganismWorld K) (id : OrganismId)
    (decision : TreeCommand K) : Tree K :=
  if ¬ tree.hasBrain then tree
  else
    let asked := { tree with hasLastCommandResult := false }
    match decision with
    | .wait => asked
    | .cancel => asked.cancelCurrent
    | .growWood .. | .growLeaf .. | .growRoot .. | .produceSeed .. =>
        asked.proposeCommand world id decision

end

end Tree

namespace Forest

variable [Coordinate K] [Analytic K]

def cells (world : OrganismWorld K) (id : OrganismId) : Finset Vector2i :=
  match world.organismManager.getOrganism id with
  | none => ∅
  | some body => body.cells

/-- `Tree::update`: prune, command timer, rigid body, resources, stage, brain. -/
def updateTree (forest : Forest K) (id : OrganismId) (deltaTime : K)
    (light : Option (Vector2i → K)) (decision : TreeCommand K) : Option (Forest K) := do
  let tree ← forest.trees.lookup id
  let pruned := { forest with world := pruneDisconnectedCells forest.world id }
  let aged := { tree with ageSeconds := tree.ageSeconds + deltaTime }
  let ticked := pruned.tickCommand id aged deltaTime
  let (moved, forest) ← ticked.2.updateBody id ticked.1 deltaTime
  let fed := moved.updateResources forest.world (cells forest.world id) light deltaTime
  let staged := { fed with stage := fed.computeDynamicStage }
  return forest.setTree id (staged.processBrainDecision forest.world id decision)

/-- What happens in a world with trees. `elsewhere` is everything that other parts of the program
do to the world between two of these events: other organisms, moving material, edits, resizes. -/
inductive Event (K : Type)
  | createTree (pos : Vector2i) (startingEnergy : K) (seedParentId : OrganismId) (hasBrain : Bool)
  | update (id : OrganismId) (deltaTime : K) (light : Option (Vector2i → K))
      (decision : TreeCommand K)
  | removed (id : OrganismId)
  | elsewhere (world : OrganismWorld K)

def apply (forest : Forest K) : Event K → Option (Forest K)
  | .createTree pos startingEnergy seedParentId hasBrain =>
      some (forest.createTree pos startingEnergy seedParentId hasBrain)
  | .update id deltaTime light decision => forest.updateTree id deltaTime light decision
  | .removed id => some { forest with trees := forest.trees.erase id }
  | .elsewhere world => some { forest with world := world }

def machine (K : Type) [Field K] [LinearOrder K] [Coordinate K] [Analytic K] :
    Machine (Event K) (Forest K) where
  initial forest := forest.trees = ∅
  step before event after := before.apply event = some after

end Forest

end DirtSim
