import DirtSim.Foundation.Dict
import DirtSim.Search.SmbSearchCore
import Mathlib.Algebra.Order.Floor.Defs
import Mathlib.Data.Rat.Floor

/-! # The tree of a depth-first search

The nodes with their parallel vectors, the stack of nodes being expanded (a list with its top
first), and the tables of proven losses. A later node at the position of a closed loss that is no
further and no faster is pruned.
-/

namespace DirtSim

open Foundation

structure SmbDfsSearchOptions where
  maxSearchedNodeCount : ℕ := 5000
  stallFrameLimit : ℕ := 120
  velocityPruningEnabled : Bool := true
  fallingTranspositionPruningEnabled : Bool := true
  fallingTranspositionPlayerYScreenThreshold : UInt8 := 0
  groundedVerticalJumpPrioritizationEnabled : Bool := true
  stopAfterBestFrontier : Option ℕ := none

inductive SmbSearchNodeOutcome
  | opened | closedLoss | notClosedLoss
deriving DecidableEq, Repr

inductive SmbDfsClosedLossBlockReason
  | none | freshProgress | nonGameplay | childNotClosedLoss
deriving DecidableEq, Repr

structure DfsFrame where
  nodeIndex : ℕ
  nextActionIndex : ℕ
  actionOrdering : SmbSearchActionOrdering
  closedLossCandidate : Bool
  closedLossBlockReason : SmbDfsClosedLossBlockReason

def noteChildOutcome (dfsFrame : DfsFrame) (childOutcome : SmbSearchNodeOutcome)
    (childBlockReason : SmbDfsClosedLossBlockReason) : DfsFrame :=
  if childOutcome = .closedLoss then dfsFrame
  else
    { dfsFrame with
      closedLossCandidate := false
      closedLossBlockReason :=
        if dfsFrame.closedLossBlockReason ≠ .none then dfsFrame.closedLossBlockReason
        else if childBlockReason = .nonGameplay then .nonGameplay
        else .childNotClosedLoss }

/-! ## Positions -/

structure ClosedLossTranspositionShapeKey where
  nearestEnemyDx : ℤ
  nearestEnemyDy : ℤ
  secondNearestEnemyDx : ℤ
  secondNearestEnemyDy : ℤ
  verticalSpeed : ℤ
  facingX : ℤ
  horizontalSpeed : ℤ
  movementX : ℤ
  absoluteX : UInt16
  level : UInt8
  playerYScreen : UInt8
  powerupState : SmbPowerupState
  world : UInt8
  enemyPresent : Bool
  secondEnemyPresent : Bool
deriving DecidableEq

structure ClosedLossTranspositionKey extends ClosedLossTranspositionShapeKey where
  ramBytes : List UInt8
deriving DecidableEq

structure ClosedLossTranspositionEntry where
  bestFrontier : ℕ
  framesSinceProgress : ℕ
  gameplayFrame : ℕ
deriving DecidableEq

structure ClosedLossTranspositionShapeEntry where
  proof : ClosedLossTranspositionEntry
  ramBytes : List UInt8

def kClosedLossTranspositionRamByteAddrs : List (Fin 8192) :=
  [0x0000, 0x0003, 0x000A, 0x000B, 0x000E, 0x001D, 0x0057, 0x009F, 0x00B5, 0x00CE, 0x03AD,
    0x03B8, 0x0400, 0x0416, 0x0433, 0x0490, 0x04AC, 0x04AD, 0x04AE, 0x04AF, 0x06D5, 0x06FC,
    0x0700, 0x0701, 0x0702, 0x0704, 0x0705, 0x0709, 0x070A, 0x070C, 0x070D, 0x0712, 0x0714,
    0x071A, 0x071B, 0x071C, 0x071D, 0x071E, 0x071F, 0x0722, 0x0723, 0x072C, 0x072F, 0x0739,
    0x0747, 0x074A, 0x0752, 0x0753, 0x0755, 0x0775, 0x077F, 0x0781, 0x0782, 0x0783, 0x0784,
    0x0785, 0x0786, 0x0789, 0x078A, 0x0791, 0x0795, 0x079E, 0x079F]

def isClosedLossTranspositionInputMirrorRamAddr (ramAddr : Fin 8192) : Bool :=
  ramAddr ∈ [0x000A, 0x000B, 0x06FC, 0x074A]

def buildClosedLossTranspositionRamBytes (snapshot : MemorySnapshot) : List UInt8 :=
  kClosedLossTranspositionRamByteAddrs.map fun ramAddr =>
    if isClosedLossTranspositionInputMirrorRamAddr ramAddr then 0 else snapshot.cpuRam ramAddr

def encodeAxisSign (value : ℤ) : ℤ := if value > 0 then 1 else if value < 0 then -1 else 0

def lround (value : ℚ) : ℤ := if value < 0 then -⌊-value + 1 / 2⌋ else ⌊value + 1 / 2⌋

def quantizeHorizontalSpeed (normalizedSpeed : ℚ) : ℤ :=
  max (-128) (min (lround (normalizedSpeed * 40)) 127)

def quantizeVerticalSpeed (normalizedSpeed : ℚ) : ℤ :=
  max (-128) (min (lround (normalizedSpeed * 128)) 128)

def positionOf (state : NesSuperMarioBrosState) (snapshot : MemorySnapshot) :
    ClosedLossTranspositionKey where
  nearestEnemyDx := state.nearestEnemyDx
  nearestEnemyDy := state.nearestEnemyDy
  secondNearestEnemyDx := state.secondNearestEnemyDx
  secondNearestEnemyDy := state.secondNearestEnemyDy
  verticalSpeed := quantizeVerticalSpeed state.verticalSpeedNormalized
  facingX := encodeAxisSign state.facingX
  horizontalSpeed := quantizeHorizontalSpeed state.horizontalSpeedNormalized
  movementX := encodeAxisSign state.movementX
  absoluteX := state.absoluteX
  level := state.level
  playerYScreen := state.playerYScreen
  powerupState := state.powerupState
  world := state.world
  enemyPresent := state.enemyPresent
  secondEnemyPresent := state.secondEnemyPresent
  ramBytes := buildClosedLossTranspositionRamBytes snapshot

def buildClosedLossTranspositionKey (options : SmbDfsSearchOptions)
    (state : NesSuperMarioBrosState) (snapshot : MemorySnapshot) :
    Option ClosedLossTranspositionKey :=
  if !options.fallingTranspositionPruningEnabled then none
  else if state.gameMode ≠ .normal ∨ state.lifeState ≠ .alive then none
  else if state.playerYScreen < options.fallingTranspositionPlayerYScreenThreshold then none
  else some (positionOf state snapshot)

def buildClosedLossTranspositionShapeKey (key : ClosedLossTranspositionKey) :
    ClosedLossTranspositionShapeKey :=
  key.toClosedLossTranspositionShapeKey

def ClosedLossTranspositionEntry.Replaces (entry existing : ClosedLossTranspositionEntry) : Bool :=
  entry.bestFrontier > existing.bestFrontier ∨
    (entry.bestFrontier = existing.bestFrontier ∧ entry.gameplayFrame < existing.gameplayFrame) ∨
    (entry.bestFrontier = existing.bestFrontier ∧ entry.gameplayFrame = existing.gameplayFrame ∧
      entry.framesSinceProgress < existing.framesSinceProgress)

/-- An entry no less far and no slower than a node. -/
def ClosedLossTranspositionEntry.Dominates (entry : ClosedLossTranspositionEntry)
    (summary : SmbSearchEvaluatorSummary) : Bool :=
  entry.bestFrontier ≥ summary.bestFrontier ∧ entry.gameplayFrame ≤ summary.gameplayFrames ∧
    entry.framesSinceProgress ≤ summary.gameplayFramesSinceProgress

/-! ## The tree -/

structure SearchTree (S : Type) where
  nodes : List (SmbSearchNode S) := []
  dfsStack : List DfsFrame := []
  nodeOutcomes : List SmbSearchNodeOutcome := []
  closedLossBlockReasons : List SmbDfsClosedLossBlockReason := []
  closedLossTranspositionKeys : List (Option ClosedLossTranspositionKey) := []
  closedLossTranspositionTable :
    Dict ClosedLossTranspositionKey ClosedLossTranspositionEntry := ∅
  closedLossTranspositionShapeTable :
    Dict ClosedLossTranspositionShapeKey ClosedLossTranspositionShapeEntry := ∅

structure ClosedLossTranspositionShapeProbeResult where
  pruned : Bool := false
  ramDiffCount : ℕ := 0
  ramDiffs : List Bool := List.replicate 63 false

namespace SearchTree

variable {S : Type}

def isClosedLossCandidate (tree : SearchTree S) (nodeIndex : ℕ) : Bool :=
  nodeIndex < tree.nodes.length

def getInitialClosedLossBlockReason (tree : SearchTree S) (nodeIndex : ℕ) :
    SmbDfsClosedLossBlockReason :=
  if tree.isClosedLossCandidate nodeIndex then .none else .freshProgress

def isClosedLossTranspositionPruned (tree : SearchTree S) (key : ClosedLossTranspositionKey)
    (summary : SmbSearchEvaluatorSummary) : Bool :=
  match tree.closedLossTranspositionTable.lookup key with
  | none => false
  | some entry => entry.Dominates summary

/-- Looks the position up without its hidden bytes, and counts how many of these differ. -/
def probeClosedLossTranspositionShape (tree : SearchTree S)
    (key : ClosedLossTranspositionShapeKey) (exactKey : ClosedLossTranspositionKey)
    (summary : SmbSearchEvaluatorSummary) : ClosedLossTranspositionShapeProbeResult :=
  match tree.closedLossTranspositionShapeTable.lookup key with
  | none => {}
  | some shapeEntry =>
      if !shapeEntry.proof.Dominates summary then {}
      else
        let ramDiffs := List.zipWith (fun exact known => decide (exact ≠ known)) exactKey.ramBytes
          shapeEntry.ramBytes
        { pruned := true, ramDiffCount := ramDiffs.count true, ramDiffs := ramDiffs }

/-- What a node proven lost contributes to the tables. -/
def entryOf (node : SmbSearchNode S) : ClosedLossTranspositionEntry where
  bestFrontier := node.evaluatorSummary.bestFrontier
  framesSinceProgress := node.evaluatorSummary.gameplayFramesSinceProgress
  gameplayFrame := node.evaluatorSummary.gameplayFrames

def publishExact (table : Dict ClosedLossTranspositionKey ClosedLossTranspositionEntry)
    (key : ClosedLossTranspositionKey) (entry : ClosedLossTranspositionEntry) :
    Dict ClosedLossTranspositionKey ClosedLossTranspositionEntry :=
  match table.lookup key with
  | none => table.insert key entry
  | some existing => if entry.Replaces existing then table.insert key entry else table

def publishShape (table : Dict ClosedLossTranspositionShapeKey ClosedLossTranspositionShapeEntry)
    (key : ClosedLossTranspositionKey) (entry : ClosedLossTranspositionEntry) :
    Dict ClosedLossTranspositionShapeKey ClosedLossTranspositionShapeEntry :=
  let shapeKey := buildClosedLossTranspositionShapeKey key
  let shapeEntry : ClosedLossTranspositionShapeEntry := ⟨entry, key.ramBytes⟩
  match table.lookup shapeKey with
  | none => table.insert shapeKey shapeEntry
  | some existing =>
      if entry.Replaces existing.proof then table.insert shapeKey shapeEntry else table

/-- What a node has to publish: its entry, when it is a closed loss and stands for a position. -/
def publishable (tree : SearchTree S) (nodeIndex : ℕ) :
    Option (ClosedLossTranspositionKey × ClosedLossTranspositionEntry) :=
  match tree.nodes[nodeIndex]?, tree.closedLossTranspositionKeys[nodeIndex]?,
    tree.nodeOutcomes[nodeIndex]? with
  | some node, some (some key), some .closedLoss => some (key, entryOf node)
  | _, _, _ => none

def publishClosedLossTranspositionEntry (tree : SearchTree S) (nodeIndex : ℕ) : SearchTree S :=
  { tree with
    closedLossTranspositionTable :=
      match tree.publishable nodeIndex with
      | none => tree.closedLossTranspositionTable
      | some (key, entry) => publishExact tree.closedLossTranspositionTable key entry
    closedLossTranspositionShapeTable :=
      match tree.publishable nodeIndex with
      | none => tree.closedLossTranspositionShapeTable
      | some (key, entry) => publishShape tree.closedLossTranspositionShapeTable key entry }

def releaseNodeHeavyData (tree : SearchTree S) (nodeIndex : ℕ) : SearchTree S :=
  { tree with
    nodes := tree.nodes.modify nodeIndex fun node =>
      { node with
        savestate := none, memorySnapshot := .blank, scenarioVideoFrame := none } }

/-- Tells the node on top of the stack how a child ended. -/
def noteTop (tree : SearchTree S) (childOutcome : SmbSearchNodeOutcome)
    (childBlockReason : SmbDfsClosedLossBlockReason) : SearchTree S :=
  { tree with
    dfsStack := tree.dfsStack.modifyHead fun dfsFrame =>
      noteChildOutcome dfsFrame childOutcome childBlockReason }

def setOutcome (tree : SearchTree S) (nodeIndex : ℕ) (outcome : SmbSearchNodeOutcome)
    (blockReason : SmbDfsClosedLossBlockReason) : SearchTree S :=
  { tree with
    nodeOutcomes := tree.nodeOutcomes.set nodeIndex outcome
    closedLossBlockReasons := tree.closedLossBlockReasons.set nodeIndex blockReason }

def exhaustedOutcome (dfsFrame : DfsFrame) : SmbSearchNodeOutcome :=
  if dfsFrame.closedLossCandidate then .closedLoss else .notClosedLoss

def exhaustedBlockReason (dfsFrame : DfsFrame) : SmbDfsClosedLossBlockReason :=
  if dfsFrame.closedLossCandidate then .none else dfsFrame.closedLossBlockReason

def backtrack (tree : SearchTree S) (dfsFrame : DfsFrame) (rest : List DfsFrame) : SearchTree S :=
  let settled := (tree.setOutcome dfsFrame.nodeIndex (exhaustedOutcome dfsFrame)
    (exhaustedBlockReason dfsFrame)).publishClosedLossTranspositionEntry dfsFrame.nodeIndex
  let popped := { settled with dfsStack := rest }
  (popped.releaseNodeHeavyData dfsFrame.nodeIndex).noteTop (exhaustedOutcome dfsFrame)
    (exhaustedBlockReason dfsFrame)

def advance (tree : SearchTree S) (dfsFrame : DfsFrame) (rest : List DfsFrame) : SearchTree S :=
  { tree with
    dfsStack := { dfsFrame with nextActionIndex := dfsFrame.nextActionIndex + 1 } :: rest }

def addNode (tree : SearchTree S) (node : SmbSearchNode S)
    (key : Option ClosedLossTranspositionKey) (blockReason : SmbDfsClosedLossBlockReason) :
    SearchTree S :=
  { tree with
    nodes := tree.nodes ++ [node]
    closedLossTranspositionKeys := tree.closedLossTranspositionKeys ++ [key]
    nodeOutcomes := tree.nodeOutcomes ++ [.opened]
    closedLossBlockReasons := tree.closedLossBlockReasons ++ [blockReason] }

def pushFrame (tree : SearchTree S) (dfsFrame : DfsFrame) : SearchTree S :=
  { tree with dfsStack := dfsFrame :: tree.dfsStack }

def prune (tree : SearchTree S) (childIndex : ℕ) (outcome : SmbSearchNodeOutcome)
    (blockReason : SmbDfsClosedLossBlockReason) : SearchTree S :=
  let noted := (tree.setOutcome childIndex outcome blockReason).noteTop outcome blockReason
  let published := if outcome = .closedLoss then
    noted.publishClosedLossTranspositionEntry childIndex else noted
  published.releaseNodeHeavyData childIndex

section

variable (tree : SearchTree S)

/-! ## Nodes on the stack -/

def stackIndices (tree : SearchTree S) : List ℕ := tree.dfsStack.map DfsFrame.nodeIndex

theorem nodeIndex_noteChildOutcome (dfsFrame : DfsFrame) (outcome : SmbSearchNodeOutcome)
    (blockReason : SmbDfsClosedLossBlockReason) :
    (noteChildOutcome dfsFrame outcome blockReason).nodeIndex = dfsFrame.nodeIndex := by
  rw [noteChildOutcome]
  split <;> rfl

theorem stackIndices_noteTop (outcome : SmbSearchNodeOutcome)
    (blockReason : SmbDfsClosedLossBlockReason) :
    (tree.noteTop outcome blockReason).stackIndices = tree.stackIndices := by
  rw [stackIndices, stackIndices, noteTop]
  cases tree.dfsStack with
  | nil => rfl
  | cons dfsFrame rest =>
      simp [nodeIndex_noteChildOutcome]

theorem stackIndices_backtrack (dfsFrame : DfsFrame) (rest : List DfsFrame) :
    (tree.backtrack dfsFrame rest).stackIndices = rest.map DfsFrame.nodeIndex :=
  stackIndices_noteTop _ _ _

theorem stackIndices_advance {tree : SearchTree S} {dfsFrame : DfsFrame} {rest : List DfsFrame}
    (stack : tree.dfsStack = dfsFrame :: rest) :
    (tree.advance dfsFrame rest).stackIndices = tree.stackIndices := by
  rw [stackIndices, stackIndices, stack]
  rfl

section

variable (childIndex : ℕ) (outcome : SmbSearchNodeOutcome)
  (blockReason : SmbDfsClosedLossBlockReason)
include childIndex outcome blockReason

theorem prune_eq :
    ∃ table shapeTable, tree.prune childIndex outcome blockReason =
      { (((tree.setOutcome childIndex outcome blockReason).noteTop outcome
          blockReason).releaseNodeHeavyData childIndex) with
        closedLossTranspositionTable := table
        closedLossTranspositionShapeTable := shapeTable } := by
  simp only [prune]
  split <;> exact ⟨_, _, rfl⟩

theorem stackIndices_prune :
    (tree.prune childIndex outcome blockReason).stackIndices = tree.stackIndices := by
  obtain ⟨_, _, same⟩ := tree.prune_eq childIndex outcome blockReason
  rw [same]
  exact stackIndices_noteTop (tree.setOutcome childIndex outcome blockReason) outcome blockReason

theorem nodes_prune :
    (tree.prune childIndex outcome blockReason).nodes =
      (tree.releaseNodeHeavyData childIndex).nodes := by
  obtain ⟨_, _, same⟩ := tree.prune_eq childIndex outcome blockReason
  rw [same]
  rfl

theorem dfsStack_prune :
    (tree.prune childIndex outcome blockReason).dfsStack =
      (tree.noteTop outcome blockReason).dfsStack := by
  obtain ⟨_, _, same⟩ := tree.prune_eq childIndex outcome blockReason
  rw [same]
  rfl

theorem nodeOutcomes_prune :
    (tree.prune childIndex outcome blockReason).nodeOutcomes =
      tree.nodeOutcomes.set childIndex outcome := by
  obtain ⟨_, _, same⟩ := tree.prune_eq childIndex outcome blockReason
  rw [same]
  rfl

end

theorem treeOf_releaseNodeHeavyData (nodeIndex : ℕ) :
    treeOf (tree.releaseNodeHeavyData nodeIndex).nodes = treeOf tree.nodes := by
  refine List.ext_getElem? ?_
  intro i
  simp only [treeOf, releaseNodeHeavyData, List.getElem?_map, List.getElem?_modify]
  cases tree.nodes[i]? with
  | none => rfl
  | some node =>
      simp only [Option.map_some]
      split <;> rfl

end

end SearchTree

end DirtSim
