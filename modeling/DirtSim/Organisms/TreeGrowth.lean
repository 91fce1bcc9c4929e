import DirtSim.Organisms.Tree

/-! # What growth respects

A growth command is validated twice, and both times it is not asked who else owns the target. Growth
respects the other owners where supported commands find a free target
(`Forest.respectsOwners_of_reachable`).
-/

namespace DirtSim

open Foundation

variable {K : Type}

def TreeCommand.support : TreeCommand K → List Material
  | .growWood _ _ => [.seed, .wood]
  | .growLeaf _ _ => [.wood]
  | .growRoot _ _ => [.root, .seed]
  | .wait | .cancel | .produceSeed _ _ => []

variable [Field K] [LinearOrder K]

namespace Tree

def due (tree : Tree K) (deltaTime : K) : Option (TreeCommand K) :=
  if tree.timeRemainingSeconds - deltaTime ≤ 0 then tree.currentCommand else none

/-- The two local shapes of a tree are one, without repetitions. -/
structure ShapesAgree (tree : Tree K) : Prop where
  distinct : (tree.body.localShape.map LocalCell.localPos).Nodup
  same : tree.body.rigidBody.projection.localShape = tree.body.localShape

def Reserved (tree : Tree K) : Prop :=
  ∀ cmd ∈ tree.currentCommand, cmd.getEnergyCost > 0 →
    tree.hasReservedEnergy = true ∧ tree.reservedEnergy = cmd.getEnergyCost ∧
      tree.reservedCommandType = cmd.getCommandType

omit [LinearOrder K] in
theorem ShapesAgree.addCell {tree : Tree K} (shapes : tree.ShapesAgree) {localPos : Vector2i}
    (fresh : localPos ∉ tree.body.localShape.map LocalCell.localPos) (material : Material)
    (fillRatio : K) : (tree.addCellToLocalShape localPos material fillRatio).ShapesAgree where
  distinct := by
    simp only [addCellToLocalShape, List.map_append, List.map_cons, List.map_nil]
    rw [List.nodup_append]
    refine ⟨shapes.distinct, List.nodup_singleton _, ?_⟩
    intro earlier listed later added same
    rw [List.mem_singleton.mp added] at same
    exact fresh (same ▸ listed)
  same := by
    simp [addCellToLocalShape, RigidBodyComponent.addCell, LocalShapeProjection.addCell,
      shapes.same]

end Tree

namespace Forest

variable [Coordinate K]

def pruned (forest : Forest K) (id : OrganismId) : Forest K :=
  { forest with world := pruneDisconnectedCells forest.world id }

/-- The growth that the next update of a tree executes. -/
structure Grows (forest : Forest K) (id : OrganismId) (deltaTime : K) (tree : Tree K)
    (cmd : TreeCommand K) (target : Vector2i) : Prop where
  found : forest.trees.lookup id = some tree
  due : tree.due deltaTime = some cmd
  growth : ∃ material, cmd.growth = some (target, material)

def Supported (world : OrganismWorld K) (id : OrganismId) (cmd : TreeCommand K)
    (target : Vector2i) : Prop :=
  world.InBounds target ∧ hasOwnedNeighborWithMaterial world id target cmd.support = true

/-- A supported growth finds the tree's own cell, or one of nobody that is not a wall and where
the tree's shape has no cell. -/
def FreeGrowth (forest : Forest K) (id : OrganismId) (tree : Tree K) (cmd : TreeCommand K)
    (target : Vector2i) : Prop :=
  Supported (forest.pruned id).world id cmd target →
    (forest.pruned id).world.ownerAt target = id ∨
      (forest.pruned id).world.ownerAt target = invalidOrganismId ∧
        ((forest.pruned id).world.cellAt target).materialType ≠ .wall ∧
          target - (forest.pruned id).getAnchorCell id ∉
            tree.body.localShape.map LocalCell.localPos

def GrowsFree (forest : Forest K) : Event K → Prop
  | .update id deltaTime _ _ => ∀ tree cmd target, forest.Grows id deltaTime tree cmd target →
      forest.FreeGrowth id tree cmd target
  | .createTree .. | .removed _ | .elsewhere _ => True

/-- A tree's command timer after a time step, as its update runs it. -/
def ticked (forest : Forest K) (id : OrganismId) (tree : Tree K) (deltaTime : K) :
    Tree K × Forest K :=
  (forest.pruned id).tickCommand id { tree with ageSeconds := tree.ageSeconds + deltaTime } deltaTime

/-- The growth that the next update of a tree executes takes no cell of another organism and no
wall; if its target is taken, it is rejected and its energy refunded up to the cap. -/
structure RespectsOwners (forest : Forest K) (id : OrganismId) (deltaTime : K) (tree : Tree K)
    (cmd : TreeCommand K) (target : Vector2i) : Prop where
  free : (forest.ticked id tree deltaTime).1.lastCommandAccepted = true →
    (∀ other ≠ id, other ≠ invalidOrganismId → (forest.pruned id).world.ownerAt target ≠ other) ∧
      ((forest.pruned id).world.cellAt target).materialType ≠ .wall
  refunded : (forest.pruned id).world.ownerAt target ≠ invalidOrganismId →
    (forest.ticked id tree deltaTime).1.lastCommandAccepted = false ∧
      (forest.ticked id tree deltaTime).1.totalEnergy =
        min (tree.totalEnergy + cmd.getEnergyCost) Tree.kEnergyCap ∧
      (forest.ticked id tree deltaTime).1.reservedEnergy = 0

section

/-! ## One execution -/

variable {forest : Forest K} {id : OrganismId} {tree : Tree K} {cmd : TreeCommand K}
  {target : Vector2i} {material : Material}
variable {deltaTime : K}

section

omit [Coordinate K]

theorem succeeded_validateGrowth {world : OrganismWorld K} {energyCost : K} {texts : GrowthTexts}
    {allowedMaterials : List Material} :
    (validateGrowth tree world id false energyCost texts allowedMaterials target).succeeded = true ↔
      world.InBounds target ∧ world.ownerAt target ≠ id ∧
        hasOwnedNeighborWithMaterial world id target allowedMaterials = true := by
  unfold validateGrowth
  by_cases inside : world.InBounds target
  · by_cases own : world.ownerAt target = id
    · simp [inside, own, CommandExecutionResult.succeeded]
    · by_cases beside : hasOwnedNeighborWithMaterial world id target allowedMaterials = true
      · simp [inside, own, beside, CommandExecutionResult.succeeded]
      · simp [inside, own, beside, CommandExecutionResult.succeeded]
  · simp [inside, CommandExecutionResult.succeeded]

theorem succeeded_treeCommandValidate (tree : Tree K) (world : OrganismWorld K) (id : OrganismId)
    (growth : cmd.growth = some (target, material)) :
    (treeCommandValidate tree world id cmd false).succeeded = true ↔
      world.ownerAt target ≠ id ∧ Supported world id cmd target := by
  have reorder : ∀ {first second third : Prop},
      first ∧ second ∧ third ↔ second ∧ first ∧ third := by
    intro first second third
    exact and_left_comm
  cases cmd with
  | wait => cases growth
  | cancel => cases growth
  | growWood targetPos time =>
      cases growth
      exact succeeded_validateGrowth.trans reorder
  | growLeaf targetPos time =>
      cases growth
      exact succeeded_validateGrowth.trans reorder
  | growRoot targetPos time =>
      cases growth
      exact succeeded_validateGrowth.trans reorder
  | produceSeed position time => cases growth

end

theorem execute_growth (forest : Forest K) (id : OrganismId) (tree : Tree K)
    (growth : cmd.growth = some (target, material)) :
    ((forest.execute id tree cmd).1.succeeded = false ∧
        (forest.execute id tree cmd).2 = (tree, forest)) ∨
      ((forest.execute id tree cmd).1.succeeded = true ∧
        forest.world.ownerAt target ≠ id ∧ Supported forest.world id cmd target ∧
        (forest.execute id tree cmd).2 = forest.executeGrowth id tree target material) := by
  have asked := succeeded_treeCommandValidate tree forest.world id growth
  unfold execute
  by_cases valid : (treeCommandValidate tree forest.world id cmd false).succeeded = true
  · obtain ⟨foreign, supported⟩ := asked.mp valid
    by_cases refused : cmd.getEnergyCost > 0 ∧
        ¬ tree.isEnergyReservedForCommand cmd cmd.getEnergyCost = true
    · left
      simp only [valid, refused, not_true_eq_false, ↓reduceIte]
      exact ⟨rfl, rfl⟩
    · right
      simp only [valid, refused, not_true_eq_false, ↓reduceIte]
      cases cmd with
      | wait => cases growth
      | cancel => cases growth
      | growWood targetPos time =>
          cases growth
          exact ⟨rfl, foreign, supported, rfl⟩
      | growLeaf targetPos time =>
          cases growth
          exact ⟨rfl, foreign, supported, rfl⟩
      | growRoot targetPos time =>
          cases growth
          exact ⟨rfl, foreign, supported, rfl⟩
      | produceSeed position time => cases growth
  · left
    simp [valid]

omit [Coordinate K] in
theorem started_of_due (due : tree.due deltaTime = some cmd) : cmd ∈ tree.currentCommand := by
  unfold Tree.due at due
  split at due
  · exact due
  · cases due

theorem ticked_of_due (due : tree.due deltaTime = some cmd) :
    forest.ticked id tree deltaTime =
      let ready := { tree with
        ageSeconds := tree.ageSeconds + deltaTime
        timeRemainingSeconds := tree.timeRemainingSeconds - deltaTime }
      ({ ((forest.pruned id).executeCommand id ready cmd).1 with currentCommand := none },
        ((forest.pruned id).executeCommand id ready cmd).2) := by
  unfold Tree.due at due
  by_cases run : tree.timeRemainingSeconds - deltaTime ≤ 0
  · rw [if_pos run] at due
    simp [ticked, tickCommand, due, run]
  · rw [if_neg run] at due
    cases due

theorem ticked_of_not_due (forest : Forest K) (id : OrganismId) (idle : tree.due deltaTime = none) :
    ∃ remaining, forest.ticked id tree deltaTime =
      ({ tree with
          ageSeconds := tree.ageSeconds + deltaTime
          timeRemainingSeconds := remaining }, forest.pruned id) := by
  unfold Tree.due at idle
  by_cases run : tree.timeRemainingSeconds - deltaTime ≤ 0
  · rw [if_pos run] at idle
    refine ⟨tree.timeRemainingSeconds, ?_⟩
    simp [ticked, tickCommand, idle]
  · cases running : tree.currentCommand with
    | none =>
        refine ⟨tree.timeRemainingSeconds, ?_⟩
        simp [ticked, tickCommand, running]
    | some cmd =>
        refine ⟨tree.timeRemainingSeconds - deltaTime, ?_⟩
        simp [ticked, tickCommand, running, run]

section

omit [Coordinate K]

theorem refund_of_reserved {tree : Tree K} (reserved : tree.hasReservedEnergy = true)
    (cost : tree.reservedEnergy = cmd.getEnergyCost) (positive : cmd.getEnergyCost > 0) :
    tree.refund = min (tree.totalEnergy + cmd.getEnergyCost) Tree.kEnergyCap := by
  unfold Tree.refund
  rw [if_pos ⟨reserved, cost ▸ positive⟩, cost]

theorem energyCost_pos_of_growth [IsStrictOrderedRing K]
    (growth : cmd.growth = some (target, material)) : cmd.getEnergyCost > 0 := by
  cases cmd with
  | wait => cases growth
  | cancel => cases growth
  | growWood targetPos time => simp [TreeCommand.getEnergyCost]
  | growLeaf targetPos time => simp [TreeCommand.getEnergyCost]
  | growRoot targetPos time => simp [TreeCommand.getEnergyCost]
  | produceSeed position time => cases growth

end

theorem ticked_growth [IsStrictOrderedRing K] (grows : forest.Grows id deltaTime tree cmd target)
    (reserved : tree.Reserved) :
    ((forest.ticked id tree deltaTime).1.lastCommandAccepted = false ∧
        (forest.ticked id tree deltaTime).1.totalEnergy =
          min (tree.totalEnergy + cmd.getEnergyCost) Tree.kEnergyCap ∧
        (forest.ticked id tree deltaTime).1.reservedEnergy = 0 ∧
        (forest.ticked id tree deltaTime).1.body = tree.body ∧
        (forest.ticked id tree deltaTime).2.trees = forest.trees) ∨
      ((forest.ticked id tree deltaTime).1.lastCommandAccepted = true ∧
        (forest.pruned id).world.ownerAt target ≠ id ∧
        Supported (forest.pruned id).world id cmd target ∧
        (∃ material, (forest.ticked id tree deltaTime).1.body = (tree.addCellToLocalShape
          (target - (forest.pruned id).getAnchorCell id) material 1).body) ∧
        (forest.ticked id tree deltaTime).2.trees = forest.trees) := by
  obtain ⟨material, growth⟩ := grows.growth
  have started := started_of_due grows.due
  obtain ⟨kept, cost, _⟩ := reserved cmd started (energyCost_pos_of_growth growth)
  rw [ticked_of_due grows.due]
  set ready : Tree K := { tree with
    ageSeconds := tree.ageSeconds + deltaTime
    timeRemainingSeconds := tree.timeRemainingSeconds - deltaTime } with ready_def
  rcases execute_growth (forest.pruned id) id ready growth with
    ⟨refused, unchanged⟩ | ⟨accepted, foreign, supported, grown⟩
  · left
    simp only [executeCommand, refused, unchanged, Bool.false_eq_true, ↓reduceIte, true_and]
    exact ⟨refund_of_reserved kept cost (energyCost_pos_of_growth growth), rfl, rfl⟩
  · right
    simp only [executeCommand, accepted, grown, ↓reduceIte, true_and]
    exact ⟨foreign, supported, ⟨material, rfl⟩, rfl⟩

theorem accepted_of_supported [IsStrictOrderedRing K]
    (grows : forest.Grows id deltaTime tree cmd target) (reserved : tree.Reserved)
    (foreign : (forest.pruned id).world.ownerAt target ≠ id)
    (supported : Supported (forest.pruned id).world id cmd target) :
    (forest.ticked id tree deltaTime).1.lastCommandAccepted = true := by
  obtain ⟨material, growth⟩ := grows.growth
  obtain ⟨kept, cost, type⟩ :=
    reserved cmd (started_of_due grows.due) (energyCost_pos_of_growth growth)
  rw [ticked_of_due grows.due]
  set ready : Tree K := { tree with
    ageSeconds := tree.ageSeconds + deltaTime
    timeRemainingSeconds := tree.timeRemainingSeconds - deltaTime } with ready_def
  have valid := (succeeded_treeCommandValidate ready (forest.pruned id).world id growth).mpr ⟨foreign, supported⟩
  have aside : ready.isEnergyReservedForCommand cmd cmd.getEnergyCost = true := by
    simp [Tree.isEnergyReservedForCommand, ready_def, kept, cost, type,
      not_le.mpr (energyCost_pos_of_growth growth)]
  rcases execute_growth (forest.pruned id) id ready growth with
    ⟨refused, _⟩ | ⟨accepted, _⟩
  · simp only [execute, valid, aside, not_true_eq_false, and_false, ↓reduceIte] at refused
    cases cmd with
    | wait => cases growth
    | cancel => cases growth
    | growWood targetPos time => exact absurd (show true = false from refused) Bool.noConfusion
    | growLeaf targetPos time => exact absurd (show true = false from refused) Bool.noConfusion
    | growRoot targetPos time => exact absurd (show true = false from refused) Bool.noConfusion
    | produceSeed position time => cases growth
  · simp [executeCommand, accepted]

/-- **A free growth respects the other owners.** -/
theorem FreeGrowth.respectsOwners [IsStrictOrderedRing K]
    (free : forest.FreeGrowth id tree cmd target)
    (grows : forest.Grows id deltaTime tree cmd target) (reserved : tree.Reserved) :
    forest.RespectsOwners id deltaTime tree cmd target := by
  rcases ticked_growth grows reserved with
    ⟨rejected, refunded, spent, _⟩ | ⟨accepted, foreign, supported, _⟩
  · refine ⟨fun accepted => ?_, fun _ => ⟨rejected, refunded, spent⟩⟩
    rw [rejected] at accepted
    cases accepted
  · rcases free supported with own | ⟨vacant, notWall, _⟩
    · exact absurd own foreign
    · refine ⟨fun _ => ⟨fun other _ named owned => ?_, notWall⟩, fun taken => absurd vacant taken⟩
      exact named (owned.symm.trans vacant)

/-- The growth of a cell is free exactly when it respects the owners and keeps the shapes of the
tree in agreement. -/
theorem freeGrowth_iff [IsStrictOrderedRing K] (grows : forest.Grows id deltaTime tree cmd target)
    (reserved : tree.Reserved) (shapes : tree.ShapesAgree) :
    forest.FreeGrowth id tree cmd target ↔
      forest.RespectsOwners id deltaTime tree cmd target ∧
        (forest.ticked id tree deltaTime).1.ShapesAgree := by
  constructor
  · intro free
    refine ⟨free.respectsOwners grows reserved, ?_⟩
    rcases ticked_growth grows reserved with
      ⟨_, _, _, body, _⟩ | ⟨_, foreign, supported, ⟨material, body⟩, _⟩
    · exact ⟨by rw [body]; exact shapes.distinct, by rw [body]; exact shapes.same⟩
    · have fresh := ((free supported).resolve_left foreign).2.2
      have grown := shapes.addCell fresh material 1
      exact ⟨by rw [body]; exact grown.distinct, by rw [body]; exact grown.same⟩
  · rintro ⟨respects, after⟩ supported
    by_cases own : (forest.pruned id).world.ownerAt target = id
    · exact Or.inl own
    · right
      have accepted := accepted_of_supported grows reserved own supported
      obtain ⟨others, notWall⟩ := respects.free accepted
      refine ⟨?_, notWall, ?_⟩
      · by_contra named
        exact others _ own named rfl
      · rcases ticked_growth grows reserved with
          ⟨rejected, _⟩ | ⟨_, _, _, ⟨material, body⟩, _⟩
        · rw [rejected] at accepted
          cases accepted
        · have distinct := after.distinct
          rw [body] at distinct
          simp only [Tree.addCellToLocalShape, List.map_append, List.map_cons, List.map_nil]
            at distinct
          exact fun listed => (List.nodup_append.mp distinct).2.2 _ listed _
            (List.mem_singleton_self _) rfl

end

end Forest

namespace Tree

variable {tree : Tree K}

/-- What every tree keeps in every run. -/
structure Sound (tree : Tree K) : Prop where
  shapes : tree.ShapesAgree
  reserved : tree.Reserved

theorem Sound.of_eq {before after : Tree K} (sound : before.Sound)
    (body : after.body.localShape = before.body.localShape)
    (projection : after.body.rigidBody.projection.localShape =
      before.body.rigidBody.projection.localShape)
    (command : after.currentCommand = before.currentCommand)
    (has : after.hasReservedEnergy = before.hasReservedEnergy)
    (energy : after.reservedEnergy = before.reservedEnergy)
    (type : after.reservedCommandType = before.reservedCommandType) : after.Sound where
  shapes := by
    refine ⟨?_, ?_⟩
    · rw [body]
      exact sound.shapes.distinct
    · rw [body, projection]
      exact sound.shapes.same
  reserved := by
    intro cmd started positive
    rw [has, energy, type]
    exact sound.reserved cmd (command ▸ started) positive

theorem sound_new [Coordinate K] (startingEnergy : K) (seedParentId : OrganismId)
    (hasBrain : Bool) : (Tree.new startingEnergy seedParentId hasBrain).Sound where
  shapes := ⟨List.nodup_singleton _, rfl⟩
  reserved := fun _ started => absurd started (Option.not_mem_none _)

theorem Sound.updateResources [Coordinate K] (sound : tree.Sound) (world : OrganismWorld K)
    (cells : Finset Vector2i) (light : Option (Vector2i → K)) (deltaTime : K) :
    (tree.updateResources world cells light deltaTime).Sound := by
  unfold Tree.updateResources
  split
  · exact sound
  · exact sound.of_eq rfl rfl rfl rfl rfl rfl

theorem Sound.start (sound : tree.Sound) (cmd : TreeCommand K) : (tree.start cmd).Sound where
  shapes := ⟨sound.shapes.distinct, sound.shapes.same⟩
  reserved := by
    intro started member positive
    cases member
    simp [Tree.start, positive]

theorem Sound.cancelCurrent (sound : tree.Sound) : tree.cancelCurrent.Sound := by
  unfold Tree.cancelCurrent
  cases running : tree.currentCommand with
  | none => exact sound.of_eq rfl rfl running.symm rfl rfl rfl
  | some cmd =>
      refine ⟨?_, fun _ started => absurd started (Option.not_mem_none _)⟩
      dsimp only
      split
      · exact ⟨sound.shapes.distinct, sound.shapes.same⟩
      · exact ⟨sound.shapes.distinct, sound.shapes.same⟩

theorem Sound.proposeCommand (sound : tree.Sound) (world : OrganismWorld K) (id : OrganismId)
    (cmd : TreeCommand K) : (tree.proposeCommand world id cmd).Sound := by
  unfold Tree.proposeCommand
  split
  · exact sound
  · split
    · exact sound.of_eq rfl rfl rfl rfl rfl rfl
    · split
      · exact sound.of_eq rfl rfl rfl rfl rfl rfl
      · exact sound.start cmd

theorem Sound.processBrainDecision (sound : tree.Sound) (world : OrganismWorld K) (id : OrganismId)
    (decision : TreeCommand K) : (tree.processBrainDecision world id decision).Sound := by
  have asked : ({ tree with hasLastCommandResult := false } : Tree K).Sound :=
    sound.of_eq rfl rfl rfl rfl rfl rfl
  unfold Tree.processBrainDecision
  split
  · exact sound
  · cases decision with
    | wait => exact asked
    | cancel => exact asked.cancelCurrent
    | growWood targetPos time => exact asked.proposeCommand world id _
    | growLeaf targetPos time => exact asked.proposeCommand world id _
    | growRoot targetPos time => exact asked.proposeCommand world id _
    | produceSeed position time => exact asked.proposeCommand world id _

end Tree

namespace Forest

section

/-! ## Runs -/

variable [IsStrictOrderedRing K] [Coordinate K] [Analytic K] {forest after : Forest K}
variable {id : OrganismId}

def Sound (forest : Forest K) : Prop :=
  ∀ id tree, forest.trees.lookup id = some tree → tree.Sound

omit [IsStrictOrderedRing K] [Analytic K] in
theorem Sound.createTree (sound : forest.Sound) (pos : Vector2i) (startingEnergy : K)
    (seedParentId : OrganismId) (hasBrain : Bool) :
    (forest.createTree pos startingEnergy seedParentId hasBrain).Sound := by
  intro id tree found
  simp only [Forest.createTree, Dict.emplace] at found
  split at found
  · exact sound id tree found
  · rw [Dict.lookup_insert] at found
    split at found
    · cases found
      exact Tree.sound_new startingEnergy seedParentId hasBrain
    · exact sound id tree found

omit [IsStrictOrderedRing K] [Coordinate K] [Analytic K] in
theorem Sound.setTree (sound : forest.Sound) (id : OrganismId) {tree : Tree K}
    (replaced : tree.Sound) : (forest.setTree id tree).Sound := by
  intro other tree' found
  rw [Forest.setTree, Dict.lookup_insert] at found
  split at found
  · cases found
    exact replaced
  · exact sound other tree' found

omit [IsStrictOrderedRing K] [Analytic K] in
theorem execute_other (sound : forest.Sound) (id : OrganismId) (tree : Tree K)
    {cmd : TreeCommand K} (other : cmd.growth = none) :
    (forest.execute id tree cmd).2.1.body = tree.body ∧
      (forest.execute id tree cmd).2.2.Sound := by
  unfold execute
  dsimp only
  split
  · exact ⟨rfl, sound⟩
  · split
    · exact ⟨rfl, sound⟩
    · cases cmd with
      | wait => exact ⟨rfl, sound⟩
      | cancel => exact ⟨rfl, sound⟩
      | growWood targetPos time => cases other
      | growLeaf targetPos time => cases other
      | growRoot targetPos time => cases other
      | produceSeed position time => exact ⟨rfl, sound.createTree position 0 id false⟩

omit [Analytic K] in
theorem Sound.ticked (sound : forest.Sound) {tree : Tree K} {deltaTime : K}
    {light : Option (Vector2i → K)} {decision : TreeCommand K}
    (found : forest.trees.lookup id = some tree)
    (free : forest.GrowsFree (.update id deltaTime light decision)) :
    (forest.ticked id tree deltaTime).1.Sound ∧ (forest.ticked id tree deltaTime).2.Sound := by
  have sound_tree := sound id tree found
  cases due : tree.due deltaTime with
  | none =>
      obtain ⟨remaining, unchanged⟩ := ticked_of_not_due forest id due
      rw [unchanged]
      exact ⟨sound_tree.of_eq rfl rfl rfl rfl rfl rfl, sound⟩
  | some cmd =>
      have finished : (forest.ticked id tree deltaTime).1.Reserved := by
        rw [ticked_of_due due]
        exact fun _ started => absurd started (Option.not_mem_none _)
      cases growth : cmd.growth with
      | none =>
          rw [ticked_of_due due] at finished ⊢
          have pruned_sound : (forest.pruned id).Sound := sound
          obtain ⟨body, planted⟩ := execute_other pruned_sound id
            { tree with
              ageSeconds := tree.ageSeconds + deltaTime
              timeRemainingSeconds := tree.timeRemainingSeconds - deltaTime } growth
          refine ⟨⟨⟨?_, ?_⟩, finished⟩, planted⟩
          · simp only [executeCommand, body]
            exact sound_tree.shapes.distinct
          · simp only [executeCommand, body]
            exact sound_tree.shapes.same
      | some grown =>
          obtain ⟨target, material⟩ := grown
          have grows : forest.Grows id deltaTime tree cmd target := ⟨found, due, material, growth⟩
          have respected := (freeGrowth_iff grows sound_tree.reserved sound_tree.shapes).mp
            (free tree cmd target grows)
          have kept : (forest.ticked id tree deltaTime).2.trees = forest.trees := by
            rcases ticked_growth grows sound_tree.reserved with
              ⟨_, _, _, _, kept⟩ | ⟨_, _, _, _, kept⟩
            · exact kept
            · exact kept
          exact ⟨⟨respected.2, finished⟩, fun other tree' found' => sound other tree' (kept ▸ found')⟩

section

omit [IsStrictOrderedRing K]

theorem localShape_update {component : RigidBodyComponent K}
    {position velocity externalForce : Vector2 K} {mass deltaTime verticalMargin : K}
    {shape : List (LocalCell K)} {world : OrganismWorld K} {result : RigidBodyUpdate K}
    (updated : component.update id position velocity mass shape world deltaTime externalForce
      verticalMargin = some result) :
    result.component.projection.localShape = component.projection.localShape := by
  simp only [RigidBodyComponent.update, Option.map_eq_some_iff] at updated
  obtain ⟨⟨projection, world'⟩, projected, rfl⟩ := updated
  simp only [LocalShapeProjection.project, Option.map_eq_some_iff] at projected
  obtain ⟨painted, _, same⟩ := projected
  exact (congrArg (·.1.localShape) same).symm

theorem Sound.updateBody (sound : forest.Sound) {tree moved : Tree K} {deltaTime : K}
    (sound_tree : tree.Sound) (updated : forest.updateBody id tree deltaTime = some (moved, after)) :
    moved.Sound ∧ after.Sound := by
  simp only [Forest.updateBody, Option.bind_eq_bind, Option.bind_eq_some_iff, Option.pure_def,
    Option.some.injEq, Prod.mk.injEq] at updated
  obtain ⟨body, _, result, returned, rfl, rfl⟩ := updated
  exact ⟨sound_tree.of_eq rfl (localShape_update returned) rfl rfl rfl rfl, sound⟩

end

/-- **One event** whose growth is free keeps every tree sound. -/
theorem Sound.apply (sound : forest.Sound) {event : Event K} (free : forest.GrowsFree event)
    (applied : forest.apply event = some after) : after.Sound := by
  cases event with
  | createTree pos startingEnergy seedParentId hasBrain =>
      cases applied
      exact sound.createTree pos startingEnergy seedParentId hasBrain
  | removed id =>
      cases applied
      intro other tree found
      rw [Dict.lookup_erase] at found
      split at found
      · cases found
      · exact sound other tree found
  | elsewhere world =>
      cases applied
      exact sound
  | update id deltaTime light decision =>
      simp only [Forest.apply, updateTree, Option.bind_eq_bind, Option.bind_eq_some_iff,
        Option.pure_def, Option.some.injEq] at applied
      obtain ⟨tree, found, ⟨moved, stepped⟩, updated, rfl⟩ := applied
      obtain ⟨sound_tree, ticked⟩ := sound.ticked found free
      obtain ⟨sound_moved, kept⟩ := ticked.updateBody sound_tree updated
      refine kept.setTree id (Tree.Sound.processBrainDecision ?_ stepped.world id decision)
      exact (sound_moved.updateResources stepped.world _ light deltaTime).of_eq rfl rfl rfl rfl rfl rfl

/-- **Growth respects the other owners** in every run whose supported growths are free: both local
shapes of every tree are the same list of distinct positions, and the growth that any free update
executes next takes no cell of another organism and no wall, and is rejected with its energy
refunded when its target is taken. -/
theorem respectsOwners_of_reachable
    (reached : ((machine K).guarded GrowsFree).Reachable forest) :
    (∀ id tree, forest.trees.lookup id = some tree → tree.ShapesAgree) ∧
      ∀ id deltaTime light decision, forest.GrowsFree (.update id deltaTime light decision) →
        ∀ tree cmd target, forest.Grows id deltaTime tree cmd target →
          forest.RespectsOwners id deltaTime tree cmd target := by
  have sound : forest.Sound := by
    refine reached.invariant ?_ ?_
    · intro start empty id tree found
      have none_there : start.trees = ∅ := empty
      rw [none_there] at found
      cases found
    · rintro before event after sound ⟨applied, free⟩
      exact sound.apply free applied
  refine ⟨fun id tree found => (sound id tree found).shapes, ?_⟩
  intro id deltaTime light decision free tree cmd target grows
  exact (free tree cmd target grows).respectsOwners grows (sound id tree grows.found).reserved

end

section

/-! ## Two trees side by side -/

/-- Square roots of square fractions; the runs below take the root of zero only. -/
@[reducible] def squareRoots : Analytic ℚ where
  sqrt x := (Nat.sqrt x.num.toNat : ℚ) / Nat.sqrt x.den
  sin x := x
  cos _ := 1
  atan2 y _ := y
  pi := 22 / 7

def clearing : Forest ℚ where
  world := {
    data := {
      toGrid := Grid.generate 2 1 fun _ _ => Cell.blank
      width_pos := by decide, height_pos := by decide
      width_le := by decide, height_le := by decide }
    organismManager := OrganismManager.resizeGrid {} 2 1
    gravity := 0
    airResistanceStrength := 1 / 10 }
  trees := ∅

/-- The first tree decides to grow wood where the second one stands. -/
def neighbours : List (Event ℚ) :=
  [.createTree ⟨0, 0⟩ 50 0 true, .createTree ⟨1, 0⟩ 50 0 false,
    .update 1 0 none (.growWood ⟨1, 0⟩ 3)]

def applyAll [Coordinate K] [Analytic K] (forest : Forest K) : List (Event K) → Option (Forest K)
  | [] => some forest
  | event :: events => (forest.apply event).bind fun next => next.applyAll events

theorem run_of_applyAll [Coordinate K] [Analytic K] {before after : Forest K}
    {events : List (Event K)} (applied : before.applyAll events = some after) :
    (machine K).Run before events after := by
  induction events generalizing before with
  | nil =>
      obtain rfl := Option.some.inj applied
      exact .nil before
  | cons event events ih =>
      obtain ⟨next, first, rest⟩ := Option.bind_eq_some_iff.mp applied
      exact .cons first (ih rest)

theorem neighbours_outcome :
    ((@applyAll ℚ _ _ _ squareRoots clearing neighbours).bind fun forest =>
      (forest.trees.lookup 1).map fun tree =>
        (tree.due 3, (forest.ticked 1 tree 3).1.lastCommandAccepted,
          (forest.pruned 1).world.ownerAt ⟨1, 0⟩)) =
      some (some (.growWood ⟨1, 0⟩ 3), true, 2) := by
  decide +kernel

/-- The growth of the first tree takes the second one's cell. -/
theorem not_respectsOwners :
    ¬ ∀ forest : Forest ℚ, (@machine ℚ _ _ _ squareRoots).Reachable forest →
      (∀ id tree, forest.trees.lookup id = some tree → tree.ShapesAgree) ∧
        ∀ id deltaTime tree cmd target, forest.Grows id deltaTime tree cmd target →
          forest.RespectsOwners id deltaTime tree cmd target := by
  intro all
  obtain ⟨forest, applied, outcome⟩ := Option.bind_eq_some_iff.mp neighbours_outcome
  obtain ⟨tree, found, facts⟩ := Option.map_eq_some_iff.mp outcome
  obtain ⟨due, rest⟩ := Prod.mk.inj facts
  obtain ⟨accepted, owned⟩ := Prod.mk.inj rest
  have reached : (@machine ℚ _ _ _ squareRoots).Reachable forest :=
    ⟨clearing, neighbours, rfl, @run_of_applyAll ℚ _ _ _ squareRoots _ _ _ applied⟩
  have respects := (all forest reached).2 1 3 tree (.growWood ⟨1, 0⟩ 3) ⟨1, 0⟩
    ⟨found, due, .wood, rfl⟩
  exact (respects.free accepted).1 2 (by decide) (by decide) owned

/-- A tree alone decides to grow wood on the other cell. -/
def seedling : List (Event ℚ) :=
  [.createTree ⟨0, 0⟩ 50 0 true, .update 1 0 none (.growWood ⟨1, 0⟩ 3)]

theorem seedling_outcome :
    ((@applyAll ℚ _ _ _ squareRoots clearing seedling).bind fun forest =>
      (forest.trees.lookup 1).map fun tree =>
        (tree.due 3, (forest.pruned 1).world.ownerAt ⟨1, 0⟩,
          ((forest.pruned 1).world.cellAt ⟨1, 0⟩).materialType,
          ⟨1, 0⟩ - (forest.pruned 1).getAnchorCell 1,
          tree.body.localShape.map LocalCell.localPos)) =
      some (some (.growWood ⟨1, 0⟩ 3), 0, .air, ⟨1, 0⟩, [⟨0, 0⟩]) := by
  decide +kernel

theorem respectsOwners_seedling : ∃ (forest : Forest ℚ) (tree : Tree ℚ),
    ((@machine ℚ _ _ _ squareRoots).guarded GrowsFree).Reachable forest ∧
      forest.Grows 1 3 tree (.growWood ⟨1, 0⟩ 3) ⟨1, 0⟩ ∧ tree.ShapesAgree ∧
      forest.RespectsOwners 1 3 tree (.growWood ⟨1, 0⟩ 3) ⟨1, 0⟩ := by
  obtain ⟨forest, applied, outcome⟩ := Option.bind_eq_some_iff.mp seedling_outcome
  obtain ⟨tree, found, facts⟩ := Option.map_eq_some_iff.mp outcome
  simp only [Prod.mk.injEq] at facts
  obtain ⟨due, vacant, air, localPos, shape⟩ := facts
  obtain ⟨planted, first, rest⟩ := Option.bind_eq_some_iff.mp applied
  obtain ⟨decided, second, last⟩ := Option.bind_eq_some_iff.mp rest
  obtain rfl := Option.some.inj last
  have idle : planted.GrowsFree (.update 1 0 none (.growWood ⟨1, 0⟩ 3)) := by
    intro tree' cmd target grows
    obtain rfl := Option.some.inj first
    have new_tree : (clearing.createTree ⟨0, 0⟩ 50 0 true).trees.lookup 1 =
        some (Tree.new 50 0 true) := rfl
    obtain rfl := Option.some.inj (new_tree.symm.trans grows.found)
    have none_due : (Tree.new 50 0 true : Tree ℚ).due 0 = none := by decide +kernel
    exact absurd (none_due.symm.trans grows.due) (Option.some_ne_none cmd).symm
  have reached : ((@machine ℚ _ _ _ squareRoots).guarded GrowsFree).Reachable decided :=
    ⟨clearing, seedling, rfl, .cons ⟨first, trivial⟩ (.cons ⟨second, idle⟩ (.nil _))⟩
  have free : decided.GrowsFree (.update 1 3 none .wait) := by
    intro tree' cmd target grows _
    obtain rfl := Option.some.inj (found.symm.trans grows.found)
    obtain rfl := Option.some.inj (due.symm.trans grows.due)
    obtain ⟨material, growth⟩ := grows.growth
    cases growth
    refine Or.inr ⟨vacant, ?_, ?_⟩
    · rw [air]
      decide
    · rw [localPos, shape]
      decide
  have grows : decided.Grows 1 3 tree (.growWood ⟨1, 0⟩ 3) ⟨1, 0⟩ := ⟨found, due, .wood, rfl⟩
  obtain ⟨agree, respects⟩ := @respectsOwners_of_reachable ℚ _ _ _ _ squareRoots _ reached
  exact ⟨decided, tree, reached, grows, agree 1 tree found,
    respects 1 3 none .wait free tree _ _ grows⟩

end

end Forest

end DirtSim
