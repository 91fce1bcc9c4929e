import DirtSim.Organisms.TreeGrowth

/-! # The energy of a tree

A tree puts the energy of a command aside when it starts it, and gets it back when the command is
refused or cancelled, up to the cap (`Tree.Balanced`). Every command costs its price or nothing
(`Forest.accounted_of_reachable`).
-/

namespace DirtSim

open Foundation

variable {K : Type}

namespace Tree

/-- The fields of a tree that its commands are paid from. -/
structure Purse (K : Type) where
  totalEnergy : K
  totalWater : K
  reservedEnergy : K
  hasReservedEnergy : Bool
  reservedCommandType : TreeCommandType
  currentCommand : Option (TreeCommand K)

def purse (tree : Tree K) : Purse K where
  totalEnergy := tree.totalEnergy
  totalWater := tree.totalWater
  reservedEnergy := tree.reservedEnergy
  hasReservedEnergy := tree.hasReservedEnergy
  reservedCommandType := tree.reservedCommandType
  currentCommand := tree.currentCommand

variable [Field K] [LinearOrder K]

def wealth (tree : Tree K) : K :=
  tree.totalEnergy + if tree.hasReservedEnergy then tree.reservedEnergy else 0

/-- What every tree keeps in every run. -/
structure Balanced (tree : Tree K) : Prop where
  energy_nonneg : 0 ≤ tree.totalEnergy
  energy_le : tree.totalEnergy ≤ kEnergyCap
  water_nonneg : 0 ≤ tree.totalWater
  water_le : tree.totalWater ≤ kWaterCapacity
  reserved_iff : tree.hasReservedEnergy = true ↔
    ∃ cmd ∈ tree.currentCommand, cmd.getEnergyCost > 0
  reserved : tree.Reserved

/-- What a decision does to the energy of a tree: the price of a command is put aside when it is
started, comes back up to the cap when it is cancelled, and nothing else changes. -/
structure Decides (before after : Tree K) : Prop where
  started : ∀ cmd, before.currentCommand = none → after.currentCommand = some cmd →
    cmd.getEnergyCost ≤ before.totalEnergy ∧
      after.totalEnergy = before.totalEnergy - cmd.getEnergyCost ∧ after.wealth = before.wealth
  cancelled : ∀ cmd, before.currentCommand = some cmd → after.currentCommand = none →
    after.totalEnergy = min (before.totalEnergy + cmd.getEnergyCost) kEnergyCap ∧
      after.wealth = min before.wealth kEnergyCap
  other : after.currentCommand = before.currentCommand →
    after.totalEnergy = before.totalEnergy ∧ after.wealth = before.wealth
  one_at_a_time : ∀ cmd, before.currentCommand = some cmd →
    after.currentCommand = none ∨ after.currentCommand = some cmd

section

/-! ## One tree -/

variable {tree before after : Tree K}
variable {cmd : TreeCommand K}

theorem Balanced.of_purse (balanced : before.Balanced) (same : after.purse = before.purse) :
    after.Balanced := by
  obtain ⟨energy, water, reservedEnergy, has, type, command⟩ := Purse.mk.inj same
  exact {
    energy_nonneg := energy ▸ balanced.energy_nonneg
    energy_le := energy ▸ balanced.energy_le
    water_nonneg := water ▸ balanced.water_nonneg
    water_le := water ▸ balanced.water_le
    reserved_iff := by
      rw [has, command]
      exact balanced.reserved_iff
    reserved := by
      intro cmd started positive
      rw [has, reservedEnergy, type]
      exact balanced.reserved cmd (command ▸ started) positive }

omit [LinearOrder K] in
theorem wealth_of_purse (same : after.purse = before.purse) : after.wealth = before.wealth := by
  obtain ⟨energy, _, reservedEnergy, has, _, _⟩ := Purse.mk.inj same
  simp [wealth, energy, reservedEnergy, has]

theorem refund_of_purse (same : after.purse = before.purse) : after.refund = before.refund := by
  obtain ⟨energy, _, reservedEnergy, has, _, _⟩ := Purse.mk.inj same
  simp [refund, energy, reservedEnergy, has]

theorem Balanced.wealth_of_running (balanced : tree.Balanced)
    (running : tree.currentCommand = some cmd) (free : 0 ≤ cmd.getEnergyCost) :
    tree.wealth = tree.totalEnergy + cmd.getEnergyCost := by
  rcases free.lt_or_eq with positive | zero
  · obtain ⟨has, price, _⟩ := balanced.reserved cmd running positive
    simp [wealth, has, price]
  · have none_aside : tree.hasReservedEnergy ≠ true := by
      intro has
      obtain ⟨other, started, positive⟩ := balanced.reserved_iff.mp has
      obtain rfl := Option.some.inj (running.symm.trans started)
      exact positive.ne zero
    simp only [wealth, none_aside, zero.symm]
    rfl

theorem Balanced.wealth_of_idle (balanced : tree.Balanced) (idle : tree.currentCommand = none) :
    tree.hasReservedEnergy = false ∧ tree.wealth = tree.totalEnergy := by
  have none_aside : tree.hasReservedEnergy = false := by
    rw [Bool.eq_false_iff]
    intro has
    obtain ⟨cmd, started, _⟩ := balanced.reserved_iff.mp has
    rw [idle] at started
    cases started
  simp [wealth, none_aside]

theorem Balanced.refund_eq (balanced : tree.Balanced) :
    tree.refund = min tree.wealth kEnergyCap := by
  cases has : tree.hasReservedEnergy with
  | false =>
      have whole : min tree.totalEnergy kEnergyCap = tree.totalEnergy :=
        min_eq_left balanced.energy_le
      simp [refund, wealth, has, whole]
  | true =>
      obtain ⟨cmd, started, positive⟩ := balanced.reserved_iff.mp has
      obtain ⟨_, price, _⟩ := balanced.reserved cmd started positive
      rw [Forest.refund_of_reserved has price positive]
      simp [wealth, has, price]

variable [IsStrictOrderedRing K]

theorem getEnergyCost_nonneg (cmd : TreeCommand K) : 0 ≤ cmd.getEnergyCost := by
  cases cmd with
  | wait => exact le_refl 0
  | cancel => exact le_refl 0
  | growWood targetPos time => exact Nat.ofNat_nonneg 10
  | growLeaf targetPos time => exact Nat.ofNat_nonneg 8
  | growRoot targetPos time => exact Nat.ofNat_nonneg 12
  | produceSeed position time => exact Nat.ofNat_nonneg 50

theorem Balanced.wealth_nonneg (balanced : tree.Balanced) : 0 ≤ tree.wealth := by
  cases running : tree.currentCommand with
  | none =>
      rw [(balanced.wealth_of_idle running).2]
      exact balanced.energy_nonneg
  | some cmd =>
      rw [balanced.wealth_of_running running (getEnergyCost_nonneg cmd)]
      exact add_nonneg balanced.energy_nonneg (getEnergyCost_nonneg cmd)

theorem balanced_new [Coordinate K] {startingEnergy : K} (nonneg : 0 ≤ startingEnergy)
    (le : startingEnergy ≤ kEnergyCap) (seedParentId : OrganismId) (hasBrain : Bool) :
    (Tree.new startingEnergy seedParentId hasBrain).Balanced where
  energy_nonneg := nonneg
  energy_le := le
  water_nonneg := le_refl 0
  water_le := Nat.ofNat_nonneg 120
  reserved_iff := by
    constructor
    · intro has
      cases has
    · intro ⟨cmd, started, _⟩
      cases started
  reserved := fun _ started => absurd started (Option.not_mem_none _)

omit [IsStrictOrderedRing K] in
theorem Balanced.settle (balanced : before.Balanced) (nonneg : 0 ≤ after.totalEnergy)
    (le : after.totalEnergy ≤ kEnergyCap) (water : after.totalWater = before.totalWater)
    (idle : after.currentCommand = none) (has : after.hasReservedEnergy = false) :
    after.Balanced where
  energy_nonneg := nonneg
  energy_le := le
  water_nonneg := water ▸ balanced.water_nonneg
  water_le := water ▸ balanced.water_le
  reserved_iff := by
    constructor
    · intro some_aside
      rw [has] at some_aside
      cases some_aside
    · intro ⟨cmd, started, _⟩
      rw [idle] at started
      cases started
  reserved := by
    intro cmd started _
    rw [idle] at started
    cases started

theorem Balanced.refund_bounds (balanced : tree.Balanced) :
    0 ≤ tree.refund ∧ tree.refund ≤ kEnergyCap := by
  rw [balanced.refund_eq]
  have capped : (0 : K) ≤ kEnergyCap := balanced.energy_nonneg.trans balanced.energy_le
  exact ⟨le_min balanced.wealth_nonneg capped, min_le_right _ _⟩

omit [Field K] [IsStrictOrderedRing K] in
theorem clamp_bounds {low high : K} (le : low ≤ high) (value : K) :
    low ≤ min (max value low) high ∧ min (max value low) high ≤ high :=
  ⟨le_min (le_max_right _ _) le, min_le_right _ _⟩

section

omit [IsStrictOrderedRing K]

theorem Balanced.updateResources [Coordinate K] (balanced : tree.Balanced)
    (world : OrganismWorld K) (cells : Finset Vector2i) (light : Option (Vector2i → K))
    (deltaTime : K) : (tree.updateResources world cells light deltaTime).Balanced := by
  have energy_cap : (0 : K) ≤ kEnergyCap := balanced.energy_nonneg.trans balanced.energy_le
  have water_cap : (0 : K) ≤ kWaterCapacity := balanced.water_nonneg.trans balanced.water_le
  unfold Tree.updateResources
  split
  · exact balanced
  · exact {
      energy_nonneg := (clamp_bounds energy_cap _).1
      energy_le := (clamp_bounds energy_cap _).2
      water_nonneg := (clamp_bounds water_cap _).1
      water_le := (clamp_bounds water_cap _).2
      reserved_iff := balanced.reserved_iff
      reserved := balanced.reserved }

theorem purse_updateResources [Coordinate K] (tree : Tree K) (world : OrganismWorld K)
    (cells : Finset Vector2i) (light : Option (Vector2i → K)) (deltaTime : K) :
    (tree.updateResources world cells light deltaTime).purse =
      { tree.purse with
        totalEnergy := (tree.updateResources world cells light deltaTime).totalEnergy
        totalWater := (tree.updateResources world cells light deltaTime).totalWater } := by
  unfold Tree.updateResources
  split
  · rfl
  · rfl

end

theorem Balanced.start (balanced : tree.Balanced) (payable : cmd.getEnergyCost ≤ tree.totalEnergy) :
    (tree.start cmd).Balanced ∧
      (tree.start cmd).totalEnergy = tree.totalEnergy - cmd.getEnergyCost := by
  have nonneg : 0 ≤ tree.totalEnergy - cmd.getEnergyCost := sub_nonneg.mpr payable
  have price : (tree.start cmd).totalEnergy = tree.totalEnergy - cmd.getEnergyCost := by
    rcases (getEnergyCost_nonneg cmd).lt_or_eq with positive | zero
    · simp [Tree.start, positive, max_eq_right nonneg]
    · simp [Tree.start, ← zero]
  refine ⟨?_, price⟩
  exact {
    energy_nonneg := price ▸ nonneg
    energy_le := by
      rw [price]
      exact (sub_le_self _ (getEnergyCost_nonneg cmd)).trans balanced.energy_le
    water_nonneg := balanced.water_nonneg
    water_le := balanced.water_le
    reserved_iff := by
      simp only [Tree.start, decide_eq_true_eq]
      constructor
      · intro positive
        exact ⟨cmd, rfl, positive⟩
      · intro running
        obtain ⟨other, started, positive⟩ := running
        cases started
        exact positive
    reserved := by
      intro other started positive
      cases started
      simp only [Tree.start, positive, decide_true, ↓reduceIte, and_self] }

section

omit [IsStrictOrderedRing K]

theorem Decides.of_purse {middle : Tree K} (decides : Decides middle after)
    (same : middle.purse = before.purse) : Decides before after := by
  obtain ⟨energy, _, _, _, _, command⟩ := Purse.mk.inj same
  refine ⟨?_, ?_, ?_, ?_⟩
  · rw [← energy, ← command, ← wealth_of_purse same]
    exact decides.started
  · rw [← energy, ← command, ← wealth_of_purse same]
    exact decides.cancelled
  · rw [← energy, ← command, ← wealth_of_purse same]
    exact decides.other
  · rw [← command]
    exact decides.one_at_a_time

theorem decides_of_purse (same : after.purse = before.purse) : Decides before after := by
  obtain ⟨energy, _, _, _, _, command⟩ := Purse.mk.inj same
  refine ⟨?_, ?_, fun _ => ⟨energy, wealth_of_purse same⟩, ?_⟩
  · intro cmd idle running
    rw [command, idle] at running
    cases running
  · intro cmd running idle
    rw [command, running] at idle
    cases idle
  · intro cmd running
    exact Or.inr (command.trans running)

end

theorem Balanced.decides_start (balanced : tree.Balanced) (idle : tree.currentCommand = none)
    (payable : cmd.getEnergyCost ≤ tree.totalEnergy) : Decides tree (tree.start cmd) := by
  obtain ⟨started, price⟩ := balanced.start payable
  refine ⟨?_, ?_, ?_, ?_⟩
  · intro other _ running
    cases running
    refine ⟨payable, price, ?_⟩
    rw [started.wealth_of_running rfl (getEnergyCost_nonneg cmd), price, sub_add_cancel,
      (balanced.wealth_of_idle idle).2]
  · intro other running
    rw [idle] at running
    cases running
  · intro same
    rw [idle] at same
    cases same
  · intro other running
    rw [idle] at running
    cases running

theorem Balanced.cancelCurrent (balanced : tree.Balanced) :
    tree.cancelCurrent.Balanced ∧ Decides tree tree.cancelCurrent := by
  cases running : tree.currentCommand with
  | none =>
      have same : tree.cancelCurrent.purse = tree.purse := by
        simp [Tree.cancelCurrent, running, purse]
      exact ⟨balanced.of_purse same, decides_of_purse same⟩
  | some cmd =>
      have given_back : tree.cancelCurrent.totalEnergy = tree.refund ∧
          tree.cancelCurrent.totalWater = tree.totalWater ∧
          tree.cancelCurrent.currentCommand = none ∧
          tree.cancelCurrent.hasReservedEnergy = false := by
        simp only [Tree.cancelCurrent, running]
        cases has : tree.hasReservedEnergy with
        | false =>
            simp [refund, has]
        | true =>
            obtain ⟨other, started, positive⟩ := balanced.reserved_iff.mp has
            obtain ⟨_, price, _⟩ := balanced.reserved other started positive
            have kept : tree.reservedEnergy > 0 := price ▸ positive
            simp [kept]
      obtain ⟨energy, water, idle, has⟩ := given_back
      obtain ⟨nonneg, le⟩ := balanced.refund_bounds
      have settled : tree.cancelCurrent.Balanced :=
        balanced.settle (energy ▸ nonneg) (energy ▸ le) water idle has
      refine ⟨settled, ?_, ?_, ?_, ?_⟩
      · intro other none_running
        rw [running] at none_running
        cases none_running
      · intro other same _
        obtain rfl := Option.some.inj (running.symm.trans same)
        rw [(settled.wealth_of_idle idle).2, energy, balanced.refund_eq,
          balanced.wealth_of_running running (getEnergyCost_nonneg cmd)]
        exact ⟨rfl, rfl⟩
      · intro same
        rw [idle, running] at same
        cases same
      · intro other _
        exact Or.inl idle

theorem Balanced.proposeCommand (balanced : tree.Balanced) (world : OrganismWorld K)
    (id : OrganismId) (cmd : TreeCommand K) :
    (tree.proposeCommand world id cmd).Balanced ∧
      Decides tree (tree.proposeCommand world id cmd) := by
  have rejected : tree.reject.Balanced ∧ Decides tree tree.reject :=
    ⟨balanced.of_purse rfl, decides_of_purse rfl⟩
  unfold Tree.proposeCommand
  cases running : tree.currentCommand with
  | some current =>
      rw [if_pos Option.isSome_some]
      exact ⟨balanced, decides_of_purse rfl⟩
  | none =>
      rw [if_neg (by simp)]
      split
      · exact rejected
      · by_cases short : cmd.getEnergyCost > 0 ∧ tree.totalEnergy < cmd.getEnergyCost
        · rw [if_pos short]
          exact rejected
        · rw [if_neg short]
          have payable : cmd.getEnergyCost ≤ tree.totalEnergy := by
            by_contra dear
            have lacking := not_le.mp dear
            exact short ⟨balanced.energy_nonneg.trans_lt lacking, lacking⟩
          exact ⟨(balanced.start payable).1, balanced.decides_start running payable⟩

/-- **One decision** of the brain. -/
theorem Balanced.processBrainDecision (balanced : tree.Balanced) (world : OrganismWorld K)
    (id : OrganismId) (decision : TreeCommand K) :
    (tree.processBrainDecision world id decision).Balanced ∧
      Decides tree (tree.processBrainDecision world id decision) := by
  unfold Tree.processBrainDecision
  split
  · exact ⟨balanced, decides_of_purse rfl⟩
  · set asked : Tree K := { tree with hasLastCommandResult := false }
    have same : asked.purse = tree.purse := rfl
    have balanced_asked : asked.Balanced := balanced.of_purse same
    have proposed : (asked.proposeCommand world id decision).Balanced ∧
        Decides tree (asked.proposeCommand world id decision) := by
      obtain ⟨kept, decides⟩ := balanced_asked.proposeCommand world id decision
      exact ⟨kept, decides.of_purse same⟩
    cases decision with
    | wait => exact ⟨balanced_asked, decides_of_purse same⟩
    | cancel =>
        obtain ⟨kept, decides⟩ := balanced_asked.cancelCurrent
        exact ⟨kept, decides.of_purse same⟩
    | growWood targetPos time => exact proposed
    | growLeaf targetPos time => exact proposed
    | growRoot targetPos time => exact proposed
    | produceSeed position time => exact proposed

end

/-- A tree after the time of an update, as the execution of its command finds it. -/
def waited (tree : Tree K) (deltaTime : K) : Tree K :=
  { tree with
    ageSeconds := tree.ageSeconds + deltaTime
    timeRemainingSeconds := tree.timeRemainingSeconds - deltaTime }

end Tree

namespace Forest

variable [Field K] [LinearOrder K] [Coordinate K]

/-- What the command timer of an update does to the energy of a tree. The one result about energy
that an execution has is `Energy not reserved for command`; it does not occur. -/
structure Executes (forest : Forest K) (id : OrganismId) (deltaTime : K) (tree : Tree K) :
    Prop where
  never_lacking : ∀ cmd, tree.due deltaTime = some cmd →
    ((forest.pruned id).execute id (tree.waited deltaTime) cmd).1.result ≠ .insufficientEnergy
  accepted : ∀ cmd, tree.due deltaTime = some cmd →
    (forest.ticked id tree deltaTime).1.lastCommandAccepted = true →
      (forest.ticked id tree deltaTime).1.totalEnergy = tree.totalEnergy ∧
        (forest.ticked id tree deltaTime).1.wealth = tree.wealth - cmd.getEnergyCost
  refused : ∀ cmd, tree.due deltaTime = some cmd →
    (forest.ticked id tree deltaTime).1.lastCommandAccepted = false →
      (forest.ticked id tree deltaTime).1.totalEnergy =
          min (tree.totalEnergy + cmd.getEnergyCost) Tree.kEnergyCap ∧
        (forest.ticked id tree deltaTime).1.wealth = min tree.wealth Tree.kEnergyCap
  pending : tree.due deltaTime = none →
    (forest.ticked id tree deltaTime).1.totalEnergy = tree.totalEnergy ∧
      (forest.ticked id tree deltaTime).1.wealth = tree.wealth

def Balanced (forest : Forest K) : Prop :=
  ∀ id tree, forest.trees.lookup id = some tree → tree.Balanced

section

/-! ## One execution -/

variable {forest : Forest K} {id : OrganismId} {tree : Tree K} {cmd : TreeCommand K}

section

omit [Coordinate K]

theorem result_validateGrowth (tree : Tree K) (world : OrganismWorld K) (id : OrganismId)
    (energyCost : K) (texts : GrowthTexts) (allowedMaterials : List Material)
    (targetPos : Vector2i) :
    (validateGrowth tree world id false energyCost texts allowedMaterials targetPos).result ≠
      .insufficientEnergy := by
  unfold validateGrowth
  rw [if_neg (by simp)]
  split
  · exact CommandResult.noConfusion
  · split
    · exact CommandResult.noConfusion
    · split
      · exact CommandResult.noConfusion
      · exact CommandResult.noConfusion

theorem result_treeCommandValidate (tree : Tree K) (world : OrganismWorld K) (id : OrganismId)
    (cmd : TreeCommand K) :
    (treeCommandValidate tree world id cmd false).result ≠ .insufficientEnergy := by
  cases cmd with
  | wait => exact CommandResult.noConfusion
  | cancel => exact CommandResult.noConfusion
  | growWood targetPos time => exact result_validateGrowth tree world id _ _ _ _
  | growLeaf targetPos time => exact result_validateGrowth tree world id _ _ _ _
  | growRoot targetPos time => exact result_validateGrowth tree world id _ _ _ _
  | produceSeed position time =>
      simp only [treeCommandValidate, validateSeed, Bool.false_eq_true, false_and, ↓reduceIte]
      split
      · exact CommandResult.noConfusion
      · split
        · exact CommandResult.noConfusion
        · split
          · exact CommandResult.noConfusion
          · split
            · exact CommandResult.noConfusion
            · exact CommandResult.noConfusion

end

theorem Balanced.createTree [IsStrictOrderedRing K] (balanced : forest.Balanced) (pos : Vector2i)
    {startingEnergy : K} (nonneg : 0 ≤ startingEnergy) (le : startingEnergy ≤ Tree.kEnergyCap)
    (seedParentId : OrganismId) (hasBrain : Bool) :
    (forest.createTree pos startingEnergy seedParentId hasBrain).Balanced := by
  intro other found_tree found
  simp only [Forest.createTree, Dict.emplace] at found
  split at found
  · exact balanced other found_tree found
  · rw [Dict.lookup_insert] at found
    split at found
    · cases found
      exact Tree.balanced_new nonneg le seedParentId hasBrain
    · exact balanced other found_tree found

theorem purse_execute (forest : Forest K) (id : OrganismId) (tree : Tree K)
    (cmd : TreeCommand K) : (forest.execute id tree cmd).2.1.purse = tree.purse := by
  unfold execute
  dsimp only
  split
  · rfl
  · split
    · rfl
    · cases cmd with
      | wait => rfl
      | cancel => rfl
      | growWood targetPos time => rfl
      | growLeaf targetPos time => rfl
      | growRoot targetPos time => rfl
      | produceSeed position time => rfl

theorem Balanced.execute [IsStrictOrderedRing K] (balanced : forest.Balanced) (id : OrganismId)
    (tree : Tree K) (cmd : TreeCommand K) : (forest.execute id tree cmd).2.2.Balanced := by
  unfold Forest.execute
  dsimp only
  split
  · exact balanced
  · split
    · exact balanced
    · cases cmd with
      | wait => exact balanced
      | cancel => exact balanced
      | growWood targetPos time => exact balanced
      | growLeaf targetPos time => exact balanced
      | growRoot targetPos time => exact balanced
      | produceSeed position time =>
          exact balanced.createTree position (le_refl 0) (Nat.ofNat_nonneg 100) id false

theorem result_execute (forest : Forest K) (id : OrganismId) (tree : Tree K)
    (aside : cmd.getEnergyCost > 0 →
      tree.isEnergyReservedForCommand cmd cmd.getEnergyCost = true) :
    (forest.execute id tree cmd).1.result ≠ .insufficientEnergy := by
  unfold execute
  dsimp only
  split
  · exact result_treeCommandValidate tree forest.world id cmd
  · rw [if_neg fun ⟨positive, missing⟩ => missing (aside positive)]
    cases cmd with
    | wait => exact CommandResult.noConfusion
    | cancel => exact CommandResult.noConfusion
    | growWood targetPos time => exact CommandResult.noConfusion
    | growLeaf targetPos time => exact CommandResult.noConfusion
    | growRoot targetPos time => exact CommandResult.noConfusion
    | produceSeed position time => exact CommandResult.noConfusion

theorem ticked_due (forest : Forest K) (id : OrganismId) {deltaTime : K}
    (due : tree.due deltaTime = some cmd) :
    let execution := (forest.pruned id).execute id (tree.waited deltaTime) cmd
    (forest.ticked id tree deltaTime).1.lastCommandAccepted = execution.1.succeeded ∧
      (forest.ticked id tree deltaTime).1.totalEnergy =
        (if execution.1.succeeded then tree.totalEnergy else tree.refund) ∧
      (forest.ticked id tree deltaTime).1.totalWater = tree.totalWater ∧
      (forest.ticked id tree deltaTime).1.currentCommand = none ∧
      (forest.ticked id tree deltaTime).1.hasReservedEnergy = false ∧
      (forest.ticked id tree deltaTime).2 = execution.2.2 := by
  intro execution
  have same : execution.2.1.purse = tree.purse :=
    purse_execute (forest.pruned id) id (tree.waited deltaTime) cmd
  obtain ⟨energy, water, _, _, _, _⟩ := Tree.Purse.mk.inj same
  rw [ticked_of_due due]
  refine ⟨rfl, ?_, water, rfl, rfl, rfl⟩
  change (if execution.1.succeeded = true then execution.2.1.totalEnergy
    else execution.2.1.refund) = _
  rw [show execution.2.1.totalEnergy = tree.totalEnergy from energy, Tree.refund_of_purse same]

variable [IsStrictOrderedRing K]

theorem executes_of_balanced (forest : Forest K) (id : OrganismId) (deltaTime : K)
    (balanced : tree.Balanced) : forest.Executes id deltaTime tree where
  never_lacking := by
    intro cmd due
    apply result_execute
    intro positive
    obtain ⟨has, price, type⟩ := balanced.reserved cmd (started_of_due due) positive
    simp [Tree.isEnergyReservedForCommand, Tree.waited, has, price, type, not_le.mpr positive]
  accepted := by
    intro cmd due accepted
    obtain ⟨outcome, energy, _, idle, has, _⟩ := ticked_due forest id due
    rw [← outcome, accepted, if_pos rfl] at energy
    refine ⟨energy, ?_⟩
    rw [balanced.wealth_of_running (started_of_due due) (Tree.getEnergyCost_nonneg cmd)]
    simp [Tree.wealth, has, energy]
  refused := by
    intro cmd due refused
    obtain ⟨outcome, energy, _, idle, has, _⟩ := ticked_due forest id due
    rw [← outcome, refused, if_neg Bool.false_ne_true, balanced.refund_eq] at energy
    have worth := balanced.wealth_of_running (started_of_due due) (Tree.getEnergyCost_nonneg cmd)
    refine ⟨worth ▸ energy, ?_⟩
    simp [Tree.wealth, has, energy]
  pending := by
    intro idle
    obtain ⟨remaining, unchanged⟩ := ticked_of_not_due forest id idle
    rw [unchanged]
    exact ⟨rfl, rfl⟩

theorem Balanced.ticked (balanced : forest.Balanced)
    (found : forest.trees.lookup id = some tree) (deltaTime : K) :
    (forest.ticked id tree deltaTime).1.Balanced ∧
      (forest.ticked id tree deltaTime).2.Balanced := by
  have balanced_tree := balanced id tree found
  have pruned : (forest.pruned id).Balanced := balanced
  cases due : tree.due deltaTime with
  | none =>
      obtain ⟨remaining, unchanged⟩ := ticked_of_not_due forest id due
      rw [unchanged]
      exact ⟨balanced_tree.of_purse rfl, pruned⟩
  | some cmd =>
      obtain ⟨_, energy, water, idle, has, planted⟩ := ticked_due forest id due
      refine ⟨?_, ?_⟩
      · apply balanced_tree.settle _ _ water idle has
        · rw [energy]
          split
          · exact balanced_tree.energy_nonneg
          · exact balanced_tree.refund_bounds.1
        · rw [energy]
          split
          · exact balanced_tree.energy_le
          · exact balanced_tree.refund_bounds.2
      · rw [planted]
        exact pruned.execute id _ cmd

end

section

/-! ## Runs -/

variable [Analytic K]

/-- A tree as its brain finds it in an update, and the world around it. -/
def brainFinds (forest : Forest K) (id : OrganismId) (tree : Tree K) (deltaTime : K)
    (light : Option (Vector2i → K)) : Option (Tree K × Forest K) := do
  let ticked := forest.ticked id tree deltaTime
  let (moved, forest) ← ticked.2.updateBody id ticked.1 deltaTime
  let fed := moved.updateResources forest.world (cells forest.world id) light deltaTime
  return ({ fed with stage := fed.computeDynamicStage }, forest)

/-- Trees are planted with some energy up to the cap. -/
def StartsCharged : Forest K → Event K → Prop
  | _, .createTree _ startingEnergy _ _ =>
      0 ≤ startingEnergy ∧ startingEnergy ≤ Tree.kEnergyCap
  | _, .update .. | _, .removed _ | _, .elsewhere _ => True

variable {forest after : Forest K} {id : OrganismId} {tree : Tree K}

theorem updateTree_eq (found : forest.trees.lookup id = some tree) (deltaTime : K)
    (light : Option (Vector2i → K)) (decision : TreeCommand K) :
    forest.updateTree id deltaTime light decision =
      (forest.brainFinds id tree deltaTime light).map fun (asked, stepped) =>
        stepped.setTree id (asked.processBrainDecision stepped.world id decision) := by
  simp only [updateTree, brainFinds, found, Option.bind_eq_bind, Option.bind_some,
    Option.map_bind]
  rfl

variable [IsStrictOrderedRing K]

/-- Between the command timer and the brain, the body takes no energy and resources are clamped;
what was put aside stays. -/
theorem Balanced.brainFinds (balanced : forest.Balanced)
    (found : forest.trees.lookup id = some tree) {deltaTime : K}
    {light : Option (Vector2i → K)} {asked : Tree K} {stepped : Forest K}
    (finds : forest.brainFinds id tree deltaTime light = some (asked, stepped)) :
    asked.Balanced ∧ stepped.Balanced ∧
      asked.purse = { (forest.ticked id tree deltaTime).1.purse with
        totalEnergy := asked.totalEnergy, totalWater := asked.totalWater } := by
  obtain ⟨balanced_tree, kept⟩ := balanced.ticked found deltaTime
  simp only [Forest.brainFinds, Forest.updateBody, Option.bind_eq_bind, Option.bind_eq_some_iff,
    Option.pure_def, Option.some.injEq, Prod.mk.injEq] at finds
  obtain ⟨moved, ⟨body, _, result, _, rfl⟩, rfl, rfl⟩ := finds
  refine ⟨?_, kept, ?_⟩
  · have moved_balanced : ({ (forest.ticked id tree deltaTime).1 with
        body := RigidWorld.syncOrganism (forest.ticked id tree deltaTime).1.body
          (forest.ticked id tree deltaTime).1.body.mass result } : Tree K).Balanced :=
      balanced_tree.of_purse rfl
    exact (moved_balanced.updateResources _ _ light deltaTime).of_purse rfl
  · exact Tree.purse_updateResources _ _ _ light deltaTime

/-- **One event** keeps every tree balanced. -/
theorem Balanced.apply (balanced : forest.Balanced) {event : Event K}
    (charged : forest.StartsCharged event) (applied : forest.apply event = some after) :
    after.Balanced := by
  cases event with
  | createTree pos startingEnergy seedParentId hasBrain =>
      cases applied
      exact balanced.createTree pos charged.1 charged.2 seedParentId hasBrain
  | removed id =>
      cases applied
      intro other tree found
      rw [Dict.lookup_erase] at found
      split at found
      · cases found
      · exact balanced other tree found
  | elsewhere world =>
      cases applied
      exact balanced
  | update id deltaTime light decision =>
      have updated : forest.updateTree id deltaTime light decision = some after := applied
      cases found : forest.trees.lookup id with
      | none =>
          simp only [updateTree, found, Option.bind_eq_bind, Option.bind_none] at updated
          cases updated
      | some tree =>
          rw [updateTree_eq found] at updated
          obtain ⟨⟨asked, stepped⟩, finds, rfl⟩ := Option.map_eq_some_iff.mp updated
          obtain ⟨balanced_asked, kept, _⟩ := balanced.brainFinds found finds
          intro other tree' found'
          change (stepped.trees.insert id _).lookup other = some tree' at found'
          rw [Dict.lookup_insert] at found'
          split at found'
          · cases found'
            exact (balanced_asked.processBrainDecision stepped.world id decision).1
          · exact kept other tree' found'

/-- **Energy is accounted for exactly.** In every run whose trees start with energy up to the cap,
a tree's energy and water stay within their bounds and energy is put aside exactly for a command in
progress that has a price, of this amount and this type; no execution finds it missing; a command
that is accepted costs its price, and one that is refused or cancelled what the cap cuts off. -/
theorem accounted_of_reachable
    (reached : ((machine K).guarded StartsCharged).Reachable forest)
    (found : forest.trees.lookup id = some tree) :
    tree.Balanced ∧ ∀ deltaTime, forest.Executes id deltaTime tree ∧
      ∀ light asked stepped,
        forest.brainFinds id tree deltaTime light = some (asked, stepped) →
          asked.purse = { (forest.ticked id tree deltaTime).1.purse with
              totalEnergy := asked.totalEnergy, totalWater := asked.totalWater } ∧
            asked.Balanced ∧ ∀ decision,
              asked.Decides (asked.processBrainDecision stepped.world id decision) := by
  have balanced : forest.Balanced := by
    refine reached.invariant ?_ ?_
    · intro start empty id tree found
      have none_there : start.trees = ∅ := empty
      rw [none_there] at found
      cases found
    · intro before event after balanced ⟨applied, charged⟩
      exact balanced.apply charged applied
  have balanced_tree := balanced id tree found
  refine ⟨balanced_tree, fun deltaTime => ⟨?_, ?_⟩⟩
  · exact forest.executes_of_balanced id deltaTime balanced_tree
  · intro light asked stepped finds
    obtain ⟨balanced_asked, _, fed⟩ := balanced.brainFinds found finds
    refine ⟨fed, balanced_asked, fun decision => ?_⟩
    exact (balanced_asked.processBrainDecision stepped.world id decision).2

theorem accounted_seedling : ∃ (forest : Forest ℚ) (tree : Tree ℚ),
    ((@machine ℚ _ _ _ squareRoots).guarded StartsCharged).Reachable forest ∧
      forest.trees.lookup 1 = some tree ∧ tree.due 3 = some (.growWood ⟨1, 0⟩ 3) ∧
      tree.Balanced ∧ forest.Executes 1 3 tree := by
  obtain ⟨forest, applied, outcome⟩ := Option.bind_eq_some_iff.mp seedling_outcome
  obtain ⟨tree, found, facts⟩ := Option.map_eq_some_iff.mp outcome
  obtain ⟨due, _⟩ := Prod.mk.inj facts
  obtain ⟨planted, first, rest⟩ := Option.bind_eq_some_iff.mp applied
  obtain ⟨decided, second, last⟩ := Option.bind_eq_some_iff.mp rest
  obtain rfl := Option.some.inj last
  have charged : (0 : ℚ) ≤ 50 ∧ (50 : ℚ) ≤ Tree.kEnergyCap := by decide +kernel
  have reached : ((@machine ℚ _ _ _ squareRoots).guarded StartsCharged).Reachable decided :=
    ⟨clearing, seedling, rfl, .cons ⟨first, charged⟩ (.cons ⟨second, trivial⟩ (.nil _))⟩
  obtain ⟨balanced, updates⟩ := @accounted_of_reachable ℚ _ _ _ squareRoots _ _ _ _ reached found
  exact ⟨decided, tree, reached, found, due, balanced, (updates 3).1⟩

end

end Forest

end DirtSim
