import DirtSim.Core.UnitVector
import DirtSim.Foundation.TwoBodies
import DirtSim.Physics.CollisionResponse

/-! # Momentum and energy of colliding cells

What the handlers do to the momentum and the kinetic energy of the two cells they work on. A
collision only changes velocities along the direction of its move, so its energy is that of two
bodies on a line (`Foundation.TwoBodies`). A transfer merges bodies.
-/

namespace DirtSim

open Foundation TwoBodies

variable {K : Type*} {F : Type} [Field K] [LinearOrder K]

namespace Cell

def momentum (cell : Cell K) : Vector2 K := cell.velocity.times cell.getMass

def kineticEnergy (cell : Cell K) : K :=
  1 / 2 * cell.getMass * cell.velocity.dot cell.velocity

/-- Matter of which no trace is left, because the cell that holds it counts as empty. -/
def CutOff (cell : Cell K) (amount : K) : Prop :=
  0 ≤ amount ∧ amount < minFillThreshold ∧ (¬ cell.isEmpty → amount = 0)

/-- How much of the source a transfer pours into the target. -/
def poured (source target : Cell K) (amount : K) : K :=
  min (min amount source.fillRatio) target.getCapacity

/-- Material that reaches its own kind is heavy enough, together with what is there, to change the
velocity there. -/
def MergesHeavily (source target : Cell K) (amount : K) : Prop :=
  ¬ source.isEmpty → ¬ target.isEmpty → target.materialType = source.materialType →
    0 < poured source target amount →
    1 / 1000 < target.getMass + poured source target amount * source.materialType.getDensity

section

variable (cell : Cell K)

theorem kineticEnergy_eq :
    cell.kineticEnergy =
      kinetic cell.getMass cell.velocity.x + kinetic cell.getMass cell.velocity.y := by
  unfold kineticEnergy kinetic Vector2.dot
  ring

theorem SameMatter.getMass {first second : Cell K} (same : SameMatter first second) :
    second.getMass = first.getMass := by
  have material : first.materialType = second.materialType := same.1
  have fill : first.fillRatio = second.fillRatio := same.2
  rw [Cell.getMass, Cell.getMass, isEmpty, isEmpty, material, fill]

def redirected (cell : Cell K) (normal : Vector2 K) (along : K) : Cell K :=
  cell.withVelocity (cell.velocity - normal.times (cell.velocity.dot normal) + normal.times along)

omit [LinearOrder K] in
@[simp] theorem redirected_same (normal : Vector2 K) (along : K) :
    SameMatter cell (cell.redirected normal along) := ⟨rfl, rfl⟩

@[simp] theorem getMass_redirected (normal : Vector2 K) (along : K) :
    (cell.redirected normal along).getMass = cell.getMass := rfl

/-- **Energy along a direction.** What changes when only the speed in that direction does. -/
theorem kineticEnergy_redirected {normal : Vector2 K} (unit : normal.UnitLength) (cell : Cell K)
    (along : K) :
    (cell.redirected normal along).kineticEnergy =
      cell.kineticEnergy - kinetic cell.getMass (cell.velocity.dot normal) +
        kinetic cell.getMass along := by
  rw [kineticEnergy, kineticEnergy, getMass_redirected, redirected, withVelocity,
    Vector2.dot_recombined unit, kinetic, kinetic]
  ring

theorem momentum_redirected (normal : Vector2 K) (along : K) :
    (cell.redirected normal along).momentum =
      cell.momentum + normal.times (cell.getMass * (along - cell.velocity.dot normal)) := by
  rw [momentum, momentum, getMass_redirected, redirected, withVelocity]
  ext
  · simp only [Vector2.add_x, Vector2.sub_x, Vector2.times_x]
    ring
  · simp only [Vector2.add_y, Vector2.sub_y, Vector2.times_y]
    ring

variable [IsStrictOrderedRing K]

theorem getDensity_pos (material : Material) : (0 : K) < material.getDensity := by
  cases material <;> simp only [Material.getDensity, Material.getProperties] <;> norm_num

theorem getMass_nonneg : 0 ≤ cell.getMass := by
  unfold getMass
  split
  case isTrue empty => exact le_refl 0
  case isFalse filled =>
      have fill : minFillThreshold ≤ cell.fillRatio := not_isEmpty_iff.mp (by simpa using filled)
      exact mul_nonneg (minFillThreshold_pos.le.trans fill) (getDensity_pos _).le

omit [IsStrictOrderedRing K] in
theorem getMass_of_not_isEmpty {cell : Cell K} (filled : ¬ cell.isEmpty) :
    cell.getMass = cell.fillRatio * cell.materialType.getDensity := if_neg filled

theorem getMass_pos {cell : Cell K} (filled : ¬ cell.isEmpty) : 0 < cell.getMass := by
  rw [getMass_of_not_isEmpty filled]
  exact mul_pos (minFillThreshold_pos.trans_le (not_isEmpty_iff.mp filled)) (getDensity_pos _)

theorem kineticEnergy_nonneg : 0 ≤ cell.kineticEnergy := by
  rw [kineticEnergy_eq]
  exact add_nonneg (kinetic_nonneg (getMass_nonneg cell) _) (kinetic_nonneg (getMass_nonneg cell) _)

end

section

variable [IsStrictOrderedRing K]
variable {velocity : Vector2 K}

/-- A body of some matter that moves with some velocity, as a cell keeps it: what the cell cuts
off is missing. -/
structure Carries (cell : Cell K) (fill density : K) (velocity : Vector2 K) (cut : K) : Prop where
  cutOff : cell.CutOff cut
  mass : cell.getMass = (fill - cut) * density
  velocity : cell.getMass = 0 ∨ cell.velocity = velocity

omit [IsStrictOrderedRing K] in
theorem Carries.momentum {cell : Cell K} {fill density cut : K}
    (carries : cell.Carries fill density velocity cut) :
    cell.momentum + velocity.times (cut * density) = velocity.times (fill * density) := by
  have total : cell.momentum = velocity.times ((fill - cut) * density) := by
    rw [Cell.momentum, ← carries.mass]
    rcases carries.velocity with massless | same
    · rw [massless]
      ext
      · simp [Vector2.times_x, mul_zero]
      · simp [Vector2.times_y, mul_zero]
    · rw [same]
  rw [total]
  ext
  · simp only [Vector2.add_x, Vector2.times_x]
    ring
  · simp only [Vector2.add_y, Vector2.times_y]
    ring

theorem Carries.kineticEnergy_le {cell : Cell K} {fill density cut : K}
    (carries : cell.Carries fill density velocity cut) (positive : 0 < density) :
    cell.kineticEnergy ≤ 1 / 2 * (fill * density) * velocity.dot velocity := by
  have square : 0 ≤ velocity.dot velocity :=
    add_nonneg (mul_self_nonneg velocity.x) (mul_self_nonneg velocity.y)
  have total : cell.kineticEnergy = 1 / 2 * ((fill - cut) * density) * velocity.dot velocity := by
    rw [Cell.kineticEnergy, ← carries.mass]
    rcases carries.velocity with massless | same
    · rw [massless, mul_zero, zero_mul, zero_mul]
    · rw [same]
  rw [total]
  have lighter : (fill - cut) * density ≤ fill * density :=
    mul_le_mul_of_nonneg_right (sub_le_self fill carries.cutOff.1) positive.le
  exact mul_le_mul_of_nonneg_right (mul_le_mul_of_nonneg_left lighter (by positivity)) square

theorem removeMaterial_carries {source : Cell K} (filled : ¬ source.isEmpty) {amount : K}
    (positive : 0 < amount) (held : amount ≤ source.fillRatio) :
    ∃ cut, (source.removeMaterial amount).1.Carries (source.fillRatio - amount)
      source.materialType.getDensity source.velocity cut := by
  have all : min amount source.fillRatio = amount := min_eq_left held
  by_cases residue : source.fillRatio - amount < minFillThreshold
  · have cleared : (source.removeMaterial amount).1 = blank := by
      simp [removeMaterial, filled, positive.not_ge, all, residue]
    have empty : (blank : Cell K).isEmpty := isEmpty_iff.mpr minFillThreshold_pos
    have massless : (blank : Cell K).getMass = 0 := if_pos empty
    rw [cleared]
    refine ⟨source.fillRatio - amount,
      ⟨sub_nonneg.mpr held, residue, fun kept => absurd empty kept⟩, ?_, Or.inl massless⟩
    rw [massless, sub_self, zero_mul]
  · have kept : (source.removeMaterial amount).1 =
        { source with fillRatio := source.fillRatio - amount } := by
      simp [removeMaterial, filled, positive.not_ge, all, residue]
    rw [kept]
    refine ⟨0, ⟨le_refl 0, minFillThreshold_pos, fun _ => rfl⟩, ?_, Or.inr rfl⟩
    rw [sub_zero, getMass_of_not_isEmpty (not_isEmpty_iff.mpr (not_lt.mp residue))]

theorem overwritten_carries {cell : Cell K} (same : cell.velocity = velocity)
    (nonneg : 0 ≤ cell.fillRatio) :
    ∃ cut, cell.Carries cell.fillRatio cell.materialType.getDensity velocity cut := by
  by_cases empty : cell.isEmpty
  · refine ⟨cell.fillRatio, ⟨nonneg, isEmpty_iff.mp empty, fun kept => absurd empty kept⟩, ?_,
      Or.inr same⟩
    rw [getMass, if_pos empty, sub_self, zero_mul]
  · refine ⟨0, ⟨le_refl 0, minFillThreshold_pos, fun _ => rfl⟩, ?_, Or.inr same⟩
    rw [sub_zero, getMass_of_not_isEmpty empty]

/-- How a transfer pours material into an empty target or into the same material. -/
inductive Pours (source target : Cell K) (added : K) (received : Cell K) : Prop
  | overwrite (empty : target.isEmpty) (material : received.materialType = source.materialType)
      (fill : received.fillRatio = added) (velocity : received.velocity = source.velocity)
  | merge (filled : ¬ target.isEmpty) (same : target.materialType = source.materialType)
      (material : received.materialType = source.materialType)
      (fill : received.fillRatio = target.fillRatio + added)
      (velocity : 1 / 1000 < target.getMass + added * source.materialType.getDensity →
        received.velocity =
          (target.velocity.times target.getMass +
            source.velocity.times (added * source.materialType.getDensity)).divide
            (target.getMass + added * source.materialType.getDensity))

/-- **What a transfer does.** Nothing, or it takes from the source what it pours into the target. -/
theorem transfer_cases (source target : Cell K) (amount : K) (normal : Vector2 K)
    (below : source.fillRatio ≤ 1) :
    let result := source.transferToWithPhysics target amount normal
    (result.source = source ∧ result.target = target) ∨
      ∃ added, ¬ source.isEmpty ∧ 0 < added ∧ added ≤ source.fillRatio ∧
        (¬ target.isEmpty → added = poured source target amount) ∧
        result.source = (source.removeMaterial added).1 ∧ Pours source target added result.target := by
  intro result
  by_cases idle : source.isEmpty ∨ amount ≤ 0
  · refine Or.inl ?_
    simp [result, transferToWithPhysics, idle]
  obtain ⟨filled, positive⟩ := not_or.mp idle
  have held : 0 < source.fillRatio :=
    minFillThreshold_pos.trans_le (not_isEmpty_iff.mp filled)
  have offered : 0 < min amount source.fillRatio := lt_min (not_le.mp positive) held
  have most : min amount source.fillRatio ≤ source.fillRatio := min_le_right _ _
  by_cases empty : target.isEmpty
  · have all := min_eq_left (most.trans below)
    refine Or.inr ⟨min amount source.fillRatio, filled, offered, most, fun full => absurd empty full,
      ?_⟩
    simp only [result, transferToWithPhysics, idle, ↓reduceIte, addMaterialWithPhysics,
      offered.not_ge, empty, all, gt_iff_lt, offered, true_and]
    exact .overwrite empty rfl rfl rfl
  · by_cases other : target.materialType ≠ source.materialType
    · refine Or.inl ?_
      simp [result, transferToWithPhysics, idle, addMaterialWithPhysics, offered.not_ge, empty,
        other]
    · have same : target.materialType = source.materialType := not_not.mp other
      by_cases room : 0 < min (min amount source.fillRatio) target.getCapacity
      · refine Or.inr ⟨poured source target amount, filled, room, (min_le_left _ _).trans most,
          fun _ => rfl, ?_⟩
        simp only [result, transferToWithPhysics, idle, ↓reduceIte, addMaterialWithPhysics,
          offered.not_ge, empty, same, gt_iff_lt, room, Bool.false_eq_true, ne_eq,
          not_true_eq_false]
        refine ⟨rfl, .merge empty same ?_ ?_ fun heavy => ?_⟩
        · dsimp only
          split
          · rfl
          · exact same
        · rfl
        · dsimp only
          rw [poured] at heavy
          rw [if_pos heavy, poured]
      · refine Or.inl ?_
        simp [result, transferToWithPhysics, idle, addMaterialWithPhysics, offered.not_ge, empty,
          same, room]

theorem Pours.laws {source target received : Cell K} {added : K}
    (pours : Pours source target added received) (positive : 0 < added)
    (heavy : ¬ target.isEmpty → 1 / 1000 < target.getMass + added * source.materialType.getDensity) :
    (∃ cut, received.CutOff cut ∧
      received.momentum + source.velocity.times (cut * source.materialType.getDensity) =
        target.momentum + source.velocity.times (added * source.materialType.getDensity)) ∧
      received.kineticEnergy ≤ target.kineticEnergy +
        1 / 2 * (added * source.materialType.getDensity) * source.velocity.dot source.velocity := by
  have density : (0 : K) < source.materialType.getDensity := getDensity_pos _
  cases pours with
  | overwrite empty material fill velocity =>
      have massless : target.getMass = 0 := if_pos empty
      obtain ⟨cut, carries⟩ := overwritten_carries velocity (fill ▸ positive.le)
      rw [fill, material] at carries
      refine ⟨⟨cut, carries.cutOff, ?_⟩, ?_⟩
      · rw [carries.momentum, momentum, massless]
        ext
        · simp [Vector2.add_x, Vector2.times_x, mul_zero]
        · simp [Vector2.add_y, Vector2.times_y, mul_zero]
      · exact (carries.kineticEnergy_le density).trans
          (le_add_of_nonneg_left (kineticEnergy_nonneg target))
  | merge filled same material fill velocity =>
      have merged := velocity (heavy filled)
      have there : 0 < target.getMass := getMass_pos filled
      have poured : 0 < added * source.materialType.getDensity := mul_pos positive density
      have filled' : ¬ received.isEmpty := by
        rw [not_isEmpty_iff, fill]
        exact (not_isEmpty_iff.mp filled).trans (le_add_of_nonneg_right positive.le)
      have mass : received.getMass =
          target.getMass + added * source.materialType.getDensity := by
        rw [getMass_of_not_isEmpty filled', getMass_of_not_isEmpty filled, fill, material, same,
          add_mul]
      have total := (add_pos there poured).ne'
      refine ⟨⟨0, ⟨le_refl 0, minFillThreshold_pos, fun _ => rfl⟩, ?_⟩, ?_⟩
      · rw [momentum, momentum, mass, merged]
        ext
        · simp [Vector2.add_x, Vector2.times_x, Vector2.divide_x, zero_mul, mul_zero,
            div_mul_cancel₀ _ total]
        · simp [Vector2.add_y, Vector2.times_y, Vector2.divide_y, zero_mul, mul_zero,
            div_mul_cancel₀ _ total]
      · have along := @kinetic_merged_le _ _ _ _ _ _ target.velocity.x source.velocity.x there poured
        have across := @kinetic_merged_le _ _ _ _ _ _ target.velocity.y source.velocity.y there poured
        have came : 1 / 2 * (added * source.materialType.getDensity) *
            source.velocity.dot source.velocity =
              kinetic (added * source.materialType.getDensity) source.velocity.x +
                kinetic (added * source.materialType.getDensity) source.velocity.y := by
          unfold kinetic Vector2.dot
          ring
        rw [kineticEnergy_eq, kineticEnergy_eq, mass, merged, came]
        exact (add_le_add along across).trans (le_of_eq (add_add_add_comm _ _ _ _))

section

omit [IsStrictOrderedRing K]

theorem MergesHeavily.enough {source target received : Cell K} {amount added : K}
    (heavy : MergesHeavily source target amount) (filled : ¬ source.isEmpty) (positive : 0 < added)
    (all : ¬ target.isEmpty → added = poured source target amount)
    (pours : Pours source target added received) (full : ¬ target.isEmpty) :
    1 / 1000 < target.getMass + added * source.materialType.getDensity := by
  cases pours with
  | overwrite empty => exact absurd empty full
  | merge _ same =>
      rw [all full]
      exact heavy filled full same (all full ▸ positive)

theorem MergesHeavily.congr {source target source' target' : Cell K} {amount : K}
    (heavy : MergesHeavily source target amount) (sameSource : SameMatter source source')
    (sameTarget : SameMatter target target') : MergesHeavily source' target' amount := by
  have sourceMaterial : source.materialType = source'.materialType := sameSource.1
  have sourceFill : source.fillRatio = source'.fillRatio := sameSource.2
  have targetMaterial : target.materialType = target'.materialType := sameTarget.1
  have targetFill : target.fillRatio = target'.fillRatio := sameTarget.2
  unfold MergesHeavily at heavy ⊢
  simpa only [isEmpty, poured, getCapacity, sameTarget.getMass, sourceMaterial, sourceFill,
    targetMaterial, targetFill] using heavy

end

section

variable {source target : Cell K} {amount : K} (below : source.fillRatio ≤ 1)
  (heavy : MergesHeavily source target amount) (normal : Vector2 K)

include below heavy

/-- **A transfer keeps the momentum**, but for what it cuts off. -/
theorem transfer_momentum :
    let result := source.transferToWithPhysics target amount normal
    ∃ sourceCut targetCut, result.source.CutOff sourceCut ∧ result.target.CutOff targetCut ∧
      result.source.momentum + result.target.momentum +
          source.velocity.times ((sourceCut + targetCut) * source.materialType.getDensity) =
        source.momentum + target.momentum := by
  intro result
  have nothing (cell : Cell K) : cell.CutOff 0 := ⟨le_refl 0, minFillThreshold_pos, fun _ => rfl⟩
  rcases transfer_cases source target amount normal below with
    ⟨sameSource, sameTarget⟩ | ⟨added, filled, positive, held, all, left, pours⟩
  · refine ⟨0, 0, nothing _, nothing _, ?_⟩
    simp only [result, sameSource, sameTarget]
    ext
    · simp [Vector2.add_x, Vector2.times_x, zero_mul, mul_zero]
    · simp [Vector2.add_y, Vector2.times_y, zero_mul, mul_zero]
  · have enough := heavy.enough filled positive all pours
    obtain ⟨sourceCut, carries⟩ := removeMaterial_carries filled positive held
    obtain ⟨⟨targetCut, cutOff, received⟩, _⟩ := pours.laws positive enough
    rw [← left] at carries
    refine ⟨sourceCut, targetCut, carries.cutOff, cutOff, ?_⟩
    have stays := carries.momentum
    have whole : source.momentum =
        source.velocity.times (source.fillRatio * source.materialType.getDensity) := by
      rw [momentum, getMass_of_not_isEmpty filled]
    rw [whole]
    have staysX := congrArg Vector2.x stays
    have staysY := congrArg Vector2.y stays
    have receivedX := congrArg Vector2.x received
    have receivedY := congrArg Vector2.y received
    simp only [Vector2.add_x, Vector2.add_y, Vector2.times_x, Vector2.times_y] at *
    ext
    · simp only [Vector2.add_x, Vector2.times_x]
      linear_combination staysX + receivedX
    · simp only [Vector2.add_y, Vector2.times_y]
      linear_combination staysY + receivedY

/-- **A transfer adds no energy.** -/
theorem transfer_kineticEnergy_le :
    let result := source.transferToWithPhysics target amount normal
    result.source.kineticEnergy + result.target.kineticEnergy ≤
      source.kineticEnergy + target.kineticEnergy := by
  intro result
  rcases transfer_cases source target amount normal below with
    ⟨sameSource, sameTarget⟩ | ⟨added, filled, positive, held, all, left, pours⟩
  · simp [result, sameSource, sameTarget]
  · have enough := heavy.enough filled positive all pours
    obtain ⟨sourceCut, carries⟩ := removeMaterial_carries filled positive held
    rw [← left] at carries
    have stays := carries.kineticEnergy_le (getDensity_pos _)
    have received := (pours.laws positive enough).2
    have whole : source.kineticEnergy = 1 / 2 *
        (source.fillRatio * source.materialType.getDensity) *
          source.velocity.dot source.velocity := by
      rw [kineticEnergy, getMass_of_not_isEmpty filled]
    rw [whole]
    linarith

end

end

end Cell

namespace WorldCollisionCalculator

open Cell World

def pairMomentum (cells : Cell K × Cell K) : Vector2 K := cells.1.momentum + cells.2.momentum

def pairEnergy (cells : Cell K × Cell K) : K := cells.1.kineticEnergy + cells.2.kineticEnergy

section

variable [Analytic K]

def surfaceNormal (move : MaterialMove K) : Vector2 K := move.getDirection.normalize

/-- An elastic collision works with the velocity of its source and, where the target answers, with
the masses of both. -/
structure SoundElastic (fromCell toCell : Cell K) (move : MaterialMove K) : Prop where
  velocity : fromCell.velocity = move.momentum
  masses : move.targetMass > 0 → ¬ toCell.isEmpty →
    move.materialMass = fromCell.getMass ∧ move.targetMass = toCell.getMass

/-- The part of the speed with which the source of an inelastic collision bounces back. -/
def bounce (move : MaterialMove K) : K := move.restitutionCoefficient * inelasticRestitutionFactor

/-- The momentum that an inelastic collision passes on. -/
def passedOn (move : MaterialMove K) : K :=
  (1 + bounce move) * move.materialMass * move.momentum.dot (surfaceNormal move)

/-- An inelastic collision works with the velocity of its source and the masses of both; a target
other than a wall has mass, unless nothing hits it; no more momentum is passed on than by an
elastic collision; and what is transferred to the same material changes the velocity there. -/
structure SoundInelastic (fromCell toCell : Cell K) (move : MaterialMove K) : Prop where
  velocity : fromCell.velocity = move.momentum
  source : move.materialMass = fromCell.getMass
  target : move.targetMass = toCell.getMass
  answered : toCell.materialType ≠ .wall →
    move.targetMass > 0 ∨ move.momentum.dot (surfaceNormal move) = 0
  bounded : move.targetMass > 0 →
    passedOn move ∈ Set.uIcc 0 (elasticImpulse move.materialMass move.targetMass
      (move.momentum.dot (surfaceNormal move)) (toCell.velocity.dot (surfaceNormal move)))
  merges : MergesHeavily fromCell toCell move.amount

/-- A support does not carry the source away faster than the source came. -/
def SoundCompression (gravity : K) (fromCell toCell : Cell K) (move : MaterialMove K) : Prop :=
  (toCell.isEmpty ∨ isCompressionSupportSink toCell.materialType ∨
      !isCompressionGranular toCell.materialType) →
    |min (fromCell.velocity.dot (surfaceNormal move)) (toCell.velocity.dot (surfaceNormal move)) *
        computeCompressionRetainedNormalFraction (computeCompressionLoadRatio fromCell |gravity|)| ≤
      |fromCell.velocity.dot (surfaceNormal move)|

/-- The source of an inelastic collision after its bounce, and the target after the push. -/
def collided (fromCell toCell : Cell K) (move : MaterialMove K) : Cell K × Cell K :=
  let comp := decomposeVelocity move.momentum move.getDirection.normalize
  (fromCell.withVelocity (comp.tangential + comp.normal.times (-bounce move)),
    pushed toCell move comp (bounce move))

def settled (fromCell toCell : Cell K) (move : MaterialMove K) : Cell K × Cell K :=
  let hit := collided fromCell toCell move
  let transfer := hit.1.transferToWithPhysics hit.2 move.amount move.getDirection
  (transfer.source, transfer.target)

/-- The momentum of two cells is kept, but for matter of the source that a cell cuts off after the
collision. -/
def KeepsMomentum (move : MaterialMove K) (before after : Cell K × Cell K) : Prop :=
  ∃ sourceCut targetCut, after.1.CutOff sourceCut ∧ after.2.CutOff targetCut ∧
    pairMomentum after +
        (collided before.1 before.2 move).1.velocity.times
          ((sourceCut + targetCut) * before.1.materialType.getDensity) =
      pairMomentum before

variable [IsStrictOrderedRing K] [ExactRoot K] {fromCell toCell : Cell K} {move : MaterialMove K}

theorem surfaceNormal_unitLength (leads : move.fromPos ≠ move.toPos) :
    (surfaceNormal move).UnitLength := by
  refine Vector2.unitLength_normalize ?_
  by_contra still
  obtain ⟨flatX, flatY⟩ := not_or.mp still
  rw [not_not] at flatX flatY
  refine leads (Vector2i.ext ?_ ?_)
  · have x : move.toPos.x - move.fromPos.x = 0 := Int.cast_eq_zero.mp flatX
    omega
  · have y : move.toPos.y - move.fromPos.y = 0 := Int.cast_eq_zero.mp flatY
    omega

theorem decomposeVelocity_eq (leads : move.fromPos ≠ move.toPos) (velocity : Vector2 K) :
    decomposeVelocity velocity move.getDirection.normalize =
      { normal := (surfaceNormal move).times (velocity.dot (surfaceNormal move))
        tangential :=
          velocity - (surfaceNormal move).times (velocity.dot (surfaceNormal move))
        normalScalar := velocity.dot (surfaceNormal move) } := by
  unfold decomposeVelocity
  rw [← surfaceNormal, (surfaceNormal_unitLength leads).normalize_eq]

section

omit [Analytic K] [ExactRoot K]

theorem slowed_le {normal : Vector2 K} (unit : normal.UnitLength) (cell : Cell K) {along : K}
    (slower : |along| ≤ |cell.velocity.dot normal|) :
    (cell.redirected normal along).kineticEnergy ≤ cell.kineticEnergy := by
  have less := kinetic_le_kinetic (getMass_nonneg cell) slower
  rw [kineticEnergy_redirected unit]
  linarith

theorem redirected_pair_le {normal : Vector2 K} (unit : normal.UnitLength)
    {fromAlong toAlong : K}
    (less : kinetic fromCell.getMass fromAlong + kinetic toCell.getMass toAlong ≤
      kinetic fromCell.getMass (fromCell.velocity.dot normal) +
        kinetic toCell.getMass (toCell.velocity.dot normal)) :
    pairEnergy (fromCell.redirected normal fromAlong, toCell.redirected normal toAlong) ≤
      pairEnergy (fromCell, toCell) := by
  rw [pairEnergy, pairEnergy, kineticEnergy_redirected unit, kineticEnergy_redirected unit]
  linarith

end

variable (leads : move.fromPos ≠ move.toPos)

include leads

/-- **A fluid contact** adds no energy. -/
theorem handleFluidBlockedContact_energy_le :
    pairEnergy (handleFluidBlockedContact fromCell toCell move) ≤ pairEnergy (fromCell, toCell) := by
  have unit := surfaceNormal_unitLength leads
  have slower (speed : K) : |min 0 speed| ≤ |speed| := by
    rcases le_total 0 speed with nonneg | nonpos
    · rw [min_eq_left nonneg, abs_zero]
      exact abs_nonneg speed
    · rw [min_eq_right nonpos]
  unfold handleFluidBlockedContact
  dsimp only
  rw [decomposeVelocity_eq leads, decomposeVelocity_eq leads]
  exact add_le_add (slowed_le unit fromCell (slower _)) (slowed_le unit toCell (slower _))

/-- **A compression contact** adds no energy, unless the support carries the source away. -/
theorem handleCompressionContact_energy_le {gravity : K}
    (sound : SoundCompression gravity fromCell toCell move) :
    pairEnergy (handleCompressionContact gravity fromCell toCell move) ≤
      pairEnergy (fromCell, toCell) := by
  have unit := surfaceNormal_unitLength leads
  have stopped (cell : Cell K) : (cell.withVelocity
      (cell.velocity - (surfaceNormal move).times
        (cell.velocity.dot (surfaceNormal move)))).kineticEnergy ≤ cell.kineticEnergy := by
    have none_left : cell.withVelocity (cell.velocity -
        (surfaceNormal move).times (cell.velocity.dot (surfaceNormal move))) =
          cell.redirected (surfaceNormal move) 0 := by
      refine congrArg cell.withVelocity (Vector2.ext ?_ ?_)
      · simp [Vector2.add_x, Vector2.times_x, mul_zero]
      · simp [Vector2.add_y, Vector2.times_y, mul_zero]
    rw [none_left]
    exact slowed_le unit cell (abs_zero.trans_le (abs_nonneg _))
  unfold handleCompressionContact
  dsimp only
  rw [decomposeVelocity_eq leads, decomposeVelocity_eq leads]
  split
  case isTrue support => exact add_le_add (slowed_le unit fromCell (sound support)) le_rfl
  case isFalse granular => exact add_le_add (stopped fromCell) (stopped toCell)

omit [IsStrictOrderedRing K] [ExactRoot K] leads in
theorem bounced_eq (factor : K) :
    fromCell.withVelocity
        (fromCell.velocity -
            (surfaceNormal move).times (fromCell.velocity.dot (surfaceNormal move)) +
          ((surfaceNormal move).times (fromCell.velocity.dot (surfaceNormal move))).times factor) =
      fromCell.redirected (surfaceNormal move)
        (fromCell.velocity.dot (surfaceNormal move) * factor) := by
  refine congrArg fromCell.withVelocity (Vector2.ext ?_ ?_)
  · simp only [Vector2.add_x, Vector2.times_x]
    ring
  · simp only [Vector2.add_y, Vector2.times_y]
    ring

/-- **An elastic collision** that works with current records adds no energy. -/
theorem handleElasticCollision_energy_le (sound : SoundElastic fromCell toCell move)
    (low : 0 ≤ move.restitutionCoefficient) (high : move.restitutionCoefficient ≤ 1) :
    pairEnergy (handleElasticCollision fromCell toCell move) ≤ pairEnergy (fromCell, toCell) := by
  have unit := surfaceNormal_unitLength leads
  obtain ⟨velocity, masses⟩ := sound
  unfold handleElasticCollision
  dsimp only
  rw [← velocity, decomposeVelocity_eq leads, decomposeVelocity_eq leads]
  split
  case isTrue answers =>
      obtain ⟨target, filled⟩ := answers
      obtain ⟨first, second⟩ := masses target (by simpa using filled)
      rw [first, second]
      refine redirected_pair_le unit (le_trans ?_ (kinetic_elastic (getMass_nonneg fromCell)
        (second ▸ target)).le)
      have mirrored := kinetic_scaled_le (getMass_nonneg toCell) low high
        (elasticVelocity toCell.getMass fromCell.getMass
          (toCell.velocity.dot (surfaceNormal move)) (fromCell.velocity.dot (surfaceNormal move)))
      refine add_le_add (kinetic_scaled_le (getMass_nonneg fromCell) low high _) ?_
      rw [elasticVelocity, add_comm toCell.getMass] at mirrored ⊢
      exact mirrored
  case isFalse reflects =>
      have slower : |fromCell.velocity.dot (surfaceNormal move) * -move.restitutionCoefficient| ≤
          |fromCell.velocity.dot (surfaceNormal move)| := by
        rw [abs_mul, abs_neg, abs_of_nonneg low]
        exact mul_le_of_le_one_right (abs_nonneg _) high
      refine add_le_add ?_ le_rfl
      rw [bounced_eq]
      exact slowed_le unit fromCell slower

theorem collided_source (velocity : fromCell.velocity = move.momentum) :
    (collided fromCell toCell move).1 =
      fromCell.redirected (surfaceNormal move)
        (fromCell.velocity.dot (surfaceNormal move) * -bounce move) := by
  unfold collided
  rw [← velocity, decomposeVelocity_eq leads]
  exact bounced_eq _

theorem collided_target_of_pos (hit : move.targetMass > 0) :
    (collided fromCell toCell move).2 =
      toCell.redirected (surfaceNormal move)
        (toCell.velocity.dot (surfaceNormal move) + passedOn move / move.targetMass) := by
  unfold collided pushed
  dsimp only
  rw [decomposeVelocity_eq leads, if_pos hit, passedOn]
  refine congrArg toCell.withVelocity (Vector2.ext ?_ ?_)
  · simp only [Vector2.add_x, Vector2.sub_x, Vector2.times_x, Vector2.divide_x]
    ring
  · simp only [Vector2.add_y, Vector2.sub_y, Vector2.times_y, Vector2.divide_y]
    ring

omit [IsStrictOrderedRing K] [ExactRoot K] leads in
theorem collided_target_of_not_pos (missed : ¬ move.targetMass > 0) :
    (collided fromCell toCell move).2 = toCell := if_neg missed

theorem collided_momentum (sound : SoundInelastic fromCell toCell move)
    (notWall : toCell.materialType ≠ .wall) :
    pairMomentum (collided fromCell toCell move) = pairMomentum (fromCell, toCell) := by
  rw [pairMomentum, collided_source leads sound.velocity, momentum_redirected, pairMomentum]
  by_cases hit : move.targetMass > 0
  · rw [collided_target_of_pos leads hit, momentum_redirected, passedOn, ← sound.velocity,
      sound.source]
    have mass : toCell.getMass ≠ 0 := (sound.target ▸ hit).ne'
    rw [sound.target]
    ext
    · simp only [Vector2.add_x, Vector2.times_x]
      field_simp
      ring
    · simp only [Vector2.add_y, Vector2.times_y]
      field_simp
      ring
  · rw [collided_target_of_not_pos hit]
    have still : fromCell.velocity.dot (surfaceNormal move) = 0 := by
      rw [sound.velocity]
      exact (sound.answered notWall).resolve_left hit
    rw [still]
    ext
    · simp [Vector2.add_x, Vector2.times_x, zero_mul, mul_zero]
    · simp [Vector2.add_y, Vector2.times_y, zero_mul, mul_zero]

/-- **Energy of an inelastic collision** between cells of which the move knows the masses. -/
theorem collided_energy_le_iff (velocity : fromCell.velocity = move.momentum)
    (source : move.materialMass = fromCell.getMass) (target : move.targetMass = toCell.getMass)
    (massive : 0 < fromCell.getMass) (hit : 0 < toCell.getMass) :
    pairEnergy (collided fromCell toCell move) ≤ pairEnergy (fromCell, toCell) ↔
      passedOn move ∈ Set.uIcc 0 (elasticImpulse move.materialMass move.targetMass
        (move.momentum.dot (surfaceNormal move)) (toCell.velocity.dot (surfaceNormal move))) := by
  have unit := surfaceNormal_unitLength leads
  have pair : collided fromCell toCell move =
      (fromCell.redirected (surfaceNormal move)
          (fromCell.velocity.dot (surfaceNormal move) * -bounce move),
        toCell.redirected (surfaceNormal move)
          (toCell.velocity.dot (surfaceNormal move) + passedOn move / move.targetMass)) :=
    Prod.ext (collided_source leads velocity) (collided_target_of_pos leads (target ▸ hit))
  have back : fromCell.velocity.dot (surfaceNormal move) * -bounce move =
      fromCell.velocity.dot (surfaceNormal move) - passedOn move / fromCell.getMass := by
    rw [passedOn, source, ← velocity]
    field_simp
    ring
  rw [pair, source, target, ← velocity, ← kinetic_push_le_iff massive hit, back, pairEnergy,
    pairEnergy, kineticEnergy_redirected unit, kineticEnergy_redirected unit]
  constructor
  · intro less
    linarith
  · intro less
    linarith

theorem collided_energy_le (sound : SoundInelastic fromCell toCell move)
    (low : 0 ≤ bounce move) (high : bounce move ≤ 1) :
    pairEnergy (collided fromCell toCell move) ≤ pairEnergy (fromCell, toCell) := by
  have unit := surfaceNormal_unitLength leads
  have bounces : (fromCell.redirected (surfaceNormal move)
      (fromCell.velocity.dot (surfaceNormal move) * -bounce move)).kineticEnergy ≤
        fromCell.kineticEnergy := by
    refine slowed_le unit fromCell ?_
    rw [abs_mul, abs_neg, abs_of_nonneg low]
    exact mul_le_of_le_one_right (abs_nonneg _) high
  by_cases hit : move.targetMass > 0
  · rcases (getMass_nonneg fromCell).eq_or_lt with massless | massive
    · have nothing : passedOn move = 0 := by
        rw [passedOn, sound.source, ← massless, mul_zero, zero_mul]
      have target := kineticEnergy_redirected unit toCell (toCell.velocity.dot (surfaceNormal move))
      rw [pairEnergy, collided_source leads sound.velocity, collided_target_of_pos leads hit,
        nothing, zero_div, add_zero, target, sub_add_cancel]
      exact add_le_add bounces le_rfl
    · exact (collided_energy_le_iff leads sound.velocity sound.source sound.target massive
        (sound.target ▸ hit)).mpr (sound.bounded hit)
  · rw [pairEnergy, collided_source leads sound.velocity, collided_target_of_not_pos hit]
    exact add_le_add bounces le_rfl

omit [IsStrictOrderedRing K] [ExactRoot K] leads in
theorem collided_same : SamePair (fromCell, toCell) (collided fromCell toCell move) :=
  ⟨withVelocity_same _ _, pushed_same _ _ _ _⟩

variable (sound : SoundInelastic fromCell toCell move) (below : fromCell.fillRatio ≤ 1)

include sound below

/-- **An inelastic collision keeps the momentum** when its records are current and its target has
mass. -/
theorem settled_momentum (notWall : toCell.materialType ≠ .wall) :
    KeepsMomentum move (fromCell, toCell) (settled fromCell toCell move) := by
  have same := @collided_same _ _ _ _ fromCell toCell move
  have fill : (collided fromCell toCell move).1.fillRatio = fromCell.fillRatio := same.1.2.symm
  obtain ⟨sourceCut, targetCut, source, target, kept⟩ := transfer_momentum (fill ▸ below)
    (sound.merges.congr same.1 same.2) move.getDirection
  refine ⟨sourceCut, targetCut, source, target, ?_⟩
  exact kept.trans (collided_momentum leads sound notWall)

/-- **An inelastic collision adds no energy** when it passes on no more momentum than an elastic
one. -/
theorem settled_energy_le (low : 0 ≤ move.restitutionCoefficient)
    (high : move.restitutionCoefficient ≤ 1) :
    pairEnergy (settled fromCell toCell move) ≤ pairEnergy (fromCell, toCell) := by
  have same := @collided_same _ _ _ _ fromCell toCell move
  have fill : (collided fromCell toCell move).1.fillRatio = fromCell.fillRatio := same.1.2.symm
  have half : (0 : K) ≤ inelasticRestitutionFactor ∧ inelasticRestitutionFactor ≤ (1 : K) := by
    constructor <;> norm_num [inelasticRestitutionFactor]
  have bounces : 0 ≤ bounce move := mul_nonneg low half.1
  have slows : bounce move ≤ 1 := mul_le_one₀ high half.1 half.2
  exact (transfer_kineticEnergy_le (fill ▸ below) (sound.merges.congr same.1 same.2)
    move.getDirection).trans (collided_energy_le leads sound bounces slows)

end

end WorldCollisionCalculator

end DirtSim
