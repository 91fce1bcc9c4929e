import DirtSim.Foundation.Ledger
import DirtSim.Physics.MaterialProperties
import Mathlib.Algebra.Order.Group.Abs
import Mathlib.Algebra.Order.Field.Basic

/-! # Matter in cells

A cell is an account that holds its fill of its material (`Cell.matter`). Two amounts are lost on
the way, each below the threshold of an empty cell: the residue of a receiver that counts as empty,
and that of a giver that becomes so.
-/

namespace DirtSim

open Foundation

variable {K : Type*} [Field K] [LinearOrder K]

def clamp (value low high : K) : K :=
  if value < low then low else if high < value then high else value

namespace Cell

def setCOM (cell : Cell K) (newCom : Vector2 K) : Cell K :=
  { cell with com := ⟨clamp newCom.x (-1) 1, clamp newCom.y (-1) 1⟩ }

def withVelocity (cell : Cell K) (velocity : Vector2 K) : Cell K :=
  { cell with velocity := velocity }

def getMass (cell : Cell K) : K :=
  if cell.isEmpty then 0 else cell.fillRatio * cell.materialType.getDensity

def getEffectiveDensity (cell : Cell K) : K := cell.fillRatio * cell.materialType.getDensity

/-- Where material that leaves a cell through a side arrives in the next one: where its
trajectory crosses the side, wrapped to the opposite one. -/
def calculateTrajectoryLanding (sourceCom velocity boundaryNormal : Vector2 K) : Vector2 K :=
  let boundaryCrossingPoint : Vector2 K :=
    if |boundaryNormal.x| > 1 / 2 then
      let boundaryX := if boundaryNormal.x > 0 then 1 else -1
      let crossingRatio := (boundaryX - sourceCom.x) / velocity.x
      if |velocity.x| > 1 / 1000000 then ⟨boundaryX, sourceCom.y + velocity.y * crossingRatio⟩
      else sourceCom
    else if |boundaryNormal.y| > 1 / 2 then
      let boundaryY := if boundaryNormal.y > 0 then 1 else -1
      let crossingRatio := (boundaryY - sourceCom.y) / velocity.y
      if |velocity.y| > 1 / 1000000 then ⟨sourceCom.x + velocity.x * crossingRatio, boundaryY⟩
      else sourceCom
    else sourceCom
  -- Slightly inside the side, or the material would cross it again in the next frame.
  let wrap (normal coordinate : K) : K :=
    if |normal| > 1 / 2 then if normal > 0 then -(99 / 100) else 99 / 100 else coordinate
  ⟨clamp (wrap boundaryNormal.x boundaryCrossingPoint.x) (-1) 1,
    clamp (wrap boundaryNormal.y boundaryCrossingPoint.y) (-1) 1⟩

/-- Adds material to a cell and returns the amount actually added. An empty cell takes any
material and forgets what little it held; materials do not mix. -/
def addMaterialWithPhysics (cell : Cell K) (type : Material) (amount : K)
    (sourceCom newVel boundaryNormal : Vector2 K) : Cell K × K :=
  if amount ≤ 0 then (cell, 0)
  else if cell.isEmpty then
    let added := min amount 1
    ({ cell with
        materialType := type
        fillRatio := added
        com := calculateTrajectoryLanding sourceCom newVel boundaryNormal
        velocity := newVel }, added)
  else if cell.materialType ≠ type then (cell, 0)
  else
    let added := min amount cell.getCapacity
    if added > 0 then
      let existingMass := cell.getMass
      let addedMass := added * cell.materialType.getDensity
      let totalMass := existingMass + addedMass
      let incomingCom := calculateTrajectoryLanding sourceCom newVel boundaryNormal
      let moved :=
        if totalMass > 1 / 1000 then
          { cell with
            com := (cell.com.times existingMass + incomingCom.times addedMass).divide totalMass
            velocity :=
              (cell.velocity.times existingMass + newVel.times addedMass).divide totalMass }
        else cell
      ({ moved with fillRatio := cell.fillRatio + added }, added)
    else (cell, added)

/-- Removes material from a cell and returns the amount actually removed. A cell that becomes
empty is cleared. -/
def removeMaterial (cell : Cell K) (amount : K) : Cell K × K :=
  if cell.isEmpty ∨ amount ≤ 0 then (cell, 0)
  else
    let removed := min amount cell.fillRatio
    if cell.fillRatio - removed < minFillThreshold then (blank, removed)
    else ({ cell with fillRatio := cell.fillRatio - removed }, removed)

/-- Both cells after a transfer, and the amount transferred. -/
structure Transfer (K : Type*) where
  source : Cell K
  target : Cell K
  accepted : K

def transferToWithPhysics (source target : Cell K) (amount : K) (boundaryNormal : Vector2 K) :
    Transfer K :=
  if source.isEmpty ∨ amount ≤ 0 then { source := source, target := target, accepted := 0 }
  else
    let available := min amount source.fillRatio
    let (received, accepted) :=
      target.addMaterialWithPhysics source.materialType available source.com source.velocity
        boundaryNormal
    if accepted > 0 then
      { source := (source.removeMaterial accepted).1, target := received, accepted := accepted }
    else { source := source, target := received, accepted := accepted }

def matter : Ledger (Cell K) Material K :=
  { kind := materialType, amount := fillRatio, capacity := 1 }

section

omit [LinearOrder K]

/-- Neither the material of a cell nor how much it holds. -/
abbrev SameMatter (first second : Cell K) : Prop := matter.Same first second

@[simp] theorem withVelocity_same (cell : Cell K) (velocity : Vector2 K) :
    SameMatter cell (cell.withVelocity velocity) := ⟨rfl, rfl⟩

end

@[simp] theorem setCOM_same (cell : Cell K) (newCom : Vector2 K) :
    SameMatter cell (cell.setCOM newCom) := ⟨rfl, rfl⟩

section

variable [IsStrictOrderedRing K]
variable {cell : Cell K}

omit [LinearOrder K] [IsStrictOrderedRing K] in
theorem holding_eq (kind : Material) (cell : Cell K) :
    matter.holding kind cell = if cell.materialType = kind then cell.fillRatio else 0 := rfl

section

omit [IsStrictOrderedRing K]

theorem isEmpty_iff : cell.isEmpty ↔ cell.fillRatio < minFillThreshold :=
  decide_eq_true_iff

theorem not_isEmpty_iff : ¬ cell.isEmpty ↔ minFillThreshold ≤ cell.fillRatio := by
  rw [isEmpty_iff, not_lt]

end

theorem minFillThreshold_pos : (0 : K) < minFillThreshold := by
  unfold minFillThreshold
  positivity

theorem blank_fits : matter.Fits (blank : Cell K) := ⟨le_refl 0, zero_le_one⟩

omit [IsStrictOrderedRing K] in
theorem holding_nonneg (fits : matter.Fits cell) (kind : Material) :
    0 ≤ matter.holding kind cell := by
  rw [holding_eq]
  split
  · exact fits.1
  · exact le_refl 0

omit [LinearOrder K] [IsStrictOrderedRing K] in
theorem holding_blank (kind : Material) : matter.holding kind (blank : Cell K) = 0 := by
  rw [holding_eq]
  exact ite_self 0

theorem receives_overwrite {before after : Cell K} {type : Material} {added : K}
    (fits : matter.Fits before) (empty : before.isEmpty) (kind : after.materialType = type)
    (fill : after.fillRatio = added) (nonneg : 0 ≤ added) (room : added ≤ 1) :
    matter.Receives minFillThreshold type added before after where
  fits := by
    subst fill
    exact ⟨nonneg, room⟩
  holding_le other := by
    rw [holding_eq other after, kind, fill]
    exact le_add_of_nonneg_left (holding_nonneg fits other)
  amount_le := by
    have residue : before.fillRatio < minFillThreshold := isEmpty_iff.mp empty
    change before.fillRatio + added ≤ after.fillRatio + minFillThreshold
    linarith

theorem receives_merge {before after : Cell K} {added : K} (fits : matter.Fits before)
    (same : after.materialType = before.materialType)
    (fill : after.fillRatio = before.fillRatio + added) (nonneg : 0 ≤ added)
    (room : added ≤ before.getCapacity) :
    matter.Receives minFillThreshold before.materialType added before after where
  fits := by
    have below : added ≤ 1 - before.fillRatio := room
    have filled : 0 ≤ before.fillRatio := fits.1
    refine ⟨?_, ?_⟩
    · change 0 ≤ after.fillRatio
      linarith
    · change after.fillRatio ≤ 1
      linarith
  holding_le other := by
    rw [holding_eq, holding_eq, same, fill]
    split <;> simp
  amount_le := by
    change before.fillRatio + added ≤ after.fillRatio + minFillThreshold
    linarith [minFillThreshold_pos (K := K)]

theorem receives_nothing (fits : matter.Fits cell) (type : Material) :
    matter.Receives minFillThreshold type 0 cell cell where
  fits := fits
  holding_le other := by rw [ite_self, add_zero]
  amount_le := by linarith [minFillThreshold_pos (K := K)]

/-- The amount added is never negative nor more than what was offered, and the cell has taken in
just that. -/
theorem addMaterialWithPhysics_receives (fits : matter.Fits cell) (type : Material) {amount : K}
    (offered : 0 < amount) (sourceCom newVel boundaryNormal : Vector2 K) :
    let result := cell.addMaterialWithPhysics type amount sourceCom newVel boundaryNormal
    0 ≤ result.2 ∧ result.2 ≤ amount ∧
      matter.Receives minFillThreshold type result.2 cell result.1 := by
  intro result
  by_cases empty : cell.isEmpty
  · have taken : 0 ≤ min amount 1 := le_min offered.le zero_le_one
    simp only [result, addMaterialWithPhysics, offered.not_ge, ↓reduceIte, empty]
    exact ⟨taken, min_le_left _ _,
      receives_overwrite fits empty rfl rfl taken (min_le_right _ _)⟩
  · by_cases other : cell.materialType ≠ type
    · simp only [result, addMaterialWithPhysics, offered.not_ge, ↓reduceIte, empty, other, ne_eq,
        not_false_eq_true, Bool.false_eq_true]
      exact ⟨le_refl 0, offered.le, receives_nothing fits type⟩
    · have same : cell.materialType = type := not_not.mp other
      have room : 0 ≤ cell.getCapacity := sub_nonneg.mpr fits.2
      have taken : 0 ≤ min amount cell.getCapacity := le_min offered.le room
      simp only [result, addMaterialWithPhysics, offered.not_ge, ↓reduceIte, empty, same, ne_eq,
        not_true_eq_false, Bool.false_eq_true]
      by_cases some_room : 0 < min amount cell.getCapacity
      · simp only [gt_iff_lt, some_room, ↓reduceIte]
        refine ⟨taken, min_le_left _ _, ?_⟩
        rw [← same]
        refine receives_merge fits ?_ rfl taken (min_le_right _ _)
        split <;> rfl
      · have none_added : min amount cell.getCapacity = 0 := le_antisymm (not_lt.mp some_room) taken
        simp only [gt_iff_lt, some_room, ↓reduceIte]
        rw [none_added]
        exact ⟨le_refl 0, offered.le, receives_nothing fits type⟩

theorem removeMaterial_releases (fits : matter.Fits cell) (filled : ¬ cell.isEmpty) {amount : K}
    (positive : 0 < amount) (held : amount ≤ cell.fillRatio) :
    matter.Releases minFillThreshold cell.materialType amount cell (cell.removeMaterial amount).1 := by
  have all : min amount cell.fillRatio = amount := min_eq_left held
  have below : cell.fillRatio ≤ 1 := fits.2
  by_cases residue : cell.fillRatio - amount < minFillThreshold
  · have cleared : (cell.removeMaterial amount).1 = blank := by
      simp [removeMaterial, filled, positive.not_ge, all, residue]
    rw [cleared]
    refine ⟨blank_fits, fun other => ?_, ?_⟩
    · rw [holding_blank, zero_add, holding_eq]
      split
      · exact held
      · exact le_refl 0
    · change cell.fillRatio ≤ 0 + amount + minFillThreshold
      linarith
  · have kept : (cell.removeMaterial amount).1 =
        { cell with fillRatio := cell.fillRatio - amount } := by
      simp [removeMaterial, filled, positive.not_ge, all, residue]
    rw [kept]
    refine ⟨⟨sub_nonneg.mpr held, ?_⟩, fun other => ?_, ?_⟩
    · change cell.fillRatio - amount ≤ 1
      linarith
    · rw [holding_eq, holding_eq]
      split <;> simp
    · change cell.fillRatio ≤ cell.fillRatio - amount + amount + minFillThreshold
      linarith [minFillThreshold_pos (K := K)]

/-- **A transfer loses at most two residues**, whatever amount is asked for. -/
theorem transferToWithPhysics_settles {source target : Cell K} (fitsSource : matter.Fits source)
    (fitsTarget : matter.Fits target) (amount : K) (boundaryNormal : Vector2 K) :
    let result := source.transferToWithPhysics target amount boundaryNormal
    matter.Settles (minFillThreshold + minFillThreshold) [source, target]
      [result.source, result.target] := by
  intro result
  have twice : (0 : K) ≤ minFillThreshold + minFillThreshold := by
    linarith [minFillThreshold_pos (K := K)]
  have untouched := (Ledger.Settles.of_same fitsSource fitsTarget (.refl _) (.refl _)).mono twice
  by_cases idle : source.isEmpty ∨ amount ≤ 0
  · simp only [result, transferToWithPhysics, idle, ↓reduceIte]
    exact untouched
  · obtain ⟨filled, positive⟩ := not_or.mp idle
    have some_held : 0 < source.fillRatio :=
      minFillThreshold_pos.trans_le (not_isEmpty_iff.mp filled)
    have available : 0 < min amount source.fillRatio := lt_min (not_le.mp positive) some_held
    have received := addMaterialWithPhysics_receives fitsTarget source.materialType available
      source.com source.velocity boundaryNormal
    simp only [result, transferToWithPhysics, idle, ↓reduceIte]
    obtain ⟨nonneg, offered, receives⟩ := received
    split
    case isTrue accepted =>
        have held := offered.trans (min_le_right _ _)
        exact .of_exchange (removeMaterial_releases fitsSource filled accepted held) receives
    case isFalse rejected =>
        -- Nothing was accepted, so the source releases nothing.
        have nothing := le_antisymm (not_lt.mp rejected) nonneg
        rw [nothing] at receives
        have kept : matter.Releases minFillThreshold source.materialType 0 source source :=
          ⟨fitsSource, fun other => by rw [ite_self, add_zero], by
            linarith [minFillThreshold_pos (K := K)]⟩
        exact .of_exchange kept receives

end

end Cell

end DirtSim
