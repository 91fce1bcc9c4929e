import DirtSim.Physics.CachedCohesion

/-! # Adhesion from the cache

Both overloads count the same contacts when the neighbours hold enough (`adhesion_agrees_iff`). What
a contact contributes is as long as it is to be, and opposite to what the neighbour gets, at the
sides of a cell but not at its corners (`fair_iff`).
-/

namespace DirtSim

open WorldCalculatorBase

variable {K : Type*} [Field K] [LinearOrder K]

namespace WorldAdhesionCalculator

variable [Analytic K] (cells : CellArray K) (x y : ℤ)

section

/-! ## The contacts that are counted -/

/-- A neighbour of another material that is not air. -/
def Differs (offset : ℤ × ℤ) : Prop :=
  ¬ (offset.1 = 0 ∧ offset.2 = 0) ∧ cells.InBounds (x + offset.1) (y + offset.2) ∧
    ¬ ((cells.at (x + offset.1) (y + offset.2)).materialType = (cells.at x y).materialType ∨
      (cells.at (x + offset.1) (y + offset.2)).materialType = .air)

instance (offset : ℤ × ℤ) : Decidable (Differs cells x y offset) :=
  inferInstanceAs (Decidable (_ ∧ _))

def Touches (offset : ℤ × ℤ) : Prop :=
  Differs cells x y offset ∧
    (cells.at (x + offset.1) (y + offset.2)).fillRatio > minMatterThreshold

instance (offset : ℤ × ℤ) : Decidable (Touches cells x y offset) :=
  inferInstanceAs (Decidable (_ ∧ _))

def addAt (contacts : Contacts K) (offset : ℤ × ℤ) : Contacts K :=
  contacts.add (cells.at x y) (cells.at (x + offset.1) (y + offset.2))
    (cells.at (x + offset.1) (y + offset.2)).materialType offset.1 offset.2

theorem contactStep_eq (contacts : Contacts K) (offset : ℤ × ℤ) :
    contactStep cells x y contacts offset =
      if Touches cells x y offset then addAt cells x y contacts offset else contacts := by
  obtain ⟨dx, dy⟩ := offset
  simp only [contactStep, Touches, Differs, addAt]
  split_ifs <;> simp_all

variable {cells x y}

theorem contactStepCached_eq (inside : cells.InBounds x y) {offset : ℤ × ℤ}
    (listed : offset ∈ squareOffsets 1) (contacts : Contacts K) :
    contactStepCached cells x y (packed cells x y) contacts offset =
      some (if Differs cells x y offset then addAt cells x y contacts offset else contacts) := by
  obtain ⟨dx, dy⟩ := offset
  have near : (dx, dy) ∈ offsets := mem_offsets.mpr (by simpa using mem_squareOffsets.mp listed)
  by_cases there : cells.InBounds (x + dx) (y + dy)
  · have read := read_packed inside near there
    simp only at read
    simp only [contactStepCached, Differs, addAt, there, read, read_center inside, true_and]
    split_ifs <;> simp_all
  · simp [contactStepCached, Differs, there]

variable (cells x y)

def contribution (offset : ℤ × ℤ) : Vector2 K :=
  if (cells.at x y).isEmpty then 0 else (contactStep cells x y .none offset).totalForce

/-- The same in the overload that takes the packed materials. -/
def contributionCached (offset : ℤ × ℤ) : Option (Vector2 K) :=
  if (cells.at x y).isEmpty then some 0
  else (contactStepCached cells x y (packed cells x y) .none offset).map Contacts.totalForce

def forceAt (offset : ℤ × ℤ) : Vector2 K :=
  contactForce (cells.at x y) (cells.at (x + offset.1) (y + offset.2))
    (cells.at (x + offset.1) (y + offset.2)).materialType offset.1 offset.2

theorem addAt_totalForce (contacts : Contacts K) (offset : ℤ × ℤ) :
    (addAt cells x y contacts offset).totalForce =
      contacts.totalForce + forceAt cells x y offset := rfl

theorem contribution_eq (offset : ℤ × ℤ) : contribution cells x y offset =
    if ¬ (cells.at x y).isEmpty ∧ Touches cells x y offset then forceAt cells x y offset
    else 0 := by
  rw [contribution, contactStep_eq]
  split_ifs <;> simp_all [addAt_totalForce, Contacts.none]

variable {cells x y} in
theorem contributionCached_eq (inside : cells.InBounds x y) {offset : ℤ × ℤ}
    (listed : offset ∈ squareOffsets 1) : contributionCached cells x y offset =
      some (if ¬ (cells.at x y).isEmpty ∧ Differs cells x y offset then forceAt cells x y offset
        else 0) := by
  rw [contributionCached, contactStepCached_eq inside listed]
  split_ifs <;> simp_all [addAt_totalForce, Contacts.none]

end

section

/-! ## All the contacts -/

def touching : List (ℤ × ℤ) := (squareOffsets 1).filter fun offset => Differs cells x y offset

def filledTouching : List (ℤ × ℤ) :=
  (squareOffsets 1).filter fun offset => decide (Differs cells x y offset) &&
    decide ((cells.at (x + offset.1) (y + offset.2)).fillRatio > minMatterThreshold)

theorem foldl_contactStep : (squareOffsets 1).foldl (contactStep cells x y) .none =
    (filledTouching cells x y).foldl (addAt cells x y) .none := by
  rw [filledTouching, List.foldl_filter]
  congr 1
  funext contacts offset
  rw [contactStep_eq]
  simp only [Touches, Bool.and_eq_true, decide_eq_true_eq]
  exact if_congr Iff.rfl rfl rfl

variable {cells x y}

theorem foldlM_contactStepCached (inside : cells.InBounds x y) :
    (squareOffsets 1).foldlM (contactStepCached cells x y (packed cells x y)) .none =
      some ((touching cells x y).foldl (addAt cells x y) .none) := by
  rw [touching, List.foldl_filter]
  refine foldlM_eq_some (fun offset listed contacts => ?_) _
  rw [contactStepCached_eq inside listed]
  simp

theorem foldl_addAt_count (members : List (ℤ × ℤ)) (contacts : Contacts K) :
    (members.foldl (addAt cells x y) contacts).contactCount =
      contacts.contactCount + members.length := by
  induction members generalizing contacts with
  | nil => rfl
  | cons member members ih =>
      rw [List.foldl_cons, ih, List.length_cons]
      simp only [addAt, Contacts.add]
      omega

/-- **Both overloads agree exactly when** every neighbour of another material holds enough. -/
theorem adhesion_agrees_iff (inside : cells.InBounds x y) :
    calculateAdhesionForceCached cells x y (packed cells x y) =
        some (calculateAdhesionForce cells x y) ↔
      (¬ (cells.at x y).isEmpty → ∀ offset ∈ squareOffsets 1, Differs cells x y offset →
        (cells.at (x + offset.1) (y + offset.2)).fillRatio > minMatterThreshold) := by
  by_cases empty : (cells.at x y).isEmpty
  · simp [calculateAdhesionForceCached, calculateAdhesionForce, empty]
  · simp only [calculateAdhesionForceCached, calculateAdhesionForce, empty, ↓reduceIte,
      foldlM_contactStepCached inside, foldl_contactStep, Option.map_some, Option.some.injEq,
      Bool.false_eq_true, not_false_eq_true, true_imp_iff]
    have among := length_filter_and (fun offset => decide (Differs cells x y offset))
      (fun offset =>
        decide ((cells.at (x + offset.1) (y + offset.2)).fillRatio > minMatterThreshold))
      (squareOffsets 1)
    simp only [decide_eq_true_eq] at among
    constructor
    · intro same
      refine among.mp ?_
      have count := congrArg AdhesionForce.contactPoints same
      simp only [forceFrom, foldl_addAt_count, Contacts.none, zero_add] at count
      exact count.symm
    · intro filled
      have all : filledTouching cells x y = touching cells x y := by
        refine List.filter_congr fun offset listed => ?_
        rw [Bool.and_eq_left_iff_imp]
        simpa using filled offset listed
      rw [all]

end

section

/-! ## What a contact contributes to both sides -/

def strength (offset : ℤ × ℤ) : K :=
  mutualAdhesion (cells.at x y).materialType
      (cells.at (x + offset.1) (y + offset.2)).materialType *
    (cells.at (x + offset.1) (y + offset.2)).fillRatio * (cells.at x y).fillRatio *
    distanceWeight offset.1 offset.2

/-- A contact that is counted contributes that much, and the opposite to the neighbour. -/
def Fair : Prop :=
  ∀ offset ∈ squareOffsets 1, ¬ (cells.at x y).isEmpty → Touches cells x y offset →
    (contribution cells x y offset).mag = strength cells x y offset ∧
      contribution cells (x + offset.1) (y + offset.2) (-offset) = -contribution cells x y offset

/-- The same in the overload that takes the packed materials. -/
def FairCached : Prop :=
  ∀ offset ∈ squareOffsets 1, ¬ (cells.at x y).isEmpty → Differs cells x y offset →
    ∃ force, contributionCached cells x y offset = some force ∧
      force.mag = strength cells x y offset ∧
      contributionCached cells (x + offset.1) (y + offset.2) (-offset) = some (-force)

variable {cells x y}
variable {offset : ℤ × ℤ}

theorem neg_mem_squareOffsets {range : ℕ} (listed : offset ∈ squareOffsets range) :
    -offset ∈ squareOffsets range := by
  have bounds := mem_squareOffsets.mp listed
  exact mem_squareOffsets.mpr (by simp only [Prod.fst_neg, Prod.snd_neg]; omega)

section

omit [LinearOrder K] [Analytic K]

theorem at_back (offset : ℤ × ℤ) :
    cells.at (x + offset.1 + (-offset).1) (y + offset.2 + (-offset).2) = cells.at x y := by
  simp

theorem differs_back (inside : cells.InBounds x y) (differs : Differs cells x y offset) :
    Differs cells (x + offset.1) (y + offset.2) (-offset) ↔ (cells.at x y).materialType ≠ .air := by
  obtain ⟨elsewhere, -, other⟩ := differs
  have unlike := (not_or.mp other).1
  rw [Differs, at_back]
  simp only [Prod.fst_neg, Prod.snd_neg, add_neg_cancel_right, neg_eq_zero, inside, true_and]
  constructor
  · rintro ⟨-, apart⟩
    exact (not_or.mp apart).2
  · intro solid
    exact ⟨elsewhere, not_or.mpr ⟨Ne.symm unlike, solid⟩⟩

end

section

omit [LinearOrder K]

theorem forceAt_back (offset : ℤ × ℤ) :
    forceAt cells (x + offset.1) (y + offset.2) (-offset) = -forceAt cells x y offset := by
  rw [forceAt, at_back, forceAt]
  have weight : (distanceWeight (-offset).1 (-offset).2 : K) = distanceWeight offset.1 offset.2 := by
    simp [distanceWeight]
  have mutual_comm : ∀ first second : Material,
      mutualAdhesion (K := K) first second = mutualAdhesion second first := by
    intro first second
    rw [mutualAdhesion, mul_comm, mutualAdhesion]
  rw [contactForce, contactForce, weight, mutual_comm]
  ext
  · simp only [Vector2.times_x, Vector2.neg_x, Prod.fst_neg, Int.cast_neg]
    ring
  · simp only [Vector2.times_y, Vector2.neg_y, Prod.snd_neg, Int.cast_neg]
    ring

theorem forceAt_eq (offset : ℤ × ℤ) : forceAt cells x y offset =
    (⟨offset.1, offset.2⟩ : Vector2 K).times (strength cells x y offset) := rfl

end

variable [IsStrictOrderedRing K] [ExactRoot K]

theorem mag_side (listed : offset ∈ squareOffsets 1) (elsewhere : ¬ (offset.1 = 0 ∧ offset.2 = 0))
    (side : offset.1 = 0 ∨ offset.2 = 0) {length : K} (nonneg : 0 ≤ length) :
    ((⟨offset.1, offset.2⟩ : Vector2 K).times length).mag = length := by
  have bounds := mem_squareOffsets.mp listed
  have unit : offset.1 * offset.1 + offset.2 * offset.2 = 1 := by
    have first : offset.1 = -1 ∨ offset.1 = 0 ∨ offset.1 = 1 := by omega
    have second : offset.2 = -1 ∨ offset.2 = 0 ∨ offset.2 = 1 := by omega
    rcases first with first | first | first <;> rcases second with second | second | second <;>
      simp_all
  have unit_cast : (offset.1 : K) * offset.1 + offset.2 * offset.2 = 1 := by exact_mod_cast unit
  have square := Vector2.mul_self_mag ((⟨offset.1, offset.2⟩ : Vector2 K).times length)
    (add_nonneg (mul_self_nonneg _) (mul_self_nonneg _))
  rw [← mul_self_inj (Vector2.mag_nonneg _) nonneg, square]
  simp only [Vector2.times_x, Vector2.times_y]
  linear_combination length * length * unit_cast

theorem mag_corner (across : offset.1 ≠ 0) (down : offset.2 ≠ 0) {length : K}
    (positive : 0 < length) : ((⟨offset.1, offset.2⟩ : Vector2 K).times length).mag ≠ length := by
  intro same
  have square := Vector2.mul_self_mag ((⟨offset.1, offset.2⟩ : Vector2 K).times length)
    (add_nonneg (mul_self_nonneg _) (mul_self_nonneg _))
  have wide : 2 ≤ offset.1 * offset.1 + offset.2 * offset.2 := by
    have first := mul_self_pos.mpr across
    have second := mul_self_pos.mpr down
    omega
  have wide_cast : (2 : K) ≤ offset.1 * offset.1 + offset.2 * offset.2 := by exact_mod_cast wide
  rw [same] at square
  simp only [Vector2.times_x, Vector2.times_y] at square
  nlinarith [mul_pos positive positive]

omit [Analytic K] [ExactRoot K] in
theorem getAdhesion_pos {material : Material} (solid : material ≠ .air) :
    (0 : K) < material.getAdhesion := by
  cases material with
  | air => exact absurd rfl solid
  | _ => simp only [Material.getAdhesion]; norm_num

omit [IsStrictOrderedRing K] in
theorem sqrt_zero : Analytic.sqrt (0 : K) = 0 := by
  have square := ExactRoot.mul_self_sqrt (0 : K) le_rfl
  exact mul_self_eq_zero.mp square

theorem mutualAdhesion_pos {first second : Material} (solid : first ≠ .air)
    (solid' : second ≠ .air) : (0 : K) < mutualAdhesion first second := by
  have positive : (0 : K) < first.getAdhesion * second.getAdhesion :=
    mul_pos (getAdhesion_pos solid) (getAdhesion_pos solid')
  refine lt_of_le_of_ne (ExactRoot.sqrt_nonneg _) (fun zero => ?_)
  have square := ExactRoot.mul_self_sqrt _ positive.le
  rw [← mutualAdhesion, ← zero, mul_zero] at square
  exact positive.ne square

theorem strength_pos (solid : (cells.at x y).materialType ≠ .air)
    (filled : 0 < (cells.at x y).fillRatio) (differs : Differs cells x y offset)
    (filled' : 0 < (cells.at (x + offset.1) (y + offset.2)).fillRatio) :
    0 < strength cells x y offset := by
  have adhesion := mutualAdhesion_pos (K := K) solid (not_or.mp differs.2.2).2
  have weight : (0 : K) < distanceWeight offset.1 offset.2 := by
    unfold distanceWeight
    split <;> norm_num
  exact mul_pos (mul_pos (mul_pos adhesion filled') filled) weight

omit [IsStrictOrderedRing K] in
theorem strength_air (air : (cells.at x y).materialType = .air) (offset : ℤ × ℤ) :
    strength cells x y offset = 0 := by
  simp [strength, mutualAdhesion, air, Material.getAdhesion, sqrt_zero]

variable (cells x y) in
/-- Contacts are at the sides, and the cell itself holds enough. -/
def Upright : Prop :=
  ¬ (cells.at x y).isEmpty → (cells.at x y).materialType ≠ .air →
    ∀ offset ∈ squareOffsets 1, Differs cells x y offset →
      (offset.1 = 0 ∨ offset.2 = 0) ∧ (cells.at x y).fillRatio > minMatterThreshold

section

omit [IsStrictOrderedRing K] [Analytic K] [ExactRoot K]

theorem pos_of_filled [IsStrictOrderedRing K] {fill : K} (filled : fill > minMatterThreshold) :
    0 < fill :=
  (Cell.minFillThreshold_pos (K := K)).trans filled

theorem not_isEmpty_of_filled {cell : Cell K} (filled : cell.fillRatio > minMatterThreshold) :
    ¬ cell.isEmpty :=
  Cell.not_isEmpty_iff.mpr filled.le

end

section

omit [IsStrictOrderedRing K]

theorem forceAt_air (air : (cells.at x y).materialType = .air) (offset : ℤ × ℤ) :
    forceAt cells x y offset = 0 := by
  rw [forceAt_eq, strength_air air]
  ext <;> simp

theorem mag_zero : (0 : Vector2 K).mag = 0 := by
  simp [Vector2.mag, sqrt_zero]

end

theorem mag_forceAt (listed : offset ∈ squareOffsets 1) (differs : Differs cells x y offset)
    (side : offset.1 = 0 ∨ offset.2 = 0) (solid : (cells.at x y).materialType ≠ .air)
    (filled : 0 < (cells.at x y).fillRatio)
    (filled' : 0 < (cells.at (x + offset.1) (y + offset.2)).fillRatio) :
    (forceAt cells x y offset).mag = strength cells x y offset := by
  rw [forceAt_eq]
  exact mag_side listed differs.1 side (strength_pos solid filled differs filled').le

/-- **Contacts are fair exactly when** they are at the sides of a cell that holds enough. -/
theorem fair_iff (filled : ¬ (cells.at x y).isEmpty → ∀ offset ∈ squareOffsets 1,
      Differs cells x y offset →
      (cells.at (x + offset.1) (y + offset.2)).fillRatio > minMatterThreshold)
    (inside : cells.InBounds x y) : Fair cells x y ∧ FairCached cells x y ↔ Upright cells x y := by
  constructor
  · rintro ⟨fair, -⟩ held solid offset listed differs
    have neighbor_filled := filled held offset listed differs
    have touches : Touches cells x y offset := ⟨differs, neighbor_filled⟩
    obtain ⟨long, opposite⟩ := fair offset listed held touches
    have contributed : contribution cells x y offset = forceAt cells x y offset := by
      rw [contribution_eq, if_pos ⟨held, touches⟩]
    have positive := strength_pos solid
      (Cell.minFillThreshold_pos.trans_le (Cell.not_isEmpty_iff.mp held)) differs
      (pos_of_filled neighbor_filled)
    rw [contributed] at long opposite
    refine ⟨?_, ?_⟩
    · by_contra corner
      obtain ⟨across, down⟩ := not_or.mp corner
      rw [forceAt_eq] at long
      exact mag_corner across down positive long
    · -- With less the neighbour does not count the contact.
      by_contra sparse
      have unnoticed : ¬ Touches cells (x + offset.1) (y + offset.2) (-offset) := by
        intro back
        have enough := back.2
        rw [at_back] at enough
        exact sparse enough
      rw [contribution_eq, if_neg (fun both => unnoticed both.2)] at opposite
      rw [neg_eq_zero.mp opposite.symm, mag_zero] at long
      exact positive.ne long
  · intro upright
    by_cases solid : (cells.at x y).materialType = .air
    · -- Both sides get nothing.
      have alone : ∀ offset, Differs cells x y offset →
          ¬ Differs cells (x + offset.1) (y + offset.2) (-offset) := fun offset differs back =>
        (differs_back inside differs).mp back solid
      refine ⟨fun offset listed held touches => ?_, fun offset listed held differs => ?_⟩
      · rw [contribution_eq, contribution_eq, if_pos ⟨held, touches⟩, forceAt_air solid,
          if_neg (fun both => alone offset touches.1 both.2.1), strength_air solid]
        exact ⟨mag_zero, neg_zero.symm⟩
      · refine ⟨0, ?_, ?_, ?_⟩
        · rw [contributionCached_eq inside listed, if_pos ⟨held, differs⟩, forceAt_air solid]
        · rw [mag_zero, strength_air solid]
        · rw [contributionCached_eq differs.2.1 (neg_mem_squareOffsets listed),
            if_neg (fun both => alone offset differs both.2), neg_zero]
    · have both : ∀ offset ∈ squareOffsets 1, ¬ (cells.at x y).isEmpty →
          Differs cells x y offset →
          (forceAt cells x y offset).mag = strength cells x y offset ∧
            ¬ (cells.at (x + offset.1) (y + offset.2)).isEmpty ∧
            Touches cells (x + offset.1) (y + offset.2) (-offset) := by
        intro offset listed held differs
        obtain ⟨side, enough⟩ := upright held solid offset listed differs
        have neighbor_filled := filled held offset listed differs
        refine ⟨mag_forceAt listed differs side solid (pos_of_filled enough)
          (pos_of_filled neighbor_filled), not_isEmpty_of_filled neighbor_filled,
          (differs_back inside differs).mpr solid, ?_⟩
        rwa [at_back]
      refine ⟨fun offset listed held touches => ?_, fun offset listed held differs => ?_⟩
      · obtain ⟨long, held', back⟩ := both offset listed held touches.1
        rw [contribution_eq, contribution_eq, if_pos ⟨held, touches⟩, if_pos ⟨held', back⟩]
        exact ⟨long, forceAt_back offset⟩
      · obtain ⟨long, held', back⟩ := both offset listed held differs
        refine ⟨forceAt cells x y offset, ?_, long, ?_⟩
        · rw [contributionCached_eq inside listed, if_pos ⟨held, differs⟩]
        · rw [contributionCached_eq differs.2.1 (neg_mem_squareOffsets listed),
            if_pos ⟨held', back.1⟩, forceAt_back]

end

end WorldAdhesionCalculator

end DirtSim
