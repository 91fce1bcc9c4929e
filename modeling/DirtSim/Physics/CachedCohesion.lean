import DirtSim.Core.Real
import DirtSim.Core.VectorSums
import DirtSim.Physics.CohesionForces

/-! # Cohesion from the cache

The cache counts a neighbour with just the least fill that is not empty, which the cells do not, and
answers for neighbours further away with other bits of the word. Elsewhere the cohesion is the same
(`cohesionAgrees_iff`).
-/

namespace DirtSim

open WorldCalculatorBase

variable {K : Type*} [Field K] [LinearOrder K]
variable {offset : ℤ × ℤ}

section

/-! ## Reading the packed materials -/

def packed (cells : CellArray K) (x y : ℤ) : MaterialNeighborhood :=
  (GridOfCells.new cells).getMaterialNeighborhood x y

variable {cells : CellArray K} {x y : ℤ}

theorem read_packed (inside : cells.InBounds x y) (near : offset ∈ offsets)
    (there : cells.InBounds (x + offset.1) (y + offset.2)) :
    (packed cells x y).read offset.1 offset.2 =
      some (cells.at (x + offset.1) (y + offset.2)).materialType := by
  have bounds := mem_offsets.mp near
  have whole : 0 ≤ ((offset.2 + 1) * 3 + (offset.1 + 1)) * 4 ∧
      ((offset.2 + 1) * 3 + (offset.1 + 1)) * 4 < 64 := by omega
  rw [MaterialNeighborhood.read, if_pos whole, packed,
    GridOfCells.getMaterialNeighborhood_new inside,
    GridOfCells.getMaterial_packMaterialsOrAir cells x y near, if_pos there]

theorem read_center (inside : cells.InBounds x y) :
    (packed cells x y).read 0 0 = some (cells.at x y).materialType := by
  have near : ((0, 0) : ℤ × ℤ) ∈ offsets := by decide
  have there : cells.InBounds (x + 0) (y + 0) := by rwa [add_zero, add_zero]
  have found := read_packed inside near there
  simpa only [add_zero] using found

theorem mem_squareOffsets {range : ℕ} : offset ∈ squareOffsets range ↔
    -range ≤ offset.1 ∧ offset.1 ≤ range ∧ -range ≤ offset.2 ∧ offset.2 ≤ range := by
  obtain ⟨dx, dy⟩ := offset
  simp only [squareOffsets, List.mem_flatMap, List.mem_map, List.mem_range, Prod.mk.injEq]
  constructor
  · rintro ⟨i, i_lt, j, j_lt, rfl, rfl⟩
    omega
  · rintro ⟨left, right, top, bottom⟩
    exact ⟨(dx + range).toNat, by omega, (dy + range).toNat, by omega, by omega, by omega⟩

end

section

/-! ## Loops that pass over some -/

variable {α σ : Type*}

theorem foldlM_eq_some {step : σ → α → Option σ} {step' : σ → α → σ} {members : List α}
    (each : ∀ member ∈ members, ∀ state, step state member = some (step' state member))
    (state : σ) : members.foldlM step state = some (members.foldl step' state) := by
  induction members generalizing state with
  | nil => rfl
  | cons member members ih =>
      rw [List.foldlM_cons, each member List.mem_cons_self]
      exact ih (fun other later => each other (List.mem_cons_of_mem _ later)) _

theorem foldlM_eq_none {step : σ → α → Option σ} {members : List α} {stuck : α}
    (listed : stuck ∈ members) (never : ∀ state, step state stuck = none) (state : σ) :
    members.foldlM step state = none := by
  induction members generalizing state with
  | nil => cases listed
  | cons member members ih =>
      rw [List.foldlM_cons]
      rcases List.mem_cons.mp listed with rfl | later
      · rw [never]
        rfl
      · cases step state member with
        | none => rfl
        | some after => exact ih later after

theorem length_filter_and (among chosen : α → Bool) (members : List α) :
    (members.filter fun member => among member && chosen member).length =
        (members.filter among).length ↔
      ∀ member ∈ members, among member = true → chosen member = true := by
  have twice : (members.filter fun member => among member && chosen member) =
      (members.filter among).filter chosen := by
    rw [List.filter_filter]
    simp [Bool.and_comm]
  rw [twice, List.length_filter_eq_length_iff]
  simp

end

namespace WorldCohesionCalculator

variable (cells : CellArray K) (x y : ℤ) (range : ℕ)

section

/-! ## The neighbours that are gathered -/

def OnAxis (offset : ℤ × ℤ) : Prop :=
  ¬ (offset.1 = 0 ∧ offset.2 = 0) ∧ ¬ (offset.1 ≠ 0 ∧ offset.2 ≠ 0) ∧
    cells.InBounds (x + offset.1) (y + offset.2)

instance (offset : ℤ × ℤ) : Decidable (OnAxis cells x y offset) :=
  inferInstanceAs (Decidable (_ ∧ _))

omit [Field K] [LinearOrder K] in
variable {cells x y} in
theorem OnAxis.there (axis : OnAxis cells x y offset) :
    cells.InBounds (x + offset.1) (y + offset.2) := axis.2.2

/-- The neighbours of the same material along the axes. -/
def kin : List (ℤ × ℤ) :=
  (squareOffsets range).filter fun offset => OnAxis cells x y offset ∧
    (cells.at (x + offset.1) (y + offset.2)).materialType = (cells.at x y).materialType

def filledKin : List (ℤ × ℤ) :=
  (squareOffsets range).filter fun offset =>
    decide (OnAxis cells x y offset ∧
      (cells.at (x + offset.1) (y + offset.2)).materialType = (cells.at x y).materialType) &&
    decide ((cells.at (x + offset.1) (y + offset.2)).fillRatio > minMatterThreshold)

def addAt (gathered : Gathered K) (offset : ℤ × ℤ) : Gathered K :=
  gathered.add (x + offset.1) (y + offset.2) (cells.at (x + offset.1) (y + offset.2))

def gathering (members : List (ℤ × ℤ)) : Gathered K :=
  members.foldl (addAt cells x y) .nothing

theorem gather_eq :
    gather cells x y range = gathering cells x y (filledKin cells x y range) := by
  rw [gather, gathering, filledKin, List.foldl_filter]
  congr 1
  funext gathered offset
  obtain ⟨dx, dy⟩ := offset
  simp only [gatherStep, OnAxis, addAt, Bool.and_eq_true, decide_eq_true_eq]
  split_ifs <;> simp_all

/-- Every distant neighbour is told apart by the bits that are read for it. -/
def FarReads : Prop :=
  ∀ offset ∈ squareOffsets range, offset ∉ offsets → OnAxis cells x y offset →
    ∃ material, (packed cells x y).read offset.1 offset.2 = some material ∧
      (material = (cells.at x y).materialType ↔
        (cells.at (x + offset.1) (y + offset.2)).materialType = (cells.at x y).materialType)

/-- A neighbour for which the word is shifted too far. -/
def UndefinedRead : Prop :=
  ∃ offset ∈ squareOffsets range, OnAxis cells x y offset ∧
    (packed cells x y).read offset.1 offset.2 = none

variable {cells x y range}

theorem gatherCached_eq (inside : cells.InBounds x y) (reads : FarReads cells x y range) :
    gatherCached cells x y range (packed cells x y) =
      some (gathering cells x y (kin cells x y range)) := by
  rw [gatherCached, gathering, kin, List.foldl_filter]
  refine foldlM_eq_some (fun offset listed gathered => ?_) _
  obtain ⟨dx, dy⟩ := offset
  simp only [gatherStepCached, decide_eq_true_eq]
  by_cases axis : OnAxis cells x y (dx, dy)
  · have found : ∃ material, (packed cells x y).read dx dy = some material ∧
        (material = (cells.at x y).materialType ↔
          (cells.at (x + dx) (y + dy)).materialType = (cells.at x y).materialType) := by
      by_cases near : (dx, dy) ∈ offsets
      · exact ⟨_, read_packed inside near axis.there, Iff.rfl⟩
      · exact reads _ listed near axis
    obtain ⟨material, read, same⟩ := found
    have elsewhere := axis.1
    have straight := axis.2.1
    have there := axis.there
    simp only at elsewhere straight there
    simp only [elsewhere, straight, there, read, read_center inside, axis, same, not_true_eq_false,
      ↓reduceIte, true_and, addAt]
    split_ifs <;> rfl
  · simp only [axis, false_and, ↓reduceIte]
    simp only [OnAxis] at axis
    split_ifs <;> first | rfl | exact absurd ⟨‹_›, ‹_›, ‹_›⟩ axis

theorem gatherCached_eq_none (undefined : UndefinedRead cells x y range) :
    gatherCached cells x y range (packed cells x y) = none := by
  obtain ⟨⟨dx, dy⟩, listed, axis, unread⟩ := undefined
  refine foldlM_eq_none listed (fun gathered => ?_) _
  have elsewhere := axis.1
  have straight := axis.2.1
  have there := axis.there
  simp only at elsewhere straight there unread
  simp only [gatherStepCached, elsewhere, straight, there, unread, not_true_eq_false, ↓reduceIte]
  cases (packed cells x y).read 0 0 <;> rfl

theorem farReads_one : FarReads cells x y 1 := by
  intro offset listed far
  exact absurd (mem_offsets.mpr (by simpa using mem_squareOffsets.mp listed)) far

end

section

/-! ## What is gathered -/

/-- The part of a cell in what is gathered from it, seen from the cell that gathers. -/
def moment (offset : ℤ × ℤ) : Vector2 K :=
  let neighbor := cells.at (x + offset.1) (y + offset.2)
  (⟨offset.1 + neighbor.com.x, offset.2 + neighbor.com.y⟩ : Vector2 K).times neighbor.fillRatio

def weightOf (offset : ℤ × ℤ) : K := (cells.at (x + offset.1) (y + offset.2)).fillRatio

variable {cells x y range}

section

omit [LinearOrder K]

theorem foldl_addAt (members : List (ℤ × ℤ)) (gathered : Gathered K) :
    members.foldl (addAt cells x y) gathered =
      { neighborCenterSum := gathered.neighborCenterSum + (members.map (moment cells x y)).sum +
          (⟨x, y⟩ : Vector2 K).times (members.map (weightOf cells x y)).sum
        totalWeight := gathered.totalWeight + (members.map (weightOf cells x y)).sum
        connectionCount := gathered.connectionCount + members.length } := by
  induction members generalizing gathered with
  | nil =>
      obtain ⟨⟨centerX, centerY⟩, weight, count⟩ := gathered
      simp [Vector2.ext_iff]
  | cons member members ih =>
      rw [List.foldl_cons, ih]
      simp only [addAt, Gathered.add, List.map_cons, List.sum_cons, List.length_cons,
        Gathered.mk.injEq, Vector2.ext_iff, Vector2.add_x, Vector2.add_y, Vector2.times_x,
        Vector2.times_y, moment, weightOf, Int.cast_add]
      refine ⟨⟨?_, ?_⟩, ?_, ?_⟩
      · ring
      · ring
      · ring
      · omega

theorem gathering_eq (members : List (ℤ × ℤ)) :
    gathering cells x y members =
      { neighborCenterSum := (members.map (moment cells x y)).sum +
          (⟨x, y⟩ : Vector2 K).times (members.map (weightOf cells x y)).sum
        totalWeight := (members.map (weightOf cells x y)).sum
        connectionCount := members.length } := by
  rw [gathering, foldl_addAt]
  simp [Gathered.nothing]

end

theorem lt_sum_weightOf [IsStrictOrderedRing K] {members : List (ℤ × ℤ)} (some_near : members ≠ [])
    (filled : ∀ member ∈ members, minMatterThreshold < weightOf cells x y member) :
    minMatterThreshold < (members.map (weightOf cells x y)).sum := by
  have positive : (0 : K) < minMatterThreshold := by
    unfold minMatterThreshold
    positivity
  obtain ⟨member, listed⟩ := List.exists_mem_of_ne_nil members some_near
  refine (filled member listed).trans_le ?_
  refine List.single_le_sum (fun weight weighed => ?_) _ (List.mem_map_of_mem listed)
  obtain ⟨other, among, rfl⟩ := List.mem_map.mp weighed
  exact (positive.trans (filled other among)).le

end

section

/-! ## The division of the alignment -/

variable [Analytic K]

/-- The direction to the neighbours is divided by a length of zero. -/
def DividesByZero (cell : Cell K) (gathered : Gathered K) : Prop :=
  ChecksAlignment x y range cell gathered ∧
    Analytic.sqrt (lengthSq (toNeighborsVec x y gathered)) = 0

/-- The neighbours pull evenly on a cell that is itself off balance, and strongly. -/
structure Balanced : Prop where
  near : kin cells x y range ≠ []
  even : ((kin cells x y range).map (moment cells x y)).sum = 0
  leaning : lengthSq (cells.at x y).com > 1 / 1000000
  strong : (clusteringMagnitude range (cells.at x y)
    ((kin cells x y range).map (weightOf cells x y)).sum
    (Analytic.sqrt (lengthSq (cells.at x y).com)) * (1 / 2)) ^ 2 > 1 / 1000000

variable {x y range} [IsStrictOrderedRing K] [ExactRoot K]

section

omit [Analytic K] [ExactRoot K]

theorem lengthSq_nonneg (vector : Vector2 K) : 0 ≤ lengthSq vector := by
  exact add_nonneg (mul_self_nonneg _) (mul_self_nonneg _)

theorem lengthSq_eq_zero {vector : Vector2 K} : lengthSq vector = 0 ↔ vector = 0 := by
  constructor
  · intro zero
    have squares : vector.x * vector.x + vector.y * vector.y = 0 := zero
    have nonneg := mul_self_nonneg vector.x
    have nonneg' := mul_self_nonneg vector.y
    ext
    · exact mul_self_eq_zero.mp (by linarith)
    · exact mul_self_eq_zero.mp (by linarith)
  · rintro rfl
    simp [lengthSq]

end

theorem sqrt_lengthSq_eq_zero {vector : Vector2 K} :
    Analytic.sqrt (lengthSq vector) = 0 ↔ vector = 0 := by
  have square := ExactRoot.mul_self_sqrt _ (lengthSq_nonneg vector)
  rw [← lengthSq_eq_zero, ← mul_self_eq_zero, square]

theorem lengthSq_clusteringForce {cell : Cell K} {gathered : Gathered K}
    (connected : Connected gathered) (middle : neighborCenter gathered = ⟨x, y⟩)
    (leaning : lengthSq cell.com > 1 / 1000000) :
    lengthSq (clusteringForce x y range cell gathered) =
      (clusteringMagnitude range cell gathered.totalWeight
        (Analytic.sqrt (lengthSq cell.com)) * (1 / 2)) ^ 2 := by
  have away : neighborCenter gathered - ⟨x + cell.com.x, y + cell.com.y⟩ = -cell.com := by
    rw [middle]
    ext <;> simp
  have same : lengthSq (-cell.com) = lengthSq cell.com := by simp [lengthSq]
  have square := ExactRoot.mul_self_sqrt _ (lengthSq_nonneg cell.com)
  have nonzero : Analytic.sqrt (lengthSq cell.com) ≠ 0 := by
    intro zero
    rw [zero, mul_zero] at square
    rw [← square] at leaning
    exact absurd leaning (by norm_num)
  simp only [clusteringForce, connected, away, same, leaning, ↓reduceIte]
  generalize clusteringMagnitude range cell gathered.totalWeight
    (Analytic.sqrt (lengthSq cell.com)) = magnitude
  generalize Analytic.sqrt (lengthSq cell.com) = root at square nonzero
  simp only [lengthSq, Vector2.times_x, Vector2.times_y, Vector2.neg_x, Vector2.neg_y] at square ⊢
  field_simp
  linear_combination -magnitude ^ 2 * square

omit [IsStrictOrderedRing K] [ExactRoot K] in
theorem ChecksAlignment.connected {cell : Cell K} {gathered : Gathered K}
    [IsStrictOrderedRing K] (checks : ChecksAlignment x y range cell gathered) :
    Connected gathered := by
  by_contra apart
  have strong := checks.1
  rw [clusteringForce, if_neg apart] at strong
  simp only [lengthSq, Vector2.zero_x, Vector2.zero_y, mul_zero, add_zero] at strong
  exact absurd strong (by norm_num)

omit [ExactRoot K] [Analytic K] in
theorem neighborCenter_eq_iff {members : List (ℤ × ℤ)}
    (connected : Connected (gathering cells x y members)) :
    neighborCenter (gathering cells x y members) = ⟨x, y⟩ ↔
      (members.map (moment cells x y)).sum = 0 := by
  have positive : (0 : K) < minMatterThreshold := by
    unfold minMatterThreshold
    positivity
  have heavy := positive.trans connected.2
  rw [neighborCenter, if_pos connected]
  rw [gathering_eq] at heavy ⊢
  have nonzero := heavy.ne'
  simp [Vector2.ext_iff, Vector2.divide, Vector2.add_x, Vector2.add_y, Vector2.times_x,
    Vector2.times_y, Vector2.zero_x, Vector2.zero_y, div_eq_iff nonzero]

/-- **The length divided by is zero exactly when the neighbours pull evenly** on a cell that leans,
and strongly. -/
theorem dividesByZero_iff (filled : ∀ offset ∈ kin cells x y range,
      minMatterThreshold < weightOf cells x y offset) :
    DividesByZero x y range (cells.at x y) (gathering cells x y (kin cells x y range)) ↔
      Balanced cells x y range := by
  have weight : (gathering cells x y (kin cells x y range)).totalWeight =
      ((kin cells x y range).map (weightOf cells x y)).sum := by rw [gathering_eq]
  have count : (gathering cells x y (kin cells x y range)).connectionCount =
      (kin cells x y range).length := by rw [gathering_eq]
  have middle_iff : toNeighborsVec x y (gathering cells x y (kin cells x y range)) = 0 ↔
      neighborCenter (gathering cells x y (kin cells x y range)) = ⟨x, y⟩ := sub_eq_zero
  constructor
  · rintro ⟨checks, zero⟩
    have connected := checks.connected
    have middle := middle_iff.mp (sqrt_lengthSq_eq_zero.mp zero)
    have strong := checks.1
    rw [lengthSq_clusteringForce connected middle checks.2, weight] at strong
    refine ⟨?_, (neighborCenter_eq_iff cells connected).mp middle, checks.2, strong⟩
    rw [← List.length_pos_iff_ne_nil, ← count]
    exact connected.1
  · intro balanced
    have connected : Connected (gathering cells x y (kin cells x y range)) := by
      refine ⟨?_, ?_⟩
      · rw [count]
        exact List.length_pos_iff_ne_nil.mpr balanced.near
      · rw [weight]
        exact lt_sum_weightOf balanced.near filled
    have middle := (neighborCenter_eq_iff cells connected).mpr balanced.even
    refine ⟨⟨?_, balanced.leaning⟩, sqrt_lengthSq_eq_zero.mpr (middle_iff.mpr middle)⟩
    rw [lengthSq_clusteringForce connected middle balanced.leaning, weight]
    exact balanced.strong

end

section

/-! ## The same force -/

variable [Analytic K]

/-- The same force, connections and resistance. -/
structure SameForce (first second : COMCohesionForce K) : Prop where
  forceDirection : first.forceDirection = second.forceDirection
  forceMagnitude : first.forceMagnitude = second.forceMagnitude
  activeConnections : first.activeConnections = second.activeConnections
  resistanceMagnitude : first.resistanceMagnitude = second.resistanceMagnitude

/-- The cache has an answer, and it is that of the cells. -/
def CohesionAgrees : Prop :=
  ∃ cached, calculateCOMCohesionForceCached cells x y range (packed cells x y) = some cached ∧
    SameForce cached (calculateCOMCohesionForce cells x y range)

variable {cells x y range}

omit [Analytic K] in
theorem filledKin_eq (filled : ∀ offset ∈ kin cells x y range,
    minMatterThreshold < weightOf cells x y offset) :
    filledKin cells x y range = kin cells x y range := by
  refine List.filter_congr fun offset listed => ?_
  rw [Bool.and_eq_left_iff_imp]
  intro related
  exact decide_eq_true (filled offset (List.mem_filter.mpr ⟨listed, related⟩))

theorem cohesionAgrees_air (air : (cells.at x y).materialType = .air) :
    CohesionAgrees cells x y range := by
  rw [CohesionAgrees, calculateCOMCohesionForceCached, calculateCOMCohesionForce, if_pos air,
    if_pos air]
  exact ⟨_, rfl, rfl, rfl, rfl, rfl⟩

/-- **Both ways agree exactly when** every neighbour of the same material holds enough. -/
theorem cohesionAgrees_iff (inside : cells.InBounds x y) (reads : FarReads cells x y range)
    (solid : (cells.at x y).materialType ≠ .air) :
    CohesionAgrees cells x y range ↔
      ∀ offset ∈ kin cells x y range, minMatterThreshold < weightOf cells x y offset := by
  rw [CohesionAgrees, calculateCOMCohesionForceCached, calculateCOMCohesionForce, if_neg solid,
    if_neg solid, gatherCached_eq inside reads, gather_eq]
  constructor
  · rintro ⟨cached, found, same⟩ offset listed
    cases found
    have count : (kin cells x y range).length = (filledKin cells x y range).length := by
      simpa only [forceFrom, gathering_eq] using same.activeConnections
    obtain ⟨among, related⟩ := List.mem_filter.mp listed
    exact of_decide_eq_true ((length_filter_and _ _ _).mp count.symm offset among related)
  · intro filled
    rw [filledKin_eq filled]
    exact ⟨_, rfl, rfl, rfl, rfl, rfl⟩

theorem not_cohesionAgrees (solid : (cells.at x y).materialType ≠ .air)
    (undefined : UndefinedRead cells x y range) : ¬ CohesionAgrees cells x y range := by
  rintro ⟨cached, found, -⟩
  rw [calculateCOMCohesionForceCached, if_neg solid, gatherCached_eq_none undefined] at found
  cases found

end

end WorldCohesionCalculator

end DirtSim
