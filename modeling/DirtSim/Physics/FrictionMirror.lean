import DirtSim.Physics.FrictionPaths

/-! # Friction in a mirror

The world is mirrored left to right. Contacts between a cell and the one below are mirrored with it.
A contact of cells side by side is pressed by the excess pressure of the left cell only, and a wall
counts only as the right one, so that friction is mirrored exactly when no two cells side by side
pass any friction (`friction_mirrored_iff`).
-/

namespace DirtSim

open Foundation

namespace WorldFrictionCalculator

variable {K : Type*} [Field K] [LinearOrder K]
variable (vector : Vector2 K)

section

/-! ## The mirrored world -/

def mirrorVector (vector : Vector2 K) : Vector2 K := ⟨-vector.x, vector.y⟩

def mirrorCell (cell : Cell K) : Cell K := { cell with velocity := mirrorVector cell.velocity }

variable (cells : CellArray K)

def mirrorPos (pos : Vector2i) : Vector2i := ⟨cells.width - 1 - pos.x, pos.y⟩

def mirror : CellArray K where
  toGrid := Grid.generate cells.width cells.height fun x y =>
    mirrorCell (cells.cellAt (mirrorPos cells ⟨x, y⟩))
  width_pos := cells.width_pos
  height_pos := cells.height_pos
  width_le := cells.width_le
  height_le := cells.height_le

/-- The friction on every cell of the mirrored world is the mirror image of the friction on the
mirrored cell. -/
def Mirrored [Analytic K] (gravity frictionStrength deltaTime : K) : Prop :=
  ∀ pos, cells.InBounds pos.x pos.y →
    read (accumulateFrictionForces (mirror cells) gravity frictionStrength deltaTime
        (cleared (mirror cells))) pos =
      mirrorVector (read (accumulateFrictionForces cells gravity frictionStrength deltaTime
        (cleared cells)) (mirrorPos cells pos))

variable {cells} {pos : Vector2i}

section

omit [LinearOrder K]

@[simp] theorem mirrorVector_x : (mirrorVector vector).x = -vector.x := rfl

@[simp] theorem mirrorVector_y : (mirrorVector vector).y = vector.y := rfl

end

section

omit [Field K] [LinearOrder K]

theorem mirrorPos_mirrorPos : mirrorPos cells (mirrorPos cells pos) = pos := by
  ext
  · simp only [mirrorPos]
    omega
  · rfl

theorem inBounds_mirrorPos : cells.InBounds (mirrorPos cells pos).x (mirrorPos cells pos).y ↔
    cells.InBounds pos.x pos.y := by
  simp only [Grid.InBounds, mirrorPos]
  omega

end

section

omit [LinearOrder K]

theorem cellAt_outside (outside : ¬ cells.InBounds pos.x pos.y) : cells.cellAt pos = .blank := by
  rw [CellArray.cellAt, CellArray.at, Grid.get?_of_not_inBounds outside, Option.getD_none]

theorem cellAt_mirror : (mirror cells).cellAt pos = mirrorCell (cells.cellAt (mirrorPos cells pos)) := by
  by_cases inside : cells.InBounds pos.x pos.y
  · have bounds : 0 ≤ pos.x ∧ 0 ≤ pos.y ∧ pos.x < cells.width ∧ pos.y < cells.height := inside
    rw [CellArray.cellAt, CellArray.at, mirror, Grid.get?_generate, if_pos bounds, Option.getD_some]
  · have outside : ¬ (mirror cells).InBounds pos.x pos.y := inside
    rw [cellAt_outside outside, cellAt_outside fun here => inside (inBounds_mirrorPos.mp here)]
    have still : mirrorVector (0 : Vector2 K) = 0 := Vector2.ext neg_zero rfl
    simp [mirrorCell, Cell.blank, still]

end

end

section

/-! ## What two cells pass between them -/

variable [Analytic K] (gravity frictionStrength deltaTime : K)

/-- Two cells rub against each other with some force. -/
structure Presses (normal : Vector2 K) (cellA cellB : Cell K) : Prop where
  first : skipsFirst cellA = false
  second : skipsSecond cellB = false
  pressed : minNormalForce ≤ calculateNormalForce gravity cellA cellB normal
  slips : minTangentialSpeed ≤
    (calculateTangentialVelocity (cellA.velocity - cellB.velocity) normal).mag

/-- The strength of the friction between two cells. -/
def pairMagnitude (normal : Vector2 K) (cellA cellB : Cell K) : K :=
  let speed := (calculateTangentialVelocity (cellA.velocity - cellB.velocity) normal).mag
  min (calculateFrictionCoefficient speed cellA.materialType.getContactProperties
      cellB.materialType.getContactProperties *
        calculateNormalForce gravity cellA cellB normal * frictionStrength)
    (calculateTangentialSlipCancellationForce cellA cellB speed deltaTime)

open Classical in
noncomputable def pairForce (normal : Vector2 K) (cellA cellB : Cell K) : Vector2 K :=
  let magnitude := pairMagnitude gravity frictionStrength deltaTime normal cellA cellB
  if Presses gravity normal cellA cellB then
    if magnitude ≤ 0 then 0
    else ((calculateTangentialVelocity (cellA.velocity - cellB.velocity) normal).normalize.times
      (-1)).times magnitude
  else 0

variable (cells : CellArray K)

def amount (pos offset : Vector2i) : Vector2 K :=
  if Rubs cells gravity pos offset then
    contactForce cells frictionStrength deltaTime (contact cells gravity pos offset)
  else 0

variable {gravity frictionStrength deltaTime cells} {pos offset : Vector2i}

section

omit [Analytic K]

theorem skipsFirst_blank : skipsFirst (Cell.blank : Cell K) = true := by
  simp [skipsFirst, Cell.blank, Material.getProperties]

theorem skipsSecond_blank : skipsSecond (Cell.blank : Cell K) = true := by
  simp [skipsSecond, Cell.blank, Material.getProperties]

end

theorem received_contactsOf (place : Vector2i) :
    Exchange.received ((contactsOf cells gravity pos).map
        (exchange cells frictionStrength deltaTime)) place =
      Exchange.received (offsets.map fun offset =>
        ⟨pos, pos + offset, amount gravity frictionStrength deltaTime cells pos offset⟩) place := by
  unfold contactsOf
  induction offsets with
  | nil => rfl
  | cons offset rest ih =>
      rw [List.map_cons, Exchange.received_cons, ← ih]
      by_cases rubs : Rubs cells gravity pos offset
      · simp [rubs, amount, exchange]
      · simp [rubs, amount, Exchange.share]

theorem read_accumulateFrictionForces :
    read (accumulateFrictionForces cells gravity frictionStrength deltaTime (cleared cells)) pos =
      (offsets.map fun offset =>
        amount gravity frictionStrength deltaTime cells pos offset -
          amount gravity frictionStrength deltaTime cells (pos - offset) offset).sum := by
  have outside (place : Vector2i) (absent : place ∉ Vector2i.positions cells.width cells.height)
      (offset : Vector2i) : amount gravity frictionStrength deltaTime cells place offset = 0 := by
    refine if_neg fun rubs => ?_
    have blank := rubs.first
    rw [cellAt_outside fun here => absent (Vector2i.mem_positions.mpr here),
      skipsFirst_blank] at blank
    cases blank
  have inverse (offset source target : Vector2i) :
      source + offset = target ↔ source = target - offset := by
    constructor
    · rintro rfl
      ext <;> simp
    · rintro rfl
      ext <;> simp
  rw [← Exchange.received_scan (fun offset place => place + offset)
    (fun offset place => place - offset) (amount gravity frictionStrength deltaTime cells)
    Vector2i.nodup_positions offsets inverse outside pos, accumulateFrictionForces_eq,
    read_accumulateFrictionFromContacts (fun _ => inside_of_mem), read_cleared, zero_add,
    detectContactInterfaces_eq, List.map_flatMap, Exchange.received_flatMap,
    Exchange.received_flatMap]
  simp [received_contactsOf]

theorem amount_of_apart (among : offset ∈ offsets) (apart : ¬ (offset = ⟨0, 1⟩ ∨ offset = ⟨1, 0⟩)) :
    amount gravity frictionStrength deltaTime cells pos offset = 0 :=
  if_neg fun rubs => apart (eq_of_not_skipsPair among rubs.pair)

omit [LinearOrder K] [Analytic K] in
theorem sum_offsets {value : Vector2i → Vector2 K}
    (apart : ∀ offset ∈ offsets, ¬ (offset = ⟨0, 1⟩ ∨ offset = ⟨1, 0⟩) → value offset = 0) :
    (offsets.map value).sum = value ⟨0, 1⟩ + value ⟨1, 0⟩ := by
  have zeros : ∀ offset ∈ ([⟨-1, -1⟩, ⟨-1, 0⟩, ⟨-1, 1⟩, ⟨0, -1⟩, ⟨0, 0⟩, ⟨1, -1⟩, ⟨1, 1⟩] :
      List Vector2i), value offset = 0 := fun offset listed =>
    apart offset (by revert offset; decide) (by revert offset; decide)
  simp only [List.forall_mem_cons, List.not_mem_nil, false_imp_iff, implies_true, and_true] at zeros
  obtain ⟨first, second, third, fourth, fifth, sixth, last⟩ := zeros
  have listed : offsets = [⟨-1, -1⟩, ⟨-1, 0⟩, ⟨-1, 1⟩, ⟨0, -1⟩, ⟨0, 0⟩, ⟨0, 1⟩, ⟨1, -1⟩, ⟨1, 0⟩,
    ⟨1, 1⟩] := rfl
  simp [listed, first, second, third, fourth, fifth, sixth, last]

variable [IsStrictOrderedRing K] [ExactRoot K]

/-- What a cell exchanges with a neighbour depends on the two cells only. Outside the world there is
nothing to rub against. -/
theorem amount_eq_pairForce (beside : offset = ⟨0, 1⟩ ∨ offset = ⟨1, 0⟩) :
    amount gravity frictionStrength deltaTime cells pos offset =
      pairForce gravity frictionStrength deltaTime offset.toVector2 (cells.cellAt pos)
        (cells.cellAt (pos + offset)) := by
  have normal := normalize_toVector2 (K := K) beside
  by_cases inside : cells.InBounds (pos + offset).x (pos + offset).y
  · have pair : ¬ skipsPair cells pos offset := by
      rcases beside with rfl | rfl <;> simp [skipsPair] at inside ⊢ <;> exact inside
    have same : Rubs cells gravity pos offset ↔ Presses gravity offset.toVector2
        (cells.cellAt pos) (cells.cellAt (pos + offset)) := by
      rw [rubs_iff]
      simp only [contact, normal]
      constructor
      · rintro ⟨first, -, second, pressed, slips⟩
        exact ⟨first, second, pressed, slips⟩
      · rintro ⟨first, second, pressed, slips⟩
        exact ⟨first, pair, second, pressed, slips⟩
    unfold amount pairForce
    by_cases rubs : Rubs cells gravity pos offset
    · rw [if_pos rubs, if_pos (same.mp rubs)]
      simp only [contactForce, contact, normal]
      rfl
    · rw [if_neg rubs, if_neg fun presses => rubs (same.mpr presses)]
  · have apart : ¬ Rubs cells gravity pos offset := fun rubs => inside rubs.inside
    rw [amount, if_neg apart, cellAt_outside inside, pairForce]
    refine (if_neg fun presses => ?_).symm
    cases skipsSecond_blank.symm.trans presses.second

theorem read_accumulateFrictionForces_eq :
    read (accumulateFrictionForces cells gravity frictionStrength deltaTime (cleared cells)) pos =
      (pairForce gravity frictionStrength deltaTime ⟨0, 1⟩ (cells.cellAt pos)
          (cells.cellAt (pos + ⟨0, 1⟩)) -
        pairForce gravity frictionStrength deltaTime ⟨0, 1⟩ (cells.cellAt (pos - ⟨0, 1⟩))
          (cells.cellAt pos)) +
      (pairForce gravity frictionStrength deltaTime ⟨1, 0⟩ (cells.cellAt pos)
          (cells.cellAt (pos + ⟨1, 0⟩)) -
        pairForce gravity frictionStrength deltaTime ⟨1, 0⟩ (cells.cellAt (pos - ⟨1, 0⟩))
          (cells.cellAt pos)) := by
  have back (step : Vector2i) : pos - step + step = pos := by
    ext <;> simp
  have down : (Vector2i.toVector2 ⟨0, 1⟩ : Vector2 K) = ⟨0, 1⟩ := by simp [Vector2i.toVector2]
  have right : (Vector2i.toVector2 ⟨1, 0⟩ : Vector2 K) = ⟨1, 0⟩ := by simp [Vector2i.toVector2]
  rw [read_accumulateFrictionForces, sum_offsets, amount_eq_pairForce (.inl rfl),
    amount_eq_pairForce (.inl rfl), amount_eq_pairForce (.inr rfl),
    amount_eq_pairForce (.inr rfl), back, back, down, right]
  intro offset among apart
  rw [amount_of_apart among apart, amount_of_apart among apart, sub_zero]

end

section

/-! ## Mirror images of forces -/

variable {cellA cellB : Cell K} {normal : Vector2 K}

omit [LinearOrder K] in
theorem calculateTangentialVelocity_mirror (axis : normal = ⟨0, 1⟩ ∨ normal = ⟨1, 0⟩) :
    calculateTangentialVelocity ((mirrorCell cellA).velocity - (mirrorCell cellB).velocity) normal =
      mirrorVector (calculateTangentialVelocity (cellA.velocity - cellB.velocity) normal) := by
  rcases axis with rfl | rfl <;> ext <;>
    simp only [calculateTangentialVelocity, mirrorCell, Vector2.dot, mirrorVector_x, mirrorVector_y,
      Vector2.sub_x, Vector2.sub_y, Vector2.times_x, Vector2.times_y] <;> ring

variable [Analytic K] {gravity frictionStrength deltaTime : K}

omit [LinearOrder K] in
@[simp] theorem mag_mirrorVector : (mirrorVector vector).mag = vector.mag := by
  simp [Vector2.mag]

theorem normalize_mirrorVector :
    (mirrorVector vector).normalize = mirrorVector vector.normalize := by
  unfold Vector2.normalize
  rw [mag_mirrorVector]
  split_ifs
  · ext <;> simp
  · rfl

theorem pairForce_mirror (axis : normal = ⟨0, 1⟩ ∨ normal = ⟨1, 0⟩) :
    pairForce gravity frictionStrength deltaTime normal (mirrorCell cellA) (mirrorCell cellB) =
      mirrorVector (pairForce gravity frictionStrength deltaTime normal cellA cellB) := by
  have slip := @calculateTangentialVelocity_mirror K _ cellA cellB _ axis
  have magnitude : pairMagnitude gravity frictionStrength deltaTime normal (mirrorCell cellA)
      (mirrorCell cellB) = pairMagnitude gravity frictionStrength deltaTime normal cellA cellB := by
    unfold pairMagnitude
    rw [slip, mag_mirrorVector]
    rfl
  have presses : Presses gravity normal (mirrorCell cellA) (mirrorCell cellB) ↔
      Presses gravity normal cellA cellB := by
    constructor
    · rintro ⟨first, second, pressed, slips⟩
      rw [slip, mag_mirrorVector] at slips
      exact ⟨first, second, pressed, slips⟩
    · rintro ⟨first, second, pressed, slips⟩
      refine ⟨first, second, pressed, ?_⟩
      rw [slip, mag_mirrorVector]
      exact slips
  have still : mirrorVector (0 : Vector2 K) = 0 := Vector2.ext neg_zero rfl
  unfold pairForce
  rw [magnitude, slip, normalize_mirrorVector]
  by_cases both : Presses gravity normal cellA cellB
  · rw [if_pos (presses.mpr both), if_pos both]
    split_ifs
    · exact still.symm
    · ext <;> simp
  · rw [if_neg fun mirrored => both (presses.mp mirrored), if_neg both, still]

theorem pairForce_right_x :
    (pairForce gravity frictionStrength deltaTime ⟨1, 0⟩ cellA cellB).x = 0 := by
  have flat : (calculateTangentialVelocity (cellA.velocity - cellB.velocity) ⟨1, 0⟩).x = 0 := by
    simp [calculateTangentialVelocity, Vector2.dot]
  unfold pairForce Vector2.normalize
  dsimp only
  split_ifs <;> simp [flat]

variable (gravity frictionStrength deltaTime) in
/-- What is missing to the symmetry of the contact between a cell and the one to its right. -/
noncomputable def bias (cells : CellArray K) (pos : Vector2i) : Vector2 K :=
  pairForce gravity frictionStrength deltaTime ⟨1, 0⟩ (cells.cellAt pos)
      (cells.cellAt (pos + ⟨1, 0⟩)) +
    pairForce gravity frictionStrength deltaTime ⟨1, 0⟩ (cells.cellAt (pos + ⟨1, 0⟩))
      (cells.cellAt pos)

variable [IsStrictOrderedRing K] [ExactRoot K] {cells : CellArray K}

theorem mirrored_iff_bias : Mirrored cells gravity frictionStrength deltaTime ↔
    ∀ pos, cells.InBounds pos.x pos.y →
      bias gravity frictionStrength deltaTime cells (pos - ⟨1, 0⟩) =
        bias gravity frictionStrength deltaTime cells pos := by
  have image (pos : Vector2i) : read (accumulateFrictionForces (mirror cells) gravity
        frictionStrength deltaTime (cleared (mirror cells))) (mirrorPos cells pos) =
      mirrorVector (read (accumulateFrictionForces cells gravity frictionStrength deltaTime
        (cleared cells)) pos) ↔
      bias gravity frictionStrength deltaTime cells (pos - ⟨1, 0⟩) =
        bias gravity frictionStrength deltaTime cells pos := by
    have below : mirrorPos cells (mirrorPos cells pos + ⟨0, 1⟩) = pos + ⟨0, 1⟩ := by
      ext <;> simp [mirrorPos]
    have above : mirrorPos cells (mirrorPos cells pos - ⟨0, 1⟩) = pos - ⟨0, 1⟩ := by
      ext <;> simp [mirrorPos]
    have left : mirrorPos cells (mirrorPos cells pos + ⟨1, 0⟩) = pos - ⟨1, 0⟩ := by
      ext <;> simp [mirrorPos]
      omega
    have right : mirrorPos cells (mirrorPos cells pos - ⟨1, 0⟩) = pos + ⟨1, 0⟩ := by
      ext <;> simp [mirrorPos]
      omega
    have back : pos - ⟨1, 0⟩ + ⟨1, 0⟩ = pos := by
      ext <;> simp
    rw [read_accumulateFrictionForces_eq, read_accumulateFrictionForces_eq]
    simp only [cellAt_mirror, mirrorPos_mirrorPos, below, above, left, right, bias, back]
    rw [pairForce_mirror (.inl rfl), pairForce_mirror (.inl rfl), pairForce_mirror (.inr rfl),
      pairForce_mirror (.inr rfl)]
    generalize cells.cellAt pos = here
    generalize cells.cellAt (pos + ⟨1, 0⟩) = next
    generalize cells.cellAt (pos - ⟨1, 0⟩) = previous
    have flat (cellA cellB : Cell K) :
        (pairForce gravity frictionStrength deltaTime ⟨1, 0⟩ cellA cellB).x = 0 := pairForce_right_x
    constructor
    · intro same
      have upright := congrArg Vector2.y same
      simp only [mirrorVector_y, Vector2.add_y, Vector2.sub_y] at upright
      ext
      · simp [Vector2.add_x, flat]
      · simp only [Vector2.add_y]
        linear_combination upright
    · intro same
      have upright := congrArg Vector2.y same
      simp only [Vector2.add_y] at upright
      ext
      · simp only [mirrorVector_x, Vector2.add_x, Vector2.sub_x, flat]
        ring
      · simp only [mirrorVector_y, Vector2.add_y, Vector2.sub_y]
        linear_combination upright
  constructor
  · intro mirrored pos inside
    have there := mirrored (mirrorPos cells pos) (inBounds_mirrorPos.mpr inside)
    rw [mirrorPos_mirrorPos] at there
    exact (image pos).mp there
  · intro same pos inside
    have there := (image (mirrorPos cells pos)).mpr
      (same (mirrorPos cells pos) (inBounds_mirrorPos.mpr inside))
    rwa [mirrorPos_mirrorPos] at there

omit [IsStrictOrderedRing K] [ExactRoot K] in
theorem bias_outside {pos : Vector2i} (outside : ¬ cells.InBounds pos.x pos.y) :
    bias gravity frictionStrength deltaTime cells pos = 0 := by
  rw [bias, cellAt_outside outside, pairForce, pairForce, if_neg, if_neg, add_zero]
  · intro presses
    cases skipsSecond_blank.symm.trans presses.second
  · intro presses
    cases skipsFirst_blank.symm.trans presses.first

/-- Friction is mirrored when no contact of two cells side by side is biased: from the left border on
no bias can begin. -/
theorem mirrored_iff_unbiased : Mirrored cells gravity frictionStrength deltaTime ↔
    ∀ pos, cells.InBounds pos.x pos.y → bias gravity frictionStrength deltaTime cells pos = 0 := by
  rw [mirrored_iff_bias]
  constructor
  · intro same
    have row (x : ℕ) (y : ℤ) (inside : cells.InBounds x y) :
        bias gravity frictionStrength deltaTime cells ⟨x, y⟩ = 0 := by
      induction x with
      | zero =>
          rw [← same _ inside]
          refine bias_outside fun there => ?_
          have left : (0 : ℤ) ≤ 0 - 1 := there.1
          omega
      | succ x ih =>
          have back : (⟨(x + 1 : ℕ), y⟩ : Vector2i) - ⟨1, 0⟩ = ⟨x, y⟩ := by
            ext <;> simp
          have before : cells.InBounds x y := by
            obtain ⟨-, top, right, bottom⟩ := inside
            exact ⟨Int.natCast_nonneg x, top, by omega, bottom⟩
          rw [← same _ inside, back]
          exact ih before
    rintro ⟨x, y⟩ inside
    obtain ⟨column, rfl⟩ := Int.eq_ofNat_of_zero_le inside.1
    exact row column y inside
  · intro unbiased pos inside
    have here : bias gravity frictionStrength deltaTime cells (pos - ⟨1, 0⟩) = 0 := by
      by_cases before : cells.InBounds (pos - ⟨1, 0⟩).x (pos - ⟨1, 0⟩).y
      · exact unbiased _ before
      · exact bias_outside before
    rw [here, unbiased pos inside]

end

section

/-! ## Biased contacts -/

/-- A cell passes friction on to the next one in its row: it is solid and no wall, the next one is
solid or a wall, its pressure is higher, and the two slip past each other. -/
structure Transmits (frictionStrength deltaTime : K) (cellA cellB : Cell K) : Prop where
  first : ¬ cellA.isEmpty ∧ ¬ cellA.isWall ∧
    (Material.getProperties (K := K) cellA.materialType).isFluid = false
  second : ¬ cellB.isEmpty ∧ (Material.getProperties (K := K) cellB.materialType).isFluid = false
  pressed : 1 / 100 ≤ (cellA.pressure - cellB.pressure) * cellA.fillRatio
  slips : 1 / 1000000 ≤ |cellA.velocity.y - cellB.velocity.y|
  strength_pos : 0 < frictionStrength
  forward : 0 < deltaTime

variable {cellA cellB : Cell K} {gravity frictionStrength deltaTime : K}

theorem skipsFirst_eq_false : skipsFirst cellA = false ↔
    ¬ cellA.isEmpty ∧ ¬ cellA.isWall ∧
      (Material.getProperties (K := K) cellA.materialType).isFluid = false := by
  simp [skipsFirst, and_assoc]

theorem skipsSecond_eq_false : skipsSecond cellB = false ↔
    ¬ cellB.isEmpty ∧ (Material.getProperties (K := K) cellB.materialType).isFluid = false := by
  simp [skipsSecond]

variable [IsStrictOrderedRing K]

theorem fillRatio_pos (filled : ¬ cellA.isEmpty) : 0 < cellA.fillRatio :=
  Cell.minFillThreshold_pos.trans_le (Cell.not_isEmpty_iff.mp filled)

theorem density_pos (material : Material) : (0 : K) < material.getDensity := by
  cases material <;> simp only [Material.getDensity, Material.getProperties] <;> positivity

theorem mass_pos (filled : ¬ cellA.isEmpty) : 0 < cellA.getMass := by
  rw [Cell.getMass, if_neg filled]
  exact mul_pos (fillRatio_pos filled) (density_pos _)

theorem normalForce_right : calculateNormalForce gravity cellA cellB ⟨1, 0⟩ =
    if cellA.pressure - cellB.pressure > 0 then
      (cellA.pressure - cellB.pressure) * cellA.fillRatio
    else 0 := by
  have half : (0 : K) < 1 / 2 := by positivity
  unfold calculateNormalForce
  rw [if_neg (not_lt.mpr half.le), if_neg (not_lt.mpr (neg_nonpos.mpr half.le))]

theorem pressed_iff (filled : ¬ cellA.isEmpty) :
    minNormalForce ≤ calculateNormalForce gravity cellA cellB ⟨1, 0⟩ ↔
      1 / 100 ≤ (cellA.pressure - cellB.pressure) * cellA.fillRatio := by
  have least : (0 : K) < 1 / 100 := by positivity
  rw [normalForce_right, minNormalForce]
  split_ifs with higher
  · rfl
  · refine iff_of_false (not_le.mpr least) (not_le.mpr ?_)
    exact (mul_nonpos_of_nonpos_of_nonneg (not_lt.mp higher) (fillRatio_pos filled).le).trans_lt least

theorem Transmits.not_symm (transmits : Transmits frictionStrength deltaTime cellA cellB) :
    ¬ Transmits frictionStrength deltaTime cellB cellA := by
  intro back
  have least : (0 : K) < 1 / 100 := by positivity
  have higher : 0 < cellA.pressure - cellB.pressure :=
    pos_of_mul_pos_left (least.trans_le transmits.pressed) (fillRatio_pos transmits.first.1).le
  have lower : 0 < cellB.pressure - cellA.pressure :=
    pos_of_mul_pos_left (least.trans_le back.pressed) (fillRatio_pos back.first.1).le
  linarith

theorem cancellation_pos_iff (moves : cellA.isWall = false) (filled : ¬ cellA.isEmpty)
    (filled' : ¬ cellB.isEmpty) {speed : K} (speed_pos : 0 < speed) :
    0 < calculateTangentialSlipCancellationForce cellA cellB speed deltaTime ↔ 0 < deltaTime := by
  refine ⟨fun positive => (exists_effectiveMass moves positive).1, fun forward => ?_⟩
  have massA := mass_pos filled
  have massB := mass_pos filled'
  have moves' : ¬ cellA.isWall = true := Bool.eq_false_iff.mp moves
  have combined : cellA.getMass + cellB.getMass > 0 := by positivity
  have first : ¬ (cellA.isWall = true ∧ ¬ cellB.isWall = true) := fun both => moves' both.1
  unfold calculateTangentialSlipCancellationForce
  dsimp only
  rw [if_neg (not_le.mpr forward), if_neg first, if_pos combined]
  split_ifs with fixed light light'
  · exact absurd light (not_le.mpr massA)
  · positivity
  · exact absurd light' (not_le.mpr (by positivity))
  · positivity

variable [Analytic K] [ExactRoot K]

omit [IsStrictOrderedRing K] in
theorem sqrt_pos {value : K} (positive : 0 < value) : 0 < Analytic.sqrt value := by
  refine lt_of_le_of_ne (ExactRoot.sqrt_nonneg value) fun zero => positive.ne' ?_
  rw [← ExactRoot.mul_self_sqrt value positive.le, ← zero, mul_zero]

omit [Analytic K] [ExactRoot K] in
theorem frictionCoefficients_pos {material : Material}
    (solid : (Material.getProperties (K := K) material).isFluid = false) :
    (0 : K) < (material.getContactProperties).staticFrictionCoefficient ∧
      (0 : K) < (material.getContactProperties).kineticFrictionCoefficient := by
  cases material <;> simp [Material.getContactProperties, Material.getProperties] at solid ⊢

theorem calculateFrictionCoefficient_pos {first second : Material}
    (solid : (Material.getProperties (K := K) first).isFluid = false)
    (solid' : (Material.getProperties (K := K) second).isFluid = false) (speed : K) :
    0 < calculateFrictionCoefficient speed first.getContactProperties
      second.getContactProperties := by
  obtain ⟨static_pos, kinetic_pos⟩ := frictionCoefficients_pos solid
  obtain ⟨static_pos', kinetic_pos'⟩ := frictionCoefficients_pos solid'
  have static := sqrt_pos (mul_pos static_pos static_pos')
  have kinetic := sqrt_pos (mul_pos kinetic_pos kinetic_pos')
  have smooth (t : K) (low : 0 ≤ t) (high : t ≤ 1) : 0 ≤ t * t * (3 - 2 * t) ∧
      t * t * (3 - 2 * t) ≤ 1 := by
    constructor
    · have rest : 0 ≤ 3 - 2 * t := by linarith
      positivity
    · nlinarith [mul_nonneg (mul_nonneg (sub_nonneg.mpr high) (sub_nonneg.mpr high))
        (show 0 ≤ 1 + 2 * t by linarith)]
  have mixed (static kinetic share : K) (static_pos : 0 < static) (kinetic_pos : 0 < kinetic)
      (low : 0 ≤ share) (high : share ≤ 1) : 0 < static * (1 - share) + kinetic * share := by
    rcases low.eq_or_lt with zero | some
    · rw [← zero]
      linarith
    · exact add_pos_of_nonneg_of_pos (mul_nonneg static_pos.le (sub_nonneg.mpr high))
        (mul_pos kinetic_pos some)
  unfold calculateFrictionCoefficient
  dsimp only
  split_ifs with slow before later
  · exact static
  all_goals
    refine mixed _ _ _ static kinetic (smooth _ ?_ ?_).1 (smooth _ ?_ ?_).2
  all_goals linarith

omit [LinearOrder K] [IsStrictOrderedRing K] [Analytic K] [ExactRoot K] in
theorem slip_right : calculateTangentialVelocity (cellA.velocity - cellB.velocity) ⟨1, 0⟩ =
    ⟨0, cellA.velocity.y - cellB.velocity.y⟩ := by
  ext <;> simp [calculateTangentialVelocity, Vector2.dot]

theorem mag_upright (value : K) : (⟨0, value⟩ : Vector2 K).mag = |value| := by
  have square := Vector2.mul_self_mag (⟨0, value⟩ : Vector2 K)
    (add_nonneg (mul_self_nonneg _) (mul_self_nonneg _))
  rw [mul_zero, zero_add, ← abs_mul_abs_self value] at square
  exact (mul_self_inj (Vector2.mag_nonneg _) (abs_nonneg _)).mp square

theorem presses_right_iff : Presses gravity ⟨1, 0⟩ cellA cellB ↔
    (¬ cellA.isEmpty ∧ ¬ cellA.isWall ∧
      (Material.getProperties (K := K) cellA.materialType).isFluid = false) ∧
    (¬ cellB.isEmpty ∧ (Material.getProperties (K := K) cellB.materialType).isFluid = false) ∧
    1 / 100 ≤ (cellA.pressure - cellB.pressure) * cellA.fillRatio ∧
    1 / 1000000 ≤ |cellA.velocity.y - cellB.velocity.y| := by
  rw [← skipsFirst_eq_false, ← skipsSecond_eq_false, ← mag_upright, ← slip_right]
  constructor
  · rintro ⟨first, second, pressed, slips⟩
    exact ⟨first, second, (pressed_iff (skipsFirst_eq_false.mp first).1).mp pressed, slips⟩
  · rintro ⟨first, second, pressed, slips⟩
    exact ⟨first, second, (pressed_iff (skipsFirst_eq_false.mp first).1).mpr pressed, slips⟩

theorem pairMagnitude_pos_iff (presses : Presses gravity ⟨1, 0⟩ cellA cellB) :
    0 < pairMagnitude gravity frictionStrength deltaTime ⟨1, 0⟩ cellA cellB ↔
      0 < frictionStrength ∧ 0 < deltaTime := by
  obtain ⟨⟨filled, moves, solid⟩, ⟨filled', solid'⟩, -, -⟩ := presses_right_iff.mp presses
  have least : (0 : K) < minNormalForce := by
    unfold minNormalForce
    positivity
  have slowest : (0 : K) < minTangentialSpeed := by
    unfold minTangentialSpeed
    positivity
  have normal := least.trans_le presses.pressed
  have speed := slowest.trans_le presses.slips
  have coefficient := calculateFrictionCoefficient_pos solid solid'
    (calculateTangentialVelocity (cellA.velocity - cellB.velocity) ⟨1, 0⟩).mag
  rw [pairMagnitude, lt_min_iff, mul_pos_iff_of_pos_left (mul_pos coefficient normal),
    cancellation_pos_iff (Bool.eq_false_iff.mpr moves) filled filled' speed]

/-- **Two cells side by side pass friction exactly when the left one transmits it.** -/
theorem pairForce_ne_zero_iff :
    pairForce gravity frictionStrength deltaTime ⟨1, 0⟩ cellA cellB ≠ 0 ↔
      Transmits frictionStrength deltaTime cellA cellB := by
  by_cases presses : Presses gravity ⟨1, 0⟩ cellA cellB
  · obtain ⟨first, second, pressed, slips⟩ := presses_right_iff.mp presses
    rw [pairForce, if_pos presses]
    by_cases strong : 0 < pairMagnitude gravity frictionStrength deltaTime ⟨1, 0⟩ cellA cellB
    · obtain ⟨strength, forward⟩ := (pairMagnitude_pos_iff presses).mp strong
      rw [if_neg (not_le.mpr strong)]
      refine iff_of_true (fun zero => ?_) ⟨first, second, pressed, slips, strength, forward⟩
      have slow : (0 : K) < 1 / 1000000 := by positivity
      have speed := slow.trans_le slips
      have upright := congrArg Vector2.y zero
      rw [slip_right, Vector2.normalize, mag_upright, if_pos speed] at upright
      simp only [Vector2.times_y, Vector2.zero_y, mul_eq_zero, neg_eq_zero, one_ne_zero, or_false,
        strong.ne', one_div, inv_eq_zero, speed.ne'] at upright
      exact abs_pos.mp speed upright
    · rw [if_pos (not_lt.mp strong)]
      refine iff_of_false (fun differs => differs rfl) fun transmits => strong ?_
      exact (pairMagnitude_pos_iff presses).mpr ⟨transmits.strength_pos, transmits.forward⟩
  · rw [pairForce, if_neg presses]
    refine iff_of_false (fun differs => differs rfl) fun transmits => presses ?_
    exact presses_right_iff.mpr
      ⟨transmits.first, transmits.second, transmits.pressed, transmits.slips⟩

variable (gravity) in
theorem pairForce_of_quiet (quiet : ¬ Transmits frictionStrength deltaTime cellA cellB) :
    pairForce gravity frictionStrength deltaTime ⟨1, 0⟩ cellA cellB = 0 :=
  not_ne_iff.mp (mt pairForce_ne_zero_iff.mp quiet)

variable {cells : CellArray K} {pos : Vector2i}

theorem bias_eq_zero_iff : bias gravity frictionStrength deltaTime cells pos = 0 ↔
    ¬ Transmits frictionStrength deltaTime (cells.cellAt pos) (cells.cellAt (pos + ⟨1, 0⟩)) ∧
      ¬ Transmits frictionStrength deltaTime (cells.cellAt (pos + ⟨1, 0⟩)) (cells.cellAt pos) := by
  constructor
  · intro balanced
    constructor
    · intro transmits
      rw [bias, pairForce_of_quiet gravity transmits.not_symm, add_zero] at balanced
      exact pairForce_ne_zero_iff.mpr transmits balanced
    · intro transmits
      rw [bias, pairForce_of_quiet gravity transmits.not_symm, zero_add] at balanced
      exact pairForce_ne_zero_iff.mpr transmits balanced
  · rintro ⟨ahead, back⟩
    rw [bias, pairForce_of_quiet gravity ahead, pairForce_of_quiet gravity back, add_zero]

omit [Analytic K] [ExactRoot K] in
/-- The normal force does not depend on the order of two cells that are not empty exactly when their
pressures are equal. -/
theorem normalForce_comm_iff (filled : ¬ cellA.isEmpty) (filled' : ¬ cellB.isEmpty)
    (normal : Vector2 K) :
    calculateNormalForce gravity cellA cellB normal =
        calculateNormalForce gravity cellB cellA (-normal) ↔ cellA.pressure = cellB.pressure := by
  have half : (0 : K) < 1 / 2 := by positivity
  have fill := fillRatio_pos filled
  have fill' := fillRatio_pos filled'
  have parts : (if cellA.pressure - cellB.pressure > 0 then
        (cellA.pressure - cellB.pressure) * cellA.fillRatio else 0) =
      (if cellB.pressure - cellA.pressure > 0 then
        (cellB.pressure - cellA.pressure) * cellB.fillRatio else 0) ↔
      cellA.pressure = cellB.pressure := by
    rcases lt_trichotomy cellA.pressure cellB.pressure with lower | equal | higher
    · have some := mul_pos (sub_pos.mpr lower) fill'
      rw [if_neg (not_lt.mpr (sub_nonpos.mpr lower.le)), if_pos (sub_pos.mpr lower)]
      exact iff_of_false some.ne lower.ne
    · simp [equal]
    · have some := mul_pos (sub_pos.mpr higher) fill
      rw [if_pos (sub_pos.mpr higher), if_neg (not_lt.mpr (sub_nonpos.mpr higher.le))]
      exact iff_of_false some.ne' higher.ne'
  rw [← parts]
  unfold calculateNormalForce
  simp only [Vector2.neg_y]
  by_cases down : normal.y > 1 / 2
  · have up : ¬ -normal.y > 1 / 2 := by linarith
    have up' : -normal.y < -(1 / 2) := by linarith
    rw [if_pos down, if_neg up, if_pos up', add_left_inj]
  · rw [if_neg down]
    by_cases up : normal.y < -(1 / 2)
    · have down' : -normal.y > 1 / 2 := by linarith
      rw [if_pos up, if_pos down', add_left_inj]
    · have level : ¬ -normal.y > 1 / 2 := by linarith
      have level' : ¬ -normal.y < -(1 / 2) := by linarith
      rw [if_neg up, if_neg level, if_neg level']

end

section

/-! ## When friction does not know left from right -/

/-- No two cells side by side pass friction on, in either direction. -/
def Unbiased (cells : CellArray K) (frictionStrength deltaTime : K) : Prop :=
  ∀ pos, cells.InBounds pos.x pos.y →
    ¬ Transmits frictionStrength deltaTime (cells.cellAt pos) (cells.cellAt (pos + ⟨1, 0⟩)) ∧
      ¬ Transmits frictionStrength deltaTime (cells.cellAt (pos + ⟨1, 0⟩)) (cells.cellAt pos)

variable [IsStrictOrderedRing K] [Analytic K] [ExactRoot K]

theorem mirrored_iff (cells : CellArray K) (gravity frictionStrength deltaTime : K) :
    Mirrored cells gravity frictionStrength deltaTime ↔
      Unbiased cells frictionStrength deltaTime := by
  rw [mirrored_iff_unbiased]
  exact forall_congr' fun pos => imp_congr_right fun inside => bias_eq_zero_iff

/-- **Friction does not know left from right** exactly when no two cells side by side pass friction
on, and the normal force of a contact does not depend on the order of its cells exactly when their
pressures are equal. -/
theorem friction_mirrored_iff (cells : CellArray ℝ) (gravity frictionStrength deltaTime : ℝ) :
    (Mirrored cells gravity frictionStrength deltaTime ↔
      Unbiased cells frictionStrength deltaTime) ∧
    ∀ (cellA cellB : Cell ℝ) (normal : Vector2 ℝ), ¬ cellA.isEmpty → ¬ cellB.isEmpty →
      (calculateNormalForce gravity cellA cellB normal =
        calculateNormalForce gravity cellB cellA (-normal) ↔ cellA.pressure = cellB.pressure) :=
  ⟨mirrored_iff cells gravity frictionStrength deltaTime, fun _ _ normal filled filled' =>
    normalForce_comm_iff filled filled' normal⟩

/-- Dirt with higher pressure on its left rubs; mirrored, it does not. -/
theorem not_mirrored :
    ¬ Mirrored (sideBySide (slippingDirt (1 : ℝ) 1) (slippingDirt 0 0)) 1 1 1 := by
  rw [mirrored_iff]
  intro unbiased
  have left : (sideBySide (slippingDirt (1 : ℝ) 1) (slippingDirt 0 0)).cellAt ⟨0, 0⟩ =
      slippingDirt 1 1 := rfl
  have right : (sideBySide (slippingDirt (1 : ℝ) 1) (slippingDirt 0 0)).cellAt
      (⟨0, 0⟩ + ⟨1, 0⟩) = slippingDirt 0 0 := rfl
  have quiet := (unbiased ⟨0, 0⟩ (by decide)).1
  rw [left, right] at quiet
  have filled (pressure velocity : ℝ) : ¬ (slippingDirt pressure velocity).isEmpty := by
    simp only [Cell.isEmpty, slippingDirt, Cell.minFillThreshold]
    norm_num
  apply quiet
  refine ⟨⟨filled 1 1, ?_, rfl⟩, ⟨filled 0 0, rfl⟩, ?_, ?_, zero_lt_one, zero_lt_one⟩
  · simp [Cell.isWall, slippingDirt]
  · simp only [slippingDirt]
    norm_num
  · simp only [slippingDirt]
    norm_num

end

end WorldFrictionCalculator

end DirtSim
