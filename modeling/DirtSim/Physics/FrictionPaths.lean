import DirtSim.Core.Real
import DirtSim.Foundation.Exchanges
import DirtSim.Physics.Friction

/-! # The two ways to add up friction

Both ways pick the same contacts and add the same forces. A contact pushes its two cells apart or
together by one force, and the force that is passed between them stops the slip at most.
-/

namespace DirtSim

open Foundation

namespace WorldFrictionCalculator

variable {K : Type*} [Field K] [LinearOrder K]
variable {found : ContactInterface K}

section

/-! ## Contacts -/

variable [Analytic K] (cells : CellArray K) (gravity frictionStrength deltaTime : K)
  (pos offset : Vector2i)

def contact : ContactInterface K :=
  let cellA := cells.cellAt pos
  let cellB := cells.cellAt (pos + offset)
  let interfaceNormal : Vector2 K := (offset.toVector2 (K := K)).normalize
  let tangentialVelocity :=
    calculateTangentialVelocity (cellA.velocity - cellB.velocity) interfaceNormal
  { cellAPos := pos
    cellBPos := pos + offset
    interfaceNormal := interfaceNormal
    contactArea := if |offset.x| + |offset.y| = 1 then 1 else 707 / 1000
    normalForce := calculateNormalForce gravity cellA cellB interfaceNormal
    relativeVelocity := cellA.velocity - cellB.velocity
    tangentialVelocity := tangentialVelocity
    frictionCoefficient := calculateFrictionCoefficient tangentialVelocity.mag
      cellA.materialType.getContactProperties cellB.materialType.getContactProperties }

@[simp] theorem contact_cellAPos : (contact cells gravity pos offset).cellAPos = pos := rfl

@[simp] theorem contact_cellBPos :
    (contact cells gravity pos offset).cellBPos = pos + offset := rfl

/-- A cell rubs against the one at an offset. -/
structure Rubs : Prop where
  first : skipsFirst (cells.cellAt pos) = false
  pair : ¬ skipsPair cells pos offset
  second : skipsSecond (cells.cellAt (pos + offset)) = false
  pressed : minNormalForce ≤ (contact cells gravity pos offset).normalForce
  slips : minTangentialSpeed ≤ (contact cells gravity pos offset).tangentialVelocity.mag

theorem rubs_iff : Rubs cells gravity pos offset ↔
    skipsFirst (cells.cellAt pos) = false ∧ ¬ skipsPair cells pos offset ∧
      skipsSecond (cells.cellAt (pos + offset)) = false ∧
      minNormalForce ≤ (contact cells gravity pos offset).normalForce ∧
      minTangentialSpeed ≤ (contact cells gravity pos offset).tangentialVelocity.mag :=
  ⟨fun ⟨first, pair, second, pressed, slips⟩ => ⟨first, pair, second, pressed, slips⟩,
    fun ⟨first, pair, second, pressed, slips⟩ => ⟨first, pair, second, pressed, slips⟩⟩

instance : Decidable (Rubs cells gravity pos offset) := decidable_of_iff' _ (rubs_iff ..)

/-- The contacts of a cell, in the order in which they are found. -/
def contactsOf : List (ContactInterface K) :=
  (offsets.filter fun offset => Rubs cells gravity pos offset).map (contact cells gravity pos)

variable {cells gravity frictionStrength deltaTime pos offset}

theorem select_eq {α : Type*} (first : skipsFirst (cells.cellAt pos) = false) (skipped taken : α) :
    (if skipsPair cells pos offset then skipped
      else if skipsSecond (cells.cellAt (pos + offset)) then skipped
      else if (contact cells gravity pos offset).normalForce < minNormalForce then skipped
      else if (contact cells gravity pos offset).tangentialVelocity.mag < minTangentialSpeed then
        skipped
      else taken) = if Rubs cells gravity pos offset then taken else skipped := by
  by_cases rubs : Rubs cells gravity pos offset
  · rw [if_neg rubs.pair, if_neg (Bool.eq_false_iff.mp rubs.second),
      if_neg (not_lt.mpr rubs.pressed), if_neg (not_lt.mpr rubs.slips), if_pos rubs]
  rw [if_neg rubs]
  split_ifs with pair second gentle slow
  · rfl
  · rfl
  · rfl
  · rfl
  · exact absurd ⟨first, pair, Bool.eq_false_iff.mpr second, not_lt.mp gentle, not_lt.mp slow⟩ rubs

theorem detectPair_eq (first : skipsFirst (cells.cellAt pos) = false)
    (contacts : List (ContactInterface K)) :
    detectPair cells gravity pos contacts offset =
      if Rubs cells gravity pos offset then contacts ++ [contact cells gravity pos offset]
      else contacts :=
  select_eq first contacts (contacts ++ [contact cells gravity pos offset])

theorem accumulatePair_eq (first : skipsFirst (cells.cellAt pos) = false)
    (debug : Grid (Vector2 K)) :
    accumulatePair cells gravity frictionStrength deltaTime pos debug offset =
      if Rubs cells gravity pos offset then
        accumulateContact cells frictionStrength deltaTime debug (contact cells gravity pos offset)
      else debug :=
  select_eq first debug
    (accumulateContact cells frictionStrength deltaTime debug (contact cells gravity pos offset))

theorem contactsOf_of_skips (skips : skipsFirst (cells.cellAt pos) = true) :
    contactsOf cells gravity pos = [] := by
  have none (offset : Vector2i) : ¬ Rubs cells gravity pos offset := fun rubs =>
    Bool.false_ne_true (rubs.first.symm.trans skips)
  simp [contactsOf, none]

theorem detectCell_eq (contacts : List (ContactInterface K)) :
    detectCell cells gravity contacts pos = contacts ++ contactsOf cells gravity pos := by
  unfold detectCell
  by_cases skips : skipsFirst (cells.cellAt pos) = true
  · rw [if_pos skips, contactsOf_of_skips skips, List.append_nil]
  rw [if_neg skips, contactsOf]
  induction offsets generalizing contacts with
  | nil => exact (List.append_nil _).symm
  | cons offset rest ih =>
      rw [List.foldl_cons, ih, detectPair_eq (Bool.eq_false_iff.mpr skips)]
      by_cases rubs : Rubs cells gravity pos offset <;> simp [rubs]

theorem accumulateCell_eq (debug : Grid (Vector2 K)) :
    accumulateCell cells gravity frictionStrength deltaTime debug pos =
      (contactsOf cells gravity pos).foldl (accumulateContact cells frictionStrength deltaTime)
        debug := by
  unfold accumulateCell
  by_cases skips : skipsFirst (cells.cellAt pos) = true
  · rw [if_pos skips, contactsOf_of_skips skips, List.foldl_nil]
  rw [if_neg skips, contactsOf]
  induction offsets generalizing debug with
  | nil => rfl
  | cons offset rest ih =>
      rw [List.foldl_cons, ih, accumulatePair_eq (Bool.eq_false_iff.mpr skips)]
      by_cases rubs : Rubs cells gravity pos offset <;> simp [rubs]

theorem detectContactInterfaces_eq : detectContactInterfaces cells gravity =
    (Vector2i.positions cells.width cells.height).flatMap (contactsOf cells gravity) := by
  have cell : detectCell cells gravity = fun contacts pos =>
      contacts ++ contactsOf cells gravity pos :=
    funext fun contacts => funext fun pos => detectCell_eq contacts
  rw [detectContactInterfaces, cell, List.foldl_append_eq_append, List.nil_append, List.flatMap_def]

/-- **Both ways add the same forces.** -/
theorem accumulateFrictionForces_eq (debug : Grid (Vector2 K)) :
    accumulateFrictionForces cells gravity frictionStrength deltaTime debug =
      accumulateFrictionFromContacts cells frictionStrength deltaTime
        (detectContactInterfaces cells gravity) debug := by
  have cell : accumulateCell cells gravity frictionStrength deltaTime = fun debug pos =>
      (contactsOf cells gravity pos).foldl (accumulateContact cells frictionStrength deltaTime)
        debug := funext fun debug => funext fun pos => accumulateCell_eq debug
  rw [accumulateFrictionForces, cell, accumulateFrictionFromContacts, detectContactInterfaces_eq,
    List.foldl_flatMap]

end

section

/-! ## What the cells accumulate -/

def read (debug : Grid (Vector2 K)) (pos : Vector2i) : Vector2 K :=
  (debug.get? pos.x pos.y).getD 0

variable {cells : CellArray K} {debug : Grid (Vector2 K)} {pos : Vector2i}

omit [LinearOrder K] in
theorem read_addForce (inside : debug.InBounds pos.x pos.y) (force : Vector2 K) (place : Vector2i) :
    read (addForce debug pos force) place =
      read debug place + if pos = place then force else 0 := by
  unfold read addForce
  by_cases same : pos = place
  · subst same
    rw [Grid.get?_set_self inside, if_pos rfl, Option.getD_some]
  · have apart : (place.x, place.y) ≠ (pos.x, pos.y) := fun equal =>
      same (Vector2i.ext (congrArg Prod.fst equal).symm (congrArg Prod.snd equal).symm)
    rw [Grid.get?_set_ne _ _ apart, if_neg same, add_zero]

variable [Analytic K] {gravity frictionStrength deltaTime : K}

variable (cells frictionStrength deltaTime) in
def contactForce (contact : ContactInterface K) : Vector2 K :=
  let magnitude := min (contact.frictionCoefficient * contact.normalForce * frictionStrength)
    (calculateTangentialSlipCancellationForce (cells.cellAt contact.cellAPos)
      (cells.cellAt contact.cellBPos) contact.tangentialVelocity.mag deltaTime)
  if magnitude ≤ 0 then 0
  else (contact.tangentialVelocity.normalize.times (-1)).times magnitude

variable (cells frictionStrength deltaTime) in
def exchange (contact : ContactInterface K) : Exchange Vector2i (Vector2 K) where
  first := contact.cellAPos
  second := contact.cellBPos
  amount := contactForce cells frictionStrength deltaTime contact

def Inside (debug : Grid (Vector2 K)) (contact : ContactInterface K) : Prop :=
  debug.InBounds contact.cellAPos.x contact.cellAPos.y ∧
    debug.InBounds contact.cellBPos.x contact.cellBPos.y

variable (cells frictionStrength deltaTime debug) in
theorem accumulateContact_eq (contact : ContactInterface K) :
    accumulateContact cells frictionStrength deltaTime debug contact = debug ∧
        contactForce cells frictionStrength deltaTime contact = 0 ∨
      accumulateContact cells frictionStrength deltaTime debug contact =
        addForce (addForce debug contact.cellAPos
          (contactForce cells frictionStrength deltaTime contact)) contact.cellBPos
          (-contactForce cells frictionStrength deltaTime contact) := by
  unfold accumulateContact contactForce
  dsimp only
  split_ifs
  · exact .inl ⟨rfl, rfl⟩
  · exact .inr rfl

omit [Analytic K] [LinearOrder K] in
theorem addForce_inBounds {force : Vector2 K} {x y : ℤ} :
    (addForce debug pos force).InBounds x y ↔ debug.InBounds x y := Grid.set_inBounds

theorem inBounds_accumulateContact {contact : ContactInterface K} {x y : ℤ} :
    (accumulateContact cells frictionStrength deltaTime debug contact).InBounds x y ↔
      debug.InBounds x y := by
  rcases accumulateContact_eq cells debug frictionStrength deltaTime contact with
    ⟨same, -⟩ | added
  · rw [same]
  · rw [added, addForce_inBounds, addForce_inBounds]

theorem read_accumulateContact {contact : ContactInterface K} (inside : Inside debug contact)
    (place : Vector2i) :
    read (accumulateContact cells frictionStrength deltaTime debug contact) place =
      read debug place + (exchange cells frictionStrength deltaTime contact).share place := by
  unfold Exchange.share exchange
  rcases accumulateContact_eq cells debug frictionStrength deltaTime contact with
    ⟨same, weak⟩ | added
  · simp [same, weak]
  · rw [added, read_addForce (addForce_inBounds.mpr inside.2), read_addForce inside.1, add_assoc,
      sub_eq_add_neg]
    by_cases second : contact.cellBPos = place <;> simp [second]

theorem read_accumulateFrictionFromContacts {contacts : List (ContactInterface K)}
    (inside : ∀ contact ∈ contacts, Inside debug contact) (place : Vector2i) :
    read (accumulateFrictionFromContacts cells frictionStrength deltaTime contacts debug) place =
      read debug place + Exchange.received
        (contacts.map (exchange cells frictionStrength deltaTime)) place := by
  induction contacts generalizing debug with
  | nil => simp [accumulateFrictionFromContacts]
  | cons contact contacts ih =>
      have later : ∀ other ∈ contacts,
          Inside (accumulateContact cells frictionStrength deltaTime debug contact) other :=
        fun other listed => (inside other (List.mem_cons_of_mem _ listed)).imp
          inBounds_accumulateContact.mpr inBounds_accumulateContact.mpr
      rw [List.map_cons, Exchange.received_cons, ← add_assoc,
        ← read_accumulateContact (inside contact List.mem_cons_self), ← ih later]
      rfl

section

omit [Analytic K] [LinearOrder K]

theorem inBounds_cleared {x y : ℤ} : (cleared cells).InBounds x y ↔ cells.InBounds x y := by
  simp [Grid.InBounds, cleared, Grid.generate_width, Grid.generate_height]

theorem read_cleared : read (cleared cells) pos = 0 := by
  rw [read, cleared, Grid.get?_generate]
  split_ifs <;> rfl

end

theorem mem_detectContactInterfaces (listed : found ∈ detectContactInterfaces cells gravity) :
    ∃ pos offset, cells.InBounds pos.x pos.y ∧ offset ∈ offsets ∧
      Rubs cells gravity pos offset ∧ found = contact cells gravity pos offset := by
  rw [detectContactInterfaces_eq] at listed
  obtain ⟨pos, inside, here⟩ := List.mem_flatMap.mp listed
  obtain ⟨offset, chosen, rfl⟩ := List.mem_map.mp here
  obtain ⟨among, rubs⟩ := List.mem_filter.mp chosen
  exact ⟨pos, offset, Vector2i.mem_positions.mp inside, among, of_decide_eq_true rubs, rfl⟩

theorem Rubs.inside {offset : Vector2i} (rubs : Rubs cells gravity pos offset) :
    cells.InBounds (pos + offset).x (pos + offset).y := by
  by_contra outside
  exact rubs.pair (.inr (.inr (.inr (.inr outside))))

theorem inside_of_mem (listed : found ∈ detectContactInterfaces cells gravity) :
    Inside (cleared cells) found := by
  obtain ⟨pos, offset, inside, -, rubs, rfl⟩ := mem_detectContactInterfaces listed
  exact ⟨inBounds_cleared.mpr inside, inBounds_cleared.mpr rubs.inside⟩

theorem sum_accumulateFrictionForces :
    ∑ place ∈ (Vector2i.positions cells.width cells.height).toFinset,
      read (accumulateFrictionForces cells gravity frictionStrength deltaTime (cleared cells))
        place = 0 := by
  simp only [accumulateFrictionForces_eq,
    read_accumulateFrictionFromContacts fun _ => inside_of_mem, read_cleared, zero_add]
  refine Exchange.sum_received fun exchanged member => ?_
  obtain ⟨found, listed, rfl⟩ := List.mem_map.mp member
  obtain ⟨pos, offset, inside, -, rubs, rfl⟩ := mem_detectContactInterfaces listed
  exact ⟨List.mem_toFinset.mpr (Vector2i.mem_positions.mpr inside),
    List.mem_toFinset.mpr (Vector2i.mem_positions.mpr rubs.inside)⟩

end

section

variable {cells : CellArray K} {pos offset : Vector2i}

omit [Field K] [LinearOrder K] in
theorem eq_of_not_skipsPair (among : offset ∈ offsets)
    (pair : ¬ skipsPair cells pos offset) : offset = ⟨0, 1⟩ ∨ offset = ⟨1, 0⟩ := by
  simp only [offsets, List.flatMap_cons, List.flatMap_nil, List.map_cons, List.map_nil,
    List.append_nil, List.cons_append, List.nil_append, List.mem_cons, List.not_mem_nil,
    or_false] at among
  simp only [skipsPair, not_or, Vector2i.add_x, Vector2i.add_y] at pair
  rcases among with rfl | rfl | rfl | rfl | rfl | rfl | rfl | rfl | rfl
  all_goals first
    | exact .inl rfl
    | exact .inr rfl
    | (exfalso; simp only at pair; omega)

omit [LinearOrder K] in
theorem unitLength_toVector2 (beside : offset = ⟨0, 1⟩ ∨ offset = ⟨1, 0⟩) :
    (offset.toVector2 (K := K)).UnitLength := by
  rcases beside with rfl | rfl <;> simp [Vector2.UnitLength, Vector2i.toVector2]

end

section

/-! ## Friction takes away slip only -/

variable [IsStrictOrderedRing K] {cellA cellB : Cell K} {deltaTime speed : K}

section

omit [LinearOrder K] [IsStrictOrderedRing K]

theorem calculateTangentialVelocity_add {normal along : Vector2 K} (flat : along.dot normal = 0)
    (velocity : Vector2 K) : calculateTangentialVelocity (velocity + along) normal =
      calculateTangentialVelocity velocity normal + along := by
  unfold Vector2.dot at flat
  ext
  · simp only [calculateTangentialVelocity, Vector2.dot, Vector2.sub_x, Vector2.add_x,
      Vector2.add_y, Vector2.times_x]
    linear_combination -normal.x * flat
  · simp only [calculateTangentialVelocity, Vector2.dot, Vector2.sub_y, Vector2.add_x,
      Vector2.add_y, Vector2.times_y]
    linear_combination -normal.y * flat

theorem calculateTangentialVelocity_dot {normal : Vector2 K} (unit : normal.UnitLength)
    (velocity : Vector2 K) : (calculateTangentialVelocity velocity normal).dot normal = 0 := by
  unfold Vector2.UnitLength at unit
  simp only [calculateTangentialVelocity, Vector2.dot, Vector2.sub_x, Vector2.sub_y,
    Vector2.times_x, Vector2.times_y]
  linear_combination -(velocity.x * normal.x + velocity.y * normal.y) * unit

end

/-- The slip that a force takes away per second: walls do not move. -/
def compliance (cellA cellB : Cell K) : K :=
  1 / cellA.getMass + if cellB.isWall then 0 else 1 / cellB.getMass

omit [IsStrictOrderedRing K] in
theorem exists_effectiveMass (moves : cellA.isWall = false)
    (positive : 0 < calculateTangentialSlipCancellationForce cellA cellB speed deltaTime) :
    0 < deltaTime ∧ ∃ mass, 0 < mass ∧ mass * compliance cellA cellB = 1 ∧
      calculateTangentialSlipCancellationForce cellA cellB speed deltaTime =
        mass * speed / deltaTime := by
  unfold calculateTangentialSlipCancellationForce at positive ⊢
  dsimp only at positive ⊢
  have moves' : ¬ cellA.isWall = true := Bool.eq_false_iff.mp moves
  have first : ¬ (cellA.isWall = true ∧ ¬ cellB.isWall = true) := fun both => moves' both.1
  by_cases past : deltaTime ≤ 0
  · rw [if_pos past] at positive
    exact absurd positive (lt_irrefl _)
  rw [if_neg past, if_neg first] at positive
  rw [if_neg past, if_neg first]
  refine ⟨not_le.mp past, ?_⟩
  by_cases fixed : cellB.isWall = true
  · have second : ¬ cellA.isWall = true ∧ cellB.isWall = true := ⟨moves', fixed⟩
    rw [if_pos second] at positive ⊢
    by_cases light : cellA.getMass ≤ 0
    · rw [if_pos light] at positive
      exact absurd positive (lt_irrefl _)
    rw [if_neg light]
    refine ⟨_, not_le.mp light, ?_, rfl⟩
    rw [compliance, if_pos fixed, add_zero, mul_one_div_cancel (not_le.mp light).ne']
  have second : ¬ (¬ cellA.isWall = true ∧ cellB.isWall = true) := fun both => fixed both.2
  rw [if_neg second] at positive ⊢
  by_cases combined : cellA.getMass + cellB.getMass > 0
  · rw [if_pos combined] at positive ⊢
    by_cases light : cellA.getMass * cellB.getMass / (cellA.getMass + cellB.getMass) ≤ 0
    · rw [if_pos light] at positive
      exact absurd positive (lt_irrefl _)
    rw [if_neg light]
    refine ⟨_, not_le.mp light, ?_, rfl⟩
    have product : cellA.getMass * cellB.getMass ≠ 0 := by
      intro zero
      rw [zero, zero_div] at light
      exact light (le_refl _)
    have massA := left_ne_zero_of_mul product
    have massB := right_ne_zero_of_mul product
    have sum := combined.ne'
    rw [compliance, if_neg fixed]
    field_simp
    ring
  · rw [if_neg combined, if_pos (le_refl _)] at positive
    exact absurd positive (lt_irrefl _)

variable (deltaTime) in
/-- The velocity of a cell after a force has acted on it alone. Walls do not move. -/
def pushedVelocity (cell : Cell K) (force : Vector2 K) : Vector2 K :=
  if cell.isWall then cell.velocity
  else cell.velocity + (force.divide cell.getMass).times deltaTime

omit [IsStrictOrderedRing K] in
theorem pushedVelocity_sub (moves : cellA.isWall = false) (force : Vector2 K) :
    pushedVelocity deltaTime cellA force - pushedVelocity deltaTime cellB (-force) =
      (cellA.velocity - cellB.velocity) + force.times (deltaTime * compliance cellA cellB) := by
  unfold pushedVelocity compliance
  rw [if_neg (Bool.eq_false_iff.mp moves)]
  split_ifs <;> ext <;> simp only [Vector2.sub_x, Vector2.sub_y, Vector2.add_x, Vector2.add_y,
    Vector2.times_x, Vector2.times_y, Vector2.divide_x, Vector2.divide_y, Vector2.neg_x,
    Vector2.neg_y] <;> ring

variable [Analytic K] {cells : CellArray K}

theorem contactForce_spec (frictionStrength deltaTime : K)
    (slips : minTangentialSpeed ≤ found.tangentialVelocity.mag)
    (moves : (cells.cellAt found.cellAPos).isWall = false) :
    ∃ share, 0 ≤ share ∧ share ≤ 1 ∧
      (contactForce cells frictionStrength deltaTime found).times (deltaTime *
          compliance (cells.cellAt found.cellAPos) (cells.cellAt found.cellBPos)) =
        found.tangentialVelocity.times (share - 1) := by
  have least : (0 : K) < minTangentialSpeed := by
    unfold minTangentialSpeed
    positivity
  have speed_pos : 0 < found.tangentialVelocity.mag := least.trans_le slips
  generalize force_eq : contactForce cells frictionStrength deltaTime found = force
  unfold contactForce at force_eq
  dsimp only at force_eq
  generalize coulomb_eq : found.frictionCoefficient * found.normalForce * frictionStrength =
    coulomb at force_eq
  by_cases weak : min coulomb (calculateTangentialSlipCancellationForce
      (cells.cellAt found.cellAPos) (cells.cellAt found.cellBPos)
      found.tangentialVelocity.mag deltaTime) ≤ 0
  · rw [if_pos weak] at force_eq
    refine ⟨1, zero_le_one, le_refl _, ?_⟩
    rw [← force_eq]
    ext <;> simp
  rw [if_neg weak] at force_eq
  obtain ⟨coulomb_pos, positive⟩ := lt_min_iff.mp (not_le.mp weak)
  obtain ⟨forward, mass, mass_pos, unit, cancellation⟩ := exists_effectiveMass moves positive
  rw [cancellation] at force_eq
  generalize compliance (cells.cellAt found.cellAPos) (cells.cellAt found.cellBPos) = give at unit ⊢
  have give_pos : 0 < give := by
    by_contra none
    have product := mul_nonpos_of_nonneg_of_nonpos mass_pos.le (not_lt.mp none)
    rw [unit] at product
    exact absurd product (not_le.mpr zero_lt_one)
  set speed := found.tangentialVelocity.mag with speed_eq
  set magnitude := min coulomb (mass * speed / deltaTime) with magnitude_eq
  have capped : magnitude ≤ mass * speed / deltaTime := min_le_right _ _
  have magnitude_pos : 0 ≤ magnitude := by
    have weak' := weak
    rw [cancellation] at weak'
    exact (not_le.mp weak').le
  have taken : magnitude * (deltaTime * give) / speed ≤ 1 := by
    rw [div_le_one speed_pos]
    calc magnitude * (deltaTime * give)
        ≤ mass * speed / deltaTime * (deltaTime * give) :=
          mul_le_mul_of_nonneg_right capped (by positivity)
      _ = (mass * give) * speed := by field_simp
      _ = speed := by rw [unit, one_mul]
  refine ⟨1 - magnitude * (deltaTime * give) / speed, sub_nonneg.mpr taken, ?_, ?_⟩
  · have some : 0 ≤ magnitude * (deltaTime * give) / speed := by positivity
    exact sub_le_self _ some
  · rw [← force_eq, Vector2.normalize, ← speed_eq, if_pos speed_pos]
    ext <;> simp only [Vector2.times_x, Vector2.times_y] <;> ring

variable [ExactRoot K]

theorem normalize_toVector2 {offset : Vector2i} (beside : offset = ⟨0, 1⟩ ∨ offset = ⟨1, 0⟩) :
    (offset.toVector2 (K := K)).normalize = offset.toVector2 :=
  (unitLength_toVector2 beside).normalize_eq

end

section

/-! ## Both ways agree, and friction damps -/

variable [Analytic K]

/-- Both ways add the same forces; each of them is passed between two cells, so that they cancel in
all; and each by itself takes away a share of the slip of its contact. -/
structure PathsAgree (cells : CellArray K) (gravity frictionStrength deltaTime : K) : Prop where
  same : ∀ debug, accumulateFrictionForces cells gravity frictionStrength deltaTime debug =
    accumulateFrictionFromContacts cells frictionStrength deltaTime
      (detectContactInterfaces cells gravity) debug
  opposed : ∀ found ∈ detectContactInterfaces cells gravity, ∀ debug : Grid (Vector2 K),
    debug.width = cells.width → debug.height = cells.height → ∀ place,
      read (accumulateContact cells frictionStrength deltaTime debug found) place =
        read debug place +
          ((if found.cellAPos = place then contactForce cells frictionStrength deltaTime found
              else 0) -
            if found.cellBPos = place then contactForce cells frictionStrength deltaTime found
              else 0)
  balanced : ∑ place ∈ (Vector2i.positions cells.width cells.height).toFinset,
    read (accumulateFrictionForces cells gravity frictionStrength deltaTime (cleared cells))
      place = 0
  damped : ∀ found ∈ detectContactInterfaces cells gravity,
    let cellA := cells.cellAt found.cellAPos
    let cellB := cells.cellAt found.cellBPos
    let force := contactForce cells frictionStrength deltaTime found
    ∃ share, 0 ≤ share ∧ share ≤ 1 ∧
      calculateTangentialVelocity
          (pushedVelocity deltaTime cellA force - pushedVelocity deltaTime cellB (-force))
          found.interfaceNormal =
        (calculateTangentialVelocity (cellA.velocity - cellB.velocity)
          found.interfaceNormal).times share

variable [IsStrictOrderedRing K] [ExactRoot K]

/-- **Both friction paths agree, and friction only damps slip.** -/
theorem frictionPaths_agree (cells : CellArray K) (gravity frictionStrength deltaTime : K) :
    PathsAgree cells gravity frictionStrength deltaTime := by
  refine ⟨accumulateFrictionForces_eq, fun found listed debug width height place => ?_,
    sum_accumulateFrictionForces, fun found listed => ?_⟩
  · have inside : Inside debug found := by
      have within := inside_of_mem listed
      simp only [Inside, inBounds_cleared] at within
      simpa only [Inside, Grid.InBounds, width, height] using within
    exact read_accumulateContact inside place
  · obtain ⟨pos, offset, -, among, rubs, rfl⟩ := mem_detectContactInterfaces listed
    have beside := eq_of_not_skipsPair among rubs.pair
    have moves : (cells.cellAt pos).isWall = false := by
      have first := rubs.first
      simp only [skipsFirst, Bool.or_eq_false_iff] at first
      exact first.1.2
    obtain ⟨share, low, high, along⟩ :=
      contactForce_spec frictionStrength deltaTime rubs.slips moves
    have unit := unitLength_toVector2 (K := K) beside
    have normal : (contact cells gravity pos offset).interfaceNormal = offset.toVector2 :=
      normalize_toVector2 beside
    have slip : (contact cells gravity pos offset).tangentialVelocity =
        calculateTangentialVelocity ((cells.cellAt pos).velocity -
          (cells.cellAt (pos + offset)).velocity) offset.toVector2 := by
      rw [← normal]
      rfl
    have flat : (((contact cells gravity pos offset).tangentialVelocity).times (share - 1)).dot
        (offset.toVector2 (K := K)) = 0 := by
      have zero := calculateTangentialVelocity_dot unit
        ((cells.cellAt pos).velocity - (cells.cellAt (pos + offset)).velocity)
      rw [slip]
      simp only [Vector2.dot, Vector2.times_x, Vector2.times_y] at zero ⊢
      linear_combination (share - 1) * zero
    refine ⟨share, low, high, ?_⟩
    simp only [contact_cellAPos, contact_cellBPos] at along ⊢
    rw [pushedVelocity_sub moves, along, normal, calculateTangentialVelocity_add flat, slip]
    ext <;> simp only [Vector2.add_x, Vector2.add_y, Vector2.times_x, Vector2.times_y] <;> ring

def sideBySide (first second : Cell K) : CellArray K where
  toGrid := { width := 2, height := 1, cells := [first, second], length_cells := rfl }
  width_pos := Nat.two_pos
  height_pos := Nat.one_pos
  width_le := two_le_limit
  height_le := one_le_limit

def slippingDirt (pressure velocity : K) : Cell K :=
  { Cell.blank with
    materialType := .dirt, fillRatio := 1, pressure := pressure, velocity := ⟨0, velocity⟩ }

theorem frictionPaths_agree_real :
    PathsAgree (sideBySide (slippingDirt (1 : ℝ) 1) (slippingDirt 0 0)) 1 1 1 :=
  frictionPaths_agree _ _ _ _

end

end WorldFrictionCalculator

end DirtSim
