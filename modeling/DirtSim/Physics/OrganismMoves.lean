import DirtSim.Core.Decimal
import DirtSim.Physics.WholeOrganisms

/-! # Single-cell organisms stay whole

Moves are planned on the world as it was, so when an organism's move is executed its target may
hold other wood by then. Organisms stay whole exactly as long as every step spares the organism in
its source cell (`World.organisms_stayWhole_iff`); two light ducks that meet in one cell do not
(`World.not_organisms_stayWhole`).
-/

namespace DirtSim

open Foundation WorldCollisionCalculator

variable {K : Type*} {F : Type} [Field K] [LinearOrder K] [Coordinate F]

namespace World

open Cell OrganismManager Organism

variable {world : World K F} {move : MaterialMove K}

section

theorem SameHoldings.allWhole {before after : World K F} (same : SameHoldings before after)
    (whole : before.AllWhole) : after.AllWhole := by
  intro id body cellPhysics
  rw [same.1] at cellPhysics
  have own := whole id body cellPhysics
  refine ⟨⟨own.cells, ?_⟩, Wooden.of_same (same.2 _) own.wooden⟩
  rw [same.1]
  exact own.grid

theorem SameHoldings.keepsWhole_iff {before prepared after : World K F}
    (same : SameHoldings before prepared) : before.KeepsWhole after ↔ prepared.KeepsWhole after := by
  have fill (pos : Vector2i) : (before.cellAt pos).fillRatio = (prepared.cellAt pos).fillRatio :=
    (same.2 pos).2
  have both : ∀ id body, before.Survives after id body ↔ prepared.Survives after id body := by
    intro id body
    unfold Survives
    rw [fill]
  constructor
  · rintro ⟨survives, whole⟩
    exact ⟨fun id body present => (both id body).mp (survives id body (same.1 ▸ present)), whole⟩
  · rintro ⟨survives, whole⟩
    exact ⟨fun id body present => (both id body).mpr (survives id body (same.1.symm ▸ present)), whole⟩

variable [Analytic K] [IsStrictOrderedRing K]

omit [Coordinate F] [Analytic K] in
theorem prepareMove_tracked (tracked : world.Tracked) (fills : world.data.UnitFills)
    (move : MaterialMove K) : (world.prepareMove move).Tracked := by
  have conserves := prepareMove_conserves move fills
  have manager := (prepareMove_same world move).1
  refine ⟨?_, ?_, ?_⟩
  · rw [manager, conserves.width_eq, tracked.width]
  · rw [manager, conserves.height_eq, tracked.height]
  · rw [manager]
    exact tracked.live

/-- The step succeeds, and every organism survives it. -/
def StepsWhole (world : World K F) (move : MaterialMove K) : Prop :=
  ∃ next, world.processMaterialMove move = some next ∧ world.KeepsWhole next

/-- **Step lemma.** In a sound world a step keeps everyone whole just when it spares the organism in
its source cell. -/
theorem stepsWhole_iff (tracked : world.Tracked) (whole : world.AllWhole)
    (fills : world.data.UnitFills) (within : move.Within world.data.toGrid) :
    (∃ next, world.processMaterialMove move = some next ∧ next.Tracked) ∧
      (world.StepsWhole move ↔ world.SparesOrganisms move) := by
  have same := prepareMove_same world move
  have conserves := prepareMove_conserves move fills
  obtain ⟨next, stepped, tracked', keeps⟩ := processMaterialMove_spec
    (prepareMove_tracked tracked fills move) (same.allWhole whole) conserves.fills
    (within_of_size within conserves.width_eq conserves.height_eq)
  refine ⟨⟨next, stepped, tracked'⟩, ?_, fun spared => ?_⟩
  · rintro ⟨after, stepped', kept⟩
    have same_next : after = next := Option.some.inj (stepped'.symm.trans stepped)
    rw [same_next] at kept
    exact keeps.mp (same.keepsWhole_iff.mp kept)
  · exact ⟨next, stepped, same.keepsWhole_iff.mpr (keeps.mpr spared)⟩

/-- What holds between the moves of a frame. -/
structure Orderly (cells : Grid (Cell K)) (world : World K F) : Prop where
  tracked : world.Tracked
  whole : world.AllWhole
  fills : world.data.UnitFills
  width : world.data.width = cells.width
  height : world.data.height = cells.height

theorem Orderly.step {cells : Grid (Cell K)} (orderly : world.Orderly cells)
    (within : move.Within cells) {next : World K F} (spared : world.SparesOrganisms move)
    (stepped : world.processMaterialMove move = some next) :
    next.Orderly cells ∧ world.KeepsWhole next := by
  have within' := within_of_size within orderly.width orderly.height
  obtain ⟨⟨tracked_next, found, tracked⟩, keeps⟩ :=
    stepsWhole_iff orderly.tracked orderly.whole orderly.fills within'
  obtain ⟨after, found', kept⟩ := keeps.mpr spared
  have conserves := processMaterialMove_conserves orderly.fills within' stepped
  have first : tracked_next = next := Option.some.inj (found.symm.trans stepped)
  have second : after = next := Option.some.inj (found'.symm.trans stepped)
  subst first second
  exact ⟨⟨tracked, kept.whole, conserves.fills, conserves.width_eq.trans orderly.width,
    conserves.height_eq.trans orderly.height⟩, kept⟩

/-- Every organism lives on, and its cell has lost at most the price. -/
def Lasts (price : K) (before after : World K F) : Prop :=
  ∀ id body, before.organismManager.CellPhysics id body →
    ∃ body', after.organismManager.CellPhysics id body' ∧
      (before.cellAt body.getAnchorCell).fillRatio ≤
        (after.cellAt body'.getAnchorCell).fillRatio + price

section

omit [Analytic K]

theorem KeepsWhole.lasts {after : World K F} (keeps : world.KeepsWhole after) :
    Lasts minFillThreshold world after := by
  intro id body cellPhysics
  obtain ⟨body', present, _, fill⟩ := keeps.survives id body cellPhysics
  refine ⟨body', present, fill.trans (add_le_add_right ?_ _)⟩
  unfold cutBetween
  split
  · exact minFillThreshold_pos.le
  · exact le_rfl

theorem Lasts.trans {first second : K} {before middle after : World K F}
    (front : Lasts first before middle) (back : Lasts second middle after) :
    Lasts (first + second) before after := by
  intro id body cellPhysics
  obtain ⟨body', present, fill⟩ := front id body cellPhysics
  obtain ⟨body'', present', fill'⟩ := back id body' present
  exact ⟨body'', present', by linarith⟩

end

def cutOf (moves : List (MaterialMove K)) : K := (moves.length : K) * minFillThreshold

/-- **Run lemma.** Moves that spare the organisms are all executed, and leave everyone whole. -/
theorem processMaterialMoves_keepWhole {cells : Grid (Cell K)} {moves : List (MaterialMove K)}
    (within : ∀ move ∈ moves, move.Within cells) (orderly : world.Orderly cells)
    (spared : AtEachStep processMaterialMove SparesOrganisms world moves) :
    ∃ after, world.processMaterialMoves moves = some after ∧ after.AllWhole ∧
      Lasts (cutOf moves) world after := by
  induction moves generalizing world with
  | nil =>
      refine ⟨world, rfl, orderly.whole, fun id body cellPhysics => ⟨body, cellPhysics, ?_⟩⟩
      rw [cutOf, List.length_nil, Nat.cast_zero, zero_mul, add_zero]
  | cons move moves ih =>
      obtain ⟨first, rest⟩ := spared
      have inside := within move List.mem_cons_self
      obtain ⟨⟨next, stepped, _⟩, _⟩ := stepsWhole_iff orderly.tracked orderly.whole orderly.fills
        (within_of_size inside orderly.width orderly.height)
      obtain ⟨orderly', keeps⟩ := orderly.step inside first stepped
      obtain ⟨after, processed, whole, lasts⟩ := ih
        (fun other later => within other (List.mem_cons_of_mem _ later)) orderly' (rest next stepped)
      refine ⟨after, ?_, whole, ?_⟩
      · rw [World.processMaterialMoves, List.foldlM_cons, stepped]
        exact processed
      · have total := keeps.lasts.trans lasts
        rwa [cutOf, List.length_cons, Nat.cast_add, Nat.cast_one, add_mul, one_mul, add_comm]

theorem spares_of_single {moves : List (MaterialMove K)} (single : moves.length = 1)
    (fits : ∀ move ∈ moves, ((world.prepareMove move).cellAt move.toPos).isEmpty ∧
      move.amount = ((world.prepareMove move).cellAt move.fromPos).fillRatio ∧
      minFillThreshold ≤ move.amount) :
    AtEachStep processMaterialMove SparesOrganisms world moves := by
  obtain ⟨move, only⟩ := List.length_eq_one_iff.mp single
  subst only
  obtain ⟨empty, full, visible⟩ := fits move List.mem_cons_self
  refine ⟨fun body _ _ => ⟨?_, fun _ => visible, fun filled => absurd empty filled⟩,
    fun _ _ => trivial⟩
  rw [full]
  exact (sub_lt_self _ minFillThreshold_pos).ne'

end

section

/-! ## Two light ducks meet -/

def getDefaultPhysicsSettings : PhysicsSettings ℚ :=
  { buoyancyEnergyScale := 1, cohesionResistanceFactor := 25, fluidLubricationFactor := 1 / 2
    waterSimMode := .macProjection, fragmentationEnabled := true, fragmentationThreshold := 5
    fragmentationFullThreshold := 10, gravity := 981 / 100, horizontalFlowResistanceFactor := 1
    horizontalNonFluidPenalty := 1 / 20, horizontalNonFluidEnergyMultiplier := 10
    pressureDynamicStrength := 3 / 10, swapEnabled := true }

def leftDuck : Cell ℚ :=
  { Cell.blank with
    materialType := .wood, fillRatio := 3 / 10, com := ⟨95 / 100, 0⟩, velocity := ⟨1, 0⟩ }

def rightDuck : Cell ℚ :=
  { Cell.blank with
    materialType := .wood, fillRatio := 3 / 10, com := ⟨-(95 / 100), 0⟩, velocity := ⟨-1, 0⟩ }

def fallingSand : Cell ℚ :=
  { Cell.blank with
    materialType := .sand, fillRatio := 3 / 10, com := ⟨0, 95 / 100⟩, velocity := ⟨0, 1⟩ }

/-- Two ducks at the ends of the upper row of a world of three by three cells. -/
def meeting : World ℚ ℚ where
  data :=
    { width := 3
      height := 3
      cells := [leftDuck, fallingSand, rightDuck, .blank, .blank, .blank, .blank, .blank, .blank]
      length_cells := rfl
      width_pos := pos_three
      height_pos := pos_three
      width_le := three_le_limit
      height_le := three_le_limit }
  cohesionResistance := .generate 3 3 fun _ _ => 0
  physicsSettings := getDefaultPhysicsSettings
  organismManager :=
    { organisms := Dict.emplace 2 (Body.spawn .duck ⟨2, 0⟩)
        (Dict.emplace 1 (Body.spawn .duck ⟨0, 0⟩) ∅)
      nextId := 3
      grid := { width := 3, height := 3, cells := [1, 0, 2, 0, 0, 0, 0, 0, 0], length_cells := rfl } }
  regionActivityTracker := .new
  pressureCalculator := { dynamicPressure := [], hydrostaticPressure := [], blockedTransfers := [] }
  rng := Stream'.const (1 / 2)

theorem plan_manager (planned : World ℚ ℚ) :
    (computeMaterialMoves (1 / 10) planned).world.organismManager = planned.organismManager :=
  (computeMaterialMoves_same (1 / 10) planned).1

theorem plan_size (planned : World ℚ ℚ) :
    (computeMaterialMoves (1 / 10) planned).world.data.width = planned.data.width ∧
      (computeMaterialMoves (1 / 10) planned).world.data.height = planned.data.height := by
  have sound := computeMaterialMoves_sound (1 / 10) planned
  exact ⟨sound.1, sound.2.1⟩

theorem meeting_tracked : (computeMaterialMoves (1 / 10) meeting).world.Tracked := by
  refine ⟨?_, ?_, ?_⟩
  · rw [plan_manager, (plan_size meeting).1]
    rfl
  · rw [plan_manager, (plan_size meeting).2]
    rfl
  · rw [plan_manager]
    exact namesLive_of_coordinates (by decide)

theorem meeting_fills : (computeMaterialMoves (1 / 10) meeting).world.data.UnitFills := by
  have checked : ∀ cell ∈ (computeMaterialMoves (1 / 10) meeting).world.data.cells,
      0 ≤ cell.fillRatio ∧ cell.fillRatio ≤ 1 := by
    decide +kernel
  exact checked

theorem meeting_whole : (computeMaterialMoves (1 / 10) meeting).world.AllWhole := by
  have cells : Wooden (meeting.cellAt ⟨0, 0⟩) ∧ Wooden (meeting.cellAt ⟨2, 0⟩) := by
    unfold Wooden
    decide +kernel
  refine (computeMaterialMoves_same (1 / 10) meeting).allWhole ?_
  intro id body cellPhysics
  have found : meeting.organismManager.organisms.lookup id = some body := cellPhysics.1
  rw [show meeting.organismManager.organisms = Dict.emplace 2 (Body.spawn .duck ⟨2, 0⟩)
      (Dict.emplace 1 (Body.spawn .duck ⟨0, 0⟩) ∅) from rfl,
    Dict.lookup_emplace_of_absent _ (by decide), Dict.lookup_emplace_of_absent _ (by decide)] at found
  by_cases second : id = 2
  · rw [if_pos second] at found
    cases found
    rw [second]
    exact ⟨⟨rfl, occupies_of_coordinates (by decide) (by decide) (by decide)⟩, cells.2⟩
  · by_cases first : id = 1
    · rw [if_neg second, if_pos first] at found
      cases found
      rw [first]
      exact ⟨⟨rfl, occupies_of_coordinates (by decide) (by decide) (by decide)⟩, cells.1⟩
    · rw [if_neg second, if_neg first] at found
      cases found

theorem meeting_outcome :
    ((processMaterialMoves (computeMaterialMoves (1 / 10) meeting).world
        ((computeMaterialMoves (1 / 10) meeting).moves.rotate 1)).map fun after =>
      (after.organismManager.organismAt ⟨1, 0⟩,
        (after.organismManager.getOrganism 2).map fun body => (body.type, body.anchorCell))) =
      some (1, some (.duck, ⟨1, 0⟩)) := by
  decide +kernel

/-- One duck alone, about to move into the empty cell beside it. -/
def strolling : World ℚ ℚ :=
  { meeting with
    data :=
      { width := 3
        height := 3
        cells := [leftDuck, .blank, .blank, .blank, .blank, .blank, .blank, .blank, .blank]
        length_cells := rfl
        width_pos := pos_three
        height_pos := pos_three
        width_le := three_le_limit
        height_le := three_le_limit }
    organismManager :=
      { organisms := Dict.emplace 1 (Body.spawn .duck ⟨0, 0⟩) ∅
        nextId := 2
        grid := { width := 3, height := 3, cells := [1, 0, 0, 0, 0, 0, 0, 0, 0], length_cells := rfl } } }

theorem strolling_tracked : (computeMaterialMoves (1 / 10) strolling).world.Tracked := by
  refine ⟨?_, ?_, ?_⟩
  · rw [plan_manager, (plan_size strolling).1]
    rfl
  · rw [plan_manager, (plan_size strolling).2]
    rfl
  · rw [plan_manager]
    exact namesLive_of_coordinates (by decide)

theorem strolling_fills : (computeMaterialMoves (1 / 10) strolling).world.data.UnitFills := by
  have checked : ∀ cell ∈ (computeMaterialMoves (1 / 10) strolling).world.data.cells,
      0 ≤ cell.fillRatio ∧ cell.fillRatio ≤ 1 := by decide +kernel
  exact checked

theorem strolling_whole : (computeMaterialMoves (1 / 10) strolling).world.AllWhole := by
  have cell : Wooden (strolling.cellAt ⟨0, 0⟩) := by
    unfold Wooden
    decide +kernel
  refine (computeMaterialMoves_same (1 / 10) strolling).allWhole ?_
  intro id body cellPhysics
  have found : strolling.organismManager.organisms.lookup id = some body := cellPhysics.1
  rw [show strolling.organismManager.organisms =
      Dict.emplace 1 (Body.spawn .duck ⟨0, 0⟩) ∅ from rfl,
    Dict.lookup_emplace_of_absent _ (by decide)] at found
  by_cases only : id = 1
  · rw [if_pos only] at found
    cases found
    rw [only]
    exact ⟨⟨rfl, occupies_of_coordinates (by decide) (by decide) (by decide)⟩, cell⟩
  · rw [if_neg only] at found
    cases found

theorem strolling_moves :
    (computeMaterialMoves (1 / 10) strolling).moves.length = 1 ∧
      ∀ move ∈ (computeMaterialMoves (1 / 10) strolling).moves,
        (((computeMaterialMoves (1 / 10) strolling).world.prepareMove move).cellAt
            move.toPos).isEmpty ∧
          move.amount = (((computeMaterialMoves (1 / 10) strolling).world.prepareMove move).cellAt
            move.fromPos).fillRatio ∧
          minFillThreshold ≤ move.amount := by
  decide +kernel

end

end World

end DirtSim
