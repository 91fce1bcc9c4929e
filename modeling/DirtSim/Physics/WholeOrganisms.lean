import DirtSim.Physics.WoodenCells

/-! # Whole organisms

The owner of a cell is updated after each move: a swap exchanges the owners, and a transfer that
empties an organism's cell moves the owner along. One move keeps every organism whole just when it
spares the one in its source cell (`World.processMaterialMove_spec`).
-/

namespace DirtSim

open Foundation WorldCollisionCalculator

variable {K : Type*} {F : Type} [Field K] [LinearOrder K] [Coordinate F]

namespace World

open Cell OrganismManager Organism

/-- The organism owns exactly one cell, its anchor, and that is wood and not empty. -/
structure Whole (world : World K F) (id : OrganismId) (body : Body F) : Prop
    extends world.organismManager.OwnsAnchor id body where
  wooden : Wooden (world.cellAt body.getAnchorCell)

def AllWhole (world : World K F) : Prop :=
  ∀ id body, world.organismManager.CellPhysics id body → world.Whole id body

/-- Both grids have one size, and the owners that the organism grid names are live. -/
structure Tracked (world : World K F) : Prop where
  width : world.organismManager.grid.width = world.data.width
  height : world.organismManager.grid.height = world.data.height
  live : world.organismManager.NamesLive

/-- What an organism's cell may lose: nothing where it stays, and less than makes a cell count as
full where it is transferred. -/
def cutBetween (before after : Vector2i) : K := if before = after then 0 else minFillThreshold

/-- The organism lives on, whole, and its cell holds what it held up to the cut of a transfer. -/
def Survives (before after : World K F) (id : OrganismId) (body : Body F) : Prop :=
  ∃ body', after.organismManager.CellPhysics id body' ∧ after.Whole id body' ∧
    (before.cellAt body.getAnchorCell).fillRatio ≤
      (after.cellAt body'.getAnchorCell).fillRatio +
        cutBetween body.getAnchorCell body'.getAnchorCell

/-- A step after which every organism with cell physics has survived. -/
structure KeepsWhole (before after : World K F) : Prop where
  survives : ∀ id body, before.organismManager.CellPhysics id body → before.Survives after id body
  whole : after.AllWhole

variable {world : World K F} {move : MaterialMove K}
variable {body : Body F}

section

omit [Field K] [LinearOrder K] [Coordinate F] in
theorem Tracked.inBounds (tracked : world.Tracked) {pos : Vector2i}
    (inside : world.data.InBounds pos.x pos.y) : world.organismManager.inBounds pos := by
  unfold OrganismManager.inBounds Grid.InBounds
  rw [tracked.width, tracked.height]
  exact inside

theorem cutBetween_nonneg [IsStrictOrderedRing K] (first second : Vector2i) :
    (0 : K) ≤ cutBetween first second := by
  unfold cutBetween
  split
  · exact le_rfl
  · exact minFillThreshold_pos.le

/-- **Organisms carried along.** Their anchors move, and at the new anchor each owns its cell. -/
theorem KeepsWhole.of_moves {place : Vector2i → Vector2i} {before after : World K F}
    (moves : MovesAnchors place before.organismManager after.organismManager)
    (owns : ∀ id body, before.organismManager.CellPhysics id body →
      Occupies after.organismManager.organismAt id [place body.getAnchorCell])
    (cells : ∀ id body, before.organismManager.CellPhysics id body →
      Wooden (after.cellAt (place body.getAnchorCell)) ∧
        (before.cellAt body.getAnchorCell).fillRatio ≤
          (after.cellAt (place body.getAnchorCell)).fillRatio +
            cutBetween body.getAnchorCell (place body.getAnchorCell)) :
    before.KeepsWhole after := by
  have survives : ∀ id body, before.organismManager.CellPhysics id body →
      before.Survives after id body := by
    intro id body cellPhysics
    obtain ⟨body', present, own, anchor⟩ := moves.forth id body cellPhysics
    obtain ⟨wooden, fill⟩ := cells id body cellPhysics
    have grid := owns id body cellPhysics
    rw [← anchor] at own wooden fill grid
    exact ⟨body', present, ⟨⟨own, grid⟩, wooden⟩, fill⟩
  refine ⟨survives, fun id body' present => ?_⟩
  obtain ⟨body, cellPhysics⟩ := moves.back id body' present
  obtain ⟨found, present', whole, _⟩ := survives id body cellPhysics
  have same : found = body' := Option.some.inj (present'.1.symm.trans present.1)
  exact same ▸ whole

theorem KeepsWhole.of_grown {before after : World K F}
    (manager : after.organismManager = before.organismManager) (whole : before.AllWhole)
    (grown : ∀ id body, before.organismManager.CellPhysics id body →
      Grown (before.cellAt body.getAnchorCell) (after.cellAt body.getAnchorCell)) :
    before.KeepsWhole after := by
  have still : MovesAnchors (fun pos => pos) before.organismManager after.organismManager := by
    rw [manager]
    exact ⟨fun id body cellPhysics => ⟨body, cellPhysics, (whole id body cellPhysics).cells, rfl⟩,
      fun id body present => ⟨body, present⟩, fun id => rfl⟩
  refine .of_moves still (fun id body cellPhysics => ?_) (fun id body cellPhysics => ?_)
  · rw [manager]
    exact (whole id body cellPhysics).grid
  · have bigger := grown id body cellPhysics
    refine ⟨(whole id body cellPhysics).wooden.grown bigger, ?_⟩
    rw [cutBetween, if_pos rfl, add_zero]
    exact bigger.2

theorem KeepsWhole.of_spares {after : World K F} (whole : world.AllWhole)
    (spares : Spares move world after)
    (source : ∀ id body, world.organismManager.CellPhysics id body →
      body.getAnchorCell = move.fromPos →
      SameMatter (world.cellAt move.fromPos) (after.cellAt move.fromPos)) :
    world.KeepsWhole after := by
  refine .of_grown spares.manager whole fun id body cellPhysics => ?_
  by_cases here : body.getAnchorCell = move.fromPos
  · rw [here]
    exact .of_same (source id body cellPhysics here)
  · exact spares.grown _ here (whole id body cellPhysics).wooden

end

section

omit [Field K] [LinearOrder K] [Coordinate F] in
theorem fromPos_add_direction (move : MaterialMove K) :
    move.fromPos + move.direction = move.toPos := by
  refine Vector2i.ext ?_ ?_
  · change move.fromPos.x + (move.toPos.x - move.fromPos.x) = move.toPos.x
    omega
  · change move.fromPos.y + (move.toPos.y - move.fromPos.y) = move.toPos.y
    omega

theorem not_rigid_of_swaps (swaps : world.swaps move)
    (owned : world.organismManager.organismAt move.toPos ≠ invalidOrganismId)
    (found : world.organismManager.getOrganism (world.organismManager.organismAt move.toPos) =
      some body) : body.usesRigidBodyPhysics = false := by
  have should : world.shouldSwapMaterials move.fromPos (world.cellAt move.fromPos)
      (world.cellAt move.toPos) move.direction move := by
    unfold World.swaps at swaps
    exact (Bool.and_eq_true_iff.mp swaps).2
  by_contra rigid
  rw [Bool.not_eq_false] at rigid
  simp only [shouldSwapMaterials, fromPos_add_direction, found, Option.any_some, rigid,
    Bool.and_true, decide_eq_true_eq, owned, ne_eq, not_false_eq_true, ↓reduceIte, ite_self,
    Bool.false_eq_true] at should

theorem owners_apart (tracked : world.Tracked) (whole : world.AllWhole)
    (within : move.Within world.data.toGrid) (swaps : world.swaps move)
    (same : world.organismManager.organismAt move.fromPos =
      world.organismManager.organismAt move.toPos) :
    world.organismManager.organismAt move.fromPos = invalidOrganismId := by
  by_contra owned
  rw [same] at owned
  obtain ⟨body, found⟩ := Option.isSome_iff_exists.mp (tracked.live move.toPos owned)
  have owns := whole _ body ⟨found, not_rigid_of_swaps swaps owned found⟩
  exact within.apart ((owns.anchor_eq same).symm.trans (owns.anchor_eq rfl))

omit [Coordinate F] in
theorem Wooden.of_same {first second : Cell K} (same : SameMatter first second)
    (wooden : Wooden first) : Wooden second := wooden.grown (.of_same same)

variable [Analytic K]

omit [Coordinate F] in
theorem cellAt_swapped (within : move.Within world.data.toGrid) (pos : Vector2i) :
    SameMatter (world.cellAt pos)
      ((world.setCells move (swapCounterMovingMaterials (world.cellAt move.fromPos)
        (world.cellAt move.toPos) move.direction move)).cellAt
          (Equiv.swap move.fromPos move.toPos pos)) := by
  by_cases source : pos = move.fromPos
  · rw [source, Equiv.swap_apply_left, cellAt_setCells_to within.toInside]
    exact ⟨rfl, rfl⟩
  · by_cases target : pos = move.toPos
    · rw [target, Equiv.swap_apply_right, cellAt_setCells_from within]
      exact ⟨rfl, rfl⟩
    · rw [Equiv.swap_apply_of_ne_of_ne source target, cellAt_setCells_ne _ _ source target]
      exact .refl _

/-- **A swap** carries the organisms of both cells along. -/
theorem swap_keepsWhole [IsStrictOrderedRing K] (tracked : world.Tracked) (whole : world.AllWhole)
    (within : move.Within world.data.toGrid) (swaps : world.swaps move) :
    ∃ manager, world.organismManager.swapOrganisms move.fromPos move.toPos = some manager ∧
      let next : World K F :=
        { world.setCells move (swapCounterMovingMaterials (world.cellAt move.fromPos)
            (world.cellAt move.toPos) move.direction move) with organismManager := manager }
      next.Tracked ∧ world.KeepsWhole next := by
  obtain ⟨manager, swapped, size, exchanged, moves⟩ := swapOrganisms_spec tracked.live
    (fun id body cellPhysics => (whole id body cellPhysics).toOwnsAnchor)
    (tracked.inBounds within.fromInside) (tracked.inBounds within.toInside)
    (owners_apart tracked whole within swaps)
  refine ⟨manager, swapped, ⟨?_, ?_, fun pos owned => ?_⟩, ?_⟩
  · exact size.1.trans (tracked.width.trans (by simp [setCells, setCell, CellArray.setCell_width]))
  · exact size.2.trans (tracked.height.trans (by simp only [setCells, setCell, CellArray.setCell_height]))
  · dsimp only at owned ⊢
    rw [exchanged pos] at owned ⊢
    exact (moves.live _).trans (tracked.live _ owned)
  · refine .of_moves moves (fun id body cellPhysics => ?_) (fun id body cellPhysics => ?_)
    · exact exchanged.occupies (whole id body cellPhysics).grid
    · have same := cellAt_swapped within body.getAnchorCell
      refine ⟨Wooden.of_same same (whole id body cellPhysics).wooden, ?_⟩
      have fill : (world.cellAt body.getAnchorCell).fillRatio = _ := same.2
      exact fill.le.trans (le_add_of_nonneg_right (cutBetween_nonneg _ _))

end

section

/-- Whether a step transfers the cell of an organism: no swap replaces the collision, and the target
takes the cell in. -/
def carries (world : World K F) (move : MaterialMove K) : Bool :=
  !world.swaps move && decide (0 < move.amount) &&
    takesIn (world.effectiveCollisionType move) (world.cellAt move.toPos)

/-- The amount is not short of the cell by exactly what makes a cell count as full, nor too small to
be seen in an empty target; and wood in the target belongs to no other organism. -/
structure CarriesWhole (world : World K F) (move : MaterialMove K) : Prop where
  complete : move.amount ≠ (world.cellAt move.fromPos).fillRatio - minFillThreshold
  visible : (world.cellAt move.toPos).isEmpty → minFillThreshold ≤ move.amount
  vacant : ¬ (world.cellAt move.toPos).isEmpty → ∀ body,
    ¬ world.organismManager.CellPhysics (world.organismManager.organismAt move.toPos) body

variable [IsStrictOrderedRing K]

omit [Coordinate F] [IsStrictOrderedRing K] in
theorem fits_of_takesIn (fills : world.data.UnitFills) (within : move.Within world.data.toGrid)
    (owned : world.organismManager.organismAt move.fromPos ≠ invalidOrganismId)
    (positive : 0 < move.amount)
    (takes : takesIn (world.effectiveCollisionType move) (world.cellAt move.toPos) = true) :
    world.Fits move ∧ (world.cellAt move.fromPos).fillRatio - minFillThreshold ≤ move.amount := by
  have passes : ¬ (move.amount < (world.cellAt move.fromPos).fillRatio - 1 / 1000 ∨
      (world.cellAt move.toPos).getCapacity < (world.cellAt move.fromPos).fillRatio) := by
    intro guarded
    have elastic : world.effectiveCollisionType move = .elasticReflection := by
      simp only [effectiveCollisionType, owned, ne_eq, not_false_eq_true, guarded, and_self,
        ↓reduceIte]
    rw [elastic] at takes
    cases takes
  rw [not_or, not_lt, not_lt] at passes
  exact ⟨⟨positive, passes.2, (fills.fits within.fromInside).2⟩, passes.1⟩

section

variable {handled : World K F} (poured : Poured move world handled)
  (wooden : Wooden (world.cellAt move.fromPos)) (fits : world.Fits move)

include poured wooden fits

section

omit [Coordinate F]

theorem poured_isEmpty_iff : (handled.cellAt move.fromPos).isEmpty ↔
    (world.cellAt move.fromPos).fillRatio -
      min move.amount (world.cellAt move.fromPos).fillRatio < minFillThreshold := by
  have held : 0 < (world.cellAt move.fromPos).fillRatio :=
    minFillThreshold_pos.trans_le (not_isEmpty_iff.mp wooden.2)
  have offered := not_le.mpr (lt_min fits.positive held)
  rw [← same_isEmpty poured.source]
  simp only [removeMaterial, wooden.2, offered, or_self, ↓reduceIte, Bool.false_eq_true,
    min_eq_left (min_le_right move.amount (world.cellAt move.fromPos).fillRatio)]
  by_cases cleared : (world.cellAt move.fromPos).fillRatio -
      min move.amount (world.cellAt move.fromPos).fillRatio < minFillThreshold
  · simp only [cleared, ↓reduceIte, iff_true]
    exact isEmpty_iff.mpr minFillThreshold_pos
  · simp only [cleared, ↓reduceIte, iff_false]
    exact fun empty => cleared (isEmpty_iff.mp empty)

theorem poured_rest (left : ¬ (handled.cellAt move.fromPos).isEmpty) :
    (handled.cellAt move.fromPos).fillRatio = (world.cellAt move.fromPos).fillRatio -
      min move.amount (world.cellAt move.fromPos).fillRatio := by
  have held : 0 < (world.cellAt move.fromPos).fillRatio :=
    minFillThreshold_pos.trans_le (not_isEmpty_iff.mp wooden.2)
  have offered := not_le.mpr (lt_min fits.positive held)
  have stays := mt (poured_isEmpty_iff poured wooden fits).mpr left
  have rest : _ = (handled.cellAt move.fromPos).fillRatio := poured.source.2
  rw [← rest]
  simp [removeMaterial, wooden.2, offered,
    stays, matter]

theorem not_isEmpty_of_short
    (short : move.amount = (world.cellAt move.fromPos).fillRatio - minFillThreshold) :
    ¬ (handled.cellAt move.fromPos).isEmpty := by
  have below := min_eq_left (short.le.trans (sub_le_self _ minFillThreshold_pos.le))
  rw [poured_isEmpty_iff poured wooden fits, below, short, sub_sub_cancel]
  exact lt_irrefl _

end

theorem not_keepsWhole_of_short {id : OrganismId}
    (cellPhysics : world.organismManager.CellPhysics id body)
    (anchor : body.getAnchorCell = move.fromPos)
    (manager : handled.organismManager = world.organismManager)
    (short : move.amount = (world.cellAt move.fromPos).fillRatio - minFillThreshold) :
    ¬ world.KeepsWhole handled := by
  intro keeps
  have below := min_eq_left (short.le.trans (sub_le_self _ minFillThreshold_pos.le))
  have left := not_isEmpty_of_short poured wooden fits short
  obtain ⟨body', present, _, fill⟩ := keeps.survives id body cellPhysics
  rw [manager] at present
  have same : body' = body := Option.some.inj (present.1.symm.trans cellPhysics.1)
  rw [same, anchor, cutBetween, if_pos rfl, add_zero, poured_rest poured wooden fits left,
    below] at fill
  linarith [fits.positive]

omit [Coordinate F] in
theorem poured_cleared
    (complete : move.amount ≠ (world.cellAt move.fromPos).fillRatio - minFillThreshold)
    (near : (world.cellAt move.fromPos).fillRatio - minFillThreshold ≤ move.amount) :
    (handled.cellAt move.fromPos).isEmpty := by
  rw [poured_isEmpty_iff poured wooden fits]
  have positive : (0 : K) < minFillThreshold := minFillThreshold_pos
  rcases min_choice move.amount (world.cellAt move.fromPos).fillRatio with all | all
  · rw [all]
    linarith [lt_of_le_of_ne near complete.symm]
  · rw [all, sub_self]
    exact positive

omit wooden fits [Coordinate F] in
theorem poured_fill
    (near : (world.cellAt move.fromPos).fillRatio - minFillThreshold ≤ move.amount)
    (target : 0 ≤ (world.cellAt move.toPos).fillRatio) :
    (world.cellAt move.fromPos).fillRatio ≤
      (handled.cellAt move.toPos).fillRatio + minFillThreshold := by
  have positive : (0 : K) < minFillThreshold := minFillThreshold_pos
  have most := le_min near (sub_le_self _ positive.le)
  rw [poured.fill]
  split
  · linarith
  · linarith

omit [Coordinate F] in
theorem poured_wooden_iff : Wooden (handled.cellAt move.toPos) ↔
    ((world.cellAt move.toPos).isEmpty → minFillThreshold ≤ move.amount) := by
  have material := poured.material.trans wooden.1
  have source := not_isEmpty_iff.mp wooden.2
  have held := le_min fits.positive.le (minFillThreshold_pos.le.trans source)
  have visible : Wooden (handled.cellAt move.toPos) ↔
      minFillThreshold ≤ (handled.cellAt move.toPos).fillRatio := by
    simp only [Wooden, material, true_and, Cell.not_isEmpty_iff]
  rw [visible, poured.fill]
  by_cases empty : (world.cellAt move.toPos).isEmpty
  · rw [if_pos empty, le_min_iff]
    exact ⟨fun both _ => both.1, fun seen => ⟨seen empty, source⟩⟩
  · have target := Cell.not_isEmpty_iff.mp empty
    rw [if_neg empty]
    exact iff_of_true (target.trans (le_add_of_nonneg_right held)) fun nothing => absurd nothing empty

end

/-- **A transfer.** An organism whose cell has been cleared is moved after it; everyone is whole
afterwards just when the wood in the target can be seen and was nobody else's. -/
theorem carry_spec (tracked : world.Tracked) (whole : world.AllWhole) (fills : world.data.UnitFills)
    (within : move.Within world.data.toGrid) {id : OrganismId}
    (cellPhysics : world.organismManager.CellPhysics id body)
    (anchor : body.getAnchorCell = move.fromPos) {handled : World K F}
    (spares : Spares move world handled) (poured : Poured move world handled)
    (size : handled.data.width = world.data.width ∧ handled.data.height = world.data.height)
    (fits : world.Fits move)
    (near : (world.cellAt move.fromPos).fillRatio - minFillThreshold ≤ move.amount) :
    ∃ manager, handled.organismManager.moveOrganismCell move.fromPos move.toPos id = some manager ∧
      let next : World K F := { handled with organismManager := manager }
      next.Tracked ∧ (world.KeepsWhole next ↔
        ((world.cellAt move.toPos).isEmpty → minFillThreshold ≤ move.amount) ∧
        (¬ (world.cellAt move.toPos).isEmpty → ∀ body,
          ¬ world.organismManager.CellPhysics (world.organismManager.organismAt move.toPos) body)) := by
  have owns := whole id body cellPhysics
  have wooden : Wooden (world.cellAt move.fromPos) := anchor ▸ owns.wooden
  obtain ⟨manager, moved, sameSize, relocated, moves, others⟩ := moveOrganismCell_spec
    (fun id body present => (whole id body present).toOwnsAnchor) cellPhysics anchor move.toPos
    (tracked.inBounds within.fromInside) (tracked.inBounds within.toInside)
  have valid : id ≠ invalidOrganismId := owns.toOwnsAnchor.valid
  have mine := anchor ▸ owns.grid
  refine ⟨manager, by rw [spares.manager]; exact moved, ⟨?_, ?_, ?_⟩, ?_⟩
  · exact sameSize.1.trans (tracked.width.trans size.1.symm)
  · exact sameSize.2.trans (tracked.height.trans size.2.symm)
  · intro pos owned
    dsimp only at owned ⊢
    rw [moves.live]
    rw [relocated pos] at owned ⊢
    by_cases taken : pos ∈ [move.toPos]
    · rw [if_pos taken, cellPhysics.1]
      rfl
    · rw [if_neg taken] at owned ⊢
      by_cases left : pos ∈ [move.fromPos]
      · exact absurd (if_pos left) owned
      · rw [if_neg left] at owned ⊢
        exact tracked.live pos owned
  · constructor
    · intro keeps
      refine ⟨?_, fun filled foreign present => ?_⟩
      · obtain ⟨body', present', own, _⟩ := keeps.survives id body cellPhysics
        obtain ⟨body'', present'', _, anchor''⟩ := moves.forth id body cellPhysics
        have same : body' = body'' := Option.some.inj (present'.1.symm.trans present''.1)
        have there : body'.getAnchorCell = move.toPos := by
          rw [same, anchor'', if_pos anchor]
        exact (poured_wooden_iff poured wooden fits).mp (there ▸ own.wooden)
      · -- The owner that was overwritten still takes the target for its anchor.
        have apart : world.organismManager.organismAt move.toPos ≠ id := fun same =>
          within.apart (List.mem_singleton.mp ((mine _).mp same)).symm
        have own := keeps.whole _ foreign ⟨(others _ apart).trans present.1, present.2⟩
        have there : foreign.getAnchorCell = move.toPos :=
          (whole _ foreign present).anchor_eq rfl
        have named := own.at_anchor
        rw [there] at named
        exact apart (named.symm.trans ((relocated.occupies valid mine _).mpr List.mem_cons_self))
    · rintro ⟨visible, vacant⟩
      have mover : ∀ found, world.organismManager.CellPhysics id found →
          found.getAnchorCell = move.fromPos := fun found present => by
        rw [Option.some.inj (present.1.symm.trans cellPhysics.1), anchor]
      have bystander : ∀ other found, world.organismManager.CellPhysics other found → other ≠ id →
          found.getAnchorCell ≠ move.fromPos ∧ found.getAnchorCell ≠ move.toPos := by
        intro other found present apart
        have own := whole other found present
        refine ⟨fun here => apart ?_, fun there => ?_⟩
        · exact own.at_anchor.symm.trans (here ▸ (mine _).mpr List.mem_cons_self)
        · have named : world.organismManager.organismAt move.toPos = other := there ▸ own.at_anchor
          exact vacant (there ▸ own.wooden.2) found (named ▸ present)
      refine .of_moves moves (fun other found present => ?_) (fun other found present => ?_)
      · by_cases same : other = id
        · subst same
          rw [mover found present, if_pos rfl]
          exact relocated.occupies valid mine
        · obtain ⟨notFrom, notTo⟩ := bystander other found present same
          have own := whole other found present
          rw [if_neg notFrom]
          refine relocated.keeps_of_disjoint mine same own.toOwnsAnchor.valid ?_ own.grid
          exact List.disjoint_singleton.mpr fun listed => notTo (List.mem_singleton.mp listed)
      · by_cases same : other = id
        · subst same
          rw [mover found present, if_pos rfl, cutBetween, if_neg within.apart]
          have seen := (poured_wooden_iff poured wooden fits).mpr visible
          have fill := poured_fill poured near (fills.fits within.toInside).1
          exact ⟨seen, fill⟩
        · obtain ⟨notFrom, notTo⟩ := bystander other found present same
          have own := whole other found present
          have grown := spares.grown _ notFrom own.wooden
          rw [if_neg notFrom, cutBetween, if_pos rfl, add_zero]
          exact ⟨own.wooden.grown grown, grown.2⟩

end

section

/-- The step treats the organism in its source cell well: it does not transfer that cell, or
transfers it whole. -/
def SparesOrganisms (world : World K F) (move : MaterialMove K) : Prop :=
  ∀ body, (world.prepareMove move).organismManager.CellPhysics
      ((world.prepareMove move).organismManager.organismAt move.fromPos) body →
    (world.prepareMove move).carries move → (world.prepareMove move).CarriesWhole move

def SameHoldings (before after : World K F) : Prop :=
  after.organismManager = before.organismManager ∧
    ∀ pos, SameMatter (before.cellAt pos) (after.cellAt pos)

section

omit [LinearOrder K] [Coordinate F]

theorem SameHoldings.refl (world : World K F) : SameHoldings world world := ⟨rfl, fun _ => .refl _⟩

theorem SameHoldings.trans {first second third : World K F} (front : SameHoldings first second)
    (back : SameHoldings second third) : SameHoldings first third :=
  ⟨back.1.trans front.1, fun pos => (front.2 pos).trans (back.2 pos)⟩

theorem SameHoldings.setCell {place : Vector2i} {cell : Cell K}
    (same : SameMatter (world.cellAt place) cell) : SameHoldings world (world.setCell place cell) := by
  refine ⟨rfl, fun pos => ?_⟩
  change SameMatter (world.data.cellAt pos) ((world.data.setCell place cell).cellAt pos)
  by_cases here : pos = place
  · subst here
    by_cases inside : world.data.InBounds pos.x pos.y
    · rw [CellArray.cellAt_setCell_self inside]
      exact same
    · have unwritten : (world.data.setCell pos cell).cellAt pos = world.data.cellAt pos := by
        rw [CellArray.cellAt, CellArray.cellAt, CellArray.«at», CellArray.«at»,
          Grid.get?_of_not_inBounds inside,
          Grid.get?_of_not_inBounds (mt CellArray.setCell_inBounds.mp inside)]
      rw [unwritten]
      exact .refl _
  · rw [CellArray.cellAt_setCell_ne _ _ here]
    exact .refl _

end

omit [Coordinate F] in
theorem prepareMove_same (world : World K F) (move : MaterialMove K) :
    SameHoldings world (world.prepareMove move) := by
  have pressed (noted : World K F) (place : Vector2i) (amount : K) :
      SameHoldings noted (noted.accumulateDynamicPressure place amount) := by
    unfold accumulateDynamicPressure
    split
    · exact .refl noted
    · split
      · exact ⟨rfl, fun _ => .refl _⟩
      · have same : SameMatter (noted.cellAt place)
            { noted.cellAt place with pressure := (noted.cellAt place).pressure + amount } :=
          ⟨rfl, rfl⟩
        exact ⟨rfl, (SameHoldings.setCell same).2⟩
  unfold prepareMove
  split
  · exact .refl world
  · split
    · exact pressed (world.noteMaterialMove move) _ _
    · exact ⟨rfl, fun _ => .refl _⟩

section

variable [Analytic K]

section

omit [Coordinate F]

theorem queueCrossing_same (pos : Vector2i) (queue : MoveQueue K F) (direction : Vector2i) :
    SameHoldings queue.world (queueCrossing pos queue direction).world := by
  unfold queueCrossing
  dsimp only
  split
  · exact .refl _
  · exact .setCell (reflect_same _ _ _)

theorem queueCrossings_same (pos : Vector2i) (directions : List Vector2i) (queue : MoveQueue K F) :
    SameHoldings queue.world (directions.foldl (queueCrossing pos) queue).world := by
  induction directions generalizing queue with
  | nil => exact .refl _
  | cons direction directions ih => exact (queueCrossing_same pos queue direction).trans (ih _)

end

theorem computeCellMoves_same (deltaTime : K) (queue : MoveQueue K F) (pos : Vector2i) :
    SameHoldings queue.world (computeCellMoves deltaTime queue pos).world := by
  unfold computeCellMoves
  split
  · exact .refl _
  · exact (queueCrossings_same pos _ queue).trans (.setCell (setCOM_same _ _))

theorem computeMaterialMoves_same (deltaTime : K) (world : World K F) :
    SameHoldings world (computeMaterialMoves deltaTime world).world := by
  have each (positions : List (ℤ × ℤ)) (queue : MoveQueue K F) :
      SameHoldings queue.world (positions.foldl
        (fun queue cell => computeCellMoves deltaTime queue ⟨cell.1, cell.2⟩) queue).world := by
    induction positions generalizing queue with
    | nil => exact .refl _
    | cons cell positions ih => exact (computeCellMoves_same deltaTime queue _).trans (ih _)
  exact each _ { world := world, moves := [] }

end

/-- The tracking after a collision: an organism whose cell has been emptied moves with it. -/
def follow (handled : World K F) (move : MaterialMove K) (organismId : OrganismId) :
    Option (World K F) :=
  if organismId ≠ invalidOrganismId ∧ (handled.cellAt move.fromPos).isEmpty then
    (handled.organismManager.moveOrganismCell move.fromPos move.toPos organismId).map
      fun manager => { handled with organismManager := manager }
  else some handled

theorem follow_other {handled : World K F} (live : handled.organismManager.NamesLive)
    (other : ¬ ∃ body, handled.organismManager.CellPhysics
      (handled.organismManager.organismAt move.fromPos) body) :
    handled.follow move (handled.organismManager.organismAt move.fromPos) = some handled := by
  unfold follow
  split
  case isTrue emptied =>
      obtain ⟨body, found⟩ := Option.isSome_iff_exists.mp (live _ emptied.1)
      have rigid : body.usesRigidBodyPhysics = true :=
        (Bool.eq_false_or_eq_true _).resolve_right fun cell => other ⟨body, found, cell⟩
      simp [moveOrganismCell, found, rigid]
  case isFalse kept => rfl

variable [Analytic K] [IsStrictOrderedRing K]

section

variable (tracked : world.Tracked) (whole : world.AllWhole) {handled : World K F}
  (spares : Spares move world handled)
  (size : handled.data.width = world.data.width ∧ handled.data.height = world.data.height)

include spares size

omit [Analytic K] [IsStrictOrderedRing K] [Coordinate F] in
theorem Tracked.of_spares (tracked : world.Tracked) : handled.Tracked where
  width := by rw [spares.manager, size.1, tracked.width]
  height := by rw [spares.manager, size.2, tracked.height]
  live := spares.manager ▸ tracked.live

include tracked whole

omit [Analytic K] [IsStrictOrderedRing K] in
theorem follow_keepsWhole_of_other
    (other : ¬ ∃ body, world.organismManager.CellPhysics
      (world.organismManager.organismAt move.fromPos) body) :
    handled.follow move (world.organismManager.organismAt move.fromPos) = some handled ∧
      world.KeepsWhole handled := by
  refine ⟨?_, .of_spares whole spares fun id body cellPhysics here => ?_⟩
  · have followed := @follow_other _ _ _ _ _ move handled (tracked.of_spares spares size).live
    rw [spares.manager] at followed
    exact followed other
  · have named : world.organismManager.organismAt move.fromPos = id :=
      here ▸ (whole id body cellPhysics).at_anchor
    exact absurd ⟨body, named ▸ cellPhysics⟩ other

omit [Analytic K] [IsStrictOrderedRing K] tracked size in
theorem follow_keepsWhole_of_kept (wooden : Wooden (world.cellAt move.fromPos))
    (kept : SameMatter (world.cellAt move.fromPos) (handled.cellAt move.fromPos)) :
    handled.follow move (world.organismManager.organismAt move.fromPos) = some handled ∧
      world.KeepsWhole handled := by
  have filled : ¬ (handled.cellAt move.fromPos).isEmpty := by
    rw [← same_isEmpty kept]
    exact wooden.2
  exact ⟨if_neg fun both => filled both.2, .of_spares whole spares fun _ _ _ _ => kept⟩

omit [Analytic K] in
theorem follow_keepsWhole_iff_of_poured (fills : world.data.UnitFills)
    (within : move.Within world.data.toGrid) (cellPhysics : world.organismManager.CellPhysics
      (world.organismManager.organismAt move.fromPos) body) (poured : Poured move world handled)
    (fits : world.Fits move)
    (near : (world.cellAt move.fromPos).fillRatio - minFillThreshold ≤ move.amount) :
    ∃ next, handled.follow move (world.organismManager.organismAt move.fromPos) = some next ∧
      next.Tracked ∧ (world.KeepsWhole next ↔ world.CarriesWhole move) := by
  have owns := whole _ body cellPhysics
  have anchor := owns.anchor_eq rfl
  have wooden : Wooden (world.cellAt move.fromPos) := anchor ▸ owns.wooden
  by_cases short : move.amount = (world.cellAt move.fromPos).fillRatio - minFillThreshold
  · -- A residue that counts as full keeps the owner where it is.
    have left := not_isEmpty_of_short poured wooden fits short
    have broken := not_keepsWhole_of_short poured wooden fits cellPhysics anchor spares.manager short
    exact ⟨handled, if_neg fun both => left both.2, tracked.of_spares spares size,
      iff_of_false broken fun carried => carried.complete short⟩
  · have cleared := poured_cleared poured wooden fits short near
    obtain ⟨manager, moved, tracked', keeps⟩ := carry_spec tracked whole fills within cellPhysics
      anchor spares poured size fits near
    refine ⟨_, ?_, tracked', keeps.trans ⟨fun both => ⟨short, both.1, both.2⟩, fun carried => ?_⟩⟩
    · rw [follow, if_pos ⟨owns.toOwnsAnchor.valid, cleared⟩]
      exact Option.map_eq_some_iff.mpr ⟨manager, moved, rfl⟩
    · exact ⟨carried.visible, carried.vacant⟩

end

/-- **One step.** It succeeds, and keeps every organism whole just when it spares the organism in
its source cell. -/
theorem processMaterialMove_spec (tracked : (world.prepareMove move).Tracked)
    (whole : (world.prepareMove move).AllWhole) (fills : (world.prepareMove move).data.UnitFills)
    (within : move.Within (world.prepareMove move).data.toGrid) :
    ∃ next, world.processMaterialMove move = some next ∧ next.Tracked ∧
      ((world.prepareMove move).KeepsWhole next ↔ world.SparesOrganisms move) := by
  unfold SparesOrganisms processMaterialMove
  generalize world.prepareMove move = prepared at *
  by_cases swaps : prepared.swaps move
  · obtain ⟨manager, swapped, tracked', keeps⟩ := swap_keepsWhole tracked whole within swaps
    refine ⟨_, ?_, tracked', iff_of_true keeps fun body _ carried => ?_⟩
    · rw [if_pos swaps]
      exact Option.map_eq_some_iff.mpr ⟨manager, swapped, rfl⟩
    · simp only [carries, swaps, Bool.not_true, Bool.false_and, Bool.false_eq_true] at carried
  · rw [if_neg swaps]
    have spares := handleCollision_spares within (prepared.effectiveCollisionType move)
    have conserves := handleCollision_conserves fills within (prepared.effectiveCollisionType move)
    have size := And.intro conserves.width_eq conserves.height_eq
    have tracked' := tracked.of_spares spares size
    by_cases mover : ∃ body, prepared.organismManager.CellPhysics
        (prepared.organismManager.organismAt move.fromPos) body
    · obtain ⟨body, cellPhysics⟩ := mover
      have owns := whole _ body cellPhysics
      have owned := owns.toOwnsAnchor.valid
      have wooden : Wooden (prepared.cellAt move.fromPos) := owns.anchor_eq rfl ▸ owns.wooden
      by_cases carried : prepared.carries move
      · obtain ⟨⟨_, positive⟩, takes⟩ :=
          (Bool.and_eq_true_iff.mp carried).imp_left Bool.and_eq_true_iff.mp
        obtain ⟨fits, near⟩ :=
          fits_of_takesIn fills within owned (of_decide_eq_true positive) takes
        obtain ⟨next, followed, tracked'', keeps⟩ := follow_keepsWhole_iff_of_poured tracked whole
          spares size fills within cellPhysics (handleCollision_pours within wooden fits takes) fits
          near
        exact ⟨next, followed, tracked'', keeps.trans
          ⟨fun whole' _ _ _ => whole', fun spared => spared body cellPhysics carried⟩⟩
      · have refuses : move.amount ≤ 0 ∨
            takesIn (prepared.effectiveCollisionType move) (prepared.cellAt move.toPos) = false := by
          simpa only [carries, swaps, Bool.not_false, Bool.true_and, Bool.and_eq_true,
            decide_eq_true_eq, not_and_or, not_lt, Bool.not_eq_true] using carried
        obtain ⟨followed, keeps⟩ := follow_keepsWhole_of_kept whole spares wooden
          (handleCollision_kept within owned wooden refuses)
        exact ⟨_, followed, tracked', iff_of_true keeps fun _ _ carried' => absurd carried' carried⟩
    · obtain ⟨followed, keeps⟩ := follow_keepsWhole_of_other tracked whole spares size mover
      exact ⟨_, followed, tracked',
        iff_of_true keeps fun body cellPhysics _ => absurd ⟨body, cellPhysics⟩ mover⟩

end

end World

end DirtSim
