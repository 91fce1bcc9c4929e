import DirtSim.Organisms.SingleCell
import DirtSim.Physics.MaterialMoves

/-! # Wooden cells among material moves

What the collision handlers do to a cell of wood. A target keeps its material
(`World.handleCollision_spares`), and a source either stays as it is (`World.handleCollision_kept`)
or is poured into the target (`World.handleCollision_pours`).
-/

namespace DirtSim

open Foundation WorldCollisionCalculator

variable {K : Type*} {F : Type} [Field K] [LinearOrder K]
variable {before after : Cell K}

namespace Cell

section

def Grown (before after : Cell K) : Prop :=
  after.materialType = before.materialType ∧ before.fillRatio ≤ after.fillRatio

omit [Field K] in
theorem Grown.refl (cell : Cell K) : Grown cell cell := ⟨rfl, le_rfl⟩

theorem Grown.of_same (same : SameMatter before after) :
    Grown before after := ⟨same.1.symm, same.2.le⟩

omit [Field K] in
theorem Grown.trans {first second third : Cell K} (front : Grown first second)
    (back : Grown second third) : Grown first third :=
  ⟨back.1.trans front.1, front.2.trans back.2⟩

theorem Grown.not_isEmpty (grown : Grown before after) (filled : ¬ before.isEmpty) :
    ¬ after.isEmpty :=
  not_isEmpty_iff.mpr ((not_isEmpty_iff.mp filled).trans grown.2)

variable [IsStrictOrderedRing K]
variable {source target : Cell K}

theorem transfer_target_grown (filled : ¬ target.isEmpty) (amount : K) (normal : Vector2 K) :
    Grown target (source.transferToWithPhysics target amount normal).target := by
  have received (type : Material) (offered : K) (com velocity : Vector2 K) :
      Grown target (target.addMaterialWithPhysics type offered com velocity normal).1 := by
    unfold addMaterialWithPhysics
    rw [if_neg filled]
    split
    · exact .refl target
    · split
      · exact .refl target
      · dsimp only
        split
        case isTrue some_room =>
            refine ⟨?_, le_add_of_nonneg_right some_room.le⟩
            split <;> rfl
        case isFalse full => exact .refl target
  unfold transferToWithPhysics
  split
  · exact .refl target
  · dsimp only
    split
    · exact received _ _ _ _
    · exact received _ _ _ _

omit [IsStrictOrderedRing K] in
theorem transfer_refused {amount : K} (normal : Vector2 K)
    (refuses : amount ≤ 0 ∨ ¬ target.isEmpty ∧ target.materialType ≠ source.materialType) :
    (source.transferToWithPhysics target amount normal).source = source := by
  unfold transferToWithPhysics
  split
  case isTrue idle => rfl
  case isFalse active =>
      rcases refuses with none_asked | ⟨filled, other⟩
      · exact absurd (Or.inr none_asked) active
      · have refused : (target.addMaterialWithPhysics source.materialType
            (min amount source.fillRatio) source.com source.velocity normal).2 = 0 := by
          unfold addMaterialWithPhysics
          rw [if_neg filled, if_pos other]
          split <;> rfl
        dsimp only
        rw [refused, if_neg (lt_irrefl 0)]

theorem transfer_fits (filled : ¬ source.isEmpty) {amount : K} (positive : 0 < amount)
    (normal : Vector2 K) (room : source.fillRatio ≤ target.getCapacity)
    (full : source.fillRatio ≤ 1)
    (takes : target.isEmpty ∨ target.materialType = source.materialType) :
    let transfer := source.transferToWithPhysics target amount normal
    let poured := min amount source.fillRatio
    transfer.source = (source.removeMaterial poured).1 ∧
      transfer.target.materialType = source.materialType ∧
      transfer.target.fillRatio =
        if target.isEmpty then poured else target.fillRatio + poured := by
  intro transfer poured
  have held : 0 < source.fillRatio := minFillThreshold_pos.trans_le (not_isEmpty_iff.mp filled)
  have offered : 0 < poured := lt_min positive held
  have below : poured ≤ source.fillRatio := min_le_right _ _
  have active : ¬ (source.isEmpty ∨ amount ≤ 0) := not_or.mpr ⟨filled, positive.not_ge⟩
  have added : (target.addMaterialWithPhysics source.materialType poured source.com
        source.velocity normal).2 = poured ∧
      (target.addMaterialWithPhysics source.materialType poured source.com source.velocity
        normal).1.materialType = source.materialType ∧
      (target.addMaterialWithPhysics source.materialType poured source.com source.velocity
        normal).1.fillRatio = if target.isEmpty then poured else target.fillRatio + poured := by
    unfold addMaterialWithPhysics
    rw [if_neg offered.not_ge]
    by_cases empty : target.isEmpty
    · have whole : min poured 1 = poured := min_eq_left (below.trans full)
      simp [empty, whole]
    · have same := takes.resolve_left empty
      have whole : min poured target.getCapacity = poured := min_eq_left (below.trans room)
      simp only [empty, same, whole, Bool.false_eq_true, ↓reduceIte, ne_eq, not_true_eq_false,
        gt_iff_lt, offered, true_and, and_true]
      split
      case isTrue heavy => rfl
      case isFalse light => exact same
  have accepted : transfer = { source := (source.removeMaterial poured).1
                               target := (target.addMaterialWithPhysics source.materialType poured
                                 source.com source.velocity normal).1
                               accepted := poured } := by
    change source.transferToWithPhysics target amount normal = _
    unfold transferToWithPhysics
    rw [if_neg active]
    dsimp only
    rw [added.1, if_pos offered]
  rw [accepted]
  exact ⟨rfl, added.2.1, added.2.2⟩

end

end Cell

namespace World

open Cell

section

variable [IsStrictOrderedRing K] {world : World K F} {move : MaterialMove K}

section

omit [LinearOrder K] [IsStrictOrderedRing K]

theorem cellAt_setCells_from (within : move.Within world.data.toGrid) (cells : Cell K × Cell K) :
    (world.setCells move cells).cellAt move.fromPos = cells.1 := by
  refine (CellArray.cellAt_setCell_ne _ _ within.apart).trans ?_
  exact CellArray.cellAt_setCell_self within.fromInside _

theorem cellAt_setCells_to (inside : world.data.InBounds move.toPos.x move.toPos.y)
    (cells : Cell K × Cell K) : (world.setCells move cells).cellAt move.toPos = cells.2 :=
  CellArray.cellAt_setCell_self (CellArray.setCell_inBounds.mpr inside) _

theorem cellAt_setCells_ne (world : World K F) {pos : Vector2i} (cells : Cell K × Cell K)
    (source : pos ≠ move.fromPos) (target : pos ≠ move.toPos) :
    (world.setCells move cells).cellAt pos = world.cellAt pos :=
  (CellArray.cellAt_setCell_ne _ _ target).trans (CellArray.cellAt_setCell_ne _ _ source)

end

/-- Wood that is there to stay: a cell that is not empty. -/
def Wooden (cell : Cell K) : Prop := cell.materialType = .wood ∧ ¬ cell.isEmpty

theorem Wooden.inside {pos : Vector2i} (wooden : Wooden (world.cellAt pos)) :
    world.data.InBounds pos.x pos.y := by
  by_contra outside
  refine wooden.2 (isEmpty_iff.mpr ?_)
  rw [cellAt, CellArray.cellAt, CellArray.«at», Grid.get?_of_not_inBounds outside]
  exact minFillThreshold_pos

omit [IsStrictOrderedRing K] in
theorem Wooden.grown (wooden : Wooden before) (grown : Grown before after) : Wooden after :=
  ⟨grown.1.trans wooden.1, grown.not_isEmpty wooden.2⟩

/-- The step leaves the owners alone and takes no wood from any cell but its source. -/
structure Spares (move : MaterialMove K) (before after : World K F) : Prop where
  manager : after.organismManager = before.organismManager
  grown : ∀ pos, pos ≠ move.fromPos → Wooden (before.cellAt pos) →
    Grown (before.cellAt pos) (after.cellAt pos)

section

omit [IsStrictOrderedRing K]

theorem Spares.setCells (within : move.Within world.data.toGrid) {noted : World K F}
    (data : noted.data = world.data) (manager : noted.organismManager = world.organismManager)
    {cells : Cell K × Cell K}
    (target : Wooden (world.cellAt move.toPos) → Grown (world.cellAt move.toPos) cells.2) :
    Spares move world (noted.setCells move cells) where
  manager := manager
  grown pos elsewhere wooden := by
    have within' : move.Within noted.data.toGrid := by rwa [data]
    by_cases there : pos = move.toPos
    · subst there
      rw [cellAt_setCells_to within'.toInside]
      exact target wooden
    · rw [cellAt_setCells_ne noted cells elsewhere there]
      have same : noted.cellAt pos = world.cellAt pos := by rw [cellAt, data, cellAt]
      rw [same]
      exact .refl _

theorem Spares.congr {before before' after : World K F} (spares : Spares move before' after)
    (data : before'.data = before.data)
    (manager : before'.organismManager = before.organismManager) : Spares move before after where
  manager := spares.manager.trans manager
  grown pos elsewhere wooden := by
    have same : before'.cellAt pos = before.cellAt pos := by rw [cellAt, data, cellAt]
    rw [← same] at wooden ⊢
    exact spares.grown pos elsewhere wooden

end

end

section

variable [IsStrictOrderedRing K] {world : World K F} {move : MaterialMove K}
variable {spray : Spray K F}

theorem placeFragment_keeps {sourcePos pos : Vector2i} (avoidPos : Vector2i) (frag : FragTarget K)
    (wooden : Wooden (spray.world.cellAt pos)) (apart : pos ≠ sourcePos) :
    (placeFragment sourcePos avoidPos spray frag).world.cellAt pos = spray.world.cellAt pos := by
  cases placed : spray.world.placement sourcePos avoidPos frag with
  | none => simp [placeFragment, placed]
  | some placement =>
      obtain ⟨toTransfer, filled⟩ := placement
      have received := (placement_spec placed).2.2.2.2.2
      have elsewhere : pos ≠ sourcePos + frag.offset := by
        rintro rfl
        rw [receiveFragment, if_neg wooden.2, wooden.1] at received
        cases received
      simp only [placeFragment, placed]
      refine (CellArray.cellAt_setCell_ne _ _ elsewhere).trans ?_
      exact CellArray.cellAt_setCell_ne _ _ apart

theorem placeFragments_keep {sourcePos pos : Vector2i} (avoidPos : Vector2i)
    (frags : List (FragTarget K)) (wooden : Wooden (spray.world.cellAt pos))
    (apart : pos ≠ sourcePos) :
    (frags.foldl (placeFragment sourcePos avoidPos) spray).world.cellAt pos =
      spray.world.cellAt pos := by
  induction frags generalizing spray with
  | nil => rfl
  | cons frag frags ih =>
      have first := placeFragment_keeps avoidPos frag wooden apart
      exact (ih (by rwa [first])).trans first

section

omit [IsStrictOrderedRing K]

theorem placeFragments_manager (sourcePos avoidPos : Vector2i) (frags : List (FragTarget K))
    (spray : Spray K F) :
    (frags.foldl (placeFragment sourcePos avoidPos) spray).world.organismManager =
      spray.world.organismManager := by
  induction frags generalizing spray with
  | nil => rfl
  | cons frag frags ih =>
      refine (ih _).trans ?_
      unfold placeFragment
      split <;> rfl

theorem placement_visible {sourcePos avoidPos : Vector2i} {frag : FragTarget K}
    {placement : K × Cell K} (placed : world.placement sourcePos avoidPos frag = some placement) :
    1 / 100 ≤ placement.1 := by
  simp only [World.placement, Option.ite_none_left_eq_some, not_or, not_lt,
    Option.map_eq_some_iff] at placed
  obtain ⟨_, ⟨_, visible⟩, filled, _, rfl⟩ := placed
  exact visible

end

theorem placeFragments_untouched (sourcePos avoidPos : Vector2i) (frags : List (FragTarget K))
    (start : 0 ≤ spray.sprayed) :
    frags.foldl (placeFragment sourcePos avoidPos) spray = spray ∨
      1 / 100 ≤ (frags.foldl (placeFragment sourcePos avoidPos) spray).sprayed := by
  have positive : (0 : K) ≤ 1 / 100 := by positivity
  have one (spray : Spray K F) (frag : FragTarget K) :
      placeFragment sourcePos avoidPos spray frag = spray ∨
        spray.sprayed + 1 / 100 ≤ (placeFragment sourcePos avoidPos spray frag).sprayed := by
    cases placed : spray.world.placement sourcePos avoidPos frag with
    | none =>
        refine .inl ?_
        simp [placeFragment, placed]
    | some placement =>
        refine .inr ?_
        have visible := placement_visible placed
        simp only [placeFragment, placed, add_le_add_iff_left]
        exact visible
  have grows (frags : List (FragTarget K)) (spray : Spray K F) :
      spray.sprayed ≤ (frags.foldl (placeFragment sourcePos avoidPos) spray).sprayed := by
    induction frags generalizing spray with
    | nil => exact le_rfl
    | cons frag frags ih =>
        refine le_trans ?_ (ih _)
        rcases one spray frag with same | more
        · rw [same]
        · exact (le_add_of_nonneg_right positive).trans more
  induction frags generalizing spray with
  | nil => exact .inl rfl
  | cons frag frags ih =>
      rw [List.foldl_cons]
      rcases one spray frag with same | more
      · rw [same]
        exact ih start
      · refine .inr (le_trans ?_ (grows frags _))
        exact (le_add_of_nonneg_left start).trans more

/-- A spray leaves the owners alone and every wooden cell away from its source as it is; one that
is not seen changes nothing. -/
structure SprayedFrom (world : World K F) (away : Vector2i → Prop) (spray : Spray K F) : Prop where
  manager : spray.world.organismManager = world.organismManager
  keeps : ∀ pos, away pos → Wooden (world.cellAt pos) → spray.world.cellAt pos = world.cellAt pos
  unseen : spray.sprayed < minMatterThreshold → spray.world = world

omit [IsStrictOrderedRing K] in
theorem SprayedFrom.nothing (world : World K F) (away : Vector2i → Prop) :
    SprayedFrom world away { world := world, sprayed := 0 } :=
  ⟨rfl, fun _ _ _ => rfl, fun _ => rfl⟩

variable [Analytic K]

theorem fragmentSingleCell_sprays (world : World K F) (sourcePos avoidPos : Vector2i)
    (sprayDirection : Vector2 K) (numFrags : ℕ) (arcWidth : K) (params : FragmentationParams K) :
    SprayedFrom world (· ≠ sourcePos)
      (world.fragmentSingleCell sourcePos avoidPos sprayDirection numFrags arcWidth params) := by
  have threshold : (minMatterThreshold : K) < 1 / 100 := by
    unfold minMatterThreshold
    norm_num
  unfold fragmentSingleCell
  dsimp only
  split
  case isTrue idle => exact .nothing world _
  case isFalse active =>
      split
      case isTrue none_each => exact .nothing world _
      case isFalse some_each =>
          simp only [not_or, not_lt] at active
          generalize FragTarget.mergeAll (_ : List (FragTarget K)) = frags
          let start : Spray K F := { world := world, sprayed := 0 }
          have keeps {pos : Vector2i} (apart : pos ≠ sourcePos)
              (wooden : Wooden (start.world.cellAt pos)) :=
            placeFragments_keep avoidPos frags wooden apart
          have manager := placeFragments_manager sourcePos avoidPos frags start
          have untouched := placeFragments_untouched sourcePos avoidPos frags
            (show 0 ≤ start.sprayed from le_rfl)
          split
          case isTrue drained =>
              refine ⟨manager, fun pos apart wooden => ?_, fun unseen => ?_⟩
              · exact (CellArray.cellAt_setCell_ne _ _ apart).trans (keeps apart wooden)
              · rcases untouched with same | visible
                · rw [same] at drained
                  exact absurd drained (not_lt.mpr active.2.2.1)
                · exact absurd (visible.trans_lt unseen) (not_lt.mpr threshold.le)
          case isFalse wet =>
              refine ⟨manager, fun pos apart wooden => keeps apart wooden, fun unseen => ?_⟩
              rcases untouched with same | visible
              · rw [same]
              · exact absurd (visible.trans_lt unseen) (not_lt.mpr threshold.le)

theorem sprayWater_sprays (world : World K F) (move : MaterialMove K) (isWater : Bool)
    (sourcePos avoidPos : Vector2i) (radialDir reflected : Vector2 K) (material : Material) :
    SprayedFrom world (fun pos => isWater → pos ≠ sourcePos)
      (world.sprayWater move isWater sourcePos avoidPos radialDir reflected material) := by
  unfold sprayWater
  split
  case isTrue wet =>
      obtain ⟨manager, keeps, unseen⟩ := fragmentSingleCell_sprays world sourcePos avoidPos _ _ _ _
      exact ⟨manager, fun pos apart => keeps pos (apart wet), unseen⟩
  case isFalse dry => exact .nothing world _

section

omit [IsStrictOrderedRing K] [Analytic K]

theorem ne_of_water {pos source : Vector2i} (wooden : Wooden (world.cellAt pos))
    (water : decide ((world.cellAt source).materialType = .water)) : pos ≠ source := by
  rintro rfl
  rw [wooden.1] at water
  exact absurd (of_decide_eq_true water) (by decide)

theorem settleFragmented_spares (comp : VelocityComponents K) (fromIsWater : Bool) :
    (world.settleFragmented move comp fromIsWater).organismManager = world.organismManager := by
  unfold settleFragmented
  split <;> rfl

end

omit [Analytic K] in
theorem settleFragmented_keeps (comp : VelocityComponents K) {fromIsWater : Bool} {pos : Vector2i}
    (wooden : Wooden (world.cellAt pos)) (away : fromIsWater → pos ≠ move.fromPos) :
    SameMatter (world.cellAt pos) ((world.settleFragmented move comp fromIsWater).cellAt pos) := by
  unfold settleFragmented
  split
  case isTrue dry => exact .refl _
  case isFalse wet =>
      rw [Bool.not_eq_true', Bool.not_eq_false] at wet
      by_cases there : pos = move.toPos
      · subst there
        rw [cellAt_setCells_to wooden.inside]
        dsimp only
        split
        · exact pushed_same _ _ _ _
        · exact .refl _
      · rw [cellAt_setCells_ne _ _ (away wet) there]
        exact .refl _

/-- **A splash** takes no wood from any cell and leaves the owners alone; when it does not handle
the collision, it has changed nothing. -/
theorem splash_spares (move : MaterialMove K) (world : World K F) :
    (world.splash move).2.organismManager = world.organismManager ∧
      (∀ pos, Wooden (world.cellAt pos) →
        SameMatter (world.cellAt pos) ((world.splash move).2.cellAt pos)) ∧
      ((world.splash move).1 = false → (world.splash move).2 = world) := by
  unfold splash
  dsimp only
  generalize firstSpray : world.sprayWater move _ move.fromPos move.toPos _ _ _ = fromSpray
  have first : SprayedFrom world (fun pos =>
      decide ((world.cellAt move.fromPos).materialType = .water) → pos ≠ move.fromPos)
      fromSpray := by
    rw [← firstSpray]
    exact sprayWater_sprays ..
  generalize secondSpray : fromSpray.world.sprayWater move _ move.toPos move.fromPos _ _ _ = toSpray
  have second : SprayedFrom fromSpray.world (fun pos =>
      decide ((world.cellAt move.toPos).materialType = .water) → pos ≠ move.toPos) toSpray := by
    rw [← secondSpray]
    exact sprayWater_sprays ..
  have manager := second.manager.trans first.manager
  have keeps : ∀ pos, Wooden (world.cellAt pos) →
      toSpray.world.cellAt pos = world.cellAt pos := by
    intro pos wooden
    have kept := first.keeps pos (ne_of_water wooden) wooden
    refine (second.keeps pos (ne_of_water wooden) ?_).trans kept
    rwa [kept]
  split
  case isTrue unseen =>
      refine ⟨manager, fun pos wooden => ?_, fun _ => ?_⟩
      · rw [keeps pos wooden]
        exact .refl _
      · exact (second.unseen unseen.2).trans (first.unseen unseen.1)
  case isFalse seen =>
      refine ⟨(settleFragmented_spares _ _).trans manager, fun pos wooden => ?_, fun handled => ?_⟩
      · have kept := keeps pos wooden
        rw [← kept]
        refine settleFragmented_keeps _ (by rwa [kept]) (ne_of_water wooden)
      · cases handled

theorem handleWaterFragmentation_spares (move : MaterialMove K) (world : World K F) :
    (world.handleWaterFragmentation move).2.organismManager = world.organismManager ∧
      (∀ pos, Wooden (world.cellAt pos) →
        SameMatter (world.cellAt pos) ((world.handleWaterFragmentation move).2.cellAt pos)) ∧
      ((world.handleWaterFragmentation move).1 = false →
        (world.handleWaterFragmentation move).2.data = world.data) := by
  unfold handleWaterFragmentation
  dsimp only
  split
  · exact ⟨rfl, fun _ _ => .refl _, fun _ => rfl⟩
  · split
    · exact ⟨rfl, fun _ _ => .refl _, fun _ => rfl⟩
    · obtain ⟨manager, keeps, unseen⟩ := splash_spares move { world with rng := world.rng.tail }
      exact ⟨manager, keeps, fun refused => by rw [unseen refused]⟩

omit [IsStrictOrderedRing K] in
theorem sprayWater_unsprayed (world : World K F) (move : MaterialMove K) (isWater : Bool)
    (sourcePos avoidPos : Vector2i)
    (none_there : isWater → (world.cellAt sourcePos).fillRatio < minMatterThreshold)
    (radialDir reflected : Vector2 K) (material : Material) :
    world.sprayWater move isWater sourcePos avoidPos radialDir reflected material =
      { world := world, sprayed := 0 } := by
  unfold sprayWater
  split
  case isTrue wet =>
      unfold fragmentSingleCell
      rw [if_pos (Or.inr (Or.inr (Or.inl (none_there wet))))]
  case isFalse dry => rfl

theorem handleWaterFragmentation_dry (source : (world.cellAt move.fromPos).materialType ≠ .water)
    (target : (world.cellAt move.toPos).isEmpty ∨ (world.cellAt move.toPos).materialType ≠ .water) :
    (world.handleWaterFragmentation move).1 = false := by
  have positive : (0 : K) < minMatterThreshold := minFillThreshold_pos
  unfold handleWaterFragmentation
  dsimp only
  split
  case isTrue idle => rfl
  case isFalse active =>
      split
      case isTrue unlucky => rfl
      case isFalse lucky =>
          rcases target with empty | dry
          · have drained : (world.cellAt move.toPos).fillRatio < minMatterThreshold :=
              isEmpty_iff.mp empty
            let rolled : World K F := { world with rng := world.rng.tail }
            have noFirst := sprayWater_unsprayed rolled move
              (decide ((rolled.cellAt move.fromPos).materialType = .water)) move.fromPos move.toPos
              fun wet => absurd (of_decide_eq_true wet) source
            have noSecond := sprayWater_unsprayed rolled move
              (decide ((rolled.cellAt move.toPos).materialType = .water)) move.toPos move.fromPos
              fun _ => drained
            change (rolled.splash move).1 = false
            simp [splash, noFirst, noSecond, positive]
          · simp only [source, dry, decide_false, Bool.not_false, and_self, or_true,
              not_true_eq_false] at active

end

section

variable {world : World K F} {move : MaterialMove K}

/-- Whether a target takes in the wood of an organism in a collision of this type. -/
def takesIn (type : CollisionType) (toCell : Cell K) : Bool :=
  match type with
  | .transferOnly | .absorption => toCell.isEmpty
  | .inelasticCollision | .fragmentation => toCell.isEmpty || toCell.materialType = .wood
  | .compressionContact | .fluidBlockedContact | .elasticReflection => false

/-- The source has given up to all it holds, and the target has taken that in. -/
structure Poured (move : MaterialMove K) (before after : World K F) : Prop where
  source : SameMatter
    ((before.cellAt move.fromPos).removeMaterial
      (min move.amount (before.cellAt move.fromPos).fillRatio)).1 (after.cellAt move.fromPos)
  material : (after.cellAt move.toPos).materialType = (before.cellAt move.fromPos).materialType
  fill : (after.cellAt move.toPos).fillRatio =
    if (before.cellAt move.toPos).isEmpty then
      min move.amount (before.cellAt move.fromPos).fillRatio
    else
      (before.cellAt move.toPos).fillRatio + min move.amount (before.cellAt move.fromPos).fillRatio

theorem same_isEmpty {first second : Cell K} (same : SameMatter first second) :
    first.isEmpty = second.isEmpty := by
  unfold Cell.isEmpty
  rw [show first.fillRatio = second.fillRatio from same.2]

theorem removeMaterial_same {first second : Cell K} (same : SameMatter first second) (amount : K) :
    SameMatter (first.removeMaterial amount).1 (second.removeMaterial amount).1 := by
  have fill : first.fillRatio = second.fillRatio := same.2
  unfold removeMaterial
  rw [same_isEmpty same, fill]
  split
  · exact same
  · dsimp only
    split
    · exact .refl _
    · exact ⟨same.1, rfl⟩

theorem noteDeficit_manager [Analytic K] (world : World K F) (move : MaterialMove K)
    (velocity : Vector2 K) (deficit : K) :
    (world.noteDeficit move velocity deficit).organismManager = world.organismManager := by
  unfold noteDeficit
  split <;> rfl

variable [Analytic K] [IsStrictOrderedRing K]

theorem handleTransferMove_spares (within : move.Within world.data.toGrid) :
    Spares move world (world.handleTransferMove move) := by
  unfold handleTransferMove
  dsimp only
  split
  case isTrue occupied =>
      exact .setCells within rfl rfl fun _ => .of_same (handleElasticCollision_same _ _ _).2
  case isFalse free =>
      split
      case isTrue incomplete =>
          exact .setCells within (noteDeficit_data ..) (noteDeficit_manager ..)
            fun wooden => transfer_target_grown wooden.2 _ _
      case isFalse complete =>
          exact .setCells within rfl rfl fun wooden => transfer_target_grown wooden.2 _ _

theorem handleInelasticCollision_spares (within : move.Within world.data.toGrid) :
    Spares move world (world.handleInelasticCollision move) := by
  have target (source : Cell K) (comp : VelocityComponents K) (restitution : K)
      (wooden : Wooden (world.cellAt move.toPos)) :
      Grown (world.cellAt move.toPos)
        (source.transferToWithPhysics (pushed (world.cellAt move.toPos) move comp restitution)
          move.amount move.getDirection).target := by
    have same := Grown.of_same (pushed_same (world.cellAt move.toPos) move comp restitution)
    exact same.trans (transfer_target_grown (same.not_isEmpty wooden.2) _ _)
  unfold handleInelasticCollision
  dsimp only
  split
  · exact .setCells within (noteDeficit_data ..) (noteDeficit_manager ..) (target _ _ _)
  · exact .setCells within rfl rfl (target _ _ _)

theorem handleInelasticMove_spares (within : move.Within world.data.toGrid) :
    Spares move world (world.handleInelasticMove move) := by
  obtain ⟨manager, keeps, refused⟩ := handleWaterFragmentation_spares move world
  unfold handleInelasticMove
  dsimp only
  split
  case isTrue splashed =>
      exact ⟨manager, fun pos _ wooden => .of_same (keeps pos wooden)⟩
  case isFalse dry =>
      have data := refused (Bool.not_eq_true _ ▸ dry)
      have within' : move.Within (world.handleWaterFragmentation move).2.data.toGrid := by
        rwa [data]
      exact (handleInelasticCollision_spares within').congr data manager

omit [IsStrictOrderedRing K] in
theorem handleAbsorption_eq (world : World K F) (move : MaterialMove K) :
    world.handleAbsorption move = world.handleTransferMove move := by
  unfold handleAbsorption
  dsimp only
  split
  · rfl
  · split <;> rfl

/-- **No collision takes wood from any cell but its source**, and none changes an owner. -/
theorem handleCollision_spares (within : move.Within world.data.toGrid) (type : CollisionType) :
    Spares move world (world.handleCollision move type) := by
  cases type with
  | transferOnly => exact handleTransferMove_spares within
  | compressionContact =>
      exact .setCells within rfl rfl fun _ => .of_same (handleCompressionContact_same _ _ _ _).2
  | fluidBlockedContact =>
      exact .setCells within rfl rfl fun _ => .of_same (handleFluidBlockedContact_same _ _ _).2
  | elasticReflection =>
      exact .setCells within rfl rfl fun _ => .of_same (handleElasticCollision_same _ _ _).2
  | inelasticCollision => exact handleInelasticMove_spares within
  | fragmentation => exact handleInelasticCollision_spares within
  | absorption =>
      have transfer := handleTransferMove_spares within
      rwa [← handleAbsorption_eq] at transfer

section

variable (within : move.Within world.data.toGrid)

include within

omit [IsStrictOrderedRing K] in
theorem handleTransferMove_kept
    (refuses : move.amount ≤ 0 ∨ ¬ (world.cellAt move.toPos).isEmpty)
    (owned : world.organismManager.organismAt move.fromPos ≠ invalidOrganismId) :
    SameMatter (world.cellAt move.fromPos) ((world.handleTransferMove move).cellAt move.fromPos) := by
  unfold handleTransferMove
  dsimp only
  split
  case isTrue occupied =>
      rw [cellAt_setCells_from within]
      exact (handleElasticCollision_same _ _ _).1
  case isFalse free =>
      have none_asked : move.amount ≤ 0 := by
        refine refuses.resolve_right fun filled => free ⟨owned, ?_⟩
        rwa [Bool.not_eq_true', ← Bool.not_eq_true]
      have kept : ((world.cellAt move.fromPos).transferToWithPhysics (world.cellAt move.toPos)
          move.amount move.getDirection).source = world.cellAt move.fromPos :=
        transfer_refused move.getDirection (.inl none_asked)
      split
      case isTrue incomplete =>
          rw [cellAt_setCells_from (by rwa [noteDeficit_data]), kept]
          exact reflect_same _ _ _
      case isFalse complete =>
          rw [cellAt_setCells_from within, kept]
          exact .refl _

section

variable (wooden : Wooden (world.cellAt move.fromPos))
  (refuses : move.amount ≤ 0 ∨ ¬ (world.cellAt move.toPos).isEmpty ∧ (world.cellAt move.toPos).materialType ≠ .wood)
include wooden refuses

omit [IsStrictOrderedRing K] in
theorem handleInelasticCollision_kept :
    SameMatter (world.cellAt move.fromPos)
      ((world.handleInelasticCollision move).cellAt move.fromPos) := by
  have kept (velocity : Vector2 K) (comp : VelocityComponents K) (restitution : K) :
      SameMatter (world.cellAt move.fromPos)
        (((world.cellAt move.fromPos).withVelocity velocity).transferToWithPhysics
          (pushed (world.cellAt move.toPos) move comp restitution) move.amount
          move.getDirection).source := by
    have same := pushed_same (world.cellAt move.toPos) move comp restitution
    rw [transfer_refused _ (refuses.imp_right fun ⟨filled, other⟩ => ⟨?_, ?_⟩)]
    · exact withVelocity_same _ _
    · rwa [← same_isEmpty same]
    · intro woody
      refine other (same.1.trans (woody.trans ?_))
      exact wooden.1
  unfold handleInelasticCollision
  dsimp only
  split
  · rw [cellAt_setCells_from (by rwa [noteDeficit_data])]
    exact kept _ _ _
  · rw [cellAt_setCells_from within]
    exact kept _ _ _

theorem handleInelasticMove_kept :
    SameMatter (world.cellAt move.fromPos)
      ((world.handleInelasticMove move).cellAt move.fromPos) := by
  obtain ⟨_, keeps, refused⟩ := handleWaterFragmentation_spares move world
  unfold handleInelasticMove
  dsimp only
  split
  case isTrue splashed => exact keeps _ wooden
  case isFalse dry =>
      have data := refused (Bool.not_eq_true _ ▸ dry)
      have same (pos : Vector2i) :
          (world.handleWaterFragmentation move).2.cellAt pos = world.cellAt pos := by
        rw [cellAt, data, cellAt]
      have within' : move.Within (world.handleWaterFragmentation move).2.data.toGrid := by
        rwa [data]
      have kept := handleInelasticCollision_kept within'
      rw [same, same] at kept
      exact kept wooden refuses

end

/-- **Refusal.** An organism's cell stays as it is when the target does not take it in. -/
theorem handleCollision_kept
    (owned : world.organismManager.organismAt move.fromPos ≠ invalidOrganismId)
    (wooden : Wooden (world.cellAt move.fromPos)) {type : CollisionType}
    (refuses : move.amount ≤ 0 ∨ takesIn type (world.cellAt move.toPos) = false) :
    SameMatter (world.cellAt move.fromPos)
      ((world.handleCollision move type).cellAt move.fromPos) := by
  have filled : takesIn .transferOnly (world.cellAt move.toPos) = false →
      ¬ (world.cellAt move.toPos).isEmpty := fun refused => Bool.not_eq_true _ ▸ refused
  have foreign : takesIn .inelasticCollision (world.cellAt move.toPos) = false →
      ¬ (world.cellAt move.toPos).isEmpty ∧ (world.cellAt move.toPos).materialType ≠ .wood := by
    intro refused
    obtain ⟨filled, other⟩ := Bool.or_eq_false_iff.mp refused
    exact ⟨Bool.not_eq_true _ ▸ filled, of_decide_eq_false other⟩
  cases type with
  | transferOnly => exact handleTransferMove_kept within (refuses.imp_right filled) owned
  | compressionContact =>
      refine cellAt_setCells_from within _ ▸ ?_
      exact (handleCompressionContact_same _ _ _ _).1
  | fluidBlockedContact =>
      refine cellAt_setCells_from within _ ▸ ?_
      exact (handleFluidBlockedContact_same _ _ _).1
  | elasticReflection =>
      refine cellAt_setCells_from within _ ▸ ?_
      exact (handleElasticCollision_same _ _ _).1
  | inelasticCollision => exact handleInelasticMove_kept within wooden (refuses.imp_right foreign)
  | fragmentation => exact handleInelasticCollision_kept within wooden (refuses.imp_right foreign)
  | absorption =>
      have kept := handleTransferMove_kept within (refuses.imp_right filled) owned
      rwa [← handleAbsorption_eq] at kept

/-- There is room for all of the source, and something is to be moved. -/
structure Fits (world : World K F) (move : MaterialMove K) : Prop where
  positive : 0 < move.amount
  room : (world.cellAt move.fromPos).fillRatio ≤ (world.cellAt move.toPos).getCapacity
  full : (world.cellAt move.fromPos).fillRatio ≤ 1

omit [Analytic K] in
theorem Poured.of_transfer {noted : World K F} (data : noted.data = world.data)
    (wooden : Wooden (world.cellAt move.fromPos)) (fits : world.Fits move)
    (takes : (world.cellAt move.toPos).isEmpty ∨ (world.cellAt move.toPos).materialType = .wood)
    {source target left : Cell K} (sameSource : SameMatter (world.cellAt move.fromPos) source)
    (sameTarget : SameMatter (world.cellAt move.toPos) target) (normal : Vector2 K)
    (rest : SameMatter (source.transferToWithPhysics target move.amount normal).source left) :
    Poured move world (noted.setCells move
      (left, (source.transferToWithPhysics target move.amount normal).target)) := by
  have within' : move.Within noted.data.toGrid := by rwa [data]
  have fillSource : (world.cellAt move.fromPos).fillRatio = source.fillRatio := sameSource.2
  have fillTarget : (world.cellAt move.toPos).fillRatio = target.fillRatio := sameTarget.2
  have materialSource : (world.cellAt move.fromPos).materialType = source.materialType :=
    sameSource.1
  have materialTarget : (world.cellAt move.toPos).materialType = target.materialType :=
    sameTarget.1
  have room : source.fillRatio ≤ target.getCapacity := by
    have room := fits.room
    rwa [Cell.getCapacity, fillSource, fillTarget] at room
  have takes' : target.isEmpty ∨ target.materialType = source.materialType := by
    rw [← same_isEmpty sameTarget, ← materialTarget, ← materialSource, wooden.1]
    exact takes
  obtain ⟨given, material, fill⟩ := transfer_fits
    (by rw [← same_isEmpty sameSource]; exact wooden.2) fits.positive normal room
    (fillSource ▸ fits.full) takes'
  refine ⟨?_, ?_, ?_⟩
  · rw [cellAt_setCells_from within']
    rw [given] at rest
    refine Ledger.Same.trans ?_ rest
    rw [fillSource]
    exact removeMaterial_same sameSource _
  · rw [cellAt_setCells_to within'.toInside, material, materialSource]
  · rw [cellAt_setCells_to within'.toInside, fill, same_isEmpty sameTarget, fillSource, fillTarget]

section

variable (wooden : Wooden (world.cellAt move.fromPos)) (fits : world.Fits move)
include wooden fits

theorem handleTransferMove_pours (empty : (world.cellAt move.toPos).isEmpty) :
    Poured move world (world.handleTransferMove move) := by
  unfold handleTransferMove
  dsimp only
  split
  case isTrue occupied =>
      rw [empty] at occupied
      cases occupied.2
  case isFalse free =>
      split
      case isTrue incomplete =>
          exact .of_transfer within (noteDeficit_data ..) wooden fits (.inl empty) (.refl _)
            (.refl _) _ (reflect_same _ _ _)
      case isFalse complete =>
          exact .of_transfer within rfl wooden fits (.inl empty) (.refl _) (.refl _) _ (.refl _)

theorem handleInelasticCollision_pours
    (takes : (world.cellAt move.toPos).isEmpty ∨ (world.cellAt move.toPos).materialType = .wood) :
    Poured move world (world.handleInelasticCollision move) := by
  unfold handleInelasticCollision
  dsimp only
  split
  · exact .of_transfer within (noteDeficit_data ..) wooden fits takes (withVelocity_same _ _)
      (pushed_same _ _ _ _) _ (.refl _)
  · exact .of_transfer within rfl wooden fits takes (withVelocity_same _ _) (pushed_same _ _ _ _) _
      (.refl _)

theorem handleInelasticMove_pours
    (takes : (world.cellAt move.toPos).isEmpty ∨ (world.cellAt move.toPos).materialType = .wood) :
    Poured move world (world.handleInelasticMove move) := by
  have dry : (world.handleWaterFragmentation move).1 = false := handleWaterFragmentation_dry
    (fun water => absurd (wooden.1.symm.trans water) (by decide))
    (takes.imp_right fun wood water => absurd (wood.symm.trans water) (by decide))
  have data := (handleWaterFragmentation_spares move world).2.2 dry
  have same (pos : Vector2i) :
      (world.handleWaterFragmentation move).2.cellAt pos = world.cellAt pos := by
    rw [cellAt, data, cellAt]
  have fits' : (world.handleWaterFragmentation move).2.Fits move := by
    obtain ⟨positive, room, full⟩ := fits
    exact ⟨positive, by rwa [same, same], by rwa [same]⟩
  have within' : move.Within (world.handleWaterFragmentation move).2.data.toGrid := by rwa [data]
  obtain ⟨source, material, fill⟩ :=
    handleInelasticCollision_pours within' (by rwa [same]) fits' (by rwa [same])
  rw [same] at source material
  rw [same, same] at fill
  unfold handleInelasticMove
  dsimp only
  rw [dry, if_neg Bool.false_ne_true]
  exact ⟨source, material, fill⟩

/-- **Transfer.** An organism's cell is poured into a target that takes it in. -/
theorem handleCollision_pours {type : CollisionType}
    (takes : takesIn type (world.cellAt move.toPos) = true) :
    Poured move world (world.handleCollision move type) := by
  have either : takesIn .inelasticCollision (world.cellAt move.toPos) = true →
      (world.cellAt move.toPos).isEmpty ∨ (world.cellAt move.toPos).materialType = .wood := by
    intro taken
    exact (Bool.or_eq_true_iff.mp taken).imp_right of_decide_eq_true
  cases type with
  | transferOnly => exact handleTransferMove_pours within wooden fits takes
  | compressionContact => cases takes
  | fluidBlockedContact => cases takes
  | elasticReflection => cases takes
  | inelasticCollision => exact handleInelasticMove_pours within wooden fits (either takes)
  | fragmentation => exact handleInelasticCollision_pours within wooden fits (either takes)
  | absorption =>
      have poured := handleTransferMove_pours within wooden fits takes
      rwa [← handleAbsorption_eq] at poured

end

end

end

end World

end DirtSim
