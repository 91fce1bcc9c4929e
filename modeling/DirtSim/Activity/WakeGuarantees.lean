import DirtSim.Activity.RegionActivityTracker
import DirtSim.Core.Real
import DirtSim.Foundation.Transition

/-! # Wakes are not lost and active neighbourhoods are not frozen

A region whose wake was noted is awake in the next frame, with the cells around it; the active cells
are those near a region that is not asleep; and a region falls asleep only after enough quiet frames
(`WorldRegionActivityTracker.wakes_kept`).
-/

namespace DirtSim

open Foundation

namespace WorldRegionActivityTracker

open RegionActivity

variable {K : Type*}

/-- The calls other components make. -/
inductive Event (K : Type*)
  | noteWakeAtCell (x y : ℤ) (reason : WakeReason)
  | noteWakeAtRegion (blockX blockY : ℤ) (reason : WakeReason)
  | noteBlockedTransfer (x y : ℤ)
  | noteMaterialMove (fromX fromY toX toY : ℤ)
  | beginFrame (frame : Frame K) (timestep : UInt32)
  | summarizeFrame (frame : Frame K) (timestep : UInt32)

/-- The dimensions of a grid and of its blocks, as a `GridOfCells` has them. -/
def OfSize (width height : ℕ) (grid : GridOfCells K) : Prop :=
  grid.cells.width = width ∧ grid.cells.height = height ∧
    grid.getBlocksX = (width + 7) / 8 ∧ grid.getBlocksY = (height + 7) / 8

/-- The frames of a run all have the run's dimensions. -/
def Event.OfSize (width height : ℕ) : Event K → Prop
  | .beginFrame frame _ | .summarizeFrame frame _ =>
      WorldRegionActivityTracker.OfSize width height frame.grid
  | _ => True

def InWorld (width height : ℕ) (x y : ℤ) : Prop := 0 ≤ x ∧ 0 ≤ y ∧ x < width ∧ y < height

def IsRegion (width height : ℕ) (blockX blockY : ℤ) : Prop :=
  InWorld ((width + 7) / 8) ((height + 7) / 8) blockX blockY

def Near (blockX blockY otherX otherY : ℤ) : Prop :=
  -1 ≤ blockX - otherX ∧ blockX - otherX ≤ 1 ∧ -1 ≤ blockY - otherY ∧ blockY - otherY ≤ 1

def Event.Wakes (width height : ℕ) (blockX blockY : ℤ) : Event K → Prop
  | .noteWakeAtCell x y _ | .noteBlockedTransfer x y =>
      InWorld width height x y ∧ x / 8 = blockX ∧ y / 8 = blockY
  | .noteWakeAtRegion blockX' blockY' _ =>
      IsRegion width height blockX' blockY' ∧ blockX' = blockX ∧ blockY' = blockY
  | .noteMaterialMove fromX fromY toX toY =>
      (InWorld width height fromX fromY ∧ fromX / 8 = blockX ∧ fromY / 8 = blockY) ∨
        (InWorld width height toX toY ∧ toX / 8 = blockX ∧ toY / 8 = blockY)
  | .beginFrame _ _ | .summarizeFrame _ _ => False

def Event.isBeginFrame : Event K → Bool
  | .beginFrame _ _ => true
  | _ => false

variable [Field K] [LinearOrder K] [Analytic K]
variable {event : Event K}

def Event.apply (tracker : WorldRegionActivityTracker K) : Event K → WorldRegionActivityTracker K
  | .noteWakeAtCell x y reason => tracker.noteWakeAtCell x y reason
  | .noteWakeAtRegion blockX blockY reason => tracker.noteWakeAtRegion blockX blockY reason
  | .noteBlockedTransfer x y => tracker.noteBlockedTransfer x y
  | .noteMaterialMove fromX fromY toX toY => tracker.noteMaterialMove fromX fromY toX toY
  | .beginFrame frame timestep => tracker.beginFrame frame timestep
  | .summarizeFrame frame _ => tracker.summarizeFrame frame

def machine (config : Config K) (width height : ℕ) :
    Machine (Event K) (WorldRegionActivityTracker K) where
  initial tracker := ∃ fresh : WorldRegionActivityTracker K, fresh.config = config ∧
    tracker = fresh.resize width height ((width + 7) / 8) ((height + 7) / 8)
  step before event after := event.OfSize width height ∧ after = event.apply before

/-- The frame's summary gives no reason to keep the region awake. -/
def foundQuiet (tracker : WorldRegionActivityTracker K) (frame : Frame K) (blockX blockY : ℤ) :
    Bool :=
  let fitted := tracker.fitTo frame.grid
  !shouldForceAwake (((fitted.summarize frame).get? blockX blockY).getD blankSummary) fitted.config

/-- The frame begins with a wake for the region, requested before or caused by gravity. -/
def wakeApplied (tracker : WorldRegionActivityTracker K) (frame : Frame K) (blockX blockY : ℤ) :
    Bool :=
  ((tracker.fitTo frame.grid).noteGravity frame.gravity).wakeRequested blockX blockY

/-- The number of consecutive quiet frames of a region, after one more call. -/
def streakAfter (tracker : WorldRegionActivityTracker K) (blockX blockY : ℤ) (streak : ℕ) :
    Event K → ℕ
  | .summarizeFrame frame _ => if tracker.foundQuiet frame blockX blockY then streak + 1 else 0
  | .beginFrame frame _ => if tracker.wakeApplied frame blockX blockY then 0 else streak
  | _ => streak

/-- The number of consecutive `summarizeFrame` calls at the end of a run that found the region
quiet, with no wake applied between them or since. -/
def quietStreak (blockX blockY : ℤ) (tracker : WorldRegionActivityTracker K) (streak : ℕ) :
    List (Event K) → ℕ
  | [] => streak
  | event :: events =>
      quietStreak blockX blockY (event.apply tracker)
        (tracker.streakAfter blockX blockY streak event) events

section

/-! ## Requests only accumulate between frames -/

omit [Field K] [LinearOrder K] [Analytic K]

/-- The later tracker differs from the earlier one at most in additional requests. -/
structure Keeps (before after : WorldRegionActivityTracker K) : Prop where
  config : after.config = before.config
  world : after.worldWidth = before.worldWidth ∧ after.worldHeight = before.worldHeight
  blocks : after.blocksX = before.blocksX ∧ after.blocksY = before.blocksY
  regionMeta : after.regionMeta = before.regionMeta
  regionActive : after.regionActive = before.regionActive
  cellActive : after.cellActive = before.cellActive
  requestSize : after.regionWakeRequested.width = before.regionWakeRequested.width ∧
    after.regionWakeRequested.height = before.regionWakeRequested.height
  requested : ∀ blockX blockY, before.wakeRequested blockX blockY = true →
    after.wakeRequested blockX blockY = true

variable {before middle after : WorldRegionActivityTracker K}
variable (tracker : WorldRegionActivityTracker K)

theorem Keeps.refl : Keeps tracker tracker :=
  ⟨rfl, ⟨rfl, rfl⟩, ⟨rfl, rfl⟩, rfl, rfl, rfl, ⟨rfl, rfl⟩, fun _ _ requested => requested⟩

theorem Keeps.trans (first : Keeps before middle) (second : Keeps middle after) :
    Keeps before after where
  config := second.config.trans first.config
  world := ⟨second.world.1.trans first.world.1, second.world.2.trans first.world.2⟩
  blocks := ⟨second.blocks.1.trans first.blocks.1, second.blocks.2.trans first.blocks.2⟩
  regionMeta := second.regionMeta.trans first.regionMeta
  regionActive := second.regionActive.trans first.regionActive
  cellActive := second.cellActive.trans first.cellActive
  requestSize := ⟨second.requestSize.1.trans first.requestSize.1,
    second.requestSize.2.trans first.requestSize.2⟩
  requested blockX blockY requested :=
    second.requested blockX blockY (first.requested blockX blockY requested)

theorem keeps_noteWakeAtRegion (blockX blockY : ℤ) (reason : WakeReason) :
    Keeps tracker (tracker.noteWakeAtRegion blockX blockY reason) := by
  unfold noteWakeAtRegion
  by_cases outside : blockX < 0 ∨ blockY < 0 ∨ blockX ≥ tracker.blocksX ∨ blockY ≥ tracker.blocksY
  · rw [if_pos outside]
    exact .refl tracker
  · rw [if_neg outside]
    refine ⟨rfl, ⟨rfl, rfl⟩, ⟨rfl, rfl⟩, rfl, rfl, rfl,
      ⟨Grid.set_width .., Grid.set_height ..⟩, ?_⟩
    intro otherX otherY requested
    unfold wakeRequested at requested ⊢
    rw [Grid.get?_set]
    split
    · rfl
    · exact requested

theorem keeps_noteWakeAtCell (x y : ℤ) (reason : WakeReason) :
    Keeps tracker (tracker.noteWakeAtCell x y reason) := by
  unfold noteWakeAtCell
  split
  · exact .refl tracker
  · exact keeps_noteWakeAtRegion tracker _ _ reason

theorem keeps_noteMaterialMove (fromX fromY toX toY : ℤ) :
    Keeps tracker (tracker.noteMaterialMove fromX fromY toX toY) :=
  (keeps_noteWakeAtCell tracker fromX fromY .move).trans (keeps_noteWakeAtCell _ toX toY .move)

theorem keeps_foldl_noteWakeAtRegion (reason : WakeReason) (positions : List (ℤ × ℤ))
    (tracker : WorldRegionActivityTracker K) :
    Keeps tracker (positions.foldl
      (fun tracker (blockX, blockY) => tracker.noteWakeAtRegion blockX blockY reason)
      tracker) := by
  induction positions generalizing tracker with
  | nil => exact .refl tracker
  | cons position positions ih => exact (keeps_noteWakeAtRegion tracker _ _ reason).trans (ih _)

theorem keeps_noteGravity [Field K] [LinearOrder K] (gravity : K) :
    Keeps tracker (tracker.noteGravity gravity) := by
  unfold noteGravity
  split
  · exact ⟨rfl, ⟨rfl, rfl⟩, ⟨rfl, rfl⟩, rfl, rfl, rfl, ⟨rfl, rfl⟩, fun _ _ requested => requested⟩
  · split
    · have kept := keeps_foldl_noteWakeAtRegion .gravityChanged
        (Grid.coordinates tracker.blocksX tracker.blocksY) tracker
      exact ⟨kept.config, kept.world, kept.blocks, kept.regionMeta, kept.regionActive,
        kept.cellActive, kept.requestSize, kept.requested⟩
    · exact .refl tracker

end

section

/-! ## Every grid keeps its dimensions -/

omit [Field K] [LinearOrder K] [Analytic K]

/-- The tracker and its grids have the dimensions of the world. -/
structure Shaped (width height : ℕ) (tracker : WorldRegionActivityTracker K) : Prop where
  world : tracker.worldWidth = width ∧ tracker.worldHeight = height
  blocks : tracker.blocksX = (width + 7) / 8 ∧ tracker.blocksY = (height + 7) / 8
  regionMeta : tracker.regionMeta.width = (width + 7) / 8 ∧
    tracker.regionMeta.height = (height + 7) / 8
  requests : tracker.regionWakeRequested.width = (width + 7) / 8 ∧
    tracker.regionWakeRequested.height = (height + 7) / 8
  regionActive : tracker.regionActive.width = (width + 7) / 8 ∧
    tracker.regionActive.height = (height + 7) / 8
  cellActive : tracker.cellActive.width = width ∧ tracker.cellActive.height = height

variable {width height : ℕ} {tracker before after : WorldRegionActivityTracker K}

theorem Shaped.of_keeps (shaped : before.Shaped width height) (kept : Keeps before after) :
    after.Shaped width height where
  world := by rw [kept.world.1, kept.world.2]; exact shaped.world
  blocks := by rw [kept.blocks.1, kept.blocks.2]; exact shaped.blocks
  regionMeta := by rw [kept.regionMeta]; exact shaped.regionMeta
  requests := by rw [kept.requestSize.1, kept.requestSize.2]; exact shaped.requests
  regionActive := by rw [kept.regionActive]; exact shaped.regionActive
  cellActive := by rw [kept.cellActive]; exact shaped.cellActive

theorem inBounds_iff {α : Type*} {grid : Grid α} (size : grid.width = width ∧ grid.height = height)
    {x y : ℤ} : grid.InBounds x y ↔ InWorld width height x y := by
  unfold Grid.InBounds InWorld
  rw [size.1, size.2]

theorem shaped_resize [Field K] (tracker : WorldRegionActivityTracker K) (width height : ℕ) :
    (tracker.resize width height ((width + 7) / 8) ((height + 7) / 8)).Shaped width height :=
  ⟨⟨rfl, rfl⟩, ⟨rfl, rfl⟩, ⟨rfl, rfl⟩, ⟨rfl, rfl⟩, ⟨rfl, rfl⟩, ⟨rfl, rfl⟩⟩

theorem Shaped.fitTo_eq [Field K] (shaped : tracker.Shaped width height) {grid : GridOfCells K}
    (size : OfSize width height grid) : tracker.fitTo grid = tracker := by
  obtain ⟨gridWidth, gridHeight, blocksX, blocksY⟩ := size
  unfold fitTo
  rw [if_neg]
  rw [shaped.world.1, shaped.world.2, shaped.blocks.1, shaped.blocks.2, gridWidth, gridHeight,
    blocksX, blocksY]
  simp

end

section

/-! ## From a noted wake to the next frame -/

omit [Field K] [LinearOrder K] [Analytic K]

variable {width height : ℕ} {tracker : WorldRegionActivityTracker K}
variable {blockX blockY : ℤ}

theorem wakeRequested_noteWakeAtRegion (shaped : tracker.Shaped width height)
    (region : IsRegion width height blockX blockY) (reason : WakeReason) :
    (tracker.noteWakeAtRegion blockX blockY reason).wakeRequested blockX blockY = true := by
  have inside : tracker.regionWakeRequested.InBounds blockX blockY :=
    (inBounds_iff shaped.requests).mpr region
  obtain ⟨left, top, right, bottom⟩ := region
  unfold noteWakeAtRegion wakeRequested
  rw [shaped.blocks.1, shaped.blocks.2, if_neg (by omega), Grid.get?_set_self inside]
  rfl

theorem isRegion_of_inWorld {x y : ℤ} (inside : InWorld width height x y) :
    IsRegion width height (x / 8) (y / 8) := by
  unfold IsRegion InWorld at *
  omega

theorem wakeRequested_noteWakeAtCell (shaped : tracker.Shaped width height) {x y : ℤ}
    (inside : InWorld width height x y) (reason : WakeReason) :
    (tracker.noteWakeAtCell x y reason).wakeRequested (x / 8) (y / 8) = true := by
  have region := isRegion_of_inWorld inside
  obtain ⟨left, top, right, bottom⟩ := inside
  unfold noteWakeAtCell
  rw [shaped.world.1, shaped.world.2, if_neg (by omega)]
  exact wakeRequested_noteWakeAtRegion shaped region reason

theorem Shaped.isRegion_of_requested (shaped : tracker.Shaped width height)
    (requested : tracker.wakeRequested blockX blockY = true) :
    IsRegion width height blockX blockY := by
  refine (inBounds_iff shaped.requests).mp (Grid.get?_isSome_iff.mp ?_)
  unfold wakeRequested at requested
  cases read : tracker.regionWakeRequested.get? blockX blockY with
  | none =>
      rw [read] at requested
      exact absurd requested nofun
  | some _ => rfl

variable [Field K] [LinearOrder K] [Analytic K]

theorem wakeRequested_apply (shaped : tracker.Shaped width height)
    (wakes : event.Wakes width height blockX blockY) :
    (event.apply tracker).wakeRequested blockX blockY = true := by
  cases event with
  | noteWakeAtCell x y reason =>
      obtain ⟨inside, rfl, rfl⟩ := wakes
      exact wakeRequested_noteWakeAtCell shaped inside reason
  | noteWakeAtRegion blockX' blockY' reason =>
      obtain ⟨region, rfl, rfl⟩ := wakes
      exact wakeRequested_noteWakeAtRegion shaped region reason
  | noteBlockedTransfer x y =>
      obtain ⟨inside, rfl, rfl⟩ := wakes
      exact wakeRequested_noteWakeAtCell shaped inside .blockedTransfer
  | noteMaterialMove fromX fromY toX toY =>
      rcases wakes with ⟨inside, rfl, rfl⟩ | ⟨inside, rfl, rfl⟩
      · exact (keeps_noteWakeAtCell _ toX toY .move).requested _ _
          (wakeRequested_noteWakeAtCell shaped inside .move)
      · exact wakeRequested_noteWakeAtCell
          (shaped.of_keeps (keeps_noteWakeAtCell tracker fromX fromY .move)) inside .move
  | beginFrame frame timestep => exact wakes.elim
  | summarizeFrame frame timestep => exact wakes.elim

omit [Field K] [LinearOrder K] [Analytic K] in
theorem getRegionMeta_applyWakeRequests (shaped : tracker.Shaped width height) (timestep : UInt32)
    (region : IsRegion width height blockX blockY) :
    (tracker.applyWakeRequests timestep).getRegionMeta blockX blockY =
      if tracker.wakeRequested blockX blockY then
        { state := .awake
          quietFrames := 0
          lastWakeReason := (tracker.regionPendingWakeReason.get? blockX blockY).getD .none
          lastWakeStep := timestep }
      else tracker.getRegionMeta blockX blockY := by
  obtain ⟨stored, read⟩ := Option.isSome_iff_exists.mp
    (Grid.get?_isSome_iff.mpr ((inBounds_iff shaped.regionMeta).mpr region))
  unfold getRegionMeta applyWakeRequests
  simp [Grid.get?_mapCells, read]

end

section

variable {x y : ℤ} {grid : Grid Bool}

/-! ## The active masks -/

omit [Field K] [LinearOrder K] [Analytic K]

theorem marked_foldl {α : Type*} (step : Grid Bool → α → Grid Bool) (touches : α → Prop)
    (each : ∀ grid item, grid.InBounds x y → (step grid item).InBounds x y ∧
      ((step grid item).get? x y = some true ↔ grid.get? x y = some true ∨ touches item))
    (items : List α) (inside : grid.InBounds x y) :
    (items.foldl step grid).InBounds x y ∧
      ((items.foldl step grid).get? x y = some true ↔
        grid.get? x y = some true ∨ ∃ item ∈ items, touches item) := by
  induction items generalizing grid with
  | nil =>
      refine ⟨inside, ?_⟩
      simp
  | cons item items ih =>
      obtain ⟨inside', marked⟩ := each grid item inside
      obtain ⟨inside'', marked'⟩ := ih inside'
      refine ⟨inside'', ?_⟩
      rw [List.foldl_cons, marked', marked]
      simp [or_assoc]

theorem marked_set (inside : grid.InBounds x y) (x' y' : ℤ) :
    (grid.set x' y' true).InBounds x y ∧
      ((grid.set x' y' true).get? x y = some true ↔
        grid.get? x y = some true ∨ (x = x' ∧ y = y')) := by
  refine ⟨Grid.set_inBounds.mpr inside, ?_⟩
  by_cases same : x = x' ∧ y = y'
  · obtain ⟨rfl, rfl⟩ := same
    rw [Grid.get?_set_self inside]
    simp
  · rw [Grid.get?_set_ne _ _ fun equal => same ⟨congrArg Prod.fst equal, congrArg Prod.snd equal⟩]
    simp [same]

theorem marked_markHalo (inside : grid.InBounds x y) (blockX blockY : ℤ) :
    (markHalo grid blockX blockY).InBounds x y ∧
      ((markHalo grid blockX blockY).get? x y = some true ↔
        grid.get? x y = some true ∨ Near x y blockX blockY) := by
  obtain ⟨inside', marked⟩ := marked_foldl
    (fun grid (offset : ℤ × ℤ) => grid.set (blockX + offset.1) (blockY + offset.2) true)
    (fun offset => x = blockX + offset.1 ∧ y = blockY + offset.2)
    (fun grid offset inside => marked_set inside _ _) offsets inside
  refine ⟨inside', marked.trans (or_congr_right ?_)⟩
  unfold Near
  constructor
  · rintro ⟨⟨dx, dy⟩, member, rfl, rfl⟩
    have bounds := mem_offsets.mp member
    simp only
    omega
  · intro near
    refine ⟨(x - blockX, y - blockY), mem_offsets.mpr (by omega), ?_, ?_⟩ <;> simp only <;> omega

theorem size_foldl {α : Type*} (step : Grid Bool → α → Grid Bool)
    (each : ∀ grid item, (step grid item).width = grid.width ∧
      (step grid item).height = grid.height) (items : List α) (grid : Grid Bool) :
    (items.foldl step grid).width = grid.width ∧ (items.foldl step grid).height = grid.height := by
  induction items generalizing grid with
  | nil => exact ⟨rfl, rfl⟩
  | cons item items ih =>
      obtain ⟨width, height⟩ := each grid item
      obtain ⟨width', height'⟩ := ih (step grid item)
      exact ⟨width'.trans width, height'.trans height⟩

theorem size_markHalo (grid : Grid Bool) (blockX blockY : ℤ) :
    (markHalo grid blockX blockY).width = grid.width ∧
      (markHalo grid blockX blockY).height = grid.height :=
  size_foldl _ (fun grid _ => ⟨Grid.set_width grid .., Grid.set_height grid ..⟩) offsets grid

variable {width height : ℕ} {tracker : WorldRegionActivityTracker K}

theorem Shaped.buildActiveMasks (shaped : tracker.Shaped width height) :
    tracker.buildActiveMasks.Shaped width height := by
  have size := size_foldl
    (fun active (block : ℤ × ℤ) =>
      if isActiveState (tracker.getRegionMeta block.1 block.2).state then
        markHalo active block.1 block.2
      else active)
    (by
      intro grid block
      split
      · exact size_markHalo grid block.1 block.2
      · exact ⟨rfl, rfl⟩)
    (Grid.coordinates tracker.blocksX tracker.blocksY)
    (tracker.regionActive.mapCells fun _ _ _ => false)
  exact ⟨shaped.world, shaped.blocks, shaped.regionMeta, shaped.requests,
    ⟨size.1.trans shaped.regionActive.1, size.2.trans shaped.regionActive.2⟩, shaped.cellActive⟩

theorem regionActive_buildActiveMasks (shaped : tracker.Shaped width height) {blockX blockY : ℤ}
    (region : IsRegion width height blockX blockY) :
    tracker.buildActiveMasks.regionActive.get? blockX blockY = some true ↔
      ∃ otherX otherY, IsRegion width height otherX otherY ∧ Near blockX blockY otherX otherY ∧
        isActiveState (tracker.getRegionState otherX otherY) = true := by
  have inside : tracker.regionActive.InBounds blockX blockY :=
    (inBounds_iff shaped.regionActive).mpr region
  have inside' : (tracker.regionActive.mapCells fun _ _ _ => false).InBounds blockX blockY := inside
  obtain ⟨_, marked⟩ := marked_foldl
    (fun active (block : ℤ × ℤ) =>
      if isActiveState (tracker.getRegionMeta block.1 block.2).state then
        markHalo active block.1 block.2
      else active)
    (fun block => isActiveState (tracker.getRegionState block.1 block.2) = true ∧
      Near blockX blockY block.1 block.2)
    (by
      intro grid block inside
      by_cases active : isActiveState (tracker.getRegionMeta block.1 block.2).state = true
      · have active' : isActiveState (tracker.getRegionState block.1 block.2) = true := active
        simp only [active, ↓reduceIte, active', true_and]
        exact marked_markHalo inside block.1 block.2
      · have active' : ¬ isActiveState (tracker.getRegionState block.1 block.2) = true := active
        simp [active, active', inside])
    (Grid.coordinates tracker.blocksX tracker.blocksY) inside'
  obtain ⟨stored, read⟩ := Option.isSome_iff_exists.mp (Grid.get?_isSome_iff.mpr inside)
  refine marked.trans ?_
  rw [Grid.get?_mapCells, read]
  simp only [Option.map_some, Option.some.injEq, Bool.false_eq_true, false_or]
  constructor
  · rintro ⟨⟨otherX, otherY⟩, member, active, near⟩
    rw [shaped.blocks.1, shaped.blocks.2] at member
    exact ⟨otherX, otherY, Grid.mem_coordinates.mp member, near, active⟩
  · rintro ⟨otherX, otherY, region', near, active⟩
    refine ⟨(otherX, otherY), ?_, active, near⟩
    rw [shaped.blocks.1, shaped.blocks.2]
    exact Grid.mem_coordinates.mpr region'

theorem isCellActive_buildActiveMasks (shaped : tracker.Shaped width height)
    (inside : InWorld width height x y) :
    tracker.buildActiveMasks.isCellActive x y = true ↔
      ∃ blockX blockY, IsRegion width height blockX blockY ∧ Near (x / 8) (y / 8) blockX blockY ∧
        isActiveState (tracker.getRegionState blockX blockY) = true := by
  rw [← regionActive_buildActiveMasks shaped (isRegion_of_inWorld inside)]
  obtain ⟨stored, read⟩ := Option.isSome_iff_exists.mp
    (Grid.get?_isSome_iff.mpr ((inBounds_iff shaped.cellActive).mpr inside))
  obtain ⟨left, top, right, bottom⟩ := inside
  have mask : tracker.buildActiveMasks.cellActive.get? x y =
      some ((tracker.buildActiveMasks.regionActive.get? (x / 8) (y / 8)).getD false) := by
    unfold buildActiveMasks
    simp [Grid.get?_mapCells, read]
  have nonempty : tracker.buildActiveMasks.cellActive.cells.isEmpty = false :=
    Grid.isEmpty_cells (Grid.get?_isSome_iff.mp (by rw [mask]; rfl))
  unfold isCellActive
  rw [if_neg (by rw [show tracker.buildActiveMasks.worldWidth = width from shaped.world.1,
    show tracker.buildActiveMasks.worldHeight = height from shaped.world.2]; omega), nonempty, mask]
  simp only [Bool.false_eq_true, ↓reduceIte, Option.getD_some]
  cases tracker.buildActiveMasks.regionActive.get? (x / 8) (y / 8) with
  | none => simp
  | some active => simp

end

section

variable {width height : ℕ} {config : Config K} {tracker after : WorldRegionActivityTracker K}
variable {frame : Frame K} {blockX blockY : ℤ}

omit [Field K] [LinearOrder K] [Analytic K] in
theorem Shaped.applyWakeRequests (shaped : tracker.Shaped width height) (timestep : UInt32) :
    (tracker.applyWakeRequests timestep).Shaped width height :=
  ⟨shaped.world, shaped.blocks, shaped.regionMeta, shaped.requests, shaped.regionActive,
    shaped.cellActive⟩

section

omit [Analytic K]

theorem beginFrame_eq (shaped : tracker.Shaped width height) (size : OfSize width height frame.grid)
    (timestep : UInt32) :
    tracker.beginFrame frame timestep =
      ((tracker.noteGravity frame.gravity).applyWakeRequests timestep).buildActiveMasks := by
  unfold beginFrame
  rw [shaped.fitTo_eq size]

theorem getRegionMeta_beginFrame (shaped : tracker.Shaped width height)
    (size : OfSize width height frame.grid) (timestep : UInt32)
    (region : IsRegion width height blockX blockY) :
    (tracker.beginFrame frame timestep).getRegionMeta blockX blockY =
      if tracker.wakeApplied frame blockX blockY then
        { state := .awake
          quietFrames := 0
          lastWakeReason := (((tracker.noteGravity frame.gravity).regionPendingWakeReason).get?
            blockX blockY).getD .none
          lastWakeStep := timestep }
      else tracker.getRegionMeta blockX blockY := by
  have kept := keeps_noteGravity tracker frame.gravity
  rw [beginFrame_eq shaped size]
  refine (getRegionMeta_applyWakeRequests (shaped.of_keeps kept) timestep region).trans ?_
  unfold wakeApplied getRegionMeta
  rw [shaped.fitTo_eq size, kept.regionMeta]

end

theorem getRegionMeta_summarizeFrame (shaped : tracker.Shaped width height)
    (size : OfSize width height frame.grid) (region : IsRegion width height blockX blockY) :
    (tracker.summarizeFrame frame).getRegionMeta blockX blockY =
      updateMeta tracker.config (((tracker.summarize frame).get? blockX blockY).getD blankSummary)
        (tracker.getRegionMeta blockX blockY) := by
  obtain ⟨stored, read⟩ := Option.isSome_iff_exists.mp
    (Grid.get?_isSome_iff.mpr ((inBounds_iff shaped.regionMeta).mpr region))
  unfold summarizeFrame getRegionMeta
  rw [shaped.fitTo_eq size]
  simp [snapshotPreviousFields, Grid.get?_mapCells, read]

/-- What holds of the tracker between any two calls. -/
structure Sound (config : Config K) (width height : ℕ) (tracker : WorldRegionActivityTracker K) :
    Prop where
  shaped : tracker.Shaped width height
  config_eq : tracker.config = config

omit [Field K] [LinearOrder K] [Analytic K] in
theorem Sound.of_keeps (sound : tracker.Sound config width height) (kept : Keeps tracker after) :
    after.Sound config width height :=
  ⟨sound.shaped.of_keeps kept, kept.config.trans sound.config_eq⟩

theorem Sound.apply (sound : tracker.Sound config width height) (size : event.OfSize width height) :
    (event.apply tracker).Sound config width height := by
  cases event with
  | noteWakeAtCell x y reason => exact sound.of_keeps (keeps_noteWakeAtCell tracker x y reason)
  | noteWakeAtRegion blockX blockY reason =>
      exact sound.of_keeps (keeps_noteWakeAtRegion tracker blockX blockY reason)
  | noteBlockedTransfer x y =>
      exact sound.of_keeps (keeps_noteWakeAtCell tracker x y .blockedTransfer)
  | noteMaterialMove fromX fromY toX toY =>
      exact sound.of_keeps (keeps_noteMaterialMove tracker fromX fromY toX toY)
  | beginFrame frame timestep =>
      have kept := sound.of_keeps (keeps_noteGravity tracker frame.gravity)
      have begun : Event.apply tracker (.beginFrame frame timestep) = _ :=
        beginFrame_eq sound.shaped size timestep
      rw [begun]
      exact ⟨(kept.shaped.applyWakeRequests timestep).buildActiveMasks, kept.config_eq⟩
  | summarizeFrame frame timestep =>
      have fitted := sound.shaped.fitTo_eq size
      have ended : Event.apply tracker (.summarizeFrame frame timestep) =
          tracker.summarizeFrame frame := rfl
      rw [ended]
      unfold summarizeFrame
      rw [fitted]
      exact ⟨⟨sound.shaped.world, sound.shaped.blocks, sound.shaped.regionMeta,
        sound.shaped.requests, sound.shaped.regionActive, sound.shaped.cellActive⟩,
        sound.config_eq⟩

theorem wakeRequested_of_not_beginFrame (sound : tracker.Sound config width height)
    (size : event.OfSize width height) (between : event.isBeginFrame = false)
    (requested : tracker.wakeRequested blockX blockY = true) :
    (event.apply tracker).wakeRequested blockX blockY = true := by
  cases event with
  | noteWakeAtCell x y reason =>
      exact (keeps_noteWakeAtCell tracker x y reason).requested _ _ requested
  | noteWakeAtRegion blockX' blockY' reason =>
      exact (keeps_noteWakeAtRegion tracker blockX' blockY' reason).requested _ _ requested
  | noteBlockedTransfer x y =>
      exact (keeps_noteWakeAtCell tracker x y .blockedTransfer).requested _ _ requested
  | noteMaterialMove fromX fromY toX toY =>
      exact (keeps_noteMaterialMove tracker fromX fromY toX toY).requested _ _ requested
  | beginFrame frame timestep => exact absurd between nofun
  | summarizeFrame frame timestep =>
      have ended : Event.apply tracker (.summarizeFrame frame timestep) =
          tracker.summarizeFrame frame := rfl
      rw [ended]
      unfold summarizeFrame
      rw [sound.shaped.fitTo_eq size]
      exact requested

section

omit [Analytic K]

theorem awake_beginFrame (sound : tracker.Sound config width height)
    (size : OfSize width height frame.grid) (timestep : UInt32)
    (requested : tracker.wakeRequested blockX blockY = true) :
    ((tracker.beginFrame frame timestep).getRegionMeta blockX blockY).state = .awake ∧
      ((tracker.beginFrame frame timestep).getRegionMeta blockX blockY).quietFrames = 0 := by
  have region := sound.shaped.isRegion_of_requested requested
  have applied : tracker.wakeApplied frame blockX blockY = true := by
    unfold wakeApplied
    rw [sound.shaped.fitTo_eq size]
    exact (keeps_noteGravity tracker frame.gravity).requested _ _ requested
  rw [getRegionMeta_beginFrame sound.shaped size timestep region, if_pos applied]
  exact ⟨rfl, rfl⟩

theorem isCellActive_beginFrame (sound : tracker.Sound config width height)
    (size : OfSize width height frame.grid) (timestep : UInt32) {x y : ℤ}
    (inside : InWorld width height x y) :
    (tracker.beginFrame frame timestep).isCellActive x y = true ↔
      ∃ blockX blockY, IsRegion width height blockX blockY ∧ Near (x / 8) (y / 8) blockX blockY ∧
        isActiveState ((tracker.beginFrame frame timestep).getRegionState blockX blockY) = true := by
  have kept := sound.of_keeps (keeps_noteGravity tracker frame.gravity)
  rw [beginFrame_eq sound.shaped size]
  exact isCellActive_buildActiveMasks (kept.shaped.applyWakeRequests timestep) inside

end

end

section

variable {width height : ℕ} {config : Config K} {tracker start after :
  WorldRegionActivityTracker K}
variable {events : List (Event K)} {blockX blockY : ℤ}

theorem sound_initial (initial : (machine config width height).initial tracker) :
    tracker.Sound config width height := by
  obtain ⟨fresh, same, rfl⟩ := initial
  exact ⟨shaped_resize fresh width height, same⟩

theorem Sound.run (sound : start.Sound config width height)
    (run : (machine config width height).Run start events tracker) :
    tracker.Sound config width height :=
  run.invariant (fun _ _ _ sound moved => moved.2 ▸ sound.apply moved.1) sound

theorem wakeRequested_of_run (sound : start.Sound config width height)
    (run : (machine config width height).Run start events tracker)
    (between : ∀ event ∈ events, event.isBeginFrame = false)
    (noted : start.wakeRequested blockX blockY = true ∨
      ∃ event ∈ events, event.Wakes width height blockX blockY) :
    tracker.wakeRequested blockX blockY = true := by
  induction run with
  | nil state =>
      rcases noted with requested | ⟨event, member, _⟩
      · exact requested
      · exact absurd member List.not_mem_nil
  | @cons before middle _ event events moved rest ih =>
      obtain ⟨size, rfl⟩ := moved
      refine ih (sound.apply size) (fun later member => between later (.tail _ member)) ?_
      rcases noted with requested | ⟨wake, member, wakes⟩
      · exact Or.inl (wakeRequested_of_not_beginFrame sound size (between event (.head _)) requested)
      · rcases List.mem_cons.mp member with rfl | member
        · exact Or.inl (wakeRequested_apply sound.shaped wakes)
        · exact Or.inr ⟨wake, member, wakes⟩

/-- What the quiet counter of a region says about its past. -/
structure Counted (streak : ℕ) (blockX blockY : ℤ) (tracker : WorldRegionActivityTracker K) :
    Prop where
  bounded : (tracker.getRegionMeta blockX blockY).quietFrames.toNat ≤ streak
  asleep : (tracker.getRegionMeta blockX blockY).state = .sleeping →
    tracker.config.quietFramesToSleep ≤ (tracker.getRegionMeta blockX blockY).quietFrames

theorem toNat_saturatingIncrement_le (value : UInt16) :
    (saturatingIncrement value).toNat ≤ value.toNat + 1 := by
  unfold saturatingIncrement
  split
  · exact Nat.le_succ _
  · rw [UInt16.toNat_add]
    exact Nat.mod_le _ _

omit [Field K] [LinearOrder K] [Analytic K] in
theorem Counted.of_keeps {streak : ℕ} (counted : tracker.Counted streak blockX blockY)
    (kept : Keeps tracker after) : after.Counted streak blockX blockY := by
  have same : after.getRegionMeta blockX blockY = tracker.getRegionMeta blockX blockY := by
    unfold getRegionMeta
    rw [kept.regionMeta]
  refine ⟨?_, ?_⟩
  · rw [same]
    exact counted.bounded
  · rw [same, kept.config]
    exact counted.asleep

theorem Counted.apply (sound : tracker.Sound config width height) {streak : ℕ}
    (region : IsRegion width height blockX blockY) (counted : tracker.Counted streak blockX blockY)
    (size : event.OfSize width height) :
    (event.apply tracker).Counted (tracker.streakAfter blockX blockY streak event) blockX blockY := by
  have config_eq : (event.apply tracker).config = tracker.config :=
    (sound.apply size).config_eq.trans sound.config_eq.symm
  cases event with
  | noteWakeAtCell x y reason => exact counted.of_keeps (keeps_noteWakeAtCell tracker x y reason)
  | noteWakeAtRegion blockX' blockY' reason =>
      exact counted.of_keeps (keeps_noteWakeAtRegion tracker blockX' blockY' reason)
  | noteBlockedTransfer x y =>
      exact counted.of_keeps (keeps_noteWakeAtCell tracker x y .blockedTransfer)
  | noteMaterialMove fromX fromY toX toY =>
      exact counted.of_keeps (keeps_noteMaterialMove tracker fromX fromY toX toY)
  | beginFrame frame timestep =>
      have begun := getRegionMeta_beginFrame sound.shaped size timestep region
      have begun' : (Event.apply tracker (.beginFrame frame timestep)).getRegionMeta blockX blockY =
        _ := begun
      simp only [streakAfter]
      by_cases applied : tracker.wakeApplied frame blockX blockY = true
      · rw [if_pos applied] at begun'
        refine ⟨?_, ?_⟩
        · rw [begun', if_pos applied]
          exact le_refl 0
        · rw [begun']
          exact nofun
      · rw [if_neg applied] at begun'
        refine ⟨?_, ?_⟩
        · rw [begun', if_neg applied]
          exact counted.bounded
        · rw [begun', config_eq]
          exact counted.asleep
  | summarizeFrame frame timestep =>
      have ended := getRegionMeta_summarizeFrame sound.shaped size region
      have ended' : (Event.apply tracker (.summarizeFrame frame timestep)).getRegionMeta
        blockX blockY = _ := ended
      have quiet : tracker.foundQuiet frame blockX blockY =
          !shouldForceAwake (((tracker.summarize frame).get? blockX blockY).getD blankSummary)
            tracker.config := by
        unfold foundQuiet
        rw [sound.shaped.fitTo_eq size]
      unfold updateMeta at ended'
      simp only [streakAfter]
      by_cases awake : shouldForceAwake
          (((tracker.summarize frame).get? blockX blockY).getD blankSummary) tracker.config = true
      · rw [if_pos awake] at ended'
        refine ⟨?_, ?_⟩
        · rw [ended']
          exact Nat.zero_le _
        · rw [ended']
          exact nofun
      · rw [if_neg awake] at ended'
        have found : tracker.foundQuiet frame blockX blockY = true := by
          rw [quiet, Bool.not_eq_true] at *
          rw [awake]
          rfl
        refine ⟨?_, ?_⟩
        · rw [ended', if_pos found]
          exact (toNat_saturatingIncrement_le _).trans (Nat.succ_le_succ counted.bounded)
        · rw [ended', config_eq]
          intro asleep
          by_contra short
          simp only [ge_iff_le, short, ↓reduceIte] at asleep
          exact absurd asleep nofun

theorem Counted.run (sound : start.Sound config width height)
    (region : IsRegion width height blockX blockY) {streak : ℕ}
    (counted : start.Counted streak blockX blockY)
    (run : (machine config width height).Run start events tracker) :
    tracker.Counted (quietStreak blockX blockY start streak events) blockX blockY := by
  induction run generalizing streak with
  | nil state => exact counted
  | cons moved rest ih =>
      obtain ⟨size, rfl⟩ := moved
      exact ih (sound.apply size) (counted.apply sound region size)

/-- **No wake is lost and no active neighbourhood is frozen.** At the end of any run: a region
for which a wake was noted after the last frame began is awake, with its quiet counter at zero
and every cell near it active, once the next frame begins; the cells active then are those near
a region that is awake or quiet; and a sleeping region has been found quiet by at least as many
consecutive summaries as the configuration asks for, without a wake applied meanwhile. -/
theorem wakes_kept {events : List (Event K)}
    (initial : (machine config width height).initial start)
    (run : (machine config width height).Run start events tracker) :
    (∀ earlier recent, events = earlier ++ recent →
      (∀ event ∈ recent, event.isBeginFrame = false) → ∀ blockX blockY,
        (∃ event ∈ recent, event.Wakes width height blockX blockY) →
          ∀ frame timestep after,
            (machine config width height).step tracker (.beginFrame frame timestep) after →
              (after.getRegionMeta blockX blockY).state = .awake ∧
              (after.getRegionMeta blockX blockY).quietFrames = 0 ∧
              ∀ x y, InWorld width height x y → Near (x / 8) (y / 8) blockX blockY →
                after.isCellActive x y = true) ∧
    (∀ frame timestep after,
      (machine config width height).step tracker (.beginFrame frame timestep) after →
        ∀ x y, InWorld width height x y → (after.isCellActive x y = true ↔
          ∃ blockX blockY, IsRegion width height blockX blockY ∧
            Near (x / 8) (y / 8) blockX blockY ∧
            (after.getRegionState blockX blockY = .awake ∨
              after.getRegionState blockX blockY = .loadedQuiet))) ∧
    ∀ blockX blockY, tracker.getRegionState blockX blockY = .sleeping →
      config.quietFramesToSleep.toNat ≤ quietStreak blockX blockY start 0 events := by
  have sound := sound_initial initial
  have sound' := sound.run run
  have active : ∀ state : RegionState, isActiveState state = true ↔
      state = .awake ∨ state = .loadedQuiet := by
    intro state
    cases state <;> decide
  have masks : ∀ frame timestep after,
      (machine config width height).step tracker (.beginFrame frame timestep) after →
        ∀ x y, InWorld width height x y → (after.isCellActive x y = true ↔
          ∃ blockX blockY, IsRegion width height blockX blockY ∧
            Near (x / 8) (y / 8) blockX blockY ∧
            (after.getRegionState blockX blockY = .awake ∨
              after.getRegionState blockX blockY = .loadedQuiet)) := by
    rintro frame timestep after ⟨size, rfl⟩ x y inside
    refine (isCellActive_beginFrame sound' size timestep inside).trans ?_
    simp only [active]
    exact Iff.rfl
  refine ⟨?_, masks, ?_⟩
  · rintro earlier recent rfl between blockX blockY noted frame timestep after moved
    obtain ⟨middle, front, back⟩ := Machine.Run.append_iff.mp run
    have requested := wakeRequested_of_run (sound.run front) back between (Or.inr noted)
    have mask := masks frame timestep after moved
    obtain ⟨size, rfl⟩ := moved
    obtain ⟨awake, counter⟩ := awake_beginFrame sound' size timestep requested
    refine ⟨awake, counter, fun x y inside near => (mask x y inside).mpr ?_⟩
    exact ⟨blockX, blockY, sound'.shaped.isRegion_of_requested requested, near, Or.inl awake⟩
  · intro blockX blockY asleep
    have region : IsRegion width height blockX blockY := by
      refine (inBounds_iff sound'.shaped.regionMeta).mp (Grid.get?_isSome_iff.mp ?_)
      unfold getRegionState getRegionMeta at asleep
      cases read : tracker.regionMeta.get? blockX blockY with
      | none =>
          rw [read] at asleep
          exact absurd asleep nofun
      | some _ => rfl
    have fresh : start.Counted 0 blockX blockY := by
      obtain ⟨tracker, _, rfl⟩ := initial
      have blank : (tracker.resize width height ((width + 7) / 8)
          ((height + 7) / 8)).getRegionMeta blockX blockY = {} := by
        unfold getRegionMeta resize reset
        simp only [Grid.get?_generate]
        split <;> rfl
      refine ⟨?_, ?_⟩
      · rw [blank]
        exact le_refl 0
      · rw [blank]
        exact nofun
    have counted := fresh.run sound region run
    have enough := counted.asleep asleep
    rw [sound'.config_eq] at enough
    exact (UInt16.le_iff_toNat_le.mp enough).trans counted.bounded

theorem wakes_kept_single :
    (machine (K := ℝ) .initial 8 8).Run (new.resize 8 8 1 1) [.noteWakeAtCell 3 3 .externalMutation]
      ((new.resize 8 8 1 1).noteWakeAtCell 3 3 .externalMutation) ∧
    ∀ frame timestep after, (machine (K := ℝ) .initial 8 8).step
      ((new.resize 8 8 1 1).noteWakeAtCell 3 3 .externalMutation) (.beginFrame frame timestep)
        after → (after.getRegionMeta 0 0).state = .awake ∧ after.isCellActive 5 6 = true := by
  have run : (machine (K := ℝ) .initial 8 8).Run (new.resize 8 8 1 1)
      [.noteWakeAtCell 3 3 .externalMutation]
        ((new.resize 8 8 1 1).noteWakeAtCell 3 3 .externalMutation) :=
    .cons ⟨trivial, rfl⟩ (.nil _)
  have initial : (machine (K := ℝ) .initial 8 8).initial (new.resize 8 8 1 1) := ⟨new, rfl, rfl⟩
  refine ⟨run, fun frame timestep after moved => ?_⟩
  obtain ⟨awake, _, active⟩ := (wakes_kept initial run).1 [] _ rfl
    (by simp [Event.isBeginFrame]) 0 0
    ⟨_, .head _, by unfold Event.Wakes InWorld; omega⟩ frame timestep after moved
  exact ⟨awake, active 5 6 (by unfold InWorld; omega) (by unfold Near; omega)⟩

end

end WorldRegionActivityTracker

end DirtSim
