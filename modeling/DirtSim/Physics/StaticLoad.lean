import DirtSim.Foundation.LoadFlow
import DirtSim.Physics.GranularSupport

/-! # Static load

The weight that load-bearing cells carry. One sweep over the rows, in the direction of gravity,
passes the load of each granular cell to those it rests on: straight down, or over one or both
diagonals. The loads are those of the flow between granular cells, and no weight is lost
(`WorldStaticLoadCalculator.recomputeAll_spec`).
-/

namespace DirtSim

open Foundation World

namespace WorldStaticLoadCalculator

variable {K : Type*} [Field K] [LinearOrder K]

section

def minGravityThreshold : K := 1 / 1000

def isLoadBearingGranular (cell : Cell K) : Bool := isLoadBearingGranularCell cell

def isSupportSink (cell : Cell K) : Bool := isGranularSupportSinkCell cell

/-- The cells, and the loads passed to them so far. -/
structure LoadSweep (K : Type*) where
  data : CellArray K
  incomingLoad : Grid K

def LoadSweep.addIncoming (sweep : LoadSweep K) (x y : ℤ) (load : K) : LoadSweep K :=
  { sweep with
    incomingLoad :=
      sweep.incomingLoad.set x y ((sweep.incomingLoad.get? x y).getD 0 + load) }

def LoadSweep.loaded (sweep : LoadSweep K) (pos : ℤ × ℤ) (totalLoad : K) : LoadSweep K :=
  { sweep with
    data := sweep.data.setCell ⟨pos.1, pos.2⟩
      { sweep.data.at pos.1 pos.2 with staticLoad := totalLoad } }

def LoadSweep.passOn (sweep : LoadSweep K) (gravityDown : Bool) (x y : ℤ) (totalLoad : K) :
    LoadSweep K :=
  let supportY := y + supportOffsetY gravityDown
  if ¬ sweep.data.InBounds x supportY then sweep
  else
    let directSupport := sweep.data.at x supportY
    if isLoadBearingGranular directSupport then sweep.addIncoming x supportY totalLoad
    else if isSupportSink directSupport then sweep
    else
      let diagonals :=
        [x - 1, x + 1].filter fun diagonalX =>
          sweep.data.InBounds diagonalX supportY ∧
            isLoadBearingGranular (sweep.data.at diagonalX supportY)
      match diagonals with
      | [diagonal] => sweep.addIncoming diagonal supportY totalLoad
      | [left, right] =>
          (sweep.addIncoming left supportY (totalLoad * (1 / 2))).addIncoming right supportY
            (totalLoad * (1 / 2))
      | _ => sweep

def sweepCell (gravityMagnitude : K) (gravityDown : Bool) (sweep : LoadSweep K) (pos : ℤ × ℤ) :
    LoadSweep K :=
  let cell := sweep.data.at pos.1 pos.2
  if !isLoadBearingGranular cell then sweep
  else
    let selfWeight := cell.getMass * gravityMagnitude
    let totalLoad := selfWeight + (sweep.incomingLoad.get? pos.1 pos.2).getD 0
    (sweep.loaded pos totalLoad).passOn gravityDown pos.1 pos.2 totalLoad

/-- The rows in the direction of gravity, each from left to right. -/
def sweepOrder (width height : ℕ) (gravityDown : Bool) : List (ℤ × ℤ) :=
  let rows := if gravityDown then List.range height else (List.range height).reverse
  rows.flatMap fun (y : ℕ) => (List.range width).map fun (x : ℕ) => ((x : ℤ), (y : ℤ))

def unloaded (cells : CellArray K) : CellArray K where
  toGrid := cells.mapCells fun _ _ cell => { cell with staticLoad := 0 }
  width_pos := cells.width_pos
  height_pos := cells.height_pos
  width_le := cells.width_le
  height_le := cells.height_le

def recomputeAll (gravity : K) (cells : CellArray K) : CellArray K :=
  let data := unloaded cells
  if |gravity| < minGravityThreshold then data
  else
    let gravityDown := decide (gravity > 0)
    ((sweepOrder cells.width cells.height gravityDown).foldl (sweepCell |gravity| gravityDown)
      { data := data, incomingLoad := .generate cells.width cells.height fun _ _ => 0 }).data

end

section

variable (cells : CellArray K) (gravityDown : Bool)

def Granular (pos : ℤ × ℤ) : Prop := isLoadBearingGranular (cells.at pos.1 pos.2)

instance (pos : ℤ × ℤ) : Decidable (Granular cells pos) :=
  inferInstanceAs (Decidable (_ = true))

def granularCells : Finset (ℤ × ℤ) :=
  ((Grid.coordinates cells.width cells.height).filter (Granular cells ·)).toFinset

/-- The granular cells that a cell passes its load to: the one below, or else, unless something
firm is below, those on the diagonals. -/
def supports (pos : ℤ × ℤ) : List (ℤ × ℤ) :=
  let supportY := pos.2 + supportOffsetY gravityDown
  if Granular cells (pos.1, supportY) then [(pos.1, supportY)]
  else if isSupportSink (cells.at pos.1 supportY) then []
  else [(pos.1 - 1, supportY), (pos.1 + 1, supportY)].filter (Granular cells ·)

def share (source target : ℤ × ℤ) : K :=
  if target ∈ supports cells gravityDown source then
    1 / ((supports cells gravityDown source).length : K)
  else 0

def flow (gravityMagnitude : K) : LoadFlow (ℤ × ℤ) K where
  weight pos := (cells.at pos.1 pos.2).getMass * gravityMagnitude
  share := share cells gravityDown

variable {cells gravityDown}

theorem mem_supports {pos target : ℤ × ℤ} (member : target ∈ supports cells gravityDown pos) :
    Granular cells target ∧ target.2 = pos.2 + supportOffsetY gravityDown := by
  unfold supports at member
  dsimp only at member
  split at member
  case isTrue granular =>
      rw [List.mem_singleton.mp member]
      exact ⟨granular, rfl⟩
  case isFalse idle =>
      split at member
      · cases member
      · obtain ⟨either, granular⟩ := List.mem_filter.mp member
        refine ⟨of_decide_eq_true granular, ?_⟩
        rcases List.mem_cons.mp either with rfl | right
        · rfl
        · rw [List.mem_singleton.mp right]

theorem nodup_supports (pos : ℤ × ℤ) : (supports cells gravityDown pos).Nodup := by
  unfold supports
  dsimp only
  split
  · exact List.nodup_singleton _
  · split
    · exact List.nodup_nil
    · refine List.Nodup.filter _ (List.nodup_cons.mpr ⟨fun same => ?_, List.nodup_singleton _⟩)
      have columns := congrArg Prod.fst (List.mem_singleton.mp same)
      dsimp only at columns
      omega

theorem share_eq_zero {source target : ℤ × ℤ}
    (other : target.2 ≠ source.2 + supportOffsetY gravityDown) :
    share cells gravityDown source target = 0 :=
  if_neg fun member => other (mem_supports member).2

variable [IsStrictOrderedRing K]

theorem Granular.inBounds {pos : ℤ × ℤ} (granular : Granular cells pos) :
    cells.InBounds pos.1 pos.2 := LoadBearing.inBounds granular

theorem mem_granularCells {pos : ℤ × ℤ} : pos ∈ granularCells cells ↔ Granular cells pos := by
  rw [granularCells, List.mem_toFinset, List.mem_filter, decide_eq_true_iff]
  exact ⟨And.right, fun granular => ⟨Grid.mem_coordinates.mpr granular.inBounds, granular⟩⟩

theorem sum_share (source : ℤ × ℤ) :
    ∑ target ∈ granularCells cells, share cells gravityDown source target =
      if supports cells gravityDown source ≠ [] then 1 else 0 := by
  have reached : (granularCells cells).filter (· ∈ supports cells gravityDown source) =
      (supports cells gravityDown source).toFinset := by
    ext target
    rw [Finset.mem_filter, List.mem_toFinset, mem_granularCells]
    exact ⟨And.right, fun member => ⟨(mem_supports member).1, member⟩⟩
  have total : ∑ target ∈ granularCells cells, share cells gravityDown source target =
      ((supports cells gravityDown source).length : K) *
        (1 / ((supports cells gravityDown source).length : K)) := by
    unfold share
    rw [← Finset.sum_filter, reached, Finset.sum_const,
      List.toFinset_card_of_nodup (nodup_supports source), nsmul_eq_mul]
  rw [total]
  by_cases none_left : supports cells gravityDown source = []
  · rw [none_left, List.length_nil, Nat.cast_zero, zero_mul, if_neg (not_not.mpr rfl)]
  · have some_left : ((supports cells gravityDown source).length : K) ≠ 0 := by
      rw [Nat.cast_ne_zero, ne_eq, List.length_eq_zero_iff]
      exact none_left
    rw [if_pos none_left, mul_one_div_cancel some_left]

end

section

variable {cells : CellArray K} {sweep : LoadSweep K}

def view (sweep : LoadSweep K) : LoadFlow.Swept (ℤ × ℤ) K where
  load pos := (sweep.data.at pos.1 pos.2).staticLoad
  incoming pos := (sweep.incomingLoad.get? pos.1 pos.2).getD 0

/-- A sweep over the cells changes nothing but their static load. -/
structure Alike (cells : CellArray K) (sweep : LoadSweep K) : Prop where
  inBounds : ∀ x y, sweep.data.InBounds x y ↔ cells.InBounds x y
  incomingBounds : ∀ x y, sweep.incomingLoad.InBounds x y ↔ cells.InBounds x y
  same : ∀ x y, ∃ load, sweep.data.at x y = { cells.at x y with staticLoad := load }

theorem Alike.granular (alike : Alike cells sweep) (x y : ℤ) :
    isLoadBearingGranular (sweep.data.at x y) = isLoadBearingGranular (cells.at x y) := by
  obtain ⟨load, same⟩ := alike.same x y
  rw [same]
  rfl

theorem Alike.sink (alike : Alike cells sweep) (x y : ℤ) :
    isSupportSink (sweep.data.at x y) = isSupportSink (cells.at x y) := by
  obtain ⟨load, same⟩ := alike.same x y
  rw [same]
  rfl

theorem Alike.getMass (alike : Alike cells sweep) (x y : ℤ) :
    (sweep.data.at x y).getMass = (cells.at x y).getMass := by
  obtain ⟨load, same⟩ := alike.same x y
  rw [same]
  rfl

section

omit [LinearOrder K]

theorem Alike.addIncoming (alike : Alike cells sweep) (x y : ℤ) (load : K) :
    Alike cells (sweep.addIncoming x y load) :=
  ⟨alike.inBounds, fun x' y' => Grid.set_inBounds.trans (alike.incomingBounds x' y'), alike.same⟩

theorem Alike.incoming_addIncoming (alike : Alike cells sweep) {x y : ℤ}
    (inside : cells.InBounds x y) (load : K) (other : ℤ × ℤ) :
    (view (sweep.addIncoming x y load)).incoming other =
      (view sweep).incoming other + if other = (x, y) then load else 0 := by
  have stored := (alike.incomingBounds x y).mpr inside
  unfold view LoadSweep.addIncoming
  dsimp only
  rw [Grid.get?_set]
  by_cases here : other = (x, y)
  · subst here
    rw [if_pos ⟨rfl, rfl, stored⟩, if_pos rfl, Option.getD_some]
  · rw [if_neg here, if_neg fun same => here (Prod.ext same.1 same.2.1), add_zero]

theorem at_loaded {pos : ℤ × ℤ} (inside : sweep.data.InBounds pos.1 pos.2) (totalLoad : K)
    (x y : ℤ) :
    ((sweep.loaded pos totalLoad).data.at x y) =
      { sweep.data.at x y with
        staticLoad := if (x, y) = pos then totalLoad else (sweep.data.at x y).staticLoad } := by
  by_cases here : (x, y) = pos
  · subst here
    rw [if_pos rfl]
    change (sweep.data.setCell ⟨x, y⟩ _).cellAt ⟨x, y⟩ = _
    exact CellArray.cellAt_setCell_self inside _
  · rw [if_neg here]
    have apart : (⟨x, y⟩ : Vector2i) ≠ ⟨pos.1, pos.2⟩ := fun same =>
      here (Prod.ext (congrArg Vector2i.x same) (congrArg Vector2i.y same))
    exact CellArray.cellAt_setCell_ne _ _ apart

theorem Alike.loaded (alike : Alike cells sweep) {pos : ℤ × ℤ}
    (inside : cells.InBounds pos.1 pos.2) (totalLoad : K) :
    Alike cells (sweep.loaded pos totalLoad) where
  inBounds x y := CellArray.setCell_inBounds.trans (alike.inBounds x y)
  incomingBounds := alike.incomingBounds
  same x y := by
    obtain ⟨load, same⟩ := alike.same x y
    refine ⟨if (x, y) = pos then totalLoad else (sweep.data.at x y).staticLoad, ?_⟩
    rw [at_loaded ((alike.inBounds _ _).mpr inside), same]

end

variable {gravityDown : Bool}

def LoadSweep.shareOut (sweep : LoadSweep K) (targets : List (ℤ × ℤ)) (load : K) : LoadSweep K :=
  targets.foldl (fun sweep target => sweep.addIncoming target.1 target.2 load) sweep

section

omit [LinearOrder K]

theorem Alike.shareOut (alike : Alike cells sweep) (targets : List (ℤ × ℤ)) (load : K) :
    Alike cells (sweep.shareOut targets load) ∧
      (sweep.shareOut targets load).data = sweep.data := by
  induction targets generalizing sweep with
  | nil => exact ⟨alike, rfl⟩
  | cons target targets ih => exact ih (alike.addIncoming target.1 target.2 load)

theorem Alike.incoming_shareOut (alike : Alike cells sweep) {targets : List (ℤ × ℤ)}
    (distinct : targets.Nodup) (inside : ∀ target ∈ targets, cells.InBounds target.1 target.2)
    (load : K) (other : ℤ × ℤ) :
    (view (sweep.shareOut targets load)).incoming other =
      (view sweep).incoming other + if other ∈ targets then load else 0 := by
  induction targets generalizing sweep with
  | nil => exact (add_zero _).symm
  | cons target targets ih =>
      obtain ⟨fresh, distinct'⟩ := List.nodup_cons.mp distinct
      have rest := ih (alike.addIncoming target.1 target.2 load) distinct'
        fun other member => inside other (List.mem_cons_of_mem _ member)
      refine rest.trans ?_
      rw [alike.incoming_addIncoming (inside target List.mem_cons_self)]
      by_cases here : other = target
      · rw [here, if_pos rfl, if_neg fresh, if_pos List.mem_cons_self, add_zero]
      · have same : other ∈ target :: targets ↔ other ∈ targets :=
          List.mem_cons.trans (or_iff_right here)
        rw [if_neg here, add_zero]
        simp [same]

end

variable [IsStrictOrderedRing K]

theorem passOn_eq (alike : Alike cells sweep) {pos : ℤ × ℤ} (granular : Granular cells pos)
    (totalLoad : K) :
    sweep.passOn gravityDown pos.1 pos.2 totalLoad =
      sweep.shareOut (supports cells gravityDown pos)
        (totalLoad * (1 / ((supports cells gravityDown pos).length : K))) := by
  have bears (column : ℤ) :
      isLoadBearingGranular (sweep.data.at column (pos.2 + supportOffsetY gravityDown)) = true ↔
        Granular cells (column, pos.2 + supportOffsetY gravityDown) := by
    rw [alike.granular]
    exact Iff.rfl
  have asked : ([pos.1 - 1, pos.1 + 1].filter fun column =>
      decide (sweep.data.InBounds column (pos.2 + supportOffsetY gravityDown) ∧
        isLoadBearingGranular
          (sweep.data.at column (pos.2 + supportOffsetY gravityDown)) = true)) =
      [pos.1 - 1, pos.1 + 1].filter fun column =>
        decide (Granular cells (column, pos.2 + supportOffsetY gravityDown)) := by
    refine List.filter_congr fun column _ => decide_eq_decide.mpr ?_
    rw [bears, alike.inBounds]
    exact ⟨And.right, fun lower => ⟨lower.inBounds, lower⟩⟩
  unfold LoadSweep.passOn
  dsimp only
  rw [asked]
  split
  case isTrue outside =>
      have nothing : supports cells gravityDown pos = [] := by
        refine List.eq_nil_iff_forall_not_mem.mpr fun target member => outside ?_
        obtain ⟨lower, below⟩ := mem_supports member
        have bounds := lower.inBounds
        rw [below] at bounds
        exact (alike.inBounds _ _).mpr
          ⟨granular.inBounds.1, bounds.2.1, granular.inBounds.2.2.1, bounds.2.2.2⟩
      rw [nothing]
      rfl
  case isFalse inside =>
      split
      case isTrue direct =>
          have only : supports cells gravityDown pos =
              [(pos.1, pos.2 + supportOffsetY gravityDown)] := if_pos ((bears _).mp direct)
          rw [only, List.length_singleton, Nat.cast_one, div_one, mul_one]
          rfl
      case isFalse idle =>
          have noDirect := mt (bears _).mpr idle
          split
          case isTrue sink =>
              rw [alike.sink] at sink
              have nothing : supports cells gravityDown pos = [] :=
                (if_neg noDirect).trans (if_pos sink)
              rw [nothing]
              rfl
          case isFalse noSink =>
              rw [alike.sink] at noSink
              have both : supports cells gravityDown pos =
                  [(pos.1 - 1, pos.2 + supportOffsetY gravityDown),
                    (pos.1 + 1, pos.2 + supportOffsetY gravityDown)].filter (Granular cells ·) :=
                (if_neg noDirect).trans (if_neg noSink)
              rw [both]
              by_cases left : Granular cells (pos.1 - 1, pos.2 + supportOffsetY gravityDown) <;>
                by_cases right : Granular cells (pos.1 + 1, pos.2 + supportOffsetY gravityDown) <;>
                simp [left, right, Nat.reduceAdd, LoadSweep.shareOut]

/-- **One cell of the sweep** is one visit of the flow. -/
theorem sweepCell_spec (alike : Alike cells sweep) (gravityMagnitude : K) (pos : ℤ × ℤ) :
    Alike cells (sweepCell gravityMagnitude gravityDown sweep pos) ∧
      view (sweepCell gravityMagnitude gravityDown sweep pos) =
        if Granular cells pos then
          (flow cells gravityDown gravityMagnitude).visit (view sweep) pos
        else view sweep := by
  unfold sweepCell
  dsimp only
  rw [alike.granular, alike.getMass]
  split
  case isTrue idle =>
      rw [Bool.not_eq_true'] at idle
      rw [if_neg fun granular : Granular cells pos =>
        Bool.false_ne_true (idle.symm.trans granular)]
      exact ⟨alike, rfl⟩
  case isFalse bears =>
      have granular : Granular cells pos := by
        rw [Bool.not_eq_true', Bool.not_eq_false] at bears
        exact bears
      have inside := (alike.inBounds _ _).mpr granular.inBounds
      rw [if_pos granular]
      obtain ⟨totalLoad, total⟩ : ∃ totalLoad, totalLoad =
          (cells.at pos.1 pos.2).getMass * gravityMagnitude +
            (sweep.incomingLoad.get? pos.1 pos.2).getD 0 := ⟨_, rfl⟩
      have weighed : (flow cells gravityDown gravityMagnitude).weight pos +
          (view sweep).incoming pos = totalLoad := total.symm
      rw [← total]
      have after := alike.loaded granular.inBounds totalLoad
      have shared := after.shareOut (supports cells gravityDown pos)
        (totalLoad * (1 / ((supports cells gravityDown pos).length : K)))
      rw [passOn_eq after granular]
      refine ⟨shared.1, LoadFlow.Swept.ext (funext fun other => ?_) (funext fun other => ?_)⟩
      · change (CellArray.«at» (LoadSweep.data _) other.1 other.2).staticLoad = _
        rw [shared.2, at_loaded inside, LoadFlow.visit, weighed]
        dsimp only
        rw [Function.update_apply]
        rfl
      · rw [after.incoming_shareOut (nodup_supports pos)
          fun target member => (mem_supports member).1.inBounds, LoadFlow.visit, weighed]
        dsimp only [flow, share]
        rw [mul_ite, mul_zero]
        rfl

/-- **The sweep** visits the granular cells of the flow in its order. -/
theorem foldl_sweepCell (alike : Alike cells sweep) (gravityMagnitude : K)
    (order : List (ℤ × ℤ)) :
    Alike cells (order.foldl (sweepCell gravityMagnitude gravityDown) sweep) ∧
      view (order.foldl (sweepCell gravityMagnitude gravityDown) sweep) =
        (order.filter (Granular cells ·)).foldl
          (flow cells gravityDown gravityMagnitude).visit (view sweep) := by
  induction order generalizing sweep with
  | nil => exact ⟨alike, rfl⟩
  | cons pos order ih =>
      obtain ⟨alike', visited⟩ := sweepCell_spec alike gravityMagnitude pos
      obtain ⟨final, swept⟩ := ih alike'
      refine ⟨final, swept.trans ?_⟩
      rw [visited, List.filter_cons]
      by_cases granular : Granular cells pos
      · rw [if_pos granular, if_pos (decide_eq_true granular), List.foldl_cons]
      · rw [if_neg granular, if_neg fun yes => granular (of_decide_eq_true yes)]

end

section

variable {width height : ℕ} {gravityDown : Bool}

theorem mem_sweepOrder {pos : ℤ × ℤ} :
    pos ∈ sweepOrder width height gravityDown ↔ pos ∈ Grid.coordinates width height := by
  unfold sweepOrder Grid.coordinates
  cases gravityDown <;>
    simp

theorem pairwise_sweepOrder :
    (sweepOrder width height gravityDown).Pairwise fun earlier later =>
      (earlier.2 = later.2 ∧ earlier.1 < later.1) ∨
        if gravityDown then earlier.2 < later.2 else later.2 < earlier.2 := by
  have row (y : ℕ) : ((List.range width).map fun (x : ℕ) => ((x : ℤ), (y : ℤ))).Pairwise
      fun earlier later => (earlier.2 = later.2 ∧ earlier.1 < later.1) ∨
        if gravityDown then earlier.2 < later.2 else later.2 < earlier.2 := by
    refine List.pairwise_map.mpr (List.pairwise_lt_range.imp fun left => Or.inl ⟨rfl, ?_⟩)
    exact Int.ofNat_lt.mpr left
  unfold sweepOrder
  refine List.pairwise_flatMap.mpr ⟨fun y _ => row y, ?_⟩
  have apart {first second : ℕ} (before : if gravityDown then first < second else second < first) :
      ∀ earlier ∈ (List.range width).map fun (x : ℕ) => ((x : ℤ), (first : ℤ)),
        ∀ later ∈ (List.range width).map fun (x : ℕ) => ((x : ℤ), (second : ℤ)),
          (earlier.2 = later.2 ∧ earlier.1 < later.1) ∨
            if gravityDown then earlier.2 < later.2 else later.2 < earlier.2 := by
    intro earlier member later member'
    obtain ⟨_, _, rfl⟩ := List.mem_map.mp member
    obtain ⟨_, _, rfl⟩ := List.mem_map.mp member'
    refine Or.inr ?_
    cases gravityDown with
    | true => exact Int.ofNat_lt.mpr before
    | false => exact Int.ofNat_lt.mpr before
  cases gravityDown with
  | true => exact List.pairwise_lt_range.imp fun before => apart before
  | false =>
      exact List.pairwise_reverse.mpr (List.pairwise_lt_range.imp fun before => apart before)

theorem nodup_sweepOrder : (sweepOrder width height gravityDown).Nodup := by
  refine pairwise_sweepOrder.imp fun before same => ?_
  subst same
  cases gravityDown <;> simp at before

end

section

variable {cells : CellArray K} {gravityDown : Bool}

theorem supportOffsetY_ne_zero : supportOffsetY gravityDown ≠ 0 := by
  cases gravityDown <;> decide

section

omit [LinearOrder K]

theorem at_unloaded (cells : CellArray K) (x y : ℤ) :
    ((unloaded cells).at x y) = { cells.at x y with staticLoad := 0 } := by
  rw [CellArray.«at», CellArray.«at», unloaded, Grid.get?_mapCells]
  cases cells.get? x y with
  | none => rfl
  | some cell => rfl

theorem alike_unloaded (cells : CellArray K) :
    Alike cells
      { data := unloaded cells
        incomingLoad := .generate cells.width cells.height fun _ _ => 0 } where
  inBounds _ _ := Iff.rfl
  incomingBounds _ _ := Iff.rfl
  same x y := ⟨0, at_unloaded cells x y⟩

theorem view_unloaded (cells : CellArray K) :
    view { data := unloaded cells
           incomingLoad := .generate cells.width cells.height fun _ _ => 0 } =
      { load := fun _ => 0, incoming := fun _ => 0 } := by
  refine LoadFlow.Swept.ext (funext fun pos => ?_) (funext fun pos => ?_)
  · change ((unloaded cells).at pos.1 pos.2).staticLoad = 0
    rw [at_unloaded]
  · change (Grid.get? _ pos.1 pos.2).getD 0 = 0
    rw [Grid.get?_generate]
    split <;> rfl

end

variable [IsStrictOrderedRing K]

theorem found_recomputeAll (cells : CellArray K) (gravityMagnitude : K) (gravityDown : Bool) :
    (flow cells gravityDown gravityMagnitude).Found (fun _ => 0) (granularCells cells)
      (view ((sweepOrder cells.width cells.height gravityDown).foldl
        (sweepCell gravityMagnitude gravityDown)
        { data := unloaded cells
          incomingLoad := .generate cells.width cells.height fun _ _ => 0 })) := by
  have places : ((sweepOrder cells.width cells.height gravityDown).filter
      (Granular cells ·)).toFinset = granularCells cells := by
    ext pos
    simp [granularCells, mem_sweepOrder]
  rw [(foldl_sweepCell (alike_unloaded cells) gravityMagnitude _).2, view_unloaded, ← places]
  refine LoadFlow.found_sweep _ (nodup_sweepOrder.filter _) (fun pos _ => ?_)
    ((pairwise_sweepOrder.filter _).imp fun before => share_eq_zero fun below => ?_)
  · have nonzero : supportOffsetY gravityDown ≠ 0 := supportOffsetY_ne_zero
    exact share_eq_zero fun same => nonzero (by omega)
  · cases gravityDown with
    | true =>
        simp only [supportOffsetY, ↓reduceIte] at before below
        omega
    | false =>
        simp only [supportOffsetY, Bool.false_eq_true, ↓reduceIte] at before below
        omega

/-- **Static load conserves weight.** Every granular cell carries its own weight and the shares
that the granular cells of the row before pass to it, the other cells carry nothing, and the
loads that no granular cell takes on make up the weight of all granular cells. -/
theorem recomputeAll_spec (cells : CellArray K) {gravity : K}
    (strong : minGravityThreshold ≤ |gravity|) :
    let after := recomputeAll gravity cells
    let gravityDown := decide (gravity > 0)
    (∀ pos ∈ granularCells cells, (after.at pos.1 pos.2).staticLoad =
      (cells.at pos.1 pos.2).getMass * |gravity| +
        ∑ source ∈ granularCells cells with source.2 + supportOffsetY gravityDown = pos.2,
          (after.at source.1 source.2).staticLoad * share cells gravityDown source pos) ∧
      (∀ pos ∉ granularCells cells, (after.at pos.1 pos.2).staticLoad = 0) ∧
      ∑ pos ∈ granularCells cells with supports cells gravityDown pos = [],
          (after.at pos.1 pos.2).staticLoad =
        ∑ pos ∈ granularCells cells, (cells.at pos.1 pos.2).getMass * |gravity| := by
  intro after gravityDown
  let final := (sweepOrder cells.width cells.height gravityDown).foldl
    (sweepCell |gravity| gravityDown)
    { data := unloaded cells
      incomingLoad := .generate cells.width cells.height fun _ _ => 0 }
  have found : (flow cells gravityDown |gravity|).Found (fun _ => 0) (granularCells cells)
      (view final) := found_recomputeAll cells |gravity| gravityDown
  have swept : after = final.data := if_neg (not_lt.mpr strong)
  have load (pos : ℤ × ℤ) : (after.at pos.1 pos.2).staticLoad = (view final).load pos := by
    rw [swept]
    rfl
  simp only [load]
  refine ⟨fun pos member => ?_, found.unvisited, ?_⟩
  · rw [found.balanced pos member]
    congr 1
    refine (Finset.sum_filter_of_ne fun source _ passes => ?_).symm
    by_contra other
    exact passes (mul_eq_zero_of_right _ (share_eq_zero (Ne.symm other)))
  · have kept := found.balanced.conserves fun source _ => sum_share source
    simp only [ne_eq, not_not] at kept
    exact kept

theorem recomputeAll_spec_sandBlock :
    let after := recomputeAll (1 : ℚ) sandBlock
    let gravityDown := decide ((1 : ℚ) > 0)
    (∀ pos ∈ granularCells sandBlock, (after.at pos.1 pos.2).staticLoad =
      (sandBlock.at pos.1 pos.2).getMass * |(1 : ℚ)| +
        ∑ source ∈ granularCells sandBlock with source.2 + supportOffsetY gravityDown = pos.2,
          (after.at source.1 source.2).staticLoad * share sandBlock gravityDown source pos) ∧
      (∀ pos ∉ granularCells sandBlock, (after.at pos.1 pos.2).staticLoad = 0) ∧
      ∑ pos ∈ granularCells sandBlock with supports sandBlock gravityDown pos = [],
          (after.at pos.1 pos.2).staticLoad =
        ∑ pos ∈ granularCells sandBlock, (sandBlock.at pos.1 pos.2).getMass * |(1 : ℚ)| :=
  recomputeAll_spec sandBlock (by unfold minGravityThreshold; norm_num)

end

end WorldStaticLoadCalculator

end DirtSim
