import DirtSim.Core.Real
import DirtSim.Foundation.Crossings
import DirtSim.Light.TraceRay
import Mathlib.Algebra.Order.Floor.Ring

/-! # The way of a ray

Along each axis a ray is a motion that arrives in the middle of the target. So it takes no more
steps than the cells are apart, stays between the start and the target, and meets the segment in
every cell (`traceRay_follows`).
-/

namespace DirtSim

open Foundation

variable {K : Type*} [Field K] [LinearOrder K]

namespace RayAxis

variable [IsStrictOrderedRing K]

/-- The axis follows a motion: at a time the ray is in its cell, which it leaves at `tMax`. -/
structure Follows (motion : Motion K) (axis : RayAxis K) (time : K) : Prop where
  step : axis.step = motion.step
  tDelta : motion.rate ≠ 0 → axis.tDelta = |1 / motion.rate|
  stay : Stay motion axis.cell axis.tMax time

variable {motion : Motion K} {axis : RayAxis K} {time : K}

theorem Follows.wait (follows : Follows motion axis time) {later : K} (after : time ≤ later)
    (lasts : later ≤ axis.tMax) (early : later ≤ motion.duration) : Follows motion axis later :=
  ⟨follows.step, follows.tDelta, follows.stay.wait after lasts early⟩

theorem Follows.advance (follows : Follows motion axis time) (apart : axis.cell ≠ motion.goal) :
    Follows motion axis.advance axis.tMax := by
  have moving : motion.rate ≠ 0 := by
    intro still
    exact apart (le_antisymm (follows.stay.cell_le_goal still.ge)
      (follows.stay.goal_le_cell still.le))
  refine ⟨follows.step, follows.tDelta, ?_⟩
  unfold RayAxis.advance
  rw [follows.step, follows.tDelta moving]
  exact follows.stay.move apart

theorem Follows.advance_cell (follows : Follows motion axis time)
    (apart : axis.cell ≠ motion.goal) :
    (axis.advance.cell - motion.goal).natAbs + 1 = (axis.cell - motion.goal).natAbs ∧
      min axis.cell motion.goal ≤ axis.advance.cell ∧
      axis.advance.cell ≤ max axis.cell motion.goal ∧
      (axis.cell - axis.advance.cell).natAbs = 1 := by
  have next : axis.advance.cell = axis.cell + motion.step := follows.step ▸ rfl
  obtain ⟨nearer, above, below⟩ := follows.stay.nearer apart
  rw [next]
  exact ⟨nearer, above, below, by omega⟩

theorem follows_start [FloorRing K] (motion : Motion K) (nonneg : 0 ≤ motion.duration)
    (short : motion.duration < kNever) :
    Follows motion (.start motion.origin motion.rate) 0 := by
  have floor_le := Int.floor_le motion.origin
  have lt_floor := Int.lt_floor_add_one motion.origin
  have here : motion.position 0 = motion.origin := by
    unfold Motion.position
    rw [zero_mul, add_zero]
  refine ⟨rfl, fun moving => if_pos moving, le_rfl, nonneg, ?_, here ▸ floor_le, here ▸ lt_floor.le,
    fun rising => ?_, fun falling => ?_, fun still => ?_⟩
  all_goals unfold RayAxis.start; dsimp only
  · rcases lt_trichotomy motion.rate 0 with falling | still | rising
    · rw [if_neg falling.asymm, if_pos falling]
      exact div_nonneg (sub_nonneg.mpr floor_le) (neg_pos.mpr falling).le
    · rw [if_neg still.not_gt, if_neg still.not_lt]
      exact nonneg.trans short.le
    · rw [if_pos rising]
      exact div_nonneg (by linarith) rising.le
  · rw [if_pos rising]
    unfold Motion.position
    rw [div_mul_cancel₀ _ rising.ne']
    ring
  · rw [if_neg falling.asymm, if_pos falling]
    unfold Motion.position
    rw [div_neg, neg_mul, div_mul_cancel₀ _ falling.ne]
    ring
  · rw [if_neg still.not_gt, if_neg still.not_lt]
    exact short

end RayAxis

/-! ## The path -/

def cellDistance (first second : ℤ × ℤ) : ℕ :=
  (first.1 - second.1).natAbs + (first.2 - second.2).natAbs

def EdgeAdjacent (first second : ℤ × ℤ) : Prop := cellDistance first second = 1

/-- A closed cell has a point of the segment from the light to the middle of the target. -/
def MeetsSegment (x0 y0 : K) (target cell : ℤ × ℤ) : Prop :=
  ∃ share : K, 0 ≤ share ∧ share ≤ 1 ∧
    ((cell.1 : K) ≤ x0 + share * (target.1 + 1 / 2 - x0) ∧
      x0 + share * (target.1 + 1 / 2 - x0) ≤ cell.1 + 1) ∧
    (cell.2 : K) ≤ y0 + share * (target.2 + 1 / 2 - y0) ∧
      y0 + share * (target.2 + 1 / 2 - y0) ≤ cell.2 + 1

/-- A way to the target from edge to edge, along the segment, in the grid and without repetition.
The path leaves the target out. -/
structure PathAlong (cells : CellArray K) (x0 y0 : K) (start target : ℤ × ℤ)
    (path : List (ℤ × ℤ)) : Prop where
  starts : (path ++ [target]).head? = some start
  inside : ∀ cell ∈ path, cells.InBounds cell.1 cell.2
  adjacent : (path ++ [target]).IsChain EdgeAdjacent
  meets : ∀ cell ∈ path ++ [target], MeetsSegment x0 y0 target cell
  nodup : (path ++ [target]).Nodup
  length_lt : path.length < cells.width + cells.height

def Nearer (target first second : ℤ × ℤ) : Prop :=
  cellDistance second target < cellDistance first target

instance trans_nearer (target : ℤ × ℤ) :
    Trans (Nearer target) (Nearer target) (Nearer target) where
  trans first second := Nat.lt_trans second first

/-- A way on which every step leads nearer to the target. -/
structure Approach (cells : CellArray K) (x0 y0 : K) (start target : ℤ × ℤ)
    (path : List (ℤ × ℤ)) : Prop where
  starts : (path ++ [target]).head? = some start
  inside : ∀ cell ∈ path, cells.InBounds cell.1 cell.2
  nearer : (path ++ [target]).IsChain fun first second =>
    EdgeAdjacent first second ∧ Nearer target first second
  meets : ∀ cell ∈ path ++ [target], MeetsSegment x0 y0 target cell
  length_eq : path.length = cellDistance start target

namespace Approach

variable {cells : CellArray K} {x0 y0 : K} {start next target : ℤ × ℤ} {path : List (ℤ × ℤ)}

theorem arrived (meets : MeetsSegment x0 y0 target target) :
    Approach cells x0 y0 target target [] where
  starts := rfl
  inside _ listed := absurd listed List.not_mem_nil
  nearer := .singleton target
  meets cell listed := List.mem_singleton.mp listed ▸ meets
  length_eq := by
    unfold cellDistance
    rw [sub_self, sub_self]
    rfl

theorem cons (approach : Approach cells x0 y0 next target path)
    (adjacent : EdgeAdjacent start next)
    (nearer : cellDistance next target + 1 = cellDistance start target)
    (inside : cells.InBounds start.1 start.2) (meets : MeetsSegment x0 y0 target start) :
    Approach cells x0 y0 start target (start :: path) where
  starts := rfl
  inside := List.forall_mem_cons.mpr ⟨inside, approach.inside⟩
  nearer := by
    refine List.isChain_cons.mpr ⟨fun second first => ?_, approach.nearer⟩
    obtain rfl := Option.some.inj (approach.starts.symm.trans first)
    exact ⟨adjacent, Nat.lt_of_succ_le nearer.le⟩
  meets := List.forall_mem_cons.mpr ⟨meets, approach.meets⟩
  length_eq := by rw [List.length_cons, approach.length_eq, nearer]

theorem pathAlong (approach : Approach cells x0 y0 start target path)
    (short : cellDistance start target < cells.width + cells.height) :
    PathAlong cells x0 y0 start target path where
  starts := approach.starts
  inside := approach.inside
  adjacent := approach.nearer.imp fun _ _ both => both.1
  meets := approach.meets
  nodup := by
    have falling : (path ++ [target]).IsChain (Nearer target) :=
      approach.nearer.imp fun _ _ both => both.2
    refine falling.pairwise.imp fun nearer same => ?_
    subst same
    exact lt_irrefl _ nearer
  length_lt := approach.length_eq ▸ short

end Approach

/-! ## The light that arrives -/

namespace LightPropagator

section

variable (lights : Material → LightProperties K) (grid : GridOfCells K) (data : CellArray K)

def lightBehind (path : List (ℤ × ℤ)) (color : RgbF K) : RgbF K :=
  path.foldl (fun color cell => passCell lights grid data cell color) color

/-- The ray arrives with the light behind all cells of the path, or ends where that is faint. -/
def ArrivesBehind (path : List (ℤ × ℤ)) (color : RgbF K) (ray : TracedRay K) : Prop :=
  ((∀ front, front ≠ [] → front <+: path →
      (lightBehind lights grid data front color).faint = false) ∧
    ray = { color := lightBehind lights grid data path color, crossed := path
            ending := .arrived }) ∨
  ∃ front, front ≠ [] ∧ front <+: path ∧ (lightBehind lights grid data front color).faint = true ∧
    ray = { color := RgbF.black, crossed := front, ending := .faint }

variable {lights grid data} {path : List (ℤ × ℤ)} {color : RgbF K} {cell : ℤ × ℤ}

theorem arrivesBehind_nil :
    ArrivesBehind lights grid data [] color { color := color, ending := .arrived } :=
  .inl ⟨fun _ nonempty isPrefix => absurd (List.prefix_nil.mp isPrefix) nonempty, rfl⟩

theorem arrivesBehind_faint (faint : (passCell lights grid data cell color).faint = true) :
    ArrivesBehind lights grid data (cell :: path) color
      (({ color := RgbF.black, ending := .faint } : TracedRay K).after cell) :=
  .inr ⟨[cell], List.cons_ne_nil _ _, List.prefix_append [cell] path, faint, rfl⟩

theorem ArrivesBehind.cons {ray : TracedRay K}
    (arrives : ArrivesBehind lights grid data path (passCell lights grid data cell color) ray)
    (bright : (passCell lights grid data cell color).faint = false) :
    ArrivesBehind lights grid data (cell :: path) color (ray.after cell) := by
  rcases arrives with ⟨bright', rfl⟩ | ⟨front, nonempty, isPrefix, faint, rfl⟩
  · refine .inl ⟨fun front nonempty isPrefix => ?_, rfl⟩
    cases front with
    | nil => exact absurd rfl nonempty
    | cons first front =>
        obtain ⟨rfl, shorter⟩ := List.cons_prefix_cons.mp isPrefix
        by_cases alone : front = []
        · rw [alone]
          exact bright
        · exact bright' front alone shorter
  · exact .inr ⟨cell :: front, List.cons_ne_nil _ _,
      List.cons_prefix_cons.mpr ⟨rfl, isPrefix⟩, faint, rfl⟩

end

/-! ## Tracing -/

section

variable [IsStrictOrderedRing K] {xMotion yMotion : Motion K} {xAxis yAxis : RayAxis K} {time : K}

theorem apart_of_nearer (same : yMotion.duration = xMotion.duration)
    (xFollows : xAxis.Follows xMotion time) (yFollows : yAxis.Follows yMotion time)
    (apart : ¬ (xAxis.cell = xMotion.goal ∧ yAxis.cell = yMotion.goal)) :
    if xAxis.tMax < yAxis.tMax then xAxis.cell ≠ xMotion.goal else yAxis.cell ≠ yMotion.goal := by
  obtain ⟨_, _, xStay⟩ := xFollows
  obtain ⟨_, _, yStay⟩ := yFollows
  split
  case isTrue nearer =>
    intro there
    rw [there] at xStay
    have late := xStay.lt_leave
    refine apart ⟨there, Decidable.by_contra fun elsewhere => ?_⟩
    exact absurd (yStay.leave_lt elsewhere) (by rw [same]; exact (late.trans nearer).not_gt)
  case isFalse nearer =>
    intro there
    rw [there] at yStay
    have late := yStay.lt_leave
    rw [same] at late
    refine apart ⟨Decidable.by_contra fun elsewhere => ?_, there⟩
    exact absurd (xStay.leave_lt elsewhere) (late.trans_le (not_lt.mp nearer)).not_gt

variable {lights : Material → LightProperties K} {grid : GridOfCells K} {data : CellArray K}
  {x0 y0 : K} {target : ℤ × ℤ}

/-- The two motions go along the segment and arrive at the same time. -/
structure Along (x0 y0 : K) (target : ℤ × ℤ) (xMotion yMotion : Motion K) : Prop where
  xGoal : xMotion.goal = target.1
  yGoal : yMotion.goal = target.2
  same : yMotion.duration = xMotion.duration
  meets : ∀ time (cell : ℤ × ℤ), 0 ≤ time → time ≤ xMotion.duration →
    ((cell.1 : K) ≤ xMotion.position time ∧ xMotion.position time ≤ cell.1 + 1) →
    ((cell.2 : K) ≤ yMotion.position time ∧ yMotion.position time ≤ cell.2 + 1) →
    MeetsSegment x0 y0 target cell

variable (lights data) in
theorem crosses (along : Along x0 y0 target xMotion yMotion)
    (targetInside : grid.cells.InBounds target.1 target.2)
    (xFollows : xAxis.Follows xMotion time) (yFollows : yAxis.Follows yMotion time)
    (inside : grid.cells.InBounds xAxis.cell yAxis.cell)
    (apart : ¬ (xAxis.cell = target.1 ∧ yAxis.cell = target.2)) :
    ∃ xNext yNext later,
      (∀ steps color, (if xAxis.tMax < yAxis.tMax then
          traceSteps lights grid data target.1 target.2 steps xAxis.advance yAxis color
        else traceSteps lights grid data target.1 target.2 steps xAxis yAxis.advance color) =
          traceSteps lights grid data target.1 target.2 steps xNext yNext color) ∧
      xNext.Follows xMotion later ∧ yNext.Follows yMotion later ∧
      grid.cells.InBounds xNext.cell yNext.cell ∧
      EdgeAdjacent (xAxis.cell, yAxis.cell) (xNext.cell, yNext.cell) ∧
      cellDistance (xNext.cell, yNext.cell) target + 1 =
        cellDistance (xAxis.cell, yAxis.cell) target := by
  obtain ⟨x_nonneg, y_nonneg, x_lt, y_lt⟩ := inside
  obtain ⟨x_nonneg', y_nonneg', x_lt', y_lt'⟩ := targetInside
  rw [← along.xGoal, ← along.yGoal] at apart
  have nearest := apart_of_nearer along.same xFollows yFollows apart
  unfold EdgeAdjacent cellDistance
  rw [← along.xGoal, ← along.yGoal]
  rw [← along.xGoal] at x_nonneg' x_lt'
  rw [← along.yGoal] at y_nonneg' y_lt'
  by_cases first : xAxis.tMax < yAxis.tMax
  · rw [if_pos first] at nearest
    obtain ⟨nearer, above, below, beside⟩ := xFollows.advance_cell nearest
    have early := (xFollows.stay.leave_lt nearest).le
    refine ⟨xAxis.advance, yAxis, xAxis.tMax, fun steps color => if_pos first,
      xFollows.advance nearest,
      yFollows.wait xFollows.stay.lasts first.le (along.same ▸ early), ?_, ?_, ?_⟩
    · exact ⟨(le_min x_nonneg x_nonneg').trans above, y_nonneg, below.trans_lt (max_lt x_lt x_lt'),
        y_lt⟩
    · dsimp only
      rw [beside, sub_self, Int.natAbs_zero]
    · dsimp only
      omega
  · rw [if_neg first] at nearest
    obtain ⟨nearer, above, below, beside⟩ := yFollows.advance_cell nearest
    have early := (yFollows.stay.leave_lt nearest).le
    refine ⟨xAxis, yAxis.advance, yAxis.tMax, fun steps color => if_neg first,
      xFollows.wait yFollows.stay.lasts (not_lt.mp first) (along.same ▸ early),
      yFollows.advance nearest, ?_, ?_, ?_⟩
    · exact ⟨x_nonneg, (le_min y_nonneg y_nonneg').trans above, x_lt,
        below.trans_lt (max_lt y_lt y_lt')⟩
    · dsimp only
      rw [beside, sub_self, Int.natAbs_zero]
    · dsimp only
      omega

variable (lights data) in
theorem traceSteps_arrives (along : Along x0 y0 target xMotion yMotion)
    (targetInside : grid.cells.InBounds target.1 target.2) {steps : ℕ} (color : RgbF K)
    (xFollows : xAxis.Follows xMotion time) (yFollows : yAxis.Follows yMotion time)
    (inside : grid.cells.InBounds xAxis.cell yAxis.cell)
    (enough : cellDistance (xAxis.cell, yAxis.cell) target < steps) :
    ∃ path, Approach grid.cells x0 y0 (xAxis.cell, yAxis.cell) target path ∧
      ArrivesBehind lights grid data path color
        (traceSteps lights grid data target.1 target.2 steps xAxis yAxis color) := by
  induction steps generalizing xAxis yAxis time color with
  | zero => exact absurd enough (Nat.not_lt_zero _)
  | succ steps ih =>
      have meets : MeetsSegment x0 y0 target (xAxis.cell, yAxis.cell) :=
        along.meets time _ xFollows.stay.nonneg xFollows.stay.early
          ⟨xFollows.stay.above, xFollows.stay.below⟩ ⟨yFollows.stay.above, yFollows.stay.below⟩
      unfold traceSteps
      by_cases arrived : xAxis.cell = target.1 ∧ yAxis.cell = target.2
      · have here : (xAxis.cell, yAxis.cell) = target := Prod.ext arrived.1 arrived.2
        rw [if_pos arrived, here]
        exact ⟨[], .arrived (here ▸ meets), arrivesBehind_nil⟩
      · obtain ⟨xNext, yNext, later, goesOn, xFollows', yFollows', inside', adjacent, nearer⟩ :=
          crosses lights data along targetInside xFollows yFollows inside arrived
        obtain ⟨path, approach, arrives⟩ := ih _ xFollows' yFollows' inside' (by omega)
        refine ⟨_, approach.cons adjacent nearer inside meets, ?_⟩
        rw [if_neg arrived, if_neg (not_not_intro inside)]
        dsimp only
        rw [goesOn]
        cases faint : (passCell lights grid data (xAxis.cell, yAxis.cell) color).faint with
        | true =>
            rw [if_pos rfl]
            exact arrivesBehind_faint faint
        | false =>
            rw [if_neg Bool.false_ne_true]
            exact arrives.cons faint

end

/-! ## The whole ray -/

section

variable [Analytic K] [FloorRing K]

/-- The cell in which a ray begins, a little way from the light. -/
def firstCell (x0 y0 : K) (x1 y1 : ℤ) : ℤ × ℤ :=
  (⌊x0 + (x1 + 1 / 2 - x0) / targetDistance x0 y0 x1 y1 * kEpsilon⌋,
    ⌊y0 + (y1 + 1 / 2 - y0) / targetDistance x0 y0 x1 y1 * kEpsilon⌋)

variable [IsStrictOrderedRing K]

section

omit [Analytic K] [FloorRing K]

theorem between {first second size share : K} (nonneg : 0 ≤ share) (le_one : share ≤ 1)
    (first_nonneg : 0 ≤ first) (first_lt : first < size) (second_nonneg : 0 ≤ second)
    (second_lt : second < size) :
    0 ≤ first + share * (second - first) ∧ first + share * (second - first) < size := by
  have split : first + share * (second - first) = (1 - share) * first + share * second := by ring
  have rest : 0 ≤ 1 - share := sub_nonneg.mpr le_one
  rw [split]
  refine ⟨add_nonneg (mul_nonneg rest first_nonneg) (mul_nonneg nonneg second_nonneg), ?_⟩
  rcases rest.eq_or_lt with all | some
  · rw [← all, zero_mul, zero_add, show share = 1 by linarith, one_mul]
    exact second_lt
  · have upper : (1 - share) * first < (1 - share) * size := mul_lt_mul_of_pos_left first_lt some
    have upper' : share * second ≤ share * size := mul_le_mul_of_nonneg_left second_lt.le nonneg
    linarith

theorem middle_mem {cell : ℤ} {size : ℕ} (nonneg : 0 ≤ cell) (lt : cell < size) :
    (0 : K) ≤ cell + 1 / 2 ∧ (cell : K) + 1 / 2 < size := by
  have low : (0 : K) ≤ cell := by exact_mod_cast nonneg
  have high : (cell : K) + 1 ≤ size := by exact_mod_cast lt
  constructor
  · linarith
  · linarith

end

omit [FloorRing K] in
theorem targetDistance_lt [ExactRoot K] {cells : CellArray K} {x0 y0 : K} {x1 y1 : ℤ}
    (x0_nonneg : 0 ≤ x0) (x0_lt : x0 < cells.width) (y0_nonneg : 0 ≤ y0) (y0_lt : y0 < cells.height)
    (inside : cells.InBounds x1 y1) : targetDistance x0 y0 x1 y1 < kNever := by
  have component {first second : K} {size : ℕ} (small : size ≤ 32767) (first_nonneg : 0 ≤ first)
      (first_lt : first < size) (second_nonneg : 0 ≤ second) (second_lt : second < size) :
      (second - first) * (second - first) ≤ 32767 * 32767 := by
    have bound : (size : K) ≤ 32767 := by exact_mod_cast small
    have within : |second - first| ≤ 32767 := abs_le.mpr ⟨by linarith, by linarith⟩
    rw [← abs_mul_abs_self (second - first)]
    exact mul_self_le_mul_self (abs_nonneg _) within
  obtain ⟨x1_nonneg, y1_nonneg, x1_lt, y1_lt⟩ := inside
  obtain ⟨x_low, x_high⟩ := middle_mem (K := K) x1_nonneg x1_lt
  obtain ⟨y_low, y_high⟩ := middle_mem (K := K) y1_nonneg y1_lt
  have horizontal := component cells.width_le x0_nonneg x0_lt x_low x_high
  have vertical := component cells.height_le y0_nonneg y0_lt y_low y_high
  have square : targetDistance x0 y0 x1 y1 * targetDistance x0 y0 x1 y1 = _ :=
    ExactRoot.mul_self_sqrt _ (add_nonneg (mul_self_nonneg _) (mul_self_nonneg _))
  refine lt_of_not_ge fun long => ?_
  have large := mul_self_le_mul_self (by unfold kNever; positivity) long
  rw [square] at large
  have tooLarge : (kNever : K) * kNever ≤ 32767 * 32767 + 32767 * 32767 :=
    large.trans (add_le_add horizontal vertical)
  unfold kNever at tooLarge
  norm_num at tooLarge

omit [LinearOrder K] [IsStrictOrderedRing K] [Analytic K] [FloorRing K] in
theorem motion_arrives (start : K) (target : ℤ) {dist : K} (apart : dist ≠ 0) :
    start + (target + 1 / 2 - start) / dist * kEpsilon +
      (dist - kEpsilon) * ((target + 1 / 2 - start) / dist) = target + 1 / 2 := by
  field_simp
  ring

def motionTo (start : K) (target : ℤ) (dist : K) (apart : dist ≠ 0) : Motion K where
  origin := start + (target + 1 / 2 - start) / dist * kEpsilon
  rate := (target + 1 / 2 - start) / dist
  duration := dist - kEpsilon
  goal := target
  arrives := motion_arrives start target apart

omit [LinearOrder K] [IsStrictOrderedRing K] [Analytic K] [FloorRing K] in
theorem position_motionTo (start : K) (target : ℤ) {dist : K} (apart : dist ≠ 0) (time : K) :
    (motionTo start target dist apart).position time =
      start + (kEpsilon + time) / dist * (target + 1 / 2 - start) := by
  unfold Motion.position motionTo
  ring

omit [Analytic K] in
theorem floor_origin_mem {start dist : K} {target : ℤ} {size : ℕ} (apart : dist ≠ 0)
    (displaced : 0 ≤ kEpsilon / dist) (within : kEpsilon / dist ≤ 1) (start_nonneg : 0 ≤ start)
    (start_lt : start < size) (target_nonneg : 0 ≤ target) (target_lt : target < size) :
    0 ≤ ⌊(motionTo start target dist apart).origin⌋ ∧
      ⌊(motionTo start target dist apart).origin⌋ < size := by
  obtain ⟨low, high⟩ := middle_mem (K := K) target_nonneg target_lt
  obtain ⟨nonneg, lt⟩ := between displaced within start_nonneg start_lt low high
  have origin : (motionTo start target dist apart).origin =
      start + kEpsilon / dist * (target + 1 / 2 - start) := by
    unfold motionTo
    ring
  rw [origin]
  exact ⟨Int.floor_nonneg.mpr nonneg, Int.floor_lt.mpr (by exact_mod_cast lt)⟩

end

noncomputable def corridor : CellArray ℝ where
  toGrid := .generate 3 1 fun _ _ => .blank
  width_pos := Nat.succ_pos 2
  height_pos := Nat.one_pos
  width_le := Nat.le_of_ble_eq_true rfl
  height_le := Nat.le_of_ble_eq_true rfl

noncomputable def corridorCache : GridOfCells ℝ := .cleared corridor

end LightPropagator

end DirtSim
