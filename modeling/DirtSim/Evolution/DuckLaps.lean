import DirtSim.Evolution.DuckClockEvaluationTracker
import Mathlib.Data.List.Induction
import Mathlib.Tactic.Linarith

/-! # The laps of a duck

The progress that the tracker shows is the number of its full traversals and the part of the lap
that has been run since. A lap ends where the duck touches the wall opposite to the one that it
touched last, and the part of the lap then starts anew at zero. So the progress never falls, and
the full traversals are the changes between the two walls.
-/

namespace DirtSim

namespace DuckClockEvaluationTracker

section

variable {frames : List DuckClockTrackerFrame}

/-! ## Changes between the walls -/

/-- The walls touched in some frames, one after another. -/
def touchedWalls (frames : List DuckClockTrackerFrame) : List WallZone :=
  (frames.map fun frame => resolveWallZone frame.duckAnchorCell.x frame.worldWidth).filter
    (· ≠ .none)

def alternations : List WallZone → ℕ
  | [] => 0
  | [_] => 0
  | first :: second :: rest =>
      (if first ≠ second then 1 else 0) + alternations (second :: rest)

def lastTouched (walls : List WallZone) : WallZone := walls.getLast?.getD .none

theorem lastTouched_concat (walls : List WallZone) (wall : WallZone) :
    lastTouched (walls ++ [wall]) = wall := by
  rw [lastTouched, List.getLast?_concat, Option.getD_some]

theorem alternations_concat {walls : List WallZone} (wall : WallZone) (nonempty : walls ≠ []) :
    alternations (walls ++ [wall]) =
      alternations walls + if lastTouched walls ≠ wall then 1 else 0 := by
  induction walls with
  | nil => exact absurd rfl nonempty
  | cons first rest ih =>
      cases rest with
      | nil => exact Nat.add_comm _ _
      | cons second rest =>
          have later := ih (List.cons_ne_nil second rest)
          change (if first ≠ second then 1 else 0) + alternations ((second :: rest) ++ [wall]) =
            (if first ≠ second then 1 else 0) + alternations (second :: rest) + _
          rw [later, Nat.add_assoc]
          rfl

theorem touchedWalls_concat (frames : List DuckClockTrackerFrame)
    (frame : DuckClockTrackerFrame) :
    touchedWalls (frames ++ [frame]) =
      touchedWalls frames ++
        [resolveWallZone frame.duckAnchorCell.x frame.worldWidth].filter (· ≠ .none) := by
  rw [touchedWalls, List.map_append, List.filter_append]
  rfl

theorem touchedWalls_of_none {frame : DuckClockTrackerFrame}
    (inside : resolveWallZone frame.duckAnchorCell.x frame.worldWidth = .none) :
    touchedWalls (frames ++ [frame]) = touchedWalls frames := by
  rw [touchedWalls_concat, inside]
  exact List.append_nil _

theorem touchedWalls_of_wall {frame : DuckClockTrackerFrame} {wall : WallZone}
    (touched : resolveWallZone frame.duckAnchorCell.x frame.worldWidth = wall)
    (solid : wall ≠ .none) : touchedWalls (frames ++ [frame]) = touchedWalls frames ++ [wall] := by
  rw [touchedWalls_concat, touched, List.filter_singleton, decide_eq_true solid, cond_true]

theorem ne_none_of_mem_touchedWalls {wall : WallZone} (member : wall ∈ touchedWalls frames) :
    wall ≠ .none := by
  have kept := (List.mem_filter.mp member).2
  exact of_decide_eq_true kept

theorem alternations_touch (frames : List DuckClockTrackerFrame) (wall : WallZone) :
    alternations (touchedWalls frames ++ [wall]) =
      alternations (touchedWalls frames) +
        if lastTouched (touchedWalls frames) ≠ .none ∧ lastTouched (touchedWalls frames) ≠ wall
        then 1 else 0 := by
  cases touched : touchedWalls frames with
  | nil => rfl
  | cons first rest =>
      have nonempty : first :: rest ≠ [] := List.cons_ne_nil first rest
      have solid : lastTouched (first :: rest) ≠ .none := by
        rw [lastTouched, List.getLast?_eq_getLast_of_ne_nil nonempty, Option.getD_some]
        apply @ne_none_of_mem_touchedWalls frames
        rw [touched]
        exact List.getLast_mem nonempty
      rw [alternations_concat wall nonempty]
      simp [solid]

end

section

/-! ## What obstacles and jumps leave alone -/

variable {K : Type}
variable (tracker : DuckClockEvaluationTracker K)

/-- The same lap. -/
structure SameLap (before after : DuckClockEvaluationTracker K) : Prop where
  fullTraversals : after.artifacts.fullTraversals = before.artifacts.fullTraversals
  traversalProgress : after.artifacts.traversalProgress = before.artifacts.traversalProgress
  currentProgress : after.currentTraversalProgress = before.currentTraversalProgress
  currentWallZone : after.currentWallZone = before.currentWallZone
  lastTouchedWallZone : after.lastTouchedWallZone = before.lastTouchedWallZone

theorem SameLap.refl : SameLap tracker tracker :=
  ⟨rfl, rfl, rfl, rfl, rfl⟩

theorem SameLap.trans {first second third : DuckClockEvaluationTracker K}
    (left : SameLap first second) (right : SameLap second third) : SameLap first third :=
  ⟨right.1.trans left.1, right.2.trans left.2, right.3.trans left.3, right.4.trans left.4,
    right.5.trans left.5⟩

theorem SameLap.foldl {step : DuckClockEvaluationTracker K → FloorObstacle →
      DuckClockEvaluationTracker K}
    (stepped : ∀ tracker obstacle, SameLap tracker (step tracker obstacle))
    (obstacles : List FloorObstacle) (tracker : DuckClockEvaluationTracker K) :
    SameLap tracker (obstacles.foldl step tracker) := by
  induction obstacles generalizing tracker with
  | nil => exact .refl tracker
  | cons obstacle obstacles ih => exact (stepped tracker obstacle).trans (ih _)

theorem sameLap_creditObstacle (jumpAttempt : JumpAttempt) (landingCell : Vector2i)
    (tracker : DuckClockEvaluationTracker K) (obstacle : FloorObstacle) :
    SameLap tracker (creditObstacle jumpAttempt landingCell tracker obstacle) := by
  unfold creditObstacle
  split
  · exact .refl tracker
  · split
    · exact .refl tracker
    · cases obstacle.type <;> exact ⟨rfl, rfl, rfl, rfl, rfl⟩

theorem sameLap_finalizeJumpAttempt (landingCell : Vector2i) :
    SameLap tracker (tracker.finalizeJumpAttempt landingCell) := by
  unfold finalizeJumpAttempt
  split
  · exact .refl tracker
  · rename_i jumpAttempt _
    have credited := SameLap.foldl (sameLap_creditObstacle jumpAttempt landingCell)
      jumpAttempt.observedObstacles tracker
    exact credited.trans ⟨rfl, rfl, rfl, rfl, rfl⟩

theorem sameLap_updateObstacleOpportunities (frame : DuckClockTrackerFrame) :
    SameLap tracker (tracker.updateObstacleOpportunities frame) := by
  have cleaned : SameLap tracker
      (tracker.cleanupInactiveObstacleOpportunities frame.obstacles) :=
    ⟨rfl, rfl, rfl, rfl, rfl⟩
  apply cleaned.trans
  apply SameLap.foldl
  intro tracker obstacle
  unfold offerObstacle
  split
  · exact .refl tracker
  · cases obstacle.type <;> exact ⟨rfl, rfl, rfl, rfl, rfl⟩

theorem sameLap_updateJump (frame : DuckClockTrackerFrame) :
    SameLap tracker (tracker.updateJump frame) := by
  unfold updateJump
  split
  · exact ⟨rfl, rfl, rfl, rfl, rfl⟩
  · split
    · exact ⟨rfl, rfl, rfl, rfl, rfl⟩
    · split
      · have continued : SameLap tracker
            { tracker with
              jumpAttempt :=
                tracker.jumpAttempt.map fun jumpAttempt => continueJump jumpAttempt frame } :=
          ⟨rfl, rfl, rfl, rfl, rfl⟩
        exact continued.trans (sameLap_finalizeJumpAttempt _ _)
      · exact .refl tracker

theorem sameLap_updateGroundContact (frame : DuckClockTrackerFrame) :
    SameLap tracker (tracker.updateGroundContact frame) := by
  unfold updateGroundContact
  split
  · exact ⟨rfl, rfl, rfl, rfl, rfl⟩
  · exact (sameLap_updateJump tracker frame).trans ⟨rfl, rfl, rfl, rfl, rfl⟩

end

section

/-! ## Laps -/

variable {K : Type} [Field K] [LinearOrder K] [IsStrictOrderedRing K]
variable {frames : List DuckClockTrackerFrame} {tracker : DuckClockEvaluationTracker K}
  {frame : DuckClockTrackerFrame}

omit [Field K] [IsStrictOrderedRing K] in
theorem clampTo_mem {low high : K} (ordered : low ≤ high) (value : K) :
    low ≤ clampTo low high value ∧ clampTo low high value ≤ high := by
  unfold clampTo
  split
  case isTrue => exact ⟨le_rfl, ordered⟩
  case isFalse above =>
    split
    case isTrue => exact ⟨ordered, le_rfl⟩
    case isFalse below => exact ⟨not_lt.mp above, not_lt.mp below⟩

theorem resolveTraversalProgress_mem (x worldWidth : ℤ) (zone : WallZone) :
    (0 : K) ≤ resolveTraversalProgress x worldWidth zone ∧
      resolveTraversalProgress x worldWidth zone ≤ (1 : K) := by
  cases zone with
  | none => exact ⟨le_rfl, zero_le_one⟩
  | left => exact clampTo_mem zero_le_one _
  | right => exact clampTo_mem zero_le_one _

/-- The part of a lap, and the laps before it, after the frames. -/
structure InLap (frames : List DuckClockTrackerFrame) (tracker : DuckClockEvaluationTracker K) :
    Prop where
  nonneg : 0 ≤ tracker.currentTraversalProgress
  le_one : tracker.currentTraversalProgress ≤ 1
  traversals : tracker.artifacts.fullTraversals = alternations (touchedWalls frames)
  last : tracker.lastTouchedWallZone = lastTouched (touchedWalls frames)
  zone : tracker.currentWallZone ≠ .none →
    tracker.currentWallZone = tracker.lastTouchedWallZone

def distanceRun (tracker : DuckClockEvaluationTracker K) : K :=
  (tracker.artifacts.fullTraversals : K) + tracker.currentTraversalProgress

theorem InLap.touchWall (inLap : InLap frames tracker) {wall opposite : WallZone}
    (touched : resolveWallZone frame.duckAnchorCell.x frame.worldWidth = wall)
    (solid : wall ≠ .none) (other : tracker.lastTouchedWallZone = opposite ↔
      tracker.lastTouchedWallZone ≠ .none ∧ tracker.lastTouchedWallZone ≠ wall) (touches : ℕ × ℕ) :
    let entered : DuckClockEvaluationTracker K :=
      { tracker with
        currentWallZone := wall
        artifacts :=
          { tracker.artifacts with leftWallTouches := touches.1, rightWallTouches := touches.2 } }
    InLap (frames ++ [frame]) (entered.touchWall wall opposite) ∧
      distanceRun tracker ≤ distanceRun (entered.touchWall wall opposite) := by
  have changes := alternations_touch frames wall
  rw [← inLap.last, ← inLap.traversals] at changes
  unfold DuckClockEvaluationTracker.touchWall
  dsimp only
  by_cases lap : tracker.lastTouchedWallZone = opposite
  · rw [if_pos (other.mp lap)] at changes
    rw [if_pos lap]
    refine ⟨⟨le_rfl, zero_le_one, ?_, ?_, fun _ => rfl⟩, ?_⟩
    · rw [touchedWalls_of_wall touched solid, changes]
    · rw [touchedWalls_of_wall touched solid, lastTouched_concat]
    · have le_one := inLap.le_one
      unfold distanceRun
      dsimp only
      push_cast
      linarith
  · rw [if_neg (fun both => lap (other.mpr both))] at changes
    rw [if_neg lap]
    refine ⟨⟨inLap.nonneg, inLap.le_one, ?_, ?_, fun _ => rfl⟩, le_rfl⟩
    · rw [touchedWalls_of_wall touched solid, changes]
      rfl
    · rw [touchedWalls_of_wall touched solid, lastTouched_concat]

section

omit [IsStrictOrderedRing K]

theorem InLap.stay (inLap : InLap frames tracker)
    (same : resolveWallZone frame.duckAnchorCell.x frame.worldWidth = tracker.currentWallZone) :
    InLap (frames ++ [frame]) tracker := by
  by_cases inside : tracker.currentWallZone = .none
  · have walls := @touchedWalls_of_none frames _ (same.trans inside)
    exact ⟨inLap.nonneg, inLap.le_one, walls ▸ inLap.traversals, walls ▸ inLap.last, inLap.zone⟩
  · have walls := @touchedWalls_of_wall frames _ _ same inside
    have last := inLap.zone inside
    have changes := alternations_touch frames tracker.currentWallZone
    rw [← inLap.last, ← last, if_neg (fun both => both.2 rfl), Nat.add_zero,
      ← inLap.traversals] at changes
    refine ⟨inLap.nonneg, inLap.le_one, ?_, ?_, inLap.zone⟩
    · rw [walls, changes]
    · rw [walls, lastTouched_concat, ← last]

theorem InLap.leave (inLap : InLap frames tracker)
    (inside : resolveWallZone frame.duckAnchorCell.x frame.worldWidth = .none) :
    InLap (frames ++ [frame]) { tracker with currentWallZone := .none } := by
  have walls := @touchedWalls_of_none frames _ inside
  exact ⟨inLap.nonneg, inLap.le_one, walls ▸ inLap.traversals, walls ▸ inLap.last,
    fun solid => absurd rfl solid⟩

end

theorem InLap.updateTraversalState (inLap : InLap frames tracker) (frame : DuckClockTrackerFrame) :
    InLap (frames ++ [frame]) (tracker.updateTraversalState frame) ∧
      distanceRun tracker ≤ distanceRun (tracker.updateTraversalState frame) := by
  unfold DuckClockEvaluationTracker.updateTraversalState
  dsimp only
  split
  case isTrue same => exact ⟨inLap.stay same, le_rfl⟩
  case isFalse =>
    cases zone : resolveWallZone frame.duckAnchorCell.x frame.worldWidth with
    | none => exact ⟨inLap.leave zone, le_rfl⟩
    | left =>
        have other : tracker.lastTouchedWallZone = .right ↔
            tracker.lastTouchedWallZone ≠ .none ∧ tracker.lastTouchedWallZone ≠ .left := by
          cases tracker.lastTouchedWallZone <;> decide
        exact inLap.touchWall zone WallZone.noConfusion other (_, _)
    | right =>
        have other : tracker.lastTouchedWallZone = .left ↔
            tracker.lastTouchedWallZone ≠ .none ∧ tracker.lastTouchedWallZone ≠ .right := by
          cases tracker.lastTouchedWallZone <;> decide
        exact inLap.touchWall zone WallZone.noConfusion other (_, _)

theorem InLap.updateTraversalProgress (inLap : InLap frames tracker) (frame : DuckClockTrackerFrame) :
    InLap frames (tracker.updateTraversalProgress frame) ∧
      distanceRun tracker ≤ distanceRun (tracker.updateTraversalProgress frame) := by
  obtain ⟨nonneg, le_one⟩ := resolveTraversalProgress_mem (K := K) frame.duckAnchorCell.x
    frame.worldWidth tracker.lastTouchedWallZone
  refine ⟨⟨?_, ?_, inLap.traversals, inLap.last, inLap.zone⟩, ?_⟩
  · exact inLap.nonneg.trans (le_max_left _ _)
  · exact max_le inLap.le_one le_one
  · unfold distanceRun
    exact add_le_add_right (le_max_left _ _) _

omit [IsStrictOrderedRing K] in
theorem InLap.of_same {before after : DuckClockEvaluationTracker K} (inLap : InLap frames before)
    (same : SameLap before after) : InLap frames after where
  nonneg := same.currentProgress ▸ inLap.nonneg
  le_one := same.currentProgress ▸ inLap.le_one
  traversals := same.fullTraversals ▸ inLap.traversals
  last := same.lastTouchedWallZone ▸ inLap.last
  zone := by
    rw [same.currentWallZone, same.lastTouchedWallZone]
    exact inLap.zone

theorem InLap.update (inLap : InLap frames tracker) (frame : DuckClockTrackerFrame) :
    InLap (frames ++ [frame]) (tracker.update frame) ∧
      distanceRun tracker ≤ distanceRun (tracker.update frame) ∧
        (tracker.update frame).artifacts.traversalProgress =
          distanceRun (tracker.update frame) := by
  obtain ⟨moved, further⟩ := inLap.updateTraversalState frame
  obtain ⟨progressed, farther⟩ := moved.updateTraversalProgress frame
  have same := (sameLap_updateObstacleOpportunities
    ((tracker.updateTraversalState frame).updateTraversalProgress frame) frame).trans
      (sameLap_updateGroundContact _ frame)
  have distance : distanceRun (tracker.update frame) =
      distanceRun ((tracker.updateTraversalState frame).updateTraversalProgress frame) := by
    unfold distanceRun
    exact congrArg₂ (fun (laps : ℕ) (part : K) => (laps : K) + part) same.fullTraversals same.currentProgress
  refine ⟨progressed.of_same same, ?_, ?_⟩
  · rw [distance]
    exact further.trans farther
  · rw [distance]
    exact same.traversalProgress

/-- **The laps of a run of frames.** -/
theorem inLap_track (frames : List DuckClockTrackerFrame) :
    InLap frames (track frames : DuckClockEvaluationTracker K) ∧
      (track frames : DuckClockEvaluationTracker K).artifacts.traversalProgress =
        distanceRun (track frames : DuckClockEvaluationTracker K) := by
  induction frames using List.reverseRecOn with
  | nil =>
      refine ⟨⟨le_rfl, zero_le_one, rfl, rfl, fun solid => absurd rfl solid⟩, ?_⟩
      unfold distanceRun
      change (0 : K) = ((0 : ℕ) : K) + 0
      rw [Nat.cast_zero, add_zero]
  | append_singleton frames frame ih =>
      rw [track, List.foldl_concat]
      obtain ⟨inLap, _, shown⟩ := ih.1.update frame
      exact ⟨inLap, shown⟩

end

end DuckClockEvaluationTracker

end DirtSim
