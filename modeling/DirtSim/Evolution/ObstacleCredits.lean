import DirtSim.Evolution.DuckLaps
import Mathlib.Data.List.Perm.Subperm

/-! # The obstacles that a duck clears

A clear is credited where a jump ends, unless it has been credited in this lap. The credits never
exceed the offers unless an obstacle disappears while a jump over it goes on.
-/

namespace DirtSim

namespace DuckClockEvaluationTracker

variable {K : Type}
variable {obstacle : FloorObstacle} {obstacles : List FloorObstacle}

section

variable {offered credited : List FloorObstacle} {tracker : DuckClockEvaluationTracker K}

/-! ## Offers and credits -/

def observedObstacles (tracker : DuckClockEvaluationTracker K) : List FloorObstacle :=
  match tracker.jumpAttempt with
  | some jumpAttempt => jumpAttempt.observedObstacles
  | none => []

def isOf (type : FloorObstacleType) (obstacle : FloorObstacle) : Bool := obstacle.type = type

/-- The counters count the obstacles that have been offered and credited. -/
structure Counts (artifacts : DuckClockEvaluationArtifacts K)
    (offered credited : List FloorObstacle) : Prop where
  hurdleOpportunities : artifacts.hurdleOpportunities = offered.countP (isOf .hurdle)
  pitOpportunities : artifacts.pitOpportunities = offered.countP (isOf .pit)
  hurdleClears : artifacts.hurdleClears = credited.countP (isOf .hurdle)
  pitClears : artifacts.pitClears = credited.countP (isOf .pit)

theorem countP_isOf_cons (type : FloorObstacleType) (obstacle : FloorObstacle)
    (obstacles : List FloorObstacle) :
    (obstacle :: obstacles).countP (isOf type) =
      obstacles.countP (isOf type) + if obstacle.type = type then 1 else 0 := by
  rw [List.countP_cons]
  simp [isOf]

theorem Counts.offer {artifacts : DuckClockEvaluationArtifacts K}
    (counts : Counts artifacts offered credited) (obstacle : FloorObstacle) :
    Counts (countOpportunity artifacts obstacle.type) (obstacle :: offered) credited := by
  have hurdles := countP_isOf_cons .hurdle obstacle offered
  have pits := countP_isOf_cons .pit obstacle offered
  cases kind : obstacle.type with
  | hurdle =>
      rw [kind, if_pos rfl, ← counts.hurdleOpportunities] at hurdles
      rw [kind, if_neg (by decide), ← counts.pitOpportunities] at pits
      exact ⟨hurdles.symm, pits.symm, counts.hurdleClears, counts.pitClears⟩
  | pit =>
      rw [kind, if_neg (by decide), ← counts.hurdleOpportunities] at hurdles
      rw [kind, if_pos rfl, ← counts.pitOpportunities] at pits
      exact ⟨hurdles.symm, pits.symm, counts.hurdleClears, counts.pitClears⟩

theorem Counts.credit {artifacts : DuckClockEvaluationArtifacts K}
    (counts : Counts artifacts offered credited) (obstacle : FloorObstacle) :
    Counts (countClear artifacts obstacle.type) offered (obstacle :: credited) := by
  have hurdles := countP_isOf_cons .hurdle obstacle credited
  have pits := countP_isOf_cons .pit obstacle credited
  cases kind : obstacle.type with
  | hurdle =>
      rw [kind, if_pos rfl, ← counts.hurdleClears] at hurdles
      rw [kind, if_neg (by decide), ← counts.pitClears] at pits
      exact ⟨counts.hurdleOpportunities, counts.pitOpportunities, hurdles.symm, pits.symm⟩
  | pit =>
      rw [kind, if_neg (by decide), ← counts.hurdleClears] at hurdles
      rw [kind, if_pos rfl, ← counts.pitClears] at pits
      exact ⟨counts.hurdleOpportunities, counts.pitOpportunities, hurdles.symm, pits.symm⟩

/-- An obstacle that may be credited next. For an observed one that is still due in this frame
nothing is said. -/
def IsOpen (tracker : DuckClockEvaluationTracker K) (due : List FloorObstacle)
    (obstacle : FloorObstacle) : Prop :=
  obstacle ∉ tracker.activeClearedObstacles ∧
    (obstacle ∈ tracker.activeOpportunityObstacles ∨
      obstacle ∈ tracker.observedObstacles ∧ obstacle ∉ due)

/-- No obstacle has been credited more often than offered, and one that may be credited next has
been offered once more. -/
structure Balanced (tracker : DuckClockEvaluationTracker K) (due offered credited :
    List FloorObstacle) : Prop where
  counts : Counts tracker.artifacts offered credited
  bounded : ∀ obstacle, credited.count obstacle ≤ offered.count obstacle
  owed : ∀ obstacle, IsOpen tracker due obstacle →
    credited.count obstacle + 1 ≤ offered.count obstacle

theorem Balanced.clears_le {due offered credited : List FloorObstacle}
    (balanced : Balanced tracker due offered credited) :
    tracker.artifacts.hurdleClears ≤ tracker.artifacts.hurdleOpportunities ∧
      tracker.artifacts.pitClears ≤ tracker.artifacts.pitOpportunities := by
  have among : credited.Subperm offered :=
    List.subperm_ext_iff.mpr fun obstacle _ => balanced.bounded obstacle
  constructor
  · rw [balanced.counts.hurdleClears, balanced.counts.hurdleOpportunities]
    exact among.countP_le _
  · rw [balanced.counts.pitClears, balanced.counts.pitOpportunities]
    exact among.countP_le _

theorem Balanced.of_fewer {before after : DuckClockEvaluationTracker K}
    {due due' offered credited : List FloorObstacle}
    (balanced : Balanced before due offered credited)
    (counts : Counts after.artifacts offered credited)
    (fewer : ∀ obstacle, IsOpen after due' obstacle → IsOpen before due obstacle) :
    Balanced after due' offered credited :=
  ⟨counts, balanced.bounded, fun obstacle opened => balanced.owed obstacle (fewer obstacle opened)⟩

theorem Balanced.offer {due offered credited : List FloorObstacle}
    (balanced : Balanced tracker (obstacle :: due) offered credited) :
    ∃ offered', Balanced (offerObstacle tracker obstacle) due offered' credited := by
  unfold offerObstacle
  split
  case isTrue known =>
    refine ⟨offered, balanced.of_fewer balanced.counts ?_⟩
    intro other opened
    obtain ⟨uncredited, active | ⟨observed, later⟩⟩ := opened
    · exact ⟨uncredited, .inl active⟩
    · refine ⟨uncredited, ?_⟩
      by_cases same : other = obstacle
      · exact .inl (same ▸ known)
      · exact .inr ⟨observed, fun member => later ((List.mem_cons.mp member).resolve_left same)⟩
  case isFalse fresh =>
    refine ⟨obstacle :: offered, balanced.counts.offer obstacle, ?_, ?_⟩
    · intro other
      exact (balanced.bounded other).trans (List.count_le_count_cons)
    · intro other opened
      by_cases same : other = obstacle
      · subst same
        rw [List.count_cons_self]
        exact Nat.succ_le_succ (balanced.bounded other)
      · rw [List.count_cons_of_ne (Ne.symm same)]
        apply balanced.owed other
        obtain ⟨uncredited, active | ⟨observed, later⟩⟩ := opened
        · refine ⟨uncredited, .inl ((List.mem_append.mp active).resolve_right ?_)⟩
          exact fun last => same (List.mem_singleton.mp last)
        · exact ⟨uncredited, .inr ⟨observed, fun member =>
            later ((List.mem_cons.mp member).resolve_left same)⟩⟩

theorem Balanced.offers (balanced : Balanced tracker obstacles offered credited) :
    ∃ offered', Balanced (obstacles.foldl offerObstacle tracker) [] offered' credited := by
  induction obstacles generalizing tracker offered with
  | nil => exact ⟨offered, balanced⟩
  | cons obstacle obstacles ih =>
      obtain ⟨offered', rest⟩ := balanced.offer
      exact ih rest

theorem Balanced.credit (balanced : Balanced tracker [] offered credited)
    (jumpAttempt : JumpAttempt) (landingCell : Vector2i)
    (observed : obstacle ∈ tracker.observedObstacles) :
    ∃ credited', Balanced (creditObstacle jumpAttempt landingCell tracker obstacle) [] offered
      credited' := by
  unfold creditObstacle
  split
  · exact ⟨credited, balanced⟩
  · split
    · exact ⟨credited, balanced⟩
    · rename_i fresh
      have owed := balanced.owed obstacle ⟨fresh, .inr ⟨observed, List.not_mem_nil⟩⟩
      refine ⟨obstacle :: credited, balanced.counts.credit obstacle, ?_, ?_⟩
      · intro other
        by_cases same : other = obstacle
        · subst same
          rw [List.count_cons_self]
          exact owed
        · rw [List.count_cons_of_ne (Ne.symm same)]
          exact balanced.bounded other
      · intro other opened
        obtain ⟨uncredited, rest⟩ := opened
        have apart : other ≠ obstacle := by
          intro same
          exact uncredited (List.mem_append_right _ (List.mem_singleton.mpr same))
        rw [List.count_cons_of_ne (Ne.symm apart)]
        exact balanced.owed other
          ⟨fun member => uncredited (List.mem_append_left _ member), rest⟩

end

section

variable {tracker : DuckClockEvaluationTracker K} {offered credited : List FloorObstacle}

/-! ## Frames -/

theorem creditObstacle_jumpAttempt (jumpAttempt : JumpAttempt) (landingCell : Vector2i)
    (tracker : DuckClockEvaluationTracker K) (obstacle : FloorObstacle) :
    (creditObstacle jumpAttempt landingCell tracker obstacle).jumpAttempt =
      tracker.jumpAttempt := by
  unfold creditObstacle
  split
  · rfl
  · split <;> rfl

theorem Balanced.credits (balanced : Balanced tracker [] offered credited)
    (jumpAttempt : JumpAttempt) (landingCell : Vector2i)
    (observed : ∀ obstacle ∈ obstacles, obstacle ∈ tracker.observedObstacles) :
    ∃ credited', Balanced (obstacles.foldl (creditObstacle jumpAttempt landingCell) tracker) []
      offered credited' := by
  induction obstacles generalizing tracker credited with
  | nil => exact ⟨credited, balanced⟩
  | cons obstacle obstacles ih =>
      obtain ⟨credited', rest⟩ :=
        balanced.credit jumpAttempt landingCell (observed obstacle List.mem_cons_self)
      apply ih rest
      intro other later
      rw [observedObstacles, creditObstacle_jumpAttempt]
      exact observed other (List.mem_cons_of_mem _ later)

theorem Balanced.endJump (balanced : Balanced tracker [] offered credited) :
    Balanced { tracker with jumpAttempt := none } [] offered credited := by
  refine ⟨balanced.counts, balanced.bounded, ?_⟩
  intro obstacle opened
  apply balanced.owed obstacle
  obtain ⟨uncredited, active | ⟨observed, _⟩⟩ := opened
  · exact ⟨uncredited, .inl active⟩
  · exact absurd observed List.not_mem_nil

theorem Balanced.finalizeJumpAttempt (balanced : Balanced tracker [] offered credited)
    (landingCell : Vector2i) :
    ∃ credited', Balanced (tracker.finalizeJumpAttempt landingCell) [] offered credited' := by
  unfold DuckClockEvaluationTracker.finalizeJumpAttempt
  split
  · exact ⟨credited, balanced⟩
  · rename_i jumpAttempt jumping
    have observed : ∀ obstacle ∈ jumpAttempt.observedObstacles,
        obstacle ∈ tracker.observedObstacles := by
      intro obstacle member
      rw [observedObstacles, jumping]
      exact member
    obtain ⟨credited', landed⟩ := balanced.credits jumpAttempt landingCell observed
    exact ⟨credited', landed.endJump⟩

theorem mem_recordObservedObstacles {observed obstacles : List FloorObstacle}
    (member : obstacle ∈ recordObservedObstacles observed obstacles) :
    obstacle ∈ observed ∨ obstacle ∈ obstacles := by
  unfold recordObservedObstacles at member
  induction obstacles generalizing observed with
  | nil => exact .inl member
  | cons first obstacles ih =>
      rcases ih member with known | later
      · dsimp only at known
        split at known
        · exact .inl known
        · rcases List.mem_append.mp known with before | last
          · exact .inl before
          · exact .inr (List.mem_cons.mpr (.inl (List.mem_singleton.mp last)))
      · exact .inr (List.mem_cons_of_mem _ later)

theorem Balanced.observe (balanced : Balanced tracker [] offered credited)
    (jumpAttempt : Option JumpAttempt)
    (observed : ∀ obstacle ∈ { tracker with jumpAttempt := jumpAttempt }.observedObstacles,
      obstacle ∈ tracker.observedObstacles ∨ obstacle ∈ tracker.activeOpportunityObstacles) :
    Balanced { tracker with jumpAttempt := jumpAttempt } [] offered credited := by
  refine ⟨balanced.counts, balanced.bounded, ?_⟩
  intro obstacle opened
  apply balanced.owed obstacle
  obtain ⟨uncredited, active | ⟨seen, _⟩⟩ := opened
  · exact ⟨uncredited, .inl active⟩
  · rcases observed obstacle seen with before | active
    · exact ⟨uncredited, .inr ⟨before, List.not_mem_nil⟩⟩
    · exact ⟨uncredited, .inl active⟩

section

variable (balanced : Balanced tracker [] offered credited) (frame : DuckClockTrackerFrame)
  (active : ∀ obstacle ∈ frame.obstacles, obstacle ∈ tracker.activeOpportunityObstacles)
include balanced frame active

theorem Balanced.updateJump :
    ∃ credited', Balanced (tracker.updateJump frame) [] offered credited' := by
  have continued : Balanced
      { tracker with
        jumpAttempt :=
          tracker.jumpAttempt.map fun jumpAttempt => continueJump jumpAttempt frame }
      [] offered credited := by
    apply balanced.observe
    intro obstacle member
    unfold observedObstacles at member ⊢
    dsimp only at member
    cases jumping : tracker.jumpAttempt with
    | none =>
        rw [jumping] at member
        exact absurd member List.not_mem_nil
    | some jumpAttempt =>
        rw [jumping] at member
        exact (mem_recordObservedObstacles member).imp_right (active obstacle)
  unfold DuckClockEvaluationTracker.updateJump
  split
  · refine ⟨credited, balanced.observe _ ?_⟩
    intro obstacle member
    rcases mem_recordObservedObstacles member with before | seen
    · exact absurd before List.not_mem_nil
    · exact .inr (active obstacle seen)
  · split
    · exact ⟨credited, continued⟩
    · split
      · exact continued.finalizeJumpAttempt frame.duckAnchorCell
      · exact ⟨credited, balanced⟩

theorem Balanced.updateGroundContact :
    ∃ credited', Balanced (tracker.updateGroundContact frame) [] offered credited' := by
  unfold DuckClockEvaluationTracker.updateGroundContact
  split
  · exact ⟨credited, balanced.counts, balanced.bounded, balanced.owed⟩
  · obtain ⟨credited', jumped⟩ := balanced.updateJump frame active
    exact ⟨credited', jumped.counts, jumped.bounded, jumped.owed⟩

end

theorem mem_offerObstacle {obstacle other : FloorObstacle}
    (active : other = obstacle ∨ other ∈ tracker.activeOpportunityObstacles) :
    other ∈ (offerObstacle tracker obstacle).activeOpportunityObstacles := by
  unfold offerObstacle
  split
  case isTrue known =>
    rcases active with same | active
    · exact same ▸ known
    · exact active
  case isFalse =>
    rcases active with same | active
    · exact List.mem_append_right _ (List.mem_singleton.mpr same)
    · exact List.mem_append_left _ active

theorem mem_offers {other : FloorObstacle}
    (active : other ∈ obstacles ∨ other ∈ tracker.activeOpportunityObstacles) :
    other ∈ (obstacles.foldl offerObstacle tracker).activeOpportunityObstacles := by
  induction obstacles generalizing tracker with
  | nil => exact active.resolve_left List.not_mem_nil
  | cons obstacle obstacles ih =>
      apply ih
      rcases active with member | active
      · rcases List.mem_cons.mp member with same | later
        · exact .inr (mem_offerObstacle (.inl same))
        · exact .inl later
      · exact .inr (mem_offerObstacle (.inr active))

/-- The tracker still knows in this frame what it has credited, as far as a jump may credit it
again. -/
def RemembersCredits (tracker : DuckClockEvaluationTracker K) (frame : DuckClockTrackerFrame) :
    Prop :=
  ∀ obstacle ∈ tracker.observedObstacles, obstacle ∈ tracker.activeClearedObstacles →
    obstacle ∈ frame.obstacles

/-- At the end of a lap all obstacles are forgotten, otherwise none. -/
structure SameOrForgotten (before after : DuckClockEvaluationTracker K) : Prop where
  counts : ∀ offered credited, Counts before.artifacts offered credited →
    Counts after.artifacts offered credited
  jumpAttempt : after.jumpAttempt = before.jumpAttempt
  obstacles :
    after.activeClearedObstacles = before.activeClearedObstacles ∧
        after.activeOpportunityObstacles = before.activeOpportunityObstacles ∨
      after.activeOpportunityObstacles = []

theorem Balanced.cleanup {before after : DuckClockEvaluationTracker K}
    (balanced : Balanced before [] offered credited) (same : SameOrForgotten before after)
    {frame : DuckClockTrackerFrame} (remembers : RemembersCredits before frame) :
    Balanced (after.cleanupInactiveObstacleOpportunities frame.obstacles) frame.obstacles offered
      credited := by
  refine ⟨same.counts _ _ balanced.counts, balanced.bounded, ?_⟩
  intro obstacle opened
  apply balanced.owed obstacle
  obtain ⟨uncredited, active | ⟨observed, absent⟩⟩ := opened
  · obtain ⟨active, present⟩ := List.mem_filter.mp active
    rcases same.obstacles with ⟨cleared, offers⟩ | forgotten
    · refine ⟨fun member => ?_, .inl (offers ▸ active)⟩
      exact uncredited (List.mem_filter.mpr ⟨cleared ▸ member, present⟩)
    · rw [forgotten] at active
      exact absurd active List.not_mem_nil
  · have seen : obstacle ∈ before.observedObstacles := by
      rw [observedObstacles, ← same.jumpAttempt]
      exact observed
    exact ⟨fun member => absent (remembers obstacle seen member),
      .inr ⟨seen, List.not_mem_nil⟩⟩

end

section

/-! ## Runs -/

variable [Field K] [LinearOrder K]

omit [LinearOrder K] in
theorem sameOrForgotten_updateTraversalState (tracker : DuckClockEvaluationTracker K)
    (frame : DuckClockTrackerFrame) :
    SameOrForgotten tracker (tracker.updateTraversalState frame) := by
  have counts (artifacts : DuckClockEvaluationArtifacts K) (full leftTouches rightTouches : ℕ)
      (progress : K) (offered credited : List FloorObstacle)
      (before : Counts artifacts offered credited) :
      Counts
        { artifacts with
          fullTraversals := full, leftWallTouches := leftTouches
          rightWallTouches := rightTouches, traversalProgress := progress }
        offered credited :=
    ⟨before.1, before.2, before.3, before.4⟩
  unfold updateTraversalState touchWall
  dsimp only
  split
  · exact ⟨fun _ _ same => same, rfl, .inl ⟨rfl, rfl⟩⟩
  · split
    · split
      · exact ⟨counts _ _ _ _ _, rfl, .inr rfl⟩
      · exact ⟨counts _ _ _ _ _, rfl, .inl ⟨rfl, rfl⟩⟩
    · split
      · exact ⟨counts _ _ _ _ _, rfl, .inr rfl⟩
      · exact ⟨counts _ _ _ _ _, rfl, .inl ⟨rfl, rfl⟩⟩
    · exact ⟨fun _ _ same => same, rfl, .inl ⟨rfl, rfl⟩⟩

/-- **A frame keeps the books in balance.** -/
theorem Balanced.update {tracker : DuckClockEvaluationTracker K}
    {offered credited : List FloorObstacle} (balanced : Balanced tracker [] offered credited)
    {frame : DuckClockTrackerFrame} (remembers : RemembersCredits tracker frame) :
    ∃ offered' credited', Balanced (tracker.update frame) [] offered' credited' := by
  have moved := sameOrForgotten_updateTraversalState tracker frame
  have progressed : SameOrForgotten tracker
      ((tracker.updateTraversalState frame).updateTraversalProgress frame) := by
    refine ⟨?_, moved.jumpAttempt, moved.obstacles⟩
    intro offered credited before
    have after := moved.counts offered credited before
    exact ⟨after.1, after.2, after.3, after.4⟩
  obtain ⟨offered', offers⟩ := (balanced.cleanup progressed remembers).offers
  obtain ⟨credited', contacted⟩ := offers.updateGroundContact frame
    (fun obstacle present => mem_offers (.inl present))
  exact ⟨offered', credited', contacted⟩

/-- In each frame the tracker still knows the credits that a jump may give again. -/
def AlwaysRemembers (tracker : DuckClockEvaluationTracker K) : List DuckClockTrackerFrame → Prop
  | [] => True
  | frame :: frames =>
      RemembersCredits tracker frame ∧ AlwaysRemembers (tracker.update frame) frames

theorem Balanced.updates {frames : List DuckClockTrackerFrame}
    {tracker : DuckClockEvaluationTracker K} {offered credited : List FloorObstacle}
    (balanced : Balanced tracker [] offered credited)
    (remembers : AlwaysRemembers tracker frames) :
    ∃ offered' credited',
      Balanced (frames.foldl DuckClockEvaluationTracker.update tracker) [] offered' credited' := by
  induction frames generalizing tracker offered credited with
  | nil => exact ⟨offered, credited, balanced⟩
  | cons frame frames ih =>
      obtain ⟨offered', credited', next⟩ := balanced.update remembers.1
      exact ih next remembers.2

omit [LinearOrder K] in
theorem balanced_reset : Balanced (reset : DuckClockEvaluationTracker K) [] [] [] := by
  refine ⟨⟨rfl, rfl, rfl, rfl⟩, fun _ => le_rfl, ?_⟩
  intro obstacle opened
  obtain ⟨_, active | ⟨observed, _⟩⟩ := opened
  · exact absurd active List.not_mem_nil
  · exact absurd observed List.not_mem_nil

variable [IsStrictOrderedRing K]

/-- **What the tracker of a run tells.** Its progress never falls, the full traversals are the
changes between the walls and the progress is less than one lap ahead of them. While it remembers
its credits, there are no more of them than offers. -/
theorem track_tells (frames : List DuckClockTrackerFrame) (frame : DuckClockTrackerFrame) :
    let artifacts := (track frames : DuckClockEvaluationTracker K).artifacts
    (AlwaysRemembers (reset : DuckClockEvaluationTracker K) frames →
        artifacts.hurdleClears ≤ artifacts.hurdleOpportunities ∧
          artifacts.pitClears ≤ artifacts.pitOpportunities) ∧
      (artifacts.fullTraversals : K) ≤ artifacts.traversalProgress ∧
      artifacts.traversalProgress ≤ (artifacts.fullTraversals : K) + 1 ∧
      artifacts.traversalProgress ≤
        (track (frames ++ [frame]) : DuckClockEvaluationTracker K).artifacts.traversalProgress ∧
      artifacts.fullTraversals = alternations (touchedWalls frames) := by
  obtain ⟨inLap, shown⟩ := inLap_track (K := K) frames
  obtain ⟨_, further, next⟩ := inLap.update frame
  refine ⟨?_, ?_, ?_, ?_, inLap.traversals⟩
  · intro remembers
    obtain ⟨_, _, balanced⟩ := balanced_reset.updates remembers
    exact balanced.clears_le
  · rw [shown, distanceRun]
    exact le_add_of_nonneg_right inLap.nonneg
  · rw [shown, distanceRun]
    exact add_le_add_right inLap.le_one _
  · rw [shown]
    have after : track (frames ++ [frame]) = (track frames : DuckClockEvaluationTracker K).update
        frame := List.foldl_concat _ _ _ _
    rw [after, next]
    exact further

def hurdle : FloorObstacle := ⟨8, 2, .hurdle⟩

def jumpOver : List DuckClockTrackerFrame :=
  [⟨20, ⟨5, 10⟩, true, [hurdle]⟩, ⟨20, ⟨6, 8⟩, false, [hurdle]⟩, ⟨20, ⟨12, 10⟩, true, [hurdle]⟩]

theorem track_tells_jump :
    let artifacts := (track jumpOver : DuckClockEvaluationTracker ℚ).artifacts
    (artifacts.hurdleClears ≤ artifacts.hurdleOpportunities ∧
        artifacts.pitClears ≤ artifacts.pitOpportunities) ∧
      (artifacts.fullTraversals : ℚ) ≤ artifacts.traversalProgress := by
  have told := track_tells (K := ℚ) jumpOver ⟨20, ⟨11, 8⟩, false, [hurdle]⟩
  refine ⟨told.1 ?_, told.2.1⟩
  refine ⟨?_, ?_, ?_, trivial⟩
  all_goals
    intro obstacle _ credited
    exact absurd credited List.not_mem_nil

/-- In a jump back over a hurdle that disappears meanwhile it is credited a second time. -/
theorem not_clears_le_opportunities :
    let frames := jumpOver ++
      [⟨20, ⟨11, 8⟩, false, [hurdle]⟩, ⟨20, ⟨9, 8⟩, false, []⟩, ⟨20, ⟨5, 10⟩, true, []⟩]
    (∀ frame ∈ frames, 6 ≤ frame.worldWidth) ∧
      (track frames : DuckClockEvaluationTracker ℚ).artifacts.hurdleClears = 2 ∧
        (track frames : DuckClockEvaluationTracker ℚ).artifacts.hurdleOpportunities = 1 := by
  refine ⟨by decide, ?_, ?_⟩
  · rfl
  · rfl

end

end DuckClockEvaluationTracker

end DirtSim
