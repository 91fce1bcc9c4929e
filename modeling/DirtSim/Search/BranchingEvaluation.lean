import DirtSim.Search.SmbDfsSearch

/-! # Evaluating along branches

The search evaluates every child with a fresh evaluator, restored from what was recorded at the
parent. This agrees with one evaluator for the whole game as long as each node continued from was in
gameplay and no child loses a life without dying.
-/

namespace DirtSim

namespace NesSuperMarioBrosEvaluator

/-- What `evaluate` returns. The rewards of a step are what it adds to the totals. -/
structure Output where
  done : Bool
  rewardDelta : ℚ
  distanceRewardDelta : ℚ
  levelClearRewardDelta : ℚ
  endReason : SmbEpisodeEndReason
  snapshot : NesSuperMarioBrosFitnessSnapshot

/-- A result of the evaluator and what the search records of it. -/
structure Scored where
  output : Output
  summary : SmbSearchEvaluatorSummary

def score (evaluator : NesSuperMarioBrosEvaluator) (input : NesSuperMarioBrosEvaluatorInput) :
    Scored :=
  let result := evaluator.evaluate input
  let distanceRewardDelta := result.1.distanceRewardTotal - evaluator.distanceRewardTotal
  let levelClearRewardDelta := result.1.levelClearRewardTotal - evaluator.levelClearRewardTotal
  { output := {
      done := result.2.done
      rewardDelta := levelClearRewardDelta + distanceRewardDelta
      distanceRewardDelta := distanceRewardDelta
      levelClearRewardDelta := levelClearRewardDelta
      endReason := result.2.endReason
      snapshot := result.2 }
    summary := buildSmbSearchEvaluatorSummary result.2
      (if input.state.phase = .gameplay then some 1 else some 0) }

def play : NesSuperMarioBrosEvaluator → List NesSuperMarioBrosEvaluatorInput → List Scored
  | _, [] => []
  | evaluator, input :: inputs =>
      evaluator.score input :: play (evaluator.evaluate input).1 inputs

def lastRecorded (recorded : SmbSearchEvaluatorSummary) (results : List Scored) :
    SmbSearchEvaluatorSummary :=
  (results.getLast?.map Scored.summary).getD recorded

/-- Each segment is seen by a fresh evaluator, restored from the progress recorded last. -/
def branch : SmbSearchEvaluatorSummary → List (List NesSuperMarioBrosEvaluatorInput) → List Scored
  | _, [] => []
  | recorded, segment :: segments =>
      let results := (restoredEvaluator recorded).play segment
      results ++ branch (lastRecorded recorded results) segments

def unrecorded : SmbSearchEvaluatorSummary where
  bestFrontier := 0
  gameplayFrames := 0
  gameplayFramesSinceProgress := 0
  distanceRewardTotal := 0
  endReason := .none
  evaluationScore := 0
  levelClearRewardTotal := 0
  gameState := none
  terminal := false

/-- The sample ends the game for a player who has made progress. -/
def Ends (state : NesSuperMarioBrosState) : Prop :=
  state.gameMode = .endGame ∨ state.lifeState ≠ .alive

instance (state : NesSuperMarioBrosState) : Decidable (Ends state) :=
  inferInstanceAs (Decidable (_ ∨ _))

def Counts (evaluator : NesSuperMarioBrosEvaluator) (state : NesSuperMarioBrosState) : Prop :=
  state.phase = .gameplay ∨ (evaluator.hasBestProgress = true ∧ Ends state)

def forgetLives (evaluator : NesSuperMarioBrosEvaluator) : NesSuperMarioBrosEvaluator :=
  { evaluator with hasLastLives := false, lastLives := 0 }

/-- A life is lost although the player is alive and the game goes on. -/
def Drops (evaluator : NesSuperMarioBrosEvaluator) (state : NesSuperMarioBrosState) : Prop :=
  evaluator.hasLastLives = true ∧ state.lives < evaluator.lastLives ∧ ¬ Ends state

section

variable {evaluator : NesSuperMarioBrosEvaluator} {input : NesSuperMarioBrosEvaluatorInput}

theorem evaluate_of_not_counts (ignored : ¬ evaluator.Counts input.state) :
    evaluator.evaluate input = (evaluator, evaluator.makeSnapshot .none false) := by
  obtain ⟨phase, ends⟩ := not_or.mp ignored
  rw [evaluate]
  rw [if_pos ⟨phase, ends⟩]

theorem evaluate_of_counts (counts : evaluator.Counts input.state) :
    evaluator.evaluate input =
      (let counted := evaluator.countFrames input
      let lived := { counted with hasLastLives := true, lastLives := input.state.lives }
      if counted.hasLastLives ∧ input.state.lives < counted.lastLives then
        (lived, lived.makeSnapshot .lifeLost true)
      else if Ends input.state then (lived, lived.makeSnapshot .lifeLost true)
      else
        let progressed := (lived.clearLevels input.state).coverDistance input.state
        let endReason := progressed.endReasonAlive input.state
        (progressed, progressed.makeSnapshot endReason (endReason ≠ .none))) := by
  have looked : ¬ (input.state.phase ≠ .gameplay ∧ ¬ (evaluator.hasBestProgress = true ∧
      (input.state.gameMode = .endGame ∨ input.state.lifeState ≠ .alive))) := by
    rintro ⟨phase, ends⟩
    exact counts.elim phase ends
  rw [evaluate]
  rw [if_neg looked]
  rfl

theorem countFrames_forgetLives (evaluator : NesSuperMarioBrosEvaluator)
    (input : NesSuperMarioBrosEvaluatorInput) :
    evaluator.forgetLives.countFrames input = (evaluator.countFrames input).forgetLives := by
  cases started : evaluator.hasBestProgress <;> simp [countFrames, forgetLives, started]

theorem countFrames_lives (evaluator : NesSuperMarioBrosEvaluator)
    (input : NesSuperMarioBrosEvaluatorInput) :
    (evaluator.countFrames input).hasLastLives = evaluator.hasLastLives ∧
      (evaluator.countFrames input).lastLives = evaluator.lastLives := by
  cases started : evaluator.hasBestProgress <;> simp [countFrames, started]

theorem countFrames_started (evaluator : NesSuperMarioBrosEvaluator)
    (input : NesSuperMarioBrosEvaluatorInput) :
    (evaluator.countFrames input).hasBestProgress = true ∧
      (evaluator.countFrames input).gameplayFrameCount =
        evaluator.gameplayFrameCount + input.advancedFrames := by
  cases started : evaluator.hasBestProgress <;> simp [countFrames, started]

theorem evaluate_forgetLives (counts : evaluator.Counts input.state)
    (keeps : ¬ evaluator.Drops input.state) :
    evaluator.forgetLives.evaluate input = evaluator.evaluate input := by
  have forgotCounts : evaluator.forgetLives.Counts input.state := counts
  obtain ⟨hasLastLives, lastLives⟩ := evaluator.countFrames_lives input
  rw [evaluate_of_counts counts, evaluate_of_counts forgotCounts, countFrames_forgetLives]
  dsimp only [forgetLives]
  rw [if_neg fun known => Bool.noConfusion known.1, hasLastLives, lastLives]
  by_cases ends : Ends input.state
  · rw [if_pos ends]
    exact (ite_self _).symm
  · rw [if_neg ends, if_neg fun drop => keeps ⟨drop.1, drop.2, ends⟩]

theorem endReasonAlive_ne (evaluator : NesSuperMarioBrosEvaluator)
    (state : NesSuperMarioBrosState) : evaluator.endReasonAlive state ≠ .lifeLost := by
  rw [endReasonAlive]
  split
  · exact SmbEpisodeEndReason.noConfusion
  · split <;> exact SmbEpisodeEndReason.noConfusion

theorem score_forgetLives_ne (counts : evaluator.Counts input.state)
    (drops : evaluator.Drops input.state) :
    evaluator.forgetLives.score input ≠ evaluator.score input := by
  have forgotCounts : evaluator.forgetLives.Counts input.state := counts
  obtain ⟨hasLastLives, lastLives⟩ := evaluator.countFrames_lives input
  have remembered : (evaluator.evaluate input).2.endReason = .lifeLost := by
    rw [evaluate_of_counts counts]
    dsimp only
    rw [hasLastLives, lastLives, if_pos ⟨drops.1, drops.2.1⟩]
    rfl
  have forgotten : (evaluator.forgetLives.evaluate input).2.endReason ≠ .lifeLost := by
    rw [evaluate_of_counts forgotCounts, countFrames_forgetLives]
    dsimp only [forgetLives]
    rw [if_neg fun known => Bool.noConfusion known.1, if_neg drops.2.2]
    exact endReasonAlive_ne _ _
  intro same
  have reasons := congrArg (fun scored => scored.output.endReason) same
  exact forgotten (reasons.trans remembered)

theorem exists_makeSnapshot (evaluator : NesSuperMarioBrosEvaluator)
    (input : NesSuperMarioBrosEvaluatorInput) : ∃ endReason done,
    (evaluator.evaluate input).2 = (evaluator.evaluate input).1.makeSnapshot endReason done := by
  by_cases counts : evaluator.Counts input.state
  · rw [evaluate_of_counts counts]
    dsimp only
    split
    · exact ⟨_, _, rfl⟩
    · split <;> exact ⟨_, _, rfl⟩
  · rw [evaluate_of_not_counts counts]
    exact ⟨_, _, rfl⟩

theorem progress_keeps (evaluator : NesSuperMarioBrosEvaluator) (state : NesSuperMarioBrosState) :
    ((evaluator.clearLevels state).coverDistance state).hasBestProgress =
        evaluator.hasBestProgress ∧
      ((evaluator.clearLevels state).coverDistance state).gameplayFrameCount =
        evaluator.gameplayFrameCount ∧
      ((evaluator.clearLevels state).coverDistance state).hasLastLives = evaluator.hasLastLives ∧
      ((evaluator.clearLevels state).coverDistance state).lastLives = evaluator.lastLives := by
  rw [clearLevels, coverDistance]
  split <;> split <;> exact ⟨rfl, rfl, rfl, rfl⟩

theorem evaluate_counted (counts : evaluator.Counts input.state) :
    (evaluator.evaluate input).1.hasBestProgress = true ∧
      (evaluator.evaluate input).1.gameplayFrameCount =
        evaluator.gameplayFrameCount + input.advancedFrames ∧
      (evaluator.evaluate input).1.hasLastLives = true ∧
      (evaluator.evaluate input).1.lastLives = input.state.lives := by
  obtain ⟨started, frames⟩ := evaluator.countFrames_started input
  rw [evaluate_of_counts counts]
  dsimp only
  split
  · exact ⟨started, frames, rfl, rfl⟩
  · split
    · exact ⟨started, frames, rfl, rfl⟩
    · obtain ⟨best, count, known, lives⟩ := progress_keeps
        { evaluator.countFrames input with hasLastLives := true, lastLives := input.state.lives }
        input.state
      exact ⟨best.trans started, count.trans frames, known, lives⟩

/-- The record of progress is no later than now, and its stage is one that a sample can name. -/
structure Dated (evaluator : NesSuperMarioBrosEvaluator) : Prop where
  progressed : evaluator.lastProgressFrame ≤ evaluator.gameplayFrameCount
  stage : evaluator.bestStageIndex < 4294967296

theorem getStageIndex_lt (state : NesSuperMarioBrosState) : getStageIndex state < 4294967296 := by
  have world := state.world.toNat_lt
  have level := state.level.toNat_lt
  simp only [getStageIndex, kLevelsPerWorld]
  omega

theorem Dated.countFrames (dated : evaluator.Dated) (input : NesSuperMarioBrosEvaluatorInput) :
    (evaluator.countFrames input).Dated := by
  obtain ⟨progressed, stage⟩ := dated
  rw [NesSuperMarioBrosEvaluator.countFrames]
  split
  · exact ⟨progressed.trans (Nat.le_add_right _ _), stage⟩
  · exact ⟨le_refl _, getStageIndex_lt input.state⟩

theorem Dated.progress (dated : evaluator.Dated) (state : NesSuperMarioBrosState) :
    ((evaluator.clearLevels state).coverDistance state).Dated := by
  obtain ⟨progressed, stage⟩ := dated
  rw [clearLevels, coverDistance]
  split <;> split
  · exact ⟨le_refl _, getStageIndex_lt state⟩
  · exact ⟨le_refl _, getStageIndex_lt state⟩
  · exact ⟨le_refl _, stage⟩
  · exact ⟨progressed, stage⟩

theorem Dated.evaluate (dated : evaluator.Dated) (input : NesSuperMarioBrosEvaluatorInput) :
    (evaluator.evaluate input).1.Dated := by
  by_cases counts : evaluator.Counts input.state
  · have counted := dated.countFrames input
    have lived : Dated { evaluator.countFrames input with
        hasLastLives := true, lastLives := input.state.lives } := ⟨counted.1, counted.2⟩
    rw [evaluate_of_counts counts]
    dsimp only
    split
    · exact lived
    · split
      · exact lived
      · exact lived.progress input.state
  · rw [evaluate_of_not_counts counts]
    exact dated

theorem decode_encodeSmbFrontier {stageIndex : ℕ} (bound : stageIndex < 4294967296)
    (absoluteX : UInt16) :
    decodeSmbStageIndex (encodeSmbFrontier stageIndex absoluteX) = stageIndex ∧
      decodeSmbAbsoluteX (encodeSmbFrontier stageIndex absoluteX) = absoluteX := by
  have position := absoluteX.toNat_lt
  constructor
  · simp only [decodeSmbStageIndex, encodeSmbFrontier]
    omega
  · apply UInt16.toNat_inj.mp
    simp only [decodeSmbAbsoluteX, encodeSmbFrontier, UInt16.toNat_ofNat']
    omega

theorem restoredEvaluator_recorded (dated : evaluator.Dated)
    (started : evaluator.hasBestProgress = true) (endReason : SmbEpisodeEndReason) (done : Bool) :
    restoredEvaluator (buildSmbSearchEvaluatorSummary (evaluator.makeSnapshot endReason done)
      (some 1)) = evaluator.forgetLives := by
  obtain ⟨progressed, stage⟩ := dated
  obtain ⟨stageIndex, absoluteX⟩ := decode_encodeSmbFrontier stage evaluator.bestAbsoluteX
  simp [restoredEvaluator, buildSmbSearchEvaluatorSummary, makeSnapshot, restoreProgress,
    stageIndex, absoluteX, forgetLives, started, Nat.sub_sub_self progressed]

end

section

/-! ## What is known after some samples -/

def Seen (past : List NesSuperMarioBrosEvaluatorInput) : Prop :=
  ∃ input ∈ past, input.state.phase = .gameplay

/-- The evaluator of a continuous player, and what was recorded of it, after some samples. -/
structure Follows (past : List NesSuperMarioBrosEvaluatorInput)
    (evaluator : NesSuperMarioBrosEvaluator) (recorded : SmbSearchEvaluatorSummary) : Prop where
  dated : evaluator.Dated
  unseen : ¬ Seen past → evaluator = {}
  seen : Seen past → evaluator.hasBestProgress = true ∧ 0 < evaluator.gameplayFrameCount
  plays : ∀ last, past.getLast? = some last → last.state.phase = .gameplay →
    evaluator.hasLastLives = true ∧ evaluator.lastLives = last.state.lives ∧
      restoredEvaluator recorded = evaluator.forgetLives
  stops : (∀ last, past.getLast? = some last → last.state.phase ≠ .gameplay) →
    restoredEvaluator recorded = {}

theorem follows_nil : Follows [] {} unrecorded where
  dated := ⟨le_refl 0, by decide⟩
  unseen _ := rfl
  seen seen := by
    obtain ⟨_, member, _⟩ := seen
    cases member
  plays _ last := by cases last
  stops _ := rfl

variable {past : List NesSuperMarioBrosEvaluatorInput} {evaluator : NesSuperMarioBrosEvaluator}
  {recorded : SmbSearchEvaluatorSummary} {input : NesSuperMarioBrosEvaluatorInput}

theorem seen_snoc : Seen (past ++ [input]) ↔ Seen past ∨ input.state.phase = .gameplay := by
  simp only [Seen, List.mem_append, List.mem_singleton]
  constructor
  · rintro ⟨other, among | rfl, plays⟩
    · exact Or.inl ⟨other, among, plays⟩
    · exact Or.inr plays
  · rintro (⟨other, among, plays⟩ | plays)
    · exact ⟨other, Or.inl among, plays⟩
    · exact ⟨input, Or.inr rfl, plays⟩

theorem Follows.snoc (follows : Follows past evaluator recorded)
    (advances : 0 < input.advancedFrames) :
    Follows (past ++ [input]) (evaluator.evaluate input).1 (evaluator.score input).summary where
  dated := follows.dated.evaluate input
  unseen unseen := by
    obtain ⟨before, phase⟩ := not_or.mp (seen_snoc.not.mp unseen)
    have fresh := follows.unseen before
    have ignored : ¬ evaluator.Counts input.state := by
      rw [fresh]
      rintro (plays | started)
      · exact phase plays
      · exact Bool.noConfusion started.1
    rw [evaluate_of_not_counts ignored]
    exact fresh
  seen seen := by
    by_cases counts : evaluator.Counts input.state
    · obtain ⟨started, frames, _⟩ := evaluate_counted counts
      exact ⟨started, by omega⟩
    · have before := (seen_snoc.mp seen).resolve_right fun plays => counts (Or.inl plays)
      rw [evaluate_of_not_counts counts]
      exact follows.seen before
  plays last same plays := by
    rw [List.getLast?_concat, Option.some_inj] at same
    rw [← same] at plays ⊢
    have counts : evaluator.Counts input.state := Or.inl plays
    obtain ⟨started, _, known, lives⟩ := evaluate_counted counts
    obtain ⟨endReason, done, snapshot⟩ := evaluator.exists_makeSnapshot input
    refine ⟨known, lives, ?_⟩
    rw [score]
    rw [if_pos plays, snapshot]
    exact restoredEvaluator_recorded (follows.dated.evaluate input) started endReason done
  stops stops := by
    have phase := stops input List.getLast?_concat
    rw [score]
    rw [if_neg phase]
    rfl

end

section

/-! ## One segment -/

/-- A player who has made progress is told about the sample. -/
def noticed (input : NesSuperMarioBrosEvaluatorInput) : Bool :=
  input.state.phase = .gameplay ∨ Ends input.state

/-- No life is lost at the next sample that is noticed, unless the game ends there anyway. -/
def KeepsLives (lives : UInt8) (rest : List NesSuperMarioBrosEvaluatorInput) : Prop :=
  ∀ next, rest.find? noticed = some next → ¬ Ends next.state →
    lives ≤ next.state.lives

/-- What was recorded after the past carries over to the rest. -/
structure Carries (past rest : List NesSuperMarioBrosEvaluatorInput) : Prop where
  inGameplay : rest ≠ [] → Seen past →
    ∃ last, past.getLast? = some last ∧ last.state.phase = .gameplay
  keepsLives : ∀ last, past.getLast? = some last → last.state.phase = .gameplay →
    KeepsLives last.state.lives rest

variable {past : List NesSuperMarioBrosEvaluatorInput} {evaluator : NesSuperMarioBrosEvaluator}
  {recorded : SmbSearchEvaluatorSummary}

theorem play_forgetLives_iff (started : evaluator.hasBestProgress = true)
    (known : evaluator.hasLastLives = true) (segment : List NesSuperMarioBrosEvaluatorInput) :
    evaluator.forgetLives.play segment = evaluator.play segment ↔
      KeepsLives evaluator.lastLives segment := by
  induction segment with
  | nil => exact iff_of_true rfl fun next found => by cases found
  | cons input segment ih =>
      have noticed : noticed input = true ↔ evaluator.Counts input.state :=
        decide_eq_true_iff.trans (or_congr Iff.rfl (and_iff_right started).symm)
      rw [play, play, KeepsLives]
      by_cases counts : evaluator.Counts input.state
      · rw [List.find?_cons_of_pos (noticed.mpr counts)]
        by_cases drops : evaluator.Drops input.state
        · refine iff_of_false ?_ ?_
          · intro same
            exact score_forgetLives_ne counts drops (List.cons.inj same).1
          · intro keeps
            exact absurd drops.2.1 (UInt8.not_lt.mpr (keeps input rfl drops.2.2))
        · refine iff_of_true ?_ ?_
          · rw [score, score, evaluate_forgetLives counts drops]
            rfl
          · intro next same goesOn
            rw [Option.some_inj] at same
            rw [← same] at goesOn ⊢
            exact UInt8.not_lt.mp fun lost => drops ⟨known, lost, goesOn⟩
      · have forgotIgnores : ¬ evaluator.forgetLives.Counts input.state := counts
        rw [List.find?_cons_of_neg fun found => counts (noticed.mp found),
          score, score, evaluate_of_not_counts counts, evaluate_of_not_counts forgotIgnores]
        exact (List.cons_inj_right _).trans ih

theorem score_empty_ne (frames : 0 < evaluator.gameplayFrameCount)
    (input : NesSuperMarioBrosEvaluatorInput) :
    (({} : NesSuperMarioBrosEvaluator).score input) ≠ evaluator.score input := by
  intro same
  have counts := congrArg (fun scored => scored.output.snapshot.gameplayFrames) same
  simp only [score] at counts
  obtain ⟨_, _, fresh⟩ := ({} : NesSuperMarioBrosEvaluator).exists_makeSnapshot input
  obtain ⟨_, _, far⟩ := evaluator.exists_makeSnapshot input
  rw [fresh, far] at counts
  have fewer : (({} : NesSuperMarioBrosEvaluator).evaluate input).1.gameplayFrameCount <
      (evaluator.evaluate input).1.gameplayFrameCount := by
    by_cases freshCounts : ({} : NesSuperMarioBrosEvaluator).Counts input.state
    · have plays := freshCounts.resolve_right fun known => Bool.noConfusion known.1
      have counts : evaluator.Counts input.state := Or.inl plays
      rw [(evaluate_counted freshCounts).2.1, (evaluate_counted counts).2.1]
      exact Nat.add_lt_add_right frames _
    · rw [evaluate_of_not_counts freshCounts]
      by_cases counts : evaluator.Counts input.state
      · rw [(evaluate_counted counts).2.1]
        exact Nat.add_pos_left frames _
      · rw [evaluate_of_not_counts counts]
        exact frames
  exact absurd counts (ne_of_lt fewer)

theorem Follows.play_iff (follows : Follows past evaluator recorded)
    (segment : List NesSuperMarioBrosEvaluatorInput) :
    (restoredEvaluator recorded).play segment = evaluator.play segment ↔
      Carries past segment := by
  by_cases seen : Seen past
  · obtain ⟨started, frames⟩ := follows.seen seen
    by_cases inGameplay : ∃ last, past.getLast? = some last ∧ last.state.phase = .gameplay
    · obtain ⟨last, same, plays⟩ := inGameplay
      obtain ⟨known, lives, restored⟩ := follows.plays last same plays
      rw [restored, play_forgetLives_iff started known, lives]
      constructor
      · intro keeps
        refine ⟨fun _ _ => ⟨last, same, plays⟩, fun other otherSame _ => ?_⟩
        rw [same, Option.some_inj] at otherSame
        exact otherSame ▸ keeps
      · intro carries
        exact carries.keepsLives last same plays
    · have restored := follows.stops fun last same plays => inGameplay ⟨last, same, plays⟩
      rw [restored]
      cases segment with
      | nil =>
          refine iff_of_true rfl ⟨fun some => absurd rfl some, fun last same plays => ?_⟩
          exact absurd ⟨last, same, plays⟩ inGameplay
      | cons input segment =>
          refine iff_of_false ?_ ?_
          · intro same
            exact score_empty_ne frames input (List.cons.inj same).1
          · intro carries
            exact inGameplay (carries.inGameplay (List.cons_ne_nil _ _) seen)
  · have unplayed : ∀ last, past.getLast? = some last → last.state.phase ≠ .gameplay :=
      fun last same plays => seen ⟨last, List.mem_of_getLast? same, plays⟩
    rw [follows.unseen seen, follows.stops unplayed]
    exact iff_of_true rfl ⟨fun _ some => absurd some seen,
      fun last same plays => absurd plays (unplayed last same)⟩

theorem carries_append_iff {segment rest : List NesSuperMarioBrosEvaluatorInput} :
    Carries past segment ∧ Carries (past ++ segment) rest ↔
      Carries past (segment ++ rest) ∧ Carries (past ++ segment) rest := by
  refine and_congr_left fun later => ⟨fun first => ⟨?_, ?_⟩, fun whole => ⟨?_, ?_⟩⟩
  · intro some seen
    by_cases empty : segment = []
    · rw [empty, List.append_nil] at later
      rw [empty, List.nil_append] at some
      exact later.inGameplay some seen
    · exact first.inGameplay empty seen
  · intro last same plays next found goesOn
    rw [List.find?_append] at found
    cases inSegment : segment.find? noticed with
    | some input =>
        rw [inSegment, Option.some_or] at found
        exact first.keepsLives last same plays next (inSegment.trans found) goesOn
    | none =>
        rw [inSegment, Option.none_or] at found
        by_cases empty : segment = []
        · rw [empty, List.append_nil] at later
          exact later.keepsLives last same plays next found goesOn
        · -- The last sample before the rest is noticed, so it is not in the segment.
          have some : rest ≠ [] := List.ne_nil_of_mem (List.mem_of_find?_eq_some found)
          have seen : Seen (past ++ segment) :=
            ⟨last, List.mem_append_left _ (List.mem_of_getLast? same), plays⟩
          obtain ⟨other, otherSame, otherPlays⟩ := later.inGameplay some seen
          rw [List.getLast?_append_of_ne_nil _ empty] at otherSame
          have unnoticed := List.find?_eq_none.mp inSegment other (List.mem_of_getLast? otherSame)
          exact absurd (decide_eq_true (Or.inl otherPlays)) unnoticed
  · intro some seen
    exact whole.inGameplay (List.append_ne_nil_of_left_ne_nil some rest) seen
  · intro last same plays next found goesOn
    refine whole.keepsLives last same plays next ?_ goesOn
    rw [List.find?_append, found, Option.some_or]


end

section

/-! ## All segments -/

/-- At every split, what was recorded carries over. -/
def SplitsCarry (past : List NesSuperMarioBrosEvaluatorInput)
    (segments : List (List NesSuperMarioBrosEvaluatorInput)) : Prop :=
  ∀ front back, segments = front ++ back → Carries (past ++ front.flatten) back.flatten

variable {past : List NesSuperMarioBrosEvaluatorInput} {evaluator : NesSuperMarioBrosEvaluator}
  {recorded : SmbSearchEvaluatorSummary}

theorem splitsCarry_cons {segment : List NesSuperMarioBrosEvaluatorInput}
    {segments : List (List NesSuperMarioBrosEvaluatorInput)} :
    SplitsCarry past (segment :: segments) ↔
      Carries past (segment ++ segments.flatten) ∧ SplitsCarry (past ++ segment) segments := by
  constructor
  · intro carry
    refine ⟨?_, fun front back same => ?_⟩
    · have first := carry [] (segment :: segments) rfl
      rw [List.flatten_nil, List.append_nil, List.flatten_cons] at first
      exact first
    · have later := carry (segment :: front) back (congrArg (segment :: ·) same)
      rw [List.flatten_cons, ← List.append_assoc] at later
      exact later
  · rintro ⟨first, later⟩ front back same
    cases front with
    | nil =>
        rw [List.nil_append] at same
        rw [List.flatten_nil, List.append_nil, ← same, List.flatten_cons]
        exact first
    | cons head front =>
        obtain ⟨sameHead, rest⟩ := List.cons.inj same
        rw [List.flatten_cons, ← List.append_assoc, ← sameHead]
        exact later front back rest

theorem play_append (evaluator : NesSuperMarioBrosEvaluator)
    (first second : List NesSuperMarioBrosEvaluatorInput) :
    evaluator.play (first ++ second) = evaluator.play first ++
      (first.foldl (fun current input => (current.evaluate input).1) evaluator).play second := by
  induction first generalizing evaluator with
  | nil => rfl
  | cons input first ih => rw [List.cons_append, play, play, ih]; rfl

theorem length_play (evaluator : NesSuperMarioBrosEvaluator)
    (inputs : List NesSuperMarioBrosEvaluatorInput) :
    (evaluator.play inputs).length = inputs.length := by
  induction inputs generalizing evaluator with
  | nil => rfl
  | cons input inputs ih => rw [play, List.length_cons, ih, List.length_cons]

theorem Follows.play (follows : Follows past evaluator recorded)
    (segment : List NesSuperMarioBrosEvaluatorInput)
    (advances : ∀ input ∈ segment, 0 < input.advancedFrames) :
    Follows (past ++ segment)
      (segment.foldl (fun current input => (current.evaluate input).1) evaluator)
      (lastRecorded recorded (evaluator.play segment)) := by
  induction segment generalizing past evaluator recorded with
  | nil =>
      rw [List.append_nil]
      exact follows
  | cons input segment ih =>
      have next := ih (follows.snoc (advances input List.mem_cons_self))
        fun other member => advances other (List.mem_cons_of_mem _ member)
      rw [List.append_assoc, List.singleton_append] at next
      have same : lastRecorded recorded (evaluator.play (input :: segment)) =
          lastRecorded (evaluator.score input).summary
            ((evaluator.evaluate input).1.play segment) := by
        rw [NesSuperMarioBrosEvaluator.play, lastRecorded, lastRecorded, List.getLast?_cons]
        cases ((evaluator.evaluate input).1.play segment).getLast? <;> rfl
      rw [same]
      exact next

theorem SplitsCarry.head {segments : List (List NesSuperMarioBrosEvaluatorInput)}
    (carry : SplitsCarry past segments) : Carries past segments.flatten := by
  have first := carry [] segments rfl
  rw [List.flatten_nil, List.append_nil] at first
  exact first

theorem Follows.branch_iff (follows : Follows past evaluator recorded)
    (segments : List (List NesSuperMarioBrosEvaluatorInput))
    (advances : ∀ input ∈ segments.flatten, 0 < input.advancedFrames) :
    branch recorded segments = evaluator.play segments.flatten ↔ SplitsCarry past segments := by
  induction segments generalizing past evaluator recorded with
  | nil =>
      refine iff_of_true rfl fun front back same => ?_
      obtain ⟨rfl, rfl⟩ := List.append_eq_nil_iff.mp same.symm
      exact ⟨fun some => absurd rfl some, fun _ _ _ next found => by cases found⟩
  | cons segment segments ih =>
      have after := follows.play segment fun input member =>
        advances input (List.mem_append_left _ member)
      have rest := ih after fun input member => advances input (List.mem_append_right _ member)
      have split : branch recorded (segment :: segments) =
            evaluator.play (segment :: segments).flatten ↔
          (restoredEvaluator recorded).play segment = evaluator.play segment ∧
            SplitsCarry (past ++ segment) segments := by
        rw [branch, List.flatten_cons, play_append]
        constructor
        · intro same
          obtain ⟨head, tail⟩ := List.append_inj same ((length_play _ _).trans
            (length_play _ _).symm)
          rw [head] at tail
          exact ⟨head, rest.mp tail⟩
        · rintro ⟨head, later⟩
          rw [head, rest.mpr later]
      rw [split, follows.play_iff, splitsCarry_cons]
      constructor
      · rintro ⟨first, later⟩
        exact ⟨(carries_append_iff.mp ⟨first, later.head⟩).1, later⟩
      · rintro ⟨whole, later⟩
        exact ⟨(carries_append_iff.mpr ⟨whole, later.head⟩).1, later⟩

/-- **Branching and continuous play.** The search evaluates all samples as a continuous player
would, and records the same, exactly when the recorded progress carries over at every split. -/
theorem branch_eq_play_iff (segments : List (List NesSuperMarioBrosEvaluatorInput))
    (advances : ∀ input ∈ segments.flatten, 0 < input.advancedFrames) :
    branch unrecorded segments = play {} segments.flatten ↔ SplitsCarry [] segments :=
  follows_nil.branch_iff segments advances

def playing (lives : UInt8) : NesSuperMarioBrosEvaluatorInput where
  advancedFrames := 1
  state := {
    phase := .gameplay
    gameMode := .normal
    lifeState := .alive
    playerState := .normal
    floatState := .groundedOrOther
    powerupState := .small
    airborne := false
    enemyPresent := false
    secondEnemyPresent := false
    facingX := 1
    movementX := 0
    horizontalSpeedNormalized := 0
    verticalSpeedNormalized := 0
    nearestEnemyDx := 0
    nearestEnemyDy := 0
    secondNearestEnemyDx := 0
    secondNearestEnemyDy := 0
    world := 0
    level := 0
    absoluteX := 40
    playerXScreen := 40
    playerYScreen := 176
    lives := lives }

/-- A child in which a life was lost is not scored as lost. -/
theorem branch_ne_play :
    ¬ ∀ segments : List (List NesSuperMarioBrosEvaluatorInput),
      (∀ input ∈ segments.flatten, 0 < input.advancedFrames) →
        branch unrecorded segments = play {} segments.flatten := by
  intro always
  have advances : ∀ input ∈ [[playing 2], [playing 1]].flatten, 0 < input.advancedFrames := by
    simp [playing]
  have carry := (follows_nil.branch_iff _ advances).mp (always _ advances)
  have keeps := (carry [[playing 2]] [[playing 1]] rfl).keepsLives (playing 2) rfl rfl
  exact absurd (keeps (playing 1) rfl (by decide)) (by decide)

theorem branch_eq_play_iff_playing :
    branch unrecorded [[playing 2], [playing 2]] = play {} [playing 2, playing 2] ↔
      SplitsCarry [] [[playing 2], [playing 2]] :=
  branch_eq_play_iff [[playing 2], [playing 2]] (by simp [playing])

end

end NesSuperMarioBrosEvaluator

end DirtSim
