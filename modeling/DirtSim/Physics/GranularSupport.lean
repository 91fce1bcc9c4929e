import DirtSim.Physics.CollisionDetection
import Mathlib.Algebra.Order.Field.Rat
import Mathlib.Logic.Relation

/-! # Granular support

The search for support remembers its answers in a cache, in which it notes a provisional "no" before
it asks the next row. No query reads a provisional entry, so all answers are those of plain
reachability (`World.hasSupportedGranularPathCached_iff`).
-/

namespace DirtSim

open Foundation Relation

namespace World

variable {K : Type*} [Field K] [LinearOrder K]
variable {x y : ℤ}

section

/-- Whether to go on with a second question after the answer to a first one. -/
def orElse {Cache : Type*} (first : Bool × Cache) (second : Cache → Bool × Cache) : Bool × Cache :=
  if first.1 then first else second first.2

/-- The search with its cache. An entry is negative where the answer is not known. -/
def hasSupportedGranularPathCached (cells : CellArray K) (gravityDown : Bool) (x y : ℤ)
    (supportCache : Grid ℤ) : Bool × Grid ℤ :=
  if inside : cells.InBounds x y then
    let cachedResult := (supportCache.get? x y).getD (-1)
    if cachedResult ≥ 0 then (cachedResult ≠ 0, supportCache)
    else
      let provisional := supportCache.set x y 0
      let supportY := y + supportOffsetY gravityDown
      let directSupport := cells.at x supportY
      if !isLoadBearingGranularCell (cells.at x y) then (false, provisional)
      else if ¬ cells.InBounds x supportY then (false, provisional)
      else if isGranularSupportSinkCell directSupport then (true, provisional.set x y 1)
      else
        let direct :=
          if isLoadBearingGranularCell directSupport then
            hasSupportedGranularPathCached cells gravityDown x supportY provisional
          else (false, provisional)
        let diagonal (diagonalX : ℤ) (cache : Grid ℤ) : Bool × Grid ℤ :=
          if cells.InBounds diagonalX supportY ∧
              isLoadBearingGranularCell (cells.at diagonalX supportY) then
            hasSupportedGranularPathCached cells gravityDown diagonalX supportY cache
          else (false, cache)
        let found := orElse (orElse direct (diagonal (x - 1))) (diagonal (x + 1))
        if found.1 then (true, found.2.set x y 1) else (false, found.2)
  else (false, supportCache)
termination_by rowsBelow cells gravityDown y
decreasing_by
  all_goals
    obtain ⟨_, top, _, bottom⟩ := inside
    cases gravityDown <;> simp only [rowsBelow, supportOffsetY, ↓reduceIte, Bool.false_eq_true] <;>
      omega

/-- The cache of `applyGravity` and of the computation of moves: nothing is known. -/
def freshCache (cells : CellArray K) : Grid ℤ := .generate cells.width cells.height fun _ _ => -1

def answers (cells : CellArray K) (gravityDown : Bool) :
    List (ℤ × ℤ) → Grid ℤ → List Bool
  | [], _ => []
  | (x, y) :: queries, supportCache =>
      let answer := hasSupportedGranularPathCached cells gravityDown x y supportCache
      answer.1 :: answers cells gravityDown queries answer.2

end

section

variable (cells : CellArray K) (gravityDown : Bool)

def LoadBearing (pos : ℤ × ℤ) : Prop := isLoadBearingGranularCell (cells.at pos.1 pos.2)

/-- The cell right below a cell, in the direction of support, supports it. -/
def OnSink (pos : ℤ × ℤ) : Prop :=
  isGranularSupportSinkCell (cells.at pos.1 (pos.2 + supportOffsetY gravityDown))

/-- A load-bearing cell in the next row, in the same column or an adjacent one. -/
def RestsOn (upper lower : ℤ × ℤ) : Prop :=
  LoadBearing cells lower ∧ lower.2 = upper.2 + supportOffsetY gravityDown ∧
    (lower.1 = upper.1 ∨ lower.1 = upper.1 - 1 ∨ lower.1 = upper.1 + 1)

def Supported (pos : ℤ × ℤ) : Prop :=
  LoadBearing cells pos ∧
    ∃ last, ReflTransGen (RestsOn cells gravityDown) pos last ∧ OnSink cells gravityDown last

variable {cells gravityDown}
variable {pos : ℤ × ℤ}

theorem supported_iff :
    Supported cells gravityDown pos ↔ LoadBearing cells pos ∧
      (OnSink cells gravityDown pos ∨
        ∃ lower, RestsOn cells gravityDown pos lower ∧ Supported cells gravityDown lower) := by
  constructor
  · rintro ⟨bears, last, chain, sink⟩
    refine ⟨bears, ?_⟩
    rcases chain.cases_head with same | ⟨lower, rests, rest⟩
    · exact Or.inl (same ▸ sink)
    · exact Or.inr ⟨lower, rests, rests.1, last, rest, sink⟩
  · rintro ⟨bears, sink | ⟨lower, rests, _, last, chain, sink⟩⟩
    · exact ⟨bears, pos, .refl, sink⟩
    · exact ⟨bears, last, .head rests chain, sink⟩

omit [LinearOrder K] in
theorem at_of_not_inBounds (outside : ¬ cells.InBounds x y) : (cells.at x y) = Cell.blank := by
  rw [CellArray.«at», Grid.get?_of_not_inBounds outside]
  rfl

variable [IsStrictOrderedRing K]

theorem blank_isEmpty : (Cell.blank : Cell K).isEmpty :=
  Cell.isEmpty_iff.mpr Cell.minFillThreshold_pos

theorem LoadBearing.inBounds (bears : LoadBearing cells pos) : cells.InBounds pos.1 pos.2 := by
  by_contra outside
  rw [LoadBearing, at_of_not_inBounds outside, isLoadBearingGranularCell, blank_isEmpty] at bears
  exact absurd bears (by simp)

theorem OnSink.inBounds (sink : OnSink cells gravityDown pos) :
    cells.InBounds pos.1 (pos.2 + supportOffsetY gravityDown) := by
  by_contra outside
  rw [OnSink, at_of_not_inBounds outside, isGranularSupportSinkCell, blank_isEmpty] at sink
  exact absurd sink (by simp)

theorem Supported.next (supported : Supported cells gravityDown (x, y))
    (inside : cells.InBounds x y) : cells.InBounds x (y + supportOffsetY gravityDown) := by
  obtain ⟨_, sink | ⟨⟨column, row⟩, ⟨lower, below, _⟩, _⟩⟩ := supported_iff.mp supported
  · exact sink.inBounds
  · dsimp only at below
    subst below
    obtain ⟨_, top, _, bottom⟩ := lower.inBounds
    exact ⟨inside.1, top, inside.2.2.1, bottom⟩

omit [IsStrictOrderedRing K] in
theorem supported_iff_or (bears : LoadBearing cells (x, y))
    (noSink : ¬ OnSink cells gravityDown (x, y)) :
    Supported cells gravityDown (x, y) ↔
      (Supported cells gravityDown (x, y + supportOffsetY gravityDown) ∨
        Supported cells gravityDown (x - 1, y + supportOffsetY gravityDown)) ∨
      Supported cells gravityDown (x + 1, y + supportOffsetY gravityDown) := by
  rw [supported_iff]
  constructor
  · rintro ⟨_, sink | ⟨⟨column, row⟩, ⟨_, below, side⟩, supported⟩⟩
    · exact absurd sink noSink
    · dsimp only at below side
      rcases side with rfl | rfl | rfl <;> subst below
      · exact Or.inl (Or.inl supported)
      · exact Or.inl (Or.inr supported)
      · exact Or.inr supported
  · rintro ((direct | left) | right)
    · exact ⟨bears, Or.inr ⟨_, ⟨direct.1, rfl, Or.inl rfl⟩, direct⟩⟩
    · exact ⟨bears, Or.inr ⟨_, ⟨left.1, rfl, Or.inr (Or.inl rfl)⟩, left⟩⟩
    · exact ⟨bears, Or.inr ⟨_, ⟨right.1, rfl, Or.inr (Or.inr rfl)⟩, right⟩⟩

end

section

variable {cells : CellArray K} {gravityDown : Bool}
variable {rows : ℕ} {result : Bool × Grid ℤ} {cache : Grid ℤ}

/-- The known entries of the rows from some distance to the edge on are right. -/
def Truthful (cells : CellArray K) (gravityDown : Bool) (rows : ℕ) (supportCache : Grid ℤ) : Prop :=
  ∀ x y entry, rowsBelow cells gravityDown y ≤ rows → supportCache.get? x y = some entry →
    0 ≤ entry → (entry ≠ 0 ↔ Supported cells gravityDown (x, y))

/-- A right answer. The entries of the rows before are as they were, the others are right. -/
structure Answered (cells : CellArray K) (gravityDown : Bool) (rows : ℕ) (asked : Prop)
    (before : Grid ℤ) (result : Bool × Grid ℤ) : Prop where
  value : result.1 = true ↔ asked
  keeps : ∀ x y, rows < rowsBelow cells gravityDown y →
    result.2.get? x y = before.get? x y
  truthful : Truthful cells gravityDown rows result.2

theorem Answered.orElse {first second : Prop} {before : Grid ℤ}
    (answered : Answered cells gravityDown rows first before result)
    {query : Grid ℤ → Bool × Grid ℤ} (queried : ∀ cache, Truthful cells gravityDown rows cache →
      Answered cells gravityDown rows second cache (query cache)) :
    Answered cells gravityDown rows (first ∨ second) before (orElse result query) := by
  unfold World.orElse
  split
  case isTrue yes =>
      exact ⟨⟨fun _ => Or.inl (answered.value.mp yes), fun _ => yes⟩, answered.keeps,
        answered.truthful⟩
  case isFalse no =>
      have next := queried result.2 answered.truthful
      refine ⟨?_, fun x y above => (next.keeps x y above).trans (answered.keeps x y above),
        next.truthful⟩
      rw [next.value]
      exact ⟨Or.inr, fun either => either.resolve_left (mt answered.value.mpr no)⟩

theorem answered_of_not_loadBearing {pos : ℤ × ℤ} (idle : ¬ LoadBearing cells pos)
    (truthful : Truthful cells gravityDown rows cache) :
    Answered cells gravityDown rows (Supported cells gravityDown pos) cache (false, cache) :=
  ⟨⟨fun no => absurd no Bool.false_ne_true, fun supported => absurd supported.1 idle⟩,
    fun _ _ _ => rfl, truthful⟩

theorem Answered.ask {pos : ℤ × ℤ} {asks : Prop} [Decidable asks]
    (truthful : Truthful cells gravityDown rows cache)
    (answered : Answered cells gravityDown rows (Supported cells gravityDown pos) cache result)
    (bears : LoadBearing cells pos → asks) :
    Answered cells gravityDown rows (Supported cells gravityDown pos) cache
      (if asks then result else (false, cache)) := by
  split
  case isTrue asked => exact answered
  case isFalse idle => exact answered_of_not_loadBearing (mt bears idle) truthful

theorem Answered.settle {asked : Prop} (further : rows < rowsBelow cells gravityDown y)
    (truthful : Truthful cells gravityDown (rowsBelow cells gravityDown y) cache)
    (found : Answered cells gravityDown rows asked (cache.set x y 0) result)
    (means : Supported cells gravityDown (x, y) ↔ asked) :
    Answered cells gravityDown (rowsBelow cells gravityDown y) (Supported cells gravityDown (x, y))
      cache (if result.1 then (true, result.2.set x y 1) else (false, result.2)) := by
  have apart {column row : ℤ} (other : ¬ (column = x ∧ row = y)) : (column, row) ≠ (x, y) :=
    fun same => other ⟨congrArg Prod.fst same, congrArg Prod.snd same⟩
  -- What is neither the asked cell nor in a later row.
  have elsewhere {column row entry : ℤ} (other : ¬ (column = x ∧ row = y))
      (near : rowsBelow cells gravityDown row ≤ rowsBelow cells gravityDown y)
      (read : result.2.get? column row = some entry) (known : 0 ≤ entry) :
      entry ≠ 0 ↔ Supported cells gravityDown (column, row) := by
    by_cases later : rowsBelow cells gravityDown row ≤ rows
    · exact found.truthful column row entry later read known
    · rw [found.keeps column row (by omega), Grid.get?_set_ne _ _ (apart other)] at read
      exact truthful column row entry near read known
  have before {column row : ℤ} (above : rowsBelow cells gravityDown y <
      rowsBelow cells gravityDown row) : ¬ (column = x ∧ row = y) := by
    rintro ⟨_, rfl⟩
    exact lt_irrefl _ above
  split
  case isTrue yes =>
      have supported := means.mpr (found.value.mp yes)
      refine ⟨⟨fun _ => supported, fun _ => rfl⟩, fun column row above => ?_,
        fun column row entry near read known => ?_⟩
      · rw [Grid.get?_set_ne _ _ (apart (before above)), found.keeps column row (by omega),
          Grid.get?_set_ne _ _ (apart (before above))]
      · by_cases here : column = x ∧ row = y
        · obtain ⟨rfl, rfl⟩ := here
          rw [Grid.get?_set] at read
          split at read
          · rw [← Option.some.inj read]
            exact iff_of_true one_ne_zero supported
          case isFalse outside =>
              -- The cell has no entry at all.
              have absent : ¬ result.2.InBounds column row := fun inside =>
                outside ⟨rfl, rfl, inside⟩
              rw [Grid.get?_of_not_inBounds absent] at read
              cases read
        · rw [Grid.get?_set_ne _ _ (apart here)] at read
          exact elsewhere here near read known
  case isFalse no =>
      have unsupported : ¬ Supported cells gravityDown (x, y) :=
        fun supported => no (found.value.mpr (means.mp supported))
      refine ⟨iff_of_false Bool.false_ne_true unsupported, fun column row above => ?_,
        fun column row entry near read known => ?_⟩
      · rw [found.keeps column row (by omega), Grid.get?_set_ne _ _ (apart (before above))]
      · by_cases here : column = x ∧ row = y
        · obtain ⟨rfl, rfl⟩ := here
          rw [found.keeps column row further, Grid.get?_set] at read
          split at read
          · rw [← Option.some.inj read]
            exact iff_of_false (fun nonzero => nonzero rfl) unsupported
          case isFalse outside =>
              have absent : ¬ cache.InBounds column row := fun inside =>
                outside ⟨rfl, rfl, inside⟩
              rw [Grid.get?_of_not_inBounds absent] at read
              cases read
        · exact elsewhere here near read known

variable [IsStrictOrderedRing K]

omit [IsStrictOrderedRing K] [Field K] [LinearOrder K] in
theorem rowsBelow_support (inside : cells.InBounds x y) :
    rowsBelow cells gravityDown (y + supportOffsetY gravityDown) + 1 =
      rowsBelow cells gravityDown y := by
  obtain ⟨_, top, _, bottom⟩ := inside
  cases gravityDown <;> simp only [rowsBelow, supportOffsetY, ↓reduceIte, Bool.false_eq_true] <;>
    omega

/-- **One query** on a cache whose entries further on are right. -/
theorem hasSupportedGranularPathCached_answered (x y : ℤ)
    (truthful : Truthful cells gravityDown (rowsBelow cells gravityDown y) cache) :
    Answered cells gravityDown (rowsBelow cells gravityDown y) (Supported cells gravityDown (x, y))
      cache (hasSupportedGranularPathCached cells gravityDown x y cache) := by
  induction rows : rowsBelow cells gravityDown y using Nat.strongRecOn generalizing x y cache with
  | ind n ih =>
      subst rows
      rw [hasSupportedGranularPathCached]
      by_cases inside : cells.InBounds x y
      swap
      · rw [dif_neg inside]
        exact answered_of_not_loadBearing (fun bears => inside bears.inBounds) truthful
      rw [dif_pos inside]
      dsimp only
      split
      case isTrue known =>
          obtain ⟨entry, read⟩ : ∃ entry, cache.get? x y = some entry := by
            cases read : cache.get? x y with
            | none =>
                rw [read, Option.getD_none] at known
                exact absurd known (by decide)
            | some entry => exact ⟨entry, rfl⟩
          rw [read, Option.getD_some] at known ⊢
          refine ⟨?_, fun _ _ _ => rfl, truthful⟩
          rw [decide_eq_true_iff]
          exact truthful x y entry (le_refl _) read known
      case isFalse unknown =>
          have next : rowsBelow cells gravityDown (y + supportOffsetY gravityDown) + 1 =
              rowsBelow cells gravityDown y := rowsBelow_support inside
          have further : rowsBelow cells gravityDown (y + supportOffsetY gravityDown) <
              rowsBelow cells gravityDown y := by omega
          have provisional : Truthful cells gravityDown
              (rowsBelow cells gravityDown (y + supportOffsetY gravityDown)) (cache.set x y 0) := by
            intro column row entry near read
            have apart : (column, row) ≠ (x, y) := by
              rintro ⟨rfl, rfl⟩
              omega
            rw [Grid.get?_set_ne _ _ apart] at read
            exact truthful column row entry (by omega) read
          -- An answer that needs no further query.
          have settled (answer : Bool)
              (means : Supported cells gravityDown (x, y) ↔ answer = true) :=
            Answered.settle further truthful
              (⟨Iff.rfl, fun _ _ _ => rfl, provisional⟩ : Answered cells gravityDown _ _ _
                (answer, cache.set x y 0)) means
          split
          case isTrue idle =>
              refine settled false (iff_of_false (fun supported => ?_) Bool.false_ne_true)
              rw [Bool.not_eq_true'] at idle
              exact Bool.false_ne_true (idle.symm.trans supported.1)
          case isFalse bears =>
              have bears' : LoadBearing cells (x, y) := by
                rw [Bool.not_eq_true', Bool.not_eq_false] at bears
                exact bears
              split
              case isTrue edge =>
                  exact settled false
                    (iff_of_false (fun supported => edge (supported.next inside))
                      Bool.false_ne_true)
              case isFalse within =>
                  split
                  case isTrue sink =>
                      exact settled true
                        (iff_of_true (supported_iff.mpr ⟨bears', Or.inl sink⟩) rfl)
                  case isFalse noSink =>
                      have query (column : ℤ) {asked : Grid ℤ} (truthful' : Truthful cells
                          gravityDown (rowsBelow cells gravityDown (y + supportOffsetY gravityDown))
                          asked) :=
                        ih _ further column _ truthful' rfl
                      refine .settle further truthful (.orElse (.orElse (.ask provisional
                        (query x provisional) ?_) fun _ left => .ask left (query _ left) ?_)
                          fun _ right => .ask right (query _ right) ?_)
                        (supported_iff_or bears' noSink)
                      · exact fun lower => lower
                      · exact fun lower => ⟨lower.inBounds, lower⟩
                      · exact fun lower => ⟨lower.inBounds, lower⟩

omit [IsStrictOrderedRing K] in
theorem freshCache_truthful (rows : ℕ) : Truthful cells gravityDown rows (freshCache cells) := by
  intro x y entry _ read known
  rw [freshCache, Grid.get?_generate] at read
  split at read
  · rw [← Option.some.inj read] at known
    exact absurd known (by decide)
  · cases read

theorem answers_iff (queries : List (ℤ × ℤ))
    (truthful : ∀ rows, Truthful cells gravityDown rows cache) :
    List.Forall₂ (fun query answer => answer = true ↔ Supported cells gravityDown query) queries
      (answers cells gravityDown queries cache) := by
  induction queries generalizing cache with
  | nil => exact .nil
  | cons query queries ih =>
      obtain ⟨x, y⟩ := query
      have answered := hasSupportedGranularPathCached_answered x y (truthful _)
      refine .cons answered.value (ih fun rows column row entry near read known => ?_)
      -- Rows before the query's have kept their entries.
      by_cases later : rowsBelow cells gravityDown row ≤ rowsBelow cells gravityDown y
      · exact answered.truthful column row entry later read known
      · rw [answered.keeps column row (not_le.mp later)] at read
        exact truthful rows column row entry near read known

/-- **The cached search is plain reachability.** Every answer to any sequence of queries that share
a cache, from one in which nothing is known. -/
theorem hasSupportedGranularPathCached_iff (cells : CellArray K) (gravityDown : Bool)
    (queries : List (ℤ × ℤ)) :
    List.Forall₂ (fun query answer => answer = true ↔ Supported cells gravityDown query) queries
      (answers cells gravityDown queries (freshCache cells)) :=
  answers_iff queries freshCache_truthful

private theorem five_pos : 0 < 5 := by decide

def sandBlock : CellArray ℚ where
  width := 5
  height := 6
  cells := List.replicate 30 { Cell.blank with materialType := .sand, fillRatio := 1 }
  length_cells := rfl
  width_pos := five_pos
  height_pos := by decide
  width_le := by decide
  height_le := by decide

theorem hasSupportedGranularPathCached_iff_sandBlock :
    List.Forall₂ (fun query answer => answer = true ↔ Supported sandBlock true query)
      [(2, 0), (2, 5), (2, 0)]
      (answers sandBlock true [(2, 0), (2, 5), (2, 0)] (freshCache sandBlock)) :=
  hasSupportedGranularPathCached_iff sandBlock true [(2, 0), (2, 5), (2, 0)]

end

end World

end DirtSim
