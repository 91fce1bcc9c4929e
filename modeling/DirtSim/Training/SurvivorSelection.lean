import DirtSim.Foundation.GreedyChoice
import DirtSim.Foundation.TieBreaking
import DirtSim.Training.GenerationBookkeeping
import Mathlib.Data.List.Sort
import Mathlib.Data.Prod.Lex

/-! # Survivor selection

Who survives when a population is pruned: the best individual, a few near-best ones that are
chosen for their distance from those chosen before, and then the best of the rest. Nobody is
left out who ranks above a survivor that was not kept for its distance (`Evolution.prune_spec`).
-/

namespace DirtSim

open Foundation Double FitnessArithmetic BreedingArithmetic

/-- Numbers are those values that equal themselves; they are ordered up to equality. -/
class LawfulNumbers (F : Type) [Double F] : Prop extends LawfulComparison F where
  zero_number : equal (zero : F) zero = true
  equal_symm : ∀ first second : F, equal first second = true → equal second first = true
  equal_trans : ∀ first second third : F, equal first second = true → equal second third = true →
    equal first third = true
  less_of_equal : ∀ first second third : F, equal first second = true →
    less second third = true → less first third = true
  less_of_less_equal : ∀ first second third : F, less first second = true →
    equal second third = true → less first third = true
  comparable : ∀ first second : F, equal first first = true → equal second second = true →
    less first second = true ∨ equal first second = true ∨ less second first = true

/-- Adding the tolerance makes no number smaller. -/
class LawfulBreeding (F : Type) [BreedingArithmetic F] : Prop extends LawfulNumbers F where
  less_of_add_less : ∀ value other : F, less (add value distanceTieEpsilon) other = true →
    less value other = true

instance : LawfulBreeding ℚ where
  zero_number := decide_eq_true rfl
  equal_symm _ _ same := decide_eq_true (of_decide_eq_true same).symm
  equal_trans _ _ _ first second :=
    decide_eq_true ((of_decide_eq_true first).trans (of_decide_eq_true second))
  less_of_equal _ _ _ same below :=
    decide_eq_true ((of_decide_eq_true same).trans_lt (of_decide_eq_true below))
  less_of_less_equal _ _ _ below same :=
    decide_eq_true ((of_decide_eq_true below).trans_eq (of_decide_eq_true same))
  comparable first second _ _ := by
    rcases lt_trichotomy first second with below | same | above
    · exact Or.inl (decide_eq_true below)
    · exact Or.inr (Or.inl (decide_eq_true same))
    · exact Or.inr (Or.inr (decide_eq_true above))
  less_of_add_less value other below := by
    have tolerance : (0 : ℚ) < 1 / 10 ^ 12 := by norm_num
    have sum : value + 1 / 10 ^ 12 < other := of_decide_eq_true below
    exact decide_eq_true (lt_trans (lt_add_of_pos_right value tolerance) sum)

namespace LawfulNumbers

variable {F : Type} [Double F] [LawfulNumbers F] {first second : F}

theorem not_equal_of_less (below : less first second = true) : equal first second = false := by
  cases same : equal first second with
  | false => rfl
  | true =>
      have itself := less_of_equal _ _ _ (equal_symm _ _ same) below
      rw [LawfulComparison.irrefl] at itself
      cases itself

theorem scale : Scale (fun first second : F => less first second = true)
    (fun first second => equal first second = true) where
  asymm _ _ below := Bool.eq_false_iff.mp (LawfulComparison.asymm below)
  trans := LawfulComparison.trans
  symm := equal_symm
  same_trans := equal_trans
  below_of_same := less_of_equal
  below_of_below := less_of_less_equal
  comparable := comparable

end LawfulNumbers

namespace Evolution

variable {F : Type} [BreedingArithmetic F]

section

def evaluated (state : Evolution F) : List (RankedIndividual F) :=
  (state.population.zip state.fitnessScores).zipIdx.map fun entry =>
    { fitness := entry.1.2
      individual := entry.1.1
      origin := state.populationOrigins[entry.2]?.getD .unknown
      order := entry.2 }

/-- The place among equals: offspring first, then in their order. -/
def tieOrder (entry : RankedIndividual F) : ℕ ×ₗ ℕ :=
  toLex (if isOffspringOrigin entry.origin then 0 else 1, entry.order)

variable [LawfulNumbers F] {first second third : RankedIndividual F}

theorem rankedBefore_iff :
    rankedBefore first second = true ↔
      Precedes (fun left right : F => less right left = true)
        (fun left right => equal left right = true) RankedIndividual.fitness tieOrder
        first second := by
  unfold rankedBefore Precedes tieOrder
  dsimp only
  rw [Prod.Lex.toLex_lt_toLex]
  cases tie : equal first.fitness second.fitness with
  | false =>
      simp
  | true =>
      have none : less second.fitness first.fitness = false := by
        cases below : less second.fitness first.fitness with
        | false => rfl
        | true =>
            have apart := LawfulNumbers.not_equal_of_less below
            rw [LawfulNumbers.equal_symm _ _ tie] at apart
            cases apart
      rw [none]
      cases isOffspringOrigin first.origin <;> cases isOffspringOrigin second.origin <;> simp

section

omit [BreedingArithmetic F] [LawfulNumbers F]

theorem fitness_mem_of_evaluated {state : Evolution F} {entry : RankedIndividual F}
    (member : entry ∈ evaluated state) : entry.fitness ∈ state.fitnessScores := by
  obtain ⟨⟨⟨individual, score⟩, order⟩, found, rfl⟩ := List.mem_map.mp member
  obtain ⟨inside, same⟩ := List.mem_zipIdx' found
  have listed := same ▸ List.getElem_mem inside
  exact (List.of_mem_zip listed).2

theorem pairwise_order_evaluated (state : Evolution F) :
    (evaluated state).Pairwise fun first second => first.order ≠ second.order := by
  have orders : (evaluated state).map RankedIndividual.order =
      List.range (state.population.zip state.fitnessScores).length := by
    rw [evaluated, List.map_map, List.range_eq_range', ← List.zipIdx_map_snd 0]
    rfl
  have distinct : ((evaluated state).map RankedIndividual.order).Nodup :=
    orders ▸ List.nodup_range
  exact List.pairwise_map.mp distinct

end

/-- **The ranking** holds everyone, fittest first. -/
theorem rank_spec (state : Evolution F) :
    (rank state).Perm (evaluated state) ∧
      ((∀ score ∈ state.fitnessScores, equal score score = true) →
        (rank state).Pairwise fun first second => rankedBefore first second = true) := by
  have everyone : (rank state).Perm (evaluated state) := List.mergeSort_perm _ _
  refine ⟨everyone, fun numbers => ?_⟩
  have number (entry) (member : entry ∈ evaluated state) :
      equal entry.fitness entry.fitness = true := numbers _ (fitness_mem_of_evaluated member)
  have scale := (LawfulNumbers.scale (F := F)).flip
  have sorted : (rank state).Pairwise fun first second =>
      ¬ Precedes (fun left right : F => less right left = true)
        (fun left right => equal left right = true) RankedIndividual.fitness tieOrder
        second first := by
    apply scale.pairwise_mergeSort _ number
    intro first second
    rw [← rankedBefore_iff, Bool.not_eq_true', Bool.not_eq_true]
  have apart :=
    (everyone.pairwise_iff fun apart => Ne.symm apart).mpr (pairwise_order_evaluated state)
  refine (sorted.and apart).imp_of_mem fun inFirst inSecond both => ?_
  rw [rankedBefore_iff]
  apply scale.precedes_of_not (number _ (everyone.mem_iff.mp inFirst))
    (number _ (everyone.mem_iff.mp inSecond)) _ both.1
  intro ties
  exact both.2 (congrArg (fun key => (ofLex key).2) ties)

end

section

variable {ranked : List (RankedIndividual F)} {candidates : List ℕ}

/-- A position lies farther away than another one when the tolerance does not bridge the gap. -/
def farther (distance bestMinDistance : F) : Bool :=
  less (add bestMinDistance distanceTieEpsilon) distance

theorem steady_farther [LawfulBreeding F] : Steady (farther (F := F)) where
  irrefl value := by
    cases itself : farther value value with
    | false => rfl
    | true =>
        have below := LawfulBreeding.less_of_add_less _ _ itself
        rw [LawfulComparison.irrefl] at below
        cases below
  keeps old new other wins loses := by
    cases again : farther other new with
    | false => rfl
    | true =>
        have above := LawfulBreeding.less_of_add_less _ _ again
        have wins' := LawfulComparison.trans _ _ _ wins above
        unfold farther at loses
        rw [wins'] at loses
        cases loses

/-- The distance of a position that is not taken to the nearest comparable reference. -/
def openDistance (ranked : List (RankedIndividual F)) (selected references : List ℕ)
    (position : ℕ) : Option F :=
  if position ∈ selected then none
  else (ranked[position]?).bind fun entry => minDistance ranked entry.individual references

theorem farthestCandidate_eq_leader (selected references : List ℕ)
    (ascending : candidates.Pairwise (· < ·)) :
    farthestCandidate ranked candidates selected references =
      leader farther (openDistance ranked selected references) candidates := by
  unfold farthestCandidate leader
  suffices scan : ∀ best : Option (ℕ × F),
      (∀ incumbent ∈ best, ∀ position ∈ candidates, incumbent.1 < position) →
      candidates.foldl _ best =
        candidates.foldl (challenge farther (openDistance ranked selected references)) best from
    scan none fun _ none => by cases none
  intro best behind
  induction candidates generalizing best with
  | nil => rfl
  | cons position candidates ih =>
      obtain ⟨first, ascending'⟩ := List.pairwise_cons.mp ascending
      have later (incumbent : ℕ × F) (member : incumbent ∈ best) :
          ∀ other ∈ candidates, incumbent.1 < other := fun other inside =>
        behind incumbent member other (List.mem_cons_of_mem _ inside)
      rw [List.foldl_cons, List.foldl_cons, challenge, openDistance]
      by_cases taken : position ∈ selected
      · rw [if_pos taken, if_pos taken]
        exact ih ascending' best later
      · rw [if_neg taken, if_neg taken]
        cases (ranked[position]?).bind fun entry =>
            minDistance ranked entry.individual references with
        | none => exact ih ascending' best later
        | some distance =>
            have own : ∀ incumbent ∈ some (position, distance),
                ∀ other ∈ candidates, incumbent.1 < other := by
              intro incumbent same
              cases same
              exact first
            cases best with
            | none => exact ih ascending' _ own
            | some incumbent =>
                have above := behind incumbent rfl position List.mem_cons_self
                dsimp only
                by_cases wins : less (add incumbent.2 distanceTieEpsilon) distance = true
                · rw [if_pos (Or.inl wins), if_pos (show farther _ _ = true from wins)]
                  exact ih ascending' _ own
                · rw [if_neg (not_or.mpr ⟨wins, fun tie => absurd tie.2 (by omega)⟩),
                    if_neg (show ¬ farther _ _ = true from wins)]
                  exact ih ascending' _ later

def comparison (ranked : List (RankedIndividual F)) (candidate : Individual F) (reference : ℕ) :
    Option (List UInt32 × List UInt32) :=
  (ranked[reference]?).bind fun entry => comparableWeights candidate entry.individual

/-- The positions that may be kept for their distance. -/
def nearBestPositions (ranked : List (RankedIndividual F)) (best fitnessEpsilon : F) : List ℕ :=
  (List.range' 1 (ranked.length - 1)).filter fun i =>
    match ranked[i]? with
    | none => false
    | some entry =>
        isNearBestFitness entry.fitness best fitnessEpsilon && entry.individual.genome.isSome

def nextDiverse (ranked : List (RankedIndividual F)) (candidates selected : List ℕ) : Option ℕ :=
  (farthestCandidate ranked candidates selected (0 :: selected)).map Prod.fst

theorem fillDiverseSlots_eq_greedy (slots : ℕ) (selected : List ℕ) :
    fillDiverseSlots ranked candidates slots selected =
      greedy (nextDiverse ranked candidates) slots selected := by
  induction slots generalizing selected with
  | zero => rfl
  | succ slots ih =>
      unfold fillDiverseSlots greedy nextDiverse
      cases farthestCandidate ranked candidates selected (0 :: selected) with
      | none => rfl
      | some choice => exact ih _

theorem mem_nearBestPositions {best fitnessEpsilon : F} {position : ℕ} :
    position ∈ nearBestPositions ranked best fitnessEpsilon ↔
      1 ≤ position ∧ ∃ entry, ranked[position]? = some entry ∧
        isNearBestFitness entry.fitness best fitnessEpsilon = true ∧
        entry.individual.genome.isSome = true := by
  rw [nearBestPositions, List.mem_filter, List.mem_range'_1]
  cases found : ranked[position]? with
  | none => simp
  | some entry =>
      have inside := (List.getElem?_eq_some_iff.mp found).1
      simp only [Bool.and_eq_true, Option.some.injEq, exists_eq_left']
      exact and_congr_left fun _ => ⟨And.left, fun later => ⟨later, by omega⟩⟩

theorem ascending_nearBestPositions (best fitnessEpsilon : F) :
    (nearBestPositions ranked best fitnessEpsilon).Pairwise (· < ·) :=
  (List.pairwise_lt_range' ..).filter _

/-- A position is chosen after others for its distance from the best and from those. -/
structure ChosenForDistance (ranked : List (RankedIndividual F)) (candidates before : List ℕ)
    (position : ℕ) : Prop where
  candidate : position ∈ candidates
  fresh : position ∉ before
  farthest : ∃ entry distance, ranked[position]? = some entry ∧
    minDistance ranked entry.individual (0 :: before) = some distance ∧
    ∀ other ∈ candidates, other ∉ before → ∀ otherEntry otherDistance,
      ranked[other]? = some otherEntry →
      minDistance ranked otherEntry.individual (0 :: before) = some otherDistance →
      less (add distance distanceTieEpsilon) otherDistance = false

theorem nextDiverse_spec [LawfulBreeding F] (ascending : candidates.Pairwise (· < ·))
    {before : List ℕ} {position : ℕ} (chose : nextDiverse ranked candidates before = some position) :
    ChosenForDistance ranked candidates before position := by
  obtain ⟨⟨_, distance⟩, led, rfl⟩ := Option.map_eq_some_iff.mp chose
  rw [farthestCandidate_eq_leader _ _ ascending] at led
  have unbeaten : Unbeaten farther (openDistance ranked before (0 :: before)) candidates _ :=
    unbeaten_leader steady_farther candidates
  rw [led] at unbeaten
  obtain ⟨member, scored, others⟩ := unbeaten
  unfold openDistance at scored others
  split at scored
  case isTrue taken => cases scored
  case isFalse fresh =>
      obtain ⟨entry, found, near⟩ := Option.bind_eq_some_iff.mp scored
      refine ⟨member, fresh, entry, distance, found, near, ?_⟩
      intro other inside open_ otherEntry otherDistance found' near'
      refine others other inside otherDistance ?_
      rw [if_neg open_, found']
      exact near'

/-- **The diverse positions** fill no more slots than there are, and each was chosen for its
distance from those before it. -/
theorem selectDiversityElitePositions_spec [LawfulBreeding F] (keepCount : ℕ)
    (diversityEliteCount : ℤ) (fitnessEpsilon : F) {best : RankedIndividual F}
    (leads : ranked[0]? = some best) :
    let picks := selectDiversityElitePositions ranked keepCount diversityEliteCount fitnessEpsilon
    picks.length ≤ min diversityEliteCount.toNat (keepCount - 1) ∧ picks.Nodup ∧
      ∀ before position after, picks = before ++ position :: after →
        ChosenForDistance ranked (nearBestPositions ranked best.fitness fitnessEpsilon) before
          position := by
  intro picks
  have ascending : (nearBestPositions ranked best.fitness fitnessEpsilon).Pairwise (· < ·) :=
    ascending_nearBestPositions _ _
  have chosen (before : List ℕ) (position : ℕ)
      (chose : nextDiverse ranked (nearBestPositions ranked best.fitness fitnessEpsilon) before =
        some position) := nextDiverse_spec ascending chose
  have same : picks = if keepCount ≤ 1 ∨ diversityEliteCount ≤ 0 then [] else
      greedy (nextDiverse ranked (nearBestPositions ranked best.fitness fitnessEpsilon))
        (min diversityEliteCount.toNat (keepCount - 1)) [] := by
    rw [← fillDiverseSlots_eq_greedy]
    cases ranked with
    | nil => cases leads
    | cons first rest =>
        cases leads
        rfl
  split at same
  · rw [same]
    refine ⟨Nat.zero_le _, List.nodup_nil, fun before position after none => ?_⟩
    exact absurd none.symm (List.append_ne_nil_of_right_ne_nil _ (List.cons_ne_nil _ _))
  · obtain ⟨added, filled, few, each⟩ := greedy_spec
      (nextDiverse ranked (nearBestPositions ranked best.fitness fitnessEpsilon))
      (min diversityEliteCount.toNat (keepCount - 1)) []
    rw [List.nil_append] at filled
    refine ⟨same ▸ filled ▸ few, same ▸ nodup_greedy _ List.nodup_nil fun before position chose =>
      (chosen before position chose).fresh, fun before position after split => ?_⟩
    exact chosen before position (each before position after (filled ▸ same ▸ split))

end

section

variable {ranked : List (RankedIndividual F)}

theorem foldl_selectPosition {size room : ℕ} {entries : List ℕ}
    (inside : ∀ position ∈ entries, position < size) (kept : List ℕ) :
    entries.foldl (selectPosition size room) kept = fillUp room kept entries := by
  induction entries generalizing kept with
  | nil => rfl
  | cons position entries ih =>
      have known := inside position List.mem_cons_self
      rw [List.foldl_cons, ih fun other member => inside other (List.mem_cons_of_mem _ member),
        fillUp, fillUp, List.foldl_cons, selectPosition]
      simp [not_le.mpr known]

theorem mapM_getElem? {α : Type} {entries : List α} {positions : List ℕ}
    (inside : ∀ position ∈ positions, position < entries.length) :
    ∃ read, positions.mapM (fun position => entries[position]?) = some read := by
  induction positions with
  | nil => exact ⟨[], rfl⟩
  | cons position positions ih =>
      obtain ⟨rest, found⟩ := ih fun other member => inside other (List.mem_cons_of_mem _ member)
      rw [List.mapM_cons, List.getElem?_eq_getElem (inside position List.mem_cons_self), found]
      exact ⟨_, rfl⟩

variable [LawfulBreeding F]

/-- **The positions that survive.** As many as asked for; the best one and the diverse ones among
them; and a position that is left out lies below every other one. -/
theorem selectedPositions_spec (config : BreedingConfig F) {keepCount : ℕ}
    (positive : 0 < keepCount) (fits : keepCount ≤ ranked.length) :
    let picks := selectDiversityElitePositions ranked keepCount config.diversityEliteCount
      config.diversityEliteFitnessEpsilon
    let positions := selectedPositions config ranked keepCount
    positions.length = keepCount ∧ positions.Nodup ∧
      (∀ position ∈ positions, position < ranked.length) ∧ 0 ∈ positions ∧
      (∀ position ∈ picks, position ∈ positions) ∧
      ∀ kept ∈ positions, kept ∉ picks → ∀ left < ranked.length, left ∉ positions →
        kept < left := by
  intro picks positions
  obtain ⟨best, leads⟩ : ∃ best, ranked[0]? = some best :=
    ⟨_, List.getElem?_eq_getElem (by omega)⟩
  obtain ⟨few, distinct, chosen⟩ := selectDiversityElitePositions_spec keepCount
    config.diversityEliteCount config.diversityEliteFitnessEpsilon leads
  have listed (position : ℕ) (member : position ∈ picks) :
      1 ≤ position ∧ position < ranked.length := by
    obtain ⟨before, after, split⟩ := List.append_of_mem member
    obtain ⟨later, entry, found, _⟩ :=
      mem_nearBestPositions.mp (chosen before position after split).candidate
    exact ⟨later, (List.getElem?_eq_some_iff.mp found).1⟩
  have down : ∀ position, position ∈ List.range' 1 (ranked.length - 1) ↔
      1 ≤ position ∧ position < ranked.length := fun position => by
    rw [List.mem_range'_1]
    omega
  have first : (0 :: picks).Nodup :=
    List.nodup_cons.mpr ⟨fun zero => absurd (listed 0 zero).1 (by omega), distinct⟩
  have room : (0 :: picks).length ≤ keepCount := by
    have slots : picks.length ≤ keepCount - 1 := few.trans (min_le_right _ _)
    rw [List.length_cons]
    omega
  have filled : positions = fillUp keepCount (0 :: picks) (List.range' 1 (ranked.length - 1)) := by
    have start : fillUp keepCount [] (0 :: picks) = 0 :: picks := fillUp_fresh first room
    change (0 :: (picks ++ List.range' 1 (ranked.length - 1))).foldl _ [] = _
    rw [foldl_selectPosition, ← List.cons_append, fillUp_append, start]
    intro position member
    rcases List.mem_cons.mp member with rfl | member
    · omega
    · exact (List.mem_append.mp member).elim (fun diverse => (listed position diverse).2)
        fun below => ((down position).mp below).2
  obtain ⟨added, same, distinct', fits', known, left⟩ :=
    fillUp_spec first room (List.pairwise_lt_range' (s := 1) (n := ranked.length - 1) ..)
  rw [← filled] at same
  have inside (position : ℕ) (member : position ∈ positions) : position < ranked.length := by
    rw [same, List.cons_append] at member
    rcases List.mem_cons.mp member with rfl | member
    · omega
    · exact (List.mem_append.mp member).elim (fun diverse => (listed position diverse).2)
        fun below => ((down position).mp (known position below)).2
  have zero : 0 ∈ positions := same ▸ List.mem_append_left _ List.mem_cons_self
  have out (position : ℕ) (below : position < ranked.length) (gone : position ∉ positions) :
      positions.length = keepCount ∧ ∀ entry ∈ added, entry < position := by
    have later : 1 ≤ position := Nat.one_le_iff_ne_zero.mpr fun same => gone (same ▸ zero)
    rw [same] at gone ⊢
    exact left position ((down position).mpr ⟨later, below⟩) gone
  refine ⟨?_, same ▸ distinct', inside, zero, ?_, ?_⟩
  · by_cases all : ∀ position < ranked.length, position ∈ positions
    · have whole : ranked.length ≤ positions.length := by
        have listed : List.range ranked.length ⊆ positions := fun position member =>
          all position (List.mem_range.mp member)
        have counted := (List.nodup_range.subperm listed).length_le
        rwa [List.length_range] at counted
      exact le_antisymm (same ▸ fits') (fits.trans whole)
    · push Not at all
      obtain ⟨position, below, gone⟩ := all
      exact (out position below gone).1
  · intro position member
    rw [same]
    exact List.mem_append_left _ (List.mem_cons_of_mem _ member)
  · intro kept member other position below gone
    rw [same, List.cons_append] at member
    rcases List.mem_cons.mp member with rfl | member
    · exact Nat.pos_of_ne_zero fun same => gone (same ▸ zero)
    · exact (List.mem_append.mp member).elim (fun diverse => absurd diverse other)
        fun lower => (out position below gone).2 kept lower

/-- **Pruning** keeps as many distinct individuals as it should, the best one among them. At most
the slots for diversity go to near-best individuals, each chosen for its distance, and who is left
out ranks below everyone else who stays. -/
structure KeepsBest (config : BreedingConfig F) (survivorPopulationSize : ℕ)
    (ranked : List (RankedIndividual F)) (picks positions : List ℕ) : Prop where
  count : positions.length = min survivorPopulationSize ranked.length
  distinct : positions.Nodup
  best : 0 ∈ positions
  picked : ∀ position ∈ picks, position ∈ positions
  few : picks.length ≤ min config.diversityEliteCount.toNat (survivorPopulationSize - 1)
  nearBest : ∀ position ∈ picks, ∃ entry best, ranked[position]? = some entry ∧
    ranked[0]? = some best ∧
      (fitnessTiesBest entry.fitness best.fitness = true ∨
        less best.fitness (add entry.fitness config.diversityEliteFitnessEpsilon) = true ∨
        equal (add entry.fitness config.diversityEliteFitnessEpsilon) best.fitness = true)
  farthest : ∀ before position after, picks = before ++ position :: after →
    ∃ best, ranked[0]? = some best ∧ ChosenForDistance ranked
      (nearBestPositions ranked best.fitness config.diversityEliteFitnessEpsilon) before position
  below : ∀ kept ∈ positions, kept ∉ picks → ∀ left < ranked.length, left ∉ positions → kept < left

theorem prune_keepsBest (config : BreedingConfig F) {survivorPopulationSize : ℕ}
    (positive : 0 < survivorPopulationSize) {state : Evolution F}
    (inhabited : state.population ≠ [])
    (aligned : state.fitnessScores.length = state.population.length) :
    let ranked := rank state
    let keepCount := min survivorPopulationSize ranked.length
    let picks := selectDiversityElitePositions ranked keepCount config.diversityEliteCount
      config.diversityEliteFitnessEpsilon
    ∃ positions kept, KeepsBest config survivorPopulationSize ranked picks positions ∧
      positions.mapM (fun position => ranked[position]?) = some kept ∧
      prune config survivorPopulationSize state = some { state with
        population := kept.map fun survivor => { survivor.individual with parentFitness := none }
        fitnessScores := kept.map RankedIndividual.fitness
        populationOrigins := kept.map fun _ => .eliteCarryover } ∧
      ranked.Perm (evaluated state) ∧
      ((∀ score ∈ state.fitnessScores, equal score score = true) →
        ranked.Pairwise fun first second => rankedBefore first second = true) := by
  intro ranked keepCount picks
  have some_ranked : 0 < ranked.length := by
    rw [length_rank, aligned, min_self]
    exact List.length_pos_iff.mpr inhabited
  have counted : 0 < keepCount := lt_min positive some_ranked
  obtain ⟨best, leads⟩ : ∃ best, ranked[0]? = some best :=
    ⟨_, List.getElem?_eq_getElem some_ranked⟩
  obtain ⟨few, _, chosen⟩ := selectDiversityElitePositions_spec keepCount
    config.diversityEliteCount config.diversityEliteFitnessEpsilon leads
  obtain ⟨count, distinct, inside, first, picked, below⟩ :=
    selectedPositions_spec config counted (min_le_right _ ranked.length)
  obtain ⟨kept, read⟩ := mapM_getElem? inside
  refine ⟨selectedPositions config ranked keepCount, kept, ?_, read, ?_, rank_spec state⟩
  · refine ⟨count, distinct, first, picked, ?_, ?_, ?_, below⟩
    · have slots : keepCount - 1 ≤ survivorPopulationSize - 1 :=
        Nat.sub_le_sub_right (min_le_left _ _) 1
      exact few.trans (min_le_min_left _ slots)
    · intro position member
      obtain ⟨before, after, split⟩ := List.append_of_mem member
      obtain ⟨_, entry, found, near, _⟩ :=
        mem_nearBestPositions.mp (chosen before position after split).candidate
      refine ⟨entry, best, found, leads, ?_⟩
      rw [isNearBestFitness] at near
      split at near
      case isTrue ties => exact Or.inl ties
      case isFalse apart => exact Or.inr (Bool.or_eq_true _ _ ▸ near)
    · exact fun before position after split => ⟨best, leads, chosen before position after split⟩
  · rw [prune, if_neg (not_or.mpr ⟨counted.ne', not_not.mpr count⟩)]
    exact congrArg (Option.map _) read

end

section

/-! ## Two networks that tie up to rounding -/

def nearTie : Evolution ℚ where
  population := [
    { brainKind := text "NeuralNet", scenarioId := ⟨8⟩, genome := some ⟨[0]⟩ },
    { brainKind := text "NeuralNet", scenarioId := ⟨8⟩, genome := some ⟨[1]⟩ }]
  populationOrigins := [.seed, .seed]
  fitnessScores := [1, 1 - 1 / 10 ^ 13]
  bestFitnessThisGen := 1
  bestFitnessAllTime := 1
  pendingBest := .cleared
  repository := {}

theorem rank_nearTie : rank nearTie = evaluated nearTie :=
  List.mergeSort_of_pairwise (by decide +kernel)

theorem prune_keepsBest_nearTie :
    let ranked := rank nearTie
    let keepCount := min 2 ranked.length
    let picks := selectDiversityElitePositions ranked keepCount
      GenerationCycle.soloConfig.diversityEliteCount
      GenerationCycle.soloConfig.diversityEliteFitnessEpsilon
    ∃ positions kept, KeepsBest GenerationCycle.soloConfig 2 ranked picks positions ∧
      positions.mapM (fun position => ranked[position]?) = some kept ∧
      prune GenerationCycle.soloConfig 2 nearTie = some { nearTie with
        population := kept.map fun survivor => { survivor.individual with parentFitness := none }
        fitnessScores := kept.map RankedIndividual.fitness
        populationOrigins := kept.map fun _ => .eliteCarryover } ∧
      ranked.Perm (evaluated nearTie) ∧
      ((∀ score ∈ nearTie.fitnessScores, equal score score = true) →
        ranked.Pairwise fun first second => rankedBefore first second = true) :=
  prune_keepsBest GenerationCycle.soloConfig (by decide) (List.cons_ne_nil _ _) rfl

/-- A diverse position may tie with the best one without lying within the fitness epsilon. -/
theorem not_withinEpsilon :
    ¬ ∀ (config : BreedingConfig ℚ) (state : Evolution ℚ) (keepCount : ℕ),
      ∀ position ∈ selectDiversityElitePositions (rank state) keepCount config.diversityEliteCount
        config.diversityEliteFitnessEpsilon, ∀ entry best : RankedIndividual ℚ,
        (rank state)[position]? = some entry → (rank state)[0]? = some best →
          less (add entry.fitness config.diversityEliteFitnessEpsilon) best.fitness = false := by
  intro within
  have tie := within GenerationCycle.soloConfig nearTie 2
  rw [rank_nearTie] at tie
  have apart := tie 1 (by decide +kernel) _ _ rfl rfl
  revert apart
  decide +kernel

end

end Evolution

end DirtSim
