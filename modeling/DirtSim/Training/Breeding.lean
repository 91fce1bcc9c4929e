import DirtSim.Training.EvolutionState

/-! # Breeding the next generation

A grown population is pruned to the best one, a few near-best ones with distant genomes, and the top
of the ranking; tournaments then yield the offspring. The draws and what they make of a genome are
arguments (`Evolution.OffspringChoice`).
-/

namespace DirtSim

open Foundation Double FitnessArithmetic

/-- The arithmetic used to compare genomes. -/
class BreedingArithmetic (F : Type) extends FitnessArithmetic F where
  add : F → F → F
  div : F → F → F
  sqrt : F → F
  /-- A single-precision number by its bits. -/
  ofWeight : UInt32 → F
  ofNat : ℕ → F
  infinity : F
  distanceTieEpsilon : F

/-- The part of the configuration that breeding reads. -/
structure BreedingConfig (F : Type) where
  tournamentSize : ℤ := 3
  diversityEliteCount : ℤ := 1
  diversityEliteFitnessEpsilon : F

namespace Evolution

variable {F : Type}

structure RankedIndividual (F : Type) where
  fitness : F
  individual : Individual F
  origin : IndividualOrigin
  order : ℕ

/-- The draws for one offspring: of its tournament, and of the mutation of its parent's genome. -/
structure OffspringChoice where
  draws : List ℕ
  mutatedGenome : Genome
  totalChanges : ℤ

def isOffspringOrigin (origin : IndividualOrigin) : Bool :=
  origin = .offspringMutated || origin = .offspringClone

section

variable [BreedingArithmetic F]

/-- Fittest first; of equals, offspring first and then in their order. -/
def rankedBefore (first second : RankedIndividual F) : Bool :=
  if !equal first.fitness second.fitness then less second.fitness first.fitness
  else if isOffspringOrigin first.origin ≠ isOffspringOrigin second.origin then
    isOffspringOrigin first.origin
  else first.order < second.order

def rank (state : Evolution F) : List (RankedIndividual F) :=
  let individuals := (state.population.zip state.fitnessScores).zipIdx.map fun entry =>
    { fitness := entry.1.2
      individual := entry.1.1
      origin := state.populationOrigins[entry.2]?.getD .unknown
      order := entry.2 }
  individuals.mergeSort fun first second => !rankedBefore second first

end

section

variable [BreedingArithmetic F]

open BreedingArithmetic

/-- The weights of two individuals, when their genomes can be compared. -/
def comparableWeights (left right : Individual F) : Option (List UInt32 × List UInt32) :=
  match left.genome, right.genome with
  | some leftGenome, some rightGenome =>
      if leftGenome.weights ≠ [] ∧ leftGenome.weights.length = rightGenome.weights.length then
        some (leftGenome.weights, rightGenome.weights)
      else none
  | _, _ => none

def computeGenomeWeightDistance (leftWeights rightWeights : List UInt32) : F :=
  let squaredDistance : F := (leftWeights.zip rightWeights).foldl
    (fun sum weights =>
      let delta := sub (ofWeight weights.1) (ofWeight weights.2)
      add sum (mul delta delta)) zero
  sqrt (div squaredDistance (ofNat leftWeights.length))

def isNearBestFitness (fitness bestFitness fitnessEpsilon : F) : Bool :=
  if fitnessTiesBest fitness bestFitness then true
  else less bestFitness (add fitness fitnessEpsilon) ||
    equal (add fitness fitnessEpsilon) bestFitness

def minDistance (ranked : List (RankedIndividual F)) (candidate : Individual F)
    (references : List ℕ) : Option F :=
  references.foldl (fun nearest reference =>
    match (ranked[reference]?).bind fun entry => comparableWeights candidate entry.individual with
    | none => nearest
    | some (weights, others) =>
        let distance := computeGenomeWeightDistance weights others
        let least := nearest.getD infinity
        some (if less distance least then distance else least)) none

/-- The candidate farthest from the references, the first of equals. -/
def farthestCandidate (ranked : List (RankedIndividual F)) (candidates selected : List ℕ)
    (references : List ℕ) : Option (ℕ × F) :=
  candidates.foldl (fun best candidatePos =>
    if candidatePos ∈ selected then best
    else match (ranked[candidatePos]?).bind fun entry =>
        minDistance ranked entry.individual references with
      | none => best
      | some distance =>
          match best with
          | none => some (candidatePos, distance)
          | some (bestCandidate, bestMinDistance) =>
              let apart := abs (sub distance bestMinDistance)
              if less (add bestMinDistance distanceTieEpsilon) distance ∨
                  ((less apart distanceTieEpsilon ∨ equal apart distanceTieEpsilon) ∧
                    candidatePos < bestCandidate) then
                some (candidatePos, distance)
              else best) none

/-- Fills the slots one after another; `selected` holds those filled, and position 0 is always a
reference. -/
def fillDiverseSlots (ranked : List (RankedIndividual F)) (candidates : List ℕ) :
    ℕ → List ℕ → List ℕ
  | 0, selected => selected
  | slots + 1, selected =>
      match farthestCandidate ranked candidates selected (0 :: selected) with
      | none => selected
      | some (position, _) => fillDiverseSlots ranked candidates slots (selected ++ [position])

def selectDiversityElitePositions (ranked : List (RankedIndividual F)) (keepCount : ℕ)
    (diversityEliteCount : ℤ) (diversityFitnessEpsilon : F) : List ℕ :=
  match ranked with
  | [] => []
  | best :: _ =>
      if keepCount ≤ 1 ∨ diversityEliteCount ≤ 0 then []
      else
        let diverseSlots := min diversityEliteCount.toNat (keepCount - 1)
        let candidates := (List.range' 1 (ranked.length - 1)).filter fun i =>
          match ranked[i]? with
          | none => false
          | some entry =>
              isNearBestFitness entry.fitness best.fitness diversityFitnessEpsilon &&
                entry.individual.genome.isSome
        fillDiverseSlots ranked candidates diverseSlots []

end

section

def selectPosition (size keepCount : ℕ) (selected : List ℕ) (position : ℕ) : List ℕ :=
  if keepCount ≤ selected.length ∨ size ≤ position ∨ position ∈ selected then selected
  else selected ++ [position]

variable [BreedingArithmetic F]

/-- The positions that survive: the best one, the diverse ones and then down the ranking. -/
def selectedPositions (config : BreedingConfig F) (ranked : List (RankedIndividual F))
    (keepCount : ℕ) : List ℕ :=
  (0 :: (selectDiversityElitePositions ranked keepCount config.diversityEliteCount
    config.diversityEliteFitnessEpsilon ++ List.range' 1 (ranked.length - 1))).foldl
      (selectPosition ranked.length keepCount) []

def prune (config : BreedingConfig F) (survivorPopulationSize : ℕ) (state : Evolution F) :
    Option (Evolution F) :=
  let ranked := rank state
  let keepCount := min survivorPopulationSize ranked.length
  let positions := selectedPositions config ranked keepCount
  if keepCount = 0 ∨ positions.length ≠ keepCount then none
  else (positions.mapM fun position => ranked[position]?).map fun survivors =>
    { state with
      population := survivors.map fun survivor => { survivor.individual with parentFitness := none }
      fitnessScores := survivors.map RankedIndividual.fitness
      populationOrigins := survivors.map fun _ => .eliteCarryover }

end

section

variable [FitnessArithmetic F]

def tournamentSelectIndex (fitness : List F) (tournamentSize : ℤ) (draws : List ℕ) : Option ℕ :=
  if fitness = [] ∨ tournamentSize ≤ 0 ∨ (draws.length : ℤ) ≠ tournamentSize then none
  else match draws with
    | [] => none
    | first :: others =>
        (fitness[first]?).bind fun firstFitness =>
          (others.foldlM (fun best idx => (fitness[idx]?).map fun score =>
            if less best.2 score then (idx, score) else best) (first, firstFitness)).map Prod.fst

def offspring (setup : TrainingSetup) (config : BreedingConfig F) (state : Evolution F)
    (choice : OffspringChoice) : Option (Individual F × IndividualOrigin) :=
  (tournamentSelectIndex state.fitnessScores config.tournamentSize choice.draws).bind fun parentIdx =>
    (state.population[parentIdx]?).bind fun parent =>
      (state.fitnessScores[parentIdx]?).bind fun parentFitness =>
        let child := { parent with parentFitness := some parentFitness }
        if parent.genome.isNone ∨ parent.allowsMutation = false then
          some (child, .offspringClone)
        else if (setup.brainRegistry setup.trainingSpec.organismType parent.brainKind
            (parent.brainVariant.getD [])).isNone then none
        else some ({ child with genome := some choice.mutatedGenome },
          if choice.totalChanges > 0 then .offspringMutated else .offspringClone)

end

variable [BreedingArithmetic F]

/-- The survivors and their offspring, one for each place of the configured population. -/
def breed (setup : TrainingSetup) (config : BreedingConfig F) (populationSize : ℕ)
    (pruneBeforeBreeding : Bool) (choices : List OffspringChoice) (state : Evolution F) :
    Option (Bred F) :=
  if populationSize = 0 ∨ choices.length ≠ populationSize then none
  else
    (if pruneBeforeBreeding then prune config populationSize state else some state).bind
      fun survivors =>
        if survivors.population.length ≠ survivors.fitnessScores.length then none
        else (choices.mapM (offspring setup config survivors)).bind fun offspring =>
          let members := survivors.population.zip survivors.populationOrigins ++ offspring
          if nonempty : members ≠ [] then some { members := members, nonempty := nonempty }
          else none

section

/-! ## How many are bred -/

variable {setup : TrainingSetup} {config : BreedingConfig F} {state survivors : Evolution F}

theorem length_mapM {α β : Type} {read : α → Option β} {keys : List α} {values : List β}
    (found : keys.mapM read = some values) : values.length = keys.length := by
  induction keys generalizing values with
  | nil =>
      cases found
      rfl
  | cons key keys ih =>
      rw [List.mapM_cons] at found
      obtain ⟨value, _, found⟩ := Option.bind_eq_some_iff.mp found
      obtain ⟨rest, others, same⟩ := Option.bind_eq_some_iff.mp found
      cases same
      rw [List.length_cons, List.length_cons, ih others]

theorem length_rank (state : Evolution F) :
    (rank state).length = min state.population.length state.fitnessScores.length := by
  rw [rank, List.length_mergeSort, List.length_map, List.length_zipIdx, List.length_zip]

theorem prune_length {survivorPopulationSize : ℕ}
    (aligned : state.fitnessScores.length = state.population.length)
    (pruned : state.prune config survivorPopulationSize = some survivors) :
    survivors.population.length = min survivorPopulationSize state.population.length ∧
      survivors.populationOrigins.length = survivors.population.length := by
  simp only [prune] at pruned
  split at pruned
  · cases pruned
  · rename_i counted
    obtain ⟨entries, found, rfl⟩ := Option.map_eq_some_iff.mp pruned
    have positions := not_not.mp (not_or.mp counted).2
    have ranked : (rank state).length = state.population.length := by
      rw [length_rank, aligned, min_self]
    have read := length_mapM found
    rw [positions, ranked] at read
    simp only [List.length_map]
    exact ⟨read, trivial⟩

/-- **Sizes of a generation.** The first population is joined by as many offspring; later ones are
pruned to the configured size first. -/
theorem length_breed {populationSize : ℕ} {pruneBeforeBreeding : Bool}
    {choices : List OffspringChoice} {bred : Bred F}
    (aligned : state.fitnessScores.length = state.population.length)
    (origins : state.populationOrigins.length = state.population.length)
    (breeds : state.breed setup config populationSize pruneBeforeBreeding choices = some bred) :
    0 < populationSize ∧ choices.length = populationSize ∧ bred.members.length =
      (if pruneBeforeBreeding then min populationSize state.population.length
        else state.population.length) + populationSize := by
  rw [breed] at breeds
  split at breeds
  · cases breeds
  · rename_i sized
    obtain ⟨positive, chosen⟩ := not_or.mp sized
    obtain ⟨survivors, kept, breeds⟩ := Option.bind_eq_some_iff.mp breeds
    split at breeds
    · cases breeds
    · obtain ⟨offspring, drawn, breeds⟩ := Option.bind_eq_some_iff.mp breeds
      simp only at breeds
      split at breeds
      · cases breeds
        refine ⟨Nat.pos_of_ne_zero positive, not_not.mp chosen, ?_⟩
        have sizes : survivors.population.length =
              (if pruneBeforeBreeding then min populationSize state.population.length
                else state.population.length) ∧
            survivors.populationOrigins.length = survivors.population.length := by
          split at kept
          · rename_i prunes
            rw [if_pos prunes]
            exact prune_length aligned kept
          · rename_i keeps
            cases kept
            rw [if_neg keeps]
            exact ⟨rfl, origins⟩
        rw [List.length_append, List.length_zip, sizes.2, min_self, sizes.1, length_mapM drawn,
          not_not.mp chosen]
      · cases breeds

end

end Evolution

end DirtSim
