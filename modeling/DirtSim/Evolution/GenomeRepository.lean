import DirtSim.Evolution.GenomeMetadata
import DirtSim.Foundation.Dict

/-! # The genome repository

Genomes and their metadata are stored under identifiers, with maps to their content hashes and back.
The draws of new identifiers are arguments; the loop ends with `none` when it runs out of them, and
a failed assertion is `none` too.
-/

namespace DirtSim

open Foundation

abbrev Draw := UInt64 × UInt64

structure GenomeRepository (F : Type) where
  genomes : Dict GenomeId Genome := ∅
  hashToId : Dict ContentHash GenomeId := ∅
  idToHash : Dict GenomeId ContentHash := ∅
  metadata : Dict GenomeId (GenomeMetadata F) := ∅
  bestId : Option GenomeId := none

/-- Managed genomes are pruned separately for each of these. -/
structure ManagedGenomeBucketKey where
  organismType : ℤ
  brainKind : ByteString
  genomePoolId : GenomePoolId
deriving DecidableEq, Repr

structure StoreByHashResult where
  id : GenomeId
  inserted : Bool
  deduplicated : Bool
deriving DecidableEq

namespace GenomeRepository

variable {F : Type} [Double F]

def generate (draw : Draw) : GenomeId := UUID.generate draw.1 draw.2

def drawFree (repository : GenomeRepository F) : List Draw → Option GenomeId
  | [] => none
  | draw :: draws =>
      if (repository.genomes.lookup (generate draw)).isSome then repository.drawFree draws
      else some (generate draw)

/-- The identifier for a new genome: the preferred one, or the first draw, unless it is taken. -/
def chooseId (repository : GenomeRepository F) (preferredId : Option GenomeId)
    (draws : List Draw) : Option GenomeId :=
  match preferredId, draws with
  | none, [] => none
  | none, draw :: draws =>
      if generate draw = invalidGenomeId ∨ (repository.genomes.lookup (generate draw)).isSome then
        repository.drawFree draws
      else some (generate draw)
  | some id, draws =>
      if id = invalidGenomeId ∨ (repository.genomes.lookup id).isSome then
        repository.drawFree draws
      else some id

def storeId (id : GenomeId) (draw : Draw) : GenomeId :=
  if id = invalidGenomeId then generate draw else id

/-- Drops the forward entry of an identifier whose content is about to change. -/
def forgetOldHash (repository : GenomeRepository F) (id : GenomeId) (contentHash : ContentHash) :
    Dict ContentHash GenomeId :=
  match repository.idToHash.lookup id with
  | none => repository.hashToId
  | some oldHash =>
      if oldHash ≠ contentHash ∧ repository.hashToId.lookup oldHash = some id then
        repository.hashToId.erase oldHash
      else repository.hashToId

/-- Store a genome with metadata at the given identifier. Overwrites if it exists. -/
def store (repository : GenomeRepository F) (id : GenomeId) (genome : Genome)
    (metadata : GenomeMetadata F) (draw : Draw) : GenomeRepository F :=
  let id := storeId id draw
  let normalizedMeta := normalizeRobustMetadata metadata
  let contentHash := computeContentHash genome normalizedMeta
  { repository with
    genomes := repository.genomes.insert id genome
    metadata := repository.metadata.insert id normalizedMeta
    hashToId := (repository.forgetOldHash id contentHash).insert contentHash id
    idToHash := repository.idToHash.insert id contentHash }

/-- Store a genome keyed by content hash. Reuses the identifier of a genome of that content. -/
def storeOrUpdateByHash (repository : GenomeRepository F) (genome : Genome)
    (metadata : GenomeMetadata F) (preferredId : Option GenomeId) (draws : List Draw) :
    Option (GenomeRepository F × StoreByHashResult) :=
  let normalizedMeta := normalizeRobustMetadata metadata
  let contentHash := computeContentHash genome normalizedMeta
  match repository.hashToId.lookup contentHash with
  | some existingId =>
      let mergedMeta := match repository.metadata.lookup existingId with
        | some existing => mergeMetadata existing normalizedMeta
        | none => normalizedMeta
      some
        ({ repository with
          genomes := repository.genomes.insert existingId genome
          metadata := repository.metadata.insert existingId mergedMeta
          idToHash := repository.idToHash.insert existingId contentHash },
        { id := existingId, inserted := false, deduplicated := true })
  | none =>
      (repository.chooseId preferredId draws).map fun id =>
        ({ repository with
          genomes := repository.genomes.insert id genome
          metadata := repository.metadata.insert id normalizedMeta
          hashToId := repository.hashToId.insert contentHash id
          idToHash := repository.idToHash.insert id contentHash },
        { id := id, inserted := true, deduplicated := false })

/-- Forgets a genome; its forward entry goes only when it leads to this identifier. -/
def removeNoLock (repository : GenomeRepository F) (id : GenomeId) : GenomeRepository F :=
  { genomes := repository.genomes.erase id
    metadata := repository.metadata.erase id
    hashToId := match repository.idToHash.lookup id with
      | none => repository.hashToId
      | some hash =>
          if repository.hashToId.lookup hash = some id then repository.hashToId.erase hash
          else repository.hashToId
    idToHash := repository.idToHash.erase id
    bestId := if repository.bestId = some id then none else repository.bestId }

def remove (repository : GenomeRepository F) (id : GenomeId) : GenomeRepository F :=
  repository.removeNoLock id

def clear (_repository : GenomeRepository F) : GenomeRepository F := {}

def markAsBest (repository : GenomeRepository F) (id : GenomeId) : GenomeRepository F :=
  if (repository.genomes.lookup id).isSome then { repository with bestId := some id }
  else repository

section

def bucketKey (metadata : GenomeMetadata F) : ManagedGenomeBucketKey where
  organismType := match metadata.organismType with
    | some organismType => organismType.number
    | none => -1
  brainKind := metadata.brainKind.getD []
  genomePoolId := metadata.genomePoolId

/-- Adds an identifier to its bucket, which is created when it is missing. -/
def addToBucket (key : ManagedGenomeBucketKey) (id : GenomeId) :
    List (ManagedGenomeBucketKey × List GenomeId) →
      List (ManagedGenomeBucketKey × List GenomeId)
  | [] => [(key, [id])]
  | (other, ids) :: rest =>
      if other = key then (other, ids ++ [id]) :: rest
      else (other, ids) :: addToBucket key id rest

/-- The managed genomes, those of a training session, by bucket. -/
def managedBuckets (repository : GenomeRepository F) :
    List (ManagedGenomeBucketKey × List GenomeId) :=
  repository.metadata.entries.foldl
    (fun buckets entry =>
      if entry.2.trainingSessionId.isSome then addToBucket (bucketKey entry.2) entry.1 buckets
      else buckets) []

/-- Least fit first, then oldest first, then by text. -/
def lessFit (left right : GenomeId × GenomeMetadata F) : Bool :=
  let leftScore := effectiveRobustFitness left.2
  let rightScore := effectiveRobustFitness right.2
  if !Double.equal leftScore rightScore then Double.less leftScore rightScore
  else if left.2.createdTimestamp ≠ right.2.createdTimestamp then
    left.2.createdTimestamp < right.2.createdTimestamp
  else left.1.toString < right.1.toString

/-- The identifiers of a bucket in removal order; aborts when one has no metadata. -/
def sortBucket (repository : GenomeRepository F) (ids : List GenomeId) : Option (List GenomeId) :=
  (ids.mapM fun id => (repository.metadata.lookup id).map fun metadata => (id, metadata)).map
    fun entries => (entries.mergeSort fun left right => !lessFit right left).map Prod.fst

/-- Removes up to a number of genomes in order, the best one excepted. -/
def removeInOrder : List GenomeId → ℕ → GenomeRepository F × ℕ → GenomeRepository F × ℕ
  | [], _, state => state
  | _, 0, state => state
  | id :: ids, budget + 1, (repository, removed) =>
      if repository.bestId = some id then removeInOrder ids (budget + 1) (repository, removed)
      else removeInOrder ids budget (repository.removeNoLock id, removed + 1)

def pruneBucket (maxManagedGenomes : ℕ) (ids : List GenomeId)
    (state : GenomeRepository F × ℕ) : Option (GenomeRepository F × ℕ) :=
  if ids.length ≤ maxManagedGenomes then some state
  else (state.1.sortBucket ids).map fun sorted =>
    removeInOrder sorted (ids.length - maxManagedGenomes) state

/-- Keeps only the fittest managed genomes of each bucket; also returns how many were removed. -/
def pruneManagedByFitness (repository : GenomeRepository F) (maxManagedGenomes : ℕ) :
    Option (GenomeRepository F × ℕ) :=
  if maxManagedGenomes = 0 then some (repository, 0)
  else repository.managedBuckets.foldlM
    (fun state bucket => pruneBucket maxManagedGenomes bucket.2 state) (repository, 0)

end

end GenomeRepository

end DirtSim
