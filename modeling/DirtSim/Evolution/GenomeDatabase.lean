import DirtSim.Evolution.GenomeRepository

/-! # The database behind the genome repository

A persistent repository writes every change through to two tables, and a new one starts from what
`loadFromDb` reads there, in any order. Statements succeed; the writer and reader of metadata are
parameters (`MetadataJson`), and a record without a text is not written.
-/

namespace DirtSim

open Foundation

/-- The JSON library on metadata. Writing and reading may throw. -/
structure MetadataJson (F Text : Type) where
  dump : GenomeMetadata F → Option Text
  parse : Text → Option (GenomeMetadata F)

abbrev IdText := List Char

/-- A row of the genomes table without its key. A missing hash reads as the empty text. -/
structure GenomeRow (Text : Type) where
  weights : List UInt32
  metadataJson : Text
  contentHash : ContentHash

structure GenomeDatabase (Text : Type) where
  genomes : Dict IdText (GenomeRow Text) := ∅
  bestId : Option IdText := none

namespace GenomeDatabase

variable {F Text : Type}

def persistGenome (json : MetadataJson F Text) (database : GenomeDatabase Text) (id : GenomeId)
    (genome : Genome) (metadata : GenomeMetadata F) (contentHash : ContentHash) :
    GenomeDatabase Text :=
  match json.dump metadata with
  | none => database
  | some metadataJson =>
      { database with
        genomes := database.genomes.insert id.toString
          { weights := genome.weights, metadataJson := metadataJson, contentHash := contentHash } }

def persistGenomeHash (database : GenomeDatabase Text) (id : GenomeId)
    (contentHash : ContentHash) : GenomeDatabase Text :=
  { database with
    genomes := database.genomes.modify id.toString fun row =>
      { row with contentHash := contentHash } }

def deleteGenome (database : GenomeDatabase Text) (id : GenomeId) : GenomeDatabase Text :=
  { database with genomes := database.genomes.erase id.toString }

def bestIdText (bestId : Option GenomeId) : IdText :=
  match bestId with
  | some id => id.toString
  | none => []

def persistBestId (database : GenomeDatabase Text) (bestId : Option GenomeId) :
    GenomeDatabase Text :=
  { database with bestId := some (bestIdText bestId) }

def clearDb (_database : GenomeDatabase Text) : GenomeDatabase Text := {}

end GenomeDatabase

/-- A repository together with its database. -/
structure PersistentRepository (F Text : Type) where
  memory : GenomeRepository F := {}
  database : GenomeDatabase Text := {}

namespace PersistentRepository

variable {F Text : Type}

section

variable [Double F] (json : MetadataJson F Text)

/-- Enters a loaded genome into the hash maps: the first row of a content, or a fitter one. -/
def indexLoaded (repository : GenomeRepository F) (id : GenomeId) (metadata : GenomeMetadata F)
    (contentHash : ContentHash) : GenomeRepository F :=
  let claimed := { repository with
    hashToId := repository.hashToId.insert contentHash id
    idToHash := repository.idToHash.insert id contentHash }
  match repository.hashToId.lookup contentHash with
  | none => claimed
  | some existingId =>
      let displaced := { repository with
        hashToId := repository.hashToId.insert contentHash id
        idToHash := (repository.idToHash.erase existingId).insert id contentHash }
      match repository.metadata.lookup existingId with
      | none => displaced
      | some existing =>
          if Double.less (effectiveRobustFitness existing) (effectiveRobustFitness metadata) then
            displaced
          else repository

/-- Loads one row. A key that is no identifier ends the loading; a nil key and a record that
cannot be read are skipped. -/
def loadRow (loaded : PersistentRepository F Text) (key : IdText) (row : GenomeRow Text) :
    Option (PersistentRepository F Text) :=
  (UUID.fromString key).map fun id =>
    if id = invalidGenomeId then loaded
    else match json.parse row.metadataJson with
      | none => loaded
      | some parsed =>
          let genome : Genome := ⟨row.weights⟩
          let metadata := normalizeRobustMetadata parsed
          let missing := row.contentHash.isEmpty
          let contentHash :=
            if missing then computeContentHash genome metadata else row.contentHash
          { memory := indexLoaded
              { loaded.memory with
                genomes := loaded.memory.genomes.insert id genome
                metadata := loaded.memory.metadata.insert id metadata } id metadata contentHash
            database :=
              if missing then loaded.database.persistGenomeHash id contentHash
              else loaded.database }

/-- The best identifier stands when it is the identifier of a loaded genome. -/
def loadBestId (repository : GenomeRepository F) (bestId : Option IdText) :
    Option (GenomeRepository F) :=
  match bestId with
  | none | some [] => some repository
  | some text =>
      (UUID.fromString text).map fun id =>
        if id ≠ invalidGenomeId ∧ (repository.genomes.lookup id).isSome then
          { repository with bestId := some id }
        else repository

/-- Opens a repository on a database whose rows come in the order given; `none` is an exception. -/
def loadFromDb (database : GenomeDatabase Text) (rows : Dict IdText (GenomeRow Text)) :
    Option (PersistentRepository F Text) :=
  (rows.entries.foldlM (fun loaded row => loadRow json loaded row.1 row.2)
    { database := database }).bind fun loaded =>
      (loadBestId loaded.memory database.bestId).map fun memory => { loaded with memory := memory }

end

section

variable [Double F] (json : MetadataJson F Text)

def store (repository : PersistentRepository F Text) (id : GenomeId) (genome : Genome)
    (metadata : GenomeMetadata F) (draw : Draw) : PersistentRepository F Text :=
  let normalizedMeta := normalizeRobustMetadata metadata
  { memory := repository.memory.store id genome metadata draw
    database := repository.database.persistGenome json (GenomeRepository.storeId id draw) genome
      normalizedMeta (computeContentHash genome normalizedMeta) }

/-- What `storeOrUpdateByHash` writes: the record merged with the one it updates, if any. -/
def writtenMetadata (repository : GenomeRepository F) (genome : Genome)
    (metadata : GenomeMetadata F) : GenomeMetadata F :=
  let normalizedMeta := normalizeRobustMetadata metadata
  match repository.hashToId.lookup (computeContentHash genome normalizedMeta) with
  | none => normalizedMeta
  | some existingId =>
      match repository.metadata.lookup existingId with
      | some existing => mergeMetadata existing normalizedMeta
      | none => normalizedMeta

def storeOrUpdateByHash (repository : PersistentRepository F Text) (genome : Genome)
    (metadata : GenomeMetadata F) (preferredId : Option GenomeId) (draws : List Draw) :
    Option (PersistentRepository F Text × StoreByHashResult) :=
  (repository.memory.storeOrUpdateByHash genome metadata preferredId draws).map
    fun (memory, result) =>
      ({ memory := memory
         database := repository.database.persistGenome json result.id genome
           (writtenMetadata repository.memory genome metadata)
           (computeContentHash genome (normalizeRobustMetadata metadata)) }, result)

end

section

def removeNoLock (repository : PersistentRepository F Text) (id : GenomeId) :
    PersistentRepository F Text where
  memory := repository.memory.removeNoLock id
  database :=
    let database :=
      if repository.memory.bestId = some id then repository.database.persistBestId none
      else repository.database
    database.deleteGenome id

def remove (repository : PersistentRepository F Text) (id : GenomeId) :
    PersistentRepository F Text :=
  repository.removeNoLock id

def clear (repository : PersistentRepository F Text) : PersistentRepository F Text where
  memory := repository.memory.clear
  database := repository.database.clearDb

def markAsBest (repository : PersistentRepository F Text) (id : GenomeId) :
    PersistentRepository F Text where
  memory := repository.memory.markAsBest id
  database :=
    if (repository.memory.genomes.lookup id).isSome then
      repository.database.persistBestId (some id)
    else repository.database

def removeInOrder : List GenomeId → ℕ → PersistentRepository F Text × ℕ →
    PersistentRepository F Text × ℕ
  | [], _, state => state
  | _, 0, state => state
  | id :: ids, budget + 1, (repository, removed) =>
      if repository.memory.bestId = some id then
        removeInOrder ids (budget + 1) (repository, removed)
      else removeInOrder ids budget (repository.removeNoLock id, removed + 1)

end

section

variable [Double F]

def pruneBucket (maxManagedGenomes : ℕ) (ids : List GenomeId)
    (state : PersistentRepository F Text × ℕ) : Option (PersistentRepository F Text × ℕ) :=
  if ids.length ≤ maxManagedGenomes then some state
  else (state.1.memory.sortBucket ids).map fun sorted =>
    removeInOrder sorted (ids.length - maxManagedGenomes) state

def pruneManagedByFitness (repository : PersistentRepository F Text) (maxManagedGenomes : ℕ) :
    Option (PersistentRepository F Text × ℕ) :=
  if maxManagedGenomes = 0 then some (repository, 0)
  else repository.memory.managedBuckets.foldlM
    (fun state bucket => pruneBucket maxManagedGenomes bucket.2 state) (repository, 0)

end

end PersistentRepository

end DirtSim
