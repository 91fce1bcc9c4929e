import DirtSim.Evolution.GenomeLoading
import DirtSim.Foundation.Transition

/-! # Reopening the genome repository

The database mirrors the repository between calls, so that one opened on it holds the same genomes.
The hash maps are rebuilt from the rows, whereas memory forgets a hash when the genome its entry
leads to goes (`PersistentRepository.reopened_of_reachable`).
-/

namespace DirtSim

open Foundation

namespace PersistentRepository

variable {F Text : Type}
variable {after : PersistentRepository F Text} (victims : List GenomeId)

section

/-! ## Calls that write a row -/

variable [Double F] {json : MetadataJson F Text} {repository : PersistentRepository F Text}
variable {memory : GenomeRepository F} {draws : List Draw} {id : GenomeId}
  {preferredId : Option GenomeId} {genome : Genome} {metadata : GenomeMetadata F}

theorem storeId_ne_invalid (id : GenomeId) (draw : Draw) :
    GenomeRepository.storeId id draw ≠ invalidGenomeId := by
  rw [GenomeRepository.storeId]
  split
  · exact UUID.generate_ne_nil draw.1 draw.2
  · rename_i named
    exact named

omit [Double F] in
theorem drawFree_ne_invalid (drawn : memory.drawFree draws = some id) : id ≠ invalidGenomeId := by
  induction draws with
  | nil => cases drawn
  | cons draw draws ih =>
      rw [GenomeRepository.drawFree] at drawn
      split at drawn
      · exact ih drawn
      · cases drawn
        exact UUID.generate_ne_nil draw.1 draw.2

omit [Double F] in
theorem chooseId_ne_invalid (chosen : memory.chooseId preferredId draws = some id) :
    id ≠ invalidGenomeId := by
  cases preferredId with
  | some preferred =>
      rw [GenomeRepository.chooseId] at chosen
      split at chosen
      · exact drawFree_ne_invalid chosen
      · rename_i free
        cases chosen
        exact fun nil => free (Or.inl nil)
  | none =>
      cases draws with
      | nil => cases chosen
      | cons draw draws =>
          rw [GenomeRepository.chooseId] at chosen
          split at chosen
          · exact drawFree_ne_invalid chosen
          · cases chosen
            exact UUID.generate_ne_nil draw.1 draw.2

theorem Synchronized.write (lossless : json.Lossless) (synchronized : repository.Synchronized json)
    {changed : PersistentRepository F Text} {hash : ContentHash} (named : id ≠ invalidGenomeId)
    (genomes : changed.memory.genomes = repository.memory.genomes.insert id genome)
    (records : changed.memory.metadata = repository.memory.metadata.insert id metadata)
    (bestId : changed.memory.bestId = repository.memory.bestId)
    (database : changed.database = repository.database.persistGenome json id genome metadata hash)
    (finite : metadata.Finite) (normal : normalizeRobustMetadata metadata = metadata)
    (hashed : hash ≠ [])
    (index : Represents (Function.update (hashOf repository.database.row) id (some hash))
      changed.memory.hashToId.lookup changed.memory.idToHash.lookup) :
    changed.Synchronized json ∧ hashOf changed.database.row =
      Function.update (hashOf repository.database.row) id (some hash) := by
  obtain ⟨text, dumped, parsed⟩ := lossless metadata finite
  have rows := row_persistGenome repository.database id genome hash dumped
  have mirrors : Mirrors json changed.memory (Function.update repository.database.row id
      (some { weights := genome.weights, metadataJson := text, contentHash := hash })) :=
    synchronized.toMirrors.write named genomes records rfl parsed normal hashed index
  rw [← rows, ← database] at mirrors
  refine ⟨{ mirrors with keyed := ?_, best := ?_, known := ?_ }, ?_⟩
  · intro key present
    rw [database, GenomeDatabase.persistGenome, dumped, Dict.lookup_insert] at present
    split at present
    · rename_i same
      exact ⟨id, same.symm⟩
    · exact synchronized.keyed key present
  · rw [database, bestId, GenomeDatabase.persistGenome, dumped]
    exact synchronized.best
  · intro other best
    rw [genomes, Dict.lookup_insert]
    split
    · rfl
    · exact synchronized.known other (bestId ▸ best)
  · rw [database, rows, hashOf_update]
    rfl

omit [Double F] in
theorem forgetOldHash_represents {label : GenomeId → Option ContentHash}
    (index : Represents label memory.hashToId.lookup memory.idToHash.lookup) (id : GenomeId)
    (hash : ContentHash) :
    Represents (Function.update label id (some hash))
        ((memory.forgetOldHash id hash).insert hash id).lookup
        (memory.idToHash.insert id hash).lookup ∧
      (CoversExcept [] label memory.hashToId.lookup →
        (∀ oldHash, memory.hashToId.lookup oldHash = some id → oldHash ≠ hash →
          ∀ other, label other = some oldHash → other = id) →
        CoversExcept [] (Function.update label id (some hash))
          ((memory.forgetOldHash id hash).insert hash id).lookup) := by
  have forgets := memory.forgetOldHash_lookup id hash
  have dropped : ∀ name other, (memory.forgetOldHash id hash).lookup name = some other →
      memory.hashToId.lookup name = some other := by
    intro name other leads
    rw [forgets] at leads
    split at leads
    · cases leads
    · exact leads
  rw [Dict.lookup_insert_eq_update, Dict.lookup_insert_eq_update]
  constructor
  · refine (index.drop dropped).claim ?_
    intro name leads
    have led := dropped name id leads
    rw [forgets] at leads
    split at leads
    · cases leads
    · rename_i stays
      by_contra apart
      exact stays ⟨index.leads name id led, apart, led⟩
  · intro covers spares
    refine covers.claim ?_
    intro name apart entry
    rw [forgets]
    split
    · rename_i taken
      exact Or.inr (spares name taken.2.2 apart)
    · exact Or.inl entry

theorem Synchronized.store (lossless : json.Lossless) (synchronized : repository.Synchronized json)
    {draw : Draw} (finite : (normalizeRobustMetadata metadata).Finite) :
    (repository.store json id genome metadata draw).Synchronized json ∧
      (repository.Complete →
        (∀ oldHash, repository.memory.hashToId.lookup oldHash =
            some (GenomeRepository.storeId id draw) →
          oldHash ≠ computeContentHash genome metadata →
            ∀ other, hashOf repository.database.row other = some oldHash →
              other = GenomeRepository.storeId id draw) →
        (repository.store json id genome metadata draw).Complete) := by
  obtain ⟨index, covers⟩ := forgetOldHash_represents synchronized.index
    (GenomeRepository.storeId id draw)
    (computeContentHash genome (normalizeRobustMetadata metadata))
  have written : (repository.store json id genome metadata draw).Synchronized json ∧
      hashOf (repository.store json id genome metadata draw).database.row = _ :=
    synchronized.write lossless (storeId_ne_invalid id draw) rfl rfl rfl rfl finite
      (normalizeRobustMetadata_idem metadata) (computeContentHash_ne_nil _ _) index
  refine ⟨written.1, ?_⟩
  intro complete spares
  rw [Complete, written.2]
  rw [← GenomeRepository.computeContentHash_normalizeRobustMetadata] at spares
  exact covers complete spares

/-- A record stored by its hash is written where the forward entry leads, or to a new
identifier that claims the entry. -/
theorem storeOrUpdateByHash_writes {memory after : GenomeRepository F} {result : StoreByHashResult}
    (stored : memory.storeOrUpdateByHash genome metadata preferredId draws = some (after, result)) :
    after.genomes = memory.genomes.insert result.id genome ∧
      after.metadata =
        memory.metadata.insert result.id (writtenMetadata memory genome metadata) ∧
      after.idToHash = memory.idToHash.insert result.id
        (computeContentHash genome (normalizeRobustMetadata metadata)) ∧
      after.bestId = memory.bestId ∧
      (memory.hashToId.lookup (computeContentHash genome (normalizeRobustMetadata metadata)) =
            some result.id ∧
          after.hashToId = memory.hashToId ∨
        result.id ≠ invalidGenomeId ∧ memory.genomes.lookup result.id = none ∧
          after.hashToId = memory.hashToId.insert
            (computeContentHash genome (normalizeRobustMetadata metadata)) result.id) := by
  rw [GenomeRepository.storeOrUpdateByHash] at stored
  rw [writtenMetadata]
  dsimp only at stored ⊢
  split at stored
  · rename_i existingId leads
    cases stored
    rw [leads]
    exact ⟨rfl, rfl, rfl, rfl, Or.inl ⟨rfl, rfl⟩⟩
  · rename_i unknown
    obtain ⟨id, chosen, same⟩ := Option.map_eq_some_iff.mp stored
    cases same
    rw [unknown]
    exact ⟨rfl, rfl, rfl, rfl,
      Or.inr ⟨chooseId_ne_invalid chosen, GenomeRepository.chooseId_free chosen, rfl⟩⟩

theorem normalizeRobustMetadata_writtenMetadata
    (finite : (writtenMetadata memory genome metadata).Finite) :
    normalizeRobustMetadata (writtenMetadata memory genome metadata) =
      writtenMetadata memory genome metadata := by
  rw [writtenMetadata] at finite ⊢
  split at finite
  · exact normalizeRobustMetadata_idem metadata
  · split at finite
    · exact normalizeRobustMetadata_mergeMetadata finite
    · exact normalizeRobustMetadata_idem metadata

theorem Synchronized.storeOrUpdateByHash (lossless : json.Lossless)
    (synchronized : repository.Synchronized json)
    (finite : (writtenMetadata repository.memory genome metadata).Finite)
    {result : StoreByHashResult}
    (stored : repository.storeOrUpdateByHash json genome metadata preferredId draws =
      some (after, result)) : after.Synchronized json ∧ (repository.Complete → after.Complete) := by
  obtain ⟨⟨memory, other⟩, inMemory, same⟩ := Option.map_eq_some_iff.mp stored
  obtain ⟨built, sameResult⟩ := Prod.mk.inj same
  have database := congrArg PersistentRepository.database built.symm
  have kept := congrArg PersistentRepository.memory built
  dsimp only at sameResult kept database
  subst sameResult
  rw [kept] at inMemory
  obtain ⟨genomes, records, reverse, bestId, forward⟩ := storeOrUpdateByHash_writes inMemory
  have normal := normalizeRobustMetadata_writtenMetadata finite
  have hashed := computeContentHash_ne_nil genome (normalizeRobustMetadata metadata)
  generalize computeContentHash genome (normalizeRobustMetadata metadata) = hash at *
  have back : after.memory.idToHash.lookup =
      Function.update repository.memory.idToHash.lookup other.id (some hash) := by
    rw [reverse, Dict.lookup_insert_eq_update]
  rcases forward with ⟨leads, forward⟩ | ⟨named, free, forward⟩
  · -- the row of the existing identifier already carries the hash
    have carried := synchronized.index.carries leads
    have recorded := synchronized.index.leads hash other.id leads
    have named : other.id ≠ invalidGenomeId := by
      intro nil
      rw [hashOf, nil, synchronized.invalid] at carried
      cases carried
    have sameLabel : Function.update (hashOf repository.database.row) other.id (some hash) =
        hashOf repository.database.row := by rw [← carried, Function.update_eq_self]
    have sameBack : Function.update repository.memory.idToHash.lookup other.id (some hash) =
        repository.memory.idToHash.lookup := Function.update_eq_self_iff.mpr recorded.symm
    have index : Represents (Function.update (hashOf repository.database.row) other.id (some hash))
        after.memory.hashToId.lookup after.memory.idToHash.lookup := by
      rw [back, forward, sameLabel, sameBack]
      exact synchronized.index
    obtain ⟨through, labels⟩ := synchronized.write lossless named genomes records bestId database
      finite normal hashed index
    refine ⟨through, ?_⟩
    intro complete
    rw [Complete, labels, sameLabel, forward]
    exact complete
  · have fresh : hashOf repository.database.row other.id = none := by
      rw [synchronized.genome] at free
      rw [hashOf, Option.map_eq_none_iff.mp free, Option.map_none]
    have forwards : after.memory.hashToId.lookup =
        Function.update repository.memory.hashToId.lookup hash (some other.id) := by
      rw [forward, Dict.lookup_insert_eq_update]
    have index : Represents (Function.update (hashOf repository.database.row) other.id (some hash))
        after.memory.hashToId.lookup after.memory.idToHash.lookup := by
      rw [back, forwards]
      refine synchronized.index.claim ?_
      intro name leads
      have carried := synchronized.index.carries leads
      rw [fresh] at carried
      cases carried
    obtain ⟨through, labels⟩ := synchronized.write lossless named genomes records bestId database
      finite normal hashed index
    refine ⟨through, ?_⟩
    intro complete
    rw [Complete, labels, forwards]
    exact complete.claim fun name _ entry => Or.inl entry

end

section

/-! ## Calls that delete rows -/

variable {repository : PersistentRepository F Text}

theorem row_removeNoLock (repository : PersistentRepository F Text) (id : GenomeId) :
    (repository.removeNoLock id).database.row =
      Function.update repository.database.row id none := by
  rw [removeNoLock, row_deleteGenome]
  split <;> rfl

theorem lookup_hashToId_removeNoLock (repository : PersistentRepository F Text) (id : GenomeId)
    (hash : ContentHash) :
    (repository.removeNoLock id).memory.hashToId.lookup hash =
        repository.memory.hashToId.lookup hash ∨
      repository.memory.hashToId.lookup hash = some id ∧
        (repository.removeNoLock id).memory.hashToId.lookup hash = none := by
  rw [removeNoLock, GenomeRepository.lookup_hashToId_removeNoLock]
  split
  · rename_i taken
    exact Or.inr ⟨taken.2, rfl⟩
  · exact Or.inl rfl

theorem Synchronized.removeNoLock [Double F] {json : MetadataJson F Text}
    (synchronized : repository.Synchronized json) (id : GenomeId) :
    (repository.removeNoLock id).Synchronized json := by
  have mirrors := synchronized.toMirrors.erase id
  rw [← row_removeNoLock] at mirrors
  refine { mirrors with keyed := ?_, best := ?_, known := ?_ }
  · intro key present
    have rows : (repository.removeNoLock id).database.genomes =
        repository.database.genomes.erase id.toString := by
      rw [PersistentRepository.removeNoLock, GenomeDatabase.deleteGenome]
      split <;> rfl
    rw [rows, Dict.lookup_erase] at present
    split at present
    · cases present
    · exact synchronized.keyed key present
  · simp only [PersistentRepository.removeNoLock, GenomeDatabase.deleteGenome,
      GenomeRepository.removeNoLock]
    by_cases isBest : repository.memory.bestId = some id
    · rw [if_pos isBest, if_pos isBest]
      rfl
    · rw [if_neg isBest, if_neg isBest]
      exact synchronized.best
  · intro other best
    rw [PersistentRepository.removeNoLock, GenomeRepository.removeNoLock] at best ⊢
    dsimp only at best ⊢
    split at best
    · cases best
    · rename_i notBest
      have apart : other ≠ id := fun same => notBest (same ▸ best)
      rw [Dict.lookup_erase, if_neg apart]
      exact synchronized.known other best

theorem Synchronized.removeAll [Double F] {json : MetadataJson F Text}
    (synchronized : repository.Synchronized json) :
    Synchronized json (victims.foldl PersistentRepository.removeNoLock repository) := by
  induction victims generalizing repository with
  | nil => exact synchronized
  | cons victim victims ih => exact ih (synchronized.removeNoLock victim)

theorem row_removeAll (repository : PersistentRepository F Text) (id : GenomeId) :
    (victims.foldl removeNoLock repository).database.row id =
      if id ∈ victims then none else repository.database.row id := by
  induction victims generalizing repository with
  | nil => rw [if_neg List.not_mem_nil, List.foldl_nil]
  | cons victim victims ih =>
      rw [List.foldl_cons, ih, row_removeNoLock, Function.update_apply]
      by_cases first : id = victim
      · rw [if_pos first, ite_self, if_pos (first ▸ List.mem_cons_self)]
      · simp [first]

theorem Complete.removeAll {going : List GenomeId} (complete : repository.Complete)
    (spares : Spares (hashOf repository.database.row) repository.memory.hashToId.lookup going) :
    Complete (going.foldl removeNoLock repository) := by
  have kept : ∀ (victims : List GenomeId) (repository : PersistentRepository F Text),
      (∀ id ∈ victims, id ∈ going) →
      Spares (hashOf repository.database.row) repository.memory.hashToId.lookup going →
      CoversExcept going (hashOf repository.database.row) repository.memory.hashToId.lookup →
        CoversExcept going (hashOf (victims.foldl removeNoLock repository).database.row)
          (victims.foldl removeNoLock repository).memory.hashToId.lookup := by
    intro victims
    induction victims with
    | nil => intro repository _ _ covers; exact covers
    | cons victim victims ih =>
        intro repository doomed spares covers
        have entries := repository.lookup_hashToId_removeNoLock victim
        have labels : hashOf (repository.removeNoLock victim).database.row =
            Function.update (hashOf repository.database.row) victim none := by
          rw [row_removeNoLock, hashOf_update, Option.map_none]
        have fewer : ∀ hash other,
            (repository.removeNoLock victim).memory.hashToId.lookup hash = some other →
              repository.memory.hashToId.lookup hash = some other := by
          intro hash other leads
          rcases entries hash with same | gone
          · rw [← same]
            exact leads
          · rw [gone.2] at leads
            cases leads
        refine ih _ (fun id later => doomed id (List.mem_cons_of_mem _ later)) ?_ ?_
        · rw [labels]
          exact spares.remove victim fewer
        · rw [labels]
          refine covers.remove spares (doomed victim List.mem_cons_self) ?_
          intro hash
          exact (entries hash).imp_right And.left
  intro id hash carried
  refine Or.inl ?_
  have covered := kept going repository (fun _ member => member) spares complete.mono id hash carried
  refine covered.resolve_right ?_
  intro removed
  rw [hashOf, row_removeAll, if_pos removed] at carried
  cases carried

end

section

/-! ## Pruning removes its victims -/

theorem memory_removeAll (repository : PersistentRepository F Text) :
    (victims.foldl removeNoLock repository).memory =
      victims.foldl GenomeRepository.removeNoLock repository.memory := by
  induction victims generalizing repository with
  | nil => rfl
  | cons victim victims ih => exact ih (repository.removeNoLock victim)

theorem removeInOrder_eq {before : GenomeRepository F} (thinned : before.Thinned after.memory)
    (ids : List GenomeId) (budget removed : ℕ) :
    (removeInOrder ids budget (after, removed)).1 =
      ((ids.filter fun id => before.bestId ≠ some id).take budget).foldl removeNoLock after := by
  induction ids generalizing budget after removed with
  | nil =>
      rw [List.filter_nil, List.take_nil]
      cases budget <;> rfl
  | cons id ids ih =>
      cases budget with
      | zero => rfl
      | succ budget =>
          rw [removeInOrder, thinned.best]
          by_cases isBest : before.bestId = some id
          · rw [if_pos isBest, List.filter_cons_of_neg (by simp [isBest])]
            exact ih thinned (budget + 1) removed
          · rw [if_neg isBest, List.filter_cons_of_pos (by simpa using isBest), List.take_succ_cons]
            exact ih (thinned.removeNoLock isBest) budget (removed + 1)

variable [Double F]

theorem pruneBucket_eq {before : GenomeRepository F} (thinned : before.Thinned after.memory)
    {maxManagedGenomes removed : ℕ} {ids : List GenomeId} {result : PersistentRepository F Text × ℕ}
    (pruned : pruneBucket maxManagedGenomes ids (after, removed) = some result) :
    result.1 = (before.bucketVictims maxManagedGenomes ids).foldl removeNoLock after ∧
      before.Thinned result.1.memory := by
  rw [GenomeRepository.bucketVictims]
  rw [pruneBucket] at pruned
  by_cases small : ids.length ≤ maxManagedGenomes
  · rw [if_pos small] at pruned ⊢
    cases pruned
    exact ⟨rfl, thinned⟩
  · rw [if_neg small] at pruned ⊢
    obtain ⟨sorted, found, rfl⟩ := Option.map_eq_some_iff.mp pruned
    rw [GenomeRepository.sortBucket_of_thinned thinned found, Option.getD_some]
    have removal := removeInOrder_eq thinned sorted (ids.length - maxManagedGenomes) removed
    obtain ⟨inMemory, thinner⟩ := GenomeRepository.removeInOrder_eq thinned sorted
      (ids.length - maxManagedGenomes) removed
    refine ⟨removal, ?_⟩
    rw [removal, memory_removeAll, ← inMemory]
    exact thinner

theorem pruneManagedByFitness_eq {repository : PersistentRepository F Text}
    {maxManagedGenomes : ℕ} {result : PersistentRepository F Text × ℕ}
    (pruned : repository.pruneManagedByFitness maxManagedGenomes = some result) :
    result.1 = (repository.memory.pruneVictims maxManagedGenomes).foldl removeNoLock
      repository := by
  rw [pruneManagedByFitness] at pruned
  rw [GenomeRepository.pruneVictims]
  by_cases unlimited : maxManagedGenomes = 0
  · rw [if_pos unlimited] at pruned ⊢
    cases pruned
    rfl
  · rw [if_neg unlimited] at pruned ⊢
    apply GenomeRepository.foldl_flatMap_of_foldlM
      (fun state => repository.memory.Thinned state.1.memory) (.refl repository.memory) pruned
    intro state bucket result thinned pruned
    exact pruneBucket_eq thinned pruned

end

section

/-! ## Every run -/

variable [Double F] (json : MetadataJson F Text)

def apply (repository : PersistentRepository F Text) :
    GenomeRepository.Op F → Option (PersistentRepository F Text)
  | .store id genome metadata draw => some (repository.store json id genome metadata draw)
  | .storeOrUpdateByHash genome metadata preferredId draws =>
      (repository.storeOrUpdateByHash json genome metadata preferredId draws).map Prod.fst
  | .remove id => some (repository.remove id)
  | .pruneManagedByFitness maxManagedGenomes =>
      (repository.pruneManagedByFitness maxManagedGenomes).map Prod.fst
  | .markAsBest id => some (repository.markAsBest id)
  | .clear => some repository.clear

/-- The repository with its metadata presented in another order. -/
def presenting (repository : PersistentRepository F Text)
    (presented : Dict GenomeId (GenomeMetadata F)) : PersistentRepository F Text :=
  { repository with memory := repository.memory.presenting presented }

/-- A call, or a restart that loads the rows in some order. -/
inductive Event (F Text : Type)
  | call (call : GenomeRepository.Call F)
  | reopen (rows : Dict IdText (GenomeRow Text))

def machine : Machine (Event F Text) (PersistentRepository F Text) where
  initial repository := repository = {}
  step before event after := match event with
    | .call call => before.memory.metadata.SameEntries call.presented ∧
        (before.presenting call.presented).apply json call.op = some after
    | .reopen rows => before.database.genomes.SameEntries rows ∧
        loadFromDb json before.database rows = some after

def OpWritesFinite (repository : PersistentRepository F Text) : GenomeRepository.Op F → Prop
  | .store _ _ metadata _ => (normalizeRobustMetadata metadata).Finite
  | .storeOrUpdateByHash genome metadata _ _ =>
      (writtenMetadata repository.memory genome metadata).Finite
  | .remove _ | .pruneManagedByFitness _ | .markAsBest _ | .clear => True

/-- The call does not take the forward entry of a hash that the row of another genome keeps. -/
def OpKeepsForward (repository : PersistentRepository F Text) : GenomeRepository.Op F → Prop
  | .store id genome metadata draw =>
      ∀ oldHash, repository.memory.hashToId.lookup oldHash =
          some (GenomeRepository.storeId id draw) →
        oldHash ≠ computeContentHash genome metadata →
          ∀ other, hashOf repository.database.row other = some oldHash →
            other = GenomeRepository.storeId id draw
  | .remove id => Spares (hashOf repository.database.row) repository.memory.hashToId.lookup [id]
  | .pruneManagedByFitness maxManagedGenomes =>
      Spares (hashOf repository.database.row) repository.memory.hashToId.lookup
        (repository.memory.pruneVictims maxManagedGenomes)
  | .storeOrUpdateByHash _ _ _ _ | .markAsBest _ | .clear => True

def Event.WritesFinite (before : PersistentRepository F Text) : Event F Text → Prop
  | .call made => (before.presenting made.presented).OpWritesFinite made.op
  | .reopen _ => True

def Event.KeepsForward (before : PersistentRepository F Text) : Event F Text → Prop
  | .call made => (before.presenting made.presented).OpKeepsForward made.op
  | .reopen _ => True

variable {json} {repository : PersistentRepository F Text}

theorem synchronized_empty : ({} : PersistentRepository F Text).Synchronized json where
  genome _ := rfl
  metadata _ := rfl
  readable _ _ found := by cases found
  invalid := rfl
  index := Represents.empty
  keyed _ present := by cases present
  best := rfl
  known _ best := by cases best

omit [Double F] in
theorem complete_empty : ({} : PersistentRepository F Text).Complete := by
  intro id hash carried
  cases carried

theorem Synchronized.presenting (synchronized : repository.Synchronized json)
    {presented : Dict GenomeId (GenomeMetadata F)}
    (same : repository.memory.metadata.SameEntries presented) :
    (repository.presenting presented).Synchronized json :=
  { synchronized with
    metadata := fun id => (same.lookup id).symm.trans (synchronized.metadata id) }

theorem Synchronized.markAsBest (synchronized : repository.Synchronized json) (id : GenomeId) :
    (repository.markAsBest id).Synchronized json := by
  rw [PersistentRepository.markAsBest, GenomeRepository.markAsBest]
  split
  · rename_i stored
    refine { synchronized with best := rfl, known := ?_ }
    intro other best
    cases best
    exact stored
  · exact synchronized

omit [Double F] in
theorem Complete.markAsBest (complete : repository.Complete) (id : GenomeId) :
    (repository.markAsBest id).Complete := by
  rw [PersistentRepository.markAsBest, GenomeRepository.markAsBest]
  split <;> exact complete

/-- A call that writes finite numbers leaves memory and database synchronized, and the forward
map complete if it takes no entry that another row needs. -/
theorem Synchronized.apply (lossless : json.Lossless) (synchronized : repository.Synchronized json)
    {op : GenomeRepository.Op F} (finite : repository.OpWritesFinite op)
    (applied : repository.apply json op = some after) :
    after.Synchronized json ∧
      (repository.Complete → repository.OpKeepsForward op → after.Complete) := by
  cases op with
  | store id genome metadata draw =>
      cases applied
      exact synchronized.store lossless finite
  | storeOrUpdateByHash genome metadata preferredId draws =>
      obtain ⟨⟨stored, result⟩, written, rfl⟩ := Option.map_eq_some_iff.mp applied
      obtain ⟨kept, complete⟩ := synchronized.storeOrUpdateByHash lossless finite written
      exact ⟨kept, fun before _ => complete before⟩
  | remove id =>
      cases applied
      exact ⟨synchronized.removeNoLock id, fun complete spares => complete.removeAll spares⟩
  | pruneManagedByFitness maxManagedGenomes =>
      obtain ⟨result, pruned, rfl⟩ := Option.map_eq_some_iff.mp applied
      rw [pruneManagedByFitness_eq pruned]
      exact ⟨synchronized.removeAll _, fun complete spares => complete.removeAll spares⟩
  | markAsBest id =>
      cases applied
      exact ⟨synchronized.markAsBest id, fun complete _ => complete.markAsBest id⟩
  | clear =>
      cases applied
      exact ⟨synchronized_empty, fun _ _ => complete_empty⟩

theorem Synchronized.step (lossless : json.Lossless) (synchronized : repository.Synchronized json)
    {event : Event F Text} (finite : event.WritesFinite repository)
    (moved : (machine json).step repository event after) :
    after.Synchronized json ∧
      (repository.Complete → event.KeepsForward repository → after.Complete) := by
  cases event with
  | call call =>
      obtain ⟨same, applied⟩ := moved
      exact (synchronized.presenting same).apply lossless finite applied
  | reopen rows =>
      obtain ⟨same, loads⟩ := moved
      obtain ⟨loaded, opened, _, kept, complete⟩ := synchronized.loadFromDb same
      rw [opened] at loads
      cases loads
      exact ⟨kept, fun _ _ => complete⟩

theorem synchronized_of_reachable (lossless : json.Lossless)
    (reached : ((machine json).guarded fun before event => event.WritesFinite before).Reachable
      repository) : repository.Synchronized json := by
  refine reached.invariant ?_ ?_
  · intro repository empty
    cases empty
    exact synchronized_empty
  · intro before event after synchronized moved
    exact (synchronized.step lossless moved.2 moved.1).1

def Settled (json : MetadataJson F Text) (repository : PersistentRepository F Text) : Prop :=
  repository.Synchronized json ∧ repository.Complete

theorem settled_of_reachable (lossless : json.Lossless)
    (reached : ((machine json).guarded fun before event =>
      event.WritesFinite before ∧ event.KeepsForward before).Reachable repository) :
    Settled json repository := by
  refine reached.invariant ?_ ?_
  · intro repository empty
    cases empty
    exact ⟨synchronized_empty, complete_empty⟩
  · intro before event after held moved
    obtain ⟨kept, complete⟩ := held.1.step lossless moved.2.1 moved.1
    exact ⟨kept, complete held.2 moved.2.2⟩

theorem deduplicated_iff {genome : Genome} {metadata : GenomeMetadata F}
    {preferredId : Option GenomeId} {draws : List Draw}
    {result : PersistentRepository F Text × StoreByHashResult}
    (stored : repository.storeOrUpdateByHash json genome metadata preferredId draws =
      some result) :
    result.2.deduplicated = (repository.memory.hashToId.lookup
      (computeContentHash genome (normalizeRobustMetadata metadata))).isSome := by
  obtain ⟨⟨memory, inner⟩, inMemory, rfl⟩ := Option.map_eq_some_iff.mp stored
  rw [GenomeRepository.storeOrUpdateByHash] at inMemory
  dsimp only at inMemory ⊢
  split at inMemory
  · rename_i leads
    cases inMemory
    rw [leads]
    rfl
  · rename_i unknown
    obtain ⟨id, chosen, same⟩ := Option.map_eq_some_iff.mp inMemory
    cases same
    rw [unknown]
    rfl

/-- **Restarts.** Over every run whose calls write finite numbers and take no forward entry of a
hash that another row keeps, a repository opened on the database holds the same records, knows
the same content hashes and deduplicates the same genomes. -/
theorem reopened_of_reachable (lossless : json.Lossless)
    (reached : ((machine json).guarded fun before event =>
      event.WritesFinite before ∧ event.KeepsForward before).Reachable repository)
    {rows : Dict IdText (GenomeRow Text)} (same : repository.database.genomes.SameEntries rows) :
    ∃ reopened, loadFromDb json repository.database rows = some reopened ∧
      SameRecords repository.memory reopened.memory ∧
      SameHashes repository.memory reopened.memory ∧
      ∀ genome metadata preferredId draws result other,
        repository.storeOrUpdateByHash json genome metadata preferredId draws = some result →
          reopened.storeOrUpdateByHash json genome metadata preferredId draws = some other →
            result.2.deduplicated = other.2.deduplicated := by
  obtain ⟨synchronized, complete⟩ := settled_of_reachable lossless reached
  obtain ⟨loaded, opened, shared, kept, loadedComplete⟩ := synchronized.loadFromDb same
  have hashes := synchronized.sameHashes complete kept loadedComplete shared
  refine ⟨loaded, opened, synchronized.sameRecords kept shared, hashes, ?_⟩
  intro genome metadata preferredId draws result other stored again
  rw [deduplicated_iff stored, deduplicated_iff again]
  exact hashes _

end

section

/-! ## Two copies of one content -/

open GenomeRepository

def plainJson : MetadataJson ℚ (GenomeMetadata ℚ) := ⟨some, some⟩

theorem plainJson_lossless : plainJson.Lossless := fun metadata _ => ⟨metadata, rfl, rfl⟩

def onceStored : PersistentRepository ℚ (GenomeMetadata ℚ) :=
  store plainJson {} firstId duckGenome duckMetadata (0, 0)

def laterCopyRemoved : PersistentRepository ℚ (GenomeMetadata ℚ) :=
  (onceStored.store plainJson secondId duckGenome duckMetadata (0, 0)).remove secondId

theorem finite_duckMetadata : (normalizeRobustMetadata duckMetadata).Finite :=
  ⟨rfl, rfl, fun _ _ => rfl⟩

theorem reopened_onceStored :
    ∃ reopened, loadFromDb plainJson onceStored.database onceStored.database.genomes =
        some reopened ∧
      SameRecords onceStored.memory reopened.memory ∧
      SameHashes onceStored.memory reopened.memory ∧
      ∀ genome metadata preferredId draws result other,
        onceStored.storeOrUpdateByHash plainJson genome metadata preferredId draws = some result →
          reopened.storeOrUpdateByHash plainJson genome metadata preferredId draws = some other →
            result.2.deduplicated = other.2.deduplicated := by
  have empty : ((machine plainJson).guarded fun before event =>
      event.WritesFinite before ∧ event.KeepsForward before).Reachable {} := ⟨{}, [], rfl, .nil _⟩
  refine reopened_of_reachable plainJson_lossless (empty.step (show Machine.step _ _
    (.call ⟨.store firstId duckGenome duckMetadata (0, 0), ∅⟩) _ from
      ⟨⟨List.Perm.refl _, rfl⟩, finite_duckMetadata, ?_⟩)) (List.Perm.refl _)
  intro oldHash leads
  cases leads

theorem laterCopyRemoved_reachable :
    ((machine plainJson).guarded fun before event => event.WritesFinite before).Reachable
      laterCopyRemoved := by
  have empty : ((machine plainJson).guarded fun before event =>
      event.WritesFinite before).Reachable {} := ⟨{}, [], rfl, .nil _⟩
  have first := empty.step (show Machine.step _ _
    (.call ⟨.store firstId duckGenome duckMetadata (0, 0), ∅⟩) onceStored from
      ⟨⟨List.Perm.refl _, rfl⟩, finite_duckMetadata⟩)
  have second := first.step (show Machine.step _ _
    (.call ⟨.store secondId duckGenome duckMetadata (0, 0), onceStored.memory.metadata⟩)
      (onceStored.store plainJson secondId duckGenome duckMetadata (0, 0)) from
      ⟨⟨List.Perm.refl _, rfl⟩, finite_duckMetadata⟩)
  exact second.step (show Machine.step _ _ (.call ⟨.remove secondId,
    (onceStored.store plainJson secondId duckGenome duckMetadata (0, 0)).memory.metadata⟩) _ from
      ⟨⟨List.Perm.refl _, rfl⟩, trivial⟩)

/-- **A restart loses nothing.** Over every run whose calls write finite numbers, a repository
opened on the database holds the same records, and what was deduplicated still is. -/
theorem reopened_keeps_of_reachable {F Text : Type} [Double F] {json : MetadataJson F Text}
    {repository : PersistentRepository F Text} (lossless : json.Lossless)
    (reached : ((machine json).guarded fun before event => event.WritesFinite before).Reachable
      repository)
    {rows : Dict IdText (GenomeRow Text)} (same : repository.database.genomes.SameEntries rows) :
    ∃ reopened, loadFromDb json repository.database rows = some reopened ∧
      SameRecords repository.memory reopened.memory ∧
      ∀ genome metadata preferredId draws result other,
        repository.storeOrUpdateByHash json genome metadata preferredId draws = some result →
          reopened.storeOrUpdateByHash json genome metadata preferredId draws = some other →
            result.2.deduplicated = true → other.2.deduplicated = true := by
  have synchronized := synchronized_of_reachable lossless reached
  obtain ⟨loaded, opened, shared, kept, complete⟩ := synchronized.loadFromDb same
  refine ⟨loaded, opened, synchronized.sameRecords kept shared, ?_⟩
  intro genome metadata preferredId draws result other stored again copy
  rw [deduplicated_iff stored] at copy
  rw [deduplicated_iff again]
  obtain ⟨id, leads⟩ := Option.isSome_iff_exists.mp copy
  exact (kept.knows_iff complete _).mpr ⟨id, shared.symm ▸ synchronized.index.carries leads⟩

theorem reopened_keeps_laterCopyRemoved :
    ∃ reopened, loadFromDb plainJson laterCopyRemoved.database
        laterCopyRemoved.database.genomes = some reopened ∧
      SameRecords laterCopyRemoved.memory reopened.memory := by
  obtain ⟨reopened, opened, records, _⟩ := reopened_keeps_of_reachable plainJson_lossless
    laterCopyRemoved_reachable (List.Perm.refl _)
  exact ⟨reopened, opened, records⟩

/-- The hash forgotten with the later copy is known again after a restart. -/
theorem laterCopyRemoved_relearns :
    ¬ ∀ repository, (machine plainJson).Reachable repository →
      ∀ rows, repository.database.genomes.SameEntries rows →
        ∃ reopened, loadFromDb plainJson repository.database rows = some reopened ∧
          SameRecords repository.memory reopened.memory ∧
          SameHashes repository.memory reopened.memory := by
  intro always
  have synchronized := synchronized_of_reachable plainJson_lossless laterCopyRemoved_reachable
  obtain ⟨start, labels, initial, run⟩ := laterCopyRemoved_reachable
  obtain ⟨reopened, opened, _, hashes⟩ := always laterCopyRemoved
    ⟨start, labels, initial, run.of_guarded⟩ laterCopyRemoved.database.genomes (List.Perm.refl _)
  obtain ⟨loaded, loads, shared, kept, complete⟩ :=
    synchronized.loadFromDb (List.Perm.refl laterCopyRemoved.database.genomes.entries)
  rw [loads] at opened
  cases opened
  have apart : firstId ≠ secondId := by decide
  have keptFirst : storeId firstId (0, 0) = firstId := storeId_of_ne (by decide)
  have keptSecond : storeId secondId (0, 0) = secondId := storeId_of_ne (by decide)
  have carried : hashOf laterCopyRemoved.database.row firstId =
      some (computeContentHash duckGenome (normalizeRobustMetadata duckMetadata)) := by
    rw [laterCopyRemoved, remove, row_removeNoLock, hashOf_update, Function.update_of_ne apart,
      store, row_persistGenome _ _ _ _ rfl, hashOf_update, keptSecond,
      Function.update_of_ne apart, onceStored, store, row_persistGenome _ _ _ _ rfl, hashOf_update,
      keptFirst, Function.update_self]
    rfl
  have forgotten : laterCopyRemoved.memory.hashToId.lookup
      (computeContentHash duckGenome (normalizeRobustMetadata duckMetadata)) = none := by
    rw [laterCopyRemoved, remove, removeNoLock, GenomeRepository.lookup_hashToId_removeNoLock,
      if_pos]
    simp [store, GenomeRepository.store, keptSecond]
  have known := (kept.knows_iff complete _).mpr ⟨firstId, shared.symm ▸ carried⟩
  rw [← hashes, forgotten] at known
  cases known

end

end PersistentRepository

end DirtSim
