import DirtSim.Evolution.Deduplication

/-! # What storing and pruning keep

Storing puts a genome under one identifier and leaves the others alone. A prune removes its
victims, which the best genome is never among. A content hash always leads to a stored genome
that is recorded under it, whatever the calls (`GenomeRepository.led_of_reachable`).
-/

namespace DirtSim

open Foundation

namespace GenomeRepository

variable {F : Type} {repository : GenomeRepository F}

theorem lookup_genomes_removeAll (repository : GenomeRepository F) (victims : List GenomeId)
    (id : GenomeId) :
    (victims.foldl removeNoLock repository).genomes.lookup id =
      if id ∈ victims then none else repository.genomes.lookup id := by
  rw [← Dict.lookup_eraseAll]
  exact congrArg (AList.lookup id) (List.foldl_hom GenomeRepository.genomes fun _ _ => rfl).symm

theorem lookup_metadata_removeAll (repository : GenomeRepository F) (victims : List GenomeId)
    (id : GenomeId) :
    (victims.foldl removeNoLock repository).metadata.lookup id =
      if id ∈ victims then none else repository.metadata.lookup id := by
  rw [← Dict.lookup_eraseAll]
  exact congrArg (AList.lookup id) (List.foldl_hom GenomeRepository.metadata fun _ _ => rfl).symm

theorem bestId_removeAll (repository : GenomeRepository F) {victims : List GenomeId}
    (spared : ∀ id ∈ victims, repository.bestId ≠ some id) :
    (victims.foldl removeNoLock repository).bestId = repository.bestId := by
  induction victims generalizing repository with
  | nil => rfl
  | cons victim victims ih =>
      have first : (repository.removeNoLock victim).bestId = repository.bestId :=
        if_neg (spared victim List.mem_cons_self)
      rw [List.foldl_cons, ih, first]
      intro id later
      rw [first]
      exact spared id (List.mem_cons_of_mem _ later)

variable [Double F]
variable {maxManagedGenomes : ℕ} {genome : Genome} {metadata : GenomeMetadata F}
  {preferredId : Option GenomeId} {draws : List Draw}
  {result : GenomeRepository F × StoreByHashResult}

theorem bestId_ne_of_mem_pruneVictims {id : GenomeId}
    (victim : id ∈ repository.pruneVictims maxManagedGenomes) : repository.bestId ≠ some id := by
  rw [pruneVictims] at victim
  split at victim
  · cases victim
  · obtain ⟨bucket, _, removed⟩ := List.mem_flatMap.mp victim
    rw [bucketVictims] at removed
    split at removed
    · cases removed
    · have kept := (List.mem_filter.mp (List.mem_of_mem_take removed)).2
      exact of_decide_eq_true kept

section

variable {result : GenomeRepository F × ℕ}
  (pruned : repository.pruneManagedByFitness maxManagedGenomes = some result)
include pruned

theorem lookup_genomes_pruneManagedByFitness (id : GenomeId) :
    result.1.genomes.lookup id =
      if id ∈ repository.pruneVictims maxManagedGenomes then none
      else repository.genomes.lookup id := by
  rw [pruneManagedByFitness_eq pruned, lookup_genomes_removeAll]

theorem bestId_pruneManagedByFitness : result.1.bestId = repository.bestId := by
  rw [pruneManagedByFitness_eq pruned]
  apply bestId_removeAll
  intro id victim
  exact bestId_ne_of_mem_pruneVictims victim

end

/-- The genome goes under the identifier its content hash leads to, or under a free one, to which
the hash then leads. -/
theorem storeOrUpdateByHash_writes
    (stored : repository.storeOrUpdateByHash genome metadata preferredId draws = some result) :
    result.1.genomes = repository.genomes.insert result.2.id genome ∧
      result.1.bestId = repository.bestId ∧
      result.1.idToHash = repository.idToHash.insert result.2.id
        (computeContentHash genome (normalizeRobustMetadata metadata)) ∧
      (repository.hashToId.lookup (computeContentHash genome (normalizeRobustMetadata metadata)) =
            some result.2.id ∧ result.1.hashToId = repository.hashToId ∨
        repository.hashToId.lookup
            (computeContentHash genome (normalizeRobustMetadata metadata)) = none ∧
          repository.genomes.lookup result.2.id = none ∧
          result.1.hashToId = repository.hashToId.insert
            (computeContentHash genome (normalizeRobustMetadata metadata)) result.2.id) := by
  rw [storeOrUpdateByHash] at stored
  dsimp only at stored
  split at stored
  · rename_i existingId known
    cases stored
    exact ⟨rfl, rfl, rfl, Or.inl ⟨known, rfl⟩⟩
  · rename_i unknown
    obtain ⟨id, chosen, rfl⟩ := Option.map_eq_some_iff.mp stored
    exact ⟨rfl, rfl, rfl, Or.inr ⟨unknown, chooseId_free chosen, rfl⟩⟩

theorem storeOrUpdateByHash_effect
    (stored : repository.storeOrUpdateByHash genome metadata preferredId draws = some result) :
    result.1.genomes = repository.genomes.insert result.2.id genome ∧
      result.1.bestId = repository.bestId ∧
      (repository.hashToId.lookup (computeContentHash genome (normalizeRobustMetadata metadata)) =
          some result.2.id ∨
        repository.genomes.lookup result.2.id = none) := by
  obtain ⟨genomes, bestId, _, forward⟩ := storeOrUpdateByHash_writes stored
  exact ⟨genomes, bestId, forward.imp And.left fun fresh => fresh.2.1⟩

/-- A content hash leads to a stored genome that is recorded under it. -/
structure Led (repository : GenomeRepository F) : Prop where
  recorded : ∀ hash id, repository.hashToId.lookup hash = some id →
    repository.idToHash.lookup id = some hash
  stored : ∀ hash id, repository.hashToId.lookup hash = some id →
    (repository.genomes.lookup id).isSome = true

section

omit [Double F]

theorem led_empty : ({} : GenomeRepository F).Led where
  recorded _ _ leads := by cases leads
  stored _ _ leads := by cases leads

theorem Led.injective (led : repository.Led) {hash other : ContentHash} {id : GenomeId}
    (leads : repository.hashToId.lookup hash = some id)
    (leads' : repository.hashToId.lookup other = some id) : hash = other :=
  Option.some.inj ((led.recorded hash id leads).symm.trans (led.recorded other id leads'))

theorem Led.write {after : GenomeRepository F} (led : repository.Led) {id : GenomeId}
    {hash : ContentHash} (genomes : after.genomes = repository.genomes.insert id genome)
    (reverse : after.idToHash = repository.idToHash.insert id hash)
    (forward : ∀ other known, after.hashToId.lookup other = some known →
      (other = hash ∧ known = id) ∨
        (known ≠ id ∧ repository.hashToId.lookup other = some known)) : after.Led where
  recorded other known leads := by
    rw [reverse, Dict.lookup_insert]
    rcases forward other known leads with ⟨rfl, rfl⟩ | ⟨apart, before⟩
    · rw [if_pos rfl]
    · rw [if_neg apart]
      exact led.recorded other known before
  stored other known leads := by
    rw [genomes, Dict.lookup_insert]
    rcases forward other known leads with ⟨rfl, rfl⟩ | ⟨apart, before⟩
    · rw [if_pos rfl, Option.isSome_some]
    · rw [if_neg apart]
      exact led.stored other known before

end

theorem Led.storeOrUpdateByHash (led : repository.Led)
    (stored : repository.storeOrUpdateByHash genome metadata preferredId draws = some result) :
    result.1.Led := by
  obtain ⟨genomes, _, reverse, forward⟩ := storeOrUpdateByHash_writes stored
  refine led.write genomes reverse fun other known leads => ?_
  rcases forward with ⟨leads', same⟩ | ⟨_, free, inserted⟩
  · rw [same] at leads
    by_cases apart : known = result.2.id
    · subst apart
      exact Or.inl ⟨led.injective leads leads', rfl⟩
    · exact Or.inr ⟨apart, leads⟩
  · rw [inserted, Dict.lookup_insert] at leads
    split at leads
    · rename_i same
      exact Or.inl ⟨same, (Option.some.inj leads).symm⟩
    · refine Or.inr ⟨?_, leads⟩
      rintro rfl
      have present := led.stored other _ leads
      rw [free] at present
      cases present

theorem Led.store (led : repository.Led) (id : GenomeId) (genome : Genome)
    (metadata : GenomeMetadata F) (draw : Draw) :
    (repository.store id genome metadata draw).Led := by
  refine led.write rfl rfl fun other known leads => ?_
  rw [GenomeRepository.store, Dict.lookup_insert] at leads
  split at leads
  · rename_i same
    exact Or.inl ⟨same, (Option.some.inj leads).symm⟩
  · rename_i apart
    rw [forgetOldHash_lookup] at leads
    split at leads
    · cases leads
    · rename_i stays
      refine Or.inr ⟨?_, leads⟩
      rintro rfl
      exact stays ⟨led.recorded other _ leads, apart, leads⟩

omit [Double F] in
theorem Led.removeNoLock (led : repository.Led) (id : GenomeId) :
    (repository.removeNoLock id).Led := by
  have stays {hash : ContentHash} {known : GenomeId}
      (leads : (repository.removeNoLock id).hashToId.lookup hash = some known) :
      repository.hashToId.lookup hash = some known ∧ known ≠ id := by
    rw [lookup_hashToId_removeNoLock] at leads
    split at leads
    · cases leads
    · rename_i kept
      refine ⟨leads, ?_⟩
      rintro rfl
      exact kept ⟨led.recorded hash _ leads, leads⟩
  constructor
  · intro hash known leads
    obtain ⟨before, apart⟩ := stays leads
    exact (AList.lookup_erase_ne apart).trans (led.recorded hash known before)
  · intro hash known leads
    obtain ⟨before, apart⟩ := stays leads
    exact (congrArg Option.isSome (AList.lookup_erase_ne apart)).trans
      (led.stored hash known before)

theorem Led.apply (led : repository.Led) {op : Op F} {after : GenomeRepository F}
    (applied : op.apply repository = some after) : after.Led := by
  cases op with
  | store id genome metadata draw =>
      cases applied
      exact led.store id genome metadata draw
  | storeOrUpdateByHash genome metadata preferredId draws =>
      obtain ⟨result, stored, rfl⟩ := Option.map_eq_some_iff.mp applied
      exact led.storeOrUpdateByHash stored
  | remove id =>
      cases applied
      exact led.removeNoLock id
  | pruneManagedByFitness maxManagedGenomes =>
      obtain ⟨result, pruned, rfl⟩ := Option.map_eq_some_iff.mp applied
      rw [pruneManagedByFitness_eq pruned]
      generalize repository.pruneVictims maxManagedGenomes = victims
      clear pruned applied
      induction victims generalizing repository with
      | nil => exact led
      | cons victim victims ih => exact ih (led.removeNoLock victim)
  | markAsBest id =>
      cases applied
      unfold markAsBest
      split <;> exact ⟨led.recorded, led.stored⟩
  | clear =>
      cases applied
      exact led_empty

/-- **The hash index.** In every run a content hash leads to a stored genome only. -/
theorem led_of_reachable (reached : (machine F).Reachable repository) : repository.Led := by
  apply reached.invariant
  · rintro repository rfl
    exact led_empty
  · rintro before call after led ⟨_, applied⟩
    have presented : (before.presenting call.presented).Led := ⟨led.recorded, led.stored⟩
    exact presented.apply applied

theorem led_laterCopyRemoved : laterCopyRemoved.Led :=
  led_of_reachable laterCopyRemoved_reachable

end GenomeRepository

end DirtSim
