import DirtSim.Evolution.GenomeRepository
import DirtSim.Foundation.Transition

/-! # Deduplication by content

`store` may put one content under two identifiers, and the forward map keeps only the later one;
forgetting that one leaves the earlier copy without an entry. Otherwise the repository stays
deduplicated (`GenomeRepository.deduplicated_of_reachable`).
-/

namespace DirtSim

open Foundation

namespace GenomeRepository

variable {F : Type}

def contentHashOf (repository : GenomeRepository F) (id : GenomeId) : Option ContentHash :=
  (repository.genomes.lookup id).bind fun genome =>
    (repository.metadata.lookup id).map fun metadata => computeContentHash genome metadata

structure Deduplicated (repository : GenomeRepository F) : Prop where
  sameKeys : ∀ id,
    (repository.genomes.lookup id).isSome = (repository.metadata.lookup id).isSome
  best : ∀ id, repository.bestId = some id → (repository.genomes.lookup id).isSome
  forward : ∀ hash id, repository.hashToId.lookup hash = some id →
    repository.contentHashOf id = some hash
  complete : ∀ id hash, repository.contentHashOf id = some hash →
    (repository.hashToId.lookup hash).isSome

/-- The identifiers a prune removes, from the state it starts in. -/
def bucketVictims [Double F] (repository : GenomeRepository F) (maxManagedGenomes : ℕ)
    (ids : List GenomeId) : List GenomeId :=
  if ids.length ≤ maxManagedGenomes then []
  else (((repository.sortBucket ids).getD []).filter fun id => repository.bestId ≠ some id).take
    (ids.length - maxManagedGenomes)

def pruneVictims [Double F] (repository : GenomeRepository F) (maxManagedGenomes : ℕ) :
    List GenomeId :=
  if maxManagedGenomes = 0 then []
  else repository.managedBuckets.flatMap fun bucket =>
    repository.bucketVictims maxManagedGenomes bucket.2

/-- No genome that stays has its content hash led to one that goes. -/
def Spares (repository : GenomeRepository F) (going : List GenomeId) : Prop :=
  ∀ id ∈ going, ∀ hash, repository.contentHashOf id = some hash →
    repository.hashToId.lookup hash = some id →
      ∀ other, repository.contentHashOf other = some hash → other ∈ going

/-- What the incoming record leaves open and the existing one says does not change the hashed
content. Two records of one content can only differ here when their hashes collide. -/
def FillsNoContent (existing incoming : GenomeMetadata F) : Prop :=
  (incoming.organismType = none → existing.organismType = none) ∧
  (incoming.brainKind = none → existing.brainKind.getD [] = []) ∧
  (incoming.brainVariant = none → existing.brainVariant.getD [] = []) ∧
  (incoming.nesTileBrainCompatibility = none → existing.nesTileBrainCompatibility = none)

instance (existing incoming : GenomeMetadata F) : Decidable (FillsNoContent existing incoming) :=
  inferInstanceAs (Decidable (_ ∧ _))

/-- The calls on a repository, with the draws they may need. -/
inductive Op (F : Type)
  | store (id : GenomeId) (genome : Genome) (metadata : GenomeMetadata F) (draw : Draw)
  | storeOrUpdateByHash (genome : Genome) (metadata : GenomeMetadata F)
      (preferredId : Option GenomeId) (draws : List Draw)
  | remove (id : GenomeId)
  | pruneManagedByFitness (maxManagedGenomes : ℕ)
  | markAsBest (id : GenomeId)
  | clear

def Op.apply [Double F] (repository : GenomeRepository F) : Op F → Option (GenomeRepository F)
  | .store id genome metadata draw => some (repository.store id genome metadata draw)
  | .storeOrUpdateByHash genome metadata preferredId draws =>
      (repository.storeOrUpdateByHash genome metadata preferredId draws).map Prod.fst
  | .remove id => some (repository.remove id)
  | .pruneManagedByFitness maxManagedGenomes =>
      (repository.pruneManagedByFitness maxManagedGenomes).map Prod.fst
  | .markAsBest id => some (repository.markAsBest id)
  | .clear => some repository.clear

/-- The repository with its metadata presented in another order. -/
def presenting (repository : GenomeRepository F) (presented : Dict GenomeId (GenomeMetadata F)) :
    GenomeRepository F :=
  { repository with metadata := presented }

/-- A call, with the order in which the hash map of metadata presents its entries to it; the
other maps are not iterated over. -/
structure Call (F : Type) where
  op : Op F
  presented : Dict GenomeId (GenomeMetadata F)

def machine (F : Type) [Double F] : Machine (Call F) (GenomeRepository F) where
  initial repository := repository = {}
  step before call after := before.metadata.SameEntries call.presented ∧
    call.op.apply (before.presenting call.presented) = some after

/-- The call does not take the forward entry of a content that another stored genome keeps. -/
def Op.KeepsForward [Double F] (repository : GenomeRepository F) : Op F → Prop
  | .store id genome metadata draw =>
      ∀ oldHash, repository.contentHashOf (storeId id draw) = some oldHash →
        oldHash ≠ computeContentHash genome metadata → repository.Spares [storeId id draw]
  | .storeOrUpdateByHash genome metadata _ _ =>
      ∀ id existing, repository.hashToId.lookup (computeContentHash genome metadata) = some id →
        repository.metadata.lookup id = some existing → FillsNoContent existing metadata
  | .remove id => repository.Spares [id]
  | .pruneManagedByFitness maxManagedGenomes =>
      repository.Spares (repository.pruneVictims maxManagedGenomes)
  | .markAsBest _ | .clear => True

def Call.KeepsForward [Double F] (repository : GenomeRepository F) (call : Call F) : Prop :=
  call.op.KeepsForward (repository.presenting call.presented)

section

/-! ## What the hash depends on -/

variable [Double F]
variable (genome : Genome) {existing incoming : GenomeMetadata F}

theorem contentBytes_normalizeRobustMetadata (metadata : GenomeMetadata F) :
    contentBytes genome (normalizeRobustMetadata metadata) = contentBytes genome metadata := by
  unfold normalizeRobustMetadata
  simp only
  split
  · rfl
  · split
    · split <;> rfl
    · rfl

theorem computeContentHash_normalizeRobustMetadata (metadata : GenomeMetadata F) :
    computeContentHash genome (normalizeRobustMetadata metadata) =
      computeContentHash genome metadata := by
  unfold computeContentHash
  rw [contentBytes_normalizeRobustMetadata]

theorem contentBytes_appendRobustSample (metadata : GenomeMetadata F) (sample : F) :
    contentBytes genome (appendRobustSample metadata sample) = contentBytes genome metadata := by
  unfold appendRobustSample
  split <;> rfl

theorem contentBytes_foldl_appendRobustSample (samples : List F) (metadata : GenomeMetadata F) :
    contentBytes genome (samples.foldl appendRobustSample metadata) =
      contentBytes genome metadata := by
  induction samples generalizing metadata with
  | nil => rfl
  | cons sample samples ih =>
      rw [List.foldl_cons, ih, contentBytes_appendRobustSample]

theorem normalizeRobustMetadata_eq (metadata : GenomeMetadata F) :
    ∃ fitness count samples, normalizeRobustMetadata metadata =
      { metadata with
        robustFitness := fitness, robustEvalCount := count, robustFitnessSamples := samples } := by
  simp only [normalizeRobustMetadata]
  split
  · exact ⟨_, _, _, rfl⟩
  · split
    · split <;> exact ⟨_, _, _, rfl⟩
    · exact ⟨_, _, _, rfl⟩

section

variable (fills : FillsNoContent existing incoming)
include fills

theorem FillsNoContent.normalize :
    FillsNoContent (normalizeRobustMetadata existing) (normalizeRobustMetadata incoming) := by
  obtain ⟨_, _, _, existingEq⟩ := normalizeRobustMetadata_eq existing
  obtain ⟨_, _, _, incomingEq⟩ := normalizeRobustMetadata_eq incoming
  rw [existingEq, incomingEq]
  exact fills

theorem FillsNoContent.normalizeIncoming :
    FillsNoContent existing (normalizeRobustMetadata incoming) := by
  obtain ⟨_, _, _, incomingEq⟩ := normalizeRobustMetadata_eq incoming
  rw [incomingEq]
  exact fills

theorem contentBytes_fillFrom :
    contentBytes genome (fillFrom existing incoming) = contentBytes genome incoming := by
  obtain ⟨organism, kind, variant, compatibility⟩ := fills
  have sameOrganism : incoming.organismType.or existing.organismType = incoming.organismType := by
    cases known : incoming.organismType with
    | none => rw [organism known, Option.none_or]
    | some _ => rfl
  have sameKind : (incoming.brainKind.or existing.brainKind).getD [] =
      incoming.brainKind.getD [] := by
    cases known : incoming.brainKind with
    | none => exact kind known
    | some _ => rfl
  have sameVariant : (incoming.brainVariant.or existing.brainVariant).getD [] =
      incoming.brainVariant.getD [] := by
    cases known : incoming.brainVariant with
    | none => exact variant known
    | some _ => rfl
  have sameCompatibility :
      incoming.nesTileBrainCompatibility.or existing.nesTileBrainCompatibility =
        incoming.nesTileBrainCompatibility := by
    cases known : incoming.nesTileBrainCompatibility with
    | none => rw [compatibility known, Option.none_or]
    | some _ => rfl
  simp [contentBytes, fillFrom, sameOrganism, sameKind, sameVariant, sameCompatibility]

theorem computeContentHash_mergeMetadata :
    computeContentHash genome (mergeMetadata existing incoming) =
      computeContentHash genome incoming := by
  have sampled : ∀ samples : List F, contentBytes genome (samples.foldl appendRobustSample
      (fillFrom (normalizeRobustMetadata existing) (normalizeRobustMetadata incoming))) =
        contentBytes genome incoming := by
    intro samples
    rw [contentBytes_foldl_appendRobustSample, contentBytes_fillFrom genome fills.normalize,
      contentBytes_normalizeRobustMetadata]
  have same : contentBytes genome (mergeMetadata existing incoming) =
      contentBytes genome incoming := by
    rw [mergeMetadata]
    split
    · rw [contentBytes_normalizeRobustMetadata]
      exact sampled _
    · split <;> exact sampled _
  rw [computeContentHash, same, ← computeContentHash]

end

end

section

/-! ## What every call keeps -/

/-- The bookkeeping of a repository in the middle of a removal: the content of the doomed
identifiers may lack a forward entry. -/
structure IndexedExcept (repository : GenomeRepository F) (doomed : List GenomeId) : Prop where
  sameKeys : ∀ id,
    (repository.genomes.lookup id).isSome = (repository.metadata.lookup id).isSome
  best : ∀ id, repository.bestId = some id → (repository.genomes.lookup id).isSome
  recorded : ∀ id, repository.idToHash.lookup id = repository.contentHashOf id
  forward : ∀ hash id, repository.hashToId.lookup hash = some id →
    repository.contentHashOf id = some hash
  complete : ∀ id hash, repository.contentHashOf id = some hash →
    (repository.hashToId.lookup hash).isSome ∨ id ∈ doomed

def Indexed (repository : GenomeRepository F) : Prop := repository.IndexedExcept []

theorem Indexed.deduplicated {repository : GenomeRepository F} (indexed : repository.Indexed) :
    repository.Deduplicated where
  sameKeys := indexed.sameKeys
  best := indexed.best
  forward := indexed.forward
  complete id hash content := (indexed.complete id hash content).resolve_right List.not_mem_nil

theorem indexed_empty : ({} : GenomeRepository F).Indexed where
  sameKeys _ := rfl
  best _ absurd := nomatch absurd
  recorded _ := rfl
  forward _ _ absurd := nomatch absurd
  complete _ _ absurd := nomatch absurd

theorem IndexedExcept.mono {repository : GenomeRepository F} {doomed : List GenomeId}
    (indexed : repository.Indexed) : repository.IndexedExcept doomed :=
  { indexed with
    complete := fun id hash content =>
      Or.inl ((indexed.complete id hash content).resolve_right List.not_mem_nil) }

theorem Indexed.presenting {repository : GenomeRepository F} (indexed : repository.Indexed)
    {presented : Dict GenomeId (GenomeMetadata F)}
    (same : repository.metadata.SameEntries presented) :
    (repository.presenting presented).Indexed := by
  have metadata : ∀ id, presented.lookup id = repository.metadata.lookup id :=
    fun id => (same.lookup id).symm
  have content : ∀ id, (repository.presenting presented).contentHashOf id =
      repository.contentHashOf id := by
    intro id
    simp [contentHashOf, GenomeRepository.presenting, metadata]
  exact {
    sameKeys := fun id => by
      simp only [GenomeRepository.presenting, metadata]
      exact indexed.sameKeys id
    best := indexed.best
    recorded := fun id => (indexed.recorded id).trans (content id).symm
    forward := fun hash id leads => (content id).trans (indexed.forward hash id leads)
    complete := fun id hash known => indexed.complete id hash ((content id).symm.trans known) }

section

variable {repository : GenomeRepository F} {doomed : List GenomeId}

theorem contentHashOf_removeNoLock (repository : GenomeRepository F) (id other : GenomeId) :
    (repository.removeNoLock id).contentHashOf other =
      if other = id then none else repository.contentHashOf other := by
  simp only [contentHashOf, removeNoLock, Dict.lookup_erase]
  by_cases same : other = id
  · simp [same]
  · simp [same]

theorem lookup_hashToId_removeNoLock (repository : GenomeRepository F) (id : GenomeId)
    (hash : ContentHash) :
    (repository.removeNoLock id).hashToId.lookup hash =
      if repository.idToHash.lookup id = some hash ∧ repository.hashToId.lookup hash = some id
      then none else repository.hashToId.lookup hash := by
  simp only [removeNoLock]
  cases recorded : repository.idToHash.lookup id with
  | none => simp
  | some oldHash =>
      simp only [Option.some.injEq]
      by_cases leads : repository.hashToId.lookup oldHash = some id
      · rw [if_pos leads, Dict.lookup_erase]
        by_cases same : hash = oldHash
        · subst same
          rw [if_pos rfl, if_pos ⟨rfl, leads⟩]
        · rw [if_neg same, if_neg fun both => same both.1.symm]
      · rw [if_neg leads, if_neg]
        intro both
        exact leads (both.1 ▸ both.2)

theorem IndexedExcept.removeNoLock (indexed : repository.IndexedExcept doomed)
    (spares : repository.Spares doomed) {id : GenomeId} (going : id ∈ doomed) :
    (repository.removeNoLock id).IndexedExcept doomed where
  sameKeys other := by
    simp only [GenomeRepository.removeNoLock, Dict.lookup_erase]
    split
    · rfl
    · exact indexed.sameKeys other
  best other isBest := by
    simp only [GenomeRepository.removeNoLock] at isBest ⊢
    split at isBest
    · cases isBest
    · rename_i notBest
      have apart : other ≠ id := fun same => notBest (same ▸ isBest)
      rw [Dict.lookup_erase, if_neg apart]
      exact indexed.best other isBest
  recorded other := by
    rw [contentHashOf_removeNoLock]
    simp only [GenomeRepository.removeNoLock, Dict.lookup_erase]
    split
    · rfl
    · exact indexed.recorded other
  forward hash other leads := by
    rw [lookup_hashToId_removeNoLock] at leads
    split at leads
    · cases leads
    · rename_i stays
      have content := indexed.forward hash other leads
      have apart : other ≠ id := by
        intro same
        subst same
        exact stays ⟨(indexed.recorded other).trans content, leads⟩
      rw [contentHashOf_removeNoLock, if_neg apart]
      exact content
  complete other hash content := by
    rw [contentHashOf_removeNoLock] at content
    split at content
    · cases content
    · rw [lookup_hashToId_removeNoLock]
      split
      · rename_i taken
        have removed : repository.contentHashOf id = some hash :=
          (indexed.recorded id).symm.trans taken.1
        exact Or.inr (spares id going hash removed taken.2 other content)
      · exact indexed.complete other hash content

theorem Spares.removeNoLock (spares : repository.Spares doomed) (id : GenomeId) :
    (repository.removeNoLock id).Spares doomed := by
  intro victim going hash content leads other otherContent
  rw [contentHashOf_removeNoLock] at content otherContent
  rw [lookup_hashToId_removeNoLock] at leads
  split at content
  · cases content
  · split at otherContent
    · cases otherContent
    · split at leads
      · cases leads
      · exact spares victim going hash content leads other otherContent

theorem contentHashOf_foldl_removeNoLock (repository : GenomeRepository F)
    (victims : List GenomeId) {id : GenomeId} (removed : id ∈ victims) :
    (victims.foldl GenomeRepository.removeNoLock repository).contentHashOf id = none := by
  have stays : ∀ (victims : List GenomeId) (repository : GenomeRepository F),
      repository.contentHashOf id = none →
        (victims.foldl GenomeRepository.removeNoLock repository).contentHashOf id = none := by
    intro victims
    induction victims with
    | nil => intro repository gone; exact gone
    | cons victim victims ih =>
        intro repository gone
        refine ih _ ?_
        rw [contentHashOf_removeNoLock, gone, ite_self]
  induction victims generalizing repository with
  | nil => cases removed
  | cons victim victims ih =>
      cases removed with
      | head =>
          refine stays victims _ ?_
          rw [contentHashOf_removeNoLock, if_pos rfl]
      | tail _ later => exact ih _ later

theorem Indexed.removeAll (indexed : repository.Indexed) (spares : repository.Spares doomed) :
    Indexed (doomed.foldl GenomeRepository.removeNoLock repository) := by
  have kept : ∀ (victims : List GenomeId) (repository : GenomeRepository F),
      (∀ id ∈ victims, id ∈ doomed) → repository.IndexedExcept doomed →
        repository.Spares doomed →
          IndexedExcept (victims.foldl GenomeRepository.removeNoLock repository) doomed := by
    intro victims
    induction victims with
    | nil => intro repository _ indexed _; exact indexed
    | cons victim victims ih =>
        intro repository going indexed spares
        exact ih _ (fun id later => going id (List.mem_cons_of_mem _ later))
          (indexed.removeNoLock spares (going victim List.mem_cons_self))
          (spares.removeNoLock victim)
  have final := kept doomed repository (fun _ going => going) (IndexedExcept.mono indexed) spares
  refine { final with complete := ?_ }
  intro id hash content
  refine (final.complete id hash content).imp_right ?_
  intro going
  rw [contentHashOf_foldl_removeNoLock repository doomed going] at content
  cases content

end

section

variable {before after : GenomeRepository F}

/-- Some genomes removed and the best one kept. -/
structure Thinned (before after : GenomeRepository F) : Prop where
  metadata : ∀ id metadata, after.metadata.lookup id = some metadata →
    before.metadata.lookup id = some metadata
  best : after.bestId = before.bestId

theorem Thinned.refl (repository : GenomeRepository F) : repository.Thinned repository :=
  ⟨fun _ _ known => known, rfl⟩

theorem Thinned.removeNoLock (thinned : before.Thinned after) {id : GenomeId}
    (notBest : before.bestId ≠ some id) : before.Thinned (after.removeNoLock id) where
  metadata other metadata known := by
    simp only [GenomeRepository.removeNoLock, Dict.lookup_erase] at known
    split at known
    · cases known
    · exact thinned.metadata other metadata known
  best := by
    simp only [GenomeRepository.removeNoLock]
    rw [if_neg (thinned.best ▸ notBest)]
    exact thinned.best

theorem removeInOrder_eq (thinned : before.Thinned after) (ids : List GenomeId) (budget removed : ℕ) :
    (removeInOrder ids budget (after, removed)).1 =
        ((ids.filter fun id => before.bestId ≠ some id).take budget).foldl
          GenomeRepository.removeNoLock after ∧
      before.Thinned (removeInOrder ids budget (after, removed)).1 := by
  induction ids generalizing budget after removed with
  | nil =>
      rw [List.filter_nil, List.take_nil]
      cases budget <;> exact ⟨rfl, thinned⟩
  | cons id ids ih =>
      cases budget with
      | zero => exact ⟨rfl, thinned⟩
      | succ budget =>
          rw [removeInOrder, thinned.best]
          by_cases isBest : before.bestId = some id
          · rw [if_pos isBest, List.filter_cons_of_neg (by simp [isBest])]
            exact ih thinned (budget + 1) removed
          · rw [if_neg isBest, List.filter_cons_of_pos (by simpa using isBest), List.take_succ_cons]
            exact ih (thinned.removeNoLock isBest) budget (removed + 1)

variable [Double F] {repository : GenomeRepository F}

theorem mapM_of_mapM {α β : Type} {few many : α → Option β}
    (covers : ∀ key value, few key = some value → many key = some value) :
    ∀ {keys : List α} {values : List β}, keys.mapM few = some values → keys.mapM many = some values := by
  intro keys
  induction keys with
  | nil => intro values found; exact found
  | cons key keys ih =>
      intro values found
      rw [List.mapM_cons] at found ⊢
      obtain ⟨value, first, found⟩ := Option.bind_eq_some_iff.mp found
      obtain ⟨rest, others, found⟩ := Option.bind_eq_some_iff.mp found
      simp only [covers key value first, ih others, Option.bind_eq_bind, Option.bind_some]
      exact found

/-- Bucket after bucket loses its victims, where the sorting of the next one is not disturbed. -/
theorem foldl_flatMap_of_foldlM {α State Repository : Type} {step : State → α → Option State}
    {repository : State → Repository} {victims : α → List GenomeId}
    {remove : Repository → GenomeId → Repository} (sorts : State → Prop) {items : List α}
    {state result : State} (sorted : sorts state)
    (folded : items.foldlM step state = some result)
    (each : ∀ state item result, sorts state → step state item = some result →
      repository result = (victims item).foldl remove (repository state) ∧ sorts result) :
    repository result = (items.flatMap victims).foldl remove (repository state) := by
  induction items generalizing state with
  | nil =>
      cases folded
      rfl
  | cons item items ih =>
      rw [List.foldlM_cons] at folded
      obtain ⟨middle, first, rest⟩ := Option.bind_eq_some_iff.mp folded
      obtain ⟨removed, sorted⟩ := each state item middle sorted first
      rw [List.flatMap_cons, List.foldl_append, ← removed]
      exact ih sorted rest

theorem sortBucket_of_thinned (thinned : before.Thinned after) {ids sorted : List GenomeId}
    (found : after.sortBucket ids = some sorted) : before.sortBucket ids = some sorted := by
  obtain ⟨entries, looked, same⟩ := Option.map_eq_some_iff.mp found
  refine Option.map_eq_some_iff.mpr ⟨entries, ?_, same⟩
  refine mapM_of_mapM ?_ looked
  intro id entry known
  obtain ⟨metadata, stored, rfl⟩ := Option.map_eq_some_iff.mp known
  rw [thinned.metadata id metadata stored, Option.map_some]

theorem pruneBucket_eq (thinned : before.Thinned after) {maxManagedGenomes removed : ℕ}
    {ids : List GenomeId} {result : GenomeRepository F × ℕ}
    (pruned : pruneBucket maxManagedGenomes ids (after, removed) = some result) :
    result.1 = (before.bucketVictims maxManagedGenomes ids).foldl
        GenomeRepository.removeNoLock after ∧
      before.Thinned result.1 := by
  rw [bucketVictims]
  rw [pruneBucket] at pruned
  by_cases small : ids.length ≤ maxManagedGenomes
  · rw [if_pos small] at pruned ⊢
    cases pruned
    exact ⟨rfl, thinned⟩
  · rw [if_neg small] at pruned ⊢
    obtain ⟨sorted, found, rfl⟩ := Option.map_eq_some_iff.mp pruned
    rw [sortBucket_of_thinned thinned found, Option.getD_some]
    exact removeInOrder_eq thinned sorted _ removed

theorem pruneManagedByFitness_eq {maxManagedGenomes : ℕ} {result : GenomeRepository F × ℕ}
    (pruned : repository.pruneManagedByFitness maxManagedGenomes = some result) :
    result.1 = (repository.pruneVictims maxManagedGenomes).foldl
      GenomeRepository.removeNoLock repository := by
  rw [pruneManagedByFitness] at pruned
  rw [pruneVictims]
  by_cases unlimited : maxManagedGenomes = 0
  · rw [if_pos unlimited] at pruned ⊢
    cases pruned
    rfl
  · rw [if_neg unlimited] at pruned ⊢
    apply foldl_flatMap_of_foldlM (fun state => repository.Thinned state.1) (.refl repository) pruned
    intro state bucket result thinned pruned
    exact pruneBucket_eq thinned pruned

end

section

variable {repository : GenomeRepository F}
variable {changed : GenomeRepository F} {id : GenomeId} {genome : Genome}
  {metadata : GenomeMetadata F} {draws : List Draw}

theorem contentHashOf_insert (genomes : changed.genomes = repository.genomes.insert id genome)
    (records : changed.metadata = repository.metadata.insert id metadata) (other : GenomeId) :
    changed.contentHashOf other = if other = id then some (computeContentHash genome metadata)
      else repository.contentHashOf other := by
  simp only [contentHashOf, genomes, records, Dict.lookup_insert]
  split <;> rfl

theorem forgetOldHash_lookup (repository : GenomeRepository F) (id : GenomeId)
    (contentHash hash : ContentHash) :
    (repository.forgetOldHash id contentHash).lookup hash =
      if repository.idToHash.lookup id = some hash ∧ hash ≠ contentHash ∧
          repository.hashToId.lookup hash = some id
      then none else repository.hashToId.lookup hash := by
  rw [forgetOldHash]
  cases recorded : repository.idToHash.lookup id with
  | none => simp
  | some oldHash =>
      simp only [Option.some.injEq]
      by_cases changes : oldHash ≠ contentHash ∧ repository.hashToId.lookup oldHash = some id
      · rw [if_pos changes, Dict.lookup_erase]
        by_cases same : hash = oldHash
        · subst same
          rw [if_pos rfl, if_pos ⟨rfl, changes⟩]
        · rw [if_neg same, if_neg fun all => same all.1.symm]
      · rw [if_neg changes, if_neg]
        intro all
        exact changes ⟨all.1 ▸ all.2.1, all.1 ▸ all.2.2⟩

/-- Writing a record at an identifier, after its old forward entry has been dropped, keeps the
bookkeeping unless a copy of the old content stays. -/
theorem Indexed.write (indexed : repository.Indexed)
    (genomes : changed.genomes = repository.genomes.insert id genome)
    (records : changed.metadata = repository.metadata.insert id metadata)
    (reverse : changed.idToHash =
      repository.idToHash.insert id (computeContentHash genome metadata))
    (forward : changed.hashToId =
      (repository.forgetOldHash id (computeContentHash genome metadata)).insert
        (computeContentHash genome metadata) id) (bestId : changed.bestId = repository.bestId)
    (spares : ∀ oldHash, repository.contentHashOf id = some oldHash →
      oldHash ≠ computeContentHash genome metadata → repository.Spares [id]) : changed.Indexed where
  sameKeys other := by
    simp only [genomes, records, Dict.lookup_insert]
    split
    · rfl
    · exact indexed.sameKeys other
  best other isBest := by
    rw [genomes, Dict.lookup_insert]
    split
    · rfl
    · exact indexed.best other (bestId ▸ isBest)
  recorded other := by
    rw [contentHashOf_insert genomes records, reverse, Dict.lookup_insert]
    split
    · rfl
    · exact indexed.recorded other
  forward hash other leads := by
    rw [forward, Dict.lookup_insert] at leads
    rw [contentHashOf_insert genomes records]
    by_cases new : hash = computeContentHash genome metadata
    · rw [if_pos new] at leads
      cases leads
      rw [if_pos rfl, new]
    · rw [if_neg new, forgetOldHash_lookup] at leads
      split at leads
      · cases leads
      · rename_i stays
        have content := indexed.forward hash other leads
        have apart : other ≠ id := by
          intro same
          subst same
          exact stays ⟨(indexed.recorded other).trans content, new, leads⟩
        rw [if_neg apart]
        exact content
  complete other hash content := by
    refine Or.inl ?_
    rw [contentHashOf_insert genomes records] at content
    rw [forward, Dict.lookup_insert]
    by_cases new : hash = computeContentHash genome metadata
    · rw [if_pos new]
      rfl
    · rw [if_neg new]
      split at content
      · exact absurd (Option.some.inj content).symm new
      · rename_i apart
        rw [forgetOldHash_lookup]
        split
        · rename_i taken
          have old : repository.contentHashOf id = some hash :=
            (indexed.recorded id).symm.trans taken.1
          exact absurd (List.mem_singleton.mp
            (spares hash old new id List.mem_cons_self hash old taken.2.2 other content)) apart
        · exact (indexed.complete other hash content).resolve_right List.not_mem_nil

theorem Indexed.store [Double F] (indexed : repository.Indexed) {draw : Draw}
    (keeps : (Op.store id genome metadata draw).KeepsForward repository) :
    (repository.store id genome metadata draw).Indexed := by
  refine indexed.write rfl rfl rfl rfl rfl ?_
  intro oldHash old changes
  rw [computeContentHash_normalizeRobustMetadata] at changes
  exact keeps oldHash old changes

theorem Indexed.forgetOldHash_free (indexed : repository.Indexed)
    (free : repository.genomes.lookup id = none) (contentHash : ContentHash) :
    repository.forgetOldHash id contentHash = repository.hashToId := by
  have unrecorded : repository.idToHash.lookup id = none := by
    rw [indexed.recorded, contentHashOf, free, Option.bind_none]
  rw [forgetOldHash, unrecorded]

theorem drawFree_free (drawn : repository.drawFree draws = some id) :
    repository.genomes.lookup id = none := by
  induction draws with
  | nil => cases drawn
  | cons draw draws ih =>
      rw [drawFree] at drawn
      split at drawn
      · exact ih drawn
      · rename_i free
        rw [← Option.some.inj drawn]
        exact Option.not_isSome_iff_eq_none.mp free

theorem chooseId_free {preferredId : Option GenomeId}
    (chosen : repository.chooseId preferredId draws = some id) :
    repository.genomes.lookup id = none := by
  have unlessTaken : ∀ (first : GenomeId) (rest : List Draw),
      (if first = invalidGenomeId ∨ (repository.genomes.lookup first).isSome then
        repository.drawFree rest else some first) = some id →
      repository.genomes.lookup id = none := by
    intro first rest chosen
    split at chosen
    · exact drawFree_free chosen
    · rename_i free
      cases chosen
      exact Option.not_isSome_iff_eq_none.mp (not_or.mp free).2
  cases preferredId with
  | some preferred => exact unlessTaken preferred draws chosen
  | none =>
      cases draws with
      | nil => cases chosen
      | cons draw draws => exact unlessTaken (generate draw) draws chosen

theorem Indexed.update (indexed : repository.Indexed) {contentHash : ContentHash}
    (leads : repository.hashToId.lookup contentHash = some id)
    (same : computeContentHash genome metadata = contentHash)
    (genomes : changed.genomes = repository.genomes.insert id genome)
    (records : changed.metadata = repository.metadata.insert id metadata)
    (reverse : changed.idToHash = repository.idToHash.insert id contentHash)
    (forward : changed.hashToId = repository.hashToId) (bestId : changed.bestId = repository.bestId) :
    changed.Indexed := by
  have content : ∀ other, changed.contentHashOf other = repository.contentHashOf other := by
    intro other
    rw [contentHashOf_insert genomes records, same]
    split
    · rename_i this
      rw [this, indexed.forward contentHash id leads]
    · rfl
  exact {
    sameKeys := fun other => by
      simp only [genomes, records, Dict.lookup_insert]
      split
      · rfl
      · exact indexed.sameKeys other
    best := fun other isBest => by
      rw [genomes, Dict.lookup_insert]
      split
      · rfl
      · exact indexed.best other (bestId ▸ isBest)
    recorded := fun other => by
      rw [content, reverse, Dict.lookup_insert]
      split
      · rename_i this
        rw [this, indexed.forward contentHash id leads]
      · exact indexed.recorded other
    forward := fun hash other leadsTo =>
      (content other).trans (indexed.forward hash other (forward ▸ leadsTo))
    complete := fun other hash known =>
      forward ▸ indexed.complete other hash ((content other).symm.trans known) }

theorem Indexed.storeOrUpdateByHash [Double F] (indexed : repository.Indexed)
    {preferredId : Option GenomeId}
    (keeps : (Op.storeOrUpdateByHash genome metadata preferredId draws).KeepsForward repository)
    {result : GenomeRepository F × StoreByHashResult}
    (stored : repository.storeOrUpdateByHash genome metadata preferredId draws = some result) :
    result.1.Indexed := by
  have normal := computeContentHash_normalizeRobustMetadata genome metadata
  simp only [GenomeRepository.storeOrUpdateByHash] at stored
  split at stored
  · rename_i existingId leads
    cases stored
    refine indexed.update leads ?_ rfl rfl rfl rfl rfl
    split
    · rename_i existing known
      rw [computeContentHash_mergeMetadata]
      exact (keeps existingId existing (normal ▸ leads) known).normalizeIncoming
    · rfl
  · obtain ⟨id, chosen, rfl⟩ := Option.map_eq_some_iff.mp stored
    have free := chooseId_free chosen
    refine indexed.write rfl rfl rfl ?_ rfl ?_
    · rw [indexed.forgetOldHash_free free]
    · intro oldHash old
      rw [contentHashOf, free] at old
      cases old

theorem Indexed.markAsBest (indexed : repository.Indexed) (id : GenomeId) :
    (repository.markAsBest id).Indexed := by
  rw [GenomeRepository.markAsBest]
  split
  · rename_i stored
    refine { indexed with best := ?_ }
    intro other isBest
    cases isBest
    exact stored
  · exact indexed

end

theorem Indexed.apply [Double F] {repository after : GenomeRepository F}
    (indexed : repository.Indexed) {op : Op F} (keeps : op.KeepsForward repository)
    (applied : op.apply repository = some after) : after.Indexed := by
  cases op with
  | store id genome metadata draw =>
      cases applied
      exact indexed.store keeps
  | storeOrUpdateByHash genome metadata preferredId draws =>
      obtain ⟨result, stored, rfl⟩ := Option.map_eq_some_iff.mp applied
      exact indexed.storeOrUpdateByHash keeps stored
  | remove id =>
      cases applied
      exact indexed.removeAll keeps
  | pruneManagedByFitness maxManagedGenomes =>
      obtain ⟨result, pruned, rfl⟩ := Option.map_eq_some_iff.mp applied
      rw [pruneManagedByFitness_eq pruned]
      exact indexed.removeAll keeps
  | markAsBest id =>
      cases applied
      exact indexed.markAsBest id
  | clear =>
      cases applied
      exact indexed_empty

theorem indexed_of_reachable [Double F] {repository : GenomeRepository F}
    (reached : ((machine F).guarded fun before call => call.KeepsForward before).Reachable
      repository) : repository.Indexed := by
  refine reached.invariant ?_ ?_
  · intro repository empty
    cases empty
    exact indexed_empty
  · intro before call after indexed moved
    obtain ⟨⟨same, applied⟩, keeps⟩ := moved
    exact (indexed.presenting same).apply keeps applied

theorem storeOrUpdateByHash_known [Double F] {repository : GenomeRepository F} {genome : Genome}
    {metadata : GenomeMetadata F} (preferredId : Option GenomeId) (draws : List Draw)
    (known : (repository.hashToId.lookup (computeContentHash genome metadata)).isSome) :
    ∃ result, repository.storeOrUpdateByHash genome metadata preferredId draws = some result ∧
      result.2.inserted = false := by
  obtain ⟨id, leads⟩ := Option.isSome_iff_exists.mp known
  rw [← computeContentHash_normalizeRobustMetadata] at leads
  rw [storeOrUpdateByHash]
  rw [leads]
  exact ⟨_, rfl, rfl⟩

/-- **Deduplication by content.** In every run whose calls leave the copies of a content their
forward entry, the maps agree, every stored content has a forward entry, and no copy of a stored
content is inserted. -/
theorem deduplicated_of_reachable [Double F] {repository : GenomeRepository F}
    (reached : ((machine F).guarded fun before call => call.KeepsForward before).Reachable
      repository) :
    repository.Deduplicated ∧
      ∀ genome metadata preferredId draws result,
        repository.storeOrUpdateByHash genome metadata preferredId draws = some result →
          ∀ id, repository.contentHashOf id = some (computeContentHash genome metadata) →
            result.2.inserted = false := by
  have deduplicated := (indexed_of_reachable reached).deduplicated
  refine ⟨deduplicated, ?_⟩
  intro genome metadata preferredId draws result stored id content
  obtain ⟨known, found, reused⟩ := storeOrUpdateByHash_known preferredId draws
    (deduplicated.complete id _ content)
  rw [found] at stored
  cases stored
  exact reused

end

section

/-! ## Two copies of one content -/

def duckGenome : Genome := ⟨[1065353216]⟩

def duckMetadata : GenomeMetadata ℚ where
  name := [100]
  fitness := 1
  robustFitness := 0
  robustEvalCount := 0
  robustFitnessSamples := []
  generation := 0
  createdTimestamp := 1
  scenarioId := ⟨0⟩
  notes := []
  organismType := some .duck
  brainKind := some [78, 110]
  brainVariant := some []
  trainingSessionId := none
  genomePoolId := .dirtSim
  nesTileBrainCompatibility := none

def firstId : GenomeId := ⟨Vector.replicate 16 1⟩

def secondId : GenomeId := ⟨Vector.replicate 16 2⟩

/-- One genome stored under two identifiers, the later of which is then removed. -/
def laterCopyRemoved : GenomeRepository ℚ :=
  ((({} : GenomeRepository ℚ).store firstId duckGenome duckMetadata (0, 0)).store secondId
    duckGenome duckMetadata (0, 0)).remove secondId

theorem storeId_of_ne {id : GenomeId} {draw : Draw} (apart : id ≠ invalidGenomeId) :
    storeId id draw = id := if_neg apart

theorem step_call [Double F] {before after : GenomeRepository F} (op : Op F)
    (applied : op.apply before = some after) :
    (machine F).step before ⟨op, before.metadata⟩ after :=
  ⟨List.Perm.refl _, applied⟩

theorem reachable_call [Double F] {before after : GenomeRepository F}
    (reached : (machine F).Reachable before) (op : Op F) (applied : op.apply before = some after) :
    (machine F).Reachable after :=
  reached.step (step_call op applied)

theorem laterCopyRemoved_reachable : (machine ℚ).Reachable laterCopyRemoved := by
  have empty : (machine ℚ).Reachable {} := ⟨{}, [], rfl, .nil _⟩
  have first := reachable_call empty (.store firstId duckGenome duckMetadata (0, 0)) rfl
  have second := reachable_call first (.store secondId duckGenome duckMetadata (0, 0)) rfl
  exact reachable_call second (.remove secondId) rfl

/-- The copy left behind has no forward entry. -/
theorem not_deduplicated_laterCopyRemoved :
    ¬ ∀ repository, (machine ℚ).Reachable repository → repository.Deduplicated := by
  intro always
  have complete := (always _ laterCopyRemoved_reachable).complete firstId
    (computeContentHash duckGenome (normalizeRobustMetadata duckMetadata))
  have firstKept : storeId firstId (0, 0) = firstId := storeId_of_ne (by decide)
  have secondKept : storeId secondId (0, 0) = secondId := storeId_of_ne (by decide)
  have apart : firstId ≠ secondId := by decide
  have content : laterCopyRemoved.contentHashOf firstId =
      some (computeContentHash duckGenome (normalizeRobustMetadata duckMetadata)) := by
    rw [laterCopyRemoved, remove, contentHashOf_removeNoLock, if_neg apart]
    simp only [store, contentHashOf, firstKept, secondKept, Dict.lookup_insert, apart,
      ↓reduceIte, Option.bind_some, Option.map_some]
  have forgotten : laterCopyRemoved.hashToId.lookup
      (computeContentHash duckGenome (normalizeRobustMetadata duckMetadata)) = none := by
    rw [laterCopyRemoved, remove, lookup_hashToId_removeNoLock, if_pos]
    simp only [store, secondKept, Dict.lookup_insert, ↓reduceIte, and_self]
  have known := complete content
  rw [forgotten] at known
  cases known

def storedOnce : GenomeRepository ℚ :=
  ({} : GenomeRepository ℚ).store firstId duckGenome duckMetadata (0, 0)

theorem deduplicated_storedAgain :
    ∃ repository result, storedOnce.storeOrUpdateByHash duckGenome duckMetadata none [] =
        some (repository, result) ∧ repository.Deduplicated ∧
      ∀ genome metadata preferredId draws result,
        repository.storeOrUpdateByHash genome metadata preferredId draws = some result →
          ∀ id, repository.contentHashOf id = some (computeContentHash genome metadata) →
            result.2.inserted = false := by
  have empty : ((machine ℚ).guarded fun before call => call.KeepsForward before).Reachable {} :=
    ⟨{}, [], rfl, .nil _⟩
  have once : ((machine ℚ).guarded fun before call => call.KeepsForward before).Reachable
      storedOnce := by
    refine empty.step (show Machine.step _ _ ⟨.store firstId duckGenome duckMetadata (0, 0), ∅⟩ _
      from ⟨⟨List.Perm.refl _, rfl⟩, ?_⟩)
    intro oldHash old
    cases old
  have firstKept : storeId firstId (0, 0) = firstId := storeId_of_ne (by decide)
  have leads : storedOnce.hashToId.lookup (computeContentHash duckGenome duckMetadata) =
      some firstId := by
    simp [storedOnce, store, firstKept, computeContentHash_normalizeRobustMetadata]
  obtain ⟨⟨repository, result⟩, stored, _⟩ :=
    storeOrUpdateByHash_known none [] (Option.isSome_iff_exists.mpr ⟨firstId, leads⟩)
  refine ⟨repository, result, stored, deduplicated_of_reachable (once.step (show Machine.step _ _
    ⟨.storeOrUpdateByHash duckGenome duckMetadata none [], storedOnce.metadata⟩ _
      from ⟨⟨List.Perm.refl _, ?_⟩, ?_⟩))⟩
  · rw [Op.apply, presenting, stored, Option.map_some]
  · intro id existing leadsTo known
    rw [presenting, leads] at leadsTo
    cases leadsTo
    simp only [presenting, storedOnce, store, firstKept, AList.lookup_insert] at known
    rw [← Option.some.inj known]
    decide

end

end GenomeRepository

end DirtSim
