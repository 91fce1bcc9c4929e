import DirtSim.Evolution.Deduplication
import DirtSim.Foundation.RollingWindow
import DirtSim.Training.EvolutionState

/-! # The record of a content is its history

Every time a genome of one content is stored, its metadata are merged into the record that is
there. Counts, the window of samples and the median are kept up step by step through normalizing,
appending and merging; what they come to can be read off the list of all submissions
(`GenomeRepository.robustHistory`).
-/

namespace DirtSim

open Foundation Foundation.RollingWindow

variable {F : Type} [Double F]

section

/-! ## Records -/

variable {metadata existing incoming : GenomeMetadata F}

/-- The samples that a record is left with when it is normalized. -/
def GenomeMetadata.recentSamples (metadata : GenomeMetadata F) : List F :=
  metadata.robustFitnessSamples.rtake robustFitnessSampleWindow

def GenomeMetadata.evaluations (metadata : GenomeMetadata F) : ℤ :=
  effectiveRobustEvalCount (normalizeRobustMetadata metadata)

/-- A record as the repository keeps it: no more samples than the window holds, an evaluation for
each of them, and their median. -/
structure GenomeMetadata.Settled (metadata : GenomeMetadata F) : Prop where
  windowed : metadata.robustFitnessSamples.length ≤ robustFitnessSampleWindow
  counted : (metadata.robustFitnessSamples.length : ℤ) ≤ metadata.robustEvalCount
  median : metadata.robustFitnessSamples ≠ [] →
    metadata.robustFitness = computeMedian metadata.robustFitnessSamples

@[simp] theorem fitness_normalizeRobustMetadata :
    (normalizeRobustMetadata metadata).fitness = metadata.fitness := by
  simp only [normalizeRobustMetadata]
  split
  · rfl
  · split
    · split <;> rfl
    · rfl

theorem normalizeRobustMetadata_of_samples (sampled : metadata.robustFitnessSamples ≠ []) :
    normalizeRobustMetadata metadata =
      { metadata with
        robustFitnessSamples := metadata.recentSamples
        robustFitness := computeMedian metadata.recentSamples
        robustEvalCount :=
          max (max metadata.robustEvalCount 0) (metadata.recentSamples.length : ℤ) } :=
  if_pos sampled

theorem normalizeRobustMetadata_of_no_samples (unsampled : metadata.robustFitnessSamples = []) :
    (normalizeRobustMetadata metadata).robustFitnessSamples = [] ∧
      (normalizeRobustMetadata metadata).robustEvalCount = max metadata.robustEvalCount 0 := by
  simp only [normalizeRobustMetadata]
  rw [if_neg (not_not.mpr unsampled)]
  split
  · split <;> exact ⟨unsampled, rfl⟩
  · exact ⟨unsampled, rfl⟩

@[simp] theorem samples_normalizeRobustMetadata :
    (normalizeRobustMetadata metadata).robustFitnessSamples = metadata.recentSamples := by
  by_cases sampled : metadata.robustFitnessSamples = []
  · rw [(normalizeRobustMetadata_of_no_samples sampled).1, GenomeMetadata.recentSamples, sampled,
      List.rtake_nil]
  · rw [normalizeRobustMetadata_of_samples sampled]

theorem count_normalizeRobustMetadata :
    (normalizeRobustMetadata metadata).robustEvalCount =
      max (max metadata.robustEvalCount 0) (metadata.recentSamples.length : ℤ) := by
  by_cases sampled : metadata.robustFitnessSamples = []
  · have none_recent : metadata.recentSamples = [] := by
      rw [GenomeMetadata.recentSamples, sampled, List.rtake_nil]
    rw [(normalizeRobustMetadata_of_no_samples sampled).2, none_recent, List.length_nil]
    exact (max_eq_left (le_max_right _ _)).symm
  · rw [normalizeRobustMetadata_of_samples sampled]

theorem settled_normalizeRobustMetadata (metadata : GenomeMetadata F) :
    (normalizeRobustMetadata metadata).Settled where
  windowed := by
    rw [samples_normalizeRobustMetadata, GenomeMetadata.recentSamples, length_rtake]
    exact min_le_left ..
  counted := by
    rw [samples_normalizeRobustMetadata, count_normalizeRobustMetadata]
    exact le_max_right ..
  median := by
    intro some_recent
    by_cases sampled : metadata.robustFitnessSamples = []
    · exact absurd (normalizeRobustMetadata_of_no_samples sampled).1 some_recent
    · rw [normalizeRobustMetadata_of_samples sampled]

namespace GenomeMetadata.Settled

theorem recentSamples_eq (settled : metadata.Settled) :
    metadata.recentSamples = metadata.robustFitnessSamples :=
  rtake_of_length_le settled.windowed

theorem nonneg (settled : metadata.Settled) : 0 ≤ metadata.robustEvalCount :=
  (Int.natCast_nonneg _).trans settled.counted

theorem effective_eq (settled : metadata.Settled) :
    effectiveRobustEvalCount metadata = metadata.robustEvalCount := by
  have nonneg := settled.nonneg
  have counted := settled.counted
  unfold effectiveRobustEvalCount
  split
  · rfl
  · omega

theorem count_eq (settled : metadata.Settled) :
    (normalizeRobustMetadata metadata).robustEvalCount = metadata.robustEvalCount := by
  rw [count_normalizeRobustMetadata, settled.recentSamples_eq, max_eq_left settled.nonneg,
    max_eq_left settled.counted]

end GenomeMetadata.Settled

@[simp] theorem GenomeMetadata.recentSamples_normalize (metadata : GenomeMetadata F) :
    (normalizeRobustMetadata metadata).recentSamples = metadata.recentSamples := by
  rw [(settled_normalizeRobustMetadata metadata).recentSamples_eq, samples_normalizeRobustMetadata]

theorem GenomeMetadata.evaluations_eq (metadata : GenomeMetadata F) :
    metadata.evaluations =
      max (max metadata.robustEvalCount 0) (metadata.recentSamples.length : ℤ) := by
  rw [evaluations, (settled_normalizeRobustMetadata metadata).effective_eq,
    count_normalizeRobustMetadata]

@[simp] theorem GenomeMetadata.evaluations_normalize (metadata : GenomeMetadata F) :
    (normalizeRobustMetadata metadata).evaluations = metadata.evaluations := by
  rw [evaluations_eq, recentSamples_normalize, count_normalizeRobustMetadata, evaluations_eq]
  omega

end

section

/-! ## Merging -/

variable {metadata existing incoming : GenomeMetadata F}

theorem foldl_appendRobustSample (samples : List F)
    (finite : ∀ sample ∈ samples, Double.isFinite sample = true)
    (windowed : metadata.robustFitnessSamples.length ≤ robustFitnessSampleWindow)
    (counted : 0 ≤ metadata.robustEvalCount) :
    (samples.foldl appendRobustSample metadata).fitness = metadata.fitness ∧
      (samples.foldl appendRobustSample metadata).robustFitnessSamples =
        (metadata.robustFitnessSamples ++ samples).rtake robustFitnessSampleWindow ∧
      (samples.foldl appendRobustSample metadata).robustEvalCount =
        metadata.robustEvalCount + samples.length ∧
      ((metadata.robustFitnessSamples ≠ [] →
          metadata.robustFitness = computeMedian metadata.robustFitnessSamples) →
        (samples.foldl appendRobustSample metadata).robustFitnessSamples ≠ [] →
          (samples.foldl appendRobustSample metadata).robustFitness =
            computeMedian (samples.foldl appendRobustSample metadata).robustFitnessSamples) := by
  induction samples generalizing metadata with
  | nil =>
      refine ⟨rfl, ?_, ?_, fun median => median⟩
      · rw [List.append_nil, rtake_of_length_le windowed]
        rfl
      · exact (add_zero _).symm
  | cons sample samples ih =>
      have appended : appendRobustSample metadata sample =
          { metadata with
            robustEvalCount := metadata.robustEvalCount + 1
            robustFitnessSamples :=
              (metadata.robustFitnessSamples ++ [sample]).rtake robustFitnessSampleWindow
            robustFitness := computeMedian
              ((metadata.robustFitnessSamples ++ [sample]).rtake robustFitnessSampleWindow) } := by
        simp only [appendRobustSample, finite sample List.mem_cons_self, Bool.not_true,
          Bool.false_eq_true, ↓reduceIte, max_eq_right counted, rtake_snoc windowed]
      obtain ⟨fitness, kept, count, median⟩ := @ih (appendRobustSample metadata sample)
        (fun other later => finite other (List.mem_cons_of_mem sample later)) (by
          rw [appended, length_rtake]
          exact min_le_left ..) (by
          rw [appended]
          exact Int.add_nonneg counted Int.one_nonneg)
      rw [List.foldl_cons]
      refine ⟨?_, ?_, ?_, ?_⟩
      · rw [fitness, appended]
      · rw [kept, appended, rtake_rtake_append, List.append_assoc, List.singleton_append]
      · rw [count, appended, List.length_cons]
        push_cast
        ring
      · intro _ some_kept
        refine median ?_ some_kept
        rw [appended]
        exact fun _ => rfl

/-- **Merging** a submission with finite samples into a settled record. -/
theorem mergeMetadata_spec (settled : existing.Settled)
    (finite : ∀ sample ∈ incoming.robustFitnessSamples, Double.isFinite sample = true) :
    (mergeMetadata existing incoming).Settled ∧
      (mergeMetadata existing incoming).fitness =
        Double.larger existing.fitness incoming.fitness ∧
      (mergeMetadata existing incoming).robustFitnessSamples =
        (existing.robustFitnessSamples ++ incoming.recentSamples).rtake
          robustFitnessSampleWindow ∧
      (mergeMetadata existing incoming).robustEvalCount =
        existing.robustEvalCount + incoming.evaluations := by
  have recent : ∀ sample ∈ incoming.recentSamples, Double.isFinite sample = true :=
    fun sample listed => finite sample (List.mem_of_mem_drop listed)
  set filled := fillFrom (normalizeRobustMetadata existing) (normalizeRobustMetadata incoming)
    with filled_eq
  have filled_samples : filled.robustFitnessSamples = existing.robustFitnessSamples := by
    rw [filled_eq, fillFrom, samples_normalizeRobustMetadata, settled.recentSamples_eq]
  have filled_count : filled.robustEvalCount = existing.robustEvalCount := by
    rw [filled_eq, fillFrom, (settled_normalizeRobustMetadata existing).effective_eq,
      settled.count_eq]
  have filled_fitness : filled.fitness = Double.larger existing.fitness incoming.fitness := by
    rw [filled_eq, fillFrom, fitness_normalizeRobustMetadata, fitness_normalizeRobustMetadata]
  have filled_median : filled.robustFitnessSamples ≠ [] →
      filled.robustFitness = computeMedian filled.robustFitnessSamples := by
    intro sampled
    have kept : (normalizeRobustMetadata existing).robustFitnessSamples ≠ [] := sampled
    rw [filled_eq, fillFrom]
    dsimp only
    rw [if_neg (by simpa only [List.isEmpty_iff] using kept)]
  obtain ⟨fitness, samples, count, median⟩ := foldl_appendRobustSample incoming.recentSamples
    recent (filled_samples ▸ settled.windowed) (filled_count ▸ settled.nonneg)
  rw [filled_samples] at samples
  rw [filled_count] at count
  rw [filled_fitness] at fitness
  have covered : (incoming.recentSamples.length : ℤ) ≤ incoming.evaluations := by
    rw [GenomeMetadata.evaluations_eq]
    exact le_max_right ..
  have total : existing.robustEvalCount + incoming.recentSamples.length +
      max 0 (incoming.evaluations - incoming.recentSamples.length) =
        existing.robustEvalCount + incoming.evaluations := by
    omega
  have bounded : (((existing.robustFitnessSamples ++ incoming.recentSamples).rtake
      robustFitnessSampleWindow).length : ℤ) ≤ existing.robustEvalCount + incoming.evaluations := by
    have few := settled.counted
    rw [length_rtake, List.length_append]
    omega
  have windowed : ((existing.robustFitnessSamples ++ incoming.recentSamples).rtake
      robustFitnessSampleWindow).length ≤ robustFitnessSampleWindow := by
    rw [length_rtake]
    exact min_le_left ..
  unfold mergeMetadata
  dsimp only
  rw [samples_normalizeRobustMetadata, ← filled_eq]
  set sampled := incoming.recentSamples.foldl appendRobustSample filled
  set merged : GenomeMetadata F := { sampled with
    robustEvalCount := sampled.robustEvalCount + max 0 (effectiveRobustEvalCount
      (normalizeRobustMetadata incoming) - incoming.recentSamples.length) }
  have merged_count : merged.robustEvalCount =
      existing.robustEvalCount + incoming.evaluations := by
    rw [← total, ← count]
    rfl
  have merged_samples := samples
  split
  · rename_i idle
    have kept : merged.recentSamples = merged.robustFitnessSamples :=
      rtake_of_length_le (merged_samples ▸ windowed)
    refine ⟨settled_normalizeRobustMetadata merged, ?_, ?_, ?_⟩
    · rw [fitness_normalizeRobustMetadata]
      exact fitness
    · rw [samples_normalizeRobustMetadata, kept, merged_samples]
    · rw [count_normalizeRobustMetadata, kept, merged_samples, merged_count]
      omega
  · split
    · rename_i empty
      refine ⟨⟨merged_samples ▸ windowed, ?_, ?_⟩, fitness, merged_samples, merged_count⟩
      · change (merged.robustFitnessSamples.length : ℤ) ≤ merged.robustEvalCount
        rw [merged_samples, merged_count]
        exact bounded
      · exact fun some_kept => absurd (List.isEmpty_iff.mp empty) some_kept
    · refine ⟨⟨merged_samples ▸ windowed, ?_, median filled_median⟩, fitness, merged_samples,
        merged_count⟩
      rw [merged_samples, merged_count]
      exact bounded

end

namespace GenomeRepository

section

/-! ## Histories -/

/-- A call that stores a genome by its content. -/
structure Submission (F : Type) where
  genome : Genome
  metadata : GenomeMetadata F
  preferredId : Option GenomeId
  draws : List Draw

/-- The repository after submissions one after another; `none` when one does not return. -/
def submitAll (repository : GenomeRepository F) (submissions : List (Submission F)) :
    Option (GenomeRepository F) :=
  submissions.foldlM (fun repository submission =>
    (repository.storeOrUpdateByHash submission.genome submission.metadata submission.preferredId
      submission.draws).map Prod.fst) repository

/-- A record that says of a history of submissions what can be computed from their list. -/
structure Recomputed (history : List (GenomeMetadata F)) (entry : GenomeMetadata F) : Prop where
  submitted : entry.fitness ∈ history.map GenomeMetadata.fitness
  highest : ∀ metadata ∈ history, Double.less entry.fitness metadata.fitness = false
  samples : entry.robustFitnessSamples =
    (history.flatMap GenomeMetadata.recentSamples).rtake robustFitnessSampleWindow
  median : entry.robustFitnessSamples ≠ [] →
    entry.robustFitness = computeMedian entry.robustFitnessSamples
  count : entry.robustEvalCount = (history.map GenomeMetadata.evaluations).sum

variable [LawfulComparison F] {repository after : GenomeRepository F} {hash : ContentHash}
variable {history : List (GenomeMetadata F)}

theorem recomputed_normalizeRobustMetadata (metadata : GenomeMetadata F) :
    Recomputed [metadata] (normalizeRobustMetadata metadata) where
  submitted := by
    rw [fitness_normalizeRobustMetadata]
    exact List.mem_singleton_self _
  highest := by
    intro other listed
    rw [List.mem_singleton.mp listed, fitness_normalizeRobustMetadata]
    exact LawfulComparison.irrefl _
  samples := by
    rw [samples_normalizeRobustMetadata, List.flatMap_singleton]
    exact (rtake_of_length_le (by
      rw [GenomeMetadata.recentSamples, length_rtake]
      exact min_le_left ..)).symm
  median := (settled_normalizeRobustMetadata metadata).median
  count := by
    rw [List.map_singleton, List.sum_singleton, GenomeMetadata.evaluations_eq,
      count_normalizeRobustMetadata]

/-- **One more submission** of the content. -/
theorem Recomputed.merge {entry incoming : GenomeMetadata F} (recomputed : Recomputed history entry)
    (settled : entry.Settled)
    (finite : ∀ sample ∈ incoming.robustFitnessSamples, Double.isFinite sample = true) :
    (mergeMetadata entry (normalizeRobustMetadata incoming)).Settled ∧
      Recomputed (history ++ [incoming])
        (mergeMetadata entry (normalizeRobustMetadata incoming)) := by
  have recent : ∀ sample ∈ (normalizeRobustMetadata incoming).robustFitnessSamples,
      Double.isFinite sample = true := by
    rw [samples_normalizeRobustMetadata]
    exact fun sample listed => finite sample (List.mem_of_mem_drop listed)
  obtain ⟨merged, fitness, samples, count⟩ := mergeMetadata_spec settled recent
  rw [fitness_normalizeRobustMetadata] at fitness
  rw [GenomeMetadata.recentSamples_normalize] at samples
  rw [GenomeMetadata.evaluations_normalize] at count
  refine ⟨merged, ?_, ?_, ?_, merged.median, ?_⟩
  · rw [fitness, Double.larger, List.map_append, List.mem_append]
    split
    · exact Or.inr (List.mem_singleton_self _)
    · exact Or.inl recomputed.submitted
  · intro metadata listed
    rw [fitness, Double.larger]
    rcases List.mem_append.mp listed with earlier | last
    · have known := recomputed.highest metadata earlier
      split
      · rename_i raised
        cases above : Double.less incoming.fitness metadata.fitness with
        | false => rfl
        | true => rw [LawfulComparison.trans _ _ _ raised above] at known; cases known
      · exact known
    · rw [List.mem_singleton.mp last]
      split
      · exact LawfulComparison.irrefl _
      · rename_i kept
        exact Bool.eq_false_iff.mpr kept
  · rw [samples, recomputed.samples, rtake_flatMap_snoc]
  · rw [count, recomputed.count, List.map_append, List.sum_append, List.map_singleton,
      List.sum_singleton]

/-- A content hash leads to a record that can be computed from a history. -/
def Records (repository : GenomeRepository F) (hash : ContentHash)
    (history : List (GenomeMetadata F)) : Prop :=
  ∃ id entry, repository.hashToId.lookup hash = some id ∧
    repository.metadata.lookup id = some entry ∧ entry.Settled ∧ Recomputed history entry

theorem records_first {submission : Submission F} {result : StoreByHashResult}
    (absent : repository.hashToId.lookup hash = none)
    (content : computeContentHash submission.genome submission.metadata = hash)
    (stored : repository.storeOrUpdateByHash submission.genome submission.metadata
      submission.preferredId submission.draws = some (after, result)) :
    after.Records hash [submission.metadata] := by
  rw [storeOrUpdateByHash] at stored
  dsimp only at stored
  rw [computeContentHash_normalizeRobustMetadata, content, absent] at stored
  obtain ⟨id, _, same⟩ := Option.map_eq_some_iff.mp stored
  cases same
  refine ⟨id, normalizeRobustMetadata submission.metadata, ?_, ?_,
    settled_normalizeRobustMetadata _, recomputed_normalizeRobustMetadata _⟩
  · exact AList.lookup_insert _
  · exact AList.lookup_insert _

theorem Records.submit {submission : Submission F} {result : StoreByHashResult}
    (records : repository.Records hash history)
    (content : computeContentHash submission.genome submission.metadata = hash)
    (finite : ∀ sample ∈ submission.metadata.robustFitnessSamples, Double.isFinite sample = true)
    (stored : repository.storeOrUpdateByHash submission.genome submission.metadata
      submission.preferredId submission.draws = some (after, result)) :
    after.Records hash (history ++ [submission.metadata]) := by
  obtain ⟨id, entry, leads, found, settled, recomputed⟩ := records
  rw [storeOrUpdateByHash] at stored
  dsimp only at stored
  rw [computeContentHash_normalizeRobustMetadata, content, leads] at stored
  cases stored
  refine ⟨id, mergeMetadata entry (normalizeRobustMetadata submission.metadata), leads, ?_,
    recomputed.merge settled finite⟩
  rw [found]
  exact AList.lookup_insert _

theorem Records.submitAll (submissions : List (Submission F))
    (records : repository.Records hash history) (content : ∀ submission ∈ submissions,
      computeContentHash submission.genome submission.metadata = hash)
    (finite : ∀ submission ∈ submissions, ∀ sample ∈ submission.metadata.robustFitnessSamples,
      Double.isFinite sample = true) (stored : repository.submitAll submissions = some after) :
    after.Records hash (history ++ submissions.map Submission.metadata) := by
  induction submissions generalizing repository history with
  | nil =>
      cases stored
      rwa [List.map_nil, List.append_nil]
  | cons submission submissions ih =>
      obtain ⟨middle, first, rest⟩ := Option.bind_eq_some_iff.mp stored
      obtain ⟨⟨_, result⟩, returned, rfl⟩ := Option.map_eq_some_iff.mp first
      have next := records.submit (content submission List.mem_cons_self)
        (finite submission List.mem_cons_self) returned
      have last := ih next (fun other later => content other (List.mem_cons_of_mem _ later))
        (fun other later => finite other (List.mem_cons_of_mem _ later)) rest
      rwa [List.append_assoc, List.singleton_append] at last

/-- A genome submitted under an identifier, with evaluations and the samples of some of them. -/
def duckSubmission (fitness : ℚ) (evaluations : ℤ) (samples : List ℚ) : Submission ℚ where
  genome := duckGenome
  metadata := { duckMetadata with
    fitness := fitness, robustEvalCount := evaluations, robustFitnessSamples := samples }
  preferredId := some firstId
  draws := []

end

end GenomeRepository

end DirtSim
