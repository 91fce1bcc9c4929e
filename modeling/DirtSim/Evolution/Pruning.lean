import DirtSim.Evolution.Retention
import DirtSim.Training.SurvivorSelection
import Mathlib.Data.Char
import Mathlib.Data.List.Lex

/-! # Pruning keeps the fittest

A prune cuts every bucket of managed genomes to a size: it removes the least fit ones first and
never the best genome (`GenomeRepository.PrunesWorst`). A genome whose record names no training
session is in no bucket. It stays until it is removed, or until a record that names a session
is merged into its own (`GenomeRepository.keepsFittest`).
-/

namespace DirtSim

open Foundation Double

namespace GenomeRepository

variable {F : Type} {repository : GenomeRepository F}

def Managed (repository : GenomeRepository F) (id : GenomeId) : Prop :=
  ∃ metadata, repository.metadata.lookup id = some metadata ∧
    metadata.trainingSessionId.isSome = true

def bucketMembers (repository : GenomeRepository F) (key : ManagedGenomeBucketKey) :
    List GenomeId :=
  (repository.metadata.entries.filter fun entry =>
    entry.2.trainingSessionId.isSome && decide (bucketKey entry.2 = key)).map Sigma.fst

section

variable {key : ManagedGenomeBucketKey} {buckets : List (ManagedGenomeBucketKey × List GenomeId)}

theorem mem_bucketMembers_iff {id : GenomeId} :
    id ∈ repository.bucketMembers key ↔ ∃ metadata,
      repository.metadata.lookup id = some metadata ∧
        metadata.trainingSessionId.isSome = true ∧ bucketKey metadata = key := by
  rw [bucketMembers, List.mem_map]
  constructor
  · rintro ⟨⟨other, metadata⟩, listed, rfl⟩
    obtain ⟨inside, fits⟩ := List.mem_filter.mp listed
    rw [Bool.and_eq_true, decide_eq_true_eq] at fits
    exact ⟨metadata, AList.mem_lookup_iff.mpr inside, fits⟩
  · rintro ⟨metadata, found, fits⟩
    refine ⟨⟨id, metadata⟩, List.mem_filter.mpr ⟨AList.mem_lookup_iff.mp found, ?_⟩, rfl⟩
    rwa [Bool.and_eq_true, decide_eq_true_eq]

theorem nodup_bucketMembers (repository : GenomeRepository F) (key : ManagedGenomeBucketKey) :
    (repository.bucketMembers key).Nodup := by
  have keys : repository.metadata.entries.keys.Nodup := repository.metadata.nodupKeys
  exact keys.sublist (List.filter_sublist.map Sigma.fst)

theorem known_of_mem_bucketMembers {id : GenomeId} (member : id ∈ repository.bucketMembers key) :
    (repository.metadata.lookup id).isSome = true := by
  obtain ⟨metadata, found, _⟩ := mem_bucketMembers_iff.mp member
  rw [found, Option.isSome_some]

theorem bucketMembers_disjoint {key other : ManagedGenomeBucketKey} {id : GenomeId}
    (member : id ∈ repository.bucketMembers key) (member' : id ∈ repository.bucketMembers other) :
    key = other := by
  obtain ⟨metadata, found, _, rfl⟩ := mem_bucketMembers_iff.mp member
  obtain ⟨metadata', found', _, rfl⟩ := mem_bucketMembers_iff.mp member'
  rw [found] at found'
  cases found'
  rfl

def bucketOf (buckets : List (ManagedGenomeBucketKey × List GenomeId))
    (key : ManagedGenomeBucketKey) : List GenomeId :=
  (buckets.lookup key).getD []

theorem bucketOf_cons (other key : ManagedGenomeBucketKey) (ids : List GenomeId)
    (buckets : List (ManagedGenomeBucketKey × List GenomeId)) :
    bucketOf ((other, ids) :: buckets) key =
      if other = key then ids else bucketOf buckets key := by
  by_cases same : other = key
  · rw [if_pos same, bucketOf, same, List.lookup_cons_self, Option.getD_some]
  · rw [if_neg same, bucketOf, List.lookup_cons, beq_eq_false_iff_ne.mpr (Ne.symm same)]
    rfl

theorem bucketOf_addToBucket (key other : ManagedGenomeBucketKey) (id : GenomeId)
    (buckets : List (ManagedGenomeBucketKey × List GenomeId)) :
    bucketOf (addToBucket key id buckets) other =
      if key = other then bucketOf buckets key ++ [id] else bucketOf buckets other := by
  induction buckets with
  | nil => rw [addToBucket, bucketOf_cons]; rfl
  | cons bucket buckets ih =>
      rw [addToBucket]
      by_cases same : bucket.1 = key
      · rw [if_pos same, bucketOf_cons, bucketOf_cons, bucketOf_cons, if_pos same, same]
        by_cases asked : key = other
        · rw [if_pos asked, if_pos asked]
        · rw [if_neg asked, if_neg asked, if_neg asked]
      · rw [if_neg same, bucketOf_cons, ih, bucketOf_cons, bucketOf_cons, if_neg same]
        by_cases asked : key = other
        · rw [if_pos asked, if_pos asked, if_neg (asked ▸ same)]
        · rw [if_neg asked, if_neg asked]

theorem keys_addToBucket (key : ManagedGenomeBucketKey) (id : GenomeId)
    (buckets : List (ManagedGenomeBucketKey × List GenomeId)) :
    (addToBucket key id buckets).map Prod.fst =
      if key ∈ buckets.map Prod.fst then buckets.map Prod.fst
      else buckets.map Prod.fst ++ [key] := by
  induction buckets with
  | nil => rfl
  | cons bucket buckets ih =>
      rw [addToBucket]
      by_cases same : bucket.1 = key
      · rw [if_pos same, List.map_cons, List.map_cons,
          if_pos (List.mem_cons.mpr (Or.inl same.symm))]
      · rw [if_neg same, List.map_cons, ih, List.map_cons]
        by_cases known : key ∈ buckets.map Prod.fst
        · rw [if_pos known, if_pos (List.mem_cons_of_mem _ known)]
        · rw [if_neg known, if_neg, List.cons_append]
          intro either
          exact (List.mem_cons.mp either).elim (fun first => same first.symm) known

theorem bucketOf_of_mem (distinct : (buckets.map Prod.fst).Nodup)
    {bucket : ManagedGenomeBucketKey × List GenomeId} (member : bucket ∈ buckets) :
    bucketOf buckets bucket.1 = bucket.2 := by
  induction buckets with
  | nil => cases member
  | cons first buckets ih =>
      obtain ⟨fresh, distinct⟩ := List.nodup_cons.mp distinct
      rw [bucketOf_cons]
      rcases List.mem_cons.mp member with rfl | later
      · rw [if_pos rfl]
      · rw [if_neg, ih distinct later]
        intro same
        exact fresh (same ▸ List.mem_map_of_mem later)

theorem mem_of_bucketOf (filled : bucketOf buckets key ≠ []) :
    (key, bucketOf buckets key) ∈ buckets := by
  induction buckets with
  | nil => exact absurd rfl filled
  | cons first buckets ih =>
      rw [bucketOf_cons] at filled ⊢
      by_cases same : first.1 = key
      · rw [if_pos same, ← same]
        exact List.mem_cons_self
      · rw [if_neg same] at filled ⊢
        exact List.mem_cons_of_mem _ (ih filled)

theorem foldl_addToBucket (entries : List ((_ : GenomeId) × GenomeMetadata F))
    (distinct : (buckets.map Prod.fst).Nodup) :
    ((entries.foldl (fun buckets entry =>
        if entry.2.trainingSessionId.isSome then addToBucket (bucketKey entry.2) entry.1 buckets
        else buckets) buckets).map Prod.fst).Nodup ∧
      ∀ key, bucketOf (entries.foldl (fun buckets entry =>
          if entry.2.trainingSessionId.isSome then addToBucket (bucketKey entry.2) entry.1 buckets
          else buckets) buckets) key =
        bucketOf buckets key ++ (entries.filter fun entry =>
          entry.2.trainingSessionId.isSome && decide (bucketKey entry.2 = key)).map Sigma.fst := by
  induction entries generalizing buckets with
  | nil => exact ⟨distinct, fun key => (List.append_nil _).symm⟩
  | cons entry entries ih =>
      rw [List.foldl_cons]
      cases managed : entry.2.trainingSessionId.isSome with
      | false =>
          refine (ih distinct).imp_right fun holds key => ?_
          rw [List.filter_cons_of_neg (by rw [managed]; exact Bool.false_ne_true)]
          exact holds key
      | true =>
          have fresh : ((addToBucket (bucketKey entry.2) entry.1 buckets).map Prod.fst).Nodup := by
            rw [keys_addToBucket]
            split
            · exact distinct
            · rename_i absent
              exact List.nodup_append.mpr ⟨distinct, List.nodup_singleton _, fun known listed key
                same => by rintro rfl; exact absent (List.mem_singleton.mp same ▸ listed)⟩
          refine (ih fresh).imp_right fun holds key => (holds key).trans ?_
          rw [bucketOf_addToBucket, List.filter_cons, managed, Bool.true_and]
          by_cases asked : bucketKey entry.2 = key
          · rw [if_pos asked, if_pos (decide_eq_true asked), List.map_cons, asked,
              List.append_assoc, List.singleton_append]
          · rw [if_neg asked, if_neg (fun equal => asked (of_decide_eq_true equal))]

/-- **The buckets** hold the managed genomes, each key once. -/
theorem managedBuckets_spec (repository : GenomeRepository F) :
    (repository.managedBuckets.map Prod.fst).Nodup ∧
      ∀ key, bucketOf repository.managedBuckets key = repository.bucketMembers key :=
  foldl_addToBucket repository.metadata.entries List.nodup_nil

end

section

theorem mapM_lookup {ids : List GenomeId}
    (known : ∀ id ∈ ids, (repository.metadata.lookup id).isSome = true) :
    ∃ entries : List (GenomeId × GenomeMetadata F),
      ids.mapM (fun id => (repository.metadata.lookup id).map fun metadata => (id, metadata)) =
        some entries ∧
      entries.map Prod.fst = ids ∧
      ∀ entry ∈ entries, repository.metadata.lookup entry.1 = some entry.2 := by
  induction ids with
  | nil => exact ⟨[], rfl, rfl, fun _ none => absurd none List.not_mem_nil⟩
  | cons id ids ih =>
      obtain ⟨metadata, found⟩ := Option.isSome_iff_exists.mp (known id List.mem_cons_self)
      obtain ⟨entries, looked, same, records⟩ :=
        ih fun other later => known other (List.mem_cons_of_mem _ later)
      refine ⟨(id, metadata) :: entries, ?_, ?_, ?_⟩
      · rw [List.mapM_cons, looked, found]
        rfl
      · rw [List.map_cons, same]
      · intro entry listed
        rcases List.mem_cons.mp listed with rfl | later
        · exact found
        · exact records entry later

variable [Double F]

/-- Where a genome stands among equals: the older one first, then by text. -/
def ageOrder (entry : GenomeId × GenomeMetadata F) : ℕ ×ₗ List Char :=
  toLex (entry.2.createdTimestamp.toNat, entry.1.toString)

def LessFit (left right : GenomeId × GenomeMetadata F) : Prop :=
  Precedes (fun low high : F => less low high = true) (fun low high => equal low high = true)
    (fun entry => effectiveRobustFitness entry.2) ageOrder left right

theorem lessFit_iff [LawfulNumbers F] {left right : GenomeId × GenomeMetadata F} :
    lessFit left right = true ↔ LessFit left right := by
  unfold lessFit LessFit Precedes ageOrder
  rw [Prod.Lex.toLex_lt_toLex]
  dsimp only
  cases tie : equal (effectiveRobustFitness left.2) (effectiveRobustFitness right.2) with
  | false => simp
  | true =>
      have level : less (effectiveRobustFitness left.2) (effectiveRobustFitness right.2) = false := by
        cases below : less (effectiveRobustFitness left.2) (effectiveRobustFitness right.2) with
        | false => rfl
        | true => rw [LawfulNumbers.not_equal_of_less below] at tie; cases tie
      rw [level, ← UInt64.lt_iff_toNat_lt, UInt64.toNat_inj]
      by_cases same : left.2.createdTimestamp = right.2.createdTimestamp
      · simp [same]
      · simp [same]

/-- **A sorted bucket** has its genomes in the order of removal. -/
theorem sortBucket_spec [LawfulNumbers F] {ids : List GenomeId}
    (known : ∀ id ∈ ids, (repository.metadata.lookup id).isSome = true) :
    ∃ sorted, repository.sortBucket ids = some sorted ∧ sorted.Perm ids ∧
      ((∀ id ∈ ids, ∀ metadata, repository.metadata.lookup id = some metadata →
          equal (effectiveRobustFitness metadata) (effectiveRobustFitness metadata) = true) →
        sorted.Pairwise fun first second => ∀ metadata metadata',
          repository.metadata.lookup first = some metadata →
          repository.metadata.lookup second = some metadata' →
            ¬ LessFit (second, metadata') (first, metadata)) := by
  obtain ⟨entries, looked, same, records⟩ := mapM_lookup known
  have order := entries.mergeSort_perm fun left right => !lessFit right left
  refine ⟨_, by rw [sortBucket, looked, Option.map_some], same ▸ order.map Prod.fst, ?_⟩
  intro numbers
  have number : ∀ entry ∈ entries,
      equal (effectiveRobustFitness entry.2) (effectiveRobustFitness entry.2) = true :=
    fun entry listed => numbers entry.1 (same ▸ List.mem_map_of_mem listed) entry.2
      (records entry listed)
  have sorted : (entries.mergeSort fun left right => !lessFit right left).Pairwise
      fun first second => ¬ LessFit second first := by
    unfold LessFit
    apply LawfulNumbers.scale.pairwise_mergeSort _ number
    intro first second
    rw [Bool.not_eq_true', ← Bool.not_eq_true, lessFit_iff, LessFit]
  rw [List.pairwise_map]
  refine sorted.imp_of_mem fun inFirst inSecond notLess metadata metadata' found found' => ?_
  rw [records _ (order.mem_iff.mp inFirst)] at found
  rw [records _ (order.mem_iff.mp inSecond)] at found'
  cases found
  cases found'
  exact notLess

end

section

variable [Double F] {maxManagedGenomes : ℕ} {key : ManagedGenomeBucketKey}

/-- All robust fitness values of a bucket are numbers. -/
def NumberedBucket (repository : GenomeRepository F) (key : ManagedGenomeBucketKey) : Prop :=
  ∀ id ∈ repository.bucketMembers key, ∀ metadata,
    repository.metadata.lookup id = some metadata →
      equal (effectiveRobustFitness metadata) (effectiveRobustFitness metadata) = true

theorem length_le_filter_ne (best : Option GenomeId) {ids : List GenomeId} (distinct : ids.Nodup) :
    ids.length - 1 ≤ (ids.filter fun id => best ≠ some id).length := by
  cases best with
  | none => simp
  | some best =>
      have erased : (ids.filter fun id => some best ≠ some id) = ids.erase best := by
        rw [distinct.erase_eq_filter]
        congr 1
        funext id
        simp [bne, Bool.beq_eq_decide_eq, eq_comm]
      rw [erased, List.length_erase]
      split <;> omega

/-- **The victims of a bucket**: as many as are too many, the least fit first, never the best. -/
theorem bucketVictims_spec [LawfulNumbers F] (limited : 0 < maxManagedGenomes) :
    let victims := repository.bucketVictims maxManagedGenomes (repository.bucketMembers key)
    (∀ id ∈ victims, id ∈ repository.bucketMembers key ∧ repository.bestId ≠ some id) ∧
      victims.Nodup ∧
      victims.length = (repository.bucketMembers key).length - maxManagedGenomes ∧
      (repository.NumberedBucket key → ∀ removed ∈ victims,
        ∀ kept ∈ repository.bucketMembers key, kept ∉ victims → repository.bestId ≠ some kept →
          ∀ metadata metadata', repository.metadata.lookup removed = some metadata →
            repository.metadata.lookup kept = some metadata' →
              ¬ LessFit (kept, metadata') (removed, metadata)) := by
  intro victims
  obtain ⟨sorted, found, order, ranked⟩ :=
    @sortBucket_spec F repository _ _ (repository.bucketMembers key) fun _ =>
      known_of_mem_bucketMembers
  have distinct : sorted.Nodup := order.nodup_iff.mpr (repository.nodup_bucketMembers key)
  by_cases small : (repository.bucketMembers key).length ≤ maxManagedGenomes
  · have empty : victims = [] := if_pos small
    rw [empty]
    refine ⟨fun id none => absurd none List.not_mem_nil, List.nodup_nil, ?_, ?_⟩
    · rw [List.length_nil, Nat.sub_eq_zero_of_le small]
    · exact fun _ removed none => absurd none List.not_mem_nil
  · have taken : victims = (sorted.filter fun id => repository.bestId ≠ some id).take
        ((repository.bucketMembers key).length - maxManagedGenomes) := by
      refine (if_neg small).trans ?_
      rw [found, Option.getD_some]
    rw [taken]
    refine ⟨?_, ?_, ?_, ?_⟩
    · intro id member
      obtain ⟨listed, spared⟩ := List.mem_filter.mp (List.mem_of_mem_take member)
      exact ⟨order.mem_iff.mp listed, of_decide_eq_true spared⟩
    · exact (distinct.filter _).sublist (List.take_sublist _ _)
    · have room := length_le_filter_ne repository.bestId distinct
      rw [order.length_eq] at room
      rw [List.length_take]
      omega
    · intro numbers removed victim kept member spared notBest
      have listed : kept ∈ sorted.filter fun id => repository.bestId ≠ some id :=
        List.mem_filter.mpr ⟨order.mem_iff.mpr member, decide_eq_true notBest⟩
      have later := (List.mem_append.mp
        ((List.take_append_drop _ (sorted.filter _)).symm ▸ listed)).resolve_left spared
      have apart := (ranked numbers).filter fun id => decide (repository.bestId ≠ some id)
      rw [← List.take_append_drop ((repository.bucketMembers key).length - maxManagedGenomes)
        (sorted.filter _)] at apart
      exact (List.pairwise_append.mp apart).2.2 removed victim kept later

/-- **The victims of a prune** are those of the buckets. -/
theorem mem_pruneVictims_iff (limited : 0 < maxManagedGenomes) {id : GenomeId} :
    id ∈ repository.pruneVictims maxManagedGenomes ↔ ∃ key,
      id ∈ repository.bucketVictims maxManagedGenomes (repository.bucketMembers key) := by
  obtain ⟨distinct, holds⟩ := repository.managedBuckets_spec
  rw [pruneVictims, if_neg (Nat.ne_of_gt limited), List.mem_flatMap]
  constructor
  · rintro ⟨bucket, listed, victim⟩
    rw [← bucketOf_of_mem distinct listed, holds] at victim
    exact ⟨bucket.1, victim⟩
  · rintro ⟨key, victim⟩
    refine ⟨(key, repository.bucketMembers key), ?_, victim⟩
    rw [← holds]
    apply mem_of_bucketOf
    rw [holds]
    intro empty
    have nobody : repository.bucketVictims maxManagedGenomes [] = [] := if_pos (Nat.zero_le _)
    rw [empty, nobody] at victim
    cases victim

theorem managed_of_mem_pruneVictims [LawfulNumbers F] (limited : 0 < maxManagedGenomes)
    {id : GenomeId} (victim : id ∈ repository.pruneVictims maxManagedGenomes) :
    repository.Managed id := by
  obtain ⟨key, victim⟩ := (mem_pruneVictims_iff limited).mp victim
  obtain ⟨metadata, found, managed, _⟩ :=
    mem_bucketMembers_iff.mp ((bucketVictims_spec limited).1 id victim).1
  exact ⟨metadata, found, managed⟩

theorem mem_pruneVictims_of_member [LawfulNumbers F] (limited : 0 < maxManagedGenomes)
    {id : GenomeId} (member : id ∈ repository.bucketMembers key) :
    id ∈ repository.pruneVictims maxManagedGenomes ↔
      id ∈ repository.bucketVictims maxManagedGenomes (repository.bucketMembers key) := by
  rw [mem_pruneVictims_iff limited]
  constructor
  · rintro ⟨other, victim⟩
    rwa [← bucketMembers_disjoint ((bucketVictims_spec limited).1 id victim).1 member]
  · exact fun victim => ⟨key, victim⟩

end

section

variable [Double F] [LawfulNumbers F] {maxManagedGenomes : ℕ}

theorem foldlM_pruneBucket_isSome {buckets : List (ManagedGenomeBucketKey × List GenomeId)}
    (apart : buckets.Pairwise fun bucket later => ∀ id ∈ later.2, id ∉ bucket.2)
    {state : GenomeRepository F × ℕ}
    (known : ∀ bucket ∈ buckets, ∀ id ∈ bucket.2, (state.1.metadata.lookup id).isSome = true) :
    (buckets.foldlM (fun state bucket => pruneBucket maxManagedGenomes bucket.2 state)
      state).isSome = true := by
  induction buckets generalizing state with
  | nil => rfl
  | cons bucket buckets ih =>
      obtain ⟨first, apart⟩ := List.pairwise_cons.mp apart
      obtain ⟨sorted, found, order, _⟩ :=
        state.1.sortBucket_spec (known bucket List.mem_cons_self)
      have returns : ∃ next, pruneBucket maxManagedGenomes bucket.2 state = some next := by
        rw [pruneBucket, found]
        split
        · exact ⟨_, rfl⟩
        · exact ⟨_, rfl⟩
      obtain ⟨next, pruned⟩ := returns
      have victims : ∀ id ∈ state.1.bucketVictims maxManagedGenomes bucket.2, id ∈ bucket.2 := by
        intro id victim
        rw [bucketVictims, found] at victim
        split at victim
        · cases victim
        · exact order.mem_iff.mp (List.mem_of_mem_filter (List.mem_of_mem_take victim))
      rw [List.foldlM_cons, pruned]
      refine ih apart fun later listed id member => ?_
      rw [(pruneBucket_eq (Thinned.refl state.1) pruned).1, lookup_metadata_removeAll,
        if_neg fun victim => first later listed id member (victims id victim)]
      exact known later (List.mem_cons_of_mem _ listed) id member

theorem pruneManagedByFitness_isSome (repository : GenomeRepository F) (maxManagedGenomes : ℕ) :
    (repository.pruneManagedByFitness maxManagedGenomes).isSome = true := by
  obtain ⟨distinct, holds⟩ := repository.managedBuckets_spec
  have members : ∀ bucket ∈ repository.managedBuckets,
      bucket.2 = repository.bucketMembers bucket.1 := by
    intro bucket listed
    rw [← bucketOf_of_mem distinct listed, holds]
  rw [pruneManagedByFitness]
  split
  · rfl
  · apply foldlM_pruneBucket_isSome
    · refine (List.pairwise_map.mp distinct).imp_of_mem fun inFirst inSecond apart id member => ?_
      rw [members _ inSecond] at member
      rw [members _ inFirst]
      exact fun member' => apart (bucketMembers_disjoint member' member)
    · intro bucket listed id member
      rw [members bucket listed] at member
      exact known_of_mem_bucketMembers member

/-- What a prune leaves of a repository. -/
structure PrunesWorst (before : GenomeRepository F) (maxManagedGenomes : ℕ)
    (after : GenomeRepository F) : Prop where
  size : ∀ key, (after.bucketMembers key).length =
    min (before.bucketMembers key).length maxManagedGenomes
  spares : ∀ id, (before.bestId = some id ∨ ¬ before.Managed id) →
    after.genomes.lookup id = before.genomes.lookup id ∧
      after.metadata.lookup id = before.metadata.lookup id
  keeps : ∀ key, ∀ id ∈ after.bucketMembers key, id ∈ before.bucketMembers key ∧
    after.genomes.lookup id = before.genomes.lookup id ∧
      after.metadata.lookup id = before.metadata.lookup id
  removes : ∀ key, ∀ id ∈ before.bucketMembers key, id ∉ after.bucketMembers key →
    after.genomes.lookup id = none ∧ after.metadata.lookup id = none
  ranked : ∀ key, before.NumberedBucket key → ∀ removed ∈ before.bucketMembers key,
    removed ∉ after.bucketMembers key → ∀ kept ∈ after.bucketMembers key,
      before.bestId ≠ some kept →
        ∀ metadata metadata', before.metadata.lookup removed = some metadata →
          before.metadata.lookup kept = some metadata' →
            ¬ LessFit (kept, metadata') (removed, metadata)

/-- **A prune** cuts each bucket to its size and removes the worst of it. -/
theorem prunesWorst (limited : 0 < maxManagedGenomes) {result : GenomeRepository F × ℕ}
    (pruned : repository.pruneManagedByFitness maxManagedGenomes = some result) :
    repository.PrunesWorst maxManagedGenomes result.1 := by
  have genomes (id : GenomeId) := lookup_genomes_pruneManagedByFitness pruned id
  have records (id : GenomeId) : result.1.metadata.lookup id =
      if id ∈ repository.pruneVictims maxManagedGenomes then none
      else repository.metadata.lookup id := by
    rw [pruneManagedByFitness_eq pruned, lookup_metadata_removeAll]
  have members {key : ManagedGenomeBucketKey} {id : GenomeId} :
      id ∈ result.1.bucketMembers key ↔ id ∈ repository.bucketMembers key ∧
        id ∉ repository.bucketVictims maxManagedGenomes (repository.bucketMembers key) := by
    by_cases victim : id ∈ repository.pruneVictims maxManagedGenomes
    · rw [mem_bucketMembers_iff, records, if_pos victim]
      constructor
      · rintro ⟨metadata, absent, _⟩
        cases absent
      · rintro ⟨member, spared⟩
        exact absurd ((mem_pruneVictims_of_member limited member).mp victim) spared
    · rw [mem_bucketMembers_iff, records, if_neg victim, ← mem_bucketMembers_iff]
      refine (and_iff_left_of_imp fun member => ?_).symm
      rwa [← mem_pruneVictims_of_member limited member]
  refine ⟨fun key => ?_, fun id spared => ?_, fun key id member => ?_, fun key id member gone => ?_, ?_⟩
  · obtain ⟨inside, distinct, count, _⟩ := @bucketVictims_spec F repository _ _ key _ limited
    have split := (repository.bucketMembers key).length_eq_length_filter_add
      fun id => decide (id ∈ repository.bucketVictims maxManagedGenomes (repository.bucketMembers key))
    have removed : ((repository.bucketMembers key).filter fun id => decide (id ∈
        repository.bucketVictims maxManagedGenomes (repository.bucketMembers key))).Perm
          (repository.bucketVictims maxManagedGenomes (repository.bucketMembers key)) := by
      apply (List.perm_ext_iff_of_nodup ((repository.nodup_bucketMembers key).filter _) distinct).mpr
      intro id
      rw [List.mem_filter, decide_eq_true_eq]
      exact and_iff_right_of_imp fun victim => (inside id victim).1
    have kept : ((repository.bucketMembers key).filter fun id => !decide (id ∈
        repository.bucketVictims maxManagedGenomes (repository.bucketMembers key))).Perm
          (result.1.bucketMembers key) := by
      apply (List.perm_ext_iff_of_nodup ((repository.nodup_bucketMembers key).filter _)
        (result.1.nodup_bucketMembers key)).mpr
      intro id
      rw [List.mem_filter, Bool.not_eq_true', decide_eq_false_iff_not, members]
    rw [removed.length_eq, kept.length_eq, count] at split
    omega
  · have stays : id ∉ repository.pruneVictims maxManagedGenomes := by
      intro victim
      exact spared.elim (bestId_ne_of_mem_pruneVictims victim) fun unmanaged =>
        unmanaged (managed_of_mem_pruneVictims limited victim)
    rw [genomes, records, if_neg stays, if_neg stays]
    exact ⟨rfl, rfl⟩
  · obtain ⟨member, spared⟩ := members.mp member
    rw [← mem_pruneVictims_of_member limited member] at spared
    rw [genomes, records, if_neg spared, if_neg spared]
    exact ⟨member, rfl, rfl⟩
  · have victim : id ∈ repository.pruneVictims maxManagedGenomes := by
      rw [mem_pruneVictims_of_member limited member]
      by_contra spared
      exact gone (members.mpr ⟨member, spared⟩)
    rw [genomes, records, if_pos victim, if_pos victim]
    exact ⟨rfl, rfl⟩
  · intro key numbers removed member gone kept left notBest
    obtain ⟨_, _, _, ranked⟩ := @bucketVictims_spec F repository _ _ key _ limited
    obtain ⟨member', spared⟩ := members.mp left
    have victim : removed ∈ repository.bucketVictims maxManagedGenomes
        (repository.bucketMembers key) := by
      by_contra spared
      exact gone (members.mpr ⟨member, spared⟩)
    exact ranked numbers removed victim kept member' spared notBest

omit [LawfulNumbers F] in
theorem PrunesWorst.outdone {before after : GenomeRepository F} {key : ManagedGenomeBucketKey}
    (pruned : before.PrunesWorst 1 after) (numbers : before.NumberedBucket key)
    {id other : GenomeId} (apart : id ≠ other) (member : id ∈ before.bucketMembers key)
    (member' : other ∈ before.bucketMembers key) (notBest : before.bestId ≠ some id)
    {metadata metadata' : GenomeMetadata F}
    (found : before.metadata.lookup id = some metadata)
    (found' : before.metadata.lookup other = some metadata')
    (worse : LessFit (id, metadata) (other, metadata')) : after.genomes.lookup id = none := by
  by_cases stayed : id ∈ after.bucketMembers key
  · have gone : other ∉ after.bucketMembers key := by
      intro stayed'
      have distinct : [id, other].Nodup := List.nodup_cons.mpr
        ⟨fun listed => apart (List.mem_singleton.mp listed), List.nodup_singleton _⟩
      have both := (distinct.subperm (List.cons_subset.mpr ⟨stayed,
        List.cons_subset.mpr ⟨stayed', List.nil_subset _⟩⟩)).length_le
      have one := (pruned.size key).trans_le (min_le_right ..)
      exact absurd (both.trans one) (Nat.not_succ_le_self 1)
    exact absurd worse (pruned.ranked key numbers other member' gone id stayed notBest _ _ found'
      found)
  · exact (pruned.removes key id member stayed).1

end

section

/-- A genome whose record names no training session. -/
def StoredUnmanaged (repository : GenomeRepository F) (id : GenomeId) : Prop :=
  (repository.genomes.lookup id).isSome = true ∧ ∃ metadata,
    repository.metadata.lookup id = some metadata ∧ metadata.trainingSessionId = none

theorem StoredUnmanaged.not_managed {id : GenomeId} (stored : repository.StoredUnmanaged id) :
    ¬ repository.Managed id := by
  obtain ⟨_, metadata, found, unmanaged⟩ := stored
  rintro ⟨other, found', managed⟩
  rw [found] at found'
  cases found'
  rw [unmanaged] at managed
  cases managed

theorem StoredUnmanaged.presenting {id : GenomeId}
    (stored : repository.StoredUnmanaged id)
    {presented : Dict GenomeId (GenomeMetadata F)}
    (same : repository.metadata.SameEntries presented) :
    (repository.presenting presented).StoredUnmanaged id := by
  obtain ⟨present, metadata, found, unmanaged⟩ := stored
  exact ⟨present, metadata, (same.lookup id).symm.trans found, unmanaged⟩

variable [Double F]

def Op.Touches (repository : GenomeRepository F) (id : GenomeId) : Op F → Prop
  | .store other _ _ draw => storeId other draw = id
  | .storeOrUpdateByHash genome metadata _ _ =>
      repository.hashToId.lookup (computeContentHash genome metadata) = some id
  | .remove other => other = id
  | .pruneManagedByFitness _ | .markAsBest _ => False
  | .clear => True

/-- The call does not remove the identifier, and what it writes there names no session. -/
def Op.LeavesUnmanaged (repository : GenomeRepository F) (id : GenomeId) (op : Op F) : Prop :=
  op.Touches repository id → match op with
    | .store _ _ metadata _ | .storeOrUpdateByHash _ metadata _ _ =>
        metadata.trainingSessionId = none
    | _ => False

theorem trainingSessionId_normalizeRobustMetadata (metadata : GenomeMetadata F) :
    (normalizeRobustMetadata metadata).trainingSessionId = metadata.trainingSessionId := by
  unfold normalizeRobustMetadata
  dsimp only
  split
  · rfl
  · split
    · split <;> rfl
    · rfl

theorem trainingSessionId_mergeMetadata (existing incoming : GenomeMetadata F) :
    (mergeMetadata existing incoming).trainingSessionId =
      incoming.trainingSessionId.or existing.trainingSessionId := by
  have appended (samples : List F) (metadata : GenomeMetadata F) :
      (samples.foldl appendRobustSample metadata).trainingSessionId =
        metadata.trainingSessionId := by
    induction samples generalizing metadata with
    | nil => rfl
    | cons sample samples ih =>
        rw [List.foldl_cons, ih, appendRobustSample]
        split <;> rfl
  have filled : (fillFrom (normalizeRobustMetadata existing)
      (normalizeRobustMetadata incoming)).trainingSessionId =
        incoming.trainingSessionId.or existing.trainingSessionId := by
    rw [fillFrom, trainingSessionId_normalizeRobustMetadata,
      trainingSessionId_normalizeRobustMetadata]
  unfold mergeMetadata
  dsimp only
  split
  · rw [trainingSessionId_normalizeRobustMetadata, appended, filled]
  · split
    · exact (appended _ _).trans filled
    · exact (appended _ _).trans filled

variable [LawfulNumbers F] {after : GenomeRepository F} {id : GenomeId} {op : Op F}

theorem StoredUnmanaged.untouched (stored : repository.StoredUnmanaged id)
    (applied : op.apply repository = some after) (untouched : ¬ op.Touches repository id) :
    after.genomes.lookup id = repository.genomes.lookup id ∧
      after.metadata.lookup id = repository.metadata.lookup id := by
  cases op with
  | store other genome metadata draw =>
      cases applied
      have apart : id ≠ storeId other draw := fun same => untouched same.symm
      exact ⟨AList.lookup_insert_ne apart, AList.lookup_insert_ne apart⟩
  | storeOrUpdateByHash genome metadata preferredId draws =>
      obtain ⟨result, returned, rfl⟩ := Option.map_eq_some_iff.mp applied
      rw [storeOrUpdateByHash] at returned
      dsimp only at returned
      split at returned
      · rename_i other known
        rw [computeContentHash_normalizeRobustMetadata] at known
        have apart : id ≠ other := fun same => untouched (same ▸ known)
        cases returned
        exact ⟨AList.lookup_insert_ne apart, AList.lookup_insert_ne apart⟩
      · obtain ⟨other, chosen, rfl⟩ := Option.map_eq_some_iff.mp returned
        have apart : id ≠ other := by
          rintro rfl
          have present := stored.1
          rw [chooseId_free chosen] at present
          cases present
        exact ⟨AList.lookup_insert_ne apart, AList.lookup_insert_ne apart⟩
  | remove other =>
      cases applied
      have apart : id ≠ other := fun same => untouched same.symm
      exact ⟨AList.lookup_erase_ne apart, AList.lookup_erase_ne apart⟩
  | pruneManagedByFitness maxManagedGenomes =>
      obtain ⟨result, pruned, rfl⟩ := Option.map_eq_some_iff.mp applied
      rcases Nat.eq_zero_or_pos maxManagedGenomes with rfl | limited
      · rw [pruneManagedByFitness, if_pos rfl] at pruned
        cases pruned
        exact ⟨rfl, rfl⟩
      · exact (prunesWorst limited pruned).spares id (Or.inr stored.not_managed)
  | markAsBest other =>
      cases applied
      unfold markAsBest
      split <;> exact ⟨rfl, rfl⟩
  | clear => exact absurd trivial untouched

/-- **One call** that leaves an unmanaged genome unmanaged. -/
theorem StoredUnmanaged.apply (stored : repository.StoredUnmanaged id)
    (applied : op.apply repository = some after) (leaves : op.LeavesUnmanaged repository id) :
    after.StoredUnmanaged id := by
  by_cases touches : op.Touches repository id
  · have unmanaged := leaves touches
    cases op with
    | store other genome metadata draw =>
        cases applied
        cases touches
        refine ⟨?_, normalizeRobustMetadata metadata, AList.lookup_insert _, ?_⟩
        · exact (congrArg Option.isSome (AList.lookup_insert _)).trans rfl
        · rw [trainingSessionId_normalizeRobustMetadata]
          exact unmanaged
    | storeOrUpdateByHash genome metadata preferredId draws =>
        obtain ⟨_, existing, found, before⟩ := stored
        obtain ⟨result, returned, rfl⟩ := Option.map_eq_some_iff.mp applied
        have known : repository.hashToId.lookup
            (computeContentHash genome (normalizeRobustMetadata metadata)) = some id := by
          rw [computeContentHash_normalizeRobustMetadata]
          exact touches
        rw [storeOrUpdateByHash, known] at returned
        cases returned
        refine ⟨?_, mergeMetadata existing (normalizeRobustMetadata metadata), ?_, ?_⟩
        · exact (congrArg Option.isSome (AList.lookup_insert _)).trans rfl
        · dsimp only
          rw [found]
          exact AList.lookup_insert _
        · have sessionless : metadata.trainingSessionId = none := unmanaged
          rw [trainingSessionId_mergeMetadata, trainingSessionId_normalizeRobustMetadata, sessionless,
            before]
          rfl
    | remove other => cases unmanaged
    | pruneManagedByFitness maxManagedGenomes => cases unmanaged
    | markAsBest other => cases unmanaged
    | clear => cases unmanaged
  · obtain ⟨genome, record⟩ := stored.untouched applied touches
    obtain ⟨present, metadata, found, unmanaged⟩ := stored
    exact ⟨genome ▸ present, metadata, record.trans found, unmanaged⟩

/-- **Pruning keeps the fittest**, and what was stored without a training session stays through
every run in which it is not removed and no record that names a session is merged into its own;
where nothing is merged into it at all, it stays as it is. -/
theorem keepsFittest (repository : GenomeRepository F) {maxManagedGenomes : ℕ}
    (limited : 0 < maxManagedGenomes) :
    (∃ result, repository.pruneManagedByFitness maxManagedGenomes = some result ∧
      repository.PrunesWorst maxManagedGenomes result.1) ∧
    ∀ id calls after, repository.StoredUnmanaged id →
      (((machine F).guarded fun before call => call.op.LeavesUnmanaged before id).Run
          repository calls after → after.StoredUnmanaged id) ∧
      (((machine F).guarded fun before call => ¬ call.op.Touches before id).Run
          repository calls after →
        after.genomes.lookup id = repository.genomes.lookup id ∧
          after.metadata.lookup id = repository.metadata.lookup id) := by
  obtain ⟨result, pruned⟩ :=
    Option.isSome_iff_exists.mp (repository.pruneManagedByFitness_isSome maxManagedGenomes)
  refine ⟨⟨result, pruned, prunesWorst limited pruned⟩, fun id calls after stored => ⟨?_, ?_⟩⟩
  · intro run
    apply run.invariant _ stored
    rintro before call next stored ⟨⟨same, applied⟩, leaves⟩
    exact (stored.presenting same).apply applied leaves
  · intro run
    let untouched (later : GenomeRepository F) : Prop := later.StoredUnmanaged id ∧
      later.genomes.lookup id = repository.genomes.lookup id ∧
        later.metadata.lookup id = repository.metadata.lookup id
    have stays : untouched after := by
      apply run.invariant _ ⟨stored, rfl, rfl⟩
      rintro before call next ⟨stored, genome, record⟩ ⟨⟨same, applied⟩, apart⟩
      obtain ⟨genome', record'⟩ := (stored.presenting same).untouched applied apart
      exact ⟨(stored.presenting same).apply applied fun touches => absurd touches apart,
        genome'.trans genome, (record'.trans (same.lookup id).symm).trans record⟩
    exact stays.2

end

section

/-! ## A user's genome that a training finds again -/

def trainedMetadata : GenomeMetadata ℚ :=
  { duckMetadata with trainingSessionId := some ⟨Vector.replicate 16 3⟩ }

/-- A genome of a training session and one that is saved without a session. -/
def userSaved : GenomeRepository ℚ :=
  (({} : GenomeRepository ℚ).store secondId ⟨[0]⟩ { trainedMetadata with fitness := 2 } (0, 0)).store
    firstId duckGenome duckMetadata (0, 0)

def Op.StoresOrPrunes {F : Type} : Op F → Prop
  | .storeOrUpdateByHash _ _ _ _ | .pruneManagedByFitness _ => True
  | _ => False

theorem userSaved_reachable : (machine ℚ).Reachable userSaved := by
  have empty : (machine ℚ).Reachable {} := ⟨{}, [], rfl, .nil _⟩
  have first := reachable_call empty
    (.store secondId ⟨[0]⟩ { trainedMetadata with fitness := 2 } (0, 0)) rfl
  exact reachable_call first (.store firstId duckGenome duckMetadata (0, 0)) rfl

theorem userSaved_unmanaged : userSaved.StoredUnmanaged firstId := by
  have firstKept : storeId firstId (0, 0) = firstId := storeId_of_ne (by decide)
  refine ⟨?_, normalizeRobustMetadata duckMetadata, ?_, rfl⟩
  · simp [userSaved, store, firstKept]
  · simp [userSaved, store, firstKept]

theorem userSaved_merged : ∃ merged,
    userSaved.storeOrUpdateByHash duckGenome trainedMetadata none [] = some merged ∧
      merged.1.bestId = none ∧
      merged.1.metadata.lookup firstId = some (mergeMetadata
        (normalizeRobustMetadata duckMetadata) (normalizeRobustMetadata trainedMetadata)) ∧
      merged.1.metadata.lookup secondId =
        some (normalizeRobustMetadata { trainedMetadata with fitness := 2 }) := by
  have firstKept : storeId firstId (0, 0) = firstId := storeId_of_ne (by decide)
  have secondKept : storeId secondId (0, 0) = secondId := storeId_of_ne (by decide)
  have apart : secondId ≠ firstId := by decide
  have known : userSaved.hashToId.lookup
      (computeContentHash duckGenome (normalizeRobustMetadata trainedMetadata)) = some firstId := by
    rw [computeContentHash_normalizeRobustMetadata]
    simp only [userSaved, store, firstKept, computeContentHash_normalizeRobustMetadata]
    exact AList.lookup_insert _
  have record : userSaved.metadata.lookup firstId =
      some (normalizeRobustMetadata duckMetadata) := by
    simp only [userSaved, store, firstKept, AList.lookup_insert]
  have other : userSaved.metadata.lookup secondId =
      some (normalizeRobustMetadata { trainedMetadata with fitness := 2 }) := by
    simp only [userSaved, store, firstKept, secondKept, AList.lookup_insert,
      AList.lookup_insert_ne apart]
  obtain ⟨merged, stored⟩ : ∃ merged,
      userSaved.storeOrUpdateByHash duckGenome trainedMetadata none [] = some merged := by
    rw [storeOrUpdateByHash, known]
    exact ⟨_, rfl⟩
  refine ⟨merged, stored, ?_⟩
  rw [storeOrUpdateByHash, known] at stored
  cases stored
  refine ⟨rfl, ?_, ?_⟩
  · rw [record]
    exact AList.lookup_insert _
  · exact (AList.lookup_insert_ne apart).trans other

/-- A user's genome that a training finds again may be pruned. -/
theorem not_userSavedStays :
    ¬ ∀ (before after : GenomeRepository ℚ) (calls : List (Call ℚ)) (id : GenomeId),
      (machine ℚ).Reachable before → before.StoredUnmanaged id →
        (∀ call ∈ calls, call.op.StoresOrPrunes) → (machine ℚ).Run before calls after →
          (after.genomes.lookup id).isSome = true := by
  intro stays
  obtain ⟨⟨merged, found⟩, stored, notBest, first, second⟩ := userSaved_merged
  obtain ⟨⟨pruned, removed⟩, prune⟩ :=
    Option.isSome_iff_exists.mp (merged.pruneManagedByFitness_isSome 1)
  have run : (machine ℚ).Run userSaved
      [⟨.storeOrUpdateByHash duckGenome trainedMetadata none [], userSaved.metadata⟩,
        ⟨.pruneManagedByFitness 1, merged.metadata⟩] pruned := by
    have first : (machine ℚ).step userSaved _ merged := step_call
      (.storeOrUpdateByHash duckGenome trainedMetadata none [])
      (by rw [Op.apply, stored, Option.map_some])
    refine .cons first (.cons (step_call _ ?_) (.nil pruned))
    rw [Op.apply, prune, Option.map_some]
  have kept := stays _ _ _ firstId userSaved_reachable userSaved_unmanaged (by
    intro call listed
    rcases List.mem_cons.mp listed with rfl | later
    · trivial
    · rw [List.mem_singleton.mp later]
      trivial) run
  -- Both genomes are in one bucket now, of which the prune keeps one.
  have gone := (prunesWorst Nat.one_pos prune).outdone
    (fun _ _ metadata _ => decide_eq_true rfl) (by decide)
    (mem_bucketMembers_iff.mpr ⟨_, first, by decide, rfl⟩)
    (mem_bucketMembers_iff.mpr ⟨_, second, by decide, by decide⟩)
    (by rw [notBest]; exact (Option.some_ne_none _).symm) first second
    (lessFit_iff.mp (by decide))
  rw [gone] at kept
  cases kept

theorem keepsFittest_userSaved : ∃ result, userSaved.pruneManagedByFitness 1 = some result ∧
    (result.1.bucketMembers (bucketKey trainedMetadata)).length =
      min (userSaved.bucketMembers (bucketKey trainedMetadata)).length 1 ∧
    result.1.StoredUnmanaged firstId := by
  obtain ⟨⟨result, pruned, worst⟩, stays⟩ := keepsFittest userSaved Nat.one_pos
  have step : (machine ℚ).step userSaved ⟨.pruneManagedByFitness 1, userSaved.metadata⟩ result.1 :=
    step_call _ (by rw [Op.apply, pruned, Option.map_some])
  exact ⟨result, pruned, worst.size _, (stays firstId _ result.1 userSaved_unmanaged).1
    (.cons ⟨step, fun touches => touches.elim⟩ (.nil result.1))⟩

end

end GenomeRepository

end DirtSim
