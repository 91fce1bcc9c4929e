import DirtSim.Evolution.GenomeMetadata
import DirtSim.Foundation.Apportionment
import DirtSim.Foundation.UniqueDraws
import DirtSim.Training.AdaptiveMutation

/-! # Mutation of a genome

An offspring has some weights reset, drawn from the whole genome, and some perturbed, by a budget
shared out over the segments of the layout. A share that rounding leaves over can be more than a
small segment holds, and is then lost (`mutate_spendsBudget_iff`). The draws are inputs.
-/

namespace DirtSim

open Foundation Foundation.Apportionment Foundation.UniqueDraws

structure GenomeSegment where
  name : String
  size : ℕ
deriving DecidableEq, Repr

structure GenomeLayout where
  segments : List GenomeSegment
deriving DecidableEq, Repr

namespace GenomeLayout

def sizes (layout : GenomeLayout) : List ℕ := layout.segments.map GenomeSegment.size

def totalSize (layout : GenomeLayout) : ℕ := layout.sizes.sum

def offset (layout : GenomeLayout) (segment : ℕ) : ℕ := (layout.sizes.take segment).sum

end GenomeLayout

structure MutationStats where
  perturbations : ℕ
  resets : ℕ
deriving DecidableEq, Repr

/-- What is drawn from a random engine. Shuffling starts from the entries of a hash set, in
whatever order it presents them. -/
structure RandomEngine (G K : Type*) where
  uniform : G → (largest : ℕ) → Fin (largest + 1) × G
  normal : G → K → UInt32 × G
  shuffle : G → (indices : Finset ℕ) →
    {order : List ℕ // order.Nodup ∧ order.toFinset = indices} × G

/-- Single-precision arithmetic on weights, each by its bits. -/
structure WeightArithmetic where
  add : UInt32 → UInt32 → UInt32
  twice : UInt32 → UInt32

/-- The segments by size, the largest first. -/
structure SizeOrder (layout : GenomeLayout) where
  order : List ℕ
  perm : order.Perm (List.range layout.sizes.length)
  descending : (order.map fun segment => layout.sizes.getD segment 0).Pairwise (· ≥ ·)

/-- An offspring in the making. The indices that were written are kept beside it, those of
perturbations with their segment; only statements read them. -/
structure Mutation (G : Type*) where
  child : Genome
  stats : MutationStats
  resetIndices : List ℕ
  perturbedIndices : List (ℕ × ℕ)
  rng : G

section

variable {G K : Type*}

def clampMutationCount (value : ℤ) (maxValue : ℕ) : ℕ :=
  if value ≤ 0 ∨ maxValue = 0 then 0
  else if value.toNat ≥ maxValue then maxValue
  else value.toNat

def drawUnique (engine : RandomEngine G K) : List ℕ → Finset ℕ → G → Finset ℕ × G
  | [], selected, rng => (selected, rng)
  | place :: places, selected, rng =>
      let (drawn, rng) := engine.uniform rng place
      drawUnique engine places (select selected place drawn) rng

def sampleUniqueIndices (engine : RandomEngine G K) (domainSize count : ℕ) (rng : G) :
    List ℕ × G :=
  let count := min count domainSize
  if count = 0 ∨ domainSize = 0 then ([], rng)
  else
    let (selected, rng) := drawUnique engine (List.range' (domainSize - count) count) ∅ rng
    let (indices, rng) := engine.shuffle rng selected
    (indices.1, rng)

/-- Distributes a budget across segments: a floor of one for each, the rest by size, and what
rounding leaves over to the largest segments first. -/
def distributeBudget (layout : GenomeLayout) (sizeOrder : SizeOrder layout) (budget : ℕ) :
    List ℕ :=
  let segmentCount := layout.segments.length
  if budget = 0 ∨ segmentCount = 0 then List.replicate segmentCount 0
  else
    let floorTotal := min budget segmentCount
    let floors := (List.range segmentCount).map fun i => if i < floorTotal then 1 else 0
    let remaining := budget - floorTotal
    if remaining = 0 ∨ layout.totalSize = 0 then floors
    else
      let alloc := List.zipWith (· + ·) floors (shares remaining layout.sizes)
      bump alloc (sizeOrder.order.take (leftover remaining layout.sizes))

def resetWeight (arithmetic : WeightArithmetic) (engine : RandomEngine G K) (sigma : K)
    (mutation : Mutation G) (index : ℕ) : Mutation G :=
  let (noise, rng) := engine.normal mutation.rng sigma
  { child := ⟨mutation.child.weights.set index (arithmetic.twice noise)⟩
    stats := { mutation.stats with resets := mutation.stats.resets + 1 }
    resetIndices := mutation.resetIndices ++ [index]
    perturbedIndices := mutation.perturbedIndices
    rng := rng }

def perturbWeight (arithmetic : WeightArithmetic) (engine : RandomEngine G K) (sigma : K)
    (segment : ℕ) (mutation : Mutation G) (index : ℕ) : Mutation G :=
  let (noise, rng) := engine.normal mutation.rng sigma
  { child := ⟨mutation.child.weights.modify index fun weight => arithmetic.add weight noise⟩
    stats := { mutation.stats with perturbations := mutation.stats.perturbations + 1 }
    resetIndices := mutation.resetIndices
    perturbedIndices := mutation.perturbedIndices ++ [(segment, index)]
    rng := rng }

def perturbSegment (arithmetic : WeightArithmetic) (engine : RandomEngine G K) (sigma : K)
    (segment offset size budget : ℕ) (mutation : Mutation G) : Mutation G :=
  if budget > 0 ∧ size > 0 then
    let (indices, rng) := sampleUniqueIndices engine size budget mutation.rng
    (indices.map (offset + ·)).foldl (perturbWeight arithmetic engine sigma segment)
      { mutation with rng := rng }
  else mutation

/-- The segments one after another, each from where it starts. -/
def perturbSegments (arithmetic : WeightArithmetic) (engine : RandomEngine G K) (sigma : K) :
    ℕ → ℕ → List ℕ → List ℕ → Mutation G → Mutation G
  | segment, offset, size :: sizes, budget :: budgets, mutation =>
      perturbSegments arithmetic engine sigma (segment + 1) (offset + size) sizes budgets
        (perturbSegment arithmetic engine sigma segment offset size budget mutation)
  | _, _, _, _, mutation => mutation

def mutate (arithmetic : WeightArithmetic) (engine : RandomEngine G K) (parent : Genome)
    (config : MutationConfig K) (layout : GenomeLayout) (sizeOrder : SizeOrder layout) (rng : G) :
    Option (Mutation G) :=
  let weightCount := parent.weights.length
  let resetCount := clampMutationCount config.resetsPerOffspring weightCount
  let perturbCount := clampMutationCount config.perturbationsPerOffspring (weightCount - resetCount)
  if layout.segments = [] ∨ layout.totalSize ≠ weightCount then none
  else
    let unchanged : Mutation G :=
      { child := parent, stats := { perturbations := 0, resets := 0 }
        resetIndices := [], perturbedIndices := [], rng := rng }
    let reset :=
      if resetCount > 0 then
        let (indices, rng) := sampleUniqueIndices engine weightCount resetCount rng
        indices.foldl (resetWeight arithmetic engine config.sigma) { unchanged with rng := rng }
      else unchanged
    some (perturbSegments arithmetic engine config.sigma 0 0 layout.sizes
      (distributeBudget layout sizeOrder perturbCount) reset)

end

section

/-! ## What is asked for -/

variable {G K : Type*}

def resetBudget (parent : Genome) (config : MutationConfig K) : ℕ :=
  min config.resetsPerOffspring.toNat parent.weights.length

def perturbationBudget (parent : Genome) (config : MutationConfig K) : ℕ :=
  min config.perturbationsPerOffspring.toNat (parent.weights.length - resetBudget parent config)

/-- A mutation that resets and perturbs exactly as many weights as it should, none of them twice in
one way, with every segment among the perturbed ones when there are enough, every index where it
was drawn, and all other weights unchanged. -/
structure SpendsBudget (parent : Genome) (config : MutationConfig K) (layout : GenomeLayout)
    (mutation : Mutation G) : Prop where
  resets : mutation.resetIndices.Nodup ∧
    mutation.resetIndices.length = resetBudget parent config
  perturbs : (mutation.perturbedIndices.map Prod.snd).Nodup ∧
    mutation.perturbedIndices.length = perturbationBudget parent config
  stats : mutation.stats =
    { perturbations := perturbationBudget parent config, resets := resetBudget parent config }
  everySegment : layout.segments.length ≤ perturbationBudget parent config →
    ∀ segment < layout.segments.length, ∃ index, (segment, index) ∈ mutation.perturbedIndices
  inside : (∀ index ∈ mutation.resetIndices, index < parent.weights.length) ∧
    ∀ entry ∈ mutation.perturbedIndices,
      layout.offset entry.1 ≤ entry.2 ∧ entry.2 < layout.offset (entry.1 + 1)
  unchanged : ∀ index, index ∉ mutation.resetIndices →
    index ∉ mutation.perturbedIndices.map Prod.snd →
      mutation.child.weights[index]? = parent.weights[index]?

/-- A segment that is among the largest ones, as many as there are units left over, has room for
its floor, its share and one unit more. -/
def LeftoversFit (layout : GenomeLayout) (budget : ℕ) : Prop :=
  ∀ size ∈ layout.sizes,
    layout.sizes.countP (fun other => size < other) <
        leftover (budget - layout.segments.length) layout.sizes →
      (budget - layout.segments.length) * size / layout.totalSize + 2 ≤ size

instance (layout : GenomeLayout) (budget : ℕ) : Decidable (LeftoversFit layout budget) :=
  inferInstanceAs (Decidable (∀ size ∈ layout.sizes, _))

theorem clampMutationCount_eq (value : ℤ) (maxValue : ℕ) :
    clampMutationCount value maxValue = min value.toNat maxValue := by
  unfold clampMutationCount
  split
  · rename_i nothing
    rcases nothing with negative | empty
    · rw [Int.toNat_of_nonpos negative, Nat.zero_min]
    · rw [empty, Nat.min_zero]
  · split
    · rename_i above
      exact (Nat.min_eq_right above).symm
    · rename_i below
      exact (Nat.min_eq_left (Nat.le_of_not_le below)).symm

end

section

/-! ## Sampling -/

variable {G K : Type*} (engine : RandomEngine G K)

theorem spread_drawUnique (places place count : ℕ) (selected : Finset ℕ) (rng : G)
    (spread : Spread place count selected) :
    Spread (place + places) (count + places)
      (drawUnique engine (List.range' place places) selected rng).1 := by
  induction places generalizing place count selected rng with
  | zero => exact spread
  | succ places ih =>
      rw [List.range'_succ, drawUnique]
      have next := ih (place + 1) (count + 1) _ (engine.uniform rng place).2
        (spread.step (Nat.le_of_lt_succ (engine.uniform rng place).1.isLt))
      rwa [Nat.add_right_comm place, Nat.add_right_comm count] at next

/-- **Samples** are distinct indices of the domain, as many as asked for if it has them. -/
theorem sampleUniqueIndices_spec (domainSize count : ℕ) (rng : G) :
    (sampleUniqueIndices engine domainSize count rng).1.Nodup ∧
      (sampleUniqueIndices engine domainSize count rng).1.length = min count domainSize ∧
      ∀ index ∈ (sampleUniqueIndices engine domainSize count rng).1, index < domainSize := by
  unfold sampleUniqueIndices
  dsimp only
  split
  · rename_i nothing
    refine ⟨List.nodup_nil, ?_, nofun⟩
    rcases nothing with none_drawn | empty
    · exact none_drawn.symm
    · rw [empty, Nat.min_zero, List.length_nil]
  · set drawn := drawUnique engine
      (List.range' (domainSize - min count domainSize) (min count domainSize)) ∅ rng with drawn_eq
    have spread := spread_drawUnique engine (min count domainSize)
      (domainSize - min count domainSize) 0 ∅ rng (spread_empty _)
    rw [Nat.sub_add_cancel (min_le_right count domainSize), zero_add, ← drawn_eq] at spread
    obtain ⟨distinct, same⟩ := (engine.shuffle drawn.2 drawn.1).1.2
    refine ⟨distinct, ?_, ?_⟩
    · rw [← List.toFinset_card_of_nodup distinct, same, spread.card]
    · intro index listed
      exact Finset.mem_range.mp (spread.below (same ▸ List.mem_toFinset.mpr listed))

end

namespace Mutation

section

/-! ## What is written -/

variable {G : Type*} {before middle after : Mutation G} {resets : List ℕ}
  {perturbed : List (ℕ × ℕ)}

/-- Between two states of the loop these weights were written, and no others. -/
structure Written (before after : Mutation G) (resets : List ℕ) (perturbed : List (ℕ × ℕ)) :
    Prop where
  resetIndices : after.resetIndices = before.resetIndices ++ resets
  perturbedIndices : after.perturbedIndices = before.perturbedIndices ++ perturbed
  resetStats : after.stats.resets = before.stats.resets + resets.length
  perturbationStats : after.stats.perturbations = before.stats.perturbations + perturbed.length
  unchanged : ∀ index, index ∉ resets → index ∉ perturbed.map Prod.snd →
    after.child.weights[index]? = before.child.weights[index]?

theorem Written.refl (mutation : Mutation G) : mutation.Written mutation [] [] where
  resetIndices := (List.append_nil _).symm
  perturbedIndices := (List.append_nil _).symm
  resetStats := rfl
  perturbationStats := rfl
  unchanged _ _ _ := rfl

theorem Written.withRng (mutation : Mutation G) (rng : G) :
    mutation.Written { mutation with rng := rng } [] [] where
  resetIndices := (List.append_nil _).symm
  perturbedIndices := (List.append_nil _).symm
  resetStats := rfl
  perturbationStats := rfl
  unchanged _ _ _ := rfl

theorem Written.trans {moreResets : List ℕ} {morePerturbed : List (ℕ × ℕ)}
    (first : before.Written middle resets perturbed)
    (second : middle.Written after moreResets morePerturbed) :
    before.Written after (resets ++ moreResets) (perturbed ++ morePerturbed) where
  resetIndices := by rw [second.resetIndices, first.resetIndices, List.append_assoc]
  perturbedIndices := by rw [second.perturbedIndices, first.perturbedIndices, List.append_assoc]
  resetStats := by rw [second.resetStats, first.resetStats, List.length_append, Nat.add_assoc]
  perturbationStats := by
    rw [second.perturbationStats, first.perturbationStats, List.length_append, Nat.add_assoc]
  unchanged index notReset notPerturbed := by
    rw [List.mem_append, not_or] at notReset
    rw [List.map_append, List.mem_append, not_or] at notPerturbed
    exact (second.unchanged index notReset.2 notPerturbed.2).trans
      (first.unchanged index notReset.1 notPerturbed.1)

variable {K : Type*} (arithmetic : WeightArithmetic) (engine : RandomEngine G K) (sigma : K)

theorem written_resetWeight (mutation : Mutation G) (index : ℕ) :
    mutation.Written (resetWeight arithmetic engine sigma mutation index) [index] [] where
  resetIndices := rfl
  perturbedIndices := (List.append_nil _).symm
  resetStats := rfl
  perturbationStats := rfl
  unchanged _ apart _ :=
    List.getElem?_set_ne fun same => apart (List.mem_singleton.mpr same.symm)

theorem written_perturbWeight (segment : ℕ) (mutation : Mutation G) (index : ℕ) :
    mutation.Written (perturbWeight arithmetic engine sigma segment mutation index) []
      [(segment, index)] where
  resetIndices := (List.append_nil _).symm
  perturbedIndices := rfl
  resetStats := rfl
  perturbationStats := rfl
  unchanged other _ apart := by
    have elsewhere : index ≠ other := fun same => apart (List.mem_singleton.mpr same.symm)
    simp [perturbWeight, elsewhere]

theorem written_resets (indices : List ℕ) (mutation : Mutation G) :
    mutation.Written (indices.foldl (resetWeight arithmetic engine sigma) mutation) indices [] := by
  induction indices generalizing mutation with
  | nil => exact .refl mutation
  | cons index indices ih =>
      exact (written_resetWeight arithmetic engine sigma mutation index).trans (ih _)

theorem written_perturbations (segment : ℕ) (indices : List ℕ) (mutation : Mutation G) :
    mutation.Written (indices.foldl (perturbWeight arithmetic engine sigma segment) mutation) []
      (indices.map (segment, ·)) := by
  induction indices generalizing mutation with
  | nil => exact .refl mutation
  | cons index indices ih =>
      exact (written_perturbWeight arithmetic engine sigma segment mutation index).trans (ih _)

end

section

/-! ## Segment by segment -/

variable {G K : Type*} (arithmetic : WeightArithmetic) (engine : RandomEngine G K) (sigma : K)

/-- What was drawn for segments that lie one after another: distinct indices, each in its segment,
so many as budget and size allow. -/
structure Drawn (first offset : ℕ) (sizes budgets : List ℕ) (drawn : List (ℕ × ℕ)) : Prop where
  distinct : (drawn.map Prod.snd).Nodup
  count : drawn.length = (List.zipWith min budgets sizes).sum
  inside : ∀ entry ∈ drawn, ∃ i, entry.1 = first + i ∧
    offset + (sizes.take i).sum ≤ entry.2 ∧ entry.2 < offset + (sizes.take (i + 1)).sum
  every : ∀ i budget size : ℕ, budgets[i]? = some budget → sizes[i]? = some size → 0 < budget →
    0 < size → ∃ index, (first + i, index) ∈ drawn

theorem Drawn.cons {segment offset size budget : ℕ} {sizes budgets indices : List ℕ}
    {later : List (ℕ × ℕ)} (distinct : indices.Nodup)
    (count : indices.length = min budget size)
    (inside : ∀ index ∈ indices, offset ≤ index ∧ index < offset + size)
    (others : Drawn (segment + 1) (offset + size) sizes budgets later) :
    Drawn segment offset (size :: sizes) (budget :: budgets)
      (indices.map (segment, ·) ++ later) where
  distinct := by
    rw [List.map_append, List.map_map, show Prod.snd ∘ (segment, ·) = id from rfl, List.map_id]
    refine List.nodup_append.mpr ⟨distinct, others.distinct, ?_⟩
    intro index here other listed same
    obtain ⟨entry, member, rfl⟩ := List.mem_map.mp listed
    obtain ⟨i, _, above, _⟩ := others.inside entry member
    have below := (inside index here).2
    omega
  count := by
    rw [List.length_append, List.length_map, count, others.count, List.zipWith_cons_cons,
      List.sum_cons]
  inside := by
    intro entry member
    rcases List.mem_append.mp member with here | there
    · obtain ⟨index, listed, rfl⟩ := List.mem_map.mp here
      refine ⟨0, rfl, ?_, ?_⟩
      · exact (inside index listed).1
      · simpa only [List.take_succ_cons, List.take_zero, List.sum_cons, List.sum_nil, add_zero]
          using (inside index listed).2
    · obtain ⟨i, number, above, below⟩ := others.inside entry there
      refine ⟨i + 1, ?_, ?_, ?_⟩
      · rw [number]
        omega
      · rw [List.take_succ_cons, List.sum_cons]
        omega
      · rw [List.take_succ_cons, List.sum_cons]
        omega
  every := by
    intro i amount length budgeted sized some_budget some_size
    cases i with
    | zero =>
        cases budgeted
        cases sized
        obtain ⟨index, listed⟩ : ∃ index, index ∈ indices := by
          refine List.exists_mem_of_length_pos ?_
          rw [count]
          exact lt_min some_budget some_size
        exact ⟨index, List.mem_append_left _ (List.mem_map_of_mem listed)⟩
    | succ i =>
        obtain ⟨index, listed⟩ := others.every i amount length budgeted sized some_budget some_size
        refine ⟨index, List.mem_append_right _ ?_⟩
        rwa [Nat.add_right_comm, Nat.add_assoc] at listed

theorem written_perturbSegment (segment offset size budget : ℕ) (mutation : Mutation G) :
    ∃ indices : List ℕ,
      mutation.Written
        (perturbSegment arithmetic engine sigma segment offset size budget mutation) []
        (indices.map (segment, ·)) ∧
      indices.Nodup ∧ indices.length = min budget size ∧
      ∀ index ∈ indices, offset ≤ index ∧ index < offset + size := by
  unfold perturbSegment
  split
  · obtain ⟨distinct, count, inside⟩ :=
      sampleUniqueIndices_spec engine size budget mutation.rng
    set sample := sampleUniqueIndices engine size budget mutation.rng
    refine ⟨sample.1.map (offset + ·), ?_, ?_, ?_, ?_⟩
    · exact (Written.withRng mutation sample.2).trans
        (written_perturbations arithmetic engine sigma segment _ _)
    · exact distinct.map (add_right_injective offset)
    · rw [List.length_map, count]
    · intro index listed
      obtain ⟨localIndex, drawn, rfl⟩ := List.mem_map.mp listed
      exact ⟨Nat.le_add_right .., Nat.add_lt_add_left (inside localIndex drawn) offset⟩
  · rename_i nothing
    refine ⟨[], .refl mutation, List.nodup_nil, ?_, nofun⟩
    rw [List.length_nil]
    omega

theorem written_perturbSegments (segment offset : ℕ) (sizes budgets : List ℕ)
    (aligned : budgets.length = sizes.length) (mutation : Mutation G) :
    ∃ drawn, mutation.Written
        (perturbSegments arithmetic engine sigma segment offset sizes budgets mutation) [] drawn ∧
      Drawn segment offset sizes budgets drawn := by
  induction sizes generalizing segment offset budgets mutation with
  | nil =>
      obtain rfl := List.eq_nil_of_length_eq_zero aligned
      exact ⟨[], .refl mutation, ⟨List.nodup_nil, rfl, nofun, nofun⟩⟩
  | cons size sizes ih =>
      cases budgets with
      | nil => cases aligned
      | cons budget budgets =>
          obtain ⟨indices, written, distinct, count, inside⟩ :=
            written_perturbSegment arithmetic engine sigma segment offset size budget mutation
          obtain ⟨later, writtenLater, others⟩ := ih (segment + 1) (offset + size) budgets
            (Nat.succ.inj aligned)
            (perturbSegment arithmetic engine sigma segment offset size budget mutation)
          exact ⟨indices.map (segment, ·) ++ later, written.trans writtenLater,
            .cons distinct count inside others⟩

end

end Mutation

section

/-! ## Distributing the budget -/

variable {layout : GenomeLayout} (sizeOrder : SizeOrder layout)

def floors (segmentCount floorTotal : ℕ) : List ℕ :=
  (List.range segmentCount).map fun i => if i < floorTotal then 1 else 0

theorem sum_floors {segmentCount floorTotal : ℕ} (few : floorTotal ≤ segmentCount) :
    (floors segmentCount floorTotal).sum = floorTotal := by
  induction segmentCount generalizing floorTotal with
  | zero =>
      rw [Nat.le_zero.mp few]
      rfl
  | succ segmentCount ih =>
      rw [floors, List.range_succ, List.map_append, List.sum_append, List.map_singleton,
        List.sum_singleton]
      rcases Nat.lt_or_eq_of_le few with below | all
      · have rest := ih (Nat.le_of_lt_succ below)
        rw [floors] at rest
        rw [rest, if_neg (Nat.not_lt.mpr (Nat.le_of_lt_succ below)), Nat.add_zero]
      · have rest := ih (le_refl segmentCount)
        have same : (List.range segmentCount).map (fun i => if i < floorTotal then 1 else 0) =
            floors segmentCount segmentCount := by
          refine List.map_congr_left fun i listed => ?_
          have inside := List.mem_range.mp listed
          rw [if_pos inside, if_pos (all ▸ Nat.lt_succ_of_lt inside)]
        rw [same, rest, all, if_pos (Nat.lt_succ_self segmentCount)]

theorem floors_zero (segmentCount : ℕ) : floors segmentCount 0 = List.replicate segmentCount 0 := by
  rw [floors, ← List.length_range (n := segmentCount), ← List.map_const', List.length_range]
  exact List.map_congr_left fun i _ => if_neg (Nat.not_lt_zero i)

theorem shares_zero (sizes : List ℕ) : shares 0 sizes = List.replicate sizes.length 0 := by
  rw [shares, ← List.map_const']
  refine List.map_congr_left fun size _ => ?_
  rw [Nat.zero_mul, Nat.zero_div]

theorem zipWith_add_zero (amounts : List ℕ) :
    List.zipWith (· + ·) amounts (List.replicate amounts.length 0) = amounts := by
  induction amounts with
  | nil => rfl
  | cons amount amounts ih =>
      rw [List.length_cons, List.replicate_succ, List.zipWith_cons_cons, ih, Nat.add_zero]

theorem distributeBudget_eq (nonempty : layout.segments ≠ []) (positive : 0 < layout.totalSize)
    (budget : ℕ) :
    distributeBudget layout sizeOrder budget =
      bump
        (List.zipWith (· + ·) (floors layout.segments.length (min budget layout.segments.length))
          (shares (budget - layout.segments.length) layout.sizes))
        (sizeOrder.order.take (leftover (budget - layout.segments.length) layout.sizes)) := by
  have counted : layout.segments.length ≠ 0 := fun none_there =>
    nonempty (List.eq_nil_of_length_eq_zero none_there)
  have sized : layout.sizes.length = layout.segments.length := List.length_map ..
  have idle (floorTotal : ℕ) : bump
      (List.zipWith (· + ·) (floors layout.segments.length floorTotal)
        (shares 0 layout.sizes))
      (sizeOrder.order.take (leftover 0 layout.sizes)) =
        floors layout.segments.length floorTotal := by
    have aligned : layout.sizes.length = (floors layout.segments.length floorTotal).length := by
      rw [floors, List.length_map, List.length_range, sized]
    rw [shares_zero, aligned, zipWith_add_zero, leftover, Nat.zero_sub, List.take_zero]
    rfl
  have remaining : budget - min budget layout.segments.length =
      budget - layout.segments.length := by omega
  unfold distributeBudget
  dsimp only
  split
  · rename_i nothing
    obtain rfl := nothing.resolve_right counted
    rw [Nat.zero_sub, Nat.zero_min, idle, floors_zero]
  · rw [remaining]
    split
    · rename_i settled
      have used := settled.resolve_right positive.ne'
      rw [used, idle, floors]
    · rfl

@[simp] theorem length_sizes : layout.sizes.length = layout.segments.length := List.length_map ..

theorem length_floors (segmentCount floorTotal : ℕ) :
    (floors segmentCount floorTotal).length = segmentCount := by
  rw [floors, List.length_map, List.length_range]

section

variable (nonempty : layout.segments ≠ []) (positive : 0 < layout.totalSize) (budget : ℕ)
include nonempty positive budget

theorem sum_distributeBudget : (distributeBudget layout sizeOrder budget).sum = budget := by
  have whole := sum_shares_le (budget - layout.segments.length) layout.sizes
  have few : leftover (budget - layout.segments.length) layout.sizes < layout.sizes.length :=
    leftover_lt_length positive
  have listed : sizeOrder.order.length = layout.sizes.length := by
    rw [sizeOrder.perm.length_eq, List.length_range]
  rw [distributeBudget_eq sizeOrder nonempty positive, sum_bump, List.length_take, listed,
    ← List.sum_add_sum_eq_sum_zipWith_of_length_eq, sum_floors (min_le_right ..),
    min_eq_left few.le, leftover]
  · omega
  · rw [length_floors, length_shares, length_sizes]
  · intro place taken
    have inside := List.mem_range.mp (sizeOrder.perm.mem_iff.mp (List.mem_of_mem_take taken))
    rw [List.length_zipWith, length_floors, length_shares, length_sizes, min_self]
    rwa [length_sizes] at inside

@[simp] theorem length_distributeBudget :
    (distributeBudget layout sizeOrder budget).length = layout.sizes.length := by
  rw [distributeBudget_eq sizeOrder nonempty positive, length_bump, List.length_zipWith,
    length_floors, length_shares, length_sizes, min_self]

theorem getElem?_distributeBudget {segment size : ℕ} (sized : layout.sizes[segment]? = some size) :
    (distributeBudget layout sizeOrder budget)[segment]? =
      some ((if segment < budget then 1 else 0) +
        (budget - layout.segments.length) * size / layout.totalSize +
        if segment ∈ sizeOrder.order.take
            (leftover (budget - layout.segments.length) layout.sizes) then 1 else 0) := by
  have inside : segment < layout.segments.length := by
    rw [← length_sizes]
    exact (List.getElem?_eq_some_iff.mp sized).1
  have distinct : (sizeOrder.order.take
      (leftover (budget - layout.segments.length) layout.sizes)).Nodup :=
    (List.take_sublist _ _).nodup (sizeOrder.perm.nodup_iff.mpr List.nodup_range)
  have floor : (floors layout.segments.length (min budget layout.segments.length))[segment]? =
      some (if segment < budget then 1 else 0) := by
    rw [floors, List.getElem?_map, List.getElem?_range inside, Option.map_some]
    simp [inside]
  rw [distributeBudget_eq sizeOrder nonempty positive, getElem?_bump distinct,
    List.getElem?_zipWith, floor, shares, List.getElem?_map, sized]
  rfl

end

theorem map_order_perm :
    (sizeOrder.order.map fun segment => layout.sizes.getD segment 0).Perm layout.sizes := by
  have listed : (List.range layout.sizes.length).map (fun segment => layout.sizes.getD segment 0) =
      layout.sizes := by
    refine List.ext_getElem (by rw [List.length_map, List.length_range]) fun i _ inside => ?_
    rw [List.getElem_map, List.getElem_range, List.getD_eq_getElem?_getD,
      List.getElem?_eq_getElem inside, Option.getD_some]
  have moved := sizeOrder.perm.map fun segment => layout.sizes.getD segment 0
  rwa [listed] at moved

theorem mem_leftover_sizes_iff {size : ℕ} (sized : size ∈ layout.sizes) (count : ℕ) :
    (∃ segment ∈ sizeOrder.order.take count, layout.sizes[segment]? = some size) ↔
      layout.sizes.countP (fun other => size < other) < count := by
  have perm := map_order_perm sizeOrder
  rw [← perm.countP_eq, ← mem_take_iff_countP_lt sizeOrder.descending (perm.mem_iff.mpr sized),
    ← List.map_take, List.mem_map]
  refine exists_congr fun segment => and_congr_right fun taken => ?_
  have inside := List.mem_range.mp (sizeOrder.perm.mem_iff.mp (List.mem_of_mem_take taken))
  rw [List.getD_eq_getElem?_getD, List.getElem?_eq_getElem inside, Option.getD_some,
    Option.some_inj]

/-- **Room.** What the segments receive fits exactly when what is left over does. -/
theorem distributeBudget_fits_iff (nonempty : layout.segments ≠ [])
    (positive : ∀ size ∈ layout.sizes, 0 < size) {budget : ℕ} (few : budget ≤ layout.totalSize) :
    List.Forall₂ (· ≤ ·) (distributeBudget layout sizeOrder budget) layout.sizes ↔
      LeftoversFit layout budget := by
  have counted : 0 < layout.segments.length := List.length_pos_iff.mpr nonempty
  have covered : 0 < layout.totalSize := by
    obtain ⟨size, sized⟩ := List.exists_mem_of_length_pos
      ((@length_sizes layout).symm ▸ counted)
    exact lt_of_lt_of_le (positive size sized) (List.le_sum_of_mem sized)
  have small : budget - layout.segments.length < layout.sizes.sum := by
    change budget - layout.segments.length < layout.totalSize
    omega
  have received := @getElem?_distributeBudget layout sizeOrder nonempty covered budget
  rw [List.forall₂_iff_get]
  constructor
  · rintro ⟨_, fits⟩ size sized largest
    obtain ⟨segment, taken, at_segment⟩ := (mem_leftover_sizes_iff sizeOrder sized _).mpr largest
    obtain ⟨inside, same⟩ := List.getElem?_eq_some_iff.mp at_segment
    obtain ⟨given, amount⟩ := List.getElem?_eq_some_iff.mp (received at_segment)
    have fit := fits segment given inside
    rw [List.get_eq_getElem, List.get_eq_getElem, amount, same, if_pos taken] at fit
    have some_left : layout.segments.length < budget := by
      by_contra none_left
      rw [Nat.sub_eq_zero_of_le (not_lt.mp none_left), leftover, Nat.zero_sub] at largest
      exact Nat.not_lt_zero _ largest
    rw [length_sizes] at inside
    rw [if_pos (inside.trans some_left)] at fit
    omega
  · intro fit
    refine ⟨length_distributeBudget sizeOrder nonempty covered budget, fun segment given inside => ?_⟩
    have at_segment := List.getElem?_eq_getElem inside
    obtain ⟨_, amount⟩ := List.getElem?_eq_some_iff.mp (received at_segment)
    have sized : layout.sizes[segment] ∈ layout.sizes := List.getElem_mem inside
    have share := share_lt small (positive _ sized)
    change _ / layout.totalSize < _ at share
    have floor : (if segment < budget then 1 else 0) ≤ 1 := by split <;> omega
    simp only [List.get_eq_getElem, amount]
    by_cases taken : segment ∈ sizeOrder.order.take
        (leftover (budget - layout.segments.length) layout.sizes)
    · have room := fit _ sized ((mem_leftover_sizes_iff sizeOrder sized _).mp
        ⟨segment, taken, at_segment⟩)
      rw [if_pos taken]
      omega
    · rw [if_neg taken]
      omega

end

section

/-! ## Spending the budget -/

variable {G K : Type*} {layout : GenomeLayout} {parent : Genome} (arithmetic : WeightArithmetic)
  (engine : RandomEngine G K) (config : MutationConfig K) (sizeOrder : SizeOrder layout) (rng : G)

theorem clamped_resets :
    clampMutationCount config.resetsPerOffspring parent.weights.length =
      resetBudget parent config :=
  clampMutationCount_eq ..

theorem clamped_perturbations :
    clampMutationCount config.perturbationsPerOffspring
        (parent.weights.length - resetBudget parent config) =
      perturbationBudget parent config :=
  clampMutationCount_eq ..

theorem perturbationBudget_le : perturbationBudget parent config ≤ parent.weights.length :=
  (min_le_right ..).trans (Nat.sub_le ..)

/-- What a mutation always does: all resets are distinct and as many as asked for, and every segment
perturbs as many of its own weights as it has of the budget, or all of them. -/
theorem mutate_spec (nonempty : layout.segments ≠ []) (positive : 0 < layout.totalSize)
    (covers : layout.totalSize = parent.weights.length) :
    ∃ mutation resets drawn,
      mutate arithmetic engine parent config layout sizeOrder rng = some mutation ∧
      mutation.resetIndices = resets ∧ mutation.perturbedIndices = drawn ∧
      mutation.stats = { perturbations := drawn.length, resets := resets.length } ∧
      (∀ index, index ∉ resets → index ∉ drawn.map Prod.snd →
        mutation.child.weights[index]? = parent.weights[index]?) ∧
      resets.Nodup ∧ resets.length = resetBudget parent config ∧
      (∀ index ∈ resets, index < parent.weights.length) ∧
      Mutation.Drawn 0 0 layout.sizes
        (distributeBudget layout sizeOrder (perturbationBudget parent config)) drawn := by
  have fits : ¬ (layout.segments = [] ∨ layout.totalSize ≠ parent.weights.length) := by
    rintro (empty | other)
    · exact nonempty empty
    · exact other covers
  rw [mutate]
  rw [if_neg fits, clamped_resets, clamped_perturbations]
  set unchanged : Mutation G :=
    { child := parent, stats := { perturbations := 0, resets := 0 }
      resetIndices := [], perturbedIndices := [], rng := rng }
  obtain ⟨reset, same, resets, written, distinct, count, inside⟩ : ∃ reset,
      (if resetBudget parent config > 0 then
        (sampleUniqueIndices engine parent.weights.length (resetBudget parent config) rng).1.foldl
          (resetWeight arithmetic engine config.sigma)
          { unchanged with rng := (sampleUniqueIndices engine parent.weights.length
              (resetBudget parent config) rng).2 }
      else unchanged) = reset ∧
      ∃ resets, unchanged.Written reset resets [] ∧ resets.Nodup ∧
        resets.length = resetBudget parent config ∧
        ∀ index ∈ resets, index < parent.weights.length := by
    refine ⟨_, rfl, ?_⟩
    by_cases some_reset : resetBudget parent config > 0
    · obtain ⟨distinct, count, inside⟩ := sampleUniqueIndices_spec engine parent.weights.length
        (resetBudget parent config) rng
      rw [if_pos some_reset]
      refine ⟨_, (Mutation.Written.withRng unchanged _).trans
        (Mutation.written_resets arithmetic engine config.sigma _ _), distinct, ?_, inside⟩
      rw [List.nil_append, count]
      exact min_eq_left (min_le_right ..)
    · rw [if_neg some_reset]
      exact ⟨[], .refl unchanged, List.nodup_nil, (Nat.eq_zero_of_not_pos some_reset).symm, nofun⟩
  obtain ⟨drawn, perturbed, spread⟩ := Mutation.written_perturbSegments arithmetic engine
    config.sigma 0 0 layout.sizes
    (distributeBudget layout sizeOrder (perturbationBudget parent config))
    (length_distributeBudget sizeOrder nonempty positive _) reset
  have all := written.trans perturbed
  rw [List.append_nil, List.nil_append] at all
  refine ⟨_, resets, drawn, congrArg some (congrArg _ same), all.resetIndices,
    all.perturbedIndices, ?_, all.unchanged, distinct, count, inside, spread⟩
  rw [MutationStats.mk.injEq, all.perturbationStats, all.resetStats]
  exact ⟨Nat.zero_add _, Nat.zero_add _⟩

/-- **Mutation spends its budget**, whatever is drawn, exactly when the layout has segments and
every one of them that receives a unit left over by rounding has room for it. -/
theorem mutate_spendsBudget_iff (positive : ∀ size ∈ layout.sizes, 0 < size)
    (covers : layout.totalSize = parent.weights.length) :
    (∃ mutation, mutate arithmetic engine parent config layout sizeOrder rng = some mutation ∧
        SpendsBudget parent config layout mutation) ↔
      layout.segments ≠ [] ∧ LeftoversFit layout (perturbationBudget parent config) := by
  by_cases empty : layout.segments = []
  · have aborts : mutate arithmetic engine parent config layout sizeOrder rng = none := by
      rw [mutate]
      exact if_pos (Or.inl empty)
    rw [aborts]
    constructor
    · rintro ⟨mutation, returned, _⟩
      cases returned
    · rintro ⟨nonempty, _⟩
      exact absurd empty nonempty
  · have covered : 0 < layout.totalSize := by
      obtain ⟨size, sized⟩ := List.exists_mem_of_length_pos
        ((@length_sizes layout).symm ▸ List.length_pos_iff.mpr empty)
      exact lt_of_lt_of_le (positive size sized) (List.le_sum_of_mem sized)
    obtain ⟨mutation, resets, drawn, mutated, resetIndices, perturbedIndices, stats, unchanged,
      distinct, count, inside, spread⟩ :=
      mutate_spec arithmetic engine config sizeOrder rng empty covered covers
    have spent : drawn.length = perturbationBudget parent config ↔
        LeftoversFit layout (perturbationBudget parent config) := by
      rw [← distributeBudget_fits_iff sizeOrder empty positive
          (covers ▸ perturbationBudget_le config),
        ← sum_zipWith_min_eq_iff (length_distributeBudget sizeOrder empty covered _), spread.count,
        sum_distributeBudget sizeOrder empty covered]
    subst resetIndices perturbedIndices
    constructor
    · rintro ⟨other, same, spends⟩
      obtain rfl := Option.some.inj (mutated.symm.trans same)
      exact ⟨empty, spent.mp spends.perturbs.2⟩
    · rintro ⟨_, fit⟩
      have exactly := spent.mpr fit
      refine ⟨mutation, mutated, ⟨distinct, count⟩, ⟨spread.distinct, exactly⟩, ?_, ?_,
        ⟨inside, ?_⟩, unchanged⟩
      · rw [stats, exactly, count]
      · intro enough segment listed
        have sized := List.getElem?_eq_getElem ((@length_sizes layout).symm ▸ listed)
        obtain ⟨index, member⟩ := spread.every segment _ _
          (getElem?_distributeBudget sizeOrder empty covered _ sized) sized (by
            rw [if_pos (listed.trans_le enough), Nat.add_assoc]
            exact Nat.lt_of_lt_of_le Nat.one_pos (Nat.le_add_right ..)) (positive _ (List.getElem_mem _))
        exact ⟨index, Nat.zero_add segment ▸ member⟩
      · intro entry member
        obtain ⟨segment, number, above, below⟩ := spread.inside entry member
        rw [Nat.zero_add] at number above below
        rw [GenomeLayout.offset, GenomeLayout.offset, number]
        exact ⟨above, below⟩

end

section

/-! ## Small layouts -/

def ascending (indices : Finset ℕ) : List ℕ :=
  (List.range (indices.sup id + 1)).filter (· ∈ indices)

theorem toFinset_ascending (indices : Finset ℕ) : (ascending indices).toFinset = indices := by
  ext index
  rw [ascending, List.mem_toFinset, List.mem_filter, List.mem_range, decide_eq_true_eq]
  exact and_iff_right_of_imp fun member => Nat.lt_succ_of_le (Finset.le_sup (f := id) member)

def zeroEngine : RandomEngine Unit ℚ where
  uniform _ _ := (0, ())
  normal _ _ := (0, ())
  shuffle _ indices :=
    (⟨ascending indices, List.nodup_range.filter _, toFinset_ascending indices⟩, ())

def zeroArithmetic : WeightArithmetic where
  add weight _ := weight
  twice weight := weight

def pairLayout : GenomeLayout := ⟨[⟨"large", 3⟩, ⟨"small", 2⟩]⟩

theorem mutate_spendsBudget_pair :
    ∃ mutation, mutate zeroArithmetic zeroEngine ⟨[0, 0, 0, 0, 0]⟩ ⟨4, 1, 1⟩ pairLayout
        { order := [0, 1], perm := by decide, descending := by decide } () = some mutation ∧
      SpendsBudget ⟨[0, 0, 0, 0, 0]⟩ ⟨4, 1, (1 : ℚ)⟩ pairLayout mutation :=
  (mutate_spendsBudget_iff zeroArithmetic zeroEngine ⟨4, 1, 1⟩
    { order := [0, 1], perm := by decide, descending := by decide } () (by decide) rfl).mpr
    ⟨by decide, by decide⟩

/-- A layout with a large segment and four of one weight each. -/
def headLayout : GenomeLayout := ⟨[⟨"head", 5⟩, ⟨"a", 1⟩, ⟨"b", 1⟩, ⟨"c", 1⟩, ⟨"d", 1⟩]⟩

/-- With all nine weights to be perturbed, one of two units left over goes to a segment that has no
room for it, and only eight are. -/
theorem not_spendsBudget :
    ¬ ∀ (parent : Genome) (config : MutationConfig ℚ) (layout : GenomeLayout)
        (sizeOrder : SizeOrder layout), (∀ size ∈ layout.sizes, 0 < size) →
      layout.totalSize = parent.weights.length → layout.segments ≠ [] →
        ∃ mutation, mutate zeroArithmetic zeroEngine parent config layout sizeOrder () =
          some mutation ∧ SpendsBudget parent config layout mutation := by
  intro all
  obtain ⟨mutation, mutated, spends⟩ := all ⟨List.replicate 9 0⟩ ⟨9, 0, 1⟩ headLayout
    { order := [0, 1, 2, 3, 4], perm := by decide, descending := by decide } (by decide) rfl
    (by decide)
  have eight : (mutate zeroArithmetic zeroEngine ⟨List.replicate 9 0⟩ ⟨9, 0, 1⟩ headLayout
      { order := [0, 1, 2, 3, 4], perm := by decide, descending := by decide } ()).map
        (fun mutation => mutation.stats.perturbations) = some 8 := by
    decide +kernel
  rw [mutated, Option.map_some, spends.stats] at eight
  exact absurd (Option.some.inj eight) (by decide)

end

end DirtSim
