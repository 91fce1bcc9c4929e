import Mathlib.Algebra.BigOperators.Ring.Finset
import Mathlib.Algebra.Order.BigOperators.Group.Finset

/-! # Places that gather along channels

Each place takes, for every channel, what one other place holds in it. Along a channel no two places
take from the same one, so that nothing is taken twice; what would come from outside is not taken
at all. If every place then passes on no more than it gathered, in whatever channels, the total
does not grow (`Gathering.sum_le`).
-/

namespace DirtSim.Foundation

/-- Where a place takes from, along each channel. -/
structure Gathering (α C : Type*) where
  upstream : C → α → α
  injective : ∀ channel, Function.Injective (upstream channel)

namespace Gathering

variable {α C K : Type*} [DecidableEq α] [AddCommMonoid K] (gathering : Gathering α C)
  (places : Finset α)

def gathered (value : α → C → K) (place : α) (channel : C) : K :=
  if gathering.upstream channel place ∈ places then
    value (gathering.upstream channel place) channel
  else 0

variable [PartialOrder K] [IsOrderedAddMonoid K] {gathering places} {value after : α → C → K}

theorem sum_gathered_le (nonneg : ∀ place channel, 0 ≤ value place channel) (channel : C) :
    ∑ place ∈ places, gathering.gathered places value place channel ≤
      ∑ place ∈ places, value place channel := by
  have taken : ∑ place ∈ places, gathering.gathered places value place channel =
      ∑ place ∈ (places.filter fun place => gathering.upstream channel place ∈ places).image
        (gathering.upstream channel), value place channel := by
    rw [Finset.sum_image ((gathering.injective channel).injOn), Finset.sum_filter]
    rfl
  rw [taken]
  refine Finset.sum_le_sum_of_subset_of_nonneg ?_ fun place _ _ => nonneg place channel
  intro place member
  obtain ⟨taker, taking, rfl⟩ := Finset.mem_image.mp member
  exact (Finset.mem_filter.mp taking).2

/-- **Nothing is created.** Where every place passes on at most what it gathered. -/
theorem sum_le [Fintype C] (nonneg : ∀ place channel, 0 ≤ value place channel)
    (passes : ∀ place ∈ places, ∑ channel, after place channel ≤
      ∑ channel, gathering.gathered places value place channel) :
    ∑ place ∈ places, ∑ channel, after place channel ≤
      ∑ place ∈ places, ∑ channel, value place channel := by
  calc ∑ place ∈ places, ∑ channel, after place channel
      ≤ ∑ place ∈ places, ∑ channel, gathering.gathered places value place channel :=
        Finset.sum_le_sum passes
    _ = ∑ channel, ∑ place ∈ places, gathering.gathered places value place channel :=
        Finset.sum_comm
    _ ≤ ∑ channel, ∑ place ∈ places, value place channel :=
        Finset.sum_le_sum fun channel _ => sum_gathered_le nonneg channel
    _ = ∑ place ∈ places, ∑ channel, value place channel := Finset.sum_comm

end Gathering

end DirtSim.Foundation
