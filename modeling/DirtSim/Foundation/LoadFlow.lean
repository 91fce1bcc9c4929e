import Mathlib.Algebra.BigOperators.Ring.Finset
import Mathlib.Algebra.BigOperators.Group.Finset.Sigma
import Mathlib.Data.Finset.Image
import Mathlib.Tactic.LinearCombination

/-! # Loads passed along a sweep

Every place carries its own weight and the loads that other places pass on to it. A sweep that
visits each place before those it passes load to finds the loads in one pass
(`LoadFlow.balanced_sweep`). When every place passes on either all of its load or none, the loads
that go nowhere make up the whole weight (`LoadFlow.Balanced.conserves`).
-/

namespace DirtSim.Foundation

variable {α K : Type*}

/-- The weight of each place, and the part of the load of one place that it passes to another. -/
structure LoadFlow (α K : Type*) where
  weight : α → K
  share : α → α → K

/-- The loads found so far, and what has been passed on to each place. -/
@[ext] structure LoadFlow.Swept (α K : Type*) where
  load : α → K
  incoming : α → K

namespace LoadFlow

variable [DecidableEq α] [CommRing K] (flow : LoadFlow α K)

/-- Every load is the weight of its place and what is passed to it. -/
def Balanced (places : Finset α) (load : α → K) : Prop :=
  ∀ place ∈ places,
    load place = flow.weight place + ∑ source ∈ places, load source * flow.share source place

def visit (state : Swept α K) (place : α) : Swept α K :=
  let load := flow.weight place + state.incoming place
  { load := Function.update state.load place load
    incoming := fun other => state.incoming other + load * flow.share place other }

variable {flow}
variable {places : Finset α}

/-- What a sweep has found after visiting some places. -/
structure Found (flow : LoadFlow α K) (start : α → K) (places : Finset α)
    (state : Swept α K) : Prop where
  balanced : flow.Balanced places state.load
  incoming : ∀ other,
    state.incoming other = ∑ source ∈ places, state.load source * flow.share source other
  unvisited : ∀ other ∉ places, state.load other = start other

theorem Found.visit {start : α → K} {state : Swept α K} (found : flow.Found start places state)
    {place : α} (new : place ∉ places) (apart : flow.share place place = 0)
    (later : ∀ other ∈ places, flow.share place other = 0) :
    flow.Found start (insert place places) (flow.visit state place) := by
  have kept {other : α} (member : other ∈ places) :
      (flow.visit state place).load other = state.load other :=
    Function.update_of_ne (fun same : other = place => new (same ▸ member)) _ _
  have own : (flow.visit state place).load place =
      flow.weight place + ∑ source ∈ places, state.load source * flow.share source place := by
    rw [← found.incoming]
    exact Function.update_self ..
  have passed (other : α) : ∑ source ∈ places,
      (flow.visit state place).load source * flow.share source other =
        ∑ source ∈ places, state.load source * flow.share source other :=
    Finset.sum_congr rfl fun source member => by rw [kept member]
  constructor
  · intro other member
    rw [Finset.sum_insert new, passed]
    rcases Finset.mem_insert.mp member with rfl | earlier
    · rw [apart, mul_zero, zero_add, own]
    · rw [later other earlier, mul_zero, zero_add, kept earlier]
      exact found.balanced other earlier
  · intro other
    rw [Finset.sum_insert new, passed, ← found.incoming, own, ← found.incoming]
    exact add_comm _ _
  · intro other outside
    rw [Finset.mem_insert, not_or] at outside
    exact (Function.update_of_ne outside.1 _ _).trans (found.unvisited other outside.2)

/-- A sweep along which no place passes load back finds all loads. -/
theorem Found.sweep {start : α → K} {state : Swept α K} (found : flow.Found start places state)
    {order : List α} (distinct : order.Nodup) (new : ∀ place ∈ order, place ∉ places)
    (apart : ∀ place ∈ order, flow.share place place = 0)
    (later : ∀ place ∈ order, ∀ other ∈ places, flow.share place other = 0)
    (forward : order.Pairwise fun earlier later => flow.share later earlier = 0) :
    flow.Found start (places ∪ order.toFinset) (order.foldl flow.visit state) := by
  induction order generalizing places state with
  | nil => simpa only [List.toFinset_nil, Finset.union_empty, List.foldl_nil] using found
  | cons place order ih =>
      obtain ⟨fresh, distinct'⟩ := List.nodup_cons.mp distinct
      obtain ⟨ahead, forward'⟩ := List.pairwise_cons.mp forward
      have visited := found.visit (new place List.mem_cons_self) (apart place List.mem_cons_self)
        (later place List.mem_cons_self)
      have rest := ih visited distinct' (fun other member => ?_)
        (fun other member => apart other (List.mem_cons_of_mem _ member))
        (fun other member earlier earlierMember => ?_) forward'
      · rwa [List.foldl_cons, List.toFinset_cons, Finset.union_insert, ← Finset.insert_union]
      · rw [Finset.mem_insert, not_or]
        exact ⟨fun same => fresh (same ▸ member), new other (List.mem_cons_of_mem _ member)⟩
      · rcases Finset.mem_insert.mp earlierMember with rfl | before
        · exact ahead other member
        · exact later other (List.mem_cons_of_mem _ member) earlier before

theorem found_sweep (start : α → K) {order : List α} (distinct : order.Nodup)
    (apart : ∀ place ∈ order, flow.share place place = 0)
    (forward : order.Pairwise fun earlier later => flow.share later earlier = 0) :
    flow.Found start order.toFinset
      (order.foldl flow.visit { load := start, incoming := fun _ => 0 }) := by
  have nothing : flow.Found start ∅ { load := start, incoming := fun _ => 0 } :=
    ⟨fun place none => absurd none (Finset.notMem_empty place), fun _ => Finset.sum_empty.symm,
      fun _ _ => rfl⟩
  have found := nothing.sweep distinct (fun place _ => Finset.notMem_empty place) apart
    (fun _ _ place none => absurd none (Finset.notMem_empty place)) forward
  rwa [Finset.empty_union] at found

omit [DecidableEq α] in
/-- **Conservation.** The loads that are not passed on make up the weight of all places. -/
theorem Balanced.conserves {load : α → K} (balanced : flow.Balanced places load) {passes : α → Prop}
    [DecidablePred passes] (splits : ∀ source ∈ places,
      ∑ target ∈ places, flow.share source target = if passes source then 1 else 0) :
    ∑ place ∈ places with ¬ passes place, load place = ∑ place ∈ places, flow.weight place := by
  have total : ∑ place ∈ places, load place =
      ∑ place ∈ places, flow.weight place + ∑ place ∈ places with passes place, load place := by
    calc ∑ place ∈ places, load place
        = ∑ place ∈ places, (flow.weight place +
            ∑ source ∈ places, load source * flow.share source place) :=
          Finset.sum_congr rfl balanced
      _ = ∑ place ∈ places, flow.weight place +
            ∑ source ∈ places, ∑ place ∈ places, load source * flow.share source place := by
          rw [Finset.sum_add_distrib, Finset.sum_comm]
      _ = ∑ place ∈ places, flow.weight place +
            ∑ source ∈ places, if passes source then load source else 0 := by
          congr 1
          refine Finset.sum_congr rfl fun source member => ?_
          rw [← Finset.mul_sum, splits source member, mul_ite, mul_one, mul_zero]
      _ = _ := by rw [Finset.sum_filter]
  have parts := Finset.sum_filter_add_sum_filter_not places passes load
  linear_combination parts + total

end LoadFlow

end DirtSim.Foundation
