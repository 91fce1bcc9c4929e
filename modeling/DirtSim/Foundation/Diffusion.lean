import Mathlib.Algebra.BigOperators.Ring.Finset
import Mathlib.Algebra.Order.BigOperators.Group.Finset
import Mathlib.Algebra.Order.Field.Basic
import Mathlib.Data.Finset.Max
import Mathlib.Tactic.Linarith
import Mathlib.Tactic.LinearCombination
import Mathlib.Tactic.Ring

/-! # Explicit diffusion

A quantity spreads between places, each of which reads its own rates towards the others. A small
step keeps every value between its neighbours' (`Diffusion.le_step`, `Diffusion.step_le`), and
totals are kept exactly if the rates balance (`Diffusion.sum_step`).
-/

namespace DirtSim.Foundation

/-- The rate at which one place takes over the value of another. -/
structure Diffusion (α K : Type*) where
  rate : α → α → K

namespace Diffusion

variable {α K : Type*} [Field K] (diffusion : Diffusion α K) (places : Finset α)

def step (length : K) (value : α → K) (place : α) : K :=
  value place + (∑ other ∈ places, diffusion.rate place other * (value other - value place)) * length

/-- What the other places take over from one, less what it takes over from them. -/
def imbalance (place : α) : K :=
  ∑ other ∈ places, (diffusion.rate other place - diffusion.rate place other)

/-- The total changes by the imbalances, weighted with the values. -/
theorem sum_step (length : K) (value : α → K) :
    ∑ place ∈ places, diffusion.step places length value place =
      ∑ place ∈ places, value place +
        (∑ place ∈ places, value place * diffusion.imbalance places place) * length := by
  have spread : ∑ place ∈ places, ∑ other ∈ places,
      diffusion.rate place other * (value other - value place) =
        ∑ place ∈ places, value place * diffusion.imbalance places place := by
    calc _ = ∑ place ∈ places, ∑ other ∈ places, diffusion.rate place other * value other -
          ∑ place ∈ places, ∑ other ∈ places, diffusion.rate place other * value place := by
          rw [← Finset.sum_sub_distrib]
          refine Finset.sum_congr rfl fun place _ => ?_
          rw [← Finset.sum_sub_distrib]
          exact Finset.sum_congr rfl fun other _ => mul_sub _ _ _
      _ = ∑ place ∈ places, ∑ other ∈ places, diffusion.rate other place * value place -
          ∑ place ∈ places, ∑ other ∈ places, diffusion.rate place other * value place := by
          rw [Finset.sum_comm]
      _ = _ := by
          rw [← Finset.sum_sub_distrib]
          refine Finset.sum_congr rfl fun place _ => ?_
          rw [← Finset.sum_sub_distrib, imbalance, Finset.mul_sum]
          exact Finset.sum_congr rfl fun other _ => by ring
  simp [step, Finset.sum_add_distrib, ← Finset.sum_mul, spread]

theorem imbalance_of_symmetric {place : α}
    (symmetric : ∀ other ∈ places, diffusion.rate other place = diffusion.rate place other) :
    diffusion.imbalance places place = 0 :=
  Finset.sum_eq_zero fun other member => sub_eq_zero.mpr (symmetric other member)

variable [LinearOrder K] [IsStrictOrderedRing K] {diffusion places} {length : K} {value : α → K}
  {place : α}

/-- A step that moves no more than a place has stays above the values it reads. -/
theorem le_step (nonneg : ∀ other ∈ places, 0 ≤ diffusion.rate place other) (forward : 0 ≤ length)
    (stable : (∑ other ∈ places, diffusion.rate place other) * length ≤ 1) {low : K}
    (own : low ≤ value place)
    (bound : ∀ other ∈ places, diffusion.rate place other ≠ 0 → low ≤ value other) :
    low ≤ diffusion.step places length value place := by
  have gained : 0 ≤ ∑ other ∈ places, diffusion.rate place other * (value other - low) := by
    refine Finset.sum_nonneg fun other member => ?_
    by_cases apart : diffusion.rate place other = 0
    · rw [apart, zero_mul]
    · exact mul_nonneg (nonneg other member) (sub_nonneg.mpr (bound other member apart))
  have split : ∑ other ∈ places, diffusion.rate place other * (value other - value place) =
      ∑ other ∈ places, diffusion.rate place other * (value other - low) -
        (∑ other ∈ places, diffusion.rate place other) * (value place - low) := by
    rw [Finset.sum_mul, ← Finset.sum_sub_distrib]
    exact Finset.sum_congr rfl fun other _ => by ring
  have kept := mul_nonneg (sub_nonneg.mpr stable) (sub_nonneg.mpr own)
  have taken := mul_nonneg gained forward
  rw [step, split]
  linear_combination kept + taken

/-- A step that moves no more than a place has stays below the values it reads. -/
theorem step_le (nonneg : ∀ other ∈ places, 0 ≤ diffusion.rate place other) (forward : 0 ≤ length)
    (stable : (∑ other ∈ places, diffusion.rate place other) * length ≤ 1) {high : K}
    (own : value place ≤ high)
    (bound : ∀ other ∈ places, diffusion.rate place other ≠ 0 → value other ≤ high) :
    diffusion.step places length value place ≤ high := by
  have mirrored := @le_step α K _ diffusion places _ _ length (fun other => -value other) place
    nonneg forward stable (-high) (neg_le_neg own)
    (fun other member apart => neg_le_neg (bound other member apart))
  have flipped : diffusion.step places length (fun other => -value other) place =
      -diffusion.step places length value place := by
    have terms : ∑ other ∈ places, diffusion.rate place other * (-value other - -value place) =
        -∑ other ∈ places, diffusion.rate place other * (value other - value place) := by
      rw [← Finset.sum_neg_distrib]
      exact Finset.sum_congr rfl fun other _ => by ring
    rw [step, step, terms]
    ring
  rw [flipped] at mirrored
  exact neg_le_neg_iff.mp mirrored

/-- Where rates prefer the higher end of a scale, asymmetric rates leave some place with a lack. -/
theorem exists_unbalanced {β : Type*} [LinearOrder β] (grade : α → β)
    (prefers : ∀ first second, grade second < grade first →
      diffusion.rate second first ≤ diffusion.rate first second)
    (level : ∀ first second, grade first = grade second →
      diffusion.rate first second = diffusion.rate second first)
    {first second : α} (inside : first ∈ places) (inside' : second ∈ places)
    (asymmetric : diffusion.rate first second ≠ diffusion.rate second first) :
    ∃ place ∈ places, diffusion.imbalance places place < 0 := by
  classical
  set lopsided := places.filter fun place =>
    ∃ other ∈ places, diffusion.rate place other ≠ diffusion.rate other place
  have some_lopsided : lopsided.Nonempty :=
    ⟨first, Finset.mem_filter.mpr ⟨inside, second, inside', asymmetric⟩⟩
  obtain ⟨top, member, highest⟩ := lopsided.exists_max_image grade some_lopsided
  obtain ⟨inside_top, partner, inside_partner, uneven⟩ := Finset.mem_filter.mp member
  -- Every asymmetric partner of the highest place is lower, so that all differences point one way.
  have below : ∀ other ∈ places, diffusion.rate top other ≠ diffusion.rate other top →
      grade other < grade top := by
    intro other inside_other uneven_other
    have listed : other ∈ lopsided :=
      Finset.mem_filter.mpr ⟨inside_other, top, inside_top, uneven_other.symm⟩
    exact (highest other listed).lt_of_ne fun same => uneven_other (level _ _ same.symm)
  refine ⟨top, inside_top, ?_⟩
  apply Finset.sum_neg'
  · intro other inside_other
    by_cases even : diffusion.rate top other = diffusion.rate other top
    · rw [even, sub_self]
    · exact sub_nonpos.mpr (prefers top other (below other inside_other even))
  · refine ⟨partner, inside_partner, sub_neg.mpr ?_⟩
    exact (prefers top partner (below partner inside_partner uneven)).lt_of_ne uneven.symm

end Diffusion

end DirtSim.Foundation
