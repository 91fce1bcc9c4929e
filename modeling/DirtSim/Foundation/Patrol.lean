import DirtSim.Foundation.Transition
import Mathlib.Algebra.Order.Group.Nat
import Mathlib.Data.Finset.Card
import Mathlib.Tactic.Ring

/-! # Patrols

A free round may go to any place; a due round, after a number of free ones at the latest, goes to a
place not visited before. Every place is visited within a bounded number of rounds
(`Patrol.covers`).
-/

namespace DirtSim.Foundation

/-- The places visited so far, and the free rounds since the last due one. -/
structure Patrol (α : Type*) where
  visited : Finset α
  free : ℕ

namespace Patrol

variable {α : Type*} [DecidableEq α]

inductive Round (places : Finset α) (freeRounds : ℕ) (patrol : Patrol α) (place : α) :
    Patrol α → Prop
  | due (fresh : ¬places ⊆ patrol.visited → place ∉ patrol.visited) :
      Round places freeRounds patrol place ⟨insert place patrol.visited, 0⟩
  | free (early : patrol.free < freeRounds) :
      Round places freeRounds patrol place ⟨insert place patrol.visited, patrol.free + 1⟩

/-- The label of a round is the place that it goes to. -/
def machine (places : Finset α) (freeRounds : ℕ) : Machine α (Patrol α) where
  initial patrol := patrol.visited = ∅ ∧ patrol.free ≤ freeRounds
  step patrol place after := place ∈ places ∧ Round places freeRounds patrol place after

variable {places : Finset α} {freeRounds : ℕ}
variable {patrol after : Patrol α} {visits : List α}

/-- While a place is left, there were at most as many rounds as the visited places account for. -/
structure Paced (places : Finset α) (freeRounds rounds : ℕ) (patrol : Patrol α) : Prop where
  within : patrol.visited ⊆ places
  free : patrol.free ≤ freeRounds
  pace : ¬places ⊆ patrol.visited →
    rounds ≤ patrol.visited.card * (freeRounds + 1) + patrol.free

theorem Paced.round {rounds : ℕ} {place : α} (paced : Paced places freeRounds rounds patrol)
    (listed : place ∈ places) (round : Round places freeRounds patrol place after) :
    Paced places freeRounds (rounds + 1) after := by
  have within := Finset.insert_subset listed paced.within
  have left (missing : ¬places ⊆ insert place patrol.visited) : ¬places ⊆ patrol.visited :=
    fun covered => missing (covered.trans (Finset.subset_insert _ _))
  cases round with
  | due fresh =>
      refine ⟨within, Nat.zero_le _, fun missing => ?_⟩
      have before := paced.pace (left missing)
      rw [Finset.card_insert_of_notMem (fresh (left missing))]
      calc rounds + 1 ≤ patrol.visited.card * (freeRounds + 1) + (freeRounds + 1) := by
            have := paced.free
            omega
        _ = (patrol.visited.card + 1) * (freeRounds + 1) + 0 := by ring
  | free early =>
      refine ⟨within, early, fun missing => ?_⟩
      have before := paced.pace (left missing)
      have more : patrol.visited.card * (freeRounds + 1) ≤
          (insert place patrol.visited).card * (freeRounds + 1) :=
        Nat.mul_le_mul_right _ (Finset.card_le_card (Finset.subset_insert _ _))
      calc rounds + 1 ≤ patrol.visited.card * (freeRounds + 1) + (patrol.free + 1) := by omega
        _ ≤ _ := Nat.add_le_add_right more _

theorem Paced.run {rounds : ℕ} (paced : Paced places freeRounds rounds patrol)
    (run : (machine places freeRounds).Run patrol visits after) :
    Paced places freeRounds (rounds + visits.length) after := by
  induction run generalizing rounds with
  | nil patrol => exact paced
  | cons moved rest ih =>
      have later := ih (paced.round moved.1 moved.2)
      rw [List.length_cons]
      rwa [Nat.add_right_comm, Nat.add_assoc] at later

theorem mem_of_run (run : (machine places freeRounds).Run patrol visits after) :
    ∀ place ∈ visits, place ∈ places := by
  induction run with
  | nil patrol => exact fun place none => nomatch none
  | cons moved rest ih =>
      intro place visited
      rcases List.mem_cons.mp visited with rfl | later
      · exact moved.1
      · exact ih place later

theorem visited_run (run : (machine places freeRounds).Run patrol visits after) :
    after.visited ⊆ patrol.visited ∪ visits.toFinset := by
  induction run with
  | nil patrol => exact Finset.subset_union_left
  | cons moved rest ih =>
      refine ih.trans ?_
      obtain ⟨-, round⟩ := moved
      rw [List.toFinset_cons]
      cases round <;> intro place visited <;>
        simp only [Finset.mem_union, Finset.mem_insert] at visited ⊢ <;> tauto

/-- **Coverage.** A patrol that starts anew visits every place within a number of rounds for each
of them. -/
theorem covers (initial : (machine places freeRounds).initial patrol)
    (run : (machine places freeRounds).Run patrol visits after)
    (enough : places.card * (freeRounds + 1) ≤ visits.length) : places ⊆ visits.toFinset := by
  obtain ⟨none, free⟩ := initial
  have paced : Paced places freeRounds 0 patrol :=
    ⟨none ▸ Finset.empty_subset _, free, fun _ => Nat.zero_le _⟩
  have later := paced.run run
  have covered : places ⊆ after.visited := by
    by_contra missing
    have fewer : after.visited.card < places.card :=
      Finset.card_lt_card ⟨later.within, missing⟩
    have few : (after.visited.card + 1) * (freeRounds + 1) ≤ places.card * (freeRounds + 1) :=
      Nat.mul_le_mul_right _ fewer
    have pace := later.pace missing
    have last := later.free
    rw [Nat.add_mul, Nat.one_mul] at few
    omega
  refine covered.trans ((visited_run run).trans ?_)
  rw [none, Finset.empty_union]

end Patrol

end DirtSim.Foundation
