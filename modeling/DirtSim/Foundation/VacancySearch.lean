import Mathlib.Data.List.Basic
import Mathlib.Order.Lattice
import Mathlib.Tactic.Common

/-! # Searching for a vacancy

A search settles on the first spot whose load is within a limit; afterwards only a vacant spot that
appeals more takes over (`Spots.vacant_search_iff`). A spot whose load is below that of the start is
never passed over for the start (`Spots.search_mem`).
-/

namespace DirtSim.Foundation

structure Spots (α K : Type*) where
  vacant : α → Bool
  load : α → K
  appeal : α → K
  limit : K

namespace Spots

variable {α K : Type*} [LinearOrder K] [Zero K]

/-- The spot that a search keeps, with the values it had when it was found. -/
structure Kept (α K : Type*) where
  spot : α
  appeal : K
  load : K

def consider (spots : Spots α K) (kept : Kept α K) (spot : α) : Kept α K :=
  if spots.vacant spot then
    if spots.appeal spot > kept.appeal ∨ kept.load > spots.limit then
      { spot := spot, appeal := spots.appeal spot, load := 0 }
    else kept
  else if kept.load > spots.limit ∧ spots.load spot < kept.load then
    { spot := spot, appeal := spots.appeal spot, load := spots.load spot }
  else kept

def search (spots : Spots α K) (kept : Kept α K) (listed : List α) : Kept α K :=
  listed.foldl spots.consider kept

/-- The first spot within the limit is vacant, or a later vacant one appeals more. -/
def FindsVacancy (spots : Spots α K) : List α → Prop
  | [] => False
  | spot :: later =>
      if spots.vacant spot then True
      else if spots.load spot ≤ spots.limit then
        ∃ other ∈ later, spots.vacant other ∧ spots.appeal spot < spots.appeal other
      else FindsVacancy spots later

instance decidableFindsVacancy (spots : Spots α K) :
    (listed : List α) → Decidable (spots.FindsVacancy listed)
  | [] => inferInstanceAs (Decidable False)
  | spot :: later =>
      have := decidableFindsVacancy spots later
      inferInstanceAs (Decidable (if spots.vacant spot then True
        else if spots.load spot ≤ spots.limit then
          ∃ other ∈ later, spots.vacant other ∧ spots.appeal spot < spots.appeal other
        else spots.FindsVacancy later))

variable {spots : Spots α K} {kept : Kept α K} {listed : List α}

section

/-- After a search has settled, only vacant spots of more appeal count. -/
theorem consider_of_settled (settled : kept.load ≤ spots.limit) (spot : α) :
    spots.consider kept spot =
      if spots.vacant spot ∧ kept.appeal < spots.appeal spot then
        { spot := spot, appeal := spots.appeal spot, load := 0 }
      else kept := by
  have within : ¬ spots.limit < kept.load := settled.not_gt
  unfold consider
  cases vacant : spots.vacant spot with
  | true => simp [within]
  | false => simp [within]

theorem consider_settled (limit_nonneg : 0 ≤ spots.limit) (settled : kept.load ≤ spots.limit)
    (spot : α) : (spots.consider kept spot).load ≤ spots.limit := by
  rw [consider_of_settled settled]
  split
  · exact limit_nonneg
  · exact settled

theorem search_settled (limit_nonneg : 0 ≤ spots.limit) (settled : kept.load ≤ spots.limit) :
    (spots.search kept listed).load ≤ spots.limit := by
  induction listed generalizing kept with
  | nil => exact settled
  | cons spot later ih => exact ih (consider_settled limit_nonneg settled spot)

theorem vacant_search_of_settled (limit_nonneg : 0 ≤ spots.limit)
    (settled : kept.load ≤ spots.limit) :
    spots.vacant (spots.search kept listed).spot ↔
      spots.vacant kept.spot ∨
        ∃ other ∈ listed, spots.vacant other ∧ kept.appeal < spots.appeal other := by
  induction listed generalizing kept with
  | nil => simp [search]
  | cons spot later ih =>
      have step := ih (consider_settled limit_nonneg settled spot)
      rw [show spots.search kept (spot :: later) =
        spots.search (spots.consider kept spot) later from rfl, step,
        consider_of_settled settled, List.exists_mem_cons_iff]
      split
      · rename_i better
        simp [better.1, better.2]
      · rename_i worse
        simp [worse]

end

section

/-- Until a search has settled, a vacant spot takes over, and one of less load. -/
theorem consider_of_unsettled (unsettled : spots.limit < kept.load) (spot : α) :
    spots.consider kept spot =
      if spots.vacant spot then { spot := spot, appeal := spots.appeal spot, load := 0 }
      else if spots.load spot < kept.load then
        { spot := spot, appeal := spots.appeal spot, load := spots.load spot }
      else kept := by
  simp [consider, unsettled]

theorem vacant_search_iff (limit_nonneg : 0 ≤ spots.limit) (unsettled : spots.limit < kept.load)
    (taken : spots.vacant kept.spot = false) :
    spots.vacant (spots.search kept listed).spot ↔ spots.FindsVacancy listed := by
  induction listed generalizing kept with
  | nil => simp [search, taken, FindsVacancy]
  | cons spot later ih =>
      rw [show spots.search kept (spot :: later) =
        spots.search (spots.consider kept spot) later from rfl, FindsVacancy,
        consider_of_unsettled unsettled]
      cases vacant : spots.vacant spot with
      | true =>
          simp only [↓reduceIte, iff_true]
          exact (vacant_search_of_settled limit_nonneg limit_nonneg).mpr (Or.inl vacant)
      | false =>
          simp only [Bool.false_eq_true, ↓reduceIte]
          by_cases good : spots.load spot ≤ spots.limit
          · rw [if_pos (lt_of_le_of_lt good unsettled), if_pos good,
              vacant_search_of_settled limit_nonneg good]
            simp [vacant]
          · rw [if_neg good]
            split
            · exact ih (not_le.mp good) vacant
            · exact ih unsettled taken

theorem search_settles (limit_nonneg : 0 ≤ spots.limit) {spot : α} (member : spot ∈ listed)
    (vacant : spots.vacant spot) : (spots.search kept listed).load ≤ spots.limit := by
  induction listed generalizing kept with
  | nil => exact absurd member List.not_mem_nil
  | cons first later ih =>
      rcases List.mem_cons.mp member with same | inside
      · have first_settles : (spots.consider kept first).load ≤ spots.limit := by
          rcases le_or_gt kept.load spots.limit with settled | unsettled
          · exact consider_settled limit_nonneg settled first
          · rw [consider_of_unsettled unsettled, if_pos (same ▸ vacant)]
            exact limit_nonneg
        change (spots.search (spots.consider kept first) later).load ≤ spots.limit
        exact search_settled limit_nonneg first_settles
      · exact ih inside

end

section

theorem consider_spot (kept : Kept α K) (spot : α) :
    (spots.consider kept spot).spot = spot ∨ spots.consider kept spot = kept := by
  unfold consider
  split_ifs
  · exact Or.inl rfl
  · exact Or.inr rfl
  · exact Or.inl rfl
  · exact Or.inr rfl

/-- A search ends where it began or at one of its spots. -/
theorem search_mem_cons : (spots.search kept listed).spot ∈ kept.spot :: listed := by
  induction listed generalizing kept with
  | nil => exact List.mem_singleton_self _
  | cons spot later ih =>
      have found : (spots.search kept (spot :: later)).spot ∈
          (spots.consider kept spot).spot :: later := ih
      rcases List.mem_cons.mp found with first | inside
      · rw [first]
        rcases consider_spot kept spot with same | same
        · rw [same]
          exact List.mem_cons_of_mem _ List.mem_cons_self
        · rw [same]
          exact List.mem_cons_self
      · exact List.mem_cons_of_mem _ (List.mem_cons_of_mem _ inside)

/-- Where every spot has less load than the start, the search leaves the start. -/
theorem search_mem (unsettled : spots.limit < kept.load) (some_spot : listed ≠ [])
    (lighter : ∀ spot ∈ listed, spots.load spot < kept.load) :
    (spots.search kept listed).spot ∈ listed := by
  cases listed with
  | nil => exact absurd rfl some_spot
  | cons spot later =>
      have first : (spots.consider kept spot).spot = spot := by
        rw [consider_of_unsettled unsettled]
        split
        · rfl
        · rw [if_pos (lighter spot List.mem_cons_self)]
      have found : (spots.search kept (spot :: later)).spot ∈
          (spots.consider kept spot).spot :: later := search_mem_cons
      rwa [first] at found

end

end Spots

end DirtSim.Foundation
