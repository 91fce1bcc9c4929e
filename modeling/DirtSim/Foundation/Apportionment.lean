import Mathlib.Algebra.BigOperators.Group.List.Lemmas
import Mathlib.Algebra.Group.Nat.Defs
import Mathlib.Algebra.Order.BigOperators.Group.List
import Mathlib.Data.List.Nodup
import Mathlib.Tactic.Common
import Mathlib.Tactic.Ring

/-! # Apportionment

A pool of units is shared out in proportion to sizes; the fewer than all (`leftover_lt_length`) that
rounding leaves go to places one by one (`bump`). Nothing is lost to a cap exactly when no amount is
above it (`sum_zipWith_min_eq_iff`).
-/

namespace DirtSim.Foundation.Apportionment

def shares (pool : ℕ) (sizes : List ℕ) : List ℕ := sizes.map fun size => pool * size / sizes.sum

def leftover (pool : ℕ) (sizes : List ℕ) : ℕ := pool - (shares pool sizes).sum

def bump (amounts places : List ℕ) : List ℕ :=
  places.foldl (fun amounts place => amounts.modify place (· + 1)) amounts

section

variable {pool : ℕ} {sizes : List ℕ}

@[simp] theorem length_shares : (shares pool sizes).length = sizes.length := List.length_map ..

/-- Division with remainder, summed over the sizes. -/
theorem mul_sum_div_add_sum_mod (pool total : ℕ) (sizes : List ℕ) :
    total * (sizes.map fun size => pool * size / total).sum +
        (sizes.map fun size => pool * size % total).sum = pool * sizes.sum := by
  induction sizes with
  | nil => rfl
  | cons size sizes ih =>
      have divided := Nat.div_add_mod (pool * size) total
      simp only [List.map_cons, List.sum_cons, Nat.mul_add]
      omega

theorem sum_shares_le (pool : ℕ) (sizes : List ℕ) : (shares pool sizes).sum ≤ pool := by
  have divided := mul_sum_div_add_sum_mod pool sizes.sum sizes
  rcases Nat.eq_zero_or_pos sizes.sum with empty | positive
  · have nothing : shares pool sizes = sizes.map fun _ => 0 := by
      simp [shares, empty]
    rw [nothing, List.map_const', List.sum_replicate, nsmul_zero]
    exact Nat.zero_le pool
  · refine Nat.le_of_mul_le_mul_left ?_ positive
    rw [Nat.mul_comm sizes.sum pool]
    exact Nat.le.intro divided

/-- Fewer units are left over than there are sizes. -/
theorem leftover_lt_length (positive : 0 < sizes.sum) : leftover pool sizes < sizes.length := by
  have divided := mul_sum_div_add_sum_mod pool sizes.sum sizes
  have nonempty : 0 < sizes.length := by
    refine List.length_pos_iff.mpr ?_
    rintro rfl
    exact lt_irrefl 0 positive
  have remainders : (sizes.map fun size => pool * size % sizes.sum).sum ≤
      sizes.length * (sizes.sum - 1) := by
    have bounded := List.sum_le_card_nsmul (sizes.map fun size => pool * size % sizes.sum)
      (sizes.sum - 1) (by
        intro remainder listed
        obtain ⟨size, _, rfl⟩ := List.mem_map.mp listed
        exact Nat.le_pred_of_lt (Nat.mod_lt _ positive))
    rwa [List.length_map, nsmul_eq_mul, Nat.cast_id] at bounded
  have scaled : sizes.sum * leftover pool sizes =
      (sizes.map fun size => pool * size % sizes.sum).sum := by
    rw [leftover, Nat.mul_sub, Nat.mul_comm sizes.sum pool, ← divided, shares]
    exact Nat.add_sub_cancel_left ..
  refine Nat.lt_of_mul_lt_mul_left (a := sizes.sum) ?_
  calc sizes.sum * leftover pool sizes
      ≤ sizes.length * (sizes.sum - 1) := scaled ▸ remainders
    _ < sizes.length * sizes.sum := by
        exact Nat.mul_lt_mul_of_pos_left (Nat.sub_lt positive one_pos) nonempty
    _ = sizes.sum * sizes.length := Nat.mul_comm ..

/-- A pool smaller than all sizes together leaves room in every one of them. -/
theorem share_lt {size : ℕ} (small : pool < sizes.sum) (positive : 0 < size) :
    pool * size / sizes.sum < size := by
  rw [Nat.div_lt_iff_lt_mul (Nat.zero_lt_of_lt small), Nat.mul_comm size]
  exact Nat.mul_lt_mul_of_pos_right small positive

end

section

variable {amounts places : List ℕ}

@[simp] theorem length_bump : (bump amounts places).length = amounts.length := by
  unfold bump
  induction places generalizing amounts with
  | nil => rfl
  | cons place places ih => rw [List.foldl_cons, ih, List.length_modify]

theorem getElem?_bump (distinct : places.Nodup) (i : ℕ) :
    (bump amounts places)[i]? =
      amounts[i]?.map fun amount => amount + if i ∈ places then 1 else 0 := by
  unfold bump
  induction places generalizing amounts with
  | nil => simp [Option.map_id']
  | cons place places ih =>
      obtain ⟨fresh, rest⟩ := List.nodup_cons.mp distinct
      rw [List.foldl_cons, ih rest, List.getElem?_modify]
      by_cases here : place = i
      · subst here
        cases amounts[place]? with
        | none => rfl
        | some amount =>
            simp [fresh]
      · have other : i ∈ place :: places ↔ i ∈ places :=
          ⟨fun listed => (List.mem_cons.mp listed).resolve_left (Ne.symm here),
            List.mem_cons_of_mem place⟩
        simp [here, other]

theorem sum_modify_succ {place : ℕ} (inside : place < amounts.length) :
    (amounts.modify place (· + 1)).sum = amounts.sum + 1 := by
  induction amounts generalizing place with
  | nil => cases inside
  | cons amount amounts ih =>
      cases place with
      | zero =>
          rw [List.modify_zero_cons, List.sum_cons, List.sum_cons]
          ring
      | succ place =>
          rw [List.modify_succ_cons, List.sum_cons, List.sum_cons,
            ih (Nat.lt_of_succ_lt_succ inside)]
          ring

theorem sum_bump (inside : ∀ place ∈ places, place < amounts.length) :
    (bump amounts places).sum = amounts.sum + places.length := by
  unfold bump
  induction places generalizing amounts with
  | nil => rfl
  | cons place places ih =>
      rw [List.foldl_cons, ih, sum_modify_succ (inside place List.mem_cons_self), List.length_cons]
      · ring
      · intro other listed
        rw [List.length_modify]
        exact inside other (List.mem_cons_of_mem place listed)

end

section

/-- **Caps.** Nothing is lost exactly when every amount is at most its cap. -/
theorem sum_zipWith_min_eq_iff {amounts caps : List ℕ} (aligned : amounts.length = caps.length) :
    (List.zipWith min amounts caps).sum = amounts.sum ↔ List.Forall₂ (· ≤ ·) amounts caps := by
  have below (amounts caps : List ℕ) : (List.zipWith min amounts caps).sum ≤ amounts.sum := by
    induction amounts generalizing caps with
    | nil => rfl
    | cons amount amounts ih =>
        cases caps with
        | nil => exact Nat.zero_le _
        | cons cap caps => exact Nat.add_le_add (min_le_left amount cap) (ih caps)
  induction amounts generalizing caps with
  | nil =>
      cases caps with
      | nil => exact ⟨fun _ => .nil, fun _ => rfl⟩
      | cons cap caps => cases aligned
  | cons amount amounts ih =>
      cases caps with
      | nil => cases aligned
      | cons cap caps =>
          have rest := ih (Nat.succ.inj aligned)
          have first := min_le_left amount cap
          have later := below amounts caps
          rw [List.zipWith_cons_cons, List.sum_cons, List.sum_cons, List.forall₂_cons]
          constructor
          · intro kept
            exact ⟨min_eq_left_iff.mp (by omega), rest.mp (by omega)⟩
          · rintro ⟨fits, others⟩
            rw [min_eq_left fits, rest.mpr others]

/-- In a descending list a value is among the first ones when few values are above it. -/
theorem mem_take_iff_countP_lt {values : List ℕ} (descending : values.Pairwise (· ≥ ·))
    {value : ℕ} (listed : value ∈ values) (size : ℕ) :
    value ∈ values.take size ↔ values.countP (fun other => value < other) < size := by
  induction values generalizing size with
  | nil => cases listed
  | cons first values ih =>
      obtain ⟨highest, rest⟩ := List.pairwise_cons.mp descending
      by_cases same : value = first
      · subst same
        have none_above : (value :: values).countP (fun other => value < other) = 0 := by
          rw [List.countP_eq_zero]
          intro other member above
          rcases List.mem_cons.mp member with rfl | later
          · exact lt_irrefl _ (of_decide_eq_true above)
          · exact absurd (of_decide_eq_true above) (highest other later).not_gt
        rw [none_above]
        cases size with
        | zero => exact ⟨nofun, nofun⟩
        | succ size => exact ⟨fun _ => Nat.succ_pos size, fun _ => List.mem_cons_self⟩
      · have later := (List.mem_cons.mp listed).resolve_left same
        have above : value < first := lt_of_le_of_ne (highest value later) same
        cases size with
        | zero => exact ⟨nofun, nofun⟩
        | succ size =>
            have counted : (first :: values).countP (fun other => value < other) =
                values.countP (fun other => value < other) + 1 :=
              List.countP_cons_of_pos (decide_eq_true above)
            rw [List.take_succ_cons, List.mem_cons, or_iff_right same, ih rest later size, counted,
              Nat.add_lt_add_iff_right]

end

end DirtSim.Foundation.Apportionment
