import Mathlib.Data.Finset.Card
import Mathlib.Data.Finset.Range
import Mathlib.Tactic.Common

/-! # Drawing distinct numbers

Numbers below a bound are drawn one for each of the last places. A number that was drawn before is
replaced by the place itself, which no earlier draw could have reached, so that the numbers stay
distinct whatever the draws are (`Spread.step`).
-/

namespace DirtSim.Foundation.UniqueDraws

/-- The drawn number joins the selected ones; if it is there already, the place does. -/
def select (selected : Finset ℕ) (place drawn : ℕ) : Finset ℕ :=
  if drawn ∈ selected then insert place selected else insert drawn selected

structure Spread (place count : ℕ) (selected : Finset ℕ) : Prop where
  below : selected ⊆ Finset.range place
  card : selected.card = count

theorem spread_empty (place : ℕ) : Spread place 0 ∅ := ⟨Finset.empty_subset _, rfl⟩

theorem Spread.step {place count drawn : ℕ} {selected : Finset ℕ}
    (spread : Spread place count selected) (reached : drawn ≤ place) :
    Spread (place + 1) (count + 1) (select selected place drawn) := by
  have earlier : selected ⊆ Finset.range (place + 1) :=
    spread.below.trans (Finset.range_mono (Nat.le_succ place))
  unfold select
  by_cases again : drawn ∈ selected
  · rw [if_pos again]
    refine ⟨Finset.insert_subset (Finset.self_mem_range_succ place) earlier, ?_⟩
    rw [Finset.card_insert_of_notMem, spread.card]
    intro inside
    exact Finset.notMem_range_self (spread.below inside)
  · rw [if_neg again]
    refine ⟨Finset.insert_subset (Finset.mem_range.mpr (Nat.lt_succ_of_le reached)) earlier, ?_⟩
    rw [Finset.card_insert_of_notMem again, spread.card]

end DirtSim.Foundation.UniqueDraws
