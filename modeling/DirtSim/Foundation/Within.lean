import Mathlib.Logic.Relation
import Mathlib.Order.Defs.PartialOrder

/-! # Bounds on what can be reached

A score is bounded below a state when nothing that can be reached from the state scores higher.
The bound of a state follows from its own score and the bounds of its successors
(`Within.of_successors`), and it carries over to every state that a bounded one simulates
(`Within.of_simulation`).
-/

namespace DirtSim.Foundation

variable {α β : Type*} [Preorder β] {next : α → α → Prop} {score : α → β} {bound : β} {start : α}

/-- Nothing reached from a state scores higher than the bound. -/
def Within (next : α → α → Prop) (score : α → β) (bound : β) (start : α) : Prop :=
  ∀ found, Relation.ReflTransGen next start found → score found ≤ bound

theorem Within.mono {higher : β} (within : Within next score bound start)
    (below : bound ≤ higher) : Within next score higher start :=
  fun found reached => le_trans (within found reached) below

theorem Within.of_successors (own : score start ≤ bound)
    (rest : ∀ successor, next start successor → Within next score bound successor) :
    Within next score bound start := by
  intro found reached
  rcases Relation.ReflTransGen.cases_head reached with rfl | ⟨successor, first, further⟩
  · exact own
  · exact rest successor first found further

/-- A state that simulates another one reaches what scores no less. -/
theorem Within.of_simulation {known other : α} (within : Within next score bound known)
    (relation : α → α → Prop)
    (simulates : ∀ {known other successor}, relation known other → next other successor →
      ∃ match_, next known match_ ∧ relation match_ successor)
    (scores : ∀ {known other}, relation known other → score other ≤ score known)
    (related : relation known other) : Within next score bound other := by
  intro found reached
  have matched : ∃ match_, Relation.ReflTransGen next known match_ ∧ relation match_ found := by
    induction reached with
    | refl => exact ⟨known, .refl, related⟩
    | tail _ last ih =>
        obtain ⟨match_, before, stillRelated⟩ := ih
        obtain ⟨following, moved, relatedNext⟩ := simulates stillRelated last
        exact ⟨following, before.tail moved, relatedNext⟩
  obtain ⟨match_, before, relatedFound⟩ := matched
  exact le_trans (scores relatedFound) (within match_ before)

end DirtSim.Foundation
