import Mathlib.Data.List.Basic
import Mathlib.Data.List.Induction
import Mathlib.Tactic.Common

/-! # The highest entry of a list

A list is worked through from the front and its highest entry so far is kept. `Leads` says that
an entry is one that no other is above; under a strict order in which any two different entries
are comparable there is one at most, so that the order of the list does not matter
(`Leads.unique`).
-/

namespace DirtSim.Foundation

variable {α : Type*} {above : α → α → Prop} {entries : List α} {leader entry : α}

def Leads (above : α → α → Prop) (entries : List α) (leader : α) : Prop :=
  leader ∈ entries ∧ ∀ other ∈ entries, ¬ above other leader

theorem leads_singleton (irrefl : ∀ entry, ¬ above entry entry) (entry : α) :
    Leads above [entry] entry := by
  refine ⟨List.mem_singleton_self entry, ?_⟩
  intro other member
  rw [List.mem_singleton.mp member]
  exact irrefl entry

/-- A later entry that is not above the leader leaves it. -/
theorem Leads.snoc_of_not_above (leads : Leads above entries leader)
    (short : ¬ above entry leader) : Leads above (entries ++ [entry]) leader := by
  refine ⟨List.mem_append_left _ leads.1, ?_⟩
  intro other member
  rcases List.mem_append.mp member with earlier | last
  · exact leads.2 other earlier
  · rw [List.mem_singleton.mp last]
    exact short

theorem Leads.snoc_of_above (irrefl : ∀ entry, ¬ above entry entry)
    (trans : ∀ first second third, above first second → above second third → above first third)
    (leads : Leads above entries leader) (higher : above entry leader) :
    Leads above (entries ++ [entry]) entry := by
  refine ⟨List.mem_append_right _ (List.mem_singleton_self entry), ?_⟩
  intro other member
  rcases List.mem_append.mp member with earlier | last
  · intro overtakes
    exact leads.2 other earlier (trans _ _ _ overtakes higher)
  · rw [List.mem_singleton.mp last]
    exact irrefl entry

theorem exists_leads (irrefl : ∀ entry, ¬ above entry entry)
    (trans : ∀ first second third, above first second → above second third → above first third)
    (nonempty : entries ≠ []) : ∃ leader, Leads above entries leader := by
  induction entries using List.reverseRecOn with
  | nil => exact absurd rfl nonempty
  | append_singleton earlier entry ih =>
      by_cases first : earlier = []
      · subst first
        exact ⟨entry, leads_singleton irrefl entry⟩
      · obtain ⟨leader, leads⟩ := ih first
        by_cases higher : above entry leader
        · exact ⟨entry, leads.snoc_of_above irrefl trans higher⟩
        · exact ⟨leader, leads.snoc_of_not_above higher⟩

theorem Leads.perm {reordered : List α} (leads : Leads above entries leader)
    (perm : entries.Perm reordered) : Leads above reordered leader := by
  refine ⟨perm.mem_iff.mp leads.1, ?_⟩
  intro other member
  exact leads.2 other (perm.mem_iff.mpr member)

/-- **One leader.** Where any two different entries are comparable, two leaders are the same. -/
theorem Leads.unique {other : α} (leads : Leads above entries leader)
    (leadsToo : Leads above entries other)
    (connected : ∀ first ∈ entries, ∀ second ∈ entries,
      above first second ∨ first = second ∨ above second first) : leader = other := by
  rcases connected leader leads.1 other leadsToo.1 with higher | same | lower
  · exact absurd higher (leadsToo.2 leader leads.1)
  · exact same
  · exact absurd lower (leads.2 other leadsToo.1)

end DirtSim.Foundation
