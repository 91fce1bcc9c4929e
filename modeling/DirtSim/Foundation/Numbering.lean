import Mathlib.Data.Finset.Card
import Mathlib.Logic.Function.Basic
import Mathlib.Tactic.Common

/-! # Numbering as things come

Things are numbered in the order in which they are first seen; that the numbers are those from the
first up to the next one stays so (`Numbering.extend`).
-/

namespace DirtSim.Foundation

variable {α : Type*}

/-- The numbers given are those from the first up to the next, and no two things share one. -/
structure Numbering (numberOf : α → Option ℕ) (first next : ℕ) : Prop where
  range : ∀ number, (∃ thing, numberOf thing = some number) ↔ first ≤ number ∧ number < next
  injective : ∀ thing other number, numberOf thing = some number → numberOf other = some number →
    thing = other

namespace Numbering

variable {numberOf : α → Option ℕ} {first next : ℕ}

theorem empty (first : ℕ) : Numbering (fun _ : α => none) first first where
  range number := by
    constructor
    · intro ⟨_, given⟩
      exact absurd given nofun
    · intro between
      omega
  injective _ _ _ given := absurd given nofun

variable [DecidableEq α]

theorem extend (numbering : Numbering numberOf first next) (started : first ≤ next) {thing : α}
    (fresh : numberOf thing = none) :
    Numbering (Function.update numberOf thing (some next)) first (next + 1) where
  range number := by
    constructor
    · intro ⟨other, given⟩
      rw [Function.update_apply] at given
      split at given
      · have last := Option.some.inj given
        omega
      · have earlier := (numbering.range number).mp ⟨other, given⟩
        omega
    · intro between
      by_cases last : number = next
      · exact ⟨thing, by rw [Function.update_self, last]⟩
      · obtain ⟨other, given⟩ := (numbering.range number).mpr (by omega)
        refine ⟨other, ?_⟩
        rw [Function.update_of_ne, given]
        rintro rfl
        rw [fresh] at given
        exact absurd given nofun
  injective := by
    intro one other number given given'
    have old {others : α} (listed : numberOf others = some next) : False := by
      have between := (numbering.range next).mp ⟨others, listed⟩
      omega
    rw [Function.update_apply] at given given'
    split at given
    · split at given'
      · exact ‹one = thing›.trans ‹other = thing›.symm
      · exact (old (given'.trans given.symm)).elim
    · split at given'
      · exact (old (given.trans given'.symm)).elim
      · exact numbering.injective one other number given given'

def unnumbered (numberOf : α → Option ℕ) (things : List α) : Finset α :=
  things.toFinset.filter fun thing => numberOf thing = none

theorem unnumbered_cons_of_some {thing : α} {number : ℕ} (given : numberOf thing = some number)
    (things : List α) : unnumbered numberOf (thing :: things) = unnumbered numberOf things := by
  rw [unnumbered, List.toFinset_cons, Finset.filter_insert, if_neg (by rw [given]; exact nofun)]
  rfl

/-- Of the things at hand, the one that takes a number is no longer without. -/
theorem card_unnumbered_update {thing : α} (fresh : numberOf thing = none) (things : List α)
    (number : ℕ) :
    (unnumbered numberOf (thing :: things)).card =
      (unnumbered (Function.update numberOf thing (some number)) things).card + 1 := by
  have rest : unnumbered (Function.update numberOf thing (some number)) things =
      (unnumbered numberOf (thing :: things)).erase thing := by
    ext other
    simp only [unnumbered, Finset.mem_filter, Finset.mem_erase, List.mem_toFinset, List.mem_cons,
      Function.update_apply]
    by_cases same : other = thing
    · simp [same]
    · simp [same]
  have member : thing ∈ unnumbered numberOf (thing :: things) :=
    Finset.mem_filter.mpr ⟨List.mem_toFinset.mpr List.mem_cons_self, fresh⟩
  rw [rest, Finset.card_erase_add_one member]

end Numbering

end DirtSim.Foundation
