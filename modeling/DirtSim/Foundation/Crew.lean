import Mathlib.Algebra.BigOperators.Group.List.Basic
import Mathlib.Algebra.Order.Group.Nat
import Mathlib.Data.Multiset.OrderedMonoid

/-! # Crews of workers

Several workers run the same code over one shared state. What they hold together is a tally; two
rules carry every invariant about it (`owed_of_move`, `conserved_of_move`).
-/

namespace DirtSim.Foundation

variable {Phase : Type*}

def tally {M : Type*} [AddCommMonoid M] (held : Phase → M) (workers : List Phase) : M :=
  (workers.map held).sum

/-- After a move, a worker is the mover or one of the others. -/
theorem mem_splice {front back : List Phase} {next other : Phase} :
    other ∈ front ++ next :: back ↔ other = next ∨ other ∈ front ++ back := by
  rw [List.mem_append, List.mem_cons, List.mem_append]
  exact or_left_comm

section

variable {M : Type*} [AddCommMonoid M] {held : Phase → M} {workers front back : List Phase}
  {phase next : Phase}

@[simp] theorem tally_nil (held : Phase → M) : tally held [] = 0 := rfl

@[simp] theorem tally_cons (held : Phase → M) (phase : Phase) (workers : List Phase) :
    tally held (phase :: workers) = held phase + tally held workers := by
  rw [tally, List.map_cons, List.sum_cons]
  rfl

@[simp] theorem tally_append (held : Phase → M) (front back : List Phase) :
    tally held (front ++ back) = tally held front + tally held back := by
  rw [tally, List.map_append, List.sum_append]
  rfl

theorem tally_split (held : Phase → M) (front back : List Phase) (phase : Phase) :
    tally held (front ++ phase :: back) = held phase + tally held (front ++ back) := by
  rw [tally_append, tally_cons, tally_append]
  exact add_left_comm _ _ _

theorem tally_replicate_zero (held : Phase → M) (nothing : held phase = 0) (count : ℕ) :
    tally held (List.replicate count phase) = 0 := by
  rw [tally, List.map_replicate, nothing, List.sum_replicate, nsmul_zero]

/-- A move that keeps what the shared state and the mover hold together keeps what the shared
state and all workers hold together. -/
theorem conserved_of_move {before after : M}
    (kept : after + held next = before + held phase) :
    after + tally held (front ++ next :: back) = before + tally held (front ++ phase :: back) := by
  rw [tally_split, tally_split, ← add_assoc, ← add_assoc, kept]

/-- A move that balances keeps the shared state equal to the tally. -/
theorem owed_of_move [IsCancelAdd M] {before after : M}
    (balanced : after + held phase = before + held next)
    (owed : before = tally held (front ++ phase :: back)) :
    after = tally held (front ++ next :: back) := by
  have same : after + held phase = tally held (front ++ next :: back) + held phase := by
    rw [balanced, owed, tally_split, tally_split, add_comm (held phase),
      add_comm (held next), add_right_comm]
  exact add_right_cancel same

end

section

variable {M : Type*} [AddCommMonoid M] [PartialOrder M] [CanonicallyOrderedAdd M]
  {held : Phase → M} {workers front back : List Phase} {phase other : Phase}

theorem held_le_tally (member : phase ∈ workers) : held phase ≤ tally held workers := by
  obtain ⟨front, back, rfl⟩ := List.append_of_mem member
  rw [tally_split]
  exact le_self_add

theorem held_eq_zero (none : tally held workers = 0) (member : phase ∈ workers) :
    held phase = 0 :=
  nonpos_iff_eq_zero.mp (none ▸ held_le_tally member)

omit [PartialOrder M] [CanonicallyOrderedAdd M] in
theorem tally_eq_zero (none : ∀ phase ∈ workers, held phase = 0) : tally held workers = 0 := by
  induction workers with
  | nil => rfl
  | cons phase workers ih =>
      rw [tally_cons, none phase List.mem_cons_self,
        ih fun other member => none other (List.mem_cons_of_mem _ member), add_zero]

end

section

variable {held : Phase → ℕ} {workers front back : List Phase} {phase other : Phase}

/-- When at most one unit is held in all, nobody besides its holder holds anything. -/
theorem held_eq_zero_of_alone (atMostOne : tally held (front ++ phase :: back) ≤ 1)
    (holds : held phase = 1) (member : other ∈ front ++ back) : held other = 0 := by
  rw [tally_split, holds] at atMostOne
  have bound : held other ≤ tally held (front ++ back) := held_le_tally member
  omega

theorem tally_le_tally {first second : Phase → ℕ} (bound : ∀ phase, first phase ≤ second phase)
    (workers : List Phase) : tally first workers ≤ tally second workers := by
  induction workers with
  | nil => exact le_refl 0
  | cons phase workers ih =>
      rw [tally_cons, tally_cons]
      exact Nat.add_le_add (bound phase) ih

end

end DirtSim.Foundation
