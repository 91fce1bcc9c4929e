import Mathlib.Algebra.Order.Ring.Nat
import Mathlib.Data.List.Basic
import Mathlib.Tactic.Common

/-! # Packing into words

A loop that ors shifted values into a word stores each of them in its own bits, provided no two
land on the same bits. Reading a bit of the result asks whether any of the stored values has
it (`Bits.getLsbD_foldl_or`); a field read back is the field that was stored
(`Bits.field_foldl_or`).
-/

namespace DirtSim.Foundation.Bits

variable {α : Type*} {w : ℕ}

/-- The bits of a word built by oring pieces into it. -/
theorem getLsbD_foldl_or (piece : α → BitVec w) (items : List α) (start : BitVec w) (i : ℕ) :
    (items.foldl (fun word item => word ||| piece item) start).getLsbD i =
      (start.getLsbD i || items.any fun item => (piece item).getLsbD i) := by
  induction items generalizing start with
  | nil => simp
  | cons item items ih =>
      simp [ih, Bool.or_assoc]

theorem getLsbD_one_shiftLeft {position : ℕ} (inside : position < w) (i : ℕ) :
    (1#w <<< position).getLsbD i = decide (i = position) := by
  rw [BitVec.getLsbD_shiftLeft, BitVec.getLsbD_one]
  by_cases same : i = position
  · subst same
    simp [inside, Nat.zero_lt_of_lt inside]
  · by_cases below : i < position
    · simp [below, same]
    · have positive : i - position ≠ 0 := by omega
      simp [positive, same]

theorem getLsbD_lowMask (size i : ℕ) :
    (BitVec.ofNat w (2 ^ size - 1)).getLsbD i = (decide (i < w) && decide (i < size)) := by
  rw [BitVec.getLsbD_ofNat, Nat.testBit_two_pow_sub_one]

/-- A field read back from a word: `size` bits from `size * position` on. -/
def field (size position : ℕ) (word : BitVec w) : ℕ :=
  ((word >>> (size * position)) &&& BitVec.ofNat w (2 ^ size - 1)).toNat

/-- Fields ored into a word at different positions are read back as they were stored. -/
theorem field_foldl_or {size : ℕ} {value : α → ℕ} {position : α → ℕ} {items : List α}
    (fits : ∀ item ∈ items, value item < 2 ^ size)
    (room : ∀ item ∈ items, size * position item + size ≤ w)
    {item : α} (member : item ∈ items)
    (apart : ∀ other ∈ items, position other = position item → value other = value item) :
    field size (position item)
      (items.foldl (fun word item =>
        word ||| BitVec.ofNat w (value item) <<< (size * position item)) 0#w) = value item := by
  unfold field
  apply Nat.eq_of_testBit_eq
  intro j
  rw [BitVec.testBit_toNat, BitVec.getLsbD_and, BitVec.getLsbD_ushiftRight, getLsbD_foldl_or,
    getLsbD_lowMask, BitVec.getLsbD_zero, Bool.false_or]
  have space := room item member
  by_cases low : j < size
  · have inside : j < w := by omega
    simp only [low, inside, decide_true, Bool.and_self, Bool.and_true]
    rw [Bool.eq_iff_iff, List.any_eq_true]
    constructor
    · rintro ⟨other, member', stored⟩
      simp only [BitVec.getLsbD_shiftLeft, BitVec.getLsbD_ofNat, Bool.and_eq_true,
        Bool.not_eq_true', decide_eq_false_iff_not, not_lt, decide_eq_true_eq] at stored
      obtain ⟨⟨_, above⟩, _, held⟩ := stored
      have below : size * position item + j - size * position other < size := by
        by_contra beyond
        rw [Nat.testBit_lt_two_pow
          ((fits other member').trans_le (Nat.pow_le_pow_right two_pos (not_lt.mp beyond)))] at held
        exact absurd held Bool.false_ne_true
      have same : position other = position item := by
        have here : (size * position item + j) / size = position item := by
          rw [Nat.mul_add_div (Nat.zero_lt_of_lt low), Nat.div_eq_of_lt low, Nat.add_zero]
        have there : (size * position item + j) / size = position other := by
          refine Nat.div_eq_of_lt_le ?_ ?_
          · rw [Nat.mul_comm]
            exact above
          · rw [Nat.add_mul, Nat.mul_comm (position other), Nat.one_mul]
            exact (Nat.sub_lt_iff_lt_add' above).mp below
        exact there.symm.trans here
      rw [same, Nat.add_sub_cancel_left] at held
      rw [← apart other member' same]
      exact held
    · intro held
      refine ⟨item, member, ?_⟩
      simp only [BitVec.getLsbD_shiftLeft, BitVec.getLsbD_ofNat, Nat.add_sub_cancel_left, held,
        inside, Bool.and_true, decide_true, Bool.and_eq_true, decide_eq_true_eq,
        Bool.not_eq_true', decide_eq_false_iff_not, not_lt, Nat.le_add_right, and_true]
      omega
  · have high : (value item).testBit j = false :=
      Nat.testBit_lt_two_pow ((fits item member).trans_le
        (Nat.pow_le_pow_right two_pos (not_lt.mp low)))
    simp [low, high]

end DirtSim.Foundation.Bits
