import Mathlib.Data.List.Basic
import Mathlib.Algebra.Order.Group.Nat
import Mathlib.Tactic.Common

/-! # Little-endian numbers in byte strings

A number is stored from its lowest byte on. Reading is checked: a read outside the byte string has
no result. What is stored behind some bytes can be read back there
(`LittleEndian.value_bytes`, `LittleEndian.getElem?_behind`).
-/

namespace DirtSim.Foundation.LittleEndian

def bytes : ℕ → ℕ → List UInt8
  | 0, _ => []
  | size + 1, number => UInt8.ofNat number :: bytes size (number / 256)

def value : List UInt8 → ℕ
  | [] => 0
  | byte :: rest => byte.toNat + 256 * value rest

@[simp] theorem length_bytes (size number : ℕ) : (bytes size number).length = size := by
  induction size generalizing number with
  | zero => rfl
  | succ size ih => rw [bytes, List.length_cons, ih]

theorem value_bytes {size number : ℕ} (fits : number < 256 ^ size) :
    value (bytes size number) = number := by
  induction size generalizing number with
  | zero => exact (Nat.lt_one_iff.mp fits).symm
  | succ size ih =>
      have rest : number / 256 < 256 ^ size := by
        rw [Nat.pow_succ] at fits
        exact Nat.div_lt_of_lt_mul (Nat.mul_comm _ _ ▸ fits)
      rw [bytes, value, ih rest, UInt8.toNat_ofNat']
      exact Nat.mod_add_div number 256

/-- Behind some bytes, a string is read as if it began there. -/
theorem getElem?_behind (before rest : List UInt8) (index : ℕ) :
    (before ++ rest)[before.length + index]? = rest[index]? := by
  rw [List.getElem?_append_right (Nat.le_add_right _ _), Nat.add_sub_cancel_left]

theorem lor_shiftLeft (size : ℕ) {low high : ℕ} (small : low < 2 ^ size) :
    low ||| high <<< size = low + 2 ^ size * high := by
  calc low ||| high <<< size = high <<< size ||| low := Nat.or_comm _ _
    _ = high <<< size + low := (Nat.shiftLeft_add_eq_or_of_lt small high).symm
    _ = 2 ^ size * high + low := by rw [Nat.shiftLeft_eq, Nat.mul_comm high]
    _ = low + 2 ^ size * high := Nat.add_comm _ _

theorem lor_two (first second : UInt8) :
    first.toNat ||| second.toNat <<< 8 = value [first, second] := by
  have small := first.toNat_lt
  rw [lor_shiftLeft 8 small]
  simp only [value]
  omega

theorem lor_four (first second third fourth : UInt8) :
    first.toNat ||| second.toNat <<< 8 ||| third.toNat <<< 16 ||| fourth.toNat <<< 24 =
      value [first, second, third, fourth] := by
  have one := first.toNat_lt
  have two := second.toNat_lt
  have three := third.toNat_lt
  rw [lor_shiftLeft 8 one, lor_shiftLeft 16 (by omega), lor_shiftLeft 24 (by omega)]
  simp only [value]
  omega

end DirtSim.Foundation.LittleEndian
