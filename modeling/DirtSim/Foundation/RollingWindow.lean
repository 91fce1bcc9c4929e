import Mathlib.Data.List.DropRight
import Mathlib.Tactic.Common

/-! # Rolling windows

The last few entries of a history can be kept up entry by entry: cutting the earlier entries to the
window before others are appended makes no difference to the window afterwards
(`rtake_rtake_append`), whether they come one at a time (`rtake_snoc`) or in blocks that were cut
themselves (`rtake_flatMap_snoc`).
-/

namespace DirtSim.Foundation.RollingWindow

variable {α β : Type*} {size : ℕ}

theorem length_rtake (size : ℕ) (entries : List α) :
    (entries.rtake size).length = min size entries.length := by
  rw [List.rtake, List.length_drop]
  omega

theorem rtake_of_length_le {entries : List α} (short : entries.length ≤ size) :
    entries.rtake size = entries := by
  rw [List.rtake, Nat.sub_eq_zero_of_le short, List.drop_zero]

/-- **The window of a longer history** is found from the window so far. -/
theorem rtake_rtake_append (size : ℕ) (earlier later : List α) :
    (earlier.rtake size ++ later).rtake size = (earlier ++ later).rtake size := by
  rw [List.rtake_eq_reverse_take_reverse, List.rtake_eq_reverse_take_reverse (earlier ++ later),
    List.rtake_eq_reverse_take_reverse, List.reverse_append, List.reverse_append,
    List.reverse_reverse, List.take_append, List.take_append, List.take_take,
    min_eq_left (Nat.sub_le ..)]

/-- A full window gives up its first entry for a new one. -/
theorem rtake_snoc {entries : List α} (short : entries.length ≤ size) (entry : α) :
    (if (entries ++ [entry]).length > size then (entries ++ [entry]).drop 1
      else entries ++ [entry]) = (entries ++ [entry]).rtake size := by
  split
  · rename_i full
    rw [List.length_append, List.length_singleton] at full
    rw [List.rtake, List.length_append, List.length_singleton,
      show entries.length + 1 - size = 1 by omega]
  · rename_i room
    exact (rtake_of_length_le (Nat.le_of_not_lt room)).symm

theorem rtake_flatMap_snoc (size : ℕ) (blocks : List β) (block : β) (entries : β → List α) :
    ((blocks.flatMap entries).rtake size ++ entries block).rtake size =
      ((blocks ++ [block]).flatMap entries).rtake size := by
  rw [rtake_rtake_append, List.flatMap_append, List.flatMap_singleton]

end DirtSim.Foundation.RollingWindow
