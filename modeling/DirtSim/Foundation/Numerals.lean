import Mathlib.Algebra.GroupWithZero.Nat
import Mathlib.Data.Nat.Cast.Defs

/-! # Numerals

A numeral of a field stands on a proof that it is at least two, and a numeral of a bounded type
on a proof that the type is not empty. These proofs are named here once, so that all modules
that write the same constant refer to the same proof.
-/

namespace DirtSim.Foundation

instance atLeastTwo_two : Nat.AtLeastTwo 2 := ⟨by decide⟩
instance atLeastTwo_three : Nat.AtLeastTwo 3 := ⟨by decide⟩
instance atLeastTwo_four : Nat.AtLeastTwo 4 := ⟨by decide⟩
instance atLeastTwo_five : Nat.AtLeastTwo 5 := ⟨by decide⟩
instance atLeastTwo_six : Nat.AtLeastTwo 6 := ⟨by decide⟩
instance atLeastTwo_seven : Nat.AtLeastTwo 7 := ⟨by decide⟩
instance atLeastTwo_eight : Nat.AtLeastTwo 8 := ⟨by decide⟩
instance atLeastTwo_nine : Nat.AtLeastTwo 9 := ⟨by decide⟩
instance atLeastTwo_ten : Nat.AtLeastTwo 10 := ⟨by decide⟩
instance atLeastTwo_eleven : Nat.AtLeastTwo 11 := ⟨by decide⟩
instance atLeastTwo_twelve : Nat.AtLeastTwo 12 := ⟨by decide⟩
instance atLeastTwo_thirteen : Nat.AtLeastTwo 13 := ⟨by decide⟩
instance atLeastTwo_fourteen : Nat.AtLeastTwo 14 := ⟨by decide⟩
instance atLeastTwo_fifteen : Nat.AtLeastTwo 15 := ⟨by decide⟩
instance atLeastTwo_twenty : Nat.AtLeastTwo 20 := ⟨by decide⟩
instance atLeastTwo_thirtyNine : Nat.AtLeastTwo 39 := ⟨by decide⟩
instance atLeastTwo_fortyNine : Nat.AtLeastTwo 49 := ⟨by decide⟩
instance atLeastTwo_fifty : Nat.AtLeastTwo 50 := ⟨by decide⟩
instance atLeastTwo_ninetyFive : Nat.AtLeastTwo 95 := ⟨by decide⟩
instance atLeastTwo_ninetyEight : Nat.AtLeastTwo 98 := ⟨by decide⟩
instance atLeastTwo_ninetyNine : Nat.AtLeastTwo 99 := ⟨by decide⟩
instance atLeastTwo_hundred : Nat.AtLeastTwo 100 := ⟨by decide⟩
instance atLeastTwo_hundredTwenty : Nat.AtLeastTwo 120 := ⟨by decide⟩
instance atLeastTwo_hundredFifty : Nat.AtLeastTwo 150 := ⟨by decide⟩
instance atLeastTwo_twoHundredFiftyFive : Nat.AtLeastTwo 255 := ⟨by decide⟩
instance atLeastTwo_threeHundred : Nat.AtLeastTwo 300 := ⟨by decide⟩
instance atLeastTwo_sevenHundredSeven : Nat.AtLeastTwo 707 := ⟨by decide⟩
instance atLeastTwo_nineHundredNinetyNine : Nat.AtLeastTwo 999 := ⟨by decide⟩
instance atLeastTwo_thousand : Nat.AtLeastTwo 1000 := ⟨by decide⟩
instance atLeastTwo_tenThousand : Nat.AtLeastTwo 10000 := ⟨by decide⟩
instance atLeastTwo_hundredThousand : Nat.AtLeastTwo 100000 := ⟨by decide⟩
instance atLeastTwo_diagonal : Nat.AtLeastTwo 707107 := ⟨by decide⟩
instance atLeastTwo_million : Nat.AtLeastTwo 1000000 := ⟨by decide⟩
instance atLeastTwo_billion : Nat.AtLeastTwo 1000000000 := ⟨by decide⟩
instance atLeastTwo_tenBillion : Nat.AtLeastTwo 10000000000 := ⟨by decide⟩

/-- The size of the console's memory. -/
instance neZero_ramSize : NeZero 8192 := ⟨by decide⟩

end DirtSim.Foundation
