import DirtSim.Foundation.Bits
import DirtSim.Foundation.Grid
import Mathlib.Tactic.IntervalCases

/-! # Bit-packed grids

One bit for each cell in blocks of eight by eight, addressed by block coordinates here. The
neighbourhood of a cell is read from one block where it lies in one, and cell by cell otherwise; the
two agree (`CellBitmap.fastNeighborhood_eq`).
-/

namespace DirtSim

variable {dx dy : ℤ} (valid value : ℤ → ℤ → Bool)

open Foundation

def int16 (value : ℤ) : ℤ := Int.bmod value 65536

theorem int16_of_bounds {value : ℤ} (nonneg : 0 ≤ value) (small : value ≤ 32767) :
    int16 value = value := by
  unfold int16
  rw [Int.bmod_def]
  omega

def offsets : List (ℤ × ℤ) :=
  [(-1, -1), (0, -1), (1, -1), (-1, 0), (0, 0), (1, 0), (-1, 1), (0, 1), (1, 1)]

def bitPosition (dx dy : ℤ) : ℕ := ((dy + 1) * 3 + (dx + 1)).toNat

theorem mem_offsets : (dx, dy) ∈ offsets ↔ -1 ≤ dx ∧ dx ≤ 1 ∧ -1 ≤ dy ∧ dy ≤ 1 := by
  simp only [offsets, List.mem_cons, Prod.mk.injEq, List.not_mem_nil, or_false]
  omega

theorem bitPosition_lt (member : (dx, dy) ∈ offsets) : bitPosition dx dy < 9 := by
  have bounds := mem_offsets.mp member
  unfold bitPosition
  omega

theorem bitPosition_inj {offset other : ℤ × ℤ} (member : offset ∈ offsets)
    (member' : other ∈ offsets)
    (same : bitPosition offset.1 offset.2 = bitPosition other.1 other.2) : offset = other := by
  have bounds := mem_offsets.mp member
  have bounds' := mem_offsets.mp member'
  unfold bitPosition at same
  ext <;> omega

/-- The loop over a neighbourhood that packs two layers of bits: where an offset is valid its
upper bit is set, and its lower bit too if it has the property. -/
def packLayers (valid value : ℤ → ℤ → Bool) : BitVec 64 :=
  offsets.foldl
    (fun result (dx, dy) =>
      if valid dx dy then
        let marked := result ||| 1#64 <<< (9 + bitPosition dx dy)
        if value dx dy then marked ||| 1#64 <<< bitPosition dx dy else marked
      else result) 0#64

def layerBits (valid value : ℤ → ℤ → Bool) (offset : ℤ × ℤ) : BitVec 64 :=
  if valid offset.1 offset.2 then
    (1#64 <<< (9 + bitPosition offset.1 offset.2)) |||
      if value offset.1 offset.2 then 1#64 <<< bitPosition offset.1 offset.2 else 0#64
  else 0#64

theorem packLayers_eq :
    packLayers valid value =
      offsets.foldl (fun result offset => result ||| layerBits valid value offset) 0#64 := by
  unfold packLayers layerBits
  congr 1
  funext result offset
  obtain ⟨dx, dy⟩ := offset
  simp only
  cases valid dx dy with
  | false => simp
  | true =>
      cases value dx dy with
      | false => simp
      | true => simp [BitVec.or_assoc]

theorem getLsbD_layerBits {offset : ℤ × ℤ} (member : offset ∈ offsets) (i : ℕ) :
    (layerBits valid value offset).getLsbD i =
      (valid offset.1 offset.2 && (decide (i = 9 + bitPosition offset.1 offset.2) ||
        (value offset.1 offset.2 && decide (i = bitPosition offset.1 offset.2)))) := by
  have small := bitPosition_lt member
  unfold layerBits
  cases valid offset.1 offset.2 with
  | false => simp
  | true =>
      cases value offset.1 offset.2 with
      | false =>
          simp only [↓reduceIte, Bool.false_eq_true, BitVec.or_zero, Bool.false_and, Bool.or_false,
            Bool.true_and]
          rw [Bits.getLsbD_one_shiftLeft (by omega)]
      | true =>
          simp only [↓reduceIte, BitVec.getLsbD_or, Bool.true_and]
          rw [Bits.getLsbD_one_shiftLeft (by omega), Bits.getLsbD_one_shiftLeft (by omega)]

theorem getLsbD_packLayers_valid (member : (dx, dy) ∈ offsets) :
    (packLayers valid value).getLsbD (9 + bitPosition dx dy) = valid dx dy := by
  rw [packLayers_eq, Bits.getLsbD_foldl_or, BitVec.getLsbD_zero, Bool.false_or, Bool.eq_iff_iff,
    List.any_eq_true]
  constructor
  · rintro ⟨offset, member', bit⟩
    rw [getLsbD_layerBits valid value member'] at bit
    have small := bitPosition_lt member'
    have other : ¬ 9 + bitPosition dx dy = bitPosition offset.1 offset.2 := by omega
    simp only [other, decide_false, Bool.and_false, Bool.or_false, Bool.and_eq_true,
      decide_eq_true_eq, Nat.add_left_cancel_iff] at bit
    rw [← bitPosition_inj member member' bit.2] at bit
    exact bit.1
  · intro holds
    refine ⟨(dx, dy), member, ?_⟩
    rw [getLsbD_layerBits valid value member]
    simp [holds]

theorem getLsbD_packLayers_value (member : (dx, dy) ∈ offsets) :
    (packLayers valid value).getLsbD (bitPosition dx dy) = (valid dx dy && value dx dy) := by
  have small := bitPosition_lt member
  rw [packLayers_eq, Bits.getLsbD_foldl_or, BitVec.getLsbD_zero, Bool.false_or, Bool.eq_iff_iff,
    List.any_eq_true]
  constructor
  · rintro ⟨offset, member', bit⟩
    rw [getLsbD_layerBits valid value member'] at bit
    have other : ¬ bitPosition dx dy = 9 + bitPosition offset.1 offset.2 := by omega
    simp only [other, decide_false, Bool.false_or, Bool.and_eq_true, decide_eq_true_eq] at bit
    rw [← bitPosition_inj member member' bit.2.2] at bit
    rw [bit.1, bit.2.1]
    rfl
  · intro holds
    rw [Bool.and_eq_true] at holds
    refine ⟨(dx, dy), member, ?_⟩
    rw [getLsbD_layerBits valid value member]
    simp [holds]

theorem getLsbD_packLayers_high {i : ℕ} (high : 18 ≤ i) :
    (packLayers valid value).getLsbD i = false := by
  rw [packLayers_eq, Bits.getLsbD_foldl_or, BitVec.getLsbD_zero, Bool.false_or,
    List.any_eq_false]
  intro offset member
  have small := bitPosition_lt member
  rw [getLsbD_layerBits valid value member]
  have apart : ¬ i = 9 + bitPosition offset.1 offset.2 := by omega
  have apart' : ¬ i = bitPosition offset.1 offset.2 := by omega
  simp [apart, apart']

/-- Nine value bits and, above them, nine validity bits. -/
@[ext] structure Neighborhood3x3 where
  data : BitVec 64
deriving DecidableEq, Repr

namespace Neighborhood3x3

def getAt (neighborhood : Neighborhood3x3) (dx dy : ℤ) : Bool :=
  (neighborhood.data >>> bitPosition dx dy).getLsbD 0

def isValidAt (neighborhood : Neighborhood3x3) (dx dy : ℤ) : Bool :=
  (neighborhood.data >>> (9 + bitPosition dx dy)).getLsbD 0

def countTrueNeighbors (neighborhood : Neighborhood3x3) : ℕ :=
  ([0, 1, 2, 3, 5, 6, 7, 8].filter fun bit => neighborhood.data.getLsbD bit).length

end Neighborhood3x3

/-- One bit for each cell; `blocks` has one word for each block of eight by eight cells. -/
structure CellBitmap where
  gridWidth : ℤ
  gridHeight : ℤ
  blocks : Grid (BitVec 64)

namespace CellBitmap

/-- A bitmap with every bit clear. Partial blocks at the edges get a word of their own. -/
def new (width height : ℤ) : CellBitmap where
  gridWidth := int16 width
  gridHeight := int16 height
  blocks := Grid.generate (int16 ((width + 7) / 8)).toNat (int16 ((height + 7) / 8)).toNat
    fun _ _ => 0#64

def cellToBit (x y : ℤ) : ℕ := (y % 8 * 8 + x % 8).toNat

def getBlock (bitmap : CellBitmap) (blockX blockY : ℤ) : BitVec 64 :=
  (bitmap.blocks.get? blockX blockY).getD 0#64

def set (bitmap : CellBitmap) (x y : ℤ) : CellBitmap :=
  { bitmap with
    blocks := bitmap.blocks.set (x / 8) (y / 8)
      (bitmap.getBlock (x / 8) (y / 8) ||| 1#64 <<< cellToBit x y) }

def clear (bitmap : CellBitmap) (x y : ℤ) : CellBitmap :=
  { bitmap with
    blocks := bitmap.blocks.set (x / 8) (y / 8)
      (bitmap.getBlock (x / 8) (y / 8) &&& ~~~(1#64 <<< cellToBit x y)) }

def isSet (bitmap : CellBitmap) (x y : ℤ) : Bool :=
  (bitmap.getBlock (x / 8) (y / 8) >>> cellToBit x y).getLsbD 0

def InGrid (bitmap : CellBitmap) (x y : ℤ) : Prop :=
  0 ≤ x ∧ x < bitmap.gridWidth ∧ 0 ≤ y ∧ y < bitmap.gridHeight

instance (bitmap : CellBitmap) (x y : ℤ) : Decidable (bitmap.InGrid x y) :=
  inferInstanceAs (Decidable (_ ∧ _))

/-- Three bits of three rows taken from one block. The rows are 16-bit variables, widened to
32 bits before they are shifted together. -/
def fastNeighborhood (block : BitVec 64) (localX localY : ℤ) : Neighborhood3x3 :=
  let baseBit := ((localY - 1) * 8 + (localX - 1)).toNat
  let row0 : BitVec 16 := ((block >>> baseBit) &&& 7#64).setWidth 16
  let row1 : BitVec 16 := ((block >>> (baseBit + 8)) &&& 7#64).setWidth 16
  let row2 : BitVec 16 := ((block >>> (baseBit + 16)) &&& 7#64).setWidth 16
  let valueLayer : BitVec 32 :=
    row0.setWidth 32 ||| row1.setWidth 32 <<< 3 ||| row2.setWidth 32 <<< 6
  ⟨valueLayer.setWidth 64 ||| 0x1FF#64 <<< 9⟩

def slowNeighborhood (bitmap : CellBitmap) (x y : ℤ) : Neighborhood3x3 :=
  ⟨packLayers (fun dx dy => bitmap.InGrid (x + dx) (y + dy))
    fun dx dy => bitmap.isSet (x + dx) (y + dy)⟩

/-- The whole neighbourhood lies in one block and in the grid. -/
def FitsOneBlock (bitmap : CellBitmap) (x y : ℤ) : Prop :=
  (1 ≤ x % 8 ∧ x % 8 ≤ 6 ∧ 1 ≤ y % 8 ∧ y % 8 ≤ 6) ∧
    1 ≤ x ∧ x < bitmap.gridWidth - 1 ∧ 1 ≤ y ∧ y < bitmap.gridHeight - 1

instance (bitmap : CellBitmap) (x y : ℤ) : Decidable (bitmap.FitsOneBlock x y) :=
  inferInstanceAs (Decidable (_ ∧ _))

def getNeighborhood3x3 (bitmap : CellBitmap) (x y : ℤ) : Neighborhood3x3 :=
  if bitmap.FitsOneBlock x y then
    fastNeighborhood (bitmap.getBlock (x / 8) (y / 8)) (x % 8) (y % 8)
  else bitmap.slowNeighborhood x y

section

variable {bitmap : CellBitmap}

theorem isSet_eq (bitmap : CellBitmap) (x y : ℤ) :
    bitmap.isSet x y = (bitmap.getBlock (x / 8) (y / 8)).getLsbD (cellToBit x y) := by
  unfold isSet
  rw [BitVec.getLsbD_ushiftRight, Nat.add_zero]

theorem cellToBit_lt (x y : ℤ) : cellToBit x y < 64 := by
  unfold cellToBit
  omega

def Covered (bitmap : CellBitmap) : Prop :=
  ∀ x y, bitmap.InGrid x y → bitmap.blocks.InBounds (x / 8) (y / 8)

theorem set_covered (covered : bitmap.Covered) (x y : ℤ) : (bitmap.set x y).Covered := by
  intro x' y' inside
  exact Grid.set_inBounds.mpr (covered x' y' inside)

theorem new_covered {width height : ℤ} (width_bounds : 0 ≤ width ∧ width ≤ 32767)
    (height_bounds : 0 ≤ height ∧ height ≤ 32767) : (new width height).Covered := by
  intro x y inside
  unfold InGrid new at inside
  rw [int16_of_bounds width_bounds.1 width_bounds.2,
    int16_of_bounds height_bounds.1 height_bounds.2] at inside
  unfold Grid.InBounds new
  rw [Grid.generate_width, Grid.generate_height, int16_of_bounds (by omega) (by omega),
    int16_of_bounds (by omega) (by omega)]
  simp only at inside
  omega

theorem isSet_new (width height x y : ℤ) : (new width height).isSet x y = false := by
  rw [isSet_eq]
  unfold getBlock new
  rw [Grid.get?_generate]
  split
  · exact BitVec.getLsbD_zero
  · exact BitVec.getLsbD_zero

theorem isSet_set (covered : bitmap.Covered) {x y : ℤ} (inside : bitmap.InGrid x y) (x' y' : ℤ) :
    (bitmap.set x y).isSet x' y' = (bitmap.isSet x' y' || decide (x' = x ∧ y' = y)) := by
  have block := covered x y inside
  have small := cellToBit_lt x y
  rw [isSet_eq, isSet_eq]
  by_cases here : x' / 8 = x / 8 ∧ y' / 8 = y / 8
  · have stored : (bitmap.set x y).getBlock (x' / 8) (y' / 8) =
        bitmap.getBlock (x / 8) (y / 8) ||| 1#64 <<< cellToBit x y := by
      unfold getBlock set
      rw [here.1, here.2, Grid.get?_set_self block, Option.getD_some]
      rfl
    rw [stored, BitVec.getLsbD_or, Bits.getLsbD_one_shiftLeft small, here.1, here.2]
    have same : cellToBit x' y' = cellToBit x y ↔ x' = x ∧ y' = y := by
      unfold cellToBit
      omega
    simp [same]
  · have kept : (bitmap.set x y).getBlock (x' / 8) (y' / 8) =
        bitmap.getBlock (x' / 8) (y' / 8) := by
      unfold getBlock set
      rw [Grid.get?_set_ne _ _ fun same => here ⟨congrArg Prod.fst same, congrArg Prod.snd same⟩]
    have apart : ¬ (x' = x ∧ y' = y) := by omega
    rw [kept]
    simp [apart]

theorem isSet_foldl_set (property : ℤ → ℤ → Bool) (cells : List (ℤ × ℤ)) (covered : bitmap.Covered)
    (inside : ∀ cell ∈ cells, bitmap.InGrid cell.1 cell.2) (x y : ℤ) :
    (cells.foldl (fun bitmap (cell : ℤ × ℤ) =>
      if property cell.1 cell.2 then bitmap.set cell.1 cell.2 else bitmap) bitmap).isSet x y =
        (bitmap.isSet x y || (decide ((x, y) ∈ cells) && property x y)) := by
  induction cells generalizing bitmap with
  | nil => simp
  | cons cell cells ih =>
      obtain ⟨x', y'⟩ := cell
      have here := inside (x', y') (.head _)
      have later : ∀ cell ∈ cells, bitmap.InGrid cell.1 cell.2 :=
        fun cell member => inside cell (.tail _ member)
      rw [List.foldl_cons]
      by_cases marked : property x' y' = true
      · simp only [marked, ↓reduceIte]
        rw [ih (set_covered covered x' y') later, isSet_set covered here, Bool.eq_iff_iff]
        simp only [Bool.or_eq_true, decide_eq_true_eq, Bool.and_eq_true, List.mem_cons,
          Prod.mk.injEq]
        constructor
        · rintro ((old | ⟨rfl, rfl⟩) | ⟨member, holds⟩)
          · exact Or.inl old
          · exact Or.inr ⟨Or.inl ⟨rfl, rfl⟩, marked⟩
          · exact Or.inr ⟨Or.inr member, holds⟩
        · rintro (old | ⟨⟨rfl, rfl⟩ | member, holds⟩)
          · exact Or.inl (Or.inl old)
          · exact Or.inl (Or.inr ⟨rfl, rfl⟩)
          · exact Or.inr ⟨member, holds⟩
      · simp only [marked, Bool.false_eq_true, ↓reduceIte]
        rw [ih covered later, Bool.eq_iff_iff]
        simp only [Bool.or_eq_true, decide_eq_true_eq, Bool.and_eq_true, List.mem_cons,
          Prod.mk.injEq]
        constructor
        · rintro (old | ⟨member, holds⟩)
          · exact Or.inl old
          · exact Or.inr ⟨Or.inr member, holds⟩
        · rintro (old | ⟨⟨rfl, rfl⟩ | member, holds⟩)
          · exact Or.inl old
          · exact absurd holds marked
          · exact Or.inr ⟨member, holds⟩

end

section

theorem getLsbD_fastNeighborhood (block : BitVec 64) {localX localY : ℤ}
    (columns : 1 ≤ localX ∧ localX ≤ 6) (rows : 1 ≤ localY ∧ localY ≤ 6)
    (member : (dx, dy) ∈ offsets) :
    (fastNeighborhood block localX localY).data.getLsbD (bitPosition dx dy) =
      block.getLsbD ((localY + dy) * 8 + (localX + dx)).toNat := by
  simp only [offsets, List.mem_cons, Prod.mk.injEq, List.not_mem_nil, or_false] at member
  rcases member with ⟨rfl, rfl⟩ | ⟨rfl, rfl⟩ | ⟨rfl, rfl⟩ | ⟨rfl, rfl⟩ | ⟨rfl, rfl⟩ | ⟨rfl, rfl⟩ |
    ⟨rfl, rfl⟩ | ⟨rfl, rfl⟩ | ⟨rfl, rfl⟩
  all_goals
    simp only [fastNeighborhood, bitPosition]
    simp
    congr 1 <;> omega

theorem getLsbD_fastNeighborhood_valid (block : BitVec 64) (localX localY : ℤ) {i : ℕ}
    (above : 9 ≤ i) :
    (fastNeighborhood block localX localY).data.getLsbD i = decide (i < 18) := by
  have row : ∀ (word : BitVec 64) (j : ℕ),
      (word &&& 7#64).getLsbD j = (word.getLsbD j && decide (j < 3)) := by
    intro word j
    rw [BitVec.getLsbD_and, show (7#64) = BitVec.ofNat 64 (2 ^ 3 - 1) from rfl,
      Bits.getLsbD_lowMask]
    by_cases low : j < 3
    · have inside : j < 64 := by omega
      simp [low, inside]
    · simp [low]
  have high : ¬ i < 3 ∧ ¬ i - 3 < 3 ∧ ¬ i - 6 < 3 := by omega
  simp only [fastNeighborhood, BitVec.getLsbD_or, BitVec.getLsbD_setWidth,
    BitVec.getLsbD_shiftLeft, row, high, decide_false, Bool.and_false, Bool.or_false,
    Bool.false_or, show (0x1FF#64) = BitVec.ofNat 64 (2 ^ 9 - 1) from rfl, Bits.getLsbD_lowMask]
  rw [Bool.eq_iff_iff]
  simp only [Bool.and_eq_true, Bool.not_eq_true', decide_eq_true_eq, decide_eq_false_iff_not]
  omega

/-- **The fast path agrees with the slow one** wherever it is taken, whatever the bitmap. -/
theorem fastNeighborhood_eq (bitmap : CellBitmap) {x y : ℤ} (fits : bitmap.FitsOneBlock x y) :
    fastNeighborhood (bitmap.getBlock (x / 8) (y / 8)) (x % 8) (y % 8) =
      bitmap.slowNeighborhood x y := by
  obtain ⟨⟨left, right, top, bottom⟩, left', right', top', bottom'⟩ := fits
  have inside : ∀ dx dy, (dx, dy) ∈ offsets → bitmap.InGrid (x + dx) (y + dy) := by
    intro dx dy member
    have bounds := mem_offsets.mp member
    unfold InGrid
    omega
  apply Neighborhood3x3.ext
  apply BitVec.eq_of_getLsbD_eq
  intro i _
  unfold slowNeighborhood
  by_cases value : i < 9
  · obtain ⟨dx, dy, member, rfl⟩ : ∃ dx dy, (dx, dy) ∈ offsets ∧ bitPosition dx dy = i := by
      refine ⟨(i : ℤ) % 3 - 1, (i : ℤ) / 3 - 1, mem_offsets.mpr ?_, ?_⟩
      · omega
      · unfold bitPosition
        omega
    have bounds := mem_offsets.mp member
    have block : (x + dx) / 8 = x / 8 ∧ (y + dy) / 8 = y / 8 := by omega
    have bit : cellToBit (x + dx) (y + dy) = ((y % 8 + dy) * 8 + (x % 8 + dx)).toNat := by
      unfold cellToBit
      congr 1
      omega
    rw [getLsbD_fastNeighborhood _ ⟨left, right⟩ ⟨top, bottom⟩ member,
      getLsbD_packLayers_value _ _ member, isSet_eq, block.1, block.2, bit]
    simp [inside dx dy member]
  · rw [getLsbD_fastNeighborhood_valid _ _ _ (not_lt.mp value)]
    by_cases valid : i < 18
    · obtain ⟨dx, dy, member, rfl⟩ : ∃ dx dy, (dx, dy) ∈ offsets ∧ 9 + bitPosition dx dy = i := by
        refine ⟨((i : ℤ) - 9) % 3 - 1, ((i : ℤ) - 9) / 3 - 1, mem_offsets.mpr ?_, ?_⟩
        · omega
        · unfold bitPosition
          omega
      rw [getLsbD_packLayers_valid _ _ member]
      simp [valid, inside dx dy member]
    · rw [getLsbD_packLayers_high _ _ (not_lt.mp valid)]
      simp [valid]

theorem getNeighborhood3x3_eq (bitmap : CellBitmap) (x y : ℤ) :
    bitmap.getNeighborhood3x3 x y = bitmap.slowNeighborhood x y := by
  unfold getNeighborhood3x3
  by_cases fits : bitmap.FitsOneBlock x y
  · rw [if_pos fits, bitmap.fastNeighborhood_eq fits]
  · rw [if_neg fits]

end

end CellBitmap

end DirtSim
