import DirtSim.Audio.SmolnesApu
import DirtSim.Foundation.SampleRing
import Mathlib.Algebra.Order.Group.Nat

/-! # Reading the sound chip's samples

Every sample produced is put into the ring, so that a copy gives the samples from an index on, or
from the oldest one still there. A reader that stays within the ring misses nothing.
-/

namespace DirtSim

open Foundation
open scoped FloatOperations

namespace SmolnesApu

variable {K : Type}

section

/-! ## The ring and its counters -/

/-- The samples with the numbers that the counter gives them. -/
def numbered (produced : List K) : List K := produced.drop (produced.length / 2 ^ 64 * 2 ^ 64)

/-- The ring, the place where it is written next and the counter, after the produced samples. -/
structure HoldsProduced (state : SmolnesApuState K) (produced : List K) : Prop where
  ring : HoldsLast state.sampleBuffer produced
  writePos : state.writePos.toNat = produced.length % sampleBufferSize
  total : state.totalSampleCount.toNat = produced.length % 2 ^ 64

theorem HoldsProduced.push {state : SmolnesApuState K} {produced : List K}
    (holds : HoldsProduced state produced) (sample : K) :
    HoldsProduced (pushSample state sample) (produced ++ [sample]) where
  ring := by
    have pushed := holds.ring.push (by decide) sample
    rw [← holds.writePos] at pushed
    exact pushed
  writePos := by
    have inside : produced.length % sampleBufferSize < sampleBufferSize :=
      Nat.mod_lt _ (by decide)
    change ((state.writePos + 1) % 4096).toNat = _
    rw [UInt32.toNat_mod, UInt32.toNat_add, holds.writePos, List.length_append,
      List.length_singleton]
    change (produced.length % 4096 + 1) % 2 ^ 32 % 4096 = (produced.length + 1) % 4096
    omega
  total := by
    change (state.totalSampleCount + 1).toNat = _
    rw [UInt64.toNat_add, holds.total, List.length_append, List.length_singleton]
    exact Nat.mod_add_mod _ _ _

theorem HoldsProduced.of_ring {before after : SmolnesApuState K} {produced : List K}
    (holds : HoldsProduced before produced) (ring : after.sampleBuffer = before.sampleBuffer)
    (writePos : after.writePos = before.writePos)
    (total : after.totalSampleCount = before.totalSampleCount) : HoldsProduced after produced where
  ring := ring ▸ holds.ring
  writePos := writePos ▸ holds.writePos
  total := total ▸ holds.total

end

section

variable {state : SmolnesApuState K} {produced : List K}

/-! ## Copies -/

theorem length_numbered (produced : List K) :
    (numbered produced).length = produced.length % 2 ^ 64 := by
  have parts := Nat.div_add_mod' produced.length (2 ^ 64)
  rw [numbered, List.length_drop]
  omega

theorem HoldsProduced.cells (holds : HoldsProduced state produced) {back count : ℕ}
    {startPos : UInt32} (within : back ≤ sampleBufferSize) (written : back ≤ produced.length)
    (start : startPos.toNat = (state.writePos.toNat + sampleBufferSize - back) % sampleBufferSize)
    (count_le : count ≤ back) :
    ((List.range count).map fun j =>
        state.sampleBuffer.get
          ⟨(startPos + UInt32.ofNat j).toNat % sampleBufferSize, Nat.mod_lt _ (by decide)⟩) =
      (produced.drop (produced.length - back)).take count := by
  apply List.ext_getElem
  · rw [List.length_map, List.length_range, List.length_take, List.length_drop]
    omega
  · intro j lt _
    rw [List.length_map, List.length_range] at lt
    rw [List.getElem_map, List.getElem_range, List.getElem_take, List.getElem_drop]
    have size : sampleBufferSize = 4096 := rfl
    have cell : (startPos + UInt32.ofNat j).toNat % sampleBufferSize =
        (produced.length % sampleBufferSize + sampleBufferSize - back + j) %
          sampleBufferSize := by
      have small : (UInt32.ofNat j).toNat = j := UInt32.toNat_ofNat_of_lt' (by
        change j < 2 ^ 32
        omega)
      rw [UInt32.toNat_add, small, start, holds.writePos, size]
      omega
    have held := holds.ring.read within written (Nat.lt_of_lt_of_le lt count_le)
    rw [← cell, Vector.getElem?_eq_getElem (Nat.mod_lt _ (by decide)),
      List.getElem?_eq_getElem (by omega)] at held
    exact Option.some.inj held

/-- Where a copy begins: at the index asked for, or at the oldest sample in the ring. -/
def startIndex (total fromIndex : ℕ) : ℕ := max fromIndex (total - sampleBufferSize)

theorem toNat_startPos {writePos : UInt32} {distance : UInt64}
    (inside : writePos.toNat < sampleBufferSize) (le : distance.toNat ≤ sampleBufferSize) :
    ((writePos + 4096 - distance.toUInt32) % 4096).toNat =
      (writePos.toNat + sampleBufferSize - distance.toNat) % sampleBufferSize := by
  have size : sampleBufferSize = 4096 := rfl
  rw [size] at inside le ⊢
  have narrow : distance.toUInt32.toNat = distance.toNat := by
    rw [UInt64.toNat_toUInt32]
    exact Nat.mod_eq_of_lt (by omega)
  have sum : (writePos + 4096).toNat = writePos.toNat + 4096 := by
    rw [UInt32.toNat_add]
    change (writePos.toNat + 4096) % 2 ^ 32 = _
    omega
  rw [UInt32.toNat_mod, UInt32.toNat_sub_of_le, sum, narrow]
  · rfl
  · rw [UInt32.le_iff_toNat_le, sum, narrow]
    omega

theorem toNat_count {available : UInt64} (le : available.toNat ≤ sampleBufferSize)
    (maxSamples : UInt32) :
    (if available < maxSamples.toUInt64 then available.toUInt32 else maxSamples).toNat =
      min available.toNat maxSamples.toNat := by
  have size : sampleBufferSize = 4096 := rfl
  have wide : maxSamples.toUInt64.toNat = maxSamples.toNat := UInt32.toNat_toUInt64 maxSamples
  split
  case isTrue fewer =>
    rw [UInt64.lt_iff_toNat_lt, wide] at fewer
    rw [UInt64.toNat_toUInt32, Nat.mod_eq_of_lt (by omega), Nat.min_eq_left fewer.le]
  case isFalse enough =>
    rw [UInt64.lt_iff_toNat_lt, wide] at enough
    rw [Nat.min_eq_right (by omega)]

theorem HoldsProduced.copied (holds : HoldsProduced state produced) (maxSamples : UInt32)
    (fromIndex : UInt64) (earlier : fromIndex.toNat < state.totalSampleCount.toNat)
    (recent : state.totalSampleCount.toNat - fromIndex.toNat ≤ sampleBufferSize) :
    ((List.range (if state.totalSampleCount - fromIndex < maxSamples.toUInt64
          then (state.totalSampleCount - fromIndex).toUInt32 else maxSamples).toNat).map fun j =>
        state.sampleBuffer.get
          ⟨((state.writePos + 4096 - (state.totalSampleCount - fromIndex).toUInt32) % 4096 +
              UInt32.ofNat j).toNat % sampleBufferSize, Nat.mod_lt _ (by decide)⟩) =
      ((numbered produced).drop fromIndex.toNat).take maxSamples.toNat := by
  have total := holds.total
  have parts := Nat.div_add_mod' produced.length (2 ^ 64)
  have distance := UInt64.toNat_sub_of_le _ _ (UInt64.le_iff_toNat_le.mpr earlier.le)
  have within : (state.totalSampleCount - fromIndex).toNat ≤ sampleBufferSize := by
    rw [distance]
    exact recent
  have inside : state.writePos.toNat < sampleBufferSize := by
    rw [holds.writePos]
    exact Nat.mod_lt _ (by decide)
  have written : (state.totalSampleCount - fromIndex).toNat ≤ produced.length := by omega
  rw [toNat_count within, holds.cells within written (toNat_startPos inside within)
    (Nat.min_le_left _ _), numbered, List.drop_drop]
  have first : produced.length - (state.totalSampleCount - fromIndex).toNat =
      produced.length / 2 ^ 64 * 2 ^ 64 + fromIndex.toNat := by omega
  rw [first]
  apply List.take_eq_take_iff.mpr
  rw [List.length_drop]
  omega

/-- **What a copy gives.** -/
theorem HoldsProduced.copySamples (holds : HoldsProduced state produced) (maxSamples : UInt32)
    (fromIndex : UInt64) :
    smolnesApuCopySamples state maxSamples fromIndex =
      if fromIndex.toNat < (numbered produced).length then
        ((numbered produced).drop
          (startIndex (numbered produced).length fromIndex.toNat)).take maxSamples.toNat
      else [] := by
  have total := holds.total
  rw [length_numbered, ← total]
  unfold smolnesApuCopySamples startIndex
  by_cases nothing : state.totalSampleCount = 0 ∨ maxSamples = 0
  · rw [if_pos (by simpa using nothing)]
    rcases nothing with empty | nobody
    · have zero : state.totalSampleCount.toNat = 0 := congrArg UInt64.toNat empty
      rw [zero, if_neg (Nat.not_lt_zero _)]
    · rw [nobody]
      split <;> rfl
  rw [if_neg (by simpa using nothing)]
  by_cases late : fromIndex ≥ state.totalSampleCount
  · rw [if_pos late, if_neg (Nat.not_lt.mpr (UInt64.le_iff_toNat_le.mp late))]
  have earlier : fromIndex.toNat < state.totalSampleCount.toNat := by
    rw [ge_iff_le, UInt64.le_iff_toNat_le] at late
    omega
  rw [if_neg late, if_pos earlier]
  have distance := UInt64.toNat_sub_of_le _ _ (UInt64.le_iff_toNat_le.mpr earlier.le)
  by_cases clamped : state.totalSampleCount - fromIndex > 4096
  · have enough : (4096 : UInt64) ≤ state.totalSampleCount := by
      rw [gt_iff_lt, UInt64.lt_iff_toNat_lt, distance] at clamped
      rw [UInt64.le_iff_toNat_le]
      change 4096 < _ at clamped
      change 4096 ≤ _
      omega
    have oldest : (state.totalSampleCount - 4096).toNat =
        state.totalSampleCount.toNat - sampleBufferSize := UInt64.toNat_sub_of_le _ _ enough
    have whole : state.totalSampleCount - (state.totalSampleCount - 4096) = 4096 := by
      apply UInt64.toNat_inj.mp
      rw [UInt64.toNat_sub_of_le _ _ (UInt64.le_iff_toNat_le.mpr (by omega)), oldest]
      rw [UInt64.le_iff_toNat_le] at enough
      exact Nat.sub_sub_self enough
    have size : sampleBufferSize = 4096 := rfl
    have copied := holds.copied maxSamples (state.totalSampleCount - 4096)
      (by rw [oldest]; omega) (by rw [oldest]; omega)
    rw [whole, oldest] at copied
    simp only [clamped, if_true, whole]
    rw [gt_iff_lt, UInt64.lt_iff_toNat_lt, distance] at clamped
    change 4096 < _ at clamped
    rw [Nat.max_eq_right (by omega)]
    exact copied
  · simp only [clamped, if_false]
    have recent : state.totalSampleCount.toNat - fromIndex.toNat ≤ sampleBufferSize := by
      rw [gt_iff_lt, UInt64.lt_iff_toNat_lt, distance] at clamped
      exact Nat.not_lt.mp clamped
    rw [Nat.max_eq_left (by omega)]
    exact holds.copied maxSamples fromIndex earlier recent

end

section

variable {produced : List K} {state : SmolnesApuState K}

/-! ## Production -/

theorem HoldsProduced.ite {condition : Prop} [Decidable condition]
    {first second : SmolnesApuState K} (left : HoldsProduced first produced)
    (right : HoldsProduced second produced) :
    HoldsProduced (if condition then first else second) produced := by
  split
  · exact left
  · exact right

theorem HoldsProduced.write (holds : HoldsProduced state produced) (addr : UInt16) (value : UInt8) :
    HoldsProduced (smolnesApuWrite state addr value) produced := by
  unfold smolnesApuWrite writeRegister
  iterate 15
    apply HoldsProduced.ite
    · exact holds.of_ring rfl rfl rfl
  apply HoldsProduced.ite
  · unfold writeFrameCounter
    apply HoldsProduced.ite
    · exact holds.of_ring rfl rfl rfl
    · exact holds.of_ring rfl rfl rfl
  · exact holds.of_ring rfl rfl rfl

theorem HoldsProduced.read (holds : HoldsProduced state produced) (addr : UInt16) :
    HoldsProduced (smolnesApuRead state addr).2 produced := by
  unfold smolnesApuRead
  split
  · exact holds
  · exact holds.of_ring rfl rfl rfl

theorem HoldsProduced.frameCounter (holds : HoldsProduced state produced) :
    HoldsProduced (clockFrameCounter state) produced := by
  unfold clockFrameCounter
  repeat' apply HoldsProduced.ite
  all_goals exact holds.of_ring rfl rfl rfl

variable [FloatOperations K]

theorem HoldsProduced.cycle (holds : HoldsProduced state produced) :
    HoldsProduced (clockCycle state).1 (produced ++ (clockCycle state).2.toList) := by
  have timed := holds.frameCounter.of_ring rfl rfl rfl
  unfold clockCycle downsample
  dsimp only
  split
  · exact (timed.push _).of_ring rfl rfl rfl
  · rw [Option.toList_none, List.append_nil]
    exact timed.of_ring rfl rfl rfl

theorem HoldsProduced.cycles (holds : HoldsProduced state produced) (cycles : ℕ) :
    HoldsProduced (clockCycles state cycles).1 (produced ++ (clockCycles state cycles).2) := by
  induction cycles generalizing state produced with
  | zero =>
      rw [clockCycles, List.append_nil]
      exact holds
  | succ cycles ih =>
      rw [clockCycles]
      rw [← List.append_assoc]
      exact ih holds.cycle

theorem HoldsProduced.call (holds : HoldsProduced state produced) (action : Call) :
    HoldsProduced (call state action).1 (produced ++ (SmolnesApu.call state action).2) := by
  cases action with
  | write addr value =>
      rw [SmolnesApu.call, List.append_nil]
      exact holds.write addr value
  | read addr =>
      rw [SmolnesApu.call, List.append_nil]
      exact holds.read addr
  | clock cpuCycles => exact holds.cycles cpuCycles.toNat

theorem holdsProduced_init (outputSampleRate : K) :
    HoldsProduced (smolnesApuInit outputSampleRate) [] :=
  ⟨.nil _, rfl, rfl⟩

end

section

/-! ## Readers -/

/-- A reader of the samples, with all the samples that have been produced. -/
structure Reader (K : Type) where
  apu : SmolnesApuState K
  produced : List K
  position : UInt64
  received : List K

inductive ReaderAction
  | call (action : Call)
  | ask (maxSamples : UInt32)

variable [FloatOperations K]
variable {fromIndex : UInt64} {reader : Reader K}

/-- Having asked, the reader goes on where the samples that it has got end. -/
def readerStep (reader : Reader K) : ReaderAction → Reader K
  | .call action =>
      { reader with
        apu := (call reader.apu action).1
        produced := reader.produced ++ (call reader.apu action).2 }
  | .ask maxSamples =>
      let copied := smolnesApuCopySamples reader.apu maxSamples reader.position
      { reader with
        position := reader.position + UInt64.ofNat copied.length
        received := reader.received ++ copied }

/-- The chip after its start, and a reader that first asks from an index on. -/
def readerMachine (outputSampleRate : K) (fromIndex : UInt64) :
    Machine ReaderAction (Reader K) where
  initial reader :=
    reader =
      { apu := smolnesApuInit outputSampleRate, produced := [], position := fromIndex
        received := [] }
  step before action after := readerStep before action = after

/-- When it asks, the reader is not farther behind than the ring is long. -/
def KeepsUp (fromIndex : UInt64) (reader : Reader K) : ReaderAction → Prop
  | .call _ => True
  | .ask _ =>
      reader.produced.length ≤ fromIndex.toNat + reader.received.length + sampleBufferSize

/-- The counters and every copy tell the samples as they have been produced. -/
structure TellsSamples (state : SmolnesApuState K) (samples : List K) : Prop where
  total : state.totalSampleCount.toNat = samples.length
  writePos : state.writePos.toNat = samples.length % sampleBufferSize
  count : ∀ maxSamples fromIndex,
    (smolnesApuCopySamples state maxSamples fromIndex).length =
      if fromIndex.toNat < samples.length then
        min (samples.length - startIndex samples.length fromIndex.toNat) maxSamples.toNat
      else 0
  sample : ∀ maxSamples fromIndex,
    ∀ j < (smolnesApuCopySamples state maxSamples fromIndex).length,
      (smolnesApuCopySamples state maxSamples fromIndex)[j]? =
        samples[startIndex samples.length fromIndex.toNat + j]?

omit [FloatOperations K] in
theorem HoldsProduced.tells {state : SmolnesApuState K} {produced : List K}
    (holds : HoldsProduced state produced) : TellsSamples state (numbered produced) where
  total := by rw [length_numbered, holds.total]
  writePos := by
    rw [length_numbered, holds.writePos]
    exact (Nat.mod_mod_of_dvd _ (by decide)).symm
  count := by
    intro maxSamples fromIndex
    rw [holds.copySamples]
    split
    · rw [List.length_take, List.length_drop, Nat.min_comm]
    · rfl
  sample := by
    intro maxSamples fromIndex j lt
    rw [holds.copySamples] at lt ⊢
    split at lt
    case isTrue earlier =>
      rw [if_pos earlier]
      rw [List.length_take] at lt
      rw [List.getElem?_take_of_lt (by omega), List.getElem?_drop]
    case isFalse => exact absurd lt (Nat.not_lt_zero j)

/-- What a reader has got begins at its first index and has no gap. -/
structure ReadsOn (fromIndex : UInt64) (reader : Reader K) : Prop where
  holds : HoldsProduced reader.apu reader.produced
  position : reader.position.toNat = (fromIndex.toNat + reader.received.length) % 2 ^ 64
  gapFree : reader.received <+: reader.produced.drop fromIndex.toNat

omit [FloatOperations K] in
theorem ReadsOn.copied (reads : ReadsOn fromIndex reader)
    (recent : reader.produced.length ≤ fromIndex.toNat + reader.received.length + sampleBufferSize)
    (maxSamples : UInt32) :
    smolnesApuCopySamples reader.apu maxSamples reader.position <+:
      reader.produced.drop (fromIndex.toNat + reader.received.length) := by
  rw [reads.holds.copySamples]
  split
  case isFalse => exact List.nil_prefix
  case isTrue earlier =>
    have size : sampleBufferSize = 4096 := rfl
    have first := fromIndex.toNat_lt
    have received := reads.gapFree.length_le
    rw [List.length_drop] at received
    rw [length_numbered, reads.position] at earlier
    -- The reader's position and the counter have wrapped equally often.
    have position : reader.produced.length / 2 ^ 64 * 2 ^ 64 + reader.position.toNat =
        fromIndex.toNat + reader.received.length := by
      rw [reads.position]
      omega
    have start : startIndex (numbered reader.produced).length reader.position.toNat =
        reader.position.toNat := by
      rw [length_numbered, startIndex, Nat.max_eq_left]
      omega
    rw [start, numbered, List.drop_drop, position]
    exact List.take_prefix _ _

theorem ReadsOn.step (reads : ReadsOn fromIndex reader) {action : ReaderAction}
    (keepsUp : KeepsUp fromIndex reader action) : ReadsOn fromIndex (readerStep reader action) := by
  cases action with
  | call action =>
      refine ⟨reads.holds.call action, reads.position, reads.gapFree.trans ?_⟩
      dsimp only [readerStep]
      rw [List.drop_append]
      exact List.prefix_append _ _
  | ask maxSamples =>
      have copied := reads.copied keepsUp maxSamples
      refine ⟨reads.holds, ?_, ?_⟩
      · dsimp only [readerStep]
        rw [UInt64.toNat_add, UInt64.toNat_ofNat', List.length_append, reads.position]
        omega
      · obtain ⟨rest, total⟩ := reads.gapFree
        have remaining : rest = reader.produced.drop (fromIndex.toNat + reader.received.length) := by
          rw [← List.drop_drop, ← total, List.drop_left]
        rw [← remaining] at copied
        dsimp only [readerStep]
        rw [← total]
        exact (List.prefix_append_right_inj reader.received).mpr copied

theorem holdsProduced_of_reachable {outputSampleRate : K}
    (reached : (readerMachine outputSampleRate fromIndex).Reachable reader) :
    HoldsProduced reader.apu reader.produced := by
  apply @Machine.Reachable.invariant _ _ _
    (fun reader => HoldsProduced reader.apu reader.produced) ?_ ?_ _ reached
  · intro reader initial
    rw [initial]
    exact holdsProduced_init outputSampleRate
  · intro before label after holds moved
    rw [← moved]
    cases label with
    | call action => exact holds.call action
    | ask maxSamples => exact holds

theorem readsOn_of_reachable {outputSampleRate : K} (reached :
      ((readerMachine outputSampleRate fromIndex).guarded (KeepsUp fromIndex)).Reachable reader) :
    ReadsOn fromIndex reader := by
  apply reached.invariant
  · intro reader initial
    rw [initial]
    refine ⟨holdsProduced_init outputSampleRate, ?_, List.nil_prefix⟩
    exact (Nat.mod_eq_of_lt fromIndex.toNat_lt).symm
  · intro before label after reads moved
    rw [← moved.1]
    exact reads.step moved.2

/-- **The ring never tells a wrong sample.** After any calls every copy gives the samples with the
numbers that it was asked for, and a reader that has kept up has got the samples from its first index
on, all of them. -/
theorem tellsSamples_of_reachable {outputSampleRate : K} {fromIndex : UInt64} {reader : Reader K}
    (reached : (readerMachine outputSampleRate fromIndex).Reachable reader) :
    TellsSamples reader.apu (numbered reader.produced) ∧
      (reader.produced.length < 2 ^ 64 → numbered reader.produced = reader.produced) ∧
        (((readerMachine outputSampleRate fromIndex).guarded (KeepsUp fromIndex)).Reachable reader →
          reader.received =
            (reader.produced.drop fromIndex.toNat).take reader.received.length) := by
  refine ⟨(holdsProduced_of_reachable reached).tells, ?_, ?_⟩
  · intro short
    rw [numbered, Nat.div_eq_of_lt short, Nat.zero_mul, List.drop_zero]
  · intro kept
    exact List.prefix_iff_eq_take.mp (readsOn_of_reachable kept).gapFree

theorem tellsSamples_of_reachable_once :
    let start : Reader ℚ :=
      { apu := smolnesApuInit 48000, produced := [], position := 0, received := [] }
    let reader := readerStep (readerStep start (.call (.clock 100))) (.ask 10)
    TellsSamples reader.apu (numbered reader.produced) ∧
      (reader.produced.length < 2 ^ 64 → numbered reader.produced = reader.produced) ∧
        (((readerMachine (48000 : ℚ) 0).guarded (KeepsUp 0)).Reachable reader →
          reader.received =
            (reader.produced.drop (0 : UInt64).toNat).take reader.received.length) :=
  tellsSamples_of_reachable
    ⟨{ apu := smolnesApuInit 48000, produced := [], position := 0, received := [] },
      [.call (.clock 100), .ask 10], rfl, .cons rfl (.cons rfl (.nil _))⟩

end

end SmolnesApu

end DirtSim
