import DirtSim.Audio.SmolnesApu
import Mathlib.Algebra.Order.Group.Nat
import Mathlib.Tactic.SplitIfs

/-! # The sound chip's registers stay in hardware range

Each unit of a channel keeps the width that its register has in the console, whatever is written and
whenever. The frame counter misses no count at which it clocks the channels.
-/

namespace DirtSim

open Foundation
open scoped FloatOperations

namespace SmolnesApu

variable {env : SmolnesApuEnvelope} {tri : SmolnesApuTriangle}

section

/-! ## Widths of registers -/

theorem toNat_and_le (value mask : UInt8) : (value &&& mask).toNat ≤ mask.toNat := by
  rw [UInt8.toNat_and]
  exact Nat.and_le_right

theorem counter_sub_one_le {value : UInt8} (positive : value > 0) :
    (value - 1).toNat ≤ value.toNat := by
  have one_le : (1 : UInt8) ≤ value := by
    rw [UInt8.le_iff_toNat_le]
    exact UInt8.lt_iff_toNat_lt.mp positive
  rw [UInt8.toNat_sub_of_le _ _ one_le]
  exact Nat.sub_le _ _

theorem timer_sub_one_le {value : UInt16} (positive : value > 0) :
    (value - 1).toNat ≤ value.toNat := by
  have one_le : (1 : UInt16) ≤ value := by
    rw [UInt16.le_iff_toNat_le]
    exact UInt16.lt_iff_toNat_lt.mp positive
  rw [UInt16.toNat_sub_of_le _ _ one_le]
  exact Nat.sub_le _ _

theorem lowPeriod_le (timerPeriod : UInt16) (value : UInt8) :
    (lowPeriod timerPeriod value).toNat ≤ 0x7FF := by
  have high : (timerPeriod &&& (0x0700 : UInt16)).toNat < 2 ^ 11 := by
    rw [UInt16.toNat_and]
    exact lt_of_le_of_lt Nat.and_le_right (by decide)
  have low : value.toUInt16.toNat < 2 ^ 11 := by
    rw [UInt8.toNat_toUInt16]
    exact lt_trans value.toNat_lt (by decide)
  have both := Nat.or_lt_two_pow high low
  rw [lowPeriod, UInt16.toNat_or]
  exact Nat.le_of_lt_succ both

theorem highPeriod_le (timerPeriod : UInt16) (value : UInt8) :
    (highPeriod timerPeriod value).toNat ≤ 0x7FF := by
  have low : (timerPeriod &&& (0x00FF : UInt16)).toNat < 2 ^ 11 := by
    rw [UInt16.toNat_and]
    exact lt_of_le_of_lt Nat.and_le_right (by decide)
  have high : ((value &&& 7).toUInt16 <<< 8).toNat < 2 ^ 11 := by
    have masked : (value &&& 7).toNat ≤ 7 := toNat_and_le value 7
    simp only [UInt16.toNat_shiftLeft, UInt8.toNat_toUInt16, Nat.shiftLeft_eq]
    have shift : (8 : UInt16).toNat % 16 = 8 := rfl
    rw [shift]
    exact lt_of_le_of_lt (Nat.mod_le _ _) (by omega)
  have both := Nat.or_lt_two_pow low high
  rw [highPeriod, UInt16.toNat_or]
  exact Nat.le_of_lt_succ both

theorem entry_le {table : List UInt8} {bound : ℕ} (bounded : ∀ value ∈ table, value.toNat ≤ bound)
    (index : UInt8) : (entry table index).toNat ≤ bound := by
  rw [entry, List.getD_eq_getElem?_getD]
  cases found : table[index.toNat]? with
  | none => exact Nat.zero_le bound
  | some value => exact bounded value (List.mem_of_getElem? found)

end

section

variable {pulse : SmolnesApuPulse} {noise : SmolnesApuNoise}

/-! ## The channels -/

structure EnvelopeInRange (env : SmolnesApuEnvelope) : Prop where
  volume : env.volume.toNat ≤ 15
  divider : env.divider.toNat ≤ 15
  decayLevel : env.decayLevel.toNat ≤ 15

structure PulseInRange (pulse : SmolnesApuPulse) : Prop where
  duty : pulse.duty.toNat < 4
  dutyPosition : pulse.dutyPosition.toNat < 8
  timerPeriod : pulse.timerPeriod.toNat ≤ 0x7FF
  timerValue : pulse.timerValue.toNat ≤ 0x7FF
  envelope : EnvelopeInRange pulse.envelope
  silent : pulse.enabled = false → pulse.lengthCounter = 0

structure TriangleInRange (tri : SmolnesApuTriangle) : Prop where
  timerPeriod : tri.timerPeriod.toNat ≤ 0x7FF
  timerValue : tri.timerValue.toNat ≤ 0x7FF
  sequencePosition : tri.sequencePosition.toNat < 32
  linearCounter : tri.linearCounter.toNat ≤ 127
  linearCounterReload : tri.linearCounterReload.toNat ≤ 127
  silent : tri.enabled = false → tri.lengthCounter = 0

structure NoiseInRange (noise : SmolnesApuNoise) : Prop where
  positive : 0 < noise.shiftRegister.toNat
  shiftRegister : noise.shiftRegister.toNat ≤ 0x7FFF
  envelope : EnvelopeInRange noise.envelope
  silent : noise.enabled = false → noise.lengthCounter = 0

theorem EnvelopeInRange.clock (inRange : EnvelopeInRange env) :
    EnvelopeInRange (clockEnvelope env) := by
  have volume := inRange.volume
  unfold clockEnvelope
  split_ifs with start dividing decaying looping
  · exact ⟨volume, volume, le_rfl⟩
  · exact ⟨volume, (counter_sub_one_le dividing).trans inRange.divider, inRange.decayLevel⟩
  · exact ⟨volume, volume, (counter_sub_one_le decaying).trans inRange.decayLevel⟩
  · exact ⟨volume, volume, le_rfl⟩
  · exact ⟨volume, volume, inRange.decayLevel⟩

theorem EnvelopeInRange.output (inRange : EnvelopeInRange env) :
    (envelopeOutput env).toNat ≤ 15 := by
  unfold envelopeOutput
  split_ifs
  · exact inRange.volume
  · exact inRange.decayLevel

theorem PulseInRange.applySweep (inRange : PulseInRange pulse) (isPulse1 : Bool) :
    PulseInRange (applySweep pulse isPulse1) := by
  have period := inRange.timerPeriod
  have changed (timerPeriod : UInt16) (le : timerPeriod.toNat ≤ 0x7FF) :
      PulseInRange { pulse with timerPeriod := timerPeriod } :=
    ⟨inRange.duty, inRange.dutyPosition, le, inRange.timerValue, inRange.envelope, inRange.silent⟩
  unfold SmolnesApu.applySweep
  dsimp only
  split_ifs with idle negate first fits fits fits
  · exact inRange
  · apply changed
    rw [UInt16.toNat_sub_of_le _ _ fits]
    exact (Nat.sub_le _ _).trans period
  · exact inRange
  · apply changed
    rw [UInt16.toNat_sub_of_le _ _ fits]
    exact (Nat.sub_le _ _).trans period
  · exact inRange
  · exact changed _ (UInt16.le_iff_toNat_le.mp fits)
  · exact inRange

theorem PulseInRange.withSweep (inRange : PulseInRange pulse) (sweep : SmolnesApuSweep) :
    PulseInRange { pulse with sweep := sweep } :=
  ⟨inRange.duty, inRange.dutyPosition, inRange.timerPeriod, inRange.timerValue, inRange.envelope,
    inRange.silent⟩

theorem PulseInRange.clockSweep (inRange : PulseInRange pulse) (isPulse1 : Bool) :
    PulseInRange (clockPulseSweep pulse isPulse1) := by
  unfold clockPulseSweep
  split_ifs with reload empty counting
  · exact (inRange.applySweep isPulse1).withSweep _
  · exact inRange.withSweep _
  · exact inRange.withSweep _
  · exact (inRange.withSweep _).applySweep isPulse1

theorem clockLengthCounter_of_zero {lengthCounter : UInt8} (zero : lengthCounter = 0)
    (halted : Bool) : clockLengthCounter lengthCounter halted = 0 := by
  subst zero
  rfl

theorem PulseInRange.clockHalf (inRange : PulseInRange pulse) (isPulse1 : Bool) :
    PulseInRange (clockPulseHalf pulse isPulse1) := by
  apply PulseInRange.clockSweep
  exact ⟨inRange.duty, inRange.dutyPosition, inRange.timerPeriod, inRange.timerValue,
    inRange.envelope, fun disabled => clockLengthCounter_of_zero (inRange.silent disabled) _⟩

theorem PulseInRange.withEnvelope (inRange : PulseInRange pulse) {envelope : SmolnesApuEnvelope}
    (envelopeInRange : EnvelopeInRange envelope) :
    PulseInRange { pulse with envelope := envelope } :=
  ⟨inRange.duty, inRange.dutyPosition, inRange.timerPeriod, inRange.timerValue, envelopeInRange,
    inRange.silent⟩

theorem NoiseInRange.withEnvelope (inRange : NoiseInRange noise) {envelope : SmolnesApuEnvelope}
    (envelopeInRange : EnvelopeInRange envelope) :
    NoiseInRange { noise with envelope := envelope } :=
  ⟨inRange.positive, inRange.shiftRegister, envelopeInRange, inRange.silent⟩

theorem PulseInRange.clockTimer (inRange : PulseInRange pulse) :
    PulseInRange (clockPulseTimer pulse) := by
  unfold clockPulseTimer
  split_ifs with running
  · exact ⟨inRange.duty, inRange.dutyPosition, inRange.timerPeriod,
      (timer_sub_one_le running).trans inRange.timerValue, inRange.envelope, inRange.silent⟩
  · have position : ((pulse.dutyPosition + 1) &&& 7).toNat ≤ 7 := toNat_and_le _ 7
    exact ⟨inRange.duty, Nat.lt_succ_of_le position, inRange.timerPeriod, inRange.timerPeriod,
      inRange.envelope, inRange.silent⟩

theorem PulseInRange.output (inRange : PulseInRange pulse) : (pulseOutput pulse).toNat ≤ 15 := by
  unfold pulseOutput
  split_ifs
  all_goals first | exact Nat.zero_le 15 | exact inRange.envelope.output

theorem TriangleInRange.clockTimer (inRange : TriangleInRange tri) :
    TriangleInRange (clockTriangleTimer tri) := by
  unfold clockTriangleTimer
  split_ifs with running audible
  · exact ⟨inRange.timerPeriod, (timer_sub_one_le running).trans inRange.timerValue,
      inRange.sequencePosition, inRange.linearCounter, inRange.linearCounterReload, inRange.silent⟩
  · have position : ((tri.sequencePosition + 1) &&& 31).toNat ≤ 31 := toNat_and_le _ 31
    exact ⟨inRange.timerPeriod, inRange.timerPeriod, Nat.lt_succ_of_le position,
      inRange.linearCounter, inRange.linearCounterReload, inRange.silent⟩
  · exact ⟨inRange.timerPeriod, inRange.timerPeriod, inRange.sequencePosition,
      inRange.linearCounter, inRange.linearCounterReload, inRange.silent⟩

theorem TriangleInRange.clockLinear (inRange : TriangleInRange tri) :
    TriangleInRange (clockLinearCounter tri) := by
  have counted (linearCounter : UInt8) (flag : Bool) (le : linearCounter.toNat ≤ 127) :
      TriangleInRange
        { tri with linearCounter := linearCounter, linearCounterReloadFlag := flag } :=
    ⟨inRange.timerPeriod, inRange.timerValue, inRange.sequencePosition, le,
      inRange.linearCounterReload, inRange.silent⟩
  have reloaded := inRange.linearCounterReload
  have same := inRange.linearCounter
  unfold clockLinearCounter
  dsimp only
  split_ifs with reload released counting released
  · exact counted _ _ reloaded
  · exact counted _ _ reloaded
  · exact counted _ _ ((counter_sub_one_le counting).trans same)
  · exact counted _ _ ((counter_sub_one_le counting).trans same)
  · exact counted _ _ same
  · exact inRange

theorem triangleSequence_le : ∀ value ∈ kTriangleSequence, value.toNat ≤ 15 := by decide +kernel

theorem TriangleInRange.output (tri : SmolnesApuTriangle) : (triangleOutput tri).toNat ≤ 15 := by
  unfold triangleOutput
  split_ifs
  · exact Nat.zero_le 15
  · exact Nat.zero_le 15
  · exact Nat.zero_le 15
  · exact entry_le triangleSequence_le _

theorem shift_inRange {register feedback : ℕ} (positive : 0 < register)
    (le : register ≤ 0x7FFF) (single : feedback ≤ 1) (last : register = 1 → feedback = 1) :
    0 < (register >>> 1 ||| feedback <<< 14) ∧ (register >>> 1 ||| feedback <<< 14) ≤ 0x7FFF := by
  constructor
  · rw [Nat.pos_iff_ne_zero]
    intro zero
    obtain ⟨shifted, fed⟩ := Nat.or_eq_zero_iff.mp zero
    rw [Nat.shiftRight_eq_div_pow] at shifted
    rw [Nat.shiftLeft_eq] at fed
    have one : register = 1 := by omega
    have fedOne := last one
    omega
  · have shifted : register >>> 1 < 2 ^ 15 := by
      rw [Nat.shiftRight_eq_div_pow]
      omega
    have fed : feedback <<< 14 < 2 ^ 15 := by
      rw [Nat.shiftLeft_eq]
      omega
    exact Nat.le_of_lt_succ (Nat.or_lt_two_pow shifted fed)

theorem feedback_le_one (register bit : UInt16) :
    ((register &&& 1) ^^^ ((register >>> bit) &&& 1)).toNat ≤ 1 := by
  have last : (register &&& 1).toNat < 2 ^ 1 := by
    rw [UInt16.toNat_and]
    exact lt_of_le_of_lt Nat.and_le_right (by decide)
  have other : ((register >>> bit) &&& 1).toNat < 2 ^ 1 := by
    rw [UInt16.toNat_and]
    exact lt_of_le_of_lt Nat.and_le_right (by decide)
  rw [UInt16.toNat_xor]
  exact Nat.le_of_lt_succ (Nat.xor_lt_two_pow last other)

theorem shiftRegister_inRange {register bit : UInt16} (positive : 0 < register.toNat)
    (le : register.toNat ≤ 0x7FFF) (selected : bit = 6 ∨ bit = 1) :
    0 < ((register >>> 1) |||
        (((register &&& 1) ^^^ ((register >>> bit) &&& 1)) <<< 14)).toNat ∧
      ((register >>> 1) |||
        (((register &&& 1) ^^^ ((register >>> bit) &&& 1)) <<< 14)).toNat ≤ 0x7FFF := by
  have single := feedback_le_one register bit
  have last (one : register.toNat = 1) :
      ((register &&& 1) ^^^ ((register >>> bit) &&& 1)).toNat = 1 := by
    have register_eq : register = 1 := UInt16.toNat_inj.mp one
    rw [register_eq]
    rcases selected with mode | mode <;> rw [mode] <;> rfl
  generalize ((register &&& 1) ^^^ ((register >>> bit) &&& 1)) = feedback at single last ⊢
  have shifted : (register >>> 1).toNat = register.toNat >>> 1 := UInt16.toNat_shiftRight _ _
  have fed : (feedback <<< 14).toNat = feedback.toNat <<< 14 := by
    have eq := UInt16.toNat_shiftLeft feedback 14
    have amount : (14 : UInt16).toNat % 16 = 14 := rfl
    rw [amount, Nat.shiftLeft_eq] at eq
    rw [eq, Nat.shiftLeft_eq]
    exact Nat.mod_eq_of_lt (by omega)
  rw [UInt16.toNat_or, shifted, fed]
  exact shift_inRange positive le single last

theorem NoiseInRange.clockTimer (inRange : NoiseInRange noise) :
    NoiseInRange (clockNoiseTimer noise) := by
  have selected : (if noise.mode then (6 : UInt16) else 1) = 6 ∨
      (if noise.mode then (6 : UInt16) else 1) = 1 := by
    cases noise.mode
    · exact .inr rfl
    · exact .inl rfl
  obtain ⟨positive, le⟩ :=
    shiftRegister_inRange inRange.positive inRange.shiftRegister selected
  unfold clockNoiseTimer
  by_cases running : noise.timerValue > 0
  · rw [if_pos running]
    exact ⟨inRange.positive, inRange.shiftRegister, inRange.envelope, inRange.silent⟩
  · rw [if_neg running]
    exact ⟨positive, le, inRange.envelope, inRange.silent⟩

theorem NoiseInRange.output (inRange : NoiseInRange noise) : (noiseOutput noise).toNat ≤ 15 := by
  unfold noiseOutput
  split_ifs
  all_goals first | exact Nat.zero_le 15 | exact inRange.envelope.output

end

section

variable {pulse : SmolnesApuPulse}

/-! ## Register writes -/

theorem EnvelopeInRange.withVolume (inRange : EnvelopeInRange env) (loop constantVolume : Bool)
    (value : UInt8) :
    EnvelopeInRange
      { env with loop := loop, constantVolume := constantVolume, volume := value &&& 0x0F } :=
  ⟨toNat_and_le value 0x0F, inRange.divider, inRange.decayLevel⟩

theorem EnvelopeInRange.restart (inRange : EnvelopeInRange env) :
    EnvelopeInRange { env with start := true } :=
  ⟨inRange.volume, inRange.divider, inRange.decayLevel⟩

theorem loadLength_of_disabled {enabled : Bool} {lengthCounter : UInt8}
    (silent : enabled = false → lengthCounter = 0) (value : UInt8) :
    enabled = false → loadLength enabled lengthCounter value = 0 := by
  intro disabled
  rw [loadLength, disabled]
  exact silent disabled

theorem enabledLength_of_disabled {enabled : Bool} (lengthCounter : UInt8) :
    enabled = false → enabledLength enabled lengthCounter = 0 := by
  intro disabled
  rw [enabledLength, disabled]
  rfl

theorem PulseInRange.writeDuty (inRange : PulseInRange pulse) (value : UInt8) :
    PulseInRange (writeDuty pulse value) := by
  have duty : ((value >>> 6) &&& 3).toNat ≤ 3 := toNat_and_le _ 3
  exact ⟨Nat.lt_succ_of_le duty, inRange.dutyPosition, inRange.timerPeriod, inRange.timerValue,
    inRange.envelope.withVolume _ _ value, inRange.silent⟩

theorem PulseInRange.writeLow (inRange : PulseInRange pulse) (value : UInt8) :
    PulseInRange (writePulseLow pulse value) :=
  ⟨inRange.duty, inRange.dutyPosition, lowPeriod_le _ value, inRange.timerValue, inRange.envelope,
    inRange.silent⟩

theorem PulseInRange.writeHigh (inRange : PulseInRange pulse) (value : UInt8) :
    PulseInRange (writePulseHigh pulse value) :=
  ⟨inRange.duty, Nat.succ_pos 7, highPeriod_le _ value, inRange.timerValue,
    inRange.envelope.restart, loadLength_of_disabled inRange.silent value⟩

theorem PulseInRange.enable (inRange : PulseInRange pulse) (enabled : Bool) :
    PulseInRange
      { pulse with
        enabled := enabled, lengthCounter := enabledLength enabled pulse.lengthCounter } :=
  ⟨inRange.duty, inRange.dutyPosition, inRange.timerPeriod, inRange.timerValue, inRange.envelope,
    enabledLength_of_disabled _⟩

theorem TriangleInRange.writeHigh (inRange : TriangleInRange tri) (value : UInt8) :
    TriangleInRange (writeTriangleHigh tri value) :=
  ⟨highPeriod_le _ value, inRange.timerValue, inRange.sequencePosition, inRange.linearCounter,
    inRange.linearCounterReload, loadLength_of_disabled inRange.silent value⟩

end

section

/-! ## The whole chip -/

variable {K : Type}
variable {state : SmolnesApuState K}

/-- The count at which the frame counter starts anew. -/
def cycleLimit (mode5Step : Bool) : ℕ := if mode5Step then 37281 else 29829

/-- The channels, whatever the frame counter holds. -/
structure ChannelsInRange (state : SmolnesApuState K) : Prop where
  pulse1 : PulseInRange state.pulse1
  pulse2 : PulseInRange state.pulse2
  triangle : TriangleInRange state.triangle
  noise : NoiseInRange state.noise

structure InHardwareRange (state : SmolnesApuState K) : Prop where
  channels : ChannelsInRange state
  cycleCount : state.frameCounter.cycleCount.toNat < cycleLimit state.frameCounter.mode5Step

section

variable (inRange : ChannelsInRange state)
include inRange

theorem ChannelsInRange.withCycleCount (cycleCount : UInt32) :
    ChannelsInRange (withCycleCount state cycleCount) :=
  ⟨inRange.pulse1, inRange.pulse2, inRange.triangle, inRange.noise⟩

theorem ChannelsInRange.quarterFrame : ChannelsInRange (clockQuarterFrame state) :=
  ⟨inRange.pulse1.withEnvelope inRange.pulse1.envelope.clock,
    inRange.pulse2.withEnvelope inRange.pulse2.envelope.clock, inRange.triangle.clockLinear,
    inRange.noise.withEnvelope inRange.noise.envelope.clock⟩

theorem ChannelsInRange.halfFrame : ChannelsInRange (clockHalfFrame state) where
  pulse1 := inRange.pulse1.clockHalf true
  pulse2 := inRange.pulse2.clockHalf false
  triangle :=
    ⟨inRange.triangle.timerPeriod, inRange.triangle.timerValue, inRange.triangle.sequencePosition,
      inRange.triangle.linearCounter, inRange.triangle.linearCounterReload,
      fun disabled => clockLengthCounter_of_zero (inRange.triangle.silent disabled) _⟩
  noise :=
    ⟨inRange.noise.positive, inRange.noise.shiftRegister, inRange.noise.envelope,
      fun disabled => clockLengthCounter_of_zero (inRange.noise.silent disabled) _⟩

theorem ChannelsInRange.frameCounter : ChannelsInRange (clockFrameCounter state) := by
  have counted := inRange.withCycleCount (state.frameCounter.cycleCount + 1)
  have quarter := counted.quarterFrame
  have half := quarter.halfFrame
  unfold clockFrameCounter
  dsimp only
  split_ifs
  · exact quarter
  · exact half
  · exact half.withCycleCount 0
  · exact counted
  · exact quarter
  · exact half
  · exact counted.withCycleCount 0
  · exact counted

theorem ChannelsInRange.timers (pulses : Bool) : ChannelsInRange (clockTimers state pulses) := by
  cases pulses with
  | false =>
      exact ⟨inRange.pulse1, inRange.pulse2, inRange.triangle.clockTimer, inRange.noise.clockTimer⟩
  | true =>
      exact ⟨inRange.pulse1.clockTimer, inRange.pulse2.clockTimer, inRange.triangle.clockTimer,
        inRange.noise.clockTimer⟩

theorem ChannelsInRange.status (value : UInt8) : ChannelsInRange (writeStatus state value) where
  pulse1 := inRange.pulse1.enable _
  pulse2 := inRange.pulse2.enable _
  triangle :=
    ⟨inRange.triangle.timerPeriod, inRange.triangle.timerValue, inRange.triangle.sequencePosition,
      inRange.triangle.linearCounter, inRange.triangle.linearCounterReload,
      enabledLength_of_disabled _⟩
  noise :=
    ⟨inRange.noise.positive, inRange.noise.shiftRegister, inRange.noise.envelope,
      enabledLength_of_disabled _⟩

end

/-- What the frame counter counts to, and that it restarts there. -/
def nextCount (mode5Step : Bool) (count : ℕ) : ℕ :=
  if count + 1 = cycleLimit mode5Step then 0 else count + 1

theorem nextCount_lt {mode5Step : Bool} {count : ℕ} (lt : count < cycleLimit mode5Step) :
    nextCount mode5Step count < cycleLimit mode5Step := by
  unfold nextCount
  split_ifs with last
  · exact Nat.lt_of_le_of_lt (Nat.zero_le count) lt
  · omega

theorem clockFrameCounter_mode (state : SmolnesApuState K) :
    (clockFrameCounter state).frameCounter.mode5Step = state.frameCounter.mode5Step := by
  unfold clockFrameCounter
  dsimp only
  split_ifs <;> rfl

def lastStep (mode5Step : Bool) : UInt32 :=
  if mode5Step then kFrameCounterStep5.get (Fin.last 4) else kFrameCounterStep4.get (Fin.last 3)

theorem clockFrameCounter_cycleCount (state : SmolnesApuState K) :
    (clockFrameCounter state).frameCounter.cycleCount =
      if state.frameCounter.cycleCount + 1 = lastStep state.frameCounter.mode5Step then 0
      else state.frameCounter.cycleCount + 1 := by
  have four : lastStep false = kFrameCounterStep4[3] := rfl
  have five : lastStep true = kFrameCounterStep5[4] := rfl
  unfold clockFrameCounter
  dsimp only [withCycleCount]
  generalize state.frameCounter.cycleCount + 1 = cc
  cases mode : state.frameCounter.mode5Step with
  | false =>
      simp only [Bool.not_false, Bool.or_eq_true, decide_eq_true_eq, if_true, four]
      split_ifs with quarter last half last restart
      · rcases quarter with at_step | at_step <;> rw [at_step] at last <;> cases last
      · rfl
      · rw [half] at last
        cases last
      · rfl
      · rfl
      · rfl
  | true =>
      simp only [Bool.not_true, Bool.or_eq_true, decide_eq_true_eq, Bool.false_eq_true, if_false, five]
      split_ifs with quarter last half last restart
      · rcases quarter with at_step | at_step <;> rw [at_step] at last <;> cases last
      · rfl
      · rcases half with at_step | at_step <;> rw [at_step] at last <;> cases last
      · rfl
      · rfl
      · rfl

theorem clockFrameCounter_count
    (lt : state.frameCounter.cycleCount.toNat < cycleLimit state.frameCounter.mode5Step) :
    (clockFrameCounter state).frameCounter.cycleCount.toNat =
      nextCount state.frameCounter.mode5Step state.frameCounter.cycleCount.toNat := by
  have limit_le : cycleLimit state.frameCounter.mode5Step ≤ 37281 := by
    cases state.frameCounter.mode5Step <;> decide
  have last : (lastStep state.frameCounter.mode5Step).toNat =
      cycleLimit state.frameCounter.mode5Step := by
    cases state.frameCounter.mode5Step <;> rfl
  have count : (state.frameCounter.cycleCount + 1).toNat =
      state.frameCounter.cycleCount.toNat + 1 := by
    rw [UInt32.toNat_add]
    exact Nat.mod_eq_of_lt (by change _ + 1 < 2 ^ 32; omega)
  rw [clockFrameCounter_cycleCount, nextCount, ← last, ← count]
  by_cases restart :
      state.frameCounter.cycleCount + 1 = lastStep state.frameCounter.mode5Step
  · rw [if_pos restart, if_pos (UInt32.toNat_inj.mpr restart)]
    rfl
  · rw [if_neg restart, if_neg (fun eq => restart (UInt32.toNat_inj.mp eq))]

theorem InHardwareRange.writeFrameCounter (inRange : InHardwareRange state) (value : UInt8) :
    InHardwareRange (writeFrameCounter state value) := by
  have channels := inRange.channels
  have restarted (counter : SmolnesApuFrameCounter) :
      ChannelsInRange { state with frameCounter := counter } :=
    ⟨channels.pulse1, channels.pulse2, channels.triangle, channels.noise⟩
  have limit (mode5Step : Bool) : (0 : UInt32).toNat < cycleLimit mode5Step := by
    cases mode5Step <;> decide
  unfold SmolnesApu.writeFrameCounter
  split_ifs with fiveStep
  · exact ⟨(restarted _).quarterFrame.halfFrame, limit _⟩
  · exact ⟨restarted _, limit _⟩

theorem InHardwareRange.ite {condition : Prop} [Decidable condition]
    {first second : SmolnesApuState K} (left : InHardwareRange first)
    (right : InHardwareRange second) : InHardwareRange (if condition then first else second) := by
  split
  · exact left
  · exact right

theorem InHardwareRange.write (inRange : InHardwareRange state) (addr : UInt16) (value : UInt8) :
    InHardwareRange (smolnesApuWrite state addr value) := by
  have counted : InHardwareRange
      { state with registerWriteCount := state.registerWriteCount + 1 } :=
    ⟨⟨inRange.channels.pulse1, inRange.channels.pulse2, inRange.channels.triangle,
      inRange.channels.noise⟩, inRange.cycleCount⟩
  unfold smolnesApuWrite
  generalize ({ state with registerWriteCount := state.registerWriteCount + 1 } :
    SmolnesApuState K) = state at counted
  obtain ⟨pulse1, pulse2, triangle, noise⟩ := counted.channels
  have count := counted.cycleCount
  unfold writeRegister
  apply InHardwareRange.ite
  · exact ⟨⟨pulse1.writeDuty value, pulse2, triangle, noise⟩, count⟩
  apply InHardwareRange.ite
  · exact ⟨⟨pulse1.withSweep _, pulse2, triangle, noise⟩, count⟩
  apply InHardwareRange.ite
  · exact ⟨⟨pulse1.writeLow value, pulse2, triangle, noise⟩, count⟩
  apply InHardwareRange.ite
  · exact ⟨⟨pulse1.writeHigh value, pulse2, triangle, noise⟩, count⟩
  apply InHardwareRange.ite
  · exact ⟨⟨pulse1, pulse2.writeDuty value, triangle, noise⟩, count⟩
  apply InHardwareRange.ite
  · exact ⟨⟨pulse1, pulse2.withSweep _, triangle, noise⟩, count⟩
  apply InHardwareRange.ite
  · exact ⟨⟨pulse1, pulse2.writeLow value, triangle, noise⟩, count⟩
  apply InHardwareRange.ite
  · exact ⟨⟨pulse1, pulse2.writeHigh value, triangle, noise⟩, count⟩
  apply InHardwareRange.ite
  · exact ⟨⟨pulse1, pulse2,
      ⟨triangle.timerPeriod, triangle.timerValue, triangle.sequencePosition,
        triangle.linearCounter, toNat_and_le value 0x7F, triangle.silent⟩, noise⟩, count⟩
  apply InHardwareRange.ite
  · exact ⟨⟨pulse1, pulse2,
      ⟨lowPeriod_le _ value, triangle.timerValue, triangle.sequencePosition,
        triangle.linearCounter, triangle.linearCounterReload, triangle.silent⟩, noise⟩, count⟩
  apply InHardwareRange.ite
  · exact ⟨⟨pulse1, pulse2, triangle.writeHigh value, noise⟩, count⟩
  apply InHardwareRange.ite
  · exact ⟨⟨pulse1, pulse2, triangle,
      noise.withEnvelope (noise.envelope.withVolume _ _ value)⟩, count⟩
  apply InHardwareRange.ite
  · exact ⟨⟨pulse1, pulse2, triangle,
      ⟨noise.positive, noise.shiftRegister, noise.envelope, noise.silent⟩⟩, count⟩
  apply InHardwareRange.ite
  · exact ⟨⟨pulse1, pulse2, triangle,
      ⟨noise.positive, noise.shiftRegister, noise.envelope.restart,
        loadLength_of_disabled noise.silent value⟩⟩, count⟩
  apply InHardwareRange.ite
  · exact ⟨counted.channels.status value, count⟩
  apply InHardwareRange.ite
  · exact counted.writeFrameCounter value
  exact counted

theorem InHardwareRange.read (inRange : InHardwareRange state) (addr : UInt16) :
    InHardwareRange (smolnesApuRead state addr).2 := by
  unfold smolnesApuRead
  split_ifs
  · exact inRange
  · exact ⟨⟨inRange.channels.pulse1, inRange.channels.pulse2, inRange.channels.triangle,
      inRange.channels.noise⟩, inRange.cycleCount⟩

structure OutputsInRange (state : SmolnesApuState K) : Prop where
  pulse1 : (pulseOutput state.pulse1).toNat ≤ 15
  pulse2 : (pulseOutput state.pulse2).toNat ≤ 15
  triangle : (triangleOutput state.triangle).toNat ≤ 15
  noise : (noiseOutput state.noise).toNat ≤ 15

theorem ChannelsInRange.outputs (inRange : ChannelsInRange state) : OutputsInRange state where
  pulse1 := inRange.pulse1.output
  pulse2 := inRange.pulse2.output
  triangle := TriangleInRange.output state.triangle
  noise := inRange.noise.output

end

section

/-! ## Cycles and runs -/

variable {K : Type} [FloatOperations K]
variable (state : SmolnesApuState K)

theorem downsample_frame :
    (downsample state).1.pulse1 = state.pulse1 ∧ (downsample state).1.pulse2 = state.pulse2 ∧
      (downsample state).1.triangle = state.triangle ∧
      (downsample state).1.noise = state.noise ∧
      (downsample state).1.frameCounter = state.frameCounter := by
  unfold downsample
  dsimp only
  split_ifs
  · exact ⟨rfl, rfl, rfl, rfl, rfl⟩
  · exact ⟨rfl, rfl, rfl, rfl, rfl⟩

theorem clockCycle_frameCounter :
    (clockCycle state).1.frameCounter = (clockFrameCounter state).frameCounter :=
  (downsample_frame _).2.2.2.2

theorem InHardwareRange.cycle {state : SmolnesApuState K} (inRange : InHardwareRange state) :
    InHardwareRange (clockCycle state).1 := by
  have timers := inRange.channels.frameCounter.timers (clocksPulses state)
  constructor
  · obtain ⟨pulse1, pulse2, triangle, noise, _⟩ :=
      downsample_frame (clockTimers (clockFrameCounter state) (clocksPulses state))
    constructor
    · rw [clockCycle, pulse1]
      exact timers.pulse1
    · rw [clockCycle, pulse2]
      exact timers.pulse2
    · rw [clockCycle, triangle]
      exact timers.triangle
    · rw [clockCycle, noise]
      exact timers.noise
  · rw [clockCycle_frameCounter, clockFrameCounter_mode,
      clockFrameCounter_count inRange.cycleCount]
    exact nextCount_lt inRange.cycleCount

theorem InHardwareRange.cycles {state : SmolnesApuState K} (inRange : InHardwareRange state)
    (cycles : ℕ) : InHardwareRange (clockCycles state cycles).1 := by
  induction cycles generalizing state with
  | zero => exact inRange
  | succ cycles ih => exact ih inRange.cycle

theorem inHardwareRange_init (outputSampleRate : K) :
    InHardwareRange (smolnesApuInit outputSampleRate) := by
  have envelope : EnvelopeInRange {} := ⟨by decide, by decide, by decide⟩
  have pulse : PulseInRange {} :=
    ⟨by decide, by decide, by decide, by decide, envelope, fun _ => rfl⟩
  have triangle : TriangleInRange {} :=
    ⟨by decide, by decide, by decide, by decide, by decide, fun _ => rfl⟩
  have noise : NoiseInRange { shiftRegister := 1 } :=
    ⟨by decide, by decide, envelope, fun _ => rfl⟩
  exact ⟨⟨pulse, pulse, triangle, noise⟩, Nat.succ_pos 29828⟩

theorem inHardwareRange_reached {outputSampleRate : K} {state : SmolnesApuState K}
    (reached : (machine outputSampleRate).Reachable state) : InHardwareRange state := by
  apply reached.invariant
  · intro state initial
    rw [initial]
    exact inHardwareRange_init outputSampleRate
  · intro before label after inRange moved
    rw [← moved]
    cases label with
    | write addr value => exact inRange.write addr value
    | read addr => exact inRange.read addr
    | clock cpuCycles => exact inRange.cycles cpuCycles.toNat

/-- In the cycles up to the last count of its mode the frame counter passes through every count,
and then it restarts. -/
structure MissesNoStep (state : SmolnesApuState K) : Prop where
  counts : ∀ cycles,
    state.frameCounter.cycleCount.toNat + cycles < cycleLimit state.frameCounter.mode5Step →
      (clockCycles state cycles).1.frameCounter.cycleCount.toNat =
        state.frameCounter.cycleCount.toNat + cycles
  restarts : ∀ cycles,
    state.frameCounter.cycleCount.toNat + cycles = cycleLimit state.frameCounter.mode5Step →
      (clockCycles state cycles).1.frameCounter.cycleCount.toNat = 0

theorem clockCycle_mode :
    (clockCycle state).1.frameCounter.mode5Step = state.frameCounter.mode5Step := by
  rw [clockCycle_frameCounter, clockFrameCounter_mode]

theorem clockCycle_count {state : SmolnesApuState K} (inRange : InHardwareRange state) :
    (clockCycle state).1.frameCounter.cycleCount.toNat =
      nextCount state.frameCounter.mode5Step state.frameCounter.cycleCount.toNat := by
  rw [clockCycle_frameCounter, clockFrameCounter_count inRange.cycleCount]

theorem InHardwareRange.missesNoStep {state : SmolnesApuState K}
    (inRange : InHardwareRange state) : MissesNoStep state := by
  have below := inRange.cycleCount
  constructor
  · intro cycles
    induction cycles generalizing state with
    | zero => exact fun _ => rfl
    | succ cycles ih =>
        intro lt
        have next := clockCycle_count inRange
        rw [nextCount, if_neg (by omega)] at next
        have rest := ih inRange.cycle inRange.cycle.cycleCount
          (by rw [clockCycle_mode, next]; omega)
        rw [next] at rest
        rw [clockCycles]
        rw [rest]
        omega
  · intro cycles
    induction cycles generalizing state with
    | zero => exact fun eq => absurd eq (by omega)
    | succ cycles ih =>
        intro eq
        have next := clockCycle_count inRange
        rw [clockCycles]
        by_cases last : cycles = 0
        · subst last
          rw [nextCount, if_pos (by omega)] at next
          exact next
        · rw [nextCount, if_neg (by omega)] at next
          exact ih inRange.cycle inRange.cycle.cycleCount
            (by rw [clockCycle_mode, next]; omega)

/-- **The chip stays in hardware range.** Whatever has been written, read and clocked, and between
any two cycles of a call, the registers and the outputs have their widths, and the frame counter
misses no count at which it clocks the channels. -/
theorem inHardwareRange_of_reachable {outputSampleRate : K} {state : SmolnesApuState K}
    (reached : (machine outputSampleRate).Reachable state) (cycles : ℕ) :
    InHardwareRange (clockCycles state cycles).1 ∧
      OutputsInRange (clockCycles state cycles).1 ∧ MissesNoStep (clockCycles state cycles).1 := by
  have inRange := (inHardwareRange_reached reached).cycles cycles
  exact ⟨inRange, inRange.channels.outputs, inRange.missesNoStep⟩

theorem inHardwareRange_of_reachable_fiveStep :
    InHardwareRange (clockCycles (smolnesApuWrite (smolnesApuInit (48000 : ℚ)) 0x4017 0x80) 9).1 ∧
      OutputsInRange
        (clockCycles (smolnesApuWrite (smolnesApuInit (48000 : ℚ)) 0x4017 0x80) 9).1 ∧
      MissesNoStep
        (clockCycles (smolnesApuWrite (smolnesApuInit (48000 : ℚ)) 0x4017 0x80) 9).1 :=
  inHardwareRange_of_reachable
    ⟨smolnesApuInit (48000 : ℚ), [.write 0x4017 0x80], rfl, .cons rfl (.nil _)⟩ 9

end

end SmolnesApu

end DirtSim
