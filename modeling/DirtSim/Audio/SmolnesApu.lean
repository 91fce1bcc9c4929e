import DirtSim.Foundation.FloatOperations
import DirtSim.Foundation.Transition
import Mathlib.Data.UInt

/-! # The console's sound chip

Two pulse channels, a triangle channel and a noise channel are set by register writes and run by CPU
cycles; the mixed output is averaged down to the output rate. Of the arithmetic of samples only the
operations are used. The delta modulation channel is ignored.
-/

namespace DirtSim

open Foundation

structure SmolnesApuEnvelope where
  start : Bool := false
  divider : UInt8 := 0
  decayLevel : UInt8 := 0
  volume : UInt8 := 0
  constantVolume : Bool := false
  loop : Bool := false

structure SmolnesApuSweep where
  enabled : Bool := false
  divider : UInt8 := 0
  period : UInt8 := 0
  negate : Bool := false
  shift : UInt8 := 0
  reload : Bool := false

structure SmolnesApuPulse where
  duty : UInt8 := 0
  dutyPosition : UInt8 := 0
  timerPeriod : UInt16 := 0
  timerValue : UInt16 := 0
  lengthCounter : UInt8 := 0
  enabled : Bool := false
  envelope : SmolnesApuEnvelope := {}
  sweep : SmolnesApuSweep := {}

structure SmolnesApuTriangle where
  timerPeriod : UInt16 := 0
  timerValue : UInt16 := 0
  sequencePosition : UInt8 := 0
  lengthCounter : UInt8 := 0
  linearCounter : UInt8 := 0
  linearCounterReload : UInt8 := 0
  linearCounterControl : Bool := false
  linearCounterReloadFlag : Bool := false
  enabled : Bool := false

structure SmolnesApuNoise where
  shiftRegister : UInt16
  timerPeriod : UInt16 := 0
  timerValue : UInt16 := 0
  mode : Bool := false
  lengthCounter : UInt8 := 0
  enabled : Bool := false
  envelope : SmolnesApuEnvelope := {}

structure SmolnesApuFrameCounter where
  cycleCount : UInt32 := 0
  mode5Step : Bool := false
  irqInhibit : Bool := false
  irqPending : Bool := false

def sampleBufferSize : ℕ := 4096

structure SmolnesApuState (K : Type) where
  pulse1 : SmolnesApuPulse := {}
  pulse2 : SmolnesApuPulse := {}
  triangle : SmolnesApuTriangle := {}
  noise : SmolnesApuNoise
  frameCounter : SmolnesApuFrameCounter := {}
  sampleAccumulator : K
  sampleAccumulatorCount : UInt32 := 0
  cycleRemainder : K
  cyclesPerSample : K
  sampleBuffer : Vector K sampleBufferSize
  writePos : UInt32 := 0
  totalSampleCount : UInt64 := 0
  registerWriteCount : UInt64 := 0

namespace SmolnesApu

section

def kLengthCounterTable : List UInt8 :=
  [10, 254, 20, 2, 40, 4, 80, 6, 160, 8, 60, 10, 14, 12, 26, 14,
    12, 16, 24, 18, 48, 20, 96, 22, 192, 24, 72, 26, 16, 28, 32, 30]

def kNoisePeriodTable : List UInt16 :=
  [4, 8, 16, 32, 64, 96, 128, 160, 202, 254, 380, 508, 762, 1016, 2034, 4068]

def kDutyTable : List (List UInt8) :=
  [[0, 1, 0, 0, 0, 0, 0, 0], [0, 1, 1, 0, 0, 0, 0, 0], [0, 1, 1, 1, 1, 0, 0, 0],
    [1, 0, 0, 1, 1, 1, 1, 1]]

def kTriangleSequence : List UInt8 :=
  [15, 14, 13, 12, 11, 10, 9, 8, 7, 6, 5, 4, 3, 2, 1, 0,
    0, 1, 2, 3, 4, 5, 6, 7, 8, 9, 10, 11, 12, 13, 14, 15]

def kFrameCounterStep4 : Vector UInt32 4 := #v[7457, 14913, 22371, 29829]

def kFrameCounterStep5 : Vector UInt32 5 := #v[7457, 14913, 22371, 29829, 37281]

def entry {α : Type} [Zero α] (table : List α) (index : UInt8) : α := table.getD index.toNat 0

end

section

/-! ## Envelopes, sweeps and outputs -/

def clockEnvelope (env : SmolnesApuEnvelope) : SmolnesApuEnvelope :=
  if env.start then { env with start := false, decayLevel := 15, divider := env.volume }
  else if env.divider > 0 then { env with divider := env.divider - 1 }
  else if env.decayLevel > 0 then
    { env with divider := env.volume, decayLevel := env.decayLevel - 1 }
  else if env.loop then { env with divider := env.volume, decayLevel := 15 }
  else { env with divider := env.volume }

def envelopeOutput (env : SmolnesApuEnvelope) : UInt8 :=
  if env.constantVolume then env.volume else env.decayLevel

def applySweep (pulse : SmolnesApuPulse) (isPulse1 : Bool) : SmolnesApuPulse :=
  if !pulse.sweep.enabled || pulse.sweep.shift = 0 then pulse
  else
    let delta := pulse.timerPeriod >>> pulse.sweep.shift.toUInt16
    if pulse.sweep.negate then
      let sub := delta + if isPulse1 then 1 else 0
      if sub ≤ pulse.timerPeriod then { pulse with timerPeriod := pulse.timerPeriod - sub }
      else pulse
    else
      let target := pulse.timerPeriod + delta
      if target ≤ 0x7FF then { pulse with timerPeriod := target } else pulse

def clockPulseSweep (pulse : SmolnesApuPulse) (isPulse1 : Bool) : SmolnesApuPulse :=
  if pulse.sweep.reload then
    let swept := if pulse.sweep.divider = 0 then applySweep pulse isPulse1 else pulse
    { swept with sweep := { swept.sweep with divider := swept.sweep.period, reload := false } }
  else if pulse.sweep.divider > 0 then
    { pulse with sweep := { pulse.sweep with divider := pulse.sweep.divider - 1 } }
  else applySweep { pulse with sweep := { pulse.sweep with divider := pulse.sweep.period } } isPulse1

def pulseOutput (pulse : SmolnesApuPulse) : UInt8 :=
  if !pulse.enabled then 0
  else if pulse.lengthCounter = 0 then 0
  else if pulse.timerPeriod < 8 then 0
  else if (kDutyTable.getD pulse.duty.toNat []).getD pulse.dutyPosition.toNat 0 = 0 then 0
  else envelopeOutput pulse.envelope

def triangleOutput (tri : SmolnesApuTriangle) : UInt8 :=
  if !tri.enabled then 0
  else if tri.lengthCounter = 0 then 0
  else if tri.linearCounter = 0 then 0
  else entry kTriangleSequence tri.sequencePosition

def noiseOutput (noise : SmolnesApuNoise) : UInt8 :=
  if !noise.enabled then 0
  else if noise.lengthCounter = 0 then 0
  else if noise.shiftRegister &&& 1 ≠ 0 then 0
  else envelopeOutput noise.envelope

end

section

/-! ## Timers and counters -/

/-- A length counter that is not halted counts down to zero. -/
def clockLengthCounter (lengthCounter : UInt8) (halted : Bool) : UInt8 :=
  if lengthCounter > 0 && !halted then lengthCounter - 1 else lengthCounter

def clockLinearCounter (tri : SmolnesApuTriangle) : SmolnesApuTriangle :=
  let counted :=
    if tri.linearCounterReloadFlag then { tri with linearCounter := tri.linearCounterReload }
    else if tri.linearCounter > 0 then { tri with linearCounter := tri.linearCounter - 1 }
    else tri
  if !counted.linearCounterControl then { counted with linearCounterReloadFlag := false }
  else counted

def clockPulseTimer (pulse : SmolnesApuPulse) : SmolnesApuPulse :=
  if pulse.timerValue > 0 then { pulse with timerValue := pulse.timerValue - 1 }
  else
    { pulse with
      timerValue := pulse.timerPeriod, dutyPosition := (pulse.dutyPosition + 1) &&& 7 }

def clockNoiseTimer (noise : SmolnesApuNoise) : SmolnesApuNoise :=
  if noise.timerValue > 0 then { noise with timerValue := noise.timerValue - 1 }
  else
    let bit : UInt16 := if noise.mode then 6 else 1
    let feedback := (noise.shiftRegister &&& 1) ^^^ ((noise.shiftRegister >>> bit) &&& 1)
    { noise with
      timerValue := noise.timerPeriod
      shiftRegister := (noise.shiftRegister >>> 1) ||| (feedback <<< 14) }

def clockTriangleTimer (tri : SmolnesApuTriangle) : SmolnesApuTriangle :=
  if tri.timerValue > 0 then { tri with timerValue := tri.timerValue - 1 }
  else if tri.lengthCounter > 0 && tri.linearCounter > 0 then
    { tri with
      timerValue := tri.timerPeriod, sequencePosition := (tri.sequencePosition + 1) &&& 31 }
  else { tri with timerValue := tri.timerPeriod }

end

variable {K : Type}

section

/-! ## Frames -/

def clockQuarterFrame (state : SmolnesApuState K) : SmolnesApuState K :=
  { state with
    pulse1 := { state.pulse1 with envelope := clockEnvelope state.pulse1.envelope }
    pulse2 := { state.pulse2 with envelope := clockEnvelope state.pulse2.envelope }
    noise := { state.noise with envelope := clockEnvelope state.noise.envelope }
    triangle := clockLinearCounter state.triangle }

def clockPulseHalf (pulse : SmolnesApuPulse) (isPulse1 : Bool) : SmolnesApuPulse :=
  clockPulseSweep
    { pulse with lengthCounter := clockLengthCounter pulse.lengthCounter pulse.envelope.loop }
    isPulse1

def clockHalfFrame (state : SmolnesApuState K) : SmolnesApuState K :=
  { state with
    pulse1 := clockPulseHalf state.pulse1 true
    pulse2 := clockPulseHalf state.pulse2 false
    triangle :=
      { state.triangle with
        lengthCounter :=
          clockLengthCounter state.triangle.lengthCounter state.triangle.linearCounterControl }
    noise :=
      { state.noise with
        lengthCounter := clockLengthCounter state.noise.lengthCounter state.noise.envelope.loop } }

def withCycleCount (state : SmolnesApuState K) (cycleCount : UInt32) : SmolnesApuState K :=
  { state with frameCounter := { state.frameCounter with cycleCount := cycleCount } }

def clockFrameCounter (state : SmolnesApuState K) : SmolnesApuState K :=
  let counted := withCycleCount state (state.frameCounter.cycleCount + 1)
  let cc := counted.frameCounter.cycleCount
  if !counted.frameCounter.mode5Step then
    if cc = kFrameCounterStep4[0] || cc = kFrameCounterStep4[2] then clockQuarterFrame counted
    else if cc = kFrameCounterStep4[1] then clockHalfFrame (clockQuarterFrame counted)
    else if cc = kFrameCounterStep4[3] then
      withCycleCount (clockHalfFrame (clockQuarterFrame counted)) 0
    else counted
  else
    if cc = kFrameCounterStep5[0] || cc = kFrameCounterStep5[2] then clockQuarterFrame counted
    else if cc = kFrameCounterStep5[1] || cc = kFrameCounterStep5[3] then
      clockHalfFrame (clockQuarterFrame counted)
    else if cc = kFrameCounterStep5[4] then withCycleCount counted 0
    else counted

end

section

/-! ## CPU cycles -/

/-- The pulse timers are clocked in the CPU cycles in which the frame counter becomes even. -/
def clocksPulses (state : SmolnesApuState K) : Bool :=
  (clockFrameCounter state).frameCounter.cycleCount &&& 1 = 0

/-- The four timers in one CPU cycle, after the frame counter. -/
def clockTimers (state : SmolnesApuState K) (pulses : Bool) : SmolnesApuState K :=
  { state with
    pulse1 := if pulses then clockPulseTimer state.pulse1 else state.pulse1
    pulse2 := if pulses then clockPulseTimer state.pulse2 else state.pulse2
    noise := clockNoiseTimer state.noise
    triangle := clockTriangleTimer state.triangle }

def pushSample (state : SmolnesApuState K) (sample : K) : SmolnesApuState K :=
  { state with
    sampleBuffer := state.sampleBuffer.setIfInBounds state.writePos.toNat sample
    writePos := (state.writePos + 1) % 4096
    totalSampleCount := state.totalSampleCount + 1 }

variable [FloatOperations K]

def mixSamples (p1 p2 tri nse : UInt8) : K :=
  let nat (n : ℕ) : K := (n : K)
  let pulses := p1.toNat + p2.toNat
  let pulseOut : K :=
    if pulses > 0 then nat 9588 / nat 100 / (nat 8128 / nat pulses + nat 100) else 0
  let tndSum : K := nat tri.toNat / nat 8227 + nat nse.toNat / nat 12241
  let tndOut : K :=
    if FloatOperations.lt 0 tndSum then nat 15979 / nat 100 / (1 / tndSum + nat 100) else 0
  pulseOut + tndOut

/-- Adds the output of this cycle, and pushes the average when a sample is due. That sample is also
what the callback gets. -/
def downsample (state : SmolnesApuState K) : SmolnesApuState K × Option K :=
  let sample : K := mixSamples (pulseOutput state.pulse1) (pulseOutput state.pulse2)
    (triangleOutput state.triangle) (noiseOutput state.noise)
  let accumulator := state.sampleAccumulator + sample
  let count := state.sampleAccumulatorCount + 1
  let remainder := state.cycleRemainder + 1
  if FloatOperations.le state.cyclesPerSample remainder then
    let averaged := accumulator / (count.toNat : K)
    ({ pushSample state averaged with
        cycleRemainder := remainder - state.cyclesPerSample
        sampleAccumulator := 0
        sampleAccumulatorCount := 0 }, some averaged)
  else
    ({ state with
        cycleRemainder := remainder
        sampleAccumulator := accumulator
        sampleAccumulatorCount := count }, none)

def clockCycle (state : SmolnesApuState K) : SmolnesApuState K × Option K :=
  downsample (clockTimers (clockFrameCounter state) (clocksPulses state))

/-- The CPU cycles of a call, with the samples that were due in them. -/
def clockCycles (state : SmolnesApuState K) : ℕ → SmolnesApuState K × List K
  | 0 => (state, [])
  | cycles + 1 =>
      let first := clockCycle state
      let rest := clockCycles first.1 cycles
      (rest.1, first.2.toList ++ rest.2)

def smolnesApuClock (state : SmolnesApuState K) (cpuCycles : UInt32) :
    SmolnesApuState K × List K :=
  clockCycles state cpuCycles.toNat

end

section

/-! ## Registers -/

def bit (value : UInt8) (index : UInt8) : Bool := (value >>> index) &&& 1 ≠ 0

def writeDuty (pulse : SmolnesApuPulse) (value : UInt8) : SmolnesApuPulse :=
  { pulse with
    duty := (value >>> 6) &&& 3
    envelope :=
      { pulse.envelope with
        loop := bit value 5, constantVolume := bit value 4, volume := value &&& 0x0F } }

def writeSweep (pulse : SmolnesApuPulse) (value : UInt8) : SmolnesApuPulse :=
  { pulse with
    sweep :=
      { pulse.sweep with
        enabled := bit value 7, period := (value >>> 4) &&& 7, negate := bit value 3
        shift := value &&& 7, reload := true } }

def lowPeriod (timerPeriod : UInt16) (value : UInt8) : UInt16 :=
  (timerPeriod &&& (0x0700 : UInt16)) ||| value.toUInt16

def highPeriod (timerPeriod : UInt16) (value : UInt8) : UInt16 :=
  (timerPeriod &&& (0x00FF : UInt16)) ||| ((value &&& 7).toUInt16 <<< 8)

/-- The length counter is loaded only while its channel is enabled. -/
def loadLength (enabled : Bool) (lengthCounter : UInt8) (value : UInt8) : UInt8 :=
  if enabled then entry kLengthCounterTable (value >>> 3) else lengthCounter

def writePulseHigh (pulse : SmolnesApuPulse) (value : UInt8) : SmolnesApuPulse :=
  { pulse with
    timerPeriod := highPeriod pulse.timerPeriod value
    lengthCounter := loadLength pulse.enabled pulse.lengthCounter value
    envelope := { pulse.envelope with start := true }
    dutyPosition := 0 }

def writePulseLow (pulse : SmolnesApuPulse) (value : UInt8) : SmolnesApuPulse :=
  { pulse with timerPeriod := lowPeriod pulse.timerPeriod value }

def writeTriangleHigh (tri : SmolnesApuTriangle) (value : UInt8) : SmolnesApuTriangle :=
  { tri with
    timerPeriod := highPeriod tri.timerPeriod value
    lengthCounter := loadLength tri.enabled tri.lengthCounter value
    linearCounterReloadFlag := true }

def writeNoiseVolume (noise : SmolnesApuNoise) (value : UInt8) : SmolnesApuNoise :=
  { noise with
    envelope :=
      { noise.envelope with
        loop := bit value 5, constantVolume := bit value 4, volume := value &&& 0x0F } }

def writeNoiseLength (noise : SmolnesApuNoise) (value : UInt8) : SmolnesApuNoise :=
  { noise with
    lengthCounter := loadLength noise.enabled noise.lengthCounter value
    envelope := { noise.envelope with start := true } }

/-- A channel that is disabled loses what its length counter held. -/
def enabledLength (enabled : Bool) (lengthCounter : UInt8) : UInt8 :=
  if enabled then lengthCounter else 0

def writeStatus (state : SmolnesApuState K) (value : UInt8) : SmolnesApuState K :=
  { state with
    pulse1 :=
      { state.pulse1 with
        enabled := bit value 0
        lengthCounter := enabledLength (bit value 0) state.pulse1.lengthCounter }
    pulse2 :=
      { state.pulse2 with
        enabled := bit value 1
        lengthCounter := enabledLength (bit value 1) state.pulse2.lengthCounter }
    triangle :=
      { state.triangle with
        enabled := bit value 2
        lengthCounter := enabledLength (bit value 2) state.triangle.lengthCounter }
    noise :=
      { state.noise with
        enabled := bit value 3
        lengthCounter := enabledLength (bit value 3) state.noise.lengthCounter } }

/-- The mode of the frame counter, which starts anew. -/
def writeFrameCounter (state : SmolnesApuState K) (value : UInt8) : SmolnesApuState K :=
  let restarted :=
    { state with
      frameCounter :=
        { state.frameCounter with
          mode5Step := bit value 7, irqInhibit := bit value 6, cycleCount := 0 } }
  if bit value 7 then clockHalfFrame (clockQuarterFrame restarted) else restarted

/-- What a register does. Other addresses do nothing. -/
def writeRegister (state : SmolnesApuState K) (addr : UInt16) (value : UInt8) :
    SmolnesApuState K :=
  if addr = 0x4000 then { state with pulse1 := writeDuty state.pulse1 value }
  else if addr = 0x4001 then { state with pulse1 := writeSweep state.pulse1 value }
  else if addr = 0x4002 then { state with pulse1 := writePulseLow state.pulse1 value }
  else if addr = 0x4003 then { state with pulse1 := writePulseHigh state.pulse1 value }
  else if addr = 0x4004 then { state with pulse2 := writeDuty state.pulse2 value }
  else if addr = 0x4005 then { state with pulse2 := writeSweep state.pulse2 value }
  else if addr = 0x4006 then { state with pulse2 := writePulseLow state.pulse2 value }
  else if addr = 0x4007 then { state with pulse2 := writePulseHigh state.pulse2 value }
  else if addr = 0x4008 then
    { state with
      triangle :=
        { state.triangle with
          linearCounterControl := bit value 7, linearCounterReload := value &&& 0x7F } }
  else if addr = 0x400A then
    { state with
      triangle :=
        { state.triangle with timerPeriod := lowPeriod state.triangle.timerPeriod value } }
  else if addr = 0x400B then { state with triangle := writeTriangleHigh state.triangle value }
  else if addr = 0x400C then { state with noise := writeNoiseVolume state.noise value }
  else if addr = 0x400E then
    { state with
      noise :=
        { state.noise with
          mode := bit value 7, timerPeriod := entry kNoisePeriodTable (value &&& 0x0F) } }
  else if addr = 0x400F then { state with noise := writeNoiseLength state.noise value }
  else if addr = 0x4015 then writeStatus state value
  else if addr = 0x4017 then writeFrameCounter state value
  else state

def smolnesApuWrite (state : SmolnesApuState K) (addr : UInt16) (value : UInt8) :
    SmolnesApuState K :=
  writeRegister { state with registerWriteCount := state.registerWriteCount + 1 } addr value

def smolnesApuRead (state : SmolnesApuState K) (addr : UInt16) : UInt8 × SmolnesApuState K :=
  if addr ≠ 0x4015 then (0, state)
  else
    let flag (lengthCounter : UInt8) (mask : UInt8) : UInt8 := if lengthCounter > 0 then mask else 0
    (flag state.pulse1.lengthCounter 1 ||| flag state.pulse2.lengthCounter 2 |||
        flag state.triangle.lengthCounter 4 ||| flag state.noise.lengthCounter 8,
      { state with frameCounter := { state.frameCounter with irqPending := false } })

end

section

/-! ## Calls -/

def smolnesApuInit [FloatOperations K] (outputSampleRate : K) : SmolnesApuState K where
  noise := { shiftRegister := 1 }
  sampleAccumulator := 0
  cycleRemainder := 0
  cyclesPerSample := ((1789773 : ℕ) : K) / outputSampleRate
  sampleBuffer := Vector.replicate sampleBufferSize 0

def smolnesApuCopySamples (state : SmolnesApuState K) (maxSamples : UInt32) (fromIndex : UInt64) :
    List K :=
  if state.totalSampleCount = 0 || maxSamples = 0 then []
  else if fromIndex ≥ state.totalSampleCount then []
  else
    let available := state.totalSampleCount - fromIndex
    let clamped := available > 4096
    let available := if clamped then 4096 else available
    let fromIndex := if clamped then state.totalSampleCount - 4096 else fromIndex
    let count : UInt32 :=
      if available < maxSamples.toUInt64 then available.toUInt32 else maxSamples
    let startPos : UInt32 :=
      (state.writePos + 4096 - (state.totalSampleCount - fromIndex).toUInt32) % 4096
    (List.range count.toNat).map fun j =>
      state.sampleBuffer.get
        ⟨(startPos + UInt32.ofNat j).toNat % sampleBufferSize, Nat.mod_lt _ (by decide)⟩

inductive Call
  | write (addr : UInt16) (value : UInt8)
  | read (addr : UInt16)
  | clock (cpuCycles : UInt32)
deriving DecidableEq

variable [FloatOperations K]

def call (state : SmolnesApuState K) : Call → SmolnesApuState K × List K
  | .write addr value => (smolnesApuWrite state addr value, [])
  | .read addr => ((smolnesApuRead state addr).2, [])
  | .clock cpuCycles => smolnesApuClock state cpuCycles

def machine (outputSampleRate : K) : Machine Call (SmolnesApuState K) where
  initial state := state = smolnesApuInit outputSampleRate
  step before action after := (call before action).1 = after

end

end SmolnesApu

end DirtSim
