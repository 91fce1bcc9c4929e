import DirtSim.Foundation.Transition
import Mathlib.Data.UInt
import Mathlib.Logic.Function.Basic

/-! # The ring between the emulator and the audio device

The emulator pushes samples into a ring and the audio device's callback takes them out. The two
share the ring and two positions that count on in 32 bits, and take their steps in any order. Books
are kept of the samples offered and consumed.
-/

namespace DirtSim

open Foundation

def kRingCapacity : UInt32 := 8192

/-- Samples with a count of 32 bits. -/
structure SampleBatch (K : Type) where
  samples : List K
  length_lt : samples.length < 2 ^ 32

inductive PushCall (K : Type)
  | pushSample (sample : K)
  | pushSamples (batch : SampleBatch K)

variable {K : Type}

def PushCall.samples : PushCall K → List K
  | .pushSample sample => [sample]
  | .pushSamples batch => batch.samples

/-- Where the producer is: between two calls, after its load of the write position, or with samples
left to write from a position on. -/
inductive Producer (K : Type)
  | idle
  | loaded (call : PushCall K) (wp : UInt32)
  | writing (wp : UInt32) (left : List K)

def Producer.left : Producer K → List K
  | .idle | .loaded _ _ => []
  | .writing _ left => left

/-- Where the consumer is: between two calls, after its load of the read position, or with samples
left to read from a position on. -/
inductive Consumer
  | idle
  | loaded (frames : ℕ) (rp : UInt32)
  | reading (rp : UInt32) (left : ℕ)

structure NesAudioPlayer (K : Type) where
  ring : Vector K 8192
  readPos : UInt32 := 0
  writePos : UInt32 := 0
  underrunCount : UInt64 := 0
  overrunCount : UInt64 := 0
  callbackCount : UInt64 := 0
  samplesDroppedCount : UInt64 := 0

/-- A player with its two threads and the books. -/
structure AudioRun (K : Type) extends NesAudioPlayer K where
  producer : Producer K := .idle
  consumer : Consumer := .idle
  offered : List (K × Bool) := []
  consumed : List K := []
  unread : Fin 8192 → Bool := fun _ => false

theorem slot_lt (pos : UInt32) : (pos % kRingCapacity).toNat < 8192 := by
  rw [UInt32.toNat_mod]
  exact Nat.mod_lt _ (by decide)

def slotOf (pos : UInt32) : Fin 8192 := ⟨(pos % kRingCapacity).toNat, slot_lt pos⟩

namespace AudioRun

def kept (state : AudioRun K) : List K := (state.offered.filter Prod.snd).map Prod.fst

def dropped (state : AudioRun K) : List K :=
  (state.offered.filter fun offer => !offer.2).map Prod.fst

def held (state : AudioRun K) : ℕ := (state.writePos - state.readPos).toNat

/-! ## The producer -/

/-- `pushSample` after its load of the read position. -/
def takeSample (state : AudioRun K) (sample : K) (wp : UInt32) : AudioRun K :=
  if wp - state.readPos ≥ kRingCapacity then
    { state with
      overrunCount := state.overrunCount + 1
      samplesDroppedCount := state.samplesDroppedCount + 1
      producer := .idle
      offered := state.offered ++ [(sample, false)] }
  else
    { state with
      producer := .writing wp [sample]
      offered := state.offered ++ [(sample, true)] }

/-- `pushSamples` after its load of the read position: it writes what fits and drops the rest. -/
def takeSamples (state : AudioRun K) (batch : SampleBatch K) (wp : UInt32) : AudioRun K :=
  let available := kRingCapacity - (wp - state.readPos)
  let count := UInt32.ofNat batch.samples.length
  if count ≤ available then
    { state with
      producer := .writing wp batch.samples
      offered := state.offered ++ batch.samples.map fun sample => (sample, true) }
  else
    { state with
      overrunCount := state.overrunCount + 1
      samplesDroppedCount := state.samplesDroppedCount + (count - available).toUInt64
      producer := .writing wp (batch.samples.take available.toNat)
      offered := state.offered ++
        ((batch.samples.take available.toNat).map (fun sample => (sample, true)) ++
          (batch.samples.drop available.toNat).map fun sample => (sample, false)) }

def take (state : AudioRun K) (call : PushCall K) (wp : UInt32) : AudioRun K :=
  match call with
  | .pushSample sample => state.takeSample sample wp
  | .pushSamples batch => state.takeSamples batch wp

def writeSlot (state : AudioRun K) (wp : UInt32) (sample : K) (left : List K) : AudioRun K :=
  { state with
    ring := state.ring.setIfInBounds (slotOf wp) sample
    producer := .writing (wp + 1) left
    unread := Function.update state.unread (slotOf wp) true }

/-! ## The consumer -/

/-- `renderToStream` after its load of the write position. -/
def startReading (state : AudioRun K) (frames : ℕ) (rp : UInt32) : AudioRun K :=
  let available := state.writePos - rp
  let samplesToRead := min available.toInt32.toInt (frames : ℤ)
  { state with
    callbackCount := state.callbackCount + 1
    underrunCount :=
      if samplesToRead < frames then state.underrunCount + 1 else state.underrunCount
    consumer := .reading rp samplesToRead.toNat }

def readSlot (state : AudioRun K) (rp : UInt32) (left : ℕ) : AudioRun K :=
  { state with
    consumer := .reading (rp + 1) left
    consumed := state.consumed ++ [state.ring.get (slotOf rp)]
    unread := Function.update state.unread (slotOf rp) false }

/-! ## The interleavings -/

end AudioRun

/-- The atomic steps of the two threads. A call of the producer or of the consumer begins with the
load of its own position. -/
inductive AudioStep (K : Type)
  | push (call : PushCall K)
  | loadReadPos
  | writeSlot
  | storeWritePos
  | render (frames : ℕ)
  | loadWritePos
  | readSlot
  | storeReadPos

namespace AudioRun

def step (state : AudioRun K) : AudioStep K → Option (AudioRun K)
  | .push call =>
      match state.producer with
      | .idle => some { state with producer := .loaded call state.writePos }
      | _ => none
  | .loadReadPos =>
      match state.producer with
      | .loaded call wp => some (state.take call wp)
      | _ => none
  | .writeSlot =>
      match state.producer with
      | .writing wp (sample :: left) => some (state.writeSlot wp sample left)
      | _ => none
  | .storeWritePos =>
      match state.producer with
      | .writing wp [] => some { state with writePos := wp, producer := .idle }
      | _ => none
  | .render frames =>
      match state.consumer with
      | .idle => some { state with consumer := .loaded frames state.readPos }
      | _ => none
  | .loadWritePos =>
      match state.consumer with
      | .loaded frames rp => some (state.startReading frames rp)
      | _ => none
  | .readSlot =>
      match state.consumer with
      | .reading rp (left + 1) => some (state.readSlot rp left)
      | _ => none
  | .storeReadPos =>
      match state.consumer with
      | .reading rp 0 => some { state with readPos := rp, consumer := .idle }
      | _ => none

def machine (K : Type) : Machine (AudioStep K) (AudioRun K) where
  initial state := ∃ ring, state = { ring := ring }
  step before label after := before.step label = some after

end AudioRun

end DirtSim
