import DirtSim.Foundation.FloatOperations
import DirtSim.Foundation.Transition
import Mathlib.Data.UInt
import Mathlib.Logic.Function.Basic

/-! # Notes and voices

Notes are played by a fixed number of voices. Requests are queued; the audio callback takes them
out, applies them and renders frames. What the voices sound like is left out; books are kept of when
and why each note ends, and of the ids handed out.
-/

namespace DirtSim

open Foundation

/-- Rounding to an integer. Where the rounded number has 64 bits the library returns it. -/
class RoundsToInt64 (K : Type) where
  round : K → Option ℤ
  llround : K → ℤ
  llround_eq : ∀ value rounded, round value = some rounded → -2 ^ 63 ≤ rounded →
    rounded < 2 ^ 63 → llround value = rounded

namespace RoundsToInt64

/-- The nearest integer, the farther one from zero between two. -/
def roundRational (value : ℚ) : ℤ := 
  if 0 ≤ value then (value + 1 / 2).floor else -(-value + 1 / 2).floor

/-- A number without 64 bits gives the least one that has them. -/
def llroundRational (value : ℚ) : ℤ :=
  if -2 ^ 63 ≤ roundRational value ∧ roundRational value < 2 ^ 63 then roundRational value
  else -2 ^ 63

theorem llroundRational_eq (value : ℚ) (rounded : ℤ)
    (rounds : some (roundRational value) = some rounded) (low : -2 ^ 63 ≤ rounded)
    (high : rounded < 2 ^ 63) : llroundRational value = rounded := by
  cases rounds
  exact if_pos ⟨low, high⟩

scoped instance rational : RoundsToInt64 ℚ where
  round value := some (roundRational value)
  llround := llroundRational
  llround_eq := llroundRational_eq

end RoundsToInt64

inductive EnvelopeState
  | idle | attack | sustain | release
deriving DecidableEq, Repr

structure Envelope (K : Type) where
  sampleRate : K
  attackSeconds : K
  releaseSeconds : K
  level : K
  state : EnvelopeState := .idle

namespace Envelope

variable {K : Type} [FloatOperations K]

/-- The larger of two numbers, the first where neither is. -/
def maxOf (first second : K) : K := if FloatOperations.lt first second then second else first

def noteOn (envelope : Envelope K) : Envelope K := { envelope with level := 0, state := .attack }

def noteOff (envelope : Envelope K) : Envelope K :=
  if envelope.state ≠ .idle then { envelope with state := .release } else envelope

def setAttackSeconds (envelope : Envelope K) (seconds : K) : Envelope K :=
  { envelope with attackSeconds := maxOf 0 seconds }

def setReleaseSeconds (envelope : Envelope K) (seconds : K) : Envelope K :=
  { envelope with releaseSeconds := maxOf 0 seconds }

def isActive (envelope : Envelope K) : Bool := envelope.state ≠ .idle

def nextAmplitude (envelope : Envelope K) : Envelope K :=
  match envelope.state with
  | .idle => { envelope with level := 0 }
  | .attack =>
      if FloatOperations.le envelope.attackSeconds 0 then
        { envelope with level := 1, state := .sustain }
      else
        let level := envelope.level + 1 / (envelope.attackSeconds * envelope.sampleRate)
        if FloatOperations.le 1 level then { envelope with level := 1, state := .sustain }
        else { envelope with level := level }
  | .release =>
      if FloatOperations.le envelope.releaseSeconds 0 then
        { envelope with level := 0, state := .idle }
      else
        let level := envelope.level - 1 / (envelope.releaseSeconds * envelope.sampleRate)
        if FloatOperations.le level 0 then { envelope with level := 0, state := .idle }
        else { envelope with level := level }
  | .sustain => envelope

end Envelope

inductive AudioNoteHoldState
  | held | releasing
deriving DecidableEq, Repr

/-- What makes a note end: its own duration, after a number of frames, or a command. -/
inductive ReleaseCause
  | duration (frames : ℕ)
  | command
deriving DecidableEq, Repr

/-- The books of a voice: when its note is due to end by itself, how long it has been rendered, and
what has made it end. -/
structure NoteRecord where
  due : Option ℤ := none
  age : ℕ := 0
  ended : Option ReleaseCause := none

structure VoiceSlot (K : Type) where
  voice : Envelope K
  noteId : UInt32 := 0
  autoNoteOffFramesRemaining : ℤ := -1
  startOrder : ℕ := 0
  holdState : AudioNoteHoldState := .held
  record : NoteRecord := {}

structure NoteOnCommand (K : Type) where
  attackSeconds : K
  durationSeconds : K
  releaseSeconds : K
  noteId : UInt32

inductive AudioCommand (K : Type)
  | noteOn (command : NoteOnCommand K)
  | noteOff (noteId : UInt32)

def kCommandQueueCapacity : ℕ := 128

def kVoiceCount : ℕ := 16

theorem voiceCount_pos : 0 < kVoiceCount := Nat.succ_pos 15

structure AudioEngine (K : Type) where
  sampleRate : ℕ
  voices : Fin kVoiceCount → VoiceSlot K
  nextVoiceStartOrder : ℕ := 1
  nextNoteId : UInt32 := 1
  commandQueue : List (AudioCommand K) := []
  assigned : ℕ := 0

namespace AudioEngine

variable {K : Type}

def voiceIndexes : List (Fin kVoiceCount) := List.finRange kVoiceCount

/-! ## Requests -/

def enqueueCommand (engine : AudioEngine K) (command : AudioCommand K) : AudioEngine K :=
  if engine.commandQueue.length ≥ kCommandQueueCapacity then engine
  else { engine with commandQueue := engine.commandQueue ++ [command] }

/-- A note without an id is given the next one. The id is returned even if the request is dropped. -/
def enqueueNoteOn (engine : AudioEngine K) (command : NoteOnCommand K) : AudioEngine K × UInt32 :=
  if command.noteId = 0 then
    let numbered := { engine with
      nextNoteId := engine.nextNoteId + 1
      assigned := engine.assigned + 1 }
    (numbered.enqueueCommand (.noteOn { command with noteId := engine.nextNoteId }),
      engine.nextNoteId)
  else (engine.enqueueCommand (.noteOn command), command.noteId)

def enqueueNoteOff (engine : AudioEngine K) (noteId : UInt32) : AudioEngine K :=
  engine.enqueueCommand (.noteOff noteId)

/-! ## Choosing a voice -/

section

variable [FloatOperations K]

structure StealCandidate (K : Type) where
  releasing : Bool
  envelopeLevel : K
  startOrder : ℕ
  voiceIndex : Fin kVoiceCount

/-- The first candidate is missed less: an ending note, then the quietest, then the oldest. -/
def StealCandidate.preferred (current best : StealCandidate K) : Bool :=
  if current.releasing ≠ best.releasing then current.releasing
  else if FloatOperations.lt current.envelopeLevel best.envelopeLevel then true
  else if FloatOperations.lt best.envelopeLevel current.envelopeLevel then false
  else if current.startOrder < best.startOrder then true
  else if current.startOrder > best.startOrder then false
  else current.voiceIndex < best.voiceIndex

def stealCandidate (engine : AudioEngine K) (voiceIndex : Fin kVoiceCount) : StealCandidate K where
  releasing := (engine.voices voiceIndex).holdState = .releasing
  envelopeLevel := (engine.voices voiceIndex).voice.level
  startOrder := (engine.voices voiceIndex).startOrder
  voiceIndex := voiceIndex

def compareCandidate (engine : AudioEngine K) (best : Option (StealCandidate K))
    (voiceIndex : Fin kVoiceCount) : Option (StealCandidate K) :=
  let voice := engine.voices voiceIndex
  if voice.noteId = 0 ∨ ¬ voice.voice.isActive then best
  else
    let current := engine.stealCandidate voiceIndex
    match best with
    | none => some current
    | some best => some (if current.preferred best then current else best)

def selectVoiceIndexToSteal (engine : AudioEngine K) : Fin kVoiceCount :=
  match voiceIndexes.foldl engine.compareCandidate none with
  | none => ⟨0, voiceCount_pos⟩
  | some best => best.voiceIndex

def selectVoiceIndexForNoteOn (engine : AudioEngine K) (noteId : UInt32) : Fin kVoiceCount :=
  match voiceIndexes.find? fun voiceIndex =>
      (engine.voices voiceIndex).noteId = noteId && (engine.voices voiceIndex).voice.isActive with
  | some voiceIndex => voiceIndex
  | none =>
      match voiceIndexes.find? fun voiceIndex =>
          (engine.voices voiceIndex).noteId = 0 || !(engine.voices voiceIndex).voice.isActive with
      | some voiceIndex => voiceIndex
      | none => engine.selectVoiceIndexToSteal

/-! ## Commands -/

def setVoice (engine : AudioEngine K) (voiceIndex : Fin kVoiceCount) (voice : VoiceSlot K) :
    AudioEngine K :=
  { engine with voices := Function.update engine.voices voiceIndex voice }

/-- After how many frames a note with a duration is to end. -/
def dueFrames [RoundsToInt64 K] (sampleRate : ℕ) (durationSeconds : K) : Option ℤ :=
  if FloatOperations.lt 0 durationSeconds then
    (RoundsToInt64.round (durationSeconds * (sampleRate : K))).map (max 1)
  else none

def startVoice [RoundsToInt64 K] (engine : AudioEngine K) (voiceIndex : Fin kVoiceCount)
    (command : NoteOnCommand K) : AudioEngine K :=
  let slot := engine.voices voiceIndex
  { engine.setVoice voiceIndex
      { voice := ((slot.voice.setAttackSeconds command.attackSeconds).setReleaseSeconds
          command.releaseSeconds).noteOn
        noteId := command.noteId
        startOrder := engine.nextVoiceStartOrder
        holdState := .held
        autoNoteOffFramesRemaining :=
          if FloatOperations.lt 0 command.durationSeconds then
            max 1 (RoundsToInt64.llround (command.durationSeconds * (engine.sampleRate : K)))
          else -1
        record := { due := dueFrames engine.sampleRate command.durationSeconds } } with
    nextVoiceStartOrder := engine.nextVoiceStartOrder + 1 }

def releaseVoice (engine : AudioEngine K) (voiceIndex : Fin kVoiceCount) : AudioEngine K :=
  let slot := engine.voices voiceIndex
  if slot.noteId = 0 ∨ ¬ slot.voice.isActive then engine
  else engine.setVoice voiceIndex
    { slot with
      voice := slot.voice.noteOff
      autoNoteOffFramesRemaining := -1
      holdState := .releasing
      record := { slot.record with ended := some (slot.record.ended.getD .command) } }

def applyCommand [RoundsToInt64 K] (engine : AudioEngine K) : AudioCommand K → AudioEngine K
  | .noteOn command => engine.startVoice (engine.selectVoiceIndexForNoteOn command.noteId) command
  | .noteOff noteId =>
      if noteId = 0 then voiceIndexes.foldl releaseVoice engine
      else
        match voiceIndexes.find? fun voiceIndex => (engine.voices voiceIndex).noteId = noteId with
        | some voiceIndex => engine.releaseVoice voiceIndex
        | none => engine

/-! ## Rendering -/

/-- A voice after one more sample, once it has been counted and cleaned up. -/
def renderVoice (slot : VoiceSlot K) : VoiceSlot K :=
  let sounded := { slot with voice := slot.voice.nextAmplitude }
  if slot.noteId = 0 then sounded
  else
    let aged := { sounded with record := { slot.record with age := slot.record.age + 1 } }
    let counted :=
      if slot.autoNoteOffFramesRemaining > 0 then
        if slot.autoNoteOffFramesRemaining - 1 = 0 then
          { aged with
            voice := aged.voice.noteOff
            autoNoteOffFramesRemaining := -1
            holdState := .releasing
            record := { aged.record with
              ended := some (aged.record.ended.getD (.duration aged.record.age)) } }
        else { aged with autoNoteOffFramesRemaining := slot.autoNoteOffFramesRemaining - 1 }
      else aged
    if ¬ counted.voice.isActive then
      { counted with
        noteId := 0
        autoNoteOffFramesRemaining := -1
        startOrder := 0
        holdState := .held }
    else counted

def renderFrame (engine : AudioEngine K) : AudioEngine K :=
  { engine with voices := fun voiceIndex => renderVoice (engine.voices voiceIndex) }

/-- The callback takes the oldest request out of the queue and applies it. -/
def drainCommand [RoundsToInt64 K] (engine : AudioEngine K) : AudioEngine K :=
  match engine.commandQueue with
  | [] => engine
  | command :: rest => { engine with commandQueue := rest }.applyCommand command

def drainCommands [RoundsToInt64 K] (engine : AudioEngine K) : AudioEngine K :=
  engine.commandQueue.foldl (fun engine _ => engine.drainCommand) engine

def renderFrames (engine : AudioEngine K) : ℕ → AudioEngine K
  | 0 => engine
  | frames + 1 => engine.renderFrame.renderFrames frames

def render [RoundsToInt64 K] (engine : AudioEngine K) (frames : ℕ) : AudioEngine K :=
  engine.drainCommands.renderFrames frames

/-! ## Runs -/

/-- What the engine does: it takes requests, and the callback applies them one after another and
renders one frame after another. -/
inductive Operation (K : Type)
  | enqueueNoteOn (command : NoteOnCommand K)
  | enqueueNoteOff (noteId : UInt32)
  | drainCommand
  | renderFrame

def perform [RoundsToInt64 K] (engine : AudioEngine K) : Operation K → AudioEngine K
  | .enqueueNoteOn command => (engine.enqueueNoteOn command).1
  | .enqueueNoteOff noteId => engine.enqueueNoteOff noteId
  | .drainCommand => engine.drainCommand
  | .renderFrame => engine.renderFrame

def machine (K : Type) [FloatOperations K] [RoundsToInt64 K] :
    Machine (Operation K) (AudioEngine K) where
  initial engine := ∃ sampleRate voices, (∀ voiceIndex, (voices voiceIndex).voice.state = .idle ∧
    (voices voiceIndex).noteId = 0) ∧ engine = { sampleRate := sampleRate, voices := voices }
  step before operation after := before.perform operation = after

end

end AudioEngine

end DirtSim
