import DirtSim.Audio.AudioEngine

/-! # No stuck notes and no shadowed ones

Between two frames a voice is free, plays a note that is held, or one that is ending, and an id is
on one voice at most. This rests on ids that are not zero and not in use, which the wrapping counter
does not see to (`allocates_of_permitted`).
-/

namespace DirtSim

open Foundation

namespace AudioEngine

variable {K : Type} [FloatOperations K]
variable {envelope : Envelope K}

/-! ## One voice -/

/-- What a voice is doing between two frames. -/
inductive SlotPhase (slot : VoiceSlot K) : Prop
  | free (unnamed : slot.noteId = 0) (silent : slot.voice.state = .idle)
  | held (named : slot.noteId ≠ 0) (sounding : slot.voice.state ≠ .idle)
      (lasting : slot.voice.state ≠ .release) (hold : slot.holdState = .held)
      (going : slot.record.ended = none)
      (counting : (slot.record.due = none ∧ slot.autoNoteOffFramesRemaining = -1) ∨
        ∃ frames, slot.record.due = some frames ∧ (slot.record.age : ℤ) < frames ∧
          slot.autoNoteOffFramesRemaining = frames - slot.record.age)
  | releasing (named : slot.noteId ≠ 0) (fading : slot.voice.state = .release)
      (hold : slot.holdState = .releasing) (counted : slot.autoNoteOffFramesRemaining = -1)
      (cause : ReleaseCause) (ended : slot.record.ended = some cause)
      (onTime : ∀ frames due, cause = .duration frames → slot.record.due = some due →
        (frames : ℤ) = due)

namespace SlotPhase

variable {slot : VoiceSlot K}

omit [FloatOperations K] in
theorem isActive_iff (phase : SlotPhase slot) : slot.voice.isActive = true ↔ slot.noteId ≠ 0 := by
  unfold Envelope.isActive
  rw [decide_eq_true_iff]
  cases phase with
  | free unnamed silent =>
      exact ⟨fun sounding => absurd silent sounding, fun named => absurd unnamed named⟩
  | held named sounding => exact ⟨fun _ => named, fun _ => sounding⟩
  | releasing named fading =>
      refine ⟨fun _ => named, fun _ => ?_⟩
      rw [fading]
      exact EnvelopeState.noConfusion

end SlotPhase

theorem nextAmplitude_lasting (sounding : envelope.state ≠ .idle)
    (lasting : envelope.state ≠ .release) :
    envelope.nextAmplitude.state ≠ .idle ∧ envelope.nextAmplitude.state ≠ .release := by
  unfold Envelope.nextAmplitude
  cases state : envelope.state with
  | idle => exact absurd state sounding
  | release => exact absurd state lasting
  | sustain =>
      dsimp only
      rw [state]
      exact ⟨EnvelopeState.noConfusion, EnvelopeState.noConfusion⟩
  | attack =>
      dsimp only
      split
      · exact ⟨EnvelopeState.noConfusion, EnvelopeState.noConfusion⟩
      · split
        · exact ⟨EnvelopeState.noConfusion, EnvelopeState.noConfusion⟩
        · exact ⟨EnvelopeState.noConfusion, EnvelopeState.noConfusion⟩

theorem nextAmplitude_fading (fading : envelope.state = .release) :
    envelope.nextAmplitude.state = .release ∨ envelope.nextAmplitude.state = .idle := by
  unfold Envelope.nextAmplitude
  rw [fading]
  dsimp only
  split
  · exact .inr rfl
  · split
    · exact .inr rfl
    · exact .inl rfl

theorem nextAmplitude_silent (silent : envelope.state = .idle) :
    envelope.nextAmplitude.state = .idle := by
  unfold Envelope.nextAmplitude
  rw [silent]

omit [FloatOperations K] in
theorem isActive_of_ne (sounding : envelope.state ≠ .idle) :
    envelope.isActive = true := decide_eq_true sounding

theorem SlotPhase.renderVoice {slot : VoiceSlot K} (phase : SlotPhase slot) :
    SlotPhase (renderVoice slot) := by
  unfold AudioEngine.renderVoice
  cases phase with
  | free unnamed silent =>
      rw [if_pos unnamed]
      exact .free unnamed (nextAmplitude_silent silent)
  | held named sounding lasting hold going counting =>
      obtain ⟨sounds, lasts⟩ := nextAmplitude_lasting sounding lasting
      dsimp only
      rw [if_neg named]
      rcases counting with ⟨endless, unset⟩ | ⟨frames, due, early, remaining⟩
      · have still : ¬ slot.autoNoteOffFramesRemaining > 0 := by
          rw [unset]
          decide
        rw [if_neg still, if_neg fun silent => silent (isActive_of_ne sounds)]
        exact .held named sounds lasts hold going (.inl ⟨endless, unset⟩)
      · have counts : slot.autoNoteOffFramesRemaining > 0 := by omega
        rw [if_pos counts]
        by_cases last : slot.autoNoteOffFramesRemaining - 1 = 0
        · -- The last frame of its duration: the note begins to end.
          have fades : slot.voice.nextAmplitude.noteOff.state = .release := by
            unfold Envelope.noteOff
            rw [if_pos sounds]
          have active : slot.voice.nextAmplitude.noteOff.isActive = true :=
            isActive_of_ne (by rw [fades]; exact EnvelopeState.noConfusion)
          rw [if_pos last, if_neg fun silent => silent active]
          refine .releasing named fades rfl rfl (.duration (slot.record.age + 1)) ?_ ?_
          · dsimp only
            rw [going]
            rfl
          · intro age other isAge isDue
            obtain rfl := ReleaseCause.duration.inj isAge
            obtain rfl := Option.some.inj (due.symm.trans isDue)
            push_cast
            omega
        · rw [if_neg last, if_neg fun silent => silent (isActive_of_ne sounds)]
          refine .held named sounds lasts hold going (.inr ⟨frames, due, ?_, ?_⟩)
          · dsimp only
            push_cast
            omega
          · dsimp only
            push_cast
            omega
  | releasing named fading hold counted cause ended onTime =>
      have still : ¬ slot.autoNoteOffFramesRemaining > 0 := by
        rw [counted]
        decide
      dsimp only
      rw [if_neg named, if_neg still]
      rcases nextAmplitude_fading fading with fades | silent
      · have active : slot.voice.nextAmplitude.isActive = true :=
          isActive_of_ne (by rw [fades]; exact EnvelopeState.noConfusion)
        rw [if_neg fun silent => silent active]
        exact .releasing named fades hold counted cause ended onTime
      · have inactive : slot.voice.nextAmplitude.isActive = false :=
          decide_eq_false fun sounding => sounding silent
        rw [inactive, if_pos Bool.false_ne_true]
        exact .free rfl silent

/-! ## Choosing a voice -/

section

variable (engine : AudioEngine K)

def Playing (voiceIndex : Fin kVoiceCount) : Prop :=
  (engine.voices voiceIndex).noteId ≠ 0 ∧ (engine.voices voiceIndex).voice.isActive = true

def Best (seen : List (Fin kVoiceCount)) : Option (StealCandidate K) → Prop
  | none => ∀ voiceIndex ∈ seen, ¬ engine.Playing voiceIndex
  | some best => best = engine.stealCandidate best.voiceIndex ∧
      (best.releasing = false → ∀ voiceIndex ∈ seen, engine.Playing voiceIndex →
        (engine.voices voiceIndex).holdState = .held)

theorem releasing_preferred (current best : StealCandidate K) :
    (if current.preferred best then current else best).releasing =
      (current.releasing || best.releasing) := by
  unfold StealCandidate.preferred
  have equal {ending : Bool} (first : current.releasing = ending) (second : best.releasing = ending)
      (chosen : Bool) : (if chosen = true then current else best).releasing = ending := by
    cases chosen
    · exact second
    · exact first
  cases ending : current.releasing <;> cases ended : best.releasing
  · exact equal ending ended _
  · rw [if_pos Bool.false_ne_true, if_neg Bool.false_ne_true]
    exact ended
  · rw [if_pos fun same => Bool.false_ne_true same.symm, if_pos rfl]
    exact ending
  · exact equal ending ended _

variable {engine}

theorem Best.compare {seen : List (Fin kVoiceCount)} {best : Option (StealCandidate K)}
    (isBest : engine.Best seen best) (voiceIndex : Fin kVoiceCount) :
    engine.Best (seen ++ [voiceIndex]) (engine.compareCandidate best voiceIndex) := by
  unfold compareCandidate
  dsimp only
  split
  case isTrue resting =>
    have rests : ¬ engine.Playing voiceIndex := fun plays =>
      resting.elim plays.1 fun inactive => inactive plays.2
    cases best with
    | none =>
        intro other member
        rcases List.mem_append.mp member with before | last
        · exact isBest other before
        · rw [List.mem_singleton.mp last]
          exact rests
    | some best =>
        refine ⟨isBest.1, fun held other member plays => ?_⟩
        rcases List.mem_append.mp member with before | last
        · exact isBest.2 held other before plays
        · rw [List.mem_singleton.mp last] at plays
          exact absurd plays rests
  case isFalse =>
    have hold : (engine.stealCandidate voiceIndex).releasing = false →
        (engine.voices voiceIndex).holdState = .held := by
      intro notEnding
      cases hold : (engine.voices voiceIndex).holdState with
      | held => rfl
      | releasing => exact absurd hold (of_decide_eq_false notEnding)
    cases best with
    | none =>
        refine ⟨rfl, fun held other member plays => ?_⟩
        rcases List.mem_append.mp member with before | last
        · exact absurd plays (isBest other before)
        · rw [List.mem_singleton.mp last]
          exact hold held
    | some best =>
        refine ⟨?_, fun held other member plays => ?_⟩
        · split
          · rfl
          · exact isBest.1
        · rw [releasing_preferred] at held
          obtain ⟨current, old⟩ := Bool.or_eq_false_iff.mp held
          rcases List.mem_append.mp member with before | last
          · exact isBest.2 old other before plays
          · rw [List.mem_singleton.mp last]
            exact hold current

theorem best_foldl (rest seen : List (Fin kVoiceCount)) {best : Option (StealCandidate K)}
    (isBest : engine.Best seen best) :
    engine.Best (seen ++ rest) (rest.foldl engine.compareCandidate best) := by
  induction rest generalizing seen best with
  | nil =>
      rw [List.append_nil]
      exact isBest
  | cons voiceIndex rest ih =>
      have next := ih (seen ++ [voiceIndex]) (isBest.compare voiceIndex)
      rw [List.append_assoc] at next
      exact next

theorem held_of_selectVoiceIndexToSteal (playing : ∀ voiceIndex, engine.Playing voiceIndex)
    (held : (engine.voices engine.selectVoiceIndexToSteal).holdState = .held)
    (voiceIndex : Fin kVoiceCount) : (engine.voices voiceIndex).holdState = .held := by
  have isBest : engine.Best voiceIndexes (voiceIndexes.foldl engine.compareCandidate none) :=
    best_foldl voiceIndexes [] fun voiceIndex seen => absurd seen List.not_mem_nil
  unfold selectVoiceIndexToSteal at held
  cases chosen : voiceIndexes.foldl engine.compareCandidate none with
  | none =>
      rw [chosen] at isBest
      exact absurd (playing voiceIndex) (isBest voiceIndex (List.mem_finRange _))
  | some best =>
      rw [chosen] at isBest held
      refine isBest.2 ?_ voiceIndex (List.mem_finRange _) (playing voiceIndex)
      rw [isBest.1]
      refine decide_eq_false fun releasing => ?_
      exact absurd (held.symm.trans releasing) AudioNoteHoldState.noConfusion

end

/-! ## Every step -/

section

variable [RoundsToInt64 K]

/-- A note with a duration lasts a number of frames that has 64 bits. -/
def Countable (sampleRate : ℕ) (durationSeconds : K) : Prop :=
  FloatOperations.lt 0 durationSeconds = true → ∃ frames,
    RoundsToInt64.round (durationSeconds * (sampleRate : K)) = some frames ∧
      -2 ^ 63 ≤ frames ∧ frames < 2 ^ 63

def Acceptable (sampleRate : ℕ) : AudioCommand K → Prop
  | .noteOn command => command.noteId ≠ 0 ∧ Countable sampleRate command.durationSeconds
  | .noteOff _ => True

/-- Every voice is in a phase, no id is on two of them, and the requests can be served. -/
structure Allocated (engine : AudioEngine K) : Prop where
  phases : ∀ voiceIndex, SlotPhase (engine.voices voiceIndex)
  unique : ∀ first second, (engine.voices first).noteId = (engine.voices second).noteId →
    (engine.voices first).noteId ≠ 0 → first = second
  numbered : engine.nextNoteId = UInt32.ofNat (engine.assigned + 1)
  queued : ∀ command ∈ engine.commandQueue, Acceptable engine.sampleRate command

variable {engine : AudioEngine K}

/-- The voice for a note: the one that plays its id; else a free one; else one of those that are
missed least. -/
theorem Allocated.select_spec (allocated : engine.Allocated) {noteId : UInt32}
    (named : noteId ≠ 0) :
    (engine.voices (engine.selectVoiceIndexForNoteOn noteId)).noteId = noteId ∨
      ((∀ other, (engine.voices other).noteId ≠ noteId) ∧
        ((engine.voices (engine.selectVoiceIndexForNoteOn noteId)).noteId = 0 ∨
          ((∀ other, (engine.voices other).noteId ≠ 0) ∧
            ((engine.voices (engine.selectVoiceIndexForNoteOn noteId)).holdState = .held →
              ∀ other, (engine.voices other).holdState = .held)))) := by
  have active (voiceIndex : Fin kVoiceCount) := (allocated.phases voiceIndex).isActive_iff
  unfold selectVoiceIndexForNoteOn
  cases same : voiceIndexes.find? fun voiceIndex =>
      (engine.voices voiceIndex).noteId = noteId && (engine.voices voiceIndex).voice.isActive with
  | some voiceIndex =>
      have found := List.find?_some same
      simp only [Bool.and_eq_true, decide_eq_true_eq] at found
      exact .inl found.1
  | none =>
      have nowhere : ∀ other, (engine.voices other).noteId ≠ noteId := by
        intro other here
        have missed := List.find?_eq_none.mp same other (List.mem_finRange _)
        refine missed ?_
        simp only [Bool.and_eq_true, decide_eq_true_eq]
        exact ⟨here, (active other).mpr (here ▸ named)⟩
      refine .inr ⟨nowhere, ?_⟩
      cases free : voiceIndexes.find? fun voiceIndex =>
          (engine.voices voiceIndex).noteId = 0 ||
            !(engine.voices voiceIndex).voice.isActive with
      | some voiceIndex =>
          have found := List.find?_some free
          simp only [Bool.or_eq_true, decide_eq_true_eq, Bool.not_eq_true',
            Bool.eq_false_iff] at found
          refine .inl (found.elim id fun inactive => ?_)
          exact Decidable.not_not.mp fun plays => inactive ((active voiceIndex).mpr plays)
      | none =>
          have playing : ∀ other, engine.Playing other := by
            intro other
            have busy := List.find?_eq_none.mp free other (List.mem_finRange _)
            simp only [Bool.or_eq_true, decide_eq_true_eq, not_or] at busy
            exact ⟨busy.1, (active other).mpr busy.1⟩
          exact .inr ⟨fun other => (playing other).1, held_of_selectVoiceIndexToSteal playing⟩

theorem slotPhase_started {command : NoteOnCommand K} (named : command.noteId ≠ 0)
    (countable : Countable engine.sampleRate command.durationSeconds)
    (voiceIndex : Fin kVoiceCount) :
    SlotPhase ((engine.startVoice voiceIndex command).voices voiceIndex) := by
  unfold startVoice setVoice
  dsimp only
  rw [Function.update_self]
  refine .held named EnvelopeState.noConfusion EnvelopeState.noConfusion rfl rfl ?_
  dsimp only
  cases lasts : FloatOperations.lt 0 command.durationSeconds with
  | false =>
      refine .inl ⟨?_, if_neg Bool.false_ne_true⟩
      unfold dueFrames
      rw [lasts, if_neg Bool.false_ne_true]
  | true =>
      obtain ⟨frames, rounded, low, high⟩ := countable lasts
      refine .inr ⟨max 1 frames, ?_, ?_, ?_⟩
      · unfold dueFrames
        rw [lasts, if_pos rfl, rounded]
        rfl
      · exact lt_of_lt_of_le Int.one_pos (le_max_left 1 frames)
      · rw [if_pos rfl, RoundsToInt64.llround_eq _ _ rounded low high]
        exact (sub_zero _).symm

theorem Allocated.startVoice (allocated : engine.Allocated) {command : NoteOnCommand K}
    (named : command.noteId ≠ 0)
    (countable : Countable engine.sampleRate command.durationSeconds) :
    (engine.startVoice (engine.selectVoiceIndexForNoteOn command.noteId) command).Allocated := by
  have spec := allocated.select_spec named
  set chosen := engine.selectVoiceIndexForNoteOn command.noteId
  have here : ((engine.startVoice chosen command).voices chosen).noteId = command.noteId := by
    unfold AudioEngine.startVoice setVoice
    dsimp only
    rw [Function.update_self]
  have elsewhere {other : Fin kVoiceCount} (apart : other ≠ chosen) :
      (engine.startVoice chosen command).voices other = engine.voices other :=
    Function.update_of_ne apart _ _
  -- No other voice has the id: one that had it would have been chosen.
  have alone (other : Fin kVoiceCount) (apart : other ≠ chosen) :
      (engine.voices other).noteId ≠ command.noteId := by
    intro same
    rcases spec with taken | ⟨nowhere, _⟩
    · exact apart (allocated.unique other chosen (same.trans taken.symm) (same ▸ named))
    · exact nowhere other same
  refine ⟨fun voiceIndex => ?_, fun first second same nonzero => ?_, allocated.numbered,
    allocated.queued⟩
  · by_cases this : voiceIndex = chosen
    · rw [this]
      exact slotPhase_started named countable chosen
    · rw [elsewhere this]
      exact allocated.phases voiceIndex
  · by_cases isFirst : first = chosen <;> by_cases isSecond : second = chosen
    · exact isFirst.trans isSecond.symm
    · rw [isFirst, here, elsewhere isSecond] at same
      exact absurd same.symm (alone second isSecond)
    · rw [isSecond, here, elsewhere isFirst] at same
      exact absurd same (alone first isFirst)
    · rw [elsewhere isFirst, elsewhere isSecond] at same
      rw [elsewhere isFirst] at nonzero
      exact allocated.unique first second same nonzero

end

section

variable {engine : AudioEngine K}

section

omit [FloatOperations K]

theorem releaseVoice_of_ne {voiceIndex other : Fin kVoiceCount} (apart : other ≠ voiceIndex) :
    (engine.releaseVoice voiceIndex).voices other = engine.voices other := by
  unfold releaseVoice
  dsimp only
  split
  · rfl
  · exact Function.update_of_ne apart _ _

theorem releaseVoice_noteId (voiceIndex other : Fin kVoiceCount) :
    ((engine.releaseVoice voiceIndex).voices other).noteId = (engine.voices other).noteId := by
  by_cases this : other = voiceIndex
  · subst this
    unfold releaseVoice
    dsimp only
    split
    · rfl
    · unfold setVoice
      dsimp only
      rw [Function.update_self]
  · rw [releaseVoice_of_ne this]

theorem releaseVoice_self {voiceIndex : Fin kVoiceCount}
    (phase : SlotPhase (engine.voices voiceIndex))
    (named : (engine.voices voiceIndex).noteId ≠ 0) :
    SlotPhase ((engine.releaseVoice voiceIndex).voices voiceIndex) ∧
      ((engine.releaseVoice voiceIndex).voices voiceIndex).voice.state = .release := by
  have active := phase.isActive_iff.mpr named
  have sounding : (engine.voices voiceIndex).voice.state ≠ .idle := of_decide_eq_true active
  have fades : (engine.voices voiceIndex).voice.noteOff.state = .release := by
    unfold Envelope.noteOff
    rw [if_pos sounding]
  unfold releaseVoice
  rw [if_neg fun resting => resting.elim named fun inactive => inactive active]
  unfold setVoice
  dsimp only
  rw [Function.update_self]
  refine ⟨?_, fades⟩
  cases phase with
  | free unnamed => exact absurd unnamed named
  | held _ _ _ _ going =>
      refine .releasing named fades rfl rfl .command ?_ fun frames due cause =>
        ReleaseCause.noConfusion cause
      rw [going]
      rfl
  | releasing _ _ _ _ cause ended onTime =>
      refine .releasing named fades rfl rfl cause ?_ onTime
      rw [ended]
      rfl

theorem releaseVoice_phase (phases : ∀ voiceIndex, SlotPhase (engine.voices voiceIndex))
    (voiceIndex other : Fin kVoiceCount) :
    SlotPhase ((engine.releaseVoice voiceIndex).voices other) := by
  by_cases this : other = voiceIndex
  · subst this
    by_cases named : (engine.voices other).noteId = 0
    · unfold releaseVoice
      rw [if_pos (.inl named)]
      exact phases other
    · exact (releaseVoice_self (phases other) named).1
  · rw [releaseVoice_of_ne this]
    exact phases other

end

omit [FloatOperations K] in
variable (engine) in
theorem releaseVoice_books (voiceIndex : Fin kVoiceCount) :
    (engine.releaseVoice voiceIndex).nextNoteId = engine.nextNoteId ∧
      (engine.releaseVoice voiceIndex).assigned = engine.assigned ∧
      (engine.releaseVoice voiceIndex).commandQueue = engine.commandQueue ∧
      (engine.releaseVoice voiceIndex).sampleRate = engine.sampleRate := by
  unfold releaseVoice
  dsimp only
  split
  · exact ⟨rfl, rfl, rfl, rfl⟩
  · exact ⟨rfl, rfl, rfl, rfl⟩

variable [RoundsToInt64 K]

theorem Allocated.releaseVoice (allocated : engine.Allocated) (voiceIndex : Fin kVoiceCount) :
    (engine.releaseVoice voiceIndex).Allocated := by
  obtain ⟨next, assigned, queue, rate⟩ := releaseVoice_books engine voiceIndex
  refine ⟨releaseVoice_phase allocated.phases voiceIndex, fun first second same named => ?_, ?_, ?_⟩
  · rw [releaseVoice_noteId, releaseVoice_noteId] at same
    rw [releaseVoice_noteId] at named
    exact allocated.unique first second same named
  · rw [next, assigned]
    exact allocated.numbered
  · rw [queue, rate]
    exact allocated.queued

theorem Allocated.foldl_releaseVoice (voiceIndexes : List (Fin kVoiceCount))
    {engine : AudioEngine K} (allocated : engine.Allocated) :
    (voiceIndexes.foldl AudioEngine.releaseVoice engine).Allocated := by
  induction voiceIndexes generalizing engine with
  | nil => exact allocated
  | cons voiceIndex rest ih => exact ih (allocated.releaseVoice voiceIndex)

end

/-! ## What is guaranteed -/

section

variable (engine : AudioEngine K)

def Plays (noteId : UInt32) (voiceIndex : Fin kVoiceCount) : Prop :=
  (engine.voices voiceIndex).noteId = noteId ∧ (engine.voices voiceIndex).voice.isActive = true

/-- A note with a duration sounds until it is over, unless a command ends it; if its duration ends
it, then after the number of frames that it is due. -/
def OnTime (slot : VoiceSlot K) : Prop :=
  ∀ due, slot.record.due = some due →
    match slot.record.ended with
    | none => slot.voice.state ≠ .release ∧ (slot.record.age : ℤ) < due
    | some cause => slot.voice.state = .release ∧ ∀ frames, cause = .duration frames →
        (frames : ℤ) = due

/-- No note shadows another one with its id, and none is stuck. -/
structure Lawful : Prop where
  unshadowed : ∀ noteId first second, engine.Plays noteId first → engine.Plays noteId second →
    first = second
  onTime : ∀ voiceIndex, (engine.voices voiceIndex).voice.isActive = true →
    OnTime (engine.voices voiceIndex)

/-- Serving a request ends the note that it names, and replaces a note only when no voice is free,
and a held one only when all are held. -/
def Serves (before after : AudioEngine K) : AudioCommand K → Prop
  | .noteOff noteId => noteId ≠ 0 → ∀ voiceIndex, before.Plays noteId voiceIndex →
      (after.voices voiceIndex).voice.state = .release
  | .noteOn _ => ∀ voiceIndex, (before.voices voiceIndex).voice.isActive = true →
      (after.voices voiceIndex).noteId ≠ (before.voices voiceIndex).noteId →
        (∀ other, (before.voices other).voice.isActive = true) ∧
          ((before.voices voiceIndex).holdState = .held →
            ∀ other, (before.voices other).holdState = .held)

end

section

variable [RoundsToInt64 K] (engine : AudioEngine K)

/-- What an operation promises: an id that is handed out is not zero and not in use, and a request
that is taken out of the queue is served. -/
def Obeys : Operation K → Prop
  | .enqueueNoteOn command => command.noteId = 0 →
      (engine.enqueueNoteOn command).2 ≠ 0 ∧
        ∀ voiceIndex, ¬ engine.Plays (engine.enqueueNoteOn command).2 voiceIndex
  | .enqueueNoteOff _ => True
  | .drainCommand => ∀ command ∈ engine.commandQueue.head?,
      Serves engine engine.drainCommand command
  | .renderFrame => True

/-- A note is requested only with a duration of which the frames can be counted; and without an id
only when the number of ids handed out, counted on by one, is neither zero in 32 bits nor the id of
a note that is played. -/
def Permitted : Operation K → Prop
  | .enqueueNoteOn command => Countable engine.sampleRate command.durationSeconds ∧
      (command.noteId = 0 → UInt32.ofNat (engine.assigned + 1) ≠ 0 ∧
        ∀ voiceIndex, ¬ engine.Plays (UInt32.ofNat (engine.assigned + 1)) voiceIndex)
  | .enqueueNoteOff _ => True
  | .drainCommand => True
  | .renderFrame => True

end

/-! ## Every run -/

section

variable [RoundsToInt64 K] {engine : AudioEngine K}
variable {command : AudioCommand K}

omit [RoundsToInt64 K] in
theorem renderVoice_noteId (slot : VoiceSlot K) :
    (renderVoice slot).noteId = slot.noteId ∨ (renderVoice slot).noteId = 0 := by
  unfold renderVoice
  by_cases unnamed : slot.noteId = 0
  · rw [if_pos unnamed]
    exact .inl rfl
  · rw [if_neg unnamed]
    simp only [apply_ite VoiceSlot.noteId, ite_self]
    exact (ite_eq_or_eq _ 0 slot.noteId).symm

section

variable (allocated : engine.Allocated)
include allocated

theorem Allocated.renderFrame : engine.renderFrame.Allocated := by
  refine ⟨fun voiceIndex => (allocated.phases voiceIndex).renderVoice,
    fun first second same named => ?_, allocated.numbered, allocated.queued⟩
  have kept (voiceIndex : Fin kVoiceCount)
      (named : (renderVoice (engine.voices voiceIndex)).noteId ≠ 0) :
      (renderVoice (engine.voices voiceIndex)).noteId = (engine.voices voiceIndex).noteId :=
    (renderVoice_noteId _).resolve_right named
  have first_kept := kept first named
  have second_kept := kept second fun unnamed => named (same.trans unnamed)
  refine allocated.unique first second ?_ ?_
  · exact first_kept.symm.trans (same.trans second_kept)
  · exact first_kept ▸ named

theorem Allocated.enqueueCommand (acceptable : Acceptable engine.sampleRate command) :
    (engine.enqueueCommand command).Allocated := by
  unfold AudioEngine.enqueueCommand
  split
  · exact allocated
  · refine ⟨allocated.phases, allocated.unique, allocated.numbered, fun other queued => ?_⟩
    rcases List.mem_append.mp queued with before | last
    · exact allocated.queued other before
    · rw [List.mem_singleton.mp last]
      exact acceptable

theorem Allocated.enqueueNoteOn {command : NoteOnCommand K}
    (permitted : engine.Permitted (.enqueueNoteOn command)) :
    (engine.enqueueNoteOn command).1.Allocated := by
  unfold AudioEngine.enqueueNoteOn
  split
  case isTrue unnamed =>
    have numbered : ({ engine with
        nextNoteId := engine.nextNoteId + 1
        assigned := engine.assigned + 1 } : AudioEngine K).Allocated := by
      refine ⟨allocated.phases, allocated.unique, ?_, allocated.queued⟩
      rw [allocated.numbered, UInt32.ofNat_add (engine.assigned + 1) 1]
      rfl
    refine numbered.enqueueCommand ⟨?_, permitted.1⟩
    rw [allocated.numbered]
    exact (permitted.2 unnamed).1
  case isFalse named => exact allocated.enqueueCommand ⟨named, permitted.1⟩

theorem Allocated.applyCommand (acceptable : Acceptable engine.sampleRate command) :
    (engine.applyCommand command).Allocated := by
  cases command with
  | noteOn command => exact allocated.startVoice acceptable.1 acceptable.2
  | noteOff noteId =>
      unfold AudioEngine.applyCommand
      dsimp only
      split
      · exact allocated.foldl_releaseVoice voiceIndexes
      · split
        · exact allocated.releaseVoice _
        · exact allocated

theorem Allocated.serves (acceptable : Acceptable engine.sampleRate command) :
    Serves engine (engine.applyCommand command) command := by
  cases command with
  | noteOff noteId =>
      rintro named voiceIndex ⟨rfl, active⟩
      unfold AudioEngine.applyCommand
      dsimp only
      rw [if_neg named]
      cases found : voiceIndexes.find? fun other =>
          (engine.voices other).noteId = (engine.voices voiceIndex).noteId with
      | none =>
          have missed := List.find?_eq_none.mp found voiceIndex (List.mem_finRange _)
          exact absurd (decide_eq_true rfl) missed
      | some other =>
          have same := List.find?_some found
          rw [decide_eq_true_iff] at same
          obtain rfl := allocated.unique voiceIndex other same.symm named
          exact (releaseVoice_self (allocated.phases voiceIndex) named).2
  | noteOn command =>
      intro voiceIndex active replaced
      have named := (allocated.phases voiceIndex).isActive_iff.mp active
      have chosen : voiceIndex = engine.selectVoiceIndexForNoteOn command.noteId := by
        by_contra apart
        refine replaced ?_
        change (Function.update engine.voices _ _ voiceIndex).noteId = _
        rw [Function.update_of_ne apart]
      have started : ((engine.applyCommand (.noteOn command)).voices voiceIndex).noteId =
          command.noteId := by
        rw [chosen]
        change (Function.update engine.voices _ _ _).noteId = _
        rw [Function.update_self]
      rw [started, chosen] at replaced
      rcases allocated.select_spec acceptable.1 with same | ⟨_, unnamed | ⟨playing, held⟩⟩
      · exact absurd same.symm replaced
      · rw [← chosen] at unnamed
        exact absurd unnamed named
      · rw [← chosen] at held
        exact ⟨fun other => (allocated.phases other).isActive_iff.mpr (playing other), held⟩

theorem Allocated.dequeue {rest : List (AudioCommand K)}
    (queue : engine.commandQueue = command :: rest) :
    ({ engine with commandQueue := rest } : AudioEngine K).Allocated ∧
      Acceptable engine.sampleRate command := by
  refine ⟨⟨allocated.phases, allocated.unique, allocated.numbered, fun other later => ?_⟩, ?_⟩
  · exact allocated.queued other (queue ▸ List.mem_cons_of_mem _ later)
  · exact allocated.queued command (queue ▸ List.mem_cons_self)

theorem Allocated.drainCommand : engine.drainCommand.Allocated := by
  unfold AudioEngine.drainCommand
  split
  · exact allocated
  · rename_i command rest queue
    obtain ⟨dequeued, acceptable⟩ := allocated.dequeue queue
    exact dequeued.applyCommand acceptable

theorem Allocated.perform {operation : Operation K} (permitted : engine.Permitted operation) :
    (engine.perform operation).Allocated := by
  cases operation with
  | enqueueNoteOn command => exact allocated.enqueueNoteOn permitted
  | enqueueNoteOff noteId => exact allocated.enqueueCommand trivial
  | drainCommand => exact allocated.drainCommand
  | renderFrame => exact allocated.renderFrame

theorem Allocated.lawful : engine.Lawful := by
  constructor
  · rintro noteId first second ⟨rfl, active⟩ ⟨same, _⟩
    exact allocated.unique first second same.symm
      ((allocated.phases first).isActive_iff.mp active)
  · intro voiceIndex active due isDue
    cases allocated.phases voiceIndex with
    | free unnamed silent => exact absurd silent (of_decide_eq_true active)
    | held _ _ lasting _ going counting =>
        rw [going]
        rcases counting with ⟨endless, _⟩ | ⟨frames, isFrames, early, _⟩
        · rw [endless] at isDue
          exact absurd isDue.symm (Option.some_ne_none due)
        · obtain rfl := Option.some.inj (isFrames.symm.trans isDue)
          exact ⟨lasting, early⟩
    | releasing _ fading _ _ cause ended onTime =>
        rw [ended]
        exact ⟨fading, fun frames isCause => onTime frames due isCause isDue⟩

theorem Allocated.obeys {operation : Operation K} (permitted : engine.Permitted operation) :
    engine.Obeys operation := by
  cases operation with
  | enqueueNoteOn command =>
      intro unnamed
      have handed : (engine.enqueueNoteOn command).2 = UInt32.ofNat (engine.assigned + 1) := by
        unfold AudioEngine.enqueueNoteOn
        rw [if_pos unnamed]
        exact allocated.numbered
      rw [handed]
      exact permitted.2 unnamed
  | enqueueNoteOff noteId => trivial
  | drainCommand =>
      intro command first
      unfold AudioEngine.drainCommand
      split
      · rename_i empty
        rw [empty] at first
        exact absurd first (Option.not_mem_none _)
      · rename_i other rest queue
        rw [queue] at first
        cases first
        obtain ⟨dequeued, acceptable⟩ := allocated.dequeue queue
        exact dequeued.serves acceptable
  | renderFrame => trivial

end

theorem allocated_initial {sampleRate : ℕ} {voices : Fin kVoiceCount → VoiceSlot K}
    (idle : ∀ voiceIndex, (voices voiceIndex).voice.state = .idle ∧
      (voices voiceIndex).noteId = 0) :
    ({ sampleRate := sampleRate, voices := voices } : AudioEngine K).Allocated where
  phases voiceIndex := .free (idle voiceIndex).2 (idle voiceIndex).1
  unique first _ _ named := absurd (idle first).2 named
  numbered := rfl
  queued _ queued := absurd queued List.not_mem_nil

/-- In every run of permitted operations no note is stuck or shadowed, and every permitted
operation keeps its promise. -/
theorem allocates_of_permitted (reached : ((machine K).guarded Permitted).Reachable engine) :
    engine.Lawful ∧ ∀ operation, engine.Permitted operation → engine.Obeys operation := by
  have allocated : engine.Allocated := by
    refine reached.invariant ?_ ?_
    · rintro state ⟨sampleRate, voices, idle, rfl⟩
      exact allocated_initial idle
    · rintro before operation after allocated ⟨rfl, permitted⟩
      exact allocated.perform permitted
  exact ⟨allocated.lawful, fun operation permitted => allocated.obeys permitted⟩

end

section

open scoped FloatOperations RoundsToInt64

/-- An engine of two frames a second that has just been started. -/
def startedEngine : AudioEngine ℚ where
  sampleRate := 2
  voices _ := { voice := { sampleRate := 2, attackSeconds := 0, releaseSeconds := 0, level := 0 } }

def secondNote (noteId : UInt32) : NoteOnCommand ℚ where
  attackSeconds := 0
  durationSeconds := 1
  releaseSeconds := 0
  noteId := noteId

theorem startedEngine_initial : (machine ℚ).initial startedEngine :=
  ⟨2, _, fun _ => ⟨rfl, rfl⟩, rfl⟩

theorem countable_secondNote : Countable (K := ℚ) 2 1 := by
  refine fun _ => ⟨2, congrArg some ?_, by omega, by omega⟩
  decide +kernel

theorem allocates_of_permitted_first :
    let engine := (startedEngine.enqueueNoteOn (secondNote 0)).1.drainCommand.renderFrame
    engine.Lawful ∧ ∀ operation, engine.Permitted operation → engine.Obeys operation := by
  have permitted : startedEngine.Permitted (.enqueueNoteOn (secondNote 0)) := by
    refine ⟨countable_secondNote, fun _ => ⟨UInt32.zero_ne_one.symm, ?_⟩⟩
    rintro voiceIndex ⟨same, _⟩
    exact UInt32.zero_ne_one same
  exact allocates_of_permitted ⟨startedEngine, [.enqueueNoteOn (secondNote 0), .drainCommand,
    .renderFrame], startedEngine_initial, .cons ⟨rfl, permitted⟩ (.cons ⟨rfl, trivial⟩
      (.cons ⟨rfl, trivial⟩ (.nil _)))⟩

/-- A note is started with the id 1; the next request without an id is given 1 as well. -/
theorem not_allocates : ¬ ∀ engine : AudioEngine ℚ, (machine ℚ).Reachable engine →
    engine.Lawful ∧ ∀ operation, engine.Obeys operation := by
  intro always
  have obeys := (always (startedEngine.enqueueNoteOn (secondNote 1)).1.drainCommand
    ⟨startedEngine, [.enqueueNoteOn (secondNote 1), .drainCommand], startedEngine_initial,
      .cons rfl (.cons rfl (.nil _))⟩).2 (.enqueueNoteOn (secondNote 0))
  exact (obeys rfl).2 ⟨0, voiceCount_pos⟩ ⟨rfl, rfl⟩

end

end AudioEngine

end DirtSim
