import DirtSim.Audio.NesAudioPlayer
import DirtSim.Foundation.SampleRing

/-! # The ring loses only what it counts

Each side of the ring works with a position of the other that may be old, and an old one is on the
safe side. Whatever steps the two take, every sample kept is consumed once and in order, or is still
on its way (`losesOnlyCounted_of_reachable`).
-/

namespace DirtSim

open Foundation

namespace AudioRun

variable {K : Type}

/-! ## Wrapped positions -/

theorem toNat_ofNat_sub {behind ahead : ℕ} (le : behind ≤ ahead) (near : ahead < behind + 2 ^ 32) :
    (UInt32.ofNat ahead - UInt32.ofNat behind).toNat = ahead - behind := by
  rw [UInt32.toNat_sub, UInt32.toNat_ofNat', UInt32.toNat_ofNat']
  omega

theorem toInt_toInt32 {count : UInt32} (small : count.toNat < 2 ^ 31) :
    count.toInt32.toInt = (count.toNat : ℤ) :=
  BitVec.toInt_eq_toNat_of_lt (by change 2 * count.toNat < 2 ^ 32; omega)

theorem ofNat_succ (count : ℕ) : UInt32.ofNat count + 1 = UInt32.ofNat (count + 1) :=
  (UInt32.ofNat_add count 1).symm

theorem slotOf_ofNat (count : ℕ) : (slotOf (UInt32.ofNat count)).val = count % 8192 := by
  change (UInt32.ofNat count % kRingCapacity).toNat = _
  rw [UInt32.toNat_mod, UInt32.toNat_ofNat']
  change count % 2 ^ 32 % 8192 = _
  omega

/-! ## The invariant -/

/-- What the producer holds on to, when `written` samples have been written in all. -/
def ProducerKeeps (released published written : ℕ) : Producer K → Prop
  | .idle => published = written
  | .loaded _ wp => published = written ∧ wp = UInt32.ofNat written
  | .writing wp left => wp = UInt32.ofNat written ∧ written + left.length ≤ released + 8192

/-- What the consumer holds on to, when `read` samples have been read in all. -/
def ConsumerKeeps (released published read : ℕ) : Consumer → Prop
  | .idle => released = read
  | .loaded _ rp => released = read ∧ rp = UInt32.ofNat read
  | .reading rp left => rp = UInt32.ofNat read ∧ read + left ≤ published

/-- The true counts behind the positions: what the consumer has released, what the producer has
published, and all that was ever written. -/
structure InStep (state : AudioRun K) (released published : ℕ) (written : List K) : Prop where
  readPos : state.readPos = UInt32.ofNat released
  writePos : state.writePos = UInt32.ofNat published
  released_le : released ≤ state.consumed.length
  read_le : state.consumed.length ≤ published
  published_le : published ≤ written.length
  within : written.length ≤ released + 8192
  ring : HoldsLast state.ring written
  consumed : state.consumed = written.take state.consumed.length
  kept : state.kept = written ++ state.producer.left
  producer : ProducerKeeps released published written.length state.producer
  consumer : ConsumerKeeps released published state.consumed.length state.consumer
  unread : ∀ slot, state.unread slot = true ↔
    ∃ i, state.consumed.length ≤ i ∧ i < written.length ∧ i % 8192 = slot.val
  counted : state.samplesDroppedCount = UInt64.ofNat state.dropped.length

theorem inStep_initial (ring : Vector K 8192) : InStep ({ ring := ring } : AudioRun K) 0 0 [] where
  readPos := rfl
  writePos := rfl
  released_le := Nat.le_refl 0
  read_le := Nat.le_refl 0
  published_le := Nat.le_refl 0
  within := Nat.zero_le _
  ring := HoldsLast.nil ring
  consumed := rfl
  kept := rfl
  producer := rfl
  consumer := rfl
  unread _ := ⟨fun unread => absurd unread Bool.false_ne_true,
    fun ⟨_, _, written, _⟩ => absurd written (Nat.not_lt_zero _)⟩
  counted := rfl

section

variable {state after : AudioRun K} {released published : ℕ} {written : List K}

theorem InStep.held (inStep : InStep state released published written) :
    state.held = published - released := by
  have released_le := inStep.released_le
  have read_le := inStep.read_le
  have published_le := inStep.published_le
  have within := inStep.within
  rw [AudioRun.held, inStep.readPos, inStep.writePos]
  exact toNat_ofNat_sub (by omega) (by omega)

/-! ### The producer -/

def marked (room : ℕ) (samples : List K) : List (K × Bool) :=
  (samples.take room).map (fun sample => (sample, true)) ++
    (samples.drop room).map fun sample => (sample, false)

theorem kept_marked (room : ℕ) (samples : List K) :
    ((marked room samples).filter Prod.snd).map Prod.fst = samples.take room := by
  have all (samples : List K) :
      ((samples.map fun sample => (sample, true)).filter Prod.snd).map Prod.fst = samples := by
    simp [List.filter_map, Function.comp_def]
  have none (samples : List K) :
      (samples.map fun sample => (sample, false)).filter Prod.snd = [] := by
    simp [List.filter_map, Function.comp_def]
  rw [marked, List.filter_append, List.map_append, all, none, List.map_nil, List.append_nil]

theorem dropped_marked (room : ℕ) (samples : List K) :
    ((marked room samples).filter fun offer => !offer.2).map Prod.fst = samples.drop room := by
  have all (samples : List K) : ((samples.map fun sample => (sample, false)).filter
      fun offer => !offer.2).map Prod.fst = samples := by
    simp [List.filter_map, Function.comp_def]
  have none (samples : List K) :
      (samples.map fun sample => (sample, true)).filter (fun offer => !offer.2) = [] := by
    simp [List.filter_map, Function.comp_def]
  rw [marked, List.filter_append, List.map_append, all, none, List.map_nil, List.nil_append]

theorem marked_of_le {room : ℕ} {samples : List K} (le : samples.length ≤ room) :
    marked room samples = samples.map fun sample => (sample, true) := by
  rw [marked, List.take_of_length_le le, List.drop_of_length_le le, List.map_nil, List.append_nil]

/-- What either push function does after its load of the read position. -/
structure Takes (before : AudioRun K) (call : PushCall K) (wp : UInt32) (room : ℕ)
    (after : AudioRun K) : Prop where
  ring : after.ring = before.ring
  readPos : after.readPos = before.readPos
  writePos : after.writePos = before.writePos
  consumer : after.consumer = before.consumer
  consumed : after.consumed = before.consumed
  unread : after.unread = before.unread
  offered : after.offered = before.offered ++ marked room call.samples
  counted : after.samplesDroppedCount =
    before.samplesDroppedCount + UInt64.ofNat (call.samples.length - room)
  producer : after.producer = .writing wp (call.samples.take room) ∨
    (after.producer = .idle ∧ room = 0)

section

variable {before : AudioRun K} {call : PushCall K} {wp : UInt32} {room : ℕ}
  (takes : Takes before call wp room after)
include takes

theorem Takes.kept : after.kept = before.kept ++ call.samples.take room := by
  rw [AudioRun.kept, takes.offered, List.filter_append, List.map_append, kept_marked]
  rfl

theorem Takes.dropped : after.dropped = before.dropped ++ call.samples.drop room := by
  rw [AudioRun.dropped, takes.offered, List.filter_append, List.map_append, dropped_marked]
  rfl

end

theorem takeSample_spec (sample : K) (wp : UInt32)
    (near : (wp - state.readPos).toNat ≤ 8192) :
    Takes state (.pushSample sample) wp (8192 - (wp - state.readPos).toNat)
      (state.takeSample sample wp) := by
  have capacity : kRingCapacity.toNat = 8192 := rfl
  unfold takeSample
  split
  case isTrue full =>
    have none : 8192 - (wp - state.readPos).toNat = 0 := by
      have le := UInt32.le_iff_toNat_le.mp full
      omega
    rw [none]
    exact ⟨rfl, rfl, rfl, rfl, rfl, rfl, rfl, rfl, .inr ⟨rfl, rfl⟩⟩
  case isFalse free =>
    have some : 1 ≤ 8192 - (wp - state.readPos).toNat := by
      have lt := UInt32.lt_iff_toNat_lt.mp (UInt32.not_le.mp free)
      omega
    have all : [sample].length ≤ 8192 - (wp - state.readPos).toNat := some
    refine ⟨rfl, rfl, rfl, rfl, rfl, rfl, ?_, ?_, ?_⟩
    · exact congrArg (state.offered ++ ·) (marked_of_le all).symm
    · have nothing : (PushCall.pushSample sample).samples.length -
          (8192 - (wp - state.readPos).toNat) = 0 := Nat.sub_eq_zero_of_le all
      rw [nothing]
      exact (UInt64.add_zero _).symm
    · exact .inl (congrArg (Producer.writing wp) (List.take_of_length_le all).symm)

theorem takeSamples_spec (batch : SampleBatch K) (wp : UInt32)
    (near : (wp - state.readPos).toNat ≤ 8192) :
    Takes state (.pushSamples batch) wp (8192 - (wp - state.readPos).toNat)
      (state.takeSamples batch wp) := by
  have capacity : kRingCapacity.toNat = 8192 := rfl
  have available : (kRingCapacity - (wp - state.readPos)).toNat =
      8192 - (wp - state.readPos).toNat := by
    rw [UInt32.toNat_sub_of_le _ _ (UInt32.le_iff_toNat_le.mpr (by rw [capacity]; exact near))]
    rfl
  have count := UInt32.toNat_ofNat_of_lt' batch.length_lt
  unfold takeSamples
  dsimp only
  split
  case isTrue fits =>
    have all : batch.samples.length ≤ 8192 - (wp - state.readPos).toNat := by
      have le := UInt32.le_iff_toNat_le.mp fits
      rwa [count, available] at le
    refine ⟨rfl, rfl, rfl, rfl, rfl, rfl, ?_, ?_, ?_⟩
    · exact congrArg (state.offered ++ ·) (marked_of_le all).symm
    · have nothing : (PushCall.pushSamples batch).samples.length -
          (8192 - (wp - state.readPos).toNat) = 0 := Nat.sub_eq_zero_of_le all
      rw [nothing]
      exact (UInt64.add_zero _).symm
    · exact .inl (congrArg (Producer.writing wp) (List.take_of_length_le all).symm)
  case isFalse overflows =>
    have beyond := UInt32.le_of_lt (UInt32.not_le.mp overflows)
    rw [available]
    refine ⟨rfl, rfl, rfl, rfl, rfl, rfl, rfl, ?_, .inl rfl⟩
    refine congrArg (state.samplesDroppedCount + ·) (UInt64.toNat_inj.mp ?_)
    rw [UInt32.toNat_toUInt64, UInt32.toNat_sub_of_le _ _ beyond, count, available]
    have small : batch.samples.length - (8192 - (wp - state.readPos).toNat) < 2 ^ 64 := by
      have bounded := batch.length_lt
      omega
    exact (UInt64.toNat_ofNat_of_lt' small).symm

variable (state) in
theorem take_spec (call : PushCall K) (wp : UInt32) (near : (wp - state.readPos).toNat ≤ 8192) :
    Takes state call wp (8192 - (wp - state.readPos).toNat) (state.take call wp) := by
  cases call with
  | pushSample sample => exact takeSample_spec sample wp near
  | pushSamples batch => exact takeSamples_spec batch wp near

theorem InStep.push (inStep : InStep state released published written)
    (idle : state.producer = .idle) (call : PushCall K) :
    InStep { state with producer := .loaded call state.writePos } released published written := by
  have producer := inStep.producer
  have kept := inStep.kept
  rw [idle] at producer kept
  refine { inStep with producer := ⟨producer, ?_⟩, kept := kept }
  rw [inStep.writePos, show published = written.length from producer]

section

variable {call : PushCall K} {wp : UInt32} (inStep : InStep state released published written)
  (loaded : state.producer = .loaded call wp)
include inStep loaded

theorem InStep.takes :
    Takes state call wp (released + 8192 - written.length) (state.take call wp) := by
  have producer := inStep.producer
  rw [loaded] at producer
  obtain ⟨same, rfl⟩ := producer
  have within := inStep.within
  have released_le := inStep.released_le.trans (inStep.read_le.trans inStep.published_le)
  have apart : (UInt32.ofNat written.length - state.readPos).toNat = written.length - released := by
    rw [inStep.readPos]
    exact toNat_ofNat_sub released_le (by omega)
  have takes := take_spec state call (UInt32.ofNat written.length)
    (by rw [apart]; omega)
  rw [apart] at takes
  rwa [show 8192 - (written.length - released) = released + 8192 - written.length by omega] at takes

theorem InStep.loadReadPos : InStep (state.take call wp) released published written := by
  have takes := inStep.takes loaded
  have producer := inStep.producer
  have kept := inStep.kept
  rw [loaded] at producer kept
  obtain ⟨same, isPosition⟩ := producer
  have within := inStep.within
  set room := released + 8192 - written.length with roomIs
  refine ⟨takes.readPos.trans inStep.readPos, takes.writePos.trans inStep.writePos, ?_, ?_,
    inStep.published_le, within, ?_, ?_, ?_, ?_, ?_, ?_, ?_⟩
  · rw [takes.consumed]
    exact inStep.released_le
  · rw [takes.consumed]
    exact inStep.read_le
  · rw [takes.ring]
    exact inStep.ring
  · rw [takes.consumed]
    exact inStep.consumed
  · rw [takes.kept, kept]
    rcases takes.producer with writing | ⟨idle, full⟩
    · rw [writing]
      exact congrArg (· ++ _) (List.append_nil written)
    · rw [idle, full]
      exact List.append_nil _
  · rcases takes.producer with writing | ⟨idle, full⟩
    · rw [writing]
      refine ⟨isPosition, ?_⟩
      rw [List.length_take]
      omega
    · rw [idle]
      exact same
  · rw [takes.consumed, takes.consumer]
    exact inStep.consumer
  · rw [takes.unread, takes.consumed]
    exact inStep.unread
  · rw [takes.counted, inStep.counted, takes.dropped, List.length_append, List.length_drop,
      UInt64.ofNat_add]

end

section

variable {wp : UInt32} {sample : K} {left : List K}
  (inStep : InStep state released published written)
  (writing : state.producer = .writing wp (sample :: left))
include inStep writing

theorem InStep.unread_false : state.unread (slotOf wp) = false := by
  have producer := inStep.producer
  rw [writing] at producer
  obtain ⟨rfl, fits⟩ := producer
  rw [List.length_cons] at fits
  refine Bool.eq_false_iff.mpr fun unread => ?_
  obtain ⟨i, later, before, same⟩ := (inStep.unread _).mp unread
  rw [slotOf_ofNat] at same
  have released_le := inStep.released_le
  omega

theorem InStep.writeSlot :
    InStep (state.writeSlot wp sample left) released published (written ++ [sample]) := by
  have producer := inStep.producer
  have kept := inStep.kept
  rw [writing] at producer kept
  obtain ⟨rfl, fits⟩ := producer
  have released_le := inStep.released_le
  have read_le := inStep.read_le
  have published_le := inStep.published_le
  have length : (written ++ [sample]).length = written.length + 1 := List.length_append
  rw [List.length_cons] at fits
  refine ⟨inStep.readPos, inStep.writePos, released_le, read_le, ?_, ?_, ?_, ?_, ?_, ?_,
    inStep.consumer, ?_, inStep.counted⟩
  · rw [length]
    omega
  · rw [length]
    omega
  · have pushed := inStep.ring.push (by decide) sample
    rw [← slotOf_ofNat] at pushed
    exact pushed
  · change state.consumed = (written ++ [sample]).take state.consumed.length
    rw [List.take_append_of_le_length (read_le.trans published_le)]
    exact inStep.consumed
  · exact kept.trans (List.append_assoc written [sample] left).symm
  · refine ⟨(ofNat_succ _).trans (by rw [length]), ?_⟩
    rw [length]
    omega
  · intro slot
    rw [length]
    change Function.update state.unread (slotOf (UInt32.ofNat written.length)) true slot = true ↔ _
    by_cases here : slot = slotOf (UInt32.ofNat written.length)
    · subst here
      rw [Function.update_self, slotOf_ofNat]
      exact ⟨fun _ => ⟨written.length, read_le.trans published_le, Nat.lt_succ_self _, rfl⟩,
        fun _ => rfl⟩
    · rw [Function.update_of_ne here, inStep.unread]
      constructor
      · rintro ⟨i, later, before, same⟩
        exact ⟨i, later, Nat.lt_succ_of_lt before, same⟩
      · rintro ⟨i, later, before, same⟩
        refine ⟨i, later, Nat.lt_of_le_of_ne (Nat.le_of_lt_succ before) ?_, same⟩
        rintro rfl
        exact here (Fin.ext (same.symm.trans (slotOf_ofNat _).symm))

end

theorem InStep.storeWritePos {wp : UInt32}
    (inStep : InStep state released published written)
    (writing : state.producer = .writing wp []) :
    InStep { state with writePos := wp, producer := .idle } released written.length written := by
  have producer := inStep.producer
  have kept := inStep.kept
  rw [writing] at producer kept
  refine { inStep with
    writePos := producer.1
    read_le := inStep.read_le.trans inStep.published_le
    published_le := Nat.le_refl _
    kept := kept
    producer := rfl
    consumer := ?_ }
  have consumer := inStep.consumer
  revert consumer
  cases state.consumer with
  | idle => exact id
  | loaded frames rp => exact id
  | reading rp left => exact fun ⟨isPosition, le⟩ => ⟨isPosition, le.trans inStep.published_le⟩

/-! ### The consumer -/

theorem InStep.render (inStep : InStep state released published written)
    (idle : state.consumer = .idle) (frames : ℕ) :
    InStep { state with consumer := .loaded frames state.readPos } released published written := by
  have consumer := inStep.consumer
  rw [idle] at consumer
  refine { inStep with consumer := ⟨consumer, ?_⟩ }
  rw [inStep.readPos, show released = state.consumed.length from consumer]

theorem InStep.loadWritePos {frames : ℕ} {rp : UInt32}
    (inStep : InStep state released published written)
    (loaded : state.consumer = .loaded frames rp) :
    InStep (state.startReading frames rp) released published written := by
  have consumer := inStep.consumer
  rw [loaded] at consumer
  obtain ⟨same, rfl⟩ := consumer
  have read_le := inStep.read_le
  have published_le := inStep.published_le
  have within := inStep.within
  have available : (state.writePos - UInt32.ofNat state.consumed.length).toNat =
      published - state.consumed.length := by
    rw [inStep.writePos]
    exact toNat_ofNat_sub read_le (by omega)
  have signed : (state.writePos - UInt32.ofNat state.consumed.length).toInt32.toInt =
      ((published - state.consumed.length : ℕ) : ℤ) := by
    rw [← available]
    exact toInt_toInt32 (by omega)
  refine { inStep with consumer := ⟨rfl, ?_⟩ }
  change state.consumed.length + (min (state.writePos -
    UInt32.ofNat state.consumed.length).toInt32.toInt (frames : ℤ)).toNat ≤ published
  rw [signed]
  omega

section

variable {rp : UInt32} {left : ℕ} (inStep : InStep state released published written)
  (reading : state.consumer = .reading rp (left + 1))
include inStep reading

theorem InStep.unread_true : state.unread (slotOf rp) = true := by
  have consumer := inStep.consumer
  rw [reading] at consumer
  obtain ⟨rfl, le⟩ := consumer
  have published_le := inStep.published_le
  exact (inStep.unread _).mpr ⟨state.consumed.length, Nat.le_refl _, by omega,
    (slotOf_ofNat _).symm⟩

theorem InStep.readSlot : InStep (state.readSlot rp left) released published written := by
  have consumer := inStep.consumer
  rw [reading] at consumer
  obtain ⟨rfl, le⟩ := consumer
  have released_le := inStep.released_le
  have published_le := inStep.published_le
  have within := inStep.within
  have inside : state.consumed.length < written.length := by omega
  have sample : state.ring.get (slotOf (UInt32.ofNat state.consumed.length)) =
      written[state.consumed.length] := by
    have holds := inStep.ring state.consumed.length inside (by omega)
    rw [← slotOf_ofNat, List.getElem?_eq_getElem inside,
      Vector.getElem?_eq_getElem (slotOf _).isLt] at holds
    exact Option.some.inj holds
  have length : (state.readSlot (UInt32.ofNat state.consumed.length) left).consumed.length =
      state.consumed.length + 1 := List.length_append
  refine ⟨inStep.readPos, inStep.writePos, ?_, ?_, published_le, within, inStep.ring, ?_,
    inStep.kept, inStep.producer, ?_, ?_, inStep.counted⟩
  · rw [length]
    omega
  · rw [length]
    omega
  · rw [length, List.take_succ_eq_append_getElem inside, ← inStep.consumed, ← sample]
    rfl
  · rw [length]
    refine ⟨ofNat_succ _, ?_⟩
    omega
  · intro slot
    rw [length]
    change Function.update state.unread (slotOf (UInt32.ofNat state.consumed.length)) false slot =
      true ↔ _
    by_cases here : slot = slotOf (UInt32.ofNat state.consumed.length)
    · subst here
      rw [Function.update_self, slotOf_ofNat]
      constructor
      · exact fun unread => absurd unread Bool.false_ne_true
      · rintro ⟨i, later, before, same⟩
        omega
    · rw [Function.update_of_ne here, inStep.unread]
      constructor
      · rintro ⟨i, later, before, same⟩
        refine ⟨i, Nat.lt_of_le_of_ne later ?_, before, same⟩
        rintro rfl
        exact here (Fin.ext (same.symm.trans (slotOf_ofNat _).symm))
      · rintro ⟨i, later, before, same⟩
        exact ⟨i, Nat.le_of_succ_le later, before, same⟩

end

theorem InStep.storeReadPos {rp : UInt32}
    (inStep : InStep state released published written)
    (reading : state.consumer = .reading rp 0) :
    InStep { state with readPos := rp, consumer := .idle } state.consumed.length published
      written := by
  have consumer := inStep.consumer
  rw [reading] at consumer
  have within := inStep.within
  have released_le := inStep.released_le
  refine { inStep with
    readPos := consumer.1
    released_le := Nat.le_refl _
    within := within.trans (Nat.add_le_add_right released_le _)
    consumer := rfl
    producer := ?_ }
  have producer := inStep.producer
  revert producer
  cases state.producer with
  | idle => exact id
  | loaded call wp => exact id
  | writing wp left =>
      exact fun ⟨isPosition, fits⟩ => ⟨isPosition, fits.trans (Nat.add_le_add_right released_le _)⟩

/-! ### Any step -/

theorem InStep.step {label : AudioStep K} (inStep : InStep state released published written)
    (moved : state.step label = some after) :
    ∃ released published written, InStep after released published written := by
  cases label with
  | push call =>
      simp only [AudioRun.step] at moved
      split at moved
      case h_1 idle =>
        cases moved
        exact ⟨_, _, _, inStep.push idle call⟩
      case h_2 => cases moved
  | loadReadPos =>
      simp only [AudioRun.step] at moved
      split at moved
      case h_1 loaded =>
        cases moved
        exact ⟨_, _, _, inStep.loadReadPos loaded⟩
      case h_2 => cases moved
  | writeSlot =>
      simp only [AudioRun.step] at moved
      split at moved
      case h_1 writing =>
        cases moved
        exact ⟨_, _, _, inStep.writeSlot writing⟩
      case h_2 => cases moved
  | storeWritePos =>
      simp only [AudioRun.step] at moved
      split at moved
      case h_1 writing =>
        cases moved
        exact ⟨_, _, _, inStep.storeWritePos writing⟩
      case h_2 => cases moved
  | render frames =>
      simp only [AudioRun.step] at moved
      split at moved
      case h_1 idle =>
        cases moved
        exact ⟨_, _, _, inStep.render idle frames⟩
      case h_2 => cases moved
  | loadWritePos =>
      simp only [AudioRun.step] at moved
      split at moved
      case h_1 loaded =>
        cases moved
        exact ⟨_, _, _, inStep.loadWritePos loaded⟩
      case h_2 => cases moved
  | readSlot =>
      simp only [AudioRun.step] at moved
      split at moved
      case h_1 reading =>
        cases moved
        exact ⟨_, _, _, inStep.readSlot reading⟩
      case h_2 => cases moved
  | storeReadPos =>
      simp only [AudioRun.step] at moved
      split at moved
      case h_1 reading =>
        cases moved
        exact ⟨_, _, _, inStep.storeReadPos reading⟩
      case h_2 => cases moved

end

/-- The positions and the ring are as true counts say. -/
def Counted (state : AudioRun K) : Prop :=
  ∃ released published written, InStep state released published written

theorem counted_of_reachable {state : AudioRun K} (reached : (machine K).Reachable state) :
    Counted state := by
  refine reached.invariant ?_ ?_
  · rintro _ ⟨ring, rfl⟩
    exact ⟨0, 0, [], inStep_initial ring⟩
  · rintro before label after ⟨released, published, written, inStep⟩ moved
    exact inStep.step moved

/-! ## The guarantee -/

/-- What holds in any state of the two threads. The samples that were kept are the consumed ones, in
order, then those that the ring still holds and those that the producer has yet to write; the
dropped ones are counted in 64 bits; the next slot to be read holds an unread sample, and the next
slot to be written does not; and the producer drops those samples of a call that come after as
many as the ring has room for when it loads the read position. -/
structure LosesOnlyCounted (state : AudioRun K) : Prop where
  accounted : ∃ inRing : List K, state.kept = state.consumed ++ inRing ++ state.producer.left ∧
    ∀ i < inRing.length, state.ring[(state.consumed.length + i) % 8192]? = inRing[i]?
  counted : state.samplesDroppedCount = UInt64.ofNat state.dropped.length
  readsWritten : ∀ rp left, state.consumer = .reading rp (left + 1) →
    state.unread (slotOf rp) = true
  keepsUnread : ∀ wp sample left, state.producer = .writing wp (sample :: left) →
    state.unread (slotOf wp) = false
  drops : ∀ call wp, state.producer = .loaded call wp →
    (state.take call wp).offered = state.offered ++
      call.samples.mapIdx fun i sample => (sample, decide (state.held + i < 8192))

theorem marked_eq_mapIdx (room : ℕ) (samples : List K) :
    marked room samples = samples.mapIdx fun i sample => (sample, decide (i < room)) := by
  induction samples generalizing room with
  | nil => simp [marked]
  | cons sample samples ih =>
      rw [List.mapIdx_cons]
      cases room with
      | zero =>
          refine congrArg₂ List.cons rfl ((ih 0).trans ?_)
          exact congrArg (samples.mapIdx ·) (by
            funext i other
            simp)
      | succ room =>
          refine congrArg₂ List.cons rfl ((ih room).trans ?_)
          exact congrArg (samples.mapIdx ·) (by
            funext i other
            simp)

/-- **Only what is counted is lost.** In every interleaving of the two threads, of any length. -/
theorem losesOnlyCounted_of_reachable {K : Type} {state : AudioRun K}
    (reached : (machine K).Reachable state) : LosesOnlyCounted state := by
  obtain ⟨released, published, written, inStep⟩ := counted_of_reachable reached
  have read_le := inStep.read_le.trans inStep.published_le
  have within := inStep.within
  refine ⟨⟨written.drop state.consumed.length, ?_, ?_⟩, inStep.counted,
    fun rp left => inStep.unread_true, fun wp sample left => inStep.unread_false, ?_⟩
  · have split : state.consumed ++ written.drop state.consumed.length = written := by
      nth_rewrite 1 [inStep.consumed]
      exact List.take_append_drop _ _
    rw [split]
    exact inStep.kept
  · intro i lt
    rw [List.length_drop] at lt
    rw [List.getElem?_drop]
    have released_le := inStep.released_le
    exact inStep.ring _ (by omega) (by omega)
  · intro call wp loaded
    have producer := inStep.producer
    rw [loaded] at producer
    have same : published = written.length := producer.1
    have released_le := inStep.released_le
    rw [(inStep.takes loaded).offered, marked_eq_mapIdx]
    refine congrArg (fun mark => state.offered ++ call.samples.mapIdx mark) ?_
    funext i sample
    refine congrArg (Prod.mk sample) (decide_eq_decide.mpr ?_)
    rw [inStep.held]
    omega

theorem losesOnlyCounted_written :
    ∃ state : AudioRun ℕ, state.kept = [7] ∧ state.held = 0 ∧ LosesOnlyCounted state :=
  ⟨_, rfl, rfl, losesOnlyCounted_of_reachable ⟨_, [.push (.pushSample 7), .loadReadPos, .writeSlot],
    ⟨Vector.replicate 8192 0, rfl⟩, .cons rfl (.cons rfl (.cons rfl (.nil _)))⟩⟩

theorem overlong_lt : (List.replicate 8193 ()).length < 2 ^ 32 := by
  rw [List.length_replicate]
  decide

/-- A player with an empty ring that is given more samples at once than the ring has slots. -/
def overlongPush : AudioRun Unit where
  ring := Vector.replicate 8192 ()
  producer := .loaded (.pushSamples ⟨List.replicate 8193 (), overlong_lt⟩) 0

/-- A call that does not fit drops a sample although the ring is empty. -/
theorem not_drops_only_when_full :
    ¬ ∀ (K : Type) (state : AudioRun K), (machine K).Reachable state →
      ∀ call wp, state.producer = .loaded call wp →
        (state.take call wp).dropped ≠ state.dropped → state.held = 8192 := by
  intro always
  have loaded : (machine Unit).step { ring := Vector.replicate 8192 () }
      (.push (.pushSamples ⟨List.replicate 8193 (), overlong_lt⟩)) overlongPush := rfl
  have full := always Unit overlongPush ⟨_, _, ⟨_, rfl⟩, .cons loaded (.nil _)⟩ _ _ rfl
  refine absurd (full ?_) (by decide)
  have takes := take_spec overlongPush
    (.pushSamples ⟨List.replicate 8193 (), overlong_lt⟩) 0 (by decide)
  have room : 8192 - ((0 : UInt32) - overlongPush.readPos).toNat = 8192 := rfl
  rw [room] at takes
  intro same
  have nothing := List.append_right_eq_self.mp (takes.dropped.symm.trans same)
  rw [List.drop_eq_nil_iff] at nothing
  exact absurd (nothing.trans' (Nat.le_of_eq List.length_replicate.symm)) (by decide)

end AudioRun

end DirtSim
