import DirtSim.Audio.HardwareRanges
import Mathlib.Tactic.Ring

/-! # The rate of the pulse timers

The pulse timers are clocked in the cycles in which the frame counter becomes even, and it restarts
after an odd number of cycles: with each restart one clock too many is given.
-/

namespace DirtSim

open Foundation
open scoped FloatOperations

namespace SmolnesApu

section

/-! ## Spells of cycles -/

inductive PulseChannel
  | pulse1
  | pulse2
deriving DecidableEq

variable {K : Type}

def pulseOf (state : SmolnesApuState K) : PulseChannel → SmolnesApuPulse
  | .pulse1 => state.pulse1
  | .pulse2 => state.pulse2

/-- A call that does not write to the frame counter. -/
def LeavesSequence : Call → Prop
  | .write addr _ => addr ≠ 0x4017
  | .read _ => True
  | .clock _ => True

/-- What reading, and writing to other registers than the frame counter, leave as it is. -/
structure KeepsTiming (before after : SmolnesApuState K) : Prop where
  frameCounter : after.frameCounter.cycleCount = before.frameCounter.cycleCount
  mode : after.frameCounter.mode5Step = before.frameCounter.mode5Step
  timerValue : ∀ channel, (pulseOf after channel).timerValue = (pulseOf before channel).timerValue

theorem KeepsTiming.ite {condition : Prop} [Decidable condition]
    {before first second : SmolnesApuState K} (left : condition → KeepsTiming before first)
    (right : KeepsTiming before second) :
    KeepsTiming before (if condition then first else second) := by
  split
  case isTrue holds => exact left holds
  case isFalse => exact right

theorem KeepsTiming.of_timers {before after : SmolnesApuState K}
    (frameCounter : after.frameCounter = before.frameCounter)
    (pulse1 : after.pulse1.timerValue = before.pulse1.timerValue)
    (pulse2 : after.pulse2.timerValue = before.pulse2.timerValue) : KeepsTiming before after where
  frameCounter := congrArg _ frameCounter
  mode := congrArg _ frameCounter
  timerValue
    | .pulse1 => pulse1
    | .pulse2 => pulse2

theorem smolnesApuWrite_keepsTiming (state : SmolnesApuState K) {addr : UInt16} (value : UInt8)
    (other : addr ≠ 0x4017) : KeepsTiming state (smolnesApuWrite state addr value) := by
  unfold smolnesApuWrite writeRegister
  iterate 15
    apply KeepsTiming.ite
    · intro _
      exact .of_timers rfl rfl rfl
  apply KeepsTiming.ite
  · intro sequence
    exact absurd sequence other
  · exact .of_timers rfl rfl rfl

theorem smolnesApuRead_keepsTiming (state : SmolnesApuState K) (addr : UInt16) :
    KeepsTiming state (smolnesApuRead state addr).2 := by
  unfold smolnesApuRead
  split
  · exact .of_timers rfl rfl rfl
  · exact ⟨rfl, rfl, fun channel => by cases channel <;> rfl⟩

variable [FloatOperations K]

def cycleStates (state : SmolnesApuState K) : ℕ → List (SmolnesApuState K)
  | 0 => []
  | cycles + 1 => state :: cycleStates (clockCycle state).1 cycles

/-- The states before each of the CPU cycles of some calls. -/
def cyclesOf (state : SmolnesApuState K) : List Call → List (SmolnesApuState K)
  | [] => []
  | .clock cpuCycles :: calls =>
      cycleStates state cpuCycles.toNat ++ cyclesOf (call state (.clock cpuCycles)).1 calls
  | other :: calls => cyclesOf (call state other).1 calls

def cpuCyclesIn : List Call → ℕ
  | [] => 0
  | .clock cpuCycles :: calls => cpuCycles.toNat + cpuCyclesIn calls
  | _ :: calls => cpuCyclesIn calls

/-- A spell of cycles, with the states before each of them, between which the timing is left as it
is. -/
inductive Spell : SmolnesApuState K → List (SmolnesApuState K) → Prop
  | done (state : SmolnesApuState K) : Spell state []
  | cycle {state : SmolnesApuState K} {states : List (SmolnesApuState K)}
      (rest : Spell (clockCycle state).1 states) : Spell state (state :: states)
  | between {before after : SmolnesApuState K} {states : List (SmolnesApuState K)}
      (kept : KeepsTiming before after) (rest : Spell after states) : Spell before states

theorem Spell.cycles {state : SmolnesApuState K} {states : List (SmolnesApuState K)} {cycles : ℕ}
    (rest : Spell (clockCycles state cycles).1 states) :
    Spell state (cycleStates state cycles ++ states) := by
  induction cycles generalizing state with
  | zero => exact rest
  | succ cycles ih => exact .cycle (ih rest)

theorem spell_cyclesOf (state : SmolnesApuState K) {calls : List Call}
    (quiet : ∀ call ∈ calls, LeavesSequence call) : Spell state (cyclesOf state calls) := by
  induction calls generalizing state with
  | nil => exact .done state
  | cons first calls ih =>
      have rest (next : SmolnesApuState K) : Spell next (cyclesOf next calls) :=
        ih next fun call member => quiet call (List.mem_cons_of_mem _ member)
      have leaves := quiet first List.mem_cons_self
      cases first with
      | write addr value => exact .between (smolnesApuWrite_keepsTiming state value leaves) (rest _)
      | read addr => exact .between (smolnesApuRead_keepsTiming state addr) (rest _)
      | clock cpuCycles => exact .cycles (rest _)

theorem length_cycleStates (state : SmolnesApuState K) (cycles : ℕ) :
    (cycleStates state cycles).length = cycles := by
  induction cycles generalizing state with
  | zero => rfl
  | succ cycles ih => rw [cycleStates, List.length_cons, ih]

theorem length_cyclesOf (state : SmolnesApuState K) (calls : List Call) :
    (cyclesOf state calls).length = cpuCyclesIn calls := by
  induction calls generalizing state with
  | nil => rfl
  | cons first calls ih =>
      cases first with
      | write addr value => exact ih _
      | read addr => exact ih _
      | clock cpuCycles =>
          rw [cyclesOf, cpuCyclesIn, List.length_append, length_cycleStates, ih]

end

section

/-! ## The clocks of a spell -/

variable {K : Type}

/-- How many of the first cycles of a frame counter that started at zero leave it even. -/
def evensUpTo (limit cycles : ℕ) : ℕ := cycles / limit * ((limit + 1) / 2) + cycles % limit / 2

theorem evensUpTo_succ {limit : ℕ} (odd : limit % 2 = 1) (cycles : ℕ) :
    evensUpTo limit (cycles + 1) =
      evensUpTo limit cycles + if (cycles + 1) % limit % 2 = 0 then 1 else 0 := by
  have positive : 0 < limit := by omega
  have below := Nat.mod_lt cycles positive
  have parts := Nat.div_add_mod cycles limit
  unfold evensUpTo
  by_cases last : cycles % limit + 1 = limit
  · have next : cycles + 1 = limit * (cycles / limit + 1) := by
      rw [Nat.mul_add]
      omega
    have quotient : (cycles + 1) / limit = cycles / limit + 1 := by
      rw [next]
      exact Nat.mul_div_cancel_left _ positive
    have remainder : (cycles + 1) % limit = 0 := by
      rw [next]
      exact Nat.mul_mod_right limit _
    rw [quotient, remainder, if_pos rfl, Nat.add_mul]
    omega
  · have next : cycles + 1 = cycles % limit + 1 + limit * (cycles / limit) := by omega
    have quotient : (cycles + 1) / limit = cycles / limit := by
      rw [next, Nat.add_mul_div_left _ _ positive, Nat.div_eq_of_lt (by omega), Nat.zero_add]
    have remainder : (cycles + 1) % limit = cycles % limit + 1 := by
      rw [next, Nat.add_mul_mod_self_left]
      exact Nat.mod_eq_of_lt (by omega)
    rw [quotient, remainder]
    split
    case isTrue even => omega
    case isFalse uneven => omega

theorem cycleLimit_odd (mode5Step : Bool) : cycleLimit mode5Step % 2 = 1 := by
  cases mode5Step <;> rfl

theorem nextCount_mod (mode5Step : Bool) (cycles : ℕ) :
    nextCount mode5Step (cycles % cycleLimit mode5Step) =
      (cycles + 1) % cycleLimit mode5Step := by
  have odd := cycleLimit_odd mode5Step
  have below := Nat.mod_lt cycles (show 0 < cycleLimit mode5Step by omega)
  rw [nextCount, ← Nat.mod_add_mod]
  split
  case isTrue last => rw [last, Nat.mod_self]
  case isFalse earlier =>
    have lt : cycles % cycleLimit mode5Step + 1 < cycleLimit mode5Step := by omega
    rw [Nat.mod_eq_of_lt lt]

theorem clocksPulses_iff {state : SmolnesApuState K}
    (lt : state.frameCounter.cycleCount.toNat < cycleLimit state.frameCounter.mode5Step) :
    clocksPulses state = true ↔
      nextCount state.frameCounter.mode5Step state.frameCounter.cycleCount.toNat % 2 = 0 := by
  rw [← clockFrameCounter_count lt, ← Nat.and_one_is_mod]
  unfold clocksPulses
  rw [decide_eq_true_eq, ← UInt32.toNat_inj, UInt32.toNat_and]
  rfl

variable [FloatOperations K]

/-- **The clocks of a spell.** They are computed from the count that the spell begins with. -/
theorem Spell.clocks {state : SmolnesApuState K} {states : List (SmolnesApuState K)}
    (spell : Spell state states) {mode5Step : Bool} (cycles : ℕ)
    (mode : state.frameCounter.mode5Step = mode5Step)
    (count : state.frameCounter.cycleCount.toNat = cycles % cycleLimit mode5Step) :
    states.countP clocksPulses + evensUpTo (cycleLimit mode5Step) cycles =
      evensUpTo (cycleLimit mode5Step) (cycles + states.length) := by
  induction spell generalizing cycles with
  | done state => exact Nat.zero_add _
  | @cycle state states rest ih =>
      subst mode
      have odd := cycleLimit_odd state.frameCounter.mode5Step
      have lt : state.frameCounter.cycleCount.toNat <
          cycleLimit state.frameCounter.mode5Step := by
        rw [count]
        exact Nat.mod_lt _ (by omega)
      have next : (clockCycle state).1.frameCounter.cycleCount.toNat =
          (cycles + 1) % cycleLimit state.frameCounter.mode5Step := by
        rw [clockCycle_frameCounter, clockFrameCounter_count lt, count, nextCount_mod]
      have remaining := ih (cycles + 1) (clockCycle_mode state) next
      have first := clocksPulses_iff lt
      rw [count, nextCount_mod] at first
      rw [evensUpTo_succ odd] at remaining
      have later : cycles + (states.length + 1) = cycles + 1 + states.length := by omega
      rw [List.countP_cons, List.length_cons, later, ← remaining]
      simp only [first]
      omega
  | between kept rest ih => exact ih cycles (kept.mode.trans mode) (by rw [kept.frameCounter, count])

end

section

/-! ## The duty cycle -/

variable {K : Type} [FloatOperations K]
variable (state : SmolnesApuState K)

/-- In this cycle the channel's timer has run out, and its duty position moves. -/
def stepsDuty (channel : PulseChannel) (state : SmolnesApuState K) : Bool :=
  clocksPulses state && (pulseOf (clockFrameCounter state) channel).timerValue = 0

/-- The channel's period in each of the cycles, when its timer is clocked. -/
def HasPeriod (channel : PulseChannel) (period : UInt16) (states : List (SmolnesApuState K)) :
    Prop :=
  ∀ state ∈ states, (pulseOf (clockFrameCounter state) channel).timerPeriod = period

omit [FloatOperations K]

theorem applySweep_timerValue (pulse : SmolnesApuPulse) (isPulse1 : Bool) :
    (applySweep pulse isPulse1).timerValue = pulse.timerValue := by
  unfold applySweep
  dsimp only
  split_ifs <;> rfl

theorem clockPulseHalf_timerValue (pulse : SmolnesApuPulse) (isPulse1 : Bool) :
    (clockPulseHalf pulse isPulse1).timerValue = pulse.timerValue := by
  unfold clockPulseHalf clockPulseSweep
  split_ifs
  · exact applySweep_timerValue _ _
  · rfl
  · rfl
  · exact applySweep_timerValue _ _

theorem clockQuarterFrame_timerValue (channel : PulseChannel) :
    (pulseOf (clockQuarterFrame state) channel).timerValue =
      (pulseOf state channel).timerValue := by
  cases channel <;> rfl

theorem clockHalfFrame_timerValue (channel : PulseChannel) :
    (pulseOf (clockHalfFrame state) channel).timerValue = (pulseOf state channel).timerValue := by
  cases channel with
  | pulse1 => exact clockPulseHalf_timerValue _ true
  | pulse2 => exact clockPulseHalf_timerValue _ false

theorem withCycleCount_pulseOf (cycleCount : UInt32) (channel : PulseChannel) :
    pulseOf (withCycleCount state cycleCount) channel = pulseOf state channel := by
  cases channel <;> rfl

theorem clockFrameCounter_timerValue (channel : PulseChannel) :
    (pulseOf (clockFrameCounter state) channel).timerValue =
      (pulseOf state channel).timerValue := by
  unfold clockFrameCounter
  dsimp only
  split_ifs
  all_goals
    simp [clockQuarterFrame_timerValue, clockHalfFrame_timerValue, withCycleCount_pulseOf]

variable [FloatOperations K]

theorem clockCycle_pulseOf (channel : PulseChannel) :
    pulseOf (clockCycle state).1 channel =
      if clocksPulses state then clockPulseTimer (pulseOf (clockFrameCounter state) channel)
      else pulseOf (clockFrameCounter state) channel := by
  obtain ⟨pulse1, pulse2, _, _, _⟩ :=
    downsample_frame (clockTimers (clockFrameCounter state) (clocksPulses state))
  cases channel with
  | pulse1 => exact pulse1
  | pulse2 => exact pulse2

theorem clockCycle_timerValue (channel : PulseChannel) :
    (pulseOf (clockCycle state).1 channel).timerValue.toNat +
        (if clocksPulses state then 1 else 0) =
      (pulseOf state channel).timerValue.toNat + (if stepsDuty channel state then 1 else 0) *
        ((pulseOf (clockFrameCounter state) channel).timerPeriod.toNat + 1) := by
  have value := clockFrameCounter_timerValue state channel
  rw [clockCycle_pulseOf, stepsDuty, ← value]
  generalize pulseOf (clockFrameCounter state) channel = pulse
  cases clocksPulses state with
  | false => simp
  | true =>
      simp only [if_true, Bool.true_and, decide_eq_true_eq, clockPulseTimer]
      by_cases running : pulse.timerValue > 0
      · have one_le : (1 : UInt16) ≤ pulse.timerValue := by
          rw [UInt16.le_iff_toNat_le]
          exact UInt16.lt_iff_toNat_lt.mp running
        have positive : 1 ≤ pulse.timerValue.toNat := UInt16.le_iff_toNat_le.mp one_le
        have nonzero : pulse.timerValue ≠ 0 := by
          intro zero
          rw [zero] at positive
          exact absurd positive (by decide)
        rw [if_pos running, if_neg nonzero, UInt16.toNat_sub_of_le _ _ one_le]
        change pulse.timerValue.toNat - 1 + 1 = _
        omega
      · have zero : pulse.timerValue = 0 := by
          apply UInt16.toNat_inj.mp
          have le : ¬0 < pulse.timerValue.toNat := fun lt => running (UInt16.lt_iff_toNat_lt.mpr lt)
          change _ = 0
          omega
        rw [if_neg running, if_pos zero, zero]
        change pulse.timerPeriod.toNat + 1 = 0 + 1 * (pulse.timerPeriod.toNat + 1)
        omega

theorem clockCycle_timerValue_le {state : SmolnesApuState K} {channel : PulseChannel} {period : ℕ}
    (current : (pulseOf (clockFrameCounter state) channel).timerPeriod.toNat = period)
    (le : (pulseOf state channel).timerValue.toNat ≤ period) :
    (pulseOf (clockCycle state).1 channel).timerValue.toNat ≤ period := by
  rw [← clockFrameCounter_timerValue] at le
  rw [clockCycle_pulseOf]
  unfold clockPulseTimer
  split_ifs with clocked running
  · exact (timer_sub_one_le running).trans le
  · exact current.le
  · exact le

/-- **The duty steps of a spell.** Between two of them the timer runs down from its period. -/
theorem Spell.duty {state : SmolnesApuState K} {states : List (SmolnesApuState K)}
    (spell : Spell state states) {channel : PulseChannel} {period : UInt16}
    (constant : HasPeriod channel period states)
    (le : (pulseOf state channel).timerValue.toNat ≤ period.toNat) :
    ∃ left ≤ period.toNat,
      states.countP clocksPulses + left =
        (pulseOf state channel).timerValue.toNat +
          states.countP (stepsDuty channel) * (period.toNat + 1) := by
  induction spell with
  | done state => exact ⟨_, le, by rw [List.countP_nil, List.countP_nil, Nat.zero_mul]; omega⟩
  | @cycle state states rest ih =>
      have current := congrArg UInt16.toNat (constant state List.mem_cons_self)
      have step := clockCycle_timerValue state channel
      rw [current] at step
      obtain ⟨left, left_le, total⟩ :=
        ih (fun state member => constant state (List.mem_cons_of_mem _ member))
          (clockCycle_timerValue_le current le)
      refine ⟨left, left_le, ?_⟩
      rw [List.countP_cons, List.countP_cons, Nat.add_mul]
      omega
  | between kept rest ih =>
      rw [← kept.timerValue channel] at le ⊢
      exact ih constant le

end

section

/-! ## Half the rate -/

variable {K : Type} [FloatOperations K]
variable {state : SmolnesApuState K} {calls : List Call}

/-- The timers are clocked in every other cycle, and a full duty cycle takes sixteen times one more
than the period. -/
structure HalfRate (state : SmolnesApuState K) (calls : List Call) : Prop where
  clocks :
    (cyclesOf state calls).countP clocksPulses = cpuCyclesIn calls / 2 ∨
      (cyclesOf state calls).countP clocksPulses = (cpuCyclesIn calls + 1) / 2
  duty : ∀ (channel : PulseChannel) (period : UInt16) (dutyCycles : ℕ),
    cpuCyclesIn calls = 16 * (period.toNat + 1) * dutyCycles →
      HasPeriod channel period (cyclesOf state calls) →
        (pulseOf state channel).timerValue.toNat ≤ period.toNat →
          (cyclesOf state calls).countP (stepsDuty channel) = 8 * dutyCycles

/-- The restarts of the frame counter, each of which gives a clock too many, are made up for by the
parities of the counts at the two ends. -/
def StaysInStep (frameCounter : SmolnesApuFrameCounter) (cycles : ℕ) : Prop :=
  (frameCounter.cycleCount.toNat + cycles) / cycleLimit frameCounter.mode5Step +
      frameCounter.cycleCount.toNat % 2 ≤
    1 + (frameCounter.cycleCount.toNat + cycles) % cycleLimit frameCounter.mode5Step % 2

theorem clocks_eq (inRange : InHardwareRange state) (quiet : ∀ call ∈ calls, LeavesSequence call) :
    (cyclesOf state calls).countP clocksPulses +
        evensUpTo (cycleLimit state.frameCounter.mode5Step)
          state.frameCounter.cycleCount.toNat =
      evensUpTo (cycleLimit state.frameCounter.mode5Step)
        (state.frameCounter.cycleCount.toNat + cpuCyclesIn calls) := by
  rw [← length_cyclesOf state calls]
  exact (spell_cyclesOf state quiet).clocks _ rfl (Nat.mod_eq_of_lt inRange.cycleCount).symm

theorem clocks_half_iff (inRange : InHardwareRange state)
    (quiet : ∀ call ∈ calls, LeavesSequence call) :
    ((cyclesOf state calls).countP clocksPulses = cpuCyclesIn calls / 2 ∨
        (cyclesOf state calls).countP clocksPulses = (cpuCyclesIn calls + 1) / 2) ↔
      StaysInStep state.frameCounter (cpuCyclesIn calls) := by
  have total := clocks_eq inRange quiet
  have lt := inRange.cycleCount
  unfold StaysInStep
  generalize (cyclesOf state calls).countP clocksPulses = clocks at total ⊢
  generalize cpuCyclesIn calls = cycles at total ⊢
  generalize state.frameCounter.cycleCount.toNat = count at total lt ⊢
  cases mode : state.frameCounter.mode5Step with
  | false =>
      rw [mode] at total lt
      simp only [evensUpTo, cycleLimit, Bool.false_eq_true, if_false] at total lt ⊢
      omega
  | true =>
      rw [mode] at total lt
      simp only [evensUpTo, cycleLimit, if_true] at total lt ⊢
      omega

theorem duty_of_clocks (quiet : ∀ call ∈ calls, LeavesSequence call)
    (clocks : (cyclesOf state calls).countP clocksPulses = cpuCyclesIn calls / 2 ∨
      (cyclesOf state calls).countP clocksPulses = (cpuCyclesIn calls + 1) / 2)
    {channel : PulseChannel} {period : UInt16} {dutyCycles : ℕ}
    (whole : cpuCyclesIn calls = 16 * (period.toNat + 1) * dutyCycles)
    (constant : HasPeriod channel period (cyclesOf state calls))
    (le : (pulseOf state channel).timerValue.toNat ≤ period.toNat) :
    (cyclesOf state calls).countP (stepsDuty channel) = 8 * dutyCycles := by
  obtain ⟨left, left_le, total⟩ := (spell_cyclesOf state quiet).duty constant le
  have even : cpuCyclesIn calls = 2 * (8 * dutyCycles * (period.toNat + 1)) := by
    rw [whole]
    ring
  have half : (cyclesOf state calls).countP clocksPulses =
      8 * dutyCycles * (period.toNat + 1) := by omega
  rw [half] at total
  have positive : 0 < period.toNat + 1 := Nat.succ_pos _
  -- Both sides are divided by the length of a period.
  have quotients : (left + 8 * dutyCycles * (period.toNat + 1)) / (period.toNat + 1) =
      ((pulseOf state channel).timerValue.toNat +
        (cyclesOf state calls).countP (stepsDuty channel) * (period.toNat + 1)) /
          (period.toNat + 1) := by
    rw [Nat.add_comm, total]
  rw [Nat.add_mul_div_right _ _ positive, Nat.add_mul_div_right _ _ positive,
    Nat.div_eq_of_lt (Nat.lt_succ_of_le left_le), Nat.div_eq_of_lt (Nat.lt_succ_of_le le),
    Nat.zero_add, Nat.zero_add] at quotients
  exact quotients.symm

/-- **When the pulse timers run at half the rate.** In the cycles of any calls that do not write to
the frame counter. -/
theorem halfRate_iff {outputSampleRate : K} {state : SmolnesApuState K}
    (reached : (machine outputSampleRate).Reachable state) {calls : List Call}
    (quiet : ∀ call ∈ calls, LeavesSequence call) :
    HalfRate state calls ↔ StaysInStep state.frameCounter (cpuCyclesIn calls) := by
  have clocks := clocks_half_iff (inHardwareRange_reached reached) quiet
  constructor
  · intro half
    exact clocks.mp half.clocks
  · intro inStep
    refine ⟨clocks.mpr inStep, ?_⟩
    intro channel period dutyCycles whole constant le
    exact duty_of_clocks quiet (clocks.mpr inStep) whole constant le

theorem halfRate_iff_start :
    HalfRate (smolnesApuInit (48000 : ℚ)) [.clock 100] ↔
      StaysInStep (smolnesApuInit (48000 : ℚ)).frameCounter (cpuCyclesIn [.clock 100]) :=
  halfRate_iff ⟨smolnesApuInit (48000 : ℚ), [], rfl, .nil _⟩ fun call member => by
    rw [List.mem_singleton.mp member]
    trivial

/-- Two frames give 29830 clocks in 59658 cycles. -/
theorem not_halfRate :
    (machine (48000 : ℚ)).Reachable (smolnesApuInit 48000) ∧
      (∀ call ∈ [Call.clock 59658], LeavesSequence call) ∧
        (cyclesOf (smolnesApuInit (48000 : ℚ)) [.clock 59658]).countP clocksPulses = 29830 ∧
          ¬HalfRate (smolnesApuInit (48000 : ℚ)) [.clock 59658] := by
  have quiet : ∀ call ∈ [Call.clock 59658], LeavesSequence call := by
    intro call member
    rw [List.mem_singleton.mp member]
    trivial
  have mode : (smolnesApuInit (48000 : ℚ)).frameCounter.mode5Step = false := rfl
  have count : (smolnesApuInit (48000 : ℚ)).frameCounter.cycleCount.toNat = 0 := rfl
  have cycles : cpuCyclesIn [Call.clock 59658] = 59658 := rfl
  have start : evensUpTo (cycleLimit false) 0 = 0 := rfl
  have twoFrames : evensUpTo (cycleLimit false) (0 + 59658) = 29830 := rfl
  have clocks := clocks_eq (inHardwareRange_init (48000 : ℚ)) quiet
  rw [mode, count, cycles, start, twoFrames, Nat.add_zero] at clocks
  refine ⟨⟨smolnesApuInit 48000, [], rfl, .nil _⟩, quiet, clocks, ?_⟩
  intro half
  have clocked := half.clocks
  rw [cycles, clocks] at clocked
  omega

end

end SmolnesApu

end DirtSim
