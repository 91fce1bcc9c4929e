import Mathlib.Data.List.Basic
import Mathlib.Tactic.Common

/-! # Labelled transition systems and their runs

A system is a set of initial states and a labelled step relation. A property kept by each step holds
in every reachable state (`Machine.Reachable.invariant`), and what every run reaches is shown by a
rank (`Machine.inevitable_of_rank`). For a list of inputs, `EachStep` and `AtEachStep` speak of
every step.
-/

namespace DirtSim.Foundation

structure Machine (Label State : Type*) where
  initial : State → Prop
  step : State → Label → State → Prop

namespace Machine

variable {Label State : Type*} {machine : Machine Label State}

/-- The labelled steps taken from one state to another, oldest label first. -/
inductive Run (machine : Machine Label State) : State → List Label → State → Prop
  | nil (state : State) : Run machine state [] state
  | cons {before middle after : State} {label : Label} {labels : List Label}
      (moved : machine.step before label middle) (rest : Run machine middle labels after) :
      Run machine before (label :: labels) after

/-- A state is reachable when some run ends there from an initial state. -/
def Reachable (machine : Machine Label State) (state : State) : Prop :=
  ∃ start labels, machine.initial start ∧ machine.Run start labels state

/-- The machine that takes only the steps meeting a condition on the state before the step
and on its label. -/
def guarded (machine : Machine Label State) (condition : State → Label → Prop) :
    Machine Label State where
  initial := machine.initial
  step before label after := machine.step before label after ∧ condition before label

theorem Run.append_iff {before after : State} {first second : List Label} :
    machine.Run before (first ++ second) after ↔
      ∃ middle, machine.Run before first middle ∧ machine.Run middle second after := by
  induction first generalizing before with
  | nil =>
      constructor
      · intro run
        exact ⟨before, .nil before, run⟩
      · rintro ⟨middle, empty, run⟩
        cases empty
        exact run
  | cons label first ih =>
      constructor
      · intro run
        cases run with
        | cons moved rest =>
            obtain ⟨middle, front, back⟩ := ih.mp rest
            exact ⟨middle, .cons moved front, back⟩
      · rintro ⟨middle, front, back⟩
        cases front with
        | cons moved rest => exact .cons moved (ih.mpr ⟨middle, rest, back⟩)

theorem Run.snoc {before middle after : State} {labels : List Label} {label : Label}
    (run : machine.Run before labels middle) (moved : machine.step middle label after) :
    machine.Run before (labels ++ [label]) after :=
  Run.append_iff.mpr ⟨middle, run, .cons moved (.nil after)⟩

/-- A property kept by every step is kept by every run. -/
theorem Run.invariant {property : State → Prop}
    (kept : ∀ before label after, property before → machine.step before label after →
      property after)
    {before after : State} {labels : List Label} (run : machine.Run before labels after)
    (holds : property before) : property after := by
  induction run with
  | nil state => exact holds
  | cons moved rest ih => exact ih (kept _ _ _ holds moved)

theorem Reachable.step {before after : State} {label : Label}
    (reached : machine.Reachable before) (moved : machine.step before label after) :
    machine.Reachable after := by
  obtain ⟨start, labels, initial, run⟩ := reached
  exact ⟨start, labels ++ [label], initial, run.snoc moved⟩

/-- **Invariant rule.** A property of the initial states kept by every step holds in every
reachable state. -/
theorem Reachable.invariant {property : State → Prop}
    (starts : ∀ state, machine.initial state → property state)
    (kept : ∀ before label after, property before → machine.step before label after →
      property after)
    {state : State} (reached : machine.Reachable state) : property state := by
  obtain ⟨start, labels, initial, run⟩ := reached
  exact run.invariant kept (starts start initial)

/-- A guarded run is a run of the machine it guards. -/
theorem Run.of_guarded {condition : State → Label → Prop} {before after : State}
    {labels : List Label} (run : (machine.guarded condition).Run before labels after) :
    machine.Run before labels after := by
  induction run with
  | nil state => exact .nil state
  | cons moved rest ih => exact .cons moved.1 ih

/-- A run whose labels meet a condition in any state is a guarded run. -/
theorem Run.guard {condition : State → Label → Prop} {before after : State} {labels : List Label}
    (run : machine.Run before labels after)
    (meets : ∀ label ∈ labels, ∀ state, condition state label) :
    (machine.guarded condition).Run before labels after := by
  induction run with
  | nil state => exact .nil state
  | cons moved rest ih =>
      have first := meets _ List.mem_cons_self
      exact .cons ⟨moved, first _⟩ (ih fun label later => meets label (List.mem_cons_of_mem _ later))

/-- From the state, every run reaches the goal: until it is there some step is possible, and
every possible step leads on to it. -/
inductive Inevitable (machine : Machine Label State) (goal : State → Prop) : State → Prop
  | here {state : State} (holds : goal state) : Inevitable machine goal state
  | later {state : State} (possible : ∃ label after, machine.step state label after)
      (leads : ∀ label after, machine.step state label after → Inevitable machine goal after) :
      Inevitable machine goal state

/-- **Rank rule.** Where a property holds, some step is possible, and every step reaches the goal
or keeps the property at a lower rank. -/
theorem inevitable_of_rank {goal property : State → Prop} (rank : State → ℕ)
    (possible : ∀ state, property state → ∃ label after, machine.step state label after)
    (lowers : ∀ state label after, property state → machine.step state label after →
      goal after ∨ (property after ∧ rank after < rank state))
    {state : State} (holds : property state) : machine.Inevitable goal state := by
  induction bound : rank state using Nat.strongRecOn generalizing state with
  | ind n ih =>
      refine .later (possible state holds) fun label after moved => ?_
      rcases lowers state label after holds moved with reached | ⟨kept, lower⟩
      · exact .here reached
      · exact ih (rank after) (bound ▸ lower) kept rfl

end Machine

section

variable {State Input : Type*}

/-- Every step that a program takes on its inputs stands in a relation. The program ends early
where a step has no result. -/
def EachStep (step : State → Input → Option State) (relation : State → State → Prop) :
    State → List Input → Prop
  | _, [] => True
  | state, input :: inputs => ∀ next, step state input = some next →
      relation state next ∧ EachStep step relation next inputs

/-- A relation that follows from an invariant, which each step on these inputs keeps. -/
theorem EachStep.of_invariant {step : State → Input → Option State}
    {relation : State → State → Prop} (invariant : State → Prop) {inputs : List Input}
    (stepped : ∀ state input next, input ∈ inputs → invariant state →
      step state input = some next → relation state next ∧ invariant next)
    {state : State} (holds : invariant state) : EachStep step relation state inputs := by
  induction inputs generalizing state with
  | nil => trivial
  | cons input inputs ih =>
      intro next moved
      obtain ⟨related, kept⟩ := stepped state input next List.mem_cons_self holds moved
      exact ⟨related, ih (fun before other after later =>
        stepped before other after (List.mem_cons_of_mem _ later)) kept⟩

/-- A property of every state that a program meets and of the input that it takes there. -/
def AtEachStep (step : State → Input → Option State) (property : State → Input → Prop) :
    State → List Input → Prop
  | _, [] => True
  | state, input :: inputs => property state input ∧
      ∀ next, step state input = some next → AtEachStep step property next inputs

/-- **Exchange rule.** Two properties that agree where an invariant holds, when the invariant
lasts as long as the first of them does. -/
theorem AtEachStep.congr {step : State → Input → Option State}
    {first second : State → Input → Prop} (invariant : State → Prop) {inputs : List Input}
    (agree : ∀ state input, input ∈ inputs → invariant state →
      (first state input ↔ second state input))
    (kept : ∀ state input next, input ∈ inputs → invariant state → first state input →
      step state input = some next → invariant next)
    {state : State} (holds : invariant state) :
    AtEachStep step first state inputs ↔ AtEachStep step second state inputs := by
  induction inputs generalizing state with
  | nil => exact Iff.rfl
  | cons input inputs ih =>
      have same := agree state input List.mem_cons_self holds
      have later {next : State} (meets : first state input) (moved : step state input = some next) :=
        ih (fun before other listed => agree before other (List.mem_cons_of_mem _ listed))
          (fun before other after listed =>
            kept before other after (List.mem_cons_of_mem _ listed))
          (kept state input next List.mem_cons_self holds meets moved)
      constructor
      · rintro ⟨meets, rest⟩
        exact ⟨same.mp meets, fun next moved => (later meets moved).mp (rest next moved)⟩
      · rintro ⟨meets, rest⟩
        have meets' := same.mpr meets
        exact ⟨meets', fun next moved => (later meets' moved).mpr (rest next moved)⟩

/-- **Consequence rule.** A property that follows from another one where an invariant holds, when
every step keeps the invariant. -/
theorem AtEachStep.imp {step : State → Input → Option State} {first second : State → Input → Prop}
    (invariant : State → Prop) {inputs : List Input}
    (implies : ∀ state input, input ∈ inputs → invariant state → first state input →
      second state input)
    (kept : ∀ state input next, input ∈ inputs → invariant state →
      step state input = some next → invariant next)
    {state : State} (holds : invariant state) (meets : AtEachStep step first state inputs) :
    AtEachStep step second state inputs := by
  induction inputs generalizing state with
  | nil => trivial
  | cons input inputs ih =>
      refine ⟨implies state input List.mem_cons_self holds meets.1, fun next moved => ?_⟩
      exact ih (fun before other listed => implies before other (List.mem_cons_of_mem _ listed))
        (fun before other after listed => kept before other after (List.mem_cons_of_mem _ listed))
        (kept state input next List.mem_cons_self holds moved) (meets.2 next moved)

end

end DirtSim.Foundation
