import Mathlib.Algebra.BigOperators.Group.Finset.Basic
import Mathlib.Algebra.BigOperators.Group.Finset.Piecewise
import Mathlib.Algebra.BigOperators.Group.Multiset.Basic

/-! # Exchanges

An amount is passed between two places: the first one gets it, and the second one loses it. Over all
places nothing is gained (`Exchange.sum_received`). When every place exchanges with those some steps
ahead of it, what it gets is what it exchanges with the places ahead less what those behind exchange
with it (`Exchange.received_scan`).
-/

namespace DirtSim.Foundation

structure Exchange (α C : Type*) where
  first : α
  second : α
  amount : C

namespace Exchange

variable {α C : Type*} [DecidableEq α] [AddCommGroup C]

def share (exchange : Exchange α C) (place : α) : C :=
  (if exchange.first = place then exchange.amount else 0) -
    (if exchange.second = place then exchange.amount else 0)

def received (exchanges : List (Exchange α C)) (place : α) : C :=
  (exchanges.map fun exchange => exchange.share place).sum

@[simp] theorem received_nil (place : α) : received ([] : List (Exchange α C)) place = 0 := rfl

@[simp] theorem received_cons (exchange : Exchange α C) (exchanges : List (Exchange α C))
    (place : α) :
    received (exchange :: exchanges) place = exchange.share place + received exchanges place := by
  simp [received]

theorem received_flatMap {β : Type*} (sources : List β) (exchanges : β → List (Exchange α C))
    (place : α) : received (sources.flatMap exchanges) place =
      (sources.map fun source => received (exchanges source) place).sum := by
  rw [received, List.map_flatMap, List.flatMap_def, List.sum_flatten, List.map_map]
  rfl

theorem sum_share {exchange : Exchange α C} {places : Finset α} (first : exchange.first ∈ places)
    (second : exchange.second ∈ places) : ∑ place ∈ places, exchange.share place = 0 := by
  simp [share, Finset.sum_sub_distrib, first, second]

/-- **Nothing is gained** where both places of every exchange are counted. -/
theorem sum_received {exchanges : List (Exchange α C)} {places : Finset α}
    (within : ∀ exchange ∈ exchanges, exchange.first ∈ places ∧ exchange.second ∈ places) :
    ∑ place ∈ places, received exchanges place = 0 := by
  induction exchanges with
  | nil => simp
  | cons exchange exchanges ih =>
      obtain ⟨first, second⟩ := within exchange List.mem_cons_self
      have rest := ih fun other later => within other (List.mem_cons_of_mem _ later)
      simp [Finset.sum_add_distrib, sum_share first second, rest]

section

variable {σ : Type*} {places : List α} {ahead behind : σ → α → α} {amount : α → σ → C}

/-- What a place gets when every place exchanges with the one ahead of it. -/
theorem sum_share_scan (nodup : places.Nodup) {step : σ}
    (inverse : ∀ source target, ahead step source = target ↔ source = behind step target)
    (outside : ∀ place ∉ places, amount place step = 0) (place : α) :
    (places.map fun source =>
        (⟨source, ahead step source, amount source step⟩ : Exchange α C).share place).sum =
      amount place step - amount (behind step place) step := by
  have single (here : α) :
      ∑ source ∈ places.toFinset, (if source = here then amount source step else 0) =
        amount here step := by
    rw [Finset.sum_ite_eq']
    split_ifs with listed
    · rfl
    · exact (outside here fun member => listed (List.mem_toFinset.mpr member)).symm
  rw [← List.sum_toFinset _ nodup]
  simp [share, inverse, single]

variable (ahead behind amount) in
theorem received_scan (nodup : places.Nodup) (steps : List σ)
    (inverse : ∀ step source target, ahead step source = target ↔ source = behind step target)
    (outside : ∀ place ∉ places, ∀ step, amount place step = 0) (place : α) :
    received (places.flatMap fun source =>
        steps.map fun step => ⟨source, ahead step source, amount source step⟩) place =
      (steps.map fun step => amount place step - amount (behind step place) step).sum := by
  have swapped := Multiset.sum_map_sum_map (places : Multiset α) (steps : Multiset σ)
    (f := fun source step =>
      (⟨source, ahead step source, amount source step⟩ : Exchange α C).share place)
  simp only [Multiset.map_coe, Multiset.sum_coe] at swapped
  rw [received_flatMap]
  simp only [received, List.map_map, Function.comp_def]
  refine swapped.trans (congrArg List.sum (List.map_congr_left fun step _ => ?_))
  exact sum_share_scan nodup (inverse step) (fun other absent => outside other absent step) place

end

end Exchange

end DirtSim.Foundation
