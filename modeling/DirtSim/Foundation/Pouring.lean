import Mathlib.Algebra.BigOperators.Group.Finset.Piecewise
import Mathlib.Algebra.Order.BigOperators.Group.Finset
import Mathlib.Algebra.Order.Ring.Defs
import Mathlib.Tactic.Linarith
import Mathlib.Tactic.LinearCombination
import Mathlib.Tactic.Ring

/-! # Pouring

What is in hand is poured into one vessel after another, each up to its brim; what is left does not
depend on the order (`Pouring.rest_pourAll`). A vessel is emptied by pouring what it holds into
others (`Pouring.evict_wasteless_iff`).
-/

namespace DirtSim.Foundation

/-- The levels of some vessels, and what is still in hand. -/
structure Pouring (α K : Type*) where
  level : α → K
  rest : K

namespace Pouring

variable {α K : Type*} [DecidableEq α] [CommRing K] [LinearOrder K] {brim : K} {level : α → K}
  {vessels : Finset α} {vessel other : α}

def room (brim : K) (level : α → K) (vessel : α) : K := max 0 (brim - level vessel)

/-- Every vessel holds something between nothing and the brim. -/
def Fits (brim : K) (level : α → K) : Prop := ∀ vessel, 0 ≤ level vessel ∧ level vessel ≤ brim

def pour (brim : K) (pouring : Pouring α K) (vessel : α) : Pouring α K :=
  let taken := min (room brim pouring.level vessel) pouring.rest
  ⟨Function.update pouring.level vessel (pouring.level vessel + taken), pouring.rest - taken⟩

def pourAll (brim : K) (pouring : Pouring α K) (into : List α) : Pouring α K :=
  into.foldl (pour brim) pouring

def evict (brim : K) (level : α → K) (vessel : α) (into : List α) : Pouring α K :=
  pourAll brim ⟨Function.update level vessel 0, level vessel⟩ into

def decant (level : α → K) (giver taker : α) (amount : K) : α → K :=
  Function.update (Function.update level giver (level giver - amount)) taker (level taker + amount)

section

variable [IsStrictOrderedRing K]

omit [LinearOrder K] [IsStrictOrderedRing K] in
theorem sum_update (inside : vessel ∈ vessels) (level : α → K) (amount : K) :
    ∑ other ∈ vessels, Function.update level vessel amount other =
      ∑ other ∈ vessels, level other - level vessel + amount := by
  rw [Finset.sum_update_of_mem inside, ← Finset.sum_sdiff (Finset.singleton_subset_iff.mpr inside),
    Finset.sum_singleton]
  ring

section

omit [IsStrictOrderedRing K]

theorem total_pour (inside : vessel ∈ vessels) (pouring : Pouring α K) :
    ∑ other ∈ vessels, (pour brim pouring vessel).level other + (pour brim pouring vessel).rest =
      ∑ other ∈ vessels, pouring.level other + pouring.rest := by
  simp only [pour, sum_update inside]
  ring

theorem total_pourAll (brim : K) {into : List α} (inside : ∀ vessel ∈ into, vessel ∈ vessels)
    (pouring : Pouring α K) :
    ∑ other ∈ vessels, (pourAll brim pouring into).level other + (pourAll brim pouring into).rest =
      ∑ other ∈ vessels, pouring.level other + pouring.rest := by
  induction into generalizing pouring with
  | nil => rfl
  | cons vessel into ih =>
      have first := inside vessel List.mem_cons_self
      calc _ = ∑ other ∈ vessels, (pour brim pouring vessel).level other +
            (pour brim pouring vessel).rest :=
            ih (fun later member => inside later (List.mem_cons_of_mem _ member)) _
        _ = _ := total_pour first pouring

theorem total_evict {into : List α} (inside : vessel ∈ vessels)
    (inside' : ∀ other ∈ into, other ∈ vessels) :
    ∑ other ∈ vessels, (evict brim level vessel into).level other =
      ∑ other ∈ vessels, level other - (evict brim level vessel into).rest := by
  have kept := total_pourAll brim inside' ⟨Function.update level vessel 0, level vessel⟩
  rw [sum_update inside] at kept
  rw [evict]
  linear_combination kept

end

omit [LinearOrder K] [IsStrictOrderedRing K] in
theorem total_decant {giver taker : α} (gives : giver ∈ vessels) (takes : taker ∈ vessels)
    (apart : giver ≠ taker) (amount : K) :
    ∑ other ∈ vessels, decant level giver taker amount other = ∑ other ∈ vessels, level other := by
  rw [decant, sum_update takes, sum_update gives, Function.update_of_ne apart.symm]
  ring

end

section

variable [IsStrictOrderedRing K] {pouring : Pouring α K} {into : List α}

omit [DecidableEq α] [IsStrictOrderedRing K] in
theorem room_nonneg : 0 ≤ room brim level vessel := le_max_left _ _

omit [DecidableEq α] in
theorem room_of_fits (fits : Fits brim level) : room brim level vessel = brim - level vessel :=
  max_eq_right (sub_nonneg.mpr (fits vessel).2)

theorem rest_pour_nonneg : 0 ≤ (pour brim pouring vessel).rest :=
  sub_nonneg.mpr (min_le_right (room brim pouring.level vessel) pouring.rest)

omit [IsStrictOrderedRing K] in
/-- Without room or without rest nothing happens. -/
theorem pour_eq_self (nothing : min (room brim pouring.level vessel) pouring.rest = 0) :
    pour brim pouring vessel = pouring := by
  simp [pour, nothing]

theorem room_pour_self (some_rest : 0 ≤ pouring.rest) :
    room brim (pour brim pouring vessel).level vessel =
      room brim pouring.level vessel - min (room brim pouring.level vessel) pouring.rest := by
  simp only [room, pour, Function.update_self]
  rcases le_total 0 (brim - pouring.level vessel) with some_room | full
  · rw [max_eq_right some_room, max_eq_right]
    · ring
    · linarith [min_le_left (brim - pouring.level vessel) pouring.rest]
  · rw [max_eq_left full, min_eq_left some_rest, add_zero, max_eq_left full, sub_zero]

omit [IsStrictOrderedRing K] in
theorem room_pour_of_ne (apart : other ≠ vessel) :
    room brim (pour brim pouring vessel).level other = room brim pouring.level other := by
  simp [room, pour, Function.update_of_ne apart]

theorem room_pour_le (some_rest : 0 ≤ pouring.rest) :
    room brim (pour brim pouring vessel).level other ≤ room brim pouring.level other := by
  by_cases same : other = vessel
  · subst other
    rw [room_pour_self some_rest]
    exact sub_le_self _ (le_min room_nonneg some_rest)
  · exact (room_pour_of_ne same).le

theorem room_pourAll_le (some_rest : 0 ≤ pouring.rest) :
    room brim (pourAll brim pouring into).level other ≤ room brim pouring.level other := by
  induction into generalizing pouring with
  | nil => exact le_refl _
  | cons vessel into ih => exact (ih rest_pour_nonneg).trans (room_pour_le some_rest)

omit [IsStrictOrderedRing K] in
theorem level_pourAll_of_not_mem (missing : other ∉ into) :
    (pourAll brim pouring into).level other = pouring.level other := by
  induction into generalizing pouring with
  | nil => rfl
  | cons vessel into ih =>
      obtain ⟨apart, later⟩ := not_or.mp (List.mem_cons.not.mp missing)
      have first : (pour brim pouring vessel).level other = pouring.level other :=
        Function.update_of_ne apart ..
      exact (ih later).trans first

theorem fits_pour (fits : Fits brim pouring.level) (some_rest : 0 ≤ pouring.rest) :
    Fits brim (pour brim pouring vessel).level := by
  intro other
  by_cases same : other = vessel
  · subst other
    have taken_nonneg : 0 ≤ min (room brim pouring.level vessel) pouring.rest :=
      le_min room_nonneg some_rest
    have taken_le := min_le_left (room brim pouring.level vessel) pouring.rest
    obtain ⟨low, high⟩ := fits vessel
    rw [room_of_fits fits] at taken_nonneg taken_le
    simp only [pour, Function.update_self, room_of_fits fits]
    constructor
    · linarith
    · linarith
  · simp only [pour, Function.update_of_ne same]
    exact fits other

theorem fits_pourAll (fits : Fits brim pouring.level) (some_rest : 0 ≤ pouring.rest) :
    Fits brim (pourAll brim pouring into).level := by
  induction into generalizing pouring with
  | nil => exact fits
  | cons vessel into ih => exact ih (fits_pour fits some_rest) rest_pour_nonneg

/-- What is left is what all the rooms together cannot take. -/
theorem rest_pourAll (some_rest : 0 ≤ pouring.rest) :
    (pourAll brim pouring into).rest =
      max 0 (pouring.rest - ∑ vessel ∈ into.toFinset, room brim pouring.level vessel) := by
  induction into generalizing pouring with
  | nil => rw [List.toFinset_nil, Finset.sum_empty, sub_zero, max_eq_right some_rest]; rfl
  | cons vessel into ih =>
      have first : (pourAll brim pouring (vessel :: into)).rest =
          max 0 ((pour brim pouring vessel).rest -
            ∑ other ∈ into.toFinset, room brim (pour brim pouring vessel).level other) :=
        ih rest_pour_nonneg
      have split : ∑ other ∈ (vessel :: into).toFinset, room brim pouring.level other =
          room brim pouring.level vessel +
            ∑ other ∈ into.toFinset.erase vessel, room brim pouring.level other := by
        have same : (vessel :: into).toFinset = insert vessel (into.toFinset.erase vessel) := by
          ext other
          simp only [List.toFinset_cons, Finset.mem_insert, Finset.mem_erase]
          tauto
        rw [same, Finset.sum_insert (Finset.notMem_erase _ _)]
      have later_nonneg : 0 ≤ ∑ other ∈ into.toFinset.erase vessel,
          room brim pouring.level other := Finset.sum_nonneg fun _ _ => room_nonneg
      rw [first, split]
      rcases le_total pouring.rest (room brim pouring.level vessel) with enough | short
      -- The vessel takes everything, and nothing is left for the later ones.
      · have none_left : (pour brim pouring vessel).rest = 0 := by
          simp [pour, min_eq_right enough]
        have rooms : 0 ≤ ∑ other ∈ into.toFinset,
            room brim (pour brim pouring vessel).level other :=
          Finset.sum_nonneg fun _ _ => room_nonneg
        rw [none_left, max_eq_left (by linarith), max_eq_left (by linarith)]
      -- The vessel is full from here on, so that it counts once however often it returns.
      · have left : (pour brim pouring vessel).rest =
            pouring.rest - room brim pouring.level vessel := by
          simp [pour, min_eq_left short]
        have full : room brim (pour brim pouring vessel).level vessel = 0 := by
          rw [room_pour_self some_rest, min_eq_left short, sub_self]
        have others : ∑ other ∈ into.toFinset, room brim (pour brim pouring vessel).level other =
            ∑ other ∈ into.toFinset.erase vessel, room brim pouring.level other := by
          rw [← Finset.sum_erase _ full]
          exact Finset.sum_congr rfl fun other member =>
            room_pour_of_ne (Finset.ne_of_mem_erase member)
        rw [left, others, sub_sub]

omit [IsStrictOrderedRing K] in
theorem pourAll_of_empty (empty : pouring.rest = 0) : pourAll brim pouring into = pouring := by
  induction into with
  | nil => rfl
  | cons vessel into ih =>
      have nothing : min (room brim pouring.level vessel) pouring.rest = 0 := by
        rw [empty, min_eq_right room_nonneg]
      have first : pour brim pouring vessel = pouring := pour_eq_self nothing
      rw [pourAll, List.foldl_cons, first]
      exact ih

theorem rest_pourAll_nonneg (some_rest : 0 ≤ pouring.rest) :
    0 ≤ (pourAll brim pouring into).rest := by
  rw [rest_pourAll some_rest]
  exact le_max_left _ _

/-- Where something is left, every vessel that was offered is full. -/
theorem full_of_rest (some_rest : 0 ≤ pouring.rest) (left : 0 < (pourAll brim pouring into).rest)
    (offered : vessel ∈ into) : room brim (pourAll brim pouring into).level vessel = 0 := by
  induction into generalizing pouring with
  | nil => exact absurd offered List.not_mem_nil
  | cons first into ih =>
      have rest_nonneg : 0 ≤ (pour brim pouring first).rest := rest_pour_nonneg
      rcases List.mem_cons.mp offered with rfl | later
      · rcases le_or_gt pouring.rest (room brim pouring.level vessel) with enough | short
        · have none_left : (pour brim pouring vessel).rest = 0 := by
            simp [pour, min_eq_right enough]
          have rooms : 0 ≤ ∑ other ∈ into.toFinset,
              room brim (pour brim pouring vessel).level other :=
            Finset.sum_nonneg fun _ _ => room_nonneg
          have spent : (pourAll brim pouring (vessel :: into)).rest = 0 := by
            calc (pourAll brim pouring (vessel :: into)).rest
                = max 0 ((pour brim pouring vessel).rest - ∑ other ∈ into.toFinset,
                    room brim (pour brim pouring vessel).level other) := rest_pourAll rest_nonneg
              _ = 0 := max_eq_left (by linarith)
          exact absurd left spent.not_gt
        · have full : room brim (pour brim pouring vessel).level vessel = 0 := by
            rw [room_pour_self some_rest, min_eq_left short.le, sub_self]
          exact le_antisymm ((room_pourAll_le rest_nonneg).trans full.le) room_nonneg
      · exact ih rest_nonneg left later

end

section

variable [IsStrictOrderedRing K] {into : List α}

theorem fits_evict (fits : Fits brim level) : Fits brim (evict brim level vessel into).level := by
  apply fits_pourAll
  · intro other
    by_cases same : other = vessel
    · subst other
      simp only [Function.update_self]
      exact ⟨le_refl 0, (fits vessel).1.trans (fits vessel).2⟩
    · simp only [Function.update_of_ne same]
      exact fits other
  · exact (fits vessel).1

theorem rest_evict_nonneg (fits : Fits brim level) : 0 ≤ (evict brim level vessel into).rest :=
  rest_pourAll_nonneg (fits vessel).1

section

omit [IsStrictOrderedRing K]

theorem level_evict_self (apart : vessel ∉ into) :
    (evict brim level vessel into).level vessel = 0 := by
  rw [evict, level_pourAll_of_not_mem apart]
  exact Function.update_self ..

theorem level_evict_of_ne (apart : other ≠ vessel) (missing : other ∉ into) :
    (evict brim level vessel into).level other = level other := by
  rw [evict, level_pourAll_of_not_mem missing]
  exact Function.update_of_ne apart ..

theorem level_evict_of_empty (empty : level vessel = 0) :
    (evict brim level vessel into).level = level := by
  rw [evict, pourAll_of_empty empty]
  exact Function.update_eq_self_iff.mpr empty.symm

end

theorem rest_evict (fits : Fits brim level) (apart : vessel ∉ into) :
    (evict brim level vessel into).rest =
      max 0 (level vessel - ∑ other ∈ into.toFinset, room brim level other) := by
  rw [evict, rest_pourAll (fits vessel).1]
  congr 2
  refine Finset.sum_congr rfl fun other member => ?_
  have different : other ≠ vessel := fun same => apart (same ▸ List.mem_toFinset.mp member)
  simp [room, Function.update_of_ne different]

theorem rest_evict_le (fits : Fits brim level) (apart : vessel ∉ into) :
    (evict brim level vessel into).rest ≤ level vessel := by
  have rooms : 0 ≤ ∑ other ∈ into.toFinset, room brim level other :=
    Finset.sum_nonneg fun _ _ => room_nonneg
  rw [rest_evict fits apart]
  exact max_le (fits vessel).1 (sub_le_self _ rooms)

/-- **Waste.** Nothing is wasted for which a wanted vessel has room exactly when everything finds
room or every wanted vessel that is not offered was full before. -/
theorem evict_wasteless_iff (fits : Fits brim level) (apart : vessel ∉ into)
    (wanted : α → Prop) (unwanted : ¬ wanted vessel) :
    (0 < (evict brim level vessel into).rest → ∀ other, wanted other →
      room brim (evict brim level vessel into).level other = 0) ↔
        level vessel ≤ ∑ other ∈ into.toFinset, room brim level other ∨
          ∀ other, wanted other → other ∉ into → room brim level other = 0 := by
  have untouched {other : α} (chosen : wanted other) (missing : other ∉ into) :
      room brim (evict brim level vessel into).level other = room brim level other := by
    have different : other ≠ vessel := fun same => unwanted (same ▸ chosen)
    rw [room, level_evict_of_ne different missing, room]
  constructor
  · intro wasteless
    rcases le_or_gt (level vessel) (∑ other ∈ into.toFinset, room brim level other) with
      enough | short
    · exact Or.inl enough
    · right
      intro other chosen missing
      have left : 0 < (evict brim level vessel into).rest := by
        rw [rest_evict fits apart]
        exact lt_max_of_lt_right (sub_pos.mpr short)
      rw [← untouched chosen missing]
      exact wasteless left other chosen
  · intro condition left other chosen
    have short : ∑ other ∈ into.toFinset, room brim level other < level vessel := by
      rw [rest_evict fits apart] at left
      rcases lt_max_iff.mp left with never | positive
      · exact absurd never (lt_irrefl 0)
      · exact sub_pos.mp positive
    by_cases offered : other ∈ into
    · exact full_of_rest (fits vessel).1 left offered
    · rcases condition with enough | full
      · exact absurd enough short.not_ge
      · rw [untouched chosen offered]
        exact full other chosen offered

end

section

variable {giver taker : α} {amount : K}

section

omit [LinearOrder K]

theorem decant_of_ne (notGiver : other ≠ giver) (notTaker : other ≠ taker) :
    decant level giver taker amount other = level other := by
  rw [decant, Function.update_of_ne notTaker, Function.update_of_ne notGiver]

theorem decant_giver (apart : giver ≠ taker) :
    decant level giver taker amount giver = level giver - amount := by
  rw [decant, Function.update_of_ne apart, Function.update_self]

theorem decant_taker : decant level giver taker amount taker = level taker + amount :=
  Function.update_self ..

end

theorem fits_decant [IsStrictOrderedRing K] (fits : Fits brim level) (nonneg : 0 ≤ amount)
    (available : amount ≤ level giver) (capacity : amount ≤ room brim level taker)
    (apart : giver ≠ taker) : Fits brim (decant level giver taker amount) := by
  rw [room_of_fits fits] at capacity
  intro other
  have low_taker := (fits taker).1
  have high_giver := (fits giver).2
  by_cases takes : other = taker
  · rw [takes, decant_taker]
    constructor
    · linarith
    · linarith
  · by_cases gives : other = giver
    · rw [gives, decant_giver apart]
      constructor
      · linarith
      · linarith
    · rw [decant_of_ne gives takes]
      exact fits other

end

end Pouring

end DirtSim.Foundation
