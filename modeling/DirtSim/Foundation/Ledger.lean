import DirtSim.Foundation.Grid
import Mathlib.Algebra.Order.Ring.Defs
import Mathlib.Algebra.BigOperators.Group.List.Basic
import Mathlib.Tactic.Linarith

/-! # Ledgers

Values read as accounts with a common capacity. A step settles at a price (`Ledger.Settles`) when it
creates nothing and destroys at most the price in all. Prices add up along a run
(`Ledger.Settles.trans`).
-/

namespace DirtSim.Foundation

structure Ledger (α κ K : Type*) where
  kind : α → κ
  amount : α → K
  capacity : K

namespace Ledger

variable {α κ K : Type*} [DecidableEq κ] [CommRing K] [LinearOrder K]

def holding (ledger : Ledger α κ K) (kind : κ) (account : α) : K :=
  if ledger.kind account = kind then ledger.amount account else 0

def totalOf (ledger : Ledger α κ K) (kind : κ) (accounts : List α) : K :=
  (accounts.map (ledger.holding kind)).sum

def total (ledger : Ledger α κ K) (accounts : List α) : K := (accounts.map ledger.amount).sum

def Fits (ledger : Ledger α κ K) (account : α) : Prop :=
  0 ≤ ledger.amount account ∧ ledger.amount account ≤ ledger.capacity

def Bounded (ledger : Ledger α κ K) (accounts : List α) : Prop :=
  ∀ account ∈ accounts, ledger.Fits account

def Same (ledger : Ledger α κ K) (first second : α) : Prop :=
  ledger.kind first = ledger.kind second ∧ ledger.amount first = ledger.amount second

/-- An account gives away some of one kind; at most the price is lost besides. -/
structure Releases (ledger : Ledger α κ K) (price : K) (kind : κ) (moved : K)
    (before after : α) : Prop where
  fits : ledger.Fits after
  holding_le : ∀ other, ledger.holding other after + (if kind = other then moved else 0) ≤
    ledger.holding other before
  amount_le : ledger.amount before ≤ ledger.amount after + moved + price

/-- An account takes in some of one kind; at most the price is lost of what it held. -/
structure Receives (ledger : Ledger α κ K) (price : K) (kind : κ) (moved : K)
    (before after : α) : Prop where
  fits : ledger.Fits after
  holding_le : ∀ other, ledger.holding other after ≤
    ledger.holding other before + if kind = other then moved else 0
  amount_le : ledger.amount before + moved ≤ ledger.amount after + price

/-- The step keeps every account within its capacity, creates nothing of any kind and destroys
at most the price. -/
structure Settles (ledger : Ledger α κ K) (price : K) (before after : List α) : Prop where
  bounded : ledger.Bounded after
  totalOf_le : ∀ kind, ledger.totalOf kind after ≤ ledger.totalOf kind before
  total_le : ledger.total before ≤ ledger.total after + price

variable {ledger : Ledger α κ K}

omit [LinearOrder K] in
theorem Same.holding {first second : α} (same : ledger.Same first second) (kind : κ) :
    ledger.holding kind first = ledger.holding kind second := by
  simp [Ledger.holding, same.1, same.2]

omit [DecidableEq κ] in
theorem Same.fits {first second : α} (same : ledger.Same first second)
    (fits : ledger.Fits first) : ledger.Fits second := by
  simpa only [Fits, same.2] using fits

section

omit [DecidableEq κ] [CommRing K] [LinearOrder K]

theorem Same.refl (account : α) : ledger.Same account account := ⟨rfl, rfl⟩

theorem Same.trans {first second third : α} (front : ledger.Same first second)
    (back : ledger.Same second third) : ledger.Same first third :=
  ⟨front.1.trans back.1, front.2.trans back.2⟩

end

section

variable {accounts : List α}

section

omit [DecidableEq κ] [LinearOrder K]

/-- Rewriting one entry changes a sum by the new entry minus the old one. -/
theorem sum_set (weigh : α → K) {i : ℕ} {old : α} (stored : accounts[i]? = some old) (new : α) :
    ((accounts.set i new).map weigh).sum + weigh old = (accounts.map weigh).sum + weigh new := by
  induction accounts generalizing i with
  | nil => exact absurd stored (by simp)
  | cons account accounts ih =>
      cases i with
      | zero =>
          rw [List.getElem?_cons_zero, Option.some.injEq] at stored
          subst stored
          rw [List.set_cons_zero, List.map_cons, List.map_cons, List.sum_cons, List.sum_cons]
          ring
      | succ i =>
          rw [List.getElem?_cons_succ] at stored
          rw [List.set_cons_succ, List.map_cons, List.map_cons, List.sum_cons, List.sum_cons,
            add_assoc, ih stored, add_assoc]

theorem sum_set_set (weigh : α → K) {i j : ℕ} {first second : α} (apart : i ≠ j)
    (storedFirst : accounts[i]? = some first) (storedSecond : accounts[j]? = some second)
    (newFirst newSecond : α) :
    (((accounts.set i newFirst).set j newSecond).map weigh).sum + (weigh first + weigh second) =
      (accounts.map weigh).sum + (weigh newFirst + weigh newSecond) := by
  have kept : (accounts.set i newFirst)[j]? = some second := by
    rw [List.getElem?_set_ne apart, storedSecond]
  have outer := sum_set weigh kept newSecond
  have inner := sum_set weigh storedFirst newFirst
  calc _ = (((accounts.set i newFirst).set j newSecond).map weigh).sum + weigh second +
        weigh first := by ring
    _ = ((accounts.set i newFirst).map weigh).sum + weigh first + weigh newSecond := by
        rw [outer]
        ring
    _ = _ := by
        rw [inner]
        ring

end

section

omit [DecidableEq κ]

theorem Bounded.set {account : α} (bounded : ledger.Bounded accounts) (fits : ledger.Fits account)
    (i : ℕ) : ledger.Bounded (accounts.set i account) := by
  intro stored member
  rcases List.mem_or_eq_of_mem_set member with old | new
  · exact bounded stored old
  · rw [new]
    exact fits

theorem Bounded.fits {account : α} {i : ℕ} (bounded : ledger.Bounded accounts)
    (stored : accounts[i]? = some account) : ledger.Fits account :=
  bounded account (List.mem_of_getElem? stored)

end

end

namespace Settles

variable [IsStrictOrderedRing K]
variable {accounts : List α} {first second newFirst newSecond : α}

omit [IsStrictOrderedRing K] in
theorem refl (bounded : ledger.Bounded accounts) : ledger.Settles 0 accounts accounts :=
  ⟨bounded, fun _ => le_refl _, by rw [add_zero]⟩

theorem mono {low high : K} {before after : List α} (settles : ledger.Settles low before after)
    (le : low ≤ high) : ledger.Settles high before after :=
  ⟨settles.bounded, settles.totalOf_le, by linarith [settles.total_le]⟩

theorem trans {first second : K} {before middle after : List α}
    (front : ledger.Settles first before middle) (back : ledger.Settles second middle after) :
    ledger.Settles (first + second) before after :=
  ⟨back.bounded, fun kind => (back.totalOf_le kind).trans (front.totalOf_le kind),
    by linarith [front.total_le, back.total_le]⟩

/-- Rewriting an account by one that holds no less of its kind than the price allows. -/
theorem set {price : K} {i : ℕ} {old new : α} (bounded : ledger.Bounded accounts)
    (stored : accounts[i]? = some old) (settles : ledger.Settles price [old] [new]) :
    ledger.Settles price accounts (accounts.set i new) where
  bounded := bounded.set (settles.bounded new (List.mem_singleton_self new)) i
  totalOf_le kind := by
    have written := sum_set (ledger.holding kind) stored new
    have local_le := settles.totalOf_le kind
    simp only [totalOf, List.map_cons, List.map_nil, List.sum_cons, List.sum_nil] at local_le ⊢
    linarith
  total_le := by
    have written := sum_set ledger.amount stored new
    have local_le := settles.total_le
    simp only [total, List.map_cons, List.map_nil, List.sum_cons, List.sum_nil] at local_le ⊢
    linarith

/-- **Locality.** A step between two accounts settles on the whole ledger at the price it has
on these two. -/
theorem set_set {price : K} {i j : ℕ} (bounded : ledger.Bounded accounts) (apart : i ≠ j)
    (storedFirst : accounts[i]? = some first) (storedSecond : accounts[j]? = some second)
    (settles : ledger.Settles price [first, second] [newFirst, newSecond]) :
    ledger.Settles price accounts ((accounts.set i newFirst).set j newSecond) where
  bounded := by
    have fitsFirst := settles.bounded newFirst List.mem_cons_self
    have fitsSecond := settles.bounded newSecond (List.mem_cons_of_mem _ List.mem_cons_self)
    exact (bounded.set fitsFirst i).set fitsSecond j
  totalOf_le kind := by
    have written := sum_set_set (ledger.holding kind) apart storedFirst storedSecond newFirst
      newSecond
    have local_le := settles.totalOf_le kind
    simp only [totalOf, List.map_cons, List.map_nil, List.sum_cons, List.sum_nil] at local_le ⊢
    linarith
  total_le := by
    have written := sum_set_set ledger.amount apart storedFirst storedSecond newFirst newSecond
    have local_le := settles.total_le
    simp only [total, List.map_cons, List.map_nil, List.sum_cons, List.sum_nil] at local_le ⊢
    linarith

section

omit [IsStrictOrderedRing K]

/-- Between two accounts it is enough to compare the sums over the two. -/
theorem of_pair {price : K} (fitsFirst : ledger.Fits newFirst) (fitsSecond : ledger.Fits newSecond)
    (holdings : ∀ kind, ledger.holding kind newFirst + ledger.holding kind newSecond ≤
      ledger.holding kind first + ledger.holding kind second)
    (amounts : ledger.amount first + ledger.amount second ≤
      ledger.amount newFirst + ledger.amount newSecond + price) :
    ledger.Settles price [first, second] [newFirst, newSecond] where
  bounded := by
    intro account member
    rcases List.mem_pair.mp member with equal | equal
    · rw [equal]
      exact fitsFirst
    · rw [equal]
      exact fitsSecond
  totalOf_le kind := by
    simpa only [totalOf, List.map_cons, List.map_nil, List.sum_cons, List.sum_nil, add_zero]
      using holdings kind
  total_le := by
    simpa only [total, List.map_cons, List.map_nil, List.sum_cons, List.sum_nil, add_zero]
      using amounts

theorem of_same (fitsFirst : ledger.Fits first) (fitsSecond : ledger.Fits second)
    (sameFirst : ledger.Same first newFirst) (sameSecond : ledger.Same second newSecond) :
    ledger.Settles 0 [first, second] [newFirst, newSecond] := by
  refine of_pair (sameFirst.fits fitsFirst) (sameSecond.fits fitsSecond) (fun kind => ?_) ?_
  · rw [sameFirst.holding, sameSecond.holding]
  · rw [sameFirst.2, sameSecond.2, add_zero]

end

/-- What one account releases and the other receives settles at both prices. -/
theorem of_exchange {priceGiven priceTaken moved : K} {kind : κ}
    {giver taker newGiver newTaker : α}
    (released : ledger.Releases priceGiven kind moved giver newGiver)
    (received : ledger.Receives priceTaken kind moved taker newTaker) :
    ledger.Settles (priceGiven + priceTaken) [giver, taker] [newGiver, newTaker] := by
  refine of_pair released.fits received.fits (fun other => ?_) ?_
  · linarith [released.holding_le other, received.holding_le other]
  · linarith [released.amount_le, received.amount_le]

end Settles

end Ledger

end DirtSim.Foundation
