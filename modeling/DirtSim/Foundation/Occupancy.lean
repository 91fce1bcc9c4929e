import Mathlib.Data.List.Basic
import Mathlib.Logic.Equiv.Basic
import Mathlib.Tactic.Common

/-! # Occupied places

A board names at most one occupant for each place; one name stands for nobody. An occupant is in
possession of a list of places when the board names it there and nowhere else (`Occupies`). When
one occupant gives up its places and takes places that nobody else occupies (`Relocated`), it is
in possession of the new ones and every other occupant keeps its own. When two places exchange
what is named there (`Exchanged`), every occupant's places are exchanged with them.
-/

namespace DirtSim.Foundation

variable {Place Name : Type*}
variable {board : Place → Name}

/-- The board names the occupant on exactly these places. -/
def Occupies (board : Place → Name) (name : Name) (places : List Place) : Prop :=
  ∀ place, board place = name ↔ place ∈ places

def OpenTo (board : Place → Name) (vacant name : Name) (place : Place) : Prop :=
  board place = vacant ∨ board place = name

theorem Occupies.disjoint {first second : Name} {places places' : List Place}
    (occupies : Occupies board first places) (occupies' : Occupies board second places')
    (apart : first ≠ second) : places.Disjoint places' := by
  intro place member member'
  exact apart (((occupies place).mpr member).symm.trans ((occupies' place).mpr member'))

theorem Occupies.openTo {vacant name : Name} {places : List Place}
    (occupies : Occupies board name places) {place : Place} (member : place ∈ places) :
    OpenTo board vacant name place :=
  Or.inr ((occupies place).mpr member)

/-- Places of another occupant are neither given up nor taken. -/
theorem Occupies.untouched {vacant name : Name} {old new : List Place}
    (held : Occupies board name old) (room : ∀ place ∈ new, OpenTo board vacant name place)
    {other : Name} {places : List Place} (apart : other ≠ name) (named : other ≠ vacant)
    (occupies : Occupies board other places) {place : Place} (member : place ∈ places) :
    place ∉ old ∧ place ∉ new := by
  have owned := (occupies place).mpr member
  refine ⟨fun left => apart (owned.symm.trans ((held place).mpr left)), fun taken => ?_⟩
  rcases room place taken with empty | own
  · exact named (owned.symm.trans empty)
  · exact apart (owned.symm.trans own)

variable [DecidableEq Place]

/-- An occupant's old places are given up and its new ones taken. -/
def Relocated (before after : Place → Name) (vacant name : Name) (old new : List Place) : Prop :=
  ∀ place, after place =
    if place ∈ new then name else if place ∈ old then vacant else before place

namespace Relocated

variable {before after : Place → Name} {vacant name : Name} {old new : List Place}

/-- The occupant is in possession of its new places. -/
theorem occupies (relocated : Relocated before after vacant name old new)
    (named : name ≠ vacant) (held : Occupies before name old) : Occupies after name new := by
  intro place
  rw [relocated place]
  by_cases taken : place ∈ new
  · simp [taken]
  · by_cases left : place ∈ old
    · simp only [taken, left, ↓reduceIte, iff_false]
      exact named.symm
    · simp only [taken, left, ↓reduceIte, iff_false]
      exact fun same => left ((held place).mp same)

/-- What the board says of any other occupant does not change. -/
theorem keeps_name (relocated : Relocated before after vacant name old new)
    (held : Occupies before name old) (room : ∀ place ∈ new, OpenTo before vacant name place)
    {other : Name} (apart : other ≠ name) (named : other ≠ vacant) (place : Place) :
    after place = other ↔ before place = other := by
  rw [relocated place]
  by_cases taken : place ∈ new
  · simp only [taken, ↓reduceIte]
    refine ⟨fun same => absurd same.symm apart, fun same => ?_⟩
    rcases room place taken with empty | own
    · exact absurd (same.symm.trans empty) named
    · exact absurd (same.symm.trans own) apart
  · by_cases left : place ∈ old
    · simp only [taken, left, ↓reduceIte]
      refine ⟨fun same => absurd same.symm named, fun same => ?_⟩
      exact absurd (same.symm.trans ((held place).mpr left)) apart
    · simp [taken, left]

theorem keeps (relocated : Relocated before after vacant name old new)
    (held : Occupies before name old) (room : ∀ place ∈ new, OpenTo before vacant name place)
    {other : Name} {places : List Place} (apart : other ≠ name) (named : other ≠ vacant)
    (occupies : Occupies before other places) : Occupies after other places :=
  fun place => (relocated.keeps_name held room apart named place).trans (occupies place)

/-- An occupant that is not on the places taken keeps its own, whoever was there. -/
theorem keeps_of_disjoint (relocated : Relocated before after vacant name old new)
    (held : Occupies before name old) {other : Name} {places : List Place} (apart : other ≠ name)
    (named : other ≠ vacant) (clear : new.Disjoint places) (occupies : Occupies before other places) :
    Occupies after other places := by
  intro place
  rw [relocated place]
  by_cases taken : place ∈ new
  · simp only [taken, ↓reduceIte]
    exact iff_of_false apart.symm fun mine => clear taken mine
  · by_cases left : place ∈ old
    · simp only [taken, left, ↓reduceIte]
      refine iff_of_false named.symm fun mine => apart ?_
      exact ((occupies place).mpr mine).symm.trans ((held place).mpr left)
    · simp only [taken, left, ↓reduceIte]
      exact occupies place

end Relocated

def Exchanged (before after : Place → Name) (first second : Place) : Prop :=
  ∀ place, after place = before (Equiv.swap first second place)

theorem Exchanged.occupies {before after : Place → Name} {first second : Place}
    (exchanged : Exchanged before after first second) {name : Name} {places : List Place}
    (held : Occupies before name places) :
    Occupies after name (places.map (Equiv.swap first second)) := by
  intro place
  rw [exchanged place, held, List.mem_map]
  constructor
  · intro member
    exact ⟨_, member, Equiv.swap_apply_self first second place⟩
  · rintro ⟨other, member, rfl⟩
    rwa [Equiv.swap_apply_self]

end DirtSim.Foundation
