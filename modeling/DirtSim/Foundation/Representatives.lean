import Mathlib.Logic.Function.Basic
import Mathlib.Tactic.Common

/-! # Labels and their representatives

An index leads from a label to one key that carries it (`Represents`), and is complete when every
label in use has an entry (`CoversExcept`). A key that goes takes its entry along, which keeps the
index complete unless another key carries the label (`Spares`).
-/

namespace DirtSim.Foundation

variable {κ η : Type*}

/-- Every entry leads to a key that is recorded under the label and carries it. -/
structure Represents (label : κ → Option η) (forward : η → Option κ) (back : κ → Option η) :
    Prop where
  recorded : ∀ key name, back key = some name → label key = some name
  leads : ∀ name key, forward name = some key → back key = some name

/-- Every label of a key that is not doomed has an entry. -/
def CoversExcept (doomed : List κ) (label : κ → Option η) (forward : η → Option κ) : Prop :=
  ∀ key name, label key = some name → (forward name).isSome ∨ key ∈ doomed

/-- The keys that go are led to by no label of a key that stays. -/
def Spares (label : κ → Option η) (forward : η → Option κ) (going : List κ) : Prop :=
  ∀ key ∈ going, ∀ name, forward name = some key → ∀ other, label other = some name →
    other ∈ going

namespace Represents

variable {label : κ → Option η} {forward : η → Option κ} {back : κ → Option η}

theorem carries (agree : Represents label forward back) {name : η} {key : κ}
    (entry : forward name = some key) : label key = some name :=
  agree.recorded key name (agree.leads name key entry)

theorem empty : Represents (fun _ : κ => (none : Option η)) (fun _ => none) fun _ => none where
  recorded _ _ known := by cases known
  leads _ _ entry := by cases entry

theorem drop (agree : Represents label forward back) {fewer : η → Option κ}
    (sub : ∀ name key, fewer name = some key → forward name = some key) :
    Represents label fewer back where
  recorded := agree.recorded
  leads name key entry := agree.leads name key (sub name key entry)

variable [DecidableEq κ]

/-- A key that no entry leads to may be forgotten. -/
theorem unrecord (agree : Represents label forward back) {key : κ}
    (unled : ∀ name, forward name ≠ some key) :
    Represents label forward (Function.update back key none) where
  recorded other name known := by
    rw [Function.update_apply] at known
    split at known
    · cases known
    · exact agree.recorded other name known
  leads name other entry := by
    have apart : other ≠ key := by
      intro same
      exact unled name (same ▸ entry)
    rw [Function.update_of_ne apart]
    exact agree.leads name other entry

/-- A key that is not recorded may change its label. -/
theorem relabel (agree : Represents label forward back) {key : κ} (unknown : back key = none)
    (name : Option η) : Represents (Function.update label key name) forward back where
  recorded other known record := by
    have apart : other ≠ key := by
      intro same
      rw [same, unknown] at record
      cases record
    rw [Function.update_of_ne apart]
    exact agree.recorded other known record
  leads := agree.leads

/-- A key that goes takes its label and its record along. -/
theorem remove (agree : Represents label forward back) {key : κ}
    (unled : ∀ name, forward name ≠ some key) :
    Represents (Function.update label key none) forward (Function.update back key none) :=
  (agree.unrecord unled).relabel (Function.update_self key none back) none

/-- A key claims a label when no other label leads to it. -/
theorem claim [DecidableEq η] (agree : Represents label forward back) {key : κ} {name : η}
    (only : ∀ other, forward other = some key → other = name) :
    Represents (Function.update label key (some name)) (Function.update forward name (some key))
      (Function.update back key (some name)) where
  recorded other known record := by
    rw [Function.update_apply] at record ⊢
    split at record
    · rename_i same
      rw [if_pos same]
      exact record
    · rename_i apart
      rw [if_neg apart]
      exact agree.recorded other known record
  leads known other entry := by
    rw [Function.update_apply] at entry ⊢
    split at entry
    · rename_i same
      cases entry
      rw [if_pos rfl, same]
    · rename_i apart
      have elsewhere : other ≠ key := by
        intro same
        exact apart (only known (same ▸ entry))
      rw [if_neg elsewhere]
      exact agree.leads known other entry

end Represents

namespace CoversExcept

variable {doomed : List κ} {label : κ → Option η} {forward : η → Option κ}

theorem mono (covers : CoversExcept [] label forward) : CoversExcept doomed label forward := by
  intro key name carried
  exact Or.inl ((covers key name carried).resolve_right List.not_mem_nil)

variable [DecidableEq κ] [DecidableEq η]

/-- The claimed label has an entry; no other label may lose its own. -/
theorem claim (covers : CoversExcept [] label forward) {fewer : η → Option κ} {key : κ} {name : η}
    (dropped : ∀ other, other ≠ name → (forward other).isSome → (fewer other).isSome ∨
      ∀ carrier, label carrier = some other → carrier = key) :
    CoversExcept [] (Function.update label key (some name))
      (Function.update fewer name (some key)) := by
  intro carrier other carried
  refine Or.inl ?_
  rw [Function.update_apply] at carried ⊢
  split
  · rfl
  · rename_i apart
    split at carried
    · exact absurd (Option.some.inj carried).symm apart
    · rename_i elsewhere
      have entry := (covers carrier other carried).resolve_right List.not_mem_nil
      rcases dropped other apart entry with kept | alone
      · exact kept
      · exact absurd (alone carrier carried) elsewhere

omit [DecidableEq η] in
/-- The entries that lead to a doomed key may go with it. -/
theorem remove (covers : CoversExcept doomed label forward) {fewer : η → Option κ} {key : κ}
    (spares : Spares label forward doomed) (going : key ∈ doomed)
    (dropped : ∀ name, fewer name = forward name ∨ forward name = some key) :
    CoversExcept doomed (Function.update label key none) fewer := by
  intro other name carried
  rw [Function.update_apply] at carried
  split at carried
  · cases carried
  · rcases dropped name with kept | led
    · rw [kept]
      exact covers other name carried
    · exact Or.inr (spares key going name led other carried)

end CoversExcept

/-- Removing keys in any order spares what removing them all spares. -/
theorem Spares.remove [DecidableEq κ] {label : κ → Option η} {forward fewer : η → Option κ}
    {going : List κ} (spares : Spares label forward going) (key : κ)
    (sub : ∀ name other, fewer name = some other → forward name = some other) :
    Spares (Function.update label key none) fewer going := by
  intro victim gone name entry other carried
  rw [Function.update_apply] at carried
  split at carried
  · cases carried
  · exact spares victim gone name (sub name victim entry) other carried

end DirtSim.Foundation
