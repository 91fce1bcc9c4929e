import DirtSim.Foundation.GreedyChoice
import Mathlib.Order.Lattice

/-! # Rankings by a score with a tie break

Entries are ranked by a score and, where two scores agree, by a key of a linear order. Scores
only need to be ordered up to agreement, and only those that agree with themselves need to be
comparable (`Scale`), as is the case for floating-point numbers. A list that is sorted by such a
ranking is ranked (`Scale.pairwise_mergeSort`).
-/

namespace DirtSim.Foundation

variable {α β κ : Type*}

structure Scale (below same : β → β → Prop) : Prop where
  asymm : ∀ first second, below first second → ¬ below second first
  trans : ∀ first second third, below first second → below second third → below first third
  symm : ∀ first second, same first second → same second first
  same_trans : ∀ first second third, same first second → same second third → same first third
  below_of_same : ∀ first second third, same first second → below second third → below first third
  below_of_below : ∀ first second third, below first second → same second third →
    below first third
  comparable : ∀ first second, same first first → same second second →
    below first second ∨ same first second ∨ below second first

def Precedes [LinearOrder κ] (below same : β → β → Prop) (score : α → β) (tie : α → κ)
    (first second : α) : Prop :=
  below (score first) (score second) ∨
    (same (score first) (score second) ∧ tie first < tie second)

namespace Scale

variable {below same : β → β → Prop}

theorem not_same_of_below (scale : Scale below same) {first second : β}
    (lower : below first second) : ¬ same first second := by
  intro agree
  have itself := scale.below_of_same _ _ _ (scale.symm _ _ agree) lower
  exact scale.asymm _ _ itself itself

theorem flip (scale : Scale below same) : Scale (fun first second => below second first) same where
  asymm first second lower := scale.asymm second first lower
  trans _ _ _ lower lower' := scale.trans _ _ _ lower' lower
  symm := scale.symm
  same_trans := scale.same_trans
  below_of_same _ _ _ agree lower := scale.below_of_below _ _ _ lower (scale.symm _ _ agree)
  below_of_below _ _ _ lower agree := scale.below_of_same _ _ _ (scale.symm _ _ agree) lower
  comparable first second number number' := by
    rcases scale.comparable first second number number' with lower | agree | higher
    · exact Or.inr (Or.inr lower)
    · exact Or.inr (Or.inl agree)
    · exact Or.inl higher

variable [LinearOrder κ] {score : α → β} {tie : α → κ} {first second third : α}

/-- Nobody ranks before one who scores better, or agrees and is no later among equals. -/
theorem not_precedes_iff (scale : Scale below same) (number : same (score first) (score first))
    (number' : same (score second) (score second)) :
    ¬ Precedes below same score tie second first ↔ below (score first) (score second) ∨
      (same (score first) (score second) ∧ tie first ≤ tie second) := by
  rw [Precedes, not_or, not_and, not_lt]
  constructor
  · rintro ⟨notBelow, later⟩
    rcases scale.comparable _ _ number number' with lower | agree | higher
    · exact Or.inl lower
    · exact Or.inr ⟨agree, later (scale.symm _ _ agree)⟩
    · exact absurd higher notBelow
  · rintro (lower | ⟨agree, later⟩)
    · exact ⟨scale.asymm _ _ lower, fun agree =>
        absurd (scale.symm _ _ agree) (scale.not_same_of_below lower)⟩
    · exact ⟨fun higher => scale.not_same_of_below higher (scale.symm _ _ agree), fun _ => later⟩

theorem not_precedes_trans (scale : Scale below same) (number : same (score first) (score first))
    (number' : same (score second) (score second)) (number'' : same (score third) (score third))
    (early : ¬ Precedes below same score tie second first)
    (late : ¬ Precedes below same score tie third second) :
    ¬ Precedes below same score tie third first := by
  rw [scale.not_precedes_iff number number'] at early
  rw [scale.not_precedes_iff number' number''] at late
  apply (scale.not_precedes_iff number number'').mpr
  rcases early with lower | ⟨agree, before⟩
  · rcases late with lower' | ⟨agree', _⟩
    · exact Or.inl (scale.trans _ _ _ lower lower')
    · exact Or.inl (scale.below_of_below _ _ _ lower agree')
  · rcases late with lower' | ⟨agree', before'⟩
    · exact Or.inl (scale.below_of_same _ _ _ agree lower')
    · exact Or.inr ⟨scale.same_trans _ _ _ agree agree', le_trans before before'⟩

theorem not_precedes_total (scale : Scale below same) (number : same (score first) (score first))
    (number' : same (score second) (score second)) :
    ¬ Precedes below same score tie second first ∨
      ¬ Precedes below same score tie first second := by
  rw [scale.not_precedes_iff number number', scale.not_precedes_iff number' number]
  rcases scale.comparable _ _ number number' with lower | agree | higher
  · exact Or.inl (Or.inl lower)
  · rcases le_total (tie first) (tie second) with before | after
    · exact Or.inl (Or.inr ⟨agree, before⟩)
    · exact Or.inr (Or.inr ⟨scale.symm _ _ agree, after⟩)
  · exact Or.inr (Or.inl higher)

theorem precedes_of_not (scale : Scale below same) (number : same (score first) (score first))
    (number' : same (score second) (score second)) (apart : tie first ≠ tie second)
    (early : ¬ Precedes below same score tie second first) :
    Precedes below same score tie first second := by
  rw [scale.not_precedes_iff number number'] at early
  exact early.imp_right fun ⟨agree, before⟩ => ⟨agree, lt_of_le_of_ne before apart⟩

/-- **Sorting** puts nobody before one that ranks before it, when all scores are comparable. -/
theorem pairwise_mergeSort (scale : Scale below same) {notAfter : α → α → Bool}
    (decides : ∀ first second, notAfter first second = true ↔
      ¬ Precedes below same score tie second first)
    {entries : List α} (numbers : ∀ entry ∈ entries, same (score entry) (score entry)) :
    (entries.mergeSort notAfter).Pairwise fun first second =>
      ¬ Precedes below same score tie second first := by
  have sorted := @pairwise_mergeSort_of_mem α entries notAfter ?_ ?_
  · exact sorted.imp fun notLater => (decides _ _).mp notLater
  · intro first inFirst second inSecond third inThird early late
    rw [decides] at early late ⊢
    exact scale.not_precedes_trans (numbers _ inFirst) (numbers _ inSecond) (numbers _ inThird)
      early late
  · intro first inFirst second inSecond
    rw [Bool.or_eq_true, decides, decides]
    exact scale.not_precedes_total (numbers _ inFirst) (numbers _ inSecond)

end Scale

end DirtSim.Foundation
