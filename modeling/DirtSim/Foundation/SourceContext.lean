import Mathlib.Data.List.Basic
import Mathlib.Data.List.Nodup
import Mathlib.Tactic.Common

/-! # Contexts of event sources

A context numbers the sources that are attached to it, and finds a source by its number only. Numbers
are positive and not used twice, so a number names one source at most. What matters of a context is
how many sources of a kind are attached (`SourceContext.count`).
-/

namespace DirtSim.Foundation

structure Source (Kind : Type*) where
  id : ℕ
  kind : Kind

/-- The sources attached to a context, whose numbers are below the next one. -/
structure SourceContext (Kind : Type*) where
  nextId : ℕ
  sources : List (Source Kind)
  nextId_pos : 0 < nextId
  numbered : ∀ source ∈ sources, 0 < source.id ∧ source.id < nextId
  nodup : (sources.map Source.id).Nodup

namespace SourceContext

variable {Kind : Type*}

def new : SourceContext Kind where
  nextId := 1
  sources := []
  nextId_pos := Nat.one_pos
  numbered := by simp
  nodup := List.nodup_nil

def attach (context : SourceContext Kind) (kind : Kind) : SourceContext Kind where
  nextId := context.nextId + 1
  sources := context.sources ++ [⟨context.nextId, kind⟩]
  nextId_pos := Nat.succ_pos _
  numbered := by
    intro source listed
    rcases List.mem_append.mp listed with old | new
    · have bounds := context.numbered source old
      omega
    · obtain rfl := List.mem_singleton.mp new
      exact ⟨context.nextId_pos, Nat.lt_succ_self _⟩
  nodup := by
    rw [List.map_append, List.map_singleton]
    refine List.Nodup.append context.nodup (List.nodup_singleton _) ?_
    rw [List.disjoint_singleton]
    intro used
    obtain ⟨source, old, same⟩ := List.mem_map.mp used
    exact Nat.ne_of_lt (context.numbered source old).2 same

def remove (context : SourceContext Kind) (id : ℕ) : SourceContext Kind where
  nextId := context.nextId
  sources := context.sources.filter fun source => source.id ≠ id
  nextId_pos := context.nextId_pos
  numbered := fun source kept => context.numbered source (List.mem_of_mem_filter kept)
  nodup := context.nodup.sublist (List.filter_sublist.map _)

def find? (context : SourceContext Kind) (id : ℕ) : Option Kind :=
  (context.sources.find? fun source => source.id = id).map Source.kind

variable [DecidableEq Kind]

def count (context : SourceContext Kind) (kind : Kind) : ℕ :=
  context.sources.countP fun source => source.kind = kind

@[simp] theorem count_new (kind : Kind) : (new : SourceContext Kind).count kind = 0 := rfl

@[simp] theorem count_attach (context : SourceContext Kind) (kind other : Kind) :
    (context.attach kind).count other = context.count other + if kind = other then 1 else 0 := by
  simp [count, attach, List.countP_append, List.countP_cons]

theorem count_remove {context : SourceContext Kind} {id : ℕ} {kind : Kind}
    (found : context.find? id = some kind) (other : Kind) :
    (context.remove id).count other + (if kind = other then 1 else 0) = context.count other := by
  obtain ⟨source, first, rfl⟩ := Option.map_eq_some_iff.mp found
  have same : source.id = id := by simpa using List.find?_some first
  have alone := context.nodup
  simp only [count, remove]
  obtain ⟨before, after, split⟩ := List.append_of_mem (List.mem_of_find?_eq_some first)
  rw [split, List.map_append, List.map_cons] at alone
  have apart : ∀ member ∈ before ++ after, member.id ≠ id := by
    intro member listed clash
    have fresh := (List.nodup_middle.mp alone).notMem
    rw [← List.map_append, same] at fresh
    exact fresh (List.mem_map.mpr ⟨member, listed, clash⟩)
  have kept : (before ++ source :: after).filter (fun member => member.id ≠ id) =
      before ++ after := by
    rw [List.filter_append, List.filter_cons_of_neg (by simpa using same)]
    congr 1
    · exact List.filter_eq_self.mpr fun member listed => by
        simpa using apart member (List.mem_append_left _ listed)
    · exact List.filter_eq_self.mpr fun member listed => by
        simpa using apart member (List.mem_append_right _ listed)
  rw [split, kept]
  simp [List.countP_append, List.countP_cons, Nat.add_assoc]

theorem count_remove_of_ne {context : SourceContext Kind} {id : ℕ} {kind other : Kind}
    (found : context.find? id = some kind) (different : kind ≠ other) :
    (context.remove id).count other = context.count other := by
  have fewer := count_remove found other
  rwa [if_neg different, Nat.add_zero] at fewer

end SourceContext

end DirtSim.Foundation
