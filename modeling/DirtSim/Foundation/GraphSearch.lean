import Mathlib.Combinatorics.SimpleGraph.Acyclic

/-! # Growing trees and searching graphs

A graph grown by edges from a vertex seen to a new one is a tree (`TreeOn`). A search that keeps for
each vertex the one from which it was found knows a path to it (`Explored`), and finds every vertex
that can be reached.
-/

namespace DirtSim.Foundation

open SimpleGraph

variable {V : Type*}

/-! ## Trees -/

/-- A tree on the vertices seen. The others have no edges. -/
structure TreeOn (graph : SimpleGraph V) (seen : Set V) : Prop where
  acyclic : graph.IsAcyclic
  connected : ∀ first ∈ seen, ∀ second ∈ seen, graph.Reachable first second
  within : ∀ first second, graph.Adj first second → first ∈ seen

namespace TreeOn

variable {graph : SimpleGraph V} {seen : Set V}

theorem singleton (root : V) : TreeOn (⊥ : SimpleGraph V) {root} where
  acyclic := isAcyclic_bot
  connected first isFirst second isSecond := by
    rw [Set.mem_singleton_iff.mp isFirst, Set.mem_singleton_iff.mp isSecond]
  within first second adjacent := absurd adjacent (bot_adj first second).mp

/-- A vertex that has not been seen cannot be reached from one that has. -/
theorem not_reachable (tree : TreeOn graph seen) {first second : V} (isSeen : first ∈ seen)
    (fresh : second ∉ seen) : ¬ graph.Reachable first second := by
  rintro ⟨walk⟩
  induction walk with
  | nil => exact fresh isSeen
  | cons adjacent rest ih => exact ih (tree.within _ _ adjacent.symm) fresh

theorem grow (tree : TreeOn graph seen) {first second : V} (isSeen : first ∈ seen)
    (fresh : second ∉ seen) : TreeOn (graph ⊔ edge first second) (insert second seen) := by
  have apart : first ≠ second := fun same => fresh (same ▸ isSeen)
  have added : (graph ⊔ edge first second).Adj first second :=
    .inr ((edge_adj ..).mpr ⟨.inl ⟨rfl, rfl⟩, apart⟩)
  have old {third : V} (there : third ∈ seen) :
      (graph ⊔ edge first second).Reachable first third :=
    (tree.connected first isSeen third there).mono le_sup_left
  have fromFirst {third : V} (there : third ∈ insert second seen) :
      (graph ⊔ edge first second).Reachable first third := by
    rcases Set.mem_insert_iff.mp there with rfl | before
    · exact added.reachable
    · exact old before
  refine ⟨?_, fun left isLeft right isRight => ?_, fun left right adjacent => ?_⟩
  · exact IsAcyclic.sup_edge_of_not_reachable (tree.not_reachable isSeen fresh) tree.acyclic
  · exact (fromFirst isLeft).symm.trans (fromFirst isRight)
  · rcases adjacent with before | new
    · exact Set.mem_insert_of_mem _ (tree.within left right before)
    · rcases ((edge_adj ..).mp new).1 with ⟨rfl, _⟩ | ⟨rfl, _⟩
      · exact Set.mem_insert_of_mem _ isSeen
      · exact Set.mem_insert _ _

theorem isTree (tree : TreeOn graph seen) (root : V) (all : ∀ vertex, vertex ∈ seen) :
    graph.IsTree where
  connected := {
    preconnected first second := tree.connected first (all first) second (all second)
    nonempty := ⟨root⟩ }
  isAcyclic := tree.acyclic

end TreeOn

/-! ## Searches -/

/-- Vertices from one up to the first, each the parent of the one before it. -/
inductive Lineage (parents : V → Option V) : List V → Prop
  | first {vertex : V} (orphan : parents vertex = none) : Lineage parents [vertex]
  | child {vertex parent : V} {rest : List V} (isParent : parents vertex = some parent)
      (above : Lineage parents (parent :: rest)) : Lineage parents (vertex :: parent :: rest)

/-- A lineage stays when vertices outside get other parents. -/
theorem Lineage.congr {parents parents' : V → Option V} {vertices : List V}
    (lineage : Lineage parents vertices)
    (same : ∀ vertex ∈ vertices, parents' vertex = parents vertex) : Lineage parents' vertices := by
  induction lineage with
  | first orphan => exact .first ((same _ List.mem_cons_self).trans orphan)
  | child isParent above ih =>
      exact .child ((same _ List.mem_cons_self).trans isParent)
        (ih fun vertex later => same vertex (List.mem_cons_of_mem _ later))

/-- A search has found some vertices and looked at the neighbours of the first of them. -/
structure Explored (graph : SimpleGraph V) (start : V) (found : List V) (done : ℕ)
    (parents : V → Option V) : Prop where
  nodup : found.Nodup
  start_mem : start ∈ found
  traced : ∀ vertex ∈ found, ∃ walk : graph.Walk start vertex, walk.IsPath ∧
    (∀ other ∈ walk.support, other ∈ found) ∧ Lineage parents walk.support.reverse
  closed : ∀ vertex ∈ found.take done, ∀ other, graph.Adj vertex other → other ∈ found

namespace Explored

variable {graph : SimpleGraph V} {start : V} {found : List V} {done : ℕ} {parents : V → Option V}

theorem begin (graph : SimpleGraph V) (start : V) :
    Explored graph start [start] 0 fun _ => none where
  nodup := List.nodup_singleton start
  start_mem := List.mem_singleton_self start
  traced vertex here := by
    obtain rfl := List.mem_singleton.mp here
    exact ⟨.nil, .nil, fun other isOther => isOther, .first rfl⟩
  closed _ none := absurd none List.not_mem_nil

/-- The search finds a vertex from one that it has found before. -/
theorem find [DecidableEq V] (explored : Explored graph start found done parents)
    (done_le : done ≤ found.length) {vertex other : V} (here : vertex ∈ found)
    (adjacent : graph.Adj vertex other) (fresh : other ∉ found) :
    Explored graph start (found ++ [other]) done
      (Function.update parents other (some vertex)) := by
  have older {vertices : List V} (within : ∀ vertex ∈ vertices, vertex ∈ found)
      (lineage : Lineage parents vertices) :
      Lineage (Function.update parents other (some vertex)) vertices := by
    refine lineage.congr fun third listed => Function.update_of_ne ?_ _ _
    rintro rfl
    exact fresh (within _ listed)
  refine ⟨?_, List.mem_append_left _ explored.start_mem, fun third there => ?_,
    fun third before fourth next => ?_⟩
  · refine List.nodup_append.mpr ⟨explored.nodup, List.nodup_singleton other, ?_⟩
    rintro third before fourth last rfl
    exact fresh (List.mem_singleton.mp last ▸ before)
  · rcases List.mem_append.mp there with before | last
    · obtain ⟨walk, isPath, within, lineage⟩ := explored.traced third before
      refine ⟨walk, isPath, fun fourth listed => List.mem_append_left _ (within fourth listed), ?_⟩
      exact older (fun fourth listed => within fourth (List.mem_reverse.mp listed)) lineage
    · obtain rfl := List.mem_singleton.mp last
      obtain ⟨walk, isPath, within, lineage⟩ := explored.traced vertex here
      refine ⟨walk.concat adjacent, isPath.concat (fun listed => fresh (within _ listed)) adjacent,
        fun fourth listed => ?_, ?_⟩
      · rw [Walk.support_concat, List.mem_append] at listed
        rcases listed with before | last
        · exact List.mem_append_left _ (within fourth before)
        · exact List.mem_append_right _ last
      · have isTop : walk.support.reverse = vertex :: walk.reverse.support.tail := by
          rw [← Walk.support_reverse]
          exact (Walk.cons_tail_support _).symm
        have kept := older (fun fourth listed => within fourth (List.mem_reverse.mp listed)) lineage
        rw [isTop] at kept
        rw [Walk.support_concat, List.reverse_append, isTop]
        exact .child (Function.update_self ..) kept
  · rw [List.take_append_of_le_length done_le] at before
    exact List.mem_append_left _ (explored.closed third before fourth next)

theorem finish (explored : Explored graph start found done parents) {vertex : V}
    (next : found[done]? = some vertex) (all : ∀ other, graph.Adj vertex other → other ∈ found) :
    Explored graph start found (done + 1) parents := by
  refine ⟨explored.nodup, explored.start_mem, explored.traced, fun third before fourth adjacent => ?_⟩
  rw [List.take_add_one, next] at before
  rcases List.mem_append.mp before with before | last
  · exact explored.closed third before fourth adjacent
  · obtain rfl := List.mem_singleton.mp last
    exact all fourth adjacent

/-- A search that is done with all that it has found has found all that can be reached. -/
theorem mem_of_reachable (explored : Explored graph start found done parents)
    (exhausted : found.length ≤ done) {vertex : V} (reachable : graph.Reachable start vertex) :
    vertex ∈ found := by
  obtain ⟨walk⟩ := reachable
  have start_mem := explored.start_mem
  have closed := explored.closed
  rw [List.take_of_length_le exhausted] at closed
  clear explored
  induction walk with
  | nil => exact start_mem
  | cons adjacent rest ih => exact ih (closed _ start_mem _ adjacent)

end Explored

end DirtSim.Foundation
