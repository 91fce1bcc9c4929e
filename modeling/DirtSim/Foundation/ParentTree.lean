import Mathlib.Data.List.Basic
import Mathlib.Data.List.Induction
import Mathlib.Order.Nat
import Mathlib.Tactic.Common

/-! # Trees grown by appending

A search tree is often kept as a list of nodes in the order of their creation, each with a link
to its parent and the label of the edge from there; the root has no link. The tree is given
here by its links alone. `Grown` says that every parent comes before its children. A tree only
grows at the end, and what is known of a node (its path, its ancestors) stays.
-/

namespace DirtSim.Foundation

/-- The link of every node in order of creation: its parent and the label of the edge. -/
abbrev ParentTree (α : Type*) := List (Option (ℕ × α))

namespace ParentTree

variable {α : Type*} {tree : ParentTree α}
variable {parent child : ℕ} {label : α} {node : ℕ}

/-- The root is node zero, and every other node has an earlier parent. -/
structure Grown (tree : ParentTree α) : Prop where
  root : tree[0]? = some none
  earlier : ∀ child, 0 < child → child < tree.length →
    ∃ parent label, tree[child]? = some (some (parent, label)) ∧ parent < child

/-- A node hangs below another by an edge of a label. -/
def IsChild (tree : ParentTree α) (parent : ℕ) (label : α) (child : ℕ) : Prop :=
  tree[child]? = some (some (parent, label))

inductive Descends (tree : ParentTree α) : ℕ → ℕ → Prop
  | refl (node : ℕ) : Descends tree node node
  | step {top parent child : ℕ} {label : α} (above : Descends tree top parent)
      (edge : tree.IsChild parent label child) : Descends tree top child

/-- The labels on the way from the root to a node. -/
inductive Path (tree : ParentTree α) : ℕ → List α → Prop
  | root : tree[0]? = some none → Path tree 0 []
  | step {parent child : ℕ} {label : α} {labels : List α} (above : Path tree parent labels)
      (edge : tree.IsChild parent label child) : Path tree child (labels ++ [label])

/-- Nodes from one to the root, each the parent of the one before it. -/
inductive Ancestry (tree : ParentTree α) : List ℕ → Prop
  | root : Ancestry tree [0]
  | child {parent child : ℕ} {label : α} {rest : List ℕ}
      (edge : tree.IsChild parent label child) (above : Ancestry tree (parent :: rest)) :
      Ancestry tree (child :: parent :: rest)

/-- The labels of the edges below a node, in order of creation. -/
def childLabels (tree : ParentTree α) (node : ℕ) : List α :=
  tree.filterMap fun link => link.bind fun edge => if edge.1 = node then some edge.2 else none

section

theorem IsChild.lt_length (edge : tree.IsChild parent label child) : child < tree.length := by
  rw [IsChild, List.getElem?_eq_some_iff] at edge
  exact edge.1

theorem Grown.pos (grown : tree.Grown) : 0 < tree.length :=
  (List.getElem?_eq_some_iff.mp grown.root).1

theorem Grown.parent_lt (grown : tree.Grown) (edge : tree.IsChild parent label child) :
    parent < child := by
  have isLater : 0 < child := by
    refine Nat.pos_of_ne_zero ?_
    rintro rfl
    rw [IsChild, grown.root] at edge
    cases edge
  obtain ⟨other, _, link, earlier⟩ := grown.earlier child isLater edge.lt_length
  rw [IsChild, link] at edge
  cases edge
  exact earlier

theorem grown_singleton : Grown ([none] : ParentTree α) where
  root := rfl
  earlier child later bound := by
    rw [List.length_singleton] at bound
    omega

/-- The tree may grow by a child of any of its nodes. -/
theorem Grown.append (grown : tree.Grown) {parent : ℕ} (present : parent < tree.length)
    (label : α) : Grown (tree ++ [some (parent, label)]) where
  root := by rw [List.getElem?_append_left grown.pos, grown.root]
  earlier child later bound := by
    rw [List.length_append, List.length_singleton] at bound
    by_cases old : child < tree.length
    · rw [List.getElem?_append_left old]
      exact grown.earlier child later old
    · have new : child = tree.length := by omega
      subst new
      exact ⟨parent, label, List.getElem?_concat_length, present⟩

end

section

variable {more : ParentTree α}

theorem IsChild.append (edge : tree.IsChild parent label child) :
    IsChild (tree ++ more) parent label child := by
  rw [IsChild, List.getElem?_append_left edge.lt_length]
  exact edge

theorem Descends.append {top node : ℕ} (below : tree.Descends top node) :
    Descends (tree ++ more) top node := by
  induction below with
  | refl => exact .refl _
  | step _ edge above => exact .step above edge.append

theorem Path.append {labels : List α} (path : tree.Path node labels) :
    Path (tree ++ more) node labels := by
  induction path with
  | root isRoot =>
      refine .root ?_
      rw [List.getElem?_append_left (List.getElem?_eq_some_iff.mp isRoot).1, isRoot]
  | step _ edge above => exact .step above edge.append

theorem Ancestry.append {nodes : List ℕ} (ancestry : tree.Ancestry nodes) :
    Ancestry (tree ++ more) nodes := by
  induction ancestry with
  | root => exact .root
  | child edge _ above => exact .child edge.append above

theorem Descends.trans {top middle bottom : ℕ} (upper : tree.Descends top middle)
    (lower : tree.Descends middle bottom) : tree.Descends top bottom := by
  induction lower with
  | refl => exact upper
  | step _ edge above => exact .step above edge

/-- An edge of the grown tree is an old edge or the new one. -/
theorem isChild_append_singleton {parent child other : ℕ} {label edgeLabel : α} :
    IsChild (tree ++ [some (parent, label)]) other edgeLabel child ↔
      tree.IsChild other edgeLabel child ∨
        (child = tree.length ∧ other = parent ∧ edgeLabel = label) := by
  rw [IsChild, IsChild]
  rcases Nat.lt_trichotomy child tree.length with old | rfl | beyond
  · rw [List.getElem?_append_left old]
    simp [Nat.ne_of_lt old]
  · rw [List.getElem?_concat_length, List.getElem?_eq_none (Nat.le_refl _)]
    simp only [Option.some.injEq, Prod.mk.injEq, reduceCtorEq, true_and, false_or]
    exact and_congr eq_comm eq_comm
  · rw [List.getElem?_eq_none (by simp only [List.length_append, List.length_singleton]; omega),
      List.getElem?_eq_none (by omega)]
    simp only [reduceCtorEq, false_or, false_iff, not_and]
    intro same
    omega

@[simp] theorem childLabels_append (tree more : ParentTree α) (node : ℕ) :
    childLabels (tree ++ more) node = tree.childLabels node ++ more.childLabels node :=
  List.filterMap_append

theorem childLabels_link (parent node : ℕ) (label : α) :
    childLabels [some (parent, label)] node = if parent = node then [label] else [] := by
  by_cases same : parent = node
  · simp [childLabels, same]
  · simp [childLabels, same]

end

section

variable {nodes : List ℕ}

theorem IsChild.descends (edge : tree.IsChild parent label child) : tree.Descends parent child :=
  .step (.refl parent) edge

theorem IsChild.parent_unique {parent other child : ℕ} {label otherLabel : α}
    (edge : tree.IsChild parent label child) (again : tree.IsChild other otherLabel child) :
    parent = other := by
  rw [IsChild] at edge again
  rw [edge] at again
  cases again
  rfl

/-- A node of a grown tree has one path from the root. -/
theorem Grown.exists_path (grown : tree.Grown) (present : node < tree.length) :
    ∃ labels, tree.Path node labels := by
  induction node using Nat.strongRecOn with
  | _ node ih =>
      by_cases isRoot : node = 0
      · subst isRoot
        exact ⟨[], .root grown.root⟩
      · obtain ⟨parent, label, edge, earlier⟩ :=
          grown.earlier node (Nat.pos_of_ne_zero isRoot) present
        obtain ⟨labels, path⟩ := ih parent earlier (by omega)
        exact ⟨labels ++ [label], .step path edge⟩

theorem Path.unique {labels others : List α} (path : tree.Path node labels)
    (other : tree.Path node others) : labels = others := by
  induction path generalizing others with
  | root isRoot =>
      cases other with
      | root _ => rfl
      | step _ edge =>
          rw [IsChild, isRoot] at edge
          cases edge
  | step _ edge ih =>
      cases other with
      | root isRoot =>
          rw [IsChild, isRoot] at edge
          cases edge
      | step above otherEdge =>
          rw [IsChild] at edge otherEdge
          rw [edge] at otherEdge
          cases otherEdge
          rw [ih above]

theorem Ancestry.lt_length (grown : tree.Grown) (ancestry : tree.Ancestry nodes) :
    ∀ node ∈ nodes, node < tree.length := by
  induction ancestry with
  | root =>
      intro node present
      rw [List.mem_singleton.mp present]
      exact grown.pos
  | child edge _ above =>
      intro node present
      cases present with
      | head => exact edge.lt_length
      | tail _ higher => exact above node higher

theorem Ancestry.pairwise (grown : tree.Grown) (ancestry : tree.Ancestry nodes) :
    nodes.Pairwise (· > ·) := by
  induction ancestry with
  | root => exact List.pairwise_singleton _ _
  | child edge _ ordered =>
      refine List.Pairwise.cons ?_ ordered
      intro node isAbove
      have older := grown.parent_lt edge
      cases isAbove with
      | head => exact older
      | tail _ higher => exact lt_trans (List.rel_of_pairwise_cons ordered higher) older

theorem Ancestry.nodup (grown : tree.Grown) (ancestry : tree.Ancestry nodes) : nodes.Nodup :=
  (ancestry.pairwise grown).imp ne_of_gt

theorem Ancestry.tail {node parent : ℕ} {rest : List ℕ}
    (ancestry : tree.Ancestry (node :: parent :: rest)) : tree.Ancestry (parent :: rest) := by
  cases ancestry with
  | child _ above => exact above

/-- The first of an ancestry is a child of the second. -/
theorem Ancestry.edge {node parent : ℕ} {rest : List ℕ}
    (ancestry : tree.Ancestry (node :: parent :: rest)) :
    ∃ label, tree.IsChild parent label node := by
  cases ancestry with
  | child edge _ => exact ⟨_, edge⟩

end

section

theorem mem_childLabels :
    label ∈ tree.childLabels node ↔ ∃ child, tree.IsChild node label child := by
  simp only [childLabels, List.mem_filterMap, Option.bind_eq_some_iff, IsChild]
  constructor
  · rintro ⟨link, present, ⟨parent, edgeLabel⟩, isLink, same⟩
    split at same
    · rename_i isParent
      cases same
      cases isParent
      obtain ⟨child, found⟩ := List.mem_iff_getElem?.mp present
      exact ⟨child, isLink ▸ found⟩
    · cases same
  · rintro ⟨child, found⟩
    exact ⟨_, List.mem_iff_getElem?.mpr ⟨child, found⟩, _, rfl, if_pos rfl⟩

/-- Where the labels below a node are distinct, each belongs to one child. -/
theorem existsUnique_child (distinct : (tree.childLabels node).Nodup)
    (present : label ∈ tree.childLabels node) : ∃! child, tree.IsChild node label child := by
  induction tree using List.reverseRecOn with
  | nil => cases present
  | append_singleton before link ih =>
      rw [childLabels_append] at distinct present
      have below := (List.nodup_append.mp distinct).1
      cases link with
      | none =>
          have none_below : childLabels [(none : Option (ℕ × α))] node = [] := rfl
          rw [none_below, List.append_nil] at present
          obtain ⟨child, edge, only⟩ := ih below present
          refine ⟨child, edge.append, ?_⟩
          intro other otherEdge
          have old : other < before.length := by
            have bound := otherEdge.lt_length
            rw [List.length_append, List.length_singleton] at bound
            refine Nat.lt_of_le_of_ne (by omega) ?_
            rintro rfl
            rw [IsChild, List.getElem?_concat_length] at otherEdge
            cases otherEdge
          rw [IsChild, List.getElem?_append_left old] at otherEdge
          exact only other otherEdge
      | some edge =>
          obtain ⟨parent, edgeLabel⟩ := edge
          rw [childLabels_link] at distinct present
          by_cases isOld : label ∈ childLabels before node
          · obtain ⟨child, edge, only⟩ := ih below isOld
            refine ⟨child, edge.append, ?_⟩
            intro other otherEdge
            rcases isChild_append_singleton.mp otherEdge with oldEdge | ⟨_, rfl, rfl⟩
            · exact only other oldEdge
            · rw [if_pos rfl] at distinct
              exact absurd isOld fun twice =>
                (List.nodup_append.mp distinct).2.2 _ twice _ List.mem_cons_self rfl
          · have isNew := (List.mem_append.mp present).resolve_left isOld
            split at isNew
            · rename_i isParent
              subst isParent
              cases List.mem_singleton.mp isNew
              refine ⟨before.length, isChild_append_singleton.mpr (.inr ⟨rfl, rfl, rfl⟩), ?_⟩
              intro other otherEdge
              rcases isChild_append_singleton.mp otherEdge with oldEdge | ⟨same, _⟩
              · exact absurd (mem_childLabels.mpr ⟨other, oldEdge⟩) isOld
              · exact same
            · cases isNew

end

end ParentTree

end DirtSim.Foundation
