import DirtSim.Foundation.ParentTree
import Mathlib.Data.List.Nodup
import Mathlib.Logic.Function.Basic
import Mathlib.Logic.Relation

/-! # Proving nodes by exhausting them

A depth-first search proves a node once it has tried every label below it and proven each child that
results. Nodes that escape are where proofs fail. A proven node has been exhausted below proven
children only, and a refuted one lies above an escape (`ProofSearch.Sound`).
-/

namespace DirtSim.Foundation

inductive ProofStatus
  | opened | proven | refuted
deriving DecidableEq, Repr

/-- A search, with the labels each node has to try. -/
structure ProofSearch (α : Type*) where
  tree : ParentTree α
  labels : ℕ → List α
  status : ℕ → ProofStatus
  stack : List (ℕ × Bool)
  escapes : ℕ → Prop

namespace ProofSearch

variable {α : Type*} {before after search : ProofSearch α}

def root (labels : List α) : ProofSearch α where
  tree := [none]
  labels _ := labels
  status _ := .opened
  stack := [(0, true)]
  escapes _ := False

def expand (search : ProofSearch α) (parent : ℕ) (label : α) (labels : List α) (escaped : Bool) :
    ProofSearch α where
  tree := search.tree ++ [some (parent, label)]
  labels := Function.update search.labels search.tree.length labels
  status := Function.update search.status search.tree.length .opened
  stack := (search.tree.length, !escaped) :: search.stack
  escapes node := search.escapes node ∨ (escaped = true ∧ node = search.tree.length)

/-- Takes the node on top of the stack off and tells the next one. -/
def settle (search : ProofSearch α) (node : ℕ) (intact : Bool) (rest : List (ℕ × Bool)) :
    ProofSearch α where
  tree := search.tree
  labels := search.labels
  status := Function.update search.status node (if intact then .proven else .refuted)
  stack := rest.modifyHead fun frame => (frame.1, frame.2 && intact)
  escapes := search.escapes

/-- The node on top of the stack tries its next label, or is settled once it has tried all. -/
inductive Step : ProofSearch α → ProofSearch α → Prop
  | expand {search : ProofSearch α} {parent : ℕ} {intact : Bool} {rest : List (ℕ × Bool)}
      (stack : search.stack = (parent, intact) :: rest) (label : α) (labels : List α)
      (distinct : labels.Nodup) (escaped : Bool) :
      Step search (search.expand parent label labels escaped)
  | settle {search : ProofSearch α} {node : ℕ} {intact : Bool} {rest : List (ℕ × Bool)}
      (stack : search.stack = (node, intact) :: rest)
      (exhausted : search.tree.childLabels node = search.labels node) :
      Step search (search.settle node intact rest)

abbrev Steps : ProofSearch α → ProofSearch α → Prop := Relation.ReflTransGen Step

def stacked (search : ProofSearch α) : List ℕ := search.stack.map Prod.fst

structure Sound (search : ProofSearch α) : Prop where
  grown : search.tree.Grown
  chain : search.stacked = [] ∨ search.tree.Ancestry search.stacked
  distinct : ∀ node < search.tree.length, (search.labels node).Nodup
  opened : ∀ node ∈ search.stacked, search.status node = .opened
  explored : ∀ node < search.tree.length, node ∉ search.stacked →
    search.tree.childLabels node = search.labels node
  proven : ∀ node label child, search.tree.IsChild node label child →
    search.status node = .proven → search.status child = .proven
  intact : ∀ frame ∈ search.stack, frame.2 = true → ∀ label child,
    search.tree.IsChild frame.1 label child →
      child ∈ search.stacked ∨ search.status child = .proven
  broken : ∀ frame ∈ search.stack, frame.2 = false →
    ∃ below, search.tree.Descends frame.1 below ∧ search.escapes below
  refuted : ∀ node < search.tree.length, search.status node = .refuted →
    ∃ below, search.tree.Descends node below ∧ search.escapes below

theorem Sound.lt_length (sound : search.Sound) {node : ℕ} (isStacked : node ∈ search.stacked) :
    node < search.tree.length := by
  rcases sound.chain with empty | ancestry
  · rw [empty] at isStacked
    cases isStacked
  · exact ancestry.lt_length sound.grown node isStacked

theorem Sound.ancestry (sound : search.Sound) {frame : ℕ × Bool} {rest : List (ℕ × Bool)}
    (stack : search.stack = frame :: rest) :
    search.tree.Ancestry (frame.1 :: rest.map Prod.fst) := by
  have stacked : search.stacked = frame.1 :: rest.map Prod.fst := by
    rw [ProofSearch.stacked, stack, List.map_cons]
  rcases sound.chain with empty | ancestry
  · rw [stacked] at empty
    cases empty
  · exact stacked ▸ ancestry

/-- A proven node has tried all it had to try, each label once. -/
theorem Sound.exhausted_of_proven (sound : search.Sound) {node : ℕ}
    (present : node < search.tree.length) (proven : search.status node = .proven) :
    node ∉ search.stacked ∧ search.tree.childLabels node = search.labels node ∧
      ∀ label ∈ search.labels node, ∃! child, search.tree.IsChild node label child := by
  have off : node ∉ search.stacked := by
    intro isStacked
    have opened := sound.opened node isStacked
    rw [proven] at opened
    cases opened
  have explored := sound.explored node present off
  refine ⟨off, explored, ?_⟩
  intro label isLabel
  rw [← explored] at isLabel
  exact ParentTree.existsUnique_child (explored ▸ sound.distinct node present) isLabel

theorem sound_root {labels : List α} (distinct : labels.Nodup) : (root labels).Sound where
  grown := ParentTree.grown_singleton
  chain := Or.inr .root
  distinct _ _ := distinct
  opened _ _ := rfl
  explored node present off := by
    have isRoot : node = 0 := Nat.lt_one_iff.mp present
    exact absurd (isRoot ▸ List.mem_cons_self) off
  proven _ _ _ _ isProven := nomatch isProven
  intact frame _ _ label child edge := by
    have first : child < 1 := edge.lt_length
    rw [Nat.lt_one_iff.mp first] at edge
    cases edge
  broken frame present isBroken := by
    rw [List.mem_singleton.mp present] at isBroken
    cases isBroken
  refuted _ _ isRefuted := nomatch isRefuted

/-- A node that is not in the tree has no children. -/
theorem childLabels_length {tree : ParentTree α} (grown : tree.Grown) :
    tree.childLabels tree.length = [] := by
  refine List.eq_nil_iff_forall_not_mem.mpr ?_
  intro label present
  obtain ⟨child, edge⟩ := ParentTree.mem_childLabels.mp present
  exact absurd (grown.parent_lt edge) (Nat.not_lt.mpr (Nat.le_of_lt edge.lt_length))

section

variable {parent node : ℕ} {intact : Bool} {rest : List (ℕ × Bool)}

theorem Sound.expand (sound : search.Sound) (stack : search.stack = (parent, intact) :: rest)
    (label : α) {labels : List α} (distinct : labels.Nodup) (escaped : Bool) :
    (search.expand parent label labels escaped).Sound := by
  have ancestry := sound.ancestry stack
  have present : parent < search.tree.length :=
    ancestry.lt_length sound.grown parent List.mem_cons_self
  have stacked : search.stacked = parent :: rest.map Prod.fst := by
    rw [ProofSearch.stacked, stack, List.map_cons]
  have pushed : (search.expand parent label labels escaped).stacked =
      search.tree.length :: search.stacked := rfl
  have oldOrNew : ∀ {i : ℕ}, i < (search.expand parent label labels escaped).tree.length →
      i < search.tree.length ∨ i = search.tree.length := by
    intro i bound
    rw [ProofSearch.expand, List.length_append, List.length_singleton] at bound
    exact Nat.lt_or_eq_of_le (Nat.le_of_lt_succ bound)
  have edge : ParentTree.IsChild (search.tree ++ [some (parent, label)]) parent label
      search.tree.length := ParentTree.isChild_append_singleton.mpr (Or.inr ⟨rfl, rfl, rfl⟩)
  have old : ∀ {i : ℕ}, i < search.tree.length →
      (search.expand parent label labels escaped).status i = search.status i :=
    fun isOld => Function.update_of_ne (Nat.ne_of_lt isOld) _ _
  have oldLabels : ∀ {i : ℕ}, i < search.tree.length →
      (search.expand parent label labels escaped).labels i = search.labels i :=
    fun isOld => Function.update_of_ne (Nat.ne_of_lt isOld) _ _
  have new : (search.expand parent label labels escaped).status search.tree.length = .opened :=
    Function.update_self ..
  have newLabels : (search.expand parent label labels escaped).labels search.tree.length =
      labels := Function.update_self ..
  exact {
    grown := sound.grown.append present label
    chain := by
      rw [pushed, stacked]
      exact Or.inr (.child edge ancestry.append)
    distinct := by
      intro i bound
      rcases oldOrNew bound with isOld | rfl
      · exact oldLabels isOld ▸ sound.distinct i isOld
      · rw [newLabels]
        exact distinct
    opened := by
      intro i isStacked
      rcases List.mem_cons.mp isStacked with rfl | wasStacked
      · exact new
      · exact (old (sound.lt_length wasStacked)).trans (sound.opened i wasStacked)
    explored := by
      intro i bound off
      rw [pushed, List.mem_cons, not_or] at off
      have isOld := (oldOrNew bound).resolve_right off.1
      have notParent : parent ≠ i := by
        rintro rfl
        exact off.2 (stacked ▸ List.mem_cons_self)
      refine (ParentTree.childLabels_append _ _ i).trans ?_
      rw [ParentTree.childLabels_link, if_neg notParent, List.append_nil, oldLabels isOld]
      exact sound.explored i isOld off.2
    proven := by
      intro i edgeLabel child isEdge isProven
      rcases ParentTree.isChild_append_singleton.mp isEdge with oldEdge | ⟨_, rfl, _⟩
      · have isOld := Nat.lt_trans (sound.grown.parent_lt oldEdge) oldEdge.lt_length
        rw [old isOld] at isProven
        exact (old oldEdge.lt_length).trans (sound.proven i edgeLabel child oldEdge isProven)
      · rw [old present, sound.opened i (stacked ▸ List.mem_cons_self)] at isProven
        cases isProven
    intact := by
      intro frame isFrame isIntact edgeLabel child isEdge
      rcases ParentTree.isChild_append_singleton.mp isEdge with oldEdge | ⟨rfl, _⟩
      · rcases List.mem_cons.mp isFrame with rfl | wasFrame
        · exact absurd (sound.grown.parent_lt oldEdge)
            (Nat.not_lt.mpr (Nat.le_of_lt oldEdge.lt_length))
        · rcases sound.intact frame wasFrame isIntact edgeLabel child oldEdge with above | isProven
          · exact Or.inl (List.mem_cons_of_mem _ above)
          · exact Or.inr ((old oldEdge.lt_length).trans isProven)
      · exact Or.inl List.mem_cons_self
    broken := by
      intro frame isFrame isBroken
      rcases List.mem_cons.mp isFrame with rfl | wasFrame
      · refine ⟨search.tree.length, .refl _, Or.inr ⟨?_, rfl⟩⟩
        exact Bool.not_eq_false' _ |>.mp isBroken
      · obtain ⟨below, descends, escape⟩ := sound.broken frame wasFrame isBroken
        exact ⟨below, descends.append, Or.inl escape⟩
    refuted := by
      intro i bound isRefuted
      rcases oldOrNew bound with isOld | rfl
      · rw [old isOld] at isRefuted
        obtain ⟨below, descends, escape⟩ := sound.refuted i isOld isRefuted
        exact ⟨below, descends.append, Or.inl escape⟩
      · rw [new] at isRefuted
        cases isRefuted }

/-- The frames left when the node on top is settled: the next one may lose its flag. -/
theorem mem_settled {frame : ℕ × Bool}
    (isFrame : frame ∈ rest.modifyHead fun frame => (frame.1, frame.2 && intact)) :
    ∃ flag, (frame.1, flag) ∈ rest ∧
      (frame.2 = flag ∨ (rest.head? = some (frame.1, flag) ∧ frame.2 = (flag && intact))) := by
  cases rest with
  | nil => cases isFrame
  | cons top more =>
      rw [List.modifyHead_cons] at isFrame
      rcases List.mem_cons.mp isFrame with rfl | inMore
      · exact ⟨top.2, List.mem_cons_self, Or.inr ⟨rfl, rfl⟩⟩
      · exact ⟨frame.2, List.mem_cons_of_mem _ inMore, Or.inl rfl⟩

theorem stacked_settled :
    (rest.modifyHead fun frame => (frame.1, frame.2 && intact)).map Prod.fst =
      rest.map Prod.fst := by
  cases rest <;> rfl

theorem Sound.settle (sound : search.Sound) (stack : search.stack = (node, intact) :: rest)
    (exhausted : search.tree.childLabels node = search.labels node) :
    (search.settle node intact rest).Sound := by
  have ancestry := sound.ancestry stack
  have stacked : search.stacked = node :: rest.map Prod.fst := by
    rw [ProofSearch.stacked, stack, List.map_cons]
  have left : (search.settle node intact rest).stacked = rest.map Prod.fst := stacked_settled
  have ordered := List.pairwise_cons.mp (ancestry.pairwise sound.grown)
  have onTop : (node, intact) ∈ search.stack := stack ▸ List.mem_cons_self
  have topOpened := sound.opened node (stacked ▸ List.mem_cons_self)
  have still : ∀ {i : ℕ}, i ≠ node →
      (search.settle node intact rest).status i = search.status i :=
    fun apart => Function.update_of_ne apart _ _
  have settled : (search.settle node intact rest).status node =
      if intact then .proven else .refuted := Function.update_self ..
  -- What was proven stays so: the node that changes was open.
  have keeps : ∀ {i : ℕ}, search.status i = .proven →
      (search.settle node intact rest).status i = .proven := by
    intro i isProven
    refine (still ?_).trans isProven
    rintro rfl
    rw [topOpened] at isProven
    cases isProven
  exact {
    grown := sound.grown
    chain := by
      rw [left]
      cases rest with
      | nil => exact Or.inl rfl
      | cons top more => exact Or.inr ancestry.tail
    distinct := sound.distinct
    opened := by
      intro i isStacked
      rw [left] at isStacked
      exact (still (Nat.ne_of_lt (ordered.1 i isStacked))).trans
        (sound.opened i (stacked ▸ List.mem_cons_of_mem _ isStacked))
    explored := by
      intro i bound off
      rw [left] at off
      by_cases same : i = node
      · exact same ▸ exhausted
      · refine sound.explored i bound ?_
        rw [stacked, List.mem_cons]
        exact fun isStacked => isStacked.elim same off
    proven := by
      intro i label child edge isProven
      by_cases same : i = node
      · subst same
        rw [settled] at isProven
        cases intact with
        | false => cases isProven
        | true =>
            rcases sound.intact _ onTop rfl label child edge with isStacked | childProven
            · -- A child comes later than all that is on the stack.
              have later := sound.grown.parent_lt edge
              rw [stacked] at isStacked
              rcases List.mem_cons.mp isStacked with rfl | above
              · exact absurd later (Nat.lt_irrefl _)
              · exact absurd later (Nat.lt_asymm (ordered.1 child above))
            · exact keeps childProven
      · rw [still same] at isProven
        exact keeps (sound.proven i label child edge isProven)
    intact := by
      intro frame isFrame isIntact label child edge
      rw [left]
      obtain ⟨flag, wasFrame, same⟩ := mem_settled isFrame
      have wasIntact : flag = true := by
        rcases same with same | ⟨_, same⟩
        · exact same.symm.trans isIntact
        · rw [same, Bool.and_eq_true] at isIntact
          exact isIntact.1
      have inStack : (frame.1, flag) ∈ search.stack := stack ▸ List.mem_cons_of_mem _ wasFrame
      rcases sound.intact (frame.1, flag) inStack wasIntact label child edge with
        isStacked | childProven
      · rw [stacked] at isStacked
        rcases List.mem_cons.mp isStacked with rfl | above
        · -- The settled node is a child of the next one only.
          refine Or.inr ?_
          rw [settled]
          cases rest with
          | nil => cases wasFrame
          | cons top more =>
              obtain ⟨_, topEdge⟩ := ancestry.edge
              have isTop : frame.1 = top.1 := edge.parent_unique topEdge
              rcases List.mem_cons.mp isFrame with rfl | inMore
              · exact if_pos (Bool.and_eq_true _ _ |>.mp isIntact).2
              · have below := List.rel_of_pairwise_cons ordered.2
                  (List.mem_map_of_mem (f := Prod.fst) inMore)
                exact absurd isTop (Nat.ne_of_lt below)
        · exact Or.inl above
      · exact Or.inr (keeps childProven)
    broken := by
      intro frame isFrame isBroken
      obtain ⟨flag, wasFrame, same⟩ := mem_settled isFrame
      have inStack : (frame.1, flag) ∈ search.stack := stack ▸ List.mem_cons_of_mem _ wasFrame
      rcases same with same | ⟨isTop, same⟩
      · exact sound.broken (frame.1, flag) inStack (same.symm.trans isBroken)
      · rw [same, Bool.and_eq_false_iff] at isBroken
        rcases isBroken with wasBroken | isRefuted
        · exact sound.broken (frame.1, flag) inStack wasBroken
        · -- What breaks the settled node lies below the next one as well.
          obtain ⟨below, descends, escape⟩ := sound.broken _ onTop isRefuted
          cases rest with
          | nil => cases isTop
          | cons top more =>
              cases isTop
              obtain ⟨_, topEdge⟩ := ancestry.edge
              exact ⟨below, topEdge.descends.trans descends, escape⟩
    refuted := by
      intro i bound isRefuted
      by_cases same : i = node
      · subst same
        rw [settled] at isRefuted
        cases intact with
        | false => exact sound.broken _ onTop rfl
        | true => cases isRefuted
      · rw [still same] at isRefuted
        exact sound.refuted i bound isRefuted }

theorem Sound.step (sound : before.Sound) (moved : Step before after) : after.Sound := by
  cases moved with
  | expand stack label labels distinct escaped => exact sound.expand stack label distinct escaped
  | settle stack exhausted => exact sound.settle stack exhausted

/-- **The marks of a search keep their meaning.** -/
theorem Sound.steps (sound : before.Sound) (moved : Steps before after) : after.Sound := by
  induction moved with
  | refl => exact sound
  | tail _ last ih => exact ih.step last

/-- The tree only grows, and a node keeps what it has to try. -/
theorem Steps.keeps_labels (moved : Steps before after) :
    before.tree.length ≤ after.tree.length ∧
      ∀ i < before.tree.length, after.labels i = before.labels i := by
  induction moved with
  | refl => exact ⟨Nat.le_refl _, fun _ _ => rfl⟩
  | tail _ last ih =>
      obtain ⟨grows, same⟩ := ih
      cases last with
      | settle => exact ⟨grows, same⟩
      | expand =>
          refine ⟨Nat.le_trans grows ?_, ?_⟩
          · rw [ProofSearch.expand, List.length_append]
            exact Nat.le_add_right _ _
          · intro i isOld
            exact (Function.update_of_ne (Nat.ne_of_lt (Nat.lt_of_lt_of_le isOld grows)) _ _).trans
              (same i isOld)

end

end ProofSearch

end DirtSim.Foundation
