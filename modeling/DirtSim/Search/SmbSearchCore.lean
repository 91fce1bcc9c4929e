import DirtSim.Foundation.ParentTree
import DirtSim.Nes.Evaluator
import Mathlib.Algebra.Order.Group.Abs
import Mathlib.Data.List.Nodup

/-! # The vocabulary of the search

Actions and the order in which a node tries them, summaries of an evaluated node, the nodes
themselves and the plan that leads to one.

Savestates are opaque; a node whose savestate was released has none. The walk up the parent
links is a loop without a bound, so it takes fuel here: `none` says that it does not end.
-/

namespace DirtSim

open Foundation

/-! ## Actions -/

inductive SmbSearchLegalAction
  | neutral | right | rightRun | rightJump | rightJumpRun | leftRun | leftJumpRun | duck | duckJump
  | duckRightJumpRun | duckLeftJumpRun
deriving DecidableEq, Repr

inductive SmbSearchHorizontalDirection
  | none | left | right
deriving DecidableEq, Repr

structure PlayerControlFrame where
  xAxis : ℤ
  yAxis : ℤ
  buttons : UInt8
deriving DecidableEq, Repr

def buttonA : UInt8 := 1

def buttonB : UInt8 := 2

def smbSearchLegalActionToPlayerControlFrame : SmbSearchLegalAction → PlayerControlFrame
  | .neutral => ⟨0, 0, 0⟩
  | .right => ⟨127, 0, 0⟩
  | .rightRun => ⟨127, 0, buttonB⟩
  | .rightJump => ⟨127, 0, buttonA⟩
  | .rightJumpRun => ⟨127, 0, buttonA ||| buttonB⟩
  | .leftRun => ⟨-127, 0, buttonB⟩
  | .leftJumpRun => ⟨-127, 0, buttonA ||| buttonB⟩
  | .duck => ⟨0, 127, 0⟩
  | .duckJump => ⟨0, 127, buttonA⟩
  | .duckRightJumpRun => ⟨127, 127, buttonA ||| buttonB⟩
  | .duckLeftJumpRun => ⟨-127, 127, buttonA ||| buttonB⟩

def getSmbSearchLegalActions : List SmbSearchLegalAction :=
  [.rightRun, .rightJumpRun, .right, .rightJump, .neutral, .leftRun, .leftJumpRun, .duck,
    .duckJump, .duckRightJumpRun, .duckLeftJumpRun]

def isJumpButtonAction : SmbSearchLegalAction → Bool
  | .neutral | .right | .rightRun | .leftRun | .duck => false
  | .rightJump | .rightJumpRun | .leftJumpRun | .duckJump | .duckRightJumpRun
  | .duckLeftJumpRun => true

def makeDescendingRunJumpRescueAction :
    SmbSearchHorizontalDirection → Option SmbSearchLegalAction
  | .left => some .leftJumpRun
  | .right => some .rightJumpRun
  | .none => none

/-- The actions a node tries, in order, and how many of them come first to jump off a lift. -/
structure SmbSearchActionOrdering where
  actions : List SmbSearchLegalAction
  groundedVerticalJumpPriorityActionCount : ℕ
  groundedVerticalJumpPriorityApplied : Bool

def SmbSearchActionOrdering.count (ordering : SmbSearchActionOrdering) : ℕ :=
  ordering.actions.length

def placeAny (order : List SmbSearchLegalAction) (action : SmbSearchLegalAction) :
    List SmbSearchLegalAction :=
  if action ∈ order then order else order ++ [action]

def place (descendingAirborne : Bool) (order : List SmbSearchLegalAction)
    (action : SmbSearchLegalAction) : List SmbSearchLegalAction :=
  if descendingAirborne ∧ isJumpButtonAction action then order else placeAny order action

def buildDfsActionOrder (airborne : Bool) (verticalSpeedNormalized : ℚ)
    (horizontalDirection : SmbSearchHorizontalDirection)
    (actionFromParent : Option SmbSearchLegalAction)
    (groundedVerticalJumpPrioritizationEnabled : Bool) : SmbSearchActionOrdering :=
  let descendingAirborne : Bool := airborne ∧ verticalSpeedNormalized > 0
  let groundedMovingVertically : Bool := groundedVerticalJumpPrioritizationEnabled ∧ ¬ airborne ∧
    |verticalSpeedNormalized| > 0
  let priority :=
    if groundedMovingVertically then
      (getSmbSearchLegalActions.filter isJumpButtonAction).foldl (place descendingAirborne) []
    else []
  -- The parent's action is preferred after any grounded recovery jumps.
  let preferred := actionFromParent.toList.foldl (place descendingAirborne) priority
  let placed := getSmbSearchLegalActions.foldl (place descendingAirborne) preferred
  let rescue :=
    if descendingAirborne then (makeDescendingRunJumpRescueAction horizontalDirection).toList
    else []
  { actions := rescue.foldl placeAny placed
    groundedVerticalJumpPriorityActionCount := priority.length
    groundedVerticalJumpPriorityApplied := priority.length > 0 }

section

variable {order : List SmbSearchLegalAction}

theorem nodup_placeAny (distinct : order.Nodup) (action : SmbSearchLegalAction) :
    (placeAny order action).Nodup := by
  rw [placeAny]
  split
  · exact distinct
  · rename_i absent
    exact List.nodup_append.mpr ⟨distinct, List.nodup_singleton _,
      fun one present other isAction => by
        rw [List.mem_singleton.mp isAction]
        exact fun same => absent (same ▸ present)⟩

theorem nodup_foldl_placeAny (distinct : order.Nodup) (actions : List SmbSearchLegalAction) :
    (actions.foldl placeAny order).Nodup := by
  induction actions generalizing order with
  | nil => exact distinct
  | cons action actions ih => exact ih (nodup_placeAny distinct action)

theorem nodup_foldl_place (descendingAirborne : Bool) (distinct : order.Nodup)
    (actions : List SmbSearchLegalAction) :
    (actions.foldl (place descendingAirborne) order).Nodup := by
  induction actions generalizing order with
  | nil => exact distinct
  | cons action actions ih =>
      refine ih ?_
      rw [place]
      split
      · exact distinct
      · exact nodup_placeAny distinct action

theorem nodup_buildDfsActionOrder (airborne : Bool) (verticalSpeedNormalized : ℚ)
    (horizontalDirection : SmbSearchHorizontalDirection)
    (actionFromParent : Option SmbSearchLegalAction) (enabled : Bool) :
    (buildDfsActionOrder airborne verticalSpeedNormalized horizontalDirection actionFromParent
      enabled).actions.Nodup := by
  have priority : ∀ (descending grounded : Bool),
      (if grounded then (getSmbSearchLegalActions.filter isJumpButtonAction).foldl
        (place descending) [] else []).Nodup := by
    intro descending grounded
    split
    · exact nodup_foldl_place descending List.nodup_nil _
    · exact List.nodup_nil
  exact nodup_foldl_placeAny (nodup_foldl_place _ (nodup_foldl_place _ (priority _ _) _) _) _

theorem mem_placeAny {action other : SmbSearchLegalAction} :
    other ∈ placeAny order action ↔ other ∈ order ∨ other = action := by
  rw [placeAny]
  split
  · rename_i present
    exact ⟨Or.inl, fun either => either.elim id fun same => same ▸ present⟩
  · rw [List.mem_append, List.mem_singleton]

theorem mem_foldl_placeAny {order actions : List SmbSearchLegalAction}
    {other : SmbSearchLegalAction} :
    other ∈ actions.foldl placeAny order ↔ other ∈ order ∨ other ∈ actions := by
  induction actions generalizing order with
  | nil => rw [List.foldl_nil, or_iff_left List.not_mem_nil]
  | cons action actions ih => rw [List.foldl_cons, ih, mem_placeAny, List.mem_cons, or_assoc]

theorem mem_place {descendingAirborne : Bool} {action other : SmbSearchLegalAction} :
    other ∈ place descendingAirborne order action ↔
      other ∈ order ∨ (other = action ∧ ¬(descendingAirborne ∧ isJumpButtonAction other)) := by
  rw [place]
  split
  · rename_i barred
    refine ⟨Or.inl, fun either => either.elim id ?_⟩
    rintro ⟨rfl, allowed⟩
    exact absurd barred allowed
  · rename_i allowed
    rw [mem_placeAny]
    refine or_congr_right ⟨?_, And.left⟩
    rintro rfl
    exact ⟨rfl, allowed⟩

theorem mem_foldl_place {descendingAirborne : Bool} {order actions : List SmbSearchLegalAction}
    {other : SmbSearchLegalAction} :
    other ∈ actions.foldl (place descendingAirborne) order ↔
      other ∈ order ∨ (other ∈ actions ∧ ¬(descendingAirborne ∧ isJumpButtonAction other)) := by
  induction actions generalizing order with
  | nil => rw [List.foldl_nil, or_iff_left (fun absent => List.not_mem_nil absent.1)]
  | cons action actions ih =>
      rw [List.foldl_cons, ih, mem_place, List.mem_cons, or_and_right, or_assoc]

theorem mem_buildDfsActionOrder {airborne : Bool} {verticalSpeedNormalized : ℚ}
    {horizontalDirection : SmbSearchHorizontalDirection}
    {actionFromParent : Option SmbSearchLegalAction} {enabled : Bool}
    {action : SmbSearchLegalAction} :
    action ∈ (buildDfsActionOrder airborne verticalSpeedNormalized horizontalDirection
        actionFromParent enabled).actions ↔
      ¬((airborne ∧ verticalSpeedNormalized > 0) ∧ isJumpButtonAction action) ∨
        ((airborne ∧ verticalSpeedNormalized > 0) ∧
          action ∈ (makeDescendingRunJumpRescueAction horizontalDirection).toList) := by
  have legal : action ∈ getSmbSearchLegalActions := by
    cases action <;> decide
  simp only [buildDfsActionOrder, mem_foldl_placeAny, mem_foldl_place, decide_eq_true_iff]
  by_cases descends : airborne = true ∧ verticalSpeedNormalized > 0
  · simp only [descends, true_and, ↓reduceIte, legal, and_self]
    refine or_congr_left ⟨?_, fun allowed => Or.inr allowed⟩
    rintro ((early | ⟨_, allowed⟩) | allowed)
    · split at early
      · rw [mem_foldl_place] at early
        rcases early with absent | ⟨_, allowed⟩
        · exact absurd absent List.not_mem_nil
        · simpa only [decide_true, true_and] using allowed
      · exact absurd early List.not_mem_nil
    · exact allowed
    · exact allowed
  · simp [descends, legal]

end

/-! ## Frontiers and summaries -/

def encodeSmbFrontier (stageIndex : ℕ) (absoluteX : UInt16) : ℕ :=
  stageIndex * 65536 + absoluteX.toNat

def decodeSmbAbsoluteX (frontier : ℕ) : UInt16 := UInt16.ofNat frontier

def decodeSmbStageIndex (frontier : ℕ) : ℕ := frontier / 65536 % 4294967296

structure SmbSearchEvaluatorSummary where
  bestFrontier : ℕ
  gameplayFrames : ℕ
  gameplayFramesSinceProgress : ℕ
  distanceRewardTotal : ℚ
  endReason : SmbEpisodeEndReason
  evaluationScore : ℚ
  levelClearRewardTotal : ℚ
  gameState : Option UInt8
  terminal : Bool

def buildSmbSearchEvaluatorSummary (snapshot : NesSuperMarioBrosFitnessSnapshot)
    (gameState : Option UInt8) : SmbSearchEvaluatorSummary where
  bestFrontier := encodeSmbFrontier snapshot.bestStageIndex snapshot.bestAbsoluteX
  gameplayFrames := snapshot.gameplayFrames
  gameplayFramesSinceProgress := snapshot.framesSinceProgress
  distanceRewardTotal := snapshot.distanceRewardTotal
  endReason := snapshot.endReason
  evaluationScore := snapshot.totalReward
  levelClearRewardTotal := snapshot.levelClearRewardTotal
  gameState := gameState
  terminal := snapshot.done

/-! ## Nodes and plans -/

structure ScenarioVideoFrame where
  width : ℤ
  height : ℤ
  pixels : List UInt8

structure SmbSearchNode (S : Type) where
  savestate : Option S
  memorySnapshot : MemorySnapshot
  scenarioVideoFrame : Option ScenarioVideoFrame
  evaluatorSummary : SmbSearchEvaluatorSummary
  parentIndex : Option ℕ
  actionFromParent : Option SmbSearchLegalAction
  currentFrontier : ℕ
  gameplayFrame : ℕ
  playerYScreen : UInt8
  velocityStuckFrameCount : ℕ

variable {S : Type}

def planWalk (nodes : List (SmbSearchNode S)) : ℕ → ℕ → List PlayerControlFrame →
    Option (Except String (List PlayerControlFrame))
  | 0, _, _ => none
  | fuel + 1, cursor, reversedFrames =>
      -- Every cursor has been checked to be in range.
      nodes[cursor]?.bind fun node =>
        let reversedFrames := reversedFrames ++
          node.actionFromParent.toList.map smbSearchLegalActionToPlayerControlFrame
        match node.parentIndex with
        | none => some (.ok reversedFrames.reverse)
        | some parentIndex =>
            if parentIndex ≥ nodes.length then
              some (.error "Search node parent index out of range")
            else planWalk nodes fuel parentIndex reversedFrames

/-- The frames of the way from the root to a node. A walk longer than the number of nodes has
entered a cycle. -/
def reconstructPlanFrames (nodes : List (SmbSearchNode S)) (nodeIndex : ℕ) :
    Option (Except String (List PlayerControlFrame)) :=
  if nodeIndex ≥ nodes.length then some (.error "Search node index out of range")
  else planWalk nodes nodes.length nodeIndex []

def SmbSearchNode.link (node : SmbSearchNode S) : Option (ℕ × SmbSearchLegalAction) :=
  node.parentIndex.bind fun parentIndex => node.actionFromParent.map fun action =>
    (parentIndex, action)

def treeOf (nodes : List (SmbSearchNode S)) : ParentTree SmbSearchLegalAction :=
  nodes.map SmbSearchNode.link

def SmbSearchNode.Linked (node : SmbSearchNode S) : Prop :=
  node.parentIndex.isSome = node.actionFromParent.isSome

section

@[simp] theorem length_treeOf (nodes : List (SmbSearchNode S)) :
    (treeOf nodes).length = nodes.length := List.length_map _

theorem treeOf_append (nodes more : List (SmbSearchNode S)) :
    treeOf (nodes ++ more) = treeOf nodes ++ treeOf more := List.map_append

theorem SmbSearchNode.Linked.of_link_none {node : SmbSearchNode S} (linked : node.Linked)
    (isRoot : node.link = none) : node.parentIndex = none ∧ node.actionFromParent = none := by
  rw [SmbSearchNode.Linked] at linked
  rw [SmbSearchNode.link] at isRoot
  cases parent : node.parentIndex with
  | none =>
      rw [parent] at linked
      exact ⟨rfl, Option.isSome_eq_false_iff.mp linked.symm |> Option.isNone_iff_eq_none.mp⟩
  | some parentIndex =>
      cases action : node.actionFromParent with
      | none =>
          rw [parent, action] at linked
          cases linked
      | some _ =>
          rw [parent, action] at isRoot
          cases isRoot

theorem SmbSearchNode.of_link_some {node : SmbSearchNode S} {parent : ℕ}
    {action : SmbSearchLegalAction} (isChild : node.link = some (parent, action)) :
    node.parentIndex = some parent ∧ node.actionFromParent = some action := by
  rw [SmbSearchNode.link] at isChild
  obtain ⟨parentIndex, isParent, rest⟩ := Option.bind_eq_some_iff.mp isChild
  obtain ⟨label, isLabel, same⟩ := Option.map_eq_some_iff.mp rest
  cases same
  exact ⟨isParent, isLabel⟩

section

variable {nodes : List (SmbSearchNode S)} (linked : ∀ node ∈ nodes, node.Linked)
  (grown : (treeOf nodes).Grown) {nodeIndex : ℕ} {actions : List SmbSearchLegalAction}
  (path : (treeOf nodes).Path nodeIndex actions)
include linked grown path

theorem planWalk_of_path :
    ∀ (fuel : ℕ) (reversedFrames : List PlayerControlFrame), nodeIndex < fuel →
      planWalk nodes fuel nodeIndex reversedFrames =
        some (.ok (actions.map smbSearchLegalActionToPlayerControlFrame ++
          reversedFrames.reverse)) := by
  induction path with
  | root isRoot =>
      intro fuel reversedFrames enough
      obtain ⟨fuel, rfl⟩ := Nat.exists_eq_succ_of_ne_zero (Nat.pos_iff_ne_zero.mp enough)
      rw [treeOf, List.getElem?_map] at isRoot
      obtain ⟨node, found, noLink⟩ := Option.map_eq_some_iff.mp isRoot
      obtain ⟨noParent, noAction⟩ :=
        (linked node (List.mem_of_getElem? found)).of_link_none noLink
      simp [planWalk, found, noParent, noAction]
  | step above edge ih =>
      rename_i parent child action actions
      intro fuel reversedFrames enough
      obtain ⟨fuel, rfl⟩ := Nat.exists_eq_succ_of_ne_zero (Nat.ne_zero_of_lt enough)
      have earlier := grown.parent_lt edge
      have bound := edge.lt_length
      rw [length_treeOf] at bound
      have isLink := edge
      rw [ParentTree.IsChild, treeOf, List.getElem?_map] at isLink
      obtain ⟨node, found, link⟩ := Option.map_eq_some_iff.mp isLink
      obtain ⟨hasParent, hasAction⟩ := SmbSearchNode.of_link_some link
      have inRange : ¬ parent ≥ nodes.length := by omega
      simp only [planWalk, found, hasParent, hasAction, Option.bind_some, Option.toList_some,
        List.map_cons, List.map_nil, if_neg inRange]
      rw [ih fuel _ (by omega), List.reverse_append, List.map_append, List.append_assoc]
      rfl

/-- **The plan of a node.** In a grown tree the walk ends without error at any node, with the
frames of the only path to it. -/
theorem reconstructPlanFrames_of_path (present : nodeIndex < nodes.length) :
    reconstructPlanFrames nodes nodeIndex =
      some (.ok (actions.map smbSearchLegalActionToPlayerControlFrame)) := by
  rw [reconstructPlanFrames, if_neg (by omega),
    planWalk_of_path linked grown path _ _ present, List.reverse_nil, List.append_nil]

end

end

end DirtSim
