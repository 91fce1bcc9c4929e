import DirtSim.Search.SearchBooks

/-! # The tables hold what was proven

An entry of a table is what some closed loss published (`SearchTree.Backs`). Nodes, keys and
outcomes that are closed losses stay, so an entry is backed as long as it is in a table.
-/

namespace DirtSim

open Foundation

variable {S : Type}

namespace SearchTree

/-- Some closed loss of a position has published an entry. -/
def Backs (tree : SearchTree S) (key : ClosedLossTranspositionKey)
    (entry : ClosedLossTranspositionEntry) : Prop :=
  ∃ i : ℕ, tree.nodes[i]?.map entryOf = some entry ∧
    tree.closedLossTranspositionKeys[i]? = some (some key) ∧
      tree.nodeOutcomes[i]? = some .closedLoss

/-- Every entry of the tables is backed. -/
structure Honest (tree : SearchTree S) : Prop where
  exact : ∀ key entry, tree.closedLossTranspositionTable.lookup key = some entry →
    tree.Backs key entry
  shape : ∀ shapeKey shapeEntry,
    tree.closedLossTranspositionShapeTable.lookup shapeKey = some shapeEntry →
      tree.Backs ⟨shapeKey, shapeEntry.ramBytes⟩ shapeEntry.proof

section

variable {before after tree : SearchTree S}

theorem Honest.mono (honest : before.Honest)
    (table : after.closedLossTranspositionTable = before.closedLossTranspositionTable)
    (shapeTable :
      after.closedLossTranspositionShapeTable = before.closedLossTranspositionShapeTable)
    (backs : ∀ key entry, before.Backs key entry → after.Backs key entry) : after.Honest where
  exact key entry found := backs key entry (honest.exact key entry (table ▸ found))
  shape shapeKey shapeEntry found :=
    backs _ _ (honest.shape shapeKey shapeEntry (shapeTable ▸ found))

theorem lookup_publishExact {table : Dict ClosedLossTranspositionKey ClosedLossTranspositionEntry}
    {key other : ClosedLossTranspositionKey} {entry found : ClosedLossTranspositionEntry}
    (isFound : (publishExact table key entry).lookup other = some found) :
    (other = key ∧ found = entry) ∨ table.lookup other = some found := by
  have inserted : (table.insert key entry).lookup other = some found →
      (other = key ∧ found = entry) ∨ table.lookup other = some found := by
    rw [Dict.lookup_insert]
    split
    · rename_i same
      exact fun isEntry => Or.inl ⟨same, (Option.some.inj isEntry).symm⟩
    · exact Or.inr
  rw [publishExact] at isFound
  split at isFound
  · exact inserted isFound
  · split at isFound
    · exact inserted isFound
    · exact Or.inr isFound

theorem lookup_publishShape
    {table : Dict ClosedLossTranspositionShapeKey ClosedLossTranspositionShapeEntry}
    {key : ClosedLossTranspositionKey} {other : ClosedLossTranspositionShapeKey}
    {entry : ClosedLossTranspositionEntry} {found : ClosedLossTranspositionShapeEntry}
    (isFound : (publishShape table key entry).lookup other = some found) :
    (other = buildClosedLossTranspositionShapeKey key ∧ found = ⟨entry, key.ramBytes⟩) ∨
      table.lookup other = some found := by
  have inserted : (table.insert (buildClosedLossTranspositionShapeKey key)
      ⟨entry, key.ramBytes⟩).lookup other = some found →
        (other = buildClosedLossTranspositionShapeKey key ∧ found = ⟨entry, key.ramBytes⟩) ∨
          table.lookup other = some found := by
    rw [Dict.lookup_insert]
    split
    · rename_i same
      exact fun isEntry => Or.inl ⟨same, (Option.some.inj isEntry).symm⟩
    · exact Or.inr
  simp only [publishShape] at isFound
  split at isFound
  · exact inserted isFound
  · split at isFound
    · exact inserted isFound
    · exact Or.inr isFound

theorem backs_of_publishable {nodeIndex : ℕ} {key : ClosedLossTranspositionKey}
    {entry : ClosedLossTranspositionEntry}
    (published : tree.publishable nodeIndex = some (key, entry)) : tree.Backs key entry := by
  rw [publishable] at published
  split at published
  · rename_i node isKey found hasKey lost
    cases published
    exact ⟨nodeIndex, by rw [found, Option.map_some], hasKey, lost⟩
  · cases published

section

variable (honest : tree.Honest)
include honest

theorem Honest.publish (nodeIndex : ℕ) :
    (tree.publishClosedLossTranspositionEntry nodeIndex).Honest := by
  have same : ∀ key entry, tree.Backs key entry →
      (tree.publishClosedLossTranspositionEntry nodeIndex).Backs key entry := fun _ _ => id
  cases published : tree.publishable nodeIndex with
  | none =>
      refine honest.mono ?_ ?_ same
      · simp [publishClosedLossTranspositionEntry, published]
      · simp [publishClosedLossTranspositionEntry, published]
  | some entry =>
      obtain ⟨key, entry⟩ := entry
      have backed := backs_of_publishable published
      constructor
      · intro other found isFound
        simp only [publishClosedLossTranspositionEntry, published] at isFound
        rcases lookup_publishExact isFound with ⟨rfl, rfl⟩ | old
        · exact same _ _ backed
        · exact same _ _ (honest.exact other found old)
      · intro other found isFound
        simp only [publishClosedLossTranspositionEntry, published] at isFound
        rcases lookup_publishShape isFound with ⟨rfl, rfl⟩ | old
        · exact same _ _ backed
        · exact same _ _ (honest.shape other found old)

theorem Honest.setOutcome {nodeIndex : ℕ} (open_ : tree.nodeOutcomes[nodeIndex]? ≠ some .closedLoss)
    (outcome : SmbSearchNodeOutcome) (blockReason : SmbDfsClosedLossBlockReason) :
    (tree.setOutcome nodeIndex outcome blockReason).Honest := by
  refine honest.mono rfl rfl ?_
  intro key entry ⟨i, found, hasKey, lost⟩
  have apart : nodeIndex ≠ i := by
    rintro rfl
    exact open_ lost
  exact ⟨i, found, hasKey, (List.getElem?_set_ne apart).trans lost⟩

theorem Honest.release (nodeIndex : ℕ) : (tree.releaseNodeHeavyData nodeIndex).Honest := by
  refine honest.mono rfl rfl ?_
  intro key entry ⟨i, found, hasKey, lost⟩
  refine ⟨i, ?_, hasKey, lost⟩
  rw [SmbDfsSearch.getElem?_releaseNodeHeavyData]
  split
  · rw [Option.map_map]
    exact found
  · exact found

theorem Honest.noteTop (outcome : SmbSearchNodeOutcome) (blockReason : SmbDfsClosedLossBlockReason) :
    (tree.noteTop outcome blockReason).Honest :=
  honest.mono rfl rfl fun _ _ => id

theorem Honest.addNode (node : SmbSearchNode S) (key : Option ClosedLossTranspositionKey)
    (blockReason : SmbDfsClosedLossBlockReason) : (tree.addNode node key blockReason).Honest := by
  refine honest.mono rfl rfl ?_
  intro other entry ⟨i, found, hasKey, lost⟩
  obtain ⟨old, isOld, same⟩ := Option.map_eq_some_iff.mp found
  refine ⟨i, ?_, ?_, ?_⟩
  · refine Option.map_eq_some_iff.mpr ⟨old, ?_, same⟩
    exact (List.getElem?_append_left (List.getElem?_eq_some_iff.mp isOld).1).trans isOld
  · exact (List.getElem?_append_left (List.getElem?_eq_some_iff.mp hasKey).1).trans hasKey
  · exact (List.getElem?_append_left (List.getElem?_eq_some_iff.mp lost).1).trans lost

theorem Honest.backtrack {dfsFrame : DfsFrame}
    (open_ : tree.nodeOutcomes[dfsFrame.nodeIndex]? ≠ some .closedLoss) (rest : List DfsFrame) :
    (tree.backtrack dfsFrame rest).Honest := by
  have published := (honest.setOutcome open_ (exhaustedOutcome dfsFrame)
    (exhaustedBlockReason dfsFrame)).publish dfsFrame.nodeIndex
  have popped : Honest { (tree.setOutcome dfsFrame.nodeIndex (exhaustedOutcome dfsFrame)
      (exhaustedBlockReason dfsFrame)).publishClosedLossTranspositionEntry dfsFrame.nodeIndex with
        dfsStack := rest } := published.mono rfl rfl fun _ _ => id
  exact (popped.release dfsFrame.nodeIndex).noteTop _ _

theorem Honest.prune {childIndex : ℕ} (open_ : tree.nodeOutcomes[childIndex]? ≠ some .closedLoss)
    (outcome : SmbSearchNodeOutcome) (blockReason : SmbDfsClosedLossBlockReason) :
    (tree.prune childIndex outcome blockReason).Honest := by
  have noted := (honest.setOutcome open_ outcome blockReason).noteTop outcome blockReason
  simp only [SearchTree.prune]
  split
  · exact (noted.publish childIndex).release childIndex
  · exact noted.release childIndex

end

end

end SearchTree

end DirtSim
