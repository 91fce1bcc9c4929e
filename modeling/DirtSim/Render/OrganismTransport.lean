import DirtSim.Organisms.OrganismManager
import Mathlib.Data.List.Basic

/-! # Sparse transport of organism ownership

A render message carries one record per organism, with its id in eight bits and the indices of its
cells in sixteen bits each. Both are narrowed without a check (`apply_extractOrganisms_eq_iff`).
-/

namespace DirtSim

namespace RenderMessageUtils

/-- One organism in a render message. -/
structure OrganismData where
  organismId : UInt8
  cellIndices : List UInt16
deriving DecidableEq, Repr

/-- Appends an index to the entry of an ordered map, which is created when it is missing. -/
def pushBack (id : OrganismId) (index : UInt16) :
    List (OrganismId × List UInt16) → List (OrganismId × List UInt16)
  | [] => [(id, [index])]
  | (key, indices) :: rest =>
      if id < key then (id, [index]) :: (key, indices) :: rest
      else if id = key then (key, indices ++ [index]) :: rest
      else (key, indices) :: pushBack id index rest

/-- The cells of each organism, in increasing order of ids. -/
def organismMap (grid : List OrganismId) : List (OrganismId × List UInt16) :=
  grid.zipIdx.foldl
    (fun entries cell =>
      if cell.1 ≠ invalidOrganismId then pushBack cell.1 (UInt16.ofNat cell.2) entries
      else entries) []

/-- Extract sparse organism data from the organism grid. Ids and indices are truncated. -/
def extractOrganisms (grid : List OrganismId) : List OrganismData :=
  (organismMap grid).map fun entry =>
    { organismId := UInt8.ofInt entry.1, cellIndices := entry.2 }

/-- One cell of one organism written into the dense array; indices beyond it are skipped. -/
def writeCell (numCells : ℕ) (id : UInt8) (organismIds : List OrganismId) (index : UInt16) :
    List OrganismId :=
  if index.toNat < numCells then organismIds.set index.toNat (id.toNat : ℤ) else organismIds

def applyOrganismData (organisms : List OrganismData) (numCells : ℕ) : List OrganismId :=
  organisms.foldl
    (fun organismIds org => org.cellIndices.foldl (writeCell numCells org.organismId) organismIds)
    (List.replicate numCells invalidOrganismId)

section

def records {κ : Type} (entries : List (κ × List UInt16)) : List (κ × UInt16) :=
  entries.flatMap fun entry => entry.2.map fun index => (entry.1, index)

theorem mem_records {κ : Type} {entries : List (κ × List UInt16)} {key : κ} {index : UInt16} :
    (key, index) ∈ records entries ↔ ∃ indices, (key, indices) ∈ entries ∧ index ∈ indices := by
  simp only [records, List.mem_flatMap, List.mem_map, Prod.mk.injEq, Prod.exists]
  constructor
  · rintro ⟨key, indices, member, index, listed, rfl, rfl⟩
    exact ⟨indices, member, listed⟩
  · rintro ⟨indices, member, listed⟩
    exact ⟨key, indices, member, index, listed, rfl, rfl⟩

theorem mem_records_pushBack (id : OrganismId) (index : UInt16)
    (entries : List (OrganismId × List UInt16)) (key : OrganismId) (other : UInt16) :
    (key, other) ∈ records (pushBack id index entries) ↔
      (key = id ∧ other = index) ∨ (key, other) ∈ records entries := by
  induction entries with
  | nil => simp [pushBack, records]
  | cons entry rest ih =>
      obtain ⟨first, indices⟩ := entry
      unfold pushBack
      by_cases before : id < first
      · simp [before, records]
      · by_cases same : id = first
        · subst same
          simp only [lt_irrefl, ↓reduceIte, records, List.flatMap_cons, List.map_append,
            List.map_cons, List.map_nil, List.mem_append, List.mem_singleton, Prod.mk.injEq]
          tauto
        · simp only [records] at ih
          simp only [before, same, ↓reduceIte, records, List.flatMap_cons, List.mem_append, ih]
          tauto

theorem mem_records_organismMap {grid : List OrganismId} {id : OrganismId} {index : UInt16} :
    (id, index) ∈ records (organismMap grid) ↔
      id ≠ invalidOrganismId ∧ ∃ i, grid[i]? = some id ∧ index = UInt16.ofNat i := by
  have loop : ∀ (cells : List (OrganismId × ℕ)) (entries : List (OrganismId × List UInt16)),
      (id, index) ∈ records (cells.foldl
        (fun entries cell =>
          if cell.1 ≠ invalidOrganismId then pushBack cell.1 (UInt16.ofNat cell.2) entries
          else entries) entries) ↔
        (id, index) ∈ records entries ∨
          (id ≠ invalidOrganismId ∧ ∃ i, (id, i) ∈ cells ∧ index = UInt16.ofNat i) := by
    intro cells
    induction cells with
    | nil => simp
    | cons cell cells ih =>
        intro entries
        obtain ⟨owner, place⟩ := cell
        rw [List.foldl_cons, ih]
        by_cases owned : owner ≠ invalidOrganismId
        · rw [if_pos owned, mem_records_pushBack]
          simp only [List.mem_cons, Prod.mk.injEq]
          constructor
          · rintro ((⟨rfl, rfl⟩ | old) | ⟨valid, i, member, rfl⟩)
            · exact Or.inr ⟨owned, place, Or.inl ⟨rfl, rfl⟩, rfl⟩
            · exact Or.inl old
            · exact Or.inr ⟨valid, i, Or.inr member, rfl⟩
          · rintro (old | ⟨valid, i, ⟨rfl, rfl⟩ | member, rfl⟩)
            · exact Or.inl (Or.inr old)
            · exact Or.inl (Or.inl ⟨rfl, rfl⟩)
            · exact Or.inr ⟨valid, i, member, rfl⟩
        · have nobody : owner = invalidOrganismId := not_not.mp owned
          rw [if_neg owned]
          simp only [List.mem_cons, Prod.mk.injEq]
          constructor
          · rintro (old | ⟨valid, i, member, rfl⟩)
            · exact Or.inl old
            · exact Or.inr ⟨valid, i, Or.inr member, rfl⟩
          · rintro (old | ⟨valid, i, ⟨rfl, rfl⟩ | member, rfl⟩)
            · exact Or.inl old
            · exact absurd nobody valid
            · exact Or.inr ⟨valid, i, member, rfl⟩
  unfold organismMap
  rw [loop]
  simp [records, List.mem_zipIdx_iff_getElem?]

end

section

variable (organisms : List OrganismData)

def writes (organisms : List OrganismData) : List (UInt8 × UInt16) :=
  records (organisms.map fun org => (org.organismId, org.cellIndices))

theorem applyOrganismData_eq (numCells : ℕ) :
    applyOrganismData organisms numCells =
      (writes organisms).foldl (fun organismIds write =>
          writeCell numCells write.1 organismIds write.2)
        (List.replicate numCells invalidOrganismId) := by
  simp [applyOrganismData, writes, records, List.flatMap_map, List.foldl_flatMap, List.foldl_map]

theorem length_writeCell (numCells : ℕ) (id : UInt8) (organismIds : List OrganismId)
    (index : UInt16) : (writeCell numCells id organismIds index).length = organismIds.length := by
  unfold writeCell
  split
  · exact List.length_set
  · rfl

theorem length_applyOrganismData (numCells : ℕ) :
    (applyOrganismData organisms numCells).length = numCells := by
  rw [applyOrganismData_eq]
  have loop : ∀ (list : List (UInt8 × UInt16)) (organismIds : List OrganismId),
      (list.foldl (fun organismIds write =>
        writeCell numCells write.1 organismIds write.2) organismIds).length =
          organismIds.length := by
    intro list
    induction list with
    | nil => exact fun _ => rfl
    | cons write list ih =>
        intro organismIds
        rw [List.foldl_cons, ih, length_writeCell]
  rw [loop, List.length_replicate]

theorem getElem?_writeCell {numCells : ℕ} {organismIds : List OrganismId}
    (sized : organismIds.length = numCells) (id : UInt8) (index : UInt16) {i : ℕ}
    (inside : i < numCells) :
    (writeCell numCells id organismIds index)[i]? =
      if index.toNat = i then some (id.toNat : ℤ) else organismIds[i]? := by
  unfold writeCell
  by_cases here : index.toNat = i
  · rw [if_pos (here ▸ inside), if_pos here, here,
      List.getElem?_set_self (by rw [sized]; exact inside)]
  · rw [if_neg here]
    split
    · rw [List.getElem?_set_ne here]
    · rfl

theorem getElem?_foldl_writeCell {numCells : ℕ} (list : List (UInt8 × UInt16))
    {organismIds : List OrganismId} (sized : organismIds.length = numCells) {i : ℕ}
    (inside : i < numCells) :
    ((∀ write ∈ list, write.2.toNat ≠ i) ∧
      (list.foldl (fun organismIds write =>
        writeCell numCells write.1 organismIds write.2) organismIds)[i]? = organismIds[i]?) ∨
    ∃ write ∈ list, write.2.toNat = i ∧
      (list.foldl (fun organismIds write =>
        writeCell numCells write.1 organismIds write.2) organismIds)[i]? =
          some (write.1.toNat : ℤ) := by
  induction list generalizing organismIds with
  | nil => exact Or.inl ⟨nofun, rfl⟩
  | cons write list ih =>
      have sized' : (writeCell numCells write.1 organismIds write.2).length = numCells := by
        rw [length_writeCell, sized]
      have first := getElem?_writeCell sized write.1 write.2 inside
      rcases ih sized' with ⟨untouched, kept⟩ | ⟨later, member, here, kept⟩
      · by_cases here : write.2.toNat = i
        · rw [if_pos here] at first
          exact Or.inr ⟨write, .head _, here, kept.trans first⟩
        · rw [if_neg here] at first
          refine Or.inl ⟨?_, kept.trans first⟩
          intro other member
          rcases List.mem_cons.mp member with rfl | member
          · exact here
          · exact untouched other member
      · exact Or.inr ⟨later, .tail _ member, here, kept⟩

theorem getElem?_applyOrganismData {numCells i : ℕ} (inside : i < numCells) :
    ((∀ write ∈ writes organisms, write.2.toNat ≠ i) ∧
      (applyOrganismData organisms numCells)[i]? = some invalidOrganismId) ∨
    ∃ write ∈ writes organisms, write.2.toNat = i ∧
      (applyOrganismData organisms numCells)[i]? = some (write.1.toNat : ℤ) := by
  rw [applyOrganismData_eq]
  have blank : (List.replicate numCells invalidOrganismId)[i]? = some invalidOrganismId :=
    List.getElem?_replicate_of_lt inside
  have outcome := getElem?_foldl_writeCell (writes organisms) (List.length_replicate (a :=
    invalidOrganismId)) inside
  rw [blank] at outcome
  exact outcome

end

section

theorem mem_writes_extractOrganisms {grid : List OrganismId} {value : UInt8} {index : UInt16} :
    (value, index) ∈ writes (extractOrganisms grid) ↔
      ∃ i id, grid[i]? = some id ∧ id ≠ invalidOrganismId ∧ value = UInt8.ofInt id ∧
        index = UInt16.ofNat i := by
  unfold writes extractOrganisms
  rw [mem_records]
  simp only [List.map_map, List.mem_map, Function.comp_apply, Prod.mk.injEq, Prod.exists]
  constructor
  · rintro ⟨indices, ⟨id, _, member, rfl, rfl⟩, listed⟩
    obtain ⟨valid, i, here, rfl⟩ := mem_records_organismMap.mp (mem_records.mpr ⟨_, member, listed⟩)
    exact ⟨i, id, here, valid, rfl, rfl⟩
  · rintro ⟨i, id, here, valid, rfl, rfl⟩
    obtain ⟨indices, member, listed⟩ :=
      mem_records.mp (mem_records_organismMap.mpr ⟨valid, i, here, rfl⟩)
    exact ⟨indices, ⟨id, indices, member, rfl, rfl⟩, listed⟩

/-- A cell survives transport when its index and its owner's id fit in their fields. -/
def Fits (grid : List OrganismId) : Prop :=
  ∀ i id, grid[i]? = some id → id ≠ invalidOrganismId → i < 65536 ∧ 0 < id ∧ id < 256

theorem toNat_ofInt {id : OrganismId} (positive : 0 ≤ id) (small : id < 256) :
    ((UInt8.ofInt id).toNat : ℤ) = id := by
  obtain ⟨value, rfl⟩ := Int.eq_ofNat_of_zero_le positive
  have small' : value < 256 := Int.ofNat_lt.mp small
  rw [UInt8.ofInt, UInt8.toNat_ofNat']
  omega

/-- **Transport is lossless exactly on the grids that fit.** -/
theorem apply_extractOrganisms_eq_iff (grid : List OrganismId) :
    applyOrganismData (extractOrganisms grid) grid.length = grid ↔ Fits grid := by
  constructor
  · intro whole i id here valid
    have inside : i < grid.length := (List.getElem?_eq_some_iff.mp here).1
    rcases getElem?_applyOrganismData (extractOrganisms grid) inside with
      ⟨_, blank⟩ | ⟨write, _, place, written⟩
    · rw [whole, here, Option.some.injEq] at blank
      exact absurd blank valid
    · rw [whole, here, Option.some.injEq] at written
      subst written
      have narrow : write.1.toNat < 256 := write.1.toNat_lt
      have short : write.2.toNat < 65536 := write.2.toNat_lt
      have positive : 0 < write.1.toNat := Nat.pos_of_ne_zero fun zero => valid (by rw [zero]; rfl)
      exact ⟨place ▸ short, Int.natCast_pos.mpr positive, Int.ofNat_lt.mpr narrow⟩
  · intro fits
    apply List.ext_getElem?
    intro i
    by_cases inside : i < grid.length
    · have here : grid[i]? = some grid[i] := List.getElem?_eq_getElem inside
      rcases getElem?_applyOrganismData (extractOrganisms grid) inside with
        ⟨untouched, blank⟩ | ⟨⟨value, index⟩, member, place, written⟩
      · rw [blank, here]
        by_contra owned
        have valid : grid[i] ≠ invalidOrganismId := fun same => owned (by rw [same])
        obtain ⟨short, _, _⟩ := fits i _ here valid
        refine untouched (UInt8.ofInt grid[i], UInt16.ofNat i)
          (mem_writes_extractOrganisms.mpr ⟨i, _, here, valid, rfl, rfl⟩) ?_
        rw [UInt16.toNat_ofNat']
        exact Nat.mod_eq_of_lt short
      · obtain ⟨j, id, there, valid, rfl, rfl⟩ := mem_writes_extractOrganisms.mp member
        obtain ⟨short, positive, small⟩ := fits j id there valid
        have same : j = i := by
          rw [← place, UInt16.toNat_ofNat']
          exact (Nat.mod_eq_of_lt short).symm
        subst same
        rw [written, there, toNat_ofInt positive.le small]
    · have beyond : grid.length ≤ i := Nat.le_of_not_lt inside
      rw [List.getElem?_eq_none beyond,
        List.getElem?_eq_none (by rw [length_applyOrganismData]; exact beyond)]

/-- The second organism handed out past the eighth bit comes back as nobody. -/
theorem apply_extractOrganisms_256 :
    applyOrganismData (extractOrganisms [256]) [(256 : OrganismId)].length ≠ [256] := by
  decide

end

end RenderMessageUtils

end DirtSim
