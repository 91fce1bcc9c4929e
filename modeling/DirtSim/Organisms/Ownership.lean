import DirtSim.Foundation.Transition
import DirtSim.Organisms.OrganismManager

/-! # Who owns a cell

The grid and the cell sets are meant to be two views of one partition (`OrganismManager.Ownership`).
They agree in every run whose operations take no cell owned by another organism
(`OrganismManager.partitioned_of_reachable`); a resize may
(`OrganismManager.not_partitioned_of_shrink`).
-/

namespace DirtSim

open Foundation

namespace OrganismManager

variable {F : Type}

open Organism

/-- The calls other components make. `setPosition` is the world's write to an organism's
position before a resize. -/
inductive Op (F : Type)
  | resizeGrid (newWidth newHeight : ℕ)
  | createTree (pos : Vector2i)
  | createDuck (pos : Vector2i)
  | addCellToOrganism (id : OrganismId) (pos : Vector2i)
  | removeCellsFromOrganism (id : OrganismId) (positions : List Vector2i)
  | swapOrganisms (pos1 pos2 : Vector2i)
  | moveOrganismCell (source target : Vector2i) (organismId : OrganismId)
  | removeOrganismFromWorld (id : OrganismId)
  | clear
  | setPosition (id : OrganismId) (position : F × F)

def Op.apply [Coordinate F] (manager : OrganismManager F) : Op F → Option (OrganismManager F)
  | .resizeGrid newWidth newHeight => some (manager.resizeGrid newWidth newHeight)
  | .createTree pos => some (manager.createTree pos)
  | .createDuck pos => manager.createDuck pos
  | .addCellToOrganism id pos => manager.addCellToOrganism id pos
  | .removeCellsFromOrganism id positions => some (manager.removeCellsFromOrganism id positions)
  | .swapOrganisms pos1 pos2 => manager.swapOrganisms pos1 pos2
  | .moveOrganismCell source target id => manager.moveOrganismCell source target id
  | .removeOrganismFromWorld id => some (manager.removeOrganismFromWorld id)
  | .clear => some manager.clear
  | .setPosition id position => some (manager.setPosition id position)

def Op.Called (manager : OrganismManager F) : Op F → Prop
  | .resizeGrid _ _ => True
  | .createTree pos => manager.inBounds pos
  | .createDuck pos => manager.inBounds pos
  | .addCellToOrganism id pos => (manager.getOrganism id).isSome ∧ manager.inBounds pos
  | .removeCellsFromOrganism id positions =>
      (manager.getOrganism id).isSome ∧ ∀ pos ∈ positions, manager.inBounds pos
  | .swapOrganisms pos1 pos2 => manager.inBounds pos1 ∧ manager.inBounds pos2
  | .moveOrganismCell source target id =>
      (manager.getOrganism id).isSome ∧ manager.inBounds source ∧ manager.inBounds target
  | .removeOrganismFromWorld id => (manager.getOrganism id).isSome
  | .clear => True
  | .setPosition _ _ => True

instance (manager : OrganismManager F) : (op : Op F) → Decidable (op.Called manager)
  | .resizeGrid _ _ | .clear | .setPosition _ _ => inferInstanceAs (Decidable True)
  | .createTree pos => inferInstanceAs (Decidable (manager.inBounds pos))
  | .createDuck pos => inferInstanceAs (Decidable (manager.inBounds pos))
  | .addCellToOrganism id pos =>
      inferInstanceAs (Decidable ((manager.getOrganism id).isSome ∧ manager.inBounds pos))
  | .removeCellsFromOrganism id positions =>
      inferInstanceAs (Decidable ((manager.getOrganism id).isSome ∧
        ∀ pos ∈ positions, manager.inBounds pos))
  | .swapOrganisms pos1 pos2 =>
      inferInstanceAs (Decidable (manager.inBounds pos1 ∧ manager.inBounds pos2))
  | .moveOrganismCell source target id =>
      inferInstanceAs (Decidable ((manager.getOrganism id).isSome ∧ manager.inBounds source ∧
        manager.inBounds target))
  | .removeOrganismFromWorld id =>
      inferInstanceAs (Decidable ((manager.getOrganism id).isSome = true))

/-- Two managers whose maps present the same organisms in another order. -/
def Reordered (before after : OrganismManager F) : Prop :=
  ∃ organisms, before.organisms.SameEntries organisms ∧
    after = { before with organisms := organisms }

/-- The manager under its callers: before each call the hash map may present its entries in any
order. -/
def machine (F : Type) [Coordinate F] : Machine (Op F) (OrganismManager F) where
  initial manager := manager = {}
  step before op after := op.Called before ∧
    ∃ reordered, before.Reordered reordered ∧ op.apply reordered = some after

def Holds (organisms : Dict OrganismId (Body F)) (id : OrganismId) (pos : Vector2i) : Prop :=
  ∃ body, organisms.lookup id = some body ∧ pos ∈ body.cells

def Owns (manager : OrganismManager F) (id : OrganismId) (pos : Vector2i) : Prop :=
  Holds manager.organisms id pos

/-- The cell belongs to nobody or to this organism. -/
def FreeFor (manager : OrganismManager F) (id : OrganismId) (pos : Vector2i) : Prop :=
  manager.organismAt pos = invalidOrganismId ∨ manager.organismAt pos = id

/-- The two views agree, cells lie in the grid, and ids are positive and already handed out. -/
structure Ownership (manager : OrganismManager F) : Prop where
  agrees : ∀ pos, manager.inBounds pos → ∀ id ≠ invalidOrganismId,
    (manager.organismAt pos = id ↔ manager.Owns id pos)
  inside : ∀ id pos, manager.Owns id pos → manager.inBounds pos
  handedOut : ∀ id, (manager.getOrganism id).isSome → 0 < id ∧ id < manager.nextId
  counter : 0 < manager.nextId

/-- No two organisms land on one cell of the new grid. -/
def LandsApart [Coordinate F] (manager : OrganismManager F) (newWidth newHeight : ℕ) : Prop :=
  ∀ first second body body', manager.getOrganism first = some body →
    manager.getOrganism second = some body' → first ≠ second →
      Disjoint
        (body.resizedCells manager.grid.width manager.grid.height newWidth newHeight)
        (body'.resizedCells manager.grid.width manager.grid.height newWidth newHeight)

/-- The call takes no cell that another organism owns. Swaps, removals and duck creation never
do. -/
def Op.TakesNoOwnedCell [Coordinate F] (manager : OrganismManager F) : Op F → Prop
  | .resizeGrid newWidth newHeight =>
      (manager.grid.width = newWidth ∧ manager.grid.height = newHeight) ∨
        manager.LandsApart newWidth newHeight
  | .createTree pos => manager.organismAt pos = invalidOrganismId
  | .addCellToOrganism id pos => manager.FreeFor id pos
  | .removeCellsFromOrganism id positions => ∀ pos ∈ positions, manager.FreeFor id pos
  | .moveOrganismCell _ target id =>
      (∃ body, manager.getOrganism id = some body ∧ body.usesRigidBodyPhysics) ∨
        manager.FreeFor id target
  | .createDuck _ | .swapOrganisms _ _ | .removeOrganismFromWorld _ | .clear
  | .setPosition _ _ => True

section

variable {manager : OrganismManager F} {pos : Vector2i} {grid : Grid OrganismId}
  (entries : List (Σ _ : OrganismId, Body F))

/-! ## What each primitive write does to the two views -/

theorem organismAt_of_not_inBounds (outside : ¬ manager.inBounds pos) :
    manager.organismAt pos = invalidOrganismId := by
  unfold organismAt
  rw [Grid.get?_of_not_inBounds outside]
  rfl

@[simp] theorem setOrganismAt_inBounds {pos other : Vector2i} {id : OrganismId} :
    (manager.setOrganismAt other id).inBounds pos ↔ manager.inBounds pos :=
  Grid.set_inBounds

theorem organismAt_setOrganismAt {other : Vector2i} (inside : manager.inBounds other)
    (pos : Vector2i) (id : OrganismId) :
    (manager.setOrganismAt other id).organismAt pos =
      if pos = other then id else manager.organismAt pos := by
  have inside' : manager.grid.InBounds other.x other.y := inside
  unfold organismAt setOrganismAt
  rw [Grid.get?_set]
  by_cases same : pos = other
  · subst same
    simp [inside']
  · have apart : ¬ (pos.x = other.x ∧ pos.y = other.y ∧ manager.grid.InBounds other.x other.y) :=
      fun all => same (Vector2i.ext all.1 all.2.1)
    simp [apart, same]

theorem organismAt_setOrganismAt_twice {first second : Vector2i} (inside : manager.inBounds first)
    (inside' : manager.inBounds second) (pos : Vector2i) (id id' : OrganismId) :
    ((manager.setOrganismAt first id).setOrganismAt second id').organismAt pos =
      if pos = second then id' else if pos = first then id else manager.organismAt pos := by
  rw [organismAt_setOrganismAt (setOrganismAt_inBounds.mpr inside'),
    organismAt_setOrganismAt inside]

theorem get?_writeCells (cells : Finset Vector2i) (id : OrganismId)
    (inside : grid.InBounds pos.x pos.y) :
    (writeCells grid cells id).get? pos.x pos.y =
      if pos ∈ cells then some id else grid.get? pos.x pos.y := by
  obtain ⟨owner, read⟩ := Option.isSome_iff_exists.mp (Grid.get?_isSome_iff.mpr inside)
  unfold writeCells
  rw [Grid.get?_mapCells, read, Option.map_some]
  split <;> rfl

theorem foldl_writeCells_inBounds {x y : ℤ} :
    (entries.foldl (fun grid entry => writeCells grid entry.2.cells entry.1) grid).InBounds x y ↔
      grid.InBounds x y := by
  induction entries generalizing grid with
  | nil => exact Iff.rfl
  | cons entry entries ih => exact ih.trans Iff.rfl

theorem get?_foldl_writeCells_of_notMem (inside : grid.InBounds pos.x pos.y)
    (untouched : ∀ entry ∈ entries, pos ∉ entry.2.cells) :
    (entries.foldl (fun grid entry => writeCells grid entry.2.cells entry.1) grid).get?
      pos.x pos.y = grid.get? pos.x pos.y := by
  induction entries generalizing grid with
  | nil => rfl
  | cons entry entries ih =>
      have inside' : (writeCells grid entry.2.cells entry.1).InBounds pos.x pos.y := inside
      rw [List.foldl_cons, ih inside' fun later member => untouched later (.tail _ member),
        get?_writeCells _ _ inside, if_neg (untouched entry (.head _))]

theorem get?_foldl_writeCells_of_mem (inside : grid.InBounds pos.x pos.y) {id : OrganismId}
    (alone : ∀ entry ∈ entries, pos ∈ entry.2.cells → entry.1 = id)
    (touched : ∃ entry ∈ entries, pos ∈ entry.2.cells) :
    (entries.foldl (fun grid entry => writeCells grid entry.2.cells entry.1) grid).get?
      pos.x pos.y = some id := by
  induction entries generalizing grid with
  | nil =>
      obtain ⟨entry, member, _⟩ := touched
      exact absurd member (List.not_mem_nil)
  | cons entry entries ih =>
      have inside' : (writeCells grid entry.2.cells entry.1).InBounds pos.x pos.y := inside
      have alone' : ∀ later ∈ entries, pos ∈ later.2.cells → later.1 = id :=
        fun later member => alone later (.tail _ member)
      rw [List.foldl_cons]
      by_cases again : ∃ later ∈ entries, pos ∈ later.2.cells
      · exact ih inside' alone' again
      · have untouched : ∀ later ∈ entries, pos ∉ later.2.cells :=
          fun later member written => again ⟨later, member, written⟩
        have here : pos ∈ entry.2.cells := by
          obtain ⟨found, member, written⟩ := touched
          rcases List.mem_cons.mp member with rfl | member
          · exact written
          · exact absurd written (untouched found member)
        rw [get?_foldl_writeCells_of_notMem entries inside' untouched,
          get?_writeCells _ _ inside, if_pos here, alone entry (.head _) here]

end

section

/-! ## What each map update does to the cell sets -/

variable {organisms : Dict OrganismId (Body F)}
variable (key : OrganismId)

theorem holds_modify (change : Body F → Body F) (id : OrganismId) (pos : Vector2i) :
    Holds (organisms.modify key change) id pos ↔
      ∃ body, organisms.lookup id = some body ∧
        pos ∈ (if id = key then change body else body).cells := by
  unfold Holds
  by_cases same : id = key
  · subst same
    simp [Dict.lookup_modify_self]
  · simp [Dict.lookup_modify_ne change organisms same, same]

theorem isSome_lookup_modify (change : Body F → Body F) (id : OrganismId) :
    ((organisms.modify key change).lookup id).isSome = (organisms.lookup id).isSome := by
  by_cases same : id = key
  · subst same
    simp [Dict.lookup_modify_self]
  · simp [Dict.lookup_modify_ne change organisms same]

@[simp] theorem onCellTransfer_cells [Coordinate F] (body : Body F) (source target : Vector2i) :
    (body.onCellTransfer source target).cells = body.cells := by
  unfold Body.onCellTransfer
  split <;> rfl

theorem holds_transferCell [Coordinate F] {key : OrganismId} (live : (organisms.lookup key).isSome)
    (source target : Vector2i) (id : OrganismId) (pos : Vector2i) :
    Holds (transferCell organisms key source target) id pos ↔
      (id = key ∧ pos = target) ∨ (Holds organisms id pos ∧ ¬ (id = key ∧ pos = source)) := by
  unfold transferCell
  rw [holds_modify]
  by_cases same : id = key
  · subst same
    obtain ⟨body, found⟩ := Option.isSome_iff_exists.mp live
    simp only [found, Option.some.injEq, exists_eq_left', ↓reduceIte, onCellTransfer_cells,
      Finset.mem_insert, Finset.mem_erase, Holds, true_and]
    exact or_congr_right and_comm
  · simp [same, Holds]

theorem isSome_lookup_transferCell [Coordinate F] (source target : Vector2i) (id : OrganismId) :
    ((transferCell organisms key source target).lookup id).isSome =
      (organisms.lookup id).isSome :=
  isSome_lookup_modify key _ id

theorem holds_emplace {key : OrganismId} (absent : organisms.lookup key = none)
    {body : Body F} {cell : Vector2i} (cells : body.cells = {cell}) (id : OrganismId)
    (pos : Vector2i) :
    Holds (organisms.emplace key body) id pos ↔
      (id = key ∧ pos = cell) ∨ Holds organisms id pos := by
  unfold Holds
  rw [Dict.emplace_of_absent body absent, Dict.lookup_insert]
  by_cases same : id = key
  · subst same
    simp [cells, absent]
  · simp [same]

theorem holds_erase (key id : OrganismId) (pos : Vector2i) :
    Holds (organisms.erase key) id pos ↔ id ≠ key ∧ Holds organisms id pos := by
  unfold Holds
  rw [Dict.lookup_erase]
  by_cases same : id = key
  · simp [same]
  · simp [same]

end

section

variable {manager : OrganismManager F}
variable {pos : Vector2i}

section

variable (ownership : manager.Ownership)
include ownership

theorem Ownership.owns_ne_invalid {id : OrganismId} (owned : manager.Owns id pos) :
    id ≠ invalidOrganismId := by
  obtain ⟨body, found, _⟩ := owned
  have live : (manager.getOrganism id).isSome := Option.isSome_iff_exists.mpr ⟨body, found⟩
  exact (ownership.handedOut id live).1.ne'

theorem Ownership.organismAt_of_owns {id : OrganismId} (owned : manager.Owns id pos) :
    manager.organismAt pos = id :=
  (ownership.agrees pos (ownership.inside id pos owned) id
    (ownership.owns_ne_invalid owned)).mpr owned

theorem Ownership.owns_organismAt (owned : manager.organismAt pos ≠ invalidOrganismId) :
    manager.Owns (manager.organismAt pos) pos := by
  have inside : manager.inBounds pos := by
    by_contra outside
    exact owned (organismAt_of_not_inBounds outside)
  exact (ownership.agrees pos inside _ owned).mp rfl

theorem Ownership.cells_disjoint {first second : OrganismId} {body body' : Body F}
    (found : manager.getOrganism first = some body)
    (found' : manager.getOrganism second = some body') (apart : first ≠ second) :
    Disjoint body.cells body'.cells := by
  rw [Finset.disjoint_left]
  intro pos member member'
  have owner : manager.organismAt pos = first :=
    ownership.organismAt_of_owns ⟨body, found, member⟩
  have owner' : manager.organismAt pos = second :=
    ownership.organismAt_of_owns ⟨body', found', member'⟩
  exact apart (owner.symm.trans owner')

theorem Ownership.live_organismAt (owned : manager.organismAt pos ≠ invalidOrganismId) :
    (manager.getOrganism (manager.organismAt pos)).isSome := by
  obtain ⟨body, found, _⟩ := ownership.owns_organismAt owned
  exact Option.isSome_iff_exists.mpr ⟨body, found⟩

theorem Ownership.not_owns_of_free {id other : OrganismId} (free : manager.FreeFor id pos)
    (apart : other ≠ id) : ¬ manager.Owns other pos := by
  intro owned
  have owner := ownership.organismAt_of_owns owned
  rcases free with nobody | mine
  · exact ownership.owns_ne_invalid owned (owner.symm.trans nobody)
  · exact apart (owner.symm.trans mine)

theorem Ownership.nextId_absent : manager.organisms.lookup manager.nextId = none := by
  by_contra present
  have live : (manager.getOrganism manager.nextId).isSome :=
    Option.isSome_iff_ne_none.mpr present
  exact lt_irrefl _ (ownership.handedOut _ live).2

end

/-- Ownership after an update that rewrites single cells: at each cell either nothing changed,
or the grid's new entry is the only organism that holds the cell. -/
theorem Ownership.of_each {after : OrganismManager F} (ownership : manager.Ownership)
    (bounds : ∀ pos, after.inBounds pos ↔ manager.inBounds pos)
    (live : ∀ id, (after.getOrganism id).isSome → 0 < id ∧ id < after.nextId)
    (counter : 0 < after.nextId)
    (each : ∀ pos,
      (after.organismAt pos = manager.organismAt pos ∧
        ∀ id ≠ invalidOrganismId, after.Owns id pos ↔ manager.Owns id pos) ∨
      (manager.inBounds pos ∧ ∃ owner, after.organismAt pos = owner ∧
        ∀ id ≠ invalidOrganismId, after.Owns id pos ↔ id = owner)) :
    after.Ownership where
  agrees := by
    intro pos inside id valid
    rcases each pos with ⟨same, owns⟩ | ⟨_, owner, recorded, only⟩
    · rw [same, owns id valid]
      exact ownership.agrees pos ((bounds pos).mp inside) id valid
    · rw [only id valid, recorded, eq_comm]
  inside := by
    intro id pos owned
    have valid : id ≠ invalidOrganismId := by
      obtain ⟨body, found, _⟩ := owned
      exact (live id (Option.isSome_iff_exists.mpr ⟨body, found⟩)).1.ne'
    rw [bounds]
    rcases each pos with ⟨_, owns⟩ | ⟨inside, _⟩
    · exact ownership.inside id pos ((owns id valid).mp owned)
    · exact inside
  handedOut := live
  counter := counter

end

section

/-! ## Every call that takes no owned cell keeps the ownership -/

variable {manager after : OrganismManager F}
variable {pos : Vector2i} {id : OrganismId} {source target : Vector2i}
  {organisms changed : Dict OrganismId (Body F)} {key : OrganismId}

section

variable [Coordinate F] (ownership : manager.Ownership) (inside : manager.inBounds pos)
include ownership inside

theorem Ownership.spawned (free : manager.organismAt pos = invalidOrganismId) (type : OrganismType) :
    ({ { manager with nextId := manager.nextId + 1 }.setOrganismAt pos manager.nextId with
        organisms := manager.organisms.emplace manager.nextId (Body.spawn type pos) } :
      OrganismManager F).Ownership := by
  have holds : ∀ id cell, Holds (manager.organisms.emplace manager.nextId
      (Body.spawn (F := F) type pos)) id cell ↔
        (id = manager.nextId ∧ cell = pos) ∨ manager.Owns id cell :=
    holds_emplace ownership.nextId_absent rfl
  have grid : ∀ cell, ({ { manager with nextId := manager.nextId + 1 }.setOrganismAt pos
      manager.nextId with
        organisms := manager.organisms.emplace manager.nextId (Body.spawn type pos) } :
      OrganismManager F).organismAt cell =
        if cell = pos then manager.nextId else manager.organismAt cell :=
    fun cell => organismAt_setOrganismAt inside cell manager.nextId
  refine ownership.of_each (fun _ => setOrganismAt_inBounds) ?_
    (Int.lt_add_one_iff.mpr ownership.counter.le) ?_
  · intro id live
    have positive := ownership.counter
    have looked : (manager.organisms.emplace manager.nextId
        (Body.spawn (F := F) type pos)).lookup id =
          if id = manager.nextId then some (Body.spawn type pos)
          else manager.organisms.lookup id := by
      rw [Dict.emplace_of_absent _ ownership.nextId_absent, Dict.lookup_insert]
    by_cases fresh : id = manager.nextId
    · subst fresh
      exact ⟨positive, Int.lt_succ _⟩
    · have old : (manager.getOrganism id).isSome := by
        unfold getOrganism at live
        rw [looked, if_neg fresh] at live
        exact live
      obtain ⟨above, below⟩ := ownership.handedOut id old
      exact ⟨above, Int.lt_add_one_iff.mpr below.le⟩
  · intro cell
    by_cases here : cell = pos
    · subst here
      right
      refine ⟨inside, manager.nextId, by rw [grid, if_pos rfl], fun id _ => ?_⟩
      refine (holds id cell).trans ⟨?_, fun same => Or.inl ⟨same, rfl⟩⟩
      rintro (⟨same, _⟩ | owned)
      · exact same
      · exact absurd ((ownership.organismAt_of_owns owned).symm.trans free)
          (ownership.owns_ne_invalid owned)
    · left
      refine ⟨by rw [grid, if_neg here], fun id _ => (holds id cell).trans ?_⟩
      simp [here]

theorem Ownership.createTree (free : manager.organismAt pos = invalidOrganismId) :
    (manager.createTree pos).Ownership :=
  ownership.spawned inside free .tree

theorem Ownership.createDuck (created : manager.createDuck pos = some after) : after.Ownership := by
  unfold OrganismManager.createDuck at created
  by_cases owned : manager.organismAt pos ≠ invalidOrganismId
  · rw [if_pos owned] at created
    exact absurd created nofun
  · rw [if_neg owned, Option.some.injEq] at created
    subst created
    exact ownership.spawned inside (not_not.mp owned) .duck

end

theorem Ownership.addCellToOrganism (ownership : manager.Ownership) (inside : manager.inBounds pos)
    (free : manager.FreeFor id pos) (added : manager.addCellToOrganism id pos = some after) :
    after.Ownership := by
  unfold OrganismManager.addCellToOrganism at added
  cases found : manager.getOrganism id with
  | none =>
      rw [found] at added
      exact absurd added nofun
  | some body =>
      rw [found] at added
      simp only [Option.some.injEq] at added
      subst added
      have holds : ∀ other cell, OrganismManager.Holds (manager.organisms.modify id fun body =>
          { body with cells := insert pos body.cells }) other cell ↔
            (other = id ∧ cell = pos) ∨ manager.Owns other cell := by
        intro other cell
        rw [holds_modify]
        by_cases same : other = id
        · subst same
          have found' : manager.organisms.lookup other = some body := found
          simp [Owns, Holds, found']
        · simp [same, Owns, Holds]
      refine ownership.of_each (fun _ => setOrganismAt_inBounds) ?_ ownership.counter ?_
      · intro other live
        exact ownership.handedOut other ((isSome_lookup_modify id _ other).symm.trans live)
      · intro cell
        by_cases here : cell = pos
        · subst here
          right
          have written := organismAt_setOrganismAt inside cell id
          rw [if_pos rfl] at written
          refine ⟨inside, id, written, fun other _ => (holds other cell).trans ?_⟩
          refine ⟨?_, fun same => Or.inl ⟨same, rfl⟩⟩
          rintro (⟨same, _⟩ | owned)
          · exact same
          · by_contra apart
            exact ownership.not_owns_of_free free apart owned
        · left
          have written := organismAt_setOrganismAt inside cell id
          rw [if_neg here] at written
          refine ⟨written, fun other _ => (holds other cell).trans ?_⟩
          simp [here]

theorem Ownership.removeCellFromOrganism (ownership : manager.Ownership)
    (inside : manager.inBounds pos) (free : manager.FreeFor id pos) :
    (removeCellFromOrganism id manager pos).Ownership := by
  have holds : ∀ other cell, OrganismManager.Holds (manager.organisms.modify id fun body =>
      { body with cells := body.cells.erase pos }) other cell ↔
        manager.Owns other cell ∧ ¬ (other = id ∧ cell = pos) := by
    intro other cell
    rw [holds_modify]
    by_cases same : other = id
    · subst same
      simp only [↓reduceIte, Finset.mem_erase, Owns, Holds, true_and]
      exact ⟨fun ⟨body, found, apart, member⟩ => ⟨⟨body, found, member⟩, apart⟩,
        fun ⟨⟨body, found, member⟩, apart⟩ => ⟨body, found, apart, member⟩⟩
    · simp [same, Owns, Holds]
  refine ownership.of_each (fun _ => setOrganismAt_inBounds) ?_ ownership.counter ?_
  · intro other live
    exact ownership.handedOut other ((isSome_lookup_modify id _ other).symm.trans live)
  · intro cell
    have written := organismAt_setOrganismAt inside cell invalidOrganismId
    by_cases here : cell = pos
    · subst here
      right
      rw [if_pos rfl] at written
      refine ⟨inside, invalidOrganismId, written,
        fun other valid => (holds other cell).trans ?_⟩
      refine ⟨?_, fun same => absurd same valid⟩
      rintro ⟨owned, other'⟩
      have apart : other ≠ id := fun same => other' ⟨same, rfl⟩
      exact absurd owned (ownership.not_owns_of_free free apart)
    · left
      rw [if_neg here] at written
      refine ⟨written, fun other _ => (holds other cell).trans ?_⟩
      simp [here]

theorem freeFor_removeCellFromOrganism {pos cell : Vector2i} (inside : manager.inBounds pos)
    (free : manager.FreeFor id cell) : (removeCellFromOrganism id manager pos).FreeFor id cell := by
  have written := organismAt_setOrganismAt inside cell invalidOrganismId
  have read : (OrganismManager.removeCellFromOrganism id manager pos).organismAt cell =
      if cell = pos then invalidOrganismId else manager.organismAt cell := written
  by_cases here : cell = pos
  · rw [if_pos here] at read
    exact Or.inl read
  · rw [if_neg here] at read
    unfold FreeFor
    rw [read]
    exact free

section

variable (ownership : manager.Ownership) {positions : List Vector2i}
  (inside : ∀ pos ∈ positions, manager.inBounds pos)
  (free : ∀ pos ∈ positions, manager.FreeFor id pos)
include ownership inside free

theorem Ownership.removeCells :
    (positions.foldl (OrganismManager.removeCellFromOrganism id) manager).Ownership := by
  induction positions generalizing manager with
  | nil => exact ownership
  | cons pos positions ih =>
      have here := inside pos (.head _)
      refine ih (ownership.removeCellFromOrganism here (free pos (.head _))) ?_ ?_
      · exact fun later member => setOrganismAt_inBounds.mpr (inside later (.tail _ member))
      · exact fun later member =>
          freeFor_removeCellFromOrganism here (free later (.tail _ member))

theorem Ownership.removeCellsFromOrganism :
    (manager.removeCellsFromOrganism id positions).Ownership := by
  unfold OrganismManager.removeCellsFromOrganism
  cases manager.getOrganism id with
  | none => exact ownership
  | some body => exact ownership.removeCells inside free

end

theorem Ownership.moveOrganismCell [Coordinate F] (ownership : manager.Ownership)
    (inside : manager.inBounds source) (inside' : manager.inBounds target)
    (free : (∃ body, manager.getOrganism id = some body ∧ body.usesRigidBodyPhysics) ∨
      manager.FreeFor id target) (moved : manager.moveOrganismCell source target id = some after) :
    after.Ownership := by
  unfold OrganismManager.moveOrganismCell at moved
  cases found : manager.getOrganism id with
  | none =>
      rw [found] at moved
      simp only [Option.some.injEq] at moved
      exact moved ▸ ownership
  | some body =>
      rw [found] at moved
      simp only at moved
      by_cases rigid : body.usesRigidBodyPhysics = true
      · rw [if_pos rigid, Option.some.injEq] at moved
        exact moved ▸ ownership
      · rw [if_neg rigid] at moved
        have free' : manager.FreeFor id target := by
          rcases free with ⟨body', found', rigid'⟩ | free
          · rw [found, Option.some.injEq] at found'
            subst found'
            exact absurd rigid' rigid
          · exact free
        by_cases foreign : manager.organismAt source ≠ id
        · rw [if_pos foreign] at moved
          exact absurd moved nofun
        · rw [if_neg foreign, Option.some.injEq] at moved
          have mine : manager.organismAt source = id := not_not.mp foreign
          subst moved
          have live : (manager.organisms.lookup id).isSome :=
            Option.isSome_iff_exists.mpr ⟨body, found⟩
          have holds := holds_transferCell live source target
          refine ownership.of_each
            (fun _ => setOrganismAt_inBounds.trans setOrganismAt_inBounds) ?_
            ownership.counter ?_
          · intro other live'
            exact ownership.handedOut other
              ((isSome_lookup_transferCell id source target other).symm.trans live')
          · intro cell
            have written := organismAt_setOrganismAt_twice inside inside' cell
              invalidOrganismId id
            by_cases there : cell = target
            · subst there
              rw [if_pos rfl] at written
              refine Or.inr ⟨inside', id, written, fun other _ => (holds other cell).trans ?_⟩
              refine ⟨?_, fun same => Or.inl ⟨same, rfl⟩⟩
              rintro (⟨same, _⟩ | ⟨owned, _⟩)
              · exact same
              · by_contra apart
                exact ownership.not_owns_of_free free' apart owned
            · rw [if_neg there] at written
              by_cases here : cell = source
              · subst here
                rw [if_pos rfl] at written
                refine Or.inr ⟨inside, invalidOrganismId, written,
                  fun other valid => (holds other cell).trans ?_⟩
                refine ⟨?_, fun same => absurd same valid⟩
                rintro (⟨_, same⟩ | ⟨owned, other'⟩)
                · exact absurd same there
                · have apart : other ≠ id := fun same => other' ⟨same, rfl⟩
                  exact absurd owned (ownership.not_owns_of_free (Or.inr mine) apart)
              · rw [if_neg here] at written
                refine Or.inl ⟨written, fun other _ => (holds other cell).trans ?_⟩
                simp only [there, and_false, false_or, here, not_false_eq_true, and_true]
                exact Iff.rfl

section

variable [Coordinate F]
  (tracked : (if key = invalidOrganismId then some organisms else if (organisms.lookup key).isNone then none else some (transferCell organisms key source target)) = some changed)
include tracked

theorem swapSide_cases :
    (key = invalidOrganismId ∧ changed = organisms) ∨
      ((organisms.lookup key).isSome ∧ changed = transferCell organisms key source target) := by
  by_cases nobody : key = invalidOrganismId
  · rw [if_pos nobody, Option.some.injEq] at tracked
    exact Or.inl ⟨nobody, tracked.symm⟩
  · rw [if_neg nobody] at tracked
    by_cases absent : (organisms.lookup key).isNone
    · rw [if_pos absent] at tracked
      exact absurd tracked nofun
    · rw [if_neg absent, Option.some.injEq] at tracked
      refine Or.inr ⟨?_, tracked.symm⟩
      rw [Option.isSome_iff_ne_none]
      exact fun missing => absent (Option.isNone_iff_eq_none.mpr missing)

theorem holds_swapSide (valid : id ≠ invalidOrganismId) (pos : Vector2i) :
    Holds changed id pos ↔
      (id = key ∧ pos = target) ∨ (Holds organisms id pos ∧ ¬ (id = key ∧ pos = source)) := by
  rcases swapSide_cases tracked with ⟨nobody, rfl⟩ | ⟨live, rfl⟩
  · have apart : id ≠ key := fun same => valid (same.trans nobody)
    simp [apart]
  · exact holds_transferCell live source target id pos

theorem isSome_lookup_swapSide (id : OrganismId) :
    (changed.lookup id).isSome = (organisms.lookup id).isSome := by
  rcases swapSide_cases tracked with ⟨_, rfl⟩ | ⟨_, rfl⟩
  · rfl
  · exact isSome_lookup_transferCell key source target id

end

theorem Ownership.swapOrganisms [Coordinate F] (ownership : manager.Ownership)
    {pos1 pos2 : Vector2i} (inside1 : manager.inBounds pos1) (inside2 : manager.inBounds pos2)
    (swapped : manager.swapOrganisms pos1 pos2 = some after) : after.Ownership := by
  unfold OrganismManager.swapOrganisms at swapped
  by_cases one : manager.organismAt pos1 = manager.organismAt pos2 ∧
      manager.organismAt pos1 ≠ invalidOrganismId
  · simp only [if_pos one] at swapped
    exact absurd swapped nofun
  · simp only [if_neg one, Option.bind_eq_bind, Option.bind_eq_some_iff, Option.pure_def,
      Option.some.injEq] at swapped
    obtain ⟨first, tracked, second, tracked', rfl⟩ := swapped
    -- Who holds a cell afterwards, in terms of who held it before.
    have holds : ∀ id ≠ invalidOrganismId, ∀ cell, Holds second id cell ↔
        (id = manager.organismAt pos2 ∧ cell = pos1) ∨
          (((id = manager.organismAt pos1 ∧ cell = pos2) ∨
            (manager.Owns id cell ∧ ¬ (id = manager.organismAt pos1 ∧ cell = pos1))) ∧
              ¬ (id = manager.organismAt pos2 ∧ cell = pos2)) := by
      intro id valid cell
      rw [holds_swapSide tracked' valid, holds_swapSide tracked valid]
      rfl
    have owner : ∀ {id cell}, id ≠ invalidOrganismId →
        (manager.Owns id cell ↔ manager.organismAt cell = id) := by
      intro id cell valid
      refine ⟨ownership.organismAt_of_owns, ?_⟩
      rintro rfl
      exact ownership.owns_organismAt valid
    refine ownership.of_each
      (fun _ => setOrganismAt_inBounds.trans setOrganismAt_inBounds) ?_ ownership.counter ?_
    · intro id live
      exact ownership.handedOut id
        (((isSome_lookup_swapSide tracked' id).trans
          (isSome_lookup_swapSide tracked id)).symm.trans live)
    · intro cell
      have written := organismAt_setOrganismAt_twice inside1 inside2 cell
        (manager.organismAt pos2) (manager.organismAt pos1)
      by_cases there : cell = pos2
      · subst there
        rw [if_pos rfl] at written
        refine Or.inr ⟨inside2, manager.organismAt pos1, written, fun id valid => ?_⟩
        refine (holds id valid cell).trans ?_
        rw [owner valid]
        grind
      · rw [if_neg there] at written
        by_cases here : cell = pos1
        · subst here
          rw [if_pos rfl] at written
          refine Or.inr ⟨inside1, manager.organismAt pos2, written, fun id valid => ?_⟩
          refine (holds id valid cell).trans ?_
          rw [owner valid]
          grind
        · rw [if_neg here] at written
          refine Or.inl ⟨written, fun id valid => (holds id valid cell).trans ?_⟩
          simp [here, there]

theorem Ownership.removeOrganism (ownership : manager.Ownership) (id : OrganismId) :
    (manager.removeOrganism id).Ownership := by
  unfold OrganismManager.removeOrganism
  cases found : manager.getOrganism id with
  | none => exact ownership
  | some body =>
      have holds : ∀ other cell, Holds (manager.organisms.erase id) other cell ↔
          other ≠ id ∧ manager.Owns other cell :=
        fun other cell => holds_erase id other cell
      refine ownership.of_each (fun _ => Iff.rfl) ?_ ownership.counter ?_
      · intro other live
        refine ownership.handedOut other ?_
        unfold getOrganism at live ⊢
        rw [Dict.lookup_erase] at live
        by_cases same : other = id
        · rw [if_pos same] at live
          exact absurd live nofun
        · rw [if_neg same] at live
          exact live
      · intro cell
        by_cases mine : cell ∈ body.cells
        · have inside := ownership.inside id cell ⟨body, found, mine⟩
          have written : OrganismManager.organismAt
              { manager with
                grid := writeCells manager.grid body.cells invalidOrganismId
                organisms := manager.organisms.erase id
                organismGenomeIds := manager.organismGenomeIds.erase id } cell =
              invalidOrganismId := by
            unfold organismAt
            rw [get?_writeCells _ _ inside, if_pos mine]
            rfl
          refine Or.inr ⟨inside, invalidOrganismId, written, fun other valid => ?_⟩
          refine (holds other cell).trans ⟨?_, fun same => absurd same valid⟩
          rintro ⟨apart, owned⟩
          exact absurd ((ownership.organismAt_of_owns owned).symm.trans
            (ownership.organismAt_of_owns ⟨body, found, mine⟩)) apart
        · refine Or.inl ⟨?_, fun other _ => (holds other cell).trans ?_⟩
          · by_cases inside : manager.inBounds cell
            · unfold organismAt
              rw [get?_writeCells _ _ inside, if_neg mine]
            · rw [organismAt_of_not_inBounds inside]
              exact organismAt_of_not_inBounds inside
          · refine and_iff_right_of_imp ?_
            rintro ⟨body', found', member⟩ rfl
            have same : some body' = some body := found'.symm.trans found
            cases same
            exact mine member

theorem Ownership.removeOrganismFromWorld (ownership : manager.Ownership) (id : OrganismId) :
    (manager.removeOrganismFromWorld id).Ownership := by
  unfold OrganismManager.removeOrganismFromWorld
  cases manager.getOrganism id with
  | none => exact ownership
  | some body => exact ownership.removeOrganism id

theorem Ownership.clear (ownership : manager.Ownership) : manager.clear.Ownership where
  agrees := by
    intro pos inside id valid
    have inside' : manager.grid.InBounds pos.x pos.y := inside
    obtain ⟨owner, read⟩ := Option.isSome_iff_exists.mp (Grid.get?_isSome_iff.mpr inside')
    have nobody : manager.clear.organismAt pos = invalidOrganismId := by
      unfold organismAt OrganismManager.clear
      rw [Grid.get?_mapCells, read]
      rfl
    rw [nobody]
    refine ⟨fun same => absurd same.symm valid, ?_⟩
    rintro ⟨body, found, _⟩
    exact absurd found nofun
  inside := by
    rintro id pos ⟨body, found, _⟩
    exact absurd found nofun
  handedOut := by
    intro id live
    exact absurd live nofun
  counter := ownership.counter

theorem Ownership.setPosition (ownership : manager.Ownership) (id : OrganismId)
    (position : F × F) : (manager.setPosition id position).Ownership := by
  have holds : ∀ other cell, (manager.setPosition id position).Owns other cell ↔
      manager.Owns other cell := by
    intro other cell
    refine (holds_modify id _ other cell).trans ?_
    by_cases same : other = id
    · subst same
      simp only [↓reduceIte]
      exact Iff.rfl
    · simp only [same, ↓reduceIte]
      exact Iff.rfl
  refine ownership.of_each (fun _ => Iff.rfl) ?_ ownership.counter
    fun cell => Or.inl ⟨rfl, fun other _ => holds other cell⟩
  intro other live
  exact ownership.handedOut other ((isSome_lookup_modify id _ other).symm.trans live)

theorem Ownership.resizeGrid [Coordinate F] (ownership : manager.Ownership)
    {newWidth newHeight : ℕ}
    (apart : (manager.grid.width = newWidth ∧ manager.grid.height = newHeight) ∨
      manager.LandsApart newWidth newHeight) :
    (manager.resizeGrid newWidth newHeight).Ownership := by
  unfold OrganismManager.resizeGrid
  by_cases same : manager.grid.width = newWidth ∧ manager.grid.height = newHeight
  · rw [if_pos same]
    exact ownership
  · rw [if_neg same]
    have landsApart := apart.resolve_left same
    clear apart
    set organisms : Dict OrganismId (Body F) := manager.organisms.mapValues fun _ body =>
      body.resized manager.grid.width manager.grid.height newWidth newHeight with carried
    have holds : ∀ id pos, Holds organisms id pos ↔ ∃ body, manager.getOrganism id = some body ∧
        pos ∈ body.resizedCells manager.grid.width manager.grid.height newWidth newHeight := by
      intro id pos
      unfold Holds
      rw [carried, Dict.lookup_mapValues]
      simp only [Option.map_eq_some_iff, exists_exists_and_eq_and]
      exact Iff.rfl
    have region : ∀ id pos, Holds organisms id pos →
        0 ≤ pos.x ∧ 0 ≤ pos.y ∧ pos.x < newWidth ∧ pos.y < newHeight := by
      intro id pos held
      obtain ⟨body, _, member⟩ := (holds id pos).mp held
      unfold Body.resizedCells at member
      exact (Finset.mem_filter.mp member).2
    have unique : ∀ first second pos, Holds organisms first pos → Holds organisms second pos →
        first = second := by
      intro first second pos held held'
      obtain ⟨body, found, member⟩ := (holds first pos).mp held
      obtain ⟨body', found', member'⟩ := (holds second pos).mp held'
      by_contra different
      exact Finset.disjoint_left.mp
        (landsApart first second body body' found found' different) member member'
    have entry : ∀ entry ∈ organisms.entries, ∀ pos ∈ entry.2.cells,
        Holds organisms entry.1 pos :=
      fun entry member pos written =>
        ⟨entry.2, AList.mem_lookup_iff.mpr member, written⟩
    refine ⟨?_, ?_, ?_, ownership.counter⟩
    · intro pos inside id valid
      have fresh := (foldl_writeCells_inBounds organisms.entries).mp inside
      unfold organismAt Owns
      by_cases touched : ∃ entry ∈ organisms.entries, pos ∈ entry.2.cells
      · obtain ⟨owner, member, written⟩ := touched
        have held := entry owner member pos written
        rw [get?_foldl_writeCells_of_mem organisms.entries fresh
          (fun other member' written' =>
            unique other.1 owner.1 pos (entry other member' pos written') held)
          ⟨owner, member, written⟩, Option.getD_some]
        constructor
        · rintro rfl
          exact held
        · exact fun held' => unique owner.1 id pos held held'
      · have untouched : ∀ entry ∈ organisms.entries, pos ∉ entry.2.cells :=
          fun entry member written => touched ⟨entry, member, written⟩
        have blank : (Grid.generate newWidth newHeight
            fun _ _ => invalidOrganismId).get? pos.x pos.y = some invalidOrganismId := by
          rw [Grid.get?_generate]
          exact if_pos fresh
        rw [get?_foldl_writeCells_of_notMem organisms.entries fresh untouched, blank,
          Option.getD_some]
        refine ⟨fun same => absurd same.symm valid, ?_⟩
        rintro ⟨body, found, written⟩
        exact absurd written (untouched ⟨id, body⟩ (AList.mem_lookup_iff.mp found))
    · intro id pos held
      exact (foldl_writeCells_inBounds organisms.entries).mpr (region id pos held)
    · intro id live
      refine ownership.handedOut id ?_
      unfold getOrganism at live ⊢
      rw [carried, Dict.lookup_mapValues, Option.isSome_map] at live
      exact live

end

section

variable {manager reordered after : OrganismManager F}
variable {op : Op F}

theorem Reordered.eq_views (same : manager.Reordered reordered) :
    reordered.getOrganism = manager.getOrganism ∧ reordered.grid = manager.grid ∧
      reordered.nextId = manager.nextId := by
  obtain ⟨organisms, entries, rfl⟩ := same
  exact ⟨funext fun id => (entries.lookup id).symm, rfl, rfl⟩

theorem Reordered.ownership (same : manager.Reordered reordered)
    (ownership : manager.Ownership) : reordered.Ownership := by
  obtain ⟨organisms, entries, rfl⟩ := same
  have holds : ∀ id pos, Holds organisms id pos ↔ manager.Owns id pos := by
    intro id pos
    unfold Owns Holds
    rw [entries.lookup id]
  refine ⟨fun pos inside id valid => ?_, fun id pos held => ?_, fun id live => ?_,
    ownership.counter⟩
  · exact (ownership.agrees pos inside id valid).trans (holds id pos).symm
  · exact ownership.inside id pos ((holds id pos).mp held)
  · refine ownership.handedOut id ?_
    unfold getOrganism at live ⊢
    rw [entries.lookup id]
    exact live

theorem Reordered.called (same : manager.Reordered reordered) (called : op.Called manager) :
    op.Called reordered := by
  obtain ⟨organisms, grid, _⟩ := same.eq_views
  cases op <;> simp only [Op.Called, inBounds, organisms, grid] at called ⊢ <;> exact called

theorem Reordered.takesNoOwnedCell [Coordinate F] (same : manager.Reordered reordered)
    (free : op.TakesNoOwnedCell manager) : op.TakesNoOwnedCell reordered := by
  obtain ⟨organisms, grid, _⟩ := same.eq_views
  cases op <;>
    simp only [Op.TakesNoOwnedCell, FreeFor, organismAt, LandsApart, organisms, grid] at free ⊢ <;>
    exact free

theorem ownership_empty : ({} : OrganismManager F).Ownership where
  agrees := by
    intro pos inside
    obtain ⟨left, _, right, _⟩ := inside
    exact absurd (lt_of_le_of_lt left right) (lt_irrefl 0)
  inside := by
    rintro id pos ⟨body, found, _⟩
    exact absurd found nofun
  handedOut := by
    intro id live
    exact absurd live nofun
  counter := Int.one_pos

theorem Ownership.apply [Coordinate F] (ownership : manager.Ownership) (called : op.Called manager)
    (free : op.TakesNoOwnedCell manager) (applied : op.apply manager = some after) :
    after.Ownership := by
  cases op with
  | resizeGrid newWidth newHeight =>
      cases applied
      exact ownership.resizeGrid free
  | createTree pos =>
      cases applied
      exact ownership.createTree called free
  | createDuck pos => exact ownership.createDuck called applied
  | addCellToOrganism id pos => exact ownership.addCellToOrganism called.2 free applied
  | removeCellsFromOrganism id positions =>
      cases applied
      exact ownership.removeCellsFromOrganism called.2 free
  | swapOrganisms pos1 pos2 => exact ownership.swapOrganisms called.1 called.2 applied
  | moveOrganismCell source target id =>
      exact ownership.moveOrganismCell called.2.1 called.2.2 free applied
  | removeOrganismFromWorld id =>
      cases applied
      exact ownership.removeOrganismFromWorld id
  | clear =>
      cases applied
      exact ownership.clear
  | setPosition id position =>
      cases applied
      exact ownership.setPosition id position

theorem Ownership.step [Coordinate F] (ownership : manager.Ownership)
    (moved : (machine F).step manager op after) (free : op.TakesNoOwnedCell manager) :
    after.Ownership := by
  obtain ⟨called, reordered, same, applied⟩ := moved
  exact (same.ownership ownership).apply (same.called called) (same.takesNoOwnedCell free) applied

/-- The two records describe one partition of the grid. -/
def Partitioned (manager : OrganismManager F) : Prop :=
  (∀ pos, manager.inBounds pos → ∀ id ≠ invalidOrganismId,
    (manager.organismAt pos = id ↔ manager.Owns id pos)) ∧
  (∀ first second body body', manager.getOrganism first = some body →
    manager.getOrganism second = some body' → first ≠ second →
      Disjoint body.cells body'.cells) ∧
  (∀ pos, manager.organismAt pos ≠ invalidOrganismId →
    (manager.getOrganism (manager.organismAt pos)).isSome)

theorem Ownership.partitioned (ownership : manager.Ownership) : manager.Partitioned :=
  ⟨ownership.agrees, fun _ _ _ _ found found' apart => ownership.cells_disjoint found found' apart,
    fun _ owned => ownership.live_organismAt owned⟩

/-- **Ownership is a partition** in every state reached by calls that take no cell owned by
another organism. -/
theorem partitioned_of_reachable [Coordinate F]
    (reached : ((machine F).guarded fun before op => op.TakesNoOwnedCell before).Reachable
      manager) : manager.Partitioned := by
  refine Ownership.partitioned (reached.invariant ?_ ?_)
  · rintro state rfl
    exact ownership_empty
  · rintro before op after ownership ⟨moved, free⟩
    exact ownership.step moved free

theorem createDuck_of_free [Coordinate F] {pos : Vector2i}
    (free : manager.organismAt pos = invalidOrganismId) :
    manager.createDuck pos = some
      { { manager with nextId := manager.nextId + 1 }.setOrganismAt pos manager.nextId with
        organisms := manager.organisms.emplace manager.nextId (Body.spawn .duck pos) } :=
  if_neg (not_not.mpr free)

theorem step_of_apply [Coordinate F] (called : op.Called manager)
    (applied : op.apply manager = some after) : (machine F).step manager op after :=
  ⟨called, manager, ⟨manager.organisms, List.Perm.refl _, rfl⟩, applied⟩

/-- A world two cells wide with a duck in each cell, by the calls that build it. -/
def twoDucks : List (Op ℚ) :=
  [.resizeGrid 2 1, .createDuck ⟨0, 0⟩, .createDuck ⟨1, 0⟩]

/-- The run of `twoDucks` takes no owned cell; the ducks of its last state land on one cell when
the world shrinks to that cell. -/
theorem exists_twoDucks : ∃ manager : OrganismManager ℚ,
    ((machine ℚ).guarded fun before op => op.TakesNoOwnedCell before).Run {} twoDucks manager ∧
      ∃ body body', (manager.resizeGrid 1 1).getOrganism 1 = some body ∧
        (manager.resizeGrid 1 1).getOrganism 2 = some body' ∧
          ¬ Disjoint body.cells body'.cells := by
  refine ⟨_, .cons ⟨step_of_apply trivial rfl, ?_⟩
    (.cons ⟨step_of_apply ?_ (createDuck_of_free ?_), trivial⟩
      (.cons ⟨step_of_apply ?_ (createDuck_of_free ?_), trivial⟩ (.nil _))),
    _, _, rfl, rfl, ?_⟩
  · refine Or.inr fun _ _ _ _ found => ?_
    exact absurd found nofun
  all_goals decide +kernel

theorem partitioned_twoDucks : ∃ manager : OrganismManager ℚ,
    ((machine ℚ).guarded fun before op => op.TakesNoOwnedCell before).Run {} twoDucks manager ∧
      manager.Partitioned := by
  obtain ⟨manager, run, _⟩ := exists_twoDucks
  exact ⟨manager, run, partitioned_of_reachable ⟨{}, twoDucks, rfl, run⟩⟩

/-- Shrinking that world to one cell moves both ducks to the same cell. -/
theorem not_partitioned_of_shrink :
    ¬ ∀ manager : OrganismManager ℚ, (machine ℚ).Reachable manager → manager.Partitioned := by
  intro all
  obtain ⟨manager, run, body, body', found, found', shared⟩ := exists_twoDucks
  have shrink : (machine ℚ).step manager (.resizeGrid 1 1) (manager.resizeGrid 1 1) :=
    step_of_apply trivial rfl
  have shrunk : (machine ℚ).Reachable (manager.resizeGrid 1 1) :=
    Machine.Reachable.step ⟨{}, twoDucks, rfl, run.of_guarded⟩ shrink
  exact shared ((all _ shrunk).2.1 1 2 body body' found found' (by decide))

end

end OrganismManager

end DirtSim
