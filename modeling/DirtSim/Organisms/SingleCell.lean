import DirtSim.Foundation.Occupancy
import DirtSim.Organisms.Ownership

/-! # Organisms of one cell

An organism with cell physics owns one cell and goes where the matter in it goes. Both operations
keep it on exactly its anchor (`swapOrganisms_spec`, `moveOrganismCell_spec`).
-/

namespace DirtSim

open Foundation

namespace OrganismManager

variable {F : Type} [Coordinate F]

open Organism

/-- A live organism whose cell moves as matter does. -/
def CellPhysics (manager : OrganismManager F) (id : OrganismId) (body : Body F) : Prop :=
  manager.getOrganism id = some body ∧ body.usesRigidBodyPhysics = false

/-- The organism owns one cell, its anchor. -/
structure OwnsAnchor (manager : OrganismManager F) (id : OrganismId) (body : Body F) : Prop where
  cells : body.cells = {body.getAnchorCell}
  grid : Occupies manager.organismAt id [body.getAnchorCell]

def NamesLive (manager : OrganismManager F) : Prop :=
  ∀ pos, manager.organismAt pos ≠ invalidOrganismId →
    (manager.getOrganism (manager.organismAt pos)).isSome

def transferred (source target : Vector2i) (body : Body F) : Body F :=
  { body with cells := insert target (body.cells.erase source) }.onCellTransfer source target

section

theorem transferred_rigid (source target : Vector2i) (body : Body F) :
    (transferred source target body).usesRigidBodyPhysics = body.usesRigidBodyPhysics := by
  unfold transferred Body.onCellTransfer
  split <;> rfl

theorem transferred_single {source : Vector2i} (target : Vector2i) {body : Body F}
    (cellPhysics : body.usesRigidBodyPhysics = false) (anchor : body.getAnchorCell = source)
    (cells : body.cells = {source}) :
    (transferred source target body).cells = {target} ∧
      (transferred source target body).getAnchorCell = target := by
  obtain ⟨type, _, position, anchorCell, centerOfMass⟩ := body
  cases type with
  | goose => cases cellPhysics
  | tree => cases cellPhysics
  | duck =>
      have here : source = anchorCell := anchor.symm
      subst here cells
      simp [transferred, Body.onCellTransfer, Body.getAnchorCell, Body.setAnchorCell,
        insert_empty_eq]
  | nesDuck =>
      have here : source = anchorCell := anchor.symm
      subst here cells
      simp [transferred, Body.onCellTransfer, Body.getAnchorCell, Body.setAnchorCell,
        insert_empty_eq]

theorem exists_swapSide (organisms : Dict OrganismId (Body F)) {key : OrganismId}
    (live : key ≠ invalidOrganismId → (organisms.lookup key).isSome) (source target : Vector2i) :
    ∃ changed, (if key = invalidOrganismId then some organisms
      else if (organisms.lookup key).isNone then none
      else some (transferCell organisms key source target)) = some changed ∧
      ∀ id, changed.lookup id =
        if id = key ∧ id ≠ invalidOrganismId then (organisms.lookup id).map (transferred source target)
        else organisms.lookup id := by
  by_cases nobody : key = invalidOrganismId
  · refine ⟨organisms, if_pos nobody, fun id => ?_⟩
    rw [if_neg fun both => both.2 (both.1.trans nobody)]
  · have present : ¬ (organisms.lookup key).isNone := by
      rw [Option.isNone_iff_eq_none]
      exact Option.isSome_iff_ne_none.mp (live nobody)
    refine ⟨_, by rw [if_neg nobody, if_neg present], fun id => ?_⟩
    rw [transferCell, Dict.lookup_modify]
    by_cases same : id = key
    · subst same
      rw [if_pos rfl, if_pos ⟨rfl, nobody⟩]
      rfl
    · rw [if_neg same, if_neg fun both => same both.1]

theorem side_back {before after : Dict OrganismId (Body F)} {id : OrganismId} {moved : Prop}
    [Decidable moved] {source target : Vector2i} {body' : Body F}
    (side : after.lookup id =
      if moved then (before.lookup id).map (transferred source target) else before.lookup id)
    (found : after.lookup id = some body') :
    ∃ body, before.lookup id = some body ∧
      body'.usesRigidBodyPhysics = body.usesRigidBodyPhysics := by
  rw [side] at found
  split at found
  · obtain ⟨body, found', rfl⟩ := Option.map_eq_some_iff.mp found
    exact ⟨body, found', transferred_rigid _ _ _⟩
  · exact ⟨body', found, rfl⟩

end

/-- The organisms with cell physics stay the same ones, and their anchors move. -/
structure MovesAnchors (place : Vector2i → Vector2i) (before after : OrganismManager F) : Prop where
  forth : ∀ id body, before.CellPhysics id body → ∃ body', after.CellPhysics id body' ∧
    body'.cells = {place body.getAnchorCell} ∧ body'.getAnchorCell = place body.getAnchorCell
  back : ∀ id body', after.CellPhysics id body' → ∃ body, before.CellPhysics id body
  live : ∀ id, (after.getOrganism id).isSome = (before.getOrganism id).isSome

def SameSize (before after : OrganismManager F) : Prop :=
  after.grid.width = before.grid.width ∧ after.grid.height = before.grid.height

section

variable {manager : OrganismManager F}
variable {id : OrganismId} {body : Body F}

section

omit [Coordinate F]

theorem setOrganismAt_sameSize (manager : OrganismManager F) (pos : Vector2i) (id : OrganismId) :
    SameSize manager (manager.setOrganismAt pos id) :=
  ⟨Grid.set_width .., Grid.set_height ..⟩

theorem SameSize.trans {first second third : OrganismManager F} (front : SameSize first second)
    (back : SameSize second third) : SameSize first third :=
  ⟨back.1.trans front.1, back.2.trans front.2⟩

end

theorem OwnsAnchor.valid (owns : manager.OwnsAnchor id body) : id ≠ invalidOrganismId := by
  intro nobody
  have outside (x : ℤ) (left : x < 0) : (⟨x, 0⟩ : Vector2i) = body.getAnchorCell := by
    have free : manager.organismAt ⟨x, 0⟩ = id := by
      rw [nobody]
      exact organismAt_of_not_inBounds fun inside => absurd inside.1 (not_le.mpr left)
    exact List.mem_singleton.mp ((owns.grid _).mp free)
  have same := (outside (-1) (by decide)).trans (outside (-2) (by decide)).symm
  exact absurd same (by decide)

theorem OwnsAnchor.at_anchor (owns : manager.OwnsAnchor id body) :
    manager.organismAt body.getAnchorCell = id :=
  (owns.grid _).mpr List.mem_cons_self

theorem OwnsAnchor.anchor_eq (owns : manager.OwnsAnchor id body) {pos : Vector2i}
    (owned : manager.organismAt pos = id) : body.getAnchorCell = pos :=
  (List.mem_singleton.mp ((owns.grid pos).mp owned)).symm

/-- **An exchange of two cells' owners.** It succeeds unless one organism owns both, and every
organism of one cell goes where its cell goes. -/
theorem swapOrganisms_spec (live : manager.NamesLive)
    (single : ∀ id body, manager.CellPhysics id body → manager.OwnsAnchor id body)
    {first second : Vector2i} (inside : manager.inBounds first) (inside' : manager.inBounds second)
    (apart : manager.organismAt first = manager.organismAt second →
      manager.organismAt first = invalidOrganismId) :
    ∃ after, manager.swapOrganisms first second = some after ∧ SameSize manager after ∧
      Exchanged manager.organismAt after.organismAt first second ∧
      MovesAnchors (Equiv.swap first second) manager after := by
  obtain ⟨middle, tracked, once⟩ := exists_swapSide manager.organisms (live first)
    first second
  have alive : ∀ id, (middle.lookup id).isSome = (manager.organisms.lookup id).isSome := by
    intro id
    rw [once id]
    split
    · exact Option.isSome_map
    · rfl
  obtain ⟨final, tracked', twice⟩ := exists_swapSide middle
    (fun valid => (alive _).trans (live second valid)) second first
  refine ⟨{ (manager.setOrganismAt first (manager.organismAt second)).setOrganismAt second
      (manager.organismAt first) with organisms := final }, ?_, ?_, ?_, ?_⟩
  · have allowed : ¬ (manager.organismAt first = manager.organismAt second ∧
        manager.organismAt first ≠ invalidOrganismId) := fun both => both.2 (apart both.1)
    simp only [swapOrganisms, if_neg allowed, Option.bind_eq_bind, Option.pure_def]
    refine Option.bind_eq_some_iff.mpr ⟨middle, tracked, ?_⟩
    exact Option.bind_eq_some_iff.mpr ⟨final, tracked', rfl⟩
  · exact (setOrganismAt_sameSize _ _ _).trans (setOrganismAt_sameSize _ _ _)
  · intro pos
    refine (organismAt_setOrganismAt_twice inside inside' pos _ _).trans ?_
    rw [Equiv.swap_apply_def]
    by_cases there : pos = second
    · rw [if_pos there, there]
      split
      case isTrue same => rw [same]
      case isFalse other => rw [if_pos rfl]
    · rw [if_neg there, if_neg there]
      split <;> rfl
  · refine ⟨fun id body cellPhysics => ?_, fun id body' cellPhysics => ?_, fun id => ?_⟩
    · have owns := single id body cellPhysics
      have here : manager.organisms.lookup id = some body := cellPhysics.1
      have step := once id
      have step' := twice id
      rw [here] at step
      by_cases one : id = manager.organismAt first
      · have anchor := owns.anchor_eq one.symm
        have notTwo : id ≠ manager.organismAt second := fun two =>
          owns.valid (one.trans (apart (one.symm.trans two)))
        rw [if_pos ⟨one, owns.valid⟩, Option.map_some] at step
        rw [if_neg fun both => notTwo both.1, step] at step'
        have cells := owns.cells
        rw [anchor] at cells ⊢
        rw [Equiv.swap_apply_left]
        exact ⟨_, ⟨step', (transferred_rigid _ _ _).trans cellPhysics.2⟩,
          transferred_single second cellPhysics.2 anchor cells⟩
      · rw [if_neg fun both => one both.1] at step
        rw [step] at step'
        by_cases two : id = manager.organismAt second
        · have anchor := owns.anchor_eq two.symm
          rw [if_pos ⟨two, owns.valid⟩, Option.map_some] at step'
          have cells := owns.cells
          rw [anchor] at cells ⊢
          rw [Equiv.swap_apply_right]
          exact ⟨_, ⟨step', (transferred_rigid _ _ _).trans cellPhysics.2⟩,
            transferred_single first cellPhysics.2 anchor cells⟩
        · rw [if_neg fun both => two both.1] at step'
          have elsewhere : body.getAnchorCell ≠ first ∧ body.getAnchorCell ≠ second :=
            ⟨fun same => one (same ▸ owns.at_anchor).symm,
              fun same => two (same ▸ owns.at_anchor).symm⟩
          rw [Equiv.swap_apply_of_ne_of_ne elsewhere.1 elsewhere.2]
          exact ⟨body, ⟨step', cellPhysics.2⟩, owns.cells, rfl⟩
    · obtain ⟨middleBody, found, rigid⟩ := side_back (twice id) cellPhysics.1
      obtain ⟨body, found', rigid'⟩ := side_back (once id) found
      exact ⟨body, found', (rigid'.symm.trans rigid.symm).trans cellPhysics.2⟩
    · change (final.lookup id).isSome = (manager.organisms.lookup id).isSome
      rw [twice id]
      split
      · rw [Option.isSome_map, alive id]
      · exact alive id

/-- **A cell that moves.** The organism gives up its cell and takes the target, whoever owned
that. -/
theorem moveOrganismCell_spec
    (single : ∀ id body, manager.CellPhysics id body → manager.OwnsAnchor id body)
    (cellPhysics : manager.CellPhysics id body) {source : Vector2i}
    (anchor : body.getAnchorCell = source) (target : Vector2i) (inside : manager.inBounds source)
    (inside' : manager.inBounds target) :
    ∃ after, manager.moveOrganismCell source target id = some after ∧ SameSize manager after ∧
      Relocated manager.organismAt after.organismAt invalidOrganismId id [source] [target] ∧
      MovesAnchors (fun pos => if pos = source then target else pos) manager after ∧
      ∀ other ≠ id, after.getOrganism other = manager.getOrganism other := by
  have owns := single id body cellPhysics
  have mine : manager.organismAt source = id := anchor ▸ owns.at_anchor
  have lookup : ∀ other, (transferCell manager.organisms id source target).lookup other =
      if other = id then some (transferred source target body)
      else manager.organisms.lookup other := by
    intro other
    refine (Dict.lookup_modify id other _ manager.organisms).trans ?_
    rw [show manager.organisms.lookup id = some body from cellPhysics.1]
    rfl
  refine ⟨{ (manager.clearOrganismAt source).setOrganismAt target id with
      organisms := transferCell manager.organisms id source target }, ?_, ?_, ?_, ?_, ?_⟩
  · have moves : ¬ body.usesRigidBodyPhysics = true := by
      rw [cellPhysics.2]
      exact Bool.false_ne_true
    simp [moveOrganismCell, cellPhysics.1, if_neg moves, if_neg (not_not.mpr mine)]
  · exact (setOrganismAt_sameSize _ _ _).trans (setOrganismAt_sameSize _ _ _)
  · intro pos
    refine (organismAt_setOrganismAt_twice inside inside' pos _ _).trans ?_
    simp
  · refine ⟨fun other found present => ?_, fun other found present => ?_, fun other => ?_⟩
    · by_cases same : other = id
      · subst same
        have found_eq : found = body := Option.some.inj (present.1.symm.trans cellPhysics.1)
        have cells := owns.cells
        rw [anchor] at cells
        rw [found_eq, anchor, if_pos rfl]
        exact ⟨_, ⟨(lookup other).trans (if_pos rfl),
          (transferred_rigid _ _ _).trans cellPhysics.2⟩,
          transferred_single target cellPhysics.2 anchor cells⟩
      · have elsewhere : found.getAnchorCell ≠ source := by
          intro here
          exact same ((single other found present).at_anchor.symm.trans (here ▸ mine))
        rw [if_neg elsewhere]
        exact ⟨found, ⟨(lookup other).trans ((if_neg same).trans present.1), present.2⟩,
          (single other found present).cells, rfl⟩
    · by_cases same : other = id
      · exact ⟨body, same ▸ cellPhysics⟩
      · exact ⟨found, (lookup other).symm.trans present.1 |> (if_neg same).symm.trans, present.2⟩
    · change ((transferCell manager.organisms id source target).lookup other).isSome = _
      rw [lookup other]
      split
      case isTrue same =>
          rw [same, cellPhysics.1]
          rfl
      case isFalse apart => rfl
  · exact fun other apart => (lookup other).trans (if_neg apart)

end

section

omit [Coordinate F]

variable {manager : OrganismManager F}

theorem occupies_of_coordinates {id : OrganismId} {place : Vector2i} (valid : id ≠ invalidOrganismId)
    (inside : manager.inBounds place)
    (checked : ∀ cell ∈ Grid.coordinates manager.grid.width manager.grid.height,
      (manager.organismAt ⟨cell.1, cell.2⟩ = id ↔ (⟨cell.1, cell.2⟩ : Vector2i) = place)) :
    Occupies manager.organismAt id [place] := by
  intro pos
  rw [List.mem_singleton]
  by_cases within : manager.inBounds pos
  · exact checked (pos.x, pos.y) (Grid.mem_coordinates.mpr within)
  · rw [organismAt_of_not_inBounds within]
    refine iff_of_false valid.symm fun same => within ?_
    rwa [same]

theorem namesLive_of_coordinates
    (checked : ∀ cell ∈ Grid.coordinates manager.grid.width manager.grid.height,
      manager.organismAt ⟨cell.1, cell.2⟩ ≠ invalidOrganismId →
        (manager.getOrganism (manager.organismAt ⟨cell.1, cell.2⟩)).isSome) :
    manager.NamesLive := by
  intro pos owned
  by_cases within : manager.inBounds pos
  · exact checked (pos.x, pos.y) (Grid.mem_coordinates.mpr within) owned
  · exact absurd (organismAt_of_not_inBounds within) owned

end

end OrganismManager

end DirtSim
