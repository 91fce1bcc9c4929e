import DirtSim.Foundation.GraphSearch
import DirtSim.Grid.Positions
import DirtSim.Organisms.RigidBody
import Mathlib.Algebra.BigOperators.Group.Finset.Basic

/-! # Rigid structures

The connected parts of organisms, each found by a breadth-first walk from its first cell in reading
order, and moved at one velocity (`findAllStructures_isPartition`).
-/

namespace DirtSim

open Foundation

structure RigidStructure (K : Type*) where
  cells : List Vector2i
  centerOfMass : Vector2 K
  totalMass : K
  velocity : Vector2 K
  organismId : OrganismId

/-- A breadth-first walk: the cells it has taken, those in its queue, and all it has seen. -/
structure StructureWalk where
  cells : List Vector2i
  frontier : List Vector2i
  visited : Finset Vector2i

namespace WorldRigidBodyCalculator

variable {K : Type}

def directions : List Vector2i := [⟨0, -1⟩, ⟨0, 1⟩, ⟨-1, 0⟩, ⟨1, 0⟩]

variable (world : OrganismWorld K)

def scanOrder : List Vector2i := Vector2i.positions world.data.width world.data.height

section

variable (matchOrganism : OrganismId) (pos : Vector2i)

/-- A neighbour is put into the queue if it belongs to the organism and has not been visited. -/
def look (walk : StructureWalk) (dir : Vector2i) : StructureWalk :=
  let neighbor := pos + dir
  if ¬ world.InBounds neighbor then walk
  else if neighbor ∈ walk.visited then walk
  else if world.ownerAt neighbor ≠ matchOrganism then walk
  else { walk with visited := insert neighbor walk.visited, frontier := walk.frontier ++ [neighbor] }

def take (walk : StructureWalk) (rest : List Vector2i) : StructureWalk :=
  directions.foldl (look world matchOrganism pos)
    { walk with frontier := rest, cells := walk.cells ++ [pos] }

def remaining (walk : StructureWalk) : ℕ :=
  ((scanOrder world).toFinset \ walk.visited).card + walk.frontier.length

variable {world matchOrganism pos}

theorem mem_scanOrder {place : Vector2i} : place ∈ scanOrder world ↔ world.InBounds place :=
  Vector2i.mem_positions

theorem remaining_look (walk : StructureWalk) (dir : Vector2i) :
    remaining world (look world matchOrganism pos walk dir) = remaining world walk := by
  unfold look
  dsimp only
  split_ifs with inside seen foreign
  · rfl
  · rfl
  · have here : pos + dir ∈ (scanOrder world).toFinset \ walk.visited :=
      Finset.mem_sdiff.mpr ⟨List.mem_toFinset.mpr (mem_scanOrder.mpr inside), seen⟩
    have left : (scanOrder world).toFinset \ insert (pos + dir) walk.visited =
        ((scanOrder world).toFinset \ walk.visited).erase (pos + dir) := by
      rw [Finset.sdiff_insert]
    have fewer := Finset.card_erase_add_one here
    simp only [remaining, left, List.length_append, List.length_singleton]
    omega
  · rfl

theorem remaining_take {walk : StructureWalk} {rest : List Vector2i}
    (next : walk.frontier = pos :: rest) :
    remaining world (take world matchOrganism pos walk rest) < remaining world walk := by
  have kept (dirs : List Vector2i) (walk : StructureWalk) :
      remaining world (dirs.foldl (look world matchOrganism pos) walk) = remaining world walk := by
    induction dirs generalizing walk with
    | nil => rfl
    | cons dir dirs ih => rw [List.foldl_cons, ih, remaining_look]
  rw [take, kept]
  simp only [remaining, next, List.length_cons]
  omega

end

def walkOn (matchOrganism : OrganismId) (walk : StructureWalk) : List Vector2i :=
  match _next : walk.frontier with
  | [] => walk.cells
  | pos :: rest => walkOn matchOrganism (take world matchOrganism pos walk rest)
termination_by remaining world walk
decreasing_by exact remaining_take _next

section

variable [Field K] [LinearOrder K]

def calculateStructureMass (cells : List Vector2i) : K :=
  cells.foldl (fun total pos => total + (world.cellAt pos).getMass) 0

/-- The centre of the cells' own centres, which lie within half a cell of their middle. -/
def calculateStructureCOM (cells : List Vector2i) : Vector2 K :=
  let weightedSum := cells.foldl (fun sum pos =>
    sum + (⟨pos.x + (world.cellAt pos).com.x * (1 / 2),
      pos.y + (world.cellAt pos).com.y * (1 / 2)⟩ : Vector2 K).times (world.cellAt pos).getMass) 0
  let totalMass := calculateStructureMass world cells
  if totalMass > 0 then ⟨weightedSum.x / totalMass, weightedSum.y / totalMass⟩ else 0

def emptyStructure : RigidStructure K where
  cells := []
  centerOfMass := 0
  totalMass := 0
  velocity := 0
  organismId := invalidOrganismId

def findConnectedStructure (start : Vector2i) (organismId : OrganismId) : RigidStructure K :=
  if ¬ world.InBounds start then emptyStructure
  else
    let startOrg := world.ownerAt start
    if startOrg = invalidOrganismId then emptyStructure
    else if organismId ≠ invalidOrganismId ∧ startOrg ≠ organismId then emptyStructure
    else
      let matchOrganism := if organismId ≠ invalidOrganismId then organismId else startOrg
      let cells := walkOn world matchOrganism
        { cells := [], frontier := [start], visited := {start} }
      { cells := cells
        centerOfMass := calculateStructureCOM world cells
        totalMass := calculateStructureMass world cells
        velocity := match cells with
          | [] => 0
          | first :: _ => (world.cellAt first).velocity
        organismId := matchOrganism }

def scanCell (found : List (RigidStructure K) × Finset Vector2i) (pos : Vector2i) :
    List (RigidStructure K) × Finset Vector2i :=
  if pos ∈ found.2 then found
  else
    let orgId := world.ownerAt pos
    if orgId = invalidOrganismId then found
    else
      let structure_ := findConnectedStructure world pos orgId
      if structure_.cells.isEmpty then found
      else (found.1 ++ [structure_], found.2 ∪ structure_.cells.toFinset)

def findAllStructures : List (RigidStructure K) :=
  ((scanOrder world).foldl (scanCell world) ([], ∅)).1

def gatherStructureForces (cells : List Vector2i) : Vector2 K :=
  cells.foldl (fun net pos => net + (world.cellAt pos).pendingForce) 0

/-- The velocity of a structure after its forces have acted. -/
def integrated (found : RigidStructure K) (deltaTime : K) : Vector2 K :=
  let totalForce := gatherStructureForces world found.cells
  let acceleration := totalForce.times (1 / found.totalMass)
  found.velocity + acceleration.times deltaTime

def applyUnifiedVelocity (deltaTime : K) (found : RigidStructure K) :
    OrganismWorld K × RigidStructure K :=
  if found.cells.isEmpty ∨ found.totalMass < 1 / 10000 then (world, found)
  else
    let velocity := integrated world found deltaTime
    (found.cells.foldl (fun world pos =>
        world.setCell pos ((world.cellAt pos).withVelocity velocity)) world,
      { found with velocity := velocity })

end

section

/-! ## What a walk finds -/

/-- Two owned cells side by side that belong to the same organism. -/
def organismGraph : SimpleGraph Vector2i where
  Adj first second := (world.InBounds first ∧ world.InBounds second) ∧
    world.ownerAt first ≠ invalidOrganismId ∧ world.ownerAt first = world.ownerAt second ∧
    ∃ dir ∈ directions, second = first + dir
  symm := ⟨by
    rintro first second ⟨⟨inside, inside'⟩, owned, same, dir, listed, rfl⟩
    refine ⟨⟨inside', inside⟩, same ▸ owned, same.symm, ⟨-dir.x, -dir.y⟩, ?_, ?_⟩
    · simp only [directions, List.mem_cons, List.not_mem_nil, or_false] at listed
      rcases listed with rfl | rfl | rfl | rfl <;> decide
    · ext <;> simp⟩
  loopless := ⟨by
    rintro first ⟨-, -, -, dir, listed, same⟩
    have x := congrArg Vector2i.x same
    have y := congrArg Vector2i.y same
    simp only [directions, List.mem_cons, List.not_mem_nil, or_false] at listed
    rcases listed with rfl | rfl | rfl | rfl <;> simp at x y⟩

variable {world} {start : Vector2i} {walk : StructureWalk} {matchOrganism : OrganismId}

theorem ownerAt_of_reachable {first second : Vector2i}
    (reachable : (organismGraph world).Reachable first second) :
    world.ownerAt second = world.ownerAt first := by
  obtain ⟨walk⟩ := reachable
  induction walk with
  | nil => rfl
  | cons adjacent rest ih => rw [ih, ← adjacent.2.2.1]

theorem inBounds_of_reachable {first second : Vector2i}
    (reachable : (organismGraph world).Reachable first second) (inside : world.InBounds first) :
    world.InBounds second := by
  obtain ⟨walk⟩ := reachable
  induction walk with
  | nil => exact inside
  | cons adjacent rest ih => exact ih adjacent.1.2

/-- A walk between two cells: it has looked at the neighbours of those it has taken. -/
structure Walking (world : OrganismWorld K) (start : Vector2i) (walk : StructureWalk) : Prop where
  explored : ∃ parents, Explored (organismGraph world) start (walk.cells ++ walk.frontier)
    walk.cells.length parents
  visited : ∀ pos, pos ∈ walk.visited ↔ pos ∈ walk.cells ++ walk.frontier

/-- A walk at the cell it has taken last. -/
structure Looking (world : OrganismWorld K) (start : Vector2i) (front : List Vector2i)
    (pos : Vector2i) (walk : StructureWalk) (looked : List Vector2i) : Prop where
  taken : walk.cells = front ++ [pos]
  explored : ∃ parents, Explored (organismGraph world) start (walk.cells ++ walk.frontier)
    front.length parents
  visited : ∀ pos, pos ∈ walk.visited ↔ pos ∈ walk.cells ++ walk.frontier
  seen : ∀ dir ∈ looked, (organismGraph world).Adj pos (pos + dir) →
    pos + dir ∈ walk.cells ++ walk.frontier

def Owned (world : OrganismWorld K) (pos : Vector2i) : Prop :=
  world.InBounds pos ∧ world.ownerAt pos ≠ invalidOrganismId

variable {front looked : List Vector2i} {pos dir : Vector2i}

theorem Looking.reachable (looking : Looking world start front pos walk looked) :
    (organismGraph world).Reachable start pos := by
  obtain ⟨parents, explored⟩ := looking.explored
  have here : pos ∈ walk.cells ++ walk.frontier := by
    rw [looking.taken]
    simp
  obtain ⟨way, -⟩ := explored.traced pos here
  exact way.reachable

theorem Looking.look (owned : Owned world start)
    (looking : Looking world start front pos walk looked) (listed : dir ∈ directions) :
    Looking world start front pos (look world (world.ownerAt start) pos walk dir)
      (looked ++ [dir]) := by
  have owner : world.ownerAt pos = world.ownerAt start := ownerAt_of_reachable looking.reachable
  have kept (enough : (organismGraph world).Adj pos (pos + dir) →
      pos + dir ∈ walk.cells ++ walk.frontier) :
      Looking world start front pos walk (looked ++ [dir]) := by
    refine { looking with seen := fun way member => ?_ }
    rcases List.mem_append.mp member with before | last
    · exact looking.seen way before
    · exact List.mem_singleton.mp last ▸ enough
  unfold WorldRigidBodyCalculator.look
  dsimp only
  split_ifs with inside seen foreign
  · exact kept fun _ => (looking.visited _).mp seen
  · exact kept fun adjacent => absurd (adjacent.2.2.1.symm.trans owner) foreign
  · have adjacent : (organismGraph world).Adj pos (pos + dir) :=
      ⟨⟨inBounds_of_reachable looking.reachable owned.1, inside⟩, owner ▸ owned.2,
        owner.trans (not_ne_iff.mp foreign).symm, dir, listed, rfl⟩
    have here : pos ∈ walk.cells ++ walk.frontier := by
      rw [looking.taken]
      simp
    have fresh : pos + dir ∉ walk.cells ++ walk.frontier := fun there =>
      seen ((looking.visited _).mpr there)
    obtain ⟨parents, explored⟩ := looking.explored
    have enough : front.length ≤ (walk.cells ++ walk.frontier).length := by
      rw [looking.taken]
      simp only [List.length_append]
      omega
    have found := explored.find enough here adjacent fresh
    rw [List.append_assoc] at found
    refine ⟨looking.taken, ⟨_, found⟩, fun place => ?_, fun way member adjacent' => ?_⟩
    · dsimp only
      rw [Finset.mem_insert, looking.visited, ← List.append_assoc, List.mem_append (s := _ ++ _),
        List.mem_singleton]
      exact or_comm
    · dsimp only
      rw [← List.append_assoc]
      rcases List.mem_append.mp member with before | last
      · exact List.mem_append_left _ (looking.seen way before adjacent')
      · obtain rfl := List.mem_singleton.mp last
        exact List.mem_append_right _ (List.mem_singleton_self _)
  · exact kept fun adjacent => absurd adjacent.1.2 inside

theorem Looking.foldl (owned : Owned world start) (dirs : List Vector2i)
    (within : ∀ dir ∈ dirs, dir ∈ directions)
    (looking : Looking world start front pos walk looked) :
    Looking world start front pos
      (dirs.foldl (WorldRigidBodyCalculator.look world (world.ownerAt start) pos) walk)
      (looked ++ dirs) := by
  induction dirs generalizing walk looked with
  | nil =>
      rw [List.append_nil]
      exact looking
  | cons dir dirs ih =>
      have next := looking.look owned (within dir List.mem_cons_self)
      have rest := ih (fun dir later => within dir (List.mem_cons_of_mem _ later)) next
      rw [List.append_assoc] at rest
      exact rest

theorem Walking.take (owned : Owned world start) (walking : Walking world start walk)
    {rest : List Vector2i} (next : walk.frontier = pos :: rest) :
    Walking world start (take world (world.ownerAt start) pos walk rest) := by
  obtain ⟨parents, explored⟩ := walking.explored
  have same : walk.cells ++ walk.frontier = (walk.cells ++ [pos]) ++ rest := by
    rw [next, List.append_assoc, List.singleton_append]
  have looking : Looking world start walk.cells pos
      { walk with frontier := rest, cells := walk.cells ++ [pos] } [] := by
    refine ⟨rfl, ⟨parents, ?_⟩, fun place => ?_, fun dir none => absurd none List.not_mem_nil⟩
    · exact same ▸ explored
    · rw [walking.visited, same]
  have looked := looking.foldl owned directions fun dir listed => listed
  obtain ⟨parents, explored⟩ := looked.explored
  refine ⟨⟨parents, ?_⟩, looked.visited⟩
  unfold WorldRigidBodyCalculator.take
  rw [looked.taken, List.length_append, List.length_singleton]
  rw [looked.taken] at explored
  refine explored.finish (show _ = some pos by simp) fun other adjacent => ?_
  · obtain ⟨dir, listed, rfl⟩ := adjacent.2.2.2
    have there := looked.seen dir listed adjacent
    rwa [looked.taken] at there

/-- **A walk finds all that can be reached**, each cell once. -/
theorem Walking.walkOn (owned : Owned world start) (walking : Walking world start walk) :
    (walkOn world (world.ownerAt start) walk).Nodup ∧
      ∀ pos, pos ∈ walkOn world (world.ownerAt start) walk ↔
        (organismGraph world).Reachable start pos := by
  induction walk using walkOn.induct world (world.ownerAt start) with
  | case1 walk empty =>
      obtain ⟨parents, explored⟩ := walking.explored
      rw [WorldRigidBodyCalculator.walkOn, empty]
      rw [empty, List.append_nil] at explored
      refine ⟨explored.nodup, fun pos => ⟨fun here => ?_, fun reachable => ?_⟩⟩
      · obtain ⟨way, -⟩ := explored.traced pos here
        exact way.reachable
      · exact explored.mem_of_reachable (Nat.le_refl _) reachable
  | case2 walk pos rest next ih =>
      rw [WorldRigidBodyCalculator.walkOn, next]
      exact ih (walking.take owned next)

theorem Walking.begin (start : Vector2i) :
    Walking world start { cells := [], frontier := [start], visited := {start} } where
  explored := ⟨_, Explored.begin (organismGraph world) start⟩
  visited pos := by simp

end

section

/-! ## The structures of a world -/

variable [Field K] [LinearOrder K] {world} {found : RigidStructure K}

/-- A structure holds all that can be reached from one owned cell. -/
structure IsPart (world : OrganismWorld K) (found : RigidStructure K) : Prop where
  nodup : found.cells.Nodup
  reached : ∃ start, Owned world start ∧ found.organismId = world.ownerAt start ∧
    ∀ pos, pos ∈ found.cells ↔ (organismGraph world).Reachable start pos
  mass : found.totalMass = calculateStructureMass world found.cells

namespace IsPart

variable {first second pos : Vector2i}

theorem ownerAt (isPart : IsPart world found) (here : pos ∈ found.cells) :
    world.ownerAt pos = found.organismId := by
  obtain ⟨start, -, owner, members⟩ := isPart.reached
  rw [owner]
  exact ownerAt_of_reachable ((members pos).mp here)

theorem owned (isPart : IsPart world found) (here : pos ∈ found.cells) : Owned world pos := by
  obtain ⟨start, owned, -, members⟩ := isPart.reached
  have reachable := (members pos).mp here
  refine ⟨inBounds_of_reachable reachable owned.1, ?_⟩
  rw [ownerAt_of_reachable reachable]
  exact owned.2

theorem mem_iff (isPart : IsPart world found) (here : first ∈ found.cells) :
    second ∈ found.cells ↔ (organismGraph world).Reachable first second := by
  obtain ⟨start, -, -, members⟩ := isPart.reached
  have reachable := (members first).mp here
  rw [members]
  exact ⟨fun other => reachable.symm.trans other, fun other => reachable.trans other⟩

end IsPart

theorem find_isPart {start : Vector2i} (owned : Owned world start) :
    IsPart world (findConnectedStructure world start (world.ownerAt start)) ∧
      start ∈ (findConnectedStructure world start (world.ownerAt start)).cells := by
  obtain ⟨nodup, members⟩ := (Walking.begin start).walkOn owned
  rw [findConnectedStructure, if_neg (not_not.mpr owned.1), if_neg owned.2,
    if_neg fun differs => differs.2 rfl, if_pos owned.2]
  exact ⟨⟨nodup, ⟨start, owned, rfl, members⟩, rfl⟩, (members start).mpr (.refl start)⟩

/-- A scan that has looked at some of the cells. -/
structure Scanned (world : OrganismWorld K)
    (found : List (RigidStructure K) × Finset Vector2i) (scanned : List Vector2i) : Prop where
  parts : ∀ part ∈ found.1, IsPart world part
  disjoint : found.1.Pairwise fun first second => first.cells.Disjoint second.cells
  processed : ∀ pos, pos ∈ found.2 ↔ ∃ part ∈ found.1, pos ∈ part.cells
  covered : ∀ pos ∈ scanned, Owned world pos → pos ∈ found.2

section

variable {found : List (RigidStructure K) × Finset Vector2i} {scanned : List Vector2i}
  (before : Scanned world found scanned)
include before

theorem Scanned.scanCell {pos : Vector2i} (inside : world.InBounds pos) :
    Scanned world (scanCell world found pos) (scanned ++ [pos]) := by
  have kept (enough : Owned world pos → pos ∈ found.2) : Scanned world found (scanned ++ [pos]) := by
    refine { before with covered := fun place member owned => ?_ }
    rcases List.mem_append.mp member with earlier | last
    · exact before.covered place earlier owned
    · obtain rfl := List.mem_singleton.mp last
      exact enough owned
  unfold WorldRigidBodyCalculator.scanCell
  by_cases seen : pos ∈ found.2
  · rw [if_pos seen]
    exact kept fun _ => seen
  rw [if_neg seen]
  by_cases free : world.ownerAt pos = invalidOrganismId
  · rw [if_pos free]
    exact kept fun owned => absurd free owned.2
  rw [if_neg free]
  obtain ⟨isPart, here⟩ := find_isPart ⟨inside, free⟩
  have nonempty : ¬ (findConnectedStructure world pos (world.ownerAt pos)).cells.isEmpty = true := by
    rw [List.isEmpty_iff]
    exact List.ne_nil_of_mem here
  rw [if_neg nonempty]
  generalize findConnectedStructure world pos (world.ownerAt pos) = part at isPart here
  refine ⟨fun other member => ?_, ?_, fun place => ?_, fun place member owned => ?_⟩
  · rcases List.mem_append.mp member with earlier | last
    · exact before.parts other earlier
    · exact List.mem_singleton.mp last ▸ isPart
  · refine List.pairwise_append.mpr ⟨before.disjoint, List.pairwise_singleton _ _, ?_⟩
    rintro other earlier last isLast place there there'
    obtain rfl := List.mem_singleton.mp isLast
    have reachable := (isPart.mem_iff there').mp here
    have again : pos ∈ other.cells := ((before.parts other earlier).mem_iff there).mpr reachable
    exact seen ((before.processed pos).mpr ⟨other, earlier, again⟩)
  · simp only [Finset.mem_union, List.mem_toFinset, before.processed, List.mem_append,
      List.mem_singleton]
    constructor
    · rintro (⟨other, earlier, there⟩ | there)
      · exact ⟨other, .inl earlier, there⟩
      · exact ⟨part, .inr rfl, there⟩
    · rintro ⟨other, earlier | rfl, there⟩
      · exact .inl ⟨other, earlier, there⟩
      · exact .inr there
  · rcases List.mem_append.mp member with earlier | last
    · exact Finset.mem_union_left _ (before.covered place earlier owned)
    · obtain rfl := List.mem_singleton.mp last
      exact Finset.mem_union_right _ (List.mem_toFinset.mpr here)

theorem Scanned.foldl (rest : List Vector2i) (inside : ∀ pos ∈ rest, world.InBounds pos) :
    Scanned world (rest.foldl (WorldRigidBodyCalculator.scanCell world) found)
      (scanned ++ rest) := by
  induction rest generalizing found scanned with
  | nil =>
      rw [List.append_nil]
      exact before
  | cons pos rest ih =>
      have next := before.scanCell (inside pos List.mem_cons_self)
      have after := ih next fun place later => inside place (List.mem_cons_of_mem _ later)
      rw [List.append_assoc] at after
      exact after

end

variable (world) in
theorem findAllStructures_scanned :
    ∃ processed, Scanned world (findAllStructures world, processed) (scanOrder world) := by
  have begin_ : Scanned world ([], ∅) [] :=
    ⟨fun _ none => absurd none List.not_mem_nil, .nil, by simp,
      fun _ none => absurd none List.not_mem_nil⟩
  exact ⟨_, begin_.foldl (scanOrder world) fun _ => mem_scanOrder.mp⟩

theorem calculateStructureMass_eq (cells : List Vector2i) :
    calculateStructureMass world cells = (cells.map fun pos => (world.cellAt pos).getMass).sum := by
  rw [calculateStructureMass, List.sum_eq_foldl, List.foldl_map]

end

section

/-! ## Velocities -/

variable [Field K] {world} {found : RigidStructure K}

def unify (velocity : Vector2 K) (cells : List Vector2i) (world : OrganismWorld K) :
    OrganismWorld K :=
  cells.foldl (fun world pos => world.setCell pos ((world.cellAt pos).withVelocity velocity)) world

variable (velocity velocity' : Vector2 K) (cells cells' : List Vector2i) (deltaTime : K)

variable (world) in
theorem unify_frame : (unify velocity cells world).organismManager = world.organismManager ∧
    (unify velocity cells world).gravity = world.gravity ∧
    (unify velocity cells world).airResistanceStrength = world.airResistanceStrength ∧
    (unify velocity cells world).data.width = world.data.width ∧
    (unify velocity cells world).data.height = world.data.height := by
  induction cells generalizing world with
  | nil => exact ⟨rfl, rfl, rfl, rfl, rfl⟩
  | cons pos rest ih =>
      obtain ⟨manager, gravity, air, width, height⟩ :=
        ih (world.setCell pos ((world.cellAt pos).withVelocity velocity))
      exact ⟨manager, gravity, air, width.trans (CellArray.setCell_width ..),
        height.trans (CellArray.setCell_height ..)⟩

theorem inBounds_unify {pos : Vector2i} :
    (unify velocity cells world).InBounds pos ↔ world.InBounds pos := by
  obtain ⟨-, -, -, width, height⟩ := unify_frame world velocity cells
  simp [OrganismWorld.InBounds, Grid.InBounds, width, height]

theorem cellAt_outside {pos : Vector2i} (outside : ¬ world.InBounds pos) :
    world.cellAt pos = Cell.blank := by
  have missing : world.data.get? pos.x pos.y = none := Grid.get?_of_not_inBounds outside
  rw [OrganismWorld.cellAt, CellArray.cellAt, CellArray.at, missing, Option.getD_none]

theorem cellAt_unify {pos : Vector2i} (inside : world.InBounds pos) :
    (unify velocity cells world).cellAt pos =
      if pos ∈ cells then (world.cellAt pos).withVelocity velocity else world.cellAt pos := by
  induction cells generalizing world with
  | nil => simp [unify]
  | cons first rest ih =>
      have inside' : (world.setCell first ((world.cellAt first).withVelocity velocity)).InBounds pos :=
        CellArray.setCell_inBounds.mpr inside
      refine (ih inside').trans ?_
      by_cases same : pos = first
      · subst same
        have written : (world.setCell pos ((world.cellAt pos).withVelocity velocity)).cellAt pos =
            (world.cellAt pos).withVelocity velocity := CellArray.cellAt_setCell_self inside _
        rw [written]
        simp [Cell.withVelocity]
      · have kept : (world.setCell first ((world.cellAt first).withVelocity velocity)).cellAt pos =
            world.cellAt pos := CellArray.cellAt_setCell_ne _ _ same
        simp [kept, same]

theorem ext_cellAt {first second : OrganismWorld K}
    (organismManager : first.organismManager = second.organismManager)
    (gravity : first.gravity = second.gravity)
    (airResistanceStrength : first.airResistanceStrength = second.airResistanceStrength)
    (width : first.data.width = second.data.width)
    (height : first.data.height = second.data.height)
    (cells : ∀ pos, first.InBounds pos → first.cellAt pos = second.cellAt pos) :
    first = second := by
  have grids : first.data.toGrid = second.data.toGrid := by
    refine Grid.ext_get? width height fun x y inside => ?_
    have inside' : second.data.InBounds x y := by
      simpa only [Grid.InBounds, width, height] using inside
    have stored := @CellArray.stored _ _ ⟨x, y⟩ first.data inside
    have stored' := @CellArray.stored _ _ ⟨x, y⟩ second.data inside'
    rw [Grid.get?, Grid.get?, if_pos inside, if_pos inside']
    exact stored.trans ((congrArg some (cells ⟨x, y⟩ inside)).trans stored'.symm)
  obtain ⟨⟨first, _, _, _, _⟩, _, _, _⟩ := first
  obtain ⟨⟨second, _, _, _, _⟩, _, _, _⟩ := second
  cases grids
  cases organismManager
  cases gravity
  cases airResistanceStrength
  rfl

theorem unify_comm (apart : cells.Disjoint cells') :
    unify velocity cells (unify velocity' cells' world) =
      unify velocity' cells' (unify velocity cells world) := by
  have frame := unify_frame world velocity cells
  have frame' := unify_frame world velocity' cells'
  have upper := unify_frame (unify velocity' cells' world) velocity cells
  have upper' := unify_frame (unify velocity cells world) velocity' cells'
  refine ext_cellAt ?_ ?_ ?_ ?_ ?_ fun pos inside => ?_
  · rw [upper.1, upper'.1, frame.1, frame'.1]
  · rw [upper.2.1, upper'.2.1, frame.2.1, frame'.2.1]
  · rw [upper.2.2.1, upper'.2.2.1, frame.2.2.1, frame'.2.2.1]
  · rw [upper.2.2.2.1, upper'.2.2.2.1, frame.2.2.2.1, frame'.2.2.2.1]
  · rw [upper.2.2.2.2, upper'.2.2.2.2, frame.2.2.2.2, frame'.2.2.2.2]
  · have inside' : world.InBounds pos :=
      (inBounds_unify _ _).mp ((inBounds_unify _ _).mp inside)
    rw [cellAt_unify _ _ ((inBounds_unify _ _).mpr inside'), cellAt_unify _ _ inside',
      cellAt_unify _ _ ((inBounds_unify _ _).mpr inside'), cellAt_unify _ _ inside']
    by_cases here : pos ∈ cells
    · have there : pos ∉ cells' := fun there => apart here there
      simp [here, there]
    · simp [here]

theorem integrated_unify : integrated (unify velocity cells world) found deltaTime =
    integrated world found deltaTime := by
  have forces (pos : Vector2i) : ((unify velocity cells world).cellAt pos).pendingForce =
      (world.cellAt pos).pendingForce := by
    by_cases inside : world.InBounds pos
    · rw [cellAt_unify _ _ inside]
      split_ifs <;> rfl
    · rw [cellAt_outside inside, cellAt_outside fun here => inside ((inBounds_unify _ _).mp here)]
  simp [integrated, gatherStructureForces, forces]

variable [LinearOrder K]

theorem applyUnifiedVelocity_eq : applyUnifiedVelocity world deltaTime found =
    if found.cells.isEmpty ∨ found.totalMass < 1 / 10000 then (world, found)
    else (unify (integrated world found deltaTime) found.cells world,
      { found with velocity := integrated world found deltaTime }) := rfl

theorem applyUnifiedVelocity_snd {other : RigidStructure K} :
    (applyUnifiedVelocity (applyUnifiedVelocity world deltaTime other).1 deltaTime found).2 =
      (applyUnifiedVelocity world deltaTime found).2 := by
  have moved : (applyUnifiedVelocity world deltaTime other).1 =
      if other.cells.isEmpty ∨ other.totalMass < 1 / 10000 then world
      else unify (integrated world other deltaTime) other.cells world := by
    rw [applyUnifiedVelocity_eq]
    split_ifs <;> rfl
  rw [moved]
  split_ifs
  · rfl
  · simp only [applyUnifiedVelocity_eq, integrated_unify]
    split_ifs <;> rfl

theorem applyUnifiedVelocity_comm {other : RigidStructure K}
    (apart : found.cells.Disjoint other.cells) :
    (applyUnifiedVelocity (applyUnifiedVelocity world deltaTime other).1 deltaTime found).1 =
      (applyUnifiedVelocity (applyUnifiedVelocity world deltaTime found).1 deltaTime other).1 := by
  simp only [applyUnifiedVelocity_eq]
  split_ifs
  · rfl
  · rfl
  · rfl
  · simp only [integrated_unify]
    exact unify_comm _ _ _ _ apart

def applyAll (world : OrganismWorld K) (deltaTime : K) (structures : List (RigidStructure K)) :
    OrganismWorld K × List (RigidStructure K) :=
  structures.foldl (fun moved found =>
    let result := applyUnifiedVelocity moved.1 deltaTime found
    (result.1, moved.2 ++ [result.2])) (world, [])

theorem applyAll_fst (structures : List (RigidStructure K)) :
    (applyAll world deltaTime structures).1 =
      structures.foldl (fun world found => (applyUnifiedVelocity world deltaTime found).1) world := by
  suffices each : ∀ done : List (RigidStructure K), (structures.foldl (fun moved found =>
      let result := applyUnifiedVelocity moved.1 deltaTime found
      (result.1, moved.2 ++ [result.2])) (world, done)).1 = structures.foldl
        (fun world found => (applyUnifiedVelocity world deltaTime found).1) world from each []
  intro done
  induction structures generalizing world done with
  | nil => rfl
  | cons found structures ih => exact ih _

theorem applyAll_snd (structures : List (RigidStructure K)) :
    (applyAll world deltaTime structures).2 =
      structures.map fun found => (applyUnifiedVelocity world deltaTime found).2 := by
  suffices each : ∀ done : List (RigidStructure K), (structures.foldl (fun moved found =>
      let result := applyUnifiedVelocity moved.1 deltaTime found
      (result.1, moved.2 ++ [result.2])) (world, done)).2 = done ++ structures.map
        fun found => (applyUnifiedVelocity world deltaTime found).2 from each []
  intro done
  induction structures generalizing world done with
  | nil => exact (List.append_nil done).symm
  | cons found structures ih =>
      rw [List.foldl_cons]
      refine (ih _).trans ?_
      rw [List.append_assoc, List.map_cons, List.singleton_append]
      simp [applyUnifiedVelocity_snd]

end

section

/-! ## The structures are the connected parts -/

variable [Field K] [LinearOrder K]

/-- Structures that are the connected parts of the organisms of a world. -/
structure IsPartition (world : OrganismWorld K) (structures : List (RigidStructure K)) : Prop where
  disjoint : structures.Pairwise fun first second => first.cells.Disjoint second.cells
  once : (structures.flatMap fun part => part.cells).Nodup
  covers : ∀ pos, pos ∈ structures.flatMap (fun part => part.cells) ↔ Owned world pos
  connected : ∀ first second, Owned world first → Owned world second →
    ((∃ part ∈ structures, first ∈ part.cells ∧ second ∈ part.cells) ↔
      world.ownerAt first = world.ownerAt second ∧ (organismGraph world).Reachable first second)
  owner : ∀ part ∈ structures, ∀ pos ∈ part.cells, world.ownerAt pos = part.organismId
  mass : (structures.map fun part => part.totalMass).sum =
    (((scanOrder world).filter fun pos => world.ownerAt pos ≠ invalidOrganismId).map
      fun pos => (world.cellAt pos).getMass).sum
  /-- In whichever order the structures are moved, the world and the structures become the same. -/
  anyOrder : ∀ deltaTime order, structures.Perm order →
    (applyAll world deltaTime order).1 = (applyAll world deltaTime structures).1 ∧
      (applyAll world deltaTime structures).2.Perm (applyAll world deltaTime order).2

variable {world}

variable (world) in
/-- **The structures are the connected parts of the organisms.** -/
theorem findAllStructures_isPartition : IsPartition world (findAllStructures world) := by
  obtain ⟨processed, scanned⟩ := findAllStructures_scanned world
  generalize findAllStructures world = structures at scanned
  have once : (structures.flatMap fun part => part.cells).Nodup :=
    List.nodup_flatMap.mpr ⟨fun part listed => (scanned.parts part listed).nodup, scanned.disjoint⟩
  have covers (pos : Vector2i) :
      pos ∈ structures.flatMap (fun part => part.cells) ↔ Owned world pos := by
    rw [List.mem_flatMap]
    constructor
    · rintro ⟨part, listed, here⟩
      exact (scanned.parts part listed).owned here
    · intro owned
      exact (scanned.processed pos).mp
        (scanned.covered pos (mem_scanOrder.mpr owned.1) owned)
  refine ⟨scanned.disjoint, once, covers, fun first second owned owned' => ⟨?_, ?_⟩,
    fun part listed pos here => (scanned.parts part listed).ownerAt here, ?_,
    fun deltaTime order perm => ⟨?_, ?_⟩⟩
  · rintro ⟨part, listed, here, here'⟩
    have isPart := scanned.parts part listed
    exact ⟨(isPart.ownerAt here).trans (isPart.ownerAt here').symm, (isPart.mem_iff here).mp here'⟩
  · rintro ⟨-, reachable⟩
    obtain ⟨part, listed, here⟩ := List.mem_flatMap.mp ((covers first).mpr owned)
    exact ⟨part, listed, here, ((scanned.parts part listed).mem_iff here).mpr reachable⟩
  · have parts : structures.map (fun part => part.totalMass) = structures.map fun part =>
        (part.cells.map fun pos => (world.cellAt pos).getMass).sum := by
      refine List.map_congr_left fun part listed => ?_
      rw [(scanned.parts part listed).mass, calculateStructureMass_eq]
    have same : (structures.flatMap fun part => part.cells).Perm
        ((scanOrder world).filter fun pos => world.ownerAt pos ≠ invalidOrganismId) := by
      have nodup : (scanOrder world).Nodup := Vector2i.nodup_positions
      refine (List.perm_ext_iff_of_nodup once (nodup.filter _)).mpr fun pos => ?_
      rw [covers, List.mem_filter, mem_scanOrder, decide_eq_true_eq]
      rfl
    rw [parts, ← (same.map _).sum_eq, List.map_flatMap, List.flatMap_def, List.sum_flatten,
      List.map_map]
    rfl
  · rw [applyAll_fst, applyAll_fst]
    refine (perm.foldl_eq' (fun first listed second listed' between => ?_) world).symm
    by_cases equal : first = second
    · rw [equal]
    · have symmetric : Std.Symm fun first second : RigidStructure K =>
          first.cells.Disjoint second.cells := ⟨fun _ _ holds => holds.symm⟩
      have apart : first.cells.Disjoint second.cells :=
        scanned.disjoint.forall listed listed' equal
      exact (applyUnifiedVelocity_comm deltaTime apart).symm
  · rw [applyAll_snd, applyAll_snd]
    exact perm.map _

end

end WorldRigidBodyCalculator

end DirtSim
