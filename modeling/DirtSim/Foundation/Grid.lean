import Mathlib.Data.List.Basic
import Mathlib.Data.List.Nodup
import Mathlib.Tactic

/-! # Row-major grids

A rectangle of values stored row by row; the size of the list is a field. Reads outside give `none`,
writes outside do nothing. A grid is determined by its dimensions and its reads (`Grid.ext_get?`).
-/

namespace DirtSim.Foundation

structure Grid (α : Type*) where
  width : ℕ
  height : ℕ
  cells : List α
  length_cells : cells.length = width * height

namespace Grid

variable {α β : Type*}
variable {x y : ℤ} (width height : ℕ) {grid : Grid α} (change : ℤ → ℤ → α → β)

def InBounds (grid : Grid α) (x y : ℤ) : Prop :=
  0 ≤ x ∧ 0 ≤ y ∧ x < grid.width ∧ y < grid.height

instance (grid : Grid α) (x y : ℤ) : Decidable (grid.InBounds x y) :=
  inferInstanceAs (Decidable (_ ∧ _ ∧ _ ∧ _))

def index (grid : Grid α) (x y : ℤ) : ℕ := y.toNat * grid.width + x.toNat

/-- The value at a coordinate pair, if it is inside the rectangle. -/
def get? (grid : Grid α) (x y : ℤ) : Option α :=
  if grid.InBounds x y then grid.cells[grid.index x y]? else none

/-- The grid with one cell replaced; unchanged when the coordinates are outside it. -/
def set (grid : Grid α) (x y : ℤ) (value : α) : Grid α :=
  if grid.InBounds x y then
    { grid with
      cells := grid.cells.set (grid.index x y) value
      length_cells := by rw [List.length_set, grid.length_cells] }
  else grid

/-- The grid whose every cell is computed from its coordinates. -/
def generate (width height : ℕ) (value : ℤ → ℤ → α) : Grid α where
  width := width
  height := height
  cells := (List.range (width * height)).map fun i =>
    value ((i % width : ℕ) : ℤ) ((i / width : ℕ) : ℤ)
  length_cells := by rw [List.length_map, List.length_range]

/-- The grid with every cell changed, each according to its coordinates. -/
def mapCells (change : ℤ → ℤ → α → β) (grid : Grid α) : Grid β where
  width := grid.width
  height := grid.height
  cells := grid.cells.mapIdx fun i value =>
    change ((i % grid.width : ℕ) : ℤ) ((i / grid.width : ℕ) : ℤ) value
  length_cells := by rw [List.length_mapIdx, grid.length_cells]

/-- The coordinates of a rectangle, row after row. -/
def coordinates (width height : ℕ) : List (ℤ × ℤ) :=
  (List.range height).flatMap fun (y : ℕ) =>
    (List.range width).map fun (x : ℕ) => ((x : ℤ), (y : ℤ))

theorem mem_coordinates {width height : ℕ} :
    (x, y) ∈ coordinates width height ↔ 0 ≤ x ∧ 0 ≤ y ∧ x < width ∧ y < height := by
  simp only [coordinates, List.mem_flatMap, List.mem_range, List.mem_map, Prod.mk.injEq]
  constructor
  · rintro ⟨row, below, column, inside, rfl, rfl⟩
    omega
  · rintro ⟨left, top, right, bottom⟩
    exact ⟨y.toNat, by omega, x.toNat, by omega, by omega, by omega⟩

theorem nodup_coordinates : (coordinates width height).Nodup := by
  refine List.nodup_flatMap.mpr ⟨fun y _ => ?_, ?_⟩
  · exact List.nodup_range.map fun first second same => by
      exact_mod_cast (Prod.mk.inj same).1
  · refine List.nodup_range.imp fun {first second} apart => ?_
    intro place one other
    obtain ⟨x, _, rfl⟩ := List.mem_map.mp one
    obtain ⟨x', _, same⟩ := List.mem_map.mp other
    exact apart (by exact_mod_cast (Prod.mk.inj same).2.symm)

theorem index_lt (inside : grid.InBounds x y) : grid.index x y < grid.cells.length := by
  obtain ⟨left, top, right, bottom⟩ := inside
  have column : x.toNat < grid.width := by omega
  have row : y.toNat + 1 ≤ grid.height := by omega
  calc grid.index x y < y.toNat * grid.width + grid.width := by
        unfold index
        omega
    _ = (y.toNat + 1) * grid.width := by ring
    _ ≤ grid.height * grid.width := Nat.mul_le_mul_right _ row
    _ = grid.cells.length := by rw [grid.length_cells, Nat.mul_comm]

theorem index_div (inside : grid.InBounds x y) : grid.index x y / grid.width = y.toNat := by
  obtain ⟨left, top, right, bottom⟩ := inside
  have column : x.toNat < grid.width := by omega
  rw [index, Nat.mul_comm, Nat.mul_add_div (by omega), Nat.div_eq_of_lt column, Nat.add_zero]

theorem index_mod (inside : grid.InBounds x y) : grid.index x y % grid.width = x.toNat := by
  obtain ⟨left, top, right, bottom⟩ := inside
  have column : x.toNat < grid.width := by omega
  rw [index, Nat.mul_comm, Nat.mul_add_mod, Nat.mod_eq_of_lt column]

/-- Different cells are stored at different indices. -/
theorem index_inj {x y x' y' : ℤ} (first : grid.InBounds x y) (second : grid.InBounds x' y') :
    grid.index x y = grid.index x' y' ↔ x = x' ∧ y = y' := by
  constructor
  · intro same
    have rows := index_div first
    have columns := index_mod first
    rw [same, index_div second] at rows
    rw [same, index_mod second] at columns
    obtain ⟨_, _, _, _⟩ := first
    obtain ⟨_, _, _, _⟩ := second
    omega
  · rintro ⟨rfl, rfl⟩
    rfl

@[simp] theorem get?_eq_none_iff : grid.get? x y = none ↔ ¬ grid.InBounds x y := by
  unfold get?
  by_cases inside : grid.InBounds x y
  · simp only [inside, ↓reduceIte, not_true_eq_false, iff_false]
    exact fun absent => absurd (List.getElem?_eq_none_iff.mp absent)
      (Nat.not_le.mpr (index_lt inside))
  · simp [inside]

theorem get?_isSome_iff : (grid.get? x y).isSome ↔ grid.InBounds x y := by
  rw [Option.isSome_iff_ne_none, ne_eq, get?_eq_none_iff, not_not]

theorem isEmpty_cells (inside : grid.InBounds x y) : grid.cells.isEmpty = false := by
  rw [List.isEmpty_eq_false_iff]
  exact List.ne_nil_of_length_pos (Nat.zero_lt_of_lt (index_lt inside))

theorem get?_of_not_inBounds (outside : ¬ grid.InBounds x y) :
    grid.get? x y = none := get?_eq_none_iff.mpr outside

@[simp] theorem set_width (grid : Grid α) (x y : ℤ) (value : α) :
    (grid.set x y value).width = grid.width := by
  unfold set
  split <;> rfl

@[simp] theorem set_height (grid : Grid α) (x y : ℤ) (value : α) :
    (grid.set x y value).height = grid.height := by
  unfold set
  split <;> rfl

@[simp] theorem set_inBounds {x y x' y' : ℤ} {value : α} :
    (grid.set x' y' value).InBounds x y ↔ grid.InBounds x y := by
  simp [InBounds]

/-- A read after a write sees the written value at its cell and the old grid elsewhere. -/
theorem get?_set (grid : Grid α) (x y x' y' : ℤ) (value : α) :
    (grid.set x' y' value).get? x y =
      if x = x' ∧ y = y' ∧ grid.InBounds x' y' then some value else grid.get? x y := by
  by_cases written : grid.InBounds x' y'
  · by_cases inside : grid.InBounds x y
    · have read : (grid.set x' y' value).get? x y =
          (grid.cells.set (grid.index x' y') value)[grid.index x y]? := by
        unfold get?
        rw [if_pos (set_inBounds.mpr inside)]
        simp only [set, written, ↓reduceIte]
        rfl
      rw [read, List.getElem?_set, get?, if_pos inside]
      by_cases same : x = x' ∧ y = y'
      · obtain ⟨rfl, rfl⟩ := same
        simp [index_lt inside, inside]
      · have apart : grid.index x' y' ≠ grid.index x y := fun equal =>
          same ((index_inj written inside).mp equal |>.imp Eq.symm Eq.symm)
        have unequal : ¬ (x = x' ∧ y = y' ∧ grid.InBounds x' y') := fun all =>
          same ⟨all.1, all.2.1⟩
        rw [if_neg apart, if_neg unequal]
    · rw [get?_of_not_inBounds (set_inBounds.not.mpr inside), get?_of_not_inBounds inside]
      have apart : ¬ (x = x' ∧ y = y' ∧ grid.InBounds x' y') := by
        rintro ⟨rfl, rfl, _⟩
        exact inside written
      simp [apart]
  · simp [set, written]

theorem get?_set_self (inside : grid.InBounds x y) (value : α) :
    (grid.set x y value).get? x y = some value := by
  rw [get?_set]
  simp [inside]

theorem get?_set_ne (grid : Grid α) {x y x' y' : ℤ} (value : α) (apart : (x, y) ≠ (x', y')) :
    (grid.set x' y' value).get? x y = grid.get? x y := by
  rw [get?_set, if_neg]
  rintro ⟨rfl, rfl, _⟩
  exact apart rfl

@[simp] theorem generate_width (value : ℤ → ℤ → α) :
    (generate width height value).width = width := rfl

@[simp] theorem generate_height (value : ℤ → ℤ → α) :
    (generate width height value).height = height := rfl

theorem get?_generate (value : ℤ → ℤ → α) (x y : ℤ) :
    (generate width height value).get? x y =
      if 0 ≤ x ∧ 0 ≤ y ∧ x < width ∧ y < height then some (value x y) else none := by
  unfold get?
  by_cases inside : (generate width height value).InBounds x y
  · have bound := index_lt inside
    have column := index_mod inside
    have row := index_div inside
    have region : 0 ≤ x ∧ 0 ≤ y ∧ x < width ∧ y < height := inside
    rw [if_pos inside, if_pos region, List.getElem?_eq_getElem bound]
    have stored : (generate width height value).cells[(generate width height value).index x y] =
        value (((generate width height value).index x y % width : ℕ) : ℤ)
          (((generate width height value).index x y / width : ℕ) : ℤ) := by
      simp [generate]
    rw [generate_width] at column row
    rw [stored, column, row, Int.toNat_of_nonneg region.1, Int.toNat_of_nonneg region.2.1]
  · have region : ¬ (0 ≤ x ∧ 0 ≤ y ∧ x < (width : ℤ) ∧ y < (height : ℤ)) := inside
    rw [if_neg inside, if_neg region]

@[simp] theorem mapCells_width (grid : Grid α) : (grid.mapCells change).width = grid.width := rfl

@[simp] theorem mapCells_height (grid : Grid α) : (grid.mapCells change).height = grid.height := rfl

theorem get?_mapCells (grid : Grid α) (x y : ℤ) :
    (grid.mapCells change).get? x y = (grid.get? x y).map (change x y) := by
  by_cases inside : grid.InBounds x y
  · have inside' : (grid.mapCells change).InBounds x y := inside
    have bound := index_lt inside
    have stored : (grid.mapCells change).cells[grid.index x y]? =
        (grid.cells[grid.index x y]?).map
          (change ((grid.index x y % grid.width : ℕ) : ℤ)
            ((grid.index x y / grid.width : ℕ) : ℤ)) := by
      simp [mapCells, List.getElem?_mapIdx]
    have read : (grid.mapCells change).get? x y =
        (grid.mapCells change).cells[grid.index x y]? := by
      rw [get?, if_pos inside']
      rfl
    rw [read, stored, get?, if_pos inside, index_mod inside, index_div inside,
      Int.toNat_of_nonneg inside.1, Int.toNat_of_nonneg inside.2.1]
  · have inside' : ¬ (grid.mapCells change).InBounds x y := inside
    rw [get?_of_not_inBounds inside, get?_of_not_inBounds inside', Option.map_none]

/-- Two grids of the same dimensions with the same reads are equal. -/
theorem ext_get? {first second : Grid α} (width : first.width = second.width)
    (height : first.height = second.height)
    (reads : ∀ x y, first.InBounds x y → first.get? x y = second.get? x y) :
    first = second := by
  have cells : first.cells = second.cells := by
    apply List.ext_getElem?
    intro i
    by_cases inside : i < first.width * first.height
    · have positive : 0 < first.width := by
        rcases Nat.eq_zero_or_pos first.width with empty | positive
        · rw [empty, Nat.zero_mul] at inside
          exact absurd inside (Nat.not_lt_zero i)
        · exact positive
      have row : i / first.width < first.height :=
        Nat.div_lt_of_lt_mul inside
      have column : i % first.width < first.width := Nat.mod_lt _ positive
      have bounds : first.InBounds ((i % first.width : ℕ) : ℤ) ((i / first.width : ℕ) : ℤ) := by
        exact ⟨Int.natCast_nonneg _, Int.natCast_nonneg _, Int.ofNat_lt.mpr column,
          Int.ofNat_lt.mpr row⟩
      have bounds' : second.InBounds ((i % first.width : ℕ) : ℤ) ((i / first.width : ℕ) : ℤ) := by
        simpa only [InBounds, width, height] using bounds
      have place : i / first.width * first.width + i % first.width = i := Nat.div_add_mod' ..
      have read := reads _ _ bounds
      unfold get? index at read
      rw [if_pos bounds, if_pos bounds'] at read
      simpa only [Int.toNat_natCast, ← width, place] using read
    · have short : first.cells.length ≤ i := by
        rw [first.length_cells]
        omega
      have short' : second.cells.length ≤ i := by
        rw [second.length_cells, ← width, ← height]
        omega
      rw [List.getElem?_eq_none short, List.getElem?_eq_none short']
  cases first
  cases second
  simp only at width height cells
  subst width height cells
  rfl

section

variable (value : ℤ → ℤ → α)

/-- The reads of a grid after a list of writes whose values depend only on the cell. -/
theorem get?_foldl_set (cells : List (ℤ × ℤ)) (grid : Grid α) (x y : ℤ) :
    (cells.foldl (fun grid cell => grid.set cell.1 cell.2 (value cell.1 cell.2)) grid).get? x y =
      if (x, y) ∈ cells ∧ grid.InBounds x y then some (value x y) else grid.get? x y := by
  induction cells generalizing grid with
  | nil => simp
  | cons cell cells ih =>
      obtain ⟨x', y'⟩ := cell
      rw [List.foldl_cons, ih, get?_set]
      simp only [set_inBounds]
      by_cases later : (x, y) ∈ cells
      · by_cases inside : grid.InBounds x y
        · simp [later, inside]
        · have apart : ¬ (x = x' ∧ y = y' ∧ grid.InBounds x' y') := by
            rintro ⟨rfl, rfl, written⟩
            exact inside written
          simp [inside, apart]
      · by_cases same : x = x' ∧ y = y'
        · obtain ⟨rfl, rfl⟩ := same
          simp [later]
        · have apart : ¬ ((x, y) = (x', y')) := fun equal =>
            same ⟨congrArg Prod.fst equal, congrArg Prod.snd equal⟩
          have apart' : ¬ (x = x' ∧ y = y' ∧ grid.InBounds x' y') := fun all =>
            same ⟨all.1, all.2.1⟩
          simp [later, apart', apart]

theorem foldl_set_width (cells : List (ℤ × ℤ)) (grid : Grid α) :
    (cells.foldl (fun grid cell => grid.set cell.1 cell.2 (value cell.1 cell.2)) grid).width =
      grid.width := by
  induction cells generalizing grid with
  | nil => rfl
  | cons cell cells ih => rw [List.foldl_cons, ih, set_width]

theorem foldl_set_height (cells : List (ℤ × ℤ)) (grid : Grid α) :
    (cells.foldl (fun grid cell => grid.set cell.1 cell.2 (value cell.1 cell.2)) grid).height =
      grid.height := by
  induction cells generalizing grid with
  | nil => rfl
  | cons cell cells ih => rw [List.foldl_cons, ih, set_height]

/-- Writing every cell once, row by row, generates the grid whatever it held before. -/
theorem foldl_set_coordinates (grid : Grid α) :
    (coordinates grid.width grid.height).foldl
        (fun grid cell => grid.set cell.1 cell.2 (value cell.1 cell.2)) grid =
      generate grid.width grid.height value := by
  refine ext_get? (foldl_set_width value _ grid) (foldl_set_height value _ grid) ?_
  intro x y inside
  have bounds : grid.InBounds x y := by
    simpa only [InBounds, foldl_set_width, foldl_set_height] using inside
  have member : (x, y) ∈ coordinates grid.width grid.height := mem_coordinates.mpr bounds
  have region : 0 ≤ x ∧ 0 ≤ y ∧ x < (grid.width : ℤ) ∧ y < (grid.height : ℤ) := bounds
  rw [get?_foldl_set, get?_generate, if_pos ⟨member, bounds⟩, if_pos region]

end

end Grid

end DirtSim.Foundation
