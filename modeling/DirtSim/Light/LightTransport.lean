import DirtSim.Foundation.Gathering
import DirtSim.Light.LightPropagator
import Mathlib.Tactic.FieldSimp
import Mathlib.Tactic.Linarith
import Mathlib.Tactic.NormNum
import Mathlib.Tactic.Positivity
import Mathlib.Tactic.Ring

/-! # Light transport creates no light

What a material passes on is no more than what it took in, and no two cells take from the same one,
so a step adds no light (`propagateFieldStep_le`) and all light comes from the sources
(`never_creates_light`).
-/

namespace DirtSim

open Foundation

theorem LightDir.nodup_all : LightDir.all.Nodup := by decide

theorem LightDir.mem_all (direction : LightDir) : direction ∈ LightDir.all := by
  cases direction <;> decide

instance : Fintype LightDir := ⟨⟨LightDir.all, LightDir.nodup_all⟩, LightDir.mem_all⟩

variable {K : Type*} [Field K]

/-! ## The light of a cell -/

namespace DirectionalLight

variable (light : DirectionalLight K) (which : ColorComponent)

theorem component_total :
    light.total.component which = ∑ direction, (light.channel direction).component which := by
  have folded (directions : List LightDir) (sum : RgbF K) :
      (directions.foldl (fun sum direction => sum.added (light.channel direction)) sum).component
          which =
        sum.component which +
          (directions.map fun direction => (light.channel direction).component which).sum := by
    induction directions generalizing sum with
    | nil => exact (add_zero _).symm
    | cons direction directions ih =>
        rw [List.foldl_cons, ih, RgbF.component_added, List.map_cons, List.sum_cons, add_assoc]
  have all := folded LightDir.all RgbF.black
  rw [RgbF.component_black, zero_add] at all
  exact all

theorem component_add (direction : LightDir) (more : RgbF K) (other : LightDir) :
    ((light.add direction more).channel other).component which =
      (light.channel other).component which +
        if other = direction then more.component which else 0 := by
  unfold add
  dsimp only
  by_cases same : other = direction
  · subst same
    rw [if_pos rfl, Function.update_self, RgbF.component_added]
  · rw [if_neg same, add_zero, Function.update_of_ne same]

theorem component_total_add (direction : LightDir) (more : RgbF K) :
    (light.add direction more).total.component which =
      light.total.component which + more.component which := by
  rw [component_total, component_total]
  simp [component_add, Finset.sum_add_distrib]

variable [LinearOrder K]

def Nonneg : Prop := ∀ direction, (light.channel direction).Nonneg

variable [IsStrictOrderedRing K] {light}

theorem Nonneg.add (nonneg : light.Nonneg) (direction : LightDir) {more : RgbF K}
    (positive : more.Nonneg) : (light.add direction more).Nonneg := by
  intro other which
  rw [component_add]
  refine add_nonneg (nonneg other which) ?_
  split
  · exact positive which
  · exact le_refl 0

omit [IsStrictOrderedRing K] in
theorem nonneg_dark : (dark : DirectionalLight K).Nonneg := by
  intro direction which
  exact (RgbF.component_black which).ge

end DirectionalLight

namespace LightPropagator

variable [LinearOrder K] [IsStrictOrderedRing K]

/-! ## What a cell makes of light -/

/-- A material passes on, throws back and spreads at most all light. -/
structure Passive (factors : MaterialFactors K) : Prop where
  transmit : factors.transmitTint.Nonneg
  specular : factors.specularTint.Nonneg
  diffuse : factors.diffuseTint.Nonneg
  le_one : ∀ which, factors.transmitTint.component which + factors.specularTint.component which +
    factors.diffuseTint.component which ≤ 1

theorem passive_materialFactors {properties : LightProperties K} (physical : properties.Physical)
    {fill : K} (nonneg : 0 ≤ fill) (le_one : fill ≤ 1) :
    Passive (materialFactors properties fill) := by
  have opaque_nonneg : 0 ≤ properties.opacity * fill := mul_nonneg physical.opacity_nonneg nonneg
  have opaque_le_one : properties.opacity * fill ≤ 1 :=
    mul_le_one₀ physical.opacity_le_one nonneg le_one
  have scatter_nonneg : 0 ≤ properties.opacity * fill * properties.scatter :=
    mul_nonneg opaque_nonneg physical.scatter_nonneg
  have scatter_le := mul_le_of_le_one_right opaque_nonneg physical.scatter_le_one
  have tint (which : ColorComponent) :=
    RgbF.component_lerp_mem (K := K) properties.tint nonneg le_one which
  refine ⟨fun which => ?_, fun which => ?_, fun which => ?_, fun which => ?_⟩
  · simp only [materialFactors, RgbF.component_times]
    exact mul_nonneg (tint which).1 (sub_nonneg.mpr opaque_le_one)
  · simp only [materialFactors, RgbF.component_times]
    exact mul_nonneg (tint which).1 (mul_nonneg scatter_nonneg physical.specularity_nonneg)
  · simp only [materialFactors, RgbF.component_times]
    exact mul_nonneg (tint which).1
      (mul_nonneg scatter_nonneg (sub_nonneg.mpr physical.specularity_le_one))
  · obtain ⟨low, high⟩ := tint which
    simp only [materialFactors, RgbF.component_times]
    set filter := (RgbF.white.lerp (RgbF.toRgbF properties.tint) fill).component which
    calc filter * (1 - properties.opacity * fill) +
          filter * (properties.opacity * fill * properties.scatter * properties.specularity) +
          filter * (properties.opacity * fill * properties.scatter *
            (1 - properties.specularity))
        = filter * (1 - (properties.opacity * fill -
            properties.opacity * fill * properties.scatter)) := by ring
      _ ≤ filter * 1 := mul_le_mul_of_nonneg_left (by linarith) low
      _ ≤ 1 := by rw [mul_one]; exact high

def arriving (incoming : LightDir → Option (RgbF K)) (which : ColorComponent)
    (direction : LightDir) : K :=
  match incoming direction with
  | none => 0
  | some light => light.component which

def Gathered.held (gathered : Gathered K) (which : ColorComponent) : K :=
  gathered.light.total.component which + gathered.diffuse.component which

variable {incoming : LightDir → Option (RgbF K)} {factors : MaterialFactors K}

theorem receiveRay_spec (passive : Passive factors)
    (positive : ∀ direction light, incoming direction = some light → light.Nonneg)
    {gathered : Gathered K} (light : gathered.light.Nonneg) (diffuse : gathered.diffuse.Nonneg)
    (direction : LightDir) :
    (receiveRay factors incoming gathered direction).light.Nonneg ∧
      (receiveRay factors incoming gathered direction).diffuse.Nonneg ∧
      ∀ which, (receiveRay factors incoming gathered direction).held which ≤
        gathered.held which + arriving incoming which direction := by
  unfold receiveRay arriving
  cases ray : incoming direction with
  | none => exact ⟨light, diffuse, fun which => (add_zero _).ge⟩
  | some arrived =>
      have nonneg := positive direction arrived ray
      dsimp only
      split
      case isTrue =>
        exact ⟨light, diffuse, fun which => le_add_of_nonneg_right (nonneg which)⟩
      case isFalse =>
        have part {tint : RgbF K} (tinted : tint.Nonneg) : (arrived.timesColor tint).Nonneg := by
          intro which
          rw [RgbF.component_timesColor]
          exact mul_nonneg (nonneg which) (tinted which)
        refine ⟨(light.add _ (part passive.transmit)).add _ (part passive.specular), ?_, ?_⟩
        · intro which
          rw [RgbF.component_added]
          exact add_nonneg (diffuse which) (part passive.diffuse which)
        · intro which
          simp only [Gathered.held, DirectionalLight.component_total_add, RgbF.component_added,
            RgbF.component_timesColor]
          have shares := mul_le_mul_of_nonneg_left (passive.le_one which) (nonneg which)
          rw [mul_one, mul_add, mul_add] at shares
          linarith

theorem foldl_receiveRay (gathered : Gathered K) (passive : Passive factors)
    (positive : ∀ direction light, incoming direction = some light → light.Nonneg)
    (directions : List LightDir) (light : gathered.light.Nonneg)
    (diffuse : gathered.diffuse.Nonneg) :
    (directions.foldl (receiveRay factors incoming) gathered).light.Nonneg ∧
      (directions.foldl (receiveRay factors incoming) gathered).diffuse.Nonneg ∧
      ∀ which, (directions.foldl (receiveRay factors incoming) gathered).held which ≤
        gathered.held which + (directions.map (arriving incoming which)).sum := by
  induction directions generalizing gathered with
  | nil => exact ⟨light, diffuse, fun which => (add_zero _).ge⟩
  | cons direction directions ih =>
      obtain ⟨light', diffuse', more⟩ := receiveRay_spec passive positive light diffuse direction
      obtain ⟨light'', diffuse'', rest⟩ := ih _ light' diffuse'
      refine ⟨light'', diffuse'', fun which => (rest which).trans ?_⟩
      rw [List.map_cons, List.sum_cons, ← add_assoc]
      exact add_le_add_left (more which) _

theorem foldl_forwardRay
    (positive : ∀ direction light, incoming direction = some light → light.Nonneg)
    (directions : List LightDir) {light : DirectionalLight K} (nonneg : light.Nonneg) :
    (directions.foldl (forwardRay incoming) light).Nonneg ∧
      ∀ which, (directions.foldl (forwardRay incoming) light).total.component which =
        light.total.component which + (directions.map (arriving incoming which)).sum := by
  induction directions generalizing light with
  | nil => exact ⟨nonneg, fun which => (add_zero _).symm⟩
  | cons direction directions ih =>
      have forwarded : (forwardRay incoming light direction).Nonneg ∧
          ∀ which, (forwardRay incoming light direction).total.component which =
            light.total.component which + arriving incoming which direction := by
        unfold forwardRay arriving
        cases ray : incoming direction with
        | none => exact ⟨nonneg, fun which => (add_zero _).symm⟩
        | some arrived =>
            exact ⟨nonneg.add _ (positive direction arrived ray),
              fun which => light.component_total_add which direction arrived⟩
      obtain ⟨nonneg', rest⟩ := ih forwarded.1
      refine ⟨nonneg', fun which => ?_⟩
      rw [List.foldl_cons, rest, forwarded.2, List.map_cons, List.sum_cons, add_assoc]

omit [LinearOrder K] [IsStrictOrderedRing K] in
theorem foldl_add (directions : List LightDir) (light : DirectionalLight K) (diffuse : RgbF K)
    (which : ColorComponent) :
    (directions.foldl (fun light direction => light.add direction
        (diffuse.times direction.weight)) light).total.component which =
      light.total.component which +
        diffuse.component which * (directions.map LightDir.weight).sum := by
  induction directions generalizing light with
  | nil => rw [List.map_nil, List.sum_nil, mul_zero, add_zero]; rfl
  | cons direction directions ih =>
      rw [List.foldl_cons, ih, DirectionalLight.component_total_add, RgbF.component_times,
        List.map_cons, List.sum_cons, mul_add, add_assoc]

theorem weight_pos (direction : LightDir) : (0 : K) < direction.weight := by
  have total : (0 : K) < LightDir.kTotalWeight := by
    unfold LightDir.kTotalWeight LightDir.kCardinalWeight LightDir.kDiagonalWeight
    positivity
  have cardinal : (0 : K) < LightDir.kCardinalWeight := one_pos
  have diagonal : (0 : K) < LightDir.kDiagonalWeight := by
    unfold LightDir.kDiagonalWeight
    positivity
  cases direction <;> first | exact div_pos cardinal total | exact div_pos diagonal total

theorem sum_weight : ((LightDir.all.map LightDir.weight).sum : K) = 1 := by
  have total : (LightDir.kTotalWeight : K) ≠ 0 := by
    unfold LightDir.kTotalWeight LightDir.kCardinalWeight LightDir.kDiagonalWeight
    positivity
  simp only [LightDir.all, List.map_cons, List.map_nil, List.sum_cons, List.sum_nil,
    LightDir.weight]
  field_simp
  unfold LightDir.kTotalWeight
  ring

theorem spread_spec {light : DirectionalLight K} (nonneg : light.Nonneg) {diffuse : RgbF K}
    (positive : diffuse.Nonneg) :
    (spread light diffuse).Nonneg ∧
      ∀ which, (spread light diffuse).total.component which =
        light.total.component which + diffuse.component which := by
  have spreads (directions : List LightDir) {light : DirectionalLight K} (nonneg : light.Nonneg) :
      (directions.foldl (fun light direction => light.add direction
        (diffuse.times direction.weight)) light).Nonneg := by
    induction directions generalizing light with
    | nil => exact nonneg
    | cons direction directions ih =>
        refine ih (nonneg.add _ fun which => ?_)
        rw [RgbF.component_times]
        exact mul_nonneg (positive which) (weight_pos direction).le
  refine ⟨spreads LightDir.all nonneg, fun which => ?_⟩
  rw [spread, foldl_add, sum_weight, mul_one]

theorem propagateCell_spec (there : DirectionalLight K) {properties : LightProperties K}
    (physical : properties.Physical)
    {fill : K} (fill_nonneg : 0 ≤ fill) (fill_le_one : fill ≤ 1) (airFastPath : Bool)
    (positive : ∀ direction light, incoming direction = some light → light.Nonneg)
    (nonneg : there.Nonneg) :
    (propagateCell properties fill airFastPath incoming there).Nonneg ∧
      ∀ which, (propagateCell properties fill airFastPath incoming there).total.component which ≤
        there.total.component which + ∑ direction, arriving incoming which direction := by
  unfold propagateCell
  dsimp only
  split
  case isTrue =>
    obtain ⟨forwarded, total⟩ := foldl_forwardRay positive LightDir.all nonneg
    exact ⟨forwarded, fun which => (total which).le⟩
  case isFalse =>
    obtain ⟨light, diffuse, held⟩ := foldl_receiveRay ⟨there, RgbF.black⟩
      (passive_materialFactors physical fill_nonneg fill_le_one) positive LightDir.all
      nonneg fun which => (RgbF.component_black which).ge
    have start (which : ColorComponent) :
        (⟨there, RgbF.black⟩ : Gathered K).held which = there.total.component which := by
      rw [Gathered.held, RgbF.component_black, add_zero]
    simp only [start] at held
    split
    case isTrue =>
      obtain ⟨spreads, total⟩ := spread_spec light diffuse
      exact ⟨spreads, fun which => (total which).le.trans (held which)⟩
    case isFalse =>
      exact ⟨light, fun which => (le_add_of_nonneg_right (diffuse which)).trans (held which)⟩

end LightPropagator

/-! ## The light of a field -/

namespace LightField

def total (field : LightField K) (which : ColorComponent) : K :=
  ((Grid.coordinates field.width field.height).map fun (x, y) =>
    (light field x y).total.component which).sum

def Nonneg [LinearOrder K] (field : LightField K) : Prop := ∀ x y, (light field x y).Nonneg

def places (width height : ℕ) : Finset (ℤ × ℤ) :=
  (Grid.coordinates width height).toFinset

theorem mem_places {width height : ℕ} {place : ℤ × ℤ} :
    place ∈ places width height ↔
      0 ≤ place.1 ∧ 0 ≤ place.2 ∧ place.1 < width ∧ place.2 < height := by
  rw [places, List.mem_toFinset]
  exact Grid.mem_coordinates

theorem total_eq_sum (field : LightField K) (which : ColorComponent) :
    total field which = ∑ place ∈ places field.width field.height, ∑ direction,
      ((light field place.1 place.2).channel direction).component which := by
  rw [places, List.sum_toFinset _ (Grid.nodup_coordinates _ _), total]
  refine congrArg List.sum (List.map_congr_left fun place _ => ?_)
  exact (light field place.1 place.2).component_total which

theorem light_generate (width height : ℕ) (value : ℤ → ℤ → DirectionalLight K) (x y : ℤ) :
    light (Grid.generate width height value) x y =
      if 0 ≤ x ∧ 0 ≤ y ∧ x < width ∧ y < height then value x y else DirectionalLight.dark := by
  rw [light, Grid.get?_generate]
  split <;> rfl

theorem light_cleared (width height : ℕ) (x y : ℤ) :
    light (cleared width height : LightField K) x y = DirectionalLight.dark := by
  rw [cleared, light_generate]
  split <;> rfl

end LightField

namespace LightPropagator

variable [LinearOrder K] [IsStrictOrderedRing K]

/-- Light comes from another cell for each direction. -/
def rays : Gathering (ℤ × ℤ) LightDir where
  upstream direction place := (place.1 + direction.upstream.1, place.2 + direction.upstream.2)
  injective direction first second same := by
    have across := (Prod.mk.inj same).1
    have down := (Prod.mk.inj same).2
    exact Prod.ext (add_right_cancel across) (add_right_cancel down)

/-- The cells of a world are filled between nothing and everything. -/
def Filled (data : CellArray K) : Prop :=
  ∀ x y cell, data.get? x y = some cell → 0 ≤ cell.fillRatio ∧ cell.fillRatio ≤ 1

variable {lights : Material → LightProperties K} {data : CellArray K} {src : LightField K}
variable {source : Source K}

theorem lightAt_spec (physical : ∀ material, (lights material).Physical) (filled : Filled data)
    (x y : ℤ) :
    (lightAt lights data x y).1.Physical ∧ 0 ≤ (lightAt lights data x y).2 ∧
      (lightAt lights data x y).2 ≤ 1 := by
  unfold lightAt
  cases found : data.get? x y with
  | none => exact ⟨physical .air, le_refl 0, zero_le_one⟩
  | some cell => exact ⟨physical cell.materialType, filled x y cell found⟩

omit [LinearOrder K] [IsStrictOrderedRing K] in
theorem arriving_incomingAt (width height : ℕ) (which : ColorComponent) (place : ℤ × ℤ)
    (direction : LightDir) :
    arriving (incomingAt width height src place.1 place.2) which direction =
      rays.gathered (LightField.places width height)
        (fun place direction =>
          ((LightField.light src place.1 place.2).channel direction).component which)
        place direction := by
  unfold arriving incomingAt Gathering.gathered
  by_cases outside : place.1 + direction.upstream.1 < 0 ∨
      place.1 + direction.upstream.1 ≥ width ∨ place.2 + direction.upstream.2 < 0 ∨
        place.2 + direction.upstream.2 ≥ height
  · have missing : ¬ rays.upstream direction place ∈ LightField.places width height := by
      rw [LightField.mem_places]
      change ¬ (0 ≤ place.1 + direction.upstream.1 ∧ 0 ≤ place.2 + direction.upstream.2 ∧
        place.1 + direction.upstream.1 < width ∧ place.2 + direction.upstream.2 < height)
      omega
    rw [if_pos outside, if_neg missing]
  · have inside : rays.upstream direction place ∈ LightField.places width height := by
      rw [LightField.mem_places]
      change 0 ≤ place.1 + direction.upstream.1 ∧ 0 ≤ place.2 + direction.upstream.2 ∧
        place.1 + direction.upstream.1 < width ∧ place.2 + direction.upstream.2 < height
      omega
    rw [if_neg outside, if_pos inside]
    rfl

/-- **Transport.** A step from a cleared field leaves nothing negative and no more light than
there was, of any color. -/
theorem propagateFieldStep_le (physical : ∀ material, (lights material).Physical)
    (filled : Filled data) (airFastPath : Bool) (nonneg : LightField.Nonneg src)
    (width : src.width = data.width) (height : src.height = data.height) :
    LightField.Nonneg (propagateFieldStep lights data airFastPath src
        (LightField.cleared data.width data.height)) ∧
      ∀ which, LightField.total (propagateFieldStep lights data airFastPath src
        (LightField.cleared data.width data.height)) which ≤ LightField.total src which := by
  have positive (x y : ℤ) (direction : LightDir) (light : RgbF K)
      (comes : incomingAt data.width data.height src x y direction = some light) :
      light.Nonneg := by
    unfold incomingAt at comes
    dsimp only at comes
    split at comes
    · cases comes
    · cases comes
      exact nonneg _ _ direction
  have cell (x y : ℤ) := propagateCell_spec
    (LightField.light (LightField.cleared data.width data.height) x y) (lightAt_spec physical filled x y).1
    (lightAt_spec physical filled x y).2.1 (lightAt_spec physical filled x y).2.2 airFastPath
    (positive x y) (by rw [LightField.light_cleared]; exact DirectionalLight.nonneg_dark)
  constructor
  · intro x y
    rw [propagateFieldStep, LightField.light_generate]
    split
    · exact (cell x y).1
    · exact DirectionalLight.nonneg_dark
  · intro which
    rw [LightField.total_eq_sum, LightField.total_eq_sum, width, height]
    change ∑ place ∈ LightField.places data.width data.height, _ ≤ _
    refine rays.sum_le (fun place direction => nonneg place.1 place.2 direction which) ?_
    intro place member
    rw [propagateFieldStep, LightField.light_generate, if_pos (LightField.mem_places.mp member),
      ← DirectionalLight.component_total]
    have passes := (cell place.1 place.2).2 which
    rw [LightField.light_cleared] at passes ⊢
    have dark : (DirectionalLight.dark : DirectionalLight K).total.component which = 0 := by
      rw [DirectionalLight.component_total]
      exact Finset.sum_eq_zero fun direction _ => RgbF.component_black which
    rw [dark, zero_add] at passes
    simp only [arriving_incomingAt] at passes
    exact passes

/-! ## Sources -/

def injected (lights : Material → LightProperties K) (data : CellArray K) (config : LightConfig K)
    (overlay : Grid (Emissive K)) (which : ColorComponent) : K :=
  ((sources lights data config overlay).map fun source => source.light.component which).sum

theorem nonneg_times {color : RgbF K} (nonneg : color.Nonneg) {scale : K} (positive : 0 ≤ scale) :
    (color.times scale).Nonneg := by
  intro which
  rw [RgbF.component_times]
  exact mul_nonneg (nonneg which) positive

theorem nonneg_toRgbF (color : UInt32) : (RgbF.toRgbF color : RgbF K).Nonneg := fun which =>
  (RgbF.component_toRgbF_mem color which).1

theorem nonneg_skySources {config : LightConfig K} {x : ℤ}
    (member : source ∈ skySources lights data config x) : source.light.Nonneg := by
  unfold skySources at member
  dsimp only at member
  split at member
  case isTrue => exact absurd member List.not_mem_nil
  case isFalse bright =>
    have transmit := le_trans (by positivity) (not_lt.mp bright)
    rcases List.mem_append.mp member with fromSun | fromSky
    · split at fromSun
      case isTrue sun =>
        obtain rfl := List.mem_singleton.mp fromSun
        exact nonneg_times (nonneg_times (nonneg_toRgbF _) sun.le) transmit
      case isFalse => exact absurd fromSun List.not_mem_nil
    · split at fromSky
      case isTrue sky =>
        have lit {share : K} (positive : 0 ≤ share) :
            ((((RgbF.toRgbF config.skyColor).times config.skyIntensity).times share).times
              (1 - (lightAt lights data x 0).1.opacity *
                (lightAt lights data x 0).2)).Nonneg :=
          nonneg_times (nonneg_times (nonneg_times (nonneg_toRgbF _) sky.le) positive) transmit
        simp only [List.mem_cons, List.not_mem_nil, or_false] at fromSky
        rcases fromSky with rfl | rfl | rfl <;> exact lit (by positivity)
      case isFalse => exact absurd fromSky List.not_mem_nil

omit [Field K] [LinearOrder K] [IsStrictOrderedRing K] in
theorem light_of_mem_around {x y : ℤ} {light : RgbF K} (member : source ∈ around x y light) :
    source.light = light := by
  obtain ⟨direction, _, rfl⟩ := List.mem_map.mp member
  rfl

theorem nonneg_emissiveSources {x y : ℤ} (member : source ∈ emissiveSources lights data x y) :
    source.light.Nonneg := by
  unfold emissiveSources at member
  dsimp only at member
  split at member
  case isTrue glows =>
    rw [light_of_mem_around member]
    exact nonneg_times (nonneg_times (nonneg_times (nonneg_toRgbF _) glows.1.le) glows.2.le)
      (by positivity)
  case isFalse => exact absurd member List.not_mem_nil

theorem Emissive.nonneg_of_shines {emissive : Emissive K} (shines : emissive.light.shines = true) :
    emissive.light.Nonneg := by
  refine nonneg_times (nonneg_toRgbF _) (le_of_not_gt fun negative => ?_)
  have dull (which : ColorComponent) : emissive.light.component which ≤ 0 := by
    rw [Emissive.light, RgbF.component_times]
    exact mul_nonpos_of_nonneg_of_nonpos (nonneg_toRgbF _ which) negative.le
  simp only [RgbF.shines, Bool.or_eq_true, decide_eq_true_eq] at shines
  rcases shines with (red | green) | blue
  · exact absurd red (not_lt.mpr (dull .red))
  · exact absurd green (not_lt.mpr (dull .green))
  · exact absurd blue (not_lt.mpr (dull .blue))

theorem nonneg_overlaySources {overlay : Grid (Emissive K)} {x y : ℤ}
    (member : source ∈ overlaySources overlay x y) : source.light.Nonneg := by
  unfold overlaySources at member
  split at member
  · exact absurd member List.not_mem_nil
  · split at member
    case isTrue shines =>
      have fraction : (0 : K) ≤ kOverlayGlowFraction := by
        unfold kOverlayGlowFraction
        positivity
      rw [light_of_mem_around member]
      exact nonneg_times (nonneg_times (Emissive.nonneg_of_shines shines) fraction)
        (by positivity)
    case isFalse => exact absurd member List.not_mem_nil

theorem nonneg_sources {config : LightConfig K} {overlay : Grid (Emissive K)}
    (member : source ∈ sources lights data config overlay) : source.light.Nonneg := by
  rcases List.mem_append.mp member with fromMatter | fromOverlay
  · rcases List.mem_append.mp fromMatter with fromAbove | fromCell
    · split at fromAbove
      case isTrue =>
        obtain ⟨x, _, listed⟩ := List.mem_flatMap.mp fromAbove
        exact nonneg_skySources listed
      case isFalse => exact absurd fromAbove List.not_mem_nil
    · obtain ⟨place, _, listed⟩ := List.mem_flatMap.mp fromCell
      exact nonneg_emissiveSources listed
  · obtain ⟨place, _, listed⟩ := List.mem_flatMap.mp fromOverlay
    exact nonneg_overlaySources listed

theorem inject_spec {field : LightField K} (nonneg : LightField.Nonneg field)
    (positive : source.light.Nonneg) :
    LightField.Nonneg (inject field source) ∧
      ∀ which, LightField.total (inject field source) which ≤
        LightField.total field which + source.light.component which := by
  have after (x y : ℤ) (direction : LightDir) (which : ColorComponent) :
      0 ≤ ((LightField.light (inject field source) x y).channel direction).component which ∧
        ((LightField.light (inject field source) x y).channel direction).component which ≤
          ((LightField.light field x y).channel direction).component which +
            if (x, y) = (source.x, source.y) then
              if direction = source.direction then source.light.component which else 0
            else 0 := by
    have before := nonneg x y direction which
    unfold inject LightField.light
    rw [Grid.get?_set]
    by_cases here : x = source.x ∧ y = source.y ∧ field.InBounds source.x source.y
    · obtain ⟨rfl, rfl, inside⟩ := here
      rw [if_pos ⟨rfl, rfl, inside⟩, if_pos rfl, Option.getD_some]
      unfold DirectionalLight.plus
      dsimp only
      by_cases same : direction = source.direction
      · subst same
        rw [Function.update_self, RgbF.component_plus, if_pos rfl]
        have limit : (0 : K) ≤ RgbF.kMaxHdr := by
          unfold RgbF.kMaxHdr
          positivity
        exact ⟨le_min limit (add_nonneg before (positive which)), min_le_right _ _⟩
      · rw [Function.update_of_ne same, if_neg same, add_zero]
        exact ⟨before, le_refl _⟩
    · rw [if_neg here]
      refine ⟨before, le_add_of_nonneg_right ?_⟩
      split
      · split
        · exact positive which
        · exact le_refl 0
      · exact le_refl 0
  refine ⟨fun x y direction which => (after x y direction which).1, fun which => ?_⟩
  have size : (inject field source).width = field.width ∧
      (inject field source).height = field.height :=
    ⟨Grid.set_width _ _ _ _, Grid.set_height _ _ _ _⟩
  rw [LightField.total_eq_sum, LightField.total_eq_sum, size.1, size.2]
  calc _ ≤ ∑ place ∈ LightField.places field.width field.height, ∑ direction,
        (((LightField.light field place.1 place.2).channel direction).component which +
          if place = (source.x, source.y) then
            if direction = source.direction then source.light.component which else 0
          else 0) :=
        Finset.sum_le_sum fun place _ => Finset.sum_le_sum fun direction _ =>
          (after place.1 place.2 direction which).2
    _ = ∑ place ∈ LightField.places field.width field.height, ∑ direction,
          ((LightField.light field place.1 place.2).channel direction).component which +
        ∑ place ∈ LightField.places field.width field.height,
          if place = (source.x, source.y) then source.light.component which else 0 := by
        rw [← Finset.sum_add_distrib]
        refine Finset.sum_congr rfl fun place _ => ?_
        rw [Finset.sum_add_distrib]
        refine congrArg (_ + ·) ?_
        split
        · rw [Finset.sum_ite_eq', if_pos (Finset.mem_univ _)]
        · exact Finset.sum_const_zero
    _ ≤ _ := by
        refine add_le_add_right ?_ _
        rw [Finset.sum_ite_eq']
        split
        · exact le_refl _
        · exact positive which

theorem foldl_inject {field : LightField K} (nonneg : LightField.Nonneg field)
    (given : List (Source K)) (positive : ∀ source ∈ given, source.light.Nonneg) :
    LightField.Nonneg (given.foldl inject field) ∧
      (given.foldl inject field).width = field.width ∧
      (given.foldl inject field).height = field.height ∧
      ∀ which, LightField.total (given.foldl inject field) which ≤
        LightField.total field which +
          (given.map fun source => source.light.component which).sum := by
  induction given generalizing field with
  | nil => exact ⟨nonneg, rfl, rfl, fun which => (add_zero _).ge⟩
  | cons source given ih =>
      obtain ⟨nonneg', more⟩ := inject_spec nonneg (positive source List.mem_cons_self)
      obtain ⟨nonneg'', width, height, rest⟩ :=
        ih nonneg' fun other listed => positive other (List.mem_cons_of_mem _ listed)
      refine ⟨nonneg'', width.trans (Grid.set_width _ _ _ _), height.trans (Grid.set_height _ _ _ _),
        fun which => (rest which).trans ?_⟩
      rw [List.map_cons, List.sum_cons, ← add_assoc]
      exact add_le_add_left (more which) _

/-! ## Frames -/

/-- A field that fits a world, without negative light. -/
structure Lit (data : CellArray K) (field : LightField K) : Prop where
  nonneg : LightField.Nonneg field
  width : field.width = data.width
  height : field.height = data.height

omit [IsStrictOrderedRing K] in
theorem lit_cleared (data : CellArray K) :
    Lit data (LightField.cleared data.width data.height) where
  nonneg x y := by
    rw [LightField.light_cleared]
    exact DirectionalLight.nonneg_dark
  width := rfl
  height := rfl

omit [LinearOrder K] [IsStrictOrderedRing K] in
theorem total_cleared (width height : ℕ) (which : ColorComponent) :
    LightField.total (LightField.cleared width height : LightField K) which = 0 := by
  rw [LightField.total_eq_sum]
  refine Finset.sum_eq_zero fun place _ => Finset.sum_eq_zero fun direction _ => ?_
  rw [LightField.light_cleared]
  exact RgbF.component_black which

section

variable (physical : ∀ material, (lights material).Physical) (filled : Filled data)
  (config : LightConfig K) (overlay : Grid (Emissive K))
include physical filled config overlay

theorem step_spec {field : LightField K} (lit : Lit data field) :
    Lit data (step lights data config overlay field) ∧
      ∀ which, LightField.total (step lights data config overlay field) which ≤
        LightField.total field which + injected lights data config overlay which := by
  obtain ⟨nonneg, moved⟩ := propagateFieldStep_le physical filled config.airFastPath lit.nonneg
    lit.width lit.height
  obtain ⟨nonneg', width, height, more⟩ := foldl_inject nonneg
    (sources lights data config overlay) fun source member => nonneg_sources member
  exact ⟨⟨nonneg', width, height⟩, fun which => (more which).trans (add_le_add_left (moved which) _)⟩

theorem steps_spec (count : ℕ) {field : LightField K} (lit : Lit data field) :
    Lit data (steps lights data config overlay count field) ∧
      ∀ which, LightField.total (steps lights data config overlay count field) which ≤
        LightField.total field which + count * injected lights data config overlay which := by
  induction count generalizing field with
  | zero =>
      refine ⟨lit, fun which => ?_⟩
      rw [Nat.cast_zero, zero_mul, add_zero]
      rfl
  | succ count ih =>
      obtain ⟨lit', one⟩ := step_spec physical filled config overlay lit
      obtain ⟨lit'', rest⟩ := ih lit'
      refine ⟨lit'', fun which => (rest which).trans ?_⟩
      rw [Nat.cast_succ]
      linarith [one which]

end

def LightFrame.injected (lights : Material → LightProperties K) (frame : LightFrame K)
    (which : ColorComponent) : K :=
  LightPropagator.injected lights frame.data frame.config frame.overlay which

/-- A frame without persistence of a world of some size, filled as worlds are. -/
structure Plain (width height : ℕ) (frame : LightFrame K) : Prop where
  width : frame.data.width = width
  height : frame.data.height = height
  filled : Filled frame.data
  nonTemporal : frame.config.temporalPersistence = false

theorem calculate_spec (propagator : LightPropagator K)
    (physical : ∀ material, (lights material).Physical) {width height : ℕ}
    {frame : LightFrame K} (plain : Plain width height frame)
    (lit : Lit frame.data propagator.lightField) :
    Lit frame.data (calculate lights propagator frame).lightField ∧
      ∀ which, LightField.total (calculate lights propagator frame).lightField which ≤
        LightField.total propagator.lightField which +
          frame.stepCount * frame.injected lights which := by
  have total_nonneg (which : ColorComponent) : 0 ≤ LightField.total propagator.lightField which := by
    rw [LightField.total_eq_sum]
    exact Finset.sum_nonneg fun place _ => Finset.sum_nonneg fun direction _ =>
      lit.nonneg place.1 place.2 direction which
  have stepped := steps_spec physical plain.filled frame.config frame.overlay frame.stepCount lit
  have ordinary (propagating : frame.config.mode ≠ .flatBasic) :
      (calculate lights propagator frame).lightField = steps lights frame.data frame.config
        frame.overlay frame.stepCount propagator.lightField := by
    unfold calculate
    dsimp only
    rw [plain.nonTemporal, if_neg Bool.false_ne_true, if_neg fun flat => propagating flat.1]
    cases mode : frame.config.mode with
    | propagated => rfl
    | fast => rfl
    | flatBasic => exact absurd mode propagating
  cases mode : frame.config.mode with
  | propagated =>
      rw [ordinary (by rw [mode]; exact LightMode.noConfusion)]
      exact stepped
  | fast =>
      rw [ordinary (by rw [mode]; exact LightMode.noConfusion)]
      exact stepped
  | flatBasic =>
      have none : frame.stepCount = 0 := by
        unfold LightFrame.stepCount
        rw [mode]
      have field : (calculate lights propagator frame).lightField =
          if frame.config.mode = .flatBasic ∧ ¬ propagator.inFlatBasicMode then
            LightField.cleared frame.data.width frame.data.height
          else propagator.lightField := by
        unfold calculate
        rw [mode]
      rw [field, none, Nat.cast_zero]
      split
      · refine ⟨lit_cleared frame.data, fun which => ?_⟩
        rw [total_cleared, zero_mul, add_zero]
        exact total_nonneg which
      · refine ⟨lit, fun which => ?_⟩
        rw [zero_mul, add_zero]

theorem frames_spec (physical : ∀ material, (lights material).Physical) {width height : ℕ}
    (frames : List (LightFrame K)) (plain : ∀ frame ∈ frames, Plain width height frame)
    (propagator : LightPropagator K) (nonneg : LightField.Nonneg propagator.lightField)
    (isWidth : propagator.lightField.width = width)
    (isHeight : propagator.lightField.height = height) (which : ColorComponent) {bound : K}
    (bounded : ∀ frame ∈ frames, frame.injected lights which ≤ bound) :
    LightField.Nonneg (frames.foldl (calculate lights) propagator).lightField ∧
      LightField.total (frames.foldl (calculate lights) propagator).lightField which ≤
        LightField.total propagator.lightField which +
          (frames.map LightFrame.stepCount).sum * bound := by
  induction frames generalizing propagator with
  | nil =>
      refine ⟨nonneg, ?_⟩
      rw [List.map_nil, List.sum_nil, Nat.cast_zero, zero_mul, add_zero]
      rfl
  | cons frame frames ih =>
      have isPlain := plain frame List.mem_cons_self
      obtain ⟨lit, more⟩ := calculate_spec propagator physical isPlain
        ⟨nonneg, isWidth.trans isPlain.width.symm, isHeight.trans isPlain.height.symm⟩
      obtain ⟨nonneg', rest⟩ := ih (fun other listed => plain other (List.mem_cons_of_mem _ listed))
        _ lit.nonneg (lit.width.trans isPlain.width) (lit.height.trans isPlain.height)
        fun other listed => bounded other (List.mem_cons_of_mem _ listed)
      refine ⟨nonneg', rest.trans ?_⟩
      have share := mul_le_mul_of_nonneg_left (bounded frame List.mem_cons_self)
        (Nat.cast_nonneg (α := K) frame.stepCount)
      rw [List.map_cons, List.sum_cons, Nat.cast_add, add_mul]
      linarith [more which]

def dirtCell : CellArray ℚ where
  toGrid := Grid.generate 1 1 fun _ _ => { Cell.blank with materialType := .dirt, fillRatio := 1 / 2 }
  width_pos := Nat.one_pos
  height_pos := Nat.one_pos
  width_le := Nat.le_of_ble_eq_true rfl
  height_le := Nat.le_of_ble_eq_true rfl

theorem filled_dirtCell : Filled dirtCell := by
  intro x y cell found
  rw [dirtCell, Grid.get?_generate] at found
  split at found
  · cases found
    exact ⟨by norm_num, by norm_num⟩
  · cases found

def whiteLight : LightField ℚ := Grid.generate 1 1 fun _ _ => ⟨fun _ => RgbF.white⟩

theorem nonneg_whiteLight : LightField.Nonneg whiteLight := by
  intro x y
  rw [whiteLight, LightField.light_generate]
  split
  · exact fun direction which => by rw [RgbF.component_white]; exact zero_le_one
  · exact DirectionalLight.nonneg_dark

end LightPropagator

end DirtSim
