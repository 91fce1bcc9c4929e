import DirtSim.Light.RgbF
import Mathlib.Logic.Function.Basic

/-! # The propagated light field

In a step every cell takes the light that its neighbours send to it, lets some of it through, throws
some back and spreads some; then the sources put new light in, up to a limit. A frame takes a number
of such steps, or, where light persists, dims the field and takes one. Numbers are exact.
-/

namespace DirtSim

open Foundation

inductive LightDir
  | north | northEast | east | southEast | south | southWest | west | northWest
deriving DecidableEq, Repr

namespace LightDir

def all : List LightDir :=
  [north, northEast, east, southEast, south, southWest, west, northWest]

def upstream : LightDir → ℤ × ℤ
  | north => (0, 1)
  | northEast => (-1, 1)
  | east => (-1, 0)
  | southEast => (-1, -1)
  | south => (0, -1)
  | southWest => (1, -1)
  | west => (1, 0)
  | northWest => (1, 1)

def opposite : LightDir → LightDir
  | north => south
  | northEast => southWest
  | east => west
  | southEast => northWest
  | south => north
  | southWest => northEast
  | west => east
  | northWest => southEast

variable {K : Type*} [Field K]

def kCardinalWeight : K := 1

def kDiagonalWeight : K := 707 / 1000

def kTotalWeight : K := 4 * kCardinalWeight + 4 * kDiagonalWeight

def weight : LightDir → K
  | north | east | south | west => kCardinalWeight / kTotalWeight
  | northEast | southEast | southWest | northWest => kDiagonalWeight / kTotalWeight

end LightDir

/-- The light of a cell in each direction. -/
structure DirectionalLight (K : Type*) where
  channel : LightDir → RgbF K

namespace DirectionalLight

variable {K : Type*} [Field K]

def dark : DirectionalLight K := ⟨fun _ => RgbF.black⟩

def total (light : DirectionalLight K) : RgbF K :=
  LightDir.all.foldl (fun sum direction => sum.added (light.channel direction)) RgbF.black

def add (light : DirectionalLight K) (direction : LightDir) (more : RgbF K) : DirectionalLight K :=
  ⟨Function.update light.channel direction ((light.channel direction).added more)⟩

def plus [LinearOrder K] (light : DirectionalLight K) (direction : LightDir) (more : RgbF K) :
    DirectionalLight K :=
  ⟨Function.update light.channel direction ((light.channel direction).plus more)⟩

end DirectionalLight

abbrev LightField (K : Type*) := Grid (DirectionalLight K)

namespace LightField

variable {K : Type*} [Field K]

def light (field : LightField K) (x y : ℤ) : DirectionalLight K :=
  (field.get? x y).getD DirectionalLight.dark

def cleared (width height : ℕ) : LightField K :=
  Grid.generate width height fun _ _ => DirectionalLight.dark

end LightField

namespace LightPropagator

variable {K : Type*} [Field K] [LinearOrder K]

/-! ## Transport -/

def kTransparentThreshold : K := 1 / 100

/-- What a cell has passed on so far, and what it will spread. -/
structure Gathered (K : Type*) where
  light : DirectionalLight K
  diffuse : RgbF K

/-- The factors that a cell's material has for light passed on, thrown back and spread. -/
structure MaterialFactors (K : Type*) where
  transmitTint : RgbF K
  specularTint : RgbF K
  diffuseTint : RgbF K

def materialFactors (properties : LightProperties K) (fill : K) : MaterialFactors K :=
  let effOpacity := properties.opacity * fill
  let transmit := 1 - effOpacity
  let effTint := RgbF.white.lerp (RgbF.toRgbF properties.tint) fill
  let scatterFactor := effOpacity * properties.scatter
  { transmitTint := effTint.times transmit
    specularTint := effTint.times (scatterFactor * properties.specularity)
    diffuseTint := effTint.times (scatterFactor * (1 - properties.specularity)) }

def receiveRay (factors : MaterialFactors K) (incoming : LightDir → Option (RgbF K))
    (gathered : Gathered K) (direction : LightDir) : Gathered K :=
  match incoming direction with
  | none => gathered
  | some light =>
      if light.faint then gathered
      else
        { light := (gathered.light.add direction (light.timesColor factors.transmitTint)).add
            direction.opposite (light.timesColor factors.specularTint)
          diffuse := gathered.diffuse.added (light.timesColor factors.diffuseTint) }

/-- A ray passes through a cell that counts as air. -/
def forwardRay (incoming : LightDir → Option (RgbF K)) (light : DirectionalLight K)
    (direction : LightDir) : DirectionalLight K :=
  match incoming direction with
  | none => light
  | some ray => light.add direction ray

def spread (light : DirectionalLight K) (diffuse : RgbF K) : DirectionalLight K :=
  LightDir.all.foldl
    (fun light direction => light.add direction (diffuse.times direction.weight)) light

/-- What a cell makes of the light that arrives, added to what is there. -/
def propagateCell (properties : LightProperties K) (fill : K) (airFastPath : Bool)
    (incoming : LightDir → Option (RgbF K)) (there : DirectionalLight K) : DirectionalLight K :=
  let effOpacity := properties.opacity * fill
  if airFastPath ∧ effOpacity < kTransparentThreshold then
    LightDir.all.foldl (forwardRay incoming) there
  else
    let gathered := LightDir.all.foldl
      (receiveRay (materialFactors properties fill) incoming) ⟨there, RgbF.black⟩
    if gathered.diffuse.shines then spread gathered.light gathered.diffuse else gathered.light

/-- The light on its way to a cell; from outside the grid none comes. -/
def incomingAt (width height : ℕ) (src : LightField K) (x y : ℤ) (direction : LightDir) :
    Option (RgbF K) :=
  let ux := x + direction.upstream.1
  let uy := y + direction.upstream.2
  if ux < 0 ∨ ux ≥ width ∨ uy < 0 ∨ uy ≥ height then none
  else some ((LightField.light src ux uy).channel direction)

def lightAt (lights : Material → LightProperties K) (data : CellArray K) (x y : ℤ) :
    LightProperties K × K :=
  match data.get? x y with
  | none => (lights .air, 0)
  | some cell => (lights cell.materialType, cell.fillRatio)

def propagateFieldStep (lights : Material → LightProperties K) (data : CellArray K)
    (airFastPath : Bool) (src dst : LightField K) : LightField K :=
  Grid.generate data.width data.height fun x y =>
    propagateCell (lightAt lights data x y).1 (lightAt lights data x y).2 airFastPath
      (incomingAt data.width data.height src x y) (LightField.light dst x y)

/-! ## Sources -/

inductive LightMode
  | propagated | fast | flatBasic
deriving DecidableEq, Repr

structure LightConfig (K : Type*) where
  mode : LightMode
  airFastPath : Bool
  skyColor : UInt32
  skyIntensity : K
  stepsPerFrame : ℤ
  sunColor : UInt32
  sunIntensity : K
  temporalDecay : K
  temporalPersistence : Bool

/-- What a cell of the overlay was last set to: a color and its intensity, zero where it was
cleared. -/
structure Emissive (K : Type*) where
  color : UInt32
  intensity : K

def Emissive.light (emissive : Emissive K) : RgbF K :=
  (RgbF.toRgbF emissive.color).times emissive.intensity

/-- Light that a source puts into a cell, in one direction. -/
structure Source (K : Type*) where
  x : ℤ
  y : ℤ
  direction : LightDir
  light : RgbF K

def skySources (lights : Material → LightProperties K) (data : CellArray K) (config : LightConfig K)
    (x : ℤ) : List (Source K) :=
  let sun : RgbF K := (RgbF.toRgbF config.sunColor).times config.sunIntensity
  let sky : RgbF K := (RgbF.toRgbF config.skyColor).times config.skyIntensity
  let transmit := 1 - (lightAt lights data x 0).1.opacity * (lightAt lights data x 0).2
  if transmit < 1 / 1000 then []
  else
    (if config.sunIntensity > 0 then [⟨x, 0, .south, sun.times transmit⟩] else []) ++
      if config.skyIntensity > 0 then
        [⟨x, 0, .south, (sky.times (1 / 2)).times transmit⟩,
          ⟨x, 0, .southEast, (sky.times (1 / 4)).times transmit⟩,
          ⟨x, 0, .southWest, (sky.times (1 / 4)).times transmit⟩]
      else []

def around (x y : ℤ) (light : RgbF K) : List (Source K) :=
  LightDir.all.map fun direction => ⟨x, y, direction, light⟩

def emissiveSources (lights : Material → LightProperties K) (data : CellArray K) (x y : ℤ) :
    List (Source K) :=
  let properties := (lightAt lights data x y).1
  let fill := (lightAt lights data x y).2
  if properties.emission > 0 ∧ fill > 0 then
    let emission := ((RgbF.toRgbF properties.emissionColor).times properties.emission).times fill
    around x y (emission.times (1 / 8))
  else []

def kOverlayGlowFraction : K := 3 / 100

def overlaySources (overlay : Grid (Emissive K)) (x y : ℤ) : List (Source K) :=
  match overlay.get? x y with
  | none => []
  | some emissive =>
      if emissive.light.shines then
        around x y ((emissive.light.times kOverlayGlowFraction).times (1 / 8))
      else []

def sources (lights : Material → LightProperties K) (data : CellArray K) (config : LightConfig K)
    (overlay : Grid (Emissive K)) : List (Source K) :=
  (if config.sunIntensity > 0 ∨ config.skyIntensity > 0 then
    (List.range data.width).flatMap fun x => skySources lights data config x
  else []) ++
    (Grid.coordinates data.width data.height).flatMap (fun (x, y) =>
      emissiveSources lights data x y) ++
    (Grid.coordinates data.width data.height).flatMap fun (x, y) => overlaySources overlay x y

def inject (field : LightField K) (source : Source K) : LightField K :=
  field.set source.x source.y
    ((LightField.light field source.x source.y).plus source.direction source.light)

def injectSources (lights : Material → LightProperties K) (data : CellArray K)
    (config : LightConfig K) (overlay : Grid (Emissive K)) (field : LightField K) : LightField K :=
  (sources lights data config overlay).foldl inject field

/-! ## Frames -/

def step (lights : Material → LightProperties K) (data : CellArray K) (config : LightConfig K)
    (overlay : Grid (Emissive K)) (field : LightField K) : LightField K :=
  injectSources lights data config overlay
    (propagateFieldStep lights data config.airFastPath field
      (LightField.cleared data.width data.height))

def steps (lights : Material → LightProperties K) (data : CellArray K) (config : LightConfig K)
    (overlay : Grid (Emissive K)) : ℕ → LightField K → LightField K
  | 0, field => field
  | count + 1, field => steps lights data config overlay count (step lights data config overlay field)

def dimmed (decay : K) (field : LightField K) : LightField K :=
  field.mapCells fun _ _ light => ⟨fun direction => (light.channel direction).times decay⟩

end LightPropagator

open LightPropagator

/-- What is kept of the light from one frame to the next. -/
structure LightPropagator (K : Type*) where
  lightField : LightField K
  inFlatBasicMode : Bool := false

namespace LightPropagator

variable {K : Type*} [Field K] [LinearOrder K]

/-- What a frame is calculated from. -/
structure LightFrame (K : Type*) where
  data : CellArray K
  config : LightConfig K
  overlay : Grid (Emissive K)

def LightFrame.stepCount (frame : LightFrame K) : ℕ :=
  match frame.config.mode with
  | .propagated | .fast =>
      if frame.config.temporalPersistence then 1 else frame.config.stepsPerFrame.toNat
  | .flatBasic => 0

/-- What becomes of the field in a frame. A world of another size would resize it. -/
def calculate (lights : Material → LightProperties K) (propagator : LightPropagator K)
    (frame : LightFrame K) : LightPropagator K :=
  let field :=
    if frame.config.mode = .flatBasic ∧ ¬ propagator.inFlatBasicMode then
      LightField.cleared frame.data.width frame.data.height
    else propagator.lightField
  { lightField :=
      match frame.config.mode with
      | .propagated | .fast =>
          if frame.config.temporalPersistence then
            step lights frame.data frame.config frame.overlay
              (dimmed frame.config.temporalDecay field)
          else
            steps lights frame.data frame.config frame.overlay frame.stepCount field
      | .flatBasic => field
    inFlatBasicMode := frame.config.mode = .flatBasic }

end LightPropagator

end DirtSim
