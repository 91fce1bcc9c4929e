import DirtSim.Core.Cell
import Mathlib.Algebra.Order.Field.Basic

/-! # Colors of light, and what materials do to it

A color has three components, which light transport treats alike. Of a material it reads how much
light is stopped, how much of that is sent on again and where to, what color is filtered out and
what the material sends out itself.
-/

namespace DirtSim

structure RgbF (K : Type*) where
  r : K
  g : K
  b : K
deriving DecidableEq, Repr

/-- The components of a color. -/
inductive ColorComponent
  | red | green | blue
deriving DecidableEq, Repr

namespace RgbF

variable {K : Type*}

def component (color : RgbF K) : ColorComponent → K
  | .red => color.r
  | .green => color.g
  | .blue => color.b

variable [Field K]

def black : RgbF K := ⟨0, 0, 0⟩

def white : RgbF K := ⟨1, 1, 1⟩

def times (color : RgbF K) (scale : K) : RgbF K :=
  ⟨color.r * scale, color.g * scale, color.b * scale⟩

def timesColor (color other : RgbF K) : RgbF K :=
  ⟨color.r * other.r, color.g * other.g, color.b * other.b⟩

def added (color other : RgbF K) : RgbF K :=
  ⟨color.r + other.r, color.g + other.g, color.b + other.b⟩

def lerp (a b : RgbF K) (t : K) : RgbF K :=
  ⟨a.r + (b.r - a.r) * t, a.g + (b.g - a.g) * t, a.b + (b.b - a.b) * t⟩

def toRgbF (color : UInt32) : RgbF K :=
  let inv255 : K := 1 / 255
  ⟨((color >>> 24) &&& 0xFF).toNat * inv255, ((color >>> 16) &&& 0xFF).toNat * inv255,
    ((color >>> 8) &&& 0xFF).toNat * inv255⟩

section

variable (color other : RgbF K) (which : ColorComponent)

@[simp] theorem component_black : (black : RgbF K).component which = 0 := by cases which <;> rfl

@[simp] theorem component_white : (white : RgbF K).component which = 1 := by cases which <;> rfl

@[simp] theorem component_times (scale : K) :
    (color.times scale).component which = color.component which * scale := by cases which <;> rfl

@[simp] theorem component_timesColor :
    (color.timesColor other).component which = color.component which * other.component which := by
  cases which <;> rfl

@[simp] theorem component_added :
    (color.added other).component which = color.component which + other.component which := by
  cases which <;> rfl

@[simp] theorem component_lerp (t : K) : (color.lerp other t).component which =
    color.component which + (other.component which - color.component which) * t := by
  cases which <;> rfl

end

variable [LinearOrder K]

def kMaxHdr : K := 2

def plus (color other : RgbF K) : RgbF K :=
  ⟨min kMaxHdr (color.r + other.r), min kMaxHdr (color.g + other.g), min kMaxHdr (color.b + other.b)⟩

@[simp] theorem component_plus (color other : RgbF K) (which : ColorComponent) :
    (color.plus other).component which =
      min kMaxHdr (color.component which + other.component which) := by
  cases which <;> rfl

def faint (color : RgbF K) : Bool :=
  color.r < 1 / 1000 && color.g < 1 / 1000 && color.b < 1 / 1000

def shines (color : RgbF K) : Bool := color.r > 0 || color.g > 0 || color.b > 0

def Nonneg (color : RgbF K) : Prop := ∀ which, 0 ≤ color.component which

variable [IsStrictOrderedRing K]

theorem component_toRgbF_mem (color : UInt32) (which : ColorComponent) :
    0 ≤ (toRgbF color : RgbF K).component which ∧ (toRgbF color : RgbF K).component which ≤ 1 := by
  have byte (word : UInt32) : 0 ≤ ((word &&& 0xFF).toNat : K) * (1 / 255) ∧
      ((word &&& 0xFF).toNat : K) * (1 / 255) ≤ 1 := by
    have le : (word &&& 0xFF).toNat ≤ 255 := Nat.and_le_right
    refine ⟨by positivity, ?_⟩
    rw [mul_one_div, div_le_one (by positivity)]
    exact_mod_cast le
  cases which <;> exact byte _

theorem component_lerp_mem (color : UInt32) {t : K} (nonneg : 0 ≤ t) (le_one : t ≤ 1)
    (which : ColorComponent) :
    0 ≤ (white.lerp (toRgbF color) t).component which ∧
      (white.lerp (toRgbF color) t).component which ≤ 1 := by
  obtain ⟨low, high⟩ := component_toRgbF_mem (K := K) color which
  rw [component_lerp, component_white]
  constructor
  · nlinarith
  · nlinarith

end RgbF

/-- What light transport reads of a material. -/
structure LightProperties (K : Type*) where
  opacity : K
  scatter : K
  specularity : K
  tint : UInt32 := 0xFFFFFFFF
  emission : K
  emissionColor : UInt32 := 0xFFFFFFFF

namespace LightProperties

variable {K : Type*} [Field K] [LinearOrder K]

/-- The shares of light lie between nothing and everything. The tint always does. -/
structure Physical (properties : LightProperties K) : Prop where
  opacity_nonneg : 0 ≤ properties.opacity
  opacity_le_one : properties.opacity ≤ 1
  scatter_nonneg : 0 ≤ properties.scatter
  scatter_le_one : properties.scatter ≤ 1
  specularity_nonneg : 0 ≤ properties.specularity
  specularity_le_one : properties.specularity ≤ 1

/-- The materials' properties as the source sets them. -/
def ofMaterial : Material → LightProperties K
  | .air => { opacity := 1 / 1000, scatter := 1, specularity := 0, emission := 0 }
  | .dirt =>
      { opacity := 7 / 10, scatter := 2 / 10, specularity := 0, tint := 0x8B6914FF, emission := 0 }
  | .leaf =>
      { opacity := 1 / 10, scatter := 3 / 10, specularity := 0, tint := 0x228B22FF, emission := 0 }
  | .metal => { opacity := 1, scatter := 8 / 10, specularity := 8 / 10, emission := 0 }
  | .root =>
      { opacity := 7 / 10, scatter := 15 / 100, specularity := 0, tint := 0x5C4033FF, emission := 0 }
  | .sand =>
      { opacity := 4 / 10, scatter := 2 / 10, specularity := 1 / 10, tint := 0xE6D5ACFF
        emission := 0 }
  | .seed =>
      { opacity := 3 / 10, scatter := 2 / 10, specularity := 0, tint := 0x90EE90FF
        emission := 1 / 10, emissionColor := 0x80FF80FF }
  | .wall => { opacity := 1, scatter := 3 / 10, specularity := 0, emission := 0 }
  | .water =>
      { opacity := 3 / 100, scatter := 5 / 10, specularity := 6 / 10, tint := 0xCCE6FFFF
        emission := 0 }
  | .wood =>
      { opacity := 6 / 10, scatter := 2 / 10, specularity := 5 / 100, tint := 0xDEB887FF
        emission := 0 }

theorem physical_ofMaterial [IsStrictOrderedRing K] (material : Material) :
    (ofMaterial material : LightProperties K).Physical := by
  cases material <;> constructor <;> norm_num [ofMaterial]

end LightProperties

end DirtSim
