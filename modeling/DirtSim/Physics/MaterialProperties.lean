import DirtSim.Core.Cell

/-! # Material properties

The property database, restricted to the properties that moving material reads. The source
writes decimal literals; here they are the same fractions.
-/

namespace DirtSim

namespace Material

variable {K : Type*} [Field K]

structure Properties (K : Type*) where
  density : K
  elasticity : K
  cohesion : K
  isFluid : Bool

def getProperties : Material → Properties K
  | air => { density := 1 / 1000, elasticity := 1, cohesion := 0, isFluid := true }
  | dirt => { density := 3 / 2, elasticity := 1 / 5, cohesion := 1 / 5, isFluid := false }
  | leaf => { density := 3 / 10, elasticity := 2 / 5, cohesion := 7 / 10, isFluid := false }
  | metal => { density := 39 / 5, elasticity := 4 / 5, cohesion := 1, isFluid := false }
  | root => { density := 6 / 5, elasticity := 3 / 10, cohesion := 4 / 5, isFluid := false }
  | sand => { density := 9 / 5, elasticity := 1 / 5, cohesion := 1 / 5, isFluid := false }
  | seed => { density := 3 / 2, elasticity := 1 / 5, cohesion := 9 / 10, isFluid := false }
  | wall => { density := 1000, elasticity := 9 / 10, cohesion := 1, isFluid := false }
  | water => { density := 1, elasticity := 1 / 10, cohesion := 1 / 10, isFluid := true }
  | wood => { density := 3 / 10, elasticity := 3 / 5, cohesion := 7 / 10, isFluid := false }

def getDensity (material : Material) : K := (getProperties material).density

/-- The properties that slow a rigid body down: the drag of the air and the friction of the
ground. -/
structure ContactProperties (K : Type*) where
  airResistance : K
  staticFrictionCoefficient : K
  kineticFrictionCoefficient : K
  stickVelocity : K
  frictionTransitionWidth : K

def getContactProperties : Material → ContactProperties K
  | air => ⟨0, 1, 1, 0, 1 / 100⟩
  | dirt => ⟨1 / 20, 3 / 2, 3 / 4, 1 / 10, 1 / 10⟩
  | leaf => ⟨4 / 5, 1 / 2, 3 / 10, 3 / 100, 6 / 100⟩
  | metal => ⟨1 / 10, 3 / 2, 1, 1 / 100, 2 / 100⟩
  | root => ⟨3 / 10, 6 / 5, 4 / 5, 3 / 100, 5 / 100⟩
  | sand => ⟨1 / 5, 3 / 5, 2 / 5, 4 / 100, 8 / 100⟩
  | seed => ⟨1 / 5, 13 / 10, 9 / 10, 2 / 100, 3 / 100⟩
  | wall => ⟨0, 1, 1, 0, 1 / 100⟩
  | water => ⟨1 / 100, 0, 1 / 100, 0, 1 / 1000⟩
  | wood => ⟨1 / 20, 13 / 10, 9 / 10, 2 / 100, 3 / 100⟩

end Material

/-- Parameters controlling fragmentation behavior. -/
structure FragmentationParams (K : Type*) where
  /-- Blend between reflection-based (0) and radial (1) spray direction. -/
  radialBias : K
  /-- Arc width range in radians. -/
  minArc : K
  maxArc : K
  edgeSpeedFactor : K
  baseSpeed : K
  /-- Fraction of the source cell's fill to spray out. -/
  sprayFraction : K

namespace FragmentationParams

variable {K : Type*} [Field K] [Analytic K]

open Analytic

def default : FragmentationParams K :=
  { radialBias := 3 / 5, minArc := pi / 3, maxArc := pi, edgeSpeedFactor := 1, baseSpeed := 1
    sprayFraction := 2 / 5 }

end FragmentationParams

open Analytic in
def getMaterialFragmentationParams {K : Type*} [Field K] [Analytic K] :
    Material → FragmentationParams K
  | .water =>
      { FragmentationParams.default with
        radialBias := 3 / 5, minArc := pi / 3, maxArc := pi, edgeSpeedFactor := 1 / 10
        baseSpeed := 1 / 2 }
  | .sand =>
      { FragmentationParams.default with
        radialBias := 1 / 2, minArc := pi / 4, maxArc := pi / 2, edgeSpeedFactor := 1
        baseSpeed := 3 / 5 }
  | .dirt =>
      { FragmentationParams.default with
        radialBias := 2 / 5, minArc := pi / 4, maxArc := pi / 2, edgeSpeedFactor := 4 / 5
        baseSpeed := 1 / 2 }
  | .metal =>
      { FragmentationParams.default with
        radialBias := 9 / 10, minArc := pi / 2, maxArc := pi, edgeSpeedFactor := 13 / 10
        baseSpeed := 4 / 5 }
  | .air | .leaf | .root | .seed | .wall | .wood => .default

end DirtSim
