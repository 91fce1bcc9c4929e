import DirtSim.Core.Uuid
import DirtSim.Organisms.OrganismManager
import Mathlib.Algebra.Order.Field.Rat

/-! # Genomes, their metadata and their content hash

The content of a genome is its weights and what they are for; its hash is the 64-bit FNV-1a hash, in
hexadecimal. Floating-point numbers are only compared, averaged and tested for being finite, so any
type with these operations (`Double`) will do.
-/

namespace DirtSim

/-- The operations on floating-point numbers that the repository uses. -/
class Double (F : Type) where
  zero : F
  less : F → F → Bool
  equal : F → F → Bool
  isFinite : F → Bool
  /-- Half the sum of two numbers. -/
  midpoint : F → F → F

instance : Double ℚ where
  zero := 0
  less first second := first < second
  equal first second := first = second
  isFinite _ := true
  midpoint first second := (first + second) / 2

namespace Double

variable {F : Type} [Double F]

def larger (first second : F) : F := if less first second then second else first

end Double

abbrev ByteString := List UInt8

/-- The scenario a genome was trained on, by its number. -/
structure ScenarioId where
  number : UInt8
deriving DecidableEq, Repr

inductive GenomePoolId
  | dirtSim | flappyParatroopa | smb | superTiltBro
deriving DecidableEq, Repr

def OrganismType.number : OrganismType → ℤ
  | .duck => 0
  | .goose => 1
  | .tree => 2
  | .nesDuck => 3

structure NesTileBrainCompatibilityMetadata where
  schemaVersion : ℤ
  tileVocabularySize : ℤ
  tileEmbeddingDim : ℤ
  relativeTileColumns : ℤ
  relativeTileRows : ℤ
  scalarInputSize : ℤ
  h1Size : ℤ
  h2Size : ℤ
  outputSize : ℤ
  voidTokenId : UInt16
  tokenizerVocabularyHash : ByteString
deriving DecidableEq, Repr

/-- A flat vector of weights, each by the bits of its single-precision number. -/
structure Genome where
  weights : List UInt32
deriving DecidableEq, Repr

structure GenomeMetadata (F : Type) where
  name : ByteString
  fitness : F
  robustFitness : F
  robustEvalCount : ℤ
  robustFitnessSamples : List F
  generation : ℤ
  createdTimestamp : UInt64
  scenarioId : ScenarioId
  notes : ByteString
  organismType : Option OrganismType
  brainKind : Option ByteString
  brainVariant : Option ByteString
  trainingSessionId : Option UUID
  genomePoolId : GenomePoolId
  nesTileBrainCompatibility : Option NesTileBrainCompatibilityMetadata
deriving DecidableEq

section

/-- The bytes of a value in memory, least significant first. -/
def bytesOf (size value : ℕ) : List UInt8 :=
  (List.range size).map fun i => UInt8.ofNat (value / 256 ^ i)

def bytesOfInt (value : ℤ) : List UInt8 := bytesOf 4 (value % 4294967296).toNat

/-- The bytes hashed for a string: its size and its contents. -/
def bytesOfString (value : ByteString) : List UInt8 := bytesOf 8 value.length ++ value

def hashBytes (hash : UInt64) (bytes : List UInt8) : UInt64 :=
  bytes.foldl (fun hash byte => (hash ^^^ byte.toUInt64) * 1099511628211) hash

def toHexString (value : UInt64) : List Char :=
  let digits := Nat.toDigits 16 value.toNat
  List.replicate (16 - digits.length) '0' ++ digits

abbrev ContentHash := List Char

variable {F : Type}

def contentBytes (genome : Genome) (metadata : GenomeMetadata F) : List UInt8 :=
  bytesOfInt metadata.scenarioId.number.toNat ++
    bytesOfInt (match metadata.organismType with
      | some organismType => organismType.number
      | none => -1) ++
    bytesOfString (metadata.brainKind.getD []) ++
    bytesOfString (metadata.brainVariant.getD []) ++
    (match metadata.nesTileBrainCompatibility with
      | none => [0]
      | some compatibility =>
          [1] ++ bytesOfInt compatibility.schemaVersion ++
            bytesOfInt compatibility.tileVocabularySize ++
            bytesOfInt compatibility.tileEmbeddingDim ++
            bytesOfInt compatibility.relativeTileColumns ++
            bytesOfInt compatibility.relativeTileRows ++
            bytesOfInt compatibility.scalarInputSize ++
            bytesOfInt compatibility.h1Size ++
            bytesOfInt compatibility.h2Size ++
            bytesOfInt compatibility.outputSize ++
            bytesOf 2 compatibility.voidTokenId.toNat ++
            bytesOfString compatibility.tokenizerVocabularyHash) ++
    bytesOf 8 genome.weights.length ++
    genome.weights.flatMap fun weight => bytesOf 4 weight.toNat

def computeContentHash (genome : Genome) (metadata : GenomeMetadata F) : ContentHash :=
  toHexString (hashBytes 1469598103934665603 (contentBytes genome metadata))

end

section

variable {F : Type} [Double F]

open Double

def robustFitnessSampleWindow : ℕ := 7

def computeMedian (samples : List F) : F :=
  let sorted := samples.mergeSort fun first second => !less second first
  let mid := sorted.length / 2
  let upper := sorted.getD mid zero
  if samples.isEmpty then zero
  else if sorted.length % 2 ≠ 0 then upper
  else midpoint (sorted.getD (mid - 1) zero) upper

def effectiveRobustEvalCount (metadata : GenomeMetadata F) : ℤ :=
  if metadata.robustEvalCount > 0 then metadata.robustEvalCount else metadata.robustFitnessSamples.length

def effectiveRobustFitness (metadata : GenomeMetadata F) : F :=
  if metadata.robustEvalCount > 0 ∨ metadata.robustFitnessSamples ≠ [] then metadata.robustFitness
  else metadata.fitness

def normalizeRobustMetadata (input : GenomeMetadata F) : GenomeMetadata F :=
  let normalized := { input with robustEvalCount := max input.robustEvalCount 0 }
  if normalized.robustFitnessSamples ≠ [] then
    let samples := normalized.robustFitnessSamples.drop
      (normalized.robustFitnessSamples.length - robustFitnessSampleWindow)
    { normalized with
      robustFitnessSamples := samples
      robustFitness := computeMedian samples
      robustEvalCount := max normalized.robustEvalCount samples.length }
  else if normalized.robustEvalCount > 0 then
    if isFinite normalized.robustFitness then normalized
    else { normalized with robustFitness := normalized.fitness }
  else normalized

def appendRobustSample (metadata : GenomeMetadata F) (fitnessSample : F) : GenomeMetadata F :=
  if !isFinite fitnessSample then metadata
  else
    let appended := metadata.robustFitnessSamples ++ [fitnessSample]
    let samples := if appended.length > robustFitnessSampleWindow then appended.drop 1
      else appended
    { metadata with
      robustEvalCount := max 0 metadata.robustEvalCount + 1
      robustFitnessSamples := samples
      robustFitness := computeMedian samples }

/-- The incoming record with what only the existing one has, and the existing samples. -/
def fillFrom (existing incoming : GenomeMetadata F) : GenomeMetadata F :=
  { incoming with
    fitness := larger existing.fitness incoming.fitness
    name := if incoming.name.isEmpty then existing.name else incoming.name
    notes := if incoming.notes.isEmpty then existing.notes else incoming.notes
    organismType := incoming.organismType.or existing.organismType
    brainKind := incoming.brainKind.or existing.brainKind
    brainVariant := incoming.brainVariant.or existing.brainVariant
    trainingSessionId := incoming.trainingSessionId.or existing.trainingSessionId
    nesTileBrainCompatibility :=
      incoming.nesTileBrainCompatibility.or existing.nesTileBrainCompatibility
    createdTimestamp :=
      if incoming.createdTimestamp = 0 then existing.createdTimestamp
      else incoming.createdTimestamp
    robustFitnessSamples := existing.robustFitnessSamples
    robustFitness :=
      if existing.robustFitnessSamples.isEmpty then incoming.robustFitness
      else computeMedian existing.robustFitnessSamples
    robustEvalCount := effectiveRobustEvalCount existing }

def mergeMetadata (existingRaw incomingRaw : GenomeMetadata F) : GenomeMetadata F :=
  let existing := normalizeRobustMetadata existingRaw
  let incoming := normalizeRobustMetadata incomingRaw
  let sampled := incoming.robustFitnessSamples.foldl appendRobustSample (fillFrom existing incoming)
  let missingEvalCount :=
    max 0 (effectiveRobustEvalCount incoming - incoming.robustFitnessSamples.length)
  let merged := { sampled with robustEvalCount := sampled.robustEvalCount + missingEvalCount }
  if merged.robustEvalCount ≤ 0 then normalizeRobustMetadata merged
  else if merged.robustFitnessSamples.isEmpty then
    { merged with
      robustFitness :=
        larger (effectiveRobustFitness existing) (effectiveRobustFitness incoming) }
  else merged

end

end DirtSim
