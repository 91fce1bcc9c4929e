import Mathlib.Data.Nat.Digits.Defs
import Mathlib.Tactic.Common

/-! # Universally unique identifiers

Sixteen bytes with a dashed hexadecimal text form. New identifiers come from a random engine;
the model takes its two 64-bit draws as arguments.
-/

namespace DirtSim

/-- A 128-bit identifier, most significant byte first. -/
structure UUID where
  bytes : Vector UInt8 16
deriving DecidableEq, Repr

namespace UUID

def nil : UUID := ⟨Vector.replicate 16 0⟩

def isNil (uuid : UUID) : Bool := uuid.bytes.all (· == 0)

def generate (high low : UInt64) : UUID :=
  let filled : Vector UInt8 16 := Vector.ofFn fun i =>
    if i.val < 8 then ((high >>> (56 - i.val * 8).toUInt64) &&& 0xFF).toUInt8
    else ((low >>> (56 - (i.val - 8) * 8).toUInt64) &&& 0xFF).toUInt8
  let versioned := filled.set 6 ((filled[6] &&& 0x0F) ||| 0x40)
  ⟨versioned.set 8 ((versioned[8] &&& 0x3F) ||| 0x80)⟩

def byteToHex (byte : UInt8) : List Char :=
  [Nat.digitChar (byte.toNat / 16), Nat.digitChar (byte.toNat % 16)]

def toString (uuid : UUID) : List Char :=
  (List.finRange 16).flatMap fun i =>
    (if i.val = 4 ∨ i.val = 6 ∨ i.val = 8 ∨ i.val = 10 then ['-'] else []) ++
      byteToHex uuid.bytes[i]

def hexCharToNibble (digit : Char) : Option UInt8 :=
  if '0' ≤ digit ∧ digit ≤ '9' then some (UInt8.ofNat (digit.toNat - '0'.toNat))
  else if 'a' ≤ digit ∧ digit ≤ 'f' then some (UInt8.ofNat (digit.toNat - 'a'.toNat + 10))
  else if 'A' ≤ digit ∧ digit ≤ 'F' then some (UInt8.ofNat (digit.toNat - 'A'.toNat + 10))
  else none

/-- The bytes of a text, two digits each; a dash between two bytes is skipped. -/
def parseBytes : List Char → Option (List UInt8)
  | [] => some []
  | [digit] => if digit = '-' then some [] else none
  | first :: second :: rest =>
      if first = '-' then parseBytes (second :: rest)
      else do
        let high ← hexCharToNibble first
        let low ← hexCharToNibble second
        let bytes ← parseBytes rest
        some ((high <<< 4 ||| low) :: bytes)

/-- The identifier of a text form; `none` when the text is rejected by an exception. -/
def fromString (text : List Char) : Option UUID :=
  if text.length ≠ 36 then none
  else if text[8]? ≠ some '-' ∨ text[13]? ≠ some '-' ∨ text[18]? ≠ some '-' ∨
      text[23]? ≠ some '-' then none
  else (parseBytes text).map fun bytes => ⟨Vector.ofFn fun i => bytes.getD i.val 0⟩

theorem forall_byte {property : UInt8 → Prop}
    (each : ∀ value, value < 256 → property (UInt8.ofNat value)) (byte : UInt8) :
    property byte := by
  have holds := each byte.toNat byte.toNat_lt
  rwa [UInt8.ofNat_toNat] at holds

theorem nibbles_byteToHex (byte : UInt8) :
    ∃ first second high low, byteToHex byte = [first, second] ∧ first ≠ '-' ∧
      hexCharToNibble first = some high ∧ hexCharToNibble second = some low ∧
        high <<< 4 ||| low = byte := by
  have digits : ∀ value, value < 16 → Nat.digitChar value ≠ '-' ∧
      hexCharToNibble (Nat.digitChar value) = some (UInt8.ofNat value) := by decide
  have joins : ∀ byte : UInt8,
      UInt8.ofNat (byte.toNat / 16) <<< 4 ||| UInt8.ofNat (byte.toNat % 16) = byte :=
    forall_byte (by decide +kernel)
  have small : byte.toNat < 256 := byte.toNat_lt
  obtain ⟨noDash, high⟩ := digits (byte.toNat / 16) (by omega)
  obtain ⟨-, low⟩ := digits (byte.toNat % 16) (by omega)
  exact ⟨_, _, _, _, rfl, noDash, high, low, joins byte⟩

theorem parseBytes_byteToHex (byte : UInt8) (rest : List Char) :
    parseBytes (byteToHex byte ++ rest) = (parseBytes rest).map (byte :: ·) := by
  obtain ⟨first, second, high, low, text, noDash, readHigh, readLow, joined⟩ :=
    nibbles_byteToHex byte
  rw [text]
  simp only [List.cons_append, List.nil_append, parseBytes, noDash, ↓reduceIte, readHigh, readLow,
    Option.bind_eq_bind, Option.bind_some, joined]
  cases parseBytes rest <;> rfl

theorem parseBytes_dash {rest : List Char} (more : rest ≠ []) :
    parseBytes ('-' :: rest) = parseBytes rest := by
  cases rest with
  | nil => exact absurd rfl more
  | cons second rest => simp [parseBytes]

theorem parseBytes_flatMap {size : ℕ} (bytes : Fin size → UInt8) (dashed : Fin size → Prop)
    [DecidablePred dashed] (places : List (Fin size)) :
    parseBytes (places.flatMap fun i =>
      (if dashed i then ['-'] else []) ++ byteToHex (bytes i)) = some (places.map bytes) := by
  induction places with
  | nil => rfl
  | cons place places ih =>
      have plain := parseBytes_byteToHex (bytes place) (places.flatMap fun i =>
        (if dashed i then ['-'] else []) ++ byteToHex (bytes i))
      rw [ih] at plain
      rw [List.flatMap_cons, List.append_assoc]
      by_cases dash : dashed place
      · have more : byteToHex (bytes place) ++ (places.flatMap fun i =>
            (if dashed i then ['-'] else []) ++ byteToHex (bytes i)) ≠ [] := List.cons_ne_nil _ _
        rw [if_pos dash, List.singleton_append, parseBytes_dash more, plain]
        rfl
      · rw [if_neg dash, List.nil_append, plain]
        rfl

@[simp] theorem fromString_toString (uuid : UUID) : fromString uuid.toString = some uuid := by
  have length : uuid.toString.length = 36 := rfl
  have dashes : uuid.toString[8]? = some '-' ∧ uuid.toString[13]? = some '-' ∧
      uuid.toString[18]? = some '-' ∧ uuid.toString[23]? = some '-' := ⟨rfl, rfl, rfl, rfl⟩
  have bytes : parseBytes uuid.toString = some ((List.finRange 16).map fun i => uuid.bytes[i]) :=
    parseBytes_flatMap (fun i => uuid.bytes[i]) _ _
  rw [fromString, if_neg (not_not.mpr length), if_neg (by simp only [dashes]; decide), bytes,
    Option.map_some]
  have same : (Vector.ofFn fun i : Fin 16 =>
      ((List.finRange 16).map fun i => uuid.bytes[i]).getD i.val 0) = uuid.bytes := by
    ext i small
    simp
  rw [same]

theorem toString_injective : Function.Injective toString := by
  intro first second same
  have read := congrArg fromString same
  rw [fromString_toString, fromString_toString] at read
  exact Option.some.inj read

end UUID

abbrev GenomeId := UUID

def invalidGenomeId : GenomeId := UUID.nil

theorem UUID.generate_ne_nil (high low : UInt64) : UUID.generate high low ≠ UUID.nil := by
  intro same
  have marked : ∀ byte : UInt8, byte &&& 0x0F ||| 0x40 ≠ 0 := forall_byte (by decide +kernel)
  obtain ⟨byte, versioned⟩ :
      ∃ byte : UInt8, (UUID.generate high low).bytes[6] = byte &&& 0x0F ||| 0x40 := by
    simp only [UUID.generate]
    rw [Vector.getElem_set_ne _ _ (by decide), Vector.getElem_set_self]
    exact ⟨_, rfl⟩
  rw [same] at versioned
  exact marked byte versioned.symm

end DirtSim
