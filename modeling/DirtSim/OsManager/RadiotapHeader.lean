import DirtSim.OsManager.RadioReads
import Mathlib.Data.Nat.Init

/-! # Radiotap headers

A radio delivers each frame behind a radiotap header, which has any of the first six fields and
whatever else follows them. Parsing gives back the frequency and the signal that the header was made
with, and where the frame begins (`RadiotapHeader.parseRadiotap_bytes`).
-/

namespace DirtSim

open Foundation

namespace OsManager

section

/-! ## Radiotap headers -/

/-- The fields of a header, the bits of the bitmap for fields that come later, and what these fields
hold. Bytes between the fields hold anything. -/
structure RadiotapHeader where
  version : UInt8
  pad : UInt8
  tsft : Option (Vector UInt8 8)
  flags : Option UInt8
  rate : Option UInt8
  channel : Option (UInt16 × UInt16)
  hopping : Option (UInt8 × UInt8)
  signal : Option Int8
  furtherBits : ℕ → Bool
  furtherWords : List (ℕ → Bool)
  furtherBytes : List UInt8
  padding : ℕ → UInt8

namespace RadiotapHeader

variable (header : RadiotapHeader)

def fieldBytes : ℕ → Option (List UInt8)
  | 0 => header.tsft.map fun time => time.toList
  | 1 => header.flags.map fun flags => [flags]
  | 2 => header.rate.map fun rate => [rate]
  | 3 => header.channel.map fun channel =>
      LittleEndian.bytes 2 channel.1.toNat ++ LittleEndian.bytes 2 channel.2.toNat
  | 4 => header.hopping.map fun hopping => [hopping.1, hopping.2]
  | 5 => header.signal.map fun signal => [signal.toUInt8]
  | _ => none

/-- Each field starts at a multiple of the size of its numbers. -/
def fieldAlignment : ℕ → ℕ
  | 0 => 8
  | 3 => 2
  | 4 => 2
  | _ => 1

def gap (field offset : ℕ) : ℕ :=
  (fieldAlignment field - offset % fieldAlignment field) % fieldAlignment field

def gapBytes (field offset : ℕ) : List UInt8 :=
  (List.range (gap field offset)).map fun i => header.padding (offset + i)

def encodeFields : List ℕ → ℕ → List UInt8
  | [], _ => []
  | field :: fields, offset =>
      match header.fieldBytes field with
      | none => encodeFields fields offset
      | some content =>
          header.gapBytes field offset ++ content ++
            encodeFields fields (offset + gap field offset + content.length)

def presentWord (bits : ℕ → Bool) (more : Bool) : ℕ :=
  Nat.ofBits fun bit : Fin 32 => if bit.val < 31 then bits bit else more

def chain : List (ℕ → Bool) → List ℕ
  | [] => []
  | bits :: rest => presentWord bits (!rest.isEmpty) :: chain rest

def firstBits (bit : ℕ) : Bool :=
  if bit < 6 then (header.fieldBytes bit).isSome else header.furtherBits bit

def words : List ℕ := chain (header.firstBits :: header.furtherWords)

def body : List UInt8 :=
  header.encodeFields (List.range 6) (4 + 4 * header.words.length) ++ header.furtherBytes

def length : ℕ := 4 + 4 * header.words.length + header.body.length

def bytes : List UInt8 :=
  [header.version, header.pad] ++ LittleEndian.bytes 2 header.length ++
    header.words.flatMap (LittleEndian.bytes 4) ++ header.body

end RadiotapHeader

end

section

/-! ## Parsing a header -/

variable {before rest : List UInt8}

theorem byte_behind (before : List UInt8) (byte : UInt8) (rest : List UInt8) :
    (before ++ byte :: rest)[before.length]? = some byte :=
  LittleEndian.getElem?_behind before (byte :: rest) 0

theorem readLe16_behind {number : ℕ} (fits : number < 65536) :
    readLe16 (before ++ (LittleEndian.bytes 2 number ++ rest)) before.length = some number := by
  have read (first second : UInt8) :
      readLe16 (before ++ ([first, second] ++ rest)) before.length =
        some (LittleEndian.value [first, second]) := by
    rw [readLe16, LittleEndian.getElem?_behind, ← Nat.add_zero before.length,
      LittleEndian.getElem?_behind, ← LittleEndian.lor_two]
    rfl
  exact (read _ _).trans (congrArg some (@LittleEndian.value_bytes 2 _ fits))

theorem readLe32_behind {number : ℕ} (fits : number < 2 ^ 32) :
    readLe32 (before ++ (LittleEndian.bytes 4 number ++ rest)) before.length = some number := by
  have read (first second third fourth : UInt8) :
      readLe32 (before ++ ([first, second, third, fourth] ++ rest)) before.length =
        some (LittleEndian.value [first, second, third, fourth]) := by
    rw [readLe32, LittleEndian.getElem?_behind, LittleEndian.getElem?_behind,
      LittleEndian.getElem?_behind, ← Nat.add_zero before.length, LittleEndian.getElem?_behind,
      ← LittleEndian.lor_four]
    rfl
  exact (read _ _ _ _).trans (congrArg some (@LittleEndian.value_bytes 4 _ fits))

namespace RadiotapHeader

variable (bits : ℕ → Bool)

theorem presentWord_lt (more : Bool) : presentWord bits more < 2 ^ 32 :=
  Nat.ofBits_lt_two_pow _

theorem testBit_presentWord (more : Bool) {bit : ℕ} (low : bit < 31) :
    (presentWord bits more).testBit bit = bits bit := by
  rw [presentWord, Nat.testBit_ofBits_lt _ _ (by omega)]
  exact if_pos low

theorem testBit_presentWord_last (more : Bool) : (presentWord bits more).testBit 31 = more := by
  rw [presentWord, Nat.testBit_ofBits_lt _ _ (by decide)]
  exact if_neg (by decide)

theorem length_chain (words : List (ℕ → Bool)) : (chain words).length = words.length := by
  induction words with
  | nil => rfl
  | cons bits rest ih => rw [chain, List.length_cons, List.length_cons, ih]

/-- **The bitmap** is read word by word, up to the one without a successor. -/
theorem presentWords_chain (headerLength : ℕ) (bits : ℕ → Bool) (later : List (ℕ → Bool))
    (before rest : List UInt8) (words : List ℕ)
    (within : before.length + 4 * later.length ≤ headerLength) :
    presentWords (before ++ ((chain later).flatMap (LittleEndian.bytes 4) ++ rest)) headerLength
        before.length (presentWord bits (!later.isEmpty)) words =
      some (some (words ++ chain later, before.length + 4 * later.length)) := by
  induction later generalizing bits before words with
  | nil =>
      rw [presentWords, testBit_presentWord_last, if_neg (by decide), chain, List.append_nil]
      rfl
  | cons next later ih =>
      rw [List.length_cons] at within
      have chained : (!(next :: later).isEmpty) = true := rfl
      rw [presentWords, testBit_presentWord_last, if_pos chained, if_neg (by omega), chain,
        List.flatMap_cons, List.append_assoc, readLe32_behind (presentWord_lt _ _),
        Option.bind_some]
      have moved := ih next (before ++ LittleEndian.bytes 4 (presentWord next (!later.isEmpty)))
        (words ++ [presentWord next (!later.isEmpty)])
        (by rw [List.length_append, LittleEndian.length_bytes]; omega)
      rw [List.append_assoc, List.length_append, LittleEndian.length_bytes] at moved
      rw [moved, List.append_assoc, List.singleton_append, List.length_cons]
      congr 3
      omega

variable (header : RadiotapHeader)

theorem hasBit_words {field : ℕ} (known : field < 6) :
    hasBit header.words field = (header.fieldBytes field).isSome := by
  have first : field / 32 = 0 := Nat.div_eq_of_lt (by omega)
  have low : field % 32 = field := Nat.mod_eq_of_lt (by omega)
  rw [hasBit, first, low, words, chain, List.getElem?_cons_zero, Option.any_some,
    testBit_presentWord _ _ (by omega)]
  exact if_pos known

end RadiotapHeader

theorem alignTo_eq {alignment : ℕ} (positive : 0 < alignment) (offset : ℕ) :
    alignTo offset alignment = offset + (alignment - offset % alignment) % alignment := by
  have below := Nat.mod_lt offset positive
  unfold alignTo
  split
  · have one : alignment = 1 := by omega
    rw [one, Nat.mod_one, Nat.add_zero]
  · dsimp only
    split
    · rename_i aligned
      rw [aligned, Nat.sub_zero, Nat.mod_self, Nat.add_zero]
    · rw [Nat.mod_eq_of_lt (by omega : alignment - offset % alignment < alignment)]

namespace RadiotapHeader

variable (header : RadiotapHeader)
variable {field : ℕ} {content : List UInt8} (frame : List UInt8)

def noteField (info : RadiotapInfo) (field : ℕ) : RadiotapInfo :=
  match field, header.channel, header.signal with
  | 3, some channel, _ => { info with channelFreqMhz := some channel.1.toNat }
  | 5, _, some signal => { info with signalDbm := some signal.toInt }
  | _, _, _ => info

theorem noteField_of_absent (info : RadiotapInfo) (absent : header.fieldBytes field = none) :
    header.noteField info field = info := by
  unfold noteField
  split
  · rename_i channel present
    rw [fieldBytes, present] at absent
    cases absent
  · rename_i signal present
    rw [fieldBytes, present] at absent
    cases absent
  · rfl

theorem fieldLayout_eq (present : header.fieldBytes field = some content) :
    fieldLayout field = (fieldAlignment field, content.length) := by
  unfold fieldBytes at present
  split at present
  · obtain ⟨time, -, rfl⟩ := Option.map_eq_some_iff.mp present
    rw [Vector.length_toList]
    rfl
  · obtain ⟨flags, -, rfl⟩ := Option.map_eq_some_iff.mp present
    rfl
  · obtain ⟨rate, -, rfl⟩ := Option.map_eq_some_iff.mp present
    rfl
  · obtain ⟨channel, -, rfl⟩ := Option.map_eq_some_iff.mp present
    rfl
  · obtain ⟨hopping, -, rfl⟩ := Option.map_eq_some_iff.mp present
    rfl
  · obtain ⟨signal, -, rfl⟩ := Option.map_eq_some_iff.mp present
    rfl
  · cases present

theorem fieldAlignment_pos (field : ℕ) : 0 < fieldAlignment field := by
  unfold fieldAlignment
  split <;> decide

theorem readField_behind (present : header.fieldBytes field = some content)
    (before rest : List UInt8) (info : RadiotapInfo) :
    readField (before ++ (content ++ rest)) field before.length info =
      some (header.noteField info field) := by
  unfold readField
  split
  · rename_i frequency
    subst frequency
    obtain ⟨channel, known, rfl⟩ := Option.map_eq_some_iff.mp present
    rw [List.append_assoc, readLe16_behind channel.1.toNat_lt, Option.map_some]
    simp [noteField, known]
  · split
    · rename_i strength
      subst strength
      obtain ⟨signal, known, rfl⟩ := Option.map_eq_some_iff.mp present
      rw [List.singleton_append, byte_behind, Option.map_some]
      simp only [noteField, known]
      rfl
    · rename_i notChannel notSignal
      unfold noteField
      split
      · exact absurd rfl notChannel
      · exact absurd rfl notSignal
      · rfl

theorem length_gapBytes (field offset : ℕ) :
    (header.gapBytes field offset).length = gap field offset := by
  rw [gapBytes, List.length_map, List.length_range]

theorem encodeFields_cons (fields : List ℕ) (offset : ℕ)
    (present : header.fieldBytes field = some content) :
    header.encodeFields (field :: fields) offset =
      header.gapBytes field offset ++ content ++
        header.encodeFields fields (offset + gap field offset + content.length) := by
  rw [encodeFields, present]

/-- **The fields** are read where they are, behind any padding. -/
theorem readFields_encodeFields (headerLength : ℕ) {words : List ℕ} (fields : List ℕ)
    (listed : ∀ field ∈ fields, hasBit words field = (header.fieldBytes field).isSome)
    (before rest : List UInt8) (info : RadiotapInfo)
    (within : before.length + (header.encodeFields fields before.length).length ≤ headerLength) :
    readFields (before ++ (header.encodeFields fields before.length ++ rest)) headerLength words
        fields before.length info =
      some { fields.foldl header.noteField info with headerLength := headerLength } := by
  induction fields generalizing before info with
  | nil => rfl
  | cons field fields ih =>
      have bit := listed field List.mem_cons_self
      have later := fun other known => listed other (List.mem_cons_of_mem _ known)
      cases present : header.fieldBytes field with
      | none =>
          have skipped : header.encodeFields (field :: fields) before.length =
              header.encodeFields fields before.length := by rw [encodeFields, present]
          rw [skipped] at within ⊢
          rw [readFields, bit, present, List.foldl_cons, header.noteField_of_absent info present]
          exact ih later before info within
      | some content =>
          have layout := header.fieldLayout_eq present
          have aligned : alignTo before.length (fieldAlignment field) =
              before.length + gap field before.length :=
            alignTo_eq (fieldAlignment_pos field) before.length
          have encoded := header.encodeFields_cons fields before.length present
          rw [encoded, List.length_append, List.length_append, length_gapBytes] at within
          have behind : (before ++ header.gapBytes field before.length).length =
              before.length + gap field before.length := by
            rw [List.length_append, length_gapBytes]
          have read := header.readField_behind present (before ++ header.gapBytes field before.length)
            (header.encodeFields fields
              (before.length + gap field before.length + content.length) ++ rest) info
          have moved := ih later (before ++ header.gapBytes field before.length ++ content)
            (header.noteField info field) (by
              rw [List.length_append, behind]
              omega)
          rw [List.length_append, behind, List.append_assoc, List.append_assoc] at moved
          rw [behind, List.append_assoc] at read
          rw [readFields, bit, present, Option.isSome_some, layout, encoded, Bool.not_true,
            if_neg Bool.false_ne_true]
          dsimp only
          rw [aligned, if_neg (by omega), List.append_assoc, List.append_assoc, List.foldl_cons]
          rw [read, Option.bind_some]
          exact moved

theorem length_flatMap_bytes (words : List ℕ) :
    (words.flatMap (LittleEndian.bytes 4)).length = 4 * words.length := by
  induction words with
  | nil => rfl
  | cons word words ih =>
      rw [List.flatMap_cons, List.length_append, LittleEndian.length_bytes, ih, List.length_cons]
      omega

theorem length_words : header.words.length = header.furtherWords.length + 1 := by
  rw [words, length_chain, List.length_cons]

theorem length_bytes : header.bytes.length = header.length := by
  rw [bytes, List.length_append, List.length_append, List.length_append, length_flatMap_bytes,
    LittleEndian.length_bytes, length]
  rfl

def info : RadiotapInfo where
  headerLength := header.length
  signalDbm := header.signal.map Int8.toInt
  channelFreqMhz := header.channel.map fun channel => channel.1.toNat

theorem foldl_noteField : { (List.range 6).foldl header.noteField {} with
    headerLength := header.length } = header.info := by
  unfold info
  cases channel : header.channel <;> cases signal : header.signal <;>
    simp [List.range, List.range.loop, noteField, channel, signal]

def start : List UInt8 := [header.version, header.pad] ++ LittleEndian.bytes 2 header.length

def firstWord : ℕ := presentWord header.firstBits (!header.furtherWords.isEmpty)

theorem bytes_eq :
    header.bytes ++ frame =
      header.start ++ (header.words.flatMap (LittleEndian.bytes 4) ++ (header.body ++ frame)) := by
  simp [bytes, start]

theorem readLe16_length (fits : header.length < 65536) (frame : List UInt8) :
    readLe16 (header.bytes ++ frame) 2 = some header.length := by
  rw [bytes_eq, start, List.append_assoc]
  exact @readLe16_behind [header.version, header.pad] _ _ fits

theorem readLe32_firstWord : readLe32 (header.bytes ++ frame) 4 = some header.firstWord := by
  rw [bytes_eq, words, chain, List.flatMap_cons, List.append_assoc]
  exact @readLe32_behind header.start _ _ (presentWord_lt _ _)

theorem presentWords_bytes :
    presentWords (header.bytes ++ frame) header.length 8 header.firstWord [header.firstWord] =
      some (some (header.words, 4 + 4 * header.words.length)) := by
  have known : 4 + 4 * header.words.length ≤ header.length := Nat.le_add_right _ _
  have read := presentWords_chain header.length header.firstBits
    header.furtherWords (header.start ++ LittleEndian.bytes 4 header.firstWord)
    (header.body ++ frame) [header.firstWord] (by
      have count := header.length_words
      change 8 + 4 * header.furtherWords.length ≤ header.length
      omega)
  rw [List.append_assoc, ← List.append_assoc (LittleEndian.bytes 4 _)] at read
  have same : LittleEndian.bytes 4 header.firstWord ++
      (chain header.furtherWords).flatMap (LittleEndian.bytes 4) =
        header.words.flatMap (LittleEndian.bytes 4) := rfl
  rw [same, ← bytes_eq] at read
  refine read.trans ?_
  have offset : (header.start ++ LittleEndian.bytes 4 header.firstWord).length = 8 := rfl
  rw [offset, header.length_words]
  congr 3
  omega

theorem readFields_bytes :
    readFields (header.bytes ++ frame) header.length header.words (List.range 6)
      (4 + 4 * header.words.length) {} = some header.info := by
  have offset : (header.start ++ header.words.flatMap (LittleEndian.bytes 4)).length =
      4 + 4 * header.words.length := by
    rw [List.length_append, length_flatMap_bytes]
    rfl
  have read := header.readFields_encodeFields header.length (List.range 6)
    (fun field listed => header.hasBit_words (List.mem_range.mp listed))
    (header.start ++ header.words.flatMap (LittleEndian.bytes 4)) (header.furtherBytes ++ frame) {}
    (by
      rw [offset, length, body, List.length_append]
      omega)
  rw [offset, foldl_noteField, List.append_assoc,
    ← List.append_assoc (header.encodeFields _ _)] at read
  rw [bytes_eq]
  exact read

/-- **A header** is parsed whatever follows it. -/
theorem parseRadiotap_bytes (fits : header.length < 65536) (frame : List UInt8) :
    parseRadiotap (header.bytes ++ frame) = some header.info := by
  have some_word : 8 ≤ header.length := by
    rw [length, length_words]
    omega
  have long : (header.bytes ++ frame).length = header.length + frame.length := by
    rw [List.length_append, length_bytes]
  have inside : (decide (header.length < 8) ||
      decide (header.length > (header.bytes ++ frame).length)) = false := by
    rw [long, Bool.or_eq_false_iff]
    exact ⟨decide_eq_false (by omega), decide_eq_false (by omega)⟩
  rw [parseRadiotap, if_neg (by omega), header.readLe16_length fits, Option.bind_some, inside,
    if_neg Bool.false_ne_true, readLe32_firstWord, Option.bind_some, presentWords_bytes,
    Option.bind_some]
  exact header.readFields_bytes frame

end RadiotapHeader

end

end OsManager

end DirtSim
