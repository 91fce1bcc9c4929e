import DirtSim.Core.Uuid
import Mathlib.Data.List.Basic

/-! # The text form of identifiers

`UUID.parse` accepts what `UUID.fromString` accepts, within the bounds of its buffers
(`UUID.parse_spec`). What is read is the lower-case text, unless that has a dash too many
(`UUID.fromString_toString_bijective`).
-/

namespace DirtSim

namespace UUID

variable {digit : Char} {first second : Char}

/-! ## Reading by index -/

inductive ParseFailure where
  | invalidArgument (message : String)
  /-- A byte behind the terminator is read, or an element behind the last one is written. -/
  | outOfRange
deriving DecidableEq, Repr

def terminator : Char := Char.ofNat 0

/-- A character of a string. At the end of the string stands its terminator. -/
def charAt (text : List Char) (i : ℕ) : Except ParseFailure Char :=
  match text[i]? with
  | some c => .ok c
  | none => if i = text.length then .ok terminator else .error .outOfRange

def invalidDigit : ParseFailure := .invalidArgument "Invalid hex character in UUID string"

def nibble (digit : Char) : Except ParseFailure UInt8 :=
  match hexCharToNibble digit with
  | some value => .ok value
  | none => .error invalidDigit

/-- The loop over the text. After a dash the index goes back by one before it goes on by two. -/
def readBytes (text : List Char) (i byteIndex : ℕ) (bytes : Vector UInt8 16) :
    Except ParseFailure (Vector UInt8 16) :=
  if i < text.length then do
    let first ← charAt text i
    if first = '-' then readBytes text (i + 1) byteIndex bytes
    else
      let high ← nibble first
      let second ← charAt text (i + 1)
      let low ← nibble second
      if inside : byteIndex < 16 then
        readBytes text (i + 2) (byteIndex + 1) (bytes.set byteIndex (high <<< 4 ||| low))
      else .error .outOfRange
  else .ok bytes
termination_by text.length - i

def parse (text : List Char) : Except ParseFailure UUID :=
  if text.length ≠ 36 then .error (.invalidArgument "UUID string must be 36 characters")
  else if text[8]? ≠ some '-' ∨ text[13]? ≠ some '-' ∨ text[18]? ≠ some '-' ∨
      text[23]? ≠ some '-' then
    .error (.invalidArgument "UUID string must have dashes at positions 8, 13, 18, 23")
  else (readBytes text 0 0 (Vector.replicate 16 0)).map UUID.mk

/-! ## What the form of a text is -/

def hexDigits : List Char := "0123456789abcdefABCDEF".toList

/-- Groups of 8, 4, 4, 4 and 12 hexadecimal digits, separated by dashes. -/
def WellFormed (text : List Char) : Prop :=
  ∃ first second third fourth fifth : List Char,
    text = first ++ '-' :: second ++ '-' :: third ++ '-' :: fourth ++ '-' :: fifth ∧
    (first.length = 8 ∧ second.length = 4 ∧ third.length = 4 ∧ fourth.length = 4 ∧
      fifth.length = 12) ∧
    ∀ group ∈ [first, second, third, fourth, fifth], ∀ c ∈ group, c ∈ hexDigits

/-- A text is accepted when it is well-formed, and refused as an invalid argument otherwise. What
is accepted reads back in lower case. -/
structure ReadsExactly (text : List Char) : Prop where
  accepts : WellFormed text → ∃ uuid, parse text = .ok uuid
  refuses : ¬ WellFormed text → ∃ message, parse text = .error (.invalidArgument message)
  lowers : ∀ uuid, parse text = .ok uuid → uuid.toString = text.map Char.toLower

/-- Between its dashes the text has runs of pairs of hexadecimal digits only. -/
def PairedRuns (text : List Char) : Prop :=
  ∀ run ∈ text.splitOn '-', Even run.length ∧ ∀ c ∈ run, c ∈ hexDigits

/-- 36 characters with the four dashes in place and only pairs of digits between dashes, but with
a fifth dash. -/
def HasSpareDash (text : List Char) : Prop :=
  text.length = 36 ∧
    (text[8]? = some '-' ∧ text[13]? = some '-' ∧ text[18]? = some '-' ∧ text[23]? = some '-') ∧
    4 < text.count '-' ∧ PairedRuns text

section

variable (text : List Char)

/-! ## The reader by index and the reader by pairs -/

theorem charAt_front (front : List Char) (c : Char) (rest : List Char) :
    charAt (front ++ c :: rest) front.length = .ok c := by
  rw [charAt, List.getElem?_append_right (Nat.le_refl _), Nat.sub_self, List.getElem?_cons_zero]

theorem charAt_length : charAt text text.length = .ok terminator := by
  rw [charAt, List.getElem?_eq_none (Nat.le_refl _)]
  exact if_pos rfl

theorem nibble_of_some {value : UInt8} (found : hexCharToNibble digit = some value) :
    nibble digit = .ok value := by
  rw [nibble, found]

theorem nibble_of_none (missing : hexCharToNibble digit = none) :
    nibble digit = .error invalidDigit := by
  rw [nibble, missing]

theorem dash_not_digit : hexCharToNibble '-' = none := by decide

theorem terminator_not_digit : hexCharToNibble terminator = none := by decide

def overwrite (bytes : Vector UInt8 16) (start : ℕ) (tail : List UInt8) : Vector UInt8 16 :=
  Vector.ofFn fun ⟨k, inside⟩ => if start ≤ k then (tail[k - start]?).getD bytes[k] else bytes[k]

theorem overwrite_nil (bytes : Vector UInt8 16) (start : ℕ) :
    overwrite bytes start [] = bytes := by
  ext k small
  simp [overwrite]

theorem overwrite_cons (bytes : Vector UInt8 16) {start : ℕ} (inside : start < 16) (byte : UInt8)
    (tail : List UInt8) :
    overwrite bytes start (byte :: tail) = overwrite (bytes.set start byte) (start + 1) tail := by
  ext k small
  simp only [overwrite, Vector.getElem_ofFn]
  by_cases before : k < start
  · rw [if_neg (Nat.not_le.mpr before), if_neg (by omega), Vector.getElem_set_ne _ _ (by omega)]
  · by_cases here : k = start
    · subst here
      simp
    · have later : k - start = k - (start + 1) + 1 := by omega
      rw [if_pos (Nat.not_lt.mp before), if_pos (by omega), later, List.getElem?_cons_succ,
        Vector.getElem_set_ne _ _ (by omega)]

theorem pairs_induction {motive : List Char → Prop} (nil : motive [])
    (dash : ∀ rest, motive rest → motive ('-' :: rest))
    (single : ∀ digit, digit ≠ '-' → motive [digit])
    (pair : ∀ first second rest, first ≠ '-' → motive rest → motive (first :: second :: rest))
    (text : List Char) : motive text := by
  induction text using parseBytes.induct with
  | case1 => exact nil
  | case2 => exact dash [] nil
  | case3 digit other => exact single digit other
  | case4 second rest ih => exact dash (second :: rest) ih
  | case5 first second rest other ih => exact pair first second rest other ih

theorem parseBytes_cons_dash (rest : List Char) : parseBytes ('-' :: rest) = parseBytes rest := by
  cases rest with
  | nil => rfl
  | cons second rest => exact parseBytes_dash (List.cons_ne_nil _ _)

theorem parseBytes_single (other : digit ≠ '-') : parseBytes [digit] = none := by
  rw [parseBytes, if_neg other]

theorem parseBytes_pair {rest : List Char} (other : first ≠ '-') :
    parseBytes (first :: second :: rest) = (hexCharToNibble first).bind fun high =>
      (hexCharToNibble second).bind fun low =>
        (parseBytes rest).map fun bytes => (high <<< 4 ||| low) :: bytes := by
  rw [parseBytes, if_neg other]
  cases hexCharToNibble first with
  | none => rfl
  | some high =>
      cases hexCharToNibble second with
      | none => rfl
      | some low =>
          cases parseBytes rest with
          | none => rfl
          | some bytes => rfl

/-- **The reader by index refines the reader by pairs.** While at most 32 characters are left for
the bytes that are not written yet, every byte is written in its place. -/
theorem readBytes_eq (front rest : List Char) {byteIndex : ℕ} (bytes : Vector UInt8 16)
    (room : 2 * byteIndex + rest.countP (· ≠ '-') ≤ 32) :
    readBytes (front ++ rest) front.length byteIndex bytes =
      match parseBytes rest with
      | some tail => .ok (overwrite bytes byteIndex tail)
      | none => .error invalidDigit := by
  induction rest using pairs_induction generalizing front byteIndex bytes with
  | nil =>
      rw [readBytes, List.append_nil, if_neg (Nat.lt_irrefl _)]
      simp [parseBytes, overwrite_nil]
  | dash rest ih =>
      have inside : front.length < (front ++ '-' :: rest).length := by
        rw [List.length_append, List.length_cons]
        omega
      have further := ih (front ++ ['-']) bytes (by simpa using room)
      rw [List.append_assoc, List.length_append] at further
      rw [parseBytes_cons_dash, readBytes, if_pos inside, charAt_front, ← further]
      rfl
  | single digit other =>
      have inside : front.length < (front ++ [digit]).length := by
        rw [List.length_append, List.length_singleton]
        omega
      have behind : charAt (front ++ [digit]) (front.length + 1) = .ok terminator := by
        have length : (front ++ [digit]).length = front.length + 1 := List.length_append
        rw [← length]
        exact charAt_length _
      rw [parseBytes_single other, readBytes, if_pos inside, charAt_front, behind]
      cases found : hexCharToNibble digit with
      | none => simp [bind, Except.bind, other, nibble_of_none found]
      | some value =>
          simp [bind, Except.bind, other, nibble_of_some found, nibble_of_none terminator_not_digit]
  | pair first second rest other ih =>
      have inside : front.length < (front ++ first :: second :: rest).length := by
        rw [List.length_append, List.length_cons]
        omega
      have behind : charAt (front ++ first :: second :: rest) (front.length + 1) = .ok second := by
        have read := charAt_front (front ++ [first]) second rest
        rw [List.append_assoc, List.length_append] at read
        exact read
      rw [parseBytes_pair other, readBytes, if_pos inside, charAt_front, behind]
      simp only [bind, Except.bind, other, ↓reduceIte]
      cases found : hexCharToNibble first with
      | none => simp [nibble_of_none found]
      | some high =>
          cases found' : hexCharToNibble second with
          | none => simp [nibble_of_some found, nibble_of_none found']
          | some low =>
              have digit : second ≠ '-' := by
                rintro rfl
                rw [dash_not_digit] at found'
                cases found'
              have counted : (first :: second :: rest).countP (· ≠ '-') =
                  rest.countP (· ≠ '-') + 2 := by
                simp [other, digit]
              rw [counted] at room
              have written : byteIndex < 16 := by omega
              have room' : 2 * (byteIndex + 1) + rest.countP (· ≠ '-') ≤ 32 := by omega
              have further := ih (front ++ [first, second])
                (bytes.set byteIndex (high <<< 4 ||| low)) room'
              rw [List.append_assoc, List.length_append] at further
              simp only [nibble_of_some found, nibble_of_some found', Option.bind_some, written,
                ↓reduceDIte]
              refine Eq.trans further ?_
              cases parseBytes rest with
              | none => rfl
              | some tail => simp [overwrite_cons bytes written]

def Dashed (text : List Char) : Prop :=
  text[8]? = some '-' ∧ text[13]? = some '-' ∧ text[18]? = some '-' ∧ text[23]? = some '-'

theorem exists_groups {text : List Char} (length : text.length = 36) (dashed : Dashed text) :
    ∃ first second third fourth fifth : List Char,
      text = first ++ '-' :: second ++ '-' :: third ++ '-' :: fourth ++ '-' :: fifth ∧
      first.length = 8 ∧ second.length = 4 ∧ third.length = 4 ∧ fourth.length = 4 ∧
        fifth.length = 12 := by
  have cut (rest : List Char) (i : ℕ) (found : rest[i]? = some '-') :
      rest.take i ++ '-' :: rest.drop (i + 1) = rest := by
    obtain ⟨inside, here⟩ := List.getElem?_eq_some_iff.mp found
    rw [← here, ← List.drop_eq_getElem_cons inside, List.take_append_drop]
  obtain ⟨at8, at13, at18, at23⟩ := dashed
  have second := cut (text.drop 9) 4 (by rw [List.getElem?_drop]; exact at13)
  have third := cut (text.drop 14) 4 (by rw [List.getElem?_drop]; exact at18)
  have fourth := cut (text.drop 19) 4 (by rw [List.getElem?_drop]; exact at23)
  rw [List.drop_drop] at second third fourth
  refine ⟨text.take 8, (text.drop 9).take 4, (text.drop 14).take 4, (text.drop 19).take 4,
    text.drop 24, ?_, ?_, ?_, ?_, ?_, ?_⟩
  · simp only [List.append_assoc, List.cons_append]
    rw [fourth, third, second, cut text 8 at8]
  all_goals simp [length]

theorem four_le_count {text : List Char} (length : text.length = 36) (dashed : Dashed text) :
    4 ≤ text.count '-' := by
  obtain ⟨first, second, third, fourth, fifth, rfl, -⟩ := exists_groups length dashed
  simp only [List.count_append, List.count_cons_self]
  omega

theorem overwrite_all (tail : List UInt8) :
    overwrite (Vector.replicate 16 0) 0 tail = Vector.ofFn fun i => tail.getD i.val 0 := by
  ext k small
  simp [overwrite]

/-- **No failure but an invalid argument.** The parser accepts what is read by pairs. -/
theorem parse_spec :
    match fromString text with
    | some uuid => parse text = .ok uuid
    | none => ∃ message, parse text = .error (.invalidArgument message) := by
  unfold fromString parse
  by_cases length : text.length ≠ 36
  · rw [if_pos length, if_pos length]
    exact ⟨_, rfl⟩
  · rw [if_neg length, if_neg length]
    by_cases undashed : text[8]? ≠ some '-' ∨ text[13]? ≠ some '-' ∨ text[18]? ≠ some '-' ∨
        text[23]? ≠ some '-'
    · rw [if_pos undashed, if_pos undashed]
      exact ⟨_, rfl⟩
    · rw [if_neg undashed, if_neg undashed]
      simp only [not_or, not_not] at undashed length
      have dashes := four_le_count length undashed
      have room : 2 * 0 + text.countP (· ≠ '-') ≤ 32 := by
        have counted : text.length = text.count '-' + text.countP (· ≠ '-') := by
          simpa [List.count] using List.length_eq_countP_add_countP (l := text) (· == '-')
        omega
      have read := readBytes_eq [] text (Vector.replicate 16 0) room
      rw [List.nil_append, List.length_nil] at read
      rw [read]
      cases parseBytes text with
      | none => exact ⟨_, rfl⟩
      | some tail => exact congrArg (fun bytes => Except.ok (UUID.mk bytes)) (overwrite_all tail)

theorem parse_eq_ok_iff {text : List Char} {uuid : UUID} :
    parse text = .ok uuid ↔ fromString text = some uuid := by
  have spec := parse_spec text
  cases found : fromString text with
  | none =>
      rw [found] at spec
      obtain ⟨message, refused⟩ := spec
      rw [refused]
      exact iff_of_false nofun nofun
  | some other =>
      rw [found] at spec
      rw [spec, Except.ok.injEq, Option.some.injEq]

theorem parse_ne_outOfRange : parse text ≠ .error .outOfRange := by
  intro left
  have spec := parse_spec text
  cases found : fromString text with
  | none =>
      rw [found] at spec
      obtain ⟨message, refused⟩ := spec
      rw [refused] at left
      cases left
  | some uuid =>
      rw [found] at spec
      cases left.symm.trans spec

theorem exists_message {text : List Char} (refused : ¬ ∃ uuid, parse text = .ok uuid) :
    ∃ message, parse text = .error (.invalidArgument message) := by
  have spec := parse_spec text
  cases found : fromString text with
  | none =>
      rw [found] at spec
      exact spec
  | some uuid =>
      rw [found] at spec
      exact absurd ⟨uuid, spec⟩ refused

end

section

/-! ## What is accepted -/

theorem nibble_of_mem : ∀ digit ∈ hexDigits, ∃ value < 16,
    hexCharToNibble digit = some (UInt8.ofNat value) ∧ Nat.digitChar value = digit.toLower := by
  have digits : hexDigits = ['0', '1', '2', '3', '4', '5', '6', '7', '8', '9', 'a', 'b', 'c', 'd',
    'e', 'f', 'A', 'B', 'C', 'D', 'E', 'F'] := rfl
  simp only [digits, List.forall_mem_cons]
  and_intros <;> first | exact List.forall_mem_nil _ | decide

theorem mem_of_hexCharToNibble {value : UInt8} (found : hexCharToNibble digit = some value) :
    digit ∈ hexDigits := by
  have each : ∀ number < 128, hexCharToNibble (Char.ofNat number) ≠ none →
      Char.ofNat number ∈ hexDigits := by decide
  have small : digit.toNat < 128 := by
    unfold hexCharToNibble at found
    split_ifs at found with decimal lower upper
    · exact lt_of_le_of_lt decimal.2 (by decide)
    · exact lt_of_le_of_lt lower.2 (by decide)
    · exact lt_of_le_of_lt upper.2 (by decide)
  have here := each digit.toNat small
  rw [Char.ofNat_toNat, found] at here
  exact here nofun

theorem pairedRuns_nil : PairedRuns [] := by
  simp [PairedRuns, List.splitOn_nil]

theorem pairedRuns_dash (rest : List Char) : PairedRuns ('-' :: rest) ↔ PairedRuns rest := by
  simp [PairedRuns, List.splitOn_eq_splitOnP, List.splitOnP_cons_eq_if_modifyHead]

theorem pairedRuns_single (other : digit ≠ '-') : ¬ PairedRuns [digit] := by
  simp [PairedRuns, List.splitOn_eq_splitOnP, List.splitOnP_cons_eq_if_modifyHead, other]

theorem pairedRuns_pair {rest : List Char} (other : first ≠ '-') :
    PairedRuns (first :: second :: rest) ↔
      first ∈ hexDigits ∧ second ∈ hexDigits ∧ PairedRuns rest := by
  by_cases dash : second = '-'
  · subst dash
    have odd : ¬ PairedRuns (first :: '-' :: rest) := by
      simp [PairedRuns, List.splitOn_eq_splitOnP, List.splitOnP_cons_eq_if_modifyHead, other]
    have undigit : '-' ∉ hexDigits := by decide
    exact iff_of_false odd fun holds => undigit holds.2.1
  · obtain ⟨run, runs, split⟩ := List.exists_cons_of_ne_nil (List.splitOn_ne_nil '-' rest)
    have split' : (first :: second :: rest).splitOn '-' = (first :: second :: run) :: runs := by
      rw [List.splitOn_eq_splitOnP] at split ⊢
      simp [List.splitOnP_cons_eq_if_modifyHead, other, dash, split]
    unfold PairedRuns
    rw [split, split']
    simp [Nat.even_add_one]
    tauto

theorem isSome_parseBytes (text : List Char) : (parseBytes text).isSome ↔ PairedRuns text := by
  induction text using pairs_induction with
  | nil => exact iff_of_true rfl pairedRuns_nil
  | dash rest ih => rw [parseBytes_cons_dash, pairedRuns_dash, ih]
  | single digit other =>
      rw [parseBytes_single other]
      exact iff_of_false Bool.false_ne_true (pairedRuns_single other)
  | pair first second rest other ih =>
      rw [parseBytes_pair other, pairedRuns_pair other, ← ih]
      cases found : hexCharToNibble first with
      | none =>
          refine iff_of_false Bool.false_ne_true fun holds => ?_
          obtain ⟨value, -, same, -⟩ := nibble_of_mem first holds.1
          cases found.symm.trans same
      | some high =>
          cases found' : hexCharToNibble second with
          | none =>
              refine iff_of_false Bool.false_ne_true fun holds => ?_
              obtain ⟨value, -, same, -⟩ := nibble_of_mem second holds.2.1
              cases found'.symm.trans same
          | some low =>
              have first_mem := mem_of_hexCharToNibble found
              have second_mem := mem_of_hexCharToNibble found'
              simp [first_mem, second_mem]

theorem exists_parse_iff {text : List Char} :
    (∃ uuid, parse text = .ok uuid) ↔ text.length = 36 ∧ Dashed text ∧ PairedRuns text := by
  rw [← isSome_parseBytes, Option.isSome_iff_exists]
  simp only [parse_eq_ok_iff, fromString]
  by_cases length : text.length = 36
  · by_cases dashed : Dashed text
    · have undashed : ¬ (text[8]? ≠ some '-' ∨ text[13]? ≠ some '-' ∨ text[18]? ≠ some '-' ∨
          text[23]? ≠ some '-') := by
        simpa only [Dashed, not_or, not_not] using dashed
      rw [if_neg (not_not.mpr length), if_neg undashed]
      cases parseBytes text with
      | none => simp
      | some bytes => simp [length, dashed]
    · have undashed : text[8]? ≠ some '-' ∨ text[13]? ≠ some '-' ∨ text[18]? ≠ some '-' ∨
          text[23]? ≠ some '-' := by
        by_contra both
        exact dashed (by simpa only [Dashed, not_or, not_not] using both)
      rw [if_neg (not_not.mpr length), if_pos undashed]
      simp [dashed]
  · rw [if_pos length]
    simp [length]

end

section

variable {text : List Char}

/-! ## Groups of digits -/

theorem mem_hexDigits (paired : PairedRuns text) {c : Char} (listed : c ∈ text) (other : c ≠ '-') :
    c ∈ hexDigits := by
  induction text using pairs_induction with
  | nil => cases listed
  | dash rest ih =>
      exact ih ((pairedRuns_dash rest).mp paired) ((List.mem_cons.mp listed).resolve_left other)
  | single digit other' => exact absurd paired (pairedRuns_single other')
  | pair first second rest other' ih =>
      obtain ⟨first_mem, second_mem, later⟩ := (pairedRuns_pair other').mp paired
      rcases List.mem_cons.mp listed with rfl | listed
      · exact first_mem
      · rcases List.mem_cons.mp listed with rfl | listed
        · exact second_mem
        · exact ih later listed

theorem byteToHex_pair (first_mem : first ∈ hexDigits) (second_mem : second ∈ hexDigits) :
    ∃ high low, hexCharToNibble first = some high ∧ hexCharToNibble second = some low ∧
      byteToHex (high <<< 4 ||| low) = [first.toLower, second.toLower] := by
  have joined : ∀ high < 16, ∀ low < 16, byteToHex (UInt8.ofNat high <<< 4 ||| UInt8.ofNat low) =
      [Nat.digitChar high, Nat.digitChar low] := by decide +kernel
  obtain ⟨high, high_lt, found, same⟩ := nibble_of_mem first first_mem
  obtain ⟨low, low_lt, found', same'⟩ := nibble_of_mem second second_mem
  refine ⟨_, _, found, found', ?_⟩
  rw [joined high high_lt low low_lt, same, same']

theorem parseBytes_group {group : List Char} (even : Even group.length)
    (digits : ∀ c ∈ group, c ∈ hexDigits) :
    ∃ bytes : List UInt8, 2 * bytes.length = group.length ∧
      bytes.flatMap byteToHex = group.map Char.toLower ∧
      ∀ rest, parseBytes (group ++ rest) = (parseBytes rest).map (bytes ++ ·) := by
  induction group using pairs_induction with
  | nil => exact ⟨[], rfl, rfl, fun rest => by simp⟩
  | dash rest ih => exact absurd (digits '-' List.mem_cons_self) (by decide)
  | single digit other => exact absurd even (by simp)
  | pair first second rest other ih =>
      obtain ⟨high, low, found, found', written⟩ := byteToHex_pair
        (digits first List.mem_cons_self) (digits second (List.mem_cons_of_mem _ List.mem_cons_self))
      obtain ⟨bytes, length, lower, read⟩ := ih (by simpa [Nat.even_add_one] using even)
        fun c listed => digits c (List.mem_cons_of_mem _ (List.mem_cons_of_mem _ listed))
      refine ⟨(high <<< 4 ||| low) :: bytes, ?_, ?_, fun more => ?_⟩
      · simp only [List.length_cons, ← length]
        omega
      · simp [written, lower]
      · rw [List.cons_append, List.cons_append, parseBytes_pair other, found, found',
          Option.bind_some, Option.bind_some, read more, Option.map_map]
        rfl

theorem toString_eq (bytes : Fin 16 → UInt8) :
    UUID.toString ⟨Vector.ofFn bytes⟩ =
      [0, 1, 2, 3].flatMap (fun i => byteToHex (bytes i)) ++
        '-' :: [4, 5].flatMap (fun i => byteToHex (bytes i)) ++
        '-' :: [6, 7].flatMap (fun i => byteToHex (bytes i)) ++
        '-' :: [8, 9].flatMap (fun i => byteToHex (bytes i)) ++
        '-' :: [10, 11, 12, 13, 14, 15].flatMap fun i => byteToHex (bytes i) := by
  simp only [UUID.toString, Fin.getElem_fin, Vector.getElem_ofFn, Fin.eta]
  rfl

theorem toString_groups {start time version clock node : List UInt8}
    (start_length : start.length = 4) (time_length : time.length = 2)
    (version_length : version.length = 2) (clock_length : clock.length = 2)
    (node_length : node.length = 6) :
    UUID.toString ⟨Vector.ofFn fun i =>
        (start ++ (time ++ (version ++ (clock ++ node)))).getD i.val 0⟩ =
      start.flatMap byteToHex ++ '-' :: time.flatMap byteToHex ++
        '-' :: version.flatMap byteToHex ++ '-' :: clock.flatMap byteToHex ++
        '-' :: node.flatMap byteToHex := by
  match start, time, version, clock, node with
  | [_, _, _, _], [_, _], [_, _], [_, _], [_, _, _, _, _, _] =>
      rw [toString_eq]
      rfl

theorem toString_of_wellFormed (wellFormed : WellFormed text) :
    ∃ bytes, parseBytes text = some bytes ∧
      UUID.toString ⟨Vector.ofFn fun i => bytes.getD i.val 0⟩ = text.map Char.toLower := by
  obtain ⟨first, second, third, fourth, fifth, rfl, ⟨of8, of4, of4', of4'', of12⟩, digits⟩ :=
    wellFormed
  obtain ⟨start, start_length, start_lower, start_read⟩ :=
    parseBytes_group (by rw [of8]; decide) (digits first (by simp))
  obtain ⟨time, time_length, time_lower, time_read⟩ :=
    parseBytes_group (by rw [of4]; decide) (digits second (by simp))
  obtain ⟨version, version_length, version_lower, version_read⟩ :=
    parseBytes_group (by rw [of4']; decide) (digits third (by simp))
  obtain ⟨clock, clock_length, clock_lower, clock_read⟩ :=
    parseBytes_group (by rw [of4'']; decide) (digits fourth (by simp))
  obtain ⟨node, node_length, node_lower, node_read⟩ :=
    parseBytes_group (by rw [of12]; decide) (digits fifth (by simp))
  have last := node_read []
  rw [List.append_nil] at last
  refine ⟨start ++ (time ++ (version ++ (clock ++ node))), ?_, ?_⟩
  · simp only [List.append_assoc, List.cons_append, start_read, time_read, version_read,
      clock_read, parseBytes_cons_dash, last]
    simp [parseBytes]
  · rw [toString_groups (by omega) (by omega) (by omega) (by omega) (by omega), start_lower,
      time_lower, version_lower, clock_lower, node_lower]
    have dash : Char.toLower '-' = '-' := rfl
    simp [dash]

theorem wellFormed_iff :
    WellFormed text ↔
      (text.length = 36 ∧ Dashed text ∧ PairedRuns text) ∧ text.count '-' = 4 := by
  have undigit : '-' ∉ hexDigits := by decide
  constructor
  · intro wellFormed
    obtain ⟨bytes, read, -⟩ := toString_of_wellFormed wellFormed
    have paired : PairedRuns text := (isSome_parseBytes text).mp (by rw [read]; rfl)
    obtain ⟨first, second, third, fourth, fifth, rfl, ⟨of8, of4, of4', of4'', of12⟩, digits⟩ :=
      wellFormed
    have clean (group : List Char) (listed : group ∈ [first, second, third, fourth, fifth]) :
        group.count '-' = 0 :=
      List.count_eq_zero.mpr fun dash => undigit (digits group listed '-' dash)
    refine ⟨⟨?_, ⟨?_, ?_, ?_, ?_⟩, paired⟩, ?_⟩
    · simp [of8, of4, of4', of4'', of12]
    · simp [of8]
    · simp [List.getElem?_append, of8, of4]
    · simp [List.getElem?_append, of8, of4, of4']
    · simp [List.getElem?_append, of8, of4, of4', of4'']
    · simp [clean first (by simp), clean second (by simp), clean third (by simp),
        clean fourth (by simp), clean fifth (by simp)]
  · rintro ⟨⟨length, dashed, paired⟩, counted⟩
    obtain ⟨first, second, third, fourth, fifth, rfl, lengths⟩ := exists_groups length dashed
    refine ⟨first, second, third, fourth, fifth, rfl, lengths, fun group listed c inside => ?_⟩
    simp only [List.count_append, List.count_cons_self] at counted
    have clean : group.count '-' = 0 := by
      simp only [List.mem_cons, List.not_mem_nil, or_false] at listed
      rcases listed with rfl | rfl | rfl | rfl | rfl <;> omega
    have other : c ≠ '-' := by
      rintro rfl
      exact List.count_eq_zero.mp clean inside
    have present : c ∈ first ++ '-' :: second ++ '-' :: third ++ '-' :: fourth ++ '-' :: fifth := by
      simp only [List.mem_cons, List.not_mem_nil, or_false] at listed
      rcases listed with rfl | rfl | rfl | rfl | rfl <;> simp [inside]
    exact mem_hexDigits paired present other

theorem toString_of_parse (wellFormed : WellFormed text) {uuid : UUID}
    (read : parse text = .ok uuid) : uuid.toString = text.map Char.toLower := by
  obtain ⟨bytes, bytes_read, lower⟩ := toString_of_wellFormed wellFormed
  have found := parse_eq_ok_iff.mp read
  unfold fromString at found
  split_ifs at found
  rw [bytes_read, Option.map_some, Option.some.injEq] at found
  rw [← found, lower]

end

section

/-! ## Which texts are read as they should be -/

/-- **The text form is a bijection.** Every identifier is read back from its text form, and no
text makes the parser leave its bounds. A text is accepted exactly when it is well-formed, refused
as an invalid argument otherwise, and read back in lower case, unless it has the four dashes in
place, only pairs of digits between dashes, and a fifth dash. -/
theorem fromString_toString_bijective (text : List Char) :
    (∀ uuid : UUID, parse uuid.toString = .ok uuid) ∧ parse text ≠ .error .outOfRange ∧
      (ReadsExactly text ↔ ¬ HasSpareDash text) := by
  refine ⟨fun uuid => parse_eq_ok_iff.mpr (fromString_toString uuid), parse_ne_outOfRange text, ?_⟩
  by_cases accepted : text.length = 36 ∧ Dashed text ∧ PairedRuns text
  · have dashes : 4 ≤ text.count '-' := four_le_count accepted.1 accepted.2.1
    obtain ⟨uuid, read⟩ := exists_parse_iff.mpr accepted
    constructor
    · intro exactly spare
      have malformed : ¬ WellFormed text := fun wellFormed =>
        Nat.ne_of_gt spare.2.2.1 (wellFormed_iff.mp wellFormed).2
      obtain ⟨message, refused⟩ := exactly.refuses malformed
      cases read.symm.trans refused
    · intro sparse
      have counted : text.count '-' = 4 := by
        by_contra other
        exact sparse ⟨accepted.1, accepted.2.1, by omega, accepted.2.2⟩
      have wellFormed : WellFormed text := wellFormed_iff.mpr ⟨accepted, counted⟩
      refine ⟨fun _ => ⟨uuid, read⟩, fun malformed => absurd wellFormed malformed, ?_⟩
      intro uuid' read'
      exact toString_of_parse wellFormed read'
  · have malformed : ¬ WellFormed text := fun wellFormed => accepted (wellFormed_iff.mp wellFormed).1
    have refused : ¬ ∃ uuid, parse text = .ok uuid := fun read => accepted (exists_parse_iff.mp read)
    have sparse : ¬ HasSpareDash text := fun spare => accepted ⟨spare.1, spare.2.1, spare.2.2.2⟩
    refine iff_of_true ⟨fun wellFormed => absurd wellFormed malformed, fun _ => ?_, ?_⟩ sparse
    · exact exists_message refused
    · intro uuid read
      exact absurd ⟨uuid, read⟩ refused

/-- A text with a dash too many in place of two digits is accepted. -/
theorem fromString_spare_dash : ¬ ∀ text, ReadsExactly text := by
  intro all
  have accepted : ∃ uuid, parse "12--5678-1234-1234-1234-1234567890ab".toList = .ok uuid := by
    simp only [parse_eq_ok_iff]
    exact ⟨_, rfl⟩
  have malformed : ¬ WellFormed "12--5678-1234-1234-1234-1234567890ab".toList := by
    intro wellFormed
    have counted := (wellFormed_iff.mp wellFormed).2
    revert counted
    decide
  obtain ⟨uuid, read⟩ := accepted
  obtain ⟨message, refused⟩ := (all _).refuses malformed
  cases read.symm.trans refused

end

end UUID

end DirtSim
