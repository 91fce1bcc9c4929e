import DirtSim.Foundation.Numerals
import Mathlib.Algebra.Order.Field.Rat
import Mathlib.Data.List.GetD
import Mathlib.Data.List.Nodup
import Mathlib.Data.Rat.Cast.Order
import Mathlib.Logic.Equiv.Defs

/-! # Reflected JSON

Values are written to JSON and read back member by member. A number that is not finite and a byte
that is no enumerator do not come back: each type says which of its values are `Storable`, and these
and no others are read back (`Reflected.read_write`).
-/

namespace DirtSim.Foundation

section

/-- A floating-point number, exact where it is finite. -/
inductive Binary64
  | finite (value : ℚ)
  | infinite (negative : Bool)
  | nan
deriving DecidableEq

namespace Binary64

/-- The order of the comparison operators: nothing is below or above `nan`. -/
def lt : Binary64 → Binary64 → Bool
  | finite left, finite right => decide (left < right)
  | finite _, infinite negative => !negative
  | infinite negative, finite _ => negative
  | infinite left, infinite right => left && !right
  | _, _ => false

instance : LT Binary64 := ⟨fun left right => lt left right = true⟩

instance (left right : Binary64) : Decidable (left < right) :=
  inferInstanceAs (Decidable (lt left right = true))

def isfinite : Binary64 → Bool
  | finite _ => true
  | _ => false

instance (value : ℕ) : OfNat Binary64 value := ⟨finite (value : ℚ)⟩

instance : OfScientific Binary64 :=
  ⟨fun mantissa negative exponent => finite (OfScientific.ofScientific mantissa negative exponent)⟩

theorem lt_finite {left right : ℚ} : finite left < finite right ↔ left < right :=
  decide_eq_true_iff

theorem lt_irrefl (value : Binary64) : ¬ value < value := by
  cases value with
  | finite value => exact mt lt_finite.mp (lt_self_iff_false value).mp
  | infinite negative => cases negative <;> exact Bool.false_ne_true
  | nan => exact Bool.false_ne_true

end Binary64

end

inductive Json
  | null
  | boolean (value : Bool)
  | integer (value : ℤ)
  | float (value : ℚ)
  | string (text : String)
  | array (items : List Json)
  | object (fields : List (String × Json))

namespace Json

def typeName : Json → String
  | null => "null"
  | boolean _ => "boolean"
  | integer _ => "number"
  | float _ => "number"
  | string _ => "string"
  | array _ => "array"
  | object _ => "object"

def typeError (expected : String) (json : Json) : String :=
  "[json.exception.type_error.302] type must be " ++ expected ++ ", but is " ++ json.typeName

end Json

def appendIndex (path : String) (index : ℕ) : String := path ++ "[" ++ toString index ++ "]"

def appendPath (path fieldName : String) : String :=
  if path = "" then fieldName else path ++ "." ++ fieldName

/-- Values that are written to JSON, and read over a value there was before. -/
class Reflected (α : Type) where
  initial : α
  write : α → Json
  read : String → α → Json → Except String α
  /-- Nothing is left of this value once a written one is read over it. -/
  Blank : α → Prop
  Storable : α → Prop
  blank_initial : Blank initial
  storable_initial : Storable initial
  write_ne_null {value : α} : Storable value → write value ≠ .null
  read_write {path : String} {before value : α} :
    Blank before → (read path before (write value) = .ok value ↔ Storable value)
  storable_read {path : String} {before value : α} {json : Json} :
    Storable before → read path before json = .ok value → Storable value

class Member (α : Type) where
  write : α → Option Json
  read : String → α → Json → Except String α
  Blank : α → Prop
  Storable : α → Prop
  read_write {path : String} {before value : α} : Blank before →
    ((write value).elim (.ok before) (read path before) = .ok value ↔ Storable value)
  storable_read {path : String} {before value : α} {json : Json} :
    Storable before → read path before json = .ok value → Storable value

section

theorem bind_ok {α β : Type} {first : Except String α} {next : α → Except String β} {value : β} :
    (first >>= next) = .ok value ↔ ∃ middle, first = .ok middle ∧ next middle = .ok value := by
  cases first with
  | error reason =>
      refine ⟨nofun, ?_⟩
      rintro ⟨_, equal, _⟩
      exact nomatch equal
  | ok middle =>
      refine ⟨fun equal => ⟨middle, rfl, equal⟩, ?_⟩
      rintro ⟨_, equal, rest⟩
      exact Except.ok.inj equal ▸ rest

theorem map_ok {α β : Type} {first : Except String α} {convert : α → β} {value : β} :
    first.map convert = .ok value ↔ ∃ middle, first = .ok middle ∧ convert middle = value := by
  cases first with
  | error reason =>
      refine ⟨nofun, ?_⟩
      rintro ⟨_, equal, _⟩
      exact nomatch equal
  | ok middle =>
      refine ⟨fun equal => ⟨middle, rfl, Except.ok.inj equal⟩, ?_⟩
      rintro ⟨_, equal, rest⟩
      exact congrArg Except.ok (Except.ok.inj equal ▸ rest)

instance (priority := low) {α : Type} [Reflected α] : Member α where
  write value := some (Reflected.write value)
  read := Reflected.read
  Blank := Reflected.Blank
  Storable := Reflected.Storable
  read_write := Reflected.read_write
  storable_read := Reflected.storable_read

/-- An optional member is left out when it is empty, and empty when it is `null`. -/
instance {α : Type} [Reflected α] : Member (Option α) where
  write value := value.map Reflected.write
  read path before json :=
    match json with
    | .null => .ok none
    | json => (Reflected.read path (before.getD Reflected.initial) json).map some
  Blank before := before = none
  Storable value := ∀ inner ∈ value, Reflected.Storable inner
  read_write := by
    rintro path _ value rfl
    cases value with
    | none => exact iff_of_true rfl fun _ absent => nomatch absent
    | some inner =>
        have law : Reflected.read path Reflected.initial (Reflected.write inner) = .ok inner ↔
            Reflected.Storable inner := Reflected.read_write Reflected.blank_initial
        have storable : (∀ other ∈ some inner, Reflected.Storable other) ↔
            Reflected.Storable inner :=
          ⟨fun all => all inner rfl, fun holds other same => Option.some.inj same ▸ holds⟩
        rw [storable, ← law, Option.map_some, Option.elim_some]
        split
        case h_1 empty =>
            refine iff_of_false (fun equal => nomatch Except.ok.inj equal) fun read => ?_
            exact Reflected.write_ne_null (law.mp read) empty
        case h_2 =>
            rw [map_ok]
            simp
  storable_read := by
    intro path before value json known read
    split at read
    · obtain rfl := Except.ok.inj read
      exact fun _ absent => nomatch absent
    · obtain ⟨inner, found, rfl⟩ := map_ok.mp read
      have earlier : Reflected.Storable (before.getD Reflected.initial) := by
        cases before with
        | none => exact Reflected.storable_initial
        | some old => exact known old rfl
      intro other same
      exact Option.some.inj same ▸ Reflected.storable_read earlier found

/-- The members of a record, one after the other. -/
class Members (T : Type) where
  arity : ℕ
  write : List String → T → List (String × Json)
  read : String → List String → T → List (String × Json) → Except String T
  Blank : T → Prop
  Storable : T → Prop
  mem_names {names : List String} {tuple : T} {entry : String × Json} :
    entry ∈ write names tuple → entry.1 ∈ names
  read_write {path : String} {names : List String} {before tuple : T}
    {fields : List (String × Json)} : names.Nodup → names.length = arity → Blank before →
    (∀ name ∈ names, fields.lookup name = (write names tuple).lookup name) →
    (read path names before fields = .ok tuple ↔ Storable tuple)
  storable_read {path : String} {names : List String} {before tuple : T}
    {fields : List (String × Json)} :
    Storable before → read path names before fields = .ok tuple → Storable tuple

instance : Members Unit where
  arity := 0
  write _ _ := []
  read _ _ before _ := .ok before
  Blank _ := True
  Storable _ := True
  mem_names member := absurd member List.not_mem_nil
  read_write _ _ _ _ := iff_of_true rfl trivial
  storable_read _ _ := trivial

theorem lookup_eq_none {names : List String} {fields : List (String × Json)} {name : String}
    (inside : ∀ entry ∈ fields, entry.1 ∈ names) (fresh : name ∉ names) :
    fields.lookup name = none := by
  rw [List.lookup_eq_none_iff]
  intro entry member
  rw [bne_iff_ne]
  rintro rfl
  exact fresh (inside entry member)

instance {α T : Type} [Member α] [Members T] : Members (α × T) where
  arity := Members.arity T + 1
  write
    | [], _ => []
    | name :: names, (value, rest) =>
        ((Member.write value).map (name, ·)).toList ++ Members.write names rest
  read
    | _, [], before, _ => .ok before
    | path, name :: names, (before, others), fields => do
        let value ← (fields.lookup name).elim (.ok before)
          (Member.read (appendPath path name) before)
        let rest ← Members.read path names others fields
        .ok (value, rest)
  Blank before := Member.Blank before.1 ∧ Members.Blank before.2
  Storable tuple := Member.Storable tuple.1 ∧ Members.Storable tuple.2
  mem_names := by
    rintro (_ | ⟨name, names⟩) ⟨value, rest⟩ entry member
    · exact absurd member List.not_mem_nil
    · rcases List.mem_append.mp member with first | later
      · cases written : Member.write value with
        | none =>
            rw [written] at first
            exact absurd first List.not_mem_nil
        | some json =>
            rw [written] at first
            obtain rfl := List.mem_singleton.mp first
            exact List.mem_cons_self
      · exact List.mem_cons_of_mem _ (Members.mem_names later)
  read_write := by
    rintro path (_ | ⟨name, names⟩) ⟨before, others⟩ ⟨value, rest⟩ fields nodup complete
      ⟨blank, blanks⟩ agree
    · exact absurd complete (Nat.succ_ne_zero _).symm
    · obtain ⟨fresh, nodup⟩ := List.nodup_cons.mp nodup
      have later : (Members.write names rest).lookup name = none :=
        lookup_eq_none (fun _ => Members.mem_names) fresh
      have own : fields.lookup name = Member.write value := by
        rw [agree name List.mem_cons_self, List.lookup_append, later, Option.or_none]
        cases Member.write value with
        | none => rfl
        | some json => exact List.lookup_cons_self
      have foreign : ∀ other ∈ names,
          fields.lookup other = (Members.write names rest).lookup other := by
        intro other member
        have differs : other ≠ name := fun equal => fresh (equal ▸ member)
        have skipped : (((Member.write value).map (name, ·)).toList).lookup other = none := by
          cases Member.write value with
          | none => rfl
          | some json =>
              exact lookup_eq_none (fun _ same => List.mem_singleton.mpr
                (congrArg Prod.fst (List.mem_singleton.mp same))) (mt List.mem_singleton.mp differs)
        rw [agree other (List.mem_cons_of_mem _ member), List.lookup_append, skipped,
          Option.none_or]
      have first : (fields.lookup name).elim (.ok before)
          (Member.read (appendPath path name) before) = .ok value ↔ Member.Storable value := by
        rw [own]
        exact Member.read_write blank
      have last : Members.read path names others fields = .ok rest ↔ Members.Storable rest :=
        Members.read_write nodup (Nat.succ.inj complete) blanks foreign
      rw [← first, ← last]
      constructor
      · intro read
        obtain ⟨value', found, read⟩ := bind_ok.mp read
        obtain ⟨rest', found', equal⟩ := bind_ok.mp read
        obtain ⟨rfl, rfl⟩ := Prod.mk.inj (Except.ok.inj equal)
        exact ⟨found, found'⟩
      · rintro ⟨found, found'⟩
        exact bind_ok.mpr ⟨value, found, bind_ok.mpr ⟨rest, found', rfl⟩⟩
  storable_read := by
    rintro path (_ | ⟨name, names⟩) ⟨before, others⟩ ⟨value, rest⟩ fields ⟨known, knowns⟩ read
    · exact Except.ok.inj read ▸ ⟨known, knowns⟩
    · obtain ⟨value', found, read⟩ := bind_ok.mp read
      obtain ⟨rest', found', equal⟩ := bind_ok.mp read
      obtain ⟨rfl, rfl⟩ := Prod.mk.inj (Except.ok.inj equal)
      refine ⟨?_, Members.storable_read knowns found'⟩
      cases present : fields.lookup name with
      | none =>
          rw [present] at found
          exact Except.ok.inj found ▸ known
      | some json =>
          rw [present] at found
          exact Member.storable_read known found

structure Layout (R T : Type) [Members T] where
  names : List String
  nodup : names.Nodup
  complete : names.length = Members.arity T
  members : R ≃ T
  initial : R
  blank : Members.Blank (members initial)
  storable : Members.Storable (members initial)

/-- **Records are read back when their members are.** -/
@[reducible]
def Layout.reflected {R T : Type} [Members T] (layout : Layout R T) : Reflected R where
  initial := layout.initial
  write value := .object (Members.write layout.names (layout.members value))
  read path before
    | .object fields =>
        (Members.read path layout.names (layout.members before) fields).map layout.members.symm
    | _ => .error (path ++ " must be a JSON object")
  Blank value := Members.Blank (layout.members value)
  Storable value := Members.Storable (layout.members value)
  blank_initial := layout.blank
  storable_initial := layout.storable
  write_ne_null _ := nofun
  read_write := by
    intro path before value blank
    have law : Members.read path layout.names (layout.members before)
        (Members.write layout.names (layout.members value)) = .ok (layout.members value) ↔
          Members.Storable (layout.members value) :=
      Members.read_write layout.nodup layout.complete blank fun _ _ => rfl
    rw [map_ok, ← law]
    constructor
    · rintro ⟨tuple, read, same⟩
      rwa [layout.members.symm_apply_eq.mp same] at read
    · intro read
      exact ⟨_, read, layout.members.symm_apply_apply value⟩
  storable_read := by
    intro path before value json known read
    cases json with
    | object fields =>
        obtain ⟨tuple, found, rfl⟩ := map_ok.mp read
        rw [Equiv.apply_symm_apply]
        exact Members.storable_read known found
    | _ => exact nomatch read

end

section

instance : Reflected Bool where
  initial := false
  write := .boolean
  read _ _
    | .boolean value => .ok value
    | json => .error (json.typeError "boolean")
  Blank _ := True
  Storable _ := True
  blank_initial := trivial
  storable_initial := trivial
  write_ne_null _ := nofun
  read_write _ := iff_of_true rfl trivial
  storable_read _ _ := trivial

/-- Conversion of a number to an integer, towards zero. -/
def truncate (value : ℚ) : ℤ := value.num.tdiv value.den

/-- Machine integers are written as numbers, and read from any number or boolean. -/
@[reducible]
def Reflected.machineInteger {α : Type} (initial : α) (toInt : α → ℤ) (ofInt : ℤ → α)
    (ofInt_toInt : ∀ value, ofInt (toInt value) = value) : Reflected α where
  initial := initial
  write value := .integer (toInt value)
  read _ _
    | .integer value => .ok (ofInt value)
    | .float value => .ok (ofInt (truncate value))
    | .boolean value => .ok (ofInt value.toInt)
    | json => .error (json.typeError "number")
  Blank _ := True
  Storable _ := True
  blank_initial := trivial
  storable_initial := trivial
  write_ne_null _ := nofun
  read_write _ := iff_of_true (congrArg Except.ok (ofInt_toInt _)) trivial
  storable_read _ _ := trivial

instance : Reflected Int32 :=
  .machineInteger 0 Int32.toInt Int32.ofInt fun _ => Int32.ofInt_toInt _

instance : Reflected UInt32 :=
  .machineInteger 0 (·.toNat) (fun value => UInt32.ofNat (value % 2 ^ 32).toNat) fun value => by
    have small : (value.toNat : ℤ) % 2 ^ 32 = value.toNat :=
      Int.emod_eq_of_lt (Int.natCast_nonneg _) (by exact_mod_cast value.toNat_lt)
    rw [small, Int.toNat_natCast, UInt32.ofNat_toNat]

instance : Reflected UInt8 :=
  .machineInteger 0 (·.toNat) (fun value => UInt8.ofNat (value % 2 ^ 8).toNat) fun value => by
    have small : (value.toNat : ℤ) % 2 ^ 8 = value.toNat :=
      Int.emod_eq_of_lt (Int.natCast_nonneg _) (by exact_mod_cast value.toNat_lt)
    rw [small, Int.toNat_natCast, UInt8.ofNat_toNat]

/-- A number that is not finite has no text, and is written as `null`. -/
instance : Reflected Binary64 where
  initial := 0
  write
    | .finite value => .float value
    | _ => .null
  read _ _
    | .integer value => .ok (.finite value)
    | .float value => .ok (.finite value)
    | json => .error (json.typeError "number")
  Blank _ := True
  Storable value := value.isfinite = true
  blank_initial := trivial
  storable_initial := rfl
  write_ne_null {value} finite := by
    cases value with
    | finite value => exact nofun
    | infinite negative => exact nomatch finite
    | nan => exact nomatch finite
  read_write {_ _ value} _ := by
    cases value with
    | finite value => exact iff_of_true rfl rfl
    | infinite negative => exact iff_of_false nofun nofun
    | nan => exact iff_of_false nofun nofun
  storable_read {_ _ value json} _ read := by
    cases json with
    | integer number => exact Except.ok.inj read ▸ rfl
    | float number => exact Except.ok.inj read ▸ rfl
    | _ => exact nomatch read

structure Text where
  bytes : List UInt8
deriving DecidableEq

namespace Text

def array (text : Text) : ByteArray := ⟨text.bytes.toArray⟩

/-- The bytes are those of a text; no others can be written. -/
def Valid (text : Text) : Prop := text.array.validateUTF8 = true

instance (text : Text) : Decidable text.Valid := inferInstanceAs (Decidable (_ = _))

theorem valid_empty : Valid ⟨[]⟩ :=
  ByteArray.validateUTF8_eq_true_iff.mpr ByteArray.isValidUTF8_empty

instance : Reflected Text where
  initial := ⟨[]⟩
  write text :=
    if valid : text.Valid then
      .string (String.ofByteArray text.array (ByteArray.validateUTF8_eq_true_iff.mp valid))
    else .null
  read _ _
    | .string text => .ok ⟨text.toByteArray.data.toList⟩
    | json => .error (json.typeError "string")
  Blank _ := True
  Storable text := text.Valid
  blank_initial := trivial
  storable_initial := valid_empty
  write_ne_null valid := by
    rw [dif_pos valid]
    exact nofun
  read_write {_ _ text} _ := by
    by_cases valid : text.Valid
    · rw [dif_pos valid]
      exact iff_of_true rfl valid
    · rw [dif_neg valid]
      exact iff_of_false nofun valid
  storable_read {_ _ text json} _ read := by
    cases json with
    | string written =>
        obtain rfl := Except.ok.inj read
        exact ByteArray.validateUTF8_eq_true_iff.mpr written.isValidUTF8
    | _ => exact nomatch read

end Text

/-- The names of the enumerators from zero on, and the complaints about other text. -/
structure Enumerators where
  names : List String
  nodup : names.Nodup
  named : "" ∉ names
  nonempty : 0 < names.length
  small : names.length ≤ 256
  notString : String → Json → String := fun path _ => path ++ " must be a JSON string"
  unknown : String → String → String := fun path text =>
    "Invalid enum value '" ++ text ++ "' for " ++ path

/-- An enumeration is stored in a byte, which need not be that of an enumerator. -/
structure Enumerated (enumerators : Enumerators) where
  value : UInt8
deriving DecidableEq

namespace Enumerated

variable {enumerators : Enumerators}

def enum_name (enum : Enumerated enumerators) : String :=
  enumerators.names.getD enum.value.toNat ""

def Named (enum : Enumerated enumerators) : Prop :=
  enum.value.toNat < enumerators.names.length

instance (enum : Enumerated enumerators) : Decidable enum.Named :=
  inferInstanceAs (Decidable (_ < _))

theorem idxOf?_enum_name (enum : Enumerated enumerators) :
    enumerators.names.idxOf? enum.enum_name =
      if enum.Named then some enum.value.toNat else none := by
  unfold enum_name
  split
  case isTrue named =>
      rw [List.getD_eq_getElem _ _ named, List.idxOf?_eq_some_iff]
      refine ⟨named, rfl, fun place before same => ?_⟩
      exact before.ne ((enumerators.nodup.getElem_inj_iff).mp same)
  case isFalse nameless =>
      rw [List.getD_eq_default _ _ (not_lt.mp nameless), List.idxOf?_eq_none_iff]
      exact enumerators.named

instance : Reflected (Enumerated enumerators) where
  initial := ⟨0⟩
  write enum := .string enum.enum_name
  read path _
    | .string text =>
        match enumerators.names.idxOf? text with
        | some place => .ok ⟨UInt8.ofNat place⟩
        | none => .error (enumerators.unknown path text)
    | json => .error (enumerators.notString path json)
  Blank _ := True
  Storable enum := enum.Named
  blank_initial := trivial
  storable_initial := enumerators.nonempty
  write_ne_null _ := nofun
  read_write {_ _ enum} _ := by
    dsimp only
    rw [idxOf?_enum_name]
    by_cases named : enum.Named
    · rw [if_pos named]
      refine iff_of_true (congrArg Except.ok ?_) named
      rw [UInt8.ofNat_toNat]
    · rw [if_neg named]
      exact iff_of_false nofun named
  storable_read {_ _ enum json} _ read := by
    cases json with
    | string text =>
        dsimp only at read
        cases found : enumerators.names.idxOf? text with
        | none =>
            rw [found] at read
            exact nomatch read
        | some place =>
            rw [found] at read
            obtain rfl := Except.ok.inj read
            have inside : place < enumerators.names.length :=
              (List.idxOf?_eq_some_iff.mp found).1
            have small : place < 256 := inside.trans_le enumerators.small
            unfold Named
            rwa [UInt8.toNat_ofNat_of_lt' small]
    | _ => exact nomatch read

end Enumerated

end

section

variable {α : Type} [Reflected α]

/-- Reads the items of an array, each over a new value. -/
def readItems (path : String) : ℕ → List Json → Except String (List α)
  | _, [] => .ok []
  | index, json :: items => do
      let item ← Reflected.read (appendIndex path index) Reflected.initial json
      let rest ← readItems path (index + 1) items
      .ok (item :: rest)

theorem readItems_map {path : String} {index : ℕ} {values : List α} :
    readItems path index (values.map Reflected.write) = .ok values ↔
      ∀ value ∈ values, Reflected.Storable value := by
  induction values generalizing index with
  | nil => exact iff_of_true rfl fun _ member => absurd member List.not_mem_nil
  | cons value values ih =>
      have first : Reflected.read (appendIndex path index) Reflected.initial
          (Reflected.write value) = .ok value ↔ Reflected.Storable value :=
        Reflected.read_write Reflected.blank_initial
      rw [List.forall_mem_cons, ← first, ← ih]
      constructor
      · intro read
        obtain ⟨item, found, read⟩ := bind_ok.mp read
        obtain ⟨rest, found', equal⟩ := bind_ok.mp read
        obtain ⟨rfl, rfl⟩ := List.cons.inj (Except.ok.inj equal)
        exact ⟨found, found'⟩
      · rintro ⟨found, found'⟩
        exact bind_ok.mpr ⟨value, found, bind_ok.mpr ⟨values, found', rfl⟩⟩

theorem storable_readItems {path : String} {index : ℕ} {items : List Json} {values : List α}
    (read : readItems path index items = .ok values) :
    ∀ value ∈ values, Reflected.Storable value := by
  induction items generalizing index values with
  | nil =>
      obtain rfl := Except.ok.inj read
      exact fun _ member => absurd member List.not_mem_nil
  | cons json items ih =>
      obtain ⟨item, found, read⟩ := bind_ok.mp read
      obtain ⟨rest, found', equal⟩ := bind_ok.mp read
      obtain rfl := Except.ok.inj equal
      exact List.forall_mem_cons.mpr
        ⟨Reflected.storable_read Reflected.storable_initial found, ih found'⟩

instance : Reflected (List α) where
  initial := []
  write values := .array (values.map Reflected.write)
  read path _
    | .array items => readItems path 0 items
    | _ => .error (path ++ " must be a JSON array")
  Blank _ := True
  Storable values := ∀ value ∈ values, Reflected.Storable value
  blank_initial := trivial
  storable_initial _ member := absurd member List.not_mem_nil
  write_ne_null _ := nofun
  read_write _ := readItems_map
  storable_read {_ _ _ json} _ read := by
    cases json with
    | array items => exact storable_readItems read
    | _ => exact nomatch read

end

end DirtSim.Foundation
