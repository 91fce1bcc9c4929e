import Mathlib.Data.List.AList
import Mathlib.Tactic.Common

/-! # Finite maps with updates in place

Association lists with distinct keys stand for hash maps. Beyond the insertion and erasure of
the underlying library, a program changes values through references into the map, inserts
only when a key is absent, and relies on no order of the entries
(`Dict.SameEntries`).
-/

namespace DirtSim.Foundation

abbrev Dict (κ ν : Type*) := AList fun _ : κ => ν

namespace Dict

variable {κ ν : Type*} {μ : Type*}

/-- The map with every value changed, each according to its key. -/
def mapValues (change : κ → ν → μ) (dict : Dict κ ν) : Dict κ μ where
  entries := dict.entries.map fun entry => ⟨entry.1, change entry.1 entry.2⟩
  nodupKeys := by
    rw [List.NodupKeys, List.keys, List.map_map]
    exact dict.nodupKeys

variable [DecidableEq κ]

@[simp] theorem lookup_mapValues (change : κ → ν → μ) (dict : Dict κ ν) (key : κ) :
    (mapValues change dict).lookup key = (dict.lookup key).map (change key) :=
  List.dlookup_map₂ key

/-- The map with one value changed where it stands. -/
def modify (key : κ) (change : ν → ν) (dict : Dict κ ν) : Dict κ ν :=
  mapValues (fun other value => if other = key then change value else value) dict

@[simp] theorem lookup_modify_self (key : κ) (change : ν → ν) (dict : Dict κ ν) :
    (modify key change dict).lookup key = (dict.lookup key).map change := by
  simp [modify]

theorem lookup_modify_ne {key other : κ} (change : ν → ν) (dict : Dict κ ν)
    (apart : other ≠ key) : (modify key change dict).lookup other = dict.lookup other := by
  simp [modify, apart, Option.map_id']

theorem lookup_modify (key other : κ) (change : ν → ν) (dict : Dict κ ν) :
    (modify key change dict).lookup other =
      if other = key then (dict.lookup key).map change else dict.lookup other := by
  by_cases same : other = key
  · subst same
    rw [lookup_modify_self, if_pos rfl]
  · rw [lookup_modify_ne change dict same, if_neg same]

/-- The map with an entry added unless its key is already present. -/
def emplace (key : κ) (value : ν) (dict : Dict κ ν) : Dict κ ν :=
  if (dict.lookup key).isSome then dict else dict.insert key value

theorem emplace_of_absent {key : κ} {dict : Dict κ ν} (value : ν)
    (absent : dict.lookup key = none) : emplace key value dict = dict.insert key value := by
  simp [emplace, absent]

theorem lookup_insert (key other : κ) (value : ν) (dict : Dict κ ν) :
    (dict.insert key value).lookup other =
      if other = key then some value else dict.lookup other := by
  by_cases same : other = key
  · subst same
    rw [AList.lookup_insert, if_pos rfl]
  · rw [AList.lookup_insert_ne same, if_neg same]

theorem lookup_emplace_of_absent {key : κ} {dict : Dict κ ν} (value : ν)
    (absent : dict.lookup key = none) (other : κ) :
    (emplace key value dict).lookup other = if other = key then some value else dict.lookup other := by
  rw [emplace_of_absent value absent, lookup_insert]

theorem lookup_erase (key other : κ) (dict : Dict κ ν) :
    (dict.erase key).lookup other = if other = key then none else dict.lookup other := by
  by_cases same : other = key
  · subst same
    rw [AList.lookup_erase, if_pos rfl]
  · rw [AList.lookup_erase_ne same, if_neg same]

theorem lookup_eraseAll (keys : List κ) (dict : Dict κ ν) (key : κ) :
    (keys.foldl (fun dict key => dict.erase key) dict).lookup key =
      if key ∈ keys then none else dict.lookup key := by
  induction keys generalizing dict with
  | nil => rfl
  | cons first keys ih =>
      rw [List.foldl_cons, ih]
      by_cases later : key ∈ keys
      · rw [if_pos later, if_pos (List.mem_cons_of_mem _ later)]
      · rw [if_neg later, lookup_erase]
        by_cases same : key = first
        · rw [if_pos same, if_pos (List.mem_cons.mpr (Or.inl same))]
        · rw [if_neg same, if_neg]
          intro either
          exact (List.mem_cons.mp either).elim same later

theorem lookup_insert_eq_update (key : κ) (value : ν) (dict : Dict κ ν) :
    (dict.insert key value).lookup = Function.update dict.lookup key (some value) := by
  funext other
  rw [lookup_insert, Function.update_apply]

theorem lookup_erase_eq_update (key : κ) (dict : Dict κ ν) :
    (dict.erase key).lookup = Function.update dict.lookup key none := by
  funext other
  rw [lookup_erase, Function.update_apply]

/-- Two maps with the same entries, possibly in another order. -/
def SameEntries (first second : Dict κ ν) : Prop := first.entries.Perm second.entries

theorem SameEntries.lookup {first second : Dict κ ν} (same : first.SameEntries second) (key : κ) :
    first.lookup key = second.lookup key := AList.perm_lookup same

end Dict

end DirtSim.Foundation
