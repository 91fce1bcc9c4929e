import DirtSim.OsManager.RadioFrames

/-! # The parser reads what is there

Whatever is received, no parser of radio frames reads a byte behind the end. Each of them ends, as
the offset of its loops grows with every round.
-/

namespace DirtSim

open Foundation

namespace OsManager

variable {offset : ℕ}

/-- A reader has a result, so that it has only read bytes that are there. -/
def Reads {α : Type} (result : Option α) : Prop := ∃ value, result = some value

namespace Reads

variable {α β : Type}

theorem some (value : α) : Reads (some value) := ⟨value, rfl⟩

theorem bind {first : Option α} {next : α → Option β} (reads : Reads first)
    (later : ∀ value, Reads (next value)) : Reads (first.bind next) := by
  obtain ⟨value, rfl⟩ := reads
  exact later value

theorem map {first : Option α} (change : α → β) (reads : Reads first) :
    Reads (first.map change) := by
  obtain ⟨value, rfl⟩ := reads
  exact ⟨change value, rfl⟩

theorem mapM {read : α → Option β} {places : List α} (each : ∀ place ∈ places, Reads (read place)) :
    Reads (places.mapM read) := by
  induction places with
  | nil => exact ⟨[], rfl⟩
  | cons place places ih =>
      rw [List.mapM_cons]
      apply bind (each place List.mem_cons_self)
      intro value
      apply bind (ih fun other listed => each other (List.mem_cons_of_mem _ listed))
      intro rest
      exact some _

theorem byte {data : List UInt8} (inside : offset < data.length) :
    Reads data[offset]? := ⟨_, List.getElem?_eq_getElem inside⟩

end Reads

variable {data frame : List UInt8}

theorem readLe16_reads (inside : offset + 2 ≤ data.length) : Reads (readLe16 data offset) := by
  unfold readLe16
  exact (Reads.byte (by omega)).bind fun low => (Reads.byte (by omega)).bind fun high => .some _

theorem readLe32_reads (inside : offset + 4 ≤ data.length) : Reads (readLe32 data offset) := by
  unfold readLe32
  exact (Reads.byte (by omega)).bind fun first => (Reads.byte (by omega)).bind fun second =>
    (Reads.byte (by omega)).bind fun third => (Reads.byte (by omega)).bind fun fourth => .some _

theorem formatMac_reads (inside : offset + 6 ≤ data.length) : Reads (formatMac data offset) := by
  apply Reads.map
  apply Reads.mapM
  intro i below
  have few := List.mem_range.mp below
  exact Reads.byte (by omega)

theorem sanitizeSsid_reads {offset length : ℕ} (inside : offset + length ≤ data.length) :
    Reads (sanitizeSsid data offset length) := by
  apply Reads.mapM
  intro i below
  have few := List.mem_range.mp below
  exact (Reads.byte (by omega)).map _

/-! ## The radiotap header -/

theorem presentWords_reads {headerLength : ℕ} (inside : headerLength ≤ data.length)
    (presentOffset word : ℕ) (words : List ℕ) :
    Reads (presentWords data headerLength presentOffset word words) := by
  fun_induction presentWords data headerLength presentOffset word words with
  | case1 => exact .some _
  | case2 presentOffset word words chained within ih =>
      exact (readLe32_reads (by omega)).bind ih
  | case3 => exact .some _

theorem readField_reads {field offset : ℕ} (inside : offset + (fieldLayout field).2 ≤ data.length)
    (info : RadiotapInfo) : Reads (readField data field offset info) := by
  unfold readField
  split
  · subst field
    exact (readLe16_reads (by simp only [fieldLayout] at inside; omega)).map _
  · split
    · subst field
      exact (Reads.byte (by simp only [fieldLayout] at inside; omega)).map _
    · exact .some _

theorem readFields_reads {headerLength : ℕ} (inside : headerLength ≤ data.length)
    (words fields : List ℕ) (fieldOffset : ℕ) (info : RadiotapInfo) :
    Reads (readFields data headerLength words fields fieldOffset info) := by
  induction fields generalizing fieldOffset info with
  | nil => exact .some _
  | cons field fields ih =>
      rw [readFields]
      split
      · exact ih fieldOffset info
      · dsimp only
        split
        · exact .some _
        · exact (readField_reads (by omega) info).bind fun info => ih _ info

theorem parseRadiotap_reads (data : List UInt8) : Reads (parseRadiotap data) := by
  unfold parseRadiotap
  split
  · exact .some _
  · refine (readLe16_reads (by omega)).bind fun headerLength => ?_
    split
    · exact .some _
    · rename_i fits
      simp only [Bool.or_eq_true, decide_eq_true_eq, not_or, not_lt] at fits
      refine (readLe32_reads (by omega)).bind fun word => ?_
      refine (presentWords_reads fits.2 _ _ _).bind fun present => ?_
      split
      · exact .some _
      · exact readFields_reads fits.2 _ _ _ _

/-! ## The frames -/

theorem frameKind_reads (inside : 2 ≤ frame.length) : Reads (frameKind frame) :=
  (readLe16_reads inside).map _

theorem readBeaconElement_reads {id len offset : ℕ} (inside : offset + len ≤ frame.length)
    (found : BeaconElements) : Reads (readBeaconElement frame id len offset found) := by
  unfold readBeaconElement
  split
  · exact (sanitizeSsid_reads inside).map _
  · split
    · rename_i ds
      simp only [Bool.and_eq_true, decide_eq_true_eq] at ds
      exact (Reads.byte (by omega)).map _
    · split
      · rename_i ht
        simp only [Bool.and_eq_true, decide_eq_true_eq] at ht
        exact (Reads.byte (by omega)).map _
      · exact .some _

theorem beaconElements_reads (frame : List UInt8) (offset : ℕ) (found : BeaconElements) :
    Reads (beaconElements frame offset found) := by
  fun_induction beaconElements frame offset found with
  | case1 offset found more ih =>
      refine (Reads.byte (by omega)).bind fun id => (Reads.byte (by omega)).bind fun len => ?_
      split
      · exact .some _
      · rename_i within
        exact (readBeaconElement_reads (by omega) found).bind (ih len within)
  | case2 => exact .some _

theorem probeRequestSsid_reads (frame : List UInt8) (offset : ℕ) :
    Reads (probeRequestSsid frame offset) := by
  fun_induction probeRequestSsid frame offset with
  | case1 offset more ih =>
      refine (Reads.byte (by omega)).bind fun id => (Reads.byte (by omega)).bind fun len => ?_
      split
      · exact .some _
      · rename_i within
        split
        · exact sanitizeSsid_reads (by omega)
        · exact ih len within
  | case2 => exact .some _

theorem parseBeaconOrProbeResponse_reads (data : List UInt8) (channelHint : ℤ) :
    Reads (parseBeaconOrProbeResponse data channelHint) := by
  unfold parseBeaconOrProbeResponse
  refine (parseRadiotap_reads data).bind fun rt => ?_
  split
  · exact .some _
  · dsimp only
    split
    · exact .some _
    · rename_i long
      refine (frameKind_reads (by omega)).bind fun kind => ?_
      split
      · exact .some _
      · refine (beaconElements_reads _ 36 {}).bind fun elements => ?_
        exact (formatMac_reads (by omega)).bind fun bssid =>
          (formatMac_reads (by omega)).bind fun receiverMac => .some _

theorem parseProbeRequest_reads (data : List UInt8) : Reads (parseProbeRequest data) := by
  unfold parseProbeRequest
  refine (parseRadiotap_reads data).bind fun rt => ?_
  split
  · exact .some _
  · dsimp only
    split
    · exact .some _
    · rename_i long
      refine (frameKind_reads (by omega)).bind fun kind => ?_
      split
      · exact .some _
      · exact (formatMac_reads (by omega)).bind fun receiverMac =>
          (formatMac_reads (by omega)).bind fun transmitterMac =>
            (probeRequestSsid_reads _ 24).bind fun ssid => .some _

end OsManager

end DirtSim
