import DirtSim.OsManager.NexmonChannelProtocol

/-! # Writing and reading channel words

The code book lists the tunings that a word can name, each with its word. The two directions
disagree only where a tuning of 20 MHz names the wrong band for its channel, and on words of another
form.
-/

namespace DirtSim.OsManager

namespace NexmonChannelProtocol

section

/-! ## The code book -/

def entry20MHz (band : ScannerBand) (bits : UInt32) (channel : ℤ) : ScannerTuning × UInt32 :=
  (⟨band, channel, 20, none⟩, bits ||| kWidth20Mhz ||| UInt32.ofInt channel)

def entry (widthMhz : ℤ) (width : UInt32) (offset : ℤ) (sideband : UInt32) (center : ℤ) :
    ScannerTuning × UInt32 :=
  (⟨.band5Ghz, center + offset, widthMhz, some center⟩,
    kBand5Ghz ||| width ||| sideband ||| UInt32.ofInt center)

/-- Where the primary channel can be, for each width above 20 MHz. -/
def sidebands40MHz : List (ℤ × UInt32) :=
  [(-2, kControlSidebandLower), (2, kControlSidebandLowerUpper)]

def sidebands80MHz : List (ℤ × UInt32) :=
  [(-6, kControlSidebandLower), (-2, kControlSidebandLowerUpper),
    (2, kControlSidebandUpperLower), (6, kControlSidebandUpperUpper)]

def codeBook : List (ScannerTuning × UInt32) :=
  kScannerBand24PrimaryChannels.map (entry20MHz .band24Ghz kBand24Ghz) ++
    kScannerBand5PrimaryChannels.map (entry20MHz .band5Ghz kBand5Ghz) ++
    (sidebands40MHz.flatMap fun side =>
      kScannerBand5Centers40Mhz.map (entry 40 kWidth40Mhz side.1 side.2)) ++
    (sidebands80MHz.flatMap fun side =>
      kScannerBand5Centers80Mhz.map (entry 80 kWidth80Mhz side.1 side.2))

/-- A word in which only the bits of its fields are set, and the fields are ones that are
written. -/
def Canonical (chanspec : UInt32) : Prop :=
  chanspec &&& 0xffff0400 = 0 ∧
    ((chanspec &&& 0x3800 = kWidth20Mhz ∧ chanspec &&& 0x0300 = 0 ∧
        (chanspec &&& 0xc000 = kBand24Ghz ∨ chanspec &&& 0xc000 = kBand5Ghz)) ∨
      (chanspec &&& 0xc000 = kBand5Ghz ∧
        (chanspec &&& 0x3800 = kWidth40Mhz ∨ chanspec &&& 0x3800 = kWidth80Mhz)))

instance (chanspec : UInt32) : Decidable (Canonical chanspec) :=
  inferInstanceAs (Decidable (_ ∧ _))

theorem codeBook_decode : ∀ line ∈ codeBook, decodeChanspec line.2 = .ok line.1 := by
  decide +kernel

theorem codeBook_encode : ∀ line ∈ codeBook, encodeChanspec line.1 = .ok line.2 := by
  decide +kernel

theorem codeBook_canonical : ∀ line ∈ codeBook, Canonical line.2 := by
  decide +kernel

end

section

/-! ## What is written -/

variable {tuning : ScannerTuning} {chanspec : UInt32}

theorem mem_codeBook {line : ScannerTuning × UInt32} : line ∈ codeBook ↔
    (∃ channel ∈ kScannerBand24PrimaryChannels, entry20MHz .band24Ghz kBand24Ghz channel = line) ∨
    (∃ channel ∈ kScannerBand5PrimaryChannels, entry20MHz .band5Ghz kBand5Ghz channel = line) ∨
    (∃ side ∈ sidebands40MHz, ∃ center ∈ kScannerBand5Centers40Mhz,
      entry 40 kWidth40Mhz side.1 side.2 center = line) ∨
    ∃ side ∈ sidebands80MHz, ∃ center ∈ kScannerBand5Centers80Mhz,
      entry 80 kWidth80Mhz side.1 side.2 center = line := by
  simp [codeBook]

theorem mem_of_not_unlisted {numbers : List ℤ} {number : ℤ}
    (listed : ¬ (!numbers.contains number) = true) : number ∈ numbers := by
  rw [Bool.not_eq_true', Bool.not_eq_false] at listed
  exact List.contains_iff_mem.mp listed

theorem encodeChanspec20MHz_ok {channel : ℤ} (written : encodeChanspec20MHz channel = .ok chanspec) :
    (channel ∈ kScannerBand24PrimaryChannels ∧
        chanspec = (entry20MHz .band24Ghz kBand24Ghz channel).2) ∨
      (channel ∈ kScannerBand5PrimaryChannels ∧
        chanspec = (entry20MHz .band5Ghz kBand5Ghz channel).2) := by
  unfold encodeChanspec20MHz at written
  split at written
  case isTrue low =>
      refine Or.inl ⟨?_, (Except.ok.inj written).symm⟩
      simp only [kScannerBand24PrimaryChannels, List.mem_cons, List.not_mem_nil, or_false]
      omega
  case isFalse =>
      split at written
      case isTrue listed =>
          exact Or.inr ⟨List.contains_iff_mem.mp listed, (Except.ok.inj written).symm⟩
      case isFalse => cases written

theorem encode5GHzChanspec_ok {widthMhz : ℤ} {width : UInt32} {controlSideband : ℤ → Option UInt32}
    (written : encode5GHzChanspec widthMhz width controlSideband tuning = .ok chanspec) :
    ∃ center ∈ scannerManualTargetChannels .band5Ghz widthMhz, ∃ sideband,
      tuning.centerChannel = some center ∧
      controlSideband (tuning.primaryChannel - center) = some sideband ∧
      chanspec = kBand5Ghz ||| width ||| sideband ||| UInt32.ofInt center := by
  unfold encode5GHzChanspec at written
  dsimp only at written
  split at written
  · cases written
  · split at written
    · cases written
    case h_2 center centered =>
      split at written
      · cases written
      case isFalse listed =>
        split at written
        · cases written
        · split at written
          case h_1 sideband found =>
            refine ⟨center, ?_, sideband, centered, found, (Except.ok.inj written).symm⟩
            exact mem_of_not_unlisted listed
          case h_2 => cases written

theorem controlSideband40MHz_some {offset : ℤ} {sideband : UInt32}
    (found : controlSideband40MHz offset = some sideband) : (offset, sideband) ∈ sidebands40MHz := by
  unfold controlSideband40MHz at found
  split_ifs at found with lower upper <;> cases found
  · exact lower ▸ List.mem_cons_self
  · exact upper ▸ List.mem_cons_of_mem _ List.mem_cons_self

theorem controlSideband80MHz_some {offset : ℤ} {sideband : UInt32}
    (found : controlSideband80MHz offset = some sideband) : (offset, sideband) ∈ sidebands80MHz := by
  unfold controlSideband80MHz at found
  split_ifs at found with first second third fourth <;> cases found
  · subst first
    decide
  · subst second
    decide
  · subst third
    decide
  · subst fourth
    decide

def named (tuning : ScannerTuning) : ScannerTuning :=
  if tuning.widthMhz = 20 then { tuning with centerChannel := none } else tuning

def BandNamesChannel (tuning : ScannerTuning) : Prop :=
  tuning.widthMhz = 20 → tuning.primaryChannel ∈ scannerBandPrimaryChannels tuning.band

instance (tuning : ScannerTuning) : Decidable (BandNamesChannel tuning) :=
  inferInstanceAs (Decidable (_ → _))

theorem encodeChanspec_ok (written : encodeChanspec tuning = .ok chanspec) :
    ∃ band, ({ named tuning with band := band }, chanspec) ∈ codeBook ∧
      (tuning.widthMhz ≠ 20 → band = tuning.band) := by
  obtain ⟨band, primaryChannel, widthMhz, centerChannel⟩ := tuning
  unfold encodeChanspec at written
  dsimp only at written
  split at written
  · cases written
  · split at written
    case isTrue narrow =>
        subst narrow
        rcases encodeChanspec20MHz_ok written with ⟨listed, rfl⟩ | ⟨listed, rfl⟩
        · exact ⟨.band24Ghz, mem_codeBook.mpr (Or.inl ⟨_, listed, rfl⟩),
            fun wide => absurd rfl wide⟩
        · exact ⟨.band5Ghz, mem_codeBook.mpr (Or.inr (Or.inl ⟨_, listed, rfl⟩)),
            fun wide => absurd rfl wide⟩
    case isFalse wide =>
        have whole (band : ScannerBand) : named ⟨band, primaryChannel, widthMhz, centerChannel⟩ =
            ⟨band, primaryChannel, widthMhz, centerChannel⟩ := if_neg wide
        refine ⟨band, ?_, fun _ => rfl⟩
        rw [whole]
        split at written
        case isTrue width =>
            split at written
            · cases written
            case isFalse band5 =>
              obtain rfl : band = .band5Ghz := not_not.mp band5
              subst width
              obtain ⟨center, listed, sideband, rfl, found, rfl⟩ := encode5GHzChanspec_ok written
              have side := controlSideband40MHz_some found
              refine mem_codeBook.mpr (Or.inr (Or.inr (Or.inl ⟨_, side, center, listed, ?_⟩)))
              rw [entry, add_sub_cancel]
        case isFalse =>
            split at written
            case isTrue width =>
                split at written
                · cases written
                case isFalse band5 =>
                  obtain rfl : band = .band5Ghz := not_not.mp band5
                  subst width
                  obtain ⟨center, listed, sideband, rfl, found, rfl⟩ := encode5GHzChanspec_ok written
                  have side := controlSideband80MHz_some found
                  refine mem_codeBook.mpr (Or.inr (Or.inr (Or.inr ⟨_, side, center, listed, ?_⟩)))
                  rw [entry, add_sub_cancel]
            case isFalse => cases written

theorem bands_disjoint : ∀ channel ∈ kScannerBand24PrimaryChannels,
    channel ∉ kScannerBand5PrimaryChannels := by
  decide

theorem codeBook_band : ∀ line ∈ codeBook,
    line.1.primaryChannel ∈ scannerBandPrimaryChannels line.1.band := by
  decide

theorem band_of_primaryChannel {channel : ℤ} {first second : ScannerBand}
    (one : channel ∈ scannerBandPrimaryChannels first)
    (other : channel ∈ scannerBandPrimaryChannels second) : first = second := by
  cases first with
  | band24Ghz =>
      cases second with
      | band24Ghz => rfl
      | band5Ghz => exact absurd other (bands_disjoint channel one)
  | band5Ghz =>
      cases second with
      | band24Ghz => exact absurd one (bands_disjoint channel other)
      | band5Ghz => rfl

theorem decode_encode_iff (written : encodeChanspec tuning = .ok chanspec) :
    decodeChanspec chanspec = .ok (named tuning) ↔ BandNamesChannel tuning := by
  obtain ⟨band, listed, same⟩ := encodeChanspec_ok written
  have band_named : (named tuning).band = tuning.band := by
    unfold named
    split <;> rfl
  have channel_named : (named tuning).primaryChannel = tuning.primaryChannel := by
    unfold named
    split <;> rfl
  have has : tuning.primaryChannel ∈ scannerBandPrimaryChannels band := by
    rw [← channel_named]
    exact codeBook_band _ listed
  rw [codeBook_decode _ listed]
  constructor
  · intro read _
    have agree : band = (named tuning).band := congrArg ScannerTuning.band (Except.ok.inj read)
    exact (agree.trans band_named) ▸ has
  · intro names
    have agree : band = tuning.band := by
      by_cases narrow : tuning.widthMhz = 20
      · exact band_of_primaryChannel has (names narrow)
      · exact same narrow
    rw [agree, ← band_named]

end

section

/-! ## What is read -/

variable {tuning : ScannerTuning} {chanspec : UInt32}

theorem chanspec_fields (chanspec : UInt32) : chanspec =
    (chanspec &&& 0xffff0400) ||| (chanspec &&& 0xc000) ||| (chanspec &&& 0x3800) |||
      (chanspec &&& 0x0300) ||| (chanspec &&& 0x00ff) := by
  have distrib (first second : UInt32) :
      (chanspec &&& first) ||| (chanspec &&& second) = chanspec &&& (first ||| second) :=
    UInt32.toBitVec_inj.mp BitVec.and_or_distrib_left.symm
  rw [distrib, distrib, distrib, distrib]
  exact UInt32.and_neg_one.symm

theorem ofInt_toNat (value : UInt32) : UInt32.ofInt (value.toNat : ℤ) = value := by
  have small := value.toNat_lt
  have same : ((value.toNat : ℤ) % 2 ^ 32).toNat = value.toNat := by omega
  rw [UInt32.ofInt, same, UInt32.ofNat_toNat]

theorem checkDecoded_ok {width : UInt32} {read : ScannerTuning}
    (passes : checkDecoded width tuning = .ok read) :
    read = tuning ∧ tuning.primaryChannel ∈ scannerBandPrimaryChannels tuning.band ∧
      ∀ center, tuning.centerChannel = some center →
        center ∈ scannerManualTargetChannels tuning.band tuning.widthMhz := by
  unfold checkDecoded at passes
  split at passes
  · cases passes
  · split at passes
    · cases passes
    · split at passes
      · cases passes
      case isFalse listed =>
        have primary := mem_of_not_unlisted listed
        split at passes
        case h_1 none_centered =>
          refine ⟨(Except.ok.inj passes).symm, primary, fun center some_centered => ?_⟩
          exact absurd (none_centered.symm.trans some_centered) nofun
        case h_2 center centered =>
          split at passes
          · cases passes
          case isFalse centers =>
            refine ⟨(Except.ok.inj passes).symm, primary, fun other is_center => ?_⟩
            obtain rfl : center = other := Option.some.inj (centered.symm.trans is_center)
            exact mem_of_not_unlisted centers

theorem entry_of_fields {widthMhz offset : ℤ} {width sideband : UInt32}
    (rest : chanspec &&& 0xffff0400 = 0) (band : chanspec &&& 0xc000 = kBand5Ghz)
    (hasWidth : chanspec &&& 0x3800 = width) (side : chanspec &&& 0x0300 = sideband) :
    (entry widthMhz width offset sideband ((chanspec &&& 0x00ff).toNat : ℤ)).2 = chanspec := by
  rw [entry, ofInt_toNat]
  calc kBand5Ghz ||| width ||| sideband ||| chanspec &&& 0x00ff
      = 0 ||| kBand5Ghz ||| width ||| sideband ||| chanspec &&& 0x00ff := by
        rw [UInt32.zero_or]
    _ = (chanspec &&& 0xffff0400) ||| (chanspec &&& 0xc000) ||| (chanspec &&& 0x3800) |||
          (chanspec &&& 0x0300) ||| (chanspec &&& 0x00ff) := by
        rw [rest, band, hasWidth, side]
    _ = chanspec := (chanspec_fields chanspec).symm

theorem entry20MHz_of_fields {band : ScannerBand} {bits : UInt32}
    (rest : chanspec &&& 0xffff0400 = 0) (hasBand : chanspec &&& 0xc000 = bits)
    (width : chanspec &&& 0x3800 = kWidth20Mhz) (side : chanspec &&& 0x0300 = 0) :
    (entry20MHz band bits ((chanspec &&& 0x00ff).toNat : ℤ)).2 = chanspec := by
  rw [entry20MHz, ofInt_toNat]
  calc bits ||| kWidth20Mhz ||| chanspec &&& 0x00ff
      = 0 ||| bits ||| kWidth20Mhz ||| 0 ||| chanspec &&& 0x00ff := by
        rw [UInt32.zero_or, UInt32.or_zero]
    _ = (chanspec &&& 0xffff0400) ||| (chanspec &&& 0xc000) ||| (chanspec &&& 0x3800) |||
          (chanspec &&& 0x0300) ||| (chanspec &&& 0x00ff) := by
        rw [rest, hasBand, width, side]
    _ = chanspec := (chanspec_fields chanspec).symm

theorem decodeChanspec_ok (canonical : Canonical chanspec)
    (read : decodeChanspec chanspec = .ok tuning) : (tuning, chanspec) ∈ codeBook := by
  obtain ⟨rest, ⟨width, side, band⟩ | ⟨band, width⟩⟩ := canonical
  · -- 20 MHz: the channel is listed for the band
    have entered (which : ScannerBand) (bits : UInt32) (hasBand : chanspec &&& 0xc000 = bits)
        (names : (if bits = kBand5Ghz then ScannerBand.band5Ghz else .band24Ghz) = which) :
        ((chanspec &&& 0x00ff).toNat : ℤ) ∈ scannerBandPrimaryChannels which ∧
          entry20MHz which bits ((chanspec &&& 0x00ff).toNat : ℤ) = (tuning, chanspec) := by
      unfold decodeChanspec at read
      simp only [width, hasBand, names, ↓reduceIte] at read
      split at read
      · cases read
      case isFalse listed =>
        refine ⟨?_, Prod.ext (Except.ok.inj read) (entry20MHz_of_fields rest hasBand width side)⟩
        exact mem_of_not_unlisted listed
    rcases band with low | high
    · obtain ⟨listed, same⟩ := entered .band24Ghz _ low rfl
      exact mem_codeBook.mpr (Or.inl ⟨_, listed, same⟩)
    · obtain ⟨listed, same⟩ := entered .band5Ghz _ high rfl
      exact mem_codeBook.mpr (Or.inr (Or.inl ⟨_, listed, same⟩))
  · -- above 20 MHz: the center is listed for the width, and the sideband gives the primary channel
    have entered (widthMhz offset : ℤ) (bits sideband : UInt32)
        (hasWidth : chanspec &&& 0x3800 = bits) (side : chanspec &&& 0x0300 = sideband)
        (passes : checkDecoded bits
          { band := .band5Ghz
            primaryChannel := ((chanspec &&& 0x00ff).toNat : ℤ) + offset
            widthMhz := widthMhz
            centerChannel := some ((chanspec &&& 0x00ff).toNat : ℤ) } = .ok tuning) :
        ((chanspec &&& 0x00ff).toNat : ℤ) ∈ scannerManualTargetChannels .band5Ghz widthMhz ∧
          entry widthMhz bits offset sideband ((chanspec &&& 0x00ff).toNat : ℤ) =
            (tuning, chanspec) := by
      obtain ⟨same, _, centers⟩ := checkDecoded_ok passes
      exact ⟨centers _ rfl, Prod.ext same.symm (entry_of_fields rest band hasWidth side)⟩
    have not20 : ¬ kWidth40Mhz = kWidth20Mhz ∧ ¬ kWidth80Mhz = kWidth20Mhz ∧
        ¬ kWidth80Mhz = kWidth40Mhz := by decide
    unfold decodeChanspec at read
    rcases width with width | width
    · simp only [width, band, not20, ↓reduceIte, and_self] at read
      split at read
      case isTrue side =>
          obtain ⟨listed, same⟩ := entered 40 (-2) _ _ width side read
          exact mem_codeBook.mpr (Or.inr (Or.inr (Or.inl ⟨(-2, _), by decide, _, listed, same⟩)))
      case isFalse =>
          split at read
          case isTrue side =>
              obtain ⟨listed, same⟩ := entered 40 2 _ _ width side read
              exact mem_codeBook.mpr (Or.inr (Or.inr (Or.inl ⟨(2, _), by decide, _, listed, same⟩)))
          case isFalse => cases read
    · simp only [width, band, not20, ↓reduceIte, and_self, false_and] at read
      have third (offset : ℤ) (sideband : UInt32) (known : (offset, sideband) ∈ sidebands80MHz)
          (side : chanspec &&& 0x0300 = sideband)
          (passes : checkDecoded kWidth80Mhz
            { band := .band5Ghz
              primaryChannel := ((chanspec &&& 0x00ff).toNat : ℤ) + offset
              widthMhz := 80
              centerChannel := some ((chanspec &&& 0x00ff).toNat : ℤ) } = .ok tuning) :
          (tuning, chanspec) ∈ codeBook := by
        obtain ⟨listed, same⟩ := entered 80 offset _ _ width side passes
        exact mem_codeBook.mpr (Or.inr (Or.inr (Or.inr ⟨_, known, _, listed, same⟩)))
      split_ifs at read with first second upper upmost
      · exact third (-6) _ (by decide) first read
      · exact third (-2) _ (by decide) second read
      · exact third 2 _ (by decide) upper read
      · exact third 6 _ (by decide) upmost read

theorem encode_decode_iff (read : decodeChanspec chanspec = .ok tuning) :
    encodeChanspec tuning = .ok chanspec ↔ Canonical chanspec := by
  constructor
  · intro written
    obtain ⟨band, listed, _⟩ := encodeChanspec_ok written
    exact codeBook_canonical _ listed
  · intro canonical
    exact codeBook_encode _ (decodeChanspec_ok canonical read)

end

section

/-! ## Waiting for a word -/

variable {tuning : ScannerTuning} {expected : UInt32}

theorem pollReadbacks_ok_iff (readbacks : Readbacks) (answers : List (Except String UInt32)) :
    pollReadbacks expected readbacks answers = .ok () ↔ .ok expected ∈ answers := by
  induction answers generalizing readbacks with
  | nil => exact iff_of_false nofun List.not_mem_nil
  | cons answer later ih =>
      rw [List.mem_cons]
      cases answer with
      | error reason =>
          rw [pollReadbacks, ih]
          exact (or_iff_right nofun).symm
      | ok chanspec =>
          rw [pollReadbacks]
          by_cases same : chanspec = expected
          · rw [if_pos same]
            exact iff_of_true rfl (Or.inl (congrArg Except.ok same.symm))
          · rw [if_neg same, ih]
            exact (or_iff_right fun equal => same (Except.ok.inj equal).symm).symm

theorem waitForManualReadbackMatch_ok_iff (written : encodeChanspec tuning = .ok expected)
    (answers : List (Except String UInt32)) :
    waitForManualReadbackMatch tuning answers = .ok () ↔ .ok expected ∈ answers := by
  rw [waitForManualReadbackMatch, written]
  exact pollReadbacks_ok_iff {} answers

theorem encodeChanspec_named (tuning : ScannerTuning) :
    encodeChanspec (named tuning) = encodeChanspec tuning := by
  unfold named
  split
  case isTrue narrow =>
      obtain ⟨band, primaryChannel, widthMhz, centerChannel⟩ := tuning
      subst narrow
      rfl
  case isFalse => rfl

/-- A word is accepted if and only if it names the tuning, as long as the word of the tuning does,
and no word of another form names it. -/
theorem readback_exact_iff (written : encodeChanspec tuning = .ok expected) (readback : UInt32) :
    (readback = expected ↔ decodeChanspec readback = .ok (named tuning)) ↔
      (readback = expected → BandNamesChannel tuning) ∧
        (decodeChanspec readback = .ok (named tuning) → Canonical readback) := by
  constructor
  · intro exact_match
    constructor
    · rintro rfl
      exact (decode_encode_iff written).mp (exact_match.mp rfl)
    · intro names
      obtain rfl := exact_match.mpr names
      exact (encode_decode_iff names).mp ((encodeChanspec_named tuning).trans written)
  · rintro ⟨band, usual⟩
    constructor
    · rintro rfl
      exact (decode_encode_iff written).mpr (band rfl)
    · intro names
      have again := (encode_decode_iff names).mpr (usual names)
      rw [encodeChanspec_named, written] at again
      exact (Except.ok.inj again).symm

/-- **Words and tunings.** A written word is read as its tuning exactly for a tuning whose band has
the channel; a word that is read is written again exactly if it has the usual form; and comparing
words is comparing tunings exactly as far as both do. -/
theorem codec_exact_iff (tuning : ScannerTuning) (chanspec : UInt32) :
    (encodeChanspec tuning = .ok chanspec →
      (decodeChanspec chanspec = .ok (named tuning) ↔ BandNamesChannel tuning)) ∧
    (decodeChanspec chanspec = .ok tuning →
      (encodeChanspec tuning = .ok chanspec ↔ Canonical chanspec)) ∧
    ∀ expected, encodeChanspec tuning = .ok expected →
      (∀ answers, waitForManualReadbackMatch tuning answers = .ok () ↔ .ok expected ∈ answers) ∧
      ((chanspec = expected ↔ decodeChanspec chanspec = .ok (named tuning)) ↔
        (chanspec = expected → BandNamesChannel tuning) ∧
          (decodeChanspec chanspec = .ok (named tuning) → Canonical chanspec)) := by
  refine ⟨decode_encode_iff, encode_decode_iff, fun expected written => ⟨?_, ?_⟩⟩
  · exact waitForManualReadbackMatch_ok_iff written
  · exact readback_exact_iff written chanspec

/-- A tuning of the 5 GHz band to channel 6 is written as channel 6 of the other band; and a word
without a width is read as a tuning of 20 MHz. -/
theorem not_codec_exact :
    (¬ ∀ tuning chanspec, encodeChanspec tuning = .ok chanspec →
      decodeChanspec chanspec = .ok (named tuning)) ∧
    ¬ ∀ tuning chanspec, decodeChanspec chanspec = .ok tuning →
      encodeChanspec tuning = .ok chanspec := by
  constructor
  · intro always
    have read := always ⟨.band5Ghz, 6, 20, none⟩ 0x1006 (by decide)
    exact absurd read (by decide)
  · intro always
    have written := always ⟨.band24Ghz, 6, 20, none⟩ 0x0006 (by decide)
    exact absurd written (by decide)

end

end NexmonChannelProtocol

end DirtSim.OsManager
