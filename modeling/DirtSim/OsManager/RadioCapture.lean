import DirtSim.OsManager.RadiotapHeader
import Mathlib.Data.List.Induction

/-! # Captured radio frames

A capture is what a radio delivers for a management frame that was sent: a radiotap header, and the
frame with its elements. Parsing a capture gives back what was sent. Of several elements for the
network's name, the last one counts in a beacon and the first one in a probe request.
-/

namespace DirtSim

open Foundation

namespace OsManager

section

/-! ## Frames -/

structure Element where
  id : UInt8
  payload : List UInt8
  fits : payload.length < 256

def Element.bytes (element : Element) : List UInt8 :=
  element.id :: UInt8.ofNat element.payload.length :: element.payload

/-- What every management frame begins with. -/
structure ManagementHeader where
  version : Fin 4
  flags : UInt8
  duration : Vector UInt8 2
  receiver : Vector UInt8 6
  transmitter : Vector UInt8 6
  bssid : Vector UInt8 6
  sequence : Vector UInt8 2

def ManagementHeader.bytes (header : ManagementHeader) (subtype : ℕ) : List UInt8 :=
  [UInt8.ofNat (header.version + 16 * subtype), header.flags] ++ header.duration.toList ++
    header.receiver.toList ++ header.transmitter.toList ++ header.bssid.toList ++
    header.sequence.toList

/-- A beacon or a probe response. -/
structure BeaconFrame extends ManagementHeader where
  isProbeResponse : Bool
  fixed : Vector UInt8 12
  elements : List Element

def BeaconFrame.subtype (frame : BeaconFrame) : ℕ := if frame.isProbeResponse then 5 else 8

def BeaconFrame.bytes (frame : BeaconFrame) : List UInt8 :=
  frame.toManagementHeader.bytes frame.subtype ++
    (frame.fixed.toList ++ frame.elements.flatMap Element.bytes)

structure ProbeRequestFrame extends ManagementHeader where
  elements : List Element

def ProbeRequestFrame.bytes (frame : ProbeRequestFrame) : List UInt8 :=
  frame.toManagementHeader.bytes 4 ++ frame.elements.flatMap Element.bytes

def macText (mac : Vector UInt8 6) : List UInt8 := [58].intercalate (mac.toList.map hexByte)

def Element.ssid (element : Element) : Option (List UInt8) :=
  if element.id = 0 then some (element.payload.map sanitizeByte) else none

def Element.channel (id : UInt8) (element : Element) : Option ℕ :=
  if element.id = id then element.payload.head?.map UInt8.toNat else none

def firstSsid (elements : List Element) : List UInt8 :=
  ((elements.filterMap Element.ssid).head?).getD []

def lastSsid (elements : List Element) : List UInt8 :=
  ((elements.filterMap Element.ssid).getLast?).getD []

def lastChannel (id : UInt8) (elements : List Element) : Option ℕ :=
  (elements.filterMap (Element.channel id)).getLast?

end

section

variable (before : List UInt8) (elements : List Element)

/-! ## Reading the elements -/

theorem mapM_range {β : Type} (read : ℕ → Option β) (change : UInt8 → β) (bytes : List UInt8)
    (each : ∀ i byte, bytes[i]? = some byte → read i = some (change byte)) :
    (List.range bytes.length).mapM read = some (bytes.map change) := by
  induction bytes generalizing read with
  | nil => rfl
  | cons byte bytes ih =>
      have later := ih (fun i => read (i + 1)) fun i other known => each (i + 1) other known
      have shifted : (List.range bytes.length).mapM (read ∘ Nat.succ) = some (bytes.map change) :=
        later
      rw [List.length_cons, List.range_succ_eq_map, List.mapM_cons, each 0 byte rfl, List.mapM_map,
        shifted]
      rfl

theorem getElem?_middle {before bytes rest : List UInt8} {i : ℕ} {byte : UInt8}
    (known : bytes[i]? = some byte) :
    (before ++ (bytes ++ rest))[before.length + i]? = some byte := by
  obtain ⟨inside, -⟩ := List.getElem?_eq_some_iff.mp known
  rw [LittleEndian.getElem?_behind, List.getElem?_append_left inside, known]

theorem formatMac_behind (mac : Vector UInt8 6) (rest : List UInt8) :
    formatMac (before ++ (mac.toList ++ rest)) before.length = some (macText mac) := by
  have six : mac.toList.length = 6 := Vector.length_toList
  have read := mapM_range (fun i => (before ++ (mac.toList ++ rest))[before.length + i]?) id
    mac.toList fun i byte known => getElem?_middle known
  rw [six, List.map_id] at read
  rw [formatMac, read, Option.map_some, macText]

theorem sanitizeSsid_behind (before payload rest : List UInt8) :
    sanitizeSsid (before ++ (payload ++ rest)) before.length payload.length =
      some (payload.map sanitizeByte) :=
  mapM_range _ _ _ fun i byte known => by rw [getElem?_middle known, Option.map_some]

/-- What an element tells goes before what was told. -/
def noteElement (found : BeaconElements) (element : Element) : BeaconElements where
  ssid := element.ssid.getD found.ssid
  dsChannel := (element.channel 3).or found.dsChannel
  htPrimaryChannel := (element.channel 61).or found.htPrimaryChannel

theorem readBeaconElement_behind (element : Element) (rest : List UInt8) (found : BeaconElements) :
    readBeaconElement (before ++ (element.payload ++ rest)) element.id.toNat
        element.payload.length before.length found = some (noteElement found element) := by
  have number (id : UInt8) : element.id.toNat = id.toNat ↔ element.id = id :=
    UInt8.toNat_inj
  have ssid : element.id.toNat = 0 ↔ element.id = 0 := number 0
  have ds : element.id.toNat = 3 ↔ element.id = 3 := number 3
  have ht : element.id.toNat = 61 ↔ element.id = 61 := number 61
  simp only [readBeaconElement, ssid, ds, ht, sanitizeSsid_behind, Option.map_some]
  by_cases name : element.id = 0
  · simp [name, noteElement, Element.ssid, Element.channel]
  · cases payload : element.payload with
    | nil => simp [name, noteElement, Element.ssid, Element.channel, payload]
    | cons channel payload' =>
        rw [List.cons_append, byte_behind]
        by_cases first : element.id = 3
        · simp [first, noteElement, Element.ssid, Element.channel, payload]
        · by_cases second : element.id = 61
          · simp [second, noteElement, Element.ssid, Element.channel, payload]
          · simp [name, first, second, noteElement, Element.ssid, Element.channel]

theorem foldl_noteElement :
    elements.foldl noteElement {} =
      ⟨lastSsid elements, lastChannel 3 elements, lastChannel 61 elements⟩ := by
  have last {α : Type} (read : Element → Option α) (elements : List Element) (element : Element) :
      ((elements ++ [element]).filterMap read).getLast? =
        (read element).or (elements.filterMap read).getLast? := by
    rw [List.filterMap_append, List.getLast?_append]
    cases found : read element <;> simp [found]
  induction elements using List.reverseRecOn with
  | nil => rfl
  | append_singleton elements element ih =>
      rw [List.foldl_append, ih, List.foldl_cons, List.foldl_nil, noteElement]
      simp only [lastSsid, lastChannel, last]
      cases element.ssid <;> rfl

theorem flatMap_bytes_cons (element : Element) (elements : List Element) :
    before ++ (element :: elements).flatMap Element.bytes =
      before ++ [element.id, UInt8.ofNat element.payload.length] ++
        (element.payload ++ elements.flatMap Element.bytes) := by
  rw [List.flatMap_cons, Element.bytes, List.append_assoc]
  rfl

theorem toNat_length (element : Element) :
    (UInt8.ofNat element.payload.length).toNat = element.payload.length := by
  rw [UInt8.toNat_ofNat', Nat.mod_eq_of_lt element.fits]

theorem length_flatMap_bytes_cons (element : Element) (elements : List Element) :
    (before ++ (element :: elements).flatMap Element.bytes).length =
      before.length + 2 + element.payload.length + (elements.flatMap Element.bytes).length := by
  rw [flatMap_bytes_cons, List.length_append, List.length_append, List.length_append]
  exact (Nat.add_assoc _ _ _).symm

/-- **The elements of a beacon** are read to the end. -/
theorem beaconElements_behind (before : List UInt8) (found : BeaconElements) :
    beaconElements (before ++ elements.flatMap Element.bytes) before.length found =
      some (elements.foldl noteElement found) := by
  induction elements generalizing before found with
  | nil =>
      rw [List.flatMap_nil, List.append_nil, beaconElements, if_neg (by omega)]
      rfl
  | cons element elements ih =>
      have id : (before ++ (element :: elements).flatMap Element.bytes)[before.length]? =
          some element.id := byte_behind before _ _
      have len : (before ++ (element :: elements).flatMap Element.bytes)[before.length + 1]? =
          some (UInt8.ofNat element.payload.length) := LittleEndian.getElem?_behind before _ 1
      have long := length_flatMap_bytes_cons before element elements
      rw [beaconElements, if_pos (by omega), id, Option.bind_some, len, Option.bind_some,
        toNat_length, if_neg (by omega), flatMap_bytes_cons]
      have read := readBeaconElement_behind
        (before ++ [element.id, UInt8.ofNat element.payload.length]) element
        (elements.flatMap Element.bytes) found
      have later := ih (before ++ [element.id, UInt8.ofNat element.payload.length] ++
        element.payload) (noteElement found element)
      rw [List.length_append] at read
      rw [List.length_append, List.length_append, List.append_assoc] at later
      refine (congrArg (fun found => Option.bind found _) read).trans ?_
      exact later

theorem probeRequestSsid_behind (before : List UInt8) :
    probeRequestSsid (before ++ elements.flatMap Element.bytes) before.length =
      some (firstSsid elements) := by
  induction elements generalizing before with
  | nil =>
      rw [List.flatMap_nil, List.append_nil, probeRequestSsid, if_neg (by omega)]
      rfl
  | cons element elements ih =>
      have id : (before ++ (element :: elements).flatMap Element.bytes)[before.length]? =
          some element.id := byte_behind before _ _
      have len : (before ++ (element :: elements).flatMap Element.bytes)[before.length + 1]? =
          some (UInt8.ofNat element.payload.length) := LittleEndian.getElem?_behind before _ 1
      have long := length_flatMap_bytes_cons before element elements
      rw [probeRequestSsid, if_pos (by omega), id, Option.bind_some, len, Option.bind_some,
        toNat_length, if_neg (by omega), flatMap_bytes_cons]
      by_cases name : element.id = 0
      · have read := sanitizeSsid_behind
          (before ++ [element.id, UInt8.ofNat element.payload.length]) element.payload
          (elements.flatMap Element.bytes)
        rw [List.length_append] at read
        have ssid : element.ssid = some (element.payload.map sanitizeByte) := if_pos name
        rw [if_pos name, firstSsid, List.filterMap_cons, ssid]
        exact read
      · have later := ih (before ++ [element.id, UInt8.ofNat element.payload.length] ++
          element.payload)
        rw [List.length_append, List.length_append, List.append_assoc] at later
        have ssid : element.ssid = none := if_neg name
        rw [if_neg name, firstSsid, List.filterMap_cons, ssid]
        exact later

end

section

/-! ## Parsing captures -/

namespace ManagementHeader

variable (header : ManagementHeader) (subtype : ℕ) (rest : List UInt8)

theorem length_bytes : (header.bytes subtype).length = 24 := by
  simp [bytes]

theorem frameKind_bytes (known : subtype < 16) :
    frameKind (header.bytes subtype ++ rest) = some (0, subtype) := by
  have low := header.version.isLt
  have three (number : ℕ) : number &&& 0x3 = number % 4 := Nat.and_two_pow_sub_one_eq_mod number 2
  have fifteen (number : ℕ) : number &&& 0xF = number % 16 :=
    Nat.and_two_pow_sub_one_eq_mod number 4
  have control : readLe16 (header.bytes subtype ++ rest) 0 =
      some (header.version + 16 * subtype + 256 * header.flags.toNat) := by
    have read : readLe16 (header.bytes subtype ++ rest) 0 =
        some ((UInt8.ofNat (header.version + 16 * subtype)).toNat |||
          header.flags.toNat <<< 8) := by
      rw [bytes, List.append_assoc, List.append_assoc, List.append_assoc, List.append_assoc,
        List.append_assoc]
      rfl
    rw [read, LittleEndian.lor_two, LittleEndian.value, UInt8.toNat_ofNat',
      Nat.mod_eq_of_lt (by omega)]
    rfl
  rw [frameKind, control, Option.map_some, three, fifteen, Nat.shiftRight_eq_div_pow,
    Nat.shiftRight_eq_div_pow]
  congr 2 <;> omega

theorem receiver_bytes :
    formatMac (header.bytes subtype ++ rest) 4 = some (macText header.receiver) := by
  have read := formatMac_behind
    ([UInt8.ofNat (header.version + 16 * subtype), header.flags] ++ header.duration.toList)
    header.receiver
    (header.transmitter.toList ++ header.bssid.toList ++ header.sequence.toList ++ rest)
  rw [List.length_append, Vector.length_toList] at read
  simp only [bytes, List.append_assoc] at read ⊢
  exact read

theorem transmitter_bytes :
    formatMac (header.bytes subtype ++ rest) 10 = some (macText header.transmitter) := by
  have read := formatMac_behind
    ([UInt8.ofNat (header.version + 16 * subtype), header.flags] ++ header.duration.toList ++
      header.receiver.toList)
    header.transmitter (header.bssid.toList ++ header.sequence.toList ++ rest)
  rw [List.length_append, List.length_append, Vector.length_toList, Vector.length_toList] at read
  simp only [bytes, List.append_assoc] at read ⊢
  exact read

theorem bssid_bytes :
    formatMac (header.bytes subtype ++ rest) 16 = some (macText header.bssid) := by
  have read := formatMac_behind
    ([UInt8.ofNat (header.version + 16 * subtype), header.flags] ++ header.duration.toList ++
      header.receiver.toList ++ header.transmitter.toList)
    header.bssid (header.sequence.toList ++ rest)
  rw [List.length_append, List.length_append, List.length_append, Vector.length_toList,
    Vector.length_toList, Vector.length_toList] at read
  simp only [bytes, List.append_assoc] at read ⊢
  exact read

end ManagementHeader

def RadiotapHeader.radiotapChannel (header : RadiotapHeader) : Option ℕ :=
  header.info.channelFreqMhz.bind frequencyToChannel

def BeaconFrame.channel (frame : BeaconFrame) (header : RadiotapHeader) (channelHint : ℤ) :
    Option (ℤ × ParsedChannelSource) :=
  ((lastChannel 3 frame.elements).map fun channel => ((channel : ℤ), .dsParameterSet)) <|>
    ((lastChannel 61 frame.elements).map fun channel => ((channel : ℤ), .htOperation)) <|>
    (header.radiotapChannel.map fun channel => ((channel : ℤ), .radiotap)) <|>
    (if channelHint > 0 then some (channelHint, .hint) else none)

def BeaconFrame.parsed (frame : BeaconFrame) (header : RadiotapHeader) (channelHint : ℤ) :
    ParsedBeacon where
  bssid := macText frame.bssid
  receiverMac := macText frame.receiver
  ssid := lastSsid frame.elements
  signalDbm := header.signal.map Int8.toInt
  channel := (frame.channel header channelHint).map (·.1)
  radiotapChannel := header.radiotapChannel
  radiotapFreqMhz := header.channel.map fun channel => channel.1.toNat
  channelSource := ((frame.channel header channelHint).map (·.2)).getD .hint
  subtype := if frame.isProbeResponse then .probeResponse else .beacon

def ProbeRequestFrame.parsed (frame : ProbeRequestFrame) (header : RadiotapHeader) :
    ParsedProbeRequest where
  receiverMac := macText frame.receiver
  transmitterMac := macText frame.transmitter
  ssid := firstSsid frame.elements
  signalDbm := header.signal.map Int8.toInt
  radiotapChannel := header.radiotapChannel
  radiotapFreqMhz := header.channel.map fun channel => channel.1.toNat

theorem chooseChannel_eq (frame : BeaconFrame) (header : RadiotapHeader) (channelHint : ℤ) :
    chooseChannel (lastChannel 3 frame.elements) (lastChannel 61 frame.elements)
        header.radiotapChannel channelHint =
      ((frame.channel header channelHint).map (·.1),
        ((frame.channel header channelHint).map (·.2)).getD .hint) := by
  unfold BeaconFrame.channel chooseChannel
  cases lastChannel 3 frame.elements with
  | some channel => rfl
  | none =>
      cases lastChannel 61 frame.elements with
      | some channel => rfl
      | none =>
          cases header.radiotapChannel with
          | some channel => rfl
          | none =>
              by_cases positive : channelHint > 0
              · simp [positive]
              · simp [positive]

theorem drop_header (header : RadiotapHeader) (frame : List UInt8) :
    (header.bytes ++ frame).drop header.info.headerLength = frame :=
  List.drop_left' header.length_bytes

theorem header_present (header : RadiotapHeader) (frame : List UInt8) :
    (decide (header.info.headerLength = 0) ||
      decide (header.info.headerLength > (header.bytes ++ frame).length)) = false := by
  have count : header.info.headerLength = 4 + 4 * header.words.length + header.body.length := rfl
  have within : header.info.headerLength ≤ (header.bytes ++ frame).length := by
    rw [List.length_append, header.length_bytes]
    exact Nat.le_add_right _ _
  rw [Bool.or_eq_false_iff]
  exact ⟨decide_eq_false (by omega), decide_eq_false (not_lt.mpr within)⟩

namespace BeaconFrame

variable (frame : BeaconFrame)

theorem subtype_cases : frame.subtype = 5 ∨ frame.subtype = 8 := by
  unfold subtype
  split
  · exact .inl rfl
  · exact .inr rfl

theorem length_bytes : 36 ≤ frame.bytes.length := by
  rw [bytes, List.length_append, List.length_append, ManagementHeader.length_bytes,
    Vector.length_toList]
  omega

theorem frameKind_bytes : frameKind frame.bytes = some (0, frame.subtype) :=
  frame.toManagementHeader.frameKind_bytes _ _ (by
    rcases frame.subtype_cases with same | same <;> omega)

theorem beaconElements_bytes : beaconElements frame.bytes 36 {} =
    some ⟨lastSsid frame.elements, lastChannel 3 frame.elements,
      lastChannel 61 frame.elements⟩ := by
  have read := beaconElements_behind frame.elements
    (frame.toManagementHeader.bytes frame.subtype ++ frame.fixed.toList) {}
  rw [List.length_append, ManagementHeader.length_bytes, Vector.length_toList, List.append_assoc,
    foldl_noteElement] at read
  exact read

theorem bssid_read : formatMac frame.bytes 16 = some (macText frame.bssid) :=
  frame.toManagementHeader.bssid_bytes _ _

theorem receiver_read : formatMac frame.bytes 4 = some (macText frame.receiver) :=
  frame.toManagementHeader.receiver_bytes _ _

theorem isBeacon : (decide ((0, frame.subtype).1 ≠ 0) ||
    decide ((0, frame.subtype).2 ≠ 8) && decide ((0, frame.subtype).2 ≠ 5)) = false := by
  rcases frame.subtype_cases with same | same <;> rw [same] <;> decide

theorem parsedSubtype :
    (if (0, frame.subtype).2 = 5 then ParsedManagementSubtype.probeResponse else .beacon) =
      if frame.isProbeResponse then ParsedManagementSubtype.probeResponse else .beacon := by
  unfold subtype
  cases frame.isProbeResponse <;> rfl

end BeaconFrame

/-- **A beacon** is parsed as it was sent. -/
theorem parseBeacon_capture (header : RadiotapHeader) (fits : header.length < 65536)
    (frame : BeaconFrame) (channelHint : ℤ) :
    parseBeaconOrProbeResponse (header.bytes ++ frame.bytes) channelHint =
      some (some (frame.parsed header channelHint)) := by
  have long := frame.length_bytes
  have channel := chooseChannel_eq frame header channelHint
  unfold parseBeaconOrProbeResponse
  rw [header.parseRadiotap_bytes fits]
  refine (if_neg (Bool.eq_false_iff.mp (header_present _ _))).trans ?_
  rw [drop_header, if_neg (by omega), frame.frameKind_bytes]
  refine (if_neg (Bool.eq_false_iff.mp frame.isBeacon)).trans ?_
  rw [frame.beaconElements_bytes, frame.bssid_read, frame.receiver_read]
  change some (some (ParsedBeacon.mk _ _ _ _ (chooseChannel _ _ header.radiotapChannel _).1 _ _
    (chooseChannel _ _ header.radiotapChannel _).2 _)) = _
  rw [channel, frame.parsedSubtype]
  rfl

namespace ProbeRequestFrame

variable (frame : ProbeRequestFrame)

theorem probeRequestSsid_bytes :
    probeRequestSsid frame.bytes 24 = some (firstSsid frame.elements) := by
  have read := probeRequestSsid_behind frame.elements (frame.toManagementHeader.bytes 4)
  rw [ManagementHeader.length_bytes] at read
  exact read

end ProbeRequestFrame

/-- **A probe request** is parsed as it was sent. -/
theorem parseProbeRequest_capture (header : RadiotapHeader) (fits : header.length < 65536)
    (frame : ProbeRequestFrame) :
    parseProbeRequest (header.bytes ++ frame.bytes) = some (some (frame.parsed header)) := by
  have long : 24 ≤ frame.bytes.length := by
    rw [ProbeRequestFrame.bytes, List.length_append, ManagementHeader.length_bytes]
    omega
  have kind : frameKind frame.bytes = some (0, 4) :=
    frame.toManagementHeader.frameKind_bytes 4 _ (by decide)
  have receiver : formatMac frame.bytes 4 = some (macText frame.receiver) :=
    frame.toManagementHeader.receiver_bytes 4 _
  have transmitter : formatMac frame.bytes 10 = some (macText frame.transmitter) :=
    frame.toManagementHeader.transmitter_bytes 4 _
  have isRequest : ¬(decide (((0, 4) : ℕ × ℕ).1 ≠ 0) || decide (((0, 4) : ℕ × ℕ).2 ≠ 4)) =
      true := by decide
  unfold parseProbeRequest
  rw [header.parseRadiotap_bytes fits]
  refine (if_neg (Bool.eq_false_iff.mp (header_present _ _))).trans ?_
  dsimp only
  rw [drop_header, if_neg (by omega), kind, Option.bind_eq_bind, Option.bind_some,
    if_neg isRequest, receiver, transmitter, frame.probeRequestSsid_bytes]
  rfl

/-- A header whose length is told in its two bytes. -/
structure SentHeader extends RadiotapHeader where
  fits : toRadiotapHeader.length < 65536

/-- **The parsers** read within every byte string, and they give back what was sent in a capture. -/
theorem parsers_decode :
    (∀ (data : List UInt8) (channelHint : ℤ), Reads (parseRadiotap data) ∧
      Reads (parseBeaconOrProbeResponse data channelHint) ∧ Reads (parseProbeRequest data)) ∧
    (∀ (header : SentHeader) (frame : BeaconFrame) (channelHint : ℤ),
      parseBeaconOrProbeResponse (header.bytes ++ frame.bytes) channelHint =
        some (some (frame.parsed header.toRadiotapHeader channelHint))) ∧
    (∀ (header : SentHeader) (frame : ProbeRequestFrame),
      parseProbeRequest (header.bytes ++ frame.bytes) =
        some (some (frame.parsed header.toRadiotapHeader))) :=
  ⟨fun data channelHint => ⟨parseRadiotap_reads data,
      parseBeaconOrProbeResponse_reads data channelHint, parseProbeRequest_reads data⟩,
    fun header frame channelHint => parseBeacon_capture header.toRadiotapHeader header.fits frame
      channelHint,
    fun header frame => parseProbeRequest_capture header.toRadiotapHeader header.fits frame⟩

end

end OsManager

end DirtSim
