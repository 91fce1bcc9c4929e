import DirtSim.Foundation.LittleEndian
import Mathlib.Data.Nat.Bitwise

/-! # Parsing radio frames

The scanner receives management frames with a radiotap header in front of them. The header has a
chained bitmap of its fields, which are aligned to their size, and the frame ends with elements of an
identifier, a length and a payload. Every read of a byte is checked here: the outer option is `none`
when a byte is read that is not there. Strings are lists of bytes.
-/

namespace DirtSim

open Foundation

namespace OsManager

inductive ParsedChannelSource
  | dsParameterSet
  | htOperation
  | radiotap
  | hint
deriving DecidableEq

inductive ParsedManagementSubtype
  | probeRequest
  | probeResponse
  | beacon
deriving DecidableEq

section

/-! ## Reading -/

def readLe16 (data : List UInt8) (offset : ℕ) : Option ℕ := do
  let low ← data[offset]?
  let high ← data[offset + 1]?
  some (low.toNat ||| high.toNat <<< 8)

def readLe32 (data : List UInt8) (offset : ℕ) : Option ℕ := do
  let first ← data[offset]?
  let second ← data[offset + 1]?
  let third ← data[offset + 2]?
  let fourth ← data[offset + 3]?
  some (first.toNat ||| second.toNat <<< 8 ||| third.toNat <<< 16 ||| fourth.toNat <<< 24)

def alignTo (offset alignment : ℕ) : ℕ :=
  if alignment ≤ 1 then offset
  else
    let remainder := offset % alignment
    if remainder = 0 then offset else offset + (alignment - remainder)

/-- The upper hexadecimal digit of a number below 16. -/
def hexDigit (digit : ℕ) : UInt8 := UInt8.ofNat (if digit < 10 then 48 + digit else 55 + digit)

def hexByte (byte : UInt8) : List UInt8 := [hexDigit (byte.toNat / 16), hexDigit (byte.toNat % 16)]

def formatMac (data : List UInt8) (offset : ℕ) : Option (List UInt8) :=
  ((List.range 6).mapM fun i => data[offset + i]?).map fun mac =>
    [58].intercalate (mac.map hexByte)

def sanitizeByte (c : UInt8) : UInt8 := if c ≥ 32 && c ≤ 126 then c else 63

def sanitizeSsid (data : List UInt8) (offset length : ℕ) : Option (List UInt8) :=
  (List.range length).mapM fun i => data[offset + i]?.map sanitizeByte

def frequencyToChannel (freqMhz : ℕ) : Option ℕ :=
  if freqMhz = 2484 then some 14
  else if freqMhz ≥ 2412 && freqMhz ≤ 2472 then some ((freqMhz - 2407) / 5)
  else if freqMhz ≥ 5000 && freqMhz ≤ 5895 then some ((freqMhz - 5000) / 5)
  else if freqMhz ≥ 5955 && freqMhz ≤ 7115 then some ((freqMhz - 5950) / 5)
  else none

end

section

/-! ## The radiotap header -/

structure RadiotapInfo where
  headerLength : ℕ := 0
  signalDbm : Option ℤ := none
  channelFreqMhz : Option ℕ := none

/-- The chained words of the bitmap and the offset behind them, unless they go beyond the header. -/
def presentWords (data : List UInt8) (headerLength presentOffset word : ℕ) (words : List ℕ) :
    Option (Option (List ℕ × ℕ)) :=
  if word.testBit 31 then
    if presentOffset + 4 > headerLength then some none
    else
      (readLe32 data presentOffset).bind fun word =>
        presentWords data headerLength (presentOffset + 4) word (words ++ [word])
  else some (some (words, presentOffset))
termination_by headerLength - presentOffset

def hasBit (presentWords : List ℕ) (field : ℕ) : Bool :=
  presentWords[field / 32]?.any fun word => word.testBit (field % 32)

/-- The alignment and the size of a field: timestamp, flags, rate, channel, hopping and signal. -/
def fieldLayout : ℕ → ℕ × ℕ
  | 0 => (8, 8)
  | 1 => (1, 1)
  | 2 => (1, 1)
  | 3 => (2, 4)
  | 4 => (2, 2)
  | 5 => (1, 1)
  | _ => (1, 0)

def readField (data : List UInt8) (field offset : ℕ) (info : RadiotapInfo) : Option RadiotapInfo :=
  if field = 3 then
    (readLe16 data offset).map fun frequency => { info with channelFreqMhz := some frequency }
  else if field = 5 then
    data[offset]?.map fun signal => { info with signalDbm := some signal.toInt8.toInt }
  else some info

/-- The header length is only set when all fields were within the header. -/
def readFields (data : List UInt8) (headerLength : ℕ) (words : List ℕ) :
    List ℕ → ℕ → RadiotapInfo → Option RadiotapInfo
  | [], _, info => some { info with headerLength := headerLength }
  | field :: fields, fieldOffset, info =>
      if !hasBit words field then readFields data headerLength words fields fieldOffset info
      else
        let (align, size) := fieldLayout field
        let fieldOffset := alignTo fieldOffset align
        if fieldOffset + size > headerLength then some info
        else
          (readField data field fieldOffset info).bind fun info =>
            readFields data headerLength words fields (fieldOffset + size) info

def parseRadiotap (data : List UInt8) : Option RadiotapInfo :=
  if data.length < 8 then some {}
  else
    (readLe16 data 2).bind fun headerLength =>
      if headerLength < 8 || headerLength > data.length then some {}
      else
        (readLe32 data 4).bind fun word =>
          (presentWords data headerLength 8 word [word]).bind fun present =>
            match present with
            | none => some {}
            | some (words, fieldOffset) =>
                readFields data headerLength words (List.range 6) fieldOffset {}

end

section

/-! ## The frames -/

structure ParsedBeacon where
  bssid : List UInt8
  receiverMac : List UInt8
  ssid : List UInt8
  signalDbm : Option ℤ
  channel : Option ℤ
  radiotapChannel : Option ℕ
  radiotapFreqMhz : Option ℕ
  channelSource : ParsedChannelSource
  subtype : ParsedManagementSubtype

structure ParsedProbeRequest where
  receiverMac : List UInt8
  transmitterMac : List UInt8
  ssid : List UInt8
  signalDbm : Option ℤ
  radiotapChannel : Option ℕ
  radiotapFreqMhz : Option ℕ

/-- What the elements of a beacon have told so far. -/
structure BeaconElements where
  ssid : List UInt8 := []
  dsChannel : Option ℕ := none
  htPrimaryChannel : Option ℕ := none

def readBeaconElement (frame : List UInt8) (id len offset : ℕ) (found : BeaconElements) :
    Option BeaconElements :=
  if id = 0 then (sanitizeSsid frame offset len).map fun ssid => { found with ssid := ssid }
  else if id = 3 && len ≥ 1 then
    frame[offset]?.map fun channel => { found with dsChannel := some channel.toNat }
  else if id = 61 && len ≥ 1 then
    frame[offset]?.map fun channel => { found with htPrimaryChannel := some channel.toNat }
  else some found

/-- Later elements replace what earlier ones have told. -/
def beaconElements (frame : List UInt8) (offset : ℕ) (found : BeaconElements) :
    Option BeaconElements :=
  if offset + 2 ≤ frame.length then
    frame[offset]?.bind fun id =>
      frame[offset + 1]?.bind fun len =>
        if offset + 2 + len.toNat > frame.length then some found
        else
          (readBeaconElement frame id.toNat len.toNat (offset + 2) found).bind fun found =>
            beaconElements frame (offset + 2 + len.toNat) found
  else some found
termination_by frame.length - offset

/-- The payload of the first element for a network's name. -/
def probeRequestSsid (frame : List UInt8) (offset : ℕ) : Option (List UInt8) :=
  if offset + 2 ≤ frame.length then
    frame[offset]?.bind fun id =>
      frame[offset + 1]?.bind fun len =>
        if offset + 2 + len.toNat > frame.length then some []
        else if id = 0 then sanitizeSsid frame (offset + 2) len.toNat
        else probeRequestSsid frame (offset + 2 + len.toNat)
  else some []
termination_by frame.length - offset

def frameKind (frame : List UInt8) : Option (ℕ × ℕ) :=
  (readLe16 frame 0).map fun fc => (fc >>> 2 &&& 0x3, fc >>> 4 &&& 0xF)

/-- What the elements tell is preferred to the header, and that to the hint. -/
def chooseChannel (dsChannel htPrimaryChannel radiotapChannel : Option ℕ) (channelHint : ℤ) :
    Option ℤ × ParsedChannelSource :=
  match dsChannel, htPrimaryChannel, radiotapChannel with
  | some channel, _, _ => (some channel, .dsParameterSet)
  | none, some channel, _ => (some channel, .htOperation)
  | none, none, some channel => (some channel, .radiotap)
  | none, none, none => (if channelHint > 0 then some channelHint else none, .hint)

def parseBeaconOrProbeResponse (data : List UInt8) (channelHint : ℤ) :
    Option (Option ParsedBeacon) := do
  let rt ← parseRadiotap data
  if rt.headerLength = 0 || rt.headerLength > data.length then return none
  let frame := data.drop rt.headerLength
  if frame.length < 36 then return none
  let (type, subtype) ← frameKind frame
  if type ≠ 0 || (subtype ≠ 8 && subtype ≠ 5) then return none
  let elements ← beaconElements frame 36 {}
  let radiotapChannel := rt.channelFreqMhz.bind frequencyToChannel
  let (channel, channelSource) :=
    chooseChannel elements.dsChannel elements.htPrimaryChannel radiotapChannel channelHint
  let bssid ← formatMac frame 16
  let receiverMac ← formatMac frame 4
  return some
    { bssid := bssid
      receiverMac := receiverMac
      ssid := elements.ssid
      signalDbm := rt.signalDbm
      channel := channel
      radiotapChannel := radiotapChannel
      radiotapFreqMhz := rt.channelFreqMhz
      channelSource := channelSource
      subtype := if subtype = 5 then .probeResponse else .beacon }

def parseProbeRequest (data : List UInt8) : Option (Option ParsedProbeRequest) := do
  let rt ← parseRadiotap data
  if rt.headerLength = 0 || rt.headerLength > data.length then return none
  let frame := data.drop rt.headerLength
  if frame.length < 24 then return none
  let (type, subtype) ← frameKind frame
  if type ≠ 0 || subtype ≠ 4 then return none
  let receiverMac ← formatMac frame 4
  let transmitterMac ← formatMac frame 10
  let ssid ← probeRequestSsid frame 24
  return some
    { receiverMac := receiverMac
      transmitterMac := transmitterMac
      ssid := ssid
      signalDbm := rt.signalDbm
      radiotapChannel := rt.channelFreqMhz.bind frequencyToChannel
      radiotapFreqMhz := rt.channelFreqMhz }

end

end OsManager

end DirtSim
