import DirtSim.OsManager.AdaptiveScanPlanner
import Mathlib.Data.UInt

/-! # The channel words of the radio driver

A tuning is sent to the driver as a word of bits. A word is read with masks, so that words that
differ in other bits are read as the same tuning; and a word of 20 MHz is written for the band of
the channel, whatever the band of the tuning.
-/

namespace DirtSim.OsManager

namespace NexmonChannelProtocol

section

def kBand24Ghz : UInt32 := 0x0000
def kBand5Ghz : UInt32 := 0xc000
def kControlSidebandLower : UInt32 := 0x0000
def kControlSidebandLowerUpper : UInt32 := 0x0100
def kControlSidebandUpperLower : UInt32 := 0x0200
def kControlSidebandUpperUpper : UInt32 := 0x0300
def kWidth20Mhz : UInt32 := 0x1000
def kWidth40Mhz : UInt32 := 0x1800
def kWidth80Mhz : UInt32 := 0x2000

/-- A number in hexadecimal, with at least four digits. -/
def hexText (value : UInt32) : String :=
  let digits := Nat.toDigits 16 value.toNat
  String.ofList (List.replicate (4 - digits.length) '0' ++ digits)

def scannerBandLabel : ScannerBand → String
  | .band24Ghz => "2.4 GHz"
  | .band5Ghz => "5 GHz"

def scannerChannelSpanLabel (channels : List ℤ) (widthMhz : ℤ) : String :=
  match channels.head?, channels.getLast? with
  | some front, some back =>
      if channels.length = 1 then toString front
      else if widthMhz = 40 && channels.length = 2 then toString front ++ "+" ++ toString back
      else toString front ++ "-" ++ toString back
  | _, _ => ""

def isSupported5GHzScannerChannel (channel : ℤ) : Bool :=
  (scannerBandPrimaryChannels .band5Ghz).contains channel

def isSupported5GHzScannerChannelForWidth (widthMhz channel : ℤ) : Bool :=
  if widthMhz = 20 then isSupported5GHzScannerChannel channel
  else
    (scannerManualTargetChannels .band5Ghz widthMhz).any fun centerChannel =>
      (scannerTuningCoveredPrimaryChannels
        { band := .band5Ghz
          primaryChannel := centerChannel
          widthMhz := widthMhz
          centerChannel := some centerChannel }).contains channel

end

section

/-- The word for a width above 20 MHz; the sideband says where the primary channel is. -/
def encode5GHzChanspec (widthMhz : ℤ) (width : UInt32) (controlSideband : ℤ → Option UInt32)
    (tuning : ScannerTuning) : Except String UInt32 :=
  let label := toString widthMhz ++ " MHz"
  if !isSupported5GHzScannerChannelForWidth widthMhz tuning.primaryChannel then
    .error ("Unsupported " ++ label ++ " scanner channel " ++ toString tuning.primaryChannel)
  else
    match tuning.centerChannel with
    | none =>
        .error ("Missing " ++ label ++ " center channel for primary channel " ++
          toString tuning.primaryChannel)
    | some centerChannel =>
        if !(scannerManualTargetChannels .band5Ghz widthMhz).contains centerChannel then
          .error ("Unsupported " ++ label ++ " center channel " ++ toString centerChannel)
        else
          let invalid := "Invalid " ++ label ++ " center channel " ++ toString centerChannel ++
            " for primary channel " ++ toString tuning.primaryChannel
          if !(scannerTuningCoveredPrimaryChannels
              { band := .band5Ghz
                primaryChannel := tuning.primaryChannel
                widthMhz := widthMhz
                centerChannel := some centerChannel }).contains tuning.primaryChannel then
            .error invalid
          else
            match controlSideband (tuning.primaryChannel - centerChannel) with
            | some sideband => .ok (kBand5Ghz ||| width ||| sideband ||| UInt32.ofInt centerChannel)
            | none => .error invalid

def controlSideband40MHz (offset : ℤ) : Option UInt32 :=
  if offset = -2 then some kControlSidebandLower
  else if offset = 2 then some kControlSidebandLowerUpper
  else none

def controlSideband80MHz (offset : ℤ) : Option UInt32 :=
  if offset = -6 then some kControlSidebandLower
  else if offset = -2 then some kControlSidebandLowerUpper
  else if offset = 2 then some kControlSidebandUpperLower
  else if offset = 6 then some kControlSidebandUpperUpper
  else none

def encode5GHz40MHzChanspec : ScannerTuning → Except String UInt32 :=
  encode5GHzChanspec 40 kWidth40Mhz controlSideband40MHz

def encode5GHz80MHzChanspec : ScannerTuning → Except String UInt32 :=
  encode5GHzChanspec 80 kWidth80Mhz controlSideband80MHz

def encodeChanspec20MHz (channel : ℤ) : Except String UInt32 :=
  if 1 ≤ channel ∧ channel ≤ 11 then .ok (kBand24Ghz ||| kWidth20Mhz ||| UInt32.ofInt channel)
  else if isSupported5GHzScannerChannel channel then
    .ok (kBand5Ghz ||| kWidth20Mhz ||| UInt32.ofInt channel)
  else .error ("Unsupported 20 MHz scanner channel " ++ toString channel)

def encodeChanspec (tuning : ScannerTuning) : Except String UInt32 :=
  let unsupported := "Unsupported scanner tuning width " ++ toString tuning.widthMhz ++ " MHz"
  if !scannerWidthSupported tuning.band tuning.widthMhz then
    .error ("Unsupported " ++ scannerBandLabel tuning.band ++ " scanner width " ++
      toString tuning.widthMhz ++ " MHz")
  else if tuning.widthMhz = 20 then encodeChanspec20MHz tuning.primaryChannel
  else if tuning.widthMhz = 40 then
    if tuning.band ≠ .band5Ghz then .error unsupported else encode5GHz40MHzChanspec tuning
  else if tuning.widthMhz = 80 then
    if tuning.band ≠ .band5Ghz then .error unsupported else encode5GHz80MHzChanspec tuning
  else .error unsupported

end

section

/-- What is checked of a tuning behind the choice of its width. -/
def checkDecoded (width : UInt32) (tuning : ScannerTuning) : Except String ScannerTuning :=
  if !scannerWidthSupported tuning.band tuning.widthMhz then
    .error ("Unsupported chanspec width 0x" ++ hexText width)
  else if !(scannerTuningCoveredPrimaryChannels tuning).contains tuning.primaryChannel then
    .error "Decoded primary channel is outside chanspec span"
  else if !(scannerBandPrimaryChannels tuning.band).contains tuning.primaryChannel then
    .error ("Unsupported decoded primary channel " ++ toString tuning.primaryChannel)
  else
    match tuning.centerChannel with
    | none => .ok tuning
    | some centerChannel =>
        if !(scannerManualTargetChannels tuning.band tuning.widthMhz).contains centerChannel then
          .error ("Unsupported decoded center channel " ++ toString centerChannel)
        else .ok tuning

def decodeChanspec (chanspec : UInt32) : Except String ScannerTuning :=
  let band := chanspec &&& 0xc000
  let width := chanspec &&& 0x3800
  let channel : ℤ := (chanspec &&& 0x00ff).toNat
  let controlSideband := chanspec &&& 0x0300
  let tuning : ScannerTuning :=
    { band := if band = kBand5Ghz then .band5Ghz else .band24Ghz
      primaryChannel := channel
      widthMhz := 20
      centerChannel := none }
  let centered (widthMhz offset : ℤ) : Except String ScannerTuning :=
    checkDecoded width
      { tuning with
        widthMhz := widthMhz, centerChannel := some channel, primaryChannel := channel + offset }
  if width = kWidth20Mhz then
    if !(scannerBandPrimaryChannels tuning.band).contains channel then
      .error ("Unsupported 20 MHz chanspec primary channel " ++ toString channel)
    else .ok tuning
  else if width = kWidth40Mhz ∧ tuning.band = .band5Ghz then
    if controlSideband = kControlSidebandLower then centered 40 (-2)
    else if controlSideband = kControlSidebandLowerUpper then centered 40 2
    else .error ("Unsupported 40 MHz control sideband 0x" ++ hexText controlSideband)
  else if width = kWidth80Mhz ∧ tuning.band = .band5Ghz then
    if controlSideband = kControlSidebandLower then centered 80 (-6)
    else if controlSideband = kControlSidebandLowerUpper then centered 80 (-2)
    else if controlSideband = kControlSidebandUpperLower then centered 80 2
    else if controlSideband = kControlSidebandUpperUpper then centered 80 6
    else .error ("Unsupported 80 MHz control sideband 0x" ++ hexText controlSideband)
  -- any other width, and a width of 5 GHz in another band, is left at 20 MHz
  else checkDecoded width tuning

def describeChanspec (chanspec : UInt32) : String :=
  let rawLabel := "0x" ++ hexText (chanspec &&& 0xffff)
  match decodeChanspec chanspec with
  | .error reason => rawLabel ++ " (" ++ reason ++ ")"
  | .ok tuning =>
      if tuning.widthMhz = 20 then
        rawLabel ++ " (" ++ scannerBandLabel tuning.band ++ " ch " ++
          toString tuning.primaryChannel ++ " @ 20 MHz)"
      else
        rawLabel ++ " (" ++ scannerBandLabel tuning.band ++ " center " ++
          toString (tuning.centerChannel.getD 0) ++ " @ " ++ toString tuning.widthMhz ++
          " MHz span " ++ scannerChannelSpanLabel (scannerTuningCoveredPrimaryChannels tuning)
            tuning.widthMhz ++ ")"

end

section

/-- The words read back before the deadline, or the errors of reading them, one after another: the
last word read, or else the last error. -/
structure Readbacks where
  lastActualChanspec : Option UInt32 := none
  lastReadbackError : Option String := none

def Readbacks.describe (readbacks : Readbacks) : String :=
  match readbacks.lastActualChanspec, readbacks.lastReadbackError with
  | some chanspec, _ => "; last actual=" ++ describeChanspec chanspec
  | none, some reason => "; last readback error=" ++ reason
  | none, none => ""

def pollReadbacks (expectedChanspec : UInt32) : Readbacks → List (Except String UInt32) →
    Except String Unit
  | readbacks, [] =>
      .error ("Manual tuning readback did not settle to " ++ describeChanspec expectedChanspec ++
        readbacks.describe)
  | _, .ok chanspec :: later =>
      if chanspec = expectedChanspec then .ok ()
      else pollReadbacks expectedChanspec
        { lastActualChanspec := some chanspec, lastReadbackError := none } later
  | readbacks, .error reason :: later =>
      pollReadbacks expectedChanspec { readbacks with lastReadbackError := some reason } later

/-- Waits until the driver answers with the word of a tuning, given its answers until the
deadline. -/
def waitForManualReadbackMatch (tuning : ScannerTuning) (answers : List (Except String UInt32)) :
    Except String Unit :=
  (encodeChanspec tuning).bind fun expectedChanspec => pollReadbacks expectedChanspec {} answers

end

end NexmonChannelProtocol

end DirtSim.OsManager
