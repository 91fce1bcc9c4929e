import Mathlib.Data.List.Infix
import Mathlib.Data.List.Sort

/-! # Connecting to a wireless network

`connectBySsid` tries the saved profiles of a network when no password is given, and otherwise adds
a new profile, in a few attempts. A new profile may be stored before its activation fails. How
activations end is `Outcomes`.
-/

namespace DirtSim.WifiManager

def kMultiAccessPointPasswordConnectAttempts : ℕ := 2

def kHigherBandSignalToleranceDb : ℤ := 12

/-! ## Access points -/

structure AccessPoint where
  ssid : String
  strength : ℕ
  frequency : ℕ
  privacy : Bool
  wpaPsk : Bool
  rsnPsk : Bool
  rsnSae : Bool
deriving DecidableEq

def isHigherBandFrequency (frequencyMHz : ℕ) : Bool := frequencyMHz ≥ 5000

def strengthToDbm (strength : ℕ) : Option ℤ := if strength = 0 then none else some (strength - 100)

def shouldPreferAccessPoint (candidate : AccessPoint) (current : Option AccessPoint) : Bool :=
  match current with
  | none => true
  | some current =>
      let candidateSignal := (strengthToDbm candidate.strength).getD (-200)
      let currentSignal := (strengthToDbm current.strength).getD (-200)
      let candidateHigherBand := isHigherBandFrequency candidate.frequency
      let currentHigherBand := isHigherBandFrequency current.frequency
      let differ := candidateHigherBand != currentHigherBand
      if differ && candidateHigherBand &&
          candidateSignal ≥ currentSignal - kHigherBandSignalToleranceDb then true
      else if differ && currentHigherBand &&
          currentSignal ≥ candidateSignal - kHigherBandSignalToleranceDb then false
      else if candidateSignal ≠ currentSignal then candidateSignal > currentSignal
      else candidate.frequency > current.frequency

def findBestAccessPoint (visible : List AccessPoint) (ssid : String) : Option AccessPoint :=
  if ssid = "" then none
  else visible.foldl (fun best ap =>
    if ap.ssid ≠ ssid then best
    else if shouldPreferAccessPoint ap best then some ap else best) none

def countAccessPointsForSsid (visible : List AccessPoint) (ssid : String) : ℕ :=
  if ssid = "" then 0 else (visible.filter fun ap => ap.ssid = ssid).length

def securityFromAccessPoint : Option AccessPoint → String
  | none => "unknown"
  | some ap =>
      if ap.rsnSae then "wpa3"
      else if ap.rsnPsk then "wpa2"
      else if ap.wpaPsk then "wpa"
      else if ap.privacy then "wep"
      else "open"

/-! ## Profiles -/

structure Profile where
  uuid : String
  id : String
  /-- Empty where the profile has no name of a network. -/
  ssid : String
  isWifi : Bool
  keyMgmt : Option String
  timestamp : ℤ
  autoConnect : Bool
  hasCredentials : Bool
deriving DecidableEq

def Profile.connectionSsid (profile : Profile) : String :=
  if profile.ssid = "" then profile.id else profile.ssid

structure WifiConnectionCandidate where
  profile : Profile
  active : Bool

def collectWifiConnections (saved : List Profile) (activeUuid value : String) :
    List WifiConnectionCandidate :=
  if value = "" then []
  else (saved.filter fun profile =>
    profile.isWifi && profile.connectionSsid ≠ "" && profile.connectionSsid = value).map
      fun profile =>
        { profile := profile
          active := activeUuid ≠ "" && profile.uuid ≠ "" && profile.uuid = activeUuid }

def precedes (a b : WifiConnectionCandidate) : Bool :=
  if a.active != b.active then a.active
  else if a.profile.hasCredentials != b.profile.hasCredentials then a.profile.hasCredentials
  else if a.profile.timestamp ≠ b.profile.timestamp then a.profile.timestamp > b.profile.timestamp
  else if a.profile.autoConnect != b.profile.autoConnect then a.profile.autoConnect
  else a.profile.id < b.profile.id

def sortCandidates (candidates : List WifiConnectionCandidate) : List WifiConnectionCandidate :=
  candidates.mergeSort fun a b => !precedes b a

def buildConnectionForSsid (ssid : String) (password : Option String) (ap : Option AccessPoint)
    (uuid : String) : Profile where
  uuid := uuid
  id := ssid
  ssid := ssid
  isWifi := true
  keyMgmt := password.map fun _ =>
    if securityFromAccessPoint ap = "wep" then "none"
    else if securityFromAccessPoint ap = "wpa3" then "sae" else "wpa-psk"
  timestamp := 0
  autoConnect := true
  hasCredentials := password.isSome

def deleteRemoteConnectionByUuid (saved : List Profile) (uuid : String) : List Profile :=
  saved.filter fun profile => profile.uuid ≠ uuid

def deleteWifiConnectionsBySsid (saved : List Profile) (ssid keepUuid : String) : List Profile :=
  saved.filter fun profile =>
    !profile.isWifi || (profile.connectionSsid ≠ ssid && profile.id ≠ ssid) ||
      (keepUuid ≠ "" && profile.uuid = keepUuid)

/-! ## Outcomes -/

/-- How the network manager adds and activates a new profile. -/
inductive AddOutcome
  /-- The profile is not stored. -/
  | refused (error : String)
  /-- The profile is stored, but not activated. -/
  | stored (error : String)
  | accepted

/-- What happens in an attempt with a new profile. -/
structure Attempt where
  /-- The access points after the scan before a retry. -/
  visible : List AccessPoint
  builds : Bool
  uuid : String
  add : AddOutcome
  /-- How the device is activated. -/
  wait : Except String Unit

structure Outcomes where
  /-- How the saved profiles are activated, in the order in which they are tried. -/
  activate : ℕ → Except String Unit
  wait : ℕ → Except String Unit
  attempts : ℕ → Attempt

structure Device where
  visible : List AccessPoint
  active : Option AccessPoint
  /-- Empty without an active connection. -/
  activeUuid : String

structure WifiConnectResult where
  success : Bool
  ssid : String
deriving DecidableEq

/-! ## Connecting -/

/-- Tries the saved profiles in order; without success there is the last error. -/
def trySavedProfiles (outcomes : Outcomes) :
    ℕ → List WifiConnectionCandidate → String → Except String Unit
  | _, [], lastError => .error lastError
  | index, _ :: candidates, _ =>
      match outcomes.activate index with
      | .error activationError => trySavedProfiles outcomes (index + 1) candidates activationError
      | .ok () =>
          match outcomes.wait index with
          | .error waitError => trySavedProfiles outcomes (index + 1) candidates waitError
          | .ok () => .ok ()

def containsText (text part : String) : Bool := part.toList <:+: text.toList

def shouldRetryPasswordConnectAttempt (password : Option String) (visibleAccessPointCount : ℕ)
    (errorMessage : String) (attemptNumber maxAttempts : ℕ) : Bool :=
  if password.isNone || visibleAccessPointCount < 2 || attemptNumber ≥ maxAttempts then false
  else
    containsText errorMessage "reason=no-secrets" || containsText errorMessage "timed out" ||
      containsText errorMessage "reason=disconnected"

abbrev Connects (Result : Type) : Type := Except String Result × List Profile

section

variable (ssid : String) (password : Option String) (visibleAccessPointCount maxConnectAttempts : ℕ)
  (outcomes : Outcomes)

/-- The attempts with a new profile, and how many are left. The loop ends with the last error and
the number of the profile that was activated. -/
def connectAttempts : ℕ → ℕ → Option AccessPoint → String → List Profile →
    Connects (String × String)
  | 0, _, _, lastConnectError, saved => (.ok (lastConnectError, ""), saved)
  | left + 1, number, previous, _, saved =>
      let attempt := outcomes.attempts number
      let ap := if number > 1 then findBestAccessPoint attempt.visible ssid else previous
      if attempt.builds then
        let created := buildConnectionForSsid ssid password ap attempt.uuid
        let cleanUp (stored : List Profile) : List Profile :=
          if password.isSome && attempt.uuid ≠ "" then
            deleteRemoteConnectionByUuid stored attempt.uuid
          else stored
        let fails (error : String) (stored : List Profile) : Connects (String × String) :=
          if shouldRetryPasswordConnectAttempt password visibleAccessPointCount error number
              maxConnectAttempts then
            connectAttempts left (number + 1) ap error (cleanUp stored)
          else (.error error, cleanUp stored)
        match attempt.add with
        | .refused attemptError => fails attemptError saved
        | .stored attemptError => fails attemptError (saved ++ [created])
        | .accepted =>
            match attempt.wait with
            | .error waitError => fails waitError (saved ++ [created])
            | .ok () => (.ok ("", attempt.uuid), saved ++ [created])
      else (.error "Failed to build WiFi connection", saved)

end

/-- The attempts with a new profile and the clean-up after them. -/
def connectNewProfile (ssid : String) (password : Option String) (visible : List AccessPoint)
    (outcomes : Outcomes) (saved : List Profile) : Connects WifiConnectResult :=
  let visibleAccessPointCount := countAccessPointsForSsid visible ssid
  let maxConnectAttempts :=
    if password.isSome && visibleAccessPointCount > 1 then
      kMultiAccessPointPasswordConnectAttempts
    else 1
  match connectAttempts ssid password visibleAccessPointCount maxConnectAttempts outcomes
      maxConnectAttempts 1 (findBestAccessPoint visible ssid) "" saved with
  | (.error error, after) => (.error error, after)
  | (.ok (lastConnectError, successfulUuid), after) =>
      if lastConnectError ≠ "" then (.error lastConnectError, after)
      else
        let cleaned :=
          if password.isSome && successfulUuid ≠ "" then
            deleteWifiConnectionsBySsid after ssid successfulUuid
          else after
        (.ok { success := true, ssid := ssid }, cleaned)

def connectBySsid (device : Option Device) (ssid : String) (password : Option String)
    (outcomes : Outcomes) (saved : List Profile) : Connects WifiConnectResult :=
  if ssid = "" then (.error "SSID is required", saved)
  else
    match device with
    | none => (.error "No WiFi device found", saved)
    | some device =>
        if device.active.any fun ap => ap.ssid = ssid then
          (.ok { success := true, ssid := ssid }, saved)
        else
          let tried : Except String Unit :=
            if password.isSome then .error ""
            else trySavedProfiles outcomes 0
              (sortCandidates (collectWifiConnections saved device.activeUuid ssid)) ""
          let ap := findBestAccessPoint device.visible ssid
          match tried with
          | .ok () => (.ok { success := true, ssid := ssid }, saved)
          | .error lastError =>
              if lastError ≠ "" then (.error lastError, saved)
              else if password.isNone && ap.isSome && securityFromAccessPoint ap ≠ "open" then
                (.error "Password required for secured network", saved)
              else connectNewProfile ssid password device.visible outcomes saved

end DirtSim.WifiManager
