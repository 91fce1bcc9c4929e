import DirtSim.Network.WifiManager

/-! # What a connect leaves behind

With a password every profile that was not activated is deleted again, and afterwards the one that
was activated is the only one of its network. Without a password a profile that was stored stays when
it is not activated; and the profiles of other networks are deleted when they are named like this one
(`clean_iff`).
-/

namespace DirtSim.WifiManager

/-! ## What is promised -/

def OfSsid (ssid : String) (profile : Profile) : Prop :=
  profile.isWifi = true ∧ profile.connectionSsid = ssid

instance (ssid : String) (profile : Profile) : Decidable (OfSsid ssid profile) :=
  inferInstanceAs (Decidable (_ ∧ _))

def Connected (device : Device) (ssid : String) : Prop := ∃ ap ∈ device.active, ap.ssid = ssid

/-- What a connect leaves of the saved profiles. -/
structure Clean (device : Option Device) (ssid : String) (password : Option String)
    (outcomes : Outcomes) (saved : List Profile) : Prop where
  /-- An error leaves the profiles as they were. -/
  failed : ∀ error, (connectBySsid device ssid password outcomes saved).1 = .error error →
    ∀ profile, profile ∈ (connectBySsid device ssid password outcomes saved).2 ↔ profile ∈ saved
  /-- A new profile that is activated with a password is the only one of its network. -/
  replaced : ∀ answer, (connectBySsid device ssid password outcomes saved).1 = .ok answer →
    password.isSome → (∀ found ∈ device, ¬ Connected found ssid) →
    ∃ number, (outcomes.attempts number).add = .accepted ∧
      (outcomes.attempts number).wait = .ok () ∧
      ∃ activated ∈ (connectBySsid device ssid password outcomes saved).2,
        activated.uuid = (outcomes.attempts number).uuid ∧
        ∀ profile ∈ (connectBySsid device ssid password outcomes saved).2,
          OfSsid ssid profile → profile = activated
  /-- Profiles of other networks stay as they were. -/
  others : ∀ profile, ¬ OfSsid ssid profile →
    (profile ∈ (connectBySsid device ssid password outcomes saved).2 ↔ profile ∈ saved)

/-! ## When it is kept -/

def Attempt.Activates (attempt : Attempt) : Prop :=
  attempt.builds = true ∧ attempt.add = .accepted ∧ attempt.wait = .ok ()

def Attempt.FailsWith (attempt : Attempt) (error : String) : Prop :=
  attempt.builds = true ∧ (attempt.add = .refused error ∨ attempt.add = .stored error ∨
    attempt.add = .accepted ∧ attempt.wait = .error error)

def Attempt.Stores (attempt : Attempt) : Prop :=
  attempt.builds = true ∧ ∃ error, attempt.add = .stored error ∨
    attempt.add = .accepted ∧ attempt.wait = .error error

def Outcomes.tried (outcomes : Outcomes) (index : ℕ) : Except String Unit :=
  outcomes.activate index >>= fun _ => outcomes.wait index

/-- None of the saved profiles can be activated, and the last one tried gives no error. -/
def Outcomes.SilentlyFail (outcomes : Outcomes) (count : ℕ) : Prop :=
  (∀ index < count, ∃ error, outcomes.tried index = .error error) ∧
    (count ≠ 0 → outcomes.tried (count - 1) = .error "")

/-- Without a password a new profile of an open network is stored, and not activated. -/
def LeavesProfile (device : Option Device) (ssid : String) (password : Option String)
    (outcomes : Outcomes) (saved : List Profile) : Prop :=
  password = none ∧ ssid ≠ "" ∧ ∃ found, device = some found ∧ ¬ Connected found ssid ∧
    outcomes.SilentlyFail (saved.countP fun profile => OfSsid ssid profile) ∧
    (findBestAccessPoint found.visible ssid = none ∨
      securityFromAccessPoint (findBestAccessPoint found.visible ssid) = "open") ∧
    (outcomes.attempts 1).Stores

/-- The first attempt succeeds, or the second after it. -/
def Succeeds (password : Option String) (visibleAccessPointCount : ℕ) (outcomes : Outcomes) : Prop :=
  (outcomes.attempts 1).Activates ∨
    ∃ error, (outcomes.attempts 1).FailsWith error ∧
      shouldRetryPasswordConnectAttempt password visibleAccessPointCount error 1
        kMultiAccessPointPasswordConnectAttempts = true ∧
      (outcomes.attempts 2).Activates

/-- With a password a new profile is activated, and a profile of another network is named like
this one. -/
def DeletesOther (device : Option Device) (ssid : String) (password : Option String)
    (outcomes : Outcomes) (saved : List Profile) : Prop :=
  password.isSome = true ∧ ssid ≠ "" ∧ ∃ found, device = some found ∧ ¬ Connected found ssid ∧
    Succeeds password (countAccessPointsForSsid found.visible ssid) outcomes ∧
    ∃ profile ∈ saved, profile.isWifi = true ∧ profile.connectionSsid ≠ ssid ∧ profile.id = ssid

def Outcomes.Fresh (outcomes : Outcomes) (saved : List Profile) : Prop :=
  ∀ number, (outcomes.attempts number).uuid ≠ "" ∧
    ∀ profile ∈ saved, profile.uuid ≠ (outcomes.attempts number).uuid

/-! ## The saved profiles -/

section

variable {outcomes : Outcomes}

theorem trySavedProfiles_eq (candidates : List WifiConnectionCandidate) (index : ℕ)
    (lastError : String) :
    (trySavedProfiles outcomes index candidates lastError = .error "" ↔
      (∀ offset < candidates.length, ∃ error, outcomes.tried (index + offset) = .error error) ∧
        (if candidates = [] then lastError = ""
          else outcomes.tried (index + (candidates.length - 1)) = .error "")) := by
  induction candidates generalizing index lastError with
  | nil => simp [trySavedProfiles]
  | cons candidate candidates ih =>
      have step : trySavedProfiles outcomes index (candidate :: candidates) lastError =
          (outcomes.tried index).tryCatch (trySavedProfiles outcomes (index + 1) candidates) := by
        rw [trySavedProfiles, Outcomes.tried]
        cases outcomes.activate index with
        | error activationError => rfl
        | ok activated =>
            cases outcomes.wait index with
            | error waitError => rfl
            | ok waited => rfl
      rw [step, if_neg (List.cons_ne_nil _ _)]
      cases first : outcomes.tried index with
      | ok activated =>
          refine ⟨fun silent => (by cases silent), fun both => ?_⟩
          obtain ⟨error, failed⟩ := both.1 0 (by simp)
          rw [Nat.add_zero, first] at failed
          cases failed
      | error error =>
          simp only [Except.tryCatch, ih, List.length_cons, Nat.add_sub_cancel]
          have shift : ∀ offset, index + 1 + offset = index + (offset + 1) := fun offset => by omega
          have later : (∀ offset < candidates.length + 1,
                ∃ error, outcomes.tried (index + offset) = .error error) ↔
              ∀ offset < candidates.length,
                ∃ error, outcomes.tried (index + 1 + offset) = .error error := by
            constructor
            · intro all offset below
              rw [shift]
              exact all (offset + 1) (by omega)
            · intro rest offset below
              cases offset with
              | zero => exact ⟨error, first⟩
              | succ offset =>
                  rw [← shift]
                  exact rest offset (by omega)
          rw [later]
          refine and_congr_right fun _ => ?_
          cases candidates with
          | nil => simp [first]
          | cons next candidates =>
              rw [if_neg (List.cons_ne_nil _ _), shift]
              simp

theorem length_collectWifiConnections (saved : List Profile) (activeUuid : String) {ssid : String}
    (named : ssid ≠ "") :
    (sortCandidates (collectWifiConnections saved activeUuid ssid)).length =
      saved.countP fun profile => OfSsid ssid profile := by
  rw [sortCandidates, List.length_mergeSort, collectWifiConnections, if_neg named, List.length_map,
    List.countP_eq_length_filter]
  congr 1
  refine List.filter_congr fun profile _ => ?_
  by_cases same : profile.connectionSsid = ssid
  · simp [OfSsid, same, named]
  · simp [OfSsid, same]

theorem trySavedProfiles_silent (outcomes : Outcomes) (saved : List Profile) (activeUuid : String)
    {ssid : String} (named : ssid ≠ "") :
    trySavedProfiles outcomes 0
        (sortCandidates (collectWifiConnections saved activeUuid ssid)) "" = .error "" ↔
      outcomes.SilentlyFail (saved.countP fun profile => OfSsid ssid profile) := by
  rw [trySavedProfiles_eq, Outcomes.SilentlyFail, ← length_collectWifiConnections saved activeUuid
    named]
  simp only [Nat.zero_add]
  refine and_congr_right fun _ => ?_
  by_cases none_saved : sortCandidates (collectWifiConnections saved activeUuid ssid) = []
  · simp [none_saved]
  · simp [none_saved]

end

section

/-! ## Attempts with a new profile -/

variable {ssid : String} {password : Option String} {count maxAttempts left number : ℕ}
  {outcomes : Outcomes} {previous : Option AccessPoint} {earlier error : String}
  {saved : List Profile}
variable {attempt : Attempt}

theorem Attempt.cases (attempt : Attempt) :
    attempt.builds = false ∨ attempt.Activates ∨ ∃ error, attempt.FailsWith error := by
  cases built : attempt.builds with
  | false => exact .inl rfl
  | true =>
      right
      cases added : attempt.add with
      | refused error => exact .inr ⟨error, built, .inl added⟩
      | stored error => exact .inr ⟨error, built, .inr (.inl added)⟩
      | accepted =>
          cases waited : attempt.wait with
          | error error => exact .inr ⟨error, built, .inr (.inr ⟨added, waited⟩)⟩
          | ok activated => exact .inl ⟨built, added, waited⟩

theorem Attempt.FailsWith.unique {other : String} (fails : attempt.FailsWith error)
    (fails' : attempt.FailsWith other) : error = other := by
  obtain ⟨-, refused | stored | ⟨added, waited⟩⟩ := fails <;>
    obtain ⟨-, refused' | stored' | ⟨added', waited'⟩⟩ := fails' <;> simp_all

theorem Attempt.Activates.not_failsWith (activates : attempt.Activates) :
    ¬ attempt.FailsWith error := by
  obtain ⟨-, accepted, activated⟩ := activates
  rintro ⟨-, refused | stored | ⟨added, waited⟩⟩ <;> simp_all

theorem Attempt.Activates.not_stores (activates : attempt.Activates) : ¬ attempt.Stores := by
  obtain ⟨-, accepted, activated⟩ := activates
  rintro ⟨-, error, stored | ⟨added, waited⟩⟩ <;> simp_all

def createdProfile (ssid : String) (password : Option String) (outcomes : Outcomes)
    (previous : Option AccessPoint) (number : ℕ) : Profile :=
  buildConnectionForSsid ssid password
    (if number > 1 then findBestAccessPoint (outcomes.attempts number).visible ssid else previous)
    (outcomes.attempts number).uuid

theorem createdProfile_ofSsid (named : ssid ≠ "") :
    OfSsid ssid (createdProfile ssid password outcomes previous number) :=
  ⟨rfl, if_neg named⟩

theorem connectAttempts_unbuilt (unbuilt : (outcomes.attempts number).builds = false) :
    connectAttempts ssid password count maxAttempts outcomes (left + 1) number previous earlier
      saved = (.error "Failed to build WiFi connection", saved) := by
  simp [connectAttempts, unbuilt]

theorem connectAttempts_activates (activates : (outcomes.attempts number).Activates) :
    connectAttempts ssid password count maxAttempts outcomes (left + 1) number previous earlier
      saved = (.ok ("", (outcomes.attempts number).uuid),
        saved ++ [createdProfile ssid password outcomes previous number]) := by
  obtain ⟨built, accepted, activated⟩ := activates
  simp [connectAttempts, built, accepted, activated, createdProfile]

theorem connectAttempts_none (fails : (outcomes.attempts number).FailsWith error) :
    connectAttempts ssid none count maxAttempts outcomes (left + 1) number previous earlier saved =
      (.error error, saved) ∧ ¬ (outcomes.attempts number).Stores ∨
    connectAttempts ssid none count maxAttempts outcomes (left + 1) number previous earlier saved =
      (.error error, saved ++ [createdProfile ssid none outcomes previous number]) ∧
      (outcomes.attempts number).Stores := by
  have once : ∀ error, shouldRetryPasswordConnectAttempt none count error number maxAttempts =
      false := by
    simp [shouldRetryPasswordConnectAttempt]
  obtain ⟨built, refused | stored | ⟨added, waited⟩⟩ := fails
  · left
    refine ⟨by simp [connectAttempts, built, refused, once], ?_⟩
    rintro ⟨-, other, stored | ⟨added, -⟩⟩ <;> simp_all
  · right
    exact ⟨by simp [connectAttempts, built, stored, once, createdProfile],
      built, error, .inl stored⟩
  · right
    exact ⟨by simp [connectAttempts, built, added, waited, once, createdProfile],
      built, error, .inr ⟨added, waited⟩⟩

theorem connectAttempts_password (given : password.isSome = true) (fresh : outcomes.Fresh saved)
    (fails : (outcomes.attempts number).FailsWith error) :
    connectAttempts ssid password count maxAttempts outcomes (left + 1) number previous earlier
        saved =
      if shouldRetryPasswordConnectAttempt password count error number maxAttempts then
        connectAttempts ssid password count maxAttempts outcomes left (number + 1)
          (if number > 1 then findBestAccessPoint (outcomes.attempts number).visible ssid
            else previous) error saved
      else (.error error, saved) := by
  obtain ⟨nonempty, unused⟩ := fresh number
  have kept : deleteRemoteConnectionByUuid saved (outcomes.attempts number).uuid = saved := by
    rw [deleteRemoteConnectionByUuid, List.filter_eq_self]
    simpa using unused
  have removed : ∀ ap, deleteRemoteConnectionByUuid (saved ++
      [buildConnectionForSsid ssid password ap (outcomes.attempts number).uuid])
      (outcomes.attempts number).uuid = saved := by
    intro ap
    rw [deleteRemoteConnectionByUuid] at kept
    rw [deleteRemoteConnectionByUuid, List.filter_append, kept]
    simp [buildConnectionForSsid]
  obtain ⟨built, refused | stored | ⟨added, waited⟩⟩ := fails
  · simp [connectAttempts, built, refused, given, nonempty, kept]
  · simp [connectAttempts, built, stored, given, nonempty, removed]
  · simp [connectAttempts, built, added, waited, given, nonempty, removed]

def attemptsAllowed (password : Option String) (count : ℕ) : ℕ :=
  if password.isSome && count > 1 then kMultiAccessPointPasswordConnectAttempts else 1

theorem retry_last (text : String) :
    shouldRetryPasswordConnectAttempt password count text number number = false := by
  simp [shouldRetryPasswordConnectAttempt]

/-- **All attempts with a password**: none of them leaves a profile, but the one that succeeds. -/
theorem connectAttempts_spec (given : password.isSome = true) (fresh : outcomes.Fresh saved) :
    (∃ error, connectAttempts ssid password count (attemptsAllowed password count) outcomes
        (attemptsAllowed password count) 1 previous "" saved = (.error error, saved) ∧
      ¬ Succeeds password count outcomes) ∨
    (∃ number created, connectAttempts ssid password count (attemptsAllowed password count) outcomes
        (attemptsAllowed password count) 1 previous "" saved =
          (.ok ("", (outcomes.attempts number).uuid), saved ++ [created]) ∧
      (outcomes.attempts number).Activates ∧ created.uuid = (outcomes.attempts number).uuid ∧
      created.isWifi = true ∧ created.ssid = ssid ∧ created.id = ssid ∧
      Succeeds password count outcomes) := by
  have allowed : ∃ left, attemptsAllowed password count = left + 1 := by
    unfold attemptsAllowed
    split
    · exact ⟨1, rfl⟩
    · exact ⟨0, rfl⟩
  obtain ⟨left, allowed⟩ := allowed
  rcases (outcomes.attempts 1).cases with unbuilt | activates | ⟨error, fails⟩
  · left
    refine ⟨_, by rw [allowed, connectAttempts_unbuilt unbuilt], ?_⟩
    rintro (⟨built, -⟩ | ⟨error, ⟨built, -⟩, -⟩) <;> simp [unbuilt] at built
  · right
    exact ⟨1, _, by rw [allowed, connectAttempts_activates activates], activates, rfl, rfl, rfl, rfl,
      .inl activates⟩
  · by_cases several : count > 1
    · have two : attemptsAllowed password count = 1 + 1 := by
        simp [attemptsAllowed, given, several, kMultiAccessPointPasswordConnectAttempts]
      have retried : ∀ other, (outcomes.attempts 1).FailsWith other → other = error := fun other
        fails' => fails'.unique fails
      rw [two, connectAttempts_password given fresh fails]
      by_cases again : shouldRetryPasswordConnectAttempt password count error 1 (1 + 1) = true
      · rw [if_pos again]
        rcases (outcomes.attempts 2).cases with unbuilt | activates | ⟨error', fails'⟩
        · left
          refine ⟨_, connectAttempts_unbuilt unbuilt, ?_⟩
          rintro (activates | ⟨other, -, -, ⟨built, -⟩⟩)
          · exact activates.not_failsWith fails
          · simp [unbuilt] at built
        · right
          exact ⟨2, _, connectAttempts_activates activates, activates, rfl, rfl, rfl, rfl,
            .inr ⟨error, fails, again, activates⟩⟩
        · left
          refine ⟨error', ?_, ?_⟩
          · rw [connectAttempts_password given fresh fails']
            exact if_neg (by simp [retry_last])
          · rintro (activates | ⟨other, -, -, activates⟩)
            · exact activates.not_failsWith fails
            · exact activates.not_failsWith fails'
      · left
        refine ⟨error, if_neg again, ?_⟩
        rintro (activates | ⟨other, failed, retries, -⟩)
        · exact activates.not_failsWith fails
        · obtain rfl := retried other failed
          exact again retries
    · left
      have one : attemptsAllowed password count = 0 + 1 := by
        simp [attemptsAllowed, several]
      refine ⟨error, ?_, ?_⟩
      · rw [one, connectAttempts_password given fresh fails]
        exact if_neg (by simp [retry_last])
      · rintro (activates | ⟨other, -, retries, -⟩)
        · exact activates.not_failsWith fails
        · have few : count < 2 := by omega
          simp [shouldRetryPasswordConnectAttempt, few] at retries

end

section

/-! ## The whole connect -/

variable {device : Option Device} {ssid : String} {password : Option String} {outcomes : Outcomes}
  {saved : List Profile}

theorem Clean.of_unchanged
    (unchanged : (connectBySsid device ssid password outcomes saved).2 = saved)
    (nothing_new : ∀ answer, (connectBySsid device ssid password outcomes saved).1 = .ok answer →
      password.isSome → ¬ ∀ found ∈ device, ¬ Connected found ssid) :
    Clean device ssid password outcomes saved where
  failed error _ profile := by rw [unchanged]
  replaced answer succeeded given apart := absurd apart (nothing_new answer succeeded given)
  others profile _ := by rw [unchanged]

theorem connected_iff (found : Device) :
    (found.active.any fun ap => ap.ssid = ssid) = true ↔ Connected found ssid := by
  cases active : found.active with
  | none => simp [Connected, active]
  | some ap => simp [Connected, active]

theorem connectBySsid_apart {found : Device} (password : Option String) (outcomes : Outcomes)
    (saved : List Profile) (named : ssid ≠ "") (apart : ¬ Connected found ssid) :
    connectBySsid (some found) ssid password outcomes saved =
      match (if password.isSome then .error ""
          else trySavedProfiles outcomes 0
            (sortCandidates (collectWifiConnections saved found.activeUuid ssid)) "" :
          Except String Unit) with
      | .ok () => (.ok { success := true, ssid := ssid }, saved)
      | .error lastError =>
          if lastError ≠ "" then (.error lastError, saved)
          else if password.isNone && (findBestAccessPoint found.visible ssid).isSome &&
              securityFromAccessPoint (findBestAccessPoint found.visible ssid) ≠ "open" then
            (.error "Password required for secured network", saved)
          else connectNewProfile ssid password found.visible outcomes saved := by
  have inactive : (found.active.any fun ap => ap.ssid = ssid) = false := by
    rw [← Bool.not_eq_true, connected_iff]
    exact apart
  simp only [connectBySsid, if_neg named, inactive, Bool.false_eq_true, ↓reduceIte] <;> rfl

theorem not_leaves_of {device : Option Device}
    (early : ∀ found, device = some found → ssid ≠ "" → Connected found ssid) :
    ¬ LeavesProfile device ssid password outcomes saved ∧
      ¬ DeletesOther device ssid password outcomes saved := by
  refine ⟨?_, ?_⟩
  · rintro ⟨-, named, found, here, apart, -⟩
    exact apart (early found here named)
  · rintro ⟨-, named, found, here, apart, -⟩
    exact apart (early found here named)

theorem clean_iff_none {found : Device} (named : ssid ≠ "") (apart : ¬ Connected found ssid)
    (fresh : outcomes.Fresh saved) :
    Clean (some found) ssid none outcomes saved ↔
      ¬ LeavesProfile (some found) ssid none outcomes saved := by
  have whole := connectBySsid_apart none outcomes saved named apart
  simp only [Option.isSome_none, Bool.false_eq_true, ↓reduceIte, Option.isNone_none,
    Bool.true_and] at whole
  have unchanged : (connectBySsid (some found) ssid none outcomes saved).2 = saved →
      Clean (some found) ssid none outcomes saved := fun same =>
    Clean.of_unchanged same fun answer succeeded given => nomatch given
  have silent := trySavedProfiles_silent outcomes saved found.activeUuid named
  by_cases quiet : trySavedProfiles outcomes 0
      (sortCandidates (collectWifiConnections saved found.activeUuid ssid)) "" = .error ""
  swap
  · -- A saved profile helps, or its error is the answer.
    have loud : ¬ LeavesProfile (some found) ssid none outcomes saved := by
      rintro ⟨-, -, other, here, -, fail, -⟩
      cases here
      exact quiet (silent.mpr fail)
    refine iff_of_true (unchanged ?_) loud
    rw [whole]
    cases tried : trySavedProfiles outcomes 0
        (sortCandidates (collectWifiConnections saved found.activeUuid ssid)) "" with
    | ok activated => rfl
    | error lastError =>
        have some_error : lastError ≠ "" := fun empty => quiet (by rw [tried, empty])
        simp [some_error]
  rw [quiet] at whole
  simp only [ne_eq, not_true_eq_false, ↓reduceIte] at whole
  by_cases secured : ((findBestAccessPoint found.visible ssid).isSome &&
      decide (¬ securityFromAccessPoint (findBestAccessPoint found.visible ssid) = "open")) = true
  · rw [if_pos secured] at whole
    refine iff_of_true (unchanged (by rw [whole])) ?_
    rintro ⟨-, -, other, here, -, -, open_network, -⟩
    cases here
    rw [Bool.and_eq_true, decide_eq_true_eq] at secured
    rcases open_network with nothing | unsecured
    · simp [nothing] at secured
    · exact secured.2 unsecured
  · rw [if_neg secured] at whole
    have open_network : findBestAccessPoint found.visible ssid = none ∨
        securityFromAccessPoint (findBestAccessPoint found.visible ssid) = "open" := by
      rw [Bool.and_eq_true, decide_eq_true_eq, not_and_or, not_not] at secured
      refine secured.imp_left fun nothing => ?_
      simpa using nothing
    have leaves : LeavesProfile (some found) ssid none outcomes saved ↔
        (outcomes.attempts 1).Stores := by
      refine ⟨fun left => ?_, fun stores =>
        ⟨rfl, named, found, rfl, apart, silent.mp quiet, open_network, stores⟩⟩
      obtain ⟨-, -, other, -, -, -, -, stores⟩ := left
      exact stores
    rw [leaves]
    rcases (outcomes.attempts 1).cases with unbuilt | activates | ⟨error, fails⟩
    · refine iff_of_true (unchanged ?_) fun stores => ?_
      · rw [whole]
        simp [connectNewProfile, connectAttempts_unbuilt unbuilt]
      · obtain ⟨built, -⟩ := stores
        simp [unbuilt] at built
    · have stored : connectNewProfile ssid none found.visible outcomes saved =
          (.ok { success := true, ssid := ssid },
            saved ++ [createdProfile ssid none outcomes
              (findBestAccessPoint found.visible ssid) 1]) := by
        simp [connectNewProfile, connectAttempts_activates activates]
      rw [stored] at whole
      refine iff_of_true ⟨?_, ?_, ?_⟩ activates.not_stores
      · intro error failed
        rw [whole] at failed
        cases failed
      · intro answer succeeded given
        cases given
      · intro profile other
        rw [whole, List.mem_append, List.mem_singleton, or_iff_left]
        rintro rfl
        exact other (createdProfile_ofSsid named)
    · rcases @connectAttempts_none ssid (countAccessPointsForSsid found.visible ssid) 1 0 1 outcomes
        (findBestAccessPoint found.visible ssid) "" error saved fails with
        ⟨failed, nothing⟩ | ⟨failed, stores⟩
      · refine iff_of_true (unchanged ?_) nothing
        rw [whole]
        simp [connectNewProfile, failed]
      · refine iff_of_false (fun clean => ?_) (not_not_intro stores)
        have ended : connectNewProfile ssid none found.visible outcomes saved =
            (.error error, saved ++ [createdProfile ssid none outcomes
              (findBestAccessPoint found.visible ssid) 1]) := by
          simp [connectNewProfile, failed]
        rw [ended] at whole
        have back := (clean.failed error (by rw [whole]) (createdProfile ssid none outcomes
          (findBestAccessPoint found.visible ssid) 1)).mp (by rw [whole]; simp)
        exact (fresh 1).2 _ back rfl

theorem clean_iff_password {found : Device} (given : password.isSome = true) (named : ssid ≠ "")
    (apart : ¬ Connected found ssid) (fresh : outcomes.Fresh saved) :
    Clean (some found) ssid password outcomes saved ↔
      ¬ DeletesOther (some found) ssid password outcomes saved := by
  have whole := connectBySsid_apart password outcomes saved named apart
  have secured : password.isNone = false := by simpa using given
  simp only [given, secured, ↓reduceIte, ne_eq, not_true_eq_false, Bool.false_and,
    Bool.false_eq_true, connectNewProfile, Bool.true_and] at whole
  have allowed : (if decide (countAccessPointsForSsid found.visible ssid > 1) = true then
      kMultiAccessPointPasswordConnectAttempts else 1) =
      attemptsAllowed password (countAccessPointsForSsid found.visible ssid) := by
    rw [attemptsAllowed, given, Bool.true_and]
  rw [allowed] at whole
  have deletes : DeletesOther (some found) ssid password outcomes saved ↔
      Succeeds password (countAccessPointsForSsid found.visible ssid) outcomes ∧
        ∃ profile ∈ saved, profile.isWifi = true ∧ profile.connectionSsid ≠ ssid ∧
          profile.id = ssid := by
    constructor
    · rintro ⟨-, -, other, here, -, succeeds, lost⟩
      cases here
      exact ⟨succeeds, lost⟩
    · rintro ⟨succeeds, lost⟩
      exact ⟨given, named, found, rfl, apart, succeeds, lost⟩
  rw [deletes]
  rcases @connectAttempts_spec ssid password (countAccessPointsForSsid found.visible ssid) outcomes
      (findBestAccessPoint found.visible ssid) saved given fresh with
    ⟨error, failed, fails⟩ |
    ⟨number, created, activated, activates, uuid, wifi, network, id, succeeds⟩
  · rw [failed] at whole
    refine iff_of_true (Clean.of_unchanged (by rw [whole]) fun answer succeeded => ?_) fun both =>
      fails both.1
    rw [whole] at succeeded
    cases succeeded
  · rw [activated] at whole
    obtain ⟨numbered, unused⟩ := fresh number
    simp only [not_true_eq_false, ↓reduceIte, numbered, not_false_eq_true, decide_true] at whole
    have after : (connectBySsid (some found) ssid password outcomes saved).2 =
        deleteWifiConnectionsBySsid (saved ++ [created]) ssid (outcomes.attempts number).uuid := by
      rw [whole]
    have named_created : created.connectionSsid = ssid := by
      rw [Profile.connectionSsid, network, if_neg named]
    have kept : ∀ profile, profile ∈ (connectBySsid (some found) ssid password outcomes saved).2 ↔
        profile = created ∨ profile ∈ saved ∧
          (profile.isWifi = true → profile.connectionSsid ≠ ssid ∧ profile.id ≠ ssid) := by
      intro profile
      rw [after, deleteWifiConnectionsBySsid, List.mem_filter, List.mem_append, List.mem_singleton]
      constructor
      · rintro ⟨inside | rfl, spared⟩
        · have different := unused profile inside
          refine .inr ⟨inside, fun wifi => ?_⟩
          simpa [wifi, different] using spared
        · exact .inl rfl
      · rintro (rfl | ⟨inside, spared⟩)
        · exact ⟨.inr rfl, by simp [numbered, uuid]⟩
        · refine ⟨.inl inside, ?_⟩
          cases wifi : profile.isWifi with
          | false => rfl
          | true => simp [spared wifi]
    constructor
    · rintro clean ⟨-, profile, inside, wifi, foreign, same⟩
      have still := (clean.others profile fun own => foreign own.2).mpr inside
      rcases (kept profile).mp still with rfl | ⟨-, spared⟩
      · exact foreign named_created
      · exact (spared wifi).2 same
    · intro spares
      refine ⟨fun error failed => ?_, fun answer succeeded _ _ => ?_, fun profile foreign => ?_⟩
      · rw [whole] at failed
        cases failed
      · refine ⟨number, activates.2.1, activates.2.2, created, (kept created).mpr (.inl rfl), uuid,
          fun profile listed own => ?_⟩
        rcases (kept profile).mp listed with rfl | ⟨-, spared⟩
        · rfl
        · exact absurd own.2 (spared own.1).1
      · rw [kept profile]
        constructor
        · rintro (rfl | ⟨inside, -⟩)
          · exact absurd ⟨wifi, named_created⟩ foreign
          · exact inside
        · intro inside
          refine .inr ⟨inside, fun wifi => ⟨fun own => foreign ⟨wifi, own⟩, fun same => ?_⟩⟩
          exact spares ⟨succeeds, profile, inside, wifi, fun own => foreign ⟨wifi, own⟩, same⟩

end

/-- **A connect is clean exactly when** it leaves no profile of an open network that was not
activated, and deletes none of another network. -/
theorem clean_iff {device : Option Device} {ssid : String} {password : Option String}
    {outcomes : Outcomes} {saved : List Profile} (fresh : outcomes.Fresh saved) :
    Clean device ssid password outcomes saved ↔
      ¬ LeavesProfile device ssid password outcomes saved ∧
        ¬ DeletesOther device ssid password outcomes saved := by
  by_cases early : ∃ found, device = some found ∧ ssid ≠ "" ∧ ¬ Connected found ssid
  · obtain ⟨found, rfl, named, apart⟩ := early
    cases password with
    | none =>
        rw [clean_iff_none named apart fresh]
        exact (and_iff_left fun deletes => nomatch deletes.1).symm
    | some text =>
        rw [clean_iff_password rfl named apart fresh]
        exact (and_iff_right fun leaves => nomatch leaves.1).symm
  · have connected : ∀ found, device = some found → ssid ≠ "" → Connected found ssid :=
      fun found here named => not_not.mp fun apart => early ⟨found, here, named, apart⟩
    refine iff_of_true ?_ (not_leaves_of connected)
    by_cases named : ssid = ""
    · refine Clean.of_unchanged (by simp [connectBySsid, named]) fun answer succeeded => ?_
      simp [connectBySsid, named] at succeeded
    · cases device with
      | none =>
          refine Clean.of_unchanged (by simp [connectBySsid, named]) fun answer succeeded => ?_
          simp [connectBySsid, named] at succeeded
      | some found =>
          have joined := connected found rfl named
          have active := connected_iff found |>.mpr joined
          refine Clean.of_unchanged (by simp [connectBySsid, named, active])
            fun answer _ _ apart => apart found rfl joined

/-! ## A profile that stays -/

/-- An open network without saved profiles, which stores the new one and does not activate it. -/
def openNetwork : AccessPoint where
  ssid := "cafe"
  strength := 60
  frequency := 2412
  privacy := false
  wpaPsk := false
  rsnPsk := false
  rsnSae := false

def idleDevice : Device where
  visible := [openNetwork]
  active := none
  activeUuid := ""

def timesOut : Outcomes where
  activate _ := .ok ()
  wait _ := .ok ()
  attempts _ :=
    { visible := [openNetwork]
      builds := true
      uuid := "new"
      add := .accepted
      wait := .error "WiFi activation timed out" }

theorem connectBySsid_timesOut : connectBySsid (some idleDevice) "cafe" none timesOut [] =
    (.error "WiFi activation timed out",
      [createdProfile "cafe" none timesOut (some openNetwork) 1]) := by
  have best : findBestAccessPoint idleDevice.visible "cafe" = some openNetwork := by decide
  have apart : ¬ Connected idleDevice "cafe" := fun ⟨ap, active, _⟩ => nomatch active
  have fails : (timesOut.attempts 1).FailsWith "WiFi activation timed out" :=
    ⟨rfl, .inr (.inr ⟨rfl, rfl⟩)⟩
  have stores : (timesOut.attempts 1).Stores := ⟨rfl, _, .inr ⟨rfl, rfl⟩⟩
  have attempt := (@connectAttempts_none "cafe" (countAccessPointsForSsid idleDevice.visible "cafe")
    1 0 1 timesOut (some openNetwork) "" _ [] fails).resolve_left fun unstored => unstored.2 stores
  rw [connectBySsid_apart none timesOut [] (by decide) apart]
  simp only [Option.isSome_none, Bool.false_eq_true, ↓reduceIte, collectWifiConnections,
    List.filter_nil, List.map_nil, ite_self, sortCandidates, List.mergeSort_nil, trySavedProfiles,
    best, connectNewProfile, Bool.false_and, attempt.1]
  rfl

theorem timesOut_not_clean : ¬ Clean (some idleDevice) "cafe" none timesOut [] := by
  intro clean
  have stays := (clean.failed _ (by rw [connectBySsid_timesOut])
    (createdProfile "cafe" none timesOut (some openNetwork) 1)).mp
      (by rw [connectBySsid_timesOut]; exact List.mem_singleton_self _)
  exact List.not_mem_nil stays

theorem clean_iff_timesOut : Clean (some idleDevice) "cafe" (some "secret") timesOut [] ↔
    ¬ LeavesProfile (some idleDevice) "cafe" (some "secret") timesOut [] ∧
      ¬ DeletesOther (some idleDevice) "cafe" (some "secret") timesOut [] :=
  clean_iff fun number => ⟨(by decide : "new" ≠ ""), by simp⟩

end DirtSim.WifiManager
