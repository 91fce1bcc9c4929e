import DirtSim.OsManager.PeerTrust

/-! # Refused trust requests

A request is refused after its first checks, and then nothing has changed, or because the key has no
body, and then the allowlist is saved already. Without a file of authorized keys no key has to be
taken out of it, and a peer is untrusted whatever its key is.
-/

namespace DirtSim.OsManager

open SshAccess

/-- The allowlist, and the lines of the file of authorized keys if there is one. -/
structure TrustFiles where
  allowlist : List PeerTrustBundle
  authorizedKeys : Option (List ByteString)
deriving DecidableEq

namespace TrustFiles

section

def access (files : TrustFiles) : SshAccess := ⟨files.allowlist, files.authorizedKeys.getD []⟩

def trustPeer (files : TrustFiles) (command : PeerTrustBundle) :
    Except String TrustPeer.Okay × TrustFiles :=
  match files.access.trustPeer command with
  | (.error reason, after) => (.error reason, { files with allowlist := after.allowlist })
  | (.ok okay, after) =>
      (.ok okay,
        { allowlist := after.allowlist
          authorizedKeys :=
            if okay.authorized_key_added then some after.lines else files.authorizedKeys })

def untrustPeer (files : TrustFiles) (host : ByteString) :
    Except String UntrustPeer.Okay × TrustFiles :=
  match files.authorizedKeys with
  | some lines =>
      let answer := SshAccess.untrustPeer ⟨files.allowlist, lines⟩ host
      (answer.1, ⟨answer.2.allowlist, some answer.2.lines⟩)
  | none =>
      if host = [] then (.error "Host is required", files)
      else match files.allowlist.find? (·.host = host) with
        | none => (.error "Peer not found in allowlist", files)
        | some _ =>
            (.ok { allowlist_removed := true, authorized_key_removed := false },
              { files with allowlist := files.allowlist.eraseP (·.host = host) })

/-- The reason for refusing a request, and what is there afterwards. -/
inductive Refuses (files : TrustFiles) : Request → TrustFiles → Prop
  | trust {command : PeerTrustBundle} {reason : String} {after : TrustFiles}
      (refused : files.trustPeer command = (.error reason, after)) :
      Refuses files (.trust command) after
  | untrust {host : ByteString} {reason : String} {after : TrustFiles}
      (refused : files.untrustPeer host = (.error reason, after)) :
      Refuses files (.untrust host) after

/-- Requests to trust a peer, one after another, whatever the answers. -/
def trustPeers (files : TrustFiles) (commands : List PeerTrustBundle) : TrustFiles :=
  commands.foldl (fun before command => (before.trustPeer command).2) files

/-- The bundle that a sequence of requests has entered last for a host. -/
def lastEntered (commands : List PeerTrustBundle) (host : ByteString) : Option PeerTrustBundle :=
  (commands.filterMap fun command => (checkBundle command).toOption).reverse.find? (·.host = host)

/-- A request is refused only for what is checked before the first change: the key of a bundle that
is entered has a body, or the bundle stands there already; the key of a removed entry has one, or
there is no file to take it out of. -/
def CheckedFirst (files : TrustFiles) : Request → Prop
  | .trust command => ∀ bundle, checkBundle command = .ok bundle →
      keyBody bundle ≠ none ∨ files.allowlist.find? (·.host = bundle.host) = some bundle
  | .untrust host => host ≠ [] → ∀ entry, files.allowlist.find? (·.host = host) = some entry →
      keyBody entry ≠ none ∨ files.authorizedKeys = none

end

section

/-! ## The entry of a host -/

variable {bundle : PeerTrustBundle} {allowlist : List PeerTrustBundle}

theorem find?_updateEntry (host : ByteString) :
    (updateEntry bundle allowlist).1.find? (·.host = host) =
      if bundle.host = host then some bundle else allowlist.find? (·.host = host) := by
  induction allowlist with
  | nil =>
      rw [updateEntry, List.find?_cons, List.find?_nil]
      by_cases same : bundle.host = host
      · rw [if_pos same, decide_eq_true same]
      · rw [if_neg same, decide_eq_false same]
  | cons entry rest ih =>
      unfold updateEntry
      by_cases replaced : entry.host = bundle.host
      · have here : (if entry ≠ bundle then (bundle :: rest, true) else (entry :: rest, false)).1 =
            bundle :: rest := by
          split
          case isTrue => rfl
          case isFalse equal => rw [not_not.mp equal]
        rw [if_pos replaced, here, List.find?_cons, List.find?_cons, replaced]
        by_cases same : bundle.host = host
        · rw [if_pos same, decide_eq_true same]
        · rw [if_neg same, decide_eq_false same]
      · rw [if_neg replaced, List.find?_cons, List.find?_cons, ih]
        by_cases same : entry.host = host
        · have other : ¬ bundle.host = host := fun equal => replaced (same.trans equal.symm)
          rw [decide_eq_true same]
          exact (if_neg other).symm
        · rw [decide_eq_false same]

theorem updateEntry_eq_self_iff :
    (updateEntry bundle allowlist).1 = allowlist ↔
      allowlist.find? (·.host = bundle.host) = some bundle := by
  constructor
  · intro same
    rw [← same, find?_updateEntry, if_pos rfl]
  · intro found
    induction allowlist with
    | nil => cases found
    | cons entry rest ih =>
        unfold updateEntry
        rw [List.find?_cons] at found
        by_cases here : entry.host = bundle.host
        · rw [decide_eq_true here] at found
          rw [if_pos here, if_neg (not_not.mpr (Option.some.inj found))]
        · rw [decide_eq_false here] at found
          rw [if_neg here]
          exact congrArg (entry :: ·) (ih found)

end

section

/-! ## What a refusal leaves behind -/

variable {files after : TrustFiles}
variable {entry : PeerTrustBundle} {host : ByteString}

theorem keyBody_eq_none {reason : String}
    (failed : extractKeyBody entry.client_pubkey = .error reason) : keyBody entry = none := by
  rw [keyBody, failed]
  rfl

theorem trustPeer_cases (files : TrustFiles) (command : PeerTrustBundle) :
    (∃ reason, checkBundle command = .error reason ∧
      files.trustPeer command = (.error reason, files)) ∨
    (∃ bundle reason, checkBundle command = .ok bundle ∧ keyBody bundle = none ∧
      files.trustPeer command =
        (.error reason, { files with allowlist := (updateEntry bundle files.allowlist).1 })) ∨
    ∃ bundle body, checkBundle command = .ok bundle ∧ keyBody bundle = some body ∧
      (∃ okay, (files.trustPeer command).1 = .ok okay) ∧
      (files.trustPeer command).2.allowlist = (updateEntry bundle files.allowlist).1 ∧
      (files.trustPeer command).2.authorizedKeys ≠ none := by
  cases checked : checkBundle command with
  | error reason =>
      refine Or.inl ⟨reason, rfl, ?_⟩
      rw [trustPeer, SshAccess.trustPeer, checked]
      rfl
  | ok bundle =>
      refine Or.inr ?_
      cases extracted : extractKeyBody bundle.client_pubkey with
      | error reason =>
          refine Or.inl ⟨bundle, reason, rfl, keyBody_eq_none extracted, ?_⟩
          rw [trustPeer, SshAccess.trustPeer, checked]
          dsimp only
          rw [extracted]
          rfl
      | ok body =>
          have answer : files.access.trustPeer command =
              (.ok ⟨(updateEntry bundle files.allowlist).2,
                  !(files.access.lines.any fun line => lineBody line = some body)⟩,
                if files.access.lines.any fun line => lineBody line = some body then
                  { files.access with allowlist := (updateEntry bundle files.allowlist).1 }
                else
                  { allowlist := (updateEntry bundle files.allowlist).1
                    lines := files.access.lines ++ [bundle.client_pubkey] }) := by
            rw [SshAccess.trustPeer, checked]
            dsimp only
            rw [extracted]
            rfl
          refine Or.inr ⟨bundle, body, rfl, keyBody_of_extractKeyBody extracted, ?_⟩
          rw [trustPeer, answer]
          refine ⟨⟨_, rfl⟩, ?_, ?_⟩
          · dsimp only
            split <;> rfl
          · -- a key that is on some line was read from the file
            cases present : files.access.lines.any fun line => lineBody line = some body with
            | false => exact Option.some_ne_none _
            | true =>
                obtain ⟨line, inside, _⟩ := List.any_eq_true.mp present
                intro missing
                have nothing : files.access.lines = [] := by
                  rw [access]
                  exact congrArg (Option.getD · []) missing
                rw [nothing] at inside
                exact List.not_mem_nil inside

theorem trust_unchanged_iff (files : TrustFiles) (command : PeerTrustBundle) :
    (∀ after, Refuses files (.trust command) after → after = files) ↔
      CheckedFirst files (.trust command) := by
  rcases trustPeer_cases files command with ⟨reason, checked, answer⟩ |
    ⟨bundle, reason, checked, bodiless, answer⟩ | ⟨bundle, body, checked, has, ⟨okay, accepted⟩, _⟩
  · refine iff_of_true ?_ fun bundle entered => absurd (checked.symm.trans entered) nofun
    rintro after ⟨refused⟩
    exact congrArg Prod.snd (refused.symm.trans answer)
  · constructor
    · intro unchanged other entered
      obtain rfl : bundle = other := Except.ok.inj (checked.symm.trans entered)
      refine Or.inr (updateEntry_eq_self_iff.mp ?_)
      exact congrArg TrustFiles.allowlist (unchanged _ (.trust answer))
    · rintro first after ⟨refused⟩
      have there := (first bundle checked).resolve_left (not_not.mpr bodiless)
      rw [updateEntry_eq_self_iff.mpr there] at answer
      exact congrArg Prod.snd (refused.symm.trans answer)
  · refine iff_of_true ?_ fun other entered => Or.inl ?_
    · rintro after ⟨refused⟩
      exact absurd (accepted.symm.trans (congrArg Prod.fst refused)) nofun
    · obtain rfl : bundle = other := Except.ok.inj (checked.symm.trans entered)
      exact fun bodiless => absurd (has.symm.trans bodiless) nofun

theorem untrustPeer_found (named : host ≠ [])
    (found : files.allowlist.find? (·.host = host) = some entry) :
    (files.untrustPeer host).2.allowlist = files.allowlist.eraseP (·.host = host) ∧
      ((∃ okay, (files.untrustPeer host).1 = .ok okay) ↔
        keyBody entry ≠ none ∨ files.authorizedKeys = none) := by
  obtain ⟨allowlist, authorizedKeys⟩ := files
  cases authorizedKeys with
  | none =>
      have answer : untrustPeer ⟨allowlist, none⟩ host =
          (.ok { allowlist_removed := true, authorized_key_removed := false },
            ⟨allowlist.eraseP (·.host = host), none⟩) := by
        rw [untrustPeer]
        rw [if_neg named, found]
      rw [answer]
      exact ⟨rfl, iff_of_true ⟨_, rfl⟩ (Or.inr rfl)⟩
  | some lines =>
      rw [untrustPeer]
      dsimp only
      rw [SshAccess.untrustPeer, if_neg named, found]
      dsimp only
      cases extracted : extractKeyBody entry.client_pubkey with
      | error reason =>
          refine ⟨rfl, iff_of_false nofun ?_⟩
          rintro (has | missing)
          · exact has (keyBody_eq_none extracted)
          · exact absurd missing nofun
      | ok body =>
          refine ⟨?_, iff_of_true ⟨_, rfl⟩ (Or.inl ?_)⟩
          · dsimp only
            split <;> rfl
          · rw [keyBody_of_extractKeyBody extracted]
            exact Option.some_ne_none body

theorem untrustPeer_unknown (unknown : host = [] ∨ files.allowlist.find? (·.host = host) = none) :
    (files.untrustPeer host).2 = files := by
  obtain ⟨allowlist, authorizedKeys⟩ := files
  cases authorizedKeys with
  | none =>
      rw [untrustPeer]
      dsimp only
      split
      case isTrue => rfl
      case isFalse named => rw [unknown.resolve_left named]
  | some lines =>
      rw [untrustPeer]
      dsimp only
      rw [SshAccess.untrustPeer]
      split
      case isTrue => rfl
      case isFalse named => rw [unknown.resolve_left named]

theorem eraseP_ne_self {allowlist : List PeerTrustBundle}
    (found : allowlist.find? (·.host = host) = some entry) :
    allowlist.eraseP (·.host = host) ≠ allowlist := by
  intro same
  have matching : decide (entry.host = host) = true :=
    List.find?_some (p := fun entry : PeerTrustBundle => decide (entry.host = host)) found
  have shorter := List.length_eraseP_of_mem
    (p := fun entry : PeerTrustBundle => decide (entry.host = host))
    (List.mem_of_find?_eq_some found) matching
  rw [same] at shorter
  have longer := List.length_pos_of_mem (List.mem_of_find?_eq_some found)
  omega

theorem untrust_unchanged_iff (files : TrustFiles) (host : ByteString) :
    (∀ after, Refuses files (.untrust host) after → after = files) ↔
      CheckedFirst files (.untrust host) := by
  by_cases named : host = []
  · refine iff_of_true ?_ fun other => absurd named other
    rintro after (_ | refused)
    have kept : (files.untrustPeer host).2 = files := untrustPeer_unknown (Or.inl named)
    exact (congrArg Prod.snd refused).symm.trans kept
  · cases found : files.allowlist.find? (·.host = host) with
    | none =>
        refine iff_of_true ?_ fun _ entry inside => absurd (found.symm.trans inside) nofun
        rintro after (_ | refused)
        have kept := untrustPeer_unknown (Or.inr found)
        exact (congrArg Prod.snd refused).symm.trans kept
    | some entry =>
        obtain ⟨erased, accepted⟩ := untrustPeer_found named found
        constructor
        · intro unchanged _ other inside
          obtain rfl : entry = other := Option.some.inj (found.symm.trans inside)
          refine accepted.mp ?_
          cases answer : (files.untrustPeer host).1 with
          | ok okay => exact ⟨okay, rfl⟩
          | error reason =>
              have same := unchanged _ (.untrust (Prod.ext answer rfl))
              have kept := erased.symm.trans (congrArg TrustFiles.allowlist same)
              exact absurd kept (eraseP_ne_self found)
        · rintro first after (_ | refused)
          obtain ⟨okay, accepts⟩ := accepted.mpr (first named entry found)
          exact absurd (accepts.symm.trans (congrArg Prod.fst refused)) nofun

end

section

/-! ## What a sequence of requests has entered -/

variable {files : TrustFiles} {command : PeerTrustBundle}

theorem find?_trustPeer (host : ByteString) :
    (files.trustPeer command).2.allowlist.find? (·.host = host) =
      (lastEntered [command] host).or (files.allowlist.find? (·.host = host)) := by
  have entered (bundle : PeerTrustBundle) (checked : checkBundle command = .ok bundle)
      (updated : (files.trustPeer command).2.allowlist = (updateEntry bundle files.allowlist).1) :
      (files.trustPeer command).2.allowlist.find? (·.host = host) =
        (lastEntered [command] host).or (files.allowlist.find? (·.host = host)) := by
    have last : lastEntered [command] host = if bundle.host = host then some bundle else none := by
      rw [lastEntered, List.filterMap_cons, checked]
      change [bundle].find? _ = _
      rw [List.find?_singleton]
      simp
    rw [updated, find?_updateEntry, last]
    split <;> rfl
  rcases trustPeer_cases files command with ⟨reason, checked, answer⟩ |
    ⟨bundle, reason, checked, _, answer⟩ | ⟨bundle, body, checked, _, _, updated, _⟩
  · have last : lastEntered [command] host = none := by
      rw [lastEntered, List.filterMap_cons, checked]
      rfl
    rw [answer, last]
    rfl
  · exact entered bundle checked (congrArg (fun result => result.2.allowlist) answer)
  · exact entered bundle checked updated

theorem lastEntered_cons (command : PeerTrustBundle) (commands : List PeerTrustBundle)
    (host : ByteString) : lastEntered (command :: commands) host =
      (lastEntered commands host).or (lastEntered [command] host) := by
  unfold lastEntered
  rw [← List.singleton_append, List.filterMap_append, List.reverse_append, List.find?_append]

theorem find?_trustPeers (commands : List PeerTrustBundle) (host : ByteString) :
    (files.trustPeers commands).allowlist.find? (·.host = host) =
      (lastEntered commands host).or (files.allowlist.find? (·.host = host)) := by
  induction commands generalizing files with
  | nil => rfl
  | cons command commands ih =>
      have next : files.trustPeers (command :: commands) =
          (files.trustPeer command).2.trustPeers commands := rfl
      rw [next, ih, find?_trustPeer, lastEntered_cons command commands, Option.or_assoc]

theorem authorizedKeys_trustPeer_eq_none_iff : (files.trustPeer command).2.authorizedKeys = none ↔
    files.authorizedKeys = none ∧ ∀ bundle, checkBundle command = .ok bundle →
      keyBody bundle = none := by
  rcases trustPeer_cases files command with ⟨reason, checked, answer⟩ |
    ⟨bundle, reason, checked, bodiless, answer⟩ | ⟨bundle, body, checked, has, _, _, written⟩
  · rw [answer]
    refine (and_iff_left fun bundle entered => ?_).symm
    exact absurd (checked.symm.trans entered) nofun
  · rw [answer]
    refine (and_iff_left fun other entered => ?_).symm
    obtain rfl : bundle = other := Except.ok.inj (checked.symm.trans entered)
    exact bodiless
  · refine iff_of_false written fun both => ?_
    exact absurd (has.symm.trans (both.2 bundle checked)) nofun

theorem authorizedKeys_trustPeers_eq_none_iff (commands : List PeerTrustBundle) :
    (files.trustPeers commands).authorizedKeys = none ↔
      files.authorizedKeys = none ∧ ∀ command ∈ commands, ∀ bundle,
        checkBundle command = .ok bundle → keyBody bundle = none := by
  induction commands generalizing files with
  | nil => exact (and_iff_left fun _ none => absurd none List.not_mem_nil).symm
  | cons command commands ih =>
      have next : files.trustPeers (command :: commands) =
          (files.trustPeer command).2.trustPeers commands := rfl
      rw [next, ih, authorizedKeys_trustPeer_eq_none_iff, List.forall_mem_cons, and_assoc]

theorem checkBundle_named {bundle : PeerTrustBundle} (checked : checkBundle command = .ok bundle) :
    bundle.host ≠ [] := by
  unfold checkBundle at checked
  split at checked
  · cases checked
  case isFalse named =>
    split at checked
    · cases checked
    · split at checked
      · cases checked
      · cases accepted : normalizeAuthorizedKeyLine command.client_pubkey with
        | error reason =>
            rw [accepted] at checked
            cases checked
        | ok normalized =>
            rw [accepted] at checked
            obtain rfl := Except.ok.inj checked
            exact named

theorem lastEntered_named {commands : List PeerTrustBundle} {host : ByteString}
    {bundle : PeerTrustBundle} (last : lastEntered commands host = some bundle) : host ≠ [] := by
  have listed := List.mem_of_find?_eq_some last
  obtain ⟨command, _, checked⟩ := List.mem_filterMap.mp (List.mem_reverse.mp listed)
  have matching : decide (bundle.host = host) = true :=
    List.find?_some (p := fun entry : PeerTrustBundle => decide (entry.host = host)) last
  rw [← of_decide_eq_true matching]
  cases read : checkBundle command with
  | error reason =>
      rw [read] at checked
      cases checked
  | ok entered =>
      rw [read] at checked
      obtain rfl : entered = bundle := Option.some.inj checked
      exact checkBundle_named read

/-- **Refusals and removals.** A refused request changes nothing exactly if it is one that is refused
for what is checked first. A host that was entered by a sequence of requests can be untrusted
exactly if the key entered for it last has a body, or no file of authorized keys is there: there was
none, and no request had a key with a body. -/
theorem refusals_iff (files : TrustFiles) :
    (∀ request, (∀ after, Refuses files request after → after = files) ↔
      CheckedFirst files request) ∧
    ∀ commands host bundle, lastEntered commands host = some bundle →
      ((∃ okay, ((files.trustPeers commands).untrustPeer host).1 = .ok okay) ↔
        keyBody bundle ≠ none ∨ (files.authorizedKeys = none ∧ ∀ command ∈ commands,
          ∀ entered, checkBundle command = .ok entered → keyBody entered = none)) := by
  constructor
  · rintro (command | host)
    · exact trust_unchanged_iff files command
    · exact untrust_unchanged_iff files host
  · intro commands host bundle last
    have found : (files.trustPeers commands).allowlist.find? (·.host = host) = some bundle := by
      rw [find?_trustPeers, last]
      rfl
    rw [(untrustPeer_found (lastEntered_named last) found).2,
      authorizedKeys_trustPeers_eq_none_iff]

def peerWithoutBody : PeerTrustBundle where
  host := [97]
  ssh_user := [117]
  host_fingerprint_sha256 := [102]
  client_pubkey := [107]

/-- Trusting it is refused and enters it; untrusting it is refused too, with a file of authorized
keys there, and takes it out again. -/
theorem not_refusals :
    (¬ ∀ files request after, Refuses files request after → after = files) ∧
    ¬ ∀ (files : TrustFiles) commands host bundle, lastEntered commands host = some bundle →
      ∃ okay, ((files.trustPeers commands).untrustPeer host).1 = .ok okay := by
  constructor
  · intro always
    have refused : trustPeer ⟨[], none⟩ peerWithoutBody =
        (.error "Invalid public key format", ⟨[peerWithoutBody], none⟩) := by decide
    exact absurd (always _ _ _ (.trust refused)) (by decide)
  · intro always
    have last : lastEntered [peerWithoutBody] [97] = some peerWithoutBody := by decide
    obtain ⟨okay, accepted⟩ := always ⟨[], some []⟩ [peerWithoutBody] [97] peerWithoutBody last
    have refused : ((trustPeers ⟨[], some []⟩ [peerWithoutBody]).untrustPeer [97]).1 =
        .error "Invalid public key format" := by decide
    exact absurd (refused.symm.trans accepted) nofun

end

end TrustFiles

end DirtSim.OsManager
