import DirtSim.Evolution.GenomeMetadata
import DirtSim.Foundation.Transition
import Mathlib.Data.List.DropRight
import Mathlib.Data.List.Nodup

/-! # Peer trust

An allowlist of trusted peers, by host, and the authorized keys, by line. The two stay in step as
long as no trusted host is given a new key and no key is shared by two hosts when one of them is
untrusted (`SshAccess.matches_of_reachable`).
-/

namespace DirtSim.OsManager

open Foundation

section

def isTrimmed (character : UInt8) : Bool :=
  character = 32 || character = 9 || character = 13 || character = 10

def isSpace (character : UInt8) : Bool := character = 32 || (9 ≤ character && character ≤ 13)

def isControl (character : UInt8) : Bool := character < 32 || character = 127

def trimWhitespace (value : ByteString) : ByteString :=
  (value.dropWhile isTrimmed).rdropWhile isTrimmed

/-- The next word of a stream, and what follows it. -/
def readWord (stream : ByteString) : ByteString × ByteString :=
  (stream.dropWhile isSpace).span (!isSpace ·)

def extractKeyBody (publicKey : ByteString) : Except String ByteString :=
  let keyType := readWord publicKey
  let keyBody := readWord keyType.2
  if keyType.1 = [] ∨ keyBody.1 = [] then .error "Invalid public key format" else .ok keyBody.1

def normalizeAuthorizedKeyLine (publicKey : ByteString) : Except String ByteString :=
  let normalized := trimWhitespace publicKey
  if normalized = [] then .error "Client public key is required"
  else if normalized.any fun character =>
      character = 0 || character = 10 || character = 13 ||
        (isControl character && character ≠ 9) then
    .error "Client public key contains invalid control characters"
  else .ok normalized

/-- The body of the key on a line; blank lines, comments and single words have none. -/
def lineBody (line : ByteString) : Option ByteString :=
  let trimmed := trimWhitespace line
  if trimmed = [] ∨ trimmed.head? = some 35 then none else (extractKeyBody trimmed).toOption

end

structure PeerTrustBundle where
  host : ByteString
  ssh_user : ByteString := "dirtsim".toUTF8.toList
  ssh_port : UInt16 := 22
  host_fingerprint_sha256 : ByteString
  client_pubkey : ByteString
deriving DecidableEq

/-- The allowlist, and the lines of the authorized keys. -/
structure SshAccess where
  allowlist : List PeerTrustBundle
  lines : List ByteString
deriving DecidableEq

namespace TrustPeer

structure Okay where
  allowlist_updated : Bool
  authorized_key_added : Bool
deriving DecidableEq

end TrustPeer

namespace UntrustPeer

structure Okay where
  allowlist_removed : Bool
  authorized_key_removed : Bool
deriving DecidableEq

end UntrustPeer

namespace SshAccess

section

/-- Replaces the entry of a host, or adds one; says whether anything changed. -/
def updateEntry (bundle : PeerTrustBundle) : List PeerTrustBundle → List PeerTrustBundle × Bool
  | [] => ([bundle], true)
  | entry :: rest =>
      if entry.host = bundle.host then
        if entry ≠ bundle then (bundle :: rest, true) else (entry :: rest, false)
      else
        let updated := updateEntry bundle rest
        (entry :: updated.1, updated.2)

/-- The bundle as it is entered, or the reason why it is not. -/
def checkBundle (bundle : PeerTrustBundle) : Except String PeerTrustBundle :=
  if bundle.host = [] then .error "Host is required"
  else if bundle.host_fingerprint_sha256 = [] then .error "Host fingerprint is required"
  else if bundle.client_pubkey = [] then .error "Client public key is required"
  else (normalizeAuthorizedKeyLine bundle.client_pubkey).map fun client_pubkey =>
    { bundle with
      client_pubkey := client_pubkey
      ssh_user := if bundle.ssh_user = [] then "dirtsim".toUTF8.toList else bundle.ssh_user
      ssh_port := if bundle.ssh_port = 0 then 22 else bundle.ssh_port }

/-- Enters a peer and authorizes its key. The allowlist is saved before the key is looked at. -/
def trustPeer (access : SshAccess) (command : PeerTrustBundle) :
    Except String TrustPeer.Okay × SshAccess :=
  match checkBundle command with
  | .error reason => (.error reason, access)
  | .ok bundle =>
      let updated := updateEntry bundle access.allowlist
      let saved := { access with allowlist := updated.1 }
      match extractKeyBody bundle.client_pubkey with
      | .error reason => (.error reason, saved)
      | .ok keyBody =>
          let keyPresent := saved.lines.any fun line => lineBody line = some keyBody
          (.ok { allowlist_updated := updated.2, authorized_key_added := !keyPresent },
            if keyPresent then saved
            else { saved with lines := saved.lines ++ [bundle.client_pubkey] })

def untrustPeer (access : SshAccess) (host : ByteString) :
    Except String UntrustPeer.Okay × SshAccess :=
  if host = [] then (.error "Host is required", access)
  else match access.allowlist.find? (·.host = host) with
    | none => (.error "Peer not found in allowlist", access)
    | some removed =>
        let saved := { access with allowlist := access.allowlist.eraseP (·.host = host) }
        match extractKeyBody removed.client_pubkey with
        | .error reason => (.error reason, saved)
        | .ok keyBody =>
            let keyRemoved := saved.lines.any fun line => lineBody line = some keyBody
            (.ok { allowlist_removed := true, authorized_key_removed := keyRemoved },
              if keyRemoved then
                { saved with lines := saved.lines.filter (lineBody · ≠ some keyBody) }
              else saved)

inductive Request
  | trust (command : PeerTrustBundle)
  | untrust (host : ByteString)

/-- A request is accepted, with this outcome. -/
inductive Accepts (access : SshAccess) : Request → SshAccess → Prop
  | trust {command : PeerTrustBundle} {okay : TrustPeer.Okay} {after : SshAccess}
      (trusted : access.trustPeer command = (.ok okay, after)) :
      Accepts access (.trust command) after
  | untrust {host : ByteString} {okay : UntrustPeer.Okay} {after : SshAccess}
      (untrusted : access.untrustPeer host = (.ok okay, after)) :
      Accepts access (.untrust host) after

def machine (initial : List ByteString) : Machine Request SshAccess where
  initial access := access = { allowlist := [], lines := initial }
  step := Accepts

end

section

def keyBody (entry : PeerTrustBundle) : Option ByteString :=
  (extractKeyBody entry.client_pubkey).toOption

def countBody (lines : List ByteString) (body : ByteString) : ℕ :=
  lines.countP (lineBody · = some body)

def Occurs (lines : List ByteString) (body : ByteString) : Prop :=
  ∃ line ∈ lines, lineBody line = some body

instance (lines : List ByteString) (body : ByteString) : Decidable (Occurs lines body) :=
  inferInstanceAs (Decidable (∃ line ∈ lines, _))

/-- SSH access is what the allowlist says, apart from the initial lines. -/
structure Matches (initial : List ByteString) (access : SshAccess) : Prop where
  distinct : (access.allowlist.map PeerTrustBundle.host).Nodup
  present : ∀ entry ∈ access.allowlist, ∃ body, keyBody entry = some body ∧
    Occurs access.lines body
  trusted : ∀ body, Occurs access.lines body → ¬ Occurs initial body →
    ∃ entry ∈ access.allowlist, keyBody entry = some body
  once : ∀ body, countBody access.lines body ≤ max 1 (countBody initial body)
  kept : access.lines.filter (lineBody · = none) = initial.filter (lineBody · = none)

/-- A host that is trusted already keeps its key, or another one has the old key too or it was
there from the start; the new key is no comment, or there already. An untrusted host shares its
key with nobody. -/
def Careful (initial : List ByteString) (access : SshAccess) : Request → Prop
  | .trust command => ∀ bundle body, checkBundle command = .ok bundle →
      keyBody bundle = some body →
      (lineBody bundle.client_pubkey = some body ∨ Occurs access.lines body) ∧
        ∀ entry ∈ access.allowlist, entry.host = bundle.host → ∀ old, keyBody entry = some old →
          old = body ∨ Occurs initial old ∨
            ∃ other ∈ access.allowlist, other.host ≠ bundle.host ∧ keyBody other = some old
  | .untrust host => ∀ entry ∈ access.allowlist, entry.host = host →
      ∀ other ∈ access.allowlist, other.host ≠ host → keyBody other ≠ keyBody entry

end

section

/-! ## What a request does -/

variable {access after : SshAccess} {bundle : PeerTrustBundle} {allowlist : List PeerTrustBundle}
  {lines initial : List ByteString} {body : ByteString}
variable {entry : PeerTrustBundle}

theorem hosts_updateEntry :
    ((updateEntry bundle allowlist).1.map PeerTrustBundle.host) =
      if bundle.host ∈ allowlist.map PeerTrustBundle.host then
        allowlist.map PeerTrustBundle.host
      else allowlist.map PeerTrustBundle.host ++ [bundle.host] := by
  induction allowlist with
  | nil => rfl
  | cons entry rest ih =>
      unfold updateEntry
      by_cases same : entry.host = bundle.host
      · have listed : bundle.host ∈ (entry :: rest).map PeerTrustBundle.host :=
          List.mem_map.mpr ⟨entry, List.mem_cons_self, same⟩
        rw [if_pos same, if_pos listed]
        split <;> simp [same]
      · have listed : bundle.host ∈ (entry :: rest).map PeerTrustBundle.host ↔
            bundle.host ∈ rest.map PeerTrustBundle.host := by
          rw [List.map_cons, List.mem_cons]
          exact or_iff_right fun equal => same equal.symm
        rw [if_neg same]
        simp only [listed]
        rw [List.map_cons, ih, List.map_cons]
        split <;> rfl

section

variable (distinct : (allowlist.map PeerTrustBundle.host).Nodup)
include distinct

theorem nodup_updateEntry : ((updateEntry bundle allowlist).1.map PeerTrustBundle.host).Nodup := by
  rw [hosts_updateEntry]
  split
  case isTrue listed => exact distinct
  case isFalse fresh =>
      exact List.nodup_append.mpr ⟨distinct, List.nodup_singleton _, fun host member other here same =>
        fresh (List.mem_singleton.mp here ▸ same ▸ member)⟩

theorem mem_updateEntry :
    entry ∈ (updateEntry bundle allowlist).1 ↔
      entry = bundle ∨ (entry ∈ allowlist ∧ entry.host ≠ bundle.host) := by
  induction allowlist with
  | nil => simp [updateEntry]
  | cons first rest ih =>
      obtain ⟨fresh, distinct'⟩ := List.nodup_cons.mp distinct
      unfold updateEntry
      by_cases same : first.host = bundle.host
      · have others : ∀ other ∈ rest, other.host ≠ bundle.host := fun other member equal =>
          fresh (List.mem_map.mpr ⟨other, member, equal.trans same.symm⟩)
        have replaced : (if first ≠ bundle then (bundle :: rest, true) else (first :: rest, false)).1
            = bundle :: rest := by
          split
          case isTrue differs => rfl
          case isFalse equal => rw [not_not.mp equal]
        rw [if_pos same, replaced, List.mem_cons, List.mem_cons]
        refine or_congr_right ⟨fun member => ⟨Or.inr member, others entry member⟩, ?_⟩
        rintro ⟨rfl | member, other⟩
        · exact absurd same other
        · exact member
      · rw [if_neg same, List.mem_cons, ih distinct', List.mem_cons, or_and_right, or_left_comm]
        refine or_congr_right (or_congr_left ⟨fun equal => ⟨equal, equal ▸ same⟩, And.left⟩)

theorem mem_eraseP {host : ByteString} :
    entry ∈ allowlist.eraseP (·.host = host) ↔
      entry ∈ allowlist ∧ entry.host ≠ host := by
  induction allowlist with
  | nil => simp
  | cons first rest ih =>
      obtain ⟨fresh, distinct'⟩ := List.nodup_cons.mp distinct
      by_cases same : first.host = host
      · have others : ∀ other ∈ rest, other.host ≠ host := fun other member equal =>
          fresh (List.mem_map.mpr ⟨other, member, equal.trans same.symm⟩)
        rw [List.eraseP_cons_of_pos (p := fun other : PeerTrustBundle => decide (other.host = host))
          (decide_eq_true same), List.mem_cons, or_and_right]
        refine ⟨fun member => Or.inr ⟨member, others entry member⟩, ?_⟩
        rintro (⟨rfl, other⟩ | kept)
        · exact absurd same other
        · exact kept.1
      · have differs : ¬ decide (first.host = host) = true := fun equal =>
          same (of_decide_eq_true equal)
        rw [List.eraseP_cons_of_neg (p := fun other : PeerTrustBundle => decide (other.host = host)) differs,
          List.mem_cons, ih distinct', List.mem_cons, or_and_right]
        exact or_congr_left ⟨fun equal => ⟨equal, equal ▸ same⟩, And.left⟩

end

theorem any_lineBody :
    (lines.any fun line => lineBody line = some body) = true ↔ Occurs lines body := by
  rw [List.any_eq_true]
  exact exists_congr fun line => and_congr_right fun _ => decide_eq_true_iff

theorem keyBody_of_extractKeyBody (extracted : extractKeyBody entry.client_pubkey = .ok body) :
    keyBody entry = some body := by
  rw [keyBody, extracted]
  rfl

theorem trustPeer_ok {command : PeerTrustBundle} {okay : TrustPeer.Okay}
    (trusted : access.trustPeer command = (.ok okay, after)) :
    ∃ bundle body, checkBundle command = .ok bundle ∧ keyBody bundle = some body ∧
      after.allowlist = (updateEntry bundle access.allowlist).1 ∧
      after.lines = if Occurs access.lines body then access.lines
        else access.lines ++ [bundle.client_pubkey] := by
  unfold trustPeer at trusted
  cases checked : checkBundle command with
  | error reason =>
      rw [checked] at trusted
      cases trusted
  | ok bundle =>
      rw [checked] at trusted
      dsimp only at trusted
      cases extracted : extractKeyBody bundle.client_pubkey with
      | error reason =>
          rw [extracted] at trusted
          cases trusted
      | ok body =>
          rw [extracted] at trusted
          obtain ⟨_, rfl⟩ := Prod.mk.inj trusted
          refine ⟨bundle, body, rfl, keyBody_of_extractKeyBody extracted, ?_, ?_⟩
          · split <;> rfl
          · by_cases occurs : Occurs access.lines body
            · rw [if_pos (any_lineBody.mpr occurs), if_pos occurs]
            · rw [if_neg (mt any_lineBody.mp occurs), if_neg occurs]

theorem untrustPeer_ok {host : ByteString} {okay : UntrustPeer.Okay}
    (untrusted : access.untrustPeer host = (.ok okay, after)) :
    ∃ removed ∈ access.allowlist, ∃ body, removed.host = host ∧ keyBody removed = some body ∧
      after.allowlist = access.allowlist.eraseP (·.host = host) ∧
      after.lines = access.lines.filter (lineBody · ≠ some body) := by
  unfold untrustPeer at untrusted
  split at untrusted
  · cases untrusted
  · cases found : access.allowlist.find? (·.host = host) with
    | none =>
        rw [found] at untrusted
        cases untrusted
    | some removed =>
        rw [found] at untrusted
        dsimp only at untrusted
        have listed := List.mem_of_find?_eq_some found
        have matching : decide (removed.host = host) = true :=
          List.find?_some (p := fun entry : PeerTrustBundle => decide (entry.host = host)) found
        have same := of_decide_eq_true matching
        cases extracted : extractKeyBody removed.client_pubkey with
        | error reason =>
            rw [extracted] at untrusted
            cases untrusted
        | ok body =>
            rw [extracted] at untrusted
            obtain ⟨_, rfl⟩ := Prod.mk.inj untrusted
            refine ⟨removed, listed, body, same, keyBody_of_extractKeyBody extracted, ?_, ?_⟩
            · split <;> rfl
            · split
              case isTrue occurs => rfl
              case isFalse missing =>
                  refine (List.filter_eq_self.mpr fun line member => decide_eq_true ?_).symm
                  exact fun has => missing (any_lineBody.mpr ⟨line, member, has⟩)

end

section

/-! ## What stays in step -/

variable {access after : SshAccess} {initial : List ByteString}
variable {lines : List ByteString}

theorem matches_initial (initial : List ByteString) :
    Matches initial { allowlist := [], lines := initial } where
  distinct := List.nodup_nil
  present _ none := absurd none List.not_mem_nil
  trusted _ occurs missing := absurd occurs missing
  once _ := le_max_right _ _
  kept := rfl

theorem occurs_append {line body : ByteString} :
    Occurs (lines ++ [line]) body ↔ Occurs lines body ∨ lineBody line = some body := by
  unfold Occurs
  simp [or_and_right, exists_or]

theorem countBody_append (lines : List ByteString) (line body : ByteString) :
    countBody (lines ++ [line]) body =
      countBody lines body + if lineBody line = some body then 1 else 0 := by
  unfold countBody
  rw [List.countP_append, List.countP_singleton]
  simp

theorem countBody_eq_zero {body : ByteString} (missing : ¬ Occurs lines body) :
    countBody lines body = 0 :=
  List.countP_eq_zero.mpr fun line member has =>
    missing ⟨line, member, of_decide_eq_true has⟩

theorem occurs_trust {lines grown : List ByteString} {line body : ByteString}
    (added : grown = if Occurs lines body then lines else lines ++ [line])
    (active : lineBody line = some body ∨ Occurs lines body) (other : ByteString) :
    Occurs grown other ↔ Occurs lines other ∨ other = body := by
  rw [added]
  by_cases occurs : Occurs lines body
  · rw [if_pos occurs]
    exact (or_iff_left_of_imp fun same => same ▸ occurs).symm
  · rw [if_neg occurs, occurs_append, active.resolve_right occurs, Option.some.injEq]
    exact or_congr_right eq_comm

theorem occurs_untrust {body : ByteString} (other : ByteString) :
    Occurs (lines.filter (lineBody · ≠ some body)) other ↔ Occurs lines other ∧ other ≠ body := by
  constructor
  · rintro ⟨line, kept, has⟩
    obtain ⟨inside, differs⟩ := List.mem_filter.mp kept
    exact ⟨⟨line, inside, has⟩, fun equal => of_decide_eq_true differs (equal ▸ has)⟩
  · rintro ⟨⟨line, inside, has⟩, apart⟩
    refine ⟨line, List.mem_filter.mpr ⟨inside, decide_eq_true fun own => apart ?_⟩, has⟩
    exact Option.some.inj (has.symm.trans own)

section

variable (known : Matches initial access)
include known

theorem Matches.trust {command : PeerTrustBundle} {okay : TrustPeer.Okay}
    (trusted : access.trustPeer command = (.ok okay, after))
    (careful : Careful initial access (.trust command)) : Matches initial after := by
  obtain ⟨bundle, body, checked, read, entered, added⟩ := trustPeer_ok trusted
  obtain ⟨active, replaced⟩ := careful bundle body checked read
  have member (entry : PeerTrustBundle) :
      entry ∈ after.allowlist ↔
        entry = bundle ∨ (entry ∈ access.allowlist ∧ entry.host ≠ bundle.host) := by
    rw [entered]
    exact mem_updateEntry known.distinct
  have grows := occurs_trust added active
  refine ⟨?_, ?_, ?_, ?_, ?_⟩
  · rw [entered]
    exact nodup_updateEntry known.distinct
  · intro entry listed
    rcases (member entry).mp listed with rfl | ⟨earlier, _⟩
    · exact ⟨body, read, (grows body).mpr (Or.inr rfl)⟩
    · obtain ⟨other, has, occurs⟩ := known.present entry earlier
      exact ⟨other, has, (grows other).mpr (Or.inl occurs)⟩
  · intro other occurs missing
    rcases (grows other).mp occurs with earlier | rfl
    · obtain ⟨entry, listed, has⟩ := known.trusted other earlier missing
      by_cases same : entry.host = bundle.host
      · rcases replaced entry listed same other has with rfl | there | ⟨keeper, kept, apart, shares⟩
        · exact ⟨bundle, (member bundle).mpr (Or.inl rfl), read⟩
        · exact absurd there missing
        · exact ⟨keeper, (member keeper).mpr (Or.inr ⟨kept, apart⟩), shares⟩
      · exact ⟨entry, (member entry).mpr (Or.inr ⟨listed, same⟩), has⟩
    · exact ⟨bundle, (member bundle).mpr (Or.inl rfl), read⟩
  · intro other
    rw [added]
    split
    case isTrue occurs => exact known.once other
    case isFalse fresh =>
        rw [countBody_append]
        split
        case isTrue own =>
            have same : body = other :=
              Option.some.inj ((active.resolve_right fresh).symm.trans own)
            rw [← same, countBody_eq_zero fresh]
            exact le_max_left _ _
        case isFalse foreign => exact known.once other
  · rw [added]
    split
    case isTrue occurs => exact known.kept
    case isFalse fresh =>
        rw [List.filter_append, List.filter_singleton, active.resolve_right fresh,
          decide_eq_false (Option.some_ne_none body), cond_false, List.append_nil]
        exact known.kept

theorem Matches.untrust {host : ByteString} {okay : UntrustPeer.Okay}
    (untrusted : access.untrustPeer host = (.ok okay, after))
    (careful : Careful initial access (.untrust host)) : Matches initial after := by
  obtain ⟨removed, listed, body, same, read, erased, filtered⟩ := untrustPeer_ok untrusted
  have alone := careful removed listed same
  have member (entry : PeerTrustBundle) :
      entry ∈ after.allowlist ↔ entry ∈ access.allowlist ∧ entry.host ≠ host := by
    rw [erased]
    exact mem_eraseP known.distinct
  have shrinks (other : ByteString) :
      Occurs after.lines other ↔ Occurs access.lines other ∧ other ≠ body := by
    rw [filtered]
    exact occurs_untrust other
  refine ⟨?_, ?_, ?_, ?_, ?_⟩
  · rw [erased]
    exact known.distinct.sublist (List.eraseP_sublist.map _)
  · intro entry stays
    obtain ⟨earlier, apart⟩ := (member entry).mp stays
    obtain ⟨other, has, occurs⟩ := known.present entry earlier
    refine ⟨other, has, (shrinks other).mpr ⟨occurs, fun equal => ?_⟩⟩
    exact alone entry earlier apart (has.trans (equal ▸ read.symm))
  · intro other occurs missing
    obtain ⟨earlier, apart⟩ := (shrinks other).mp occurs
    obtain ⟨entry, inside, has⟩ := known.trusted other earlier missing
    refine ⟨entry, (member entry).mpr ⟨inside, fun here => apart ?_⟩, has⟩
    have equal : entry = removed :=
      List.inj_on_of_nodup_map known.distinct inside listed (here.trans same.symm)
    exact Option.some.inj (has.symm.trans (equal ▸ read))
  · intro other
    refine le_trans ?_ (known.once other)
    rw [filtered]
    exact List.filter_sublist.countP_le
  · rw [filtered, List.filter_filter, ← known.kept]
    refine List.filter_congr fun line _ => ?_
    cases lineBody line with
    | none => rfl
    | some other => rfl

theorem Matches.step {request : Request} (accepted : Accepts access request after)
    (careful : Careful initial access request) : Matches initial after := by
  cases accepted with
  | trust trusted => exact known.trust trusted careful
  | untrust untrusted => exact known.untrust untrusted careful

theorem Matches.careless {request : Request} (accepted : Accepts access request after)
    (careless : ¬ Careful initial access request) : ¬ Matches initial after := by
  intro matching
  refine careless ?_
  cases accepted with
  | trust trusted =>
      obtain ⟨bundle, body, checked, read, entered, added⟩ := trustPeer_ok trusted
      intro bundle' body' checked' read'
      obtain rfl : bundle = bundle' := Except.ok.inj (checked.symm.trans checked')
      obtain rfl : body = body' := Option.some.inj (read.symm.trans read')
      have member (entry : PeerTrustBundle) :
          entry ∈ after.allowlist ↔
            entry = bundle ∨ (entry ∈ access.allowlist ∧ entry.host ≠ bundle.host) := by
        rw [entered]
        exact mem_updateEntry known.distinct
      have active : lineBody bundle.client_pubkey = some body ∨ Occurs access.lines body := by
        by_contra inactive
        obtain ⟨commented, fresh⟩ := not_or.mp inactive
        obtain ⟨other, has, occurs⟩ := matching.present bundle ((member bundle).mpr (Or.inl rfl))
        obtain rfl : body = other := Option.some.inj (read.symm.trans has)
        rw [added, if_neg fresh, occurs_append] at occurs
        exact occurs.elim fresh commented
      refine ⟨active, fun entry listed same old has => ?_⟩
      obtain ⟨old', has', occurs⟩ := known.present entry listed
      obtain rfl : old = old' := Option.some.inj (has.symm.trans has')
      refine or_iff_not_imp_left.mpr fun differs => or_iff_not_imp_left.mpr fun missing => ?_
      have still := (occurs_trust added active old).mpr (Or.inl occurs)
      obtain ⟨keeper, stays, shares⟩ := matching.trusted old still missing
      rcases (member keeper).mp stays with rfl | ⟨kept, apart⟩
      · exact absurd (Option.some.inj (shares.symm.trans read)) differs
      · exact ⟨keeper, kept, apart, shares⟩
  | untrust untrusted =>
      obtain ⟨removed, listed, body, same, read, erased, filtered⟩ := untrustPeer_ok untrusted
      intro entry inside here other earlier apart shares
      have equal : entry = removed :=
        List.inj_on_of_nodup_map known.distinct inside listed (here.trans same.symm)
      have stays : other ∈ after.allowlist := by
        rw [erased]
        exact (mem_eraseP known.distinct).mpr ⟨earlier, apart⟩
      obtain ⟨shared, has, occurs⟩ := matching.present other stays
      rw [filtered, occurs_untrust] at occurs
      exact occurs.2 (Option.some.inj (has.symm.trans (shares.trans (equal ▸ read))))

end

end

section

/-! ## Runs of accepted requests -/

/-- **SSH access follows the allowlist in every run of careful requests**, and a careless one
breaks it. -/
theorem matches_of_reachable (initial : List ByteString) {access : SshAccess}
    (reachable : ((machine initial).guarded (Careful initial)).Reachable access) :
    Matches initial access ∧ ∀ request after, Accepts access request after →
      (Matches initial after ↔ Careful initial access request) := by
  have known : Matches initial access := by
    refine reachable.invariant ?_ ?_
    · rintro start rfl
      exact matches_initial initial
    · rintro earlier request later known ⟨accepted, careful⟩
      exact known.step accepted careful
  exact ⟨known, fun request after accepted =>
    ⟨fun matching => not_not.mp fun careless => known.careless accepted careless matching,
      known.step accepted⟩⟩

def greeting : ByteString := [35, 32, 104, 105]

/-- A peer `a` with the key line `k` and a body of one byte. -/
def peerWithKey (body : UInt8) : PeerTrustBundle where
  host := [97]
  ssh_user := [117]
  host_fingerprint_sha256 := [102]
  client_pubkey := [107, 32, body]

theorem matches_of_reachable_untrusted :
    Matches [greeting] { allowlist := [], lines := [greeting] } ∧
      ∀ request after, Accepts { allowlist := [], lines := [greeting] } request after →
        (Matches [greeting] after ↔
          Careful [greeting] { allowlist := [], lines := [greeting] } request) := by
  have trusted : trustPeer { allowlist := [], lines := [greeting] } (peerWithKey 49) =
      (.ok ⟨true, true⟩, { allowlist := [peerWithKey 49], lines := [greeting, [107, 32, 49]] }) := by
    decide
  have untrusted :
      untrustPeer { allowlist := [peerWithKey 49], lines := [greeting, [107, 32, 49]] } [97] =
        (.ok ⟨true, true⟩, { allowlist := [], lines := [greeting] }) := by
    decide
  refine matches_of_reachable [greeting] ⟨{ allowlist := [], lines := [greeting] },
    [.trust (peerWithKey 49), .untrust [97]], rfl,
    .cons ⟨.trust trusted, ?_⟩ (.cons ⟨.untrust untrusted, ?_⟩ (.nil _))⟩
  · intro bundle body checked read
    obtain rfl : peerWithKey 49 = bundle := Except.ok.inj checked
    refine ⟨Or.inl ?_, fun entry none => absurd none List.not_mem_nil⟩
    obtain rfl : [49] = body := Option.some.inj read
    decide
  · show ∀ entry ∈ [peerWithKey 49], _
    decide

/-- A trusted peer is given a new key: the old one still opens the account, but no entry has it. -/
theorem not_matches_of_reachable :
    ¬ ∀ initial access, (machine initial).Reachable access → Matches initial access := by
  intro always
  have trusted : trustPeer { allowlist := [], lines := [] } (peerWithKey 49) =
      (.ok ⟨true, true⟩, { allowlist := [peerWithKey 49], lines := [[107, 32, 49]] }) := by
    decide
  have replaced : trustPeer { allowlist := [peerWithKey 49], lines := [[107, 32, 49]] }
      (peerWithKey 50) = (.ok ⟨true, true⟩,
        { allowlist := [peerWithKey 50], lines := [[107, 32, 49], [107, 32, 50]] }) := by
    decide
  have known := always [] _ ⟨_, [.trust (peerWithKey 49), .trust (peerWithKey 50)], rfl,
    .cons (.trust trusted) (.cons (.trust replaced) (.nil _))⟩
  obtain ⟨entry, listed, has⟩ := known.trusted [49] (by decide) (by decide)
  obtain rfl := List.mem_singleton.mp listed
  exact absurd has (by decide)

end

end SshAccess

end DirtSim.OsManager
