import DirtSim.Foundation.Transition

/-! # Access from the network

The OS manager opens and closes the websockets and the web pages by remote calls, each of which can
fail, and keeps one flag for each. The call that closes the server again after a failure succeeds.
Telling peers is left out.
-/

namespace DirtSim.OsManager

open Foundation

section

/-- How a remote call fails: nobody answers, the command gets no answer, or it is refused. -/
inductive RemoteFailure
  | connect (reason : String)
  | response (reason : String)
  | inner (message : String)
deriving DecidableEq

/-- The outcome of a remote call, with the failure as the manager reports it. -/
def remoteCall (address command : String) : Option RemoteFailure → Except String Unit
  | none => .ok ()
  | some (.connect reason) => .error ("Failed to connect to " ++ address ++ ": " ++ reason)
  | some (.response reason) => .error (command ++ " failed: " ++ reason)
  | some (.inner message) => .error (command ++ " failed: " ++ message)

/-- The failures of the remote calls that one operation makes: each of them at most once. -/
structure RemoteFailures where
  serverAccess : Option RemoteFailure := none
  uiAccess : Option RemoteFailure := none
  serverWebUi : Option RemoteFailure := none
deriving DecidableEq

/-- What is open on the machine. -/
structure Exposure where
  serverAccess : Bool := false
  uiAccess : Bool := false
  serverWebUi : Bool := false
deriving DecidableEq

structure AccessManager where
  webSocketToken : String
  webUiEnabled : Bool := false
  webSocketEnabled : Bool := false
  remote : Exposure := {}
deriving DecidableEq

namespace AccessManager

/-- The answer to either operation. -/
structure Okay where
  enabled : Bool
  token : String
deriving DecidableEq

def setServerAccess (manager : AccessManager) (accessEnabled : Bool)
    (failure : Option RemoteFailure) : Except String Unit × AccessManager :=
  match remoteCall "server" "Server WebSocketAccessSet" failure with
  | .error reason => (.error reason, manager)
  | .ok () =>
      (.ok (), { manager with remote := { manager.remote with serverAccess := accessEnabled } })

def setUiAccess (manager : AccessManager) (accessEnabled : Bool)
    (failure : Option RemoteFailure) : Except String Unit × AccessManager :=
  match remoteCall "UI" "UI WebSocketAccessSet" failure with
  | .error reason => (.error reason, manager)
  | .ok () =>
      (.ok (), { manager with remote := { manager.remote with uiAccess := accessEnabled } })

/-- The part of `setWebUiAccess` behind the websockets' being open. -/
def setServerWebUi (manager : AccessManager) (enabled : Bool) (failures : RemoteFailures) :
    Except String Okay × AccessManager :=
  match remoteCall "server" "Server WebUiAccessSet" failures.serverWebUi with
  | .error reason => (.error reason, manager)
  | .ok () =>
      (.ok ⟨enabled, if manager.webSocketEnabled then manager.webSocketToken else ""⟩,
        { manager with
          webUiEnabled := enabled
          remote := { manager.remote with serverWebUi := enabled } })

/-- The part of `setWebSocketAccess` behind the web pages' being closed. -/
def setWebSockets (manager : AccessManager) (enabled : Bool) (failures : RemoteFailures) :
    Except String Okay × AccessManager :=
  match manager.setServerAccess enabled failures.serverAccess with
  | (.error reason, unchanged) => (.error reason, unchanged)
  | (.ok (), served) =>
      match served.setUiAccess enabled failures.uiAccess with
      | (.error reason, failed) =>
          -- only an opened server is closed again
          (.error reason, if enabled then (failed.setServerAccess false none).2 else failed)
      | (.ok (), opened) =>
          (.ok ⟨enabled, if enabled then manager.webSocketToken else ""⟩,
            { opened with webSocketEnabled := enabled })

/-- The web pages are closed with `setWebUiAccess false`, which leaves the websockets alone. -/
def setWebSocketAccess (manager : AccessManager) (enabled : Bool) (failures : RemoteFailures) :
    Except String Okay × AccessManager :=
  if !enabled && manager.webUiEnabled then
    match manager.setServerWebUi false failures with
    | (.error reason, unchanged) => (.error reason, unchanged)
    | (.ok _, closed) => closed.setWebSockets enabled failures
  else manager.setWebSockets enabled failures

def setWebUiAccess (manager : AccessManager) (enabled : Bool) (failures : RemoteFailures) :
    Except String Okay × AccessManager :=
  if enabled && !manager.webSocketEnabled then
    match manager.setWebSocketAccess true failures with
    | (.error reason, failed) => (.error reason, failed)
    | (.ok _, opened) => opened.setServerWebUi enabled failures
  else manager.setServerWebUi enabled failures

/-- An operation, with the pattern of failures it meets. -/
inductive Operation
  | webSocketAccess (enabled : Bool) (failures : RemoteFailures)
  | webUiAccess (enabled : Bool) (failures : RemoteFailures)
deriving DecidableEq

def perform (manager : AccessManager) : Operation → Except String Okay × AccessManager
  | .webSocketAccess enabled failures => manager.setWebSocketAccess enabled failures
  | .webUiAccess enabled failures => manager.setWebUiAccess enabled failures

def performed (manager : AccessManager) (operation : Operation) : Option AccessManager :=
  some (manager.perform operation).2

end AccessManager

end

namespace AccessManager

section

variable (manager : AccessManager) (enabled : Bool) {failures : RemoteFailures}
  {failure : RemoteFailure}

/-! ## What an operation leaves behind -/

theorem remoteCall_some (address command : String) (failure : RemoteFailure) :
    ∃ reason, remoteCall address command (some failure) = .error reason := by
  cases failure with
  | connect reason => exact ⟨_, rfl⟩
  | response reason => exact ⟨_, rfl⟩
  | inner message => exact ⟨_, rfl⟩

theorem setServerWebUi_failed (fails : failures.serverWebUi = some failure) :
    ∃ reason, manager.setServerWebUi enabled failures = (.error reason, manager) := by
  obtain ⟨reason, failed⟩ := remoteCall_some "server" "Server WebUiAccessSet" failure
  refine ⟨reason, ?_⟩
  rw [setServerWebUi, fails, failed]

theorem setServerWebUi_ok (answers : failures.serverWebUi = none) :
    manager.setServerWebUi enabled failures =
      (.ok ⟨enabled, if manager.webSocketEnabled then manager.webSocketToken else ""⟩,
        { manager with
          webUiEnabled := enabled
          remote := { manager.remote with serverWebUi := enabled } }) := by
  rw [setServerWebUi, answers]
  rfl

theorem setWebSockets_serverFailed (fails : failures.serverAccess = some failure) :
    ∃ reason, manager.setWebSockets enabled failures = (.error reason, manager) := by
  obtain ⟨reason, failed⟩ := remoteCall_some "server" "Server WebSocketAccessSet" failure
  refine ⟨reason, ?_⟩
  rw [setWebSockets, fails, setServerAccess, failed]

/-- Where the user interface fails, the server is closed afterwards: it was just closed, or it was
just opened and is closed again. -/
theorem setWebSockets_uiFailed (answers : failures.serverAccess = none)
    (fails : failures.uiAccess = some failure) :
    ∃ reason, manager.setWebSockets enabled failures =
      (.error reason, { manager with remote := { manager.remote with serverAccess := false } }) := by
  obtain ⟨reason, failed⟩ := remoteCall_some "UI" "UI WebSocketAccessSet" failure
  refine ⟨reason, ?_⟩
  have served : manager.setServerAccess enabled none =
      (.ok (), { manager with remote := { manager.remote with serverAccess := enabled } }) := rfl
  have refused (middle : AccessManager) :
      middle.setUiAccess enabled (some failure) = (.error reason, middle) := by
    rw [setUiAccess, failed]
  rw [setWebSockets, answers, fails, served]
  dsimp only
  rw [refused]
  cases enabled <;> rfl

theorem setWebSockets_ok (serverAnswers : failures.serverAccess = none)
    (uiAnswers : failures.uiAccess = none) :
    manager.setWebSockets enabled failures =
      (.ok ⟨enabled, if enabled then manager.webSocketToken else ""⟩,
        { manager with
          webSocketEnabled := enabled
          remote := { manager.remote with serverAccess := enabled, uiAccess := enabled } }) := by
  rw [setWebSockets, serverAnswers, uiAnswers]
  rfl

end

section

/-! ## The flags and what is open -/

variable {manager : AccessManager} {enabled : Bool} {failures : RemoteFailures}
variable {operation : Operation}

/-- The flags say what is open, and the web pages are open only behind open websockets. -/
structure Truthful (manager : AccessManager) : Prop where
  server : manager.webSocketEnabled = manager.remote.serverAccess
  ui : manager.webSocketEnabled = manager.remote.uiAccess
  webUi : manager.webUiEnabled = manager.remote.serverWebUi
  behind : manager.webUiEnabled = true → manager.webSocketEnabled = true

/-- After the operation the flags are truthful, and an error has changed nothing that is open. -/
def Honest (manager : AccessManager) (operation : Operation) : Prop :=
  (manager.perform operation).2.Truthful ∧
    ∀ reason, (manager.perform operation).1 = .error reason →
      (manager.perform operation).2.remote = manager.remote

/-- No remote call fails behind one that has changed something, unless that change is undone. The
server's websockets are undone by closing them, which is right if they were closed before. -/
def Settles (manager : AccessManager) : Operation → Prop
  | .webSocketAccess enabled failures =>
      (enabled = false → manager.webUiEnabled = true → failures.serverWebUi = none →
        failures.serverAccess = none) ∧
      (manager.webSocketEnabled = true →
        (enabled = false → manager.webUiEnabled = true → failures.serverWebUi = none) →
        failures.serverAccess = none → failures.uiAccess = none)
  | .webUiAccess enabled failures =>
      enabled = true → manager.webSocketEnabled = false → failures.serverAccess = none →
        failures.uiAccess = none → failures.serverWebUi = none

theorem honest_iff_of_eq {answer : Except String Okay} {after : AccessManager}
    (outcome : manager.perform operation = (answer, after)) :
    manager.Honest operation ↔
      after.Truthful ∧ ∀ reason, answer = .error reason → after.remote = manager.remote := by
  rw [Honest, outcome]

section

variable (truthful : manager.Truthful)
include truthful

theorem Truthful.honest_of_unchanged {reason : String}
    (outcome : manager.perform operation = (.error reason, manager)) : manager.Honest operation :=
  (honest_iff_of_eq outcome).mpr ⟨truthful, fun _ _ => rfl⟩

theorem Truthful.honest_webUiAccess_iff :
    manager.Honest (.webUiAccess enabled failures) ↔
      manager.Settles (.webUiAccess enabled failures) := by
  by_cases opens : (enabled && !manager.webSocketEnabled) = true
  · obtain ⟨rfl, closed⟩ : enabled = true ∧ manager.webSocketEnabled = false := by
      simpa only [Bool.and_eq_true, Bool.not_eq_true'] using opens
    have expand : manager.perform (.webUiAccess true failures) =
        match manager.setWebSockets true failures with
        | (.error reason, failed) => (.error reason, failed)
        | (.ok _, opened) => opened.setServerWebUi true failures := by
      rw [perform, setWebUiAccess, if_pos opens]
      rfl
    have serverClosed : false = manager.remote.serverAccess := closed.symm.trans truthful.server
    cases server : failures.serverAccess with
    | some failure =>
        obtain ⟨reason, failed⟩ := setWebSockets_serverFailed manager true server
        rw [failed] at expand
        refine iff_of_true (truthful.honest_of_unchanged expand) ?_
        intro _ _ answers
        exact absurd (server.symm.trans answers) nofun
    | none =>
        cases ui : failures.uiAccess with
        | some failure =>
            obtain ⟨reason, failed⟩ := setWebSockets_uiFailed manager true server ui
            -- the server was closed before, so that closing it undoes what was done
            rw [failed, serverClosed] at expand
            refine iff_of_true (truthful.honest_of_unchanged expand) ?_
            intro _ _ _ answers
            exact absurd (ui.symm.trans answers) nofun
        | none =>
            rw [setWebSockets_ok manager true server ui] at expand
            cases webUi : failures.serverWebUi with
            | some failure =>
                obtain ⟨reason, failed⟩ := setServerWebUi_failed
                  { manager with
                    webSocketEnabled := true
                    remote := { manager.remote with serverAccess := true, uiAccess := true } }
                  true webUi
                rw [honest_iff_of_eq (expand.trans failed)]
                refine iff_of_false ?_ fun settles => ?_
                · rintro ⟨_, unchanged⟩
                  have left_open := congrArg Exposure.serverAccess (unchanged reason rfl)
                  exact absurd (serverClosed.trans left_open.symm) nofun
                · exact absurd (webUi.symm.trans (settles rfl closed server ui)) nofun
            | none =>
                rw [honest_iff_of_eq (expand.trans (setServerWebUi_ok _ true webUi))]
                refine iff_of_true ⟨⟨rfl, rfl, rfl, fun _ => rfl⟩, nofun⟩ ?_
                exact fun _ _ _ _ => webUi
  · have expand : manager.perform (.webUiAccess enabled failures) =
        manager.setServerWebUi enabled failures := by
      rw [perform, setWebUiAccess, if_neg opens]
    have ready : enabled = true → manager.webSocketEnabled = true := by
      rintro rfl
      simpa only [Bool.true_and, Bool.not_eq_true', Bool.not_eq_false] using opens
    refine iff_of_true ?_ fun enables closed => ?_
    · cases webUi : failures.serverWebUi with
      | some failure =>
          obtain ⟨reason, failed⟩ := setServerWebUi_failed manager enabled webUi
          exact truthful.honest_of_unchanged (expand.trans failed)
      | none =>
          rw [honest_iff_of_eq (expand.trans (setServerWebUi_ok manager enabled webUi))]
          exact ⟨⟨truthful.server, truthful.ui, rfl, ready⟩, nofun⟩
    · exact absurd ((ready enables).symm.trans closed) nofun

theorem Truthful.honest_setWebSockets_iff (closed : enabled = false → manager.webUiEnabled = false)
    (expand : manager.perform operation = manager.setWebSockets enabled failures) :
    manager.Honest operation ↔
      (manager.webSocketEnabled = true → failures.serverAccess = none →
        failures.uiAccess = none) := by
  cases server : failures.serverAccess with
  | some failure =>
      obtain ⟨reason, failed⟩ := setWebSockets_serverFailed manager enabled server
      exact iff_of_true (truthful.honest_of_unchanged (expand.trans failed)) fun _ answers =>
        absurd answers nofun
  | none =>
      cases ui : failures.uiAccess with
      | some failure =>
          obtain ⟨reason, failed⟩ := setWebSockets_uiFailed manager enabled server ui
          rw [failed] at expand
          cases opened : manager.webSocketEnabled with
          | false =>
              have same : false = manager.remote.serverAccess := opened.symm.trans truthful.server
              rw [same] at expand
              exact iff_of_true (truthful.honest_of_unchanged expand) fun opens =>
                absurd opens nofun
          | true =>
              rw [honest_iff_of_eq expand]
              refine iff_of_false ?_ fun settles => absurd (settles rfl rfl) nofun
              rintro ⟨after, _⟩
              exact absurd (opened.symm.trans after.server) nofun
      | none =>
          rw [honest_iff_of_eq (expand.trans (setWebSockets_ok manager enabled server ui))]
          refine iff_of_true ⟨⟨rfl, rfl, truthful.webUi, fun shown => ?_⟩, nofun⟩ fun _ _ => rfl
          cases enabled with
          | false => exact absurd (shown.symm.trans (closed rfl)) nofun
          | true => rfl

theorem Truthful.honest_webSocketAccess_iff :
    manager.Honest (.webSocketAccess enabled failures) ↔
      manager.Settles (.webSocketAccess enabled failures) := by
  by_cases closes : (!enabled && manager.webUiEnabled) = true
  · obtain ⟨rfl, shown⟩ : enabled = false ∧ manager.webUiEnabled = true := by
      simpa only [Bool.and_eq_true, Bool.not_eq_true'] using closes
    have opened : manager.webSocketEnabled = true := truthful.behind shown
    have expand : manager.perform (.webSocketAccess false failures) =
        match manager.setServerWebUi false failures with
        | (.error reason, unchanged) => (.error reason, unchanged)
        | (.ok _, closed) => closed.setWebSockets false failures := by
      rw [perform, setWebSocketAccess, if_pos closes]
    cases webUi : failures.serverWebUi with
    | some failure =>
        obtain ⟨reason, failed⟩ := setServerWebUi_failed manager false webUi
        rw [failed] at expand
        refine iff_of_true (truthful.honest_of_unchanged expand) ⟨fun _ _ answers => ?_,
          fun _ answers => ?_⟩
        · exact absurd (webUi.symm.trans answers) nofun
        · exact absurd (webUi.symm.trans (answers rfl shown)) nofun
    | none =>
        rw [setServerWebUi_ok manager false webUi] at expand
        have shown' : true = manager.remote.serverWebUi := shown.symm.trans truthful.webUi
        cases server : failures.serverAccess with
        | some failure =>
            obtain ⟨reason, failed⟩ := setWebSockets_serverFailed
              { manager with
                webUiEnabled := false
                remote := { manager.remote with serverWebUi := false } }
              false server
            rw [honest_iff_of_eq (expand.trans failed)]
            refine iff_of_false ?_ fun settles => ?_
            · rintro ⟨_, unchanged⟩
              have left_closed := congrArg Exposure.serverWebUi (unchanged reason rfl)
              exact absurd (shown'.trans left_closed.symm) nofun
            · exact absurd (server.symm.trans (settles.1 rfl shown webUi)) nofun
        | none =>
            cases ui : failures.uiAccess with
            | some failure =>
                obtain ⟨reason, failed⟩ := setWebSockets_uiFailed
                  { manager with
                    webUiEnabled := false
                    remote := { manager.remote with serverWebUi := false } }
                  false server ui
                rw [honest_iff_of_eq (expand.trans failed)]
                refine iff_of_false ?_ fun settles => ?_
                · rintro ⟨after, _⟩
                  exact absurd (opened.symm.trans after.server) nofun
                · exact absurd (ui.symm.trans (settles.2 opened (fun _ _ => webUi) server)) nofun
            | none =>
                rw [honest_iff_of_eq (expand.trans (setWebSockets_ok _ false server ui))]
                refine iff_of_true ⟨⟨rfl, rfl, rfl, fun _ => ?_⟩, nofun⟩
                  ⟨fun _ _ _ => server, fun _ _ _ => ui⟩
                contradiction
  · have expand : manager.perform (.webSocketAccess enabled failures) =
        manager.setWebSockets enabled failures := by
      rw [perform, setWebSocketAccess, if_neg closes]
    have hidden : enabled = false → manager.webUiEnabled = false := by
      rintro rfl
      simpa only [Bool.not_false, Bool.true_and, Bool.not_eq_true] using closes
    rw [truthful.honest_setWebSockets_iff hidden expand]
    constructor
    · intro settles
      refine ⟨fun disables shown => ?_, fun opened _ => settles opened⟩
      exact absurd ((hidden disables).symm.trans shown) nofun
    · intro settles opened
      exact settles.2 opened fun disables shown =>
        absurd ((hidden disables).symm.trans shown) nofun

theorem Truthful.honest_iff (operation : Operation) :
    manager.Honest operation ↔ manager.Settles operation := by
  cases operation with
  | webSocketAccess enabled failures => exact truthful.honest_webSocketAccess_iff
  | webUiAccess enabled failures => exact truthful.honest_webUiAccess_iff

end

/-- **The flags tell the truth** in a run of operations exactly as long as every failure settles. -/
theorem honest_run_iff (truthful : manager.Truthful) (operations : List Operation) :
    AtEachStep performed Honest manager operations ↔
      AtEachStep performed Settles manager operations := by
  refine AtEachStep.congr Truthful (fun state operation _ known => known.honest_iff operation)
    ?_ truthful
  intro state operation next _ _ honest moved
  obtain rfl : (state.perform operation).2 = next := Option.some.inj moved
  exact honest.1

theorem truthful_fresh (webSocketToken : String) :
    Truthful { webSocketToken := webSocketToken } where
  server := rfl
  ui := rfl
  webUi := rfl
  behind shown := absurd shown nofun

/-- Opened, and opened again while the user interface does not answer. -/
def openedTwice : List Operation :=
  [.webSocketAccess true {}, .webSocketAccess true { uiAccess := some (.connect "timeout") }]

theorem honest_run_iff_openedTwice :
    AtEachStep performed Honest { webSocketToken := "token" } openedTwice ↔
      AtEachStep performed Settles { webSocketToken := "token" } openedTwice :=
  honest_run_iff (truthful_fresh "token") openedTwice

/-- The second attempt closes the server, and the manager takes it for open. -/
theorem not_honest_openedTwice :
    ¬ ∀ (manager : AccessManager) (operations : List Operation), manager.Truthful →
      AtEachStep performed Honest manager operations := by
  intro always
  have honest := always { webSocketToken := "token" } openedTwice (truthful_fresh "token")
  have second := (honest.2 _ rfl).1.1
  exact Bool.false_ne_true second.server.symm

end

end AccessManager

end DirtSim.OsManager
