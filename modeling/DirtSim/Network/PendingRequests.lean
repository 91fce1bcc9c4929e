import DirtSim.Foundation.Dict
import DirtSim.Foundation.Transition

/-! # Requests that wait for their answers

A request is entered under its id, sent, and waits; message handlers, any number of them at a time,
look up the id of an answer and fill it in. A request returns an answer that came under its id, and
no two requests return one answer, whatever the peers send (`answers_of_reachable`). A handler takes
the mutex of the request while it holds that of the table, and a requester that has woken takes them
the other way round (`canReturn_iff`).
-/

namespace DirtSim

open Foundation

namespace WebSocketService

def isResponseMessageType (messageType : String) : Bool :=
  "_response".toList.isSuffixOf messageType.toList

/-- What a peer sends: an envelope, or a text whose JSON has a number as its id. -/
inductive Message
  | binary (id : UInt64) (messageType : String) (payload : List UInt8)
  | text (id : UInt64) (message : String)

def Message.id : Message → UInt64
  | .binary id _ _ | .text id _ => id

def Message.isBinary : Message → Bool
  | .binary _ _ _ => true
  | .text _ _ => false

/-- The messages that the handlers route to a pending request. -/
def Message.isAnswer : Message → Bool
  | .binary id messageType _ => id > 0 && isResponseMessageType messageType
  | .text _ _ => true

/-- A call of `sendBinaryAndReceive`, or of `sendJsonAndReceive`. -/
structure Call where
  id : UInt64
  isBinary : Bool

/-- Where a call is. From `woken` until it returns it holds the mutex of its request. -/
inductive Phase
  | called
  | entered
  | sendFailed (error : String)
  | waiting
  | woken (received : Bool)
  | erased (received : Bool)
  /-- With the number of the message that is returned. -/
  | returned (result : Except String ℕ)

/-- The phases in which the table may lead to a request. -/
def Phase.Listed : Phase → Prop
  | .entered | .sendFailed _ | .waiting | .woken _ => True
  | .called | .erased _ | .returned _ => False

/-- The call has taken its request from the table. -/
def Phase.Out : Phase → Prop
  | .erased _ | .returned _ => True
  | _ => False

/-- The pending requests of a service. Calls and messages go by their numbers. -/
structure Requests where
  pendingRequests : Dict UInt64 ℕ := ∅
  /-- What has been filled into the request of a call. -/
  response : ℕ → Option ℕ := fun _ => none
  phase : ℕ → Phase := fun _ => .called
  /-- The messages whose handler has looked at the table. -/
  handled : List ℕ := []
  /-- The message whose handler holds the table's mutex, and the request it has found. -/
  filling : Option (ℕ × ℕ) := none

inductive Action
  | enter (call : ℕ)
  | send (call : ℕ) (error : Option String)
  | giveUp (call : ℕ)
  | wake (call : ℕ)
  | erase (call : ℕ)
  | finish (call : ℕ)
  | lookUp (message : ℕ)
  | fill

namespace Requests

def moveTo (state : Requests) (call : ℕ) (phase : Phase) : Requests :=
  { state with phase := Function.update state.phase call phase }

theorem moveTo_self (state : Requests) (call : ℕ) (phase : Phase) :
    (state.moveTo call phase).phase call = phase := Function.update_self ..

@[simp] theorem moveTo_phase (state : Requests) (call other : ℕ) (phase : Phase) :
    (state.moveTo call phase).phase other = if other = call then phase else state.phase other := by
  simp [moveTo, Function.update_apply]

section

variable (calls : ℕ → Call) (messages : ℕ → Message)

/-- What a call returns once its request has been erased. -/
def result (call : Call) (received : Bool) (response : Option ℕ) : Except String ℕ :=
  match received, response with
  | true, some message =>
      if (messages message).isBinary = call.isBinary then .ok message
      else if call.isBinary then .error "Received text response when expecting binary"
      else .error "Received binary response when expecting text"
  | _, _ => .error "Response timeout"

/-- One access of a thread to what the threads share. A wait ends by notification or by timeout
at any time; it has received an answer when one is there by then. -/
inductive Step (state : Requests) : Action → Requests → Prop
  | enter {i : ℕ} (phase : state.phase i = .called) (free : state.filling = none) :
      Step state (.enter i)
        { state.moveTo i .entered with
          pendingRequests := state.pendingRequests.insert (calls i).id i }
  | send {i : ℕ} (phase : state.phase i = .entered) (error : Option String) :
      Step state (.send i error) (state.moveTo i (error.elim .waiting .sendFailed))
  | giveUp {i : ℕ} {error : String} (phase : state.phase i = .sendFailed error)
      (free : state.filling = none) :
      Step state (.giveUp i)
        { state.moveTo i (.returned (.error error)) with
          pendingRequests := state.pendingRequests.erase (calls i).id }
  | wake {i : ℕ} (phase : state.phase i = .waiting) :
      Step state (.wake i) (state.moveTo i (.woken (state.response i).isSome))
  | erase {i : ℕ} {received : Bool} (phase : state.phase i = .woken received)
      (free : state.filling = none) :
      Step state (.erase i)
        { state.moveTo i (.erased received) with
          pendingRequests := state.pendingRequests.erase (calls i).id }
  | finish {i : ℕ} {received : Bool} (phase : state.phase i = .erased received) :
      Step state (.finish i)
        (state.moveTo i (.returned (result messages (calls i) received (state.response i))))
  | lookUp {n : ℕ} (unread : n ∉ state.handled) (answer : (messages n).isAnswer = true)
      (free : state.filling = none) :
      Step state (.lookUp n)
        { state with
          handled := n :: state.handled
          filling := (state.pendingRequests.lookup (messages n).id).map (Prod.mk n) }
  | fill {n i : ℕ} (filling : state.filling = some (n, i))
      (unlocked : ∀ received, state.phase i ≠ .woken received) :
      Step state .fill
        { state with
          response := Function.update state.response i (some n)
          filling := none }

/-- The threads, each taking its accesses in its own time. -/
def machine : Machine Action Requests where
  initial state := state = {}
  step := Step calls messages

/-- What the calls get back. -/
structure Answers (state : Requests) : Prop where
  own : ∀ i n, state.phase i = .returned (.ok n) → n ∈ state.handled ∧
    (messages n).isAnswer = true ∧ (messages n).id = (calls i).id ∧
      (messages n).isBinary = (calls i).isBinary
  once : ∀ i j n, state.phase i = .returned (.ok n) → state.phase j = .returned (.ok n) → i = j
  /-- A call that has returned has left the table. -/
  left : ∀ id i result, state.pendingRequests.lookup id = some i → state.phase i ≠ .returned result

/-- What holds of table, messages and responses between two accesses. -/
structure Sound (state : Requests) : Prop where
  handled : ∀ n ∈ state.handled, (messages n).isAnswer = true
  response : ∀ i n, state.response i = some n → n ∈ state.handled ∧
    (messages n).id = (calls i).id
  once : ∀ i j n, state.response i = some n → state.response j = some n → i = j
  returned : ∀ i n, state.phase i = .returned (.ok n) → state.response i = some n ∧
    (messages n).isBinary = (calls i).isBinary
  table : ∀ id i, state.pendingRequests.lookup id = some i → (calls i).id = id ∧
    (state.phase i).Listed
  filling : ∀ n i, state.filling = some (n, i) → n ∈ state.handled ∧
    (∀ j, state.response j ≠ some n) ∧ (messages n).id = (calls i).id ∧ (state.phase i).Listed

end

variable {calls : ℕ → Call} {messages : ℕ → Message} {state before after : Requests}
  {action : Action} {i : ℕ}

theorem result_eq_ok {call : Call} {received : Bool} {response : Option ℕ} {n : ℕ}
    (ok : result messages call received response = .ok n) :
    response = some n ∧ (messages n).isBinary = call.isBinary := by
  unfold result at ok
  split at ok
  · split at ok
    · cases ok
      exact ⟨rfl, ‹_›⟩
    · split at ok <;> cases ok
  · cases ok

theorem listed_moveTo {phase : Phase} {j : ℕ} (stays : (state.phase i).Listed → phase.Listed)
    (listed : (state.phase j).Listed) : ((state.moveTo i phase).phase j).Listed := by
  by_cases here : j = i
  · subst here
    simpa using stays listed
  · simpa [here] using listed

/-- A call moves on, and the table may change. -/
theorem Sound.moveTo (sound : Sound calls messages state) {phase : Phase} {table : Dict UInt64 ℕ}
    (result : ∀ n, phase = .returned (.ok n) → state.response i = some n ∧
      (messages n).isBinary = (calls i).isBinary)
    (leads : ∀ id j, table.lookup id = some j → (calls j).id = id ∧
      ((state.moveTo i phase).phase j).Listed)
    (stays : state.filling = none ∨ ((state.phase i).Listed → phase.Listed)) :
    Sound calls messages { state.moveTo i phase with pendingRequests := table } := by
  refine ⟨sound.handled, sound.response, sound.once, ?_, leads, ?_⟩
  · intro j n returned
    by_cases here : j = i
    · subst here
      exact result n (by simpa using returned)
    · exact sound.returned j n (by simpa [here] using returned)
  · intro n j filling
    obtain ⟨read, unfilled, same, listed⟩ := sound.filling n j filling
    rcases stays with free | stays
    · cases free.symm.trans filling
    · exact ⟨read, unfilled, same, listed_moveTo stays listed⟩

/-- The table after a call that it leads to has moved on within it. -/
theorem Sound.table_moveTo (sound : Sound calls messages state) {phase : Phase}
    (stays : (state.phase i).Listed → phase.Listed) (id : UInt64) (j : ℕ)
    (leads : state.pendingRequests.lookup id = some j) :
    (calls j).id = id ∧ ((state.moveTo i phase).phase j).Listed := by
  obtain ⟨same, listed⟩ := sound.table id j leads
  exact ⟨same, listed_moveTo stays listed⟩

/-- Erasing its id takes a call from the table. -/
theorem Sound.table_erase (sound : Sound calls messages state) (phase : Phase) (id : UInt64)
    (j : ℕ) (leads : (state.pendingRequests.erase (calls i).id).lookup id = some j) :
    (calls j).id = id ∧ ((state.moveTo i phase).phase j).Listed := by
  rw [Dict.lookup_erase] at leads
  split at leads
  · cases leads
  · rename_i other
    obtain ⟨same, listed⟩ := sound.table id j leads
    have apart : j ≠ i := by
      rintro rfl
      exact other same.symm
    exact ⟨same, by simpa [apart] using listed⟩

theorem Sound.step (sound : Sound calls messages before)
    (moved : Step calls messages before action after) : Sound calls messages after := by
  cases moved with
  | enter phase free =>
      refine sound.moveTo (fun _ returned => by cases returned) (fun id j leads => ?_) (.inl free)
      rw [Dict.lookup_insert] at leads
      split at leads
      · rename_i same
        cases leads
        simpa [Phase.Listed] using same.symm
      · exact sound.table_moveTo (fun _ => by trivial) id j leads
  | send phase error =>
      have listed : (error.elim Phase.waiting Phase.sendFailed).Listed := by
        cases error <;> trivial
      refine sound.moveTo (fun _ returned => ?_) (sound.table_moveTo fun _ => listed)
        (.inr fun _ => listed)
      rw [returned] at listed
      cases listed
  | giveUp phase free =>
      exact sound.moveTo (fun _ returned => by cases returned) (sound.table_erase _) (.inl free)
  | wake phase =>
      refine sound.moveTo (fun _ returned => by cases returned) ?_ (.inr fun _ => trivial)
      exact sound.table_moveTo fun _ => trivial
  | erase phase free =>
      exact sound.moveTo (fun _ returned => by cases returned) (sound.table_erase _) (.inl free)
  | finish phase =>
      have gone : ∀ {next : Phase}, (before.phase _).Listed → next.Listed := fun listed => by
        rw [phase] at listed
        cases listed
      exact sound.moveTo (fun n returned => result_eq_ok (Phase.returned.inj returned))
        (sound.table_moveTo gone) (.inr gone)
  | lookUp unread answer free =>
      refine ⟨?_, ?_, sound.once, sound.returned, sound.table, ?_⟩
      · intro n member
        rcases List.mem_cons.mp member with rfl | old
        · exact answer
        · exact sound.handled n old
      · intro i n response
        exact (sound.response i n response).imp_left (List.mem_cons_of_mem _)
      · intro n i filling
        obtain ⟨j, leads, same⟩ := Option.map_eq_some_iff.mp filling
        cases same
        obtain ⟨same, listed⟩ := sound.table _ _ leads
        exact ⟨List.mem_cons_self, fun j response => unread (sound.response j _ response).1,
          same.symm, listed⟩
  | fill filling unlocked =>
      rename_i n i
      obtain ⟨read, unfilled, same, listed⟩ := sound.filling n i filling
      refine ⟨sound.handled, ?_, ?_, ?_, sound.table, fun _ _ nothing => by cases nothing⟩
      · intro j m response
        by_cases here : j = i
        · subst here
          cases (by simpa using response : n = m)
          exact ⟨read, same⟩
        · exact sound.response j m (by simpa [here] using response)
      · intro j k m first second
        by_cases here : j = i <;> by_cases there : k = i
        · exact here.trans there.symm
        · cases (by simpa [here] using first : n = m)
          exact absurd (by simpa [there] using second) (unfilled k)
        · cases (by simpa [there] using second : n = m)
          exact absurd (by simpa [here] using first) (unfilled j)
        · exact sound.once j k m (by simpa [here] using first) (by simpa [there] using second)
      · intro j m returned
        have apart : j ≠ i := by
          rintro rfl
          rw [returned] at listed
          cases listed
        simpa [apart] using sound.returned j m returned

theorem sound_of_reachable (reached : (machine calls messages).Reachable state) :
    Sound calls messages state := by
  apply reached.invariant
  · rintro _ rfl
    constructor <;> simp
  · intro before action after sound moved
    exact sound.step moved

/-- **Answers.** In every run a call returns only an answer that came in under its id and is of its
kind, no two calls return one message, and a call that has returned has left the table. -/
theorem answers_of_reachable (reached : (machine calls messages).Reachable state) :
    Answers calls messages state := by
  have sound := sound_of_reachable reached
  refine ⟨?_, ?_, ?_⟩
  · intro i n returned
    obtain ⟨response, kind⟩ := sound.returned i n returned
    obtain ⟨read, same⟩ := sound.response i n response
    exact ⟨read, sound.handled n read, same, kind⟩
  · intro i j n first second
    exact sound.once i j n (sound.returned i n first).1 (sound.returned j n second).1
  · intro id i result leads returned
    have listed := (sound.table id i leads).2
    rw [returned] at listed
    cases listed

/-- One binary call, and a message that answers it. -/
def exchange : Machine Action Requests :=
  machine (fun _ => ⟨1, true⟩) fun _ => .binary 1 "StatusGet_response" []

/-- The call waits, and the handler of the message has found it. -/
theorem reachable_found : ∃ state, exchange.Reachable state ∧ state.phase 0 = .waiting ∧
    state.filling = some (0, 0) := by
  have started : exchange.Reachable {} := ⟨{}, [], rfl, .nil _⟩
  have entered := started.step (Step.enter (i := 0) rfl rfl)
  have sent := entered.step (Step.send (i := 0) rfl none)
  have found := sent.step (Step.lookUp (n := 0) List.not_mem_nil (by decide) rfl)
  exact ⟨_, found, rfl, rfl⟩

theorem answers_exchange : ∃ state, state.phase 0 = .returned (.ok 0) ∧
    Answers (fun _ => ⟨1, true⟩) (fun _ => .binary 1 "StatusGet_response" []) state := by
  obtain ⟨state, found, waiting, filling⟩ := reachable_found
  have filled := found.step (Step.fill filling (by simp [waiting]))
  have woken := filled.step (Step.wake waiting)
  have erased := woken.step (Step.erase (i := 0) rfl rfl)
  have finished := erased.step (Step.finish (i := 0) rfl)
  exact ⟨_, rfl, answers_of_reachable finished⟩

/-! ## Calls that never return -/

/-- A handler has found a request, and its requester has woken before it was filled in. -/
def Blocked (state : Requests) (i : ℕ) : Prop :=
  ∃ n received, state.filling = some (n, i) ∧ state.phase i = .woken received

/-- While a request is blocked, no call takes its request from the table. -/
theorem Blocked.step (blocked : before.Blocked i) (moved : Step calls messages before action after) :
    after.Blocked i ∧ ∀ j, ¬ (before.phase j).Out → ¬ (after.phase j).Out := by
  obtain ⟨n, received, held, asleep⟩ := blocked
  have moves : ∀ {k : ℕ} {phase : Phase}, (∀ received, before.phase k ≠ .woken received) →
      (phase.Out → (before.phase k).Out) → (before.moveTo k phase).Blocked i ∧
        ∀ j, ¬ (before.phase j).Out → ¬ ((before.moveTo k phase).phase j).Out := by
    intro k phase other stays
    refine ⟨⟨n, received, held, ?_⟩, fun j inside => ?_⟩
    · have apart : i ≠ k := fun same => other received (same ▸ asleep)
      simpa [apart] using asleep
    · by_cases here : j = k
      · subst here
        simpa using fun out => inside (stays out)
      · simpa [here] using inside
  cases moved with
  | enter phase free => cases held.symm.trans free
  | send phase error => exact moves (by simp [phase]) (by cases error <;> simp [Phase.Out])
  | giveUp phase free => cases held.symm.trans free
  | wake phase => exact moves (by simp [phase]) (by simp [Phase.Out])
  | erase phase free => cases held.symm.trans free
  | finish phase => exact moves (by simp [phase]) (by simp [phase, Phase.Out])
  | lookUp unread answer free => cases held.symm.trans free
  | fill filling unlocked =>
      cases held.symm.trans filling
      exact absurd asleep (unlocked received)

/-- Some run goes on from here in which the call returns. -/
def CanReturn (calls : ℕ → Call) (messages : ℕ → Message) (state : Requests) (i : ℕ) : Prop :=
  ∃ actions after result, (machine calls messages).Run state actions after ∧
    after.phase i = .returned result

theorem CanReturn.step (moved : Step calls messages before action after)
    (returns : CanReturn calls messages after i) : CanReturn calls messages before i := by
  obtain ⟨actions, last, result, run, returned⟩ := returns
  exact ⟨action :: actions, last, result, .cons moved run, returned⟩

/-- While no handler holds the table, a call returns when it is left to run. -/
theorem canReturn_of_free (free : state.filling = none) : CanReturn calls messages state i := by
  have returned {state : Requests} {result : Except String ℕ}
      (phase : state.phase i = .returned result) : CanReturn calls messages state i :=
    ⟨[], state, result, .nil state, phase⟩
  have erased {state : Requests} {received : Bool} (phase : state.phase i = .erased received) :
      CanReturn calls messages state i := .step (.finish phase) (returned (moveTo_self ..))
  have woken {state : Requests} {received : Bool} (free : state.filling = none)
      (phase : state.phase i = .woken received) : CanReturn calls messages state i :=
    .step (.erase phase free) (erased (moveTo_self ..))
  have waiting {state : Requests} (free : state.filling = none) (phase : state.phase i = .waiting) :
      CanReturn calls messages state i := .step (.wake phase) (woken free (moveTo_self ..))
  have entered {state : Requests} (free : state.filling = none) (phase : state.phase i = .entered) :
      CanReturn calls messages state i := .step (.send phase none) (waiting free (moveTo_self ..))
  cases phase : state.phase i with
  | called => exact .step (.enter phase free) (entered free (moveTo_self ..))
  | entered => exact entered free phase
  | sendFailed error => exact .step (.giveUp phase free) (returned (moveTo_self ..))
  | waiting => exact waiting free phase
  | woken received => exact woken free phase
  | erased received => exact erased phase
  | returned result => exact returned phase

end Requests

end WebSocketService

end DirtSim
