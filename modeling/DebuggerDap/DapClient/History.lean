import DebuggerDap.DapClient.Replies
import DebuggerDap.Library.Run

/-!
# Histories of a client

The owner of a client calls its operations in any order while messages
arrive.  A session keeps the client and what has happened so far, newest
first; every transition remembers the client before and after it.

A handler that calls the client does so at the end of the operation that
dispatched its event, so its calls are the operations that follow.
-/

namespace DebuggerDap.DapClient.History

open DebuggerDap.Text.Strings
open DebuggerDap.Protocol.JsonTree
open DebuggerDap.Protocol.Messages
open DebuggerDap.DapClient.State
open DebuggerDap.DapClient.OnMessage
open DebuggerDap.DapClient.Replies
open DebuggerDap.DapClient.Sessions (performed sentRequests_sent)

variable {κ : Type*}

/-! ## Operations and transitions -/

inductive Operation (κ : Type*) where
  | reset
  | setTransport (transport : Nat)
  | initialize_ (initArgs : Option InitializeRequestArguments)
  | call (call : ApiCall κ)
  | message (json : Json)
  | connectionError

def operate
    (toolkit : Toolkit)
    (operation : Operation κ)
    (client : Client κ) : Client κ × List (Output κ) :=
  match operation with
  | .reset => (client.reset, [])
  | .setTransport transport => (client.setTransport transport, [])
  | .initialize_ initArgs => client.initialize_ toolkit initArgs
  | .call call => client.perform toolkit call
  | .message json => onMessage toolkit json client
  | .connectionError => client.onConnectionError

structure Transition (κ : Type*) where
  operation : Operation κ
  before : Client κ
  outputs : List (Output κ)
  after : Client κ

/-- A client with its history, newest first. -/
structure Session (κ : Type*) where
  client : Client κ
  history : List (Transition κ)

/-- A new client, to which nothing has happened. -/
def Session.new (κ : Type*) : Session κ :=
  ⟨Client.new κ, []⟩

/-- The transition an operation makes. -/
def transition
    (toolkit : Toolkit)
    (operation : Operation κ)
    (client : Client κ) : Transition κ where
  operation := operation
  before := client
  outputs := (operate toolkit operation client).2
  after := (operate toolkit operation client).1

def step
    (toolkit : Toolkit)
    (session : Session κ)
    (operation : Operation κ) : Option (Session κ) :=
  let made := transition toolkit operation session.client
  some ⟨made.after, made :: session.history⟩

/-! ## What a transition was -/

namespace Transition

/-- The event of an output, if it is one. -/
def eventOf : Output κ → Option EventMessage
  | .event event => some event.message
  | _ => none

/-- The events dispatched, in order. -/
def events (transition : Transition κ) : List EventMessage :=
  transition.outputs.filterMap eventOf

/-- `Reset` was called, by its owner or after the connection was lost. -/
def resets (transition : Transition κ) : Bool :=
  match transition.operation with
  | .reset => true
  | .setTransport _ => true
  | _ => decide (.lostConnection ∈ transition.events)

/-- `Reset` or `Initialize` was called. -/
def opens (transition : Transition κ) : Bool :=
  match transition.operation with
  | .initialize_ _ => true
  | _ => transition.resets

/-- A tree is read once to tell whether it is an initialize response. -/
instance (json : Json) : Decidable (InitializeReply json) :=
  match read : fromJson json with
  | some (.response response) =>
      decidable_of_iff (response.command = .initialize_)
        (by simp [InitializeReply, read])
  | some (.request command) => isFalse (by simp [InitializeReply, read])
  | some (.event event) => isFalse (by simp [InitializeReply, read])
  | none => isFalse (by simp [InitializeReply, read])

/-- An initialize response arrived. -/
def Answers (transition : Transition κ) : Prop :=
  match transition.operation with
  | .message json => InitializeReply json
  | _ => False

instance (transition : Transition κ) : Decidable transition.Answers :=
  match transition with
  | ⟨.message json, _, _, _⟩ =>
      inferInstanceAs (Decidable (InitializeReply json))
  | ⟨.reset, _, _, _⟩ => isFalse id
  | ⟨.setTransport _, _, _, _⟩ => isFalse id
  | ⟨.initialize_ _, _, _, _⟩ => isFalse id
  | ⟨.call _, _, _, _⟩ => isFalse id
  | ⟨.connectionError, _, _, _⟩ => isFalse id

end Transition

/--
No initialize response has arrived since the last `Reset` or `Initialize`.
A new client counts as reset.
-/
def Waiting : List (Transition κ) → Prop
  | [] => True
  | transition :: earlier =>
      transition.opens = true ∨ ¬ transition.Answers ∧ Waiting earlier

/-- Whether the client is waiting can be read off its history. -/
instance Waiting.decidable :
    ∀ history : List (Transition κ), Decidable (Waiting history)
  | [] => isTrue trivial
  | transition :: earlier =>
      haveI := Waiting.decidable earlier
      inferInstanceAs
        (Decidable
          (transition.opens = true ∨
            ¬ transition.Answers ∧ Waiting earlier))

/-! ## What the operations of a client leave alone -/

/-- The handshake, the features and the interaction are as before. -/
structure Kept
    (client : Client κ)
    (result : Client κ × List (Output κ)) : Prop where
  handshake : result.1.handshakeState = client.handshakeState
  features : result.1.features = client.features
  canInteract : result.1.canInteract = client.canInteract
  events :
    ∀ event ∈ result.2.filterMap Transition.eventOf, event = .logEvent

/-- The connection was lost and the client is reset. -/
structure Lost (result : Client κ × List (Output κ)) : Prop where
  transport : result.1.transport = none
  handshake : result.1.handshakeState = .notPerformed
  features : result.1.features = ∅
  canInteract : result.1.canInteract = false
  outputs : result.2 = [.event ⟨.lostConnection, none, []⟩]

theorem lost_onConnectionError (client : Client κ) :
    Lost client.onConnectionError :=
  ⟨rfl, rfl, rfl, rfl, rfl⟩

theorem events_logOutput (client : Client κ) (text : WxString) :
    ∀ event ∈ (client.logOutput text).filterMap Transition.eventOf,
      event = .logEvent := by
  unfold Client.logOutput
  split
  · exact fun event member => List.mem_singleton.mp member
  · exact fun event member => absurd member List.not_mem_nil

theorem kept_refl (client : Client κ) : Kept client (client, []) :=
  ⟨rfl, rfl, rfl, fun _ member => absurd member List.not_mem_nil⟩

section Sending

variable {client prepared : Client κ}
variable (handshake : prepared.handshakeState = client.handshakeState)
variable (features : prepared.features = client.features)
variable (canInteract : prepared.canInteract = client.canInteract)

include handshake features canInteract

theorem sendRequest_effect (toolkit : Toolkit) (request : Request) :
    Kept client (prepared.sendRequest toolkit request) ∨
      Lost (prepared.sendRequest toolkit request) := by
  unfold Client.sendRequest
  split
  · exact Or.inl
      ⟨handshake, features, canInteract, events_logOutput prepared _⟩
  · exact Or.inr (lost_onConnectionError prepared)

theorem request_effect (toolkit : Toolkit) (body : RequestBody) :
    Kept client (prepared.request toolkit body) ∨
      Lost (prepared.request toolkit body) := by
  let numbered := prepared.nextSequence
  have sameHandshake : numbered.handshakeState = client.handshakeState :=
    handshake
  exact sendRequest_effect sameHandshake features canInteract toolkit _

theorem requestTwice_effect (toolkit : Toolkit) (body : RequestBody) :
    Kept client (prepared.requestTwice toolkit body) ∨
      Lost (prepared.requestTwice toolkit body) := by
  let numbered := prepared.nextSequence.nextSequence
  have sameHandshake : numbered.handshakeState = client.handshakeState :=
    handshake
  exact sendRequest_effect sameHandshake features canInteract toolkit _

end Sending

/-- A request that is only sent for a supported feature. -/
theorem gated_effect
    {client : Client κ}
    {result : Client κ × List (Output κ)}
    (supported : Prop)
    [Decidable supported]
    (effect : Kept client result ∨ Lost result) :
    Kept client (if supported then (client, []) else result) ∨
      Lost (if supported then (client, []) else result) := by
  by_cases gate : supported
  · rw [if_pos gate]
    exact Or.inl (kept_refl client)
  · rw [if_neg gate]
    exact effect

/-- An operation of a session keeps the client, or the connection is lost. -/
theorem perform_effect
    (toolkit : Toolkit)
    (call : ApiCall κ)
    (client : Client κ) :
    Kept client (client.perform toolkit call) ∨
      Lost (client.perform toolkit call) := by
  cases call
  case setWantsLogEvents wants =>
    exact Or.inl ⟨rfl, rfl, rfl, fun _ member =>
      absurd member List.not_mem_nil⟩
  case getNextSequence =>
    exact Or.inl ⟨rfl, rfl, rfl, fun _ member =>
      absurd member List.not_mem_nil⟩
  case sendResponse response =>
    unfold Client.perform Client.sendResponse
    dsimp only
    split
    · exact Or.inl ⟨rfl, rfl, rfl, events_logOutput client _⟩
    · exact Or.inr (lost_onConnectionError client)
  case setBreakpointsFile => apply requestTwice_effect <;> rfl
  case configurationDone => apply requestTwice_effect <;> rfl
  case launch => apply requestTwice_effect <;> rfl
  case getThreads => apply requestTwice_effect <;> rfl
  case getScopes => apply requestTwice_effect <;> rfl
  case breakpointLocations filepath startLine endLine =>
    refine gated_effect _ ?_
    have sameClient : client.handshakeState = client.handshakeState := rfl
    rcases request_effect sameClient rfl rfl toolkit
        (.breakpointLocations filepath startLine endLine) with kept | lost
    · exact Or.inl { kept with }
    · exact Or.inr { lost with }
  case readMemory =>
    refine gated_effect _ ?_
    apply request_effect <;> rfl
  case gotoTarget =>
    refine gated_effect _ ?_
    apply request_effect <;> rfl
  case loadSource source callback =>
    unfold Client.perform Client.loadSource
    dsimp only
    split
    · apply request_effect <;> rfl
    · exact Or.inl (kept_refl client)
  all_goals apply request_effect <;> rfl

/-- A connected client does not lose its connection by an operation. -/
theorem perform_kept
    (toolkit : Toolkit)
    (call : ApiCall κ)
    {client : Client κ}
    (connected : client.transport.isSome = true) :
    Kept client (client.perform toolkit call) ∧
      (client.perform toolkit call).1.transport = client.transport := by
  have same := (performed connected toolkit call).transport
  rcases perform_effect toolkit call client with kept | lost
  · exact ⟨kept, same⟩
  · rw [← same, lost.transport] at connected
    cases connected

/-! ## What is handed to the transport -/

theorem sentRequests_sendRequest
    (toolkit : Toolkit)
    (request : Request)
    {prepared : Client κ}
    (unlinked : prepared.transport = none) :
    sentRequests (prepared.sendRequest toolkit request).2 = [] := by
  unfold Client.sendRequest
  rw [unlinked]
  rfl

theorem sentRequests_linked
    (toolkit : Toolkit)
    (request : Request)
    {prepared : Client κ}
    (linked : prepared.transport.isSome = true) :
    sentRequests (prepared.sendRequest toolkit request).2 = [request] := by
  unfold Client.sendRequest
  rw [if_pos linked]
  exact sentRequests_sent prepared request _

/-- Without a transport nothing is handed to it. -/
theorem sentRequests_unlinked
    (toolkit : Toolkit)
    (call : ApiCall κ)
    {client : Client κ}
    (unlinked : client.transport = none) :
    sentRequests (client.perform toolkit call).2 = [] := by
  cases call
  case setWantsLogEvents => rfl
  case getNextSequence => rfl
  case sendResponse response =>
    unfold Client.perform Client.sendResponse
    rw [unlinked]
    rfl
  case breakpointLocations =>
    unfold Client.perform Client.breakpointLocations
    dsimp only
    split
    · rfl
    · exact sentRequests_sendRequest toolkit _ unlinked
  case readMemory =>
    unfold Client.perform Client.readMemory
    dsimp only
    split
    · rfl
    · exact sentRequests_sendRequest toolkit _ unlinked
  case gotoTarget =>
    unfold Client.perform Client.gotoTarget
    dsimp only
    split
    · rfl
    · exact sentRequests_sendRequest toolkit _ unlinked
  case loadSource =>
    unfold Client.perform Client.loadSource
    dsimp only
    split
    · exact sentRequests_sendRequest toolkit _ unlinked
    · rfl
  all_goals apply sentRequests_sendRequest toolkit; exact unlinked

/-- No call of a session is an initialize request. -/
theorem sentRequests_not_initializeRequest
    (toolkit : Toolkit)
    (call : ApiCall κ)
    (client : Client κ) :
    ∀ request ∈ sentRequests (client.perform toolkit call).2,
      request.body.command ≠ .initialize_ := by
  intro request member
  rcases transport : client.transport with _ | number
  · rw [sentRequests_unlinked toolkit call transport] at member
    cases member
  · have connected : client.transport.isSome = true := by
      rw [transport]
      rfl
    rcases (performed connected toolkit call).sent with
      none | ⟨sent, single, -, -, other⟩
    · rw [none] at member
      cases member
    · rw [single] at member
      rw [List.mem_singleton.mp member]
      exact other

/-! ## What a message does to the session -/

/-- The events that begin a session or end it. -/
def boundaryEvents : List EventMessage :=
  [.initializeResponse, .lostConnection]

theorem logEvent_not_boundary : .logEvent ∉ boundaryEvents := by
  decide

section Messages

variable (toolkit : Toolkit)
variable (json : Json)
variable (client : Client κ)

/-- The event a message is turned into is not one of the given kinds. -/
theorem events_sendDAPEvent
    {excluded : List EventMessage}
    {message : EventMessage}
    (other : message ∉ excluded) :
    ∀ event ∈ (sendDAPEvent toolkit message json client).2.filterMap
      Transition.eventOf, event ∉ excluded := by
  intro event member
  rw [List.mem_singleton.mp member]
  exact other

theorem onResponse_events (response : Response) :
    ∀ event ∈ (onResponse toolkit json response client).2.filterMap
      Transition.eventOf, event ∉ boundaryEvents := by
  have nothing :
      ∀ event ∈ ([] : List (Output κ)).filterMap Transition.eventOf,
        event ∉ boundaryEvents :=
    fun _ member => absurd member List.not_mem_nil
  rcases response with ⟨requestSeq, success, command⟩
  cases command
  case evaluate =>
    unfold onResponse handleEvaluateResponse
    dsimp only
    split <;> exact nothing
  case source =>
    unfold onResponse handleSourceResponse
    dsimp only
    split <;> exact nothing
  case emptyAck =>
    unfold onResponse
    dsimp only
    split
    · apply events_sendDAPEvent
      simp [boundaryEvents]
    · exact nothing
  all_goals
    first
    | exact nothing
    | (apply events_sendDAPEvent; simp [boundaryEvents])

theorem onSessionMessage_events :
    ∀ event ∈ (onSessionMessage toolkit json client).2.filterMap
      Transition.eventOf, event ∉ boundaryEvents := by
  have nothing :
      ∀ event ∈ ([] : List (Output κ)).filterMap Transition.eventOf,
        event ∉ boundaryEvents :=
    fun _ member => absurd member List.not_mem_nil
  unfold onSessionMessage
  split
  · next event read =>
      cases event <;>
        first
        | exact nothing
        | (apply events_sendDAPEvent; simp [boundaryEvents])
  · exact onResponse_events toolkit json client _
  · next command read =>
      cases command <;>
        first
        | exact nothing
        | (apply events_sendDAPEvent; simp [boundaryEvents])
  · exact nothing

/-- Before the handshake is completed other messages are only logged. -/
theorem onMessage_ignored
    {client : Client κ}
    (waiting : client.handshakeState ≠ .completed)
    (notReply : ¬ InitializeReply json) :
    onMessage toolkit json client =
      (client,
        client.logOutput
          ("<-- ".toList ++ toolkit.printUnformatted json)) := by
  have ignored : onHandshake toolkit json client = (client, []) := by
    unfold onHandshake
    split
    · next response read =>
        split
        · next initialize_ =>
            exact absurd ⟨response, read, initialize_⟩ notReply
        · rfl
    · rfl
  unfold onMessage
  simp only [if_neg waiting, ignored, List.append_nil]

/-- The initialize response completes the handshake. -/
theorem onMessage_completes
    {client : Client κ}
    (waiting : client.handshakeState ≠ .completed)
    (reply : InitializeReply json) :
    onMessage toolkit json client =
      ({ client with
          handshakeState := .completed
          features := client.features ∪ enabledFeatures json },
        client.logOutput ("<-- ".toList ++ toolkit.printUnformatted json) ++
          [.event (dapEvent toolkit .initializeResponse json)]) := by
  rcases reply with ⟨response, read, initialize_⟩
  unfold onMessage onHandshake
  simp only [if_neg waiting, read, if_pos initialize_]
  rfl

/-- After the handshake a message changes neither it nor the features. -/
theorem onMessage_session
    {client : Client κ}
    (completed : client.handshakeState = .completed) :
    (onMessage toolkit json client).1.handshakeState = .completed ∧
      (onMessage toolkit json client).1.features = client.features ∧
        ∀ event ∈ (onMessage toolkit json client).2.filterMap
          Transition.eventOf, event ∉ boundaryEvents := by
  have same :
      (onMessage toolkit json client).1.handshakeState =
          client.handshakeState ∧
        (onMessage toolkit json client).1.features = client.features := by
    by_cases isResponse :
        ∃ response, fromJson json = some (.response response)
    · rcases isResponse with ⟨response, read⟩
      have replied := onMessage_response toolkit completed read
      exact ⟨replied.handshake, replied.features⟩
    · have steady :=
        onMessage_other toolkit completed (not_exists.mp isResponse)
      exact ⟨steady.handshake, steady.features⟩
  refine ⟨same.1.trans completed, same.2, ?_⟩
  intro event member
  unfold onMessage at member
  simp only [if_pos completed, List.filterMap_append] at member
  rcases List.mem_append.mp member with logged | handled
  · rw [events_logOutput client _ event logged]
    exact logEvent_not_boundary
  · exact onSessionMessage_events toolkit json client event handled

/-- A message hands nothing to the transport. -/
theorem sentRequests_onMessage :
    sentRequests (onMessage toolkit json client).2 = [] := by
  by_cases completed : client.handshakeState = .completed
  · by_cases isResponse :
        ∃ response, fromJson json = some (.response response)
    · rcases isResponse with ⟨response, read⟩
      exact (onMessage_response toolkit completed read).sent
    · exact (onMessage_other toolkit completed
        (not_exists.mp isResponse)).undisturbed.silent.sent
  · exact (onMessage_waiting toolkit json completed).1.silent.sent

/-- No message touches the transport. -/
theorem transport_onMessage :
    (onMessage toolkit json client).1.transport = client.transport := by
  by_cases completed : client.handshakeState = .completed
  · by_cases isResponse :
        ∃ response, fromJson json = some (.response response)
    · rcases isResponse with ⟨response, read⟩
      exact (onMessage_response toolkit completed read).transport
    · exact (onMessage_other toolkit completed
        (not_exists.mp isResponse)).undisturbed.transport
  · exact (onMessage_waiting toolkit json completed).1.transport

end Messages

/-! ## The kinds of transitions -/

/-- `Reset` was called. -/
structure Cleared (made : Transition κ) : Prop where
  resets : made.resets = true
  handshake : made.after.handshakeState ≠ .completed
  features : made.after.features = ∅
  canInteract : made.after.canInteract = false
  events : .initializeResponse ∉ made.events

/-- `Initialize` was called and its request was sent. -/
structure Asked (made : Transition κ) : Prop where
  opens : made.opens = true
  resets : made.resets = false
  handshake : made.after.handshakeState = .inProgress
  features : made.after.features = made.before.features
  canInteract : made.after.canInteract = made.before.canInteract
  events : .initializeResponse ∉ made.events

/-- Another operation was called. -/
structure Called (made : Transition κ) : Prop where
  opens : made.opens = false
  resets : made.resets = false
  handshake : made.after.handshakeState = made.before.handshakeState
  features : made.after.features = made.before.features
  canInteract : made.after.canInteract = made.before.canInteract
  events : .initializeResponse ∉ made.events

theorem not_mem_of_logEvents
    {events : List EventMessage}
    (logged : ∀ event ∈ events, event = .logEvent) :
    .initializeResponse ∉ events ∧ .lostConnection ∉ events := by
  constructor
  · intro member
    cases logged _ member
  · intro member
    cases logged _ member

/-- A lost connection resets the client. -/
theorem cleared_of_lost
    {made : Transition κ}
    (outputs : made.outputs = [.event ⟨.lostConnection, none, []⟩])
    (handshake : made.after.handshakeState ≠ .completed)
    (features : made.after.features = ∅)
    (canInteract : made.after.canInteract = false) :
    Cleared made := by
  have events : made.events = [.lostConnection] :=
    congrArg (List.filterMap Transition.eventOf) outputs
  refine ⟨?_, handshake, features, canInteract, ?_⟩
  · unfold Transition.resets
    rw [events]
    split <;> rfl
  · rw [events]
    decide

theorem notPerformed_waits : HandshakeState.notPerformed ≠ .completed := by
  decide

theorem inProgress_waits : HandshakeState.inProgress ≠ .completed := by
  decide

/-- Everything but a message resets, asks for the handshake, or calls. -/
theorem transition_cases
    (toolkit : Toolkit)
    {operation : Operation κ}
    (client : Client κ)
    (notMessage : ∀ json, operation ≠ .message json) :
    (Cleared (transition toolkit operation client) ∧
        (transition toolkit operation client).opens = true) ∨
      Asked (transition toolkit operation client) ∨
        Called (transition toolkit operation client) := by
  cases operation with
  | reset =>
      exact Or.inl
        ⟨⟨rfl, notPerformed_waits, rfl, rfl, List.not_mem_nil⟩, rfl⟩
  | setTransport transport =>
      exact Or.inl
        ⟨⟨rfl, notPerformed_waits, rfl, rfl, List.not_mem_nil⟩, rfl⟩
  | connectionError =>
      exact Or.inl ⟨cleared_of_lost rfl notPerformed_waits rfl rfl, rfl⟩
  | message json => exact absurd rfl (notMessage json)
  | initialize_ initArgs =>
      let arguments :=
        initArgs.getD
          { clientID := "wxdap".toList, clientName := "wxdap".toList }
      have sent :
          Kept client (client.request toolkit (.initialize_ arguments)) ∨
            Lost (client.request toolkit (.initialize_ arguments)) := by
        apply request_effect <;> rfl
      rcases sent with kept | lost
      · have none := not_mem_of_logEvents kept.events
        exact Or.inr (Or.inl
          { opens := rfl
            resets := decide_eq_false none.2
            handshake := rfl
            features := kept.features
            canInteract := kept.canInteract
            events := none.1 })
      · exact Or.inl
          ⟨cleared_of_lost lost.outputs inProgress_waits lost.features
            lost.canInteract, rfl⟩
  | call call =>
      rcases perform_effect toolkit call client with kept | lost
      · have none := not_mem_of_logEvents kept.events
        exact Or.inr (Or.inr
          { opens := decide_eq_false none.2
            resets := decide_eq_false none.2
            handshake := kept.handshake
            features := kept.features
            canInteract := kept.canInteract
            events := none.1 })
      · have waits :
            (client.perform toolkit call).1.handshakeState ≠ .completed := by
          rw [lost.handshake]
          exact notPerformed_waits
        have cleared :
            Cleared (transition toolkit (.call call) client) :=
          cleared_of_lost lost.outputs waits lost.features lost.canInteract
        exact Or.inl ⟨cleared, cleared.resets⟩

/-! ## The handshake follows the history -/

/-- A message dispatches no lost connection. -/
theorem message_events
    (toolkit : Toolkit)
    (json : Json)
    (client : Client κ) :
    .lostConnection ∉ (transition toolkit (.message json) client).events := by
  show .lostConnection ∉
    (onMessage toolkit json client).2.filterMap Transition.eventOf
  by_cases completed : client.handshakeState = .completed
  · intro member
    exact (onMessage_session toolkit json completed).2.2 _ member (by decide)
  · have logged :=
      not_mem_of_logEvents
        (events_logOutput client
          ("<-- ".toList ++ toolkit.printUnformatted json))
    by_cases reply : InitializeReply json
    · rw [onMessage_completes toolkit json completed reply,
        List.filterMap_append, List.mem_append, not_or]
      exact ⟨logged.2, fun member => nomatch List.mem_singleton.mp member⟩
    · rw [onMessage_ignored toolkit json completed reply]
      exact logged.2

/-- A message neither resets the client nor begins a handshake. -/
theorem message_opens
    (toolkit : Toolkit)
    (json : Json)
    (client : Client κ) :
    (transition toolkit (.message json) client).opens = false ∧
      (transition toolkit (.message json) client).resets = false :=
  ⟨decide_eq_false (message_events toolkit json client),
    decide_eq_false (message_events toolkit json client)⟩

/-- Only an initialize response ends the handshake. -/
theorem message_handshake
    (toolkit : Toolkit)
    (json : Json)
    (client : Client κ) :
    (onMessage toolkit json client).1.handshakeState ≠ .completed ↔
      ¬ InitializeReply json ∧ client.handshakeState ≠ .completed := by
  by_cases completed : client.handshakeState = .completed
  · rw [(onMessage_session toolkit json completed).1]
    simp [completed]
  · by_cases reply : InitializeReply json
    · rw [onMessage_completes toolkit json completed reply]
      simp [reply]
    · rw [onMessage_ignored toolkit json completed reply]
      simp [reply]

/-- The client waits for an initialize response when its history says so. -/
def Follows (session : Session κ) : Prop :=
  session.client.handshakeState ≠ .completed ↔ Waiting session.history

theorem Follows.iff {session : Session κ} (follows : Follows session) :
    session.client.handshakeState ≠ .completed ↔ Waiting session.history :=
  follows

theorem follows_new : Follows (Session.new κ) :=
  ⟨fun _ => trivial, fun _ => notPerformed_waits⟩

theorem follows_step
    {toolkit : Toolkit}
    {session next : Session κ}
    {operation : Operation κ}
    (follows : Follows session)
    (taken : step toolkit session operation = some next) :
    Follows next := by
  cases taken
  let made := transition toolkit operation session.client
  show made.after.handshakeState ≠ .completed ↔
    made.opens = true ∨ ¬ made.Answers ∧ Waiting session.history
  by_cases isMessage : ∃ json, operation = .message json
  · rcases isMessage with ⟨json, rfl⟩
    have opens : made.opens = false :=
      (message_opens toolkit json session.client).1
    have handshake := message_handshake toolkit json session.client
    rw [opens, ← follows.iff]
    simp only [Bool.false_eq_true, false_or]
    exact handshake
  · have notMessage := not_exists.mp isMessage
    have unanswered : ¬ made.Answers := by
      intro answers
      cases operation
      case message json => exact notMessage json rfl
      all_goals exact answers
    rcases transition_cases toolkit session.client notMessage with
      ⟨cleared, opens⟩ | asked | called
    · exact ⟨fun _ => Or.inl opens, fun _ => cleared.handshake⟩
    · refine ⟨fun _ => Or.inl asked.opens, fun _ => ?_⟩
      rw [asked.handshake]
      exact inProgress_waits
    · have opens : made.opens = false := called.opens
      rw [called.handshake, opens, ← follows.iff]
      simp only [Bool.false_eq_true, false_or, unanswered, not_false_eq_true,
        true_and]
      exact Iff.rfl

end DebuggerDap.DapClient.History
