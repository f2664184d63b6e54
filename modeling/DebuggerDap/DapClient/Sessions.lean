import DebuggerDap.DapClient.OnMessage
import DebuggerDap.Library.Run

/-!
# A session: the client, its requests in flight and the adapter

A session starts with `SetTransport` and `Initialize`.  Afterwards operations
of the client, replies of the adapter and its other messages alternate in any
order.  A reply answers one request in flight; every message that answers
none is delivered as it is.

Besides the client a session records what the statements about it need: the
requests in flight and all requests put on the wire, with the operation that
issued each, and what the client did on each reply and on each other message.
-/

namespace DebuggerDap.DapClient.Sessions

open DebuggerDap.Text.Strings
open DebuggerDap.Protocol.JsonTree
open DebuggerDap.Protocol.Messages
open DebuggerDap.DapClient.State
open DebuggerDap.DapClient.OnMessage
open DebuggerDap.Library.Run

variable {κ : Type*}

/-- A request on the wire and the operation that issued it. -/
structure Issued (κ : Type*) where
  call : Option (ApiCall κ)
  request : Request

/-- A reply and what the client did when it arrived. -/
structure Exchange (κ : Type*) where
  issued : Issued κ
  json : Json
  outputs : List (Output κ)

structure Session (κ : Type*) where
  client : Client κ
  inFlight : List (Issued κ)
  wire : List (Issued κ)
  exchanges : List (Exchange κ)
  strays : List (Json × List (Output κ))

inductive Label (κ : Type*) where
  | call (call : ApiCall κ)
  /-- The adapter answers the request at a position of those in flight. -/
  | reply (position : Nat) (json : Json)
  /-- A message that answers no request in flight. -/
  | message (json : Json)

def issue
    (call : Option (ApiCall κ))
    (outputs : List (Output κ)) : List (Issued κ) :=
  (sentRequests outputs).map fun request => ⟨call, request⟩

/-- The session right after `SetTransport` and `Initialize`. -/
def opened
    (toolkit : Toolkit)
    (client : Client κ)
    (transport : Nat)
    (initArgs : Option InitializeRequestArguments) : Session κ :=
  let result := (client.setTransport transport).initialize_ toolkit initArgs
  { client := result.1
    inFlight := issue none result.2
    wire := issue none result.2
    exchanges := []
    strays := [] }

def Session.perform
    (toolkit : Toolkit)
    (call : ApiCall κ)
    (session : Session κ) : Session κ :=
  let result := session.client.perform toolkit call
  { session with
    client := result.1
    inFlight := session.inFlight ++ issue (some call) result.2
    wire := session.wire ++ issue (some call) result.2 }

def Session.answer
    (toolkit : Toolkit)
    (position : Nat)
    (issued : Issued κ)
    (json : Json)
    (session : Session κ) : Session κ :=
  let result := onMessage toolkit json session.client
  { session with
    client := result.1
    inFlight := session.inFlight.eraseIdx position
    exchanges := session.exchanges ++ [⟨issued, json, result.2⟩] }

def Session.deliver
    (toolkit : Toolkit)
    (json : Json)
    (session : Session κ) : Session κ :=
  let result := onMessage toolkit json session.client
  { session with
    client := result.1
    strays := session.strays ++ [(json, result.2)] }

/-- One step of a session; a label that does not fit it is not enabled. -/
def step
    (toolkit : Toolkit)
    (session : Session κ)
    (label : Label κ) : Option (Session κ) :=
  match label with
  | .call call => some (session.perform toolkit call)
  | .reply position json =>
      match session.inFlight[position]? with
      | none => none
      | some issued =>
          if Answers json issued.request then
            some (session.answer toolkit position issued json)
          else none
  | .message json =>
      if session.inFlight.any fun issued =>
          decide (Answers json issued.request) then none
      else some (session.deliver toolkit json)

/-- An adapter that answers in order: no reply overtakes another. -/
def Label.InOrder : Label κ → Prop
  | .call _ => True
  | .reply position _ => position = 0
  | .message json => ¬ IsResponse json

instance (label : Label κ) : Decidable label.InOrder :=
  match label with
  | .call _ => isTrue trivial
  | .reply position _ => inferInstanceAs (Decidable (position = 0))
  | .message json => inferInstanceAs (Decidable (¬ IsResponse json))

/-! ## What a step can be -/

/-- The three kinds of steps, with the conditions under which they occur. -/
theorem step_cases
    {toolkit : Toolkit}
    {session next : Session κ}
    {label : Label κ}
    (taken : step toolkit session label = some next) :
    (∃ call, label = .call call ∧ next = session.perform toolkit call) ∨
      (∃ position json before issued after,
        label = .reply position json ∧
          session.inFlight = before ++ issued :: after ∧
            before.length = position ∧
              Answers json issued.request ∧
                next = session.answer toolkit position issued json) ∨
        ∃ json,
          label = .message json ∧
            (∀ issued ∈ session.inFlight, ¬ Answers json issued.request) ∧
              next = session.deliver toolkit json := by
  cases label with
  | call call =>
      cases taken
      exact Or.inl ⟨call, rfl, rfl⟩
  | reply position json =>
      refine Or.inr (Or.inl ?_)
      simp only [step] at taken
      split at taken
      · cases taken
      · next issued found =>
          split at taken
          · next answers =>
              cases taken
              rcases List.getElem?_eq_some_iff.mp found with
                ⟨inside, equal⟩
              refine ⟨position, json, session.inFlight.take position,
                issued, session.inFlight.drop (position + 1), rfl, ?_,
                ?_, answers, rfl⟩
              · rw [← equal, List.getElem_cons_drop,
                  List.take_append_drop]
              · rw [List.length_take]
                omega
          · cases taken
  | message json =>
      refine Or.inr (Or.inr ⟨json, rfl, ?_⟩)
      simp only [step] at taken
      split at taken
      · cases taken
      · next unanswered =>
          cases taken
          refine ⟨?_, rfl⟩
          intro issued member answers
          apply unanswered
          exact List.any_eq_true.mpr
            ⟨issued, member, decide_eq_true answers⟩

theorem eraseIdx_split
    {before after : List (Issued κ)}
    {issued : Issued κ}
    {position : Nat}
    (length : before.length = position) :
    (before ++ issued :: after).eraseIdx position = before ++ after := by
  rw [← length, List.eraseIdx_append_of_length_le (le_refl _)]
  simp

/-! ## The tags of requests -/

namespace Issued

/-- The resolved thread of a `stackTrace` request. -/
def framesTag (issued : Issued κ) : Option Int :=
  match issued.request.body with
  | .stackTrace threadId _ _ => some threadId
  | _ => none

/-- The frame of a `scopes` request. -/
def scopesTag (issued : Issued κ) : Option Int :=
  match issued.request.body with
  | .scopes frameId => some frameId
  | _ => none

/-- The file of a `setBreakpoints` request. -/
def breakpointsTag (issued : Issued κ) : Option WxString :=
  match issued.request.body with
  | .setBreakpoints source _ => some source.path
  | _ => none

/-- The number and the file of a `breakpointLocations` request. -/
def locationTag (issued : Issued κ) : Option (Nat × WxString) :=
  match issued.request.body with
  | .breakpointLocations path _ _ => some (issued.request.seq, path)
  | _ => none

/-- What `GetChildrenVariables` files for its request. -/
def childrenTag (issued : Issued κ) : Option (Int × EvaluateContext) :=
  match issued.call with
  | some (.getChildrenVariables variablesReference context _ _) =>
      some (variablesReference, context)
  | _ => none

/-- The callback `EvaluateExpression` registers. -/
def evaluateCallback (issued : Issued κ) : Option κ :=
  match issued.call with
  | some (.evaluateExpression _ _ _ callback _) => some callback
  | _ => none

/-- The callback `LoadSource` registers. -/
def sourceCallback (issued : Issued κ) : Option κ :=
  match issued.call with
  | some (.loadSource _ callback) => some callback
  | _ => none

/-- The reference a `variables` request asks for. -/
def variablesReference (issued : Issued κ) : Option Int :=
  match issued.request.body with
  | .variables arguments => some arguments.variablesReference
  | _ => none

end Issued

/-- The operation that asks for variables and files nothing. -/
def AsksVariableInfo : ApiCall κ → Prop
  | .getVariableInfo .. => True
  | _ => False

/-- The operations whose request carries the command of their kind. -/
structure Consistent (issued : Issued κ) : Prop where
  evaluate :
    issued.evaluateCallback.isSome = true ↔
      issued.request.body.command = .evaluate
  source :
    issued.sourceCallback.isSome = true ↔
      issued.request.body.command = .source
  children :
    ∀ tag, issued.childrenTag = some tag →
      issued.variablesReference = some tag.1
  filed :
    (∀ call, issued.call = some call → ¬ AsksVariableInfo call) →
      issued.childrenTag.isSome = issued.variablesReference.isSome

theorem consistent_of
    {issued : Issued κ}
    (evaluate :
      issued.evaluateCallback.isSome =
        (issued.request.body.command == .evaluate))
    (source :
      issued.sourceCallback.isSome =
        (issued.request.body.command == .source))
    (children :
      issued.childrenTag.map Prod.fst = issued.variablesReference) :
    Consistent issued where
  evaluate := by
    rw [evaluate, beq_iff_eq]
  source := by
    rw [source, beq_iff_eq]
  children := by
    intro tag tagged
    rw [← children, tagged]
    rfl
  filed := by
    intro _
    rw [← children, Option.isSome_map]

/-! ## What an operation does while the transport is there -/

/--
The effect of an operation of a connected client: at most one request goes
out, under a fresh number, and each queue grows by the tag of that request.
-/
structure Performed
    (call : ApiCall κ)
    (client : Client κ)
    (result : Client κ × List (Output κ)) : Prop where
  transport : result.1.transport = client.transport
  handshake : result.1.handshakeState = client.handshakeState
  features : result.1.features = client.features
  sequence : client.requestSequence ≤ result.1.requestSequence
  sent :
    sentRequests result.2 = [] ∨
      ∃ request, sentRequests result.2 = [request] ∧
        client.requestSequence < request.seq ∧
          request.seq ≤ result.1.requestSequence ∧
            request.body.command ≠ .initialize_
  consistent : ∀ issued ∈ issue (some call) result.2, Consistent issued
  frames :
    result.1.getFramesQueue =
      client.getFramesQueue ++
        (issue (some call) result.2).filterMap Issued.framesTag
  scopes :
    result.1.getScopesQueue =
      client.getScopesQueue ++
        (issue (some call) result.2).filterMap Issued.scopesTag
  breakpoints :
    result.1.sourceBreakpointsQueue =
      client.sourceBreakpointsQueue ++
        (issue (some call) result.2).filterMap Issued.breakpointsTag
  children :
    result.1.getVariablesQueue =
      client.getVariablesQueue ++
        (issue (some call) result.2).filterMap Issued.childrenTag
  evaluates :
    result.1.evaluateQueue =
      client.evaluateQueue ++
        (issue (some call) result.2).filterMap Issued.evaluateCallback
  sources :
    result.1.loadSourcesQueue =
      client.loadSourcesQueue ++
        (issue (some call) result.2).filterMap Issued.sourceCallback
  locations :
    (∀ entry ∈ client.requestIdToFilepath,
        entry.1 ≤ client.requestSequence) →
      result.1.requestIdToFilepath =
        client.requestIdToFilepath ++
          (issue (some call) result.2).filterMap Issued.locationTag
  gated :
    ∀ issued ∈ issue (some call) result.2,
      issued.locationTag.isSome = true →
        .supportsBreakpointLocationsRequest ∈ client.features

section Operations

variable {client : Client κ}
variable (connected : client.transport.isSome = true)
variable (toolkit : Toolkit)

include connected

theorem request_connected (body : RequestBody) :
    client.request toolkit body =
      ({ client with requestSequence := client.requestSequence + 1 },
        .sent ⟨client.requestSequence + 1, body⟩ ::
          client.logOutput
            ("--> ".toList ++
              toolkit.requestText ⟨client.requestSequence + 1, body⟩)) := by
  rw [Client.request, Client.sendRequest]
  exact if_pos connected

theorem requestTwice_connected (body : RequestBody) :
    client.requestTwice toolkit body =
      ({ client with requestSequence := client.requestSequence + 2 },
        .sent ⟨client.requestSequence + 1, body⟩ ::
          client.logOutput
            ("--> ".toList ++
              toolkit.requestText ⟨client.requestSequence + 1, body⟩)) := by
  rw [Client.requestTwice, Client.sendRequest]
  exact if_pos connected

end Operations

@[simp]
theorem sentRequests_logOutput (client : Client κ) (text : WxString) :
    sentRequests (client.logOutput text) = [] := by
  unfold Client.logOutput
  split <;> rfl

theorem sentRequests_sent
    (client : Client κ)
    (request : Request)
    (text : WxString) :
    sentRequests (.sent request :: client.logOutput text) = [request] := by
  have noMore := sentRequests_logOutput client text
  simpa [sentRequests] using noMore

/--
The client a request is sent on: the tags of the request are filed, and
everything the sending itself uses is as before.
-/
structure Prepared
    (issued : Issued κ)
    (client prepared : Client κ) : Prop where
  transport : prepared.transport = client.transport
  handshake : prepared.handshakeState = client.handshakeState
  features : prepared.features = client.features
  sequence : prepared.requestSequence = client.requestSequence
  locations : prepared.requestIdToFilepath = client.requestIdToFilepath
  frames :
    prepared.getFramesQueue =
      client.getFramesQueue ++ issued.framesTag.toList
  scopes :
    prepared.getScopesQueue =
      client.getScopesQueue ++ issued.scopesTag.toList
  breakpoints :
    prepared.sourceBreakpointsQueue =
      client.sourceBreakpointsQueue ++ issued.breakpointsTag.toList
  children :
    prepared.getVariablesQueue =
      client.getVariablesQueue ++ issued.childrenTag.toList
  evaluates :
    prepared.evaluateQueue =
      client.evaluateQueue ++ issued.evaluateCallback.toList
  sources :
    prepared.loadSourcesQueue =
      client.loadSourcesQueue ++ issued.sourceCallback.toList

/-- A request of none of the kinds that file a tag. -/
structure Untagged (issued : Issued κ) : Prop where
  frames : issued.framesTag = none
  scopes : issued.scopesTag = none
  breakpoints : issued.breakpointsTag = none
  children : issued.childrenTag = none
  evaluates : issued.evaluateCallback = none
  sources : issued.sourceCallback = none

theorem Untagged.prepared
    {issued : Issued κ}
    (untagged : Untagged issued)
    (client : Client κ) :
    Prepared issued client client where
  transport := rfl
  handshake := rfl
  features := rfl
  sequence := rfl
  locations := rfl
  frames := by simp [untagged.frames]
  scopes := by simp [untagged.scopes]
  breakpoints := by simp [untagged.breakpoints]
  children := by simp [untagged.children]
  evaluates := by simp [untagged.evaluates]
  sources := by simp [untagged.sources]

/-- A request without a tag leaves a queue as it is. -/
theorem queue_kept {τ : Type*} (queue : List τ) :
    queue = queue ++ (none : Option τ).toList :=
  (List.append_nil queue).symm

theorem filterMap_single
    {ρ τ : Type*}
    (tag : ρ → Option τ)
    (request : ρ) :
    [request].filterMap tag = (tag request).toList := by
  cases value : tag request <;> simp [value]

/-- Sending on a prepared client performs the operation. -/
theorem performed_of_prepared
    {call : ApiCall κ}
    {body : RequestBody}
    {client prepared : Client κ}
    (seq : Nat)
    (number : seq = client.requestSequence + 1)
    (ready : Prepared ⟨some call, ⟨seq, body⟩⟩ client prepared)
    (consistent : Consistent (⟨some call, ⟨seq, body⟩⟩ : Issued κ))
    (notInitialize : body.command ≠ .initialize_)
    (notLocation : (⟨some call, ⟨seq, body⟩⟩ : Issued κ).locationTag = none)
    (draws : Nat)
    (drawn : 0 < draws)
    (text : WxString) :
    Performed call client
      ({ prepared with
          requestSequence := prepared.requestSequence + draws },
        .sent ⟨seq, body⟩ :: prepared.logOutput text) := by
  have sent :=
    sentRequests_sent prepared (⟨seq, body⟩ : Request) text
  have issued :
      issue (some call)
          ((.sent ⟨seq, body⟩ : Output κ) :: prepared.logOutput text) =
        [⟨some call, ⟨seq, body⟩⟩] := by
    rw [issue, sent]
    rfl
  constructor
  case transport => exact ready.transport
  case handshake => exact ready.handshake
  case features => exact ready.features
  case sequence =>
    dsimp only
    rw [ready.sequence]
    omega
  case sent =>
    refine Or.inr ⟨⟨seq, body⟩, sent, ?_, ?_, notInitialize⟩
    · dsimp only
      omega
    · dsimp only
      rw [ready.sequence]
      omega
  case consistent =>
    rw [issued]
    simpa using consistent
  case frames =>
    rw [issued, filterMap_single]
    exact ready.frames
  case scopes =>
    rw [issued, filterMap_single]
    exact ready.scopes
  case breakpoints =>
    rw [issued, filterMap_single]
    exact ready.breakpoints
  case children =>
    rw [issued, filterMap_single]
    exact ready.children
  case evaluates =>
    rw [issued, filterMap_single]
    exact ready.evaluates
  case sources =>
    rw [issued, filterMap_single]
    exact ready.sources
  case locations =>
    intro _
    simp [issued, notLocation, ready.locations]
  case gated =>
    rw [issued]
    simp [notLocation]

/-- An operation that sends nothing and files nothing. -/
theorem performed_of_quiet
    {call : ApiCall κ}
    {client : Client κ}
    (sequence : Nat)
    (wantsLogEvents : Bool)
    {outputs : List (Output κ)}
    (nothing : sentRequests outputs = [])
    (grows : client.requestSequence ≤ sequence) :
    Performed call client
      ({ client with
          requestSequence := sequence
          wantsLogEvents := wantsLogEvents }, outputs) := by
  have issued : issue (some call) outputs = [] := by
    rw [issue, nothing]
    rfl
  constructor
  case transport => rfl
  case handshake => rfl
  case features => rfl
  case sequence => exact grows
  case sent => exact Or.inl nothing
  case consistent => simp [issued]
  case locations =>
    intro _
    simp [issued]
  case gated => simp [issued]
  all_goals simp [issued]

section Operations

variable {client : Client κ}
variable (connected : client.transport.isSome = true)
variable (toolkit : Toolkit)

include connected

/-- One request sent on a prepared client. -/
theorem performed_request
    (call : ApiCall κ)
    (body : RequestBody)
    (prepared : Client κ)
    (ready :
      Prepared ⟨some call, ⟨client.requestSequence + 1, body⟩⟩ client prepared)
    (consistent :
      Consistent
        (⟨some call, ⟨client.requestSequence + 1, body⟩⟩ : Issued κ))
    (notInitialize : body.command ≠ .initialize_)
    (notLocation : body.command ≠ .breakpointLocations) :
    Performed call client (prepared.request toolkit body) ∧
      Performed call client (prepared.requestTwice toolkit body) := by
  have connectedToo : prepared.transport.isSome = true := by
    rw [ready.transport]
    exact connected
  have noLocation :
      (⟨some call, ⟨client.requestSequence + 1, body⟩⟩ :
        Issued κ).locationTag = none := by
    cases body <;> first | rfl | exact absurd rfl notLocation
  rw [request_connected connectedToo, requestTwice_connected connectedToo,
    ready.sequence]
  have performed := fun draws drawn =>
    performed_of_prepared (client.requestSequence + 1) rfl ready consistent
      notInitialize noLocation draws drawn
  simp only [ready.sequence] at performed
  exact ⟨performed 1 (by decide) _, performed 2 (by decide) _⟩

/-- A request that files no tag and registers no callback. -/
theorem performed_untagged
    {call : ApiCall κ}
    {body : RequestBody}
    {prepared : Client κ}
    (same :
      prepared = { client with activeThreadId := prepared.activeThreadId })
    (untagged :
      Untagged (⟨some call, ⟨client.requestSequence + 1, body⟩⟩ : Issued κ))
    (kind :
      body.command ∉
        [.initialize_, .breakpointLocations, .evaluate, .source])
    (asked :
      (⟨some call, ⟨client.requestSequence + 1, body⟩⟩ :
          Issued κ).variablesReference.isSome = true →
        AsksVariableInfo call) :
    Performed call client (prepared.request toolkit body) ∧
      Performed call client (prepared.requestTwice toolkit body) := by
  simp only [List.mem_cons, List.not_mem_nil, or_false, not_or] at kind
  have consistent :
      Consistent
        (⟨some call, ⟨client.requestSequence + 1, body⟩⟩ : Issued κ) :=
    { evaluate := by simp [untagged.evaluates, kind]
      source := by simp [untagged.sources, kind]
      children := by simp [untagged.children]
      filed := by
        intro notAsked
        rw [untagged.children]
        cases reference :
            (⟨some call, ⟨client.requestSequence + 1, body⟩⟩ :
              Issued κ).variablesReference with
        | none => rfl
        | some _ =>
            exact absurd (asked (by rw [reference]; rfl))
              (notAsked call rfl) }
  have ready :
      Prepared ⟨some call, ⟨client.requestSequence + 1, body⟩⟩
        client prepared := by
    have unchanged := untagged.prepared client
    rw [same]
    exact
      ⟨unchanged.transport, unchanged.handshake, unchanged.features,
        unchanged.sequence, unchanged.locations, unchanged.frames,
        unchanged.scopes, unchanged.breakpoints, unchanged.children,
        unchanged.evaluates, unchanged.sources⟩
  exact performed_request connected toolkit call body prepared ready
    consistent kind.1 kind.2.1

/-- A supported `BreakpointLocations` files its path under a fresh number. -/
theorem performed_breakpointLocations
    (filepath : WxString)
    (startLine endLine : Int) :
    Performed (.breakpointLocations filepath startLine endLine) client
      (client.breakpointLocations toolkit filepath startLine endLine) := by
  unfold Client.breakpointLocations
  split
  · exact performed_of_quiet client.requestSequence
      client.wantsLogEvents rfl (le_refl _)
  · next supported =>
      have isSupported :
          .supportsBreakpointLocationsRequest ∈ client.features := by
        simpa [Client.isSupported] using supported
      rw [request_connected connected]
      dsimp only
      let body : RequestBody := .breakpointLocations filepath startLine endLine
      have sent :=
        sentRequests_sent client
          (⟨client.requestSequence + 1, body⟩ : Request)
          ("--> ".toList ++
            toolkit.requestText ⟨client.requestSequence + 1, body⟩)
      let call : ApiCall κ := .breakpointLocations filepath startLine endLine
      have issued :
          issue (some call)
              (.sent ⟨client.requestSequence + 1, body⟩ ::
                client.logOutput
                  ("--> ".toList ++
                    toolkit.requestText
                      ⟨client.requestSequence + 1, body⟩)) =
            [⟨some call, ⟨client.requestSequence + 1, body⟩⟩] := by
        rw [issue, sent]
        rfl
      constructor
      case transport => rfl
      case handshake => rfl
      case features => rfl
      case sequence => exact Nat.le_succ _
      case sent =>
        exact Or.inr ⟨_, sent, Nat.lt_succ_self _, le_refl _,
          by simp [body, RequestBody.command]⟩
      case consistent =>
        rw [issued]
        simpa using consistent_of rfl rfl rfl
      case locations =>
        intro fresh
        have free :
            client.requestIdToFilepath.lookup
              (client.requestSequence + 1) = none := by
          rw [List.lookup_eq_none_iff]
          intro entry member
          have below := fresh entry member
          simp
          omega
        rw [issued, filterMap_single]
        simp [Client.nextSequence, free, Issued.locationTag, body]
      case gated =>
        rw [issued]
        intro _ _ _
        exact isSupported
      all_goals
        rw [issued, filterMap_single]
        exact (List.append_nil _).symm

/-- Every operation of a connected client has the described effect. -/
theorem performed (call : ApiCall κ) :
    Performed call client (client.perform toolkit call) := by
  cases call with
  | setWantsLogEvents wants =>
      exact performed_of_quiet client.requestSequence wants rfl (le_refl _)
  | getNextSequence =>
      exact performed_of_quiet (client.requestSequence + 1)
        client.wantsLogEvents rfl (Nat.le_succ _)
  | sendResponse response =>
      have sent :
          client.perform toolkit (.sendResponse response) =
            (client, .sentResponse response ::
              client.logOutput ("--> ".toList ++ response.text)) :=
        if_pos connected
      rw [sent]
      refine performed_of_quiet client.requestSequence
        client.wantsLogEvents ?_ (le_refl _)
      exact sentRequests_logOutput client _
  | configurationDone | getThreads | launch =>
      exact (performed_untagged connected toolkit rfl
        ⟨rfl, rfl, rfl, rfl, rfl, rfl⟩ (by simp [RequestBody.command])
        (by nofun)).2
  | next | continue_ | setExceptionBreakpoints | setFunctionBreakpoints
  | stepIn | stepOut | pause | getDisassemble | goto | attach
  | disconnect | terminate =>
      exact (performed_untagged connected toolkit rfl
        ⟨rfl, rfl, rfl, rfl, rfl, rfl⟩ (by simp [RequestBody.command])
        (by nofun)).1
  | getVariableInfo =>
      exact (performed_untagged connected toolkit rfl
        ⟨rfl, rfl, rfl, rfl, rfl, rfl⟩ (by simp [RequestBody.command])
        (fun _ => by trivial)).1
  | readMemory memoryReference offset count =>
      unfold Client.perform Client.readMemory
      dsimp only
      split
      · exact performed_of_quiet client.requestSequence
          client.wantsLogEvents rfl (le_refl _)
      · exact (performed_untagged connected toolkit rfl
          ⟨rfl, rfl, rfl, rfl, rfl, rfl⟩ (by simp [RequestBody.command])
          (by nofun)).1
  | gotoTarget source line column =>
      unfold Client.perform Client.gotoTarget
      dsimp only
      split
      · exact performed_of_quiet client.requestSequence
          client.wantsLogEvents rfl (le_refl _)
      · exact (performed_untagged connected toolkit rfl
          ⟨rfl, rfl, rfl, rfl, rfl, rfl⟩ (by simp [RequestBody.command])
          (by nofun)).1
  | setBreakpointsFile file lines =>
      exact (performed_request connected toolkit
        (.setBreakpointsFile file lines)
        (.setBreakpoints ⟨toolkit.getFullName file, file, 0⟩ lines)
        { client with
          sourceBreakpointsQueue := client.sourceBreakpointsQueue ++ [file] }
        ⟨rfl, rfl, rfl, rfl, rfl,
          queue_kept _, queue_kept _, rfl,
          queue_kept _, queue_kept _, queue_kept _⟩
        (consistent_of rfl rfl rfl)
        (by simp [RequestBody.command])
        (by simp [RequestBody.command])).2
  | getScopes frameId =>
      exact (performed_request connected toolkit
        (.getScopes frameId)
        (.scopes frameId)
        { client with
          getScopesQueue := client.getScopesQueue ++ [frameId] }
        ⟨rfl, rfl, rfl, rfl, rfl,
          queue_kept _, rfl, queue_kept _,
          queue_kept _, queue_kept _, queue_kept _⟩
        (consistent_of rfl rfl rfl)
        (by simp [RequestBody.command])
        (by simp [RequestBody.command])).2
  | getFrames threadId startingFrame frameCount =>
      exact (performed_request connected toolkit
        (.getFrames threadId startingFrame frameCount)
        (.stackTrace (client.resolveThread threadId) startingFrame frameCount)
        { client with
          getFramesQueue :=
            client.getFramesQueue ++ [client.resolveThread threadId] }
        ⟨rfl, rfl, rfl, rfl, rfl,
          rfl, queue_kept _, queue_kept _,
          queue_kept _, queue_kept _, queue_kept _⟩
        (consistent_of rfl rfl rfl)
        (by simp [RequestBody.command])
        (by simp [RequestBody.command])).1
  | getChildrenVariables variablesReference context count format =>
      exact (performed_request connected toolkit
        (.getChildrenVariables variablesReference context count format)
        (.variables
          { variablesReference := variablesReference
            hex := format == ValueDisplayFormat.hex
            count := count })
        { client with
          getVariablesQueue :=
            client.getVariablesQueue ++ [(variablesReference, context)] }
        ⟨rfl, rfl, rfl, rfl, rfl,
          queue_kept _, queue_kept _, queue_kept _,
          rfl, queue_kept _, queue_kept _⟩
        (consistent_of rfl rfl rfl)
        (by simp [RequestBody.command])
        (by simp [RequestBody.command])).1
  | evaluateExpression expression frameId context callback format =>
      exact (performed_request connected toolkit
        (.evaluateExpression expression frameId context callback format)
        (.evaluate
          { expression := expression
            frameId := frameId
            context := context.name
            hex := format == ValueDisplayFormat.hex })
        { client with
          evaluateQueue := client.evaluateQueue ++ [callback] }
        ⟨rfl, rfl, rfl, rfl, rfl,
          queue_kept _, queue_kept _, queue_kept _,
          queue_kept _, rfl, queue_kept _⟩
        (consistent_of rfl rfl rfl)
        (by simp [RequestBody.command])
        (by simp [RequestBody.command])).1
  | loadSource source callback =>
      unfold Client.perform Client.loadSource
      dsimp only
      split
      · exact (performed_request connected toolkit
          (.loadSource source callback)
          (.source source source.sourceReference)
          { client with
            loadSourcesQueue := client.loadSourcesQueue ++ [callback] }
          ⟨rfl, rfl, rfl, rfl, rfl,
            queue_kept _, queue_kept _, queue_kept _,
            queue_kept _, queue_kept _, rfl⟩
          (consistent_of rfl rfl rfl)
          (by simp [RequestBody.command])
          (by simp [RequestBody.command])).1
      · exact performed_of_quiet client.requestSequence
          client.wantsLogEvents rfl (le_refl _)
  | breakpointLocations filepath startLine endLine =>
      exact performed_breakpointLocations connected toolkit filepath
        startLine endLine

end Operations

end DebuggerDap.DapClient.Sessions
