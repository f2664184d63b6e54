import DebuggerDap.DapClient.Sessions

/-!
# What the client does with a message

Every reply takes the head of at most one queue and attaches it to at most
one event or callback.  All other messages leave the queues alone.  The
statements are about `OnMessage` as a whole, so that later modules need not
look into its branches.
-/

namespace DebuggerDap.DapClient.Replies

open DebuggerDap.Text.Strings
open DebuggerDap.Protocol.JsonTree
open DebuggerDap.Protocol.Messages
open DebuggerDap.DapClient.State
open DebuggerDap.DapClient.OnMessage
open DebuggerDap.DapClient.Sessions

variable {κ : Type*}

/-! ## The tags of what is dispatched -/

/-- The tag of a `StackTraceResponse` event. -/
def framesRef : Output κ → Option Int
  | .event ⟨.stackTraceResponse refId, _, _⟩ => some refId
  | _ => none

/-- The tag of a `ScopesResponse` event. -/
def scopesRef : Output κ → Option Int
  | .event ⟨.scopesResponse refId, _, _⟩ => some refId
  | _ => none

/-- The tag of a `SetBreakpointsResponse` event. -/
def originSource : Output κ → Option WxString
  | .event ⟨.setBreakpointsResponse originSource, _, _⟩ => some originSource
  | _ => none

/-- The reference and the context of a `VariablesResponse` event. -/
def childrenRef : Output κ → Option (Int × EvaluateContext)
  | .event ⟨.variablesResponse refId context, _, _⟩ => some (refId, context)
  | _ => none

/-- The file of a `BreakpointLocationsResponse` event. -/
def locationPath : Output κ → Option WxString
  | .event ⟨.breakpointLocationsResponse filepath, _, _⟩ => some filepath
  | _ => none

/-- An invoked evaluate callback and the values it was given. -/
def evaluation : Output κ → Option (κ × EvaluateResponse)
  | .evaluated callback success result type variablesReference =>
      some (callback, ⟨success, result, type, variablesReference⟩)
  | _ => none

/-- An invoked source callback and the values it was given. -/
def sourceLoad : Output κ → Option (κ × SourceResponse)
  | .sourceLoaded callback success content mimeType =>
      some (callback, ⟨success, content, mimeType⟩)
  | _ => none

/-- Nothing with a tag is dispatched and no callback is invoked. -/
structure Silent (outputs : List (Output κ)) : Prop where
  sent : sentRequests outputs = []
  frames : outputs.filterMap framesRef = []
  scopes : outputs.filterMap scopesRef = []
  breakpoints : outputs.filterMap originSource = []
  children : outputs.filterMap childrenRef = []
  locations : outputs.filterMap locationPath = []
  evaluations : outputs.filterMap evaluation = []
  sources : outputs.filterMap sourceLoad = []

@[simp]
theorem silent_nil : Silent ([] : List (Output κ)) :=
  ⟨rfl, rfl, rfl, rfl, rfl, rfl, rfl, rfl⟩

theorem silent_logOutput (client : Client κ) (text : WxString) :
    Silent (client.logOutput text) := by
  unfold Client.logOutput
  split
  · exact ⟨rfl, rfl, rfl, rfl, rfl, rfl, rfl, rfl⟩
  · exact silent_nil

/-! ## Replies and other messages -/

/--
The effect of a response once the handshake is completed: for each kind the
head of its queue is given up and dispatched, or nothing of the kind happens.
-/
structure Replied
    (json : Json)
    (response : Response)
    (client : Client κ)
    (result : Client κ × List (Output κ)) : Prop where
  sent : sentRequests result.2 = []
  transport : result.1.transport = client.transport
  handshake : result.1.handshakeState = client.handshakeState
  features : result.1.features = client.features
  sequence : result.1.requestSequence = client.requestSequence
  frames :
    result.1.getFramesQueue =
      if response.command = .stackTrace then client.getFramesQueue.tail
      else client.getFramesQueue
  framesEvents :
    result.2.filterMap framesRef =
      if response.command = .stackTrace then
        [client.getFramesQueue.head?.getD notFound]
      else []
  scopes :
    result.1.getScopesQueue =
      if response.command = .scopes then client.getScopesQueue.tail
      else client.getScopesQueue
  scopesEvents :
    result.2.filterMap scopesRef =
      if response.command = .scopes then
        [client.getScopesQueue.head?.getD notFound]
      else []
  breakpoints :
    result.1.sourceBreakpointsQueue =
      if response.command = .setBreakpoints then
        client.sourceBreakpointsQueue.tail
      else client.sourceBreakpointsQueue
  breakpointsEvents :
    result.2.filterMap originSource =
      if response.command = .setBreakpoints then
        [client.sourceBreakpointsQueue.head?.getD []]
      else []
  children :
    result.1.getVariablesQueue =
      if response.command = .variables then client.getVariablesQueue.tail
      else client.getVariablesQueue
  childrenEvents :
    result.2.filterMap childrenRef =
      if response.command = .variables then
        [client.getVariablesQueue.head?.getD (notFound, .variables)]
      else []
  evaluates :
    result.1.evaluateQueue =
      if response.command = .evaluate then client.evaluateQueue.tail
      else client.evaluateQueue
  evaluations :
    result.2.filterMap evaluation =
      if response.command = .evaluate then
        (client.evaluateQueue.head?.map fun callback =>
          (callback, evaluateResponse json)).toList
      else []
  sources :
    result.1.loadSourcesQueue =
      if response.command = .source then client.loadSourcesQueue.tail
      else client.loadSourcesQueue
  sourceLoads :
    result.2.filterMap sourceLoad =
      if response.command = .source then
        (client.loadSourcesQueue.head?.map fun callback =>
          (callback, sourceResponse json)).toList
      else []
  locations :
    result.1.requestIdToFilepath =
      if response.command = .breakpointLocations then
        client.requestIdToFilepath.filter fun entry =>
          !((entry.1 : Int) == response.requestSeq)
      else client.requestIdToFilepath
  locationsEvents :
    result.2.filterMap locationPath =
      if response.command = .breakpointLocations then
        [(client.requestIdToFilepath.find? fun entry =>
          (entry.1 : Int) == response.requestSeq).elim [] Prod.snd]
      else []

/-- The effect of a message that touches no queue. -/
structure Undisturbed
    (client : Client κ)
    (result : Client κ × List (Output κ)) : Prop where
  silent : Silent result.2
  transport : result.1.transport = client.transport
  sequence : result.1.requestSequence = client.requestSequence
  frames : result.1.getFramesQueue = client.getFramesQueue
  scopes : result.1.getScopesQueue = client.getScopesQueue
  breakpoints :
    result.1.sourceBreakpointsQueue = client.sourceBreakpointsQueue
  children : result.1.getVariablesQueue = client.getVariablesQueue
  evaluates : result.1.evaluateQueue = client.evaluateQueue
  sources : result.1.loadSourcesQueue = client.loadSourcesQueue
  locations : result.1.requestIdToFilepath = client.requestIdToFilepath

/-- A message that touches no queue and does not complete the handshake. -/
structure Steady
    (client : Client κ)
    (result : Client κ × List (Output κ)) : Prop where
  undisturbed : Undisturbed client result
  handshake : result.1.handshakeState = client.handshakeState
  features : result.1.features = client.features

/-- The commands whose replies take a tag or a callback. -/
def taggedCommands : List Command :=
  [.stackTrace, .scopes, .setBreakpoints, .variables, .evaluate, .source,
    .breakpointLocations]

/-- A reply to any other command is a message that touches no queue. -/
theorem Steady.replied
    {json : Json}
    {response : Response}
    {client : Client κ}
    {result : Client κ × List (Output κ)}
    (steady : Steady client result)
    (other : response.command ∉ taggedCommands) :
    Replied json response client result := by
  simp only [taggedCommands, List.mem_cons, List.not_mem_nil, or_false,
    not_or] at other
  rcases other with
    ⟨notFrames, notScopes, notBreakpoints, notChildren, notEvaluate,
      notSource, notLocations⟩
  constructor
  case sent => exact steady.undisturbed.silent.sent
  case transport => exact steady.undisturbed.transport
  case handshake => exact steady.handshake
  case features => exact steady.features
  case sequence => exact steady.undisturbed.sequence
  case frames =>
    rw [if_neg notFrames]
    exact steady.undisturbed.frames
  case framesEvents =>
    rw [if_neg notFrames]
    exact steady.undisturbed.silent.frames
  case scopes =>
    rw [if_neg notScopes]
    exact steady.undisturbed.scopes
  case scopesEvents =>
    rw [if_neg notScopes]
    exact steady.undisturbed.silent.scopes
  case breakpoints =>
    rw [if_neg notBreakpoints]
    exact steady.undisturbed.breakpoints
  case breakpointsEvents =>
    rw [if_neg notBreakpoints]
    exact steady.undisturbed.silent.breakpoints
  case children =>
    rw [if_neg notChildren]
    exact steady.undisturbed.children
  case childrenEvents =>
    rw [if_neg notChildren]
    exact steady.undisturbed.silent.children
  case evaluates =>
    rw [if_neg notEvaluate]
    exact steady.undisturbed.evaluates
  case evaluations =>
    rw [if_neg notEvaluate]
    exact steady.undisturbed.silent.evaluations
  case sources =>
    rw [if_neg notSource]
    exact steady.undisturbed.sources
  case sourceLoads =>
    rw [if_neg notSource]
    exact steady.undisturbed.silent.sources
  case locations =>
    rw [if_neg notLocations]
    exact steady.undisturbed.locations
  case locationsEvents =>
    rw [if_neg notLocations]
    exact steady.undisturbed.silent.locations

/-- Only the two fields no queue depends on may change. -/
theorem steady_of_silent
    (client : Client κ)
    (activeThreadId : Int)
    (canInteract : Bool)
    {outputs : List (Output κ)}
    (silent : Silent outputs) :
    Steady client
      ({ client with
          activeThreadId := activeThreadId
          canInteract := canInteract }, outputs) :=
  ⟨⟨silent, rfl, rfl, rfl, rfl, rfl, rfl, rfl, rfl, rfl⟩, rfl, rfl⟩

section Messages

variable (toolkit : Toolkit)
variable (json : Json)
variable (client : Client κ)

theorem onResponse_replied (response : Response) :
    Replied json response client
      (onResponse toolkit json response client) := by
  rcases response with ⟨requestSeq, success, command⟩
  cases command
  case stackTrace => constructor <;> rfl
  case scopes => constructor <;> rfl
  case setBreakpoints => constructor <;> rfl
  case «variables» => constructor <;> rfl
  case breakpointLocations => constructor <;> rfl
  case evaluate =>
    unfold onResponse handleEvaluateResponse
    dsimp only
    split
    · next empty => constructor <;> simp [empty, sentRequests]
    · next callback waiting queued =>
        constructor <;>
          simp [queued, sentRequests, evaluatedOutput, evaluation, framesRef,
            scopesRef, originSource, childrenRef, locationPath, sourceLoad]
  case source =>
    unfold onResponse handleSourceResponse
    dsimp only
    split
    · next empty => constructor <;> simp [empty, sentRequests]
    · next callback waiting queued =>
        constructor <;>
          simp [queued, sentRequests, sourceLoadedOutput, evaluation,
            framesRef, scopesRef, originSource, childrenRef, locationPath,
            sourceLoad]
  case emptyAck =>
    refine Steady.replied ?_ (by simp [taggedCommands])
    unfold onResponse
    dsimp only
    split
    · exact steady_of_silent client client.activeThreadId
        client.canInteract ⟨rfl, rfl, rfl, rfl, rfl, rfl, rfl, rfl⟩
    · exact steady_of_silent client client.activeThreadId
        client.canInteract silent_nil
  all_goals
    refine Steady.replied ?_ (by simp [taggedCommands])
    exact steady_of_silent client _ _
      ⟨rfl, rfl, rfl, rfl, rfl, rfl, rfl, rfl⟩

theorem onEvent_steady (event : EventName) :
    Steady client (onEvent toolkit json event client) := by
  cases event <;>
    exact steady_of_silent client _ _
      ⟨rfl, rfl, rfl, rfl, rfl, rfl, rfl, rfl⟩

theorem onRequest_steady (command : Command) :
    Steady client (onRequest toolkit json command client) := by
  unfold onRequest
  split <;>
    exact steady_of_silent client client.activeThreadId client.canInteract
      ⟨rfl, rfl, rfl, rfl, rfl, rfl, rfl, rfl⟩

/-- A tree that is read as an initialize response. -/
def InitializeReply (json : Json) : Prop :=
  ∃ response,
    fromJson json = some (.response response) ∧
      response.command = .initialize_

/--
Before the handshake is completed no message touches a queue, and only an
initialize response changes the state of the handshake.
-/
theorem onHandshake_undisturbed :
    Undisturbed client (onHandshake toolkit json client) ∧
      (InitializeReply json →
        (onHandshake toolkit json client).1.handshakeState = .completed) ∧
        (¬ InitializeReply json →
          Steady client (onHandshake toolkit json client)) := by
  unfold onHandshake
  split
  · next response read =>
      split
      · next initialize_ =>
          refine ⟨⟨⟨rfl, rfl, rfl, rfl, rfl, rfl, rfl, rfl⟩, rfl, rfl, rfl,
            rfl, rfl, rfl, rfl, rfl, rfl⟩, fun _ => rfl, ?_⟩
          intro notReply
          exact absurd ⟨response, read, initialize_⟩ notReply
      · next notInitialize =>
          have steady :=
            steady_of_silent client client.activeThreadId
              client.canInteract silent_nil
          refine ⟨steady.undisturbed, ?_, fun _ => steady⟩
          rintro ⟨other, readOther, initialize_⟩
          rw [read] at readOther
          cases readOther
          exact absurd initialize_ notInitialize
  · next notResponse =>
      have steady :=
        steady_of_silent client client.activeThreadId
          client.canInteract silent_nil
      refine ⟨steady.undisturbed, ?_, fun _ => steady⟩
      rintro ⟨response, read, -⟩
      exact absurd read (notResponse response)

end Messages

/-! ## The log in front -/

section Logged

variable {json : Json}
variable {response : Response}
variable {client : Client κ}
variable {result : Client κ × List (Output κ)}
variable {log : List (Output κ)}

theorem Silent.append
    {outputs : List (Output κ)}
    (front : Silent log)
    (back : Silent outputs) :
    Silent (log ++ outputs) := by
  constructor
  case sent =>
    rw [sentRequests, List.filterMap_append]
    exact List.append_eq_nil_iff.mpr ⟨front.sent, back.sent⟩
  all_goals rw [List.filterMap_append]
  case frames => rw [front.frames, back.frames]; rfl
  case scopes => rw [front.scopes, back.scopes]; rfl
  case breakpoints => rw [front.breakpoints, back.breakpoints]; rfl
  case children => rw [front.children, back.children]; rfl
  case locations => rw [front.locations, back.locations]; rfl
  case evaluations => rw [front.evaluations, back.evaluations]; rfl
  case sources => rw [front.sources, back.sources]; rfl

theorem Undisturbed.logged
    (undisturbed : Undisturbed client result)
    (silent : Silent log) :
    Undisturbed client (result.1, log ++ result.2) :=
  { undisturbed with silent := silent.append undisturbed.silent }

theorem Steady.logged
    (steady : Steady client result)
    (silent : Silent log) :
    Steady client (result.1, log ++ result.2) :=
  { steady with undisturbed := steady.undisturbed.logged silent }

theorem Replied.logged
    (replied : Replied json response client result)
    (silent : Silent log) :
    Replied json response client (result.1, log ++ result.2) :=
  { replied with
    sent := by
      rw [sentRequests, List.filterMap_append]
      exact List.append_eq_nil_iff.mpr ⟨silent.sent, replied.sent⟩
    framesEvents := by
      rw [List.filterMap_append, silent.frames]
      exact replied.framesEvents
    scopesEvents := by
      rw [List.filterMap_append, silent.scopes]
      exact replied.scopesEvents
    breakpointsEvents := by
      rw [List.filterMap_append, silent.breakpoints]
      exact replied.breakpointsEvents
    childrenEvents := by
      rw [List.filterMap_append, silent.children]
      exact replied.childrenEvents
    evaluations := by
      rw [List.filterMap_append, silent.evaluations]
      exact replied.evaluations
    sourceLoads := by
      rw [List.filterMap_append, silent.sources]
      exact replied.sourceLoads
    locationsEvents := by
      rw [List.filterMap_append, silent.locations]
      exact replied.locationsEvents }

end Logged

/-! ## The message handler as a whole -/

section OnMessage

variable (toolkit : Toolkit)
variable {json : Json}
variable {client : Client κ}

theorem onMessage_response
    {response : Response}
    (completed : client.handshakeState = .completed)
    (read : fromJson json = some (.response response)) :
    Replied json response client (onMessage toolkit json client) := by
  have replied :=
    (onResponse_replied toolkit json client response).logged
      (silent_logOutput client
        ("<-- ".toList ++ toolkit.printUnformatted json))
  unfold onMessage onSessionMessage
  simp only [if_pos completed, read]
  exact replied

/-- A reply to a request is a response with the command and the number. -/
theorem onMessage_reply
    {request : Request}
    (completed : client.handshakeState = .completed)
    (answers : Answers json request) :
    Replied json
      ⟨request.seq, messageSuccess json, request.body.command⟩ client
      (onMessage toolkit json client) :=
  onMessage_response toolkit completed (fromJson_of_answers answers)

theorem onMessage_other
    (completed : client.handshakeState = .completed)
    (notResponse :
      ∀ response, fromJson json ≠ some (.response response)) :
    Steady client (onMessage toolkit json client) := by
  have logged :=
    silent_logOutput client
      ("<-- ".toList ++ toolkit.printUnformatted json)
  have steady : Steady client (onSessionMessage toolkit json client) := by
    unfold onSessionMessage
    split
    · exact onEvent_steady toolkit json client _
    · next response read => exact absurd read (notResponse response)
    · exact onRequest_steady toolkit json client _
    · exact steady_of_silent client client.activeThreadId
        client.canInteract silent_nil
  have whole := steady.logged logged
  unfold onMessage
  simp only [if_pos completed]
  exact whole

theorem onMessage_waiting
    (json : Json)
    (waiting : client.handshakeState ≠ .completed) :
    Undisturbed client (onMessage toolkit json client) ∧
      (InitializeReply json →
        (onMessage toolkit json client).1.handshakeState = .completed) ∧
        (¬ InitializeReply json →
          Steady client (onMessage toolkit json client)) := by
  have logged :=
    silent_logOutput client
      ("<-- ".toList ++ toolkit.printUnformatted json)
  rcases onHandshake_undisturbed toolkit json client with
    ⟨undisturbed, completes, stays⟩
  have whole := undisturbed.logged logged
  have steady := fun notReply => (stays notReply).logged logged
  unfold onMessage
  simp only [if_neg waiting]
  exact ⟨whole, completes, steady⟩

end OnMessage

end DebuggerDap.DapClient.Replies
