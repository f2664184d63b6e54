import DebuggerDap.DapClient.State

/-!
# Handling a message of the adapter

`OnMessage` reads the header of the tree, takes the tag that belongs to a
reply from the matching queue and dispatches an event.  While the handshake
is not completed only an initialize response is looked at.
-/

namespace DebuggerDap.DapClient.OnMessage

open DebuggerDap.Text.Strings
open DebuggerDap.Protocol.JsonTree
open DebuggerDap.Protocol.Messages
open DebuggerDap.DapClient.State

variable {κ : Type*}

def errorMark : WxString :=
  "\"error\":\x7b\"format\":".toList

def errorEnd : WxString :=
  "\",".toList

/-- The string `SendDAPEvent` sets on an event, cut out of the printed tree. -/
def errorText (jsonStr : WxString) : WxString :=
  match find errorMark jsonStr with
  | none => []
  | some position =>
      let rest := jsonStr.drop (position + 18)
      match find errorEnd rest with
      | some ending => rest.take (ending + 1)
      | none => beforeFirst rest '\n'

def dapEvent
    (toolkit : Toolkit)
    (message : EventMessage)
    (json : Json) : DapEvent :=
  ⟨message, some json, errorText (toolkit.printUnformatted json)⟩

/-- `SendDAPEvent`; a stopped event also sets the active thread. -/
def sendDAPEvent
    (toolkit : Toolkit)
    (message : EventMessage)
    (json : Json)
    (client : Client κ) : Client κ × List (Output κ) :=
  let next :=
    match message with
    | .stoppedEvent threadId => { client with activeThreadId := threadId }
    | _ => client
  (next, [.event (dapEvent toolkit message json)])

/-- The feature bits an initialize response turns on. -/
def enabledFeatures (json : Json) : Finset Feature :=
  ((features.filter fun entry =>
    Json.getBool (messageBody json entry.2) false).map Prod.fst).toFinset

/-! ## Callbacks -/

structure EvaluateResponse where
  success : Bool
  result : WxString
  type : WxString
  variablesReference : Int
  deriving DecidableEq

/-- `EvaluateResponse::From`. -/
def evaluateResponse (json : Json) : EvaluateResponse where
  success := messageSuccess json
  result := Json.getString (messageBody json "result".toList) []
  type := Json.getString (messageBody json "type".toList) []
  variablesReference :=
    Json.getInteger (messageBody json "variablesReference".toList) (-1)

structure SourceResponse where
  success : Bool
  content : WxString
  mimeType : WxString
  deriving DecidableEq

/-- `SourceResponse::From`. -/
def sourceResponse (json : Json) : SourceResponse where
  success := messageSuccess json
  content := Json.getString (messageBody json "content".toList) []
  mimeType := Json.getString (messageBody json "mimeType".toList) []

def evaluatedOutput (callback : κ) (response : EvaluateResponse) : Output κ :=
  .evaluated callback response.success response.result response.type
    response.variablesReference

def sourceLoadedOutput (callback : κ) (response : SourceResponse) : Output κ :=
  .sourceLoaded callback response.success response.content response.mimeType

def handleEvaluateResponse
    (json : Json)
    (client : Client κ) : Client κ × List (Output κ) :=
  match client.evaluateQueue with
  | [] => (client, [])
  | callback :: waiting =>
      ({ client with evaluateQueue := waiting },
        [evaluatedOutput callback (evaluateResponse json)])

def handleSourceResponse
    (json : Json)
    (client : Client κ) : Client κ × List (Output κ) :=
  match client.loadSourcesQueue with
  | [] => (client, [])
  | callback :: waiting =>
      ({ client with loadSourcesQueue := waiting },
        [sourceLoadedOutput callback (sourceResponse json)])

/-! ## Responses -/

def attachRejected : List WxString :=
  ["\"success\":false".toList, "\"message\":\"Could not attach:".toList]

def onResponse
    (toolkit : Toolkit)
    (json : Json)
    (response : Response)
    (client : Client κ) : Client κ × List (Output κ) :=
  match response.command with
  | .stackTrace =>
      let refId := client.getFramesQueue.head?.getD notFound
      { client with getFramesQueue := client.getFramesQueue.tail }
        |> sendDAPEvent toolkit (.stackTraceResponse refId) json
  | .scopes =>
      let refId := client.getScopesQueue.head?.getD notFound
      { client with getScopesQueue := client.getScopesQueue.tail }
        |> sendDAPEvent toolkit (.scopesResponse refId) json
  | .variables =>
      let tag := client.getVariablesQueue.head?.getD (notFound, .variables)
      { client with getVariablesQueue := client.getVariablesQueue.tail }
        |> sendDAPEvent toolkit (.variablesResponse tag.1 tag.2) json
  | .stepIn => ({ client with canInteract := false }, [])
  | .stepOut => ({ client with canInteract := false }, [])
  | .next => ({ client with canInteract := false }, [])
  | .continue_ => ({ client with canInteract := false }, [])
  | .breakpointLocations =>
      let filed := client.requestIdToFilepath
      let isAnswer := fun (entry : Nat × WxString) =>
        (entry.1 : Int) == response.requestSeq
      let filepath := (filed.find? isAnswer).elim [] Prod.snd
      { client with
        requestIdToFilepath := filed.filter fun entry => !isAnswer entry }
        |> sendDAPEvent toolkit (.breakpointLocationsResponse filepath) json
  | .setFunctionBreakpoints =>
      client |> sendDAPEvent toolkit .setFunctionBreakpointsResponse json
  | .setExceptionBreakpoints =>
      client |> sendDAPEvent toolkit .setExceptionBreakpointsResponse json
  | .setBreakpoints =>
      let originSource := client.sourceBreakpointsQueue.head?.getD []
      { client with
        sourceBreakpointsQueue := client.sourceBreakpointsQueue.tail }
        |> sendDAPEvent toolkit (.setBreakpointsResponse originSource) json
  | .configurationDone =>
      client |> sendDAPEvent toolkit .configurationDoneResponse json
  | .launch => client |> sendDAPEvent toolkit .launchResponse json
  | .threads => client |> sendDAPEvent toolkit .threadsResponse json
  | .disassemble => client |> sendDAPEvent toolkit .disassembleResponse json
  | .readMemory => client |> sendDAPEvent toolkit .readMemoryResponse json
  | .source => client |> handleSourceResponse json
  | .evaluate => client |> handleEvaluateResponse json
  | .gotoTargets => client |> sendDAPEvent toolkit .gotoTargetsResponse json
  | .attach =>
      client
        |> sendDAPEvent toolkit
          (.attachResponse (toolkit.printUnformatted json)) json
  | .emptyAck =>
      -- Some adapters leave the command of a rejected attach empty.
      let jsonDump := toolkit.printUnformatted json
      if attachRejected.all fun mark => (find mark jsonDump).isSome then
        client |> sendDAPEvent toolkit (.attachResponse jsonDump) json
      else (client, [])
  | _ => (client, [])

/-! ## Events and reverse requests -/

def stoppedThread (json : Json) : Int :=
  Json.getInteger (messageBody json "threadId".toList) notFound

def onEvent
    (toolkit : Toolkit)
    (json : Json)
    (event : EventName)
    (client : Client κ) : Client κ × List (Output κ) :=
  match event with
  | .stopped =>
      { client with canInteract := true }
        |> sendDAPEvent toolkit (.stoppedEvent (stoppedThread json)) json
  | .process => client |> sendDAPEvent toolkit .processEvent json
  | .exited => client |> sendDAPEvent toolkit .exitedEvent json
  | .terminated => client |> sendDAPEvent toolkit .terminatedEvent json
  | .initialized => client |> sendDAPEvent toolkit .initializedEvent json
  | .output => client |> sendDAPEvent toolkit .outputEvent json
  | .breakpoint => client |> sendDAPEvent toolkit .breakpointEvent json
  | .continued =>
      { client with canInteract := false }
        |> sendDAPEvent toolkit .continuedEvent json
  | .module_ => client |> sendDAPEvent toolkit .moduleEvent json
  | .thread => (client, [])
  | .debugpyWaitingForServer => (client, [])

def onRequest
    (toolkit : Toolkit)
    (json : Json)
    (command : Command)
    (client : Client κ) : Client κ × List (Output κ) :=
  match command with
  | .runInTerminal => client |> sendDAPEvent toolkit .runInTerminalRequest json
  | _ => (client, [])

/-- The part of `OnMessage` before the handshake is completed. -/
def onHandshake
    (toolkit : Toolkit)
    (json : Json)
    (client : Client κ) : Client κ × List (Output κ) :=
  match fromJson json with
  | some (.response response) =>
      if response.command = .initialize_ then
        { client with
          handshakeState := .completed
          features := client.features ∪ enabledFeatures json }
          |> sendDAPEvent toolkit .initializeResponse json
      else (client, [])
  | _ => (client, [])

/-- The part of `OnMessage` after the handshake. -/
def onSessionMessage
    (toolkit : Toolkit)
    (json : Json)
    (client : Client κ) : Client κ × List (Output κ) :=
  match fromJson json with
  | some (.event event) => onEvent toolkit json event client
  | some (.response response) => onResponse toolkit json response client
  | some (.request command) => onRequest toolkit json command client
  | none => (client, [])

def onMessage
    (toolkit : Toolkit)
    (json : Json)
    (client : Client κ) : Client κ × List (Output κ) :=
  let logged :=
    client.logOutput ("<-- ".toList ++ toolkit.printUnformatted json)
  let handled :=
    if client.handshakeState = .completed then
      onSessionMessage toolkit json client
    else onHandshake toolkit json client
  (handled.1, logged ++ handled.2)

/-! ## One event for each message -/

theorem length_onResponse
    (toolkit : Toolkit)
    (json : Json)
    (response : Response)
    (client : Client κ) :
    (onResponse toolkit json response client).2.length ≤ 1 := by
  rcases response with ⟨requestSeq, success, command⟩
  cases command
  case evaluate =>
    unfold onResponse handleEvaluateResponse
    dsimp only
    split <;> simp
  case source =>
    unfold onResponse handleSourceResponse
    dsimp only
    split <;> simp
  case emptyAck =>
    unfold onResponse
    dsimp only
    split <;> simp [sendDAPEvent]
  all_goals first | exact Nat.le_refl 1 | exact Nat.zero_le 1

theorem length_onSessionMessage
    (toolkit : Toolkit)
    (json : Json)
    (client : Client κ) :
    (onSessionMessage toolkit json client).2.length ≤ 1 := by
  unfold onSessionMessage
  split
  · next event read =>
      cases event <;> first | exact Nat.le_refl 1 | exact Nat.zero_le 1
  · exact length_onResponse toolkit json _ client
  · next command read =>
      cases command <;> first | exact Nat.le_refl 1 | exact Nat.zero_le 1
  · exact Nat.zero_le 1

/-- Besides the log at most one thing happens for a message. -/
theorem onMessage_outputs
    (toolkit : Toolkit)
    (json : Json)
    (client : Client κ) :
    ∃ handled : List (Output κ),
      (onMessage toolkit json client).2 =
          client.logOutput
            ("<-- ".toList ++ toolkit.printUnformatted json) ++ handled ∧
        handled.length ≤ 1 := by
  by_cases completed : client.handshakeState = .completed
  · refine ⟨(onSessionMessage toolkit json client).2, ?_,
      length_onSessionMessage toolkit json client⟩
    simp only [onMessage, if_pos completed]
  · refine ⟨(onHandshake toolkit json client).2, ?_, ?_⟩
    · simp only [onMessage, if_neg completed]
    · unfold onHandshake
      split
      · split
        · exact Nat.le_refl 1
        · exact Nat.zero_le 1
      · exact Nat.zero_le 1

end DebuggerDap.DapClient.OnMessage
