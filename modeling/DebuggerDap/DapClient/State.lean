import DebuggerDap.Protocol.Messages
import DebuggerDap.Protocol.JsonRpc
import Mathlib.Data.Finset.Basic

/-!
# The state of `dap::Client` and its public operations

An operation maps the client state to the next one and to what it did in
order: messages handed to the transport, events dispatched to the plugin and
callbacks invoked.

Library functions the client calls and that decide nothing here are collected
in a `Toolkit`: printing of trees and requests, and two `wxFileName` queries.
A callback is an opaque value of a type `κ`.  The event handlers of the
plugin may call the client again; the client does this last in every
operation, so such calls are modelled as the operations that follow.
-/

namespace DebuggerDap.DapClient.State

open DebuggerDap.Text.Strings
open DebuggerDap.Protocol.JsonTree
open DebuggerDap.Protocol.Messages

structure Toolkit where
  /-- `cJSON_PrintUnformatted`. -/
  printUnformatted : Json → WxString
  /-- The unformatted text of `request.To()`. -/
  requestText : Request → WxString
  /-- `wxFileName(file).GetFullName()`. -/
  getFullName : WxString → WxString
  /-- `wxFileName(file).GetFullPath()`. -/
  getFullPath : WxString → WxString

/-- A toolkit that prints nothing and takes file names as they are. -/
def plainToolkit : Toolkit where
  printUnformatted := fun _ => []
  requestText := fun _ => []
  getFullName := id
  getFullPath := id

/-- `eFeatures`, one constructor for each bit. -/
inductive Feature where
  | supportsConfigurationDoneRequest
  | supportsFunctionBreakpoints
  | supportsConditionalBreakpoints
  | supportsHitConditionalBreakpoints
  | supportsEvaluateForHovers
  | supportsStepBack
  | supportsSetVariable
  | supportsRestartFrame
  | supportsGotoTargetsRequest
  | supportsStepInTargetsRequest
  | supportsCompletionsRequest
  | supportsModulesRequest
  | supportsRestartRequest
  | supportsExceptionOptions
  | supportsValueFormattingOptions
  | supportsExceptionInfoRequest
  | supportTerminateDebuggee
  | supportsDelayedStackTraceLoading
  | supportsLoadedSourcesRequest
  | supportsProgressReporting
  | supportsRunInTerminalRequest
  | supportsBreakpointLocationsRequest
  | supportsDisassembleRequest
  | supportsGotoRequest
  | supportsReadMemoryRequest
  deriving DecidableEq, Repr

/-- The features looked up in an initialize response, by property name. -/
def features : List (Feature × WxString) :=
  [(.supportsConfigurationDoneRequest,
      "supportsConfigurationDoneRequest".toList),
    (.supportsFunctionBreakpoints, "supportsFunctionBreakpoints".toList),
    (.supportsConditionalBreakpoints,
      "supportsConditionalBreakpoints".toList),
    (.supportsHitConditionalBreakpoints,
      "supportsHitConditionalBreakpoints".toList),
    (.supportsEvaluateForHovers, "supportsEvaluateForHovers".toList),
    (.supportsStepBack, "supportsStepBack".toList),
    (.supportsSetVariable, "supportsSetVariable".toList),
    (.supportsRestartFrame, "supportsRestartFrame".toList),
    (.supportsGotoTargetsRequest, "supportsGotoTargetsRequest".toList),
    (.supportsStepInTargetsRequest, "supportsStepInTargetsRequest".toList),
    (.supportsCompletionsRequest, "supportsCompletionsRequest".toList),
    (.supportsModulesRequest, "supportsModulesRequest".toList),
    (.supportsRestartRequest, "supportsRestartRequest".toList),
    (.supportsExceptionOptions, "supportsExceptionOptions".toList),
    (.supportsValueFormattingOptions,
      "supportsValueFormattingOptions".toList),
    (.supportsExceptionInfoRequest, "supportsExceptionInfoRequest".toList),
    (.supportTerminateDebuggee, "supportTerminateDebuggee".toList),
    (.supportsDelayedStackTraceLoading,
      "supportsDelayedStackTraceLoading".toList),
    (.supportsLoadedSourcesRequest, "supportsLoadedSourcesRequest".toList),
    (.supportsProgressReporting, "supportsProgressReporting".toList),
    (.supportsRunInTerminalRequest, "supportsRunInTerminalRequest".toList),
    (.supportsBreakpointLocationsRequest,
      "supportsBreakpointLocationsRequest".toList),
    (.supportsDisassembleRequest, "supportsDisassembleRequest".toList),
    (.supportsReadMemoryRequest, "supportsReadMemoryRequest".toList)]

inductive HandshakeState where
  | notPerformed
  | inProgress
  | completed
  deriving DecidableEq, Repr

/-- `wxNOT_FOUND`. -/
def notFound : Int := -1

/-- The members of `dap::Client`; `rpc` is the buffer of `m_rpc`. -/
structure Client (κ : Type*) where
  transport : Option Nat
  rpc : WxString
  shutdown : Bool
  terminated : Bool
  readerThread : Bool
  requestSequence : Nat
  handshakeState : HandshakeState
  activeThreadId : Int
  canInteract : Bool
  requestIdToFilepath : List (Nat × WxString)
  features : Finset Feature
  wantsLogEvents : Bool
  getFramesQueue : List Int
  getScopesQueue : List Int
  getVariablesQueue : List (Int × EvaluateContext)
  loadSourcesQueue : List κ
  evaluateQueue : List κ
  sourceBreakpointsQueue : List WxString

/-- A new client. -/
def Client.new (κ : Type*) : Client κ where
  transport := none
  rpc := []
  shutdown := false
  terminated := false
  readerThread := false
  requestSequence := 0
  handshakeState := .notPerformed
  activeThreadId := notFound
  canInteract := false
  requestIdToFilepath := []
  features := ∅
  wantsLogEvents := false
  getFramesQueue := []
  getScopesQueue := []
  getVariablesQueue := []
  loadSourcesQueue := []
  evaluateQueue := []
  sourceBreakpointsQueue := []

/-! ## What an operation does to the outside -/

/--
The object attached to a dispatched event.  Where the client adds data that
is not in the message, the constructor carries it; everything else is read
from the tree of the event.
-/
inductive EventMessage where
  | logEvent
  | lostConnection
  | initializeResponse
  | stoppedEvent (threadId : Int)
  | processEvent
  | exitedEvent
  | terminatedEvent
  | initializedEvent
  | outputEvent
  | breakpointEvent
  | continuedEvent
  | moduleEvent
  | stackTraceResponse (refId : Int)
  | scopesResponse (refId : Int)
  | variablesResponse (refId : Int) (context : EvaluateContext)
  | breakpointLocationsResponse (filepath : WxString)
  | setFunctionBreakpointsResponse
  | setExceptionBreakpointsResponse
  | setBreakpointsResponse (originSource : WxString)
  | configurationDoneResponse
  | launchResponse
  | threadsResponse
  | disassembleResponse
  | readMemoryResponse
  | gotoTargetsResponse
  | attachResponse (jsonDump : WxString)
  | runInTerminalRequest
  deriving DecidableEq, Repr

/-- A `DAPEvent`: its object, the tree it was read from and its string. -/
structure DapEvent where
  message : EventMessage
  json : Option Json
  string : WxString

/-- A response the plugin sends for a reverse request. -/
structure OutgoingResponse where
  seq : Int
  requestSeq : Int
  success : Bool
  command : Command
  text : WxString

inductive Output (κ : Type*) where
  | sent (request : Request)
  | sentResponse (response : OutgoingResponse)
  | event (event : DapEvent)
  | evaluated
      (callback : κ) (success : Bool) (result type : WxString)
      (variablesReference : Int)
  | sourceLoaded
      (callback : κ) (success : Bool) (content mimeType : WxString)

/-- The requests among what an operation did, in order. -/
def sentRequests {κ : Type*} (outputs : List (Output κ)) : List Request :=
  outputs.filterMap fun
    | .sent request => some request
    | _ => none

namespace Client

variable {κ : Type*}

/-! ## Reset and connection loss -/

/-- `Reset`: the reader thread is joined and the transport deleted. -/
def reset (client : Client κ) : Client κ :=
  { client with
    transport := none
    rpc := []
    shutdown := false
    terminated := false
    readerThread := false
    requestSequence := 0
    handshakeState := .notPerformed
    activeThreadId := notFound
    canInteract := false
    requestIdToFilepath := []
    features := ∅
    getFramesQueue := []
    getScopesQueue := []
    getVariablesQueue := []
    loadSourcesQueue := []
    evaluateQueue := []
    sourceBreakpointsQueue := [] }

/-- `SetTransport`: reset, take the transport and start the reader thread. -/
def setTransport (transport : Nat) (client : Client κ) : Client κ :=
  { client.reset with
    transport := some transport
    readerThread := true }

def onConnectionError (client : Client κ) : Client κ × List (Output κ) :=
  (client.reset, [.event ⟨.lostConnection, none, []⟩])

/-! ## Sending -/

def logOutput (client : Client κ) (text : WxString) : List (Output κ) :=
  if client.wantsLogEvents then [.event ⟨.logEvent, none, text⟩] else []

/--
`SendRequest`.  `JsonRPC::Send` throws only when there is no transport: the
socket transport catches the exceptions of its socket.
-/
def sendRequest
    (toolkit : Toolkit)
    (request : Request)
    (client : Client κ) : Client κ × List (Output κ) :=
  if client.transport.isSome then
    (client,
      .sent request ::
        client.logOutput ("--> ".toList ++ toolkit.requestText request))
  else client.onConnectionError

def sendResponse
    (response : OutgoingResponse)
    (client : Client κ) : Client κ × List (Output κ) :=
  if client.transport.isSome then
    (client,
      .sentResponse response ::
        client.logOutput ("--> ".toList ++ response.text))
  else client.onConnectionError

/-- `GetNextSequence`, without its result. -/
def nextSequence (client : Client κ) : Client κ :=
  { client with requestSequence := client.requestSequence + 1 }

/-- `MakeRequest`, the arguments filled in, then `SendRequest`. -/
def request
    (toolkit : Toolkit)
    (body : RequestBody)
    (client : Client κ) : Client κ × List (Output κ) :=
  let next := client.nextSequence
  next.sendRequest toolkit ⟨next.requestSequence, body⟩

/--
`MakeRequest() = MakeRequest()`: the right operand is made first and its
number is kept; the left operand draws a second number that is overwritten.
-/
def requestTwice
    (toolkit : Toolkit)
    (body : RequestBody)
    (client : Client κ) : Client κ × List (Output κ) :=
  let right := client.nextSequence
  let left := right.nextSequence
  left.sendRequest toolkit ⟨right.requestSequence, body⟩

/-- The thread a command is for: `wxNOT_FOUND` means the active one. -/
def resolveThread (client : Client κ) (threadId : Int) : Int :=
  if threadId = notFound then client.activeThreadId else threadId

def isSupported (client : Client κ) (feature : Feature) : Bool :=
  feature ∈ client.features

/-! ## The API -/

def initialize_
    (toolkit : Toolkit)
    (initArgs : Option InitializeRequestArguments)
    (client : Client κ) : Client κ × List (Output κ) :=
  let arguments :=
    initArgs.getD { clientID := "wxdap".toList, clientName := "wxdap".toList }
  let result := client.request toolkit (.initialize_ arguments)
  ({ result.1 with handshakeState := .inProgress }, result.2)

def setBreakpointsFile
    (toolkit : Toolkit)
    (file : WxString)
    (lines : List SourceBreakpoint)
    (client : Client κ) : Client κ × List (Output κ) :=
  { client with
    sourceBreakpointsQueue := client.sourceBreakpointsQueue ++ [file] }
    |>.requestTwice toolkit
      (.setBreakpoints ⟨toolkit.getFullName file, file, 0⟩ lines)

def configurationDone
    (toolkit : Toolkit)
    (client : Client κ) : Client κ × List (Output κ) :=
  client.requestTwice toolkit .configurationDone

/-- `Launch`; `program` and `args` are the head and the tail of `cmd`. -/
def launch
    (toolkit : Toolkit)
    (program : WxString)
    (args : List WxString)
    (workingDirectory : WxString)
    (env : Environment)
    (client : Client κ) : Client κ × List (Output κ) :=
  { client with activeThreadId := notFound }
    |>.requestTwice toolkit (.launch program args workingDirectory env)

def getThreads
    (toolkit : Toolkit)
    (client : Client κ) : Client κ × List (Output κ) :=
  client.requestTwice toolkit .threads

def getScopes
    (toolkit : Toolkit)
    (frameId : Int)
    (client : Client κ) : Client κ × List (Output κ) :=
  { client with getScopesQueue := client.getScopesQueue ++ [frameId] }
    |>.requestTwice toolkit (.scopes frameId)

def getFrames
    (toolkit : Toolkit)
    (threadId startingFrame frameCount : Int)
    (client : Client κ) : Client κ × List (Output κ) :=
  let resolved := client.resolveThread threadId
  { client with getFramesQueue := client.getFramesQueue ++ [resolved] }
    |>.request toolkit (.stackTrace resolved startingFrame frameCount)

def next
    (toolkit : Toolkit)
    (threadId : Int)
    (singleThread : Bool)
    (granularity : SteppingGranularity)
    (client : Client κ) : Client κ × List (Output κ) :=
  client.request toolkit
    (.next (client.resolveThread threadId) singleThread granularity.name)

def continue_
    (toolkit : Toolkit)
    (threadId : Int)
    (allThreads : Bool)
    (client : Client κ) : Client κ × List (Output κ) :=
  let resolved := client.resolveThread threadId
  client.request toolkit
    (.continue_ resolved (!allThreads || resolved == notFound))

def setExceptionBreakpoints
    (toolkit : Toolkit)
    (exceptionFilters : List WxString)
    (client : Client κ) : Client κ × List (Output κ) :=
  client.request toolkit (.setExceptionBreakpoints exceptionFilters)

def setFunctionBreakpoints
    (toolkit : Toolkit)
    (breakpoints : List FunctionBreakpoint)
    (client : Client κ) : Client κ × List (Output κ) :=
  client.request toolkit (.setFunctionBreakpoints breakpoints)

def stepIn
    (toolkit : Toolkit)
    (threadId : Int)
    (singleThread : Bool)
    (granularity : SteppingGranularity)
    (client : Client κ) : Client κ × List (Output κ) :=
  client.request toolkit
    (.stepIn (client.resolveThread threadId) singleThread granularity.name)

def stepOut
    (toolkit : Toolkit)
    (threadId : Int)
    (singleThread : Bool)
    (client : Client κ) : Client κ × List (Output κ) :=
  client.request toolkit
    (.stepOut (client.resolveThread threadId) singleThread)

def getChildrenVariables
    (toolkit : Toolkit)
    (variablesReference : Int)
    (context : EvaluateContext)
    (count : Int)
    (format : ValueDisplayFormat)
    (client : Client κ) : Client κ × List (Output κ) :=
  { client with
    getVariablesQueue :=
      client.getVariablesQueue ++ [(variablesReference, context)] }
    |>.request toolkit
      (.variables
        { variablesReference := variablesReference
          hex := format == ValueDisplayFormat.hex
          count := count })

def pause
    (toolkit : Toolkit)
    (threadId : Int)
    (client : Client κ) : Client κ × List (Output κ) :=
  client.request toolkit (.pause (client.resolveThread threadId))

/--
`BreakpointLocations`: the file is filed under the request's number after the
request was sent; `insert` keeps a file already filed under it.
-/
def breakpointLocations
    (toolkit : Toolkit)
    (filepath : WxString)
    (startLine endLine : Int)
    (client : Client κ) : Client κ × List (Output κ) :=
  if client.isSupported .supportsBreakpointLocationsRequest = false then
    (client, [])
  else
    let seq := client.nextSequence.requestSequence
    let result :=
      client.request toolkit (.breakpointLocations filepath startLine endLine)
    let filed := result.1.requestIdToFilepath
    ({ result.1 with
        requestIdToFilepath :=
          if (filed.lookup seq).isSome then filed
          else filed ++ [(seq, filepath)] },
      result.2)

def readMemory
    (toolkit : Toolkit)
    (memoryReference : WxString)
    (offset count : Int)
    (client : Client κ) : Client κ × List (Output κ) :=
  if client.isSupported .supportsReadMemoryRequest = false then (client, [])
  else client.request toolkit (.readMemory memoryReference offset count)

/-- `wxString::Format("0x%llx", address)`. -/
def formatAddress (address : UInt64) : WxString :=
  '0' :: 'x' :: Nat.toDigits 16 address.toNat

def getDisassemble
    (toolkit : Toolkit)
    (memAddr : UInt64)
    (offset instructionOffset instructionCount : Int)
    (client : Client κ) : Client κ × List (Output κ) :=
  client.request toolkit
    (.disassemble
      { memoryReference := formatAddress memAddr
        offset := offset
        instructionOffset := instructionOffset
        instructionCount := instructionCount
        resolveSymbols := true })

/-- `GetVariableInfo` files nothing; its `start` argument is not used. -/
def getVariableInfo
    (toolkit : Toolkit)
    (variablesReference : Int)
    (filter : WxString)
    (count : Int)
    (format : ValueDisplayFormat)
    (client : Client κ) : Client κ × List (Output κ) :=
  client.request toolkit
    (.variables
      { variablesReference := variablesReference
        hex := format == ValueDisplayFormat.hex
        count := count
        filter := filter })

def goto
    (toolkit : Toolkit)
    (threadId targetId : Int)
    (client : Client κ) : Client κ × List (Output κ) :=
  client.request toolkit (.goto threadId targetId)

def gotoTarget
    (toolkit : Toolkit)
    (source : WxString)
    (line column : Int)
    (client : Client κ) : Client κ × List (Output κ) :=
  if client.isSupported .supportsGotoTargetsRequest = false then (client, [])
  else
    let path := toolkit.getFullPath source
    client.request toolkit (.gotoTargets ⟨path, path, 0⟩ line column)

def loadSource
    (toolkit : Toolkit)
    (source : Source)
    (callback : κ)
    (client : Client κ) : Client κ × List (Output κ) :=
  if 0 < source.sourceReference then
    { client with loadSourcesQueue := client.loadSourcesQueue ++ [callback] }
      |>.request toolkit (.source source source.sourceReference)
  else (client, [])

def evaluateExpression
    (toolkit : Toolkit)
    (expression : WxString)
    (frameId : Int)
    (context : EvaluateContext)
    (callback : κ)
    (format : ValueDisplayFormat)
    (client : Client κ) : Client κ × List (Output κ) :=
  { client with evaluateQueue := client.evaluateQueue ++ [callback] }
    |>.request toolkit
      (.evaluate
        { expression := expression
          frameId := frameId
          context := context.name
          hex := format == ValueDisplayFormat.hex })

def attach
    (toolkit : Toolkit)
    (pid : Int)
    (client : Client κ) : Client κ × List (Output κ) :=
  client.request toolkit (.attach pid)

def disconnect
    (toolkit : Toolkit)
    (terminate restart : Bool)
    (client : Client κ) : Client κ × List (Output κ) :=
  client.request toolkit (.disconnect restart terminate)

def terminate
    (toolkit : Toolkit)
    (restart : Bool)
    (client : Client κ) : Client κ × List (Output κ) :=
  client.request toolkit (.terminate restart)

end Client

/-! ## Operations as values -/

/--
The public operations of a session.  `Initialize`, `SetTransport` and `Reset`
begin and end sessions and are not among them.
-/
inductive ApiCall (κ : Type*) where
  | setWantsLogEvents (wants : Bool)
  | getNextSequence
  | sendResponse (response : OutgoingResponse)
  | setBreakpointsFile (file : WxString) (lines : List SourceBreakpoint)
  | configurationDone
  | launch
      (program : WxString) (args : List WxString)
      (workingDirectory : WxString) (env : Environment)
  | getThreads
  | getScopes (frameId : Int)
  | getFrames (threadId startingFrame frameCount : Int)
  | next
      (threadId : Int) (singleThread : Bool)
      (granularity : SteppingGranularity)
  | continue_ (threadId : Int) (allThreads : Bool)
  | setExceptionBreakpoints (exceptionFilters : List WxString)
  | setFunctionBreakpoints (breakpoints : List FunctionBreakpoint)
  | stepIn
      (threadId : Int) (singleThread : Bool)
      (granularity : SteppingGranularity)
  | stepOut (threadId : Int) (singleThread : Bool)
  | getChildrenVariables
      (variablesReference : Int) (context : EvaluateContext) (count : Int)
      (format : ValueDisplayFormat)
  | pause (threadId : Int)
  | breakpointLocations (filepath : WxString) (startLine endLine : Int)
  | readMemory (memoryReference : WxString) (offset count : Int)
  | getDisassemble
      (memAddr : UInt64) (offset instructionOffset instructionCount : Int)
  | getVariableInfo
      (variablesReference : Int) (filter : WxString) (count : Int)
      (format : ValueDisplayFormat)
  | goto (threadId targetId : Int)
  | gotoTarget (source : WxString) (line column : Int)
  | loadSource (source : Source) (callback : κ)
  | evaluateExpression
      (expression : WxString) (frameId : Int) (context : EvaluateContext)
      (callback : κ) (format : ValueDisplayFormat)
  | attach (pid : Int)
  | disconnect (terminate restart : Bool)
  | terminate (restart : Bool)

/-- Perform an operation on a client. -/
def Client.perform
    {κ : Type*}
    (toolkit : Toolkit)
    (call : ApiCall κ)
    (client : Client κ) : Client κ × List (Output κ) :=
  match call with
  | .setWantsLogEvents wants => ({ client with wantsLogEvents := wants }, [])
  | .getNextSequence => (client.nextSequence, [])
  | .sendResponse response => client.sendResponse response
  | .setBreakpointsFile file lines =>
      client.setBreakpointsFile toolkit file lines
  | .configurationDone => client.configurationDone toolkit
  | .launch program args workingDirectory env =>
      client.launch toolkit program args workingDirectory env
  | .getThreads => client.getThreads toolkit
  | .getScopes frameId => client.getScopes toolkit frameId
  | .getFrames threadId startingFrame frameCount =>
      client.getFrames toolkit threadId startingFrame frameCount
  | .next threadId singleThread granularity =>
      client.next toolkit threadId singleThread granularity
  | .continue_ threadId allThreads =>
      client.continue_ toolkit threadId allThreads
  | .setExceptionBreakpoints exceptionFilters =>
      client.setExceptionBreakpoints toolkit exceptionFilters
  | .setFunctionBreakpoints breakpoints =>
      client.setFunctionBreakpoints toolkit breakpoints
  | .stepIn threadId singleThread granularity =>
      client.stepIn toolkit threadId singleThread granularity
  | .stepOut threadId singleThread =>
      client.stepOut toolkit threadId singleThread
  | .getChildrenVariables variablesReference context count format =>
      client.getChildrenVariables toolkit variablesReference context count
        format
  | .pause threadId => client.pause toolkit threadId
  | .breakpointLocations filepath startLine endLine =>
      client.breakpointLocations toolkit filepath startLine endLine
  | .readMemory memoryReference offset count =>
      client.readMemory toolkit memoryReference offset count
  | .getDisassemble memAddr offset instructionOffset instructionCount =>
      client.getDisassemble toolkit memAddr offset instructionOffset
        instructionCount
  | .getVariableInfo variablesReference filter count format =>
      client.getVariableInfo toolkit variablesReference filter count format
  | .goto threadId targetId => client.goto toolkit threadId targetId
  | .gotoTarget source line column =>
      client.gotoTarget toolkit source line column
  | .loadSource source callback => client.loadSource toolkit source callback
  | .evaluateExpression expression frameId context callback format =>
      client.evaluateExpression toolkit expression frameId context callback
        format
  | .attach pid => client.attach toolkit pid
  | .disconnect terminate restart =>
      client.disconnect toolkit terminate restart
  | .terminate restart => client.terminate toolkit restart

end DebuggerDap.DapClient.State
