import DebuggerDap.DapClient.History
import DebuggerDap.Plugin.Backtrace
import DebuggerDap.Plugin.Lifecycle

/-!
# The plugin at work

A session joins the debugger of `Lifecycle` with the call stack and with a
trace of what was done: what the client did, which messages were handled and
where the session was reset.

The commands of the user and the handlers of events send their requests
through the client.  What the other views add to a request is part of the
label.  A step has no result where a frame is looked up out of range.
-/

namespace DebuggerDap.Plugin.Sessions

open DebuggerDap.Text.Strings
open DebuggerDap.Protocol.JsonTree
open DebuggerDap.Protocol.Messages
open DebuggerDap.DapClient.State
open DebuggerDap.DapClient.OnMessage
open DebuggerDap.DapClient.Replies (InitializeReply)
open DebuggerDap.DapClient.History
open DebuggerDap.Plugin.Lifecycle
open DebuggerDap.Plugin.Backtrace

variable {κ : Type*}

/-- The settings of a debugger and the reading of an address. -/
structure Setup extends Site where
  hexStrToBinary : WxString → UInt64

/-- What is remembered of a run. -/
inductive Mark (κ : Type*) where
  | output (output : Output κ)
  /-- A message that came after the handshake was handled. -/
  | handled (json : Json)
  /-- `SwitchToThread` requested the frames of a thread. -/
  | threadSelected (thread : Int)
  | sessionReset

/-- The trace lists the marks newest first. -/
structure Session (κ : Type*) where
  debugger : Debugger κ
  callStack : CallStack
  trace : List (Mark κ)

namespace Session

/-- The constructor. -/
def new (κ : Type*) : Session κ :=
  ⟨Debugger.new κ, CallStack.new, []⟩

def isRunning (session : Session κ) : Bool :=
  session.debugger.state.isRunning

def isStopped (session : Session κ) : Bool :=
  session.debugger.state.isStopped

/-- The guard of most commands that need a debuggee. -/
def runningAndStopped (session : Session κ) : Bool :=
  session.isRunning && session.isStopped

/-! ## Reset and sending -/

/-- `DAPDebuggerResetData`. -/
def resetData (session : Session κ) : Session κ where
  debugger := session.debugger.resetData
  callStack := session.callStack.resetData
  trace := .sessionReset :: session.trace

def onConnectionError (session : Session κ) : Session κ :=
  if session.isRunning = false then session else session.resetData

/-- The marks of what the client did. -/
def marks (outputs : List (Output κ)) : List (Mark κ) :=
  (outputs.map .output).reverse

/-- A call of the client; a lost connection is told to the plugin. -/
def send
    (operation : Client κ → Client κ × List (Output κ))
    (session : Session κ) : Session κ :=
  let result := operation session.debugger.client
  let sent : Session κ :=
    { session with
      debugger := { session.debugger with client := result.1 }
      trace := marks result.2 ++ session.trace }
  if result.2.any Debugger.isLostConnection then sent.onConnectionError
  else sent

def perform
    (setup : Setup)
    (call : ApiCall κ)
    (session : Session κ) : Session κ :=
  session.send (Client.perform setup.toolkit call)

/-- `UpdateDAPSetBreakpointsByFileName`, its lines given. -/
def announce
    (setup : Setup)
    (file : WxString)
    (lines : List SourceBreakpoint)
    (session : Session κ) : Session κ :=
  if session.runningAndStopped = false then session
  else session.perform setup (.setBreakpointsFile file lines)

def announceAll
    (setup : Setup)
    (announcements : List (WxString × List SourceBreakpoint))
    (session : Session κ) : Session κ :=
  announcements.foldl (fun session announcement =>
    session.announce setup announcement.1 announcement.2) session

/-! ## Starting and ending a session -/

def launchDebugger
    (setup : Setup)
    (host : Host)
    (dapPortNumber : WxString)
    (session : Session κ) : Session κ × Int :=
  let fresh := session.resetData
  if host.dapExecutable = [] then (fresh, 1)
  else if dapPortNumber = [] then (fresh, 2)
  else
    let launched : Session κ :=
      if host.runDapServer then
        { fresh with debugger := fresh.debugger.launchDAPDebugger host }
      else fresh
    if host.connects = false then
      ({ launched with debugger := launched.debugger.killAdapter }, 1)
    else
      let arguments :=
        if launched.debugger.pidAttached = 0 then host.executionParameters
        else []
      let connected : Session κ :=
        { launched with
          debugger :=
            { launched.debugger with
              state := launched.debugger.state.addState .connected
              client := launched.debugger.client.setTransport 0
              debuggeeStartCmd := host.debuggee.getD [] :: arguments } }
      (connected.send fun client =>
        client.initialize_ setup.toolkit (some Debugger.initArgs), 0)

def startDebugger
    (setup : Setup)
    (host : Host)
    (session : Session κ) : Session κ × Int :=
  let pidAttached := session.debugger.pidAttached
  if host.compilerFound = false then (session, 2)
  else if host.targetFound = false ∧ pidAttached = 0 then (session, 3)
  else if host.executableExists = false then (session, 4)
  else
    match host.port with
    | .error code => (session, code)
    | .ok dapPortNumber =>
        if pidAttached = 0 ∧ host.debuggee.isNone = true then (session, 6)
        else session.launchDebugger setup host dapPortNumber

def setPidAttached (pid : Int) (session : Session κ) : Session κ :=
  { session with debugger := { session.debugger with pidAttached := pid } }

def attachToProcess
    (setup : Setup)
    (host : Host)
    (pid : WxString)
    (session : Session κ) : Session κ :=
  match setup.toLong pid with
  | none => session
  | some number =>
      ((session.setPidAttached number).startDebugger setup host).1
        |>.send fun client => client.attach setup.toolkit number

def detachFromProcess (setup : Setup) (session : Session κ) : Session κ :=
  if session.debugger.isAttachedToProcess = false ∨
      session.isRunning = false then session
  else
    (session.send fun client =>
      client.disconnect setup.toolkit false false).setPidAttached 0

def stop (setup : Setup) (session : Session κ) : Session κ :=
  if session.isRunning = false then session
  else
    (session.send fun client =>
      client.disconnect setup.toolkit true false).resetData

end Session

/-! ## Events of the client -/

/-- What the handlers of an event find outside the session. -/
structure Reaction (κ : Type*) where
  /-- The requests of the views, those of other events left out. -/
  requests : List (ApiCall κ)
  announcements : List (WxString × List SourceBreakpoint)
  /-- `OnProcessBreakpointData` comes to its end. -/
  handlerReturns : Bool
  backtraceDialog : Bool
  autoSwitchFrame : Bool

/-- The requests the handlers of an event may send by themselves. -/
def mayRequest : EventMessage → ApiCall κ → Bool
  | .initializedEvent, .setFunctionBreakpoints _ => true
  | .initializedEvent, .setExceptionBreakpoints _ => true
  | .stackTraceResponse _, .getScopes _ => true
  | .scopesResponse _, .getChildrenVariables _ _ _ _ => true
  | .variablesResponse _ _, .getChildrenVariables _ _ _ _ => true
  | .gotoTargetsResponse, .goto _ _ => true
  | .runInTerminalRequest, .sendResponse _ => true
  | _, _ => false

namespace Session

/-- The requests among a reaction that belong to an event. -/
def react
    (setup : Setup)
    (message : EventMessage)
    (reaction : Reaction κ)
    (session : Session κ) : Session κ :=
  (reaction.requests.filter (mayRequest message)).foldl
    (fun session call => session.perform setup call) session

/-- The active frame is tested for a negative number, then looked up. -/
def withActiveFrame
    (session : Session κ)
    (action : StackFrame → Session κ) : Option (Session κ) :=
  let activeStackFrame := session.callStack.getActiveStackFrame
  if activeStackFrame < 0 then some session
  else (session.callStack.getStackFrame activeStackFrame).map action

def onAttachToProcessResponse
    (success : Bool)
    (session : Session κ) : Session κ :=
  { session with
    debugger := session.debugger.onAttachToProcessResponse success }

def onInitializeResponse
    (setup : Setup)
    (success : Bool)
    (session : Session κ) : Session κ :=
  if success = false ∨ session.debugger.pidAttached ≠ 0 then session
  else
    let command := session.debugger.debuggeeStartCmd
    let program := command.head?.getD []
    let moved : Session κ :=
      { session with
        debugger := { session.debugger with debuggeeStartCmd := [] } }
    let launched :=
      moved.send fun client =>
        client.launch setup.toolkit program command.tail
          (setup.exeBasePath program) setup.debuggeeEnv
    { launched with
      debugger :=
        { launched.debugger with
          state := launched.debugger.state.addState .running } }

def onStartResponse (success : Bool) (session : Session κ) : Session κ :=
  if success then session else session.resetData

/-- The part of `OnStopped` before the reason is looked at. -/
def markStopped (session : Session κ) : Session κ :=
  { session with
    debugger :=
      { session.debugger with
        state := session.debugger.state.addState .stopped }
    callStack := session.callStack.resetData }

/--
`OnStopped`: the frames and the threads are requested unless
`OnProcessBreakpointData` throws, which comes first.
-/
def onStopped
    (setup : Setup)
    (reaction : Reaction κ)
    (session : Session κ) : Session κ :=
  let announced := session.markStopped.announceAll setup reaction.announcements
  if reaction.handlerReturns = false then announced
  else
    (announced.perform setup (.getFrames notFound 0 0)).perform setup
      .getThreads

def onInitializedEvent
    (setup : Setup)
    (reaction : Reaction κ)
    (session : Session κ) : Session κ :=
  ((session.announceAll setup reaction.announcements).react setup
    .initializedEvent reaction).perform setup .configurationDone

def onStackTrace
    (setup : Setup)
    (message : EventMessage)
    (json : Json)
    (reaction : Reaction κ)
    (session : Session κ) : Option (Session κ) :=
  let display : CallStack.Display :=
    { backtraceDialog := reaction.backtraceDialog
      autoSwitchFrame := reaction.autoSwitchFrame
      runningAndStopped := session.runningAndStopped }
  (session.callStack.onStackTrace display (stackFrames json)).map fun stack =>
    { session with callStack := stack }.react setup message reaction

def removeConnected (session : Session κ) : Session κ :=
  { session with
    debugger :=
      { session.debugger with
        state := session.debugger.state.removeState .connected } }

def onDapEvent
    (setup : Setup)
    (json : Json)
    (reaction : Reaction κ)
    (message : EventMessage)
    (session : Session κ) : Option (Session κ) :=
  let success := messageSuccess json
  match message with
  | .lostConnection => some session.onConnectionError
  | .initializeResponse => some (session.onInitializeResponse setup success)
  | .launchResponse => some (session.onStartResponse success)
  | .configurationDoneResponse => some (session.onStartResponse success)
  | .attachResponse _ => some (session.onAttachToProcessResponse success)
  | .initializedEvent => some (session.onInitializedEvent setup reaction)
  | .stoppedEvent _ => some (session.onStopped setup reaction)
  | .exitedEvent => some session.removeConnected
  | .terminatedEvent => some session.resetData
  | .stackTraceResponse refId =>
      session.onStackTrace setup (.stackTraceResponse refId) json reaction
  | .disassembleResponse =>
      if success then session.withActiveFrame fun _ => session
      else some session
  | .gotoTargetsResponse =>
      if success then
        session.withActiveFrame fun _ =>
          session.react setup .gotoTargetsResponse reaction
      else some session
  | .setBreakpointsResponse _ =>
      some (session.announceAll setup reaction.announcements)
  | _ => some (session.react setup message reaction)

def onOutput
    (setup : Setup)
    (json : Json)
    (reaction : Reaction κ)
    (session : Session κ)
    (output : Output κ) : Option (Session κ) :=
  match output with
  | .event event => session.onDapEvent setup json reaction event.message
  | _ => some session

/-- The session once the client has looked at a message. -/
def receive
    (setup : Setup)
    (json : Json)
    (session : Session κ) : Session κ :=
  let client := session.debugger.client
  let result := DapClient.OnMessage.onMessage setup.toolkit json client
  let told :=
    if client.handshakeState = .completed then
      .handled json :: session.trace
    else session.trace
  { session with
    debugger := { session.debugger with client := result.1 }
    trace := marks result.2 ++ told }

/-- A message of the adapter and the handlers of its events. -/
def onMessage
    (setup : Setup)
    (json : Json)
    (reaction : Reaction κ)
    (session : Session κ) : Option (Session κ) :=
  let outputs :=
    (DapClient.OnMessage.onMessage setup.toolkit json
      session.debugger.client).2
  outputs.foldlM (onOutput setup json reaction) (session.receive setup json)

end Session

/-! ## Commands of the user -/

inductive DebugWindow (κ : Type*) where
  | backtrace
  | threads
  | cpuRegisters (shown : Bool)
  | disassembly (shown : Bool)
  /-- The address and the number of bytes, with the callback for the reply. -/
  | examineMemory
      (shown : Bool) (address : WxString) (bytes : Nat) (callback : κ)
  | memoryRange
  | watches

inductive UserCommand (κ : Type*) where
  | continue_
  | next
  | stepIntoInstruction
  | step
  | stepOut
  | break_
  | setNextStatement (codelldb : Bool) (filename : WxString) (line : Int)
  /-- `RunToCursor` with the announcement of its breakpoint. -/
  | runToCursor (announcement : WxString × List SourceBreakpoint)
  /-- Adding, deleting and enabling a breakpoint announce a file. -/
  | editBreakpoint (announcement : WxString × List SourceBreakpoint)
  | deleteAllBreakpoints (files : List WxString)
  /-- `UpdateBreakpoint`, once its dialog is accepted. -/
  | updateBreakpoint
      (announcements : List (WxString × List SourceBreakpoint))
  | expandWatch (variablesReference : Int)
  | updateWatch (requestSequence : Int) (symbol : WxString) (callback : κ)
  | sendCommand (cmd : WxString) (callback : κ)
  | onValueTooltip (token : WxString) (callback : κ)
  | switchToFrame (number : Int)
  | switchToThread (threadNumber : Int)
  | requestUpdate (window : DebugWindow κ)

/-- The expression `GetMemoryWithCallback` evaluates. -/
def memoryExpression (tokenStr : WxString) (count : Nat) : WxString :=
  if "?".toList.isPrefixOf tokenStr ∧ 1 < tokenStr.length then tokenStr.drop 1
  else if "$$".toList.isPrefixOf tokenStr then
    "p/x ".toList ++ tokenStr.drop 1
  else "x/".toList ++ Nat.toDigits 10 count ++ "xb ".toList ++ tokenStr

namespace Session

/-- Evaluate an expression in the active frame, if there is one. -/
def evaluateInFrame
    (setup : Setup)
    (expression : WxString)
    (context : EvaluateContext)
    (callback : κ)
    (session : Session κ) : Option (Session κ) :=
  session.withActiveFrame fun frame =>
    session.perform setup
      (.evaluateExpression expression frame.dapStackId context callback
        .native)

/-- An empty text is not evaluated, but its frame is looked up. -/
def evaluateText
    (setup : Setup)
    (text expression : WxString)
    (callback : κ)
    (session : Session κ) : Option (Session κ) :=
  if text = [] then session.withActiveFrame fun _ => session
  else session.evaluateInFrame setup expression .repl callback

def requestUpdate
    (setup : Setup)
    (window : DebugWindow κ)
    (session : Session κ) : Option (Session κ) :=
  if session.runningAndStopped = false then some session
  else
    match window with
    | .backtrace => some (session.perform setup (.getFrames notFound 0 0))
    | .threads => some (session.perform setup .getThreads)
    | .cpuRegisters shown =>
        if shown = false then some session
        else
          session.withActiveFrame fun frame =>
            session.perform setup (.getScopes frame.dapStackId)
    | .disassembly shown =>
        if shown = false then some session
        else
          session.withActiveFrame fun frame =>
            session.perform setup
              (.getDisassemble
                (setup.hexStrToBinary frame.instructionPointerReference)
                0 0 16)
    | .examineMemory shown address bytes callback =>
        if shown = false ∨ address = [] ∨ bytes = 0 then some session
        else
          session.evaluateText setup address
            (memoryExpression address bytes) callback
    | .memoryRange => some session
    | .watches => some session

def switchToThread
    (setup : Setup)
    (threadNumber : Int)
    (session : Session κ) : Session κ :=
  if session.runningAndStopped = false then session
  else
    let selected : Session κ :=
      { session with
        callStack := session.callStack.switchToThread threadNumber
        trace := .threadSelected threadNumber :: session.trace }
    selected.perform setup (.getFrames threadNumber 0 0)

def switchToFrame
    (number : Int)
    (session : Session κ) : Option (Session κ) :=
  if session.runningAndStopped = false then some session
  else
    (session.callStack.switchToFrame number).map fun stack =>
      { session with callStack := stack }

def command
    (setup : Setup)
    (command : UserCommand κ)
    (session : Session κ) : Option (Session κ) :=
  match command with
  | .continue_ => some (session.perform setup (.continue_ notFound true))
  | .next => some (session.perform setup (.next notFound true .line))
  | .stepIntoInstruction =>
      some (session.perform setup (.stepIn notFound true .instruction))
  | .step => some (session.perform setup (.stepIn notFound true .line))
  | .stepOut => some (session.perform setup (.stepOut notFound true))
  | .break_ => some (session.perform setup (.pause notFound))
  | .setNextStatement codelldb filename line =>
      if codelldb = false ∨ session.isStopped = false then some session
      else some (session.perform setup (.gotoTarget filename line 1))
  | .runToCursor announcement =>
      if session.runningAndStopped = false then some session
      else
        some
          ((session.announce setup announcement.1 announcement.2).perform
            setup (.continue_ notFound true))
  | .editBreakpoint announcement =>
      some (session.announce setup announcement.1 announcement.2)
  | .deleteAllBreakpoints files =>
      if session.isRunning = false then some session
      else
        some (files.foldl (fun session file =>
          session.perform setup (.setBreakpointsFile file [])) session)
  | .updateBreakpoint announcements =>
      if session.isStopped = false then
        some ((session.perform setup (.pause notFound)).announceAll setup
          announcements)
      else
        some ((session.announceAll setup announcements).perform setup
          (.continue_ notFound true))
  | .expandWatch variablesReference =>
      if session.runningAndStopped = false then some session
      else
        some (session.perform setup
          (.getChildrenVariables variablesReference .variables 0 .native))
  | .updateWatch requestSequence symbol callback =>
      if session.isRunning = false then some session
      else
        (session.perform setup
          (.getVariableInfo requestSequence [] 1 .native)).evaluateInFrame
            setup symbol .watch callback
  | .sendCommand cmd callback =>
      if session.runningAndStopped = false ∨ cmd = [] then some session
      else session.evaluateText setup cmd cmd callback
  | .onValueTooltip token callback =>
      session.evaluateInFrame setup token .hover callback
  | .switchToFrame number => session.switchToFrame number
  | .switchToThread threadNumber =>
      some (session.switchToThread setup threadNumber)
  | .requestUpdate window => session.requestUpdate setup window

end Session

/-! ## Steps -/

inductive Label (κ : Type*) where
  | startDebugger (host : Host)
  | attachToProcess (pid : WxString) (host : Host)
  | detachFromProcess
  | stop
  | message (json : Json) (reaction : Reaction κ)
  | connectionError
  | projectOpened
  | projectClosed
  | release
  | command (command : UserCommand κ)

def step
    (setup : Setup)
    (session : Session κ)
    (label : Label κ) : Option (Session κ) :=
  match label with
  | .startDebugger host => some (session.startDebugger setup host).1
  | .attachToProcess pid host =>
      some (session.attachToProcess setup host pid)
  | .detachFromProcess => some (session.detachFromProcess setup)
  | .stop => some (session.stop setup)
  | .message json reaction => session.onMessage setup json reaction
  | .connectionError => some (session.send Client.onConnectionError)
  | .projectOpened =>
      some
        { session with
          debugger :=
            { session.debugger with
              state := session.debugger.state.addState .stopped } }
  | .projectClosed =>
      some { session with callStack := session.callStack.resetData }
  | .release => some session.resetData
  | .command command => session.command setup command

/-! ## The event a message is turned into -/

/-- The first event among some outputs, besides the log. -/
def firstEvent (outputs : List (Output κ)) : Option EventMessage :=
  (outputs.filterMap Transition.eventOf).find? fun event => event ≠ .logEvent

/-- The event dispatched for a message, besides the log. -/
def dispatched
    (toolkit : Toolkit)
    (json : Json)
    (client : Client κ) : Option EventMessage :=
  firstEvent (DapClient.OnMessage.onMessage toolkit json client).2

section Dispatch

variable {toolkit : Toolkit}
variable {json : Json}
variable {client : Client κ}

theorem firstEvent_logged (text : WxString) (outputs : List (Output κ)) :
    firstEvent (client.logOutput text ++ outputs) = firstEvent outputs := by
  unfold firstEvent Client.logOutput
  split
  · rfl
  · rfl

theorem dispatched_completed
    (completed : client.handshakeState = .completed) :
    dispatched toolkit json client =
      firstEvent (onSessionMessage toolkit json client).2 := by
  have handled :
      (onMessage toolkit json client).2 =
        client.logOutput ("<-- ".toList ++ toolkit.printUnformatted json) ++
          (onSessionMessage toolkit json client).2 := by
    unfold onMessage
    simp only [if_pos completed]
  show firstEvent (onMessage toolkit json client).2 = _
  rw [handled, firstEvent_logged]

/-- Before the handshake is completed only its reply is dispatched. -/
theorem dispatched_waiting
    (waiting : client.handshakeState ≠ .completed) :
    dispatched toolkit json client = none ∨
      dispatched toolkit json client = some .initializeResponse := by
  show firstEvent (onMessage toolkit json client).2 = none ∨
    firstEvent (onMessage toolkit json client).2 = some .initializeResponse
  by_cases reply : InitializeReply json
  · rw [onMessage_completes toolkit json waiting reply, firstEvent_logged]
    exact Or.inr rfl
  · rw [onMessage_ignored toolkit json waiting reply,
      ← List.append_nil (client.logOutput _), firstEvent_logged]
    exact Or.inl rfl

/-- What a message does for which an event is dispatched. -/
structure Delivers
    (toolkit : Toolkit)
    (json : Json)
    (client : Client κ)
    (message : EventMessage)
    (result : Client κ × List (Output κ)) : Prop where
  transport : result.1.transport = client.transport
  activeThreadId :
    result.1.activeThreadId =
      match message with
      | .stoppedEvent threadId => threadId
      | _ => client.activeThreadId
  outputs : result.2 = [.event (dapEvent toolkit message json)]

/-- The event dispatched in a session is all that happens for its message. -/
theorem onSessionMessage_delivers
    {message : EventMessage}
    (told :
      firstEvent (onSessionMessage toolkit json client).2 = some message) :
    Delivers toolkit json client message
      (onSessionMessage toolkit json client) := by
  unfold onSessionMessage at told ⊢
  split at told
  · next event read =>
      cases event <;> cases told <;> exact ⟨rfl, rfl, rfl⟩
  · next response read =>
      rcases response with ⟨requestSeq, success, command⟩
      cases command
      case evaluate =>
        unfold onResponse handleEvaluateResponse at told
        dsimp only at told
        split at told <;> cases told
      case source =>
        unfold onResponse handleSourceResponse at told
        dsimp only at told
        split at told <;> cases told
      case emptyAck =>
        unfold onResponse at told ⊢
        dsimp only at told ⊢
        split at told
        · next rejected =>
            cases told
            rw [if_pos rejected]
            exact ⟨rfl, rfl, rfl⟩
        · cases told
      all_goals cases told <;> exact ⟨rfl, rfl, rfl⟩
  · next command read =>
      cases command <;> cases told
      exact ⟨rfl, rfl, rfl⟩
  · cases told

end Dispatch

namespace Session

variable (setup : Setup)
variable (json : Json)
variable (reaction : Reaction κ)

/-- The handlers of some events send nothing. -/
theorem react_of_silent
    {message : EventMessage}
    (silent : ∀ call : ApiCall κ, mayRequest message call = false)
    (session : Session κ) :
    session.react setup message reaction = session := by
  have nothing : reaction.requests.filter (mayRequest message) = [] :=
    List.filter_eq_nil_iff.mpr fun call _ => by
      rw [silent call]
      exact Bool.false_ne_true
  unfold react
  rw [nothing]
  rfl

theorem onDapEvent_logEvent (session : Session κ) :
    session.onDapEvent setup json reaction .logEvent = some session :=
  congrArg some (react_of_silent setup reaction (fun _ => rfl) session)

/-- Log events are not handled by the plugin. -/
theorem foldlM_logged
    (logged : List (Output κ))
    (onlyLog :
      ∀ event ∈ logged.filterMap Transition.eventOf, event = .logEvent)
    (session : Session κ) :
    logged.foldlM (onOutput setup json reaction) session = some session := by
  induction logged with
  | nil => rfl
  | cons output logged ih =>
      have ignored :
          session.onOutput setup json reaction output = some session := by
        cases output with
        | event event =>
            have log : event.message = .logEvent :=
              onlyLog event.message List.mem_cons_self
            show session.onDapEvent setup json reaction event.message = _
            rw [log, onDapEvent_logEvent]
        | sent request => rfl
        | sentResponse response => rfl
        | evaluated => rfl
        | sourceLoaded => rfl
      rw [List.foldlM_cons, ignored]
      refine ih fun event member => onlyLog event ?_
      rcases List.mem_filterMap.mp member with ⟨other, among, isEvent⟩
      exact List.mem_filterMap.mpr
        ⟨other, List.mem_cons_of_mem _ among, isEvent⟩

/-- A message is handled by the handlers of the event dispatched for it. -/
theorem onMessage_eq (session : Session κ) :
    session.onMessage setup json reaction =
      match dispatched setup.toolkit json session.debugger.client with
      | none => some (session.receive setup json)
      | some message =>
          (session.receive setup json).onDapEvent setup json reaction
            message := by
  rcases onMessage_outputs setup.toolkit json session.debugger.client with
    ⟨handled, outputs, single⟩
  have logged :=
    events_logOutput session.debugger.client
      ("<-- ".toList ++ setup.toolkit.printUnformatted json)
  have noNews :
      ((session.debugger.client.logOutput
        ("<-- ".toList ++ setup.toolkit.printUnformatted json)).filterMap
          Transition.eventOf).find? (fun event => event ≠ .logEvent) =
        none := by
    rw [List.find?_eq_none]
    intro event member
    simp [logged event member]
  unfold Session.onMessage dispatched firstEvent
  simp only [outputs, List.foldlM_append, List.filterMap_append,
    List.find?_append, noNews, Option.none_or]
  rw [foldlM_logged setup json reaction _ logged]
  rcases handled with _ | ⟨output, _ | ⟨second, handled⟩⟩
  · rfl
  · cases output with
    | event event =>
        rcases event with ⟨message, tree, string⟩
        let received := session.receive setup json
        have alone :
            [Output.event ⟨message, tree, string⟩].foldlM
                (onOutput setup json reaction) received =
              received.onDapEvent setup json reaction message := by
          rw [List.foldlM_cons]
          exact bind_pure _
        show [Output.event ⟨message, tree, string⟩].foldlM
          (onOutput setup json reaction) received = _
        rw [alone]
        by_cases log : message = .logEvent
        · subst log
          exact onDapEvent_logEvent setup json reaction received
        · have found :
              [message].find? (fun event => event ≠ .logEvent) =
                some message := by
            simp [log]
          show _ = match [message].find? fun event => event ≠ .logEvent with
            | none => some (session.receive setup json)
            | some message =>
                (session.receive setup json).onDapEvent setup json reaction
                  message
          rw [found]
    | sent request => rfl
    | sentResponse response => rfl
    | evaluated => rfl
    | sourceLoaded => rfl
  · simp at single

end Session

/-- The session right after an event of the session was dispatched. -/
structure Received
    (setup : Setup)
    (json : Json)
    (message : EventMessage)
    (session received : Session κ) : Prop where
  completed : session.debugger.client.handshakeState = .completed
  transport :
    received.debugger.client.transport = session.debugger.client.transport
  activeThreadId :
    received.debugger.client.activeThreadId =
      match message with
      | .stoppedEvent threadId => threadId
      | _ => session.debugger.client.activeThreadId
  trace :
    received.trace =
      .output (.event (dapEvent setup.toolkit message json)) ::
        (Session.marks
            (session.debugger.client.logOutput
              ("<-- ".toList ++ setup.toolkit.printUnformatted json)) ++
          .handled json :: session.trace)

theorem received_of_dispatched
    {setup : Setup}
    {json : Json}
    {message : EventMessage}
    {session : Session κ}
    (told :
      dispatched setup.toolkit json session.debugger.client = some message)
    (other : message ≠ .initializeResponse) :
    Received setup json message session (session.receive setup json) := by
  let client := session.debugger.client
  have completed : client.handshakeState = .completed := by
    by_contra waiting
    have waits :
        dispatched setup.toolkit json client = none ∨
          dispatched setup.toolkit json client = some .initializeResponse :=
      dispatched_waiting waiting
    rcases waits with none | reply
    · rw [none] at told
      cases told
    · rw [reply] at told
      cases told
      exact other rfl
  have result :
      DapClient.OnMessage.onMessage setup.toolkit json client =
        ((onSessionMessage setup.toolkit json client).1,
          client.logOutput
              ("<-- ".toList ++ setup.toolkit.printUnformatted json) ++
            (onSessionMessage setup.toolkit json client).2) := by
    unfold DapClient.OnMessage.onMessage
    simp only [if_pos completed]
  rw [dispatched_completed completed] at told
  have delivers := onSessionMessage_delivers told
  constructor
  case completed => exact completed
  case transport =>
    show (DapClient.OnMessage.onMessage setup.toolkit json client).1.transport =
      client.transport
    rw [result]
    exact delivers.transport
  case activeThreadId =>
    show (DapClient.OnMessage.onMessage setup.toolkit json
      client).1.activeThreadId = _
    rw [result]
    exact delivers.activeThreadId
  case trace =>
    show Session.marks
          (DapClient.OnMessage.onMessage setup.toolkit json client).2 ++
        (if client.handshakeState = .completed then
          .handled json :: session.trace
        else session.trace) = _
    rw [result, delivers.outputs, if_pos completed]
    simp [Session.marks, client]

/-! ## What a reset leaves -/

namespace Session

theorem resetData_client (session : Session κ) :
    session.resetData.debugger.client = session.debugger.client.reset := by
  show session.debugger.resetData.client = _
  unfold Debugger.resetData Debugger.killAdapter
  dsimp only
  split <;> rfl

theorem resetData_state (session : Session κ) :
    session.resetData.debugger.state =
      session.debugger.state.removeState .connected := by
  show session.debugger.resetData.state = _
  unfold Debugger.resetData Debugger.killAdapter
  dsimp only
  split <;> rfl

theorem resetData_isRunning (session : Session κ) :
    session.resetData.isRunning = false := by
  rw [isRunning, resetData_state]
  rfl

end Session

/-! ## The marks of outputs -/

/-- A mark that outputs leave: a request, an event or what says nothing. -/
inductive SaidBy (outputs : List (Output κ)) : Mark κ → Prop where
  | request
      (request : Request)
      (among : request ∈ sentRequests outputs) :
      SaidBy outputs (.output (.sent request))
  | event
      (message : EventMessage)
      (json : Option Json)
      (string : WxString)
      (among : message ∈ outputs.filterMap Transition.eventOf) :
      SaidBy outputs (.output (.event ⟨message, json, string⟩))
  | response (response : OutgoingResponse) :
      SaidBy outputs (.output (.sentResponse response))
  | evaluated
      (callback : κ) (success : Bool) (result type : WxString)
      (variablesReference : Int) :
      SaidBy outputs
        (.output
          (.evaluated callback success result type variablesReference))
  | sourceLoaded
      (callback : κ) (success : Bool) (content mimeType : WxString) :
      SaidBy outputs
        (.output (.sourceLoaded callback success content mimeType))

theorem saidBy_of_mem
    {outputs : List (Output κ)}
    {mark : Mark κ}
    (member : mark ∈ Session.marks outputs) : SaidBy outputs mark := by
  rcases List.mem_map.mp (List.mem_reverse.mp member) with
    ⟨output, among, rfl⟩
  cases output with
  | sent request =>
      exact .request request (List.mem_filterMap.mpr ⟨_, among, rfl⟩)
  | sentResponse response => exact .response response
  | event event =>
      rcases event with ⟨message, json, string⟩
      exact .event message json string
        (List.mem_filterMap.mpr ⟨_, among, rfl⟩)
  | evaluated callback success result type variablesReference =>
      exact .evaluated callback success result type variablesReference
  | sourceLoaded callback success content mimeType =>
      exact .sourceLoaded callback success content mimeType

/-! ## Sending over a transport -/

/-- The client has a transport. -/
def Linked (session : Session κ) : Prop :=
  session.debugger.client.transport.isSome = true

/-- The session after outputs among which no connection was lost. -/
def Session.sent
    (session : Session κ)
    (result : Client κ × List (Output κ)) : Session κ where
  debugger := { session.debugger with client := result.1 }
  callStack := session.callStack
  trace := marks result.2 ++ session.trace

theorem not_any_lost
    {outputs : List (Output κ)}
    (logged :
      ∀ event ∈ outputs.filterMap Transition.eventOf, event = .logEvent) :
    outputs.any Debugger.isLostConnection = false := by
  rw [List.any_eq_false]
  intro output member lost
  cases output with
  | event event =>
      rcases event with ⟨message, tree, string⟩
      have log : message = .logEvent :=
        logged message (List.mem_filterMap.mpr ⟨_, member, rfl⟩)
      subst log
      exact Bool.false_ne_true lost
  | sent request => exact Bool.false_ne_true lost
  | sentResponse response => exact Bool.false_ne_true lost
  | evaluated => exact Bool.false_ne_true lost
  | sourceLoaded => exact Bool.false_ne_true lost

theorem send_eq_sent
    {operation : Client κ → Client κ × List (Output κ)}
    {session : Session κ}
    (logged :
      ∀ event ∈ (operation session.debugger.client).2.filterMap
        Transition.eventOf, event = .logEvent) :
    session.send operation = session.sent (operation session.debugger.client) :=
  if_neg (by rw [not_any_lost logged]; exact Bool.false_ne_true)

/-- A request over a transport changes nothing but the client. -/
theorem perform_linked
    (setup : Setup)
    (call : ApiCall κ)
    {session : Session κ}
    (linked : Linked session) :
    session.perform setup call =
        session.sent
          (session.debugger.client.perform setup.toolkit call) ∧
      Linked (session.perform setup call) := by
  rcases perform_kept setup.toolkit call linked with ⟨kept, transport⟩
  have sent :
      session.perform setup call =
        session.sent
          (session.debugger.client.perform setup.toolkit call) :=
    send_eq_sent kept.events
  refine ⟨sent, ?_⟩
  rw [sent, Linked]
  show (session.debugger.client.perform
    setup.toolkit call).1.transport.isSome = true
  rw [transport]
  exact linked

end DebuggerDap.Plugin.Sessions
