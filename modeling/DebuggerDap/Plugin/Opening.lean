import DebuggerDap.Library.Log
import DebuggerDap.Plugin.ActiveFrame
import DebuggerDap.Plugin.Moves

/-!
# No request before the handshake

Between the initialize request and its response nothing else should be handed
to the transport.  Most commands are held back then, as the debuggee is not
marked as running, no frame is selected and no feature is known.  The steps
and `UpdateBreakpoint` are not, and `AttachToProcess` requests right after it
has asked for the handshake.
-/

namespace DebuggerDap.Plugin.Opening

open DebuggerDap.Text.Strings
open DebuggerDap.Protocol.JsonTree
open DebuggerDap.Protocol.Messages
open DebuggerDap.DapClient.State
open DebuggerDap.DapClient.OnMessage
open DebuggerDap.DapClient.Replies (InitializeReply)
open DebuggerDap.DapClient.Sessions
  (request_connected sentRequests_sent sentRequests_logOutput)
open DebuggerDap.DapClient.History
  (Transition events_logOutput onMessage_completes onMessage_ignored
    sentRequests_not_initializeRequest sentRequests_onMessage)
open DebuggerDap.Library.Log
open DebuggerDap.Library.Run
open DebuggerDap.Plugin.DebuggerState
open DebuggerDap.Plugin.Lifecycle (Host plainHost)
open DebuggerDap.Plugin.Sessions
open DebuggerDap.Plugin.Moves
open DebuggerDap.Plugin.ActiveFrame (plainSetup)

variable {κ : Type*}

/-! ## What the trace says -/

/-- A request was handed to the transport. -/
def IsRequest : Mark κ → Prop
  | .output (.sent _) => True
  | _ => False

/-- The initialize request was handed to the transport. -/
def AsksHandshake : Mark κ → Prop
  | .output (.sent request) => request.body.command = .initialize_
  | _ => False

/-- The response was dispatched, or the transport is gone. -/
def EndsHandshake : Mark κ → Prop
  | .output (.event ⟨.initializeResponse, _, _⟩) => True
  | .output (.event ⟨.lostConnection, _, _⟩) => True
  | .sessionReset => True
  | _ => False

/-- The response to an initialize request is under way. -/
def Awaiting (session : Session κ) : Prop :=
  LastSince AsksHandshake EndsHandshake session.trace

/-- No request was handed to the transport while a response was under way. -/
def Quiet (session : Session κ) : Prop :=
  Silent IsRequest AsksHandshake EndsHandshake session.trace

theorem not_asks_marks
    {outputs : List (Output κ)}
    (other :
      ∀ request ∈ sentRequests outputs,
        request.body.command ≠ .initialize_) :
    ∀ mark ∈ Session.marks outputs, ¬ AsksHandshake mark := by
  intro mark member asks
  cases saidBy_of_mem member with
  | request request among => exact other request among asks
  | event => exact asks
  | response => exact asks
  | evaluated => exact asks
  | sourceLoaded => exact asks

theorem not_request_marks
    {outputs : List (Output κ)}
    (nothing : sentRequests outputs = []) :
    ∀ mark ∈ Session.marks outputs, ¬ IsRequest mark := by
  intro mark member isRequest
  cases saidBy_of_mem member with
  | request request among =>
      rw [nothing] at among
      cases among
  | event => exact isRequest
  | response => exact isRequest
  | evaluated => exact isRequest
  | sourceLoaded => exact isRequest

/-- Only the log is told while requests are sent. -/
theorem not_ends_marks
    {outputs : List (Output κ)}
    (logged :
      ∀ event ∈ outputs.filterMap Transition.eventOf, event = .logEvent) :
    ∀ mark ∈ Session.marks outputs, ¬ EndsHandshake mark := by
  intro mark member ends
  cases saidBy_of_mem member with
  | event message json string among =>
      obtain rfl := logged message among
      exact ends
  | request => exact ends
  | response => exact ends
  | evaluated => exact ends
  | sourceLoaded => exact ends

/-! ## What is known of a session -/

/-- A session whose initialize response is under way. -/
structure Waiting (session : Session κ) : Prop extends Idle session where
  linked : Linked session
  features : session.debugger.client.features = ∅

/-- Nothing was requested too early, and a waiting session is idle. -/
structure Opens (session : Session κ) : Prop where
  quiet : Quiet session
  waiting : Awaiting session → Waiting session

/-- Nothing was requested too early, and no response is under way. -/
structure Calm (session : Session κ) : Prop where
  quiet : Quiet session
  settled : ¬ Awaiting session

theorem Calm.opens {session : Session κ} (calm : Calm session) :
    Opens session :=
  ⟨calm.quiet, fun awaiting => absurd awaiting calm.settled⟩

/-- Where no marks that ask for the handshake are added a session is calm. -/
theorem Calm.of_trace
    {session next : Session κ}
    {later : List (Mark κ)}
    (calm : Calm session)
    (trace : next.trace = later ++ session.trace)
    (none : ∀ mark ∈ later, ¬ AsksHandshake mark) : Calm next := by
  constructor
  · unfold Quiet
    rw [trace]
    exact calm.quiet.append_of_not none calm.settled
  · unfold Awaiting
    rw [trace]
    exact not_lastSince_append none calm.settled

section Moving

variable {setup : Setup}
variable {session next : Session κ}

theorem opens_new : Opens (Session.new κ) :=
  Calm.opens ⟨trivial, not_lastSince_nil⟩

theorem calm_resetData (quiet : Quiet session) : Calm session.resetData where
  quiet := ⟨nofun, quiet⟩
  settled := lastSince_cons_of_ends id trivial session.trace

theorem Calm.onConnectionError (calm : Calm session) :
    Calm session.onConnectionError := by
  unfold Session.onConnectionError
  split
  · exact calm
  · exact calm_resetData calm.quiet

/-- The response to a lost connection does not come. -/
theorem calm_of_lost
    {result : Client κ × List (Output κ)}
    (quiet : Quiet session)
    (outputs : result.2 = [.event ⟨.lostConnection, none, []⟩]) :
    Calm (session.sent result).onConnectionError := by
  have trace :
      (session.sent result).trace =
        .output (.event ⟨.lostConnection, none, []⟩) :: session.trace := by
    show Session.marks result.2 ++ session.trace = _
    rw [outputs]
    rfl
  refine Calm.onConnectionError ⟨?_, ?_⟩
  · unfold Quiet
    rw [trace]
    exact ⟨nofun, quiet⟩
  · unfold Awaiting
    rw [trace]
    exact lastSince_cons_of_ends id trivial session.trace

theorem calm_perform
    (call : ApiCall κ)
    (calm : Calm session) : Calm (session.perform setup call) := by
  rcases perform_cases setup call session with ⟨kept, sent⟩ | ⟨lost, sent⟩
  · rw [sent]
    exact calm.of_trace rfl
      (not_asks_marks
        (sentRequests_not_initializeRequest setup.toolkit call
          session.debugger.client))
  · rw [sent]
    exact calm_of_lost calm.quiet lost.outputs

theorem Calm.requests
    (calm : Calm session)
    (requests : Requests setup session next) : Calm next :=
  requests.invariant (fun _ call => calm_perform call) calm

/-- A feature that is not known keeps its request back. -/
theorem perform_gated
    {call : ApiCall κ}
    (gated : Gated call)
    (waiting : Waiting session) : session.perform setup call = session := by
  cases call
  case gotoTarget source line column =>
    have unsupported :
        session.debugger.client.isSupported .supportsGotoTargetsRequest =
          false := by
      unfold Client.isSupported
      rw [waiting.features]
      rfl
    have held :
        session.debugger.client.perform setup.toolkit
            (.gotoTarget source line column) =
          (session.debugger.client, []) :=
      if_pos unsupported
    rcases perform_cases setup (.gotoTarget source line column) session with
      ⟨-, sent⟩ | ⟨lost, -⟩
    · rw [sent, held]
      rfl
    · have outputs := lost.outputs
      rw [held] at outputs
      cases outputs
  all_goals exact absurd gated id

theorem opens_perform
    {call : ApiCall κ}
    (opens : Opens session)
    (allowed : ¬ Idle session ∨ Gated call) :
    Opens (session.perform setup call) := by
  by_cases awaiting : Awaiting session
  · have waiting := opens.waiting awaiting
    rcases allowed with busy | gated
    · exact absurd waiting.toIdle busy
    · rw [perform_gated gated waiting]
      exact opens
  · have calm : Calm session := ⟨opens.quiet, awaiting⟩
    exact (calm_perform call calm).opens

/-- The initialize request is the first one after a reset. -/
theorem opens_connect
    (command : List WxString)
    (opens : Opens session)
    (fresh : Fresh session) : Opens (connect setup command session) := by
  rcases connect_eq setup command session with
    ⟨client, text, transport, handshake, features, connected⟩
  rcases fresh.reset with ⟨earlier, reset⟩
  have settled : ¬ Awaiting session := by
    unfold Awaiting
    rw [reset]
    exact lastSince_cons_of_ends id trivial earlier
  have logs :
      ∀ mark ∈ Session.marks (client.logOutput text : List (Output κ)),
        ¬ IsRequest mark :=
    not_request_marks (sentRequests_logOutput client text)
  rw [connected]
  constructor
  · show Silent IsRequest AsksHandshake EndsHandshake
      (Session.marks (_ :: client.logOutput text) ++ session.trace)
    unfold Session.marks
    rw [List.map_cons, List.reverse_cons, List.append_assoc]
    exact Silent.append logs ⟨fun _ => settled, opens.quiet⟩
  · intro _
    constructor
    · exact
        { handshake := handshake
          halted := DebuggerState.isRunning_addConnected fresh.halted
          noFrame := fresh.noFrame }
    · show client.transport.isSome = true
      rw [transport]
      rfl
    · exact features

/-- A change that sends nothing and stays idle. -/
theorem Opens.of_same
    (opens : Opens session)
    (trace : next.trace = session.trace)
    (stays : Waiting session → Waiting next) : Opens next where
  quiet := by
    unfold Quiet
    rw [trace]
    exact opens.quiet
  waiting awaiting := by
    unfold Awaiting at awaiting
    rw [trace] at awaiting
    exact stays (opens.waiting awaiting)

theorem opens_move
    (move : Move setup session next)
    (opens : Opens session) : Opens next := by
  cases move with
  | reset => exact (calm_resetData opens.quiet).opens
  | request call allowed => exact opens_perform opens allowed
  | connect command fresh => exact opens_connect command opens fresh
  | process dapPid pidAttached command actions =>
      refine opens.of_same rfl fun waiting => ?_
      exact ⟨⟨waiting.handshake, waiting.halted, waiting.noFrame⟩,
        waiting.linked, waiting.features⟩
  | stopped =>
      refine opens.of_same rfl fun waiting => ?_
      exact
        ⟨⟨waiting.handshake,
            DebuggerState.isRunning_addStopped waiting.halted, noFrame_neg⟩,
          waiting.linked, waiting.features⟩
  | opened =>
      refine opens.of_same rfl fun waiting => ?_
      exact
        ⟨⟨waiting.handshake,
            DebuggerState.isRunning_addStopped waiting.halted,
            waiting.noFrame⟩,
          waiting.linked, waiting.features⟩
  | exited =>
      refine opens.of_same rfl fun waiting => ?_
      exact ⟨⟨waiting.handshake, rfl, waiting.noFrame⟩,
        waiting.linked, waiting.features⟩
  | frames stack allowed =>
      refine opens.of_same rfl fun waiting => ?_
      have noFrame : stack.getActiveStackFrame < 0 := by
        rcases allowed with busy | none
        · exact absurd waiting.toIdle busy
        · exact none
      exact ⟨⟨waiting.handshake, waiting.halted, noFrame⟩,
        waiting.linked, waiting.features⟩
  | select thread busy =>
      have settled : ¬ Awaiting session :=
        fun awaiting => busy (opens.waiting awaiting).toIdle
      have calm : Calm session := ⟨opens.quiet, settled⟩
      refine Calm.opens (calm.of_trace (List.singleton_append).symm ?_)
      intro mark member
      rw [List.mem_singleton.mp member]
      exact id
  | lose =>
      have calm :
          Calm
            (session.sent
              session.debugger.client.onConnectionError).onConnectionError :=
        calm_of_lost opens.quiet rfl
      exact calm.opens

theorem Opens.course
    (opens : Opens session)
    (course : Course setup session next) : Opens next :=
  course.invariant (fun _ _ => opens_move) opens

end Moving

/-! ## Messages -/

section Messages

variable {setup : Setup}
variable {session next : Session κ}
variable {json : Json}

/-- A completed handshake is awaited no more. -/
theorem calm_of_completed
    (opens : Opens session)
    (completed : Completed session) : Calm session where
  quiet := opens.quiet
  settled awaiting := completed.not_idle (opens.waiting awaiting).toIdle

theorem calm_receive
    (completed : Completed session)
    (calm : Calm session) : Calm (session.receive setup json) := by
  let told :=
    Session.marks
      (onMessage setup.toolkit json session.debugger.client).2
  have trace :
      (session.receive setup json).trace =
        (told ++ [.handled json]) ++ session.trace := by
    rw [trace_receive_completed completed, List.append_assoc]
    rfl
  refine calm.of_trace trace fun mark member => ?_
  rcases List.mem_append.mp member with output | handled
  · refine not_asks_marks ?_ mark output
    rw [sentRequests_onMessage]
    exact fun _ among => absurd among List.not_mem_nil
  · rw [List.mem_singleton.mp handled]
    exact id

/-- Before the handshake is completed the event tells the reply. -/
theorem reply_of_dispatched (waiting : ¬ Completed session) :
    dispatched setup.toolkit json session.debugger.client =
        some .initializeResponse ↔
      InitializeReply json := by
  unfold dispatched
  constructor
  · intro told
    by_contra notReply
    rw [onMessage_ignored setup.toolkit json waiting notReply,
      ← List.append_nil (session.debugger.client.logOutput _),
      firstEvent_logged] at told
    cases told
  · intro reply
    rw [onMessage_completes setup.toolkit json waiting reply,
      firstEvent_logged]
    rfl

/-- What a message adds to the trace is no request. -/
theorem quiet_receive_waiting
    (quiet : Quiet session)
    (waiting : ¬ Completed session) :
    Quiet (session.receive setup json) := by
  unfold Quiet
  rw [trace_receive_waiting waiting]
  exact Silent.append (not_request_marks (sentRequests_onMessage _ _ _)) quiet

/-- A message that is ignored changes nothing but the log. -/
theorem opens_ignored
    (opens : Opens session)
    (waiting : ¬ Completed session)
    (told :
      dispatched setup.toolkit json session.debugger.client = none) :
    Opens (session.receive setup json) := by
  have notReply : ¬ InitializeReply json := by
    rw [← reply_of_dispatched waiting, told]
    exact nofun
  have client :
      (session.receive setup json).debugger.client =
        session.debugger.client :=
    congrArg Prod.fst (onMessage_ignored setup.toolkit json waiting notReply)
  refine ⟨quiet_receive_waiting opens.quiet waiting, fun awaiting => ?_⟩
  have before : Awaiting session := by
    by_contra settled
    unfold Awaiting at awaiting
    rw [trace_receive_waiting waiting] at awaiting
    refine not_lastSince_append (not_asks_marks ?_) settled awaiting
    rw [sentRequests_onMessage]
    exact fun _ among => absurd among List.not_mem_nil
  have still := opens.waiting before
  constructor
  · refine ⟨?_, still.halted, still.noFrame⟩
    rw [client]
    exact still.handshake
  · unfold Linked
    rw [client]
    exact still.linked
  · rw [client]
    exact still.features

/-- The initialize response ends the waiting. -/
theorem calm_initialized
    (quiet : Quiet session)
    (waiting : ¬ Completed session)
    (told :
      dispatched setup.toolkit json session.debugger.client =
        some .initializeResponse) :
    Calm (session.receive setup json) := by
  refine ⟨quiet_receive_waiting quiet waiting, ?_⟩
  have reply := (reply_of_dispatched waiting).mp told
  unfold Awaiting
  rw [trace_receive_waiting waiting,
    onMessage_completes setup.toolkit json waiting reply]
  unfold Session.marks
  rw [List.map_append, List.reverse_append]
  exact lastSince_cons_of_ends id trivial _

theorem opens_onInitializeResponse
    (success : Bool)
    (calm : Calm session) :
    Opens (session.onInitializeResponse setup success) := by
  rcases onInitializeResponse_cases setup success session with
    ignored | ⟨moved, call, same, launched⟩
  · rw [ignored]
    exact calm.opens
  · rw [launched]
    have ready : Calm moved :=
      calm.of_trace (same.trace.trans (List.nil_append _).symm)
        fun _ among => absurd among List.not_mem_nil
    have asked : Calm (moved.perform setup call) := calm_perform call ready
    exact Calm.opens ⟨asked.quiet, asked.settled⟩

theorem opens_message
    {reaction : Reaction κ}
    (opens : Opens session)
    (taken : session.onMessage setup json reaction = some next) :
    Opens next := by
  cases message_course taken with
  | ignored waiting told => exact opens_ignored opens waiting told
  | initialized waiting told =>
      exact opens_onInitializeResponse _
        (calm_initialized opens.quiet waiting told)
  | attached completed jsonDump told =>
      have received : Calm (session.receive setup json) :=
        calm_receive completed (calm_of_completed opens completed)
      exact Calm.opens ⟨received.quiet, received.settled⟩
  | handled completed other course =>
      have received : Calm (session.receive setup json) :=
        calm_receive completed (calm_of_completed opens completed)
      exact received.opens.course course

end Messages

/-! ## Commands that do not wait -/

/-- The port of the adapter, if `StartDebugger` comes to `LaunchDebugger`. -/
def launchPort (host : Host) (pidAttached : Int) : Option WxString :=
  if host.compilerFound = false then none
  else if host.targetFound = false ∧ pidAttached = 0 then none
  else if host.executableExists = false then none
  else
    match host.port with
    | .error _ => none
    | .ok dapPortNumber =>
        if pidAttached = 0 ∧ host.debuggee.isNone = true then none
        else some dapPortNumber

/-- A response is under way once `StartDebugger` returns. -/
def AwaitingAfterStart
    (host : Host)
    (pidAttached : Int)
    (session : Session κ) : Prop :=
  match launchPort host pidAttached with
  | none => Awaiting session
  | some dapPortNumber =>
      host.dapExecutable ≠ [] ∧ dapPortNumber ≠ [] ∧ host.connects = true

/--
No response is under way when a request is made that does not ask for it:
by a step, by `UpdateBreakpoint`, or after the start of `AttachToProcess`.
-/
def WaitsForHandshake
    (setup : Setup)
    (session : Session κ)
    (label : Label κ) : Prop :=
  match label with
  | .attachToProcess pid host =>
      ∀ number, setup.toLong pid = some number →
        ¬ AwaitingAfterStart host number session
  | .command command => Unguarded command → ¬ Awaiting session
  | _ => True

section Starting

variable {setup : Setup}
variable {session next : Session κ}

theorem startDebugger_eq (host : Host) :
    (session.startDebugger setup host).1 =
      match launchPort host session.debugger.pidAttached with
      | none => session
      | some dapPortNumber =>
          (session.launchDebugger setup host dapPortNumber).1 := by
  unfold Session.startDebugger launchPort
  dsimp only
  repeat' split
  all_goals first | rfl | simp_all

/-- A new connection waits for the response. -/
theorem awaiting_connect (command : List WxString) (session : Session κ) :
    Awaiting (connect setup command session) := by
  rcases connect_eq setup command session with
    ⟨client, text, -, -, -, connected⟩
  rw [connected]
  show LastSince AsksHandshake EndsHandshake
    (Session.marks (_ :: client.logOutput text) ++ session.trace)
  unfold Session.marks
  rw [List.map_cons, List.reverse_cons, List.append_assoc]
  refine lastSince_append (not_ends_marks (events_logOutput client text)) ?_
  exact (lastSince_cons _ _).mpr (Or.inl rfl)

theorem awaiting_launchDebugger
    (host : Host)
    (dapPortNumber : WxString)
    (session : Session κ) :
    Awaiting (session.launchDebugger setup host dapPortNumber).1 ↔
      host.dapExecutable ≠ [] ∧ dapPortNumber ≠ [] ∧
        host.connects = true := by
  let fresh := session.resetData
  let launched : Session κ :=
    if host.runDapServer then
      { fresh with debugger := fresh.debugger.launchDAPDebugger host }
    else fresh
  have trace : launched.trace = .sessionReset :: session.trace := by
    by_cases server : host.runDapServer = true
    · rw [show launched = _ from if_pos server]
      rfl
    · rw [show launched = _ from if_neg server]
      rfl
  have settled (next : Session κ) (same : next.trace = launched.trace) :
      ¬ Awaiting next := by
    unfold Awaiting
    rw [same, trace]
    exact lastSince_cons_of_ends id trivial session.trace
  unfold Session.launchDebugger
  dsimp only
  split
  · next missing =>
      exact iff_of_false (settled fresh trace.symm)
        fun opens => opens.1 missing
  · next executable =>
      split
      · next missing =>
          exact iff_of_false (settled fresh trace.symm)
            fun opens => opens.2.1 missing
      · next port =>
          split
          · next refused =>
              refine iff_of_false (settled _ rfl) fun opens => ?_
              rw [refused] at opens
              exact Bool.false_ne_true opens.2.2
          · next connects =>
              exact iff_of_true (awaiting_connect _ launched)
                ⟨executable, port, Bool.not_eq_false _ ▸ connects⟩

theorem awaiting_startDebugger (host : Host) (session : Session κ) :
    Awaiting (session.startDebugger setup host).1 ↔
      AwaitingAfterStart host session.debugger.pidAttached session := by
  rw [startDebugger_eq]
  unfold AwaitingAfterStart
  split
  · exact Iff.rfl
  · exact awaiting_launchDebugger host _ session

end Starting

/-! ## Requests that are made too early -/

section Early

variable {setup : Setup}
variable {session next : Session κ}

/-- The requests of the steps and of `AttachToProcess`. -/
def Direct : ApiCall κ → Prop
  | .continue_ _ _ => True
  | .next _ _ _ => True
  | .stepIn _ _ _ => True
  | .stepOut _ _ => True
  | .pause _ => True
  | .attach _ => True
  | _ => False

theorem sends_request
    (toolkit : Toolkit)
    {client : Client κ}
    (connected : client.transport.isSome = true)
    (body : RequestBody) :
    ∃ request, request ∈ sentRequests (client.request toolkit body).2 := by
  rw [request_connected connected, sentRequests_sent]
  exact ⟨_, List.mem_cons_self⟩

theorem sends_direct
    (toolkit : Toolkit)
    {call : ApiCall κ}
    {client : Client κ}
    (connected : client.transport.isSome = true)
    (direct : Direct call) :
    ∃ request, request ∈ sentRequests (client.perform toolkit call).2 := by
  cases call
  case continue_ => exact sends_request toolkit connected _
  case next => exact sends_request toolkit connected _
  case stepIn => exact sends_request toolkit connected _
  case stepOut => exact sends_request toolkit connected _
  case pause => exact sends_request toolkit connected _
  case attach => exact sends_request toolkit connected _
  all_goals exact absurd direct id

theorem not_quiet_perform
    {call : ApiCall κ}
    (opens : Opens session)
    (awaiting : Awaiting session)
    (direct : Direct call) : ¬ Quiet (session.perform setup call) := by
  have linked := (opens.waiting awaiting).linked
  rcases sends_direct setup.toolkit linked direct with ⟨request, member⟩
  rcases perform_cases setup call session with ⟨kept, sent⟩ | ⟨lost, -⟩
  · rw [sent]
    have mark :
        Mark.output (.sent request) ∈
          Session.marks
            (session.debugger.client.perform setup.toolkit call).2 := by
      rcases List.mem_filterMap.mp member with ⟨output, among, isSent⟩
      cases output <;> cases isSent
      exact List.mem_reverse.mpr (List.mem_map.mpr ⟨_, among, rfl⟩)
    have isRequest : IsRequest (.output (.sent request) : Mark κ) := trivial
    exact not_silent_append isRequest mark (not_ends_marks kept.events)
      awaiting
  · rw [lost.outputs] at member
    cases member

theorem quiet_of_perform
    {call : ApiCall κ}
    (quiet : Quiet (session.perform setup call)) : Quiet session := by
  rcases perform_cases setup call session with ⟨kept, sent⟩ | ⟨lost, sent⟩
  · rw [sent] at quiet
    exact Silent.suffix quiet
  · rw [sent] at quiet
    unfold Session.onConnectionError at quiet
    split at quiet
    · exact Silent.suffix quiet
    · exact Silent.suffix quiet.2

/-- What was requested too early is not undone. -/
theorem quiet_of_requests
    (requests : Requests setup session next)
    (quiet : Quiet next) : Quiet session := by
  induction requests with
  | none => exact quiet
  | more call _ ih => exact quiet_of_perform (ih quiet)

theorem not_quiet_command
    {command : UserCommand κ}
    (opens : Opens session)
    (awaiting : Awaiting session)
    (unguarded : Unguarded command)
    (taken : session.command setup command = some next) :
    ¬ Quiet next := by
  cases command
  case updateBreakpoint announcements =>
    unfold Session.command at taken
    dsimp only at taken
    split at taken
    · cases taken
      intro quiet
      have paused : Quiet (session.perform setup (.pause notFound)) :=
        quiet_of_requests (requests_announceAll setup announcements _) quiet
      have direct : Direct (.pause notFound : ApiCall κ) := trivial
      exact not_quiet_perform opens awaiting direct paused
    · cases taken
      rw [announceAll_idle setup announcements
        (opens.waiting awaiting).halted]
      have direct : Direct (.continue_ notFound true : ApiCall κ) := trivial
      exact not_quiet_perform opens awaiting direct
  case continue_ | next | stepIntoInstruction | step | stepOut | break_ =>
    cases taken
    refine not_quiet_perform opens awaiting ?_
    trivial
  all_goals exact absurd unguarded id

end Early

/-! ## Runs -/

section Steps

variable {setup : Setup}
variable {session next : Session κ}
variable {label : Label κ}

theorem opens_started
    (setup : Setup)
    (opens : Opens session)
    (number : Int)
    (host : Host) :
    Opens ((session.setPidAttached number).startDebugger setup host).1 := by
  have set : Opens (session.setPidAttached number) :=
    opens.of_same rfl fun waiting =>
      ⟨⟨waiting.handshake, waiting.halted, waiting.noFrame⟩,
        waiting.linked, waiting.features⟩
  exact set.course (course_startDebugger host _)

theorem awaiting_started
    (setup : Setup)
    (number : Int)
    (host : Host)
    (session : Session κ) :
    Awaiting ((session.setPidAttached number).startDebugger setup host).1 ↔
      AwaitingAfterStart host number session := by
  rw [awaiting_startDebugger]
  unfold AwaitingAfterStart
  exact Iff.rfl

theorem opens_step
    (opens : Opens session)
    (waits : WaitsForHandshake setup session label)
    (taken : step setup session label = some next) : Opens next := by
  by_cases plain : Plain label
  · exact opens.course (step_course plain taken)
  · cases label with
    | attachToProcess pid host =>
        cases taken
        rcases attachToProcess_cases setup pid host session with
          ⟨-, same⟩ | ⟨number, read, attached⟩
        · rw [same]
          exact opens
        · rw [attached]
          have started := opens_started setup opens number host
          have settled := waits number read
          rw [← awaiting_started setup] at settled
          have calm : Calm _ := ⟨started.quiet, settled⟩
          exact (calm_perform _ calm).opens
    | message json reaction => exact opens_message opens taken
    | command command =>
        have unguarded := not_not.mp plain
        have calm : Calm session := ⟨opens.quiet, waits unguarded⟩
        exact (calm.requests (requests_command unguarded taken)).opens
    | _ => exact absurd trivial plain

theorem not_quiet_step
    (opens : Opens session)
    (early : ¬ WaitsForHandshake setup session label)
    (taken : step setup session label = some next) : ¬ Quiet next := by
  cases label with
  | attachToProcess pid host =>
      cases taken
      simp only [WaitsForHandshake, not_forall, not_not] at early
      rcases early with ⟨number, read, awaiting⟩
      rw [← awaiting_started setup] at awaiting
      rcases attachToProcess_cases setup pid host session with
        ⟨none, -⟩ | ⟨other, readOther, attached⟩
      · rw [read] at none
        cases none
      · rw [read] at readOther
        cases readOther
        rw [attached]
        exact not_quiet_perform (opens_started setup opens number host) awaiting
          trivial
  | command command =>
      simp only [WaitsForHandshake, not_forall, not_not] at early
      rcases early with ⟨unguarded, awaiting⟩
      exact not_quiet_command opens awaiting unguarded taken
  | _ => exact absurd trivial early

end Steps

/--
In every run in which the steps, `UpdateBreakpoint` and `AttachToProcess` wait
for the handshake no request is made before it.  Only in such runs is none.
-/
theorem quiet_before_handshake
    (setup : Setup)
    (labels : List (Label κ)) :
    (Along (step setup) (WaitsForHandshake setup) (Session.new κ) labels →
        Always (step setup) Quiet (Session.new κ) labels) ∧
      ∀ reached,
        run (step setup) (Session.new κ) labels = some reached →
          Always (step setup) Quiet (Session.new κ) labels →
            Along (step setup) (WaitsForHandshake setup) (Session.new κ)
              labels := by
  constructor
  · exact always_of_along
      (fun _ _ _ opens waits taken => opens_step opens waits taken)
      (fun _ opens => opens.quiet) opens_new
  · intro reached ran
    exact (always_iff_along_of_run
      (fun _ _ _ opens waits taken => opens_step opens waits taken)
      (fun _ opens => opens.quiet)
      (fun _ _ _ opens early taken => not_quiet_step opens early taken)
      opens_new ran).mp

/-- The user attaches to process 1234. -/
def attached : List (Label Unit) :=
  [.attachToProcess "1234".toList plainHost]

/-- The attach request follows the initialize request at once. -/
theorem attached_not_quiet :
    ¬ Always (step plainSetup) Quiet (Session.new Unit) attached := by
  intro always
  have quiet := always attached [] _ (List.append_nil _) rfl
  refine quiet.1 trivial ⟨[], _, _, rfl, rfl, ?_⟩
  exact fun _ member => absurd member List.not_mem_nil

end DebuggerDap.Plugin.Opening
