import DebuggerDap.Plugin.Sessions
import Mathlib.Logic.Relation

/-!
# The moves of a session

Every step of a session is a chain of a few moves: a reset, a request, a new
connection and some changes that send nothing.  Most requests are only made
in a session that has something to ask.  What a move keeps holds after every
chain of moves, so an invariant of sessions is shown move by move.
-/

namespace DebuggerDap.Plugin.Moves

open DebuggerDap.Text.Strings
open DebuggerDap.Protocol.JsonTree
open DebuggerDap.Protocol.Messages
open DebuggerDap.DapClient.State
open DebuggerDap.DapClient.Sessions (request_connected)
open DebuggerDap.DapClient.History
  (Kept Lost Transition events_logOutput onMessage_session perform_effect)
open DebuggerDap.Plugin.DebuggerState
open DebuggerDap.Plugin.Lifecycle (Debugger Host)
open DebuggerDap.Plugin.Backtrace
open DebuggerDap.Plugin.Sessions

variable {κ : Type*}

/-! ## Moves -/

/-- No handshake is under way, the debuggee runs or a frame is selected. -/
structure Idle (session : Session κ) : Prop where
  handshake : session.debugger.client.handshakeState = .inProgress
  halted : session.isRunning = false
  noFrame : session.callStack.getActiveStackFrame < 0

/-- A session that was just reset. -/
structure Fresh (session : Session κ) : Prop where
  halted : session.isRunning = false
  noFrame : session.callStack.getActiveStackFrame < 0
  reset : ∃ earlier, session.trace = .sessionReset :: earlier

/-- `GotoTarget` asks whether the adapter supports it. -/
def Gated : ApiCall κ → Prop
  | .gotoTarget _ _ _ => True
  | _ => False

/-- The transport is connected and the handshake is asked for. -/
def connect
    (setup : Setup)
    (command : List WxString)
    (session : Session κ) : Session κ :=
  let connected : Session κ :=
    { session with
      debugger :=
        { session.debugger with
          state := session.debugger.state.addState .connected
          client := session.debugger.client.setTransport 0
          debuggeeStartCmd := command } }
  connected.send fun client =>
    client.initialize_ setup.toolkit (some Debugger.initArgs)

inductive Move (setup : Setup) : Session κ → Session κ → Prop where
  | reset (session : Session κ) : Move setup session session.resetData
  | request
      (session : Session κ) (call : ApiCall κ)
      (allowed : ¬ Idle session ∨ Gated call) :
      Move setup session (session.perform setup call)
  | connect
      (session : Session κ) (command : List WxString)
      (fresh : Fresh session) :
      Move setup session (connect setup command session)
  /-- The processes and the command to be started change. -/
  | process
      (session : Session κ) (dapPid pidAttached : Int)
      (command : List WxString) (actions : List Lifecycle.Action) :
      Move setup session
        { session with
          debugger :=
            { session.debugger with
              dapPid := dapPid
              pidAttached := pidAttached
              debuggeeStartCmd := command
              actions := actions } }
  | stopped (session : Session κ) : Move setup session session.markStopped
  | opened (session : Session κ) :
      Move setup session
        { session with
          debugger :=
            { session.debugger with
              state := session.debugger.state.addState .stopped } }
  | exited (session : Session κ) : Move setup session session.removeConnected
  /-- Frames are shown or selected. -/
  | frames
      (session : Session κ) (stack : CallStack)
      (allowed : ¬ Idle session ∨ stack.getActiveStackFrame < 0) :
      Move setup session { session with callStack := stack }
  | select
      (session : Session κ) (thread : Int) (busy : ¬ Idle session) :
      Move setup session
        { session with
          callStack := session.callStack.switchToThread thread
          trace := .threadSelected thread :: session.trace }
  | lose (session : Session κ) :
      Move setup session (session.send Client.onConnectionError)

/-- A chain of moves. -/
def Course (setup : Setup) : Session κ → Session κ → Prop :=
  Relation.ReflTransGen (Move setup)

/-- A chain of requests. -/
inductive Requests (setup : Setup) : Session κ → Session κ → Prop where
  | none (session : Session κ) : Requests setup session session
  | more
      {session next : Session κ} (call : ApiCall κ)
      (later : Requests setup (session.perform setup call) next) :
      Requests setup session next

section Chains

variable {setup : Setup}
variable {session next last : Session κ}

theorem Course.refl (session : Session κ) : Course setup session session :=
  Relation.ReflTransGen.refl

theorem Course.trans
    (first : Course setup session next)
    (second : Course setup next last) : Course setup session last :=
  Relation.ReflTransGen.trans first second

theorem Move.course (move : Move setup session next) :
    Course setup session next :=
  Relation.ReflTransGen.single move

/-- What every move keeps holds after a chain of moves. -/
theorem Course.invariant
    {invariant : Session κ → Prop}
    (kept :
      ∀ session next, Move setup session next →
        invariant session → invariant next)
    (course : Course setup session next)
    (start : invariant session) : invariant next := by
  induction course with
  | refl => exact start
  | tail _ move holds => exact kept _ _ move holds

/-- What every request keeps holds after a chain of requests. -/
theorem Requests.invariant
    {invariant : Session κ → Prop}
    (kept :
      ∀ session call, invariant session →
        invariant (session.perform setup call))
    (requests : Requests setup session next)
    (start : invariant session) : invariant next := by
  induction requests with
  | none => exact start
  | more call _ ih => exact ih (kept _ call start)

theorem Requests.trans
    (first : Requests setup session next)
    (second : Requests setup next last) :
    Requests setup session last := by
  induction first with
  | none => exact second
  | more call _ ih => exact .more call (ih second)

theorem Requests.one (call : ApiCall κ) :
    Requests setup session (session.perform setup call) :=
  .more call (.none _)

end Chains

/-! ## Requests -/

section Sending

variable {setup : Setup}
variable {session next : Session κ}

/-- A call is made over the transport, or the connection is lost. -/
theorem perform_cases
    (setup : Setup)
    (call : ApiCall κ)
    (session : Session κ) :
    (Kept session.debugger.client
          (session.debugger.client.perform setup.toolkit call) ∧
        session.perform setup call =
          session.sent
            (session.debugger.client.perform setup.toolkit call)) ∨
      (Lost (session.debugger.client.perform setup.toolkit call) ∧
        session.perform setup call =
          (session.sent
            (session.debugger.client.perform
              setup.toolkit call)).onConnectionError) := by
  rcases perform_effect setup.toolkit call session.debugger.client with
    kept | lost
  · exact Or.inl ⟨kept, send_eq_sent kept.events⟩
  · refine Or.inr ⟨lost, if_pos ?_⟩
    rw [lost.outputs]
    rfl

/-- A new connection sends the initialize request and nothing else. -/
theorem connect_eq
    (setup : Setup)
    (command : List WxString)
    (session : Session κ) :
    ∃ client text,
      client.transport = some 0 ∧
        client.handshakeState = .inProgress ∧
          client.features = ∅ ∧
            connect setup command session =
              { debugger :=
                  { session.debugger with
                    state := session.debugger.state.addState .connected
                    client := client
                    debuggeeStartCmd := command }
                callStack := session.callStack
                trace :=
                  Session.marks
                      (.sent ⟨1, .initialize_ Debugger.initArgs⟩ ::
                        client.logOutput text) ++
                    session.trace } := by
  let linked := session.debugger.client.setTransport 0
  have connected : linked.transport.isSome = true := rfl
  let request : Request := ⟨1, .initialize_ Debugger.initArgs⟩
  let text := "--> ".toList ++ setup.toolkit.requestText request
  let client : Client κ :=
    { linked with
      requestSequence := 1
      handshakeState := .inProgress }
  have asked :
      linked.initialize_ setup.toolkit (some Debugger.initArgs) =
        (client, .sent request :: client.logOutput text) := by
    unfold Client.initialize_
    dsimp only
    rw [request_connected connected]
    rfl
  let connectedTo : Session κ :=
    { session with
      debugger :=
        { session.debugger with
          state := session.debugger.state.addState .connected
          client := linked
          debuggeeStartCmd := command } }
  have logged :
      ∀ event ∈
          (linked.initialize_ setup.toolkit
            (some Debugger.initArgs)).2.filterMap Transition.eventOf,
        event = .logEvent := by
    rw [asked]
    exact events_logOutput client text
  refine ⟨client, text, rfl, rfl, rfl, ?_⟩
  show connectedTo.send _ = _
  rw [send_eq_sent logged]
  show connectedTo.sent
    (linked.initialize_ setup.toolkit (some Debugger.initArgs)) = _
  rw [asked]
  rfl

/-- Where the connection is lost no handshake is under way. -/
theorem handshake_of_lost
    {call : ApiCall κ}
    (lost : Lost (session.debugger.client.perform setup.toolkit call)) :
    let after :=
      session.sent (session.debugger.client.perform setup.toolkit call)
    after.onConnectionError.debugger.client.handshakeState =
      .notPerformed := by
  dsimp only
  unfold Session.onConnectionError
  split
  · exact lost.handshake
  · rw [Session.resetData_client]
    rfl

theorem notPerformed_not_inProgress :
    HandshakeState.notPerformed ≠ .inProgress := by
  decide

/-- A call does not make a session idle. -/
theorem not_idle_perform
    (call : ApiCall κ)
    (busy : ¬ Idle session) : ¬ Idle (session.perform setup call) := by
  rcases perform_cases setup call session with ⟨kept, sent⟩ | ⟨lost, sent⟩
  · rw [sent]
    exact fun idle =>
      busy ⟨kept.handshake.symm.trans idle.handshake, idle.halted,
        idle.noFrame⟩
  · rw [sent]
    intro idle
    have inProgress := idle.handshake
    rw [handshake_of_lost lost] at inProgress
    exact notPerformed_not_inProgress inProgress

/-- In a session that is not idle requests are moves. -/
theorem Requests.course
    (requests : Requests setup session next)
    (busy : ¬ Idle session) : Course setup session next := by
  induction requests with
  | none => exact Course.refl _
  | more call _ ih =>
      exact (Move.request _ call (Or.inl busy)).course.trans
        (ih (not_idle_perform call busy))

theorem not_idle_of_running (running : session.isRunning = true) :
    ¬ Idle session :=
  fun idle => Bool.false_ne_true (idle.halted.symm.trans running)

theorem not_idle_of_guard (guard : session.runningAndStopped = true) :
    ¬ Idle session :=
  not_idle_of_running (Bool.and_eq_true_iff.mp guard).1

theorem not_idle_of_completed
    (completed : session.debugger.client.handshakeState = .completed) :
    ¬ Idle session := by
  intro idle
  have both := completed.symm.trans idle.handshake
  cases both

theorem requests_foldl
    {α : Type*}
    {action : Session κ → α → Session κ}
    (requests :
      ∀ session entry, Requests setup session (action session entry))
    (entries : List α)
    (session : Session κ) :
    Requests setup session (entries.foldl action session) := by
  induction entries generalizing session with
  | nil => exact .none session
  | cons entry entries ih => exact (requests session entry).trans (ih _)

theorem requests_react
    (setup : Setup)
    (message : EventMessage)
    (reaction : Reaction κ)
    (session : Session κ) :
    Requests setup session (session.react setup message reaction) :=
  requests_foldl (fun _ call => .one call) _ session

theorem requests_announce
    (setup : Setup)
    (file : WxString)
    (lines : List SourceBreakpoint)
    (session : Session κ) :
    Requests setup session (session.announce setup file lines) := by
  unfold Session.announce
  split
  · exact .none session
  · exact .one _

theorem requests_announceAll
    (setup : Setup)
    (announcements : List (WxString × List SourceBreakpoint))
    (session : Session κ) :
    Requests setup session (session.announceAll setup announcements) :=
  requests_foldl (fun session _ => requests_announce setup _ _ session) _
    session

/-- Breakpoints are only announced at a stop. -/
theorem announceAll_closed
    (setup : Setup)
    (announcements : List (WxString × List SourceBreakpoint))
    (closed : session.runningAndStopped = false) :
    session.announceAll setup announcements = session := by
  unfold Session.announceAll
  induction announcements with
  | nil => rfl
  | cons announcement announcements ih =>
      have skipped :
          session.announce setup announcement.1 announcement.2 = session :=
        if_pos closed
      rw [List.foldl_cons, skipped]
      exact ih

theorem announceAll_idle
    (setup : Setup)
    (announcements : List (WxString × List SourceBreakpoint))
    (halted : session.isRunning = false) :
    session.announceAll setup announcements = session := by
  apply announceAll_closed
  unfold Session.runningAndStopped
  rw [halted]
  rfl

theorem course_announceAll
    (setup : Setup)
    (announcements : List (WxString × List SourceBreakpoint))
    (session : Session κ) :
    Course setup session (session.announceAll setup announcements) := by
  by_cases idle : Idle session
  · rw [announceAll_idle setup announcements idle.halted]
    exact Course.refl session
  · exact (requests_announceAll setup announcements session).course idle

end Sending

/-! ## Starting and ending a session -/

section Sessions

variable {setup : Setup}

/-- Only the processes of a session differ. -/
structure SameButProcesses (session next : Session κ) : Prop where
  callStack : next.callStack = session.callStack
  trace : next.trace = session.trace
  client : next.debugger.client = session.debugger.client
  state : next.debugger.state = session.debugger.state

theorem SameButProcesses.move
    {session next : Session κ}
    (same : SameButProcesses session next) : Move setup session next := by
  rcases next with ⟨⟨client, dapPid, pidAttached, state, command, actions⟩,
    callStack, trace⟩
  cases same.callStack
  cases same.trace
  cases same.client
  cases same.state
  exact .process session dapPid pidAttached command actions

theorem sameButProcesses_launchDAPDebugger
    (host : Host)
    (session : Session κ) :
    SameButProcesses session
      { session with
        debugger := session.debugger.launchDAPDebugger host } := by
  unfold Debugger.launchDAPDebugger
  split <;> exact ⟨rfl, rfl, rfl, rfl⟩

theorem sameButProcesses_killAdapter (session : Session κ) :
    SameButProcesses session
      { session with debugger := session.debugger.killAdapter } := by
  unfold Debugger.killAdapter
  split <;> exact ⟨rfl, rfl, rfl, rfl⟩

theorem noFrame_neg : (-1 : Int) < 0 := by
  decide

theorem fresh_resetData (session : Session κ) : Fresh session.resetData where
  halted := Session.resetData_isRunning session
  noFrame := noFrame_neg
  reset := ⟨session.trace, rfl⟩

theorem Fresh.of_same
    {session next : Session κ}
    (fresh : Fresh session)
    (same : SameButProcesses session next) : Fresh next where
  halted := (congrArg DebuggerState.isRunning same.state).trans fresh.halted
  noFrame := by
    rw [same.callStack]
    exact fresh.noFrame
  reset := by
    rw [same.trace]
    exact fresh.reset

theorem course_launchDebugger
    (host : Host)
    (dapPortNumber : WxString)
    (session : Session κ) :
    Course setup session
      (session.launchDebugger setup host dapPortNumber).1 := by
  let fresh := session.resetData
  have reset : Course setup session fresh := (Move.reset session).course
  let launched : Session κ :=
    if host.runDapServer then
      { fresh with debugger := fresh.debugger.launchDAPDebugger host }
    else fresh
  have same : SameButProcesses fresh launched := by
    by_cases server : host.runDapServer = true
    · rw [show launched = _ from if_pos server]
      exact sameButProcesses_launchDAPDebugger host fresh
    · rw [show launched = _ from if_neg server]
      exact ⟨rfl, rfl, rfl, rfl⟩
  have launch : Course setup session launched :=
    reset.trans same.move.course
  unfold Session.launchDebugger
  dsimp only
  split
  · exact reset
  · split
    · exact reset
    · split
      · exact launch.trans (sameButProcesses_killAdapter launched).move.course
      · exact launch.trans
          (Move.connect launched _
            ((fresh_resetData session).of_same same)).course

theorem course_startDebugger (host : Host) (session : Session κ) :
    Course setup session (session.startDebugger setup host).1 := by
  unfold Session.startDebugger
  dsimp only
  repeat' split
  all_goals
    first
    | exact Course.refl session
    | exact course_launchDebugger host _ session

theorem sameButProcesses_setPidAttached (pid : Int) (session : Session κ) :
    SameButProcesses session (session.setPidAttached pid) :=
  ⟨rfl, rfl, rfl, rfl⟩

theorem course_detachFromProcess (session : Session κ) :
    Course setup session (session.detachFromProcess setup) := by
  unfold Session.detachFromProcess
  split
  · exact Course.refl session
  · next attached =>
      rw [not_or] at attached
      have running : session.isRunning = true := by
        simpa using attached.2
      have disconnected :
          Course setup session
            (session.perform setup (.disconnect false false)) :=
        (Requests.one _).course (not_idle_of_running running)
      exact disconnected.trans
        (sameButProcesses_setPidAttached 0 _).move.course

theorem course_stop (session : Session κ) :
    Course setup session (session.stop setup) := by
  unfold Session.stop
  split
  · exact Course.refl session
  · next started =>
      have running : session.isRunning = true := by
        simpa using started
      have disconnected :
          Course setup session
            (session.perform setup (.disconnect true false)) :=
        (Requests.one _).course (not_idle_of_running running)
      exact disconnected.trans (Move.reset _).course

end Sessions

/-! ## Events -/

section Events

variable {setup : Setup}
variable {session next : Session κ}

/-- A selected frame is looked up in a session that is not idle. -/
theorem course_withActiveFrame
    {action : StackFrame → Session κ}
    (acts :
      ∀ frame, ¬ Idle session → Course setup session (action frame))
    (taken : session.withActiveFrame action = some next) :
    Course setup session next := by
  unfold Session.withActiveFrame at taken
  dsimp only at taken
  split at taken
  · cases taken
    exact Course.refl session
  · next selected =>
      rcases Option.map_eq_some_iff.mp taken with ⟨frame, -, rfl⟩
      exact acts frame fun idle => selected idle.noFrame

/-- The initialize response launches the debuggee and marks it as running. -/
theorem onInitializeResponse_cases
    (setup : Setup)
    (success : Bool)
    (session : Session κ) :
    session.onInitializeResponse setup success = session ∨
      ∃ moved call,
        SameButProcesses session moved ∧
          session.onInitializeResponse setup success =
            { moved.perform setup call with
              debugger :=
                { (moved.perform setup call).debugger with
                  state :=
                    (moved.perform setup call).debugger.state.addState
                      .running } } := by
  by_cases ignored : success = false ∨ session.debugger.pidAttached ≠ 0
  · exact Or.inl (if_pos ignored)
  · let command := session.debugger.debuggeeStartCmd
    let program := command.head?.getD []
    exact Or.inr
      ⟨{ session with
          debugger := { session.debugger with debuggeeStartCmd := [] } },
        .launch program command.tail (setup.exeBasePath program)
          setup.debuggeeEnv,
        ⟨rfl, rfl, rfl, rfl⟩, if_neg ignored⟩

theorem course_onStartResponse (success : Bool) :
    Course setup session (session.onStartResponse success) := by
  unfold Session.onStartResponse
  split
  · exact Course.refl session
  · exact (Move.reset session).course

/-- The handshake of a session is completed. -/
def Completed (session : Session κ) : Prop :=
  session.debugger.client.handshakeState = .completed

theorem Completed.not_idle (completed : Completed session) : ¬ Idle session :=
  not_idle_of_completed completed

theorem course_onStopped
    (reaction : Reaction κ)
    (completed : Completed session) :
    Course setup session (session.onStopped setup reaction) := by
  let stopped := session.markStopped
  have stop : Course setup session stopped := (Move.stopped session).course
  have busy : ¬ Idle stopped := not_idle_of_completed completed
  have announced :=
    requests_announceAll setup reaction.announcements stopped
  unfold Session.onStopped
  dsimp only
  split
  · exact stop.trans (announced.course busy)
  · have asked := (announced.trans (.one (.getFrames notFound 0 0))).trans
      (.one .getThreads)
    exact stop.trans (asked.course busy)

theorem course_onStackTrace
    {message : EventMessage}
    {json : Json}
    {reaction : Reaction κ}
    (completed : Completed session)
    (taken :
      session.onStackTrace setup message json reaction = some next) :
    Course setup session next := by
  rcases Option.map_eq_some_iff.mp taken with ⟨stack, -, rfl⟩
  let refilled : Session κ := { session with callStack := stack }
  have shown : Course setup session refilled :=
    (Move.frames session stack (Or.inl completed.not_idle)).course
  have busy : ¬ Idle refilled := not_idle_of_completed completed
  exact shown.trans
    ((requests_react setup message reaction refilled).course busy)

/-- The events whose handlers are more than moves. -/
def Marks : EventMessage → Prop
  | .initializeResponse => True
  | .attachResponse _ => True
  | _ => False

theorem course_onDapEvent
    {json : Json}
    {reaction : Reaction κ}
    {message : EventMessage}
    (completed : Completed session)
    (plain : ¬ Marks message)
    (taken : session.onDapEvent setup json reaction message = some next) :
    Course setup session next := by
  have busy := completed.not_idle
  have reacts (message : EventMessage) :
      Course setup session (session.react setup message reaction) :=
    (requests_react setup message reaction session).course busy
  cases message
  case lostConnection =>
    cases taken
    unfold Session.onConnectionError
    split
    · exact Course.refl session
    · exact (Move.reset session).course
  case initializeResponse => exact absurd trivial plain
  case attachResponse => exact absurd trivial plain
  case launchResponse =>
    cases taken
    exact course_onStartResponse _
  case configurationDoneResponse =>
    cases taken
    exact course_onStartResponse _
  case initializedEvent =>
    cases taken
    have announced :=
      requests_announceAll setup reaction.announcements session
    have reacted :=
      requests_react setup .initializedEvent reaction
        (session.announceAll setup reaction.announcements)
    exact ((announced.trans reacted).trans
      (.one .configurationDone)).course busy
  case stoppedEvent =>
    cases taken
    exact course_onStopped reaction completed
  case exitedEvent =>
    cases taken
    exact (Move.exited session).course
  case terminatedEvent =>
    cases taken
    exact (Move.reset session).course
  case stackTraceResponse => exact course_onStackTrace completed taken
  case disassembleResponse =>
    unfold Session.onDapEvent at taken
    dsimp only at taken
    split at taken
    · exact course_withActiveFrame (fun _ _ => Course.refl session) taken
    · cases taken
      exact Course.refl session
  case gotoTargetsResponse =>
    unfold Session.onDapEvent at taken
    dsimp only at taken
    split at taken
    · exact course_withActiveFrame (fun _ _ => reacts _) taken
    · cases taken
      exact Course.refl session
  case setBreakpointsResponse =>
    cases taken
    exact course_announceAll setup reaction.announcements session
  all_goals
    cases taken
    exact reacts _

end Events

/-! ## Commands -/

section Commands

variable {setup : Setup}
variable {session next : Session κ}

/-- The commands that send a request whatever the state of the session. -/
def Unguarded : UserCommand κ → Prop
  | .continue_ => True
  | .next => True
  | .stepIntoInstruction => True
  | .step => True
  | .stepOut => True
  | .break_ => True
  | .updateBreakpoint _ => True
  | _ => False

theorem course_evaluateInFrame
    {expression : WxString}
    {context : EvaluateContext}
    {callback : κ}
    (taken :
      session.evaluateInFrame setup expression context callback =
        some next) :
    Course setup session next :=
  course_withActiveFrame (fun _ busy => (Requests.one _).course busy) taken

theorem course_evaluateText
    {text expression : WxString}
    {callback : κ}
    (taken :
      session.evaluateText setup text expression callback = some next) :
    Course setup session next := by
  unfold Session.evaluateText at taken
  split at taken
  · exact course_withActiveFrame (fun _ _ => Course.refl session) taken
  · exact course_evaluateInFrame taken

theorem guard_of_not
    (open_ : ¬ session.runningAndStopped = false) : ¬ Idle session :=
  not_idle_of_guard (Bool.not_eq_false _ ▸ open_)

theorem course_requestUpdate
    {window : DebugWindow κ}
    (taken : session.requestUpdate setup window = some next) :
    Course setup session next := by
  unfold Session.requestUpdate at taken
  split at taken
  · cases taken
    exact Course.refl session
  · next open_ =>
      have busy := guard_of_not open_
      have asks (call : ApiCall κ) :
          Course setup session (session.perform setup call) :=
        (Requests.one call).course busy
      cases window with
      | backtrace =>
          cases taken
          exact asks _
      | threads =>
          cases taken
          exact asks _
      | cpuRegisters shown =>
          dsimp only at taken
          split at taken
          · cases taken
            exact Course.refl session
          · exact course_withActiveFrame (fun _ _ => asks _) taken
      | disassembly shown =>
          dsimp only at taken
          split at taken
          · cases taken
            exact Course.refl session
          · exact course_withActiveFrame (fun _ _ => asks _) taken
      | examineMemory shown address bytes callback =>
          dsimp only at taken
          split at taken
          · cases taken
            exact Course.refl session
          · exact course_evaluateText taken
      | memoryRange =>
          cases taken
          exact Course.refl session
      | watches =>
          cases taken
          exact Course.refl session

theorem course_switchToThread (threadNumber : Int) :
    Course setup session (session.switchToThread setup threadNumber) := by
  unfold Session.switchToThread
  split
  · exact Course.refl session
  · next open_ =>
      have running : session.isRunning = true :=
        (Bool.and_eq_true_iff.mp (Bool.not_eq_false _ ▸ open_)).1
      have select : Move setup session _ :=
        .select session threadNumber (guard_of_not open_)
      exact select.course.trans
        ((Requests.one _).course (not_idle_of_running running))

theorem course_switchToFrame
    {number : Int}
    (taken : session.switchToFrame number = some next) :
    Course setup session next := by
  unfold Session.switchToFrame at taken
  split at taken
  · cases taken
    exact Course.refl session
  · next open_ =>
      rcases Option.map_eq_some_iff.mp taken with ⟨stack, -, rfl⟩
      exact (Move.frames session stack (Or.inl (guard_of_not open_))).course

theorem course_command
    {command : UserCommand κ}
    (guarded : ¬ Unguarded command)
    (taken : session.command setup command = some next) :
    Course setup session next := by
  cases command
  case setNextStatement codelldb filename line =>
    unfold Session.command at taken
    dsimp only at taken
    split at taken
    · cases taken
      exact Course.refl session
    · cases taken
      exact (Move.request session (.gotoTarget filename line 1)
        (Or.inr trivial)).course
  case runToCursor announcement =>
    unfold Session.command at taken
    dsimp only at taken
    split at taken
    · cases taken
      exact Course.refl session
    · next open_ =>
        cases taken
        have requests :=
          (requests_announce setup announcement.1 announcement.2
            session).trans (.one (.continue_ notFound true))
        exact requests.course (guard_of_not open_)
  case editBreakpoint announcement =>
    cases taken
    exact course_announceAll setup [announcement] session
  case deleteAllBreakpoints files =>
    unfold Session.command at taken
    dsimp only at taken
    split at taken
    · cases taken
      exact Course.refl session
    · next running =>
        cases taken
        have requests :
            Requests setup session
              (files.foldl (fun session file =>
                session.perform setup (.setBreakpointsFile file [])) session) :=
          requests_foldl (fun _ _ => .one _) files session
        exact requests.course
          (not_idle_of_running (Bool.not_eq_false _ ▸ running))
  case expandWatch variablesReference =>
    unfold Session.command at taken
    dsimp only at taken
    split at taken
    · cases taken
      exact Course.refl session
    · next open_ =>
        cases taken
        exact (Requests.one _).course (guard_of_not open_)
  case updateWatch requestSequence symbol callback =>
    unfold Session.command at taken
    dsimp only at taken
    split at taken
    · cases taken
      exact Course.refl session
    · next running =>
        have asked :
            Requests setup session
              (session.perform setup
                (.getVariableInfo requestSequence [] 1 .native)) :=
          .one _
        have busy : ¬ Idle session :=
          not_idle_of_running (Bool.not_eq_false _ ▸ running)
        exact (asked.course busy).trans (course_evaluateInFrame taken)
  case sendCommand cmd callback =>
    unfold Session.command at taken
    dsimp only at taken
    split at taken
    · cases taken
      exact Course.refl session
    · exact course_evaluateText taken
  case onValueTooltip token callback => exact course_evaluateInFrame taken
  case switchToFrame number => exact course_switchToFrame taken
  case switchToThread threadNumber =>
    cases taken
    exact course_switchToThread threadNumber
  case requestUpdate window => exact course_requestUpdate taken
  all_goals exact absurd trivial guarded

/-- The other commands are requests and nothing else. -/
theorem requests_command
    {command : UserCommand κ}
    (unguarded : Unguarded command)
    (taken : session.command setup command = some next) :
    Requests setup session next := by
  cases command
  case updateBreakpoint announcements =>
    unfold Session.command at taken
    dsimp only at taken
    split at taken
    · cases taken
      exact Requests.trans (.one _)
        (requests_announceAll setup announcements _)
    · cases taken
      exact (requests_announceAll setup announcements session).trans (.one _)
  case continue_ | next | stepIntoInstruction | step | stepOut | break_ =>
    cases taken
    exact .one _
  all_goals exact absurd unguarded id

end Commands

/-! ## Steps -/

section Steps

variable {setup : Setup}
variable {session next : Session κ}

theorem completed_receive
    {json : Json}
    (completed : Completed session) :
    Completed (session.receive setup json) :=
  (onMessage_session setup.toolkit json completed).1

theorem trace_receive_completed
    {json : Json}
    (completed : Completed session) :
    (session.receive setup json).trace =
      Session.marks
          (DapClient.OnMessage.onMessage setup.toolkit json
            session.debugger.client).2 ++
        .handled json :: session.trace :=
  congrArg (Session.marks _ ++ ·) (if_pos completed)

theorem trace_receive_waiting
    {json : Json}
    (waiting : ¬ Completed session) :
    (session.receive setup json).trace =
      Session.marks
          (DapClient.OnMessage.onMessage setup.toolkit json
            session.debugger.client).2 ++
        session.trace :=
  congrArg (Session.marks _ ++ ·) (if_neg waiting)

/-- What a message does, by the state of the handshake. -/
inductive MessageCourse
    (setup : Setup)
    (json : Json)
    (session : Session κ) : Session κ → Prop where
  | ignored
      (waiting : ¬ Completed session)
      (told : dispatched setup.toolkit json session.debugger.client = none) :
      MessageCourse setup json session (session.receive setup json)
  | initialized
      (waiting : ¬ Completed session)
      (told :
        dispatched setup.toolkit json session.debugger.client =
          some .initializeResponse) :
      MessageCourse setup json session
        ((session.receive setup json).onInitializeResponse setup
          (messageSuccess json))
  | attached
      (completed : Completed session) (jsonDump : WxString)
      (told :
        dispatched setup.toolkit json session.debugger.client =
          some (.attachResponse jsonDump)) :
      MessageCourse setup json session
        ((session.receive setup json).onAttachToProcessResponse
          (messageSuccess json))
  | handled
      (completed : Completed session)
      (other :
        ∀ jsonDump,
          dispatched setup.toolkit json session.debugger.client ≠
            some (.attachResponse jsonDump))
      {next : Session κ}
      (course : Course setup (session.receive setup json) next) :
      MessageCourse setup json session next

/-- After the handshake no initialize response is dispatched. -/
theorem dispatched_not_initializeResponse
    {json : Json}
    (completed : Completed session) :
    dispatched setup.toolkit json session.debugger.client ≠
      some .initializeResponse := by
  intro told
  have events := (onMessage_session setup.toolkit json completed).2.2
  exact events _ (List.mem_of_find?_eq_some told) List.mem_cons_self

theorem message_course
    {json : Json}
    {reaction : Reaction κ}
    (taken : session.onMessage setup json reaction = some next) :
    MessageCourse setup json session next := by
  rw [Session.onMessage_eq] at taken
  by_cases completed : Completed session
  · cases told : dispatched setup.toolkit json session.debugger.client with
    | none =>
        rw [told] at taken
        cases taken
        refine .handled completed ?_ (Course.refl _)
        rw [told]
        exact fun _ => nofun
    | some message =>
        rw [told] at taken
        by_cases marks : Marks message
        · cases message
          case initializeResponse =>
            exact absurd told (dispatched_not_initializeResponse completed)
          case attachResponse jsonDump =>
            cases taken
            exact .attached completed jsonDump told
          all_goals exact absurd marks id
        · refine .handled completed ?_
            (course_onDapEvent (completed_receive completed) marks taken)
          intro jsonDump attach
          rw [told] at attach
          cases attach
          exact marks trivial
  · have waits :
        dispatched setup.toolkit json session.debugger.client = none ∨
          dispatched setup.toolkit json session.debugger.client =
            some .initializeResponse :=
      dispatched_waiting completed
    rcases waits with told | told
    · rw [told] at taken
      cases taken
      exact .ignored completed told
    · rw [told] at taken
      cases taken
      exact .initialized completed told

/-- The labels that are moves and nothing else. -/
def Plain : Label κ → Prop
  | .attachToProcess _ _ => False
  | .message _ _ => False
  | .command command => ¬ Unguarded command
  | _ => True

theorem step_course
    {label : Label κ}
    (plain : Plain label)
    (taken : step setup session label = some next) :
    Course setup session next := by
  cases label with
  | startDebugger host =>
      cases taken
      exact course_startDebugger host session
  | attachToProcess pid host => exact absurd plain id
  | detachFromProcess =>
      cases taken
      exact course_detachFromProcess session
  | stop =>
      cases taken
      exact course_stop session
  | message json reaction => exact absurd plain id
  | connectionError =>
      cases taken
      exact (Move.lose session).course
  | projectOpened =>
      cases taken
      exact (Move.opened session).course
  | projectClosed =>
      cases taken
      exact (Move.frames session session.callStack.resetData
        (Or.inr noFrame_neg)).course
  | release =>
      cases taken
      exact (Move.reset session).course
  | command command => exact course_command plain taken

/-- An attach starts the debugger and requests at once. -/
theorem attachToProcess_cases
    (setup : Setup)
    (pid : WxString)
    (host : Host)
    (session : Session κ) :
    (setup.toLong pid = none ∧
        session.attachToProcess setup host pid = session) ∨
      ∃ number,
        setup.toLong pid = some number ∧
          session.attachToProcess setup host pid =
            ((session.setPidAttached number).startDebugger setup
              host).1.perform setup (.attach number) := by
  unfold Session.attachToProcess
  cases setup.toLong pid with
  | none => exact Or.inl ⟨rfl, rfl⟩
  | some number => exact Or.inr ⟨number, rfl, rfl⟩

end Steps

end DebuggerDap.Plugin.Moves
