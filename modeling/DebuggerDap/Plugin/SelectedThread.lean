import DebuggerDap.Plugin.ActiveFrame

/-!
# The thread whose frames are shown

After a stop the user selects threads and refreshes the backtrace, and every
reply replaces the frames.  Replies come in the order of their requests, so in
the end the frames of the thread asked for last are shown.  This is the thread
selected last, except that a refresh asks for the thread that stopped.
-/

namespace DebuggerDap.Plugin.SelectedThread

open DebuggerDap.Text.Strings
open DebuggerDap.Protocol.JsonTree
open DebuggerDap.Protocol.Messages
open DebuggerDap.DapClient.State
open DebuggerDap.DapClient.OnMessage
open DebuggerDap.DapClient.Sessions
  (request_connected requestTwice_connected)
open DebuggerDap.DapClient.History
  (Transition Lost events_logOutput lost_onConnectionError perform_kept)
open DebuggerDap.Library.Run
open DebuggerDap.Plugin.Backtrace
open DebuggerDap.Plugin.Sessions
open DebuggerDap.Plugin.ActiveFrame
  (plainSetup plainReaction stoppedTree framesTree threeFrames)

variable {κ : Type*}

/-! ## What a trace says -/

/-- The thread a request asks the frames of. -/
def framesThread : RequestBody → Option Int
  | .stackTrace threadId _ _ => some threadId
  | _ => none

def askedThread : Mark κ → Option Int
  | .output (.sent request) => framesThread request.body
  | _ => none

/-- The threads whose frames were requested, in order. -/
def requested (trace : List (Mark κ)) : List Int :=
  (trace.filterMap askedThread).reverse

/-- The thread of a stopped event. -/
def stopMark : Mark κ → Option Int
  | .output (.event ⟨.stoppedEvent threadId, _, _⟩) => some threadId
  | _ => none

/-- The thread that stopped last. -/
def stopThread (trace : List (Mark κ)) : Int :=
  (trace.findSome? stopMark).getD notFound

/-- `wxNOT_FOUND` selects the thread that stopped. -/
def selectionMark (stopped : Int) : Mark κ → Option Int
  | .threadSelected thread =>
      some (if thread = notFound then stopped else thread)
  | mark => stopMark mark

/-- The thread selected since the last stop, or the one that stopped. -/
def selectedThread (trace : List (Mark κ)) : Int :=
  (trace.findSome? (selectionMark (stopThread trace))).getD notFound

/-! ## Switching, refreshing and replies -/

/-- A session after a stop and the replies handled since. -/
structure Watch (κ : Type*) where
  session : Session κ
  /-- How many of the requests for frames are answered or given up. -/
  settled : Nat
  /-- The threads and the frames of the replies, newest first. -/
  answers : List (Int × List StackFrame)

/-- The threads whose frames are still to come, in the order requested. -/
def Watch.awaited (watch : Watch κ) : List Int :=
  (requested watch.session.trace).drop watch.settled

inductive ThreadLabel (κ : Type*) where
  | switchToThread (threadNumber : Int)
  /-- `RequestUpdate(Backtrace)`. -/
  | requestUpdate
  /-- The reply to the oldest request that is awaited. -/
  | reply (json : Json) (reaction : Reaction κ)

def step
    (setup : Setup)
    (watch : Watch κ)
    (label : ThreadLabel κ) : Option (Watch κ) :=
  match label with
  | .switchToThread threadNumber =>
      (Sessions.step setup watch.session
        (.command (.switchToThread threadNumber))).map fun session =>
          { watch with session := session }
  | .requestUpdate =>
      (Sessions.step setup watch.session
        (.command (.requestUpdate .backtrace))).map fun session =>
          { watch with session := session }
  | .reply json reaction =>
      match watch.awaited,
          dispatched setup.toolkit json watch.session.debugger.client with
      | thread :: _, some (.stackTraceResponse _) =>
          (Sessions.step setup watch.session (.message json reaction)).map
            fun session =>
              { session := session
                settled := watch.settled + 1
                answers := (thread, stackFrames json) :: watch.answers }
      | _, _ => none

/-- A stopped event whose handler comes to its end. -/
structure Stop (setup : Setup) (κ : Type*) where
  before : Session κ
  json : Json
  reaction : Reaction κ
  threadId : Int
  told :
    dispatched setup.toolkit json before.debugger.client =
      some (.stoppedEvent threadId)
  returns : reaction.handlerReturns = true
  session : Session κ
  taken : Sessions.step setup before (.message json reaction) = some session
  settled : Nat
  settled_le : settled ≤ (requested before.trace).length

/-- No reply has been handled since the stop. -/
def Stop.watch {setup : Setup} (stop : Stop setup κ) : Watch κ where
  session := stop.session
  settled := stop.settled
  answers := []

/--
Once nothing is awaited the frames shown are those of the last reply for the
selected thread.
-/
def Belongs (watch : Watch κ) : Prop :=
  watch.awaited = [] →
    watch.session.callStack.backtrace =
      (watch.answers.lookup (selectedThread watch.session.trace)).getD []

/-- The backtrace is only refreshed for the thread that stopped. -/
def RefreshesSelected (watch : Watch κ) (label : ThreadLabel κ) : Prop :=
  match label with
  | .requestUpdate =>
      watch.session.runningAndStopped = true →
        selectedThread watch.session.trace = stopThread watch.session.trace
  | _ => True

/-! ## Requests over a transport -/

theorem requested_append (later earlier : List (Mark κ)) :
    requested (later ++ earlier) = requested earlier ++ requested later := by
  simp [requested]

/-- A mark that tells nothing of the selected thread. -/
def Neutral (mark : Mark κ) : Prop :=
  ∀ stopped, selectionMark stopped mark = none

theorem Neutral.stopMark
    {mark : Mark κ}
    (neutral : Neutral mark) : stopMark mark = none := by
  have none := neutral notFound
  cases mark <;> first | exact none | rfl

theorem stopThread_append
    {later : List (Mark κ)}
    (neutral : ∀ mark ∈ later, Neutral mark)
    (earlier : List (Mark κ)) :
    stopThread (later ++ earlier) = stopThread earlier := by
  have nothing : later.findSome? stopMark = none :=
    List.findSome?_eq_none_iff.mpr fun mark member =>
      (neutral mark member).stopMark
  rw [stopThread, List.findSome?_append, nothing, Option.none_or]
  rfl

theorem selectedThread_append
    {later : List (Mark κ)}
    (neutral : ∀ mark ∈ later, Neutral mark)
    (earlier : List (Mark κ)) :
    selectedThread (later ++ earlier) = selectedThread earlier := by
  unfold selectedThread
  rw [stopThread_append neutral earlier]
  have nothing :
      later.findSome? (selectionMark (stopThread earlier)) = none :=
    List.findSome?_eq_none_iff.mpr fun mark member =>
      neutral mark member (stopThread earlier)
  rw [List.findSome?_append, nothing, Option.none_or]

/-- Outputs without a stopped event are neutral. -/
theorem neutral_marks
    {outputs : List (Output κ)}
    (other :
      ∀ event ∈ outputs.filterMap Transition.eventOf,
        ∀ threadId, event ≠ .stoppedEvent threadId) :
    ∀ mark ∈ Session.marks outputs, Neutral mark := by
  intro mark member stopped
  cases saidBy_of_mem member with
  | event message json string among =>
      have notStopped := other message among
      cases message
      case stoppedEvent threadId => exact absurd rfl (notStopped threadId)
      all_goals rfl
  | request => rfl
  | response => rfl
  | evaluated => rfl
  | sourceLoaded => rfl

/-- The thread whose frames a call of the client requests. -/
def framesAsked (client : Client κ) : ApiCall κ → List Int
  | .getFrames threadId _ _ => [client.resolveThread threadId]
  | _ => []

/-- The calls made by the handlers of stops and of stack traces. -/
def Refreshes : ApiCall κ → Prop
  | .getFrames _ _ _ => True
  | .getScopes _ => True
  | .getThreads => True
  | .setBreakpointsFile _ _ => True
  | _ => False

section Calls

variable (toolkit : Toolkit)
variable {client prepared : Client κ}
variable {call : ApiCall κ}

/-- What a request leaves in the trace of a connected client. -/
theorem requested_sent
    (request : Request)
    (text : WxString) :
    requested
        (Session.marks (.sent request :: client.logOutput text)) =
      (framesThread request.body).toList := by
  rcases request with ⟨seq, body⟩
  unfold requested Session.marks Client.logOutput
  split
  · cases body <;> rfl
  · cases body <;> rfl

theorem request_asks
    (connected : prepared.transport.isSome = true)
    (body : RequestBody) :
    (prepared.request toolkit body).1.activeThreadId =
        prepared.activeThreadId ∧
      requested (Session.marks (prepared.request toolkit body).2) =
        (framesThread body).toList := by
  rw [request_connected connected]
  exact ⟨rfl, requested_sent _ _⟩

theorem requestTwice_asks
    (connected : prepared.transport.isSome = true)
    (body : RequestBody) :
    (prepared.requestTwice toolkit body).1.activeThreadId =
        prepared.activeThreadId ∧
      requested (Session.marks (prepared.requestTwice toolkit body).2) =
        (framesThread body).toList := by
  rw [requestTwice_connected connected]
  exact ⟨rfl, requested_sent _ _⟩

theorem perform_refreshes
    (connected : client.transport.isSome = true)
    (refreshes : Refreshes call) :
    (client.perform toolkit call).1.activeThreadId =
        client.activeThreadId ∧
      requested (Session.marks (client.perform toolkit call).2) =
        framesAsked client call := by
  cases call
  case getFrames threadId startingFrame frameCount =>
    let prepared : Client κ :=
      { client with
        getFramesQueue :=
          client.getFramesQueue ++ [client.resolveThread threadId] }
    have ready : prepared.transport.isSome = true := connected
    exact request_asks toolkit ready _
  case getScopes frameId =>
    let prepared : Client κ :=
      { client with getScopesQueue := client.getScopesQueue ++ [frameId] }
    have ready : prepared.transport.isSome = true := connected
    exact requestTwice_asks toolkit ready _
  case getThreads => exact requestTwice_asks toolkit connected _
  case setBreakpointsFile file lines =>
    let prepared : Client κ :=
      { client with
        sourceBreakpointsQueue := client.sourceBreakpointsQueue ++ [file] }
    have ready : prepared.transport.isSome = true := connected
    exact requestTwice_asks toolkit ready _
  all_goals exact absurd refreshes id

theorem lost_sendRequest
    (unlinked : prepared.transport = none)
    (request : Request) :
    Lost (prepared.sendRequest toolkit request) := by
  unfold Client.sendRequest
  rw [unlinked]
  exact lost_onConnectionError prepared

/-- Without a transport the connection is lost. -/
theorem lost_refreshes
    (unlinked : client.transport = none)
    (refreshes : Refreshes call) :
    Lost (client.perform toolkit call) := by
  cases call
  case getFrames => apply lost_sendRequest toolkit; exact unlinked
  case getScopes => apply lost_sendRequest toolkit; exact unlinked
  case getThreads => apply lost_sendRequest toolkit; exact unlinked
  case setBreakpointsFile => apply lost_sendRequest toolkit; exact unlinked
  all_goals exact absurd refreshes id

end Calls

/-! ## What a session sends over its transport -/

/-- The frames of some threads were requested, in order. -/
structure Asks
    (threads : List Int)
    (session next : Session κ) : Prop where
  linked : Linked next
  state : next.debugger.state = session.debugger.state
  callStack : next.callStack = session.callStack
  activeThreadId :
    next.debugger.client.activeThreadId =
      session.debugger.client.activeThreadId
  requested : requested next.trace = requested session.trace ++ threads
  stopThread : stopThread next.trace = stopThread session.trace
  selectedThread : selectedThread next.trace = selectedThread session.trace

namespace Asks

variable {session next last : Session κ}
variable {earlier later : List Int}

theorem refl (linked : Linked session) : Asks [] session session where
  linked := linked
  state := rfl
  callStack := rfl
  activeThreadId := rfl
  requested := (List.append_nil _).symm
  stopThread := rfl
  selectedThread := rfl

theorem trans
    (first : Asks earlier session next)
    (second : Asks later next last) :
    Asks (earlier ++ later) session last where
  linked := second.linked
  state := second.state.trans first.state
  callStack := second.callStack.trans first.callStack
  activeThreadId := second.activeThreadId.trans first.activeThreadId
  requested := by
    rw [second.requested, first.requested, List.append_assoc]
  stopThread := second.stopThread.trans first.stopThread
  selectedThread := second.selectedThread.trans first.selectedThread

theorem perform
    (setup : Setup)
    (call : ApiCall κ)
    (refreshes : Refreshes call)
    (linked : Linked session) :
    Asks (framesAsked session.debugger.client call) session
      (session.perform setup call) := by
  rcases perform_linked setup call linked with ⟨sent, still⟩
  rcases perform_refreshes setup.toolkit linked refreshes with
    ⟨activeThreadId, asked⟩
  have kept := (perform_kept setup.toolkit call linked).1
  have neutral :=
    neutral_marks fun event member threadId stopped => by
      have log := kept.events event member
      rw [stopped] at log
      cases log
  constructor
  case linked => exact still
  case state => rw [sent]; rfl
  case callStack => rw [sent]; rfl
  case activeThreadId => rw [sent]; exact activeThreadId
  case requested =>
    rw [sent, ← asked]
    exact requested_append _ _
  case stopThread =>
    rw [sent]
    exact stopThread_append neutral _
  case selectedThread =>
    rw [sent]
    exact selectedThread_append neutral _

/-- Requests that ask for no frames. -/
theorem foldl
    {α : Type*}
    {action : Session κ → α → Session κ}
    (entries : List α)
    (asks :
      ∀ entry ∈ entries, ∀ session, Linked session →
        Asks [] session (action session entry))
    (linked : Linked session) :
    Asks [] session (entries.foldl action session) := by
  induction entries generalizing session with
  | nil => exact refl linked
  | cons entry entries ih =>
      have first := asks entry List.mem_cons_self session linked
      have rest :=
        ih (fun other member => asks other (List.mem_cons_of_mem _ member))
          first.linked
      exact first.trans rest

end Asks

theorem asks_announceAll
    (setup : Setup)
    (announcements : List (WxString × List SourceBreakpoint))
    {session : Session κ}
    (linked : Linked session) :
    Asks [] session (session.announceAll setup announcements) := by
  apply Asks.foldl announcements _ linked
  intro announcement _ session linked
  unfold Session.announce
  split
  · exact Asks.refl linked
  · exact Asks.perform setup (.setBreakpointsFile _ _) trivial linked

/-- The views only ask for scopes when the frames are there. -/
theorem asks_react
    (setup : Setup)
    (reaction : Reaction κ)
    (refId : Int)
    {session : Session κ}
    (linked : Linked session) :
    Asks [] session
      (session.react setup (.stackTraceResponse refId) reaction) := by
  apply Asks.foldl _ _ linked
  intro call among session linked
  have scopes := (List.mem_filter.mp among).2
  cases call
  case getScopes frameId =>
    exact Asks.perform setup (.getScopes frameId) trivial linked
  all_goals cases scopes

/-! ## Without a transport -/

/-- The connection is lost, and nothing more is requested or answered. -/
structure Down (session : Session κ) : Prop where
  unlinked : session.debugger.client.transport = none
  waiting : session.debugger.client.handshakeState = .notPerformed
  halted : session.isRunning = false
  backtrace : session.callStack.backtrace = []

theorem down_of_lost
    (setup : Setup)
    {call : ApiCall κ}
    {session : Session κ}
    (lost : Lost (session.debugger.client.perform setup.toolkit call))
    (backtrace : session.callStack.backtrace = []) :
    Down (session.perform setup call) := by
  let sent : Session κ :=
    session.sent (session.debugger.client.perform setup.toolkit call)
  have told : session.perform setup call = sent.onConnectionError := by
    refine if_pos ?_
    show (session.debugger.client.perform setup.toolkit call).2.any _ = true
    rw [lost.outputs]
    rfl
  rw [told]
  unfold Session.onConnectionError
  split
  · next halted =>
      exact ⟨lost.transport, lost.handshake, halted, backtrace⟩
  · constructor
    case unlinked =>
      rw [Session.resetData_client]
      rfl
    case waiting =>
      rw [Session.resetData_client]
      rfl
    case halted => exact Session.resetData_isRunning sent
    case backtrace => rfl

/-- A session without a transport that shows no frames. -/
structure Unlinked (session : Session κ) : Prop where
  unlinked : session.debugger.client.transport = none
  backtrace : session.callStack.backtrace = []

theorem Down.isUnlinked
    {session : Session κ}
    (down : Down session) : Unlinked session :=
  ⟨down.unlinked, down.backtrace⟩

theorem Unlinked.perform
    (setup : Setup)
    (call : ApiCall κ)
    {session : Session κ}
    (unlinked : Unlinked session)
    (refreshes : Refreshes call) :
    Down (session.perform setup call) :=
  down_of_lost setup
    (lost_refreshes setup.toolkit unlinked.unlinked refreshes)
    unlinked.backtrace

theorem Unlinked.announceAll
    (setup : Setup)
    (announcements : List (WxString × List SourceBreakpoint))
    {session : Session κ}
    (unlinked : Unlinked session) :
    Unlinked (session.announceAll setup announcements) := by
  unfold Session.announceAll
  induction announcements generalizing session with
  | nil => exact unlinked
  | cons announcement announcements ih =>
      refine ih ?_
      unfold Session.announce
      dsimp only
      split
      · exact unlinked
      · exact (unlinked.perform setup (.setBreakpointsFile _ _)
          trivial).isUnlinked

/-! ## The frames awaited last are those of the selected thread -/

/-- The last request for frames is for the selected thread. -/
structure Live (watch : Watch κ) : Prop where
  linked : Linked watch.session
  active :
    watch.session.debugger.client.activeThreadId =
      stopThread watch.session.trace
  last :
    (requested watch.session.trace).getLast? =
      some (selectedThread watch.session.trace)
  settled : watch.settled ≤ (requested watch.session.trace).length
  shown :
    watch.awaited = [] →
      watch.answers.head? =
        some
          (selectedThread watch.session.trace,
            watch.session.callStack.backtrace)

/-- The connection is lost before a reply was handled. -/
structure Dead (watch : Watch κ) : Prop where
  down : Down watch.session
  answers : watch.answers = []

/-- The frames shown belong to the selected thread, or there are none. -/
def Tracked (watch : Watch κ) : Prop :=
  Live watch ∨ Dead watch

theorem Tracked.belongs {watch : Watch κ} (tracked : Tracked watch) :
    Belongs watch := by
  intro settled
  rcases tracked with live | dead
  · have newest := live.shown settled
    rcases answers : watch.answers with _ | ⟨answer, earlier⟩
    · rw [answers] at newest
      cases newest
    · rw [answers] at newest
      cases newest
      rw [List.lookup_cons_self]
      rfl
  · rw [dead.answers, dead.down.backtrace]
    rfl

/-- A request for the frames of the selected thread. -/
theorem live_of_asks
    {session next : Session κ}
    {thread : Int}
    (asks : Asks [thread] session next)
    (active :
      session.debugger.client.activeThreadId = stopThread session.trace)
    (selected : thread = selectedThread session.trace)
    {settled : Nat}
    (settled_le : settled ≤ (requested session.trace).length)
    (answers : List (Int × List StackFrame)) :
    Live ⟨next, settled, answers⟩ := by
  have length :
      (requested next.trace).length =
        (requested session.trace).length + 1 := by
    rw [asks.requested, List.length_append]
    rfl
  constructor
  case linked => exact asks.linked
  case active =>
    show next.debugger.client.activeThreadId = stopThread next.trace
    rw [asks.activeThreadId, asks.stopThread]
    exact active
  case last =>
    show (requested next.trace).getLast? = some (selectedThread next.trace)
    rw [asks.requested, asks.selectedThread, ← selected]
    exact List.getLast?_concat
  case settled =>
    show settled ≤ (requested next.trace).length
    omega
  case shown =>
    intro nothing
    have settledAll : (requested next.trace).length ≤ settled :=
      List.drop_eq_nil_iff.mp nothing
    omega

section Steps

variable {setup : Setup}

theorem stoppedEvent_not_initializeResponse (threadId : Int) :
    EventMessage.stoppedEvent threadId ≠ .initializeResponse :=
  nofun

theorem stackTraceResponse_not_initializeResponse (refId : Int) :
    EventMessage.stackTraceResponse refId ≠ .initializeResponse :=
  nofun

/-- A message that is received requests nothing. -/
theorem requested_received
    {json : Json}
    {message : EventMessage}
    {session received : Session κ}
    (arrived : Received setup json message session received) :
    requested received.trace = requested session.trace := by
  rw [arrived.trace]
  unfold requested Session.marks Client.logOutput
  split <;> rfl

/-- The thread of a stopped event is the one selected. -/
theorem stop_received
    {json : Json}
    {threadId : Int}
    {session received : Session κ}
    (arrived :
      Received setup json (.stoppedEvent threadId) session received) :
    stopThread received.trace = threadId ∧
      selectedThread received.trace = threadId := by
  unfold selectedThread stopThread
  rw [arrived.trace]
  exact ⟨rfl, rfl⟩

/-- A reply does not change which thread is selected. -/
theorem reply_received
    {json : Json}
    {refId : Int}
    {session received : Session κ}
    (arrived :
      Received setup json (.stackTraceResponse refId) session received) :
    stopThread received.trace = stopThread session.trace ∧
      selectedThread received.trace = selectedThread session.trace := by
  have logged :
      ∀ mark ∈
          Session.marks
            (session.debugger.client.logOutput
              ("<-- ".toList ++ setup.toolkit.printUnformatted json)),
        Neutral mark :=
    neutral_marks fun event member threadId stopped => by
      rw [events_logOutput _ _ event member] at stopped
      cases stopped
  have neutral :
      ∀ mark ∈
          Mark.output (.event
              (dapEvent setup.toolkit (.stackTraceResponse refId) json)) ::
            (Session.marks
                (session.debugger.client.logOutput
                  ("<-- ".toList ++ setup.toolkit.printUnformatted json)) ++
              [.handled json]),
        Neutral mark := by
    intro mark member
    rcases List.mem_cons.mp member with rfl | member
    · exact fun _ => rfl
    · rcases List.mem_append.mp member with log | handled
      · exact logged mark log
      · rw [List.mem_singleton.mp handled]
        exact fun _ => rfl
  rw [arrived.trace, ← List.singleton_append (x := Mark.handled json),
    ← List.append_assoc, ← List.cons_append]
  exact ⟨stopThread_append neutral _, selectedThread_append neutral _⟩

/-- The handler of a stop that comes to its end. -/
theorem onStopped_returns
    {reaction : Reaction κ}
    (returns : reaction.handlerReturns = true)
    (session : Session κ) :
    session.onStopped setup reaction =
      ((session.markStopped.announceAll setup
        reaction.announcements).perform setup
          (.getFrames notFound 0 0)).perform setup .getThreads := by
  unfold Session.onStopped
  rw [returns]
  rfl

theorem Stop.session_eq (stop : Stop setup κ) :
    stop.session =
      (stop.before.receive setup stop.json).onStopped setup stop.reaction := by
  have taken :
      stop.before.onMessage setup stop.json stop.reaction =
        some stop.session :=
    stop.taken
  rw [Session.onMessage_eq, stop.told] at taken
  exact (Option.some.inj taken).symm

theorem resolveThread_notFound (client : Client κ) :
    client.resolveThread notFound = client.activeThreadId :=
  if_pos rfl

/-- After a stop the frames of its thread are awaited. -/
theorem Stop.tracked (stop : Stop setup κ) : Tracked stop.watch := by
  let received := stop.before.receive setup stop.json
  let announced :=
    received.markStopped.announceAll setup stop.reaction.announcements
  let asked := announced.perform setup (.getFrames notFound 0 0)
  have arrived :=
    received_of_dispatched stop.told
      (stoppedEvent_not_initializeResponse stop.threadId)
  have session : stop.session = asked.perform setup .getThreads := by
    rw [stop.session_eq, onStopped_returns stop.returns]
  rcases stop_received arrived with ⟨stopThread, selectedThread⟩
  rcases transport : stop.before.debugger.client.transport with _ | number
  · refine Or.inr ⟨?_, rfl⟩
    have unlinked : Unlinked received.markStopped :=
      ⟨arrived.transport.trans transport, rfl⟩
    show Down stop.session
    rw [session]
    have lost :=
      (unlinked.announceAll setup stop.reaction.announcements).perform setup
        (.getFrames notFound 0 0) trivial
    exact lost.isUnlinked.perform setup .getThreads trivial
  · refine Or.inl ?_
    have linked : Linked received.markStopped := by
      show received.debugger.client.transport.isSome = true
      rw [arrived.transport, transport]
      rfl
    have first :=
      asks_announceAll setup stop.reaction.announcements linked
    have second :=
      Asks.perform setup (.getFrames notFound 0 0) trivial first.linked
    have third := Asks.perform setup .getThreads trivial second.linked
    have active :
        received.debugger.client.activeThreadId = stop.threadId :=
      arrived.activeThreadId
    have thread :
        announced.debugger.client.resolveThread notFound =
          stop.threadId := by
      rw [resolveThread_notFound, first.activeThreadId]
      exact active
    have asks : Asks [stop.threadId] received.markStopped stop.session := by
      rw [session, ← thread]
      exact (first.trans second).trans third
    refine live_of_asks asks (active.trans stopThread.symm)
      selectedThread.symm ?_ []
    show stop.settled ≤ (requested received.trace).length
    rw [requested_received arrived]
    exact stop.settled_le

/-- Switching to a thread asks for its frames. -/
theorem tracked_switchToThread
    {watch : Watch κ}
    (tracked : Tracked watch)
    (threadNumber : Int) :
    Tracked
      { watch with
        session := watch.session.switchToThread setup threadNumber } := by
  let session := watch.session
  have closed (halted : session.runningAndStopped = false) :
      session.switchToThread setup threadNumber = session :=
    if_pos halted
  rcases tracked with live | dead
  · cases open_ : session.runningAndStopped
    case false =>
      rw [closed open_]
      exact Or.inl live
    case true =>
      let selected : Session κ :=
        { session with
          callStack := session.callStack.switchToThread threadNumber
          trace := .threadSelected threadNumber :: session.trace }
      have switched :
          session.switchToThread setup threadNumber =
            selected.perform setup (.getFrames threadNumber 0 0) := by
        refine if_neg ?_
        rw [open_]
        exact Bool.true_eq_false_eq_False
      have linked : Linked selected := live.linked
      have asks :=
        Asks.perform setup (.getFrames threadNumber 0 0) trivial linked
      have thread :
          session.debugger.client.resolveThread threadNumber =
            selectedThread selected.trace := by
        unfold Client.resolveThread
        rw [live.active]
        rfl
      refine Or.inl ?_
      rw [switched]
      exact live_of_asks asks live.active thread live.settled watch.answers
  · have halted : session.runningAndStopped = false := by
      unfold Session.runningAndStopped
      rw [dead.down.halted]
      rfl
    rw [closed halted]
    exact Or.inr dead

/-- A refresh asks for the frames of the thread that stopped. -/
theorem tracked_requestUpdate
    {watch : Watch κ}
    {next : Session κ}
    (tracked : Tracked watch)
    (refreshes : RefreshesSelected watch .requestUpdate)
    (taken : watch.session.requestUpdate setup .backtrace = some next) :
    Tracked { watch with session := next } := by
  let session := watch.session
  unfold Session.requestUpdate at taken
  split at taken
  · cases taken
    exact tracked
  · next open_ =>
      cases taken
      rcases tracked with live | dead
      · have asks :=
          Asks.perform setup (.getFrames notFound 0 0) trivial live.linked
        have thread :
            session.debugger.client.resolveThread notFound =
              selectedThread session.trace := by
          rw [resolveThread_notFound, live.active]
          exact (refreshes (Bool.not_eq_false _ ▸ open_)).symm
        exact Or.inl
          (live_of_asks asks live.active thread live.settled watch.answers)
      · refine absurd ?_ open_
        unfold Session.runningAndStopped
        rw [dead.down.halted]
        rfl

theorem getLast?_of_drop
    {threads : List Int}
    {settled : Nat}
    {thread : Int}
    (dropped : threads.drop settled = [thread]) :
    threads.getLast? = some thread := by
  rw [← List.take_append_drop settled threads, dropped]
  exact List.getLast?_concat

/-- The reply handled last is the one to the last request. -/
theorem live_reply
    {watch : Watch κ}
    {next : Session κ}
    {json : Json}
    {reaction : Reaction κ}
    {thread refId : Int}
    {rest : List Int}
    (live : Live watch)
    (oldest : watch.awaited = thread :: rest)
    (told :
      dispatched setup.toolkit json watch.session.debugger.client =
        some (.stackTraceResponse refId))
    (taken :
      watch.session.onMessage setup json reaction = some next) :
    Live
      { session := next
        settled := watch.settled + 1
        answers := (thread, stackFrames json) :: watch.answers } := by
  let received := watch.session.receive setup json
  have arrived :=
    received_of_dispatched told
      (stackTraceResponse_not_initializeResponse refId)
  rw [Session.onMessage_eq, told] at taken
  rcases Option.map_eq_some_iff.mp taken with ⟨stack, shown, rfl⟩
  let refilled : Session κ := { received with callStack := stack }
  have sameRequests :
      requested received.trace = requested watch.session.trace :=
    requested_received arrived
  have linked : Linked refilled := by
    show received.debugger.client.transport.isSome = true
    rw [arrived.transport]
    exact live.linked
  have asks := asks_react setup reaction refId linked
  rcases reply_received arrived with ⟨stopThread, selectedThread⟩
  have requests :
      requested (refilled.react setup (.stackTraceResponse refId)
          reaction).trace =
        requested watch.session.trace := by
    rw [asks.requested, List.append_nil]
    exact sameRequests
  have inside : watch.settled < (requested watch.session.trace).length := by
    have length := congrArg List.length oldest
    unfold Watch.awaited at length
    rw [List.length_drop, List.length_cons] at length
    omega
  constructor
  case linked => exact asks.linked
  case active =>
    show (refilled.react setup _ reaction).debugger.client.activeThreadId = _
    rw [asks.activeThreadId, asks.stopThread]
    exact arrived.activeThreadId.trans (live.active.trans stopThread.symm)
  case last =>
    show (requested (refilled.react setup _ reaction).trace).getLast? = _
    rw [requests, asks.selectedThread]
    exact live.last.trans (congrArg some selectedThread.symm)
  case settled =>
    show watch.settled + 1 ≤
      (requested (refilled.react setup _ reaction).trace).length
    rw [requests]
    exact inside
  case shown =>
    intro nothing
    have none : rest = [] := by
      have remaining :
          (requested watch.session.trace).drop (watch.settled + 1) = [] := by
        rw [← requests]
        exact nothing
      have tail := congrArg List.tail oldest
      unfold Watch.awaited at tail
      rw [List.tail_drop, remaining] at tail
      exact tail.symm
    have newest :
        thread = SelectedThread.selectedThread watch.session.trace := by
      rw [none] at oldest
      have last := getLast?_of_drop oldest
      rw [live.last] at last
      exact (Option.some.inj last).symm
    have frames :
        (refilled.react setup (.stackTraceResponse refId)
          reaction).callStack.backtrace = stackFrames json := by
      rw [asks.callStack]
      exact CallStack.backtrace_onStackTrace shown
    show some (thread, stackFrames json) = some (_, _)
    rw [frames, asks.selectedThread]
    exact congrArg (fun selected => some (selected, stackFrames json))
      (newest.trans selectedThread.symm)

theorem tracked_step
    {watch next : Watch κ}
    {label : ThreadLabel κ}
    (tracked : Tracked watch)
    (refreshes : RefreshesSelected watch label)
    (taken : step setup watch label = some next) :
    Tracked next := by
  cases label with
  | switchToThread threadNumber =>
      cases taken
      exact tracked_switchToThread tracked threadNumber
  | requestUpdate =>
      rcases Option.map_eq_some_iff.mp taken with ⟨session, updated, rfl⟩
      exact tracked_requestUpdate tracked refreshes updated
  | reply json reaction =>
      simp only [step] at taken
      split at taken
      · next thread rest refId oldest told =>
          rcases Option.map_eq_some_iff.mp taken with ⟨session, handled, rfl⟩
          rcases tracked with live | dead
          · exact Or.inl (live_reply live oldest told handled)
          · have arrived :=
              received_of_dispatched told
                (stackTraceResponse_not_initializeResponse refId)
            have completed := arrived.completed
            rw [dead.down.waiting] at completed
            cases completed
      · cases taken

end Steps

/--
After a stop, while the backtrace is only refreshed for the thread that
stopped, the frames shown at the end are those of the selected thread.
-/
theorem backtrace_belongs
    {setup : Setup}
    (stop : Stop setup κ)
    (labels : List (ThreadLabel κ))
    (refreshes :
      Along (step setup) RefreshesSelected stop.watch labels) :
    Always (step setup) Belongs stop.watch labels :=
  always_of_along
    (fun _ _ _ tracked selected taken => tracked_step tracked selected taken)
    (fun _ tracked => tracked.belongs) stop.tracked refreshes

/-! ## A refresh after a switch -/

/-- A program that runs. -/
def running : Session Unit :=
  (run (Sessions.step plainSetup) (Session.new Unit)
    (threeFrames.take 2)).getD (Session.new Unit)

/-- Thread 1 stops. -/
def firstStop : Stop plainSetup Unit where
  before := running
  json := stoppedTree
  reaction := plainReaction
  threadId := 1
  told := rfl
  returns := rfl
  session :=
    (running.receive plainSetup stoppedTree).onStopped plainSetup
      plainReaction
  taken := rfl
  settled := 0
  settled_le := Nat.zero_le _

/-- The backtrace is refreshed before the user selects thread 2. -/
theorem refreshThenSwitch_belongs :
    Always (step plainSetup) Belongs firstStop.watch
      [.requestUpdate,
        .switchToThread 2,
        .reply (framesTree 3) plainReaction,
        .reply (framesTree 3) plainReaction,
        .reply (framesTree 2) plainReaction] :=
  backtrace_belongs firstStop _
    ⟨fun _ => rfl, fun _ _ => ⟨trivial, fun _ _ => ⟨trivial, fun _ _ =>
      ⟨trivial, fun _ _ => ⟨trivial, fun _ _ => trivial⟩⟩⟩⟩⟩

/-- The user selects thread 2 before the backtrace is refreshed. -/
def switchThenRefresh : List (ThreadLabel Unit) :=
  [.reply (framesTree 3) plainReaction,
    .switchToThread 2,
    .requestUpdate,
    .reply (framesTree 2) plainReaction,
    .reply (framesTree 3) plainReaction]

/-- The frames of thread 1 replace those of thread 2. -/
theorem switchThenRefresh_not_belongs :
    ¬ Always (step plainSetup) Belongs firstStop.watch
      switchThenRefresh := by
  intro always
  have belongs := always switchThenRefresh [] _ (List.append_nil _) rfl
  have lengths := congrArg List.length (belongs rfl)
  exact absurd lengths (by decide)

end DebuggerDap.Plugin.SelectedThread
