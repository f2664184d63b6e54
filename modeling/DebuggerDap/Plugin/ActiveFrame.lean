import DebuggerDap.Plugin.Sessions

/-!
# The active frame of the call stack

`GetActiveStackFrame` should be negative or the number of a frame shown.  The
handlers keep this up, except that `SwitchToFrame` takes negative numbers and
that a reply may be shorter than the selection it keeps.
-/

namespace DebuggerDap.Plugin.ActiveFrame

open DebuggerDap.Text.Strings
open DebuggerDap.Protocol.JsonTree
open DebuggerDap.Protocol.Messages
open DebuggerDap.DapClient.State
open DebuggerDap.DapClient.History (transport_onMessage)
open DebuggerDap.Library.Run
open DebuggerDap.Plugin.Lifecycle (Host plainSite plainHost)
open DebuggerDap.Plugin.Backtrace
open DebuggerDap.Plugin.Sessions

variable {κ : Type*}

/-! ## What keeps the active frame in range -/

/-- The active frame of a session is in range. -/
def InRange (session : Session κ) : Prop :=
  session.callStack.Valid

theorem inRange_new : InRange (Session.new κ) :=
  CallStack.valid_new

section Sending

variable {session : Session κ}

theorem inRange_resetData (session : Session κ) : InRange session.resetData :=
  CallStack.valid_resetData session.callStack

theorem inRange_onConnectionError (inRange : InRange session) :
    InRange session.onConnectionError := by
  unfold Session.onConnectionError
  split
  · exact inRange
  · exact inRange_resetData session

/-- Sending leaves the call stack alone or resets it. -/
theorem inRange_send
    (operation : Client κ → Client κ × List (Output κ))
    (inRange : InRange session) :
    InRange (session.send operation) := by
  unfold Session.send
  dsimp only
  split
  · exact inRange_onConnectionError inRange
  · exact inRange

theorem inRange_foldl
    {α : Type*}
    (action : Session κ → α → Session κ)
    (kept : ∀ session entry, InRange session → InRange (action session entry))
    (entries : List α)
    (inRange : InRange session) :
    InRange (entries.foldl action session) := by
  induction entries generalizing session with
  | nil => exact inRange
  | cons entry entries ih => exact ih (kept session entry inRange)

theorem inRange_announceAll
    (setup : Setup)
    (announcements : List (WxString × List SourceBreakpoint))
    (inRange : InRange session) :
    InRange (session.announceAll setup announcements) := by
  apply inRange_foldl _ _ _ inRange
  intro session announcement inRange
  unfold Session.announce
  split
  · exact inRange
  · exact inRange_send _ inRange

theorem inRange_react
    (setup : Setup)
    (message : EventMessage)
    (reaction : Reaction κ)
    (inRange : InRange session) :
    InRange (session.react setup message reaction) :=
  inRange_foldl _ (fun _ _ kept => inRange_send _ kept) _ inRange

/-- A frame that is looked up after the test is there. -/
theorem exists_withActiveFrame
    {action : StackFrame → Session κ}
    (inRange : InRange session)
    (kept : ∀ frame, InRange (action frame)) :
    ∃ next, session.withActiveFrame action = some next ∧ InRange next := by
  unfold Session.withActiveFrame
  dsimp only
  split
  · exact ⟨session, rfl, inRange⟩
  · next selected =>
      rcases inRange.getStackFrame selected with ⟨frame, found⟩
      rw [found]
      exact ⟨action frame, rfl, kept frame⟩

end Sending

/-! ## Steps -/

/-- What a reply finds of the display. -/
def displayOf (reaction : Reaction κ) (session : Session κ) :
    CallStack.Display where
  backtraceDialog := reaction.backtraceDialog
  autoSwitchFrame := reaction.autoSwitchFrame
  runningAndStopped := session.runningAndStopped

/--
The user switches to no negative frame, and a stack trace reply does not
leave the selected frame behind.
-/
def FrameFits
    (setup : Setup)
    (session : Session κ)
    (label : Label κ) : Prop :=
  match label with
  | .command (.switchToFrame number) =>
      session.runningAndStopped = true → 0 ≤ number
  | .message json reaction =>
      ∀ refId,
        dispatched setup.toolkit json session.debugger.client =
            some (.stackTraceResponse refId) →
          session.callStack.Fits (displayOf reaction session)
            (stackFrames json)
  | _ => True

section Steps

variable (setup : Setup)
variable {session : Session κ}

theorem inRange_startDebugger
    (host : Host)
    (inRange : InRange session) :
    InRange (session.startDebugger setup host).1 := by
  have launches (dapPortNumber : WxString) :
      InRange (session.launchDebugger setup host dapPortNumber).1 := by
    have fresh := inRange_resetData session
    unfold Session.launchDebugger
    dsimp only
    repeat' split
    all_goals first | exact fresh | exact inRange_send _ fresh
  unfold Session.startDebugger
  dsimp only
  repeat' split
  all_goals first | exact inRange | exact launches _

theorem inRange_attachToProcess
    (host : Host)
    (pid : WxString)
    (inRange : InRange session) :
    InRange (session.attachToProcess setup host pid) := by
  unfold Session.attachToProcess
  split
  · exact inRange
  · next number read =>
      have attached : InRange (session.setPidAttached number) := inRange
      exact inRange_send _ (inRange_startDebugger setup host attached)

theorem inRange_onInitializeResponse
    (success : Bool)
    (inRange : InRange session) :
    InRange (session.onInitializeResponse setup success) := by
  unfold Session.onInitializeResponse
  dsimp only
  split
  · exact inRange
  · let moved : Session κ :=
      { session with
        debugger := { session.debugger with debuggeeStartCmd := [] } }
    have sameStack : InRange moved := inRange
    exact inRange_send _ sameStack

theorem inRange_onStopped
    (reaction : Reaction κ)
    (session : Session κ) :
    InRange (session.onStopped setup reaction) := by
  have cleared : InRange session.markStopped :=
    CallStack.valid_resetData session.callStack
  have announced :=
    inRange_announceAll setup reaction.announcements cleared
  unfold Session.onStopped
  dsimp only
  split
  · exact announced
  · exact inRange_send _ (inRange_send _ announced)

/-- A reply that fits replaces the frames. -/
theorem inRange_onStackTrace
    (message : EventMessage)
    (json : Json)
    (reaction : Reaction κ)
    (fits :
      session.callStack.Fits (displayOf reaction session)
        (stackFrames json)) :
    ∃ next,
      session.onStackTrace setup message json reaction = some next ∧
        InRange next := by
  rcases (CallStack.onStackTrace_valid_iff (displayOf reaction session)
      (stackFrames json) session.callStack).mpr fits with
    ⟨stack, shown, valid⟩
  let refilled : Session κ := { session with callStack := stack }
  have inRange : InRange refilled := valid
  refine ⟨refilled.react setup message reaction, ?_,
    inRange_react setup message reaction inRange⟩
  show (session.callStack.onStackTrace (displayOf reaction session)
    (stackFrames json)).map _ = _
  rw [shown]
  rfl

theorem inRange_onDapEvent
    (json : Json)
    (reaction : Reaction κ)
    (message : EventMessage)
    (inRange : InRange session)
    (fits :
      ∀ refId, message = .stackTraceResponse refId →
        session.callStack.Fits (displayOf reaction session)
          (stackFrames json)) :
    ∃ next,
      session.onDapEvent setup json reaction message = some next ∧
        InRange next := by
  have reacts (message : EventMessage) :
      InRange (session.react setup message reaction) :=
    inRange_react setup message reaction inRange
  cases message
  case lostConnection => exact ⟨_, rfl, inRange_onConnectionError inRange⟩
  case initializeResponse =>
    exact ⟨_, rfl, inRange_onInitializeResponse setup _ inRange⟩
  case launchResponse =>
    refine ⟨_, rfl, ?_⟩
    unfold Session.onStartResponse
    split
    · exact inRange
    · exact inRange_resetData session
  case configurationDoneResponse =>
    refine ⟨_, rfl, ?_⟩
    unfold Session.onStartResponse
    split
    · exact inRange
    · exact inRange_resetData session
  case attachResponse jsonDump => exact ⟨_, rfl, inRange⟩
  case initializedEvent =>
    have announced :=
      inRange_announceAll setup reaction.announcements inRange
    exact ⟨_, rfl, inRange_send _
      (inRange_react setup .initializedEvent reaction announced)⟩
  case stoppedEvent threadId =>
    exact ⟨_, rfl, inRange_onStopped setup reaction session⟩
  case exitedEvent => exact ⟨_, rfl, inRange⟩
  case terminatedEvent => exact ⟨_, rfl, inRange_resetData session⟩
  case stackTraceResponse refId =>
    exact inRange_onStackTrace setup _ json reaction (fits refId rfl)
  case disassembleResponse =>
    unfold Session.onDapEvent
    dsimp only
    split
    · exact exists_withActiveFrame inRange fun _ => inRange
    · exact ⟨session, rfl, inRange⟩
  case gotoTargetsResponse =>
    unfold Session.onDapEvent
    dsimp only
    split
    · exact exists_withActiveFrame inRange fun _ => reacts _
    · exact ⟨session, rfl, inRange⟩
  case setBreakpointsResponse originSource =>
    exact ⟨_, rfl, inRange_announceAll setup reaction.announcements inRange⟩
  all_goals exact ⟨_, rfl, reacts _⟩

theorem inRange_onMessage
    (json : Json)
    (reaction : Reaction κ)
    (inRange : InRange session)
    (fits : FrameFits setup session (.message json reaction)) :
    ∃ next,
      session.onMessage setup json reaction = some next ∧ InRange next := by
  rw [Session.onMessage_eq]
  have received : InRange (session.receive setup json) := inRange
  split
  · exact ⟨_, rfl, received⟩
  · next message told =>
      refine inRange_onDapEvent setup json reaction message received ?_
      rintro refId rfl
      exact fits refId told

theorem inRange_evaluateInFrame
    (expression : WxString)
    (context : EvaluateContext)
    (callback : κ)
    (inRange : InRange session) :
    ∃ next,
      session.evaluateInFrame setup expression context callback =
          some next ∧
        InRange next :=
  exists_withActiveFrame inRange fun _ => inRange_send _ inRange

theorem inRange_evaluateText
    (text expression : WxString)
    (callback : κ)
    (inRange : InRange session) :
    ∃ next,
      session.evaluateText setup text expression callback = some next ∧
        InRange next := by
  unfold Session.evaluateText
  split
  · exact exists_withActiveFrame inRange fun _ => inRange
  · exact inRange_evaluateInFrame setup expression .repl callback inRange

theorem inRange_requestUpdate
    (window : DebugWindow κ)
    (inRange : InRange session) :
    ∃ next,
      session.requestUpdate setup window = some next ∧ InRange next := by
  have sends (call : ApiCall κ) : InRange (session.perform setup call) :=
    inRange_send _ inRange
  unfold Session.requestUpdate
  split
  · exact ⟨session, rfl, inRange⟩
  · cases window with
    | backtrace => exact ⟨_, rfl, sends _⟩
    | threads => exact ⟨_, rfl, sends _⟩
    | cpuRegisters shown =>
        dsimp only
        split
        · exact ⟨session, rfl, inRange⟩
        · exact exists_withActiveFrame inRange fun _ => sends _
    | disassembly shown =>
        dsimp only
        split
        · exact ⟨session, rfl, inRange⟩
        · exact exists_withActiveFrame inRange fun _ => sends _
    | examineMemory shown address bytes callback =>
        dsimp only
        split
        · exact ⟨session, rfl, inRange⟩
        · exact inRange_evaluateText setup _ _ callback inRange
    | memoryRange => exact ⟨session, rfl, inRange⟩
    | watches => exact ⟨session, rfl, inRange⟩

theorem inRange_switchToThread
    (threadNumber : Int)
    (inRange : InRange session) :
    InRange (session.switchToThread setup threadNumber) := by
  unfold Session.switchToThread
  split
  · exact inRange
  · let selected : Session κ :=
      { session with
        callStack := session.callStack.switchToThread threadNumber
        trace := .threadSelected threadNumber :: session.trace }
    have cleared : InRange selected :=
      CallStack.valid_switchToThread threadNumber session.callStack
    exact inRange_send _ cleared

theorem inRange_switchToFrame
    {number : Int}
    (inRange : InRange session)
    (fits : session.runningAndStopped = true → 0 ≤ number) :
    ∃ next, session.switchToFrame number = some next ∧ InRange next := by
  unfold Session.switchToFrame
  split
  · exact ⟨session, rfl, inRange⟩
  · next open_ =>
      have nonnegative := fits (Bool.not_eq_false _ ▸ open_)
      rcases CallStack.valid_switchToFrame inRange nonnegative with
        ⟨stack, switched, valid⟩
      rw [switched]
      exact ⟨_, rfl, valid⟩

theorem inRange_command
    (command : UserCommand κ)
    (inRange : InRange session)
    (fits : FrameFits setup session (.command command)) :
    ∃ next, session.command setup command = some next ∧ InRange next := by
  have sends (call : ApiCall κ) : InRange (session.perform setup call) :=
    inRange_send _ inRange
  have announces (announcement : WxString × List SourceBreakpoint) :
      InRange (session.announce setup announcement.1 announcement.2) :=
    inRange_announceAll setup [announcement] inRange
  cases command
  case setNextStatement codelldb filename line =>
    unfold Session.command
    dsimp only
    split
    · exact ⟨session, rfl, inRange⟩
    · exact ⟨_, rfl, sends _⟩
  case runToCursor announcement =>
    unfold Session.command
    dsimp only
    split
    · exact ⟨session, rfl, inRange⟩
    · exact ⟨_, rfl, inRange_send _ (announces announcement)⟩
  case editBreakpoint announcement =>
    exact ⟨_, rfl, announces announcement⟩
  case deleteAllBreakpoints files =>
    unfold Session.command
    dsimp only
    split
    · exact ⟨session, rfl, inRange⟩
    · exact ⟨_, rfl, inRange_foldl _ (fun _ _ kept => inRange_send _ kept)
        files inRange⟩
  case updateBreakpoint announcements =>
    unfold Session.command
    dsimp only
    split
    · exact ⟨_, rfl, inRange_announceAll setup announcements (sends _)⟩
    · exact ⟨_, rfl, inRange_send _
        (inRange_announceAll setup announcements inRange)⟩
  case expandWatch variablesReference =>
    unfold Session.command
    dsimp only
    split
    · exact ⟨session, rfl, inRange⟩
    · exact ⟨_, rfl, sends _⟩
  case updateWatch requestSequence symbol callback =>
    unfold Session.command
    dsimp only
    split
    · exact ⟨session, rfl, inRange⟩
    · exact inRange_evaluateInFrame setup symbol .watch callback (sends _)
  case sendCommand cmd callback =>
    unfold Session.command
    dsimp only
    split
    · exact ⟨session, rfl, inRange⟩
    · exact inRange_evaluateText setup cmd cmd callback inRange
  case onValueTooltip token callback =>
    exact inRange_evaluateInFrame setup token .hover callback inRange
  case switchToFrame number => exact inRange_switchToFrame inRange fits
  case switchToThread threadNumber =>
    exact ⟨_, rfl, inRange_switchToThread setup threadNumber inRange⟩
  case requestUpdate window =>
    exact inRange_requestUpdate setup window inRange
  all_goals exact ⟨_, rfl, sends _⟩

/-- Every step that fits can be taken and keeps the active frame in range. -/
theorem inRange_step
    (session : Session κ)
    (label : Label κ)
    (inRange : InRange session)
    (fits : FrameFits setup session label) :
    ∃ next, step setup session label = some next ∧ InRange next := by
  cases label with
  | startDebugger host =>
      exact ⟨_, rfl, inRange_startDebugger setup host inRange⟩
  | attachToProcess pid host =>
      exact ⟨_, rfl, inRange_attachToProcess setup host pid inRange⟩
  | detachFromProcess =>
      refine ⟨_, rfl, ?_⟩
      unfold Session.detachFromProcess
      split
      · exact inRange
      · exact inRange_send _ inRange
  | stop =>
      refine ⟨_, rfl, ?_⟩
      unfold Session.stop
      split
      · exact inRange
      · exact inRange_resetData _
  | message json reaction =>
      exact inRange_onMessage setup json reaction inRange fits
  | connectionError => exact ⟨_, rfl, inRange_send _ inRange⟩
  | projectOpened => exact ⟨_, rfl, inRange⟩
  | projectClosed =>
      exact ⟨_, rfl, CallStack.valid_resetData session.callStack⟩
  | release => exact ⟨_, rfl, inRange_resetData session⟩
  | command command => exact inRange_command setup command inRange fits

end Steps

/-! ## Steps that leave the active frame behind -/

/-- Messages are handled while there is a transport. -/
def LinkedMessage (session : Session κ) (label : Label κ) : Prop :=
  match label with
  | .message _ _ => Linked session
  | _ => True

/-- The views send their requests over the transport. -/
theorem callStack_react
    (setup : Setup)
    (message : EventMessage)
    (reaction : Reaction κ)
    {session : Session κ}
    (linked : Linked session) :
    (session.react setup message reaction).callStack =
      session.callStack := by
  unfold Session.react
  generalize reaction.requests.filter (mayRequest message) = calls
  induction calls generalizing session with
  | nil => rfl
  | cons call calls ih =>
      rcases perform_linked setup call linked with ⟨sent, still⟩
      rw [List.foldl_cons, ih still, sent]
      rfl

theorem not_inRange_stackTrace
    {setup : Setup}
    {session next : Session κ}
    {json : Json}
    {reaction : Reaction κ}
    {refId : Int}
    (linked : Linked session)
    (told :
      dispatched setup.toolkit json session.debugger.client =
        some (.stackTraceResponse refId))
    (misfit :
      ¬ session.callStack.Fits (displayOf reaction session)
        (stackFrames json))
    (taken : session.onMessage setup json reaction = some next) :
    ¬ InRange next := by
  rw [Session.onMessage_eq, told] at taken
  rcases Option.map_eq_some_iff.mp taken with ⟨stack, shown, rfl⟩
  intro inRange
  let refilled : Session κ :=
    { session.receive setup json with callStack := stack }
  have stillLinked : Linked refilled := by
    show (DapClient.OnMessage.onMessage setup.toolkit json
      session.debugger.client).1.transport.isSome = true
    rw [transport_onMessage]
    exact linked
  have valid : stack.Valid := by
    have same :=
      callStack_react setup (.stackTraceResponse refId) reaction stillLinked
    have refilledValid :
        (refilled.react setup (.stackTraceResponse refId)
          reaction).callStack.Valid :=
      inRange
    rw [same] at refilledValid
    exact refilledValid
  exact misfit ((CallStack.onStackTrace_valid_iff _ _ _).mp
    ⟨stack, shown, valid⟩)

theorem not_inRange_step
    {setup : Setup}
    {session next : Session κ}
    {label : Label κ}
    (linked : LinkedMessage session label)
    (misfit : ¬ FrameFits setup session label)
    (taken : step setup session label = some next) :
    ¬ InRange next := by
  cases label with
  | message json reaction =>
      simp only [FrameFits, not_forall] at misfit
      rcases misfit with ⟨refId, told, misfit⟩
      exact not_inRange_stackTrace linked told misfit taken
  | command command =>
      cases command
      case switchToFrame number =>
        simp only [FrameFits, not_forall, Int.not_le] at misfit
        rcases misfit with ⟨open_, negative⟩
        have switched : session.switchToFrame number = some next := taken
        unfold Session.switchToFrame at switched
        rw [open_, CallStack.switchToFrame_negative negative] at switched
        cases switched
      all_goals exact absurd trivial misfit
  | _ => exact absurd trivial misfit

/--
Every frame that is looked up is there, and the active frame is in range in
every state that is reached.
-/
structure FramesInRange (setup : Setup) (labels : List (Label κ)) : Prop where
  completes :
    ∃ reached, run (step setup) (Session.new κ) labels = some reached
  always : Always (step setup) InRange (Session.new κ) labels

/--
In every run whose steps fit the frames stay in range.  Where messages are
handled over a transport, only such runs keep them in range.
-/
theorem framesInRange
    (setup : Setup)
    (labels : List (Label κ)) :
    (Along (step setup) (FrameFits setup) (Session.new κ) labels →
        FramesInRange setup labels) ∧
      (Along (step setup) LinkedMessage (Session.new κ) labels →
        FramesInRange setup labels →
          Along (step setup) (FrameFits setup) (Session.new κ) labels) := by
  have preserved :
      ∀ (session : Session κ) label next, InRange session →
        FrameFits setup session label →
          step setup session label = some next → InRange next := by
    intro session label next inRange fits taken
    rcases inRange_step setup session label inRange fits with
      ⟨other, takenOther, kept⟩
    rw [taken] at takenOther
    cases takenOther
    exact kept
  constructor
  · intro along
    exact
      { completes :=
          exists_run_of_invariant (inRange_step setup) inRange_new along
        always :=
          always_of_along preserved (fun _ inRange => inRange)
            inRange_new along }
  · intro linked inRange
    rcases inRange.completes with ⟨reached, ran⟩
    exact along_of_always
      (fun session label next kept _ fits taken =>
        preserved session label next kept fits taken)
      (fun _ _ _ _ assumed misfit taken =>
        not_inRange_step assumed misfit taken)
      inRange_new linked ran inRange.always

/-! ## A reply shorter than the selection -/

/-- A setup where an address is never read. -/
def plainSetup : Setup :=
  { plainSite with hexStrToBinary := fun _ => 0 }

/-- A host that finds a program to debug. -/
def debugHost : Host :=
  { plainHost with
    targetFound := true
    debuggee := some "demo".toList }

def plainReaction : Reaction Unit where
  requests := []
  announcements := []
  handlerReturns := true
  backtraceDialog := true
  autoSwitchFrame := true

/-- A stopped event of thread 1. -/
def stoppedTree : Json :=
  .object
    [("type".toList, .string "event".toList),
      ("event".toList, .string "stopped".toList),
      ("body".toList, .object [("threadId".toList, .number 1)])]

/-- A stack trace reply with a number of frames. -/
def framesTree (count : Nat) : Json :=
  responseTree .stackTrace 3 true
    [("stackFrames".toList,
      .array ((List.range count).map fun index =>
        .object [("id".toList, .number index)]))]

/-- A program is started, stops and shows three frames. -/
def threeFrames : List (Label Unit) :=
  [.startDebugger debugHost,
    .message (responseTree .initialize_ 1 true []) plainReaction,
    .message stoppedTree plainReaction,
    .message (framesTree 3) plainReaction]

theorem threeFrames_framesInRange : FramesInRange plainSetup threeFrames := by
  refine (framesInRange plainSetup threeFrames).1
    ⟨trivial, fun started start => ⟨?launches, fun launched launch =>
      ⟨?stops, fun stopped stop => ⟨?stackTrace, fun _ _ => trivial⟩⟩⟩⟩
  case launches =>
    cases start
    exact nofun
  case stops =>
    cases start
    cases launch
    exact nofun
  case stackTrace =>
    cases start
    cases launch
    cases stop
    intro refId told
    decide

/-- The third frame is selected and the next reply has a single frame. -/
def shorterReply : List (Label Unit) :=
  threeFrames ++
    [.command (.switchToFrame 2),
      .command (.requestUpdate .backtrace),
      .message (framesTree 1) plainReaction]

/-- The frame the user has selected is looked up in the new frames. -/
theorem shorterReply_not_framesInRange :
    ¬ FramesInRange plainSetup shorterReply := by
  intro inRange
  rcases inRange.completes with ⟨reached, ran⟩
  have stuck :
      run (step plainSetup) (Session.new Unit) shorterReply = none := rfl
  rw [stuck] at ran
  cases ran

end DebuggerDap.Plugin.ActiveFrame
