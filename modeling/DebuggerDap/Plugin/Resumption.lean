import DebuggerDap.DapClient.Interaction
import DebuggerDap.Plugin.ActiveFrame
import DebuggerDap.Plugin.Moves

/-!
# Whether the plugin knows that the debuggee runs

The commands that need a stopped debuggee ask `IsRunning` and `IsStopped`.
Nothing takes the stopped bit away once it is set, so these commands are only
held back while the running bit is off, and a debuggee that is resumed leaves
it on.
-/

namespace DebuggerDap.Plugin.Resumption

open DebuggerDap.Text.Strings
open DebuggerDap.Protocol.JsonTree
open DebuggerDap.Protocol.Messages
open DebuggerDap.DapClient.State
open DebuggerDap.DapClient.OnMessage
open DebuggerDap.DapClient.History
  (Kept Transition events_logOutput message_events)
open DebuggerDap.DapClient.Interaction (Resumes Stops stepCommands)
open DebuggerDap.Library.Log
open DebuggerDap.Library.Run
open DebuggerDap.Plugin.DebuggerState
open DebuggerDap.Plugin.Lifecycle (Debugger)
open DebuggerDap.Plugin.Sessions
open DebuggerDap.Plugin.Moves
open DebuggerDap.Plugin.ActiveFrame
  (plainSetup plainReaction threeFrames)

variable {κ : Type*}

/-! ## What the trace says -/

/-- A message that lets the debuggee run was handled. -/
def Begins : Mark κ → Prop
  | .handled json => Resumes json
  | _ => False

/-- A stopped event was handled, or the session ended. -/
def Ends : Mark κ → Prop
  | .handled json => Stops json
  | .sessionReset => True
  | .output (.event ⟨.lostConnection, _, _⟩) => True
  | _ => False

/-- The debuggee was resumed and has not stopped since. -/
def Resumed (trace : List (Mark κ)) : Prop :=
  LastSince Begins Ends trace

/-- The commands that need a stopped debuggee do nothing. -/
structure HoldsStill (setup : Setup) (session : Session κ) : Prop where
  flags : session.isRunning = true → session.isStopped = false
  sendCommand :
    ∀ cmd callback,
      session.command setup (.sendCommand cmd callback) = some session
  switchToThread :
    ∀ threadNumber,
      session.command setup (.switchToThread threadNumber) = some session
  expandWatch :
    ∀ variablesReference,
      session.command setup (.expandWatch variablesReference) = some session
  announce :
    ∀ file lines, session.announce setup file lines = session

/-- A resumed debuggee holds these commands back. -/
def Knows (setup : Setup) (session : Session κ) : Prop :=
  Resumed session.trace → HoldsStill setup session

theorem holdsStill_of_guard
    {setup : Setup}
    {session : Session κ}
    (closed : session.runningAndStopped = false) :
    HoldsStill setup session where
  flags := by
    intro running
    unfold Session.runningAndStopped at closed
    rw [running] at closed
    exact closed
  sendCommand _ _ := if_pos (Or.inl closed)
  switchToThread _ := congrArg some (if_pos closed)
  expandWatch _ := if_pos closed
  announce _ _ := if_pos closed

/-- A mark that neither resumes nor stops the debuggee. -/
def Neutral (mark : Mark κ) : Prop :=
  ¬ Begins mark ∧ ¬ Ends mark

theorem neutral_marks
    {outputs : List (Output κ)}
    (connected :
      .lostConnection ∉ outputs.filterMap Transition.eventOf) :
    ∀ mark ∈ Session.marks outputs, Neutral mark := by
  intro mark member
  cases saidBy_of_mem member with
  | event message json string among =>
      refine ⟨id, ?_⟩
      cases message
      case lostConnection => exact absurd among connected
      all_goals exact id
  | request => exact ⟨id, id⟩
  | response => exact ⟨id, id⟩
  | evaluated => exact ⟨id, id⟩
  | sourceLoaded => exact ⟨id, id⟩

/-- Outputs say nothing of the debuggee while the connection is there. -/
theorem resumed_marks
    {outputs : List (Output κ)}
    (connected :
      .lostConnection ∉ outputs.filterMap Transition.eventOf)
    (trace : List (Mark κ)) :
    Resumed (Session.marks outputs ++ trace) ↔ Resumed trace :=
  lastSince_append_of_neither (neutral_marks connected) trace

theorem not_resumed_reset (trace : List (Mark κ)) :
    ¬ Resumed (.sessionReset :: trace) :=
  lastSince_cons_of_ends id trivial trace

theorem not_resumed_lost (trace : List (Mark κ)) :
    ¬ Resumed
      (.output (.event ⟨.lostConnection, none, []⟩) :: trace) :=
  lastSince_cons_of_ends id trivial trace

/-! ## What the session knows -/

/-- The stopped bit is set, and a resumed debuggee is not marked as running. -/
structure Tracks (session : Session κ) : Prop where
  stopped : session.isStopped = true
  halted : Resumed session.trace → session.isRunning = false
  completed : Resumed session.trace → Completed session

section Tracking

variable {setup : Setup}
variable {session next : Session κ}

theorem Tracks.knows (tracks : Tracks session) : Knows setup session := by
  intro resumed
  apply holdsStill_of_guard
  unfold Session.runningAndStopped
  rw [tracks.halted resumed]
  rfl

theorem tracks_new : Tracks (Session.new κ) where
  stopped := rfl
  halted _ := rfl
  completed resumed := absurd resumed not_lastSince_nil

/-- A session in which the debuggee was not resumed. -/
theorem tracks_of_not_resumed
    (stopped : session.isStopped = true)
    (none : ¬ Resumed session.trace) : Tracks session where
  stopped := stopped
  halted resumed := absurd resumed none
  completed resumed := absurd resumed none

theorem tracks_resetData (session : Session κ) : Tracks session.resetData := by
  refine tracks_of_not_resumed ?_ (not_resumed_reset session.trace)
  unfold Session.isStopped
  rw [Session.resetData_state]
  exact DebuggerState.isStopped_removeConnected _

theorem not_mem_of_kept
    {client : Client κ}
    {result : Client κ × List (Output κ)}
    (kept : Kept client result) :
    .lostConnection ∉ result.2.filterMap Transition.eventOf := by
  intro member
  cases kept.events _ member

/-- A session of a stopped bit in which the debuggee was not resumed. -/
structure Paused (session : Session κ) : Prop where
  stopped : session.isStopped = true
  none : ¬ Resumed session.trace

theorem Paused.tracks (paused : Paused session) : Tracks session :=
  tracks_of_not_resumed paused.stopped paused.none

theorem paused_resetData (session : Session κ) : Paused session.resetData where
  stopped := (tracks_resetData session).stopped
  none := not_resumed_reset session.trace

theorem paused_onConnectionError (paused : Paused session) :
    Paused session.onConnectionError := by
  unfold Session.onConnectionError
  split
  · exact paused
  · exact paused_resetData session

/-- A lost connection ends the session. -/
theorem paused_of_lost
    {result : Client κ × List (Output κ)}
    (stopped : session.isStopped = true)
    (outputs : result.2 = [.event ⟨.lostConnection, none, []⟩]) :
    Paused (session.sent result).onConnectionError := by
  refine paused_onConnectionError ⟨stopped, ?_⟩
  show ¬ Resumed (Session.marks result.2 ++ session.trace)
  rw [outputs]
  exact not_resumed_lost session.trace

theorem tracks_perform
    (call : ApiCall κ)
    (tracks : Tracks session) : Tracks (session.perform setup call) := by
  rcases perform_cases setup call session with ⟨kept, sent⟩ | ⟨lost, sent⟩
  · rw [sent]
    have same := resumed_marks (not_mem_of_kept kept) session.trace
    exact
      { stopped := tracks.stopped
        halted := fun resumed => tracks.halted (same.mp resumed)
        completed := fun resumed =>
          kept.handshake.trans (tracks.completed (same.mp resumed)) }
  · rw [sent]
    exact (paused_of_lost tracks.stopped lost.outputs).tracks

theorem paused_perform
    (call : ApiCall κ)
    (paused : Paused session) : Paused (session.perform setup call) := by
  rcases perform_cases setup call session with ⟨kept, sent⟩ | ⟨lost, sent⟩
  · rw [sent]
    have same := resumed_marks (not_mem_of_kept kept) session.trace
    exact ⟨paused.stopped, fun resumed => paused.none (same.mp resumed)⟩
  · rw [sent]
    exact paused_of_lost paused.stopped lost.outputs

/-- Every move keeps what is known of the debuggee. -/
theorem tracks_move
    (move : Move setup session next)
    (tracks : Tracks session) : Tracks next := by
  cases move with
  | reset => exact tracks_resetData session
  | request call allowed => exact tracks_perform call tracks
  | connect command fresh =>
      rcases connect_eq setup command session with
        ⟨client, text, -, -, -, connected⟩
      rcases fresh.reset with ⟨earlier, reset⟩
      rw [connected]
      refine tracks_of_not_resumed
        (DebuggerState.isStopped_addState tracks.stopped .connected) ?_
      have quiet :
          .lostConnection ∉
            ((.sent ⟨1, .initialize_ Debugger.initArgs⟩ ::
              client.logOutput text : List (Output κ)).filterMap
                Transition.eventOf) := by
        intro member
        cases events_logOutput client text _ member
      show ¬ Resumed (Session.marks _ ++ session.trace)
      rw [resumed_marks quiet, reset]
      exact not_resumed_reset earlier
  | process dapPid pidAttached command actions =>
      exact ⟨tracks.stopped, tracks.halted, tracks.completed⟩
  | stopped =>
      exact
        { stopped := DebuggerState.isStopped_addState tracks.stopped .stopped
          halted := fun resumed =>
            DebuggerState.isRunning_addStopped (tracks.halted resumed)
          completed := tracks.completed }
  | opened =>
      exact
        { stopped := DebuggerState.isStopped_addState tracks.stopped .stopped
          halted := fun resumed =>
            DebuggerState.isRunning_addStopped (tracks.halted resumed)
          completed := tracks.completed }
  | exited =>
      exact
        { stopped := DebuggerState.isStopped_removeConnected _
          halted := fun _ => rfl
          completed := tracks.completed }
  | frames stack allowed =>
      exact ⟨tracks.stopped, tracks.halted, tracks.completed⟩
  | select thread busy =>
      have same :
          Resumed (.threadSelected thread :: session.trace) ↔
            Resumed session.trace :=
        lastSince_cons_of_neither id id session.trace
      exact
        { stopped := tracks.stopped
          halted := fun resumed => tracks.halted (same.mp resumed)
          completed := fun resumed => tracks.completed (same.mp resumed) }
  | lose =>
      have paused :
          Paused
            (session.sent
              session.debugger.client.onConnectionError).onConnectionError :=
        paused_of_lost tracks.stopped rfl
      exact paused.tracks

theorem Tracks.course
    (tracks : Tracks session)
    (course : Course setup session next) : Tracks next :=
  course.invariant (fun _ _ => tracks_move) tracks

theorem Tracks.requests
    (tracks : Tracks session)
    (requests : Requests setup session next) : Tracks next :=
  requests.invariant (fun _ call => tracks_perform call) tracks

end Tracking

/-! ## Messages -/

/--
The debuggee is not marked as running when it is resumed, and no process is
attached to a resumed debuggee.
-/
def ResumesHalted
    (setup : Setup)
    (session : Session κ)
    (label : Label κ) : Prop :=
  match label with
  | .message json _ =>
      (Completed session → Resumes json → session.isRunning = false) ∧
        ∀ jsonDump,
          dispatched setup.toolkit json session.debugger.client =
              some (.attachResponse jsonDump) →
            messageSuccess json = true → Resumed session.trace →
              session.debugger.state.isConnected = false
  | _ => True

section Messages

variable {setup : Setup}
variable {session next : Session κ}
variable {json : Json}

theorem quiet_onMessage (client : Client κ) :
    .lostConnection ∉
      (onMessage setup.toolkit json client).2.filterMap
        Transition.eventOf :=
  message_events setup.toolkit json client

/-- What a message adds to the trace says nothing but the message itself. -/
theorem resumed_receive_completed (completed : Completed session) :
    Resumed (session.receive setup json).trace ↔
      Resumes json ∨ ¬ Stops json ∧ Resumed session.trace := by
  rw [trace_receive_completed completed, resumed_marks (quiet_onMessage _)]
  exact lastSince_cons _ _

theorem resumed_receive_waiting (waiting : ¬ Completed session) :
    Resumed (session.receive setup json).trace ↔ Resumed session.trace := by
  rw [trace_receive_waiting waiting]
  exact resumed_marks (quiet_onMessage _) _

/-- A message that resumes the debuggee is handled by the client alone. -/
theorem dispatched_resumes
    (setup : Setup)
    (completed : Completed session)
    (resumes : Resumes json) :
    dispatched setup.toolkit json session.debugger.client = none ∨
      dispatched setup.toolkit json session.debugger.client =
        some .continuedEvent := by
  rw [dispatched_completed completed]
  unfold onSessionMessage
  rcases resumes with continued | ⟨response, read, step, -⟩
  · rw [continued]
    exact Or.inr rfl
  · rw [read]
    rcases response with ⟨requestSeq, success, command⟩
    simp only [stepCommands, List.mem_cons, List.not_mem_nil, or_false]
      at step
    rcases step with rfl | rfl | rfl | rfl <;> exact Or.inl rfl

theorem dispatched_stops
    (completed : Completed session)
    (stops : Stops json) :
    dispatched setup.toolkit json session.debugger.client =
      some (.stoppedEvent (stoppedThread json)) := by
  have read : fromJson json = some (.event .stopped) := stops
  rw [dispatched_completed completed]
  unfold onSessionMessage
  rw [read]
  rfl

theorem tracks_receive
    (tracks : Tracks session)
    (completed : Completed session)
    (halted : Resumes json → session.isRunning = false) :
    Tracks (session.receive setup json) where
  stopped := tracks.stopped
  halted resumed := by
    rcases (resumed_receive_completed completed).mp resumed with
      resumes | ⟨-, before⟩
    · exact halted resumes
    · exact tracks.halted before
  completed _ := completed_receive completed

theorem paused_receive
    (tracks : Tracks session)
    (waiting : ¬ Completed session) :
    Paused (session.receive setup json) where
  stopped := tracks.stopped
  none resumed :=
    waiting (tracks.completed ((resumed_receive_waiting waiting).mp resumed))

/-- The debuggee is marked as running when it is launched. -/
theorem tracks_onInitializeResponse
    (success : Bool)
    (paused : Paused session) :
    Tracks (session.onInitializeResponse setup success) := by
  rcases onInitializeResponse_cases setup success session with
    ignored | ⟨moved, call, same, launched⟩
  · rw [ignored]
    exact paused.tracks
  · rw [launched]
    have ready : Paused moved := by
      constructor
      · unfold Session.isStopped
        rw [same.state]
        exact paused.stopped
      · rw [same.trace]
        exact paused.none
    have asked : Paused (moved.perform setup call) := paused_perform call ready
    exact tracks_of_not_resumed
      (DebuggerState.isStopped_addState asked.stopped .running) asked.none

/-- An attach response is no step and no stop. -/
theorem resumed_receive_attach
    {jsonDump : WxString}
    (completed : Completed session)
    (told :
      dispatched setup.toolkit json session.debugger.client =
        some (.attachResponse jsonDump)) :
    Resumed (session.receive setup json).trace ↔
      Resumed session.trace := by
  rw [resumed_receive_completed completed]
  constructor
  · rintro (resumes | ⟨-, before⟩)
    · rcases dispatched_resumes setup completed resumes with
        none | continued
      · rw [none] at told
        cases told
      · rw [continued] at told
        cases told
    · exact before
  · intro before
    refine Or.inr ⟨fun stops => ?_, before⟩
    rw [dispatched_stops completed stops] at told
    cases told

end Messages

/-! ## Runs -/

section Steps

variable {setup : Setup}
variable {session next : Session κ}
variable {label : Label κ}

theorem tracks_message
    {json : Json}
    {reaction : Reaction κ}
    (tracks : Tracks session)
    (halts : ResumesHalted setup session (.message json reaction))
    (taken : session.onMessage setup json reaction = some next) :
    Tracks next := by
  rcases halts with ⟨halted, unconnected⟩
  cases message_course taken with
  | ignored waiting told => exact (paused_receive tracks waiting).tracks
  | initialized waiting told =>
      exact tracks_onInitializeResponse _ (paused_receive tracks waiting)
  | attached completed jsonDump told =>
      have received : Tracks (session.receive setup json) :=
        tracks_receive tracks completed (halted completed)
      show Tracks
        ((session.receive setup json).onAttachToProcessResponse
          (messageSuccess json))
      unfold Session.onAttachToProcessResponse
        Debugger.onAttachToProcessResponse
      cases success : messageSuccess json
      case false =>
        exact ⟨received.stopped, received.halted, received.completed⟩
      case true =>
        exact
          { stopped :=
              DebuggerState.isStopped_addState
                (DebuggerState.isStopped_addState received.stopped .running)
                .stopped
            halted := fun resumed =>
              (DebuggerState.isRunning_addRunning _).trans
                (unconnected jsonDump told success
                  ((resumed_receive_attach completed told).mp resumed))
            completed := received.completed }
  | handled completed other course =>
      exact (tracks_receive tracks completed (halted completed)).course course

theorem tracks_step
    (tracks : Tracks session)
    (halts : ResumesHalted setup session label)
    (taken : step setup session label = some next) : Tracks next := by
  by_cases plain : Plain label
  · exact tracks.course (step_course plain taken)
  · cases label with
    | attachToProcess pid host =>
        cases taken
        rcases attachToProcess_cases setup pid host session with
          ⟨-, same⟩ | ⟨number, -, attached⟩
        · rw [same]
          exact tracks
        · rw [attached]
          have set : Tracks (session.setPidAttached number) :=
            ⟨tracks.stopped, tracks.halted, tracks.completed⟩
          exact tracks_perform _ (set.course (course_startDebugger host _))
    | message json reaction => exact tracks_message tracks halts taken
    | command command =>
        exact tracks.requests (requests_command (not_not.mp plain) taken)
    | _ => exact absurd trivial plain

/-- A debuggee that is marked as running does not hold still. -/
theorem not_knows_of_running
    (stopped : session.isStopped = true)
    (running : session.isRunning = true)
    (resumed : Resumed session.trace) : ¬ Knows setup session := by
  intro knows
  have flag := (knows resumed).flags running
  rw [stopped] at flag
  cases flag

/-- A successful attach marks a connected debuggee as running. -/
theorem not_knows_attached
    {received : Session κ}
    {success : Bool}
    (stopped : received.isStopped = true)
    (accepted : success = true)
    (connected : received.debugger.state.isConnected = true)
    (resumed : Resumed received.trace) :
    ¬ Knows setup (received.onAttachToProcessResponse success) := by
  subst accepted
  let attached := received.onAttachToProcessResponse true
  have still : attached.isStopped = true :=
    DebuggerState.isStopped_addState
      (DebuggerState.isStopped_addState stopped .running) .stopped
  have running : attached.isRunning = true :=
    (DebuggerState.isRunning_addRunning _).trans connected
  exact not_knows_of_running still running resumed

/-- The plugin does nothing when the debuggee is resumed. -/
theorem receive_of_resumes
    {json : Json}
    {reaction : Reaction κ}
    (completed : Completed session)
    (resumes : Resumes json)
    (handled :
      (match dispatched setup.toolkit json session.debugger.client with
        | none => some (session.receive setup json)
        | some message =>
            (session.receive setup json).onDapEvent setup json reaction
              message) =
        some next) :
    next = session.receive setup json := by
  rcases dispatched_resumes setup completed resumes with
    none | continued
  · rw [none] at handled
    exact (Option.some.inj handled).symm
  · rw [continued] at handled
    have silent :
        (session.receive setup json).react setup .continuedEvent reaction =
          session.receive setup json :=
      Session.react_of_silent setup reaction (fun _ => rfl) _
    exact (Option.some.inj handled).symm.trans silent

theorem not_knows_step
    (tracks : Tracks session)
    (runs : ¬ ResumesHalted setup session label)
    (taken : step setup session label = some next) :
    ¬ Knows setup next := by
  cases label with
  | message json reaction =>
      have handled : session.onMessage setup json reaction = some next := taken
      rw [Session.onMessage_eq] at handled
      by_cases resumes :
          Completed session → Resumes json → session.isRunning = false
      · have attaches :
            ¬ ∀ jsonDump,
              dispatched setup.toolkit json session.debugger.client =
                  some (.attachResponse jsonDump) →
                messageSuccess json = true → Resumed session.trace →
                  session.debugger.state.isConnected = false :=
          fun unconnected => runs ⟨resumes, unconnected⟩
        simp only [not_forall, Bool.not_eq_false] at attaches
        rcases attaches with ⟨jsonDump, told, success, resumed, connected⟩
        have completed := tracks.completed resumed
        rw [told] at handled
        cases handled
        have later :
            Resumed (session.receive setup json).trace :=
          (resumed_receive_attach completed told).mpr resumed
        exact not_knows_attached tracks.stopped success connected later
      · simp only [not_forall, Bool.not_eq_false] at resumes
        rcases resumes with ⟨completed, resumes, running⟩
        have received : next = session.receive setup json :=
          receive_of_resumes completed resumes handled
        rw [received]
        exact not_knows_of_running tracks.stopped running
          ((resumed_receive_completed completed).mpr (Or.inl resumes))
  | _ => exact absurd trivial runs

end Steps

/--
In every run in which the debuggee is only resumed while it is not marked as
running, the plugin knows that it runs.  Only such runs are known to.
-/
theorem knows_running
    (setup : Setup)
    (labels : List (Label κ)) :
    (Along (step setup) (ResumesHalted setup) (Session.new κ) labels →
        Always (step setup) (Knows setup) (Session.new κ) labels) ∧
      ∀ reached,
        run (step setup) (Session.new κ) labels = some reached →
          Always (step setup) (Knows setup) (Session.new κ) labels →
            Along (step setup) (ResumesHalted setup) (Session.new κ)
              labels := by
  constructor
  · exact always_of_along
      (fun _ _ _ tracks halts taken => tracks_step tracks halts taken)
      (fun _ tracks => tracks.knows) tracks_new
  · intro reached ran
    exact (always_iff_along_of_run
      (fun _ _ _ tracks halts taken => tracks_step tracks halts taken)
      (fun _ tracks => tracks.knows)
      (fun _ _ _ tracks runs taken => not_knows_step tracks runs taken)
      tracks_new ran).mp

/-- A program is started, stops and is continued. -/
def stoppedAndContinued : List (Label Unit) :=
  threeFrames ++
    [.command .continue_,
      .message (responseTree .continue_ 5 true []) plainReaction]

/-- The debuggee runs and its frames could still be asked for. -/
theorem stoppedAndContinued_not_knows :
    ¬ Always (step plainSetup) (Knows plainSetup) (Session.new Unit)
      stoppedAndContinued := by
  intro always
  have knows := always stoppedAndContinued [] _ (List.append_nil _) rfl
  have accepted : Resumes (responseTree .continue_ 5 true []) :=
    Or.inr ⟨_, rfl, by decide, rfl⟩
  have still :=
    knows
      ⟨[], .handled (responseTree .continue_ 5 true []), _, rfl, accepted,
        fun _ member => absurd member List.not_mem_nil⟩
  have flag := still.flags rfl
  exact absurd flag (by decide)

end DebuggerDap.Plugin.Resumption
