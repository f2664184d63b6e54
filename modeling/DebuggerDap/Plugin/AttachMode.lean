import DebuggerDap.Plugin.Starting

/-!
# Attach mode and the session it belongs to

`m_pid_attached` makes a session one that attaches.  It is set by
`AttachToProcess` and taken back where the user detaches and where the adapter
rejects the attach request.  A session that ends in another way leaves it
set, and the initialize response of the next one is then not answered with a
launch request.

A debugger is followed together with whether the session that attaches is
still open.
-/

namespace DebuggerDap.Plugin.AttachMode

open DebuggerDap.Text.Strings
open DebuggerDap.Protocol.JsonTree
open DebuggerDap.Protocol.Messages
open DebuggerDap.DapClient.State
open DebuggerDap.DapClient.OnMessage
open DebuggerDap.DapClient.Replies (InitializeReply)
open DebuggerDap.DapClient.History
open DebuggerDap.Library.Run
open DebuggerDap.Plugin.DebuggerState
open DebuggerDap.Plugin.Lifecycle
open DebuggerDap.Plugin.Starting

variable {κ : Type*}

/-! ## Sessions that attach -/

/-- A debugger, and whether a session that attaches is open. -/
structure Tracked (κ : Type*) where
  debugger : Debugger κ
  attached : Bool

def Tracked.new (κ : Type*) : Tracked κ :=
  ⟨Debugger.new κ, false⟩

def successOf (event : DapEvent) : Bool :=
  (event.json.map messageSuccess).getD false

def isRejectedAttach : Output κ → Bool
  | .event event =>
      match event.message with
      | .attachResponse _ => !successOf event
      | _ => false
  | _ => false

/-- The user detaches, or the adapter rejects the attach request. -/
def releases
    (site : Site)
    (debugger : Debugger κ) : Label κ → Bool
  | .detachFromProcess =>
      debugger.isAttachedToProcess && debugger.state.isRunning
  | .message json =>
      (onMessage site.toolkit json debugger.client).2.any isRejectedAttach
  | _ => false

/-- The code `StartDebugger` returns to `AttachToProcess`. -/
def attachCode
    (site : Site)
    (host : Host)
    (number : Int)
    (debugger : Debugger κ) : Int :=
  ({ debugger with pidAttached := number }.startDebugger site host).2

/--
A session that attaches begins when `AttachToProcess` gets the adapter
started.  It ends when the process is released, when the session is reset and
when the client has lost its transport.
-/
def attachedAfter
    (site : Site)
    (tracked : Tracked κ)
    (label : Label κ)
    (after : Debugger κ) : Bool :=
  match label with
  | .attachToProcess pid host =>
      match site.toLong pid with
      | none => tracked.attached
      | some number =>
          decide (attachCode site host number tracked.debugger = 0)
  | label =>
      tracked.attached && !releases site tracked.debugger label &&
        decide (resets after = resets tracked.debugger) &&
        after.client.transport.isSome

def trackedStep
    (site : Site)
    (tracked : Tracked κ)
    (label : Label κ) : Option (Tracked κ) :=
  (step site tracked.debugger label).map fun after =>
    ⟨after, attachedAfter site tracked label after⟩

/--
A successful initialize response is answered with a launch request and makes
the debugger run.
-/
def AnswersWithLaunch (site : Site) (debugger : Debugger κ) : Prop :=
  ∀ json, InitializeReply json → messageSuccess json = true →
    debugger.client.transport.isSome = true →
      debugger.client.handshakeState = .inProgress →
        ∃ program args workingDirectory env request,
          let received := (onMessage site.toolkit json debugger.client).1
          let launched :=
            received.launch site.toolkit program args workingDirectory env
          sentRequests launched.2 = [request] ∧
            request.body.command = .launch ∧
              (debugger.onMessage site json).client = launched.1 ∧
                (debugger.onMessage site json).state.isRunning = true

/-- Outside a session that attaches nothing of it is left. -/
structure AttachEnded (site : Site) (tracked : Tracked κ) : Prop where
  cleared : tracked.attached = false → tracked.debugger.pidAttached = 0
  launches :
    tracked.attached = false → AnswersWithLaunch site tracked.debugger

/-! ## The ways a session ends -/

/-- The session is reset when the event is handled. -/
def ResetsSession (event : DapEvent) : Prop :=
  event.message = .terminatedEvent ∨
    (event.message = .launchResponse ∨
        event.message = .configurationDoneResponse) ∧
      successOf event = false

/--
While `m_pid_attached` is set the session does not end but by its release,
and an attached session begins only if the adapter starts.
-/
def EndsReleased
    (site : Site)
    (tracked : Tracked κ)
    (label : Label κ) : Prop :=
  match label with
  | .startDebugger host =>
      tracked.debugger.pidAttached = 0 ∨ ¬ ReachesLaunch host
  | .attachToProcess pid host =>
      ∀ number, site.toLong pid = some number →
        number = 0 ∨ ReachesLaunch host ∧ Connects host
  | .stop =>
      tracked.debugger.pidAttached = 0 ∨
        tracked.debugger.state.isRunning = false
  | .message json =>
      tracked.debugger.pidAttached = 0 ∨
        ∀ event,
          Output.event event ∈
              (onMessage site.toolkit json tracked.debugger.client).2 →
            ¬ ResetsSession event
  | .connectionError => tracked.debugger.pidAttached = 0
  | .release => tracked.debugger.pidAttached = 0
  | .detachFromProcess => True
  | .call _ => True
  | .projectOpened => True
  | .destroy => True

/-! ## The process the session is for -/

section Process

variable {site : Site}
variable {debugger : Debugger κ}

theorem pidAttached_onInitializeResponse (success : Bool) :
    (debugger.onInitializeResponse site success).pidAttached =
      debugger.pidAttached := by
  unfold Debugger.onInitializeResponse
  split
  · rfl
  · exact pidAttached_send _

theorem pidAttached_onStartResponse (success : Bool) :
    (debugger.onStartResponse success).pidAttached =
      debugger.pidAttached := by
  unfold Debugger.onStartResponse
  split
  · rfl
  · exact pidAttached_resetData

/-- A handler keeps the process or forgets it. -/
theorem pidAttached_onDapEvent (event : DapEvent) :
    (debugger.onDapEvent site event).pidAttached = debugger.pidAttached ∨
      (debugger.onDapEvent site event).pidAttached = 0 := by
  unfold Debugger.onDapEvent
  dsimp only
  split
  · exact Or.inl pidAttached_onConnectionError
  · exact Or.inl (pidAttached_onInitializeResponse _)
  · exact Or.inl (pidAttached_onStartResponse _)
  · exact Or.inl (pidAttached_onStartResponse _)
  · unfold Debugger.onAttachToProcessResponse
    split
    · exact Or.inl rfl
    · exact Or.inr rfl
  · exact Or.inl (pidAttached_send _)
  · exact Or.inl rfl
  · exact Or.inl rfl
  · exact Or.inl pidAttached_resetData
  · exact Or.inl rfl

/-- Only `AttachToProcess` sets the process. -/
theorem pidAttached_step
    {next : Debugger κ}
    {label : Label κ}
    (other : ∀ pid host, label ≠ .attachToProcess pid host)
    (taken : step site debugger label = some next) :
    next.pidAttached = debugger.pidAttached ∨ next.pidAttached = 0 := by
  cases label <;> cases taken
  case startDebugger host =>
    rcases startDebugger_cases site host debugger with
      ⟨same, -⟩ | ⟨-, launched⟩
    · exact Or.inl (congrArg Debugger.pidAttached same)
    · exact Or.inl launched.pidAttached
  case attachToProcess pid host => exact absurd rfl (other pid host)
  case detachFromProcess =>
    unfold Debugger.detachFromProcess
    split
    · exact Or.inl rfl
    · exact Or.inr rfl
  case stop =>
    unfold Debugger.stop
    split
    · exact Or.inl rfl
    · rw [pidAttached_resetData, pidAttached_send]
      exact Or.inl rfl
  case message json =>
    rcases onMessage_handled site json debugger with
      ⟨same, -⟩ | ⟨event, -, result, -⟩
    · rw [same]
      exact Or.inl rfl
    · rw [result]
      exact pidAttached_onDapEvent event
  case connectionError => exact Or.inl (pidAttached_send _)
  case call call => exact Or.inl (pidAttached_send _)
  case projectOpened => exact Or.inl rfl
  case release => exact Or.inl pidAttached_resetData
  case destroy => exact Or.inl pidAttached_killAdapter

end Process

/-! ## Steps that leave the session open -/

/-- The process, the transport and the number of resets are as before. -/
structure Steady (before after : Debugger κ) : Prop where
  pidAttached : after.pidAttached = before.pidAttached
  resets : resets after = resets before
  transport : after.client.transport = before.client.transport

theorem Steady.refl (debugger : Debugger κ) : Steady debugger debugger :=
  ⟨rfl, rfl, rfl⟩

/-- A handler that resets no session keeps it or forgets the process. -/
theorem steady_onDapEvent
    (site : Site)
    {debugger : Debugger κ}
    {event : DapEvent}
    (linked : debugger.client.transport.isSome = true)
    (attached : debugger.pidAttached ≠ 0)
    (connected : event.message ≠ .lostConnection)
    (resets : ¬ ResetsSession event) :
    Steady debugger (debugger.onDapEvent site event) ∨
      (debugger.onDapEvent site event).pidAttached = 0 := by
  have started :
      ∀ message,
        event.message = message →
          (message = .launchResponse ∨
              message = .configurationDoneResponse) →
            successOf event = true := by
    intro message same start
    by_contra failed
    refine resets (Or.inr ⟨?_, Bool.eq_false_iff.mpr failed⟩)
    rw [same]
    exact start
  unfold Debugger.onDapEvent
  dsimp only
  split
  · next lost => exact absurd lost connected
  · unfold Debugger.onInitializeResponse
    rw [if_pos (Or.inr attached)]
    exact Or.inl (Steady.refl debugger)
  · next launch =>
      rw [← successOf, started _ launch (Or.inl rfl)]
      exact Or.inl (Steady.refl debugger)
  · next done =>
      rw [← successOf, started _ done (Or.inr rfl)]
      exact Or.inl (Steady.refl debugger)
  · unfold Debugger.onAttachToProcessResponse
    split
    · exact Or.inl ⟨rfl, rfl, rfl⟩
    · exact Or.inr rfl
  · rcases send_perform site.toolkit .configurationDone linked with
      ⟨sent, transport⟩
    refine Or.inl ⟨pidAttached_send _, ?_, transport⟩
    show Starting.resets
      (debugger.send (Client.perform site.toolkit .configurationDone)) = _
    rw [sent]
    rfl
  · exact Or.inl ⟨rfl, rfl, rfl⟩
  · exact Or.inl ⟨rfl, rfl, rfl⟩
  · next terminated => exact absurd (Or.inl terminated) resets
  · exact Or.inl (Steady.refl debugger)

/-- A rejected attach response makes the plugin forget the process. -/
theorem pidAttached_of_rejected
    {site : Site}
    {debugger : Debugger κ}
    {event : DapEvent}
    (rejected : isRejectedAttach (Output.event event : Output κ) = true) :
    (debugger.onDapEvent site event).pidAttached = 0 := by
  rcases event with ⟨message, json, string⟩
  cases message
  case attachResponse jsonDump =>
    have failed : successOf ⟨.attachResponse jsonDump, json, string⟩ = false :=
      (Bool.not_eq_true' _).mp rejected
    show (debugger.onAttachToProcessResponse (successOf _)).pidAttached = 0
    rw [failed]
    rfl
  all_goals exact absurd rejected Bool.false_ne_true

/-- A rejected attach response among the outputs is the event handled. -/
theorem isRejectedAttach_iff
    {outputs : List (Output κ)}
    {event : DapEvent}
    (among : Output.event event ∈ outputs)
    (only :
      ∀ other, Output.event other ∈ outputs →
        other.message = .logEvent ∨ other = event) :
    outputs.any isRejectedAttach =
      isRejectedAttach (Output.event event : Output κ) := by
  cases rejected : isRejectedAttach (Output.event event : Output κ) with
  | true => exact List.any_eq_true.mpr ⟨_, among, rejected⟩
  | false =>
      rw [List.any_eq_false]
      intro output member
      cases output with
      | event other =>
          rcases only other member with logged | rfl
          · simp [isRejectedAttach, logged]
          · simp [rejected]
      | _ => simp [isRejectedAttach]

/-- A message that resets no session keeps it or releases the process. -/
theorem steady_onMessage
    (site : Site)
    (json : Json)
    {debugger : Debugger κ}
    (linked : debugger.client.transport.isSome = true)
    (attached : debugger.pidAttached ≠ 0)
    (resets :
      ∀ event,
        Output.event event ∈
            (onMessage site.toolkit json debugger.client).2 →
          ¬ ResetsSession event) :
    Steady debugger (debugger.onMessage site json) ∧
        releases site debugger (.message json) = false ∨
      (debugger.onMessage site json).pidAttached = 0 := by
  have transport := transport_onMessage site.toolkit json debugger.client
  have steady : Steady debugger (received site json debugger) :=
    ⟨rfl, rfl, transport⟩
  rcases onMessage_handled site json debugger with
    ⟨result, logged⟩ | ⟨event, among, result, only⟩
  · refine Or.inl ⟨result ▸ steady, ?_⟩
    refine List.any_eq_false.mpr fun output member => ?_
    cases output with
    | event event => simp [isRejectedAttach, logged event member]
    | _ => simp [isRejectedAttach]
  · have stillLinked :
        (received site json debugger).client.transport.isSome = true := by
      show (onMessage site.toolkit json debugger.client).1.transport.isSome =
        true
      rw [transport]
      exact linked
    have connected : event.message ≠ .lostConnection := by
      intro lost
      apply message_events site.toolkit json debugger.client
      exact List.mem_filterMap.mpr ⟨_, among, congrArg some lost⟩
    rw [result]
    have rejected := isRejectedAttach_iff among only
    rcases steady_onDapEvent site stillLinked attached connected
        (resets event among) with kept | forgotten
    · cases isRejected : isRejectedAttach (Output.event event : Output κ) with
      | false =>
          refine Or.inl ⟨⟨kept.pidAttached, kept.resets, ?_⟩, ?_⟩
          · rw [kept.transport]
            exact transport
          · exact rejected.trans isRejected
      | true => exact Or.inr (pidAttached_of_rejected isRejected)
    · exact Or.inr forgotten

/-! ## The invariant -/

structure Kept (tracked : Tracked κ) : Prop where
  cleared : tracked.attached = false → tracked.debugger.pidAttached = 0
  linked :
    tracked.attached = true →
      tracked.debugger.client.transport.isSome = true
  ready : Ready tracked.debugger

theorem kept_new : Kept (Tracked.new κ) where
  cleared := fun _ => rfl
  linked := fun attached => absurd attached Bool.false_ne_true
  ready := fun asked => nomatch asked

/-- A steady step leaves an attached session open. -/
theorem attachedAfter_of_steady
    {site : Site}
    {tracked : Tracked κ}
    {label : Label κ}
    {after : Debugger κ}
    (kept : Kept tracked)
    (attached : tracked.attached = true)
    (other : ∀ pid host, label ≠ .attachToProcess pid host)
    (held : releases site tracked.debugger label = false)
    (steady : Steady tracked.debugger after) :
    attachedAfter site tracked label after = true := by
  have linked : after.client.transport.isSome = true := by
    rw [steady.transport]
    exact kept.linked attached
  unfold attachedAfter
  split
  · next pid host => exact absurd rfl (other pid host)
  · rw [attached, held, steady.resets, linked, decide_eq_true rfl]
    rfl

section Cleared

variable {site : Site}
variable {tracked : Tracked κ}
variable {label : Label κ}
variable {after : Debugger κ}

/-- While a process is set, a guarded step keeps the session or forgets it. -/
theorem steady_step
    (attached : tracked.debugger.pidAttached ≠ 0)
    (linked : tracked.debugger.client.transport.isSome = true)
    (other : ∀ pid host, label ≠ .attachToProcess pid host)
    (released : EndsReleased site tracked label)
    (taken : step site tracked.debugger label = some after) :
    Steady tracked.debugger after ∧
        releases site tracked.debugger label = false ∨
      after.pidAttached = 0 := by
  cases label <;> cases taken
  case startDebugger host =>
    rcases startDebugger_cases site host tracked.debugger with
      ⟨same, -⟩ | ⟨reaches, -⟩
    · rw [same]
      exact Or.inl ⟨Steady.refl _, rfl⟩
    · exact absurd reaches (released.resolve_left attached)
  case attachToProcess pid host => exact absurd rfl (other pid host)
  case detachFromProcess =>
    unfold Debugger.detachFromProcess
    split
    · next refused =>
        refine Or.inl ⟨Steady.refl _, ?_⟩
        show (_ && _) = false
        rw [Bool.and_eq_false_iff]
        exact refused
    · exact Or.inr rfl
  case stop =>
    have halted := released.resolve_left attached
    unfold Debugger.stop
    rw [if_pos halted]
    exact Or.inl ⟨Steady.refl _, rfl⟩
  case message json =>
    exact steady_onMessage site json linked attached
      (released.resolve_left attached)
  case connectionError => exact absurd released attached
  case call call =>
    rcases send_perform site.toolkit call linked with ⟨sent, transport⟩
    refine Or.inl ⟨⟨pidAttached_send _, ?_, transport⟩, rfl⟩
    rw [sent]
    rfl
  case projectOpened => exact Or.inl ⟨⟨rfl, rfl, rfl⟩, rfl⟩
  case release => exact absurd released attached
  case destroy =>
    refine Or.inl ⟨⟨pidAttached_killAdapter, resets_killAdapter, ?_⟩, rfl⟩
    exact congrArg Client.transport client_killAdapter

theorem cleared_step
    (kept : Kept tracked)
    (other : ∀ pid host, label ≠ .attachToProcess pid host)
    (released : EndsReleased site tracked label)
    (taken : step site tracked.debugger label = some after)
    (ended : attachedAfter site tracked label after = false) :
    after.pidAttached = 0 := by
  by_cases attached : tracked.debugger.pidAttached = 0
  · rcases pidAttached_step other taken with same | forgotten
    · rw [same]
      exact attached
    · exact forgotten
  · have live : tracked.attached = true := by
      by_contra closed
      exact attached (kept.cleared (Bool.eq_false_iff.mpr closed))
    rcases steady_step attached (kept.linked live) other released
        taken with ⟨steady, held⟩ | forgotten
    · rw [attachedAfter_of_steady kept live other held steady] at ended
      cases ended
    · exact forgotten

end Cleared

/-! ## Runs -/

section Attaching

variable {site : Site}
variable {pid : WxString}
variable (host : Host)

/-- `AttachToProcess` with a number opens a session if the adapter starts. -/
theorem attach_started
    {number : Int}
    (parsed : site.toLong pid = some number)
    (debugger : Debugger κ) :
    (debugger.attachToProcess site host pid).pidAttached = number ∧
      (attachCode site host number debugger = 0 →
        (debugger.attachToProcess site host pid).client.transport.isSome =
          true) ∧
        (number ≠ 0 →
          (attachCode site host number debugger = 0 ↔
            ReachesLaunch host ∧ Connects host)) := by
  rw [Debugger.attachToProcess, parsed]
  dsimp only
  rcases startDebugger_cases site host
      { debugger with pidAttached := number } with
    ⟨same, failed, unreached⟩ | ⟨reaches, launched⟩
  · refine ⟨?_, fun zero => absurd zero failed, fun attached => ?_⟩
    · rw [pidAttached_send, same]
    · exact iff_of_false failed fun both => unreached attached both.1
  · refine ⟨?_, fun zero => ?_, fun _ => ?_⟩
    · rw [pidAttached_send, launched.pidAttached]
    · have linked := launched.linked zero
      rcases send_perform site.toolkit (.attach number) linked with
        ⟨-, transport⟩
      have same := congrArg Option.isSome transport
      exact same.trans linked
    · exact launched.code.trans (and_iff_right reaches).symm

theorem attachedAfter_attach
    {number : Int}
    (parsed : site.toLong pid = some number)
    (tracked : Tracked κ)
    (after : Debugger κ) :
    attachedAfter site tracked (.attachToProcess pid host) after =
      decide (attachCode site host number tracked.debugger = 0) := by
  rw [attachedAfter, parsed]

/-- Text that is no number changes nothing. -/
theorem attach_unparsed
    (parsed : site.toLong pid = none)
    (tracked : Tracked κ) :
    tracked.debugger.attachToProcess site host pid = tracked.debugger ∧
      ∀ after,
        attachedAfter site tracked (.attachToProcess pid host) after =
          tracked.attached := by
  refine ⟨?_, fun after => ?_⟩
  · rw [Debugger.attachToProcess, parsed]
  · rw [attachedAfter, parsed]

end Attaching

section Steps

variable {site : Site}
variable {tracked next : Tracked κ}
variable {label : Label κ}

theorem trackedStep_eq_some
    (taken : trackedStep site tracked label = some next) :
    ∃ after,
      step site tracked.debugger label = some after ∧
        next = ⟨after, attachedAfter site tracked label after⟩ := by
  rcases Option.map_eq_some_iff.mp taken with ⟨after, stepped, equal⟩
  exact ⟨after, stepped, equal.symm⟩

/-- A session that is still open has its transport. -/
theorem linked_of_attachedAfter
    {after : Debugger κ}
    (other : ∀ pid host, label ≠ .attachToProcess pid host)
    (attached : attachedAfter site tracked label after = true) :
    after.client.transport.isSome = true := by
  unfold attachedAfter at attached
  split at attached
  · next pid host => exact absurd rfl (other pid host)
  · exact (Bool.and_eq_true_iff.mp attached).2

theorem kept_step
    (kept : Kept tracked)
    (released : EndsReleased site tracked label)
    (taken : trackedStep site tracked label = some next) :
    Kept next := by
  rcases trackedStep_eq_some taken with ⟨after, stepped, rfl⟩
  have ready := ready_step kept.ready stepped
  by_cases attach : ∃ pid host, label = .attachToProcess pid host
  · rcases attach with ⟨pid, host, rfl⟩
    cases stepped
    cases parsed : site.toLong pid with
    | none =>
        rcases attach_unparsed host parsed tracked with ⟨same, attached⟩
        refine ⟨?_, ?_, ready⟩
        · rw [attached, same]
          exact kept.cleared
        · rw [attached, same]
          exact kept.linked
    | some number =>
        rcases attach_started host parsed tracked.debugger with
          ⟨pidAttached, linked, code⟩
        have attached := attachedAfter_attach host parsed tracked
        refine ⟨?_, ?_, ready⟩
        · rw [attached]
          intro failed
          rcases released number parsed with none | starts
          · exact pidAttached.trans none
          · by_contra set
            have nonzero : number ≠ 0 := pidAttached ▸ set
            exact of_decide_eq_false failed ((code nonzero).mpr starts)
        · rw [attached]
          exact fun started => linked (of_decide_eq_true started)
  · have other : ∀ pid host, label ≠ .attachToProcess pid host :=
      fun pid host same => attach ⟨pid, host, same⟩
    exact ⟨cleared_step kept other released stepped,
      linked_of_attachedAfter other, ready⟩

/-! ## Steps that leave the process set -/

/-- A step without a transport at its end has ended the session. -/
theorem attachedAfter_of_unlinked
    {after : Debugger κ}
    (other : ∀ pid host, label ≠ .attachToProcess pid host)
    (unlinked : after.client.transport = none) :
    attachedAfter site tracked label after = false := by
  by_contra attached
  have linked :=
    linked_of_attachedAfter other (Bool.eq_true_of_not_eq_false attached)
  rw [unlinked] at linked
  cases linked

theorem not_ended_of_set
    {after : Debugger κ}
    (set : after.pidAttached ≠ 0)
    (closed : attachedAfter site tracked label after = false) :
    ¬ AttachEnded site ⟨after, attachedAfter site tracked label after⟩ :=
  fun ended => set (ended.cleared closed)

/-- A reset session has ended, with the process still set. -/
theorem not_ended_of_reset
    {before : Debugger κ}
    (other : ∀ pid host, label ≠ .attachToProcess pid host)
    (attached : before.pidAttached ≠ 0) :
    ¬ AttachEnded site
      ⟨before.resetData,
        attachedAfter site tracked label before.resetData⟩ := by
  refine not_ended_of_set ?_ (attachedAfter_of_unlinked other ?_)
  · rw [pidAttached_resetData]
    exact attached
  · rw [client_resetData]
    rfl

/-- The message that resets the session is the one handled. -/
theorem onMessage_of_resets
    (site : Site)
    {json : Json}
    {debugger : Debugger κ}
    {event : DapEvent}
    (among :
      Output.event event ∈
        (onMessage site.toolkit json debugger.client).2)
    (resets : ResetsSession event) :
    debugger.onMessage site json =
      (received site json debugger).resetData := by
  have handled : event.message ≠ .logEvent := by
    intro logged
    rcases resets with terminated | ⟨launch | done, -⟩
    · cases logged.symm.trans terminated
    · cases logged.symm.trans launch
    · cases logged.symm.trans done
  rcases onMessage_handled site json debugger with
    ⟨-, logged⟩ | ⟨only, -, result, same⟩
  · exact absurd (logged event among) handled
  · obtain rfl := (same event among).resolve_left handled
    rw [result]
    rcases event with ⟨message, tree, string⟩
    rcases resets with terminated | ⟨launch | done, failed⟩
    · cases terminated
      rfl
    · cases launch
      show Debugger.onStartResponse (successOf _) _ = _
      rw [failed]
      rfl
    · cases done
      show Debugger.onStartResponse (successOf _) _ = _
      rw [failed]
      rfl

theorem transport_connectionError {debugger : Debugger κ} :
    (debugger.send Client.onConnectionError).client.transport = none := by
  unfold Debugger.send
  dsimp only
  split
  · unfold Debugger.onConnectionError
    split
    · rfl
    · rw [client_resetData]
      rfl
  · rfl

/-- A step that is not guarded ends a session with its process set. -/
theorem not_ended_step
    (unreleased : ¬ EndsReleased site tracked label)
    (taken : trackedStep site tracked label = some next) :
    ¬ AttachEnded site next := by
  rcases trackedStep_eq_some taken with ⟨after, stepped, rfl⟩
  cases label <;> cases stepped
  case startDebugger host =>
    rcases not_or.mp unreleased with ⟨attached, reached⟩
    rcases startDebugger_cases site host tracked.debugger with
      ⟨-, -, unreached⟩ | ⟨-, launched⟩
    · exact absurd (unreached attached) reached
    · refine not_ended_of_set ?_ ?_
      · rw [launched.pidAttached]
        exact attached
      · show (_ && _ && _ && _) = false
        rw [decide_eq_false (Nat.ne_of_gt launched.reset), Bool.and_false,
          Bool.false_and]
  case attachToProcess pid host =>
    simp only [EndsReleased, not_forall] at unreleased
    rcases unreleased with ⟨number, parsed, neither⟩
    rcases not_or.mp neither with ⟨attached, apart⟩
    rcases attach_started host parsed tracked.debugger with
      ⟨pidAttached, -, code⟩
    refine not_ended_of_set ?_ ?_
    · rw [pidAttached]
      exact attached
    · rw [attachedAfter_attach host parsed]
      exact decide_eq_false fun zero => apart ((code attached).mp zero)
  case stop =>
    rcases not_or.mp unreleased with ⟨attached, running⟩
    unfold Debugger.stop
    rw [if_neg running]
    refine not_ended_of_reset (fun _ _ => nofun) ?_
    rw [pidAttached_send]
    exact attached
  case message json =>
    rcases not_or.mp unreleased with ⟨attached, resetting⟩
    simp only [not_forall, not_not] at resetting
    rcases resetting with ⟨event, among, resets⟩
    rw [onMessage_of_resets site among resets]
    have set : (received site json tracked.debugger).pidAttached ≠ 0 :=
      attached
    exact not_ended_of_reset (fun _ _ => nofun) set
  case connectionError =>
    refine not_ended_of_set ?_ (attachedAfter_of_unlinked ?_ ?_)
    · rw [pidAttached_send]
      exact unreleased
    · exact fun _ _ => nofun
    · exact transport_connectionError
  case release => exact not_ended_of_reset (fun _ _ => nofun) unreleased
  case detachFromProcess => exact absurd trivial unreleased
  case call => exact absurd trivial unreleased
  case projectOpened => exact absurd trivial unreleased
  case destroy => exact absurd trivial unreleased

end Steps

/-! ## The next launch -/

/-- A debugger that is connected runs when it is told to. -/
theorem isRunning_addState (state : DebuggerState) :
    (state.addState .running).isRunning = state.isConnected := by
  rcases state with ⟨notConnected, connected, stopped, running⟩
  cases connected <;> cases stopped <;> rfl

/-- The launch request of a debugger that attaches to no process. -/
theorem onInitializeResponse_of_cleared
    (site : Site)
    {debugger : Debugger κ}
    (cleared : debugger.pidAttached = 0)
    (linked : debugger.client.transport.isSome = true) :
    let program := debugger.debuggeeStartCmd.head?.getD []
    debugger.onInitializeResponse site true =
      { debugger with
        debuggeeStartCmd := []
        client :=
          (debugger.client.launch site.toolkit program
            debugger.debuggeeStartCmd.tail (site.exeBasePath program)
            site.debuggeeEnv).1
        state := debugger.state.addState .running } := by
  let program := debugger.debuggeeStartCmd.head?.getD []
  let moved := { debugger with debuggeeStartCmd := [] }
  have stillLinked : moved.client.transport.isSome = true := linked
  have sent :=
    (send_perform site.toolkit
      (.launch program debugger.debuggeeStartCmd.tail
        (site.exeBasePath program) site.debuggeeEnv) stillLinked).1
  have detached : ¬ (true = false ∨ debugger.pidAttached ≠ 0) := by
    simp [cleared]
  unfold Debugger.onInitializeResponse
  rw [if_neg detached]
  exact congrArg
    (fun launched : Debugger κ =>
      { launched with state := launched.state.addState .running }) sent

/-- Without a process the initialize response is answered with a launch. -/
theorem answersWithLaunch_of_cleared
    (site : Site)
    {debugger : Debugger κ}
    (cleared : debugger.pidAttached = 0)
    (ready : Ready debugger) :
    AnswersWithLaunch site debugger := by
  intro json reply success linked asked
  have waiting : debugger.client.handshakeState ≠ .completed := by
    rw [asked]
    nofun
  have completes := onMessage_completes site.toolkit json waiting reply
  let answered := received site json debugger
  have result :
      debugger.onMessage site json =
        answered.onInitializeResponse site true := by
    show List.foldl _ _ (onMessage site.toolkit json debugger.client).2 = _
    rw [congrArg Prod.snd completes, List.foldl_append, ← success]
    unfold Client.logOutput
    split <;> rfl
  have stillLinked : answered.client.transport.isSome = true :=
    (congrArg Option.isSome
      (transport_onMessage site.toolkit json debugger.client)).trans linked
  have stillCleared : answered.pidAttached = 0 := cleared
  have launched :=
    onInitializeResponse_of_cleared site stillCleared stillLinked
  rw [result, launched]
  refine ⟨_, _, _, _, _, sentRequests_linked site.toolkit _ stillLinked, rfl,
    rfl, ?_⟩
  exact (isRunning_addState debugger.state).trans (ready asked)

/--
In every run each session that attaches takes its process with it, so that
the next one launches its debuggee, if and only if such a session ends only
by a detach or a rejected attach request.
-/
theorem attach_ended_iff
    (site : Site)
    (labels : List (Label κ)) :
    Always (trackedStep site) (AttachEnded site) (Tracked.new κ) labels ↔
      Along (trackedStep site) (EndsReleased site) (Tracked.new κ)
        labels := by
  have enabled :
      ∀ (tracked : Tracked κ) label,
        ∃ next, trackedStep site tracked label = some next := by
    intro tracked label
    cases label <;> exact ⟨_, rfl⟩
  exact always_iff_along enabled
    (fun _ _ _ kept released taken => kept_step kept released taken)
    (fun _ kept =>
      ⟨kept.cleared, fun ended =>
        answersWithLaunch_of_cleared site (kept.cleared ended) kept.ready⟩)
    (fun _ _ _ _ unreleased taken => not_ended_step unreleased taken)
    kept_new labels

/-- The process the user attached to ends, and the project is debugged. -/
def attachThenLaunch : List (Label Unit) :=
  [.attachToProcess "1234".toList plainHost,
    .message (responseTree .initialize_ 1 true []),
    .message (responseTree .attach 2 true []),
    .message
      (.object
        [("type".toList, .string "event".toList),
          ("event".toList, .string "terminated".toList)]),
    .startDebugger
      { plainHost with
        targetFound := true
        debuggee := some "a.out".toList },
    .message (responseTree .initialize_ 1 true [])]

/-- The second session is never launched: it still has process 1234. -/
theorem attachThenLaunch_waits :
    (run (trackedStep plainSite) (Tracked.new Unit) attachThenLaunch).map
        (fun tracked =>
          (tracked.attached, tracked.debugger.pidAttached,
            tracked.debugger.state.isRunning,
            tracked.debugger.client.requestSequence)) =
      some (false, 1234, false, 1) ∧
      ¬ Always (trackedStep plainSite) (AttachEnded plainSite)
        (Tracked.new Unit) attachThenLaunch := by
  refine ⟨rfl, ?_⟩
  intro always
  have ended := always attachThenLaunch [] _ (List.append_nil _) rfl
  cases ended.cleared rfl

end DebuggerDap.Plugin.AttachMode
