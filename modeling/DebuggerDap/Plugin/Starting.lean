import DebuggerDap.Plugin.Sessions

/-!
# What a start and a message do to the debugger

`StartDebugger` gives up before it has changed anything, or comes to
`LaunchDebugger`, which resets the session and connects to the adapter if it
can.  A message leads to at most one event besides the log.  Nothing but a
start asks for a handshake.
-/

namespace DebuggerDap.Plugin.Starting

open DebuggerDap.Text.Strings
open DebuggerDap.Protocol.JsonTree
open DebuggerDap.Protocol.Messages
open DebuggerDap.DapClient.State
open DebuggerDap.DapClient.OnMessage
open DebuggerDap.DapClient.Replies (InitializeReply)
open DebuggerDap.DapClient.History
open DebuggerDap.Plugin.DebuggerState
open DebuggerDap.Plugin.Lifecycle
open DebuggerDap.Plugin.Sessions (not_any_lost)

variable {κ : Type*}

/-- How many sessions were reset so far. -/
def resets (debugger : Debugger κ) : Nat :=
  debugger.actions.count .sessionReset

/-! ## What the functions leave alone -/

section Functions

variable {debugger : Debugger κ}

@[simp]
theorem pidAttached_killAdapter :
    debugger.killAdapter.pidAttached = debugger.pidAttached := by
  unfold Debugger.killAdapter
  split <;> rfl

@[simp]
theorem client_killAdapter :
    debugger.killAdapter.client = debugger.client := by
  unfold Debugger.killAdapter
  split <;> rfl

@[simp]
theorem state_killAdapter :
    debugger.killAdapter.state = debugger.state := by
  unfold Debugger.killAdapter
  split <;> rfl

@[simp]
theorem resets_killAdapter :
    resets debugger.killAdapter = resets debugger := by
  unfold Debugger.killAdapter resets
  split <;> simp

@[simp]
theorem pidAttached_resetData :
    debugger.resetData.pidAttached = debugger.pidAttached := by
  simp [Debugger.resetData]

@[simp]
theorem client_resetData :
    debugger.resetData.client = debugger.client.reset := by
  simp [Debugger.resetData]

@[simp]
theorem resets_resetData :
    resets debugger.resetData = resets debugger + 1 := by
  let cleared :=
    { debugger with
      state := debugger.state.removeState .connected
      client := debugger.client.reset }
  have killed : resets cleared.killAdapter = resets debugger :=
    resets_killAdapter
  show List.count _ (cleared.killAdapter.actions ++ [.sessionReset]) = _
  rw [List.count_append]
  exact congrArg (· + 1) killed

@[simp]
theorem pidAttached_onConnectionError :
    debugger.onConnectionError.pidAttached = debugger.pidAttached := by
  unfold Debugger.onConnectionError
  split
  · rfl
  · exact pidAttached_resetData

@[simp]
theorem pidAttached_send
    (operation : Client κ → Client κ × List (Output κ)) :
    (debugger.send operation).pidAttached = debugger.pidAttached := by
  unfold Debugger.send
  dsimp only
  split
  · exact pidAttached_onConnectionError
  · rfl

@[simp]
theorem pidAttached_launchDAPDebugger (host : Host) :
    (debugger.launchDAPDebugger host).pidAttached =
      debugger.pidAttached := by
  unfold Debugger.launchDAPDebugger
  split <;> rfl

@[simp]
theorem resets_launchDAPDebugger (host : Host) :
    resets (debugger.launchDAPDebugger host) = resets debugger := by
  unfold Debugger.launchDAPDebugger resets
  split <;> simp

/-- A call that loses no connection changes nothing but the client. -/
theorem send_of_logged
    {operation : Client κ → Client κ × List (Output κ)}
    (logged :
      ∀ event ∈ (operation debugger.client).2.filterMap
        Transition.eventOf, event = .logEvent) :
    debugger.send operation =
      { debugger with client := (operation debugger.client).1 } := by
  unfold Debugger.send
  dsimp only
  rw [if_neg]
  rw [not_any_lost logged]
  exact Bool.false_ne_true

/-- A call over a transport changes nothing but the client. -/
theorem send_perform
    (toolkit : Toolkit)
    (call : ApiCall κ)
    (linked : debugger.client.transport.isSome = true) :
    debugger.send (Client.perform toolkit call) =
        { debugger with
          client := (debugger.client.perform toolkit call).1 } ∧
      (debugger.send (Client.perform toolkit call)).client.transport =
        debugger.client.transport := by
  rcases perform_kept toolkit call linked with ⟨kept, transport⟩
  have sent := send_of_logged kept.events
  rw [sent]
  exact ⟨rfl, transport⟩

end Functions

/-- A debugger that has asked for the handshake is connected. -/
def Ready (debugger : Debugger κ) : Prop :=
  debugger.client.handshakeState = .inProgress →
    debugger.state.isConnected = true

/-! ## Starting the adapter -/

/-- `StartDebugger` for an attached process comes to `LaunchDebugger`. -/
def ReachesLaunch (host : Host) : Prop :=
  host.compilerFound = true ∧ host.executableExists = true ∧
    ∃ port, host.port = .ok port

/-- `LaunchDebugger` connects to the adapter. -/
def Connects (host : Host) : Prop :=
  host.dapExecutable ≠ [] ∧ host.connects = true

section Starting

variable (site : Site)
variable (host : Host)
variable {debugger : Debugger κ}

/-- The client that has asked the adapter it is connected to. -/
theorem initialize_linked
    (arguments : InitializeRequestArguments)
    (client : Client κ) :
    let asked :=
      (client.setTransport 0).initialize_ site.toolkit (some arguments)
    asked.1.transport.isSome = true ∧
      ∀ event ∈ asked.2.filterMap Transition.eventOf,
        event = .logEvent := by
  refine ⟨rfl, ?_⟩
  exact events_logOutput (client.setTransport 0).nextSequence _

/-- What `LaunchDebugger` has done when it returns. -/
structure Launched
    (debugger : Debugger κ)
    (result : Debugger κ × Int) : Prop where
  pidAttached : result.1.pidAttached = debugger.pidAttached
  reset : resets debugger < resets result.1
  code : result.2 = 0 ↔ Connects host
  linked : result.2 = 0 → result.1.client.transport.isSome = true
  ready : Ready result.1

theorem isConnected_addConnected (state : DebuggerState) :
    (state.addState .connected).isConnected = true := by
  rcases state with ⟨notConnected, connected, stopped, running⟩
  cases running <;> cases stopped <;> rfl

/-- A start that fails after the reset. -/
theorem launched_of_failed
    {failed : Debugger κ}
    (pidAttached : failed.pidAttached = debugger.pidAttached)
    (reset : resets debugger < resets failed)
    (client : failed.client = debugger.client.reset)
    (apart : ¬ Connects host) :
    Launched host debugger (failed, 1) where
  pidAttached := pidAttached
  reset := reset
  code := iff_of_false (show (1 : Int) ≠ 0 by decide) apart
  linked := fun zero => absurd zero (show (1 : Int) ≠ 0 by decide)
  ready := by
    intro asked
    rw [client] at asked
    cases asked

/-- The adapter is started, or the debugger is as after the reset. -/
theorem launchDAPDebugger_kept (started : Bool) :
    let launched :=
      if started then debugger.launchDAPDebugger host else debugger
    launched.pidAttached = debugger.pidAttached ∧
      resets launched = resets debugger ∧
        launched.client = debugger.client := by
  cases started with
  | false => exact ⟨rfl, rfl, rfl⟩
  | true =>
      refine ⟨pidAttached_launchDAPDebugger host,
        resets_launchDAPDebugger host, ?_⟩
      show (debugger.launchDAPDebugger host).client = debugger.client
      unfold Debugger.launchDAPDebugger
      split <;> rfl

/-- A start that connects to the adapter and asks for the handshake. -/
theorem launched_of_connected
    (launched : Debugger κ)
    (command : List WxString)
    (pidAttached : launched.pidAttached = debugger.pidAttached)
    (reset : resets debugger < resets launched)
    (connects : Connects host) :
    Launched host debugger
      ({ launched with
          state := launched.state.addState .connected
          client := launched.client.setTransport 0
          debuggeeStartCmd := command }.send fun client =>
        client.initialize_ site.toolkit (some Debugger.initArgs), 0) := by
  rcases initialize_linked site Debugger.initArgs launched.client with
    ⟨linked, logged⟩
  rw [send_of_logged logged]
  exact
    { pidAttached := pidAttached
      reset := reset
      code := iff_of_true rfl connects
      linked := fun _ => linked
      ready := fun _ => isConnected_addConnected launched.state }

theorem launched_launchDebugger
    {port : WxString}
    (chosen : port ≠ []) :
    Launched host debugger (debugger.launchDebugger site host port) := by
  have fresh : resets debugger < resets debugger.resetData := by
    rw [resets_resetData]
    exact Nat.lt_succ_self _
  rcases @launchDAPDebugger_kept κ host debugger.resetData
      host.runDapServer with ⟨pidAttached, reset, client⟩
  unfold Debugger.launchDebugger
  dsimp only
  rw [if_neg chosen]
  split
  · next missing =>
      exact launched_of_failed host pidAttached_resetData fresh
        client_resetData
        (fun connects => connects.1 missing)
  · next present =>
      by_cases apart : host.connects = false
      · rw [if_pos apart]
        refine launched_of_failed host ?_ ?_ ?_ ?_
        · rw [pidAttached_killAdapter, pidAttached, pidAttached_resetData]
        · rw [resets_killAdapter, reset]
          exact fresh
        · rw [client_killAdapter, client, client_resetData]
        · exact fun both =>
            Bool.false_ne_true (apart.symm.trans both.2)
      · rw [if_neg apart]
        refine launched_of_connected site host _ _ ?_ ?_ ?_
        · rw [pidAttached, pidAttached_resetData]
        · rw [reset]
          exact fresh
        · exact ⟨present, Bool.eq_true_of_not_eq_false apart⟩

/-- A port that is found has digits, and without one the code is not 0. -/
theorem port_cases :
    (∃ port, host.port = .ok port ∧ port ≠ []) ∨
      ∃ code, host.port = .error code ∧ code ≠ 0 := by
  unfold Host.port
  split
  · next configured => exact Or.inl ⟨_, rfl, configured⟩
  · split
    · exact Or.inr ⟨7, rfl, by decide⟩
    · split
      · exact Or.inl ⟨_, rfl, List.ne_nil_of_length_pos
          Nat.length_toDigits_pos⟩
      · exact Or.inr ⟨6, rfl, by decide⟩

/-- `StartDebugger` gives up before it changes anything, or launches. -/
theorem startDebugger_cases (debugger : Debugger κ) :
    ((debugger.startDebugger site host).1 = debugger ∧
        (debugger.startDebugger site host).2 ≠ 0 ∧
          (debugger.pidAttached ≠ 0 → ¬ ReachesLaunch host)) ∨
      ReachesLaunch host ∧
        Launched host debugger (debugger.startDebugger site host) := by
  unfold Debugger.startDebugger
  split
  · next missing =>
      refine Or.inl ⟨rfl, by simp, fun _ reaches => ?_⟩
      exact Bool.false_ne_true (missing.symm.trans reaches.1)
  · next compiler =>
      split
      · next missing =>
          exact Or.inl ⟨rfl, by simp, fun other => absurd missing.2 other⟩
      · split
        · next missing =>
            refine Or.inl ⟨rfl, by simp, fun _ reaches => ?_⟩
            exact Bool.false_ne_true (missing.symm.trans reaches.2.1)
        · next executable =>
            rcases port_cases host with
              ⟨port, found, chosen⟩ | ⟨code, failed, nonzero⟩
            · rw [found]
              dsimp only
              split
              · next missing =>
                  exact Or.inl
                    ⟨rfl, by simp, fun other => absurd missing.1 other⟩
              · refine Or.inr ⟨⟨?_, ?_, port, found⟩,
                  launched_launchDebugger site host chosen⟩
                · exact Bool.eq_true_of_not_eq_false compiler
                · exact Bool.eq_true_of_not_eq_false executable
            · rw [failed]
              refine Or.inl ⟨rfl, nonzero, fun _ reaches => ?_⟩
              rcases reaches.2.2 with ⟨port, found⟩
              rw [failed] at found
              cases found

end Starting

/-! ## Handling a message -/

section Messages

variable (site : Site)
variable (json : Json)
variable (debugger : Debugger κ)

/-- The debugger when the client has handled a message. -/
def received : Debugger κ :=
  { debugger with
    client := (onMessage site.toolkit json debugger.client).1 }

/-- Besides the log at most one event is dispatched and handled. -/
theorem onMessage_handled :
    (debugger.onMessage site json = received site json debugger ∧
        ∀ event,
          Output.event event ∈
              (onMessage site.toolkit json debugger.client).2 →
            event.message = .logEvent) ∨
      ∃ event,
        Output.event event ∈
            (onMessage site.toolkit json debugger.client).2 ∧
          debugger.onMessage site json =
              (received site json debugger).onDapEvent site event ∧
            ∀ other,
              Output.event other ∈
                  (onMessage site.toolkit json debugger.client).2 →
                other.message = .logEvent ∨ other = event := by
  rcases onMessage_outputs site.toolkit json debugger.client with
    ⟨handled, outputs, single⟩
  have logged :
      ∀ event,
        Output.event event ∈
            debugger.client.logOutput
              ("<-- ".toList ++ site.toolkit.printUnformatted json) →
          event.message = .logEvent := by
    intro event member
    unfold Client.logOutput at member
    split at member
    · cases List.mem_singleton.mp member
      rfl
    · exact absurd member List.not_mem_nil
  have result :
      debugger.onMessage site json =
        handled.foldl (Debugger.onOutput site)
          (received site json debugger) := by
    show List.foldl _ _ (onMessage site.toolkit json debugger.client).2 = _
    rw [outputs, List.foldl_append]
    unfold Client.logOutput
    split <;> rfl
  rw [result, outputs]
  rcases handled with _ | ⟨output, _ | ⟨second, handled⟩⟩
  · refine Or.inl ⟨rfl, fun event member => logged event ?_⟩
    rw [List.append_nil] at member
    exact member
  · cases output with
    | event event =>
        refine Or.inr ⟨event, List.mem_append_right _ List.mem_cons_self,
          rfl, fun other member => ?_⟩
        rcases List.mem_append.mp member with early | late
        · exact Or.inl (logged other early)
        · cases List.mem_singleton.mp late
          exact Or.inr rfl
    | _ =>
        refine Or.inl ⟨rfl, fun event member => ?_⟩
        rcases List.mem_append.mp member with early | late
        · exact logged event early
        · cases List.mem_singleton.mp late
  · simp at single

end Messages

/-! ## The handshake of a new session -/

section Asking

variable {debugger : Debugger κ}

/-- No initialize response is under way. -/
def Unasked (debugger : Debugger κ) : Prop :=
  debugger.client.handshakeState ≠ .inProgress

theorem Unasked.ready (unasked : Unasked debugger) : Ready debugger :=
  fun asked => absurd asked unasked

theorem unasked_resetData : Unasked debugger.resetData := by
  unfold Unasked
  rw [client_resetData]
  nofun

theorem unasked_onConnectionError (unasked : Unasked debugger) :
    Unasked debugger.onConnectionError := by
  unfold Debugger.onConnectionError
  split
  · exact unasked
  · exact unasked_resetData

/-- A client that lost its connection has not asked. -/
theorem unasked_send_of_lost
    {operation : Client κ → Client κ × List (Output κ)}
    (lost : Lost (operation debugger.client)) :
    Unasked (debugger.send operation) := by
  have unasked :
      Unasked { debugger with client := (operation debugger.client).1 } := by
    intro asked
    have waiting := lost.handshake.symm.trans asked
    cases waiting
  unfold Debugger.send
  dsimp only
  split
  · exact unasked_onConnectionError unasked
  · exact unasked

/-- A call of the client does not ask for a handshake. -/
theorem ready_send
    (ready : Ready debugger)
    (toolkit : Toolkit)
    (call : ApiCall κ) :
    Ready (debugger.send (Client.perform toolkit call)) := by
  rcases perform_effect toolkit call debugger.client with kept | lost
  · rw [send_of_logged kept.events]
    intro asked
    exact ready (kept.handshake.symm.trans asked)
  · exact (unasked_send_of_lost lost).ready

theorem unasked_send
    (unasked : Unasked debugger)
    (toolkit : Toolkit)
    (call : ApiCall κ) :
    Unasked (debugger.send (Client.perform toolkit call)) := by
  rcases perform_effect toolkit call debugger.client with kept | lost
  · rw [send_of_logged kept.events]
    intro asked
    exact unasked (kept.handshake.symm.trans asked)
  · exact unasked_send_of_lost lost

/-- No handler asks for a handshake. -/
theorem unasked_onDapEvent
    (site : Site)
    (event : DapEvent)
    (unasked : Unasked debugger) :
    Unasked (debugger.onDapEvent site event) := by
  have started :
      ∀ success, Unasked (debugger.onStartResponse success) := by
    intro success
    unfold Debugger.onStartResponse
    split
    · exact unasked
    · exact unasked_resetData
  unfold Debugger.onDapEvent
  dsimp only
  split
  · exact unasked_onConnectionError unasked
  · unfold Debugger.onInitializeResponse
    split
    · exact unasked
    · have moved : Unasked { debugger with debuggeeStartCmd := [] } :=
        unasked
      exact unasked_send moved site.toolkit (.launch ..)
  · exact started _
  · exact started _
  · unfold Debugger.onAttachToProcessResponse
    split <;> exact unasked
  · exact unasked_send unasked site.toolkit .configurationDone
  · exact unasked
  · exact unasked
  · exact unasked_resetData
  · exact unasked

/-- A message is answered after the handshake, or ignored before it. -/
theorem ready_onMessage
    (site : Site)
    (json : Json)
    (ready : Ready debugger) :
    Ready (debugger.onMessage site json) := by
  by_cases answered :
      debugger.client.handshakeState = .completed ∨ InitializeReply json
  · have unasked : Unasked (received site json debugger) := by
      have handshake := message_handshake site.toolkit json debugger.client
      have completed :
          (onMessage site.toolkit json debugger.client).1.handshakeState =
            .completed := by
        by_contra waiting
        rcases handshake.mp waiting with ⟨other, earlier⟩
        exact answered.elim earlier other
      intro asked
      have both := completed.symm.trans asked
      cases both
    rcases onMessage_handled site json debugger with
      ⟨result, -⟩ | ⟨event, -, result, -⟩
    · rw [result]
      exact unasked.ready
    · rw [result]
      exact (unasked_onDapEvent site event unasked).ready
  · rcases not_or.mp answered with ⟨waiting, notReply⟩
    have ignored := onMessage_ignored site.toolkit json waiting notReply
    have same : debugger.onMessage site json = debugger := by
      show List.foldl _ _ (onMessage site.toolkit json debugger.client).2 = _
      rw [ignored]
      unfold Client.logOutput
      split <;> rfl
    rw [same]
    exact ready

theorem isConnected_addStopped (state : DebuggerState) :
    (state.addState .stopped).isConnected = state.isConnected := by
  rcases state with ⟨notConnected, connected, stopped, running⟩
  cases connected <;> cases running <;> rfl

theorem ready_startDebugger
    (site : Site)
    (host : Host)
    (ready : Ready debugger) :
    Ready (debugger.startDebugger site host).1 := by
  rcases startDebugger_cases site host debugger with
    ⟨same, -⟩ | ⟨-, launched⟩
  · rw [same]
    exact ready
  · exact launched.ready

theorem ready_step
    {site : Site}
    {label : Label κ}
    {after : Debugger κ}
    (ready : Ready debugger)
    (taken : step site debugger label = some after) :
    Ready after := by
  cases label <;> cases taken
  case startDebugger host => exact ready_startDebugger site host ready
  case attachToProcess pid host =>
    unfold Debugger.attachToProcess
    split
    · exact ready
    · next number parsed =>
        have attaching : Ready { debugger with pidAttached := number } :=
          ready
        exact ready_send (ready_startDebugger site host attaching)
          site.toolkit (.attach number)
  case detachFromProcess =>
    unfold Debugger.detachFromProcess
    split
    · exact ready
    · have sent := ready_send ready site.toolkit (.disconnect false false)
      exact sent
  case stop =>
    unfold Debugger.stop
    split
    · exact ready
    · exact unasked_resetData.ready
  case message json => exact ready_onMessage site json ready
  case connectionError =>
    have lost := lost_onConnectionError debugger.client
    exact (unasked_send_of_lost lost).ready
  case call call => exact ready_send ready site.toolkit call
  case projectOpened =>
    intro asked
    exact (isConnected_addStopped debugger.state).trans (ready asked)
  case release => exact unasked_resetData.ready
  case destroy =>
    unfold Ready Debugger.destroy
    rw [client_killAdapter, state_killAdapter]
    exact ready

end Asking

end DebuggerDap.Plugin.Starting
