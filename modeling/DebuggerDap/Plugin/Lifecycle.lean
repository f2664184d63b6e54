import DebuggerDap.DapClient.OnMessage
import DebuggerDap.Library.Run
import DebuggerDap.Plugin.DebuggerState

/-!
# Launching, attaching and the adapter process

`LaunchDAPDebugger` starts the adapter and keeps its process in `m_dapPid`;
resetting a session kills that process.  `AttachToProcess` keeps the process
of the user in `m_pid_attached`.

A debugger works on its client, so a message of the adapter is handed to
`OnMessage` and the dispatched event to the handler of the plugin.  A request
without a transport is a lost connection.  What the file system, the
configuration, the operating system and the user answer during a start is
given by a `Host`.  An action log says which processes are started and killed
and where sessions are reset.
-/

namespace DebuggerDap.Plugin.Lifecycle

open DebuggerDap.Text.Strings
open DebuggerDap.Protocol.JsonTree
open DebuggerDap.Protocol.Messages
open DebuggerDap.DapClient.State
open DebuggerDap.DapClient.OnMessage
open DebuggerDap.Library.Run
open DebuggerDap.Plugin.DebuggerState

variable {κ : Type*}

/-- Library functions and settings that decide nothing here. -/
structure Site where
  toolkit : Toolkit
  /-- `wxString::ToLong`. -/
  toLong : WxString → Option Int
  /-- The base path `OnInitializeResponse` computes for a program. -/
  exeBasePath : WxString → WxString
  debuggeeEnv : Environment

/-- What one call of `StartDebugger` finds. -/
structure Host where
  compilerFound : Bool
  targetFound : Bool
  dapExecutable : WxString
  executableExists : Bool
  configuredPort : WxString
  /-- The user wants an available port to be searched. -/
  searchAccepted : Bool
  availablePort : Int
  debuggee : Option WxString
  executionParameters : List WxString
  runDapServer : Bool
  portArgFound : Bool
  /-- The result of `wxExecute`. -/
  executed : Int
  connects : Bool

/-- The port to use, or the code `StartDebugger` returns without one. -/
def Host.port (host : Host) : Except Int WxString :=
  if host.configuredPort ≠ [] then .ok host.configuredPort
  else if host.searchAccepted = false then .error 7
  else if 0 < host.availablePort then
    .ok (Nat.toDigits 10 host.availablePort.toNat)
  else .error 6

/-- What the plugin does to processes; a session reset is marked at its end. -/
inductive Action where
  | execute (pid : Int)
  | kill (pid : Int)
  | sessionReset
  deriving DecidableEq, Repr

/-- The members of `Debugger_DAP` the life of a session depends on. -/
structure Debugger (κ : Type*) where
  client : Client κ
  dapPid : Int
  pidAttached : Int
  state : DebuggerState
  debuggeeStartCmd : List WxString
  actions : List Action

namespace Debugger

/-- The constructor. -/
def new (κ : Type*) : Debugger κ where
  client := Client.new κ
  dapPid := 0
  pidAttached := 0
  state := DebuggerState.initial.removeState .connected
  debuggeeStartCmd := []
  actions := []

/-! ## Reset and lost connections -/

/-- `if (m_dapPid != 0)`: kill the process with its children. -/
def killAdapter (debugger : Debugger κ) : Debugger κ :=
  if debugger.dapPid ≠ 0 then
    { debugger with
      dapPid := 0
      actions := debugger.actions ++ [.kill debugger.dapPid] }
  else debugger

/-- `DAPDebuggerResetData`. -/
def resetData (debugger : Debugger κ) : Debugger κ :=
  let killed :=
    { debugger with
      state := debugger.state.removeState .connected
      client := debugger.client.reset }.killAdapter
  { killed with actions := killed.actions ++ [.sessionReset] }

def onConnectionError (debugger : Debugger κ) : Debugger κ :=
  if debugger.state.isRunning = false then debugger else debugger.resetData

def isLostConnection : Output κ → Bool
  | .event ⟨.lostConnection, _, _⟩ => true
  | _ => false

/--
A call of the client.  When it loses the connection the plugin is told, and
the client is reset, which after the plugin's own reset changes nothing.
-/
def send
    (operation : Client κ → Client κ × List (Output κ))
    (debugger : Debugger κ) : Debugger κ :=
  let result := operation debugger.client
  let sent := { debugger with client := result.1 }
  if result.2.any isLostConnection then sent.onConnectionError else sent

/-! ## Starting -/

def launchDAPDebugger (host : Host) (debugger : Debugger κ) : Debugger κ :=
  if host.portArgFound = false then debugger
  else
    { debugger with
      dapPid := host.executed
      actions := debugger.actions ++ [.execute host.executed] }

def initArgs : InitializeRequestArguments where
  linesStartAt1 := true
  clientID := "CB_DAP_Plugin".toList
  clientName := "CB_DAP_Plugin".toList
  supportsRunInTerminalRequest := true

/-- `LaunchDebugger`; a transport that connects gets the number 0. -/
def launchDebugger
    (site : Site)
    (host : Host)
    (dapPortNumber : WxString)
    (debugger : Debugger κ) : Debugger κ × Int :=
  let fresh := debugger.resetData
  if host.dapExecutable = [] then (fresh, 1)
  else if dapPortNumber = [] then (fresh, 2)
  else
    let launched :=
      if host.runDapServer then fresh.launchDAPDebugger host else fresh
    if host.connects = false then (launched.killAdapter, 1)
    else
      let arguments :=
        if launched.pidAttached = 0 then host.executionParameters else []
      let connected :=
        { launched with
          state := launched.state.addState .connected
          client := launched.client.setTransport 0
          debuggeeStartCmd := host.debuggee.getD [] :: arguments }
      (connected.send fun client =>
        client.initialize_ site.toolkit (some initArgs), 0)

def startDebugger
    (site : Site)
    (host : Host)
    (debugger : Debugger κ) : Debugger κ × Int :=
  if host.compilerFound = false then (debugger, 2)
  else if host.targetFound = false ∧ debugger.pidAttached = 0 then
    (debugger, 3)
  else if host.executableExists = false then (debugger, 4)
  else
    match host.port with
    | .error code => (debugger, code)
    | .ok dapPortNumber =>
        if debugger.pidAttached = 0 ∧ host.debuggee.isNone = true then
          (debugger, 6)
        else debugger.launchDebugger site host dapPortNumber

/-! ## Processes of the user -/

/-- `AttachToProcess`; the result of `StartDebugger` is not looked at. -/
def attachToProcess
    (site : Site)
    (host : Host)
    (pid : WxString)
    (debugger : Debugger κ) : Debugger κ :=
  match site.toLong pid with
  | none => debugger
  | some number =>
      ({ debugger with pidAttached := number }.startDebugger site host).1
        |>.send fun client => client.attach site.toolkit number

def isAttachedToProcess (debugger : Debugger κ) : Bool :=
  debugger.pidAttached ≠ 0

def detachFromProcess (site : Site) (debugger : Debugger κ) : Debugger κ :=
  if debugger.isAttachedToProcess = false ∨
      debugger.state.isRunning = false then debugger
  else
    { debugger.send fun client =>
        client.disconnect site.toolkit false false with
      pidAttached := 0 }

def onAttachToProcessResponse
    (success : Bool)
    (debugger : Debugger κ) : Debugger κ :=
  if success then
    { debugger with
      state := (debugger.state.addState .running).addState .stopped
      dapPid := debugger.pidAttached }
  else { debugger with pidAttached := 0 }

/-! ## Events of the client -/

def onInitializeResponse
    (site : Site)
    (success : Bool)
    (debugger : Debugger κ) : Debugger κ :=
  if success = false ∨ debugger.pidAttached ≠ 0 then debugger
  else
    -- The first response moves the command away.
    let program := debugger.debuggeeStartCmd.head?.getD []
    let launched :=
      { debugger with debuggeeStartCmd := [] }.send fun client =>
        client.launch site.toolkit program debugger.debuggeeStartCmd.tail
          (site.exeBasePath program) site.debuggeeEnv
    { launched with state := launched.state.addState .running }

/-- `OnLaunchResponse` and `OnConfigurationDoneResponse`. -/
def onStartResponse (success : Bool) (debugger : Debugger κ) : Debugger κ :=
  if success then debugger else debugger.resetData

/--
The handlers bound to the events of the client.  Those left out only show
data and send requests, which are calls of their own.
-/
def onDapEvent
    (site : Site)
    (event : DapEvent)
    (debugger : Debugger κ) : Debugger κ :=
  let success := (event.json.map messageSuccess).getD false
  match event.message with
  | .lostConnection => debugger.onConnectionError
  | .initializeResponse => debugger.onInitializeResponse site success
  | .launchResponse => debugger.onStartResponse success
  | .configurationDoneResponse => debugger.onStartResponse success
  | .attachResponse _ => debugger.onAttachToProcessResponse success
  | .initializedEvent =>
      debugger.send fun client => client.configurationDone site.toolkit
  | .stoppedEvent _ =>
      { debugger with state := debugger.state.addState .stopped }
  | .exitedEvent =>
      { debugger with state := debugger.state.removeState .connected }
  | .terminatedEvent => debugger.resetData
  | _ => debugger

def onOutput
    (site : Site)
    (debugger : Debugger κ)
    (output : Output κ) : Debugger κ :=
  match output with
  | .event event => debugger.onDapEvent site event
  | _ => debugger

/-- A message of the adapter and the handlers of its events. -/
def onMessage
    (site : Site)
    (json : Json)
    (debugger : Debugger κ) : Debugger κ :=
  let result :=
    DapClient.OnMessage.onMessage site.toolkit json debugger.client
  result.2.foldl (onOutput site) { debugger with client := result.1 }

/-! ## Stopping -/

def stop (site : Site) (debugger : Debugger κ) : Debugger κ :=
  if debugger.state.isRunning = false then debugger
  else
    (debugger.send fun client =>
      client.disconnect site.toolkit true false).resetData

/-- `OnReleaseReal`, when the plugin is unloaded. -/
def onReleaseReal (debugger : Debugger κ) : Debugger κ :=
  debugger.resetData

/-- The destructor. -/
def destroy (debugger : Debugger κ) : Debugger κ :=
  debugger.killAdapter

end Debugger

/-! ## Steps -/

inductive Label (κ : Type*) where
  | startDebugger (host : Host)
  | attachToProcess (pid : WxString) (host : Host)
  | detachFromProcess
  | stop
  | message (json : Json)
  | connectionError
  /-- A request one of the views sends. -/
  | call (call : ApiCall κ)
  | projectOpened
  | release
  | destroy

def step
    (site : Site)
    (debugger : Debugger κ)
    (label : Label κ) : Option (Debugger κ) :=
  match label with
  | .startDebugger host => some (debugger.startDebugger site host).1
  | .attachToProcess pid host =>
      some (debugger.attachToProcess site host pid)
  | .detachFromProcess => some (debugger.detachFromProcess site)
  | .stop => some (debugger.stop site)
  | .message json => some (debugger.onMessage site json)
  | .connectionError => some (debugger.send Client.onConnectionError)
  | .call call => some (debugger.send (Client.perform site.toolkit call))
  | .projectOpened =>
      some { debugger with state := debugger.state.addState .stopped }
  | .release => some debugger.onReleaseReal
  | .destroy => some debugger.destroy

/-! ## Which processes may be killed -/

/-- The processes started and not yet killed. -/
def live (adapters : List Int) : List Action → List Int
  | [] => adapters
  | .execute pid :: actions =>
      live (if pid = 0 then adapters else adapters ++ [pid]) actions
  | .kill pid :: actions => live (adapters.erase pid) actions
  | .sessionReset :: actions => live adapters actions

/--
Every process that is killed was started and not yet killed, and a session
reset leaves none behind.
-/
def OnlyAdaptersKilled (adapters : List Int) : List Action → Prop
  | [] => True
  | .execute pid :: actions =>
      OnlyAdaptersKilled
        (if pid = 0 then adapters else adapters ++ [pid]) actions
  | .kill pid :: actions =>
      pid ∈ adapters ∧ OnlyAdaptersKilled (adapters.erase pid) actions
  | .sessionReset :: actions =>
      adapters = [] ∧ OnlyAdaptersKilled adapters actions

theorem live_append
    (adapters : List Int)
    (earlier later : List Action) :
    live adapters (earlier ++ later) =
      live (live adapters earlier) later := by
  induction earlier generalizing adapters with
  | nil => rfl
  | cons action earlier ih =>
      cases action with
      | execute pid => exact ih _
      | kill pid => exact ih _
      | sessionReset => exact ih _

theorem onlyAdaptersKilled_append
    (adapters : List Int)
    (earlier later : List Action) :
    OnlyAdaptersKilled adapters (earlier ++ later) ↔
      OnlyAdaptersKilled adapters earlier ∧
        OnlyAdaptersKilled (live adapters earlier) later := by
  induction earlier generalizing adapters with
  | nil => exact (and_iff_right trivial).symm
  | cons action earlier ih =>
      cases action with
      | execute pid => exact ih _
      | kill pid =>
          show _ ∧ OnlyAdaptersKilled _ (earlier ++ later) ↔ (_ ∧ _) ∧ _
          rw [ih, and_assoc]
          rfl
      | sessionReset =>
          show _ ∧ OnlyAdaptersKilled _ (earlier ++ later) ↔ (_ ∧ _) ∧ _
          rw [ih, and_assoc]
          rfl

/-- The adapter of a session, if there is one. -/
def adapterOf (pid : Int) : List Int :=
  if pid = 0 then [] else [pid]

/-- The actions were lawful, and `m_dapPid` is the one adapter alive. -/
structure Owned (debugger : Debugger κ) : Prop where
  lawful : OnlyAdaptersKilled [] debugger.actions
  live : live [] debugger.actions = adapterOf debugger.dapPid

namespace Owned

variable {debugger : Debugger κ}

theorem of_same
    {next : Debugger κ}
    (owned : Owned debugger)
    (dapPid : next.dapPid = debugger.dapPid)
    (actions : next.actions = debugger.actions) :
    Owned next where
  lawful := by
    rw [actions]
    exact owned.lawful
  live := by
    rw [actions, dapPid]
    exact owned.live

theorem killAdapter (owned : Owned debugger) :
    Owned debugger.killAdapter ∧ debugger.killAdapter.dapPid = 0 := by
  unfold Debugger.killAdapter
  split
  · next alive =>
      have adapter : Lifecycle.live [] debugger.actions = [debugger.dapPid] := by
        rw [owned.live]
        exact if_neg alive
      refine ⟨⟨?_, ?_⟩, rfl⟩
      · refine (onlyAdaptersKilled_append _ _ _).mpr ⟨owned.lawful, ?_⟩
        rw [adapter]
        exact ⟨List.mem_singleton_self _, trivial⟩
      · rw [live_append, adapter]
        simp [Lifecycle.live, adapterOf]
  · next gone => exact ⟨owned, not_not.mp gone⟩

theorem resetData (owned : Owned debugger) :
    Owned debugger.resetData ∧ debugger.resetData.dapPid = 0 := by
  let cleared :=
    { debugger with
      state := debugger.state.removeState .connected
      client := debugger.client.reset }
  have same : Owned cleared := owned.of_same rfl rfl
  rcases same.killAdapter with ⟨killed, none⟩
  have empty : Lifecycle.live [] cleared.killAdapter.actions = [] := by
    rw [killed.live, none]
    rfl
  refine ⟨⟨?_, ?_⟩, none⟩
  · refine (onlyAdaptersKilled_append _ _ _).mpr ⟨killed.lawful, ?_⟩
    exact ⟨empty, trivial⟩
  · show Lifecycle.live [] (cleared.killAdapter.actions ++ [.sessionReset]) =
      adapterOf cleared.killAdapter.dapPid
    rw [live_append, empty, none]
    rfl

theorem onConnectionError (owned : Owned debugger) :
    Owned debugger.onConnectionError := by
  unfold Debugger.onConnectionError
  split
  · exact owned
  · exact owned.resetData.1

theorem send
    (owned : Owned debugger)
    (operation : Client κ → Client κ × List (Output κ)) :
    Owned (debugger.send operation) := by
  have sent :
      Owned { debugger with client := (operation debugger.client).1 } :=
    owned.of_same rfl rfl
  unfold Debugger.send
  dsimp only
  split
  · exact sent.onConnectionError
  · exact sent

/-- The adapter is started when there is none. -/
theorem launchDAPDebugger
    (owned : Owned debugger)
    (none : debugger.dapPid = 0)
    (host : Host) :
    Owned (debugger.launchDAPDebugger host) := by
  unfold Debugger.launchDAPDebugger
  split
  · exact owned
  · have empty : Lifecycle.live [] debugger.actions = [] := by
      rw [owned.live, none]
      rfl
    constructor
    · exact (onlyAdaptersKilled_append _ _ _).mpr ⟨owned.lawful, trivial⟩
    · show Lifecycle.live [] (debugger.actions ++ [.execute host.executed]) =
        adapterOf host.executed
      rw [live_append, empty]
      rfl

theorem launchDebugger
    (owned : Owned debugger)
    (site : Site)
    (host : Host)
    (dapPortNumber : WxString) :
    Owned (debugger.launchDebugger site host dapPortNumber).1 := by
  rcases owned.resetData with ⟨fresh, none⟩
  unfold Debugger.launchDebugger
  dsimp only
  split
  · exact fresh
  · split
    · exact fresh
    · have launched :
          Owned
            (if host.runDapServer then
              debugger.resetData.launchDAPDebugger host
            else debugger.resetData) := by
        split
        · exact fresh.launchDAPDebugger none host
        · exact fresh
      split
      · exact launched.killAdapter.1
      · refine Owned.send ?_ _
        exact launched.of_same rfl rfl

theorem startDebugger
    (owned : Owned debugger)
    (site : Site)
    (host : Host) :
    Owned (debugger.startDebugger site host).1 := by
  unfold Debugger.startDebugger
  split
  · exact owned
  · split
    · exact owned
    · split
      · exact owned
      · split
        · exact owned
        · next dapPortNumber found =>
            split
            · exact owned
            · exact owned.launchDebugger site host dapPortNumber

theorem attachToProcess
    (owned : Owned debugger)
    (site : Site)
    (host : Host)
    (pid : WxString) :
    Owned (debugger.attachToProcess site host pid) := by
  unfold Debugger.attachToProcess
  split
  · exact owned
  · next number parsed =>
      have attaching : Owned { debugger with pidAttached := number } :=
        owned.of_same rfl rfl
      exact (attaching.startDebugger site host).send _

theorem detachFromProcess (owned : Owned debugger) (site : Site) :
    Owned (debugger.detachFromProcess site) := by
  unfold Debugger.detachFromProcess
  split
  · exact owned
  · exact (owned.send _).of_same rfl rfl

theorem stop (owned : Owned debugger) (site : Site) :
    Owned (debugger.stop site) := by
  unfold Debugger.stop
  split
  · exact owned
  · exact (owned.send _).resetData.1

theorem onInitializeResponse
    (owned : Owned debugger)
    (site : Site)
    (success : Bool) :
    Owned (debugger.onInitializeResponse site success) := by
  unfold Debugger.onInitializeResponse
  split
  · exact owned
  · have moved : Owned { debugger with debuggeeStartCmd := [] } :=
      owned.of_same rfl rfl
    exact (moved.send _).of_same rfl rfl

theorem onStartResponse (owned : Owned debugger) (success : Bool) :
    Owned (debugger.onStartResponse success) := by
  unfold Debugger.onStartResponse
  split
  · exact owned
  · exact owned.resetData.1

end Owned

/-! ## Messages -/

/-- A successful attach response. -/
structure AttachSuccess (event : DapEvent) : Prop where
  attach : ∃ jsonDump, event.message = .attachResponse jsonDump
  success : (event.json.map messageSuccess).getD false = true

/-- The handlers keep the adapter, if an attach response does. -/
theorem Owned.onDapEvent
    {debugger : Debugger κ}
    (owned : Owned debugger)
    (site : Site)
    (event : DapEvent)
    (keeps :
      AttachSuccess event → debugger.pidAttached = debugger.dapPid) :
    Owned (debugger.onDapEvent site event) := by
  unfold Debugger.onDapEvent
  dsimp only
  split
  · exact owned.onConnectionError
  · exact owned.onInitializeResponse site _
  · exact owned.onStartResponse _
  · exact owned.onStartResponse _
  · next jsonDump attach =>
      unfold Debugger.onAttachToProcessResponse
      split
      · next success =>
          exact owned.of_same (keeps ⟨⟨jsonDump, attach⟩, success⟩) rfl
      · exact owned.of_same rfl rfl
  · exact owned.send _
  · exact owned.of_same rfl rfl
  · exact owned.of_same rfl rfl
  · exact owned.resetData.1
  · exact owned

/-- The log event is not handled by the plugin, so at most one output is. -/
theorem onMessage_cases
    (site : Site)
    (json : Json)
    (debugger : Debugger κ) :
    ∃ handled : List (Output κ),
      handled.length ≤ 1 ∧
        debugger.onMessage site json =
          handled.foldl (Debugger.onOutput site)
            { debugger with
              client :=
                (onMessage site.toolkit json debugger.client).1 } ∧
          ∀ event, AttachSuccess event →
            (Output.event event ∈ handled ↔
              Output.event event ∈
                (onMessage site.toolkit json debugger.client).2) := by
  rcases onMessage_outputs site.toolkit json debugger.client with
    ⟨handled, outputs, single⟩
  refine ⟨handled, single, ?_, ?_⟩
  · show List.foldl _ _ (onMessage site.toolkit json debugger.client).2 = _
    rw [outputs, List.foldl_append]
    unfold Client.logOutput
    split <;> rfl
  · intro event ⟨⟨jsonDump, attach⟩, _⟩
    rw [outputs, List.mem_append]
    refine ⟨Or.inr, ?_⟩
    rintro (logged | among)
    · unfold Client.logOutput at logged
      split at logged
      · cases List.mem_singleton.mp logged
        cases attach
      · exact absurd logged List.not_mem_nil
    · exact among

/-! ## Steps -/

/--
An arriving message is no successful attach response, or the process the user
attached to is the adapter.
-/
def KeepsAdapter
    (site : Site)
    (debugger : Debugger κ)
    (label : Label κ) : Prop :=
  ∀ json, label = .message json →
    ∀ event,
      Output.event event ∈
          (onMessage site.toolkit json debugger.client).2 →
        AttachSuccess event → debugger.pidAttached = debugger.dapPid

theorem owned_step
    {site : Site}
    {debugger next : Debugger κ}
    {label : Label κ}
    (owned : Owned debugger)
    (keeps : KeepsAdapter site debugger label)
    (taken : step site debugger label = some next) :
    Owned next := by
  cases label with
  | startDebugger host =>
      cases taken
      exact owned.startDebugger site host
  | attachToProcess pid host =>
      cases taken
      exact owned.attachToProcess site host pid
  | detachFromProcess =>
      cases taken
      exact owned.detachFromProcess site
  | stop =>
      cases taken
      exact owned.stop site
  | message json =>
      cases taken
      rcases onMessage_cases site json debugger with
        ⟨handled, single, result, same⟩
      rw [result]
      have received :
          Owned
            { debugger with
              client :=
                (onMessage site.toolkit json debugger.client).1 } :=
        owned.of_same rfl rfl
      rcases handled with _ | ⟨output, _ | ⟨second, handled⟩⟩
      · exact received
      · show Owned (Debugger.onOutput site _ output)
        cases output with
        | event event =>
            refine received.onDapEvent site event fun success => ?_
            exact keeps json rfl event
              ((same event success).mp List.mem_cons_self) success
        | sent request => exact received
        | sentResponse response => exact received
        | evaluated => exact received
        | sourceLoaded => exact received
      · simp at single
  | connectionError =>
      cases taken
      exact owned.send _
  | call call =>
      cases taken
      exact owned.send _
  | projectOpened =>
      cases taken
      exact owned.of_same rfl rfl
  | release =>
      cases taken
      exact owned.resetData.1
  | destroy =>
      cases taken
      exact owned.killAdapter.1

/-- A reset kills the process the user attached to, or leaves the adapter. -/
theorem resetData_unlawful
    {debugger : Debugger κ}
    (owned : Owned debugger)
    (differs : debugger.pidAttached ≠ debugger.dapPid)
    (attached : Debugger κ)
    (dapPid : attached.dapPid = debugger.pidAttached)
    (actions : attached.actions = debugger.actions) :
    ¬ OnlyAdaptersKilled [] attached.resetData.actions := by
  intro lawful
  unfold Debugger.resetData Debugger.killAdapter at lawful
  dsimp only at lawful
  split at lawful
  · next alive =>
      have killed :=
        ((onlyAdaptersKilled_append _ _ _).mp
          ((onlyAdaptersKilled_append _ _ _).mp lawful).1).2
      rw [actions, owned.live, dapPid] at killed
      have member := killed.1
      unfold adapterOf at member
      split at member
      · exact absurd member List.not_mem_nil
      · exact differs (List.mem_singleton.mp member)
  · next gone =>
      have left := ((onlyAdaptersKilled_append _ _ _).mp lawful).2.1
      rw [dapPid] at gone
      rw [actions, owned.live, adapterOf] at left
      split at left
      · next none =>
          apply differs
          rw [none]
          exact not_not.mp gone
      · cases left

/--
Only adapters were killed so far, and only the adapter is killed when the
session is reset next.
-/
structure OnlyAdapters (debugger : Debugger κ) : Prop where
  soFar : OnlyAdaptersKilled [] debugger.actions
  whenReset : OnlyAdaptersKilled [] debugger.resetData.actions

/-- A step that does not keep the adapter makes the next reset unlawful. -/
theorem not_onlyAdapters_step
    {site : Site}
    {debugger next : Debugger κ}
    {label : Label κ}
    (owned : Owned debugger)
    (loses : ¬ KeepsAdapter site debugger label)
    (taken : step site debugger label = some next) :
    ¬ OnlyAdapters next := by
  simp only [KeepsAdapter, not_forall] at loses
  rcases loses with ⟨json, rfl, event, among, attach, differs⟩
  cases taken
  rcases onMessage_cases site json debugger with
    ⟨handled, single, result, same⟩
  have only := (same event attach).mpr among
  rcases handled with _ | ⟨output, _ | ⟨second, handled⟩⟩
  · exact absurd only List.not_mem_nil
  · cases List.mem_singleton.mp only
    rcases attach with ⟨⟨jsonDump, message⟩, success⟩
    intro onlyAdapters
    have whenReset := onlyAdapters.whenReset
    rw [result] at whenReset
    let received : Debugger κ :=
      { debugger with
        client := (onMessage site.toolkit json debugger.client).1 }
    have handler :
        Debugger.onOutput site received (.event event) =
          received.onAttachToProcessResponse true := by
      show Debugger.onDapEvent site event received = _
      unfold Debugger.onDapEvent
      rw [success, message]
    rw [List.foldl_cons, List.foldl_nil, handler] at whenReset
    exact resetData_unlawful owned differs
      (received.onAttachToProcessResponse true) rfl rfl whenReset
  · simp at single

theorem owned_new : Owned (Debugger.new κ) :=
  ⟨trivial, rfl⟩

/--
In a run from the start of the plugin only adapters are killed, with a reset
possible at any moment, if and only if no successful attach response is
handled while the attached process differs from the adapter.
-/
theorem onlyAdapters_killed_iff
    (site : Site)
    (labels : List (Label κ)) :
    Always (step site) OnlyAdapters (Debugger.new κ) labels ↔
      Along (step site) (KeepsAdapter site) (Debugger.new κ) labels := by
  have enabled :
      ∀ (debugger : Debugger κ) label,
        ∃ next, step site debugger label = some next := by
    intro debugger label
    cases label <;> exact ⟨_, rfl⟩
  exact always_iff_along enabled
    (fun _ _ _ owned keeps taken => owned_step owned keeps taken)
    (fun _ owned => ⟨owned.lawful, owned.resetData.1.lawful⟩)
    (fun _ _ _ owned loses taken => not_onlyAdapters_step owned loses taken)
    owned_new labels

/-! ## Attach, detach, terminated -/

/-- A site where the only number the user types is 1234. -/
def plainSite : Site where
  toolkit := plainToolkit
  toLong := fun text => if text = "1234".toList then some 1234 else none
  exeBasePath := id
  debuggeeEnv := ⟨.none, []⟩

/-- The adapter is started as process 77 and accepts the connection. -/
def plainHost : Host where
  compilerFound := true
  targetFound := false
  dapExecutable := "lldb-dap".toList
  executableExists := true
  configuredPort := "50000".toList
  searchAccepted := false
  availablePort := 0
  debuggee := none
  executionParameters := []
  runDapServer := true
  portArgFound := true
  executed := 77
  connects := true

/-- The user attaches to process 1234, detaches, and the adapter ends. -/
def attachThenDetach : List (Label Unit) :=
  [.attachToProcess "1234".toList plainHost,
    .message (responseTree .initialize_ 1 true []),
    .message (responseTree .attach 2 true []),
    .detachFromProcess,
    .message
      (.object
        [("type".toList, .string "event".toList),
          ("event".toList, .string "terminated".toList)])]

/-- Process 1234 is killed and the adapter 77 is not. -/
theorem attachThenDetach_kills :
    (run (step plainSite) (Debugger.new Unit) attachThenDetach).map
        Debugger.actions =
      some [.sessionReset, .execute 77, .kill 1234, .sessionReset] ∧
      ¬ Always (step plainSite)
        (fun debugger => OnlyAdaptersKilled [] debugger.actions)
        (Debugger.new Unit) attachThenDetach := by
  refine ⟨rfl, ?_⟩
  intro always
  have lawful :=
    always attachThenDetach [] _ (List.append_nil _) rfl
  have member : (1234 : Int) ∈ [77] := lawful.2.1
  simp at member

end DebuggerDap.Plugin.Lifecycle
