import Mathlib.Logic.Basic

/-!
# The debugger state of the plugin

`Debugger_State` keeps four bits.  Adding and removing bits repairs the
others, so that a debugger that is not connected is stopped and not running.
-/

namespace DebuggerDap.Plugin.DebuggerState

/-- `eDAPState`, one constructor for each bit. -/
inductive DapState where
  | notConnected
  | connected
  | stopped
  | running
  deriving DecidableEq, Repr

/-- The bits of `DAPDebuggerState`. -/
structure DebuggerState where
  notConnected : Bool
  connected : Bool
  stopped : Bool
  running : Bool
  deriving DecidableEq, Repr

namespace DebuggerState

/-- The value `DAPDebuggerState` is initialized with. -/
def initial : DebuggerState where
  notConnected := true
  connected := false
  stopped := false
  running := false

def set (bit : DapState) (value : Bool) (state : DebuggerState) :
    DebuggerState :=
  match bit with
  | .notConnected => { state with notConnected := value }
  | .connected => { state with connected := value }
  | .stopped => { state with stopped := value }
  | .running => { state with running := value }

def isRunning (state : DebuggerState) : Bool :=
  state.running

def isStopped (state : DebuggerState) : Bool :=
  state.stopped

def isConnected (state : DebuggerState) : Bool :=
  state.connected

def isBusy (state : DebuggerState) : Bool :=
  state.connected && state.running && !state.stopped

/-- `RemoveState`; without `Connected` nothing runs. -/
def removeState (stateToRemove : DapState) (state : DebuggerState) :
    DebuggerState :=
  let removed := state.set stateToRemove false
  if stateToRemove = .connected then
    { removed with running := false, stopped := true }
  else removed

/--
`AddState`.  Its first condition tests the constant `NotConnected`, not the
bit, so it is the test for `Connected` alone.
-/
def addState (newState : DapState) (state : DebuggerState) :
    DebuggerState :=
  let added := state.set newState true
  let known :=
    if added.isConnected then added.removeState .notConnected else added
  let repaired :=
    if known.isConnected then known
    else
      { (known.removeState .connected).removeState .running with
        stopped := true }
  if repaired.isBusy then repaired.removeState .stopped else repaired

/-- Once the debugger is stopped no state takes the bit away. -/
theorem isStopped_addState
    {state : DebuggerState}
    (stopped : state.isStopped = true)
    (newState : DapState) :
    (state.addState newState).isStopped = true := by
  rcases state with ⟨notConnected, connected, isStopped, running⟩
  cases stopped
  cases newState <;> cases connected <;> cases running <;> rfl

theorem isStopped_removeConnected (state : DebuggerState) :
    (state.removeState .connected).isStopped = true :=
  rfl

/-- A stop does not make the debugger run. -/
theorem isRunning_addStopped
    {state : DebuggerState}
    (halted : state.isRunning = false) :
    (state.addState .stopped).isRunning = false := by
  rcases state with ⟨notConnected, connected, stopped, running⟩
  cases halted
  cases connected <;> rfl

/-- A connection does not make the debugger run. -/
theorem isRunning_addConnected
    {state : DebuggerState}
    (halted : state.isRunning = false) :
    (state.addState .connected).isRunning = false := by
  rcases state with ⟨notConnected, connected, stopped, running⟩
  cases halted
  rfl

/-- A debugger that is told to run does so exactly when it is connected. -/
theorem isRunning_addRunning (state : DebuggerState) :
    ((state.addState .running).addState .stopped).isRunning =
      state.isConnected := by
  rcases state with ⟨notConnected, connected, stopped, running⟩
  cases connected <;> cases stopped <;> rfl

end DebuggerState

end DebuggerDap.Plugin.DebuggerState
