import DebuggerDap.Library.RoseTree
import DebuggerDap.Persistence.StateFile
import DebuggerDap.Protocol.Codecs

/-!
# The watches

A watch shows a variable and has the members of its variable as children.
Children are asked for when the watch is expanded: the watch remembers the
number of its request, and the reply is matched by this number alone.

`m_DAP_watches` holds the watches the user sees at the top.  A place in the
forest below them is an index into it and a path of child indices.  A request
number is kept with the session its request was sent in, which the code does
not know; nothing below looks at it.
-/

namespace DebuggerDap.Watches.Forest

open DebuggerDap.Text.Strings
open DebuggerDap.Library.RoseTree
open DebuggerDap.Breakpoints.Store
open DebuggerDap.Persistence.StateFile
open DebuggerDap.Protocol.Codecs (Variable Scope)

/-! ## Data -/

/-- The number of a request, and the session the request was sent in. -/
structure RequestNumber where
  number : Int
  session : Nat
  deriving DecidableEq, Repr

/-- The number of no request. -/
def noRequest : RequestNumber where
  number := 0
  session := 0

/-- The members of `DAPWatch`. -/
structure WatchData extends DapWatch where
  dapVariableReference : UInt64
  dapChildVariableRequestSequence : RequestNumber
  valueErrorMessage : Bool
  deriving DecidableEq, Repr

/-- A watch with its children. -/
abbrev Watch := RoseTree WatchData

/-- The constructor of `DAPWatch`, for a watch that is no tooltip. -/
def newWatch (project : Option Project) (symbol : WxString) : WatchData where
  project := project
  symbol := symbol
  value := []
  type := []
  format := .undefined
  debugString := []
  hasBeenExpanded := false
  forTooltip := false
  deleteOnCollapse := true
  arrayStart := -1
  arrayEnd := -1
  isArray := false
  setForTooltip := false
  dapVariableReference := 0
  dapChildVariableRequestSequence := noRequest
  valueErrorMessage := false

/-- `Reset`. -/
def reset (watch : Watch) : Watch :=
  .leaf
    { watch.value with
      dapVariableReference := 0
      dapChildVariableRequestSequence := noRequest
      type := []
      value := []
      valueErrorMessage := false
      hasBeenExpanded := false
      arrayStart := -1
      arrayEnd := -1 }

/-- A new watch for a variable; a structured one gets a child to expand. -/
def watchOf
    (project : Option Project)
    (symbol : WxString)
    (var : Variable) : Watch :=
  let watch :=
    { newWatch project symbol with
      value := var.value
      dapVariableReference := UInt64.ofInt var.variablesReference
      type := var.type }
  if 0 < var.variablesReference then
    .node
      { watch with
        hasBeenExpanded := false
        arrayStart := 0
        arrayEnd := var.variablesReference }
      [.leaf (newWatch project "updating...".toList)]
  else .leaf watch

/-! ## Children of a reply -/

/-- An unnamed variable of the reply is renamed in place. -/
def nameAnonymous (var : Variable) : Variable :=
  if var.name = [] then { var with name := "anonymous".toList } else var

def childWatch (project : Option Project) (var : Variable) : Watch :=
  let named := nameAnonymous var
  watchOf project named.name named

/-- The watch asked for the children the reply has. -/
def Holds (request : RequestNumber) (watch : WatchData) : Prop :=
  watch.dapChildVariableRequestSequence.number = request.number

instance (request : RequestNumber) : DecidablePred (Holds request) :=
  fun watch =>
    inferInstanceAs
      (Decidable
        (watch.dapChildVariableRequestSequence.number = request.number))

section Children

variable (project : Option Project)
variable (requestSeq : RequestNumber)

mutual

/-- The watch, the variable, and whether the child was added. -/
def addWatchChildByRequestSequence :
    Watch → Variable → Watch × Variable × Bool
  | .node watch children, var =>
      if Holds requestSeq watch then
        (.node watch (children ++ [childWatch project var]),
          nameAnonymous var, true)
      else
        let below := addToChildren children var
        (.node watch below.1, below.2)

/-- The loop over the children, which names the variable first. -/
def addToChildren :
    List Watch → Variable → List Watch × Variable × Bool
  | [], var => ([], var, false)
  | child :: children, var =>
      match addWatchChildByRequestSequence child (nameAnonymous var) with
      | (child, var, true) => (child :: children, var, true)
      | (child, var, false) =>
          let rest := addToChildren children var
          (child :: rest.1, rest.2)

end

/-- A watch takes the value of a variable of its name, and its request. -/
def setFromVariable (var : Variable) (watch : Watch) : Watch :=
  .node
    { watch.value with
      value := if var.value = [] then "\"\"".toList else var.value
      type := var.type
      dapVariableReference := UInt64.ofInt var.variablesReference
      dapChildVariableRequestSequence := requestSeq }
    watch.children

/-- The inner loop of `OnVariablesCheck`. -/
def checkVariables (symbol : WxString) :
    Watch → List Variable → Watch × List Variable
  | watch, [] => (watch, [])
  | watch, var :: vars =>
      let matched :=
        if symbol = var.name then setFromVariable requestSeq var watch
        else watch
      let added :=
        if var.variablesReference ≠ 0 then
          addWatchChildByRequestSequence project requestSeq matched var
        else (matched, var, false)
      let rest := checkVariables symbol added.1 vars
      (rest.1, added.2.1 :: rest.2)

/-- The outer loop of `OnVariablesCheck`. -/
def checkWatches :
    List Watch → List Variable → List Watch × List Variable
  | [], vars => ([], vars)
  | watch :: watches, vars =>
      let checked :=
        checkVariables project requestSeq watch.value.symbol watch vars
      let rest := checkWatches watches checked.2
      (checked.1 :: rest.1, rest.2)

end Children

/-! ## The class -/

/-- `DBG_DAP_Watches`, with the counter of its client. -/
structure DapWatches where
  project : Option Project
  watches : List Watch
  stackdapvariables : List Variable
  requestedGPRegs : Bool
  requestedFloats : Bool
  session : Nat
  requestSequence : Int

namespace DapWatches

/-- Nothing is watched before the first session. -/
def initial : DapWatches where
  project := none
  watches := []
  stackdapvariables := []
  requestedGPRegs := false
  requestedFloats := false
  session := 0
  requestSequence := 0

/-- Any request of the client takes the next number. -/
def sendRequest (panel : DapWatches) : DapWatches :=
  { panel with requestSequence := panel.requestSequence + 1 }

/-- The number of the request that was sent last. -/
def lastRequest (panel : DapWatches) : RequestNumber where
  number := panel.requestSequence
  session := panel.session

/-- What `Client::Reset` does to the counter; a new session begins. -/
def clientReset (panel : DapWatches) : DapWatches :=
  { panel with
    session := panel.session + 1
    requestSequence := 0 }

def modifyWatch
    (change : Watch → Watch)
    (index : Nat)
    (path : List Nat)
    (panel : DapWatches) : DapWatches :=
  { panel with
    watches := panel.watches.modify index (RoseTree.modify change path) }

def watch?
    (panel : DapWatches)
    (index : Nat)
    (path : List Nat) : Option Watch :=
  panel.watches[index]?.bind (RoseTree.subtree? path)

/-! ### Replies and events -/

def createStartWatches (panel : DapWatches) : DapWatches :=
  { panel with watches := panel.watches.map reset }

/-- `OnVariablesCheck` of a reply with this `request_seq`. -/
def onVariablesCheck
    (requestSeq : Int)
    (vars : List Variable)
    (panel : DapWatches) : DapWatches :=
  let request : RequestNumber :=
    { number := requestSeq
      session := panel.session }
  { panel with
    stackdapvariables := panel.stackdapvariables ++ vars
    watches := (checkWatches panel.project request panel.watches vars).1 }

/-- The two groups whose registers are asked for. -/
def generalPurposeRegisters : WxString :=
  "General Purpose Registers".toList

def floatingPointRegisters : WxString :=
  "Floating Point Registers".toList

def isRegister (var : Variable) : Bool :=
  "Registers".toList.isSuffixOf var.name ||
    var.presentationHint.kind = "register".toList

/-- The requests for registers in the loop of `OnVariables`. -/
def requestRegisters (var : Variable) (panel : DapWatches) : DapWatches :=
  if isRegister var then
    if var.name = generalPurposeRegisters then
      { panel.sendRequest with requestedGPRegs := true }
    else if var.name = floatingPointRegisters then
      { panel.sendRequest with requestedFloats := true }
    else panel
  else panel

/--
The loop of `OnVariables`, with the names of the local variables.  The other
variables are for the register window.
-/
def sortVariables :
    List Variable → DapWatches → DapWatches × List WxString
  | [], panel => (panel, [])
  | var :: vars, panel =>
      let asked := panel.requestRegisters var
      let rest := sortVariables vars asked
      if asked.requestedGPRegs || asked.requestedFloats then rest
      else (rest.1, var.name :: rest.2)

def onVariables
    (requestSeq : Int)
    (vars : List Variable)
    (panel : DapWatches) : DapWatches :=
  let sorted := sortVariables vars panel
  if sorted.2 ≠ [] then sorted.1.onVariablesCheck requestSeq vars
  else sorted.1

/-- A scope whose variables `OnScopes` asks for. -/
def requestsScope (registersShown : Bool) (scope : Scope) : Bool :=
  if isSameAs scope.name "Globals".toList then false
  else if isSameAs scope.name "Registers".toList then registersShown
  else true

/-- No watch is told of the requests. -/
def onScopes
    (registersShown : Bool)
    (scopes : List Scope)
    (panel : DapWatches) : DapWatches :=
  let cleared : DapWatches :=
    { panel with
      requestedGPRegs := false
      requestedFloats := false
      stackdapvariables := [] }
  scopes.foldl (fun panel scope =>
    if requestsScope registersShown scope then panel.sendRequest else panel)
    cleared

/--
`ExpandWatch` on the watch at a place.  The children go before the request is
sent, and nothing marks the watch as expanded.
-/
def expandWatch
    (isStopped isRunning : Bool)
    (index : Nat)
    (path : List Nat)
    (panel : DapWatches) : DapWatches :=
  if isStopped = false ∨ isRunning = false then panel
  else
    match panel.watch? index path with
    | none => panel
    | some watch =>
        if watch.value.hasBeenExpanded then panel
        else
          let asked := panel.sendRequest
          asked.modifyWatch
            (fun watch =>
              .leaf
                { watch.value with
                  dapChildVariableRequestSequence := asked.lastRequest })
            index path

end DapWatches

/-! ## What a variable of a reply does to a watch -/

@[simp]
theorem nameAnonymous_nameAnonymous (var : Variable) :
    nameAnonymous (nameAnonymous var) = nameAnonymous var := by
  by_cases unnamed : var.name = []
  · simp [nameAnonymous, unnamed]
  · simp [nameAnonymous, unnamed]

@[simp]
theorem childWatch_nameAnonymous
    (project : Option Project)
    (var : Variable) :
    childWatch project (nameAnonymous var) = childWatch project var := by
  simp [childWatch]

/-- A variable that was offered to some watches has got a name. -/
def offered (watches : List Watch) (var : Variable) : Variable :=
  if watches = [] then var else nameAnonymous var

@[simp]
theorem offered_nameAnonymous (watches : List Watch) (var : Variable) :
    offered watches (nameAnonymous var) = nameAnonymous var := by
  simp [offered]

section Children

variable (project : Option Project)
variable (requestSeq : RequestNumber)

mutual

/-- The child is grafted onto the first watch that holds the request. -/
theorem addWatchChildByRequestSequence_eq : (watch : Watch) →
    (var : Variable) →
    addWatchChildByRequestSequence project requestSeq watch var =
      match watch.graft? (Holds requestSeq) [childWatch project var] with
      | some grafted => (grafted, nameAnonymous var, true)
      | none => (watch, offered watch.children var, false)
  | .node watch children, var => by
      by_cases holds : Holds requestSeq watch
      · simp [addWatchChildByRequestSequence, RoseTree.graft?, holds]
      · have below := addToChildren_eq children var
        cases grafted : RoseTree.graftForest? (Holds requestSeq)
            [childWatch project var] children with
        | none =>
            rw [grafted] at below
            simp [addWatchChildByRequestSequence, RoseTree.graft?, holds,
              below, grafted]
        | some result =>
            rw [grafted] at below
            simp [addWatchChildByRequestSequence, RoseTree.graft?, holds,
              below, grafted]

theorem addToChildren_eq : (children : List Watch) →
    (var : Variable) →
    addToChildren project requestSeq children var =
      match RoseTree.graftForest? (Holds requestSeq)
        [childWatch project var] children with
      | some grafted => (grafted, nameAnonymous var, true)
      | none => (children, offered children var, false)
  | [], var => by
      simp [addToChildren, RoseTree.graftForest?, offered]
  | child :: children, var => by
      have first :=
        addWatchChildByRequestSequence_eq child (nameAnonymous var)
      have rest := addToChildren_eq children (nameAnonymous var)
      rw [childWatch_nameAnonymous] at first rest
      cases grafted : child.graft? (Holds requestSeq)
          [childWatch project var] with
      | some result =>
          rw [grafted] at first
          simp [addToChildren, RoseTree.graftForest?, first, grafted]
      | none =>
          rw [grafted] at first
          simp only [offered_nameAnonymous] at first rest
          cases further : RoseTree.graftForest? (Holds requestSeq)
              [childWatch project var] children with
          | some result =>
              rw [further] at rest
              simp [addToChildren, RoseTree.graftForest?, first, rest,
                grafted, further]
          | none =>
              rw [further] at rest
              simp [addToChildren, RoseTree.graftForest?, first, rest,
                grafted, further, offered]

end

end Children

end DebuggerDap.Watches.Forest
