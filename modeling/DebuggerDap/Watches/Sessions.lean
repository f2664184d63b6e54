import DebuggerDap.Library.Run
import DebuggerDap.Watches.Expansion

/-!
# Watches over several sessions

Watches outlive a session, and the client counts its requests from the start
in every one.  When a session is initialized the watches are to be reset, so
that no watch waits for a number of an earlier session.

The handler of the initialized event looks for an `InitializeResponse` in
the event, but what the client puts there is an `InitializedEvent`.
-/

namespace DebuggerDap.Watches.Sessions

open DebuggerDap.Text.Strings
open DebuggerDap.Library.RoseTree
open DebuggerDap.Library.Run
open DebuggerDap.Breakpoints.Store
open DebuggerDap.Persistence.StateFile
open DebuggerDap.Protocol.Codecs (Variable Scope)
open DebuggerDap.Watches.Forest
open DebuggerDap.Watches.Offering
open DebuggerDap.Watches.Expansion

/-! ## The initialized event -/

/-- The object of a `DAPEvent`, as far as it is looked at. -/
inductive DapObject where
  | initializedEvent
  | initializeResponse (success : Bool)
  deriving DecidableEq, Repr

/-- `GetDapResponse()->As<InitializeResponse>()`, with its `success`. -/
def DapObject.asInitializeResponse : DapObject → Option Bool
  | initializedEvent => none
  | initializeResponse success => some success

/-- What the client sends with `wxEVT_DAP_INITIALIZED_EVENT`. -/
def initializedObject : DapObject :=
  .initializedEvent

def onInitializedEvent (event : DapObject) (panel : DapWatches) :
    DapWatches :=
  match event.asInitializeResponse with
  | none => panel
  | some success => if success then panel.createStartWatches else panel

/-! ## The user's watches -/

/-- The watch for a symbol; a variable known by this name is shown at once. -/
def watchFor (symbol : WxString) (panel : DapWatches) : Watch :=
  match panel.stackdapvariables.find? fun var => symbol = var.name with
  | some var => watchOf panel.project symbol var
  | none => .leaf (newWatch panel.project symbol)

/-- `AddWatch` of a symbol. -/
def addWatch (symbol : WxString) (panel : DapWatches) : DapWatches :=
  { panel with watches := panel.watches ++ [watchFor symbol panel] }

/-- The test of the search for a duplicate. -/
def same (loaded : DapWatch) (watch : Watch) : Bool :=
  loaded.symbol = watch.value.symbol &&
    loaded.project = watch.value.project &&
    loaded.type = watch.value.type

/--
`AddWatch` of a watch from the state file.  A duplicate goes if the dialog
finds it, and the new watch is expanded.
-/
def addLoadedWatch
    (loaded : DapWatch)
    (removes isStopped isRunning : Bool)
    (panel : DapWatches) : DapWatches :=
  let watch : Watch :=
    .leaf
      { loaded with
        dapVariableReference := 0
        dapChildVariableRequestSequence := noRequest
        valueErrorMessage := false }
  let kept :=
    if removes then panel.watches.eraseP (same loaded) else panel.watches
  DapWatches.expandWatch isStopped isRunning kept.length []
    { panel with watches := kept ++ [watch] }

def deleteWatch (index : Nat) (panel : DapWatches) : DapWatches :=
  { panel with watches := panel.watches.eraseIdx index }

/-- Change the members of a watch at the top. -/
def changeData
    (change : WatchData → WatchData)
    (index : Nat)
    (panel : DapWatches) : DapWatches :=
  panel.modifyWatch
    (fun watch => .node (change watch.value) watch.children) index []

/-- What the dialog of `ShowWatchProperties` stores. -/
def editWatch
    (symbol : WxString)
    (format : WatchFormat)
    (isArray : Bool)
    (arrayStart arrayEnd : Int) :
    Nat → DapWatches → DapWatches :=
  changeData fun watch =>
    { watch with
      symbol := symbol
      format := format
      isArray := isArray
      arrayStart := arrayStart
      arrayEnd := arrayEnd }

/-- `UpdateWatch`; the expression is evaluated when there is a frame. -/
def updateWatch
    (isRunning hasFrame : Bool)
    (index : Nat)
    (panel : DapWatches) : DapWatches :=
  if index < panel.watches.length ∧ isRunning then
    let informed := panel.sendRequest
    if hasFrame then informed.sendRequest else informed
  else panel

def evaluateWatchCallback
    (success : Bool)
    (result type : WxString)
    (index : Nat)
    (panel : DapWatches) : DapWatches :=
  if success then
    changeData (fun watch => { watch with value := result, type := type })
      index panel
  else panel

/-! ## Runs -/

/-- What happens to the watches; any request may be sent in between. -/
inductive Label where
  | clientReset
  | sendRequest
  | initializedEvent
  | setProject (project : Option Project)
  | addWatch (symbol : WxString)
  | addLoadedWatch (loaded : DapWatch) (removes isStopped isRunning : Bool)
  | deleteWatch (index : Nat)
  | editWatch
      (symbol : WxString)
      (format : WatchFormat)
      (isArray : Bool)
      (arrayStart arrayEnd : Int)
      (index : Nat)
  | expandWatch
      (isStopped isRunning : Bool)
      (index : Nat)
      (path : List Nat)
  | updateWatch (isRunning hasFrame : Bool) (index : Nat)
  | evaluateWatchCallback
      (success : Bool)
      (result type : WxString)
      (index : Nat)
  | onScopes (registersShown : Bool) (scopes : List Scope)
  | onVariables (requestSeq : Int) (vars : List Variable)

/-- The watches, and whether the session has been initialized. -/
structure Host where
  panel : DapWatches
  initialized : Bool

def Host.initial : Host where
  panel := DapWatches.initial
  initialized := false

/-- The handler of a label. -/
def handle : Label → DapWatches → DapWatches
  | .clientReset => DapWatches.clientReset
  | .sendRequest => DapWatches.sendRequest
  | .initializedEvent => onInitializedEvent initializedObject
  | .setProject project => fun panel => { panel with project := project }
  | .addWatch symbol => addWatch symbol
  | .addLoadedWatch loaded removes isStopped isRunning =>
      addLoadedWatch loaded removes isStopped isRunning
  | .deleteWatch index => deleteWatch index
  | .editWatch symbol format isArray arrayStart arrayEnd index =>
      editWatch symbol format isArray arrayStart arrayEnd index
  | .expandWatch isStopped isRunning index path =>
      DapWatches.expandWatch isStopped isRunning index path
  | .updateWatch isRunning hasFrame index =>
      updateWatch isRunning hasFrame index
  | .evaluateWatchCallback success result type index =>
      evaluateWatchCallback success result type index
  | .onScopes registersShown scopes =>
      DapWatches.onScopes registersShown scopes
  | .onVariables requestSeq vars => DapWatches.onVariables requestSeq vars

def Label.initializes (initialized : Bool) : Label → Bool
  | clientReset => false
  | initializedEvent => true
  | _ => initialized

/-- A reply answers a request that was sent in its session. -/
def Enabled (panel : DapWatches) : Label → Prop
  | .onVariables requestSeq _ =>
      0 < requestSeq ∧ requestSeq ≤ panel.requestSequence
  | _ => True

instance (panel : DapWatches) : DecidablePred (Enabled panel) :=
  fun label =>
    match label with
    | .onVariables requestSeq _ =>
        inferInstanceAs
          (Decidable (0 < requestSeq ∧ requestSeq ≤ panel.requestSequence))
    | .clientReset | .sendRequest | .initializedEvent | .setProject _
    | .addWatch _ | .addLoadedWatch _ _ _ _ | .deleteWatch _
    | .editWatch _ _ _ _ _ _ | .expandWatch _ _ _ _ | .updateWatch _ _ _
    | .evaluateWatchCallback _ _ _ _ | .onScopes _ _ => isTrue trivial

def step (host : Host) (label : Label) : Option Host :=
  if Enabled host.panel label then
    some
      { panel := handle label host.panel
        initialized := label.initializes host.initialized }
  else none

/-! ## Watches of the current session -/

/-- A watch waits for no reply, or for one to a request of this session. -/
def Current (session : Nat) (watch : WatchData) : Prop :=
  watch.dapChildVariableRequestSequence.number = 0 ∨
    watch.dapChildVariableRequestSequence.session = session

def AllCurrent (panel : DapWatches) : Prop :=
  ∀ watch ∈ RoseTree.forestNodes panel.watches,
    Current panel.session watch.value

section Keeping

variable {session : Nat}
variable {request : RequestNumber}

theorem current_of_noRequest
    {watch : WatchData}
    (none : watch.dapChildVariableRequestSequence = noRequest) :
    Current session watch := by
  left
  rw [none]
  rfl

theorem current_watchOf
    (project : Option Project)
    (symbol : WxString)
    (var : Variable) :
    ∀ found ∈ RoseTree.nodes (watchOf project symbol var),
      Current session found.value := by
  unfold watchOf
  split
  · rw [RoseTree.forall_nodes_node, RoseTree.forestNodes_cons,
      RoseTree.forestNodes_nil, List.append_nil, RoseTree.forall_nodes_leaf]
    exact ⟨current_of_noRequest rfl, current_of_noRequest rfl⟩
  · rw [RoseTree.forall_nodes_leaf]
    exact current_of_noRequest rfl

theorem current_matched
    {symbol : WxString}
    {var : Variable}
    {watch : Watch}
    (sent : request.session = session)
    (before : ∀ found ∈ watch.nodes, Current session found.value) :
    ∀ found ∈ (matched request symbol var watch).nodes,
      Current session found.value := by
  unfold matched
  split
  · rcases watch with ⟨data, children⟩
    rw [RoseTree.forall_nodes_node] at before
    exact RoseTree.forall_nodes_node.mpr ⟨Or.inr sent, before.2⟩
  · exact before

theorem current_checkVariables
    {project : Option Project}
    {symbol : WxString}
    {watch : Watch}
    {vars : List Variable}
    (sent : request.session = session)
    (before : ∀ found ∈ watch.nodes, Current session found.value) :
    ∀ found ∈
        (checkVariables project request symbol watch vars).1.nodes,
      Current session found.value := by
  induction vars generalizing watch with
  | nil => exact before
  | cons var vars inductionHypothesis =>
      have stillCurrent :=
        @current_matched session request symbol var watch sent before
      by_cases isStructured : Structured var
      · rw [checkVariables_cons_of_structured isStructured rfl]
        apply inductionHypothesis
        apply RoseTree.forall_nodes_graft stillCurrent
        simp only [RoseTree.forestNodes_cons, RoseTree.forestNodes_nil,
          List.append_nil]
        exact current_watchOf _ _ _
      · rw [checkVariables_cons_of_leaf isStructured]
        exact inductionHypothesis stillCurrent

theorem current_checkWatches
    {project : Option Project}
    {watches : List Watch}
    {vars : List Variable}
    (sent : request.session = session)
    (before : ∀ found ∈ RoseTree.forestNodes watches,
      Current session found.value) :
    ∀ found ∈
        RoseTree.forestNodes (checkWatches project request watches vars).1,
      Current session found.value := by
  induction watches generalizing vars with
  | nil => exact before
  | cons watch watches inductionHypothesis =>
      simp only [RoseTree.forestNodes_cons, List.forall_mem_append,
        checkWatches] at before ⊢
      exact ⟨current_checkVariables sent before.1,
        inductionHypothesis before.2⟩

end Keeping

section Handlers

variable {panel : DapWatches}

/-- Another number, other variables and other flags change no watch. -/
theorem AllCurrent.of_watches_eq
    {other : DapWatches}
    (current : AllCurrent panel)
    (sameWatches : other.watches = panel.watches)
    (sameSession : other.session = panel.session) :
    AllCurrent other := by
  rw [AllCurrent, sameWatches, sameSession]
  exact current

theorem AllCurrent.modifyWatch
    {change : Watch → Watch}
    (current : AllCurrent panel)
    (keeps : ∀ tree : Watch,
      (∀ found ∈ tree.nodes, Current panel.session found.value) →
        ∀ found ∈ (change tree).nodes, Current panel.session found.value)
    (index : Nat)
    (path : List Nat) :
    AllCurrent (panel.modifyWatch change index path) :=
  RoseTree.forall_forestNodes_modify
    (RoseTree.forall_nodes_modify keeps path) current index

theorem AllCurrent.addWatch
    (current : AllCurrent panel)
    (symbol : WxString) :
    AllCurrent (addWatch symbol panel) := by
  have watchCurrent :
      ∀ found ∈ (watchFor symbol panel).nodes,
        Current panel.session found.value := by
    unfold watchFor
    split
    · exact current_watchOf _ _ _
    · exact RoseTree.forall_nodes_leaf.mpr (current_of_noRequest rfl)
  simp only [AllCurrent, Sessions.addWatch, RoseTree.forestNodes_append,
    RoseTree.forestNodes_cons, RoseTree.forestNodes_nil, List.append_nil,
    List.forall_mem_append]
  exact ⟨current, watchCurrent⟩

theorem AllCurrent.expandWatch
    (current : AllCurrent panel)
    (isStopped isRunning : Bool)
    (index : Nat)
    (path : List Nat) :
    AllCurrent (panel.expandWatch isStopped isRunning index path) := by
  unfold DapWatches.expandWatch
  split
  · exact current
  · split
    · exact current
    · split
      · exact current
      · have asked : AllCurrent panel.sendRequest :=
          current.of_watches_eq rfl rfl
        apply asked.modifyWatch
        intro tree _
        exact RoseTree.forall_nodes_leaf.mpr (Or.inr rfl)

theorem AllCurrent.addLoadedWatch
    (current : AllCurrent panel)
    (loaded : DapWatch)
    (removes isStopped isRunning : Bool) :
    AllCurrent
      (addLoadedWatch loaded removes isStopped isRunning panel) := by
  apply AllCurrent.expandWatch
  have kept :
      (if removes then panel.watches.eraseP (same loaded)
        else panel.watches) ⊆ panel.watches := by
    split
    · exact List.eraseP_subset
    · exact List.Subset.refl _
  simp only [AllCurrent, RoseTree.forestNodes_append,
    RoseTree.forestNodes_cons, RoseTree.forestNodes_nil, List.append_nil,
    List.forall_mem_append]
  exact ⟨RoseTree.forall_forestNodes_of_subset kept current,
    RoseTree.forall_nodes_leaf.mpr (current_of_noRequest rfl)⟩

theorem AllCurrent.deleteWatch
    (current : AllCurrent panel)
    (index : Nat) :
    AllCurrent (deleteWatch index panel) :=
  RoseTree.forall_forestNodes_of_subset (List.eraseIdx_subset) current

/-- A change that leaves the request of a watch alone. -/
theorem AllCurrent.changeData
    {change : WatchData → WatchData}
    (current : AllCurrent panel)
    (keeps : ∀ watch,
      (change watch).dapChildVariableRequestSequence =
        watch.dapChildVariableRequestSequence)
    (index : Nat) :
    AllCurrent (changeData change index panel) := by
  apply current.modifyWatch
  intro tree before
  rcases tree with ⟨value, children⟩
  rw [RoseTree.forall_nodes_node] at before
  refine RoseTree.forall_nodes_node.mpr ⟨?_, before.2⟩
  rw [Current, keeps]
  exact before.1

theorem AllCurrent.updateWatch
    (current : AllCurrent panel)
    (isRunning hasFrame : Bool)
    (index : Nat) :
    AllCurrent (updateWatch isRunning hasFrame index panel) := by
  unfold Sessions.updateWatch
  split
  · cases hasFrame
    · exact current.of_watches_eq rfl rfl
    · exact current.of_watches_eq rfl rfl
  · exact current

theorem AllCurrent.evaluateWatchCallback
    (current : AllCurrent panel)
    (success : Bool)
    (result type : WxString)
    (index : Nat) :
    AllCurrent (evaluateWatchCallback success result type index panel) := by
  unfold Sessions.evaluateWatchCallback
  split
  · apply AllCurrent.changeData current
    intro watch
    rfl
  · exact current

theorem AllCurrent.onScopes
    (current : AllCurrent panel)
    (registersShown : Bool)
    (scopes : List Scope) :
    AllCurrent (panel.onScopes registersShown scopes) := by
  unfold DapWatches.onScopes
  have cleared :
      AllCurrent
        { panel with
          requestedGPRegs := false
          requestedFloats := false
          stackdapvariables := [] } :=
    current.of_watches_eq rfl rfl
  refine List.foldlRecOn scopes _ cleared ?_
  intro asked stillCurrent scope _
  split
  · exact stillCurrent.of_watches_eq rfl rfl
  · exact stillCurrent

/-- What a reply adds waits for nothing, and who takes its number is current. -/
theorem AllCurrent.onVariables
    (current : AllCurrent panel)
    (requestSeq : Int)
    (vars : List Variable) :
    AllCurrent (panel.onVariables requestSeq vars) := by
  rcases watches_onVariables panel requestSeq vars with
    ⟨bypassed, reached⟩
  rw [AllCurrent, session_onVariables]
  by_cases bypasses : Bypasses panel vars
  · rw [bypassed bypasses]
    exact current
  · rw [reached bypasses]
    exact current_checkWatches rfl current

/-- No handler but the reset of the client lets a watch get out of date. -/
theorem AllCurrent.handle
    (current : AllCurrent panel)
    {label : Label}
    (sameSession : label ≠ .clientReset) :
    AllCurrent (handle label panel) := by
  cases label with
  | clientReset => exact absurd rfl sameSession
  | sendRequest => exact current.of_watches_eq rfl rfl
  | initializedEvent => exact current
  | setProject project => exact current.of_watches_eq rfl rfl
  | addWatch symbol => exact current.addWatch symbol
  | addLoadedWatch loaded removes isStopped isRunning =>
      exact current.addLoadedWatch loaded removes isStopped isRunning
  | deleteWatch index => exact current.deleteWatch index
  | editWatch symbol format isArray arrayStart arrayEnd index =>
      apply AllCurrent.changeData current
      intro watch
      rfl
  | expandWatch isStopped isRunning index path =>
      exact current.expandWatch isStopped isRunning index path
  | updateWatch isRunning hasFrame index =>
      exact current.updateWatch isRunning hasFrame index
  | evaluateWatchCallback success result type index =>
      exact current.evaluateWatchCallback success result type index
  | onScopes registersShown scopes =>
      exact current.onScopes registersShown scopes
  | onVariables requestSeq vars => exact current.onVariables requestSeq vars

end Handlers

/-! ## Nothing is carried over -/

/-- The state `Reset` leaves a watch in, as far as replies are concerned. -/
structure IsReset (watch : Watch) : Prop where
  reference : watch.value.dapVariableReference = 0
  request : watch.value.dapChildVariableRequestSequence.number = 0
  children : watch.children = []

instance (watch : Watch) : Decidable (IsReset watch) :=
  decidable_of_iff
    (watch.value.dapVariableReference = 0 ∧
      watch.value.dapChildVariableRequestSequence.number = 0 ∧
        watch.children = [])
    ⟨fun ⟨reference, request, children⟩ => ⟨reference, request, children⟩,
      fun isReset => ⟨isReset.reference, isReset.request, isReset.children⟩⟩

/--
What a session asks of its steps: the initialized event leaves every watch
reset, and afterwards a reply finds only watches that hold a request of this
session, whether they held it before or took it on the way.
-/
def NothingCarried (host : Host) : Label → Prop
  | .initializedEvent =>
      ∀ watch ∈ (handle .initializedEvent host.panel).watches, IsReset watch
  | .onVariables requestSeq vars =>
      host.initialized = true →
        ∀ watch ∈
            RoseTree.forestNodes host.panel.watches ++
              RoseTree.forestNodes
                (host.panel.onVariables requestSeq vars).watches,
          Holds (requestOf host.panel requestSeq) watch.value →
            watch.value.dapChildVariableRequestSequence.session =
              host.panel.session
  | _ => True

/-- The initialized event finds every watch as after a reset. -/
def AlreadyReset (host : Host) : Label → Prop
  | .initializedEvent => ∀ watch ∈ host.panel.watches, IsReset watch
  | _ => True

instance (host : Host) : DecidablePred (AlreadyReset host) :=
  fun label =>
    match label with
    | .initializedEvent =>
        inferInstanceAs
          (Decidable (∀ watch ∈ host.panel.watches, IsReset watch))
    | .clientReset | .sendRequest | .setProject _ | .addWatch _
    | .addLoadedWatch _ _ _ _ | .deleteWatch _ | .editWatch _ _ _ _ _ _
    | .expandWatch _ _ _ _ | .updateWatch _ _ _
    | .evaluateWatchCallback _ _ _ _ | .onScopes _ _ | .onVariables _ _ =>
        isTrue trivial

theorem isReset_reset (watch : Watch) : IsReset (reset watch) where
  reference := rfl
  request := rfl
  children := rfl

/-- With the response it looks for, the handler would reset every watch. -/
theorem isReset_of_initializeResponse (panel : DapWatches) :
    ∀ watch ∈
        (onInitializedEvent (.initializeResponse true) panel).watches,
      IsReset watch := by
  intro watch watchIn
  rcases List.mem_map.mp watchIn with ⟨before, _, rfl⟩
  exact isReset_reset before

section Laws

variable {host next : Host}
variable {label : Label}

/-- Once a session is initialized, its watches are current. -/
def Settled (host : Host) : Prop :=
  host.initialized = true → AllCurrent host.panel

theorem step_eq_some (taken : step host label = some next) :
    Enabled host.panel label ∧
      next.panel = handle label host.panel ∧
      next.initialized = label.initializes host.initialized := by
  unfold step at taken
  split at taken
  case isTrue enabled =>
    cases taken
    exact ⟨enabled, rfl, rfl⟩
  case isFalse =>
    cases taken

theorem allCurrent_of_isReset
    {panel : DapWatches}
    (allReset : ∀ watch ∈ panel.watches, IsReset watch) :
    AllCurrent panel := by
  intro found foundIn
  rcases RoseTree.mem_forestNodes_iff.mp foundIn with
    ⟨watch, watchIn, below⟩
  have isReset := allReset watch watchIn
  rcases watch with ⟨value, children⟩
  have noChildren : children = [] := isReset.children
  subst noChildren
  rw [List.mem_singleton.mp below]
  exact Or.inl isReset.request

/-- The event does nothing, so all is reset after it if it was before. -/
theorem nothingCarried_iff_alreadyReset
    (settled : Settled host)
    (enabled : Enabled host.panel label) :
    NothingCarried host label ↔ AlreadyReset host label := by
  cases label with
  | initializedEvent => exact Iff.rfl
  | onVariables requestSeq vars =>
      apply iff_of_true
      · intro initialized watch watchIn holds
        have before := settled initialized
        have after := before.onVariables requestSeq vars
        have current : Current host.panel.session watch.value := by
          rcases List.mem_append.mp watchIn with old | new
          · exact before watch old
          · have found := after watch new
            rwa [session_onVariables] at found
        rcases current with noRequest | sent
        · have number : watch.value.dapChildVariableRequestSequence.number =
              requestSeq := holds
          have positive := enabled.1
          rw [← number, noRequest] at positive
          exact absurd positive (Int.lt_irrefl 0)
        · exact sent
      · trivial
  | _ => exact Iff.rfl

/-- A step that meets the law keeps the watches of the session current. -/
theorem settled_of_nothingCarried
    (settled : Settled host)
    (law : NothingCarried host label)
    (taken : step host label = some next) :
    Settled next := by
  rcases step_eq_some taken with ⟨_, panelEq, initializedEq⟩
  intro initialized
  rw [panelEq]
  rw [initializedEq] at initialized
  by_cases isReset : label = .clientReset
  · subst isReset
    cases initialized
  · by_cases isEvent : label = .initializedEvent
    · subst isEvent
      exact allCurrent_of_isReset law
    · have before : host.initialized = true := by
        cases label with
        | clientReset => exact absurd rfl isReset
        | initializedEvent => exact absurd rfl isEvent
        | _ => exact initialized
      exact (settled before).handle isReset

end Laws

/--
In every run nothing is carried over exactly when every initialized event
finds the watches as after a reset.
-/
theorem nothing_carried_iff
    {labels : List Label}
    {reached : Host}
    (ran : run step Host.initial labels = some reached) :
    Along step NothingCarried Host.initial labels ↔
      Along step AlreadyReset Host.initial labels := by
  have start : Settled Host.initial := by
    intro initialized
    cases initialized
  apply along_congr _ _ start (along_of_run ran)
  · intro host label settled enabled
    rcases enabled with ⟨next, taken⟩
    exact nothingCarried_iff_alreadyReset settled (step_eq_some taken).1
  · intro host label next settled _ law taken
    exact settled_of_nothingCarried settled law taken

/-! ## Two sessions -/

/-- A scope of local variables. -/
def locals : Scope :=
  { Scope.fresh with
    name := "Locals".toList
    variablesReference := 1 }

/-- In a session the user watches a variable that the locals have. -/
def firstSession : List Label :=
  [.clientReset, .initializedEvent, .addWatch "point".toList,
    .onScopes false [locals],
    .onVariables 1 [structuredVariable "point"]]

/-- The next session, whose locals are answered under the same number. -/
def secondSession : List Label :=
  [.clientReset, .initializedEvent, .onScopes false [locals],
    .onVariables 1 [structuredVariable "corner"]]

/-- A watch that is only added in the last session carries nothing over. -/
theorem nothing_carried_firstSession :
    Along step NothingCarried Host.initial
      ([.clientReset, .initializedEvent] ++ firstSession) := by
  apply (nothing_carried_iff rfl).mpr
  decide

/-- The watch is not reset when the second session is initialized. -/
theorem nothing_carried_false :
    (∃ reached, run step Host.initial (firstSession ++ secondSession) =
        some reached) ∧
      ¬Along step NothingCarried Host.initial
        (firstSession ++ secondSession) := by
  refine ⟨⟨_, rfl⟩, ?_⟩
  intro along
  have second := along.right rfl
  have law := (second.2 _ rfl).1
  have isReset := law _ List.mem_cons_self
  exact absurd isReset.reference (by decide)

end DebuggerDap.Watches.Sessions
