import DebuggerDap.Breakpoints.Grouping

/-!
# Editing whole files and handling replies

The other operations of the store work in loops: `DeleteAllBreakpoints`
empties the containers, `ShiftAllFileBreakpoints` moves the breakpoints below
an edit of a file and deletes those on removed lines, and
`OnBreakpointDataSet` hands every entry of a reply to
`UpdateOrAddBreakpoint`.

For each operation there is one lemma on what it can leave behind.
-/

namespace DebuggerDap.Breakpoints.Editing

open DebuggerDap.Text.Strings
open DebuggerDap.Protocol.Messages
open DebuggerDap.Library.KeyIndex
open DebuggerDap.Breakpoints.Store
open DebuggerDap.Breakpoints.Grouping

/-! ## Loops -/

/-- A loop that performs one operation for every item. -/
def forEach
    {ι : Type}
    (act : ι → Store → Except Fault Outcome) :
    List ι → Store → Except Fault Outcome
  | [], store => .ok ⟨store, []⟩
  | item :: items, store => do
      let first ← act item store
      let later ← forEach act items first.store
      .ok ⟨later.store, first.sent ++ later.sent⟩

section ForEach

variable {ι : Type} {act : ι → Store → Except Fault Outcome}
variable {item : ι} {items : List ι} {store : Store} {outcome : Outcome}

/-- A loop that does not fault begins with an item that does not. -/
theorem forEach_cons_ok
    (looped : forEach act (item :: items) store = .ok outcome) :
    ∃ first later,
      act item store = .ok first ∧
        forEach act items first.store = .ok later ∧
        outcome = ⟨later.store, first.sent ++ later.sent⟩ := by
  rw [forEach] at looped
  rcases exists_ok_of_bind looped with ⟨first, acted, rest⟩
  rcases exists_ok_of_bind rest with ⟨later, loopedRest, same⟩
  cases same
  exact ⟨first, later, acted, loopedRest, rfl⟩

theorem forEach_cons_of_ok
    {first later : Outcome}
    (acted : act item store = .ok first)
    (looped : forEach act items first.store = .ok later) :
    forEach act (item :: items) store =
      .ok ⟨later.store, first.sent ++ later.sent⟩ := by
  rw [forEach, acted]
  show (forEach act items first.store >>= _) = _
  rw [looped]
  rfl

/-- What relates the store before and after every item relates the ends. -/
theorem forEach_relates
    {relation : Store → Store → Prop}
    (reflexive : ∀ store, relation store store)
    (transitive :
      ∀ {first second third},
        relation first second → relation second third →
          relation first third)
    (each :
      ∀ item ∈ items, ∀ store outcome,
        act item store = .ok outcome → relation store outcome.store)
    (looped : forEach act items store = .ok outcome) :
    relation store outcome.store := by
  induction items generalizing store outcome with
  | nil =>
      cases looped
      exact reflexive store
  | cons item items ih =>
      rcases forEach_cons_ok looped with
        ⟨first, later, acted, loopedRest, rfl⟩
      have here := each item List.mem_cons_self store first acted
      have rest :=
        ih (fun other member => each other (List.mem_cons_of_mem _ member))
          loopedRest
      exact transitive here rest

/-- What every item keeps is kept by the loop. -/
theorem forEach_invariant
    {invariant : Store → Prop}
    (each :
      ∀ item ∈ items, ∀ store outcome,
        invariant store → act item store = .ok outcome →
          invariant outcome.store)
    (start : invariant store)
    (looped : forEach act items store = .ok outcome) :
    invariant outcome.store := by
  let relation (before after : Store) : Prop :=
    invariant before → invariant after
  have related : relation store outcome.store :=
    forEach_relates (fun _ => id) (fun first second => second ∘ first)
      (fun item member store outcome acted kept =>
        each item member store outcome kept acted) looped
  exact related start

/-- An item that sends nothing only changes where the loop goes on from. -/
theorem forEach_cons_silent
    {next : Store}
    (acted : act item store = .ok ⟨next, []⟩) :
    forEach act (item :: items) store = forEach act items next := by
  rw [forEach, acted]
  show (do
    let later ← forEach act items next
    Except.ok (⟨later.store, [] ++ later.sent⟩ : Outcome)) = _
  cases forEach act items next with
  | error fault => rfl
  | ok later => rfl

/-- A loop whose items change nothing changes nothing. -/
theorem forEach_of_idle
    (idle : ∀ item ∈ items, act item store = .ok ⟨store, []⟩) :
    forEach act items store = .ok ⟨store, []⟩ := by
  induction items with
  | nil => rfl
  | cons item items ih =>
      rw [forEach_cons_silent (idle item List.mem_cons_self)]
      exact ih fun other member => idle other (List.mem_cons_of_mem _ member)

end ForEach

/-! ## Emptying the containers -/

/-- `ResetDataType`. -/
inductive ResetDataType where
  | normal
  | startup
  | all
  deriving DecidableEq, Repr

def clearBreakpoints (store : Store) : Store :=
  { store with
    breakpoints := []
    inUse := fun _ member => absurd member List.not_mem_nil }

def clearMaps (store : Store) : Store :=
  { store with
    mapFilebreakpoints := ∅
    mapFileSystemDap := ∅ }

def deleteAllBreakpoints
    (surroundings : Surroundings)
    (store : Store) : Outcome where
  store := clearBreakpoints (clearMaps store)
  sent :=
    if surroundings.state.isRunning then
      store.mapFilebreakpoints.keys.map fun filename =>
        ⟨filename, filename, []⟩
    else []

/-- `DAPDebuggerResetData`. -/
def debuggerResetData (bClearAllData : ResetDataType) (store : Store) : Store :=
  let kept := if bClearAllData = .all then clearBreakpoints store else store
  if bClearAllData = .startup ∨ bClearAllData = .all then clearMaps kept
  else kept

/-! ## Moving lines -/

def setShiftLines (linesToShift : Int) (breakpoint : DapBreakpoint) :
    DapBreakpoint :=
  { breakpoint with line := breakpoint.line + linesToShift }

/--
The loop of `ShiftAllFileBreakpoints`: the store with the shifted breakpoints
and the breakpoints to remove.
-/
def shiftLoop
    (project : Option Project)
    (filenameBRK : WxString)
    (startline lines : Int) : List Ref → Store → Store × List Ref
  | [], store => (store, [])
  | bp :: rest, store =>
      let later := shiftLoop project filenameBRK startline lines rest
      let brkline := (store.breakpoint bp).line
      if (store.breakpoint bp).project = project ∧
          (store.breakpoint bp).filename = filenameBRK ∧
          startline ≤ brkline then
        if lines < 0 then
          let endline := startline - lines - 1
          if endline < brkline then
            later (store.modify bp (setShiftLines lines))
          else if startline ≤ brkline ∧ brkline ≤ endline then
            let (shifted, brksToRemove) := later store
            (shifted, bp :: brksToRemove)
          else later store
        else later (store.modify bp (setShiftLines lines))
      else later store

/-- `ShiftAllFileBreakpoints`; it returns true in any case. -/
def shiftAllFileBreakpoints
    (surroundings : Surroundings)
    (editorFilename : WxString)
    (startline lines : Int)
    (store : Store) : Except Fault Outcome :=
  let filenameBRK := store.filenameBRK editorFilename
  let project := surroundings.findProjectForFile filenameBRK
  let (shifted, brksToRemove) :=
    shiftLoop project filenameBRK startline lines store.breakpoints store
  forEach (fun bp store => store.deleteBreakpoint surroundings bp)
    brksToRemove shifted

/-! ## Replies -/

/-- The members of a `Breakpoint` of a reply that are looked at. -/
structure Breakpoint where
  id : Int
  verified : Bool
  source : Source
  line : Int
  deriving DecidableEq, Repr

structure SetBreakpointsResponse where
  breakpoints : List Breakpoint
  /-- The file the request was made for, by the queue of the client. -/
  originSource : WxString
  deriving DecidableEq, Repr

/-- Update or add the breakpoint on a line of a file, enabled. -/
def updateTo
    (surroundings : Surroundings)
    (filename : WxString)
    (bp : Breakpoint)
    (store : Store) : Except Fault Outcome := do
  let (_, outcome) ←
    store.updateOrAddBreakpoint surroundings filename bp.line true bp.id
  .ok outcome

/-- The body of the inner loop: a breakpoint with a location, on the line. -/
def updateOnLine
    (surroundings : Surroundings)
    (bp : Breakpoint)
    (pBreakpoint : Ref)
    (store : Store) : Except Fault Outcome :=
  let filePath := (store.breakpoint pBreakpoint).getLocation
  if filePath ≠ [] ∧ (store.breakpoint pBreakpoint).line = bp.line then
    updateTo surroundings filePath bp store
  else .ok ⟨store, []⟩

/--
The body of the outer loop.  Without a path the inner loop goes over the
breakpoints there are at its start; `UpdateOrAddBreakpoint` only adds behind
them.
-/
def onEntry
    (surroundings : Surroundings)
    (bp : Breakpoint)
    (store : Store) : Except Fault Outcome :=
  if bp.line ≠ -1 ∧ bp.verified ∧ bp.source.path ≠ [] then
    updateTo surroundings bp.source.path bp store
  else if bp.line ≠ -1 ∧ bp.verified then
    forEach (updateOnLine surroundings bp) store.breakpoints store
  else .ok ⟨store, []⟩

def onBreakpointDataSet
    (surroundings : Surroundings)
    (resp : SetBreakpointsResponse)
    (store : Store) : Except Fault Outcome :=
  forEach (onEntry surroundings) resp.breakpoints store

/-! ## Operations as values -/

/-- What the IDE calls to edit the breakpoints. -/
inductive Edit where
  | operation (operation : Operation)
  | deleteAllBreakpoints
  | shiftAllFileBreakpoints
      (editorFilename : WxString)
      (startline lines : Int)

/-- What else happens to the store. -/
inductive Event where
  | edit (edit : Edit)
  | onBreakpointDataSet (resp : SetBreakpointsResponse)
  | debuggerResetData (bClearAllData : ResetDataType)

def performEdit
    (surroundings : Surroundings)
    (edit : Edit)
    (store : Store) : Except Fault Outcome :=
  match edit with
  | .operation operation => store.perform ⟨surroundings, operation⟩
  | .deleteAllBreakpoints => .ok (deleteAllBreakpoints surroundings store)
  | .shiftAllFileBreakpoints editorFilename startline lines =>
      shiftAllFileBreakpoints surroundings editorFilename startline lines
        store

def performEvent
    (surroundings : Surroundings)
    (event : Event)
    (store : Store) : Except Fault Outcome :=
  match event with
  | .edit edit => performEdit surroundings edit store
  | .onBreakpointDataSet resp => onBreakpointDataSet surroundings resp store
  | .debuggerResetData bClearAllData =>
      .ok ⟨debuggerResetData bClearAllData store, []⟩

/-- An edit and what it finds when it is called. -/
structure EditCall where
  surroundings : Surroundings
  edit : Edit

/-- An event and what it finds when it happens. -/
structure EventCall where
  surroundings : Surroundings
  event : Event

/-- The store after something that does not fault. -/
def storeOf : Except Fault Outcome → Option Store
  | .ok outcome => some outcome.store
  | .error _ => none

theorem exists_of_storeOf
    {result : Except Fault Outcome}
    {next : Store}
    (taken : storeOf result = some next) :
    ∃ outcome, result = .ok outcome ∧ next = outcome.store := by
  cases result with
  | error fault => cases taken
  | ok outcome =>
      cases taken
      exact ⟨outcome, rfl, rfl⟩

def editStep (store : Store) (call : EditCall) : Option Store :=
  storeOf (performEdit call.surroundings call.edit store)

def eventStep (store : Store) (call : EventCall) : Option Store :=
  storeOf (performEvent call.surroundings call.event store)

/-! ## What the operations leave behind -/

/-- Two stores that differ at most in the paths they remember. -/
structure SameLists (before after : Store) : Prop where
  heap : after.heap = before.heap
  breakpoints : after.breakpoints = before.breakpoints
  mapFilebreakpoints : after.mapFilebreakpoints = before.mapFilebreakpoints

namespace SameLists

variable {before after : Store}

theorem refl (store : Store) : SameLists store store :=
  ⟨rfl, rfl, rfl⟩

theorem breakpoint (same : SameLists before after) :
    after.breakpoint = before.breakpoint := by
  unfold Store.breakpoint
  rw [same.heap]

theorem grouped (same : SameLists before after) :
    Grouped after ↔ Grouped before := by
  unfold Grouped file drawer
  rw [same.breakpoint, same.breakpoints, same.mapFilebreakpoints]

end SameLists

section Leaving

variable {surroundings : Surroundings} {store : Store}
variable {filename : WxString} {bp : Ref} {bEnable : Bool}
variable {line id : Int} {outcome : Outcome}

theorem announce_leaves
    (announced :
      store.updateDAPSetBreakpointsByFileName surroundings filename =
        .ok outcome) :
    SameLists store outcome.store := by
  rw [Store.updateDAPSetBreakpointsByFileName] at announced
  split at announced
  · rcases exists_ok_of_bind announced with ⟨lines, -, same⟩
    cases same
    exact ⟨rfl, rfl, rfl⟩
  · cases announced
    exact SameLists.refl store

theorem switch_leaves
    (switched :
      store.switch surroundings filename bp bEnable = .ok outcome) :
    SameLists (store.modify bp (.setIsEnabled bEnable)) outcome.store := by
  rw [Store.switch] at switched
  split at switched
  · exact announce_leaves switched
  · next already =>
      cases switched
      have fixed :
          store.modify bp (.setIsEnabled bEnable) = store :=
        Store.modify_of_fixed _ _
          (by rw [DapBreakpoint.setIsEnabled, ← not_not.mp already])
      rw [fixed]
      exact SameLists.refl store

/-- Give a breakpoint an ID, unless the ID is missing. -/
def identify (bp : Ref) (id : Int) (store : Store) : Store :=
  if id ≠ -1 then store.modify bp (.setID id) else store

/--
`UpdateOrAddBreakpoint` switches the breakpoint with the ID; or else it gives
the ID to the breakpoint on the line of the file and switches that one; or
else it makes a new one.
-/
theorem updateOrAdd_cases
    (updated :
      store.updateOrAddBreakpoint surroundings filename line bEnable id =
        .ok (bp, outcome)) :
    let filenameBRK := store.filenameBRK filename
    let project := surroundings.findProjectForFile filenameBRK
    (store.findID id = some bp ∧
        SameLists (store.modify bp (.setIsEnabled bEnable))
          outcome.store) ∨
      (store.findID id = none ∧
        store.findBreakpoint project filenameBRK line = some bp ∧
        SameLists ((identify bp id store).modify bp (.setIsEnabled bEnable))
          outcome.store) ∨
      (store.findID id = none ∧
        store.findBreakpoint project filenameBRK line = none ∧
        bp = store.heap.size ∧
        SameLists (store.listNew project filenameBRK line id)
          outcome.store) := by
  intro filenameBRK project
  rw [Store.updateOrAddBreakpoint] at updated
  cases byID : store.findID id with
  | some found =>
      simp only [byID] at updated
      rcases exists_ok_of_bind updated with ⟨after, switched, same⟩
      cases same
      exact Or.inl ⟨rfl, switch_leaves switched⟩
  | none =>
      right
      cases byPlace : store.findBreakpoint project filenameBRK line with
      | some found =>
          simp only [byID, filenameBRK, project] at updated byPlace
          rw [byPlace] at updated
          rcases exists_ok_of_bind updated with ⟨after, switched, same⟩
          cases same
          exact Or.inl ⟨rfl, rfl, switch_leaves switched⟩
      | none =>
          simp only [byID, filenameBRK, project] at updated byPlace
          rw [byPlace] at updated
          rcases exists_ok_of_bind updated with ⟨after, announced, same⟩
          cases same
          exact Or.inr ⟨rfl, rfl, rfl, announce_leaves announced⟩

/-- `DeleteBreakpoint` unlists a listed breakpoint on code, and no other. -/
theorem delete_cases
    (deleted :
      store.deleteBreakpoint surroundings bp = .ok outcome) :
    (¬ (bp ∈ store.breakpoints ∧ (store.breakpoint bp).type = .bptCode) ∧
        outcome.store = store) ∨
      (bp ∈ store.breakpoints ∧ (store.breakpoint bp).type = .bptCode ∧
        SameLists (store.unlist (file store bp) bp) outcome.store) := by
  by_cases deletes :
      bp ∈ store.breakpoints ∧ (store.breakpoint bp).type = .bptCode
  · rw [deleteBreakpoint_code deletes.1 deletes.2] at deleted
    exact Or.inr ⟨deletes.1, deletes.2, announce_leaves deleted⟩
  · rw [deleteBreakpoint_none deletes] at deleted
    cases deleted
    exact Or.inl ⟨deletes, rfl⟩

/--
`EnableBreakpoint` may call `UpdateOrAddBreakpoint` before it sets the flag
of a listed breakpoint.
-/
theorem enable_cases
    (enabled :
      store.enableBreakpoint surroundings bp bEnable = .ok outcome) :
    outcome.store = store ∨
      (bp ∈ store.breakpoints ∧
        outcome.store = store.modify bp (.setIsEnabled bEnable)) ∨
      ∃ found updated,
        bp ∈ store.breakpoints ∧
          store.updateOrAddBreakpoint surroundings
              (store.breakpoint bp).getLocation (store.breakpoint bp).line
              bEnable (store.breakpoint bp).id = .ok (found, updated) ∧
          outcome.store =
            updated.store.modify bp (.setIsEnabled bEnable) := by
  rw [Store.enableBreakpoint] at enabled
  split at enabled
  · next listed =>
      split at enabled
      · cases enabled
        exact Or.inl rfl
      · right
        rcases exists_ok_of_bind enabled with ⟨⟨found, updated⟩, update, last⟩
        dsimp only at last
        split at last
        · cases last
        · cases last
          split at update
          · exact Or.inr ⟨found, updated, listed, update, rfl⟩
          · cases update
            exact Or.inl ⟨listed, rfl⟩
  · cases enabled
    exact Or.inl rfl

end Leaving

/-! ## What a shift leaves behind -/

section Shifting

/-- A breakpoint of the file on the first line of the edit, or below. -/
def Below
    (project : Option Project)
    (filenameBRK : WxString)
    (startline : Int)
    (breakpoint : DapBreakpoint) : Prop :=
  breakpoint.project = project ∧ breakpoint.filename = filenameBRK ∧
    startline ≤ breakpoint.line

instance
    (project : Option Project)
    (filenameBRK : WxString)
    (startline : Int)
    (breakpoint : DapBreakpoint) :
    Decidable (Below project filenameBRK startline breakpoint) :=
  inferInstanceAs (Decidable (_ ∧ _ ∧ _))

/--
A breakpoint on a line the edit removes; there are none when lines are
inserted.
-/
def OnRemovedLine
    (project : Option Project)
    (filenameBRK : WxString)
    (startline lines : Int)
    (breakpoint : DapBreakpoint) : Prop :=
  Below project filenameBRK startline breakpoint ∧
    breakpoint.line < startline - lines

instance
    (project : Option Project)
    (filenameBRK : WxString)
    (startline lines : Int)
    (breakpoint : DapBreakpoint) :
    Decidable
      (OnRemovedLine project filenameBRK startline lines breakpoint) :=
  inferInstanceAs (Decidable (_ ∧ _))

/-- A breakpoint after the edit, if it is not removed. -/
def moved
    (project : Option Project)
    (filenameBRK : WxString)
    (startline lines : Int)
    (breakpoint : DapBreakpoint) : DapBreakpoint :=
  if Below project filenameBRK startline breakpoint ∧
      startline - lines ≤ breakpoint.line then
    setShiftLines lines breakpoint
  else breakpoint

variable {project : Option Project} {filenameBRK : WxString}
variable {startline lines : Int} {bp : Ref} {refs : List Ref}
variable {store : Store}

/-- A move changes the line only. -/
theorem moved_eq (breakpoint : DapBreakpoint) :
    moved project filenameBRK startline lines breakpoint =
      { breakpoint with
        line :=
          (moved project filenameBRK startline lines breakpoint).line } := by
  unfold moved
  split <;> rfl

theorem type_moved (breakpoint : DapBreakpoint) :
    (moved project filenameBRK startline lines breakpoint).type =
      breakpoint.type := by
  rw [moved_eq]

/-- A breakpoint on a removed line stays where it is. -/
theorem moved_of_onRemovedLine
    {breakpoint : DapBreakpoint}
    (onRemovedLine :
      OnRemovedLine project filenameBRK startline lines breakpoint) :
    moved project filenameBRK startline lines breakpoint = breakpoint := by
  have before := onRemovedLine.2
  exact if_neg fun moves => absurd moves.2 (by omega)

theorem modify_congr
    {change other : DapBreakpoint → DapBreakpoint}
    (same : change (store.breakpoint bp) = other (store.breakpoint bp)) :
    store.modify bp change = store.modify bp other := by
  have heap : store.heap.modify bp change = store.heap.modify bp other := by
    unfold Heap.modify
    rw [show change (store.heap.read bp) = other (store.heap.read bp)
      from same]
  simp only [Store.modify, heap]

/-- One turn of the loop moves the breakpoint or keeps it to be removed. -/
theorem shiftLoop_cons :
    shiftLoop project filenameBRK startline lines (bp :: refs) store =
      let (shifted, brksToRemove) :=
        shiftLoop project filenameBRK startline lines refs
          (store.modify bp (moved project filenameBRK startline lines))
      (shifted,
        if OnRemovedLine project filenameBRK startline lines
            (store.breakpoint bp) then
          bp :: brksToRemove
        else brksToRemove) := by
  have stays
      (still :
        moved project filenameBRK startline lines (store.breakpoint bp) =
          store.breakpoint bp) :
      store.modify bp (moved project filenameBRK startline lines) = store :=
    Store.modify_of_fixed _ store still
  rw [shiftLoop]
  dsimp only
  by_cases below :
      Below project filenameBRK startline (store.breakpoint bp)
  · rw [if_pos (show _ ∧ _ ∧ _ from below)]
    by_cases kept : startline - lines ≤ (store.breakpoint bp).line
    · have shifts :
          store.modify bp (moved project filenameBRK startline lines) =
            store.modify bp (setShiftLines lines) :=
        modify_congr (if_pos ⟨below, kept⟩)
      have onKeptLine :
          ¬ OnRemovedLine project filenameBRK startline lines
            (store.breakpoint bp) :=
        fun removed => absurd removed.2 (by omega)
      have pastEndline :
          startline - lines - 1 < (store.breakpoint bp).line := by omega
      rw [if_pos pastEndline, ite_self, if_neg onKeptLine, shifts]
    · have onRemovedLine :
          OnRemovedLine project filenameBRK startline lines
            (store.breakpoint bp) := ⟨below, by omega⟩
      have onOrBelow := below.2.2
      rw [if_pos (by omega), if_neg (by omega), if_pos ⟨onOrBelow, by omega⟩,
        if_pos onRemovedLine,
        stays (if_neg fun moves => kept moves.2)]
  · rw [if_neg (show ¬ (_ ∧ _ ∧ _) from below),
      if_neg fun removed => below removed.1,
      stays (if_neg fun moves => below moves.1)]

/-- A breakpoint the shift changes is met once. -/
def MovedOnce
    (project : Option Project)
    (filenameBRK : WxString)
    (startline lines : Int)
    (refs : List Ref)
    (store : Store) : Prop :=
  ∀ ref ∈ refs,
    moved project filenameBRK startline lines (store.breakpoint ref) ≠
        store.breakpoint ref →
      refs.count ref = 1

instance : Decidable
    (MovedOnce project filenameBRK startline lines refs store) :=
  inferInstanceAs (Decidable (∀ ref ∈ refs, _))

theorem MovedOnce.of_nodup (distinct : refs.Nodup) :
    MovedOnce project filenameBRK startline lines refs store :=
  fun _ member _ => List.count_eq_one_of_mem distinct member

/-- A breakpoint that is met again is not changed. -/
theorem MovedOnce.untouched
    (once :
      MovedOnce project filenameBRK startline lines (bp :: refs) store) :
    ∀ ref ∈ refs,
      (store.modify bp
        (moved project filenameBRK startline lines)).breakpoint ref =
          store.breakpoint ref := by
  intro ref member
  by_cases again : ref = bp
  · subst again
    rw [Store.breakpoint_modify_self]
    by_contra changes
    have single := once ref List.mem_cons_self changes
    rw [List.count_cons_self] at single
    have positive := List.count_pos_iff.mpr member
    omega
  · exact Store.breakpoint_modify_of_ne _ store again

/-- The rest of the loop meets what it changes once. -/
theorem MovedOnce.rest
    (once :
      MovedOnce project filenameBRK startline lines (bp :: refs) store) :
    MovedOnce project filenameBRK startline lines refs
      (store.modify bp (moved project filenameBRK startline lines)) := by
  intro ref member changes
  rw [once.untouched ref member] at changes
  have single := once ref (List.mem_cons_of_mem bp member) changes
  rw [List.count_cons] at single
  have positive := List.count_pos_iff.mpr member
  omega

/--
The loop moves every breakpoint, and collects those on removed lines in
their order.
-/
theorem shiftLoop_leaves
    (once : MovedOnce project filenameBRK startline lines refs store) :
    let result :=
      shiftLoop project filenameBRK startline lines refs store
    result.1.breakpoints = store.breakpoints ∧
      result.1.mapFilebreakpoints = store.mapFilebreakpoints ∧
      (∀ ref, result.1.breakpoint ref =
        if ref ∈ refs then
          moved project filenameBRK startline lines (store.breakpoint ref)
        else store.breakpoint ref) ∧
      result.2 =
        refs.filter fun ref =>
          OnRemovedLine project filenameBRK startline lines
            (store.breakpoint ref) := by
  induction refs generalizing store with
  | nil => exact ⟨rfl, rfl, fun _ => rfl, rfl⟩
  | cons bp refs ih =>
      let next := store.modify bp (moved project filenameBRK startline lines)
      have untouched :
          ∀ ref ∈ refs, next.breakpoint ref = store.breakpoint ref :=
        once.untouched
      obtain ⟨breakpoints, map, objects, removed⟩ := @ih next once.rest
      rw [shiftLoop_cons]
      refine ⟨breakpoints, map, fun ref => ?_, ?_⟩
      · refine (objects ref).trans ?_
        by_cases later : ref ∈ refs
        · rw [if_pos later, if_pos (List.mem_cons_of_mem bp later),
            untouched ref later]
        · rw [if_neg later]
          by_cases same : ref = bp
          · rw [same, if_pos List.mem_cons_self,
              Store.breakpoint_modify_self]
          · rw [if_neg (by simp [same, later]),
              Store.breakpoint_modify_of_ne _ store same]
      · have rest :
            (refs.filter fun ref =>
                OnRemovedLine project filenameBRK startline lines
                  (next.breakpoint ref)) =
              refs.filter fun ref =>
                OnRemovedLine project filenameBRK startline lines
                  (store.breakpoint ref) :=
          List.filter_congr fun ref member => by
            rw [untouched ref member]
        dsimp only
        rw [removed, rest, List.filter_cons]
        simp only [decide_eq_true_eq]

/--
Deleting breakpoints on code in turn takes them out of the vector and leaves
the objects as they are.
-/
theorem deleteEach_leaves
    {surroundings : Surroundings}
    {outcome : Outcome}
    (code : ∀ ref ∈ store.breakpoints, (store.breakpoint ref).type = .bptCode)
    (deleted :
      forEach (fun bp store => store.deleteBreakpoint surroundings bp) refs
        store = .ok outcome) :
    outcome.store.heap = store.heap ∧
      outcome.store.breakpoints = store.breakpoints.diff refs := by
  induction refs generalizing store outcome with
  | nil =>
      cases deleted
      exact ⟨rfl, rfl⟩
  | cons bp refs ih =>
      rcases forEach_cons_ok deleted with ⟨first, later, acted, rest, rfl⟩
      obtain ⟨heap, breakpoints⟩ :
          first.store.heap = store.heap ∧
            first.store.breakpoints = store.breakpoints.erase bp := by
        rcases delete_cases acted with ⟨kept, same⟩ | ⟨listed, -, same⟩
        · have absent : bp ∉ store.breakpoints :=
            fun listed => kept ⟨listed, code bp listed⟩
          rw [same, List.erase_of_not_mem absent]
          exact ⟨rfl, rfl⟩
        · rw [same.heap, same.breakpoints, breakpoints_unlist listed]
          exact ⟨rfl, rfl⟩
      have codeRest :
          ∀ ref ∈ first.store.breakpoints,
            (first.store.breakpoint ref).type = .bptCode := by
        intro ref member
        rw [breakpoints] at member
        rw [Store.breakpoint, heap]
        exact code ref (List.mem_of_mem_erase member)
      rcases ih codeRest rest with ⟨heapRest, breakpointsRest⟩
      dsimp only
      rw [heapRest, breakpointsRest, heap, breakpoints, List.diff_cons]
      exact ⟨rfl, rfl⟩

/--
A shift takes out the breakpoints on removed lines and moves the others, if
it does not fault.
-/
theorem shift_leaves
    {surroundings : Surroundings}
    {editorFilename : WxString}
    {outcome : Outcome}
    (once :
      MovedOnce
        (surroundings.findProjectForFile (store.filenameBRK editorFilename))
        (store.filenameBRK editorFilename) startline lines store.breakpoints
        store)
    (code : ∀ ref ∈ store.breakpoints, (store.breakpoint ref).type = .bptCode)
    (shifted :
      shiftAllFileBreakpoints surroundings editorFilename startline lines
        store = .ok outcome) :
    let filenameBRK := store.filenameBRK editorFilename
    let project := surroundings.findProjectForFile filenameBRK
    (outcome.store.breakpoints =
        store.breakpoints.filter fun ref =>
          ¬ OnRemovedLine project filenameBRK startline lines
            (store.breakpoint ref)) ∧
      ∀ ref ∈ store.breakpoints,
        outcome.store.breakpoint ref =
          moved project filenameBRK startline lines
            (store.breakpoint ref) := by
  intro filenameBRK project
  let result :=
    shiftLoop project filenameBRK startline lines store.breakpoints store
  obtain ⟨breakpoints, -, objects, removed⟩ :=
    @shiftLoop_leaves project filenameBRK startline lines store.breakpoints
      store once
  have objectsMoved :
      ∀ ref ∈ store.breakpoints,
        result.1.breakpoint ref =
          moved project filenameBRK startline lines
            (store.breakpoint ref) :=
    fun ref member => (objects ref).trans (if_pos member)
  have codeMoved :
      ∀ ref ∈ result.1.breakpoints,
        (result.1.breakpoint ref).type = .bptCode := by
    intro ref member
    rw [breakpoints] at member
    rw [objectsMoved ref member, type_moved]
    exact code ref member
  rcases deleteEach_leaves codeMoved shifted with ⟨heap, left⟩
  constructor
  · rw [left, breakpoints, removed, diff_filter]
    apply List.filter_congr
    intro ref _
    rw [decide_not]
  · intro ref member
    rw [Store.breakpoint, heap]
    exact objectsMoved ref member

end Shifting

end DebuggerDap.Breakpoints.Editing
