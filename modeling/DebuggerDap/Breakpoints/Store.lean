import DebuggerDap.DapClient.State
import DebuggerDap.Library.KeyIndex
import DebuggerDap.Plugin.DebuggerState
import Std.Data.TreeMap.Lemmas

/-!
# The breakpoint store

`DBG_DAP_Breakpoints` holds every breakpoint in the vector `m_breakpoints`
and once more, file by file, in `m_map_filebreakpoints`; the containers share
the objects.  `m_map_fileSystemDap` remembers the path the adapter was given
for a file.

An operation is called in surroundings of the IDE it only reads.  What it
hands to `SetBreakpointsFile` is returned as a list of announcements.
Dereferencing the end of the map, or an iterator the vector has invalidated,
is a fault.
-/

namespace DebuggerDap.Breakpoints.Store

open DebuggerDap.Text.Strings
open DebuggerDap.Protocol.Messages
open DebuggerDap.DapClient.State
open DebuggerDap.Library.KeyIndex
open DebuggerDap.Plugin.DebuggerState

/-! ## Breakpoints -/

/-- A project of the workspace. -/
abbrev Project := Nat

/-- A shared pointer to a breakpoint. -/
abbrev Ref := Nat

/-- `DAPBreakpoint::BreakpointType`. -/
inductive BreakpointType where
  | bptCode
  | bptFunction
  | bptData
  deriving DecidableEq, Repr

/-- The members of `DAPBreakpoint` the store looks at. -/
structure DapBreakpoint where
  type : BreakpointType
  project : Option Project
  filename : WxString
  line : Int
  id : Int
  enabled : Bool
  breakAddress : WxString
  deriving DecidableEq, Repr

namespace DapBreakpoint

/-- The constructor for a breakpoint on a line of a file. -/
def new
    (project : Option Project)
    (filename : WxString)
    (line id : Int) : DapBreakpoint where
  type := .bptCode
  project := project
  filename := filename
  line := line
  id := id
  enabled := true
  breakAddress := []

def getLocation (breakpoint : DapBreakpoint) : WxString :=
  match breakpoint.type with
  | .bptCode => breakpoint.filename
  | .bptFunction => breakpoint.filename
  | .bptData => breakpoint.breakAddress

def setIsEnabled (enabled : Bool) (breakpoint : DapBreakpoint) :
    DapBreakpoint :=
  { breakpoint with enabled := enabled }

def setID (id : Int) (breakpoint : DapBreakpoint) : DapBreakpoint :=
  { breakpoint with id := id }

end DapBreakpoint

/-! ## The surroundings -/

/-- `eDebugTestingOptions`; any other number counts as `useNativePaths`. -/
inductive DebugTestingOption where
  | useNativePaths
  | useLinuxPathsOnWindowsWithDriveLetter
  | useLinuxPathsOnWindowsWithNoCollen
  | useLinuxPathsOnWindowsWithNoDriveLetter
  | useWindowsPathsWithDriveLetterRemoved
  | useRelativePathComparedToTheExecutable
  deriving DecidableEq, Repr

/-- The second argument of `UnixFilename`. -/
inductive PathFormat where
  | native
  | unix
  deriving DecidableEq, Repr

/-- What an operation of the store reads and does not change. -/
structure Surroundings where
  state : DebuggerState
  debugTestingChoice : DebugTestingOption
  debuggee : WxString
  findProjectForFile : WxString → Option Project
  unixFilename : WxString → PathFormat → WxString
  fileExists : WxString → Bool
  /-- `wxFileName::GetPath`. -/
  getPath : WxString → WxString
  /-- The full path after `wxFileName::MakeRelativeTo` a directory. -/
  makeRelativeTo : WxString → WxString → WxString
  /-- The next `push_back` to `m_breakpoints` has to reallocate. -/
  reallocates : Bool

namespace Surroundings

/-- The path of a file for the adapter, by the path option. -/
def dapPath (surroundings : Surroundings) (filename : WxString) : WxString :=
  match surroundings.debugTestingChoice with
  | .useNativePaths => surroundings.unixFilename filename .native
  | .useLinuxPathsOnWindowsWithDriveLetter =>
      surroundings.unixFilename filename .unix
  | .useLinuxPathsOnWindowsWithNoCollen =>
      let fn := surroundings.unixFilename filename .unix
      if fn.idxOf? ':' = some 1 then '/' :: fn.eraseIdx 1 else fn
  | .useLinuxPathsOnWindowsWithNoDriveLetter =>
      let fn := surroundings.unixFilename filename .unix
      if fn.idxOf? ':' = some 1 then fn.drop 2 else fn
  | .useWindowsPathsWithDriveLetterRemoved =>
      let fn := surroundings.unixFilename filename .native
      if fn.idxOf? ':' = some 1 then fn.drop 2 else fn
  | .useRelativePathComparedToTheExecutable =>
      let fn := surroundings.unixFilename filename .native
      if surroundings.fileExists fn then
        surroundings.makeRelativeTo fn
          (surroundings.getPath surroundings.debuggee)
      else fn

/-- The debugger is `Running` and `Stopped`. -/
def AtStop (surroundings : Surroundings) : Prop :=
  surroundings.state.isRunning = true ∧ surroundings.state.isStopped = true

instance (surroundings : Surroundings) : Decidable surroundings.AtStop :=
  inferInstanceAs (Decidable (_ ∧ _))

end Surroundings

/-- A `SetBreakpointsFile` call and the file it was made for. -/
structure Announcement where
  filename : WxString
  file : WxString
  lines : List SourceBreakpoint
  deriving DecidableEq, Repr

/-- The call as the client receives it. -/
def Announcement.call {κ : Type*} (announcement : Announcement) : ApiCall κ :=
  .setBreakpointsFile announcement.file announcement.lines

/-! ## The store -/

/-- The containers; `m_breakpoints` only holds objects in use. -/
structure Store where
  heap : Heap DapBreakpoint
  breakpoints : List Ref
  mapFilebreakpoints : Std.TreeMap WxString (List Ref)
  mapFileSystemDap : Std.TreeMap WxString WxString
  inUse : ∀ ref ∈ breakpoints, ref < heap.size

/-- The store of a new `DBG_DAP_Breakpoints`. -/
def Store.empty : Store where
  heap := { size := 0, read := fun _ => .new none [] (-1) (-1) }
  breakpoints := []
  mapFilebreakpoints := ∅
  mapFileSystemDap := ∅
  inUse _ member := absurd member List.not_mem_nil

/-- What goes wrong instead of an exception. -/
inductive Fault where
  | endDereferenced
  | invalidIterator
  deriving DecidableEq, Repr

/-- Where a composition does not fault, its first part does not. -/
theorem exists_ok_of_bind
    {α β : Type}
    {first : Except Fault α}
    {second : α → Except Fault β}
    {result : β}
    (ok : first >>= second = .ok result) :
    ∃ value, first = .ok value ∧ second value = .ok result := by
  cases first with
  | error fault => cases ok
  | ok value => exact ⟨value, rfl, ok⟩

/-- The store after an operation and what was announced. -/
structure Outcome where
  store : Store
  sent : List Announcement

namespace Store

def breakpoint (store : Store) (ref : Ref) : DapBreakpoint :=
  store.heap.read ref

/-- Call a setter of a breakpoint. -/
def modify
    (ref : Ref)
    (change : DapBreakpoint → DapBreakpoint)
    (store : Store) : Store :=
  { store with
    heap := store.heap.modify ref change
    inUse := store.inUse }

section Modify

variable (change : DapBreakpoint → DapBreakpoint) (store : Store)

@[simp]
theorem breakpoints_modify (ref : Ref) :
    (store.modify ref change).breakpoints = store.breakpoints :=
  rfl

@[simp]
theorem breakpoint_modify_self (ref : Ref) :
    (store.modify ref change).breakpoint ref =
      change (store.breakpoint ref) :=
  store.heap.read_modify_self ref change

theorem breakpoint_modify_of_ne {ref other : Ref} (different : other ≠ ref) :
    (store.modify ref change).breakpoint other = store.breakpoint other :=
  store.heap.read_modify_of_ne different change

/-- A setter that finds its value already there changes nothing. -/
theorem modify_of_fixed
    {ref : Ref}
    (fixed : change (store.breakpoint ref) = store.breakpoint ref) :
    store.modify ref change = store := by
  have read :
      Function.update store.heap.read ref (change (store.heap.read ref)) =
        store.heap.read :=
    (congrArg _ fixed).trans (Function.update_eq_self ref store.heap.read)
  rcases store with ⟨⟨size, contents⟩, breakpoints, files, paths, inUse⟩
  simp only [modify, Heap.modify] at read ⊢
  simp only [read]

end Modify

/-! ## The map of the files -/

/-- The test of the search loop: a breakpoint on the same line. -/
def onLineOf (store : Store) (bp other : Ref) : Bool :=
  (store.breakpoint other).line == (store.breakpoint bp).line

/-- `UpdateMapFileBreakPoints`: the map afterwards. -/
def updateMapFileBreakPoints
    (filename : WxString)
    (bp : Ref)
    (bAddBreakpoint : Bool)
    (store : Store) : Std.TreeMap WxString (List Ref) :=
  let map := store.mapFilebreakpoints
  match map[filename]? with
  | none => if bAddBreakpoint then map.insert filename [bp] else map
  | some filebreakpoints =>
      if filebreakpoints.any (store.onLineOf bp) then
        if bAddBreakpoint then map
        else if filebreakpoints.length = 1 then
          if map.size = 1 then ∅ else map.erase filename
        else map.insert filename (filebreakpoints.eraseP (store.onLineOf bp))
      else if bAddBreakpoint then map.insert filename (filebreakpoints ++ [bp])
      else map

/-- The lines of the enabled breakpoints among some, in their order. -/
def vlines (store : Store) (refs : List Ref) : List SourceBreakpoint :=
  (refs.filter fun bp => (store.breakpoint bp).enabled).map fun bp =>
    ⟨(store.breakpoint bp).line, []⟩

/--
The lines to announce for a file.  A file the map does not have is looked up
all the same, unless the map is empty.
-/
def lookUpLines (filename : WxString) (store : Store) :
    Except Fault (List SourceBreakpoint) :=
  if 0 < store.mapFilebreakpoints.size then
    match store.mapFilebreakpoints[filename]? with
    | none => .error .endDereferenced
    | some filebreakpoints => .ok (store.vlines filebreakpoints)
  else .ok []

/-- Remember the adapter path of a file, once. -/
def remember
    (surroundings : Surroundings)
    (filename : WxString)
    (store : Store) : Store :=
  { store with
    mapFileSystemDap :=
      store.mapFileSystemDap.insertIfNew filename
        (surroundings.dapPath filename) }

def updateDAPSetBreakpointsByFileName
    (surroundings : Surroundings)
    (filename : WxString)
    (store : Store) : Except Fault Outcome :=
  if surroundings.state.isRunning && surroundings.state.isStopped then do
    let lines ← store.lookUpLines filename
    .ok
      ⟨store.remember surroundings filename,
        [⟨filename, surroundings.dapPath filename, lines⟩]⟩
  else .ok ⟨store, []⟩

/-! ## The operations -/

def findBreakpoint
    (project : Option Project)
    (filename : WxString)
    (line : Int)
    (store : Store) : Option Ref :=
  store.breakpoints.find? fun ref =>
    (store.breakpoint ref).project = project &&
      (store.breakpoint ref).filename = filename &&
      (store.breakpoint ref).line = line

/-- The file an adapter path stands for: the first one it was given for. -/
def filenameBRK (filename : WxString) (store : Store) : WxString :=
  match
    store.mapFileSystemDap.toList.find? fun entry => entry.2 = filename
  with
  | some entry => entry.1
  | none => filename

/-- The breakpoint with an ID, unless the ID is missing. -/
def findID (id : Int) (store : Store) : Option Ref :=
  if id ≠ -1 then
    store.breakpoints.find? fun ref => (store.breakpoint ref).id = id
  else none

/-- Set the flag of a breakpoint and announce a file, if the flag changes. -/
def switch
    (surroundings : Surroundings)
    (filename : WxString)
    (bp : Ref)
    (bEnable : Bool)
    (store : Store) : Except Fault Outcome :=
  if (store.breakpoint bp).enabled ≠ bEnable then
    (store.modify bp (.setIsEnabled bEnable)).updateDAPSetBreakpointsByFileName
      surroundings filename
  else .ok ⟨store, []⟩

/-- Make a breakpoint that no container holds yet. -/
def make (breakpoint : DapBreakpoint) (store : Store) : Store :=
  { store with
    heap := store.heap.allocate breakpoint
    inUse := fun ref member => Nat.lt_succ_of_lt (store.inUse ref member) }

/-- A new breakpoint, in the map of the files and in the vector. -/
def listNew
    (project : Option Project)
    (filename : WxString)
    (line id : Int)
    (store : Store) : Store :=
  let newBreakpoint := store.heap.size
  let made := store.make (.new project filename line id)
  { made with
    mapFilebreakpoints :=
      made.updateMapFileBreakPoints filename newBreakpoint true
    breakpoints := made.breakpoints ++ [newBreakpoint]
    inUse := by
      intro ref member
      rcases List.mem_append.mp member with old | new
      · exact made.inUse ref old
      · rw [List.mem_singleton.mp new]
        exact Nat.lt_succ_self store.heap.size }

/-- The branch of `UpdateOrAddBreakpoint` that makes a new breakpoint. -/
def addNew
    (surroundings : Surroundings)
    (project : Option Project)
    (filename : WxString)
    (line id : Int)
    (store : Store) : Except Fault (Ref × Outcome) := do
  let listed := store.listNew project filename line id
  let outcome ← listed.updateDAPSetBreakpointsByFileName surroundings filename
  .ok (store.heap.size, outcome)

/-- `UpdateOrAddBreakpoint`, with the breakpoint it returns. -/
def updateOrAddBreakpoint
    (surroundings : Surroundings)
    (filename : WxString)
    (line : Int)
    (bEnable : Bool)
    (id : Int)
    (store : Store) : Except Fault (Ref × Outcome) :=
  let filenameBRK := store.filenameBRK filename
  match store.findID id with
  | some bp => do
      let outcome ← store.switch surroundings filenameBRK bp bEnable
      .ok (bp, outcome)
  | none =>
      let project := surroundings.findProjectForFile filenameBRK
      match store.findBreakpoint project filenameBRK line with
      | some bp => do
          let identified :=
            if id ≠ -1 then store.modify bp (.setID id) else store
          let outcome ← identified.switch surroundings filenameBRK bp bEnable
          .ok (bp, outcome)
      | none => store.addNew surroundings project filenameBRK line id

def addBreakpoint
    (surroundings : Surroundings)
    (filename : WxString)
    (line : Int)
    (store : Store) : Except Fault (Ref × Outcome) :=
  store.updateOrAddBreakpoint surroundings filename line true (-1)

/-- A breakpoint taken out of the map of the files and of the vector. -/
def unlist (filename : WxString) (bp : Ref) (store : Store) : Store :=
  { store with
    mapFilebreakpoints := store.updateMapFileBreakPoints filename bp false
    breakpoints :=
      if store.breakpoints.length = 1 then []
      else store.breakpoints.erase bp
    inUse := by
      intro ref member
      split at member
      · cases member
      · exact store.inUse ref (List.mem_of_mem_erase member) }

def deleteBreakpoint
    (surroundings : Surroundings)
    (bp : Ref)
    (store : Store) : Except Fault Outcome :=
  if bp ∈ store.breakpoints then
    match (store.breakpoint bp).type with
    | .bptCode =>
        let brkFileName := (store.breakpoint bp).getLocation
        let unlisted := store.unlist brkFileName bp
        unlisted.updateDAPSetBreakpointsByFileName surroundings brkFileName
    | .bptData => .ok ⟨store, []⟩
    | .bptFunction => .ok ⟨store, []⟩
  else .ok ⟨store, []⟩

/--
`EnableBreakpoint`.  It holds an iterator into `m_breakpoints` while
`UpdateOrAddBreakpoint` may add to the vector.
-/
def enableBreakpoint
    (surroundings : Surroundings)
    (bp : Ref)
    (bEnable : Bool)
    (store : Store) : Except Fault Outcome :=
  let found := store.breakpoint bp
  if bp ∈ store.breakpoints then
    if found.enabled = bEnable then .ok ⟨store, []⟩
    else do
      let updated :=
        if surroundings.state.isRunning then
          store.updateOrAddBreakpoint surroundings found.getLocation
            found.line bEnable found.id
        else .ok (bp, ⟨store, []⟩)
      let (_, outcome) ← updated
      if store.breakpoints.length < outcome.store.breakpoints.length ∧
          surroundings.reallocates then
        .error .invalidIterator
      else
        .ok { outcome with
          store := outcome.store.modify bp (.setIsEnabled bEnable) }
  else .ok ⟨store, []⟩

end Store

/-! ## Operations as values -/

inductive Operation where
  | addBreakpoint (filename : WxString) (line : Int)
  | deleteBreakpoint (bp : Ref)
  | enableBreakpoint (bp : Ref) (bEnable : Bool)

/-- An operation and what it finds when it is called. -/
structure Call where
  surroundings : Surroundings
  operation : Operation

def Store.perform (call : Call) (store : Store) : Except Fault Outcome :=
  match call.operation with
  | .addBreakpoint filename line => do
      let (_, outcome) ← store.addBreakpoint call.surroundings filename line
      .ok outcome
  | .deleteBreakpoint bp => store.deleteBreakpoint call.surroundings bp
  | .enableBreakpoint bp bEnable =>
      store.enableBreakpoint call.surroundings bp bEnable

/-- The next state of the store, if the operation does not fault. -/
def Store.step (store : Store) (call : Call) : Option Store :=
  match store.perform call with
  | .ok outcome => some outcome.store
  | .error _ => none

end DebuggerDap.Breakpoints.Store
