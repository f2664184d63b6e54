import DebuggerDap.Breakpoints.Editing
import DebuggerDap.Library.XmlTree

/-!
# The state file of a project

Beside a project lies a file that is meant to keep its breakpoints and
watches.  The plugin, the breakpoints and the watches each build a document
of their own and write it to this file; each also opens the file to load its
part.  A document is read back as it was written.

The watches are shared objects as the breakpoints are.  The dialog that shows
them belongs to the IDE: whether it finds a watch it is to remove, and so has
the plugin delete it, is part of the surroundings.
-/

namespace DebuggerDap.Persistence.StateFile

open DebuggerDap.Text.Strings
open DebuggerDap.Library.KeyIndex
open DebuggerDap.Library.XmlTree
open DebuggerDap.Breakpoints.Store
open DebuggerDap.Breakpoints.Editing

/-! ## The surroundings -/

/-- What is read of a project. -/
structure ProjectInfo where
  filename : WxString
  title : WxString
  compilerName : WxString
  dbgConfig : WxString

/-- The configuration, the projects and the libraries. -/
structure Ide where
  persistDebugElements : Bool
  projectInfo : Project → ProjectInfo
  /-- The full path of a file with the extension `bps`. -/
  bpsFile : WxString → WxString
  bitness64 : Bool
  /-- `wxString::ToLong`. -/
  toLong : WxString → Option Int
  /-- What a variable holds that was never set. -/
  indeterminate : Int
  /-- The watches dialog finds the watch it is to remove. -/
  removes : Ref → Bool

/-! ## Texts -/

def boolTowxString (value : Bool) : WxString :=
  if value then "True".toList else "False".toList

/-- `IsSameAs` without regard to case. -/
def isSameAs (left right : WxString) : Bool :=
  left.map Char.toLower == right.map Char.toLower

def wxStringToBool (value : WxString) : Bool :=
  isSameAs value "True".toList

/-- `%d` and `%ld`. -/
def intTowxString (value : Int) : WxString :=
  (toString value).toList

/-- `%#018llx`, or `%#10llx` on 32 bits; zero has no prefix. -/
def hexTowxString (bitness64 : Bool) (value : Nat) : WxString :=
  let digits := Nat.toDigits 16 value
  let marked := if value = 0 then [] else "0x".toList
  let length := marked.length + digits.length
  if bitness64 then
    marked ++ List.replicate (18 - length) '0' ++ digits
  else List.replicate (10 - length) ' ' ++ marked ++ digits

/-! ## Documents -/

abbrev XmlElement := Element WxString WxString

/-- A document, by its elements. -/
abbrev Document := List XmlElement

/-- `XML_CFG_ROOT_TAG`. -/
def rootTag : WxString :=
  "Debugger_layout_file".toList

def compilerNode (project : ProjectInfo) : XmlElement :=
  .ofFields "CompilerInfo".toList
    [("CompilerName".toList, project.compilerName),
      ("DBGconfig".toList, project.dbgConfig)]

def document (children : List XmlElement) : Document :=
  [.mk rootTag [] none children]

/-- A list of records, with their number as the code counts them. -/
def listNode (name : WxString) (count : Nat) (records : List XmlElement) :
    XmlElement :=
  .mk name [("count".toList, intTowxString count)] none records

/-- The text of a child; a child without text reads as the empty one. -/
def readChildNodewxString
    (pElementParent : XmlElement)
    (childName : WxString) : WxString :=
  (pElementParent.childText childName).getD []

def readChildNodeBool
    (pElementParent : XmlElement)
    (childName : WxString) : Bool :=
  wxStringToBool (readChildNodewxString pElementParent childName)

/-- A text that is no number leaves the variable as it was. -/
def readChildNodeLong
    (ide : Ide)
    (pElementParent : XmlElement)
    (childName : WxString) : Int :=
  (ide.toLong (readChildNodewxString pElementParent childName)).getD
    ide.indeterminate

/-- The number as a 32 bit integer. -/
def readChildNodeInt
    (ide : Ide)
    (pElementParent : XmlElement)
    (childName : WxString) : Int :=
  (BitVec.ofInt 32 (readChildNodeLong ide pElementParent childName)).toInt

/-! ## Breakpoints -/

/-- The members of `DAPBreakpoint` only the state file is about. -/
structure Details where
  temporary : Bool
  active : Bool
  useIgnoreCount : Bool
  ignoreCount : Int
  useCondition : Bool
  wantsCondition : Bool
  condition : WxString
  function : WxString
  address : Nat
  alreadySet : Bool
  lineText : WxString
  breakOnRead : Bool
  breakOnWrite : Bool
  deriving DecidableEq, Repr

/-- What the constructors set. -/
def Details.initial : Details where
  temporary := false
  active := true
  useIgnoreCount := false
  ignoreCount := 0
  useCondition := false
  wantsCondition := false
  condition := []
  function := []
  address := 0
  alreadySet := false
  lineText := []
  breakOnRead := false
  breakOnWrite := true

/-- `GetTypewxString`. -/
def getTypewxString : BreakpointType → WxString
  | .bptCode => "bptCode".toList
  | .bptFunction => "bptFunction".toList
  | .bptData => "bptData".toList

def saveBreakpointToXML
    (ide : Ide)
    (title : WxString)
    (breakpoint : DapBreakpoint)
    (details : Details) : XmlElement :=
  .ofFields "Breakpoint".toList
    [("type".toList, getTypewxString breakpoint.type),
      ("projectTitle".toList, title),
      ("filename".toList, breakpoint.filename),
      ("line".toList, intTowxString breakpoint.line),
      ("temporary".toList, boolTowxString details.temporary),
      ("enabled".toList, boolTowxString breakpoint.enabled),
      ("active".toList, boolTowxString details.active),
      ("useIgnoreCount".toList, boolTowxString details.useIgnoreCount),
      ("ignoreCount".toList, intTowxString details.ignoreCount),
      ("useCondition".toList, boolTowxString details.useCondition),
      ("wantsCondition".toList, boolTowxString details.wantsCondition),
      ("condition".toList, details.condition),
      ("function".toList, details.function),
      ("address".toList, hexTowxString ide.bitness64 details.address),
      ("alreadySet".toList, boolTowxString details.alreadySet),
      ("lineText".toList, details.lineText),
      ("breakAddress".toList, breakpoint.breakAddress),
      ("breakOnRead".toList, boolTowxString details.breakOnRead),
      ("breakOnWrite".toList, boolTowxString details.breakOnWrite)]

/-! ## Watches -/

/-- `DAPWatch::WatchFormat`. -/
inductive WatchFormat where
  | undefined
  | decimal
  | unsigned
  | hex
  | binary
  | char
  | float
  | last
  | any
  deriving DecidableEq, Repr

def getWatchFormatTowxString : WatchFormat → WxString
  | .undefined => "Undefined".toList
  | .decimal => "Decimal".toList
  | .unsigned => "Unsigned".toList
  | .hex => "Hex".toList
  | .binary => "Binary".toList
  | .char => "Char".toList
  | .float => "Float".toList
  | .last => "Last".toList
  | .any => "Any".toList

/-- The names are tried in this order. -/
def getWatchFormatFromwxString (wFormat : WxString) : WatchFormat :=
  let formats : List WatchFormat :=
    [.undefined, .decimal, .unsigned, .hex, .binary, .char, .float, .last,
      .any]
  (formats.find? fun format =>
    isSameAs wFormat (getWatchFormatTowxString format)).getD .undefined

/--
The members of `DAPWatch` the state file is about.  The class name is always
the same: the constructor sets it, and a watch of another class is not
loaded.
-/
structure DapWatch where
  project : Option Project
  symbol : WxString
  value : WxString
  type : WxString
  format : WatchFormat
  debugString : WxString
  hasBeenExpanded : Bool
  /-- `m_for_tooltip`. -/
  forTooltip : Bool
  deleteOnCollapse : Bool
  arrayStart : Int
  arrayEnd : Int
  isArray : Bool
  /-- `m_forTooltip`. -/
  setForTooltip : Bool
  deriving DecidableEq, Repr

def dapWatchClassName : WxString :=
  "DAPWatch".toList

def saveWatchToXML (title : WxString) (watch : DapWatch) : XmlElement :=
  .ofFields "Watch".toList
    [("DAPWatchClassName".toList, dapWatchClassName),
      ("projectTitle".toList, title),
      ("symbol".toList, watch.symbol),
      ("type".toList, watch.type),
      ("format".toList, getWatchFormatTowxString watch.format),
      ("debug_string".toList, watch.debugString),
      ("has_been_expanded".toList, boolTowxString watch.hasBeenExpanded),
      ("for_tooltip".toList, boolTowxString watch.forTooltip),
      ("delete_on_collapse".toList, boolTowxString watch.deleteOnCollapse),
      ("array_start".toList, intTowxString watch.arrayStart),
      ("array_end".toList, intTowxString watch.arrayEnd),
      ("is_array".toList, boolTowxString watch.isArray),
      ("forTooltip".toList, boolTowxString watch.setForTooltip)]

/-- `is_array` is written as a Boolean and read as a number. -/
def loadWatchFromXML
    (ide : Ide)
    (project : Project)
    (pElementWatch : XmlElement) : DapWatch where
  project := some project
  symbol := readChildNodewxString pElementWatch "symbol".toList
  value := readChildNodewxString pElementWatch "value".toList
  type := readChildNodewxString pElementWatch "type".toList
  format :=
    getWatchFormatFromwxString
      (readChildNodewxString pElementWatch "format".toList)
  debugString := readChildNodewxString pElementWatch "debug_string".toList
  hasBeenExpanded :=
    readChildNodeBool pElementWatch "has_been_expanded".toList
  forTooltip := readChildNodeBool pElementWatch "for_tooltip".toList
  deleteOnCollapse :=
    readChildNodeBool pElementWatch "delete_on_collapse".toList
  arrayStart := readChildNodeInt ide pElementWatch "array_start".toList
  arrayEnd := readChildNodeLong ide pElementWatch "array_end".toList
  isArray := readChildNodeLong ide pElementWatch "is_array".toList ≠ 0
  setForTooltip := readChildNodeBool pElementWatch "forTooltip".toList

/-! ## The containers -/

/-- `m_DAP_watches` holds objects in use. -/
structure Watches where
  heap : Heap DapWatch
  watches : List Ref
  inUse : ∀ ref ∈ watches, ref < heap.size

/-- Everything a project is closed and opened with. -/
structure Workspace where
  store : Store
  /-- The other members of the breakpoints. -/
  details : Ref → Details
  watches : Watches
  files : WxString → Option Document

namespace Watches

def watch (container : Watches) (ref : Ref) : DapWatch :=
  container.heap.read ref

def deleteWatch (ref : Ref) (container : Watches) : Watches :=
  { container with
    watches := container.watches.erase ref
    inUse := fun other member =>
      container.inUse other (List.mem_of_mem_erase member) }

/-- `RemoveWatch` of the dialog has the plugin delete a watch it finds. -/
def removeWatch (ide : Ide) (ref : Ref) (container : Watches) : Watches :=
  if ide.removes ref then container.deleteWatch ref else container

def pushBack (watch : DapWatch) (container : Watches) : Watches where
  heap := container.heap.allocate watch
  watches := container.watches ++ [container.heap.size]
  inUse := by
    intro ref member
    rcases List.mem_append.mp member with old | new
    · exact Nat.lt_succ_of_lt (container.inUse ref old)
    · rw [List.mem_singleton.mp new]
      exact Nat.lt_succ_self container.heap.size

/-- The test of the search for a duplicate. -/
def same (container : Watches) (watch : DapWatch) (ref : Ref) : Bool :=
  watch.symbol = (container.watch ref).symbol &&
    watch.project = (container.watch ref).project &&
    watch.type = (container.watch ref).type

/--
`AddWatch` of a loaded watch takes the place of a duplicate.  It is shown and
expanded, which only sends requests.
-/
def addWatch (ide : Ide) (watch : DapWatch) (container : Watches) : Watches :=
  let kept :=
    match container.watches.find? (container.same watch) with
    | some ref => container.removeWatch ide ref
    | none => container
  kept.pushBack watch

/-- The loop of `LoadStateFromFile` over the watches. -/
def loadWatches
    (ide : Ide)
    (pProject : Project) : List XmlElement → Watches → Watches
  | [], container => container
  | pWatchElement :: rest, container =>
      let className :=
        readChildNodewxString pWatchElement "DAPWatchClassName".toList
      let watch := loadWatchFromXML ide pProject pWatchElement
      if className = dapWatchClassName ∧ watch.symbol ≠ [] then
        loadWatches ide pProject rest (container.addWatch ide watch)
      else loadWatches ide pProject rest container

/--
The loop of `CleanupWhenProjectClosed` goes from the bottom to the top, so
that removing a watch does not move those still to come.
-/
def removeOf (ide : Ide) (project : Project) :
    List Ref → Watches → Watches
  | [], container => container
  | ref :: above, container =>
      if (container.watch ref).project = some project then
        removeOf ide project above (container.removeWatch ide ref)
      else removeOf ide project above container

end Watches

/-! ## Saving -/

namespace Workspace

def filename (ide : Ide) (pProject : Project) : WxString :=
  (ide.projectInfo pProject).filename

/-- Write a document to the state file; a project without a name has none. -/
def saveFile
    (ide : Ide)
    (pProject : Project)
    (children : List XmlElement)
    (workspace : Workspace) : Workspace :=
  if filename ide pProject = [] then workspace
  else
    { workspace with
      files :=
        Function.update workspace.files
          (ide.bpsFile (filename ide pProject))
          (some (document
            (compilerNode (ide.projectInfo pProject) :: children))) }

/-- `DBG_DAP_Breakpoints::SaveStateToFile`. -/
def saveBreakpoints
    (ide : Ide)
    (pProject : Project)
    (workspace : Workspace) : Workspace :=
  let store := workspace.store
  let title := (ide.projectInfo pProject).title
  let saved :=
    store.breakpoints.filter fun ref =>
      (store.breakpoint ref).project = some pProject
  let records :=
    saved.map fun ref =>
      saveBreakpointToXML ide title (store.breakpoint ref)
        (workspace.details ref)
  workspace.saveFile ide pProject
    [listNode "BreakpointsList".toList store.breakpoints.length records]

/-- The watches of a project, without those of tooltips. -/
def savedWatches (pProject : Project) (workspace : Workspace) : List Ref :=
  workspace.watches.watches.filter fun ref =>
    (workspace.watches.watch ref).project = some pProject &&
      !(workspace.watches.watch ref).forTooltip

/-- `DBG_DAP_Watches::SaveStateToFile`. -/
def saveWatches
    (ide : Ide)
    (pProject : Project)
    (workspace : Workspace) : Workspace :=
  let title := (ide.projectInfo pProject).title
  let records :=
    (workspace.savedWatches pProject).map fun ref =>
      saveWatchToXML title (workspace.watches.watch ref)
  workspace.saveFile ide pProject
    [listNode "WatchesList".toList workspace.watches.watches.length records]

/--
`Debugger_DAP::SaveStateToFile`: after the breakpoints and the watches have
written theirs, the plugin writes a document that has neither.
-/
def saveState
    (ide : Ide)
    (pProject : Project)
    (workspace : Workspace) : Workspace :=
  if filename ide pProject = [] then workspace
  else
    ((workspace.saveBreakpoints ide pProject).saveWatches ide
      pProject).saveFile ide pProject []

/-! ## Loading -/

/-- The root of the state file, if there is one. -/
def loadRoot (ide : Ide) (pProject : Project) (workspace : Workspace) :
    Option XmlElement :=
  if filename ide pProject = [] then none
  else
    (workspace.files (ide.bpsFile (filename ide pProject))).bind
      (Element.first rootTag)

/-- A breakpoint with the place of the new one takes over its settings. -/
def updateFrom
    (bpNew : DapBreakpoint)
    (detailsNew : Details)
    (workspace : Workspace)
    (ref : Ref) : Workspace :=
  let bpSearch := workspace.store.breakpoint ref
  if bpSearch.project = bpNew.project ∧
      bpSearch.filename = bpNew.filename ∧ bpSearch.line = bpNew.line then
    { workspace with
      store := workspace.store.modify ref (.setIsEnabled bpNew.enabled)
      details :=
        Function.update workspace.details ref
          { workspace.details ref with
            useIgnoreCount := detailsNew.useIgnoreCount
            ignoreCount := detailsNew.ignoreCount
            useCondition := detailsNew.useCondition
            condition := detailsNew.condition } }
  else workspace

/--
What `LoadStateFromFile` does for every saved breakpoint.  It makes a new one
of the project, which is never read from the element, and looks for it among
those there are.
-/
def loadBreakpoint (pProject : Project) (workspace : Workspace) : Workspace :=
  workspace.store.breakpoints.foldl
    (updateFrom (.new (some pProject) [] (-1) (-1)) .initial) workspace

/-- `DBG_DAP_Breakpoints::LoadStateFromFile`. -/
def loadBreakpoints
    (ide : Ide)
    (pProject : Project)
    (workspace : Workspace) : Workspace :=
  match
    (workspace.loadRoot ide pProject).bind fun root =>
      Element.first "BreakpointsList".toList root.children
  with
  | none => workspace
  | some pBreakpointList =>
      (Element.onward "Breakpoint".toList pBreakpointList.children).foldl
        (fun workspace _ => workspace.loadBreakpoint pProject) workspace

/-- `DBG_DAP_Watches::LoadStateFromFile`. -/
def loadWatches
    (ide : Ide)
    (pProject : Project)
    (workspace : Workspace) : Workspace :=
  match
    (workspace.loadRoot ide pProject).bind fun root =>
      Element.first "WatchesList".toList root.children
  with
  | none => workspace
  | some pElementWatchesList =>
      { workspace with
        watches :=
          workspace.watches.loadWatches ide pProject
            (Element.onward "Watch".toList pElementWatchesList.children) }

/-- `Debugger_DAP::LoadStateFromFile`. -/
def loadState
    (ide : Ide)
    (pProject : Project)
    (workspace : Workspace) : Workspace :=
  match workspace.loadRoot ide pProject with
  | none => workspace
  | some _ =>
      (workspace.loadBreakpoints ide pProject).loadWatches ide pProject

/-! ## Closing and opening a project -/

/-- `DBG_DAP_Breakpoints::CleanupWhenProjectClosed`. -/
def cleanupBreakpoints
    (ide : Ide)
    (project : Project)
    (workspace : Workspace) : Workspace :=
  let saved :=
    if ide.persistDebugElements then workspace.saveBreakpoints ide project
    else workspace
  { saved with store := clearMaps (clearBreakpoints saved.store) }

/-- `DBG_DAP_Watches::CleanupWhenProjectClosed`. -/
def cleanupWatches
    (ide : Ide)
    (pProject : Project)
    (workspace : Workspace) : Workspace :=
  let saved :=
    if ide.persistDebugElements then workspace.saveWatches ide pProject
    else workspace
  { saved with
    watches :=
      saved.watches.removeOf ide pProject saved.watches.watches.reverse }

/-- `Debugger_DAP::CleanupWhenProjectClosed`. -/
def cleanupWhenProjectClosed
    (ide : Ide)
    (project : Project)
    (workspace : Workspace) : Workspace :=
  let saved :=
    if ide.persistDebugElements then workspace.saveState ide project
    else workspace
  (saved.cleanupBreakpoints ide project).cleanupWatches ide project

/-- `Debugger_DAP::OnProjectOpened`. -/
def onProjectOpened
    (ide : Ide)
    (project : Project)
    (workspace : Workspace) : Workspace :=
  if ide.persistDebugElements then workspace.loadState ide project
  else workspace

end Workspace

end DebuggerDap.Persistence.StateFile
