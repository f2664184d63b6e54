import DebuggerDap.Persistence.StateFile
import Mathlib.Data.List.Count

/-!
# Closing a project and opening it again

Three documents are written to the state file when a project is closed, each
over the one before.  The last is that of the watches, so no breakpoint is
found in the file; and `m_breakpoints` is empty by then, where loading only
changes breakpoints it finds there.

The watches do come back: those of the project are gone when the file is
read, so none of the saved ones meets a duplicate.  Only those without a
symbol are passed over.
-/

namespace DebuggerDap.Persistence.RoundTrip

open DebuggerDap.Text.Strings (WxString)
open DebuggerDap.Library.KeyIndex
open DebuggerDap.Library.XmlTree
open DebuggerDap.Breakpoints.Store
open DebuggerDap.Breakpoints.Editing (clearBreakpoints clearMaps)
open DebuggerDap.Persistence.StateFile

/-! ## What is to be kept -/

/-- What is to be kept of a breakpoint. -/
structure KeptBreakpoint where
  filename : WxString
  line : Int
  enabled : Bool
  condition : WxString
  ignoreCount : Int
  deriving DecidableEq, Repr

/-- What is to be kept of a watch. -/
structure KeptWatch where
  symbol : WxString
  type : WxString
  format : WatchFormat
  deriving DecidableEq, Repr

def keptWatch (watch : DapWatch) : KeptWatch where
  symbol := watch.symbol
  type := watch.type
  format := watch.format

/-- The breakpoints of a project in `m_breakpoints`. -/
def breakpointsOf (project : Project) (workspace : Workspace) : List Ref :=
  workspace.store.breakpoints.filter fun ref =>
    (workspace.store.breakpoint ref).project = some project

def keptBreakpoints (project : Project) (workspace : Workspace) :
    List KeptBreakpoint :=
  (breakpointsOf project workspace).map fun ref =>
    { filename := (workspace.store.breakpoint ref).filename
      line := (workspace.store.breakpoint ref).line
      enabled := (workspace.store.breakpoint ref).enabled
      condition := (workspace.details ref).condition
      ignoreCount := (workspace.details ref).ignoreCount }

/-- The watches of a project in `m_DAP_watches`. -/
def watchesOf (project : Project) (container : Watches) : List DapWatch :=
  (container.watches.map container.watch).filter fun watch =>
    watch.project = some project

/-- A project is closed and opened again. -/
def reopened
    (ide : Ide)
    (project : Project)
    (workspace : Workspace) : Workspace :=
  (workspace.cleanupWhenProjectClosed ide project).onProjectOpened ide
    project

/--
Code breakpoints and watches of a project with distinct keys, none of the
watches for a tooltip, are to persist.  The dialog knows the watches it is to
remove.
-/
structure Persistable
    (ide : Ide)
    (project : Project)
    (workspace : Workspace) : Prop where
  persists : ide.persistDebugElements = true
  code :
    ∀ ref ∈ breakpointsOf project workspace,
      (workspace.store.breakpoint ref).type = .bptCode
  distinctBreakpoints :
    ((breakpointsOf project workspace).map fun ref =>
      ((workspace.store.breakpoint ref).filename,
        (workspace.store.breakpoint ref).line)).Nodup
  noTooltip :
    ∀ watch ∈ watchesOf project workspace.watches, watch.forTooltip = false
  distinctWatches :
    ((watchesOf project workspace.watches).map fun watch =>
      (watch.symbol, watch.type)).Nodup
  removes :
    ∀ ref ∈ workspace.watches.watches,
      (workspace.watches.watch ref).project = some project →
        ide.removes ref = true

/-- A project has what it had before, in any order. -/
structure RoundTrips
    (ide : Ide)
    (project : Project)
    (workspace : Workspace) : Prop where
  breakpoints :
    (keptBreakpoints project (reopened ide project workspace)).Perm
      (keptBreakpoints project workspace)
  watches :
    ((watchesOf project (reopened ide project workspace).watches).map
      keptWatch).Perm
      ((watchesOf project workspace.watches).map keptWatch)

/--
There is nothing to lose: no breakpoint, and no watch without a symbol or
without a file to keep it in.
-/
structure Restorable
    (ide : Ide)
    (project : Project)
    (workspace : Workspace) : Prop where
  noBreakpoint : breakpointsOf project workspace = []
  loadable :
    ∀ watch ∈ watchesOf project workspace.watches,
      watch.symbol ≠ [] ∧ Workspace.filename ide project ≠ []

/-! ## Reading a watch back -/

theorem watchFormat_roundTrip (format : WatchFormat) :
    getWatchFormatFromwxString (getWatchFormatTowxString format) =
      format := by
  cases format <;> decide

theorem readChildNodewxString_ofFields
    (name childName : WxString)
    (fields : List (WxString × WxString)) :
    readChildNodewxString (.ofFields name fields) childName =
      (fields.lookup childName).getD [] :=
  congrArg (Option.getD · []) (Element.childText_ofFields name childName fields)

section Reading

variable (ide : Ide) (project : Project) (title : WxString) (watch : DapWatch)

/-- A watch as it is read back from its own record. -/
def reread : DapWatch :=
  loadWatchFromXML ide project (saveWatchToXML title watch)

theorem saveWatchToXML_className :
    readChildNodewxString (saveWatchToXML title watch)
        "DAPWatchClassName".toList =
      dapWatchClassName :=
  readChildNodewxString_ofFields _ _ _

theorem reread_symbol :
    (reread ide project title watch).symbol = watch.symbol := by
  show readChildNodewxString (saveWatchToXML title watch) "symbol".toList = _
  exact readChildNodewxString_ofFields _ _ _

theorem reread_type :
    (reread ide project title watch).type = watch.type := by
  show readChildNodewxString (saveWatchToXML title watch) "type".toList = _
  exact readChildNodewxString_ofFields _ _ _

theorem reread_format :
    (reread ide project title watch).format = watch.format := by
  have read :
      readChildNodewxString (saveWatchToXML title watch) "format".toList =
        getWatchFormatTowxString watch.format :=
    readChildNodewxString_ofFields _ _ _
  calc (reread ide project title watch).format
      = getWatchFormatFromwxString (getWatchFormatTowxString watch.format) :=
        congrArg getWatchFormatFromwxString read
    _ = watch.format := watchFormat_roundTrip watch.format

theorem keptWatch_reread :
    keptWatch (reread ide project title watch) = keptWatch watch := by
  unfold keptWatch
  rw [reread_symbol, reread_type, reread_format]

end Reading

/-! ## Closing -/

/-- Between the two only files were written. -/
structure OnlyFiles (before after : Workspace) : Prop where
  store : after.store = before.store
  details : after.details = before.details
  watches : after.watches = before.watches

section Closing

variable (ide : Ide) (project : Project)

theorem watchesOf_pushBack
    {container : Watches}
    {watch : DapWatch}
    (own : watch.project = some project) :
    watchesOf project (container.pushBack watch) =
      watchesOf project container ++ [watch] := by
  have old :
      container.watches.map (container.pushBack watch).watch =
        container.watches.map container.watch :=
    List.map_congr_left fun ref member =>
      Heap.read_allocate_of_lt (container.inUse ref member) watch
  have new :
      (container.pushBack watch).watch container.heap.size = watch :=
    Heap.read_allocate_new watch container.heap
  have all :
      (container.pushBack watch).watches.map
          (container.pushBack watch).watch =
        container.watches.map container.watch ++ [watch] := by
    show (container.watches ++ [container.heap.size]).map _ = _
    rw [List.map_append, old, List.map_singleton, new]
  unfold watchesOf
  rw [all, List.filter_append]
  simp [own]

/-- Removing takes one occurrence of each watch of the project away. -/
theorem removeOf_leaves
    {container : Watches}
    {refs : List Ref}
    (removes :
      ∀ ref ∈ refs,
        (container.watch ref).project = some project →
          ide.removes ref = true) :
    (container.removeOf ide project refs).heap = container.heap ∧
      (container.removeOf ide project refs).watches =
        container.watches.diff
          (refs.filter fun ref =>
            (container.watch ref).project = some project) := by
  induction refs generalizing container with
  | nil => exact ⟨rfl, rfl⟩
  | cons ref above ih =>
      have removesAbove :
          ∀ other ∈ above,
            (container.watch other).project = some project →
              ide.removes other = true :=
        fun other member => removes other (List.mem_cons_of_mem ref member)
      rw [Watches.removeOf]
      by_cases own : (container.watch ref).project = some project
      · have removed :
            container.removeWatch ide ref = container.deleteWatch ref :=
          if_pos (removes ref List.mem_cons_self own)
        have rest := @ih (container.deleteWatch ref) removesAbove
        rw [if_pos own, removed, List.filter_cons_of_pos (by simpa using own),
          List.diff_cons]
        exact rest
      · rw [if_neg own, List.filter_cons_of_neg (by simpa using own)]
        exact ih removesAbove

/-- Taking out what is to go leaves the rest, in its order. -/
theorem diff_filter_eq (wanted : Ref → Bool) (refs : List Ref) :
    refs.diff (refs.filter wanted) =
      refs.filter fun ref => !wanted ref := by
  induction refs with
  | nil => rfl
  | cons ref refs inductionHypothesis =>
      cases goes : wanted ref with
      | true =>
          rw [List.filter_cons_of_pos goes, List.diff_cons,
            List.erase_cons_head, inductionHypothesis,
            List.filter_cons_of_neg (by simp [goes])]
      | false =>
          have stays : ref ∉ refs.filter wanted := fun member =>
            Bool.false_ne_true
              (goes.symm.trans (List.mem_filter.mp member).2)
          rw [List.filter_cons_of_neg (by simp [goes]),
            List.cons_diff_of_not_mem stays, inductionHypothesis,
            List.filter_cons_of_pos (by simp [goes])]

/-- The watches of the other projects stay. -/
theorem removeOf_reverse
    {container : Watches}
    (removes :
      ∀ ref ∈ container.watches,
        (container.watch ref).project = some project →
          ide.removes ref = true) :
    (container.removeOf ide project container.watches.reverse).watches =
      container.watches.filter fun ref =>
        (container.watch ref).project ≠ some project := by
  have left :=
    (removeOf_leaves ide project
      (fun ref member => removes ref (List.mem_reverse.mp member))).2
  have sameRefs :
      (container.watches.reverse.filter fun ref =>
          (container.watch ref).project = some project).Perm
        (container.watches.filter fun ref =>
          (container.watch ref).project = some project) :=
    (List.reverse_perm container.watches).filter _
  rw [left, List.Perm.diff_left _ sameRefs, diff_filter_eq]
  exact List.filter_congr fun ref _ => by simp

/-- After the loop of the closing no watch of the project is left. -/
theorem watchesOf_removeOf
    {container : Watches}
    (removes :
      ∀ ref ∈ container.watches,
        (container.watch ref).project = some project →
          ide.removes ref = true) :
    watchesOf project
        (container.removeOf ide project container.watches.reverse) =
      [] := by
  have heap :=
    (removeOf_leaves ide project
      (fun ref member => removes ref (List.mem_reverse.mp member))).1
  refine List.filter_eq_nil_iff.mpr fun watch member own => ?_
  rcases List.mem_map.mp member with ⟨ref, left, rfl⟩
  rw [removeOf_reverse ide project removes] at left
  rw [Watches.watch, heap] at own
  exact of_decide_eq_true (List.mem_filter.mp left).2 (of_decide_eq_true own)

variable (workspace : Workspace)

theorem savedWatches_watch
    (noTooltip :
      ∀ watch ∈ watchesOf project workspace.watches,
        watch.forTooltip = false) :
    (workspace.savedWatches project).map workspace.watches.watch =
      watchesOf project workspace.watches := by
  unfold watchesOf Workspace.savedWatches
  rw [List.filter_map]
  refine congrArg _ (List.filter_congr fun ref member => ?_)
  by_cases own : (workspace.watches.watch ref).project = some project
  · have saved : (workspace.watches.watch ref).forTooltip = false :=
      noTooltip _ (List.mem_filter.mpr
        ⟨List.mem_map_of_mem member, decide_eq_true own⟩)
    simp [own, saved]
  · simp [own]

theorem OnlyFiles.refl : OnlyFiles workspace workspace :=
  ⟨rfl, rfl, rfl⟩

theorem OnlyFiles.trans
    {before between after : Workspace}
    (first : OnlyFiles before between)
    (second : OnlyFiles between after) :
    OnlyFiles before after where
  store := second.store.trans first.store
  details := second.details.trans first.details
  watches := second.watches.trans first.watches

theorem onlyFiles_saveFile (children : List XmlElement) :
    OnlyFiles workspace (workspace.saveFile ide project children) := by
  unfold Workspace.saveFile
  split
  · exact .refl workspace
  · exact ⟨rfl, rfl, rfl⟩

theorem onlyFiles_saveState :
    OnlyFiles workspace (workspace.saveState ide project) := by
  unfold Workspace.saveState
  split
  · exact .refl workspace
  · have breakpoints :
        OnlyFiles workspace (workspace.saveBreakpoints ide project) :=
      onlyFiles_saveFile ide project workspace _
    have watches :
        OnlyFiles workspace
          ((workspace.saveBreakpoints ide project).saveWatches ide project) :=
      breakpoints.trans (onlyFiles_saveFile ide project _ _)
    exact watches.trans (onlyFiles_saveFile ide project _ _)

/-- The breakpoints are cleared, whose ever they are. -/
theorem cleanupBreakpoints_leaves :
    (workspace.cleanupBreakpoints ide project).store =
        clearMaps (clearBreakpoints workspace.store) ∧
      (workspace.cleanupBreakpoints ide project).details =
        workspace.details ∧
      (workspace.cleanupBreakpoints ide project).watches =
        workspace.watches := by
  unfold Workspace.cleanupBreakpoints
  by_cases persists : ide.persistDebugElements = true
  · have saved :
        OnlyFiles workspace (workspace.saveBreakpoints ide project) :=
      onlyFiles_saveFile ide project workspace _
    rw [if_pos persists]
    exact ⟨congrArg (fun store => clearMaps (clearBreakpoints store))
        saved.store,
      saved.details, saved.watches⟩
  · rw [if_neg persists]
    exact ⟨rfl, rfl, rfl⟩

/-- The workspace when the last document was written. -/
def written : Workspace :=
  ((workspace.saveState ide project).cleanupBreakpoints ide
    project).saveWatches ide project

theorem written_watches :
    (written ide project workspace).watches = workspace.watches := by
  unfold written
  rw [Workspace.saveWatches, (onlyFiles_saveFile ide project _ _).watches,
    (cleanupBreakpoints_leaves ide project _).2.2,
    (onlyFiles_saveState ide project workspace).watches]

theorem written_breakpoints :
    (written ide project workspace).store.breakpoints = [] := by
  unfold written
  rw [Workspace.saveWatches, (onlyFiles_saveFile ide project _ _).store]
  rfl

variable {ide project workspace}

/-- A saved document is the one that is found. -/
theorem loadRoot_saveFile
    (named : Workspace.filename ide project ≠ [])
    (children : List XmlElement) :
    (workspace.saveFile ide project children).loadRoot ide project =
      some (.mk rootTag [] none
        (compilerNode (ide.projectInfo project) :: children)) := by
  unfold Workspace.loadRoot Workspace.saveFile
  rw [if_neg named, if_neg named]
  dsimp only
  rw [Function.update_self]
  rfl

/-- The records of the watches, and nothing but them, are in the file. -/
theorem written_loadRoot
    (named : Workspace.filename ide project ≠ [])
    (noTooltip :
      ∀ watch ∈ watchesOf project workspace.watches,
        watch.forTooltip = false) :
    (written ide project workspace).loadRoot ide project =
      some (.mk rootTag [] none
        [compilerNode (ide.projectInfo project),
          listNode "WatchesList".toList workspace.watches.watches.length
            ((watchesOf project workspace.watches).map
              (saveWatchToXML (ide.projectInfo project).title))]) := by
  have watches :
      ((workspace.saveState ide project).cleanupBreakpoints ide
        project).watches =
        workspace.watches :=
    (cleanupBreakpoints_leaves ide project _).2.2.trans
      (onlyFiles_saveState ide project workspace).watches
  unfold written
  rw [Workspace.saveWatches, loadRoot_saveFile named,
    ← savedWatches_watch project workspace noTooltip, List.map_map,
    Workspace.savedWatches, Workspace.savedWatches, watches]
  rfl

/-- What is left when the project is closed. -/
theorem cleanupWhenProjectClosed_eq
    (persists : ide.persistDebugElements = true) :
    workspace.cleanupWhenProjectClosed ide project =
      { written ide project workspace with
        watches :=
          workspace.watches.removeOf ide project
            workspace.watches.watches.reverse } := by
  unfold Workspace.cleanupWhenProjectClosed Workspace.cleanupWatches
  simp only [persists, if_true]
  show ({ written ide project workspace with
    watches := (written ide project workspace).watches.removeOf ide project
      (written ide project workspace).watches.watches.reverse } : Workspace) =
    _
  rw [written_watches]

end Closing

/-! ## Opening again -/

section Opening

variable {ide : Ide} {project : Project} {title : WxString}

/-- A watch that is not there yet is put at the end. -/
theorem addWatch_fresh
    {container : Watches}
    {watch : DapWatch}
    (own : watch.project = some project)
    (fresh :
      ∀ other ∈ watchesOf project container,
        (other.symbol, other.type) ≠ (watch.symbol, watch.type)) :
    container.addWatch ide watch = container.pushBack watch := by
  have none :
      container.watches.find? (container.same watch) = none := by
    refine List.find?_eq_none.mpr fun ref member same => ?_
    have parts :
        (watch.symbol = (container.watch ref).symbol ∧
          watch.project = (container.watch ref).project) ∧
          watch.type = (container.watch ref).type := by
      simpa [Watches.same] using same
    have ownOther : (container.watch ref).project = some project :=
      parts.1.2.symm.trans own
    exact fresh (container.watch ref)
      (List.mem_filter.mpr
        ⟨List.mem_map_of_mem member, decide_eq_true ownOther⟩)
      (Prod.ext parts.1.1.symm parts.2.symm)
  unfold Watches.addWatch
  rw [none]

/-- What the loop does with a record: without a symbol it is passed over. -/
theorem loadWatches_saved
    (container : Watches)
    (watch : DapWatch)
    (rest : List XmlElement) :
    container.loadWatches ide project (saveWatchToXML title watch :: rest) =
      (if watch.symbol = [] then container
        else
          container.addWatch ide
            (reread ide project title watch)).loadWatches ide project rest := by
  have className := saveWatchToXML_className title watch
  have symbol := reread_symbol ide project title watch
  rw [Watches.loadWatches]
  by_cases empty : watch.symbol = []
  · rw [if_pos empty]
    exact if_neg fun loaded => loaded.2 (symbol.trans empty)
  · rw [if_neg empty]
    exact if_pos ⟨className, fun nothing => empty (symbol.symm.trans nothing)⟩

/-- With distinct keys, each saved watch that has a symbol is added. -/
theorem watchesOf_loadWatches
    {container : Watches}
    {watches : List DapWatch}
    (distinct : (watches.map fun watch => (watch.symbol, watch.type)).Nodup)
    (fresh :
      ∀ watch ∈ watches, ∀ other ∈ watchesOf project container,
        (other.symbol, other.type) ≠ (watch.symbol, watch.type)) :
    watchesOf project
        (container.loadWatches ide project
          (watches.map (saveWatchToXML title))) =
      watchesOf project container ++
        (watches.filter fun watch => watch.symbol ≠ []).map
          (reread ide project title) := by
  induction watches generalizing container with
  | nil => exact (List.append_nil _).symm
  | cons watch watches ih =>
      rw [List.map_cons] at distinct ⊢
      rcases List.nodup_cons.mp distinct with ⟨different, distinctRest⟩
      have freshRest :
          ∀ later ∈ watches, ∀ other ∈ watchesOf project container,
            (other.symbol, other.type) ≠ (later.symbol, later.type) :=
        fun later member => fresh later (List.mem_cons_of_mem watch member)
      rw [loadWatches_saved]
      by_cases empty : watch.symbol = []
      · rw [if_pos empty, List.filter_cons_of_neg (by simpa using empty)]
        exact ih distinctRest freshRest
      · have key :
            ((reread ide project title watch).symbol,
                (reread ide project title watch).type) =
              (watch.symbol, watch.type) := by
          rw [reread_symbol, reread_type]
        have own : (reread ide project title watch).project = some project :=
          rfl
        have added :
            container.addWatch ide (reread ide project title watch) =
              container.pushBack (reread ide project title watch) :=
          addWatch_fresh own fun other member => by
            rw [key]
            exact fresh watch List.mem_cons_self other member
        -- the new watch is no duplicate of those still to come
        have freshAfter :
            ∀ later ∈ watches,
              ∀ other ∈ watchesOf project
                (container.pushBack (reread ide project title watch)),
              (other.symbol, other.type) ≠ (later.symbol, later.type) := by
          intro later memberLater other member
          rw [watchesOf_pushBack project own] at member
          rcases List.mem_append.mp member with old | new
          · exact freshRest later memberLater other old
          · rw [List.mem_singleton.mp new, key]
            exact fun same => different
              (List.mem_map.mpr ⟨later, memberLater, same.symm⟩)
        rw [if_neg empty, added, ih distinctRest freshAfter,
          watchesOf_pushBack project own, List.append_assoc,
          List.filter_cons_of_pos (by simpa using empty), List.map_cons]
        rfl

variable {workspace : Workspace}

/-- The file has no list of breakpoints, and a list of watches. -/
theorem onProjectOpened_written
    (persists : ide.persistDebugElements = true)
    {records : List XmlElement}
    {count : Nat}
    (root :
      workspace.loadRoot ide project =
        some (.mk rootTag [] none
          [compilerNode (ide.projectInfo project),
            listNode "WatchesList".toList count records]))
    (named : ∀ record ∈ records, record.name = "Watch".toList) :
    workspace.onProjectOpened ide project =
      { workspace with
        watches := workspace.watches.loadWatches ide project records } := by
  have breakpoints : workspace.loadBreakpoints ide project = workspace := by
    unfold Workspace.loadBreakpoints
    rw [root]
    rfl
  have watches :
      workspace.loadWatches ide project =
        { workspace with
          watches :=
            workspace.watches.loadWatches ide project
              (Element.onward "Watch".toList records) } := by
    unfold Workspace.loadWatches
    rw [root]
    rfl
  unfold Workspace.onProjectOpened Workspace.loadState
  rw [if_pos persists, root]
  show (workspace.loadBreakpoints ide project).loadWatches ide project = _
  rw [breakpoints, watches, Element.onward_of_forall named]

/-- Without a state file there is nothing to load. -/
theorem onProjectOpened_unnamed
    (unnamed : Workspace.filename ide project = []) :
    workspace.onProjectOpened ide project = workspace := by
  unfold Workspace.onProjectOpened Workspace.loadState Workspace.loadRoot
  rw [if_pos unnamed]
  exact ite_self workspace

end Opening

/-! ## Both together -/

section RoundTrip

variable {ide : Ide} {project : Project} {workspace : Workspace}

/-- Of everything that was saved, only the watches are there to be loaded. -/
theorem reopened_eq (persistable : Persistable ide project workspace) :
    reopened ide project workspace =
      { written ide project workspace with
        watches :=
          if Workspace.filename ide project = [] then
            workspace.watches.removeOf ide project
              workspace.watches.watches.reverse
          else
            (workspace.watches.removeOf ide project
              workspace.watches.watches.reverse).loadWatches ide project
              ((watchesOf project workspace.watches).map
                (saveWatchToXML (ide.projectInfo project).title)) } := by
  have closed :=
    @cleanupWhenProjectClosed_eq ide project workspace persistable.persists
  unfold reopened
  rw [closed]
  by_cases unnamed : Workspace.filename ide project = []
  · rw [if_pos unnamed, onProjectOpened_unnamed unnamed]
  · rw [if_neg unnamed]
    refine onProjectOpened_written persistable.persists
      (written_loadRoot unnamed persistable.noTooltip) ?_
    intro record member
    rcases List.mem_map.mp member with ⟨watch, -, rfl⟩
    rfl

/-- No breakpoint comes back. -/
theorem reopened_breakpoints (persistable : Persistable ide project workspace) :
    keptBreakpoints project (reopened ide project workspace) = [] := by
  unfold keptBreakpoints breakpointsOf
  rw [reopened_eq persistable, written_breakpoints]
  rfl

/-- The watches with a symbol come back, as long as there is a file. -/
theorem reopened_watches (persistable : Persistable ide project workspace) :
    (watchesOf project (reopened ide project workspace).watches).map
        keptWatch =
      if Workspace.filename ide project = [] then []
      else
        ((watchesOf project workspace.watches).filter fun watch =>
          watch.symbol ≠ []).map keptWatch := by
  have cleared := watchesOf_removeOf ide project persistable.removes
  rw [reopened_eq persistable]
  dsimp only
  by_cases unnamed : Workspace.filename ide project = []
  · rw [if_pos unnamed, if_pos unnamed, cleared]
    rfl
  · rw [if_neg unnamed, if_neg unnamed,
      watchesOf_loadWatches persistable.distinctWatches, cleared,
      List.nil_append, List.map_map]
    · exact List.map_congr_left fun watch _ =>
        keptWatch_reread ide project (ide.projectInfo project).title watch
    · intro watch _ other member
      rw [cleared] at member
      exact absurd member List.not_mem_nil

/-- The watches are the same as before exactly if each could be loaded. -/
theorem reopened_watches_perm_iff
    (persistable : Persistable ide project workspace) :
    ((watchesOf project (reopened ide project workspace).watches).map
        keptWatch).Perm
        ((watchesOf project workspace.watches).map keptWatch) ↔
      ∀ watch ∈ watchesOf project workspace.watches,
        watch.symbol ≠ [] ∧ Workspace.filename ide project ≠ [] := by
  rw [reopened_watches persistable]
  by_cases unnamed : Workspace.filename ide project = []
  · rw [if_pos unnamed, List.nil_perm, List.map_eq_nil_iff,
      List.eq_nil_iff_forall_not_mem]
    exact ⟨fun none watch member => absurd member (none watch),
      fun loadable watch member => (loadable watch member).2 unnamed⟩
  · rw [if_neg unnamed]
    constructor
    · intro same watch member
      have lengths := same.length_eq
      rw [List.length_map, List.length_map,
        List.length_filter_eq_length_iff] at lengths
      exact ⟨of_decide_eq_true (lengths watch member), unnamed⟩
    · intro loadable
      rw [List.filter_eq_self.mpr fun watch member =>
        decide_eq_true (loadable watch member).1]

/--
A project closed and opened again has its breakpoints and watches back
exactly if there was no breakpoint, and every watch had a symbol and a file
to be kept in.
-/
theorem roundTrips_iff (persistable : Persistable ide project workspace) :
    RoundTrips ide project workspace ↔ Restorable ide project workspace := by
  constructor
  · rintro ⟨breakpoints, watches⟩
    refine ⟨?_, (reopened_watches_perm_iff persistable).mp watches⟩
    rw [reopened_breakpoints persistable, List.nil_perm] at breakpoints
    exact List.map_eq_nil_iff.mp breakpoints
  · rintro ⟨noBreakpoint, loadable⟩
    refine ⟨?_, (reopened_watches_perm_iff persistable).mpr loadable⟩
    rw [reopened_breakpoints persistable, keptBreakpoints, noBreakpoint]
    exact List.Perm.refl []

end RoundTrip

/-! ## One watch, and one breakpoint -/

/-- A project `p.cbp`; the dialog knows every watch. -/
def projectIde : Ide where
  persistDebugElements := true
  projectInfo _ :=
    { filename := "p.cbp".toList
      title := "p".toList
      compilerName := "GNU GCC Compiler".toList
      dbgConfig := [] }
  bpsFile filename := filename.takeWhile (· ≠ '.') ++ ".bps".toList
  bitness64 := true
  toLong text := (String.ofList text).toInt?
  indeterminate := 0
  removes _ := true

/-- A watch of the variable `count`. -/
def countWatch : DapWatch where
  project := some 0
  symbol := "count".toList
  value := []
  type := "int".toList
  format := .hex
  debugString := []
  hasBeenExpanded := false
  forTooltip := false
  deleteOnCollapse := true
  arrayStart := 0
  arrayEnd := 0
  isArray := false
  setForTooltip := false

/-- Two watches of the same symbol are all there is. -/
def twoWatches : Workspace where
  store := .empty
  details _ := .initial
  watches :=
    { heap :=
        { size := 2
          read := fun ref =>
            if ref = 0 then countWatch
            else { countWatch with type := "long".toList } }
      watches := [0, 1]
      inUse := by decide }
  files _ := none

theorem twoWatches_roundTrips : RoundTrips projectIde 0 twoWatches := by
  have persistable : Persistable projectIde 0 twoWatches :=
    { persists := rfl
      code := by decide
      distinctBreakpoints := by decide
      noTooltip := by decide
      distinctWatches := by decide
      removes := fun _ _ _ => rfl }
  exact (roundTrips_iff persistable).mpr
    { noBreakpoint := rfl
      loadable := by decide }

/-- A breakpoint added at `main.cpp:5` is all there is. -/
def oneBreakpoint : Workspace where
  store := Store.empty.listNew (some 0) "main.cpp".toList 5 (-1)
  details _ := .initial
  watches :=
    { heap := { size := 0, read := fun _ => countWatch }
      watches := []
      inUse := fun _ member => absurd member List.not_mem_nil }
  files _ := none

/-- The breakpoint is lost. -/
theorem oneBreakpoint_not_roundTrips :
    Persistable projectIde 0 oneBreakpoint ∧
      ¬ RoundTrips projectIde 0 oneBreakpoint := by
  constructor
  · exact
      { persists := rfl
        code := by decide
        distinctBreakpoints := by decide
        noTooltip := by decide
        distinctWatches := by decide
        removes := by decide }
  · rintro ⟨breakpoints, -⟩
    exact absurd breakpoints.length_eq (by decide)

end DebuggerDap.Persistence.RoundTrip
