import DebuggerDap.Persistence.RoundTrip

/-!
# Closing one of several projects

Closing a project takes its own watches away.  The breakpoints do not look at
the project: both the list and the map are emptied, so that every other open
project loses its breakpoints as well.
-/

namespace DebuggerDap.Persistence.ProjectClosing

open DebuggerDap.Text.Strings (WxString)
open DebuggerDap.Breakpoints.Store
open DebuggerDap.Breakpoints.Editing
open DebuggerDap.Persistence.StateFile
open DebuggerDap.Persistence.RoundTrip

/-! ## What closing is to do -/

/-- What `m_map_filebreakpoints` has for a file. -/
def drawer (workspace : Workspace) (filename : WxString) : List Ref :=
  workspace.store.mapFilebreakpoints[filename]?.getD []

/-- The breakpoint belongs to another project, or to none. -/
def OfOther
    (project : Project)
    (workspace : Workspace)
    (ref : Ref) : Prop :=
  (workspace.store.breakpoint ref).project ≠ some project

instance (project : Project) (workspace : Workspace) (ref : Ref) :
    Decidable (OfOther project workspace ref) :=
  inferInstanceAs (Decidable (_ ≠ _))

/-- What belongs to the project is gone, and the rest is as it was. -/
structure ClosesOnly
    (project : Project)
    (before after : Workspace) : Prop where
  breakpoints :
    after.store.breakpoints =
      before.store.breakpoints.filter fun ref => OfOther project before ref
  drawers :
    ∀ filename,
      drawer after filename =
        (drawer before filename).filter fun ref => OfOther project before ref
  watches :
    after.watches.watches =
      before.watches.watches.filter fun ref =>
        (before.watches.watch ref).project ≠ some project
  objects :
    ∀ ref,
      after.store.breakpoint ref = before.store.breakpoint ref ∧
        after.details ref = before.details ref ∧
        after.watches.watch ref = before.watches.watch ref

/-- No other project has a breakpoint in the list or in the map. -/
structure Alone (project : Project) (workspace : Workspace) : Prop where
  breakpoints :
    ∀ ref ∈ workspace.store.breakpoints, ¬ OfOther project workspace ref
  drawers :
    ∀ filename, ∀ ref ∈ drawer workspace filename,
      ¬ OfOther project workspace ref

/-! ## Closing -/

section Closing

variable (ide : Ide) (project : Project) (workspace : Workspace)

theorem cleanupWatches_leaves :
    (workspace.cleanupWatches ide project).store = workspace.store ∧
      (workspace.cleanupWatches ide project).details = workspace.details ∧
      (workspace.cleanupWatches ide project).watches =
        workspace.watches.removeOf ide project
          workspace.watches.watches.reverse := by
  unfold Workspace.cleanupWatches
  by_cases persists : ide.persistDebugElements = true
  · have saved : OnlyFiles workspace (workspace.saveWatches ide project) :=
      onlyFiles_saveFile ide project workspace _
    rw [if_pos persists]
    exact ⟨saved.store, saved.details,
      congrArg (fun container : Watches =>
        container.removeOf ide project container.watches.reverse)
        saved.watches⟩
  · rw [if_neg persists]
    exact ⟨rfl, rfl, rfl⟩

theorem cleanupWhenProjectClosed_leaves :
    (workspace.cleanupWhenProjectClosed ide project).store =
        clearMaps (clearBreakpoints workspace.store) ∧
      (workspace.cleanupWhenProjectClosed ide project).details =
        workspace.details ∧
      (workspace.cleanupWhenProjectClosed ide project).watches =
        workspace.watches.removeOf ide project
          workspace.watches.watches.reverse := by
  have saved :
      OnlyFiles workspace
        (if ide.persistDebugElements then workspace.saveState ide project
        else workspace) := by
    split
    · exact onlyFiles_saveState ide project workspace
    · exact .refl workspace
  rcases cleanupBreakpoints_leaves ide project
    (if ide.persistDebugElements then workspace.saveState ide project
      else workspace) with ⟨store, details, watches⟩
  rcases cleanupWatches_leaves ide project
    ((if ide.persistDebugElements then workspace.saveState ide project
      else workspace).cleanupBreakpoints ide project) with
    ⟨storeAfter, detailsAfter, watchesAfter⟩
  rw [saved.store] at store
  rw [saved.details] at details
  rw [saved.watches] at watches
  rw [watches] at watchesAfter
  exact ⟨storeAfter.trans store, detailsAfter.trans details, watchesAfter⟩

/--
Closing a project leaves the others alone if and only if no other has a
breakpoint; the dialog is to remove the watches of the project.
-/
theorem closesOnly_iff
    (removes :
      ∀ ref ∈ workspace.watches.watches,
        (workspace.watches.watch ref).project = some project →
          ide.removes ref = true) :
    ClosesOnly project workspace
        (workspace.cleanupWhenProjectClosed ide project) ↔
      Alone project workspace := by
  rcases cleanupWhenProjectClosed_leaves ide project workspace with
    ⟨store, details, watches⟩
  have noBreakpoint :
      (workspace.cleanupWhenProjectClosed ide project).store.breakpoints =
        [] := by
    rw [store]
    rfl
  have noDrawer : ∀ filename,
      drawer (workspace.cleanupWhenProjectClosed ide project) filename =
        [] := by
    intro filename
    rw [drawer, store]
    exact congrArg (Option.getD · []) Std.TreeMap.getElem?_emptyc
  have nothing : ∀ refs : List Ref,
      [] = refs.filter (fun ref => OfOther project workspace ref) ↔
        ∀ ref ∈ refs, ¬ OfOther project workspace ref := by
    intro refs
    rw [eq_comm, List.filter_eq_nil_iff]
    simp
  constructor
  · intro closes
    have breakpoints := closes.breakpoints
    rw [noBreakpoint, nothing] at breakpoints
    refine ⟨breakpoints, fun filename => ?_⟩
    have here := closes.drawers filename
    rwa [noDrawer, nothing] at here
  · intro alone
    exact
      { breakpoints := noBreakpoint.trans ((nothing _).mpr alone.breakpoints)
        drawers := fun filename =>
          (noDrawer filename).trans ((nothing _).mpr (alone.drawers filename))
        watches := by
          rw [watches]
          exact removeOf_reverse ide project removes
        objects := by
          intro ref
          rw [Store.breakpoint, store, details, Watches.watch, watches,
            (removeOf_leaves ide project
              (fun ref member => removes ref (List.mem_reverse.mp member))).1]
          exact ⟨rfl, rfl, rfl⟩ }

end Closing

/-! ## Two projects -/

/-- A watch of either project, and the breakpoints of a store. -/
def twoProjects (store : Store) : Workspace where
  store := store
  details _ := .initial
  watches :=
    { heap :=
        { size := 2
          read := fun ref => { countWatch with project := some ref } }
      watches := [0, 1]
      inUse := by decide }
  files _ := none

/-- `main.cpp` belongs to the project that is closed. -/
def ownBreakpoint : Store :=
  Store.empty.listNew (some 0) "main.cpp".toList 5 (-1)

/-- There is one object in the map, and it is the breakpoint. -/
theorem drawer_ownBreakpoint (filename : WxString) :
    ∀ ref ∈ drawer (twoProjects ownBreakpoint) filename, ref = 0 := by
  have map : ownBreakpoint.mapFilebreakpoints =
      (∅ : Std.TreeMap WxString (List Ref)).insert "main.cpp".toList [0] :=
    rfl
  intro ref member
  rw [drawer, twoProjects, map, Std.TreeMap.getElem?_insert] at member
  split at member
  · exact List.mem_singleton.mp member
  · rw [Std.TreeMap.getElem?_emptyc] at member
    exact absurd member List.not_mem_nil

theorem ownBreakpoint_closesOnly :
    ClosesOnly 0 (twoProjects ownBreakpoint)
      ((twoProjects ownBreakpoint).cleanupWhenProjectClosed projectIde 0) :=
  (closesOnly_iff projectIde 0 (twoProjects ownBreakpoint)
    fun _ _ _ => rfl).mpr
    { breakpoints := by decide
      drawers := fun filename ref member => by
        rw [drawer_ownBreakpoint filename ref member]
        decide }

/-- The breakpoint of the project that stays open is lost. -/
theorem otherBreakpoint_not_closesOnly :
    ¬ ClosesOnly 0
        (twoProjects
          (ownBreakpoint.listNew (some 1) "util.cpp".toList 7 (-1)))
        ((twoProjects
          (ownBreakpoint.listNew (some 1) "util.cpp".toList 7
            (-1))).cleanupWhenProjectClosed projectIde 0) := by
  intro closes
  exact absurd closes.breakpoints (by decide)

end DebuggerDap.Persistence.ProjectClosing
