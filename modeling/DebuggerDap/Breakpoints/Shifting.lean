import DebuggerDap.Breakpoints.Announcing
import DebuggerDap.Breakpoints.Mirror

/-!
# Breakpoints follow the edits of a file

`ShiftAllFileBreakpoints` moves the objects first and deletes those on removed
lines then, one after another, each with an announcement of the file.  The
boundaries are right; but at a stop the announcement faults once the map has
other files and no longer has this one.
-/

namespace DebuggerDap.Breakpoints.Shifting

open DebuggerDap.Text.Strings
open DebuggerDap.Breakpoints.Store
open DebuggerDap.Breakpoints.Grouping
open DebuggerDap.Breakpoints.Editing
open DebuggerDap.Breakpoints.Announcing
open DebuggerDap.Breakpoints.Mirror

/-! ## The property -/

/-- The breakpoint belongs to the file of the project. -/
def InFile
    (project : Option Project)
    (filenameBRK : WxString)
    (breakpoint : DapBreakpoint) : Prop :=
  breakpoint.project = project ∧ breakpoint.filename = filenameBRK

/-- Lines are removed, and the breakpoint is on one of them. -/
def Gone
    (project : Option Project)
    (filenameBRK : WxString)
    (startline lines : Int)
    (breakpoint : DapBreakpoint) : Prop :=
  lines < 0 ∧ InFile project filenameBRK breakpoint ∧
    startline ≤ breakpoint.line ∧ breakpoint.line ≤ startline - lines - 1

instance
    (project : Option Project)
    (filenameBRK : WxString)
    (startline lines : Int)
    (breakpoint : DapBreakpoint) :
    Decidable (Gone project filenameBRK startline lines breakpoint) :=
  inferInstanceAs (Decidable (_ ∧ (_ ∧ _) ∧ _ ∧ _))

/--
Of the breakpoints, in their order, exactly those on removed lines of the file
are gone.  Those of other files and those above the edit are as before, and
those on its first line and below have moved by its lines.
-/
structure FollowsEdit
    (project : Option Project)
    (filenameBRK : WxString)
    (startline lines : Int)
    (store after : Store) : Prop where
  left :
    after.breakpoints =
      store.breakpoints.filter fun ref =>
        ¬ Gone project filenameBRK startline lines (store.breakpoint ref)
  elsewhere :
    ∀ ref ∈ after.breakpoints,
      ¬ InFile project filenameBRK (store.breakpoint ref) →
        after.breakpoint ref = store.breakpoint ref
  above :
    ∀ ref ∈ after.breakpoints,
      InFile project filenameBRK (store.breakpoint ref) →
        (store.breakpoint ref).line < startline →
          after.breakpoint ref = store.breakpoint ref
  below :
    ∀ ref ∈ after.breakpoints,
      InFile project filenameBRK (store.breakpoint ref) →
        startline ≤ (store.breakpoint ref).line →
          after.breakpoint ref =
            { store.breakpoint ref with
              line := (store.breakpoint ref).line + lines }

/-! ## The condition -/

section Condition

variable (project : Option Project) (filenameBRK : WxString)
variable (startline lines : Int) (store : Store)

/-- The line of an object when the listed ones have moved. -/
def lineAfter (ref : Ref) : Int :=
  if ref ∈ store.breakpoints then
    (moved project filenameBRK startline lines (store.breakpoint ref)).line
  else (store.breakpoint ref).line

/-- The lines of the breakpoints the edit removes. -/
def removedLines : List Int :=
  (store.breakpoints.filter fun ref =>
    OnRemovedLine project filenameBRK startline lines
      (store.breakpoint ref)).map fun ref => (store.breakpoint ref).line

/--
The map has no other file, or its entry for the file has a line left when the
removed lines are taken out.
-/
def EntryLasts : Prop :=
  OnlyFile store filenameBRK ∨
    ∃ entry ∈ drawer store filenameBRK,
      entry = [] ∨
        (entry.map (lineAfter project filenameBRK startline lines store)).diff
          (removedLines project filenameBRK startline lines store) ≠ []

instance : Decidable
    (EntryLasts project filenameBRK startline lines store) :=
  inferInstanceAs (Decidable (_ ∨ ∃ entry ∈ drawer store filenameBRK, _))

end Condition

/--
No breakpoint that moves is listed twice, and at a stop no breakpoint is on a
removed line or the entry of the file lasts.
-/
def Followable
    (surroundings : Surroundings)
    (editorFilename : WxString)
    (startline lines : Int)
    (store : Store) : Prop :=
  let filenameBRK := store.filenameBRK editorFilename
  let project := surroundings.findProjectForFile filenameBRK
  MovedOnce project filenameBRK startline lines store.breakpoints store ∧
    (surroundings.AtStop →
      removedLines project filenameBRK startline lines store = [] ∨
        EntryLasts project filenameBRK startline lines store)

instance
    (surroundings : Surroundings)
    (editorFilename : WxString)
    (startline lines : Int)
    (store : Store) :
    Decidable
      (Followable surroundings editorFilename startline lines store) :=
  inferInstanceAs (Decidable (_ ∧ (_ → _ ∨ _)))

/-! ## The loop, whatever is listed -/

section Loop

variable {project : Option Project} {filenameBRK : WxString}
variable {startline lines : Int} {bp : Ref} {refs : List Ref}
variable {store : Store}

theorem gone_iff (breakpoint : DapBreakpoint) :
    Gone project filenameBRK startline lines breakpoint ↔
      OnRemovedLine project filenameBRK startline lines breakpoint := by
  constructor
  · rintro ⟨-, ⟨sameProject, here⟩, onOrBelow, before⟩
    exact ⟨⟨sameProject, here, onOrBelow⟩, by omega⟩
  · rintro ⟨⟨sameProject, here, onOrBelow⟩, before⟩
    exact ⟨by omega, ⟨sameProject, here⟩, onOrBelow, by omega⟩

/-- The loop leaves the containers and the types of the objects alone. -/
theorem shiftLoop_keeps :
    let result := shiftLoop project filenameBRK startline lines refs store
    result.1.breakpoints = store.breakpoints ∧
      result.1.mapFilebreakpoints = store.mapFilebreakpoints ∧
      ∀ ref,
        (result.1.breakpoint ref).type = (store.breakpoint ref).type := by
  induction refs generalizing store with
  | nil => exact ⟨rfl, rfl, fun _ => rfl⟩
  | cons bp refs ih =>
      let change := moved project filenameBRK startline lines
      rw [shiftLoop_cons]
      rcases @ih (store.modify bp change) with ⟨breakpoints, map, types⟩
      refine ⟨breakpoints, map, fun ref => (types ref).trans ?_⟩
      exact field_modify DapBreakpoint.type change type_moved bp ref

/-- A breakpoint that is not removed moves each time the loop meets it. -/
theorem line_shiftLoop
    (below : Below project filenameBRK startline (store.breakpoint bp)) :
    let result := shiftLoop project filenameBRK startline lines refs store
    bp ∉ result.2 →
      (result.1.breakpoint bp).line =
        (store.breakpoint bp).line + refs.count bp * lines := by
  induction refs generalizing store with
  | nil =>
      intro result _
      simp [result, shiftLoop]
  | cons ref refs ih =>
      let change := moved project filenameBRK startline lines
      rw [shiftLoop_cons]
      intro result kept
      by_cases same : ref = bp
      · subst same
        have onKeptLine :
            ¬ OnRemovedLine project filenameBRK startline lines
              (store.breakpoint ref) := by
          intro onRemovedLine
          exact kept (by simp [result, onRemovedLine])
        have past : startline - lines ≤ (store.breakpoint ref).line := by
          by_contra before
          exact onKeptLine ⟨below, by omega⟩
        have next :
            (store.modify ref change).breakpoint ref =
              setShiftLines lines (store.breakpoint ref) := by
          rw [Store.breakpoint_modify_self]
          exact if_pos ⟨below, past⟩
        have belowNext :
            Below project filenameBRK startline
              ((store.modify ref change).breakpoint ref) := by
          rw [next]
          refine ⟨below.1, below.2.1, ?_⟩
          show startline ≤ (store.breakpoint ref).line + lines
          omega
        have keptLater :
            ref ∉ (shiftLoop project filenameBRK startline lines refs
              (store.modify ref change)).2 := by
          simpa [result, onKeptLine] using kept
        rw [show (result.1.breakpoint ref).line = _ from
          ih belowNext keptLater, next, List.count_cons_self]
        show (store.breakpoint ref).line + lines + _ = _
        rw [Int.natCast_succ, Int.add_mul, Int.one_mul]
        omega
      · have next :
            (store.modify ref change).breakpoint bp = store.breakpoint bp :=
          Store.breakpoint_modify_of_ne change store (Ne.symm same)
        have keptLater :
            bp ∉ (shiftLoop project filenameBRK startline lines refs
              (store.modify ref change)).2 := by
          intro member
          apply kept
          show bp ∈ if _ then _ else _
          split
          · exact List.mem_cons_of_mem ref member
          · exact member
        rw [show (result.1.breakpoint bp).line = _ from
          ih (next.symm ▸ below) keptLater, next,
          List.count_cons_of_ne (by simpa using same)]

end Loop

/-! ## The shift -/

section Shift

variable {surroundings : Surroundings} {editorFilename : WxString}
variable {startline lines : Int} {store : Store} {outcome : Outcome}

/-- A move changes the line of a breakpoint only if there are lines to move. -/
theorem moved_of_inFile
    {project : Option Project}
    {filenameBRK : WxString}
    {breakpoint : DapBreakpoint}
    (here : InFile project filenameBRK breakpoint)
    (onOrBelow : startline ≤ breakpoint.line)
    (kept : ¬ Gone project filenameBRK startline lines breakpoint) :
    moved project filenameBRK startline lines breakpoint =
      { breakpoint with line := breakpoint.line + lines } := by
  have past : startline - lines ≤ breakpoint.line := by
    by_contra before
    exact kept ⟨by omega, here, onOrBelow, by omega⟩
  exact if_pos ⟨⟨here.1, here.2, onOrBelow⟩, past⟩

theorem removedLines_eq_nil
    {project : Option Project}
    {filenameBRK : WxString} :
    removedLines project filenameBRK startline lines store = [] ↔
      (store.breakpoints.filter fun ref =>
        OnRemovedLine project filenameBRK startline lines
          (store.breakpoint ref)) = [] :=
  List.map_eq_nil_iff

/-- The entry lasts when the listed objects have moved. -/
theorem lasts_shifted
    {project : Option Project}
    {filenameBRK : WxString}
    {shifted : Store}
    (map : shifted.mapFilebreakpoints = store.mapFilebreakpoints)
    (objects :
      ∀ ref, shifted.breakpoint ref =
        if ref ∈ store.breakpoints then
          moved project filenameBRK startline lines (store.breakpoint ref)
        else store.breakpoint ref) :
    Lasts shifted filenameBRK
        (removedLines project filenameBRK startline lines store) ↔
      EntryLasts project filenameBRK startline lines store := by
  have only : OnlyFile shifted filenameBRK ↔ OnlyFile store filenameBRK := by
    unfold OnlyFile
    rw [map]
  have line :
      (fun ref => (shifted.breakpoint ref).line) =
        lineAfter project filenameBRK startline lines store := by
    funext ref
    rw [objects ref, lineAfter]
    split <;> rfl
  have sameDrawer :
      drawer shifted filenameBRK = drawer store filenameBRK := by
    rw [drawer, map, drawer]
  rw [Lasts, EntryLasts, only, entryLines, sameDrawer, line]
  cases drawer store filenameBRK with
  | none => simp
  | some entry => simp

/--
Where nothing is moved twice a shift faults only if it has something to
remove at a stop and the entry does not last.
-/
theorem shift_ok_iff
    (once :
      MovedOnce
        (surroundings.findProjectForFile (store.filenameBRK editorFilename))
        (store.filenameBRK editorFilename) startline lines store.breakpoints
        store)
    (code :
      ∀ ref ∈ store.breakpoints, (store.breakpoint ref).type = .bptCode) :
    (∃ outcome,
      shiftAllFileBreakpoints surroundings editorFilename startline lines
        store = .ok outcome) ↔
      Followable surroundings editorFilename startline lines store := by
  let filenameBRK := store.filenameBRK editorFilename
  let project := surroundings.findProjectForFile filenameBRK
  let result :=
    shiftLoop project filenameBRK startline lines store.breakpoints store
  obtain ⟨breakpoints, map, objects, removed⟩ := shiftLoop_leaves once
  have fewer : result.2.Subperm result.1.breakpoints := by
    rw [show result.2 = _ from removed, show result.1.breakpoints = _ from
      breakpoints]
    exact List.filter_sublist.subperm
  have removable :
      ∀ ref ∈ result.2,
        result.1.breakpoint ref = store.breakpoint ref ∧
          ref ∈ store.breakpoints ∧
          OnRemovedLine project filenameBRK startline lines
            (store.breakpoint ref) := by
    intro ref member
    rw [show result.2 = _ from removed, List.mem_filter,
      decide_eq_true_eq] at member
    refine ⟨?_, member⟩
    exact (objects ref).trans
      ((if_pos member.1).trans (moved_of_onRemovedLine member.2))
  have deletable :
      ∀ ref ∈ result.2,
        (result.1.breakpoint ref).type = .bptCode ∧
          file result.1 ref = filenameBRK := by
    intro ref member
    rcases removable ref member with ⟨same, listed, onRemovedLine⟩
    rw [file, same]
    exact ⟨code ref listed, onRemovedLine.1.2.1⟩
  have sameLines :
      (result.2.map fun ref => (result.1.breakpoint ref).line) =
        removedLines project filenameBRK startline lines store := by
    have same :
        (result.2.map fun ref => (result.1.breakpoint ref).line) =
          result.2.map fun ref => (store.breakpoint ref).line :=
      List.map_congr_left fun ref member => by
        rw [(removable ref member).1]
    rw [same, show result.2 = _ from removed]
    rfl
  have nothing :
      result.2 = [] ↔
        removedLines project filenameBRK startline lines store = [] := by
    rw [removedLines_eq_nil]
    exact iff_of_eq (congrArg (· = []) removed)
  have runs :=
    @deleteEach_ok_iff surroundings result.1 filenameBRK result.2 fewer
      deletable
  rw [sameLines, nothing, lasts_shifted map objects] at runs
  exact runs.trans ⟨fun lasts => ⟨once, lasts⟩, fun both => both.2⟩

/-- Deleting what the loop collects keeps the objects it has moved. -/
theorem shift_deletes
    (code :
      ∀ ref ∈ store.breakpoints, (store.breakpoint ref).type = .bptCode)
    (shifted :
      shiftAllFileBreakpoints surroundings editorFilename startline lines
        store = .ok outcome) :
    let filenameBRK := store.filenameBRK editorFilename
    let result :=
      shiftLoop (surroundings.findProjectForFile filenameBRK) filenameBRK
        startline lines store.breakpoints store
    outcome.store.breakpoint = result.1.breakpoint ∧
      outcome.store.breakpoints = store.breakpoints.diff result.2 := by
  intro filenameBRK result
  obtain ⟨breakpoints, -, types⟩ :=
    @shiftLoop_keeps (surroundings.findProjectForFile filenameBRK)
      filenameBRK startline lines store.breakpoints store
  have codeMoved :
      ∀ ref ∈ result.1.breakpoints,
        (result.1.breakpoint ref).type = .bptCode := by
    intro ref member
    rw [show result.1.breakpoints = _ from breakpoints] at member
    exact (types ref).trans (code ref member)
  rcases deleteEach_leaves codeMoved shifted with ⟨heap, left⟩
  refine ⟨?_, left.trans (congrArg (List.diff · result.2) breakpoints)⟩
  funext ref
  rw [Store.breakpoint, heap]
  rfl

/-- A shift that follows the edit has moved no object twice. -/
theorem movedOnce_of_follows
    (code :
      ∀ ref ∈ store.breakpoints, (store.breakpoint ref).type = .bptCode)
    (shifted :
      shiftAllFileBreakpoints surroundings editorFilename startline lines
        store = .ok outcome)
    (follows :
      FollowsEdit
        (surroundings.findProjectForFile (store.filenameBRK editorFilename))
        (store.filenameBRK editorFilename) startline lines store
        outcome.store) :
    MovedOnce
      (surroundings.findProjectForFile (store.filenameBRK editorFilename))
      (store.filenameBRK editorFilename) startline lines store.breakpoints
      store := by
  let filenameBRK := store.filenameBRK editorFilename
  let project := surroundings.findProjectForFile filenameBRK
  let result :=
    shiftLoop project filenameBRK startline lines store.breakpoints store
  obtain ⟨objects, list⟩ :
      outcome.store.breakpoint = result.1.breakpoint ∧
        outcome.store.breakpoints = store.breakpoints.diff result.2 :=
    shift_deletes code shifted
  intro ref listed changes
  obtain ⟨below, past⟩ :
      Below project filenameBRK startline (store.breakpoint ref) ∧
        startline - lines ≤ (store.breakpoint ref).line := by
    by_contra stays
    exact changes (if_neg stays)
  have kept :
      ¬ Gone project filenameBRK startline lines (store.breakpoint ref) := by
    rintro ⟨-, -, -, before⟩
    omega
  have stillListed :
      outcome.store.breakpoints.count ref = store.breakpoints.count ref := by
    rw [follows.left]
    exact List.count_filter (by simpa using kept)
  have present : ref ∈ outcome.store.breakpoints := by
    rw [follows.left, List.mem_filter]
    exact ⟨listed, by simpa using kept⟩
  have notCollected : ref ∉ result.2 := by
    intro member
    have collected := List.count_pos_iff.mpr member
    have positive := List.count_pos_iff.mpr listed
    rw [list, List.count_diff] at stillListed
    omega
  have line := @line_shiftLoop project filenameBRK startline lines ref
    store.breakpoints store below notCollected
  have wanted := follows.below ref present ⟨below.1, below.2.1⟩ below.2.2
  rw [objects] at wanted
  have sameLine :
      (store.breakpoint ref).line + lines =
        (store.breakpoint ref).line +
          store.breakpoints.count ref * lines := by
    rw [← line]
    exact congrArg DapBreakpoint.line wanted.symm
  have some : lines ≠ 0 := by
    rintro rfl
    apply changes
    rw [moved_of_inFile ⟨below.1, below.2.1⟩ below.2.2 kept]
    simp
  have factor :
      ((store.breakpoints.count ref : Int) - 1) * lines = 0 := by
    rw [Int.sub_mul, Int.one_mul]
    omega
  have single := (Int.mul_eq_zero.mp factor).resolve_right some
  omega

/--
A shift follows the edit exactly when nothing that moves is listed twice and,
at a stop, the entry of the file lasts through the removed lines.
-/
theorem shift_follows_edit
    (code :
      ∀ ref ∈ store.breakpoints, (store.breakpoint ref).type = .bptCode) :
    (∃ outcome,
      shiftAllFileBreakpoints surroundings editorFilename startline lines
          store = .ok outcome ∧
        FollowsEdit
          (surroundings.findProjectForFile (store.filenameBRK editorFilename))
          (store.filenameBRK editorFilename) startline lines store
          outcome.store) ↔
      Followable surroundings editorFilename startline lines store := by
  constructor
  · rintro ⟨outcome, shifted, follows⟩
    have once := movedOnce_of_follows code shifted follows
    exact (shift_ok_iff once code).mp ⟨outcome, shifted⟩
  · intro followable
    obtain ⟨outcome, shifted⟩ :=
      (shift_ok_iff followable.1 code).mpr followable
    obtain ⟨left, objects⟩ := shift_leaves followable.1 code shifted
    have listed :
        ∀ ref ∈ outcome.store.breakpoints, ref ∈ store.breakpoints :=
      fun ref member => List.mem_of_mem_filter (by rwa [left] at member)
    refine ⟨outcome, shifted, ?_, ?_, ?_, ?_⟩
    · rw [left]
      exact List.filter_congr fun ref _ =>
        decide_eq_decide.mpr (not_congr (gone_iff _).symm)
    · intro ref member elsewhere
      rw [objects ref (listed ref member)]
      exact if_neg fun moves =>
        elsewhere ⟨moves.1.1, moves.1.2.1⟩
    · intro ref member _ above
      rw [objects ref (listed ref member)]
      exact if_neg fun moves => absurd moves.1.2.2 (by omega)
    · intro ref member here onOrBelow
      have kept :
          ¬ Gone
            (surroundings.findProjectForFile
              (store.filenameBRK editorFilename))
            (store.filenameBRK editorFilename) startline lines
            (store.breakpoint ref) := by
        rw [left, List.mem_filter, decide_eq_true_eq] at member
        exact fun gone => member.2 ((gone_iff _).mp gone)
      rw [objects ref (listed ref member),
        moved_of_inFile here onOrBelow kept]

/-- A breakpoint in `util.cpp`, then some in `main.cpp`. -/
def utilAndMain (lines : List Int) : Store :=
  lines.foldl
    (fun store line => store.listNew none "main.cpp".toList line (-1))
    (Store.empty.listNew none "util.cpp".toList 3 (-1))

theorem shift_follows_edit_twoLines :
    ∃ outcome,
      shiftAllFileBreakpoints plainStop "main.cpp".toList 8 (-2)
          (utilAndMain [5, 8, 12]) = .ok outcome ∧
        FollowsEdit none "main.cpp".toList 8 (-2) (utilAndMain [5, 8, 12])
          outcome.store :=
  (shift_follows_edit (by decide)).mpr (by decide)

/-- The line of the only breakpoint of a file is removed at a stop. -/
theorem onlyBreakpoint_not_followed :
    (∀ ref ∈ (utilAndMain [8]).breakpoints,
        ((utilAndMain [8]).breakpoint ref).type = .bptCode) ∧
      ¬ ∃ outcome,
        shiftAllFileBreakpoints plainStop "main.cpp".toList 8 (-1)
            (utilAndMain [8]) = .ok outcome ∧
          FollowsEdit none "main.cpp".toList 8 (-1) (utilAndMain [8])
            outcome.store := by
  refine ⟨by decide, ?_⟩
  rintro ⟨outcome, shifted, -⟩
  cases shifted

end Shift

end DebuggerDap.Breakpoints.Shifting
