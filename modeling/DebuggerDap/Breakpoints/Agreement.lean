import DebuggerDap.Breakpoints.Uniqueness
import Mathlib.Data.List.TakeWhile

/-!
# The list and the map agree

With the project of every file fixed, adding, deleting, switching and
emptying keep the map of the files an index of the vector.

A shift first moves lines and then deletes the breakpoints on removed lines,
which the map looks up by their lines.  It takes a breakpoint out of the map
that was moved there, unless the one on the removed line is listed before it.
-/

namespace DebuggerDap.Breakpoints.Agreement

open DebuggerDap.Text.Strings
open DebuggerDap.Library.KeyIndex
open DebuggerDap.Library.Run
open DebuggerDap.Breakpoints.Store
open DebuggerDap.Breakpoints.Grouping
open DebuggerDap.Breakpoints.Editing
open DebuggerDap.Breakpoints.Uniqueness

/-! ## The condition on a shift -/

/--
No breakpoint the map lists before one on a removed line is moved onto that
line.
-/
def ClearOf
    (project : Option Project)
    (filenameBRK : WxString)
    (startline lines : Int)
    (store : Store) : Prop :=
  ∀ bp ∈ store.breakpoints,
    OnRemovedLine project filenameBRK startline lines
        (store.breakpoint bp) →
      ∀ earlier ∈
          ((drawer store filenameBRK).getD []).takeWhile (· ≠ bp),
        (store.breakpoint earlier).line + lines ≠
          (store.breakpoint bp).line

instance
    (project : Option Project)
    (filenameBRK : WxString)
    (startline lines : Int)
    (store : Store) :
    Decidable (ClearOf project filenameBRK startline lines store) :=
  inferInstanceAs (Decidable (∀ bp ∈ store.breakpoints, _ → _))

/-- The shifts meet this condition; the other edits need none. -/
def Clear (store : Store) (call : EditCall) : Prop :=
  match call.edit with
  | .operation _ => True
  | .deleteAllBreakpoints => True
  | .shiftAllFileBreakpoints editorFilename startline lines =>
      let filenameBRK := store.filenameBRK editorFilename
      let project := call.surroundings.findProjectForFile filenameBRK
      ClearOf project filenameBRK startline lines store

instance (store : Store) (call : EditCall) : Decidable (Clear store call) :=
  match call with
  | ⟨_, .operation _⟩ => isTrue trivial
  | ⟨_, .deleteAllBreakpoints⟩ => isTrue trivial
  | ⟨_, .shiftAllFileBreakpoints _ _ _⟩ =>
      inferInstanceAs (Decidable (ClearOf _ _ _ _ store))

/-! ## The invariant -/

/--
The map groups the vector, and every breakpoint has the project of its file.
-/
structure Agreed
    (lookup : WxString → Option Project)
    (store : Store) : Prop extends Sound store where
  grouped : Grouped store
  projects :
    ∀ ref ∈ store.breakpoints,
      (store.breakpoint ref).project = lookup (file store ref)

section Agreeing

variable {lookup : WxString → Option Project} {store after : Store}
variable {surroundings : Surroundings} {filename : WxString} {bp : Ref}
variable {line id : Int} {bEnable : Bool} {outcome : Outcome}

theorem agreed_empty (lookup : WxString → Option Project) :
    Agreed lookup Store.empty where
  toSound := sound_empty
  grouped := grouped_empty
  projects _ member := absurd member List.not_mem_nil

/-- In a file there is one breakpoint on a line. -/
theorem Agreed.eq_of_line
    (agreed : Agreed lookup store)
    {first second : Ref}
    (firstListed : first ∈ store.breakpoints)
    (secondListed : second ∈ store.breakpoints)
    (sameFile : file store first = file store second)
    (sameLine :
      (store.breakpoint first).line = (store.breakpoint second).line) :
    first = second := by
  apply agreed.eq_of_place firstListed secondListed
  simp only [place, Prod.mk.injEq]
  refine ⟨?_, sameFile, sameLine⟩
  rw [agreed.projects first firstListed, agreed.projects second secondListed,
    sameFile]

/-- So a listed breakpoint is the first on its line. -/
theorem Agreed.firstOnLine
    (agreed : Agreed lookup store)
    (listed : bp ∈ store.breakpoints) :
    FirstOnLine store bp := by
  rcases agreed.grouped.exists_drawer listed with ⟨refs, found, member⟩
  rw [FirstOnLine, found, Option.getD_some]
  obtain ⟨first, hit⟩ := @exists_find_onLineOf store bp refs member
  have inFile :=
    (agreed.grouped.perm_of_lookup found).mem_iff.mp
      (List.mem_of_find?_eq_some hit)
  rcases mem_having.mp inFile with ⟨firstListed, sameFile⟩
  have sameLine := List.find?_some hit
  rw [Store.onLineOf, beq_iff_eq] at sameLine
  rw [hit, agreed.eq_of_line firstListed listed sameFile sameLine]

theorem Agreed.of_sameLists
    (agreed : Agreed lookup store)
    (same : SameLists store after) :
    Agreed lookup after where
  toSound := agreed.toSound.of_sameLists same
  grouped := same.grouped.mpr agreed.grouped
  projects ref listed := by
    rw [same.breakpoints] at listed
    rw [file, same.breakpoint]
    exact agreed.projects ref listed

/-- A setter that leaves project and file alone keeps the agreement. -/
theorem Agreed.modify
    {change : DapBreakpoint → DapBreakpoint}
    (agreed : Agreed lookup store)
    (sound : Sound (store.modify bp change))
    (sameProject :
      ∀ breakpoint, (change breakpoint).project = breakpoint.project)
    (sameFile :
      ∀ breakpoint, (change breakpoint).filename = breakpoint.filename) :
    Agreed lookup (store.modify bp change) where
  toSound := sound
  grouped := (grouped_modify sameFile).mpr agreed.grouped
  projects ref listed := by
    rw [field_modify DapBreakpoint.project change sameProject,
      file_modify sameFile]
    exact agreed.projects ref listed

theorem Agreed.setIsEnabled
    (agreed : Agreed lookup store)
    (bp : Ref)
    (bEnable : Bool) :
    Agreed lookup (store.modify bp (.setIsEnabled bEnable)) :=
  agreed.modify (agreed.toSound.setIsEnabled bp bEnable) (fun _ => rfl)
    fun _ => rfl

theorem Agreed.identify
    (agreed : Agreed lookup store)
    (bp : Ref)
    (missing : store.findID id = none) :
    Agreed lookup (identify bp id store) := by
  have sound := agreed.toSound.identify bp missing
  unfold Editing.identify at sound ⊢
  split
  · next present =>
      rw [if_pos present] at sound
      exact agreed.modify sound (fun _ => rfl) fun _ => rfl
  · exact agreed

/-- A place that is free is a free line of the file. -/
theorem Agreed.listNew
    (agreed : Agreed lookup store)
    (freeID : store.findID id = none)
    (freePlace :
      store.findBreakpoint (lookup filename) filename line = none) :
    Agreed lookup (store.listNew (lookup filename) filename line id) where
  toSound := agreed.toSound.listNew freeID freePlace
  grouped := by
    apply agreed.grouped.listNew
    intro ref listed inFile onLine
    apply findBreakpoint_eq_none freePlace ref listed
    simp only [place, Prod.mk.injEq]
    exact ⟨by rw [agreed.projects ref listed, inFile], inFile, onLine⟩
  projects ref listed := by
    rcases List.mem_append.mp listed with
      (before : ref ∈ store.breakpoints) | last
    · rw [file_listNew_old ref before, breakpoint_listNew_old before]
      exact agreed.projects ref before
    · rw [List.mem_singleton.mp last, file_listNew_new,
        breakpoint_listNew_new]
      rfl

theorem Agreed.updateOrAddBreakpoint
    (agreed : Agreed lookup store)
    (fixed : surroundings.findProjectForFile = lookup)
    (updated :
      store.updateOrAddBreakpoint surroundings filename line bEnable id =
        .ok (bp, outcome)) :
    Agreed lookup outcome.store := by
  subst fixed
  rcases updateOrAdd_cases updated with
    ⟨-, same⟩ | ⟨freeID, -, same⟩ | ⟨freeID, freePlace, -, same⟩
  · exact (agreed.setIsEnabled bp bEnable).of_sameLists same
  · exact ((agreed.identify bp freeID).setIsEnabled bp bEnable).of_sameLists
      same
  · exact (agreed.listNew freeID freePlace).of_sameLists same

theorem Agreed.deleteBreakpoint
    (agreed : Agreed lookup store)
    (deleted :
      store.deleteBreakpoint surroundings bp = .ok outcome) :
    Agreed lookup outcome.store := by
  have sound := agreed.toSound.deleteBreakpoint deleted
  rcases delete_cases deleted with ⟨-, same⟩ | ⟨listed, -, same⟩
  · rwa [same]
  · have regrouped := agreed.grouped.unlist listed (agreed.firstOnLine listed)
    refine ⟨sound, same.grouped.mpr regrouped, ?_⟩
    intro ref member
    rw [same.breakpoints, breakpoints_unlist listed] at member
    rw [file, same.breakpoint]
    exact agreed.projects ref (List.mem_of_mem_erase member)

theorem Agreed.enableBreakpoint
    (agreed : Agreed lookup store)
    (fixed : surroundings.findProjectForFile = lookup)
    (enabled :
      store.enableBreakpoint surroundings bp bEnable = .ok outcome) :
    Agreed lookup outcome.store := by
  rcases enable_cases enabled with
    same | ⟨-, same⟩ | ⟨found, updated, -, update, same⟩
  · rwa [same]
  · rw [same]
    exact agreed.setIsEnabled bp bEnable
  · rw [same]
    exact (agreed.updateOrAddBreakpoint fixed update).setIsEnabled bp bEnable

theorem agreed_deleteAllBreakpoints
    (lookup : WxString → Option Project)
    (surroundings : Surroundings)
    (store : Store) :
    Agreed lookup (deleteAllBreakpoints surroundings store).store where
  toSound := Sound.clearBreakpoints _
  grouped := ⟨fun _ => List.Perm.refl [], nofun⟩
  projects _ member := absurd member List.not_mem_nil

end Agreeing

/-! ## Deleting after a shift -/

section Deleting

variable {store after : Store} {surroundings : Surroundings}
variable {bp ref other : Ref} {refs : List Ref} {outcome : Outcome}

/-- Breakpoints on other lines are looked up as before. -/
theorem firstOnLine_unlist
    (sameFile : file store other = file store bp)
    (apart : (store.breakpoint other).line ≠ (store.breakpoint bp).line) :
    FirstOnLine (store.unlist (file store other) other) bp ↔
      FirstOnLine store bp := by
  have disjoint :
      ∀ ref, store.onLineOf other ref = true →
        store.onLineOf bp ref = false := by
    intro ref onLine
    rw [Store.onLineOf, beq_iff_eq] at onLine
    rw [Store.onLineOf, onLine]
    exact beq_false_of_ne apart
  show ((drawer (store.unlist (file store other) other)
      (file store bp)).getD []).find? (store.onLineOf bp) = some bp ↔ _
  rw [sameFile, getD_drawer_unlist,
    find?_eraseP_of_disjoint disjoint]
  exact Iff.rfl

/-- A breakpoint is left over in the map. -/
def LeftOver (store : Store) (ref : Ref) : Prop :=
  ref ∉ store.breakpoints ∧ ref ∈ (drawer store (file store ref)).getD []

theorem LeftOver.not_grouped (leftOver : LeftOver store ref) :
    ¬ Grouped store := by
  intro grouped
  have inFile :=
    (grouped.drawer_perm (file store ref)).mem_iff.mp leftOver.2
  exact leftOver.1 (mem_fileBreakpoints.mp inFile).1

theorem LeftOver.of_sameLists
    (leftOver : LeftOver store ref)
    (same : SameLists store after) :
    LeftOver after ref := by
  unfold LeftOver drawer file at *
  rwa [same.breakpoints, same.breakpoint, same.mapFilebreakpoints]

/-- Looked up in vain, a breakpoint is left over in the map. -/
theorem leftOver_unlist
    (grouped : Grouped store)
    (distinct : store.breakpoints.Nodup)
    (listed : bp ∈ store.breakpoints)
    (later : ¬ FirstOnLine store bp) :
    LeftOver (store.unlist (file store bp) bp) bp := by
  constructor
  · rw [breakpoints_unlist listed]
    exact distinct.not_mem_erase
  · have member : bp ∈ (drawer store (file store bp)).getD [] :=
      (grouped.drawer_perm _).mem_iff.mpr
        (mem_fileBreakpoints.mpr ⟨listed, rfl⟩)
    obtain ⟨first, hit⟩ := @exists_find_onLineOf store bp _ member
    have different : bp ≠ first := by
      rintro rfl
      exact later hit
    show bp ∈
      (drawer (store.unlist (file store bp) bp) (file store bp)).getD []
    rw [getD_drawer_unlist, eraseP_eq_erase hit]
    exact (List.mem_erase_of_ne different).mpr member

/-- Deleting breakpoints on other lines does not take it out. -/
theorem LeftOver.unlist
    (leftOver : LeftOver store ref)
    (listed : other ∈ store.breakpoints)
    (apart : (store.breakpoint other).line ≠ (store.breakpoint ref).line) :
    LeftOver (store.unlist (file store other) other) ref := by
  rcases leftOver with ⟨absent, member⟩
  constructor
  · rw [breakpoints_unlist listed]
    exact fun inside => absent (List.mem_of_mem_erase inside)
  · show ref ∈
      (drawer (store.unlist (file store other) other)
        (file store ref)).getD []
    by_cases sameFile : file store ref = file store other
    · rw [sameFile] at member ⊢
      rw [getD_drawer_unlist, List.mem_eraseP_of_neg]
      · exact member
      · rw [Store.onLineOf, beq_iff_eq]
        exact apart.symm
    · have same :
          drawer (store.unlist (file store other) other)
              (file store ref) =
            drawer store (file store ref) :=
        updateMap_of_ne sameFile false
      rwa [same]

theorem firstOnLine_of_sameLists (same : SameLists store after) :
    FirstOnLine after bp ↔ FirstOnLine store bp := by
  unfold FirstOnLine drawer file Store.onLineOf
  rw [same.breakpoint, same.mapFilebreakpoints]

/-- What is left over stays while breakpoints on other lines are deleted. -/
theorem LeftOver.deleteEach
    (leftOver : LeftOver store ref)
    (apart :
      ∀ bp ∈ refs, (store.breakpoint bp).line ≠ (store.breakpoint ref).line)
    (deleted :
      forEach (fun bp store => store.deleteBreakpoint surroundings bp) refs
        store = .ok outcome) :
    LeftOver outcome.store ref := by
  let invariant (current : Store) : Prop :=
    current.heap = store.heap ∧ LeftOver current ref
  have kept : invariant outcome.store := by
    refine forEach_invariant ?_ ⟨rfl, leftOver⟩ deleted
    rintro bp member current outcome ⟨heap, left⟩ acted
    rcases delete_cases acted with ⟨-, same⟩ | ⟨listed, -, same⟩
    · rw [same]
      exact ⟨heap, left⟩
    · refine ⟨same.heap.trans heap, (left.unlist listed ?_).of_sameLists same⟩
      rw [Store.breakpoint, Store.breakpoint, heap]
      exact apart bp member
  exact kept.2

/--
Deleting breakpoints of one file on different lines in turn keeps the
containers together exactly when each is the first on its line.
-/
theorem deleteEach_grouped_iff
    {filename : WxString}
    (grouped : Grouped store)
    (distinct : store.breakpoints.Nodup)
    (deletable :
      ∀ bp ∈ refs,
        bp ∈ store.breakpoints ∧ (store.breakpoint bp).type = .bptCode ∧
          file store bp = filename)
    (apart :
      refs.Pairwise fun first second =>
        (store.breakpoint first).line ≠ (store.breakpoint second).line)
    (deleted :
      forEach (fun bp store => store.deleteBreakpoint surroundings bp) refs
        store = .ok outcome) :
    Grouped outcome.store ↔ ∀ bp ∈ refs, FirstOnLine store bp := by
  induction refs generalizing store outcome with
  | nil =>
      cases deleted
      exact ⟨fun _ _ member => absurd member List.not_mem_nil, fun _ => grouped⟩
  | cons bp refs ih =>
      rcases forEach_cons_ok deleted with ⟨first, later, acted, rest, rfl⟩
      rcases List.pairwise_cons.mp apart with ⟨apartHere, apartRest⟩
      rcases deletable bp List.mem_cons_self with ⟨listed, code, here⟩
      have same :
          SameLists (store.unlist (file store bp) bp) first.store := by
        rcases delete_cases acted with ⟨kept, -⟩ | ⟨-, -, same⟩
        · exact absurd ⟨listed, code⟩ kept
        · exact same
      have sameObjects : first.store.breakpoint = store.breakpoint :=
        same.breakpoint
      by_cases firstHere : FirstOnLine store bp
      · have regrouped : Grouped first.store :=
          same.grouped.mpr (grouped.unlist listed firstHere)
        have left :
            first.store.breakpoints = store.breakpoints.erase bp := by
          rw [same.breakpoints, breakpoints_unlist listed]
        have deletableRest :
            ∀ other ∈ refs,
              other ∈ first.store.breakpoints ∧
                (first.store.breakpoint other).type = .bptCode ∧
                file first.store other = filename := by
          intro other member
          rcases deletable other (List.mem_cons_of_mem bp member) with
            ⟨listedOther, codeOther, hereOther⟩
          have different : other ≠ bp := by
            rintro rfl
            exact apartHere other member rfl
          rw [left, file, sameObjects]
          exact ⟨(List.mem_erase_of_ne different).mpr listedOther, codeOther,
            hereOther⟩
        have sameFirst :
            ∀ other ∈ refs,
              (FirstOnLine first.store other ↔ FirstOnLine store other) := by
          intro other member
          have oneFile : file store bp = file store other := by
            rw [here, (deletable other (List.mem_cons_of_mem bp member)).2.2]
          rw [firstOnLine_of_sameLists same]
          exact firstOnLine_unlist oneFile (apartHere other member)
        rw [ih regrouped (by rw [left]; exact distinct.erase bp) deletableRest
          (by rwa [sameObjects]) rest, List.forall_mem_cons]
        constructor
        · intro all
          exact ⟨firstHere, fun other member =>
            (sameFirst other member).mp (all other member)⟩
        · rintro ⟨-, all⟩ other member
          exact (sameFirst other member).mpr (all other member)
      · constructor
        · intro regrouped
          have leftOver : LeftOver first.store bp :=
            (leftOver_unlist grouped distinct listed firstHere).of_sameLists
              same
          have apartLater :
              ∀ other ∈ refs,
                (first.store.breakpoint other).line ≠
                  (first.store.breakpoint bp).line := by
            intro other member
            rw [sameObjects]
            exact (apartHere other member).symm
          exact absurd regrouped
            (leftOver.deleteEach apartLater rest).not_grouped
        · intro all
          exact absurd (all bp List.mem_cons_self) firstHere

end Deleting

/-! ## Shifting -/

section Shifting

variable {lookup : WxString → Option Project} {store : Store}
variable {surroundings : Surroundings} {bp : Ref} {outcome : Outcome}
variable {filenameBRK : WxString} {startline lines : Int}

/--
A breakpoint that is not the one on a removed line ends on that line exactly
when it is moved there.
-/
theorem moved_line_eq_iff
    {removed earlier : DapBreakpoint}
    {project : Option Project}
    (onRemovedLine :
      OnRemovedLine project filenameBRK startline lines removed)
    (sameProject : earlier.project = project)
    (sameFile : earlier.filename = filenameBRK)
    (apart : earlier.line ≠ removed.line) :
    (moved project filenameBRK startline lines earlier).line = removed.line ↔
      earlier.line + lines = removed.line := by
  rcases onRemovedLine with ⟨⟨-, -, onOrBelow⟩, onRemoved⟩
  unfold moved
  split
  · exact Iff.rfl
  · next still =>
      constructor
      · exact fun same => absurd same apart
      · intro same
        exact absurd
          ⟨⟨sameProject, sameFile, by omega⟩, by omega⟩ still

/-- The breakpoints are moved and still listed as before. -/
structure Shifted
    (project : Option Project)
    (filenameBRK : WxString)
    (startline lines : Int)
    (store shifted : Store) : Prop where
  breakpoints : shifted.breakpoints = store.breakpoints
  map : shifted.mapFilebreakpoints = store.mapFilebreakpoints
  objects :
    ∀ ref ∈ store.breakpoints,
      shifted.breakpoint ref =
        moved project filenameBRK startline lines (store.breakpoint ref)

variable {project : Option Project} {shifted : Store} {removed : List Ref}

theorem Shifted.file_eq
    (moves : Shifted project filenameBRK startline lines store shifted)
    (listed : bp ∈ store.breakpoints) :
    file shifted bp = file store bp := by
  rw [file, moves.objects bp listed, moved_eq]
  rfl

theorem Shifted.stays
    (moves : Shifted project filenameBRK startline lines store shifted)
    (listed : bp ∈ store.breakpoints)
    (onRemovedLine :
      OnRemovedLine project filenameBRK startline lines
        (store.breakpoint bp)) :
    shifted.breakpoint bp = store.breakpoint bp := by
  rw [moves.objects bp listed, moved_of_onRemovedLine onRemovedLine]

/-- Moving alone keeps the containers together. -/
theorem Shifted.grouped
    (moves : Shifted project filenameBRK startline lines store shifted)
    (grouped : Grouped store) : Grouped shifted := by
  have carried :
      Indexes (file shifted) store.breakpoints (drawer store) :=
    Indexes.of_key_eq grouped fun _ listed => moves.file_eq listed
  unfold Grouped drawer
  rw [moves.breakpoints, moves.map]
  exact carried

/-- The breakpoints to be deleted are on different lines. -/
theorem Shifted.apart
    (moves : Shifted project filenameBRK startline lines store shifted)
    (agreed : Agreed lookup store)
    (distinct : removed.Nodup)
    (onRemoved :
      ∀ ref ∈ removed,
        ref ∈ store.breakpoints ∧
          OnRemovedLine project filenameBRK startline lines
            (store.breakpoint ref)) :
    removed.Pairwise fun first second =>
      (shifted.breakpoint first).line ≠ (shifted.breakpoint second).line := by
  refine distinct.imp_of_mem ?_
  intro first second firstMember secondMember different same
  rcases onRemoved first firstMember with ⟨firstListed, firstOn⟩
  rcases onRemoved second secondMember with ⟨secondListed, secondOn⟩
  rw [moves.stays firstListed firstOn, moves.stays secondListed secondOn]
    at same
  exact different
    (agreed.eq_of_line firstListed secondListed
      (firstOn.1.2.1.trans secondOn.1.2.1.symm) same)

/-- After the moves, a breakpoint is first on its line in these cases. -/
theorem firstOnLine_shifted_iff
    (agreed : Agreed lookup store)
    (listed : bp ∈ store.breakpoints)
    (onRemovedLine :
      OnRemovedLine (lookup filenameBRK) filenameBRK startline lines
        (store.breakpoint bp))
    (moves :
      Shifted (lookup filenameBRK) filenameBRK startline lines store
        shifted) :
    FirstOnLine shifted bp ↔
      ∀ earlier ∈
          ((drawer store filenameBRK).getD []).takeWhile (· ≠ bp),
        (store.breakpoint earlier).line + lines ≠
          (store.breakpoint bp).line := by
  have here : file store bp = filenameBRK := onRemovedLine.1.2.1
  have member : bp ∈ (drawer store filenameBRK).getD [] :=
    (agreed.grouped.drawer_perm filenameBRK).mem_iff.mpr
      (mem_fileBreakpoints.mpr ⟨listed, here⟩)
  have sameDrawer : drawer shifted (file shifted bp) =
      drawer store filenameBRK := by
    rw [drawer, moves.map, moves.file_eq listed, here]
    rfl
  rw [FirstOnLine, sameDrawer,
    find?_eq_some_iff_takeWhile member (onLineOf_self shifted bp)]
  refine forall₂_congr fun earlier before => ?_
  have inFile :=
    (agreed.grouped.drawer_perm filenameBRK).mem_iff.mp
      (List.takeWhile_subset _ before)
  rcases mem_fileBreakpoints.mp inFile with ⟨earlierListed, earlierHere⟩
  have different : earlier ≠ bp := by
    simpa using List.mem_takeWhile_imp before
  have apart :
      (store.breakpoint earlier).line ≠ (store.breakpoint bp).line :=
    fun same =>
      different
        (agreed.eq_of_line earlierListed listed
          (earlierHere.trans here.symm) same)
  have earlierProject :
      (store.breakpoint earlier).project = lookup filenameBRK := by
    rw [agreed.projects earlier earlierListed, earlierHere]
  rw [Store.onLineOf, moves.stays listed onRemovedLine,
    moves.objects earlier earlierListed, beq_eq_false_iff_ne, ne_eq,
    moved_line_eq_iff onRemovedLine earlierProject earlierHere apart]

/-- A shift keeps the containers together exactly on a clear store. -/
theorem shift_grouped_iff
    {editorFilename : WxString}
    (agreed : Agreed lookup store)
    (fixed : surroundings.findProjectForFile = lookup)
    (performed :
      shiftAllFileBreakpoints surroundings editorFilename startline lines
        store = .ok outcome) :
    Grouped outcome.store ↔
      Clear store
        ⟨surroundings,
          .shiftAllFileBreakpoints editorFilename startline lines⟩ := by
  subst fixed
  let filenameBRK := store.filenameBRK editorFilename
  let project := surroundings.findProjectForFile filenameBRK
  let result :=
    shiftLoop project filenameBRK startline lines store.breakpoints store
  obtain ⟨breakpoints, map, objects, removed⟩ :=
    @shiftLoop_leaves project filenameBRK startline lines store.breakpoints
      store (.of_nodup agreed.nodup)
  have moves :
      Shifted project filenameBRK startline lines store result.1 :=
    { breakpoints := breakpoints
      map := map
      objects := fun ref member => (objects ref).trans (if_pos member) }
  have mem_removed :
      ∀ ref, ref ∈ result.2 ↔
        ref ∈ store.breakpoints ∧
          OnRemovedLine project filenameBRK startline lines
            (store.breakpoint ref) := by
    intro ref
    rw [removed, List.mem_filter, decide_eq_true_eq]
  have distinct : result.2.Nodup := by
    rw [removed]
    exact agreed.nodup.filter _
  have deletable :
      ∀ ref ∈ result.2,
        ref ∈ result.1.breakpoints ∧
          (result.1.breakpoint ref).type = .bptCode ∧
          file result.1 ref = filenameBRK := by
    intro ref member
    rcases (mem_removed ref).mp member with ⟨listed, onRemovedLine⟩
    rw [breakpoints, moves.file_eq listed, moves.objects ref listed,
      type_moved]
    exact ⟨listed, agreed.code ref listed, onRemovedLine.1.2.1⟩
  rw [deleteEach_grouped_iff (moves.grouped agreed.grouped)
    (by rw [breakpoints]; exact agreed.nodup) deletable
    (moves.apart agreed distinct fun ref => (mem_removed ref).mp) performed]
  show _ ↔ ClearOf project filenameBRK startline lines store
  constructor
  · intro all ref listed onRemovedLine
    exact (firstOnLine_shifted_iff agreed listed onRemovedLine moves).mp
      (all ref ((mem_removed ref).mpr ⟨listed, onRemovedLine⟩))
  · intro clear ref member
    rcases (mem_removed ref).mp member with ⟨listed, onRemovedLine⟩
    exact (firstOnLine_shifted_iff agreed listed onRemovedLine moves).mpr
      (clear ref listed onRemovedLine)

theorem Agreed.shiftAllFileBreakpoints
    {editorFilename : WxString}
    (agreed : Agreed lookup store)
    (shifted :
      shiftAllFileBreakpoints surroundings editorFilename startline lines
        store = .ok outcome)
    (regrouped : Grouped outcome.store) :
    Agreed lookup outcome.store := by
  refine ⟨agreed.toSound.shiftAllFileBreakpoints shifted, regrouped, ?_⟩
  rcases shift_leaves (.of_nodup agreed.nodup) agreed.code shifted with
    ⟨left, objects⟩
  intro ref member
  rw [left] at member
  have listed := List.mem_of_mem_filter member
  rw [file, objects ref listed, moved_eq]
  exact agreed.projects ref listed

end Shifting

/-! ## Runs -/

section Runs

variable {lookup : WxString → Option Project} {store next : Store}
variable {call : EditCall}

/-- An edit keeps the agreement if and only if it is a clear one. -/
theorem agreed_next_iff
    (agreed : Agreed lookup store)
    (fixed : call.surroundings.findProjectForFile = lookup)
    (taken : editStep store call = some next) :
    (Clear store call → Agreed lookup next) ∧
      (Grouped next → Clear store call) := by
  rcases exists_of_storeOf taken with ⟨outcome, performed, rfl⟩
  rcases call with ⟨surroundings, edit⟩
  cases edit with
  | operation operation =>
      refine ⟨fun _ => ?_, fun _ => trivial⟩
      cases operation with
      | addBreakpoint filename line =>
          rcases exists_ok_of_bind performed with ⟨⟨bp, after⟩, added, same⟩
          cases same
          exact agreed.updateOrAddBreakpoint fixed added
      | deleteBreakpoint bp => exact agreed.deleteBreakpoint performed
      | enableBreakpoint bp bEnable =>
          exact agreed.enableBreakpoint fixed performed
  | deleteAllBreakpoints =>
      refine ⟨fun _ => ?_, fun _ => trivial⟩
      cases performed
      exact agreed_deleteAllBreakpoints lookup surroundings store
  | shiftAllFileBreakpoints editorFilename startline lines =>
      have exact_ := shift_grouped_iff agreed fixed performed
      exact ⟨fun clear =>
        agreed.shiftAllFileBreakpoints performed (exact_.mpr clear),
        exact_.mp⟩

/--
With the project of every file fixed, the map groups the vector in every
state of a run of clear edits; and a run that ends without a fault and always
keeps them together is one of clear edits.
-/
theorem grouped_of_clear
    (calls : List EditCall)
    (fixed :
      ∀ call ∈ calls, call.surroundings.findProjectForFile = lookup) :
    (Along editStep Clear Store.empty calls →
        Always editStep Grouped Store.empty calls) ∧
      ∀ reached, run editStep Store.empty calls = some reached →
        Always editStep Grouped Store.empty calls →
          Along editStep Clear Store.empty calls := by
  have assumed :
      Along editStep
        (fun _ call => call.surroundings.findProjectForFile = lookup)
        Store.empty calls :=
    along_of_forall Store.empty calls fixed
  constructor
  · intro clear
    exact always_of_along
      (fun _ _ _ agreed guard taken =>
        (agreed_next_iff agreed guard.1 taken).1 guard.2)
      (fun _ agreed => agreed.grouped) (agreed_empty lookup)
      (assumed.and clear)
  · intro reached ran always
    exact along_of_always
      (fun _ _ _ agreed fixed clear taken =>
        (agreed_next_iff agreed fixed taken).1 clear)
      (fun _ _ _ agreed fixed unclear taken regrouped =>
        unclear ((agreed_next_iff agreed fixed taken).2 regrouped))
      (agreed_empty lookup) assumed ran always

/-- The IDE while nothing is debugged, with all files in one project. -/
def atRest : Surroundings where
  state := .initial
  debugTestingChoice := .useNativePaths
  debuggee := []
  findProjectForFile _ := some 0
  unixFilename filename _ := filename
  fileExists _ := true
  getPath filename := filename
  makeRelativeTo filename _ := filename
  reallocates := false

/-- Two breakpoints of a file, and the removal of the lines 8 and 9. -/
def twoLinesRemoved (first second : Int) : List EditCall :=
  [⟨atRest, .operation (.addBreakpoint "main.cpp".toList first)⟩,
    ⟨atRest, .operation (.addBreakpoint "main.cpp".toList second)⟩,
    ⟨atRest, .shiftAllFileBreakpoints "main.cpp".toList 8 (-2)⟩]

theorem grouped_of_clear_eightThenTen :
    Always editStep Grouped Store.empty (twoLinesRemoved 8 10) :=
  have fixed :
      ∀ call ∈ twoLinesRemoved 8 10,
        call.surroundings.findProjectForFile = fun _ => some 0 := by
    simp [twoLinesRemoved, atRest]
  (grouped_of_clear (twoLinesRemoved 8 10) fixed).1 (by decide)

/-- The map loses the breakpoint that was moved and keeps the deleted one. -/
theorem tenThenEight_not_grouped :
    (∀ call ∈ twoLinesRemoved 10 8,
      call.surroundings.findProjectForFile = fun _ => some 0) ∧
      (∃ reached,
        run editStep Store.empty (twoLinesRemoved 10 8) = some reached) ∧
      ¬ Always editStep Grouped Store.empty (twoLinesRemoved 10 8) := by
  refine ⟨by simp [twoLinesRemoved, atRest], ⟨_, rfl⟩, ?_⟩
  intro always
  have grouped := always (twoLinesRemoved 10 8) [] _ rfl rfl
  -- The breakpoint from line 8 is deleted, but still in the map.
  exact @LeftOver.not_grouped _ 1 ⟨by decide, by decide⟩ grouped

end Runs

end DebuggerDap.Breakpoints.Agreement
