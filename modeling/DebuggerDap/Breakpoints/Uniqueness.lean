import DebuggerDap.Breakpoints.Editing
import DebuggerDap.Library.Run

/-!
# No breakpoint is listed twice

`UpdateOrAddBreakpoint` looks for a breakpoint with the ID and then for one on
the line of the file before it makes a new one, and a shift deletes the
breakpoints other ones could be moved onto.  So the places of the listed
breakpoints are distinct, and so are their IDs, where they have one.
-/

namespace DebuggerDap.Breakpoints.Uniqueness

open DebuggerDap.Text.Strings
open DebuggerDap.Library.Run
open DebuggerDap.Breakpoints.Store
open DebuggerDap.Breakpoints.Grouping
open DebuggerDap.Breakpoints.Editing

/-- Project, file and line. -/
def place (breakpoint : DapBreakpoint) : Option Project × WxString × Int :=
  (breakpoint.project, breakpoint.filename, breakpoint.line)

/--
No two entries of `m_breakpoints` have the same project, file and line, and
no two have the same ID other than -1.
-/
structure Unique (store : Store) : Prop where
  places :
    store.breakpoints.Pairwise fun first second =>
      place (store.breakpoint first) ≠ place (store.breakpoint second)
  ids :
    store.breakpoints.Pairwise fun first second =>
      (store.breakpoint first).id = (store.breakpoint second).id →
        (store.breakpoint first).id = -1

/-- Moreover every entry is a breakpoint on code. -/
structure Sound (store : Store) : Prop extends Unique store where
  code : ∀ ref ∈ store.breakpoints, (store.breakpoint ref).type = .bptCode

theorem sound_empty : Sound Store.empty where
  places := List.Pairwise.nil
  ids := List.Pairwise.nil
  code _ member := absurd member List.not_mem_nil

namespace Unique

variable {store : Store}

/-- Breakpoints at different places are different. -/
theorem nodup (unique : Unique store) : store.breakpoints.Nodup :=
  unique.places.imp fun apart same => apart (by rw [same])

/-- Where like members stand apart, members that are alike are one. -/
theorem eq_of_apart
    {alike : Ref → Ref → Prop}
    {listed : List Ref}
    (apart : listed.Pairwise fun first second => ¬ alike first second)
    (symm : ∀ first second, alike first second → alike second first)
    {first second : Ref}
    (firstListed : first ∈ listed)
    (secondListed : second ∈ listed)
    (same : alike first second) :
    first = second := by
  let determined (first second : Ref) : Prop :=
    alike first second → first = second
  have here : listed.Pairwise determined :=
    apart.imp fun different same => absurd same different
  have there : listed.Pairwise (flip determined) :=
    apart.imp fun different same => absurd (symm _ _ same) different
  exact here.forall_of_forall_of_flip (fun _ _ _ => rfl) there firstListed
    secondListed same

/-- The listed breakpoint at a place is determined. -/
theorem eq_of_place
    (unique : Unique store)
    {first second : Ref}
    (firstListed : first ∈ store.breakpoints)
    (secondListed : second ∈ store.breakpoints)
    (same :
      place (store.breakpoint first) = place (store.breakpoint second)) :
    first = second :=
  eq_of_apart unique.places (fun _ _ same => same.symm) firstListed
    secondListed same

/-- The listed breakpoint with an ID is determined. -/
theorem eq_of_id
    (unique : Unique store)
    {first second : Ref}
    (firstListed : first ∈ store.breakpoints)
    (secondListed : second ∈ store.breakpoints)
    (same : (store.breakpoint first).id = (store.breakpoint second).id)
    (present : (store.breakpoint first).id ≠ -1) :
    first = second := by
  have apart :
      store.breakpoints.Pairwise fun first second =>
        ¬((store.breakpoint first).id = (store.breakpoint second).id ∧
          (store.breakpoint first).id ≠ -1) :=
    unique.ids.imp fun missing both => both.2 (missing both.1)
  exact eq_of_apart apart
    (fun _ _ both => ⟨both.1.symm, both.1 ▸ both.2⟩) firstListed
    secondListed ⟨same, present⟩

end Unique

/-! ## Steps that keep the breakpoints apart -/

section Keeping

variable {store after : Store} {surroundings : Surroundings}
variable {filename : WxString} {bp : Ref} {line id : Int} {bEnable : Bool}
variable {outcome : Outcome}

/--
Fewer entries, changed so that no two places and no two IDs become the same,
are kept apart.
-/
theorem Sound.of_injective
    (sound : Sound store)
    (fewer : after.breakpoints.Sublist store.breakpoints)
    (types :
      ∀ ref ∈ after.breakpoints,
        (after.breakpoint ref).type = (store.breakpoint ref).type)
    (places :
      ∀ first ∈ after.breakpoints, ∀ second ∈ after.breakpoints,
        place (after.breakpoint first) = place (after.breakpoint second) →
          place (store.breakpoint first) = place (store.breakpoint second))
    (ids :
      ∀ first ∈ after.breakpoints, ∀ second ∈ after.breakpoints,
        first ≠ second →
          (after.breakpoint first).id = (after.breakpoint second).id →
            (after.breakpoint first).id ≠ -1 →
              (store.breakpoint first).id = (store.breakpoint second).id ∧
                (store.breakpoint first).id ≠ -1) :
    Sound after where
  places :=
    (sound.places.sublist fewer).imp_of_mem fun first second apart same =>
      apart (places _ first _ second same)
  ids := by
    have distinct : after.breakpoints.Nodup :=
      fewer.nodup sound.nodup
    refine (distinct.and (sound.ids.sublist fewer)).imp_of_mem ?_
    rintro first second firstListed secondListed ⟨different, missing⟩ same
    by_contra present
    rcases ids first firstListed second secondListed different same present
      with ⟨sameBefore, presentBefore⟩
    exact presentBefore (missing sameBefore)
  code ref listed := by
    rw [types ref listed]
    exact sound.code ref (fewer.subset listed)

/-- Fewer entries, with their places and IDs, are kept apart. -/
theorem Sound.of_fixed
    (sound : Sound store)
    (fewer : after.breakpoints.Sublist store.breakpoints)
    (types :
      ∀ ref ∈ after.breakpoints,
        (after.breakpoint ref).type = (store.breakpoint ref).type)
    (places :
      ∀ ref ∈ after.breakpoints,
        place (after.breakpoint ref) = place (store.breakpoint ref))
    (ids :
      ∀ ref ∈ after.breakpoints,
        (after.breakpoint ref).id = (store.breakpoint ref).id) :
    Sound after := by
  refine sound.of_injective fewer types ?_ ?_
  · intro first firstListed second secondListed same
    rwa [places first firstListed, places second secondListed] at same
  · intro first firstListed second secondListed _ same present
    rw [ids first firstListed] at same present
    rw [ids second secondListed] at same
    exact ⟨same, present⟩

theorem Sound.of_sameLists
    (sound : Sound store)
    (same : SameLists store after) :
    Sound after := by
  refine sound.of_fixed ?_ ?_ ?_ ?_
  · rw [same.breakpoints]
  all_goals
    intro ref _
    rw [same.breakpoint]

theorem Sound.setIsEnabled (sound : Sound store) (bp : Ref) (bEnable : Bool) :
    Sound (store.modify bp (.setIsEnabled bEnable)) := by
  refine sound.of_fixed (List.Sublist.refl _) ?_ ?_ ?_
  · exact fun ref _ =>
      field_modify DapBreakpoint.type (.setIsEnabled bEnable) (fun _ => rfl)
        bp ref
  · exact fun ref _ =>
      field_modify place (.setIsEnabled bEnable) (fun _ => rfl) bp ref
  · exact fun ref _ =>
      field_modify DapBreakpoint.id (.setIsEnabled bEnable) (fun _ => rfl)
        bp ref

/-- An ID that is not found belongs to no listed breakpoint. -/
theorem findID_eq_none
    (missing : store.findID id = none)
    (present : id ≠ -1) :
    ∀ ref ∈ store.breakpoints, (store.breakpoint ref).id ≠ id := by
  rw [Store.findID, if_pos present, List.find?_eq_none] at missing
  intro ref listed same
  exact missing ref listed (decide_eq_true same)

theorem findID_eq_some (found : store.findID id = some bp) :
    bp ∈ store.breakpoints ∧ (store.breakpoint bp).id = id := by
  unfold Store.findID at found
  split at found
  · have hit := List.find?_some found
    exact ⟨List.mem_of_find?_eq_some found, of_decide_eq_true hit⟩
  · cases found

/-- What is not found at a place is not listed there. -/
theorem findBreakpoint_eq_none
    {project : Option Project}
    (missing : store.findBreakpoint project filename line = none) :
    ∀ ref ∈ store.breakpoints,
      place (store.breakpoint ref) ≠ (project, filename, line) := by
  rw [Store.findBreakpoint, List.find?_eq_none] at missing
  intro ref listed same
  simp only [place, Prod.mk.injEq] at same
  exact missing ref listed (by simp [same])

/-- An ID nobody has may be given to a breakpoint. -/
theorem Sound.identify
    (sound : Sound store)
    (bp : Ref)
    (missing : store.findID id = none) :
    Sound (identify bp id store) := by
  unfold Editing.identify
  split
  · next present =>
      have free := findID_eq_none missing present
      have others :
          ∀ ref, ref ≠ bp →
            (store.modify bp (.setID id)).breakpoint ref =
              store.breakpoint ref :=
        fun ref different => Store.breakpoint_modify_of_ne _ store different
      have own :
          ((store.modify bp (.setID id)).breakpoint bp).id = id := by
        rw [Store.breakpoint_modify_self]
        rfl
      have samePlace :
          ∀ ref, place ((store.modify bp (.setID id)).breakpoint ref) =
            place (store.breakpoint ref) :=
        fun ref => field_modify place (.setID id) (fun _ => rfl) bp ref
      refine sound.of_injective (List.Sublist.refl _) ?_ ?_ ?_
      · exact fun ref _ =>
          field_modify DapBreakpoint.type (.setID id) (fun _ => rfl) bp ref
      · intro first _ second _ same
        rwa [samePlace, samePlace] at same
      · intro first firstListed second secondListed different same given
        by_cases firstGiven : first = bp
        · subst firstGiven
          rw [own, others second different.symm] at same
          exact absurd same.symm (free second secondListed)
        · rw [others first firstGiven] at same given
          by_cases secondGiven : second = bp
          · subst secondGiven
            rw [own] at same
            exact absurd same (free first firstListed)
          · rw [others second secondGiven] at same
            exact ⟨same, given⟩
  · exact sound

/-- A new breakpoint at a free place and with a free ID is kept apart. -/
theorem Sound.listNew
    {project : Option Project}
    (sound : Sound store)
    (freeID : store.findID id = none)
    (freePlace : store.findBreakpoint project filename line = none) :
    Sound (store.listNew project filename line id) := by
  let listed := store.listNew project filename line id
  have old :
      ∀ ref ∈ store.breakpoints,
        listed.breakpoint ref = store.breakpoint ref :=
    fun ref member => breakpoint_listNew_old member
  have new :
      listed.breakpoint store.heap.size = .new project filename line id :=
    breakpoint_listNew_new
  refine ⟨⟨?_, ?_⟩, ?_⟩
  · show List.Pairwise _ (store.breakpoints ++ [store.heap.size])
    rw [List.pairwise_append]
    refine ⟨?_, List.pairwise_singleton _ _, ?_⟩
    · refine sound.places.imp_of_mem fun first second apart => ?_
      rwa [old _ first, old _ second]
    · intro ref member other single
      rw [List.mem_singleton.mp single, old ref member, new]
      exact findBreakpoint_eq_none freePlace ref member
  · show List.Pairwise _ (store.breakpoints ++ [store.heap.size])
    rw [List.pairwise_append]
    refine ⟨?_, List.pairwise_singleton _ _, ?_⟩
    · refine sound.ids.imp_of_mem fun first second missing => ?_
      rwa [old _ first, old _ second]
    · intro ref member other single same
      rw [List.mem_singleton.mp single, old ref member, new] at same
      rw [old ref member]
      by_contra present
      have given : id ≠ -1 := by
        rintro rfl
        exact present same
      exact findID_eq_none freeID given ref member same
  · intro ref member
    rcases List.mem_append.mp member with before | last
    · rw [old ref before]
      exact sound.code ref before
    · rw [List.mem_singleton.mp last, new]
      rfl

theorem Sound.updateOrAddBreakpoint
    (sound : Sound store)
    (updated :
      store.updateOrAddBreakpoint surroundings filename line bEnable id =
        .ok (bp, outcome)) :
    Sound outcome.store := by
  rcases updateOrAdd_cases updated with
    ⟨-, same⟩ | ⟨freeID, -, same⟩ | ⟨freeID, freePlace, -, same⟩
  · exact (sound.setIsEnabled bp bEnable).of_sameLists same
  · exact ((sound.identify bp freeID).setIsEnabled bp bEnable).of_sameLists
      same
  · exact (sound.listNew freeID freePlace).of_sameLists same

theorem Sound.deleteBreakpoint
    (sound : Sound store)
    (deleted :
      store.deleteBreakpoint surroundings bp = .ok outcome) :
    Sound outcome.store := by
  rcases delete_cases deleted with ⟨-, same⟩ | ⟨listed, -, same⟩
  · rwa [same]
  · have unlisted : Sound (store.unlist (file store bp) bp) := by
      refine sound.of_fixed ?_ (fun _ _ => rfl) (fun _ _ => rfl)
        fun _ _ => rfl
      rw [breakpoints_unlist listed]
      exact List.erase_sublist
    exact unlisted.of_sameLists same

theorem Sound.enableBreakpoint
    (sound : Sound store)
    (enabled :
      store.enableBreakpoint surroundings bp bEnable = .ok outcome) :
    Sound outcome.store := by
  rcases enable_cases enabled with
    same | ⟨-, same⟩ | ⟨found, updated, -, update, same⟩
  · rwa [same]
  · rw [same]
    exact sound.setIsEnabled bp bEnable
  · rw [same]
    exact (sound.updateOrAddBreakpoint update).setIsEnabled bp bEnable

/-- A kept line is not moved onto another kept line. -/
theorem place_of_moved
    {project : Option Project}
    {filenameBRK : WxString}
    {startline lines : Int}
    {first second : DapBreakpoint}
    (firstKept :
      ¬ OnRemovedLine project filenameBRK startline lines first)
    (secondKept :
      ¬ OnRemovedLine project filenameBRK startline lines second)
    (same :
      place (moved project filenameBRK startline lines first) =
        place (moved project filenameBRK startline lines second)) :
    place first = place second := by
  have movedLine :
      ∀ breakpoint,
        ¬ OnRemovedLine project filenameBRK startline lines breakpoint →
          (moved project filenameBRK startline lines breakpoint).line =
            if Below project filenameBRK startline breakpoint then
              breakpoint.line + lines
            else breakpoint.line := by
    intro breakpoint kept
    by_cases below : Below project filenameBRK startline breakpoint
    · have onOrPast : startline - lines ≤ breakpoint.line := by
        by_contra before
        exact kept ⟨below, by omega⟩
      rw [moved, if_pos ⟨below, onOrPast⟩, if_pos below]
      rfl
    · rw [moved, if_neg fun moves => below moves.1, if_neg below]
  rw [moved_eq first, moved_eq second] at same
  simp only [place, Prod.mk.injEq] at same ⊢
  rcases same with ⟨sameProject, sameFile, sameLine⟩
  rw [movedLine first firstKept, movedLine second secondKept] at sameLine
  refine ⟨sameProject, sameFile, ?_⟩
  by_cases inFile :
      second.project = project ∧ second.filename = filenameBRK
  · simp only [OnRemovedLine, Below, sameProject, sameFile, inFile,
      true_and] at firstKept secondKept sameLine
    split_ifs at sameLine <;> omega
  · have firstAside : ¬ Below project filenameBRK startline first :=
      fun below =>
        inFile ⟨sameProject ▸ below.1, sameFile ▸ below.2.1⟩
    have secondAside : ¬ Below project filenameBRK startline second :=
      fun below => inFile ⟨below.1, below.2.1⟩
    rwa [if_neg firstAside, if_neg secondAside] at sameLine

theorem Sound.shiftAllFileBreakpoints
    {startline lines : Int}
    (sound : Sound store)
    (shifted :
      shiftAllFileBreakpoints surroundings filename startline lines store =
        .ok outcome) :
    Sound outcome.store := by
  rcases shift_leaves (.of_nodup sound.nodup) sound.code shifted with
    ⟨left, objects⟩
  have listed :
      ∀ ref ∈ outcome.store.breakpoints, ref ∈ store.breakpoints :=
    fun ref member => List.mem_of_mem_filter (by rwa [left] at member)
  have sameID :
      ∀ ref ∈ outcome.store.breakpoints,
        (outcome.store.breakpoint ref).id = (store.breakpoint ref).id := by
    intro ref member
    rw [objects ref (listed ref member), moved_eq]
  refine sound.of_injective ?_ ?_ ?_ ?_
  · rw [left]
    exact List.filter_sublist
  · intro ref member
    rw [objects ref (listed ref member), type_moved]
  · intro first firstMember second secondMember same
    rw [objects first (listed first firstMember),
      objects second (listed second secondMember)] at same
    rw [left, List.mem_filter, decide_eq_true_eq] at firstMember secondMember
    exact place_of_moved firstMember.2 secondMember.2 same
  · intro first firstMember second secondMember _ same present
    rw [sameID first firstMember] at same present
    rw [sameID second secondMember] at same
    exact ⟨same, present⟩

theorem Sound.clearBreakpoints (store : Store) :
    Sound (clearBreakpoints store) where
  places := List.Pairwise.nil
  ids := List.Pairwise.nil
  code _ member := absurd member List.not_mem_nil

theorem Sound.clearMaps (sound : Sound store) : Sound (clearMaps store) :=
  sound.of_fixed (List.Sublist.refl _) (fun _ _ => rfl) (fun _ _ => rfl)
    fun _ _ => rfl

theorem Sound.updateTo
    {bp : Breakpoint}
    (sound : Sound store)
    (updated : updateTo surroundings filename bp store = .ok outcome) :
    Sound outcome.store := by
  rcases exists_ok_of_bind updated with ⟨⟨found, after⟩, update, same⟩
  cases same
  exact sound.updateOrAddBreakpoint update

theorem Sound.updateOnLine
    {bp : Breakpoint}
    {pBreakpoint : Ref}
    (sound : Sound store)
    (updated : updateOnLine surroundings bp pBreakpoint store = .ok outcome) :
    Sound outcome.store := by
  unfold Editing.updateOnLine at updated
  dsimp only at updated
  split at updated
  · exact sound.updateTo updated
  · cases updated
    exact sound

/-- Every entry of a reply keeps the breakpoints apart, in either branch. -/
theorem Sound.onEntry
    {bp : Breakpoint}
    (sound : Sound store)
    (handled : onEntry surroundings bp store = .ok outcome) :
    Sound outcome.store := by
  unfold Editing.onEntry at handled
  split at handled
  · exact sound.updateTo handled
  · split at handled
    · exact forEach_invariant
        (fun _ _ _ _ sound updated => sound.updateOnLine updated) sound
        handled
    · cases handled
      exact sound

end Keeping

/-! ## Runs -/

section Runs

variable {store : Store} {surroundings : Surroundings} {outcome : Outcome}

theorem Sound.performEdit
    {edit : Edit}
    (sound : Sound store)
    (performed : performEdit surroundings edit store = .ok outcome) :
    Sound outcome.store := by
  cases edit with
  | operation operation =>
      cases operation with
      | addBreakpoint filename line =>
          rcases exists_ok_of_bind performed with ⟨⟨bp, after⟩, added, same⟩
          cases same
          exact sound.updateOrAddBreakpoint added
      | deleteBreakpoint bp => exact sound.deleteBreakpoint performed
      | enableBreakpoint bp bEnable => exact sound.enableBreakpoint performed
  | deleteAllBreakpoints =>
      cases performed
      exact Sound.clearBreakpoints _
  | shiftAllFileBreakpoints editorFilename startline lines =>
      exact sound.shiftAllFileBreakpoints performed

theorem Sound.debuggerResetData
    (sound : Sound store)
    (bClearAllData : ResetDataType) :
    Sound (debuggerResetData bClearAllData store) := by
  cases bClearAllData with
  | normal => exact sound
  | startup => exact sound.clearMaps
  | all => exact (Sound.clearBreakpoints store).clearMaps

theorem Sound.performEvent
    {event : Event}
    (sound : Sound store)
    (performed : performEvent surroundings event store = .ok outcome) :
    Sound outcome.store := by
  cases event with
  | edit edit => exact sound.performEdit performed
  | onBreakpointDataSet resp =>
      exact forEach_invariant
        (fun bp _ store outcome sound handled => sound.onEntry handled)
        sound performed
  | debuggerResetData bClearAllData =>
      cases performed
      exact sound.debuggerResetData bClearAllData

theorem Sound.eventStep
    {next : Store}
    {call : EventCall}
    (sound : Sound store)
    (taken : eventStep store call = some next) :
    Sound next := by
  rcases exists_of_storeOf taken with ⟨outcome, performed, rfl⟩
  exact sound.performEvent performed

/--
In every run from the empty store, of edits, replies and resets in any order,
the listed breakpoints have distinct places, and distinct IDs other than -1.
-/
theorem always_unique (calls : List EventCall) :
    Always eventStep Unique Store.empty calls :=
  always_of_along
    (fun _ _ _ sound _ taken => sound.eventStep taken)
    (fun _ sound => sound.toUnique) sound_empty
    (along_of_forall Store.empty calls fun _ _ => trivial)

end Runs

end DebuggerDap.Breakpoints.Uniqueness
