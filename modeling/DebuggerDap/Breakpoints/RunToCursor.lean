import DebuggerDap.Breakpoints.Returning
import DebuggerDap.Breakpoints.Stopping

/-!
# Running to the cursor

`RunToCursor` marks whatever breakpoint `AddBreakpoint` returns as temporary.
That is a new one, or one the user has set on the line; the next stop there
deletes it in either case.
-/

namespace DebuggerDap.Breakpoints.RunToCursor

open DebuggerDap.Text.Strings
open DebuggerDap.Text.Numbers
open DebuggerDap.Protocol.LengthArithmetic
open DebuggerDap.DapClient.State
open DebuggerDap.Persistence.StateFile
open DebuggerDap.Breakpoints.Store
open DebuggerDap.Breakpoints.Grouping
open DebuggerDap.Breakpoints.Editing
open DebuggerDap.Breakpoints.Announcing
open DebuggerDap.Breakpoints.Mirror
open DebuggerDap.Breakpoints.Uniqueness
open DebuggerDap.Breakpoints.Returning
open DebuggerDap.Breakpoints.Stopping

/-! ## The command -/

/-- The other members of the objects; new ones are as constructed. -/
def detailsAfter
    (before after : Store)
    (details : Ref → Details) : Ref → Details :=
  fun ref =>
    if before.heap.size ≤ ref ∧ ref < after.heap.size then Details.initial
    else details ref

def setIsTemporary
    (bp : Ref)
    (temporary : Bool)
    (details : Ref → Details) : Ref → Details :=
  Function.update details bp { details bp with temporary := temporary }

/-- The store and the other members, and what the client is asked for. -/
structure Placed (κ : Type) where
  store : Store
  details : Ref → Details
  calls : List (ApiCall κ)

variable {κ : Type}

def addTemporary
    (surroundings : Surroundings)
    (filename : WxString)
    (line : Int)
    (details : Ref → Details)
    (store : Store) : Except Fault (Placed κ) := do
  let (bp, outcome) ← store.addBreakpoint surroundings filename line
  .ok
    { store := outcome.store
      details :=
        setIsTemporary bp true (detailsAfter store outcome.store details)
      calls := outcome.sent.map Announcement.call }

def runToCursor
    (surroundings : Surroundings)
    (filename : WxString)
    (line : Int)
    (details : Ref → Details)
    (store : Store) : Except Fault (Placed κ) :=
  if surroundings.state.isRunning then
    if surroundings.state.isStopped then do
      let placed ← addTemporary surroundings filename line details store
      .ok { placed with calls := placed.calls ++ [.continue_ notFound true] }
    else .ok ⟨store, details, []⟩
  else addTemporary surroundings filename line details store

/-- A debugger that runs and has not stopped is left alone. -/
def Acts (surroundings : Surroundings) : Prop :=
  surroundings.state.isRunning = true → surroundings.state.isStopped = true

instance (surroundings : Surroundings) : Decidable (Acts surroundings) :=
  inferInstanceAs (Decidable (_ → _))

/-! ## The breakpoint there -/

section There

variable {surroundings : Surroundings} {store : Store} {bp : Ref}
variable {filename : WxString} {line : Int} {outcome : Outcome}

theorem target_withoutID :
    target surroundings filename line (-1) store =
      store.findBreakpoint
        (surroundings.findProjectForFile (store.filenameBRK filename))
        (store.filenameBRK filename) line := by
  rw [target, Store.findID, if_neg (not_not.mpr rfl), Option.none_or]

/-- Remembering the path of a file does not change which file it is. -/
theorem filenameBRK_remember :
    (store.remember surroundings (store.filenameBRK filename)).filenameBRK
        filename =
      store.filenameBRK filename := by
  cases found :
      store.mapFileSystemDap.toList.find? fun entry =>
        entry.2 = filename with
  | some entry =>
      -- The file has a path already, so the map stays as it is.
      have file : store.filenameBRK filename = entry.1 := by
        rw [Store.filenameBRK, found]
      have known :
          store.mapFileSystemDap[entry.1]? = some entry.2 :=
        Std.TreeMap.mem_toList_iff_getElem?_eq_some.mp
          (List.mem_of_find?_eq_some found)
      have present : entry.1 ∈ store.mapFileSystemDap := by
        rw [Std.TreeMap.mem_iff_isSome_getElem?, known]
        rfl
      have same :
          (store.mapFileSystemDap.insertIfNew entry.1
            (surroundings.dapPath entry.1)).toList =
              store.mapFileSystemDap.toList := by
        apply Std.TreeMap.Equiv.toList_eq
        apply Std.TreeMap.Equiv.of_forall_constGet?_eq
        intro other
        rw [Std.TreeMap.getElem?_insertIfNew, if_neg]
        rintro ⟨equal, absent⟩
        exact absent present
      rw [file, Store.filenameBRK, Store.remember, same, found]
  | none =>
      have file : store.filenameBRK filename = filename := by
        rw [Store.filenameBRK, found]
      rw [file, Store.filenameBRK]
      split
      · next entry later =>
          have member :=
            Std.TreeMap.mem_toList_iff_getElem?_eq_some.mp
              (List.mem_of_find?_eq_some later)
          rw [Store.remember, Std.TreeMap.getElem?_insertIfNew] at member
          split at member
          · next new =>
              exact (Std.LawfulEqCmp.compare_eq_iff_eq.mp new.1).symm
          · rw [List.find?_eq_none] at found
            have old :=
              Std.TreeMap.mem_toList_iff_getElem?_eq_some.mpr member
            exact absurd (List.find?_some later) (found _ old)
      · rfl

theorem filenameBRK_announce
    {base : Store}
    (announced :
      store.updateDAPSetBreakpointsByFileName surroundings
        (base.filenameBRK filename) = .ok outcome)
    (samePaths : store.mapFileSystemDap = base.mapFileSystemDap) :
    outcome.store.filenameBRK filename = base.filenameBRK filename := by
  have sameName : base.filenameBRK filename = store.filenameBRK filename := by
    rw [Store.filenameBRK, Store.filenameBRK, samePaths]
  rw [sameName] at announced ⊢
  rw [Store.updateDAPSetBreakpointsByFileName] at announced
  split at announced
  · rcases exists_ok_of_bind announced with ⟨lines, -, same⟩
    cases same
    exact filenameBRK_remember
  · cases announced
    rfl

theorem findBreakpoint_eq {project : Option Project} :
    store.findBreakpoint project filename line =
      store.breakpoints.find? fun ref =>
        place (store.breakpoint ref) = (project, filename, line) := by
  rw [Store.findBreakpoint]
  refine congrArg (List.find? · store.breakpoints) (funext fun ref => ?_)
  simp [place, Bool.and_assoc]

/-- What is added is returned by the search at the place. -/
theorem target_of_added
    (added :
      store.addBreakpoint surroundings filename line = .ok (bp, outcome)) :
    target surroundings filename line (-1) outcome.store = some bp := by
  let filenameBRK := store.filenameBRK filename
  let project := surroundings.findProjectForFile filenameBRK
  cases search : store.findBreakpoint project filenameBRK line with
  | some found =>
      rw [addBreakpoint_found search] at added
      rcases exists_ok_of_bind added with ⟨after, switched, equal⟩
      cases equal
      have sameName :
          outcome.store.filenameBRK filename = filenameBRK := by
        rw [Store.switch] at switched
        split at switched
        · exact filenameBRK_announce switched rfl
        · cases switched
          rfl
      have same := switch_leaves switched
      have samePlace (ref : Ref) :
          place (outcome.store.breakpoint ref) =
            place (store.breakpoint ref) := by
        rw [same.breakpoint]
        exact field_modify place (.setIsEnabled true) (fun _ => rfl) bp ref
      rw [target_withoutID, sameName, ← search, findBreakpoint_eq,
        findBreakpoint_eq, same.breakpoints]
      simp only [samePlace, Store.breakpoints_modify, project]
  | none =>
      rw [addBreakpoint_new search, Store.addNew] at added
      rcases exists_ok_of_bind added with ⟨after, announced, equal⟩
      cases equal
      have sameName :
          outcome.store.filenameBRK filename = filenameBRK :=
        filenameBRK_announce announced rfl
      have same := announce_leaves announced
      have old :
          (store.breakpoints.find? fun ref =>
            place
                ((store.listNew project filenameBRK line (-1)).breakpoint
                  ref) = (project, filenameBRK, line)) = none := by
        rw [List.find?_eq_none]
        intro ref listed
        rw [breakpoint_listNew_old listed, decide_eq_true_eq]
        exact findBreakpoint_eq_none search ref listed
      have new :
          place
              ((store.listNew project filenameBRK line (-1)).breakpoint
                store.heap.size) = (project, filenameBRK, line) := by
        rw [breakpoint_listNew_new]
        rfl
      rw [target_withoutID, sameName, findBreakpoint_eq, same.breakpoints,
        same.breakpoint]
      show List.find? _ (store.breakpoints ++ [store.heap.size]) = _
      rw [List.find?_append, old, Option.none_or]
      exact List.find?_cons_of_pos (decide_eq_true new)

end There

/-! ## The stop there -/

/-- The text names an ID. -/
def Names
    (width : LongWidth)
    (brkDescription : WxString)
    (id : Int) : Prop :=
  ∃ text, brkID brkDescription = .ok text ∧ text ≠ [] ∧
    ∃ number ∈ toLong width.range text, intRange.wrap number = id

/-- No breakpoint but the one there has the ID. -/
def Unshared
    (surroundings : Surroundings)
    (filename : WxString)
    (line id : Int)
    (store : Store) : Prop :=
  ∀ ref ∈ store.breakpoints,
    target surroundings filename line (-1) store ≠ some ref →
      (store.breakpoint ref).id ≠ id

instance
    (surroundings : Surroundings)
    (filename : WxString)
    (line id : Int)
    (store : Store) :
    Decidable (Unshared surroundings filename line id store) :=
  inferInstanceAs (Decidable (∀ ref ∈ store.breakpoints, _))

/-- The adapter has given the breakpoint there its ID. -/
def identifyThere
    (surroundings : Surroundings)
    (filename : WxString)
    (line id : Int)
    (store : Store) : Store :=
  match target surroundings filename line (-1) store with
  | some bp => store.modify bp (.setID id)
  | none => store

/-- A breakpoint the stop deletes, if it is a temporary one. -/
def Deletable (store : Store) (bp : Ref) : Prop :=
  (store.breakpoint bp).filename ≠ [] ∧
    (store.breakpoint bp).type = .bptCode

instance (store : Store) (bp : Ref) : Decidable (Deletable store bp) :=
  inferInstanceAs (Decidable (_ ∧ _))

section Stop

variable {width : LongWidth} {surroundings later : Surroundings}
variable {brkDescription filename : WxString} {line id : Int}
variable {details : Ref → Details} {store : Store} {bp : Ref}

theorem identifyThere_fields {β : Type} (field : DapBreakpoint → β)
    (kept : ∀ breakpoint, field (breakpoint.setID id) = field breakpoint)
    (ref : Ref) :
    field
        ((identifyThere surroundings filename line id store).breakpoint
          ref) =
      field (store.breakpoint ref) := by
  rw [identifyThere]
  split
  · exact field_modify field (.setID id) kept _ ref
  · rfl

theorem identifyThere_lists :
    (identifyThere surroundings filename line id store).breakpoints =
        store.breakpoints ∧
      (identifyThere surroundings filename line id
          store).mapFilebreakpoints =
        store.mapFilebreakpoints := by
  unfold identifyThere
  split <;> exact ⟨rfl, rfl⟩

/-- Once it is identified only the breakpoint there has the ID. -/
theorem id_identifyThere
    (unshared : Unshared surroundings filename line id store)
    {ref : Ref}
    (listed : ref ∈ store.breakpoints) :
    ((identifyThere surroundings filename line id store).breakpoint ref).id =
        id ↔
      target surroundings filename line (-1) store = some ref := by
  have other := unshared ref listed
  rw [identifyThere]
  cases there : target surroundings filename line (-1) store with
  | none =>
      rw [there] at other
      exact iff_of_false (other nofun) nofun
  | some bp =>
      rw [there, ne_eq, Option.some.injEq] at other
      rw [Option.some.injEq]
      dsimp only
      by_cases same : bp = ref
      · subst same
        rw [Store.breakpoint_modify_self]
        exact iff_of_true rfl rfl
      · rw [Store.breakpoint_modify_of_ne _ _ (Ne.symm same)]
        exact iff_of_false (other same) same

/-- A text that names the ID of one breakpoint is about that one. -/
theorem namedBreakpoint_of_names
    {text : WxString}
    {number : Int}
    {there : Option Ref}
    (nonempty : text ≠ [])
    (read : toLong width.range text = some number)
    (listed : ∀ ref ∈ there, ref ∈ store.breakpoints)
    (only :
      ∀ ref ∈ store.breakpoints,
        (store.breakpoint ref).id = intRange.wrap number ↔
          there = some ref) :
    namedBreakpoint width text store = there := by
  rw [namedBreakpoint, if_pos nonempty, read, Option.bind_some,
    getBreakpointByID]
  cases there with
  | none =>
      rw [List.find?_eq_none]
      intro ref member same
      cases (only ref member).mp (of_decide_eq_true same)
  | some bp =>
      have member : bp ∈ store.breakpoints := listed bp rfl
      cases found :
          store.breakpoints.find? fun ref =>
            (store.breakpoint ref).id = intRange.wrap number with
      | none =>
          rw [List.find?_eq_none] at found
          exact absurd (decide_eq_true ((only bp member).mpr rfl))
            (found bp member)
      | some first =>
          have same := List.find?_some found
          rw [decide_eq_true_eq] at same
          exact ((only first (List.mem_of_find?_eq_some found)).mp same).symm

/-- What the stop at the breakpoint there takes out of the list. -/
def takenOut
    (surroundings : Surroundings)
    (filename : WxString)
    (line : Int)
    (details : Ref → Details)
    (store : Store) : Option Ref :=
  (target surroundings filename line (-1) store).filter fun bp =>
    Deletable store bp ∧ (details bp).temporary

theorem removable_identifyThere
    (names : Names width brkDescription id)
    (unshared : Unshared surroundings filename line id store) :
    removable width brkDescription details
        (identifyThere surroundings filename line id store) =
      takenOut surroundings filename line details store := by
  rcases names with ⟨text, read, nonempty, number, parsed, rfl⟩
  let identified :=
    identifyThere surroundings filename line (intRange.wrap number) store
  have sameList : identified.breakpoints = store.breakpoints :=
    identifyThere_lists.1
  have named :
      namedBreakpoint width text identified =
        target surroundings filename line (-1) store := by
    apply namedBreakpoint_of_names nonempty parsed
    · rw [sameList]
      exact fun ref there => mem_of_target there
    · rw [sameList]
      exact fun ref listed => id_identifyThere unshared listed
  rw [removable, read, takenOut]
  dsimp only
  rw [named]
  refine congrArg (Option.filter · _) (funext fun ref => ?_)
  rw [identifyThere_fields DapBreakpoint.filename fun _ => rfl,
    identifyThere_fields DapBreakpoint.type fun _ => rfl]
  exact decide_eq_decide.mpr (by rw [Deletable]; tauto)

theorem lasts_identifyThere {file : WxString} {removed : List Int} :
    Lasts (identifyThere surroundings filename line id store) file removed ↔
      Lasts store file removed := by
  have sameLine :=
    @identifyThere_fields surroundings filename line id store Int
      DapBreakpoint.line fun _ => rfl
  unfold Lasts OnlyFile entryLines drawer
  rw [identifyThere_lists.2]
  simp only [sameLine]

/-- The list that is left when the stop there is handled, and the flags. -/
theorem processed_iff
    (names : Names width brkDescription id)
    (unshared : Unshared surroundings filename line id store)
    (refs : List Ref)
    (enabled : Ref → Bool) :
    (∃ (final : Store) (calls : List (ApiCall κ)),
      onProcessBreakpointData width later brkDescription details
          (identifyThere surroundings filename line id store) =
            .ok (final, calls) ∧
        final.breakpoints = refs ∧
        ∀ ref ∈ refs, (final.breakpoint ref).enabled = enabled ref) ↔
      (later.AtStop →
        ∀ bp ∈ takenOut surroundings filename line details store,
          Lasts store (file store bp) [(store.breakpoint bp).line]) ∧
        store.breakpoints.diff
            (takenOut surroundings filename line details store).toList =
          refs ∧
        ∀ ref ∈ refs, (store.breakpoint ref).enabled = enabled ref := by
  let identified := identifyThere surroundings filename line id store
  have readable : Readable brkDescription := by
    rcases names with ⟨text, read, -⟩
    exact brkID_ok_iff.mp ⟨text, read⟩
  have removes := @removable_identifyThere width surroundings brkDescription
    filename line id details store names unshared
  have sameEnabled :=
    @identifyThere_fields surroundings filename line id store Bool
      DapBreakpoint.enabled fun _ => rfl
  have manageable :
      Manageable width later brkDescription details identified ↔
        (later.AtStop →
          ∀ bp ∈ takenOut surroundings filename line details store,
            Lasts store (file store bp) [(store.breakpoint bp).line]) := by
    rw [Manageable, and_iff_right readable, removes]
    simp only [identified, lasts_identifyThere, file,
      identifyThere_fields DapBreakpoint.filename fun _ => rfl,
      identifyThere_fields DapBreakpoint.line fun _ => rfl]
  have left
      {outcome : Outcome}
      (removed :
        removeNamed width later brkDescription details identified =
          .ok outcome) :
      (outcome.store.breakpoints = refs ∧
          ∀ ref ∈ refs, (outcome.store.breakpoint ref).enabled =
            enabled ref) ↔
        store.breakpoints.diff
            (takenOut surroundings filename line details store).toList =
          refs ∧
        ∀ ref ∈ refs, (store.breakpoint ref).enabled = enabled ref := by
    rcases removeNamed_leaves removed with ⟨sameHeap, sameList⟩
    have sameObjects : outcome.store.breakpoint = identified.breakpoint := by
      unfold Store.breakpoint
      rw [sameHeap]
    rw [sameList, removes, sameObjects, identifyThere_lists.1]
    simp only [identified, sameEnabled]
    cases takenOut surroundings filename line details store <;> simp
  rw [← manageable, ← removeNamed_ok_iff]
  constructor
  · rintro ⟨final, calls, ran, kept⟩
    rcases onProcess_ok_iff.mp ran with ⟨outcome, removed, rfl, -⟩
    exact ⟨⟨outcome, removed⟩, (left removed).mp kept⟩
  · rintro ⟨⟨outcome, removed⟩, kept⟩
    exact ⟨outcome.store, _,
      onProcess_ok_iff.mpr ⟨outcome, removed, rfl, rfl⟩,
      (left removed).mpr kept⟩

end Stop

/-! ## The breakpoint that is made -/

/--
The map has no other file, or another line of the file, when the object of a
new breakpoint is there.
-/
def Spare
    (project : Option Project)
    (filename : WxString)
    (line : Int)
    (store : Store) : Prop :=
  OnlyFile store filename ∨
    ∃ lines ∈
        entryLines (store.make (.new project filename line (-1))) filename,
      lines.erase line ≠ []

instance
    (project : Option Project)
    (filename : WxString)
    (line : Int)
    (store : Store) : Decidable (Spare project filename line store) :=
  inferInstanceAs (Decidable (_ ∨ ∃ lines ∈ entryLines _ _, _))

section Made

variable {surroundings : Surroundings} {store : Store} {bp : Ref}
variable {project : Option Project} {filename : WxString} {line id : Int}
variable {outcome : Outcome}

theorem onlyFile_listNew :
    OnlyFile (store.listNew project filename line id) filename ↔
      OnlyFile store filename := by
  rw [onlyFile_iff, onlyFile_iff]
  refine forall₂_congr fun other different => ?_
  rw [drawer, Store.listNew, updateMap_of_ne different true, drawer]
  rfl

/-- The map lasts through a new breakpoint if it has a line to spare. -/
theorem lasts_listNew :
    Lasts (store.listNew project filename line (-1)) filename [line] ↔
      Spare project filename line store := by
  let made := store.make (.new project filename line (-1))
  have newLine : (made.breakpoint store.heap.size).line = line := by
    rw [breakpoint_make_new]
    rfl
  have entry :
      entryLines (store.listNew project filename line (-1)) filename =
        ((made.updateMapFileBreakPoints filename store.heap.size
          true)[filename]?).map fun refs =>
            refs.map fun ref => (made.breakpoint ref).line := rfl
  rw [Lasts, Spare, onlyFile_listNew, entry]
  refine or_congr_right ?_
  show _ ↔ ∃ lines ∈ entryLines made filename, _
  rw [entryLines]
  cases found : drawer made filename with
  | none =>
      rw [updateMap_add (by rw [found]; simp), found]
      simp [newLine]
  | some refs =>
      have onLine :
          refs.any (made.onLineOf store.heap.size) = true ↔
            line ∈ refs.map fun ref => (made.breakpoint ref).line := by
        simp only [List.any_eq_true, Store.onLineOf, newLine, beq_iff_eq,
          List.mem_map]
      by_cases taken : refs.any (made.onLineOf store.heap.size) = true
      · have member := onLine.mp taken
        have nonempty := List.ne_nil_of_mem member
        have same : made.mapFilebreakpoints[filename]? = some refs := found
        rw [updateMap_add_taken found taken, same]
        simp only [Option.map_some, Option.mem_some_iff, exists_eq_left',
          List.diff_cons, List.diff_nil, nonempty, false_or]
      · have absent := mt onLine.mpr taken
        rw [updateMap_add (by simpa [found] using taken), found]
        simp only [Option.getD_some, Option.map_some, List.map_append,
          List.map_cons, List.map_nil, newLine, Option.mem_some_iff,
          exists_eq_left', List.diff_cons, List.diff_nil]
        rw [List.erase_append_right _ absent, List.erase_cons_head,
          List.append_nil, List.erase_of_not_mem absent]
        simp

end Made

/-! ## The breakpoints of the user -/

/--
When the stop at the line is handled the list is as it was before, with the
flags of its breakpoints.
-/
def Restored
    (width : LongWidth)
    (surroundings later : Surroundings)
    (filename : WxString)
    (line id : Int)
    (brkDescription : WxString)
    (details : Ref → Details)
    (store : Store)
    (placed : Store)
    (placedDetails : Ref → Details) : Prop :=
  (∃ (final : Store) (calls : List (ApiCall Unit)),
    onProcessBreakpointData width later brkDescription placedDetails
        (identifyThere surroundings filename line id placed) =
          .ok (final, calls) ∧
      final.breakpoints = store.breakpoints ∧
      ∀ ref ∈ store.breakpoints,
        (final.breakpoint ref).enabled = (store.breakpoint ref).enabled) ∧
    ∀ ref ∈ store.breakpoints,
      (placedDetails ref).temporary = (details ref).temporary

/-- The command comes to its end, and the stop after it restores the list. -/
def PreservesUsers
    (width : LongWidth)
    (surroundings later : Surroundings)
    (filename : WxString)
    (line id : Int)
    (brkDescription : WxString)
    (details : Ref → Details)
    (store : Store) : Prop :=
  ∃ placed : Placed Unit,
    runToCursor surroundings filename line details store = .ok placed ∧
      Restored width surroundings later filename line id brkDescription
        details store placed.store placed.details

/--
A breakpoint of the user at the place is one the command changes nothing of
and the stop does not delete.  If there is none, the new one has a file name
and can be deleted.
-/
def SparesUsers
    (surroundings later : Surroundings)
    (filename : WxString)
    (line : Int)
    (details : Ref → Details)
    (store : Store) : Prop :=
  let filenameBRK := store.filenameBRK filename
  (∀ bp ∈ target surroundings filename line (-1) store,
    (Acts surroundings →
      (store.breakpoint bp).enabled = true ∧
        (details bp).temporary = true) ∧
      ¬ (Deletable store bp ∧
        (Acts surroundings ∨ (details bp).temporary = true))) ∧
    (target surroundings filename line (-1) store = none →
      Acts surroundings →
        filenameBRK ≠ [] ∧
          (later.AtStop →
            Spare (surroundings.findProjectForFile filenameBRK) filenameBRK
              line store))

instance
    (surroundings later : Surroundings)
    (filename : WxString)
    (line : Int)
    (details : Ref → Details)
    (store : Store) :
    Decidable
      (SparesUsers surroundings later filename line details store) :=
  inferInstanceAs (Decidable ((∀ bp ∈ target _ _ _ _ _, _) ∧ (_ → _ → _)))

section Users

variable {width : LongWidth} {surroundings later : Surroundings}
variable {brkDescription filename : WxString} {line id : Int}
variable {details : Ref → Details} {store : Store} {bp : Ref}
variable {outcome : Outcome}

theorem runToCursor_of_idle (idle : ¬ Acts surroundings) :
    runToCursor (κ := κ) surroundings filename line details store =
      .ok ⟨store, details, []⟩ := by
  rw [Acts, Classical.not_imp] at idle
  rw [runToCursor, if_pos idle.1, if_neg idle.2]

theorem addTemporary_iff (wanted : Store → (Ref → Details) → Prop) :
    (∃ placed : Placed κ,
      addTemporary surroundings filename line details store = .ok placed ∧
        wanted placed.store placed.details) ↔
      ∃ bp outcome,
        store.addBreakpoint surroundings filename line =
            .ok (bp, outcome) ∧
          wanted outcome.store
            (setIsTemporary bp true
              (detailsAfter store outcome.store details)) := by
  rw [addTemporary]
  cases store.addBreakpoint surroundings filename line with
  | error fault => simp [bind, Except.bind]
  | ok added =>
      rcases added with ⟨bp, outcome⟩
      simp [bind, Except.bind]

/-- Where the command acts it is `AddBreakpoint` and the mark. -/
theorem runToCursor_of_acts
    (acts : Acts surroundings)
    (wanted : Store → (Ref → Details) → Prop) :
    (∃ placed : Placed κ,
      runToCursor surroundings filename line details store = .ok placed ∧
        wanted placed.store placed.details) ↔
      ∃ bp outcome,
        store.addBreakpoint surroundings filename line =
            .ok (bp, outcome) ∧
          wanted outcome.store
            (setIsTemporary bp true
              (detailsAfter store outcome.store details)) := by
  rw [runToCursor, ← @addTemporary_iff κ]
  by_cases running : surroundings.state.isRunning = true
  · rw [if_pos running, if_pos (acts running)]
    cases addTemporary (κ := κ) surroundings filename line details store with
    | error fault => simp [bind, Except.bind]
    | ok placed => simp [bind, Except.bind]
  · rw [if_neg running]

/-- Adding does not fault where nothing has to be switched. -/
theorem addBreakpoint_ok
    (already :
      ∀ bp ∈ target surroundings filename line (-1) store,
        (store.breakpoint bp).enabled = true) :
    ∃ bp outcome,
      store.addBreakpoint surroundings filename line = .ok (bp, outcome) := by
  obtain ⟨⟨bp, outcome⟩, added⟩ :=
    updateOrAdd_ok_iff.mpr fun bp there changes =>
      absurd (already bp there) changes
  exact ⟨bp, outcome, added⟩

theorem unshared_of_added
    (unshared : Unshared surroundings filename line id store)
    (added :
      store.addBreakpoint surroundings filename line = .ok (bp, outcome)) :
    Unshared surroundings filename line id outcome.store := by
  intro ref listed other
  rw [target_of_added added, ne_eq, Option.some.injEq] at other
  cases there : target surroundings filename line (-1) store with
  | some found =>
      rcases identify_of_target there added with ⟨rfl, same⟩
      rw [identify, if_neg (not_not.mpr rfl)] at same
      rw [same.breakpoints] at listed
      rw [same.breakpoint,
        field_modify DapBreakpoint.id (.setIsEnabled true) fun _ => rfl]
      exact unshared ref listed (by rw [there, ne_eq, Option.some.injEq]
                                    exact other)
  | none =>
      rcases listNew_of_target there added with ⟨rfl, same⟩
      have old : ref ∈ store.breakpoints := by
        rw [same.breakpoints] at listed
        rcases List.mem_append.mp listed with old | new
        · exact old
        · exact absurd (List.mem_singleton.mp new).symm other
      rw [same.breakpoint, breakpoint_listNew_old old]
      refine unshared ref old ?_
      rw [there]
      exact (Option.some_ne_none ref).symm

/-- The objects that are listed keep their members. -/
theorem detailsAfter_of_listed
    {after : Store}
    {ref : Ref}
    (listed : ref ∈ store.breakpoints) :
    detailsAfter store after details ref = details ref :=
  if_neg fun made => absurd (store.inUse ref listed) (Nat.not_lt.mpr made.1)

theorem diff_toList_eq_iff
    {refs : List Ref}
    {removed : Option Ref}
    (among : ∀ ref ∈ removed, ref ∈ refs) :
    refs.diff removed.toList = refs ↔ removed = none := by
  cases removed with
  | none => simp
  | some ref =>
      have member : ref ∈ refs := among ref rfl
      simp [List.erase_eq_self_iff, member]

theorem restored_iff
    {after : Store}
    {detailsThen : Ref → Details}
    (names : Names width brkDescription id)
    (unshared : Unshared surroundings filename line id after) :
    Restored width surroundings later filename line id brkDescription details
        store after detailsThen ↔
      ((later.AtStop →
        ∀ bp ∈ takenOut surroundings filename line detailsThen after,
          Lasts after (file after bp) [(after.breakpoint bp).line]) ∧
        after.breakpoints.diff
            (takenOut surroundings filename line detailsThen after).toList =
          store.breakpoints ∧
        ∀ ref ∈ store.breakpoints,
          (after.breakpoint ref).enabled =
            (store.breakpoint ref).enabled) ∧
        ∀ ref ∈ store.breakpoints,
          (detailsThen ref).temporary = (details ref).temporary := by
  rw [Restored, processed_iff names unshared]

/-- An idle command preserves what the stop does not take out. -/
theorem idle_restores_iff
    (names : Names width brkDescription id)
    (unshared : Unshared surroundings filename line id store) :
    Restored width surroundings later filename line id brkDescription details
        store store details ↔
      ∀ bp ∈ target surroundings filename line (-1) store,
        ¬ (Deletable store bp ∧ (details bp).temporary = true) := by
  have among :
      ∀ ref ∈ takenOut surroundings filename line details store,
        ref ∈ store.breakpoints := by
    intro ref taken
    exact mem_of_target (Option.filter_eq_some_iff.mp taken).1
  have nothing :
      takenOut surroundings filename line details store = none ↔
        ∀ bp ∈ target surroundings filename line (-1) store,
          ¬ (Deletable store bp ∧ (details bp).temporary = true) := by
    rw [takenOut, Option.filter_eq_none_iff]
    simp
  rw [restored_iff names unshared, diff_toList_eq_iff among, ← nothing]
  constructor
  · exact fun restored => restored.1.2.1
  · intro none
    refine ⟨⟨?_, none, fun _ _ => rfl⟩, fun _ _ => rfl⟩
    intro _ bp taken
    rw [none] at taken
    cases taken

/-- What the command has added is taken out if it can be deleted. -/
theorem takenOut_of_added
    (added :
      store.addBreakpoint surroundings filename line = .ok (bp, outcome)) :
    takenOut surroundings filename line
        (setIsTemporary bp true (detailsAfter store outcome.store details))
        outcome.store =
      if Deletable outcome.store bp then some bp else none := by
  rw [takenOut, target_of_added added, Option.filter_some, setIsTemporary,
    Function.update_self]
  simp

theorem setIsTemporary_of_ne
    {ref : Ref}
    (different : ref ≠ bp)
    (temporary : Bool) :
    setIsTemporary bp temporary details ref = details ref :=
  Function.update_of_ne different _ details

/-- A breakpoint the command finds is preserved if nothing happens to it. -/
theorem found_restores_iff
    (names : Names width brkDescription id)
    (unshared : Unshared surroundings filename line id store)
    (there : target surroundings filename line (-1) store = some bp)
    (added :
      store.addBreakpoint surroundings filename line = .ok (bp, outcome)) :
    Restored width surroundings later filename line id brkDescription details
        store outcome.store
        (setIsTemporary bp true
          (detailsAfter store outcome.store details)) ↔
      ((store.breakpoint bp).enabled = true ∧
        (details bp).temporary = true) ∧ ¬ Deletable store bp := by
  have listed : bp ∈ store.breakpoints := mem_of_target there
  have same := (identify_of_target there added).2
  rw [identify, if_neg (not_not.mpr rfl)] at same
  have sameList : outcome.store.breakpoints = store.breakpoints :=
    same.breakpoints
  have enabledThen :
      (outcome.store.breakpoint bp).enabled = true := by
    rw [same.breakpoint, Store.breakpoint_modify_self]
    rfl
  have deletable : Deletable outcome.store bp ↔ Deletable store bp := by
    unfold Deletable
    rw [same.breakpoint,
      field_modify DapBreakpoint.filename (.setIsEnabled true) fun _ => rfl,
      field_modify DapBreakpoint.type (.setIsEnabled true) fun _ => rfl]
  have taken := @takenOut_of_added surroundings filename line details store bp
    outcome added
  rw [restored_iff names (unshared_of_added unshared added), taken]
  by_cases deletes : Deletable store bp
  · rw [if_pos (deletable.mpr deletes), sameList]
    refine iff_of_false ?_ fun kept => kept.2 deletes
    rintro ⟨⟨-, left, -⟩, -⟩
    rw [Option.toList_some, List.diff_cons, List.diff_nil,
      List.erase_eq_self_iff] at left
    exact left listed
  · rw [if_neg (mt deletable.mp deletes), sameList, and_iff_left deletes]
    constructor
    · rintro ⟨⟨-, -, enabled⟩, temporary⟩
      refine ⟨(enabled bp listed).symm.trans enabledThen, ?_⟩
      rw [← temporary bp listed, setIsTemporary, Function.update_self]
    · rintro ⟨enabled, temporary⟩
      refine ⟨⟨fun _ _ taken => absurd taken (Option.not_mem_none _), rfl,
        fun ref _ => ?_⟩, fun ref member => ?_⟩
      · by_cases here : ref = bp
        · rw [here, enabledThen, enabled]
        · rw [same.breakpoint, Store.breakpoint_modify_of_ne _ _ here]
      · by_cases here : ref = bp
        · rw [here, setIsTemporary, Function.update_self, temporary]
        · rw [setIsTemporary_of_ne here, detailsAfter_of_listed member]

/-- A breakpoint the command makes is taken out again, if it can be. -/
theorem made_restores_iff
    (names : Names width brkDescription id)
    (unshared : Unshared surroundings filename line id store)
    (missing : target surroundings filename line (-1) store = none)
    (added :
      store.addBreakpoint surroundings filename line = .ok (bp, outcome)) :
    let filenameBRK := store.filenameBRK filename
    Restored width surroundings later filename line id brkDescription details
        store outcome.store
        (setIsTemporary bp true
          (detailsAfter store outcome.store details)) ↔
      filenameBRK ≠ [] ∧
        (later.AtStop →
          Spare (surroundings.findProjectForFile filenameBRK) filenameBRK
            line store) := by
  intro filenameBRK
  let project := surroundings.findProjectForFile filenameBRK
  have taken := @takenOut_of_added surroundings filename line details store bp
    outcome added
  rcases listNew_of_target missing added with ⟨rfl, same⟩
  have sameList :
      outcome.store.breakpoints = store.breakpoints ++ [store.heap.size] :=
    same.breakpoints
  have fresh : store.heap.size ∉ store.breakpoints :=
    fun member => absurd (store.inUse _ member) (Nat.lt_irrefl _)
  have new :
      outcome.store.breakpoint store.heap.size =
        .new project filenameBRK line (-1) := by
    rw [same.breakpoint]
    exact breakpoint_listNew_new
  have deletable :
      Deletable outcome.store store.heap.size ↔ filenameBRK ≠ [] := by
    rw [Deletable, new]
    exact and_iff_left rfl
  rw [restored_iff names (unshared_of_added unshared added), taken, sameList]
  by_cases deletes : filenameBRK ≠ []
  · have erased :
        (store.breakpoints ++ [store.heap.size]).diff
            (some store.heap.size).toList =
          store.breakpoints := by
      rw [Option.toList_some, List.diff_cons, List.diff_nil,
        List.erase_append_right _ fresh, List.erase_cons_head,
        List.append_nil]
    have lasts :
        Lasts outcome.store (file outcome.store store.heap.size)
            [(outcome.store.breakpoint store.heap.size).line] ↔
          Spare project filenameBRK line store := by
      rw [file, new]
      exact (Lasts.of_sameLists same).trans lasts_listNew
    rw [if_pos (deletable.mpr deletes), and_iff_right deletes]
    simp only [Option.mem_some_iff, forall_eq', lasts]
    constructor
    · exact fun restored => restored.1.1
    · intro spare
      refine ⟨⟨spare, erased, fun ref member => ?_⟩, fun ref member => ?_⟩
      · rw [same.breakpoint, breakpoint_listNew_old member]
      · have old : ref ≠ store.heap.size := fun here => fresh (here ▸ member)
        rw [setIsTemporary_of_ne old, detailsAfter_of_listed member]
  · rw [if_neg (mt deletable.mp deletes)]
    refine iff_of_false ?_ fun kept => deletes kept.1
    rintro ⟨⟨-, left, -⟩, -⟩
    have length := congrArg List.length left
    simp at length

/--
The breakpoints of the user are preserved exactly if the one at the place is
spared, or a new one can be deleted.
-/
theorem runToCursor_preserves_iff
    (names : Names width brkDescription id)
    (unshared : Unshared surroundings filename line id store) :
    PreservesUsers width surroundings later filename line id brkDescription
        details store ↔
      SparesUsers surroundings later filename line details store := by
  rw [PreservesUsers, SparesUsers]
  by_cases acts : Acts surroundings
  · rw [runToCursor_of_acts acts]
    simp only [acts, forall_const, true_or, and_true]
    cases there : target surroundings filename line (-1) store with
    | some found =>
        simp only [Option.mem_some_iff, forall_eq', reduceCtorEq,
          IsEmpty.forall_iff, and_true]
        constructor
        · rintro ⟨bp, outcome, added, restored⟩
          rcases identify_of_target there added with ⟨rfl, -⟩
          exact (found_restores_iff names unshared there added).mp restored
        · intro spared
          have already :
              ∀ bp ∈ target surroundings filename line (-1) store,
                (store.breakpoint bp).enabled = true := by
            rw [there]
            rintro bp ⟨⟩
            exact spared.1.1
          rcases addBreakpoint_ok already with ⟨bp, outcome, added⟩
          rcases identify_of_target there added with ⟨rfl, -⟩
          exact ⟨bp, outcome, added,
            (found_restores_iff names unshared there added).mpr spared⟩
    | none =>
        simp only [Option.not_mem_none, IsEmpty.forall_iff, implies_true,
          true_and, forall_const]
        constructor
        · rintro ⟨bp, outcome, added, restored⟩
          exact (made_restores_iff names unshared there added).mp restored
        · intro spare
          rcases addBreakpoint_ok (by rw [there]; nofun) with
            ⟨bp, outcome, added⟩
          exact ⟨bp, outcome, added,
            (made_restores_iff names unshared there added).mpr spare⟩
  · rw [runToCursor_of_idle acts]
    simp only [acts, IsEmpty.forall_iff, false_or, true_and, implies_true,
      and_true]
    rw [← idle_restores_iff names unshared]
    constructor
    · rintro ⟨placed, same, restored⟩
      cases same
      exact restored
    · exact fun restored => ⟨_, rfl, restored⟩

/-- A stop at the breakpoint with an ID. -/
def hitAt (id : String) : WxString :=
  hitBreakText ++ id.toList ++ "]".toList

theorem runToCursor_preserves_freeLine :
    PreservesUsers .bits64 plainStop plainStop "main.cpp".toList 3 9
      (hitAt "9") (fun _ => Details.initial) oneListed :=
  (runToCursor_preserves_iff
    ⟨"9".toList, by decide, by decide, 9, by decide, by decide⟩
    (by decide)).mpr (by decide +kernel)

/-- Running to a line with a breakpoint of the user deletes that one. -/
theorem usersBreakpoint_not_preserved :
    Names .bits64 (hitAt "7") 7 ∧
      Unshared plainStop "main.cpp".toList 8 7 oneListed ∧
      ¬ PreservesUsers .bits64 plainStop plainStop "main.cpp".toList 8 7
        (hitAt "7") (fun _ => Details.initial) oneListed := by
  refine ⟨⟨"7".toList, by decide, by decide, 7, by decide, by decide⟩,
    by decide, ?_⟩
  rintro ⟨placed, ran, ⟨final, calls, processed, left, -⟩, -⟩
  cases ran
  cases processed
  revert left
  decide +kernel

end Users

end DebuggerDap.Breakpoints.RunToCursor
