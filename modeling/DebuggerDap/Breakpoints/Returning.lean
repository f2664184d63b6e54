import DebuggerDap.Breakpoints.Agreement
import DebuggerDap.Breakpoints.Announcing

/-!
# The breakpoint UpdateOrAddBreakpoint returns

`UpdateOrAddBreakpoint` takes the breakpoint with the ID, or else the one on
the line of the file, or else it makes one.  In the first two cases it sets
the flag it is given; the constructor it calls in the last case sets the flag
to true.
-/

namespace DebuggerDap.Breakpoints.Returning

open DebuggerDap.Text.Strings
open DebuggerDap.Breakpoints.Store
open DebuggerDap.Breakpoints.Grouping
open DebuggerDap.Breakpoints.Editing
open DebuggerDap.Breakpoints.Announcing
open DebuggerDap.Breakpoints.Uniqueness
open DebuggerDap.Breakpoints.Agreement

/-! ## Found or made -/

/-- The breakpoint that is there already, by its ID or else by its place. -/
def target
    (surroundings : Surroundings)
    (filename : WxString)
    (line id : Int)
    (store : Store) : Option Ref :=
  let filenameBRK := store.filenameBRK filename
  let project := surroundings.findProjectForFile filenameBRK
  (store.findID id).or (store.findBreakpoint project filenameBRK line)

section Result

variable {surroundings : Surroundings} {store : Store}
variable {filename : WxString} {bp : Ref} {bEnable : Bool}
variable {line id : Int} {outcome : Outcome}

/-- A last step that cannot fault leaves it to the first. -/
theorem exists_ok_map_iff
    {α β : Type}
    {first : Except Fault α}
    (last : α → β) :
    (∃ result, (first >>= fun value => .ok (last value)) = .ok result) ↔
      ∃ value, first = .ok value := by
  cases first with
  | error fault => exact ⟨nofun, nofun⟩
  | ok value => exact ⟨fun _ => ⟨value, rfl⟩, fun _ => ⟨last value, rfl⟩⟩

/-- A new breakpoint leaves an entry for its file in the map. -/
theorem findable_listNew {project : Option Project} :
    Findable (store.listNew project filename line id) filename :=
  Or.inr isSome_updateMap_add

theorem sameLists_identify
    (bp : Ref)
    (id : Int)
    (store : Store) :
    (identify bp id store).breakpoints = store.breakpoints ∧
      (identify bp id store).mapFilebreakpoints =
        store.mapFilebreakpoints := by
  unfold identify
  split <;> exact ⟨rfl, rfl⟩

theorem enabled_identify (other : Ref) :
    ((identify bp id store).breakpoint other).enabled =
      (store.breakpoint other).enabled := by
  unfold identify
  split
  · exact field_modify DapBreakpoint.enabled (.setID id) (fun _ => rfl) bp
      other
  · rfl

/--
`UpdateOrAddBreakpoint` faults only when it has to announce the change of a
flag and the map lacks the file.
-/
theorem updateOrAdd_ok_iff :
    (∃ result,
      store.updateOrAddBreakpoint surroundings filename line bEnable id =
        .ok result) ↔
      ∀ bp ∈ target surroundings filename line id store,
        (store.breakpoint bp).enabled ≠ bEnable →
          surroundings.AtStop →
            Findable store (store.filenameBRK filename) := by
  rw [Store.updateOrAddBreakpoint, target]
  dsimp only
  cases byID : store.findID id with
  | some found =>
      rw [exists_ok_map_iff, switch_ok_iff]
      simp
  | none =>
      let filenameBRK := store.filenameBRK filename
      cases byPlace :
          store.findBreakpoint (surroundings.findProjectForFile filenameBRK)
            filenameBRK line with
      | some found =>
          have findable :
              Findable (identify found id store) filenameBRK ↔
                Findable store filenameBRK := by
            unfold Findable drawer
            rw [(sameLists_identify found id store).2]
          have switched :=
            @switch_ok_iff surroundings (identify found id store) filenameBRK
              found bEnable
          rw [enabled_identify, findable] at switched
          simp only [Option.none_or, Option.mem_some_iff, forall_eq']
          rw [exists_ok_map_iff]
          exact switched
      | none =>
          simp only [Option.none_or, Option.not_mem_none, IsEmpty.forall_iff,
            implies_true, iff_true, Store.addNew]
          rw [exists_ok_map_iff, announce_ok_iff]
          exact fun _ => findable_listNew

/-- A breakpoint that is found by an ID has it. -/
theorem identify_of_findID (found : store.findID id = some bp) :
    identify bp id store = store := by
  unfold identify
  split
  · have fixed :
        (store.breakpoint bp).setID id = store.breakpoint bp := by
      rw [DapBreakpoint.setID, ← (findID_eq_some found).2]
    exact Store.modify_of_fixed _ store fixed
  · rfl

/-- What is returned is the breakpoint found, if there is one. -/
theorem identify_of_target
    {found : Ref}
    (there : target surroundings filename line id store = some found)
    (updated :
      store.updateOrAddBreakpoint surroundings filename line bEnable id =
        .ok (bp, outcome)) :
    bp = found ∧
      SameLists
        ((identify found id store).modify found (.setIsEnabled bEnable))
        outcome.store := by
  rw [target] at there
  rcases updateOrAdd_cases updated with
    ⟨byID, same⟩ | ⟨noID, byPlace, same⟩ | ⟨noID, noPlace, -, -⟩
  · rw [byID] at there
    cases there
    rw [identify_of_findID byID]
    exact ⟨rfl, same⟩
  · rw [noID, Option.none_or, byPlace] at there
    cases there
    exact ⟨rfl, same⟩
  · rw [noID, Option.none_or, noPlace] at there
    cases there

/-- What is returned is a new breakpoint, if none is found. -/
theorem listNew_of_target
    (missing : target surroundings filename line id store = none)
    (updated :
      store.updateOrAddBreakpoint surroundings filename line bEnable id =
        .ok (bp, outcome)) :
    let filenameBRK := store.filenameBRK filename
    let project := surroundings.findProjectForFile filenameBRK
    bp = store.heap.size ∧
      SameLists (store.listNew project filenameBRK line id)
        outcome.store := by
  rw [target] at missing
  rcases updateOrAdd_cases updated with
    ⟨byID, -⟩ | ⟨noID, byPlace, -⟩ | ⟨-, -, fresh, same⟩
  · rw [byID] at missing
    cases missing
  · rw [noID, Option.none_or, byPlace] at missing
    cases missing
  · exact ⟨fresh, same⟩

end Result

/-! ## The postcondition -/

/-- No entry has the ID, if it is one, and none is at the place. -/
def Missing
    (surroundings : Surroundings)
    (filename : WxString)
    (line id : Int)
    (store : Store) : Prop :=
  let filenameBRK := store.filenameBRK filename
  (id ≠ -1 → ∀ ref ∈ store.breakpoints, (store.breakpoint ref).id ≠ id) ∧
    ∀ ref ∈ store.breakpoints,
      place (store.breakpoint ref) ≠
        (surroundings.findProjectForFile filenameBRK, filenameBRK, line)

/--
The breakpoint returned is listed, with the flag and the ID that were given.
The other entries are as before, and the list is longer by one exactly when
there was no such breakpoint.
-/
structure Delivered
    (surroundings : Surroundings)
    (filename : WxString)
    (line : Int)
    (bEnable : Bool)
    (id : Int)
    (store : Store)
    (bp : Ref)
    (after : Store) : Prop where
  listed : bp ∈ after.breakpoints
  enabled : (after.breakpoint bp).enabled = bEnable
  identified : id ≠ -1 → (after.breakpoint bp).id = id
  others :
    after.breakpoints.filter (· ≠ bp) = store.breakpoints.filter (· ≠ bp)
  untouched :
    ∀ other ∈ store.breakpoints, other ≠ bp →
      after.breakpoint other = store.breakpoint other
  grown :
    after.breakpoints.length = store.breakpoints.length + 1 ↔
      Missing surroundings filename line id store

/--
A breakpoint that is found has the flag already, or the map has its file when
the change is announced; one that has to be made is wanted enabled.
-/
def Deliverable
    (surroundings : Surroundings)
    (filename : WxString)
    (line : Int)
    (bEnable : Bool)
    (id : Int)
    (store : Store) : Prop :=
  match target surroundings filename line id store with
  | some bp =>
      (store.breakpoint bp).enabled ≠ bEnable →
        surroundings.AtStop → Findable store (store.filenameBRK filename)
  | none => bEnable = true

section Postcondition

variable {surroundings : Surroundings} {store : Store}
variable {filename : WxString} {bp : Ref} {bEnable : Bool}
variable {line id : Int} {outcome : Outcome}

theorem missing_iff :
    Missing surroundings filename line id store ↔
      target surroundings filename line id store = none := by
  rw [target, Option.or_eq_none_iff, Missing]
  refine and_congr ?_ ?_
  · rw [Store.findID]
    split
    · next present =>
        rw [List.find?_eq_none]
        simp [present]
    · next absent => simp [absent]
  · rw [Store.findBreakpoint, List.find?_eq_none]
    simp [place, and_assoc]

/-- An object that is neither identified nor switched is left alone. -/
theorem breakpoint_identify_of_ne
    {other : Ref}
    (different : other ≠ bp) :
    ((identify bp id store).modify bp (.setIsEnabled bEnable)).breakpoint
        other = store.breakpoint other := by
  rw [Store.breakpoint_modify_of_ne _ _ different]
  unfold identify
  split
  · exact Store.breakpoint_modify_of_ne _ store different
  · rfl

theorem mem_of_target
    (there : target surroundings filename line id store = some bp) :
    bp ∈ store.breakpoints := by
  rw [target, Option.or_eq_some_iff] at there
  rcases there with byID | ⟨-, byPlace⟩
  · exact (findID_eq_some byID).1
  · exact (findBreakpoint_spec byPlace).1

/-- A breakpoint that is found is delivered. -/
theorem delivered_of_target
    {found : Ref}
    (there : target surroundings filename line id store = some found)
    (updated :
      store.updateOrAddBreakpoint surroundings filename line bEnable id =
        .ok (bp, outcome)) :
    Delivered surroundings filename line bEnable id store bp
      outcome.store := by
  rcases identify_of_target there updated with ⟨rfl, same⟩
  have sameList : outcome.store.breakpoints = store.breakpoints :=
    same.breakpoints.trans (sameLists_identify bp id store).1
  refine ⟨?_, ?_, ?_, ?_, ?_, ?_⟩
  · rw [sameList]
    exact mem_of_target there
  · rw [same.breakpoint, Store.breakpoint_modify_self]
    rfl
  · intro present
    rw [same.breakpoint, Store.breakpoint_modify_self, identify,
      if_pos present, Store.breakpoint_modify_self]
    rfl
  · rw [sameList]
  · intro other _ different
    rw [same.breakpoint]
    exact breakpoint_identify_of_ne different
  · rw [sameList, missing_iff, there]
    simp

/-- A new breakpoint is delivered exactly if it is wanted enabled. -/
theorem delivered_of_missing
    (missing : target surroundings filename line id store = none)
    (updated :
      store.updateOrAddBreakpoint surroundings filename line bEnable id =
        .ok (bp, outcome)) :
    Delivered surroundings filename line bEnable id store bp
        outcome.store ↔
      bEnable = true := by
  rcases listNew_of_target missing updated with ⟨rfl, same⟩
  have sameList :
      outcome.store.breakpoints =
        store.breakpoints ++ [store.heap.size] := same.breakpoints
  have new :
      outcome.store.breakpoint store.heap.size =
        .new (surroundings.findProjectForFile (store.filenameBRK filename))
          (store.filenameBRK filename) line id := by
    rw [same.breakpoint]
    exact breakpoint_listNew_new
  constructor
  · intro delivered
    rw [← delivered.enabled, new]
    rfl
  · rintro rfl
    refine ⟨?_, ?_, ?_, ?_, ?_, ?_⟩
    · rw [sameList]
      exact List.mem_append_right _ List.mem_cons_self
    · rw [new]
      rfl
    · intro _
      rw [new]
      rfl
    · rw [sameList, List.filter_append]
      simp
    · intro other member _
      rw [same.breakpoint]
      exact breakpoint_listNew_old member
    · rw [sameList, missing_iff]
      exact iff_of_true (List.length_append) missing

/--
`UpdateOrAddBreakpoint` keeps its promise exactly when it does not have to
make a breakpoint that is wanted disabled, and can announce a change of the
flag.
-/
theorem updateOrAdd_delivers :
    (∃ bp outcome,
      store.updateOrAddBreakpoint surroundings filename line bEnable id =
          .ok (bp, outcome) ∧
        Delivered surroundings filename line bEnable id store bp
          outcome.store) ↔
      Deliverable surroundings filename line bEnable id store := by
  have runs :=
    @updateOrAdd_ok_iff surroundings store filename bEnable line id
  rw [Deliverable]
  cases there : target surroundings filename line id store with
  | some found =>
      rw [there] at runs
      simp only [Option.mem_some_iff, forall_eq'] at runs
      refine Iff.trans ?_ runs
      constructor
      · rintro ⟨bp, outcome, updated, -⟩
        exact ⟨(bp, outcome), updated⟩
      · rintro ⟨⟨bp, outcome⟩, updated⟩
        exact ⟨bp, outcome, updated, delivered_of_target there updated⟩
  | none =>
      rw [there] at runs
      obtain ⟨⟨bp, outcome⟩, updated⟩ := runs.mpr nofun
      constructor
      · rintro ⟨other, after, same, delivered⟩
        exact (delivered_of_missing there same).mp delivered
      · intro wanted
        exact ⟨bp, outcome, updated,
          (delivered_of_missing there updated).mpr wanted⟩

/--
A disabled breakpoint of a saved project, which the store does not have yet,
would be enabled when it is loaded.
-/
theorem loaded_disabled_not_delivered :
    ¬ ∃ bp outcome,
      Store.empty.updateOrAddBreakpoint atRest "main.cpp".toList 3
            false (-1) = .ok (bp, outcome) ∧
        Delivered atRest "main.cpp".toList 3 false (-1) Store.empty bp
          outcome.store := by
  rintro ⟨bp, outcome, updated, delivered⟩
  have missing :
      target atRest "main.cpp".toList 3 (-1) Store.empty = none := by
    decide
  exact absurd ((delivered_of_missing missing updated).mp delivered)
    Bool.false_ne_true

end Postcondition

end DebuggerDap.Breakpoints.Returning
