import DebuggerDap.Breakpoints.Uniqueness

/-!
# A reply to setBreakpoints and its file

A reply answers the enabled breakpoints of a file, in the order they were
sent.  It should give each of them its ID and touch nothing else.

`OnBreakpointDataSet` never looks at the file the reply is for.  An entry
reaches the breakpoint it answers exactly when no other breakpoint still has
its ID and when the search by place finds that breakpoint; without a path that
search takes the first breakpoint on the line, of any file.
-/

namespace DebuggerDap.Breakpoints.Confinement

open DebuggerDap.Text.Strings
open DebuggerDap.Library.Run
open DebuggerDap.Breakpoints.Store
open DebuggerDap.Breakpoints.Grouping
open DebuggerDap.Breakpoints.Editing
open DebuggerDap.Breakpoints.Uniqueness

/-! ## The property -/

/--
The reply is for the file: it has a verified entry for each of the enabled
breakpoints of the file, in the order they were sent, with distinct IDs.
Breakpoints may still have IDs of an earlier session.
-/
structure Answers
    (filename : WxString)
    (sent : List Ref)
    (resp : SetBreakpointsResponse)
    (store : Store) : Prop where
  order : sent.Perm (enabledIn store filename)
  origin : store.mapFileSystemDap[filename]? = some resp.originSource
  length : sent.length = resp.breakpoints.length
  verified : ∀ bp ∈ resp.breakpoints, bp.verified = true
  present : ∀ bp ∈ resp.breakpoints, bp.id ≠ -1
  distinct : (resp.breakpoints.map Breakpoint.id).Nodup

/--
Handling the reply adds no breakpoint, leaves those of other files alone and
gives the breakpoints that were sent the IDs of their entries.
-/
def Confined
    (surroundings : Surroundings)
    (filename : WxString)
    (sent : List Ref)
    (resp : SetBreakpointsResponse)
    (store : Store) : Prop :=
  ∃ outcome,
    onBreakpointDataSet surroundings resp store = .ok outcome ∧
      outcome.store.breakpoints = store.breakpoints ∧
      (∀ ref ∈ store.breakpoints, file store ref ≠ filename →
        (outcome.store.breakpoint ref).id = (store.breakpoint ref).id ∧
          (outcome.store.breakpoint ref).line =
            (store.breakpoint ref).line ∧
          (outcome.store.breakpoint ref).enabled =
            (store.breakpoint ref).enabled) ∧
      List.Forall₂
        (fun ref bp => (outcome.store.breakpoint ref).id = bp.id)
        sent resp.breakpoints

/-! ## The condition -/

/-- The test of the inner loop. -/
def onLine (store : Store) (bp : Breakpoint) (ref : Ref) : Bool :=
  (store.breakpoint ref).getLocation ≠ [] ∧
    (store.breakpoint ref).line = bp.line

/--
The file an entry is taken to be about: its path, or else the location of the
first breakpoint on its line.
-/
def fileOf (bp : Breakpoint) (store : Store) : Option WxString :=
  if bp.source.path ≠ [] then some bp.source.path
  else
    (store.breakpoints.find? (onLine store bp)).map fun ref =>
      (store.breakpoint ref).getLocation

/-- The breakpoint on the line of that file. -/
def atPlace
    (surroundings : Surroundings)
    (bp : Breakpoint)
    (store : Store) : Option Ref :=
  if bp.line ≠ -1 then
    (fileOf bp store).bind fun filename =>
      let filenameBRK := store.filenameBRK filename
      store.findBreakpoint (surroundings.findProjectForFile filenameBRK)
        filenameBRK bp.line
  else none

/--
Each entry, in order, lands on the breakpoint it answers: only that one, or
one answered before, has the ID of the entry; and that one has it already or
is found by place.
-/
def Lands
    (surroundings : Surroundings)
    (store : Store) : List Ref → List Ref → List Breakpoint → Prop
  | answered, ref :: sent, bp :: entries =>
      (∀ other ∈ store.breakpoints,
        (store.breakpoint other).id = bp.id →
          other = ref ∨ other ∈ answered) ∧
      ((store.breakpoint ref).id = bp.id ∨
        atPlace surroundings bp store = some ref) ∧
      Lands surroundings store (ref :: answered) sent entries
  | _, _, _ => True

instance Lands.decidable
    (surroundings : Surroundings)
    (store : Store) :
    ∀ (answered sent : List Ref) (entries : List Breakpoint),
      Decidable (Lands surroundings store answered sent entries)
  | answered, ref :: sent, _ :: entries =>
      haveI :=
        Lands.decidable surroundings store (ref :: answered) sent entries
      inferInstanceAs (Decidable (_ ∧ _ ∧ _))
  | _, [], _ => isTrue trivial
  | _, _ :: _, [] => isTrue trivial

/-! ## What an entry can do -/

/-- No breakpoint goes, and no ID changes but to an allowed one. -/
def Grows (allowed : Int → Prop) (before after : Store) : Prop :=
  before.breakpoints <+: after.breakpoints ∧
    ∀ ref ∈ before.breakpoints,
      (after.breakpoint ref).id = (before.breakpoint ref).id ∨
        allowed (after.breakpoint ref).id

namespace Grows

variable {allowed : Int → Prop} {first second third : Store}

theorem refl (allowed : Int → Prop) (store : Store) :
    Grows allowed store store :=
  ⟨List.prefix_rfl, fun _ _ => Or.inl rfl⟩

theorem trans
    (earlier : Grows allowed first second)
    (later : Grows allowed second third) :
    Grows allowed first third := by
  refine ⟨earlier.1.trans later.1, fun ref listed => ?_⟩
  rcases later.2 ref (earlier.1.subset listed) with same | changed
  · rw [same]
    exact earlier.2 ref listed
  · exact Or.inr changed

theorem imp
    {wider : Int → Prop}
    (grows : Grows allowed first second)
    (implies : ∀ id, allowed id → wider id) :
    Grows wider first second :=
  ⟨grows.1, fun ref listed => (grows.2 ref listed).imp_right (implies _)⟩

/-- A breakpoint that has the ID keeps it. -/
theorem keeps
    {id : Int}
    {ref : Ref}
    (grows : Grows (· = id) first second)
    (listed : ref ∈ first.breakpoints)
    (has : (first.breakpoint ref).id = id) :
    (second.breakpoint ref).id = id := by
  rcases grows.2 ref listed with kept | changed
  · rw [kept, has]
  · exact changed

end Grows

section Entries

variable {surroundings : Surroundings} {store : Store}
variable {filename : WxString} {bp : Breakpoint} {ref : Ref}
variable {refs : List Ref} {outcome : Outcome}

theorem id_setIsEnabled
    (store : Store)
    (bp : Ref)
    (bEnable : Bool)
    (ref : Ref) :
    ((store.modify bp (.setIsEnabled bEnable)).breakpoint ref).id =
      (store.breakpoint ref).id :=
  field_modify DapBreakpoint.id (.setIsEnabled bEnable) (fun _ => rfl) bp ref

/-- An ID a breakpoint has already changes nothing. -/
theorem setID_of_has
    {id : Int}
    (has : (store.breakpoint ref).id = id) :
    store.modify ref (.setID id) = store :=
  Store.modify_of_fixed _ store (by rw [DapBreakpoint.setID, ← has])

/-- Handing an entry on gives its ID to no breakpoint but one. -/
theorem updateTo_grows
    (updated : updateTo surroundings filename bp store = .ok outcome) :
    Grows (· = bp.id) store outcome.store := by
  rcases exists_ok_of_bind updated with ⟨⟨found, after⟩, update, same⟩
  cases same
  rcases updateOrAdd_cases update with
    ⟨-, same⟩ | ⟨-, -, same⟩ | ⟨-, -, -, same⟩
  · refine ⟨by rw [same.breakpoints]; exact List.prefix_rfl, ?_⟩
    intro ref _
    rw [same.breakpoint, id_setIsEnabled]
    exact Or.inl rfl
  · have sameList :
        (identify found bp.id store).breakpoints = store.breakpoints := by
      unfold identify
      split <;> rfl
    refine ⟨?_, ?_⟩
    · rw [same.breakpoints, Store.breakpoints_modify, sameList]
    · intro ref _
      rw [same.breakpoint, id_setIsEnabled]
      unfold identify
      split
      · by_cases given : ref = found
        · rw [given, Store.breakpoint_modify_self]
          exact Or.inr rfl
        · rw [Store.breakpoint_modify_of_ne _ store given]
          exact Or.inl rfl
      · exact Or.inl rfl
  · refine ⟨?_, ?_⟩
    · rw [same.breakpoints]
      exact List.prefix_append store.breakpoints _
    · intro ref listed
      rw [same.breakpoint, breakpoint_listNew_old listed]
      exact Or.inl rfl

theorem updateOnLine_grows
    (updated : updateOnLine surroundings bp ref store = .ok outcome) :
    Grows (· = bp.id) store outcome.store := by
  unfold updateOnLine at updated
  dsimp only at updated
  split at updated
  · exact updateTo_grows updated
  · cases updated
    exact Grows.refl _ store

theorem onEntry_grows
    (handled : onEntry surroundings bp store = .ok outcome) :
    Grows (· = bp.id) store outcome.store := by
  unfold onEntry at handled
  split at handled
  · exact updateTo_grows handled
  · split at handled
    · exact forEach_relates (Grows.refl _) Grows.trans
        (fun _ _ _ _ updated => updateOnLine_grows updated) handled
    · cases handled
      exact Grows.refl _ store

/-! ## An entry that lands -/

/-- No other listed breakpoint has the ID. -/
def Unshared (store : Store) (id : Int) (ref : Ref) : Prop :=
  ∀ other ∈ store.breakpoints, (store.breakpoint other).id = id → other = ref

theorem findID_of_unshared
    {id : Int}
    (unshared : Unshared store id ref)
    (listed : ref ∈ store.breakpoints)
    (present : id ≠ -1) :
    store.findID id =
      if (store.breakpoint ref).id = id then some ref else none := by
  cases search : store.findID id with
  | some found =>
      rcases findID_eq_some search with ⟨foundListed, has⟩
      obtain rfl := unshared found foundListed has
      rw [if_pos has]
  | none =>
      rw [if_neg (findID_eq_none search present ref listed)]

theorem switch_enabled
    {surroundings : Surroundings}
    (filename : WxString)
    (enabled : (store.breakpoint ref).enabled = true) :
    store.switch surroundings filename ref true = .ok ⟨store, []⟩ := by
  rw [Store.switch, if_neg (not_not.mpr enabled)]

/-- The breakpoint that is found gets the ID, and nothing else happens. -/
theorem updateTo_hit
    (unshared : Unshared store bp.id ref)
    (listed : ref ∈ store.breakpoints)
    (enabled : (store.breakpoint ref).enabled = true)
    (present : bp.id ≠ -1)
    (found :
      (store.breakpoint ref).id = bp.id ∨
        store.findBreakpoint
            (surroundings.findProjectForFile (store.filenameBRK filename))
            (store.filenameBRK filename) bp.line = some ref) :
    updateTo surroundings filename bp store =
      .ok ⟨store.modify ref (.setID bp.id), []⟩ := by
  rw [updateTo, Store.updateOrAddBreakpoint,
    findID_of_unshared unshared listed present]
  by_cases has : (store.breakpoint ref).id = bp.id
  · simp only [if_pos has, switch_enabled _ enabled, setID_of_has has]
    rfl
  · have byPlace := found.resolve_left has
    have stillEnabled :
        ((store.modify ref (.setID bp.id)).breakpoint ref).enabled =
          true := by
      rw [Store.breakpoint_modify_self]
      exact enabled
    simp only [if_neg has, byPlace, if_pos present,
      switch_enabled _ stillEnabled]
    rfl

theorem updateOnLine_of_onLine (hit : onLine store bp ref = true) :
    updateOnLine surroundings bp ref store =
      updateTo surroundings (store.breakpoint ref).getLocation bp store :=
  if_pos (of_decide_eq_true hit)

theorem updateOnLine_of_not_onLine (miss : onLine store bp ref = false) :
    updateOnLine surroundings bp ref store = .ok ⟨store, []⟩ :=
  if_neg (of_decide_eq_false miss)

/-- Once a breakpoint has the ID, the inner loop finds only that one. -/
theorem updateOnLine_idle
    (unshared : Unshared store bp.id ref)
    (listed : ref ∈ store.breakpoints)
    (enabled : (store.breakpoint ref).enabled = true)
    (present : bp.id ≠ -1)
    (has : (store.breakpoint ref).id = bp.id)
    (other : Ref) :
    updateOnLine surroundings bp other store = .ok ⟨store, []⟩ := by
  cases hit : onLine store bp other with
  | false => exact updateOnLine_of_not_onLine hit
  | true =>
      rw [updateOnLine_of_onLine hit,
        updateTo_hit unshared listed enabled present (Or.inl has),
        setID_of_has has]

theorem unshared_setID
    {id : Int}
    (unshared : Unshared store id ref) :
    Unshared (store.modify ref (.setID id)) id ref := by
  intro other listed has
  by_contra different
  rw [Store.breakpoint_modify_of_ne _ store different] at has
  exact different (unshared other listed has)

/-- The first breakpoint on the line decides what the inner loop does. -/
theorem forEach_updateOnLine_hit
    {first : Ref}
    (unshared : Unshared store bp.id ref)
    (listed : ref ∈ store.breakpoints)
    (enabled : (store.breakpoint ref).enabled = true)
    (present : bp.id ≠ -1)
    (search : refs.find? (onLine store bp) = some first)
    (byPlace :
      let filenameBRK :=
        store.filenameBRK (store.breakpoint first).getLocation
      store.findBreakpoint (surroundings.findProjectForFile filenameBRK)
        filenameBRK bp.line = some ref) :
    forEach (updateOnLine surroundings bp) refs store =
      .ok ⟨store.modify ref (.setID bp.id), []⟩ := by
  induction refs with
  | nil => cases search
  | cons other refs ih =>
      cases hit : onLine store bp other with
      | true =>
          rw [List.find?_cons_of_pos hit] at search
          cases search
          let given := store.modify ref (.setID bp.id)
          have idle :
              forEach (updateOnLine surroundings bp) refs given =
                .ok ⟨given, []⟩ := by
            refine forEach_of_idle fun later _ => ?_
            refine updateOnLine_idle (unshared_setID unshared) listed ?_
              present ?_ later
            · rw [Store.breakpoint_modify_self]
              exact enabled
            · rw [Store.breakpoint_modify_self]
              rfl
          have acted :
              updateOnLine surroundings bp first store = .ok ⟨given, []⟩ := by
            rw [updateOnLine_of_onLine hit]
            exact updateTo_hit unshared listed enabled present
              (Or.inr byPlace)
          rw [forEach_cons_silent acted, idle]
      | false =>
          rw [List.find?_cons_of_neg (by simp [hit])] at search
          rw [forEach_cons_silent (updateOnLine_of_not_onLine hit)]
          exact ih search

/-- An entry that lands gives its ID to the breakpoint it answers. -/
theorem onEntry_hit
    (unshared : Unshared store bp.id ref)
    (listed : ref ∈ store.breakpoints)
    (enabled : (store.breakpoint ref).enabled = true)
    (verified : bp.verified = true)
    (present : bp.id ≠ -1)
    (found :
      (store.breakpoint ref).id = bp.id ∨
        atPlace surroundings bp store = some ref) :
    onEntry surroundings bp store =
      .ok ⟨store.modify ref (.setID bp.id), []⟩ := by
  by_cases line : bp.line = -1
  · have has : (store.breakpoint ref).id = bp.id := by
      simpa [atPlace, line] using found
    rw [onEntry, if_neg (by simp [line]), if_neg (by simp [line]),
      setID_of_has has]
  · by_cases path : bp.source.path = []
    · rw [onEntry, if_neg (by simp [path]), if_pos ⟨line, verified⟩]
      by_cases has : (store.breakpoint ref).id = bp.id
      · rw [setID_of_has has]
        exact forEach_of_idle fun other _ =>
          updateOnLine_idle unshared listed enabled present has other
      · have byPlace := found.resolve_left has
        rw [atPlace, if_pos line, fileOf, if_neg (by simp [path]),
          Option.bind_map, Option.bind_eq_some_iff] at byPlace
        rcases byPlace with ⟨first, search, byPlace⟩
        exact forEach_updateOnLine_hit unshared listed enabled present search
          byPlace
    · rw [onEntry, if_pos ⟨line, verified, path⟩]
      refine updateTo_hit unshared listed enabled present ?_
      rw [atPlace, if_pos line, fileOf, if_pos path] at found
      exact found

/-! ## Only an entry that lands gives its ID -/

/--
Handing an entry on leaves its ID with one breakpoint: the one that had it,
or else the one at the place, or else a new one.
-/
theorem updateTo_holder
    (present : bp.id ≠ -1)
    (updated : updateTo surroundings filename bp store = .ok outcome) :
    ∃ found ∈ outcome.store.breakpoints,
      (outcome.store.breakpoint found).id = bp.id ∧
        (store.findID bp.id = some found ∨
          store.findBreakpoint
              (surroundings.findProjectForFile (store.filenameBRK filename))
              (store.filenameBRK filename) bp.line = some found ∨
          store.breakpoints.length < outcome.store.breakpoints.length) := by
  rcases exists_ok_of_bind updated with ⟨⟨found, after⟩, update, same⟩
  cases same
  refine ⟨found, ?_⟩
  rcases updateOrAdd_cases update with
    ⟨byID, same⟩ | ⟨-, byPlace, same⟩ | ⟨-, -, new, same⟩
  · rcases findID_eq_some byID with ⟨listed, has⟩
    rw [same.breakpoints, same.breakpoint, id_setIsEnabled]
    exact ⟨listed, has, Or.inl byID⟩
  · have listed := (findBreakpoint_spec byPlace).1
    rw [same.breakpoints, same.breakpoint, id_setIsEnabled,
      Store.breakpoints_modify, identify, if_pos present,
      Store.breakpoints_modify, Store.breakpoint_modify_self]
    exact ⟨listed, rfl, Or.inr (Or.inl byPlace)⟩
  · rw [same.breakpoints, same.breakpoint, new, breakpoint_listNew_new]
    refine ⟨List.mem_append_right _ (List.mem_singleton_self _), rfl, ?_⟩
    right
    right
    show _ < (store.breakpoints ++ [store.heap.size]).length
    simp

/-- The inner loop first hands on the first breakpoint on the line. -/
theorem forEach_updateOnLine_first
    {first : Ref}
    (search : refs.find? (onLine store bp) = some first)
    (looped :
      forEach (updateOnLine surroundings bp) refs store = .ok outcome) :
    ∃ handed,
      updateTo surroundings (store.breakpoint first).getLocation bp store =
          .ok handed ∧
        Grows (· = bp.id) handed.store outcome.store := by
  induction refs with
  | nil => cases search
  | cons other refs ih =>
      cases hit : onLine store bp other with
      | true =>
          rw [List.find?_cons_of_pos hit] at search
          cases search
          rcases forEach_cons_ok looped with ⟨handed, later, acted, rest, rfl⟩
          rw [updateOnLine_of_onLine hit] at acted
          have grows : Grows (· = bp.id) handed.store later.store :=
            forEach_relates (Grows.refl _) Grows.trans
              (fun _ _ _ _ updated => updateOnLine_grows updated) rest
          exact ⟨handed, acted, grows⟩
      | false =>
          rw [List.find?_cons_of_neg (by simp [hit])] at search
          rw [forEach_cons_silent (updateOnLine_of_not_onLine hit)] at looped
          exact ih search looped

theorem Sound.unshared
    (sound : Sound store)
    (listed : ref ∈ store.breakpoints)
    {id : Int}
    (has : (store.breakpoint ref).id = id)
    (present : id ≠ -1) :
    Unshared store id ref := by
  intro other otherListed otherHas
  exact sound.eq_of_id otherListed listed (otherHas.trans has.symm)
    (by rwa [otherHas])

/-- What is handed on keeps the ID to the end, so it is found by place. -/
theorem findBreakpoint_of_handed
    {handed : Outcome}
    (present : bp.id ≠ -1)
    (byID : store.findID bp.id = none)
    (updated : updateTo surroundings filename bp store = .ok handed)
    (grows : Grows (· = bp.id) handed.store outcome.store)
    (same : outcome.store.breakpoints = store.breakpoints)
    (holder : Unshared outcome.store bp.id ref) :
    store.findBreakpoint
        (surroundings.findProjectForFile (store.filenameBRK filename))
        (store.filenameBRK filename) bp.line = some ref := by
  rcases updateTo_holder present updated with
    ⟨found, foundListed, has, place⟩
  obtain rfl :=
    holder found (grows.1.subset foundListed) (grows.keeps foundListed has)
  rcases place with byOther | byPlace | longer
  · rw [byID] at byOther
    cases byOther
  · exact byPlace
  · have length := grows.1.length_le
    rw [same] at length
    omega

/-- Where no breakpoint has the ID, the one that gets it is found by place. -/
theorem atPlace_of_onEntry
    (present : bp.id ≠ -1)
    (byID : store.findID bp.id = none)
    (hasNot : (store.breakpoint ref).id ≠ bp.id)
    (handled : onEntry surroundings bp store = .ok outcome)
    (same : outcome.store.breakpoints = store.breakpoints)
    (given : (outcome.store.breakpoint ref).id = bp.id)
    (holder : Unshared outcome.store bp.id ref) :
    atPlace surroundings bp store = some ref := by
  by_cases line : bp.line = -1
  · rw [onEntry, if_neg (by simp [line]), if_neg (by simp [line])]
      at handled
    cases handled
    exact absurd given hasNot
  rw [atPlace, if_pos line, fileOf]
  by_cases path : bp.source.path = []
  · rw [if_neg (by simp [path]), Option.bind_map]
    rw [onEntry, if_neg (by simp [path])] at handled
    split at handled
    · cases search : store.breakpoints.find? (onLine store bp) with
      | none =>
          have idle :
              ∀ other ∈ store.breakpoints,
                updateOnLine surroundings bp other store =
                  .ok ⟨store, []⟩ :=
            fun other otherListed =>
              updateOnLine_of_not_onLine
                (Bool.eq_false_iff.mpr
                  (List.find?_eq_none.mp search other otherListed))
          rw [forEach_of_idle idle] at handled
          cases handled
          exact absurd given hasNot
      | some first =>
          rcases forEach_updateOnLine_first search handled with
            ⟨handed, updated, grows⟩
          exact findBreakpoint_of_handed present byID updated grows same
            holder
    · cases handled
      exact absurd given hasNot
  · rw [if_pos path, Option.bind_some]
    rw [onEntry] at handled
    split at handled
    · exact findBreakpoint_of_handed present byID handled (Grows.refl _ _)
        same holder
    · split at handled
      · next skipped verified =>
          exact absurd ⟨verified.1, verified.2, path⟩ skipped
      · cases handled
        exact absurd given hasNot

/-- An entry that does not land, but adds nothing, does not give its ID. -/
theorem lands_of_onEntry
    (sound : Sound store)
    (listed : ref ∈ store.breakpoints)
    (present : bp.id ≠ -1)
    (handled : onEntry surroundings bp store = .ok outcome)
    (same : outcome.store.breakpoints = store.breakpoints)
    (given : (outcome.store.breakpoint ref).id = bp.id) :
    Unshared store bp.id ref ∧
      ((store.breakpoint ref).id = bp.id ∨
        atPlace surroundings bp store = some ref) := by
  have soundAfter := sound.onEntry handled
  have listedAfter : ref ∈ outcome.store.breakpoints := by rwa [same]
  have holder : Unshared outcome.store bp.id ref :=
    Sound.unshared soundAfter listedAfter given present
  cases byID : store.findID bp.id with
  | some other =>
      rcases findID_eq_some byID with ⟨otherListed, has⟩
      have still : (outcome.store.breakpoint other).id = bp.id :=
        (onEntry_grows handled).keeps otherListed has
      obtain rfl := holder other (by rwa [same]) still
      exact ⟨Sound.unshared sound listed has present, Or.inl has⟩
  | none =>
      have free := findID_eq_none byID present
      exact
        ⟨fun other otherListed has => absurd has (free other otherListed),
          Or.inr (atPlace_of_onEntry present byID (free ref listed) handled
            same given holder)⟩

end Entries

/-! ## Entry by entry -/

/--
The store after some breakpoints were answered: they have IDs no entry to
come has, and nothing else changed.
-/
structure Progress
    (store current : Store)
    (answered : List Ref)
    (entries : List Breakpoint) : Prop where
  breakpoints : current.breakpoints = store.breakpoints
  paths : current.mapFileSystemDap = store.mapFileSystemDap
  others :
    ∀ ref, ∃ id, current.breakpoint ref = (store.breakpoint ref).setID id
  waiting :
    ∀ ref, ref ∉ answered → current.breakpoint ref = store.breakpoint ref
  spent :
    ∀ ref ∈ answered, ∀ bp ∈ entries, (current.breakpoint ref).id ≠ bp.id

/-- The breakpoints still to be answered, and the entries for them. -/
structure Pending
    (store : Store)
    (answered sent : List Ref)
    (entries : List Breakpoint) : Prop where
  apart : ∀ ref ∈ sent, ref ∉ answered
  different : sent.Nodup
  listed : ∀ ref ∈ sent, ref ∈ store.breakpoints
  enabled : ∀ ref ∈ sent, (store.breakpoint ref).enabled = true
  verified : ∀ bp ∈ entries, bp.verified = true
  present : ∀ bp ∈ entries, bp.id ≠ -1
  distinct : (entries.map Breakpoint.id).Nodup

section Steps

variable {surroundings : Surroundings} {store current : Store}
variable {answered sent : List Ref} {entries : List Breakpoint}
variable {ref : Ref} {bp : Breakpoint} {outcome : Outcome}

theorem Progress.refl (store : Store) (entries : List Breakpoint) :
    Progress store store [] entries where
  breakpoints := rfl
  paths := rfl
  others ref := ⟨(store.breakpoint ref).id, rfl⟩
  waiting _ _ := rfl
  spent _ member := absurd member List.not_mem_nil

theorem Pending.tail
    (pending : Pending store answered (ref :: sent) (bp :: entries)) :
    Pending store (ref :: answered) sent entries where
  apart other member := by
    have different : other ≠ ref :=
      fun same => (List.nodup_cons.mp pending.different).1 (same ▸ member)
    have waiting := pending.apart other (List.mem_cons_of_mem ref member)
    simp [different, waiting]
  different := (List.nodup_cons.mp pending.different).2
  listed other member := pending.listed other (List.mem_cons_of_mem ref member)
  enabled other member :=
    pending.enabled other (List.mem_cons_of_mem ref member)
  verified other member :=
    pending.verified other (List.mem_cons_of_mem bp member)
  present other member :=
    pending.present other (List.mem_cons_of_mem bp member)
  distinct := (List.nodup_cons.mp pending.distinct).2

/-- The ID of an entry is not the ID of a later one. -/
theorem Pending.id_ne
    (pending : Pending store answered (ref :: sent) (bp :: entries)) :
    ∀ later ∈ entries, bp.id ≠ later.id := by
  intro later member same
  apply (List.nodup_cons.mp pending.distinct).1
  rw [same]
  exact List.mem_map_of_mem member

theorem Progress.next
    (progress : Progress store current answered (bp :: entries))
    (pending : Pending store answered (ref :: sent) (bp :: entries)) :
    Progress store (current.modify ref (.setID bp.id)) (ref :: answered)
      entries where
  breakpoints := progress.breakpoints
  paths := progress.paths
  others other := by
    rcases progress.others other with ⟨id, same⟩
    by_cases given : other = ref
    · subst given
      rw [Store.breakpoint_modify_self, same]
      exact ⟨bp.id, rfl⟩
    · rw [Store.breakpoint_modify_of_ne _ current given]
      exact ⟨id, same⟩
  waiting other still := by
    have different := List.ne_of_not_mem_cons still
    have waiting := List.not_mem_of_not_mem_cons still
    rw [Store.breakpoint_modify_of_ne _ current different]
    exact progress.waiting other waiting
  spent other member later laterMember := by
    by_cases given : other = ref
    · subst given
      rw [Store.breakpoint_modify_self]
      exact pending.id_ne later laterMember
    · rw [Store.breakpoint_modify_of_ne _ current given]
      exact progress.spent other
        ((List.mem_cons.mp member).resolve_left given) later
        (List.mem_cons_of_mem bp laterMember)

/-- Giving IDs does not change what is found by place. -/
theorem Progress.atPlace_eq
    (progress : Progress store current answered entries)
    (surroundings : Surroundings)
    (bp : Breakpoint) :
    atPlace surroundings bp current = atPlace surroundings bp store := by
  have unchanged
      {β : Type}
      (field : DapBreakpoint → β)
      (kept : ∀ breakpoint id, field (breakpoint.setID id) = field breakpoint)
      (ref : Ref) :
      field (current.breakpoint ref) = field (store.breakpoint ref) := by
    rcases progress.others ref with ⟨id, same⟩
    rw [same, kept]
  have locations := unchanged DapBreakpoint.getLocation fun _ _ => rfl
  have lines := unchanged DapBreakpoint.line fun _ _ => rfl
  have files := unchanged DapBreakpoint.filename fun _ _ => rfl
  have projects := unchanged DapBreakpoint.project fun _ _ => rfl
  have sameTest : onLine current bp = onLine store bp := by
    funext ref
    rw [onLine, onLine, locations, lines]
  have sameFind
      (project : Option Project)
      (filename : WxString)
      (line : Int) :
      current.findBreakpoint project filename line =
        store.findBreakpoint project filename line := by
    simp only [Store.findBreakpoint, progress.breakpoints, lines, files,
      projects]
  have samePath (filename : WxString) :
      current.filenameBRK filename = store.filenameBRK filename := by
    simp only [Store.filenameBRK, progress.paths]
  simp only [atPlace, fileOf, sameTest, progress.breakpoints, locations,
    sameFind, samePath]

/-- Only breakpoints answered before may still have had the ID. -/
theorem Progress.unshared_iff
    (progress : Progress store current answered (bp :: entries)) :
    Unshared current bp.id ref ↔
      ∀ other ∈ store.breakpoints,
        (store.breakpoint other).id = bp.id →
          other = ref ∨ other ∈ answered := by
  constructor
  · intro unshared other listed has
    by_cases before : other ∈ answered
    · exact Or.inr before
    · left
      apply unshared other (by rwa [progress.breakpoints])
      rwa [progress.waiting other before]
  · intro free other listed has
    have before : other ∉ answered :=
      fun member =>
        progress.spent other member bp List.mem_cons_self has
    rw [progress.breakpoints] at listed
    rw [progress.waiting other before] at has
    exact (free other listed has).resolve_right before

/-- Where every entry lands, the breakpoints get their IDs and no more. -/
theorem handled_of_lands
    (progress : Progress store current answered entries)
    (pending : Pending store answered sent entries)
    (length : sent.length = entries.length)
    (lands : Lands surroundings store answered sent entries) :
    ∃ outcome,
      forEach (onEntry surroundings) entries current = .ok outcome ∧
        outcome.store.breakpoints = current.breakpoints ∧
        (∀ ref, ref ∉ sent →
          outcome.store.breakpoint ref = current.breakpoint ref) ∧
        List.Forall₂
          (fun ref bp => (outcome.store.breakpoint ref).id = bp.id)
          sent entries := by
  induction entries generalizing current answered sent with
  | nil =>
      obtain rfl := List.length_eq_zero_iff.mp length
      exact ⟨⟨current, []⟩, rfl, rfl, fun _ _ => rfl, List.Forall₂.nil⟩
  | cons bp entries ih =>
      rcases sent with _ | ⟨ref, sent⟩
      · cases length
      rcases lands with ⟨free, found, landsRest⟩
      have waiting := pending.apart ref List.mem_cons_self
      have unshared := progress.unshared_iff.mpr free
      have same := progress.waiting ref waiting
      let next := current.modify ref (.setID bp.id)
      have handled :
          onEntry surroundings bp current = .ok ⟨next, []⟩ := by
        apply onEntry_hit unshared
        · rw [progress.breakpoints]
          exact pending.listed ref List.mem_cons_self
        · rw [same]
          exact pending.enabled ref List.mem_cons_self
        · exact pending.verified bp List.mem_cons_self
        · exact pending.present bp List.mem_cons_self
        · rw [same, progress.atPlace_eq]
          exact found
      rcases ih (progress.next pending) pending.tail
          (Nat.succ.inj length) landsRest with
        ⟨outcome, rest, breakpoints, untouched, given⟩
      have notLater := (List.nodup_cons.mp pending.different).1
      refine ⟨outcome, ?_, breakpoints, ?_, List.Forall₂.cons ?_ given⟩
      · rw [forEach_cons_silent handled, rest]
      · intro other elsewhere
        have different := List.ne_of_not_mem_cons elsewhere
        have notSent := List.not_mem_of_not_mem_cons elsewhere
        rw [untouched other notSent,
          Store.breakpoint_modify_of_ne _ current different]
      · rw [untouched ref notLater, Store.breakpoint_modify_self]
        rfl

/-- Where the breakpoints get their IDs and none is added, entries land. -/
theorem lands_of_handled
    (progress : Progress store current answered entries)
    (pending : Pending store answered sent entries)
    (sound : Sound current)
    (handled :
      forEach (onEntry surroundings) entries current = .ok outcome)
    (breakpoints : outcome.store.breakpoints = current.breakpoints)
    (given :
      List.Forall₂
        (fun ref bp => (outcome.store.breakpoint ref).id = bp.id)
        sent entries) :
    Lands surroundings store answered sent entries := by
  induction given generalizing current answered with
  | nil => trivial
  | @cons ref bp sent entries has given ih =>
      have waiting := pending.apart ref List.mem_cons_self
      have same := progress.waiting ref waiting
      have listed : ref ∈ current.breakpoints := by
        rw [progress.breakpoints]
        exact pending.listed ref List.mem_cons_self
      have present := pending.present bp List.mem_cons_self
      rcases forEach_cons_ok handled with ⟨first, later, acted, rest, rfl⟩
      have grows := onEntry_grows acted
      have growsRest :
          Grows (fun id => ∃ later ∈ entries, id = later.id) first.store
            later.store :=
        forEach_relates (Grows.refl _) Grows.trans
          (fun later member _ _ acted =>
            (onEntry_grows acted).imp fun _ same => ⟨later, member, same⟩)
          rest
      have sameList : first.store.breakpoints = current.breakpoints := by
        apply (grows.1.eq_of_length_le ?_).symm
        rw [← breakpoints]
        exact growsRest.1.length_le
      have givenFirst : (first.store.breakpoint ref).id = bp.id := by
        rcases growsRest.2 ref (grows.1.subset listed) with
          kept | ⟨other, member, changed⟩
        · rw [← kept, has]
        · exact absurd (has.symm.trans changed) (pending.id_ne other member)
      rcases lands_of_onEntry sound listed present acted sameList givenFirst
        with ⟨unshared, found⟩
      let next := current.modify ref (.setID bp.id)
      have silent : onEntry surroundings bp current = .ok ⟨next, []⟩ := by
        refine onEntry_hit unshared listed ?_ ?_ present found
        · rw [same]
          exact pending.enabled ref List.mem_cons_self
        · exact pending.verified bp List.mem_cons_self
      have soundNext : Sound next := sound.onEntry silent
      rw [forEach_cons_silent silent] at handled
      refine ⟨progress.unshared_iff.mp unshared, ?_, ?_⟩
      · rwa [same, progress.atPlace_eq] at found
      · exact ih (progress.next pending) pending.tail soundNext handled
          breakpoints

end Steps

/-! ## Whole replies -/

/--
Handling a reply is confined to its file if and only if every entry lands on
the breakpoint it answers.
-/
theorem confined_iff_lands
    {surroundings : Surroundings}
    {filename : WxString}
    {sent : List Ref}
    {resp : SetBreakpointsResponse}
    {store : Store}
    (sound : Sound store)
    (answers : Answers filename sent resp store) :
    Confined surroundings filename sent resp store ↔
      Lands surroundings store [] sent resp.breakpoints := by
  have inFile :
      ∀ ref ∈ sent,
        (ref ∈ store.breakpoints ∧ file store ref = filename) ∧
          (store.breakpoint ref).enabled = true :=
    fun ref member => mem_enabledIn.mp (answers.order.mem_iff.mp member)
  have different : sent.Nodup :=
    answers.order.nodup_iff.mpr ((sound.nodup.filter _).filter _)
  have progress := Progress.refl store resp.breakpoints
  have pending : Pending store [] sent resp.breakpoints :=
    ⟨fun _ _ => List.not_mem_nil, different,
      fun ref member => (inFile ref member).1.1,
      fun ref member => (inFile ref member).2, answers.verified,
      answers.present, answers.distinct⟩
  constructor
  · rintro ⟨outcome, handled, breakpoints, -, given⟩
    exact lands_of_handled progress pending sound handled breakpoints given
  · intro lands
    rcases handled_of_lands progress pending answers.length lands with
      ⟨outcome, handled, breakpoints, untouched, given⟩
    refine ⟨outcome, handled, breakpoints, ?_, given⟩
    intro ref _ elsewhere
    have notSent : ref ∉ sent :=
      fun member => elsewhere (inFile ref member).1.2
    rw [untouched ref notSent]
    exact ⟨rfl, rfl, rfl⟩

/-- A debugger at a stop, with all files in one project. -/
def debugging : Surroundings where
  state :=
    { notConnected := false, connected := true, stopped := true,
      running := true }
  debugTestingChoice := .useNativePaths
  debuggee := []
  findProjectForFile _ := some 0
  unixFilename filename _ := filename
  fileExists _ := true
  getPath filename := filename
  makeRelativeTo filename _ := filename
  reallocates := false

/-- Two files with a breakpoint on line 5. -/
def lineFiveTwice : List EventCall :=
  [⟨debugging, .edit (.operation (.addBreakpoint "main.cpp".toList 5))⟩,
    ⟨debugging, .edit (.operation (.addBreakpoint "util.cpp".toList 5))⟩]

/-- The reply for the second file, with or without a path in its entry. -/
def lineFiveReply (path : WxString) : SetBreakpointsResponse where
  breakpoints := [⟨1, true, ⟨[], path, 0⟩, 5⟩]
  originSource := "util.cpp".toList

theorem sound_lineFiveTwice
    {store : Store}
    (ran : run eventStep Store.empty lineFiveTwice = some store) :
    Sound store :=
  run_invariant_of_step (fun _ _ _ sound taken => sound.eventStep taken)
    sound_empty ran

theorem answers_lineFiveReply
    (path : WxString)
    {store : Store}
    (ran : run eventStep Store.empty lineFiveTwice = some store) :
    Answers "util.cpp".toList [1] (lineFiveReply path) store := by
  cases ran
  exact ⟨by decide, rfl, rfl, by simp [lineFiveReply], by simp [lineFiveReply],
    by simp [lineFiveReply]⟩

theorem confined_iff_lands_withPath :
    ∃ store, run eventStep Store.empty lineFiveTwice = some store ∧
      Confined debugging "util.cpp".toList [1]
        (lineFiveReply "util.cpp".toList) store :=
  ⟨_, rfl,
    (confined_iff_lands (sound_lineFiveTwice rfl)
      (answers_lineFiveReply "util.cpp".toList rfl)).mpr (by decide)⟩

/-- Without a path the entry gives its ID to that of the other file. -/
theorem withoutPath_not_confined :
    ∃ store, run eventStep Store.empty lineFiveTwice = some store ∧
      Sound store ∧
      Answers "util.cpp".toList [1] (lineFiveReply []) store ∧
      ¬ Confined debugging "util.cpp".toList [1] (lineFiveReply []) store := by
  refine ⟨_, rfl, sound_lineFiveTwice rfl, answers_lineFiveReply [] rfl, ?_⟩
  rintro ⟨outcome, handled, -, untouched, -⟩
  cases handled
  exact absurd (untouched 0 (by decide) (by decide)).1 (by decide)

end DebuggerDap.Breakpoints.Confinement
