import DebuggerDap.Breakpoints.Store

/-!
# The map of the files as an index of the vector

`m_map_filebreakpoints` is meant to group `m_breakpoints` by file.  Each
function of the store that changes one of the two is described by what it
does to this index: a breakpoint on a free line is filed, a breakpoint that
is the first on its line is taken out, and announcing a file finds its drawer
unless the file has none and another file has one.
-/

namespace DebuggerDap.Breakpoints.Grouping

open DebuggerDap.Text.Strings
open DebuggerDap.Protocol.Messages
open DebuggerDap.Library.KeyIndex
open DebuggerDap.Breakpoints.Store

/-- The file of a breakpoint. -/
def file (store : Store) (ref : Ref) : WxString :=
  (store.breakpoint ref).filename

/-- What the map holds for a file. -/
def drawer (store : Store) (filename : WxString) : Option (List Ref) :=
  store.mapFilebreakpoints[filename]?

/-- The map groups the breakpoints of the vector by file. -/
def Grouped (store : Store) : Prop :=
  Indexes (file store) store.breakpoints (drawer store)

theorem grouped_empty : Grouped Store.empty where
  filed _ := List.Perm.refl []
  inhabited _ := nofun

/-- The breakpoints of a file in the vector. -/
def fileBreakpoints (store : Store) (filename : WxString) : List Ref :=
  having (file store) store.breakpoints filename

/-- The enabled ones among them. -/
def enabledIn (store : Store) (filename : WxString) : List Ref :=
  (fileBreakpoints store filename).filter fun ref =>
    (store.breakpoint ref).enabled

/-- The lines of the enabled breakpoints of a file in the vector. -/
def enabledLines (store : Store) (filename : WxString) :
    List SourceBreakpoint :=
  store.vlines (fileBreakpoints store filename)

theorem mem_fileBreakpoints
    {store : Store}
    {filename : WxString}
    {ref : Ref} :
    ref ∈ fileBreakpoints store filename ↔
      ref ∈ store.breakpoints ∧ file store ref = filename :=
  mem_having

theorem mem_enabledIn
    {store : Store}
    {filename : WxString}
    {ref : Ref} :
    ref ∈ enabledIn store filename ↔
      (ref ∈ store.breakpoints ∧ file store ref = filename) ∧
        (store.breakpoint ref).enabled = true := by
  rw [enabledIn, List.mem_filter, mem_fileBreakpoints]

theorem Grouped.drawer_perm
    {store : Store}
    (grouped : Grouped store)
    (filename : WxString) :
    ((drawer store filename).getD []).Perm
      (fileBreakpoints store filename) :=
  grouped.filed filename

/-- What the map holds for a file has the lines of the vector. -/
theorem Grouped.vlines_perm
    {store : Store}
    (grouped : Grouped store)
    (filename : WxString) :
    (store.vlines ((drawer store filename).getD [])).Perm
      (enabledLines store filename) :=
  ((grouped.drawer_perm filename).filter _).map _

/-! ## Setters -/

section Setters

variable {change : DapBreakpoint → DapBreakpoint} {store : Store} {ref : Ref}

/-- A member a setter leaves alone is unchanged in every breakpoint. -/
theorem field_modify
    {β : Type*}
    (field : DapBreakpoint → β)
    (change : DapBreakpoint → DapBreakpoint)
    (kept : ∀ breakpoint, field (change breakpoint) = field breakpoint)
    (ref other : Ref) :
    field ((store.modify ref change).breakpoint other) =
      field (store.breakpoint other) :=
  Heap.field_modify field kept ref other store.heap

theorem file_modify
    (kept : ∀ breakpoint, (change breakpoint).filename = breakpoint.filename) :
    file (store.modify ref change) = file store :=
  funext fun other =>
    field_modify DapBreakpoint.filename change kept ref other

theorem fileBreakpoints_modify
    (kept : ∀ breakpoint, (change breakpoint).filename = breakpoint.filename)
    (filename : WxString) :
    fileBreakpoints (store.modify ref change) filename =
      fileBreakpoints store filename := by
  rw [fileBreakpoints, file_modify kept]
  rfl

theorem grouped_modify
    (kept : ∀ breakpoint, (change breakpoint).filename = breakpoint.filename) :
    Grouped (store.modify ref change) ↔ Grouped store := by
  rw [Grouped, file_modify kept]
  exact Iff.rfl

theorem filename_setIsEnabled (bEnable : Bool) :
    ∀ breakpoint : DapBreakpoint,
      (breakpoint.setIsEnabled bEnable).filename = breakpoint.filename :=
  fun _ => rfl

/-- A setter leaves the other files alone. -/
theorem enabledIn_modify_of_ne
    (kept : ∀ breakpoint, (change breakpoint).filename = breakpoint.filename)
    {filename : WxString}
    (different : file store ref ≠ filename) :
    enabledIn (store.modify ref change) filename =
      enabledIn store filename := by
  rw [enabledIn, fileBreakpoints_modify kept]
  apply List.filter_congr
  intro other member
  have elsewhere : other ≠ ref := by
    rintro rfl
    exact different (mem_fileBreakpoints.mp member).2
  rw [Store.breakpoint_modify_of_ne change store elsewhere]

end Setters

/-! ## Filing and taking out -/

section Filing

variable {store : Store} {filename other : WxString} {bp : Ref}
variable {filebreakpoints : List Ref}

/-- The only file of a map of size one. -/
theorem eq_of_size_one
    {map : Std.TreeMap WxString (List Ref)}
    (single : map.size = 1)
    (found : map[filename]? = some filebreakpoints)
    (different : other ≠ filename) :
    map[other]? = none := by
  have contained : filename ∈ map :=
    Std.TreeMap.mem_iff_isSome_getElem?.mpr (by rw [found]; rfl)
  have size : (map.erase filename).size = 0 := by
    rw [Std.TreeMap.size_erase, if_pos (Std.TreeMap.mem_iff_contains.mp contained),
      single]
  have empty : (map.erase filename).isEmpty = true := by
    rw [Std.TreeMap.isEmpty_eq_size_eq_zero, size]
    rfl
  have absent := Std.TreeMap.getElem?_of_isEmpty (a := other) empty
  rwa [Std.TreeMap.getElem?_erase, if_neg] at absent
  exact fun equal => different (Std.LawfulEqCmp.compare_eq_iff_eq.mp equal).symm

/-- The map changes for the given file only. -/
theorem updateMap_of_ne
    (different : other ≠ filename)
    (bAddBreakpoint : Bool) :
    (store.updateMapFileBreakPoints filename bp bAddBreakpoint)[other]? =
      store.mapFilebreakpoints[other]? := by
  have apart : compare filename other ≠ .eq :=
    fun equal => different (Std.LawfulEqCmp.compare_eq_iff_eq.mp equal).symm
  have inserted :
      ∀ refs, (store.mapFilebreakpoints.insert filename refs)[other]? =
        store.mapFilebreakpoints[other]? := by
    intro refs
    rw [Std.TreeMap.getElem?_insert, if_neg apart]
  cases found : store.mapFilebreakpoints[filename]? with
  | none =>
      cases bAddBreakpoint
      · simp [Store.updateMapFileBreakPoints, found]
      · simpa [Store.updateMapFileBreakPoints, found] using inserted [bp]
  | some filebreakpoints =>
      simp only [Store.updateMapFileBreakPoints, found]
      split_ifs with onLine adding single alone
      · rfl
      · rw [eq_of_size_one alone found different]
        rfl
      · rw [Std.TreeMap.getElem?_erase, if_neg apart]
      · exact inserted _
      · exact inserted _
      · rfl

/-- On a free line a breakpoint is filed last in the drawer of its file. -/
theorem updateMap_add
    (free :
      ∀ ref ∈ (drawer store filename).getD [],
        store.onLineOf bp ref = false) :
    (store.updateMapFileBreakPoints filename bp true)[filename]? =
      some ((drawer store filename).getD [] ++ [bp]) := by
  cases found : store.mapFilebreakpoints[filename]? with
  | none =>
      simp [Store.updateMapFileBreakPoints, drawer, found]
  | some filebreakpoints =>
      have none : filebreakpoints.any (store.onLineOf bp) = false := by
        rw [List.any_eq_false]
        simpa [drawer, found] using free
      simp [Store.updateMapFileBreakPoints, drawer, found, none]

/-- On a taken line nothing is filed. -/
theorem updateMap_add_taken
    (found : drawer store filename = some filebreakpoints)
    (taken : filebreakpoints.any (store.onLineOf bp) = true) :
    store.updateMapFileBreakPoints filename bp true =
      store.mapFilebreakpoints := by
  rw [drawer] at found
  simp [Store.updateMapFileBreakPoints, found, taken]

/-- Filed or not, a breakpoint leaves a drawer for its file. -/
theorem isSome_updateMap_add :
    (store.updateMapFileBreakPoints filename bp true)[filename]?.isSome =
      true := by
  cases found : store.mapFilebreakpoints[filename]? with
  | none => simp [Store.updateMapFileBreakPoints, found]
  | some filebreakpoints =>
      simp only [Store.updateMapFileBreakPoints, found, ↓reduceIte]
      split
      · rw [found]
        rfl
      · rw [Std.TreeMap.getElem?_insert_self]
        rfl

/-- The first breakpoint on the line is taken out, with an empty drawer. -/
theorem updateMap_remove
    (found : drawer store filename = some filebreakpoints)
    (taken : filebreakpoints.any (store.onLineOf bp) = true) :
    (store.updateMapFileBreakPoints filename bp false)[filename]? =
      if filebreakpoints.eraseP (store.onLineOf bp) = [] then none
      else some (filebreakpoints.eraseP (store.onLineOf bp)) := by
  rw [drawer] at found
  rcases List.any_eq_true.mp taken with ⟨first, member, onLine⟩
  have length := List.length_eraseP_of_mem member onLine
  by_cases single : filebreakpoints.length = 1
  · have empty : filebreakpoints.eraseP (store.onLineOf bp) = [] := by
      rw [← List.length_eq_zero_iff, length, single]
    simp only [Store.updateMapFileBreakPoints, found, taken, single, empty]
    by_cases alone : store.mapFilebreakpoints.size = 1
    · simp [alone]
    · simp [alone]
  · have nonempty : filebreakpoints.eraseP (store.onLineOf bp) ≠ [] := by
      intro empty
      rw [empty] at length
      have positive := List.length_pos_of_mem member
      simp only [List.length_nil] at length
      omega
    simp [Store.updateMapFileBreakPoints, found, taken, single, nonempty]

end Filing

/-! ## A new breakpoint -/

section New

variable {store : Store} {project : Option Project} {filename : WxString}
variable {line id : Int}

theorem breakpoint_make_new (breakpoint : DapBreakpoint) :
    (store.make breakpoint).breakpoint store.heap.size = breakpoint :=
  Heap.read_allocate_new breakpoint store.heap

theorem breakpoint_make_old
    {ref : Ref}
    (listed : ref ∈ store.breakpoints)
    (breakpoint : DapBreakpoint) :
    (store.make breakpoint).breakpoint ref = store.breakpoint ref :=
  Heap.read_allocate_of_lt (store.inUse ref listed) breakpoint

theorem breakpoint_listNew_new :
    (store.listNew project filename line id).breakpoint store.heap.size =
      .new project filename line id :=
  breakpoint_make_new _

theorem breakpoint_listNew_old
    {ref : Ref}
    (listed : ref ∈ store.breakpoints) :
    (store.listNew project filename line id).breakpoint ref =
      store.breakpoint ref :=
  breakpoint_make_old listed _

theorem file_listNew_old :
    ∀ ref ∈ store.breakpoints,
      file (store.listNew project filename line id) ref = file store ref :=
  fun _ listed => by rw [file, breakpoint_listNew_old listed, file]

theorem file_listNew_new :
    file (store.listNew project filename line id) store.heap.size =
      filename := by
  rw [file, breakpoint_listNew_new, DapBreakpoint.new]

/-- The file gets one more breakpoint. -/
theorem fileBreakpoints_listNew :
    fileBreakpoints (store.listNew project filename line id) filename =
      fileBreakpoints store filename ++ [store.heap.size] := by
  have appended :=
    having_append_self (file (store.listNew project filename line id))
      store.breakpoints store.heap.size
  rw [file_listNew_new, having_congr file_listNew_old] at appended
  exact appended

/-- The other files keep theirs. -/
theorem enabledIn_listNew_of_ne
    {other : WxString}
    (different : other ≠ filename) :
    enabledIn (store.listNew project filename line id) other =
      enabledIn store other := by
  have apart :
      other ≠
        file (store.listNew project filename line id) store.heap.size := by
    rwa [file_listNew_new]
  have same :
      fileBreakpoints (store.listNew project filename line id) other =
        fileBreakpoints store other :=
    (having_append_of_ne apart store.breakpoints).trans
      (having_congr file_listNew_old other)
  rw [enabledIn, same]
  apply List.filter_congr
  intro ref member
  rw [breakpoint_listNew_old (mem_fileBreakpoints.mp member).1]

/-- The line of a file is free when no breakpoint of the file is on it. -/
def LineFree (store : Store) (filename : WxString) (line : Int) : Prop :=
  ∀ ref ∈ store.breakpoints,
    file store ref = filename → (store.breakpoint ref).line ≠ line

instance (store : Store) (filename : WxString) (line : Int) :
    Decidable (LineFree store filename line) :=
  inferInstanceAs (Decidable (∀ ref ∈ store.breakpoints, _))

/-- The new breakpoint is on the line of those on its line. -/
theorem onLineOf_make
    {ref : Ref}
    (listed : ref ∈ store.breakpoints) :
    (store.make (.new project filename line id)).onLineOf store.heap.size ref =
      decide ((store.breakpoint ref).line = line) := by
  rw [Store.onLineOf, breakpoint_make_old listed, breakpoint_make_new]
  rfl

/-- On a free line a new breakpoint is listed in both containers. -/
theorem Grouped.listNew
    (grouped : Grouped store)
    (free : LineFree store filename line) :
    Grouped (store.listNew project filename line id) := by
  have carried :
      Indexes (file (store.listNew project filename line id))
        store.breakpoints (drawer store) :=
    Indexes.of_key_eq grouped file_listNew_old
  apply carried.push
  · rw [file_listNew_new]
    apply updateMap_add
    intro ref member
    have inFile := (grouped.drawer_perm filename).mem_iff.mp member
    rcases mem_fileBreakpoints.mp inFile with ⟨listed, here⟩
    rw [onLineOf_make listed]
    exact decide_eq_false (free ref listed here)
  · intro other different
    rw [file_listNew_new] at different
    exact updateMap_of_ne different true

/-- On a taken line a new breakpoint is listed in the vector only. -/
theorem Grouped.not_listNew
    (grouped : Grouped store)
    (taken : ¬ LineFree store filename line) :
    ¬ Grouped (store.listNew project filename line id) := by
  intro regrouped
  obtain ⟨ref, listed, here, onLine⟩ :
      ∃ ref ∈ store.breakpoints,
        file store ref = filename ∧ (store.breakpoint ref).line = line := by
    simpa [LineFree] using taken
  rcases grouped.exists_drawer listed with ⟨refs, found, member⟩
  rw [here] at found
  let made := store.make (.new project filename line id)
  have onSameLine : made.onLineOf store.heap.size ref = true := by
    rw [onLineOf_make listed]
    exact decide_eq_true onLine
  have unchanged :
      made.updateMapFileBreakPoints filename store.heap.size true =
        store.mapFilebreakpoints :=
    updateMap_add_taken found
      (List.any_eq_true.mpr ⟨ref, member, onSameLine⟩)
  have kept :
      drawer (store.listNew project filename line id) filename =
        drawer store filename :=
    congrArg (·[filename]?) unchanged
  have before := (grouped.drawer_perm filename).length_eq
  have after := (regrouped.drawer_perm filename).length_eq
  rw [fileBreakpoints_listNew, kept, List.length_append] at after
  simp only [List.length_singleton] at after
  omega

end New

/-! ## A deleted breakpoint -/

section Deleted

variable {store : Store} {bp : Ref}

theorem breakpoints_unlist
    (listed : bp ∈ store.breakpoints)
    (filename : WxString) :
    (store.unlist filename bp).breakpoints = store.breakpoints.erase bp := by
  show (if store.breakpoints.length = 1 then [] else _) = _
  split
  · next single =>
      rcases List.length_eq_one_iff.mp single with ⟨only, same⟩
      rw [same] at listed ⊢
      rw [List.mem_singleton.mp listed, List.erase_cons_head]
  · rfl

/-- The search of the map for the line of a breakpoint finds it. -/
def FirstOnLine (store : Store) (bp : Ref) : Prop :=
  ((drawer store (file store bp)).getD []).find? (store.onLineOf bp) = some bp

instance (store : Store) (bp : Ref) : Decidable (FirstOnLine store bp) :=
  inferInstanceAs (Decidable (_ = _))

theorem onLineOf_self (store : Store) (bp : Ref) :
    store.onLineOf bp bp = true :=
  beq_self_eq_true _

/-- A search for the line of a breakpoint it meets finds one on the line. -/
theorem exists_find_onLineOf
    {refs : List Ref}
    (member : bp ∈ refs) :
    ∃ first, refs.find? (store.onLineOf bp) = some first :=
  Option.isSome_iff_exists.mp
    (List.find?_isSome.mpr ⟨bp, member, onLineOf_self store bp⟩)

/-- Taken out, a breakpoint is looked up by its line in the map. -/
theorem getD_drawer_unlist (store : Store) (filename : WxString) (bp : Ref) :
    (drawer (store.unlist filename bp) filename).getD [] =
      ((drawer store filename).getD []).eraseP (store.onLineOf bp) := by
  cases found : drawer store filename with
  | none =>
      have absent : store.mapFilebreakpoints[filename]? = none := found
      have same :
          store.updateMapFileBreakPoints filename bp false =
            store.mapFilebreakpoints := by
        simp [Store.updateMapFileBreakPoints, absent]
      rw [drawer, Store.unlist, same, absent]
      rfl
  | some filebreakpoints =>
      rw [Option.getD_some]
      by_cases taken : filebreakpoints.any (store.onLineOf bp) = true
      · have removed := updateMap_remove found taken
        rw [drawer, Store.unlist, removed]
        split
        · next empty => rw [empty, Option.getD_none]
        · rfl
      · have present :
            store.mapFilebreakpoints[filename]? = some filebreakpoints :=
          found
        have same :
            store.updateMapFileBreakPoints filename bp false =
              store.mapFilebreakpoints := by
          simp only [Store.updateMapFileBreakPoints, present, if_neg taken]
          rfl
        rw [drawer, Store.unlist, same, present, Option.getD_some,
          List.eraseP_of_forall_not]
        simpa using taken

/-- The drawer of the file of a breakpoint after its line is taken out. -/
theorem drawer_unlist
    (grouped : Grouped store)
    (listed : bp ∈ store.breakpoints) :
    ∃ refs, drawer store (file store bp) = some refs ∧
      drawer (store.unlist (file store bp) bp) (file store bp) =
        if refs.eraseP (store.onLineOf bp) = [] then none
        else some (refs.eraseP (store.onLineOf bp)) := by
  rcases grouped.exists_drawer listed with ⟨refs, found, member⟩
  have onLine : refs.any (store.onLineOf bp) = true :=
    List.any_eq_true.mpr ⟨bp, member, onLineOf_self store bp⟩
  exact ⟨refs, found, updateMap_remove found onLine⟩

/-- The first breakpoint on its line is taken out of both containers. -/
theorem Grouped.unlist
    (grouped : Grouped store)
    (listed : bp ∈ store.breakpoints)
    (first : FirstOnLine store bp) :
    Grouped (store.unlist (file store bp) bp) := by
  rcases drawer_unlist grouped listed with ⟨refs, found, after⟩
  rw [FirstOnLine, found, Option.getD_some] at first
  rw [eraseP_eq_erase first] at after
  rw [Grouped, breakpoints_unlist listed]
  exact Indexes.erase grouped found after fun other different =>
    updateMap_of_ne different false

/-- Any other one is taken out of the vector only. -/
theorem Grouped.not_unlist
    (grouped : Grouped store)
    (listed : bp ∈ store.breakpoints)
    (later : ¬ FirstOnLine store bp) :
    ¬ Grouped (store.unlist (file store bp) bp) := by
  intro regrouped
  rcases grouped.exists_drawer listed with ⟨refs, found, member⟩
  rw [FirstOnLine, found, Option.getD_some] at later
  obtain ⟨first, hit⟩ := @exists_find_onLineOf store bp refs member
  have different : bp ≠ first := by
    rintro rfl
    exact later hit
  have left :
      (drawer (store.unlist (file store bp) bp) (file store bp)).getD [] =
        refs.erase first := by
    rw [getD_drawer_unlist, found, Option.getD_some, eraseP_eq_erase hit]
  have filed := regrouped.filed (file store bp)
  have before := (grouped.perm_of_lookup found).erase bp
  rw [breakpoints_unlist listed] at filed
  have perm : (refs.erase first).Perm (refs.erase bp) := by
    rw [← left]
    refine filed.trans (List.Perm.trans ?_ before.symm)
    rw [← having_erase]
    exact List.Perm.refl _
  have count := perm.count_eq bp
  have positive := List.count_pos_iff.mpr member
  rw [List.count_erase_of_ne different, List.count_erase_self] at count
  omega

/-- The other files keep their breakpoints. -/
theorem enabledIn_unlist_of_ne
    (listed : bp ∈ store.breakpoints)
    {other : WxString}
    (different : other ≠ file store bp) :
    enabledIn (store.unlist (file store bp) bp) other =
      enabledIn store other := by
  have same :
      fileBreakpoints (store.unlist (file store bp) bp) other =
        fileBreakpoints store other := by
    rw [fileBreakpoints, breakpoints_unlist listed]
    exact having_erase_of_ne different
  rw [enabledIn, same]
  rfl

end Deleted

/-! ## What the operations find -/

section Finding

variable {surroundings : Surroundings} {store : Store} {bp : Ref}
variable {project : Option Project} {filename : WxString} {line : Int}

theorem findBreakpoint_spec
    (found : store.findBreakpoint project filename line = some bp) :
    bp ∈ store.breakpoints ∧ file store bp = filename ∧
      (store.breakpoint bp).line = line := by
  have meets := List.find?_some found
  simp only [Bool.and_eq_true, decide_eq_true_eq] at meets
  exact ⟨List.mem_of_find?_eq_some found, meets.1.2, meets.2⟩

theorem deleteBreakpoint_code
    (listed : bp ∈ store.breakpoints)
    (code : (store.breakpoint bp).type = .bptCode) :
    store.deleteBreakpoint surroundings bp =
      (store.unlist (file store bp) bp).updateDAPSetBreakpointsByFileName
        surroundings (file store bp) := by
  have location : (store.breakpoint bp).getLocation = file store bp := by
    rw [DapBreakpoint.getLocation, code]
    rfl
  rw [Store.deleteBreakpoint, if_pos listed, location, code]

theorem deleteBreakpoint_none
    (kept :
      ¬ (bp ∈ store.breakpoints ∧
        (store.breakpoint bp).type = .bptCode)) :
    store.deleteBreakpoint surroundings bp = .ok ⟨store, []⟩ := by
  rw [Store.deleteBreakpoint]
  split
  · next listed =>
      cases type : (store.breakpoint bp).type with
      | bptCode => exact absurd ⟨listed, type⟩ kept
      | bptFunction => rfl
      | bptData => rfl
  · rfl

end Finding

/-! ## Announcing a file -/

section Announcing

variable {store : Store} {surroundings : Surroundings} {filename : WxString}

theorem Grouped.size_eq_zero_iff (grouped : Grouped store) :
    store.mapFilebreakpoints.size = 0 ↔ store.breakpoints = [] := by
  constructor
  · intro size
    apply List.eq_nil_iff_forall_not_mem.mpr
    intro ref listed
    have empty : store.mapFilebreakpoints.isEmpty = true := by
      rw [Std.TreeMap.isEmpty_eq_size_eq_zero, size]
      rfl
    exact grouped.lookup_eq_none_iff.mp
      (Std.TreeMap.getElem?_of_isEmpty empty) ref listed rfl
  · intro none
    have empty : store.mapFilebreakpoints.isEmpty = true := by
      apply Std.TreeMap.isEmpty_iff_forall_not_mem.mpr
      intro other contained
      have absent : drawer store other = Option.none :=
        grouped.lookup_eq_none_iff.mpr (by simp [none])
      rw [Std.TreeMap.mem_iff_isSome_getElem?] at contained
      rw [drawer] at absent
      simp [absent] at contained
    rw [Std.TreeMap.isEmpty_eq_size_eq_zero] at empty
    exact eq_of_beq empty

theorem lookUpLines_ok
    {lines : List SourceBreakpoint}
    (found : store.lookUpLines filename = .ok lines) :
    lines = store.vlines ((drawer store filename).getD []) := by
  rw [drawer]
  by_cases size : 0 < store.mapFilebreakpoints.size
  · rw [Store.lookUpLines, if_pos size] at found
    split at found
    · cases found
    · next refs has =>
        rw [has]
        cases found
        rfl
  · have empty : store.mapFilebreakpoints.isEmpty = true := by
      rw [Std.TreeMap.isEmpty_eq_size_eq_zero]
      exact beq_iff_eq.mpr (by omega)
    rw [Store.lookUpLines, if_neg size] at found
    rw [Std.TreeMap.getElem?_of_isEmpty empty]
    cases found
    rfl

/--
The look-up does not fault for a file that has a breakpoint, nor when there
is no breakpoint at all.
-/
theorem Grouped.exists_lines
    (grouped : Grouped store)
    (present :
      fileBreakpoints store filename ≠ [] ∨ store.breakpoints = []) :
    ∃ lines, store.lookUpLines filename = .ok lines := by
  rw [Store.lookUpLines]
  split
  · next size =>
      have someListed : store.breakpoints ≠ [] := fun none =>
        size.ne' (grouped.size_eq_zero_iff.mpr none)
      rcases List.exists_mem_of_ne_nil _ (present.resolve_right someListed) with
        ⟨ref, member⟩
      rcases mem_fileBreakpoints.mp member with ⟨listed, rfl⟩
      rcases grouped.exists_drawer listed with ⟨refs, found, -⟩
      rw [drawer] at found
      rw [found]
      exact ⟨_, rfl⟩
  · exact ⟨_, rfl⟩

/-- Without a breakpoint in the file, but with one in another, it faults. -/
theorem Grouped.lookUpLines_fault
    (grouped : Grouped store)
    (absent : fileBreakpoints store filename = [])
    (others : store.breakpoints ≠ []) :
    store.lookUpLines filename = .error .endDereferenced := by
  have size : 0 < store.mapFilebreakpoints.size :=
    Nat.pos_of_ne_zero fun zero => others (grouped.size_eq_zero_iff.mp zero)
  have missing : drawer store filename = none :=
    grouped.lookup_eq_none_iff.mpr fun ref listed here => by
      have member := mem_fileBreakpoints.mpr ⟨listed, here⟩
      rw [absent] at member
      cases member
  rw [drawer] at missing
  rw [Store.lookUpLines, if_pos size, missing]

theorem announce_eq (atStop : surroundings.AtStop) :
    store.updateDAPSetBreakpointsByFileName surroundings filename =
      store.lookUpLines filename >>= fun lines =>
        .ok
          ⟨store.remember surroundings filename,
            [⟨filename, surroundings.dapPath filename, lines⟩]⟩ := by
  rw [Store.updateDAPSetBreakpointsByFileName, atStop.1, atStop.2]
  rfl

/-- What is announced, if announcing does not fault. -/
theorem announce_ok
    {outcome : Outcome}
    (atStop : surroundings.AtStop)
    (announced :
      store.updateDAPSetBreakpointsByFileName surroundings filename =
        .ok outcome) :
    outcome =
      ⟨store.remember surroundings filename,
        [⟨filename, surroundings.dapPath filename,
          store.vlines ((drawer store filename).getD [])⟩]⟩ := by
  rw [announce_eq atStop] at announced
  rcases exists_ok_of_bind announced with ⟨lines, found, same⟩
  cases same
  rw [← lookUpLines_ok found]

/-- Announcing a file of a grouped store, where the look-up cannot fault. -/
theorem Grouped.announce
    (grouped : Grouped store)
    (atStop : surroundings.AtStop)
    (present :
      fileBreakpoints store filename ≠ [] ∨ store.breakpoints = []) :
    store.updateDAPSetBreakpointsByFileName surroundings filename =
      .ok
        ⟨store.remember surroundings filename,
          [⟨filename, surroundings.dapPath filename,
            store.vlines ((drawer store filename).getD [])⟩]⟩ := by
  rcases grouped.exists_lines present with ⟨lines, found⟩
  rw [announce_eq atStop, found, ← lookUpLines_ok found]
  rfl

end Announcing

end DebuggerDap.Breakpoints.Grouping
