import DebuggerDap.Breakpoints.Editing

/-!
# When an announcement finds its file

`UpdateDAPSetBreakpointsByFileName` looks a file up in the map and uses what
it finds without a test.  At a stop this faults for a file the map does not
have, unless the map is empty.

So taking breakpoints of a file out one after another comes to its end when
the map has no other file, or when its entry for the file has a line left.
-/

namespace DebuggerDap.Breakpoints.Announcing

open DebuggerDap.Text.Strings
open DebuggerDap.Breakpoints.Store
open DebuggerDap.Breakpoints.Grouping
open DebuggerDap.Breakpoints.Editing

/-! ## One announcement -/

/-- The map is empty or has the file. -/
def Findable (store : Store) (filename : WxString) : Prop :=
  store.mapFilebreakpoints.size = 0 ∨ (drawer store filename).isSome = true

instance (store : Store) (filename : WxString) :
    Decidable (Findable store filename) :=
  inferInstanceAs (Decidable (_ ∨ _))

section Announcement

variable {surroundings : Surroundings} {store : Store}
variable {filename : WxString} {bp : Ref} {bEnable : Bool}

theorem lookUpLines_ok_iff :
    (∃ lines, store.lookUpLines filename = .ok lines) ↔
      Findable store filename := by
  rw [Store.lookUpLines, Findable, drawer]
  by_cases size : 0 < store.mapFilebreakpoints.size
  · rw [if_pos size]
    cases store.mapFilebreakpoints[filename]? with
    | none => simp [size.ne']
    | some refs => simp
  · simp [Nat.eq_zero_of_not_pos size]

/-- Away from a stop nothing is announced. -/
theorem announce_away (away : ¬ surroundings.AtStop) :
    store.updateDAPSetBreakpointsByFileName surroundings filename =
      .ok ⟨store, []⟩ :=
  if_neg fun both => away (Bool.and_eq_true_iff.mp both)

/-- Announcing a file at a stop needs the file. -/
theorem announce_ok_iff :
    (∃ outcome,
      store.updateDAPSetBreakpointsByFileName surroundings filename =
        .ok outcome) ↔
      (surroundings.AtStop → Findable store filename) := by
  rw [← lookUpLines_ok_iff]
  by_cases atStop : surroundings.AtStop
  · rw [announce_eq atStop]
    constructor
    · rintro ⟨outcome, announced⟩ -
      rcases exists_ok_of_bind announced with ⟨lines, found, -⟩
      exact ⟨lines, found⟩
    · intro finds
      rcases finds atStop with ⟨lines, found⟩
      rw [found]
      exact ⟨_, rfl⟩
  · rw [announce_away atStop]
    exact ⟨fun _ stopped => absurd stopped atStop, fun _ => ⟨_, rfl⟩⟩

/-- Switching a breakpoint announces a file only if the flag changes. -/
theorem switch_ok_iff :
    (∃ outcome,
      store.switch surroundings filename bp bEnable = .ok outcome) ↔
      ((store.breakpoint bp).enabled ≠ bEnable →
        surroundings.AtStop → Findable store filename) := by
  rw [Store.switch]
  split
  · next changes =>
      rw [announce_ok_iff]
      exact ⟨fun finds _ => finds, fun finds => finds changes⟩
  · next already =>
      exact ⟨fun _ changes => absurd changes already, fun _ => ⟨_, rfl⟩⟩

end Announcement

/-! ## The entry of a file -/

/-- The map has no other file. -/
def OnlyFile (store : Store) (filename : WxString) : Prop :=
  ∀ other ∈ store.mapFilebreakpoints.keys, other = filename

instance (store : Store) (filename : WxString) :
    Decidable (OnlyFile store filename) :=
  inferInstanceAs (Decidable (∀ other ∈ store.mapFilebreakpoints.keys, _))

/-- The lines of the entry of a file. -/
def entryLines (store : Store) (filename : WxString) : Option (List Int) :=
  (drawer store filename).map fun refs =>
    refs.map fun ref => (store.breakpoint ref).line

/-- The entry after the first breakpoint on a line is taken out. -/
def takeLine (line : Int) : Option (List Int) → Option (List Int)
  | none => none
  | some lines =>
      if line ∈ lines ∧ lines.erase line = [] then none
      else some (lines.erase line)

section Entries

variable {store : Store} {filename : WxString} {bp : Ref}

theorem isSome_entryLines :
    (entryLines store filename).isSome = (drawer store filename).isSome :=
  Option.isSome_map

theorem onlyFile_iff :
    OnlyFile store filename ↔
      ∀ other, other ≠ filename → drawer store other = none := by
  unfold OnlyFile drawer
  constructor
  · intro only other different
    rw [← Option.not_isSome_iff_eq_none, ← Std.TreeMap.mem_iff_isSome_getElem?,
      ← Std.TreeMap.mem_keys]
    exact fun member => different (only other member)
  · intro absent other member
    by_contra different
    rw [Std.TreeMap.mem_keys, Std.TreeMap.mem_iff_isSome_getElem?,
      absent other different] at member
    cases member

/-- Without another file an announcement finds its file or an empty map. -/
theorem findable_iff :
    Findable store filename ↔
      OnlyFile store filename ∨
        (entryLines store filename).isSome = true := by
  rw [Findable, isSome_entryLines]
  constructor
  · rintro (size | found)
    · left
      have empty : store.mapFilebreakpoints.isEmpty = true := by
        rw [Std.TreeMap.isEmpty_eq_size_eq_zero, size]
        rfl
      exact onlyFile_iff.mpr fun other _ =>
        Std.TreeMap.getElem?_of_isEmpty empty
    · exact Or.inr found
  · rintro (only | found)
    · by_cases found : (drawer store filename).isSome = true
      · exact Or.inr found
      · left
        have empty : store.mapFilebreakpoints.isEmpty = true := by
          apply Std.TreeMap.isEmpty_iff_forall_not_mem.mpr
          intro other member
          rw [Std.TreeMap.mem_iff_isSome_getElem?] at member
          by_cases same : other = filename
          · exact found (same ▸ member)
          · rw [show store.mapFilebreakpoints[other]? = none from
              onlyFile_iff.mp only other same] at member
            cases member
        rw [Std.TreeMap.isEmpty_eq_size_eq_zero] at empty
        exact eq_of_beq empty
    · exact Or.inr found

/-- Taking a breakpoint out keeps the other files. -/
theorem onlyFile_unlist :
    OnlyFile (store.unlist filename bp) filename ↔
      OnlyFile store filename := by
  rw [onlyFile_iff, onlyFile_iff]
  refine forall₂_congr fun other different => ?_
  rw [drawer, Store.unlist, updateMap_of_ne different false, drawer]

theorem map_eraseP_onLineOf (refs : List Ref) :
    ((refs.eraseP (store.onLineOf bp)).map fun ref =>
        (store.breakpoint ref).line) =
      (refs.map fun ref => (store.breakpoint ref).line).erase
        (store.breakpoint bp).line := by
  rw [List.erase_eq_eraseP, List.eraseP_map]
  refine congrArg _ (congrArg (List.eraseP · refs) (funext fun ref => ?_))
  rw [Store.onLineOf, Function.comp_apply, Bool.eq_iff_iff, beq_iff_eq,
    beq_iff_eq]
  exact eq_comm

/-- Taking a breakpoint out takes its line out of the entry. -/
theorem entryLines_unlist :
    entryLines (store.unlist filename bp) filename =
      takeLine (store.breakpoint bp).line (entryLines store filename) := by
  have sameObjects :
      (store.unlist filename bp).breakpoint = store.breakpoint := rfl
  cases found : drawer store filename with
  | none =>
      have absent : store.mapFilebreakpoints[filename]? = none := found
      have same :
          store.updateMapFileBreakPoints filename bp false =
            store.mapFilebreakpoints := by
        simp [Store.updateMapFileBreakPoints, absent]
      rw [entryLines, drawer, Store.unlist, same, absent, entryLines, found]
      rfl
  | some refs =>
      have lines := @map_eraseP_onLineOf store bp refs
      rw [entryLines, sameObjects, entryLines, found, Option.map_some,
        takeLine, ← lines]
      by_cases taken : refs.any (store.onLineOf bp) = true
      · have onLine :
            (store.breakpoint bp).line ∈
              refs.map fun ref => (store.breakpoint ref).line := by
          rcases List.any_eq_true.mp taken with ⟨ref, member, same⟩
          rw [Store.onLineOf, beq_iff_eq] at same
          exact List.mem_map.mpr ⟨ref, member, same⟩
        rw [show drawer (store.unlist filename bp) filename = _ from
          updateMap_remove found taken]
        by_cases empty : refs.eraseP (store.onLineOf bp) = []
        · rw [if_pos empty, if_pos ⟨onLine, by rw [empty]; rfl⟩]
          rfl
        · rw [if_neg empty, if_neg fun both =>
            empty (List.map_eq_nil_iff.mp both.2)]
          rfl
      · have present : store.mapFilebreakpoints[filename]? = some refs := found
        have same :
            store.updateMapFileBreakPoints filename bp false =
              store.mapFilebreakpoints := by
          simp only [Store.updateMapFileBreakPoints, present, if_neg taken]
          rfl
        have kept : refs.eraseP (store.onLineOf bp) = refs :=
          List.eraseP_of_forall_not (by simpa using taken)
        have offLine :
            (store.breakpoint bp).line ∉
              refs.map fun ref => (store.breakpoint ref).line := by
          intro member
          rcases List.mem_map.mp member with ⟨ref, inside, same⟩
          exact taken (List.any_eq_true.mpr ⟨ref, inside, beq_iff_eq.mpr same⟩)
        rw [show drawer (store.unlist filename bp) filename = some refs from by
          rw [drawer, Store.unlist, same, present], kept,
          if_neg fun both => offLine both.1]
        rfl

end Entries

/-! ## Taking out one after another -/

/--
The map has no other file, or its entry for the file still has a line when
the given ones are taken out.  An entry without lines stays as it is.
-/
def Lasts (store : Store) (filename : WxString) (removed : List Int) : Prop :=
  OnlyFile store filename ∨
    ∃ lines ∈ entryLines store filename,
      lines = [] ∨ lines.diff removed ≠ []

instance (store : Store) (filename : WxString) (removed : List Int) :
    Decidable (Lasts store filename removed) :=
  inferInstanceAs (Decidable (_ ∨ ∃ lines ∈ entryLines store filename, _))

section Removing

variable {surroundings : Surroundings} {store after : Store}
variable {filename : WxString} {bp : Ref} {refs : List Ref}

theorem Lasts.of_sameLists
    {removed : List Int}
    (same : SameLists store after) :
    Lasts after filename removed ↔ Lasts store filename removed := by
  unfold Lasts OnlyFile entryLines drawer
  rw [same.mapFilebreakpoints, same.breakpoint]

/-- The first line is taken out with a further file or a line to spare. -/
theorem lasts_cons (rest : List Int) :
    Lasts store filename ((store.breakpoint bp).line :: rest) ↔
      Findable (store.unlist filename bp) filename ∧
        (rest = [] ∨ Lasts (store.unlist filename bp) filename rest) := by
  by_cases only : OnlyFile store filename
  · have onlyAfter : OnlyFile (store.unlist filename bp) filename :=
      onlyFile_unlist.mpr only
    exact iff_of_true (Or.inl only)
      ⟨findable_iff.mpr (Or.inl onlyAfter), Or.inr (Or.inl onlyAfter)⟩
  have others : ¬ OnlyFile (store.unlist filename bp) filename :=
    fun onlyAfter => only (onlyFile_unlist.mp onlyAfter)
  rw [findable_iff, Lasts, Lasts, entryLines_unlist]
  simp only [only, others, false_or]
  cases entryLines store filename with
  | none => simp [takeLine]
  | some lines =>
      simp only [Option.mem_some_iff, exists_eq_left', List.diff_cons]
      rw [takeLine]
      split
      · next exhausted =>
          -- The entry goes with its last line, and the others stay.
          rcases exhausted with ⟨member, empty⟩
          have nonempty : lines ≠ [] := List.ne_nil_of_mem member
          simp [empty, nonempty]
      · next left =>
          simp only [Option.isSome_some, true_and, Option.mem_some_iff,
            exists_eq_left']
          have emptied :
              lines.erase (store.breakpoint bp).line = [] ↔ lines = [] := by
            constructor
            · intro empty
              have absent : (store.breakpoint bp).line ∉ lines :=
                fun member => left ⟨member, empty⟩
              rwa [List.erase_of_not_mem absent] at empty
            · rintro rfl
              rfl
          rw [emptied]
          constructor
          · exact fun last => Or.inr last
          · rintro (rfl | last)
            · rw [List.diff_nil, ne_eq, emptied]
              exact em _
            · exact last

/-- Deleting one breakpoint needs, at a stop, that the map lasts. -/
theorem delete_ok_iff
    (listed : bp ∈ store.breakpoints)
    (code : (store.breakpoint bp).type = .bptCode) :
    (∃ outcome, store.deleteBreakpoint surroundings bp = .ok outcome) ↔
      (surroundings.AtStop →
        Lasts store (file store bp) [(store.breakpoint bp).line]) := by
  rw [deleteBreakpoint_code listed code, announce_ok_iff, lasts_cons]
  simp

/--
Deleting breakpoints of one file in turn does not fault exactly when, at a
stop, the map lasts through their lines.
-/
theorem deleteEach_ok_iff
    (listed : refs.Subperm store.breakpoints)
    (deletable :
      ∀ bp ∈ refs,
        (store.breakpoint bp).type = .bptCode ∧ file store bp = filename) :
    (∃ outcome,
      forEach (fun bp store => store.deleteBreakpoint surroundings bp) refs
        store = .ok outcome) ↔
      (surroundings.AtStop →
        refs = [] ∨
          Lasts store filename
            (refs.map fun ref => (store.breakpoint ref).line)) := by
  induction refs generalizing store with
  | nil => exact iff_of_true ⟨_, rfl⟩ fun _ => Or.inl rfl
  | cons bp refs ih =>
      have listedFirst : bp ∈ store.breakpoints :=
        listed.subset List.mem_cons_self
      rcases deletable bp List.mem_cons_self with ⟨code, here⟩
      have deletes :
          store.deleteBreakpoint surroundings bp =
            (store.unlist filename bp).updateDAPSetBreakpointsByFileName
              surroundings filename := by
        rw [deleteBreakpoint_code listedFirst code, here]
      have rest :
          ∀ next : Store, SameLists (store.unlist filename bp) next →
            ((∃ outcome,
              forEach
                (fun bp store => store.deleteBreakpoint surroundings bp) refs
                next = .ok outcome) ↔
              (surroundings.AtStop →
                refs = [] ∨
                  Lasts (store.unlist filename bp) filename
                    (refs.map fun ref => (store.breakpoint ref).line))) := by
        intro next same
        have sameObjects : next.breakpoint = store.breakpoint :=
          same.breakpoint
        have listedRest : refs.Subperm next.breakpoints := by
          rw [same.breakpoints, breakpoints_unlist listedFirst]
          simpa using listed.erase bp
        rw [ih listedRest, Lasts.of_sameLists same, sameObjects]
        intro other member
        rw [file, sameObjects]
        exact deletable other (List.mem_cons_of_mem bp member)
      rw [List.map_cons, lasts_cons, List.map_eq_nil_iff]
      simp only [reduceCtorEq, false_or]
      constructor
      · rintro ⟨outcome, looped⟩ atStop
        rcases forEach_cons_ok looped with ⟨first, later, acted, loopedRest, -⟩
        rw [deletes] at acted
        have same := announce_leaves acted
        exact ⟨announce_ok_iff.mp ⟨first, acted⟩ atStop,
          (rest first.store same).mp ⟨later, loopedRest⟩ atStop⟩
      · intro lasts
        obtain ⟨first, acted⟩ :=
          announce_ok_iff.mpr fun atStop => (lasts atStop).1
        have same := announce_leaves acted
        obtain ⟨later, loopedRest⟩ :=
          (rest first.store same).mpr fun atStop => (lasts atStop).2
        rw [← deletes] at acted
        exact ⟨_, forEach_cons_of_ok acted loopedRest⟩

end Removing

end DebuggerDap.Breakpoints.Announcing
