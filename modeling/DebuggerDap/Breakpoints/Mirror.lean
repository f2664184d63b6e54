import DebuggerDap.Breakpoints.Grouping
import DebuggerDap.DapClient.Sessions
import DebuggerDap.Library.Run

/-!
# The adapter mirrors the breakpoint store

While the debugger is running and stopped, every operation that changes the
enabled breakpoints of a file has to announce that file with the lines of the
breakpoints that are enabled afterwards, and must not dereference the end of
the map.

This holds along a run exactly when no operation takes the last breakpoint of
a file while another file has one, and when the breakpoint an operation means
is the one its searches find.
-/

namespace DebuggerDap.Breakpoints.Mirror

open DebuggerDap.Text.Strings
open DebuggerDap.Protocol.Messages
open DebuggerDap.Library.KeyIndex
open DebuggerDap.Library.Run
open DebuggerDap.DapClient.State
open DebuggerDap.DapClient.Sessions
open DebuggerDap.Breakpoints.Store
open DebuggerDap.Breakpoints.Grouping

/-! ## The property of a step -/

/--
A change of the enabled breakpoints of a file is announced once, with exactly
the lines of those enabled afterwards, in any order.
-/
def Told
    (surroundings : Surroundings)
    (before : Store)
    (outcome : Outcome) : Prop :=
  ∀ filename, enabledIn before filename ≠ enabledIn outcome.store filename →
    ∃ lines,
      outcome.sent = [⟨filename, surroundings.dapPath filename, lines⟩] ∧
        lines.Perm (enabledLines outcome.store filename)

/-- The operation does not fault, and the adapter is told what it changes. -/
def Mirrored (store : Store) (call : Call) : Prop :=
  ∃ outcome, store.perform call = .ok outcome ∧
    Told call.surroundings store outcome

/-- Moreover the map still groups the vector. -/
def MirroredAndGrouped (store : Store) (call : Call) : Prop :=
  ∃ outcome, store.perform call = .ok outcome ∧
    Told call.surroundings store outcome ∧ Grouped outcome.store

theorem MirroredAndGrouped.mirrored
    {store : Store}
    {call : Call}
    (kept : MirroredAndGrouped store call) :
    Mirrored store call := by
  rcases kept with ⟨outcome, performed, told, -⟩
  exact ⟨outcome, performed, told⟩

/-- Performed by a connected client, an announcement is one request. -/
theorem sentRequests_announcement
    {κ : Type*}
    {client : Client κ}
    (toolkit : Toolkit)
    (connected : client.transport.isSome = true)
    (announcement : Announcement) :
    sentRequests (client.perform toolkit announcement.call).2 =
      [⟨client.requestSequence + 1,
        .setBreakpoints
          ⟨toolkit.getFullName announcement.file, announcement.file, 0⟩
          announcement.lines⟩] := by
  let queued :=
    { client with
      sourceBreakpointsQueue :=
        client.sourceBreakpointsQueue ++ [announcement.file] }
  have connectedToo : queued.transport.isSome = true := connected
  have sent := sentRequests_sent queued
  show sentRequests (queued.requestTwice toolkit _).2 = _
  rw [requestTwice_connected connectedToo, sent]

/-- What a connected client sends when a file changes. -/
theorem Told.request
    {κ : Type*}
    {client : Client κ}
    {surroundings : Surroundings}
    {before : Store}
    {outcome : Outcome}
    {filename : WxString}
    (told : Told surroundings before outcome)
    (changed :
      enabledIn before filename ≠ enabledIn outcome.store filename)
    (toolkit : Toolkit)
    (connected : client.transport.isSome = true) :
    ∃ announcement lines,
      outcome.sent = [announcement] ∧
        lines.Perm (enabledLines outcome.store filename) ∧
        (sentRequests (client.perform toolkit announcement.call).2).map
            Request.body =
          [.setBreakpoints
            ⟨toolkit.getFullName (surroundings.dapPath filename),
              surroundings.dapPath filename, 0⟩ lines] := by
  rcases told filename changed with ⟨lines, sent, exactLines⟩
  refine ⟨_, lines, sent, exactLines, ?_⟩
  rw [sentRequests_announcement toolkit connected]
  rfl

/-! ## The condition on a step -/

/-- The breakpoint `UpdateOrAddBreakpoint` finds for `EnableBreakpoint`. -/
def meant (surroundings : Surroundings) (bp : Ref) (store : Store) :
    Option Ref :=
  let found := store.breakpoint bp
  let filename := store.filenameBRK found.getLocation
  (store.findID found.id).or
    (store.findBreakpoint (surroundings.findProjectForFile filename) filename
      found.line)

/--
A new breakpoint is on a free line of its file.  A deleted breakpoint is the
first on its line, and the last of its file only if it is the last of all.  A
breakpoint that is switched is found again under its own file.
-/
def Admissible (store : Store) (call : Call) : Prop :=
  match call.operation with
  | .addBreakpoint filename line =>
      let filename := store.filenameBRK filename
      let project := call.surroundings.findProjectForFile filename
      store.findBreakpoint project filename line = none →
        LineFree store filename line
  | .deleteBreakpoint bp =>
      bp ∈ store.breakpoints → (store.breakpoint bp).type = .bptCode →
        (fileBreakpoints store (file store bp) = [bp] →
          store.breakpoints = [bp]) ∧ FirstOnLine store bp
  | .enableBreakpoint bp bEnable =>
      bp ∈ store.breakpoints → (store.breakpoint bp).enabled ≠ bEnable →
        store.filenameBRK (store.breakpoint bp).getLocation =
          file store bp ∧ meant call.surroundings bp store = some bp

instance (store : Store) (call : Call) : Decidable (Admissible store call) :=
  match call with
  | ⟨_, .addBreakpoint _ _⟩ => inferInstanceAs (Decidable (_ → _))
  | ⟨_, .deleteBreakpoint _⟩ => inferInstanceAs (Decidable (_ → _ → _ ∧ _))
  | ⟨_, .enableBreakpoint _ _⟩ => inferInstanceAs (Decidable (_ → _ → _ ∧ _))

/-! ## Announcing tells the adapter -/

section Telling

variable {surroundings : Surroundings} {before after : Store}
variable {filename : WxString}

theorem told_refl (store : Store) : Told surroundings store ⟨store, []⟩ :=
  fun _ changed => absurd rfl changed

/--
A store that is grouped again and differs in one file is mirrored by
announcing that file.
-/
theorem told_of_announce
    (regrouped : Grouped after)
    (atStop : surroundings.AtStop)
    (present :
      fileBreakpoints after filename ≠ [] ∨ after.breakpoints = [])
    (elsewhere :
      ∀ other, other ≠ filename →
        enabledIn after other = enabledIn before other) :
    ∃ outcome,
      after.updateDAPSetBreakpointsByFileName surroundings filename =
          .ok outcome ∧
        Told surroundings before outcome ∧
        outcome.store = after.remember surroundings filename := by
  refine ⟨_, regrouped.announce atStop present, ?_, rfl⟩
  intro changedFile changed
  have same : changedFile = filename := by
    by_contra different
    exact changed (elsewhere changedFile different).symm
  subst same
  exact ⟨_, rfl, regrouped.vlines_perm changedFile⟩

theorem grouped_remember {store : Store} :
    Grouped (store.remember surroundings filename) ↔ Grouped store :=
  Iff.rfl

end Telling

/-! ## Switching -/

section Switching

variable {surroundings : Surroundings} {store : Store} {bp : Ref}
variable {bEnable : Bool}

/-- Switching a listed breakpoint under its own file is mirrored. -/
theorem switch_told
    (grouped : Grouped store)
    (atStop : surroundings.AtStop)
    (listed : bp ∈ store.breakpoints)
    (bEnable : Bool) :
    ∃ outcome,
      store.switch surroundings (file store bp) bp bEnable = .ok outcome ∧
        Told surroundings store outcome ∧ Grouped outcome.store ∧
        outcome.store.breakpoints = store.breakpoints ∧
        (outcome.store.breakpoint bp).enabled = bEnable := by
  rw [Store.switch]
  split
  · let switched := store.modify bp (.setIsEnabled bEnable)
    have regrouped : Grouped switched :=
      (grouped_modify (filename_setIsEnabled bEnable)).mpr grouped
    have present : fileBreakpoints switched (file store bp) ≠ [] := by
      rw [fileBreakpoints_modify (filename_setIsEnabled bEnable)]
      exact List.ne_nil_of_mem (mem_fileBreakpoints.mpr ⟨listed, rfl⟩)
    rcases told_of_announce regrouped atStop (Or.inl present)
        fun other different =>
          enabledIn_modify_of_ne (filename_setIsEnabled bEnable)
            different.symm with
      ⟨outcome, announced, told, same⟩
    refine ⟨outcome, announced, told, ?_⟩
    rw [same]
    refine ⟨regrouped, rfl, ?_⟩
    show (switched.breakpoint bp).enabled = bEnable
    rw [Store.breakpoint_modify_self]
    rfl
  · next unchanged =>
      exact ⟨⟨store, []⟩, rfl, told_refl store, grouped, rfl,
        not_not.mp unchanged⟩

/-- What switching leaves behind, if announcing does not fault. -/
theorem switch_ok
    {filename : WxString}
    {outcome : Outcome}
    (atStop : surroundings.AtStop)
    (switched :
      store.switch surroundings filename bp bEnable = .ok outcome) :
    outcome = ⟨store, []⟩ ∨
      (store.breakpoint bp).enabled ≠ bEnable ∧
        outcome =
          ⟨(store.modify bp (.setIsEnabled bEnable)).remember surroundings
              filename,
            [⟨filename, surroundings.dapPath filename,
              (store.modify bp (.setIsEnabled bEnable)).vlines
                ((drawer store filename).getD [])⟩]⟩ := by
  rw [Store.switch] at switched
  split at switched
  · next changes => exact Or.inr ⟨changes, announce_ok atStop switched⟩
  · cases switched
    exact Or.inl rfl

/-- Switching a listed breakpoint changes the enabled ones of its file. -/
theorem enabledIn_ne_of_switched
    {after : Store}
    (listed : bp ∈ store.breakpoints)
    (changes : (store.breakpoint bp).enabled ≠ bEnable)
    (listedAfter : bp ∈ after.breakpoints)
    (sameFile : file after bp = file store bp) :
    enabledIn store (file store bp) ≠
      enabledIn (after.modify bp (.setIsEnabled bEnable))
        (file store bp) := by
  intro same
  have before :
      bp ∈ enabledIn store (file store bp) ↔
        (store.breakpoint bp).enabled = true := by
    simp [mem_enabledIn, listed]
  have switched :
      bp ∈ enabledIn (after.modify bp (.setIsEnabled bEnable))
          (file store bp) ↔
        bEnable = true := by
    rw [mem_enabledIn, file_modify (filename_setIsEnabled bEnable),
      Store.breakpoint_modify_self]
    simp [listedAfter, sameFile, DapBreakpoint.setIsEnabled]
  rw [same, switched] at before
  exact changes (Bool.eq_iff_iff.mpr before).symm

end Switching

/-! ## Adding -/

section Adding

variable {surroundings : Surroundings} {store : Store}
variable {project : Option Project} {filename : WxString} {line id : Int}
variable {bp : Ref}

/-- A new breakpoint on a free line is mirrored. -/
theorem addNew_told
    (grouped : Grouped store)
    (atStop : surroundings.AtStop)
    (free : LineFree store filename line) :
    ∃ outcome,
      store.addNew surroundings project filename line id =
          .ok (store.heap.size, outcome) ∧
        Told surroundings store outcome ∧ Grouped outcome.store := by
  let listed := store.listNew project filename line id
  have regrouped : Grouped listed := grouped.listNew free
  have present : fileBreakpoints listed filename ≠ [] := by
    rw [fileBreakpoints_listNew]
    exact List.append_ne_nil_of_right_ne_nil _ (List.cons_ne_nil _ _)
  rcases told_of_announce regrouped atStop (Or.inl present)
      fun other different => enabledIn_listNew_of_ne different with
    ⟨outcome, announced, told, same⟩
  refine ⟨outcome, ?_, told, ?_⟩
  · rw [Store.addNew, announced]
    rfl
  · rw [same]
    exact regrouped

/-- What a new breakpoint leaves behind, if announcing it does not fault. -/
theorem addNew_ok
    {made : Ref}
    {outcome : Outcome}
    (atStop : surroundings.AtStop)
    (added :
      store.addNew surroundings project filename line id =
        .ok (made, outcome)) :
    outcome.store =
        (store.listNew project filename line id).remember surroundings
          filename ∧
      ∃ lines,
        outcome.sent =
          [⟨filename, surroundings.dapPath filename, lines⟩] := by
  rw [Store.addNew] at added
  rcases exists_ok_of_bind added with ⟨after, announced, same⟩
  cases same
  rw [announce_ok atStop announced]
  exact ⟨rfl, _, rfl⟩

theorem addBreakpoint_found
    {filename : WxString}
    (found :
      store.findBreakpoint
          (surroundings.findProjectForFile (store.filenameBRK filename))
          (store.filenameBRK filename) line = some bp) :
    store.addBreakpoint surroundings filename line =
      store.switch surroundings (store.filenameBRK filename) bp true >>=
        fun outcome => .ok (bp, outcome) := by
  rw [Store.addBreakpoint, Store.updateOrAddBreakpoint]
  simp only [Store.findID, ne_eq, not_true_eq_false, if_false, found]

theorem addBreakpoint_new
    {filename : WxString}
    (missing :
      store.findBreakpoint
          (surroundings.findProjectForFile (store.filenameBRK filename))
          (store.filenameBRK filename) line = none) :
    store.addBreakpoint surroundings filename line =
      store.addNew surroundings
        (surroundings.findProjectForFile (store.filenameBRK filename))
        (store.filenameBRK filename) line (-1) := by
  rw [Store.addBreakpoint, Store.updateOrAddBreakpoint]
  simp only [Store.findID, ne_eq, not_true_eq_false, if_false, missing]

theorem addBreakpoint_mirrored_iff
    (grouped : Grouped store)
    (atStop : surroundings.AtStop)
    (filename : WxString)
    (line : Int) :
    MirroredAndGrouped store ⟨surroundings, .addBreakpoint filename line⟩ ↔
      Admissible store ⟨surroundings, .addBreakpoint filename line⟩ := by
  simp only [MirroredAndGrouped, Store.perform]
  cases search :
      store.findBreakpoint
        (surroundings.findProjectForFile (store.filenameBRK filename))
        (store.filenameBRK filename) line with
  | some bp =>
      rw [addBreakpoint_found search]
      rcases findBreakpoint_spec search with ⟨listed, here, -⟩
      rcases switch_told grouped atStop listed true with
        ⟨outcome, switched, told, regrouped, -⟩
      rw [here] at switched
      rw [switched]
      constructor
      · intro _ missing
        rw [search] at missing
        cases missing
      · intro _
        exact ⟨outcome, rfl, told, regrouped⟩
  | none =>
      rw [addBreakpoint_new search]
      constructor
      · rintro ⟨outcome, performed, -, regrouped⟩ _
        by_contra taken
        rcases exists_ok_of_bind performed with ⟨result, added, same⟩
        cases same
        rw [(addNew_ok atStop added).1] at regrouped
        exact grouped.not_listNew taken regrouped
      · intro admissible
        rcases addNew_told grouped atStop (admissible search) with
          ⟨outcome, added, told, regrouped⟩
        rw [added]
        exact ⟨outcome, rfl, told, regrouped⟩

end Adding

/-! ## Deleting -/

section Deleting

variable {surroundings : Surroundings} {store : Store} {bp : Ref}

/-- Taken out of the vector, a breakpoint is taken out of its file. -/
theorem fileBreakpoints_unlist
    (listed : bp ∈ store.breakpoints) :
    fileBreakpoints (store.unlist (file store bp) bp) (file store bp) =
      (fileBreakpoints store (file store bp)).erase bp := by
  rw [fileBreakpoints, breakpoints_unlist listed]
  exact having_erase bp (file store bp)

/--
Deleting the last breakpoint of a file while another file has one
dereferences the end of the map.
-/
theorem deleteBreakpoint_fault
    (grouped : Grouped store)
    (atStop : surroundings.AtStop)
    (listed : bp ∈ store.breakpoints)
    (code : (store.breakpoint bp).type = .bptCode)
    (first : FirstOnLine store bp)
    (last : fileBreakpoints store (file store bp) = [bp])
    (others : store.breakpoints ≠ [bp]) :
    store.deleteBreakpoint surroundings bp = .error .endDereferenced := by
  have absent :
      fileBreakpoints (store.unlist (file store bp) bp) (file store bp) =
        [] := by
    rw [fileBreakpoints_unlist listed, last, List.erase_cons_head]
  have left :
      (store.unlist (file store bp) bp).breakpoints ≠ [] := by
    rw [breakpoints_unlist listed, ne_eq, List.erase_eq_nil_iff]
    rintro (none | single)
    · rw [none] at listed
      cases listed
    · exact others single
  rw [deleteBreakpoint_code listed code, announce_eq atStop,
    (grouped.unlist listed first).lookUpLines_fault absent left]
  rfl

theorem deleteBreakpoint_mirrored_iff
    (grouped : Grouped store)
    (atStop : surroundings.AtStop)
    (bp : Ref) :
    MirroredAndGrouped store ⟨surroundings, .deleteBreakpoint bp⟩ ↔
      Admissible store ⟨surroundings, .deleteBreakpoint bp⟩ := by
  simp only [MirroredAndGrouped, Store.perform]
  by_cases deletes :
      bp ∈ store.breakpoints ∧ (store.breakpoint bp).type = .bptCode
  · rcases deletes with ⟨listed, code⟩
    constructor
    · rintro ⟨outcome, performed, -, regrouped⟩ _ _
      have first : FirstOnLine store bp := by
        by_contra later
        rw [deleteBreakpoint_code listed code] at performed
        rw [announce_ok atStop performed] at regrouped
        exact grouped.not_unlist listed later regrouped
      refine ⟨fun last => ?_, first⟩
      by_contra others
      have fault :=
        deleteBreakpoint_fault grouped atStop listed code first last others
      rw [fault] at performed
      cases performed
    · intro admissible
      rcases admissible listed code with ⟨alone, first⟩
      have regrouped := grouped.unlist listed first
      have present :
          fileBreakpoints (store.unlist (file store bp) bp)
              (file store bp) ≠ [] ∨
            (store.unlist (file store bp) bp).breakpoints = [] := by
        rw [fileBreakpoints_unlist listed, breakpoints_unlist listed,
          ne_eq, List.erase_eq_nil_iff]
        by_cases last : fileBreakpoints store (file store bp) = [bp]
        · exact Or.inr (by rw [alone last, List.erase_cons_head])
        · left
          rintro (none | single)
          · have member := mem_fileBreakpoints.mpr ⟨listed, rfl⟩
            rw [none] at member
            cases member
          · exact last single
      rcases told_of_announce regrouped atStop present
          fun other different => enabledIn_unlist_of_ne listed different with
        ⟨outcome, announced, told, same⟩
      refine ⟨outcome, ?_, told, ?_⟩
      · rw [deleteBreakpoint_code listed code, announced]
      · rw [same]
        exact regrouped
  · rw [deleteBreakpoint_none deletes]
    constructor
    · intro _ listed code
      exact absurd ⟨listed, code⟩ deletes
    · intro _
      exact ⟨_, rfl, told_refl store, grouped⟩

end Deleting

/-! ## Enabling and disabling -/

section Enabling

variable {surroundings : Surroundings} {store : Store} {bp target : Ref}
variable {bEnable : Bool}

theorem enableBreakpoint_none
    (kept :
      ¬ (bp ∈ store.breakpoints ∧
        (store.breakpoint bp).enabled ≠ bEnable)) :
    store.enableBreakpoint surroundings bp bEnable = .ok ⟨store, []⟩ := by
  rw [Store.enableBreakpoint]
  split
  · next listed =>
      have already : (store.breakpoint bp).enabled = bEnable := by
        by_contra different
        exact kept ⟨listed, different⟩
      rw [if_pos already]
  · rfl

/-- `UpdateOrAddBreakpoint` as `EnableBreakpoint` calls it. -/
def updateFor
    (surroundings : Surroundings)
    (bp : Ref)
    (bEnable : Bool)
    (store : Store) : Except Fault (Ref × Outcome) :=
  let found := store.breakpoint bp
  store.updateOrAddBreakpoint surroundings found.getLocation found.line
    bEnable found.id

/-- The last steps of `EnableBreakpoint`. -/
def setListed
    (surroundings : Surroundings)
    (bp : Ref)
    (bEnable : Bool)
    (store : Store)
    (updated : Ref × Outcome) : Except Fault Outcome :=
  if store.breakpoints.length < updated.2.store.breakpoints.length ∧
      surroundings.reallocates then
    .error .invalidIterator
  else
    .ok
      { updated.2 with
        store := updated.2.store.modify bp (.setIsEnabled bEnable) }

theorem enableBreakpoint_changes
    (atStop : surroundings.AtStop)
    (listed : bp ∈ store.breakpoints)
    (changes : (store.breakpoint bp).enabled ≠ bEnable) :
    store.enableBreakpoint surroundings bp bEnable =
      updateFor surroundings bp bEnable store >>=
        setListed surroundings bp bEnable store := by
  rw [Store.enableBreakpoint, if_pos listed, if_neg changes, atStop.1]
  rfl

/-- A breakpoint that is found is switched under the file it is found for. -/
theorem updateFor_meant
    (listed : bp ∈ store.breakpoints)
    (found : meant surroundings bp store = some target) :
    updateFor surroundings bp bEnable store =
      store.switch surroundings
          (store.filenameBRK (store.breakpoint bp).getLocation) target
          bEnable >>=
        fun outcome => .ok (target, outcome) := by
  rw [updateFor, Store.updateOrAddBreakpoint]
  cases byID : store.findID (store.breakpoint bp).id with
  | some hit =>
      rw [meant, byID, Option.some_or] at found
      cases found
      rfl
  | none =>
      rw [meant, byID, Option.none_or] at found
      have noID : (store.breakpoint bp).id = -1 := by
        by_contra hasID
        rw [Store.findID, if_pos hasID, List.find?_eq_none] at byID
        exact byID bp listed (decide_eq_true rfl)
      simp only [found, noID, ne_eq, not_true_eq_false, if_false]

/-- A breakpoint that is not found is made once more. -/
theorem updateFor_missed
    (missed : meant surroundings bp store = none) :
    updateFor surroundings bp bEnable store =
      store.addNew surroundings
        (surroundings.findProjectForFile
          (store.filenameBRK (store.breakpoint bp).getLocation))
        (store.filenameBRK (store.breakpoint bp).getLocation)
        (store.breakpoint bp).line (store.breakpoint bp).id := by
  rw [meant, Option.or_eq_none_iff] at missed
  rw [updateFor, Store.updateOrAddBreakpoint]
  simp only [missed.1, missed.2]

/-- A breakpoint that is found under its own file is switched once. -/
theorem enableBreakpoint_told
    (grouped : Grouped store)
    (atStop : surroundings.AtStop)
    (listed : bp ∈ store.breakpoints)
    (changes : (store.breakpoint bp).enabled ≠ bEnable)
    (here :
      store.filenameBRK (store.breakpoint bp).getLocation = file store bp)
    (found : meant surroundings bp store = some bp) :
    ∃ outcome,
      store.enableBreakpoint surroundings bp bEnable = .ok outcome ∧
        Told surroundings store outcome ∧ Grouped outcome.store := by
  rcases switch_told grouped atStop listed bEnable with
    ⟨outcome, switched, told, regrouped, sameList, enabled⟩
  have settled :
      outcome.store.modify bp (.setIsEnabled bEnable) = outcome.store := by
    apply Store.modify_of_fixed
    rw [DapBreakpoint.setIsEnabled, ← enabled]
  refine ⟨outcome, ?_, told, regrouped⟩
  rw [enableBreakpoint_changes atStop listed changes,
    updateFor_meant listed found, here, switched]
  show setListed surroundings bp bEnable store (bp, outcome) = .ok outcome
  rw [setListed, if_neg (by simp [sameList]), settled]

/-- What `EnableBreakpoint` did before its last steps, if it did not fault. -/
theorem enableBreakpoint_ok
    {outcome : Outcome}
    (atStop : surroundings.AtStop)
    (listed : bp ∈ store.breakpoints)
    (changes : (store.breakpoint bp).enabled ≠ bEnable)
    (enabled :
      store.enableBreakpoint surroundings bp bEnable = .ok outcome) :
    ∃ updated, updateFor surroundings bp bEnable store = .ok updated ∧
      outcome =
        ⟨updated.2.store.modify bp (.setIsEnabled bEnable),
          updated.2.sent⟩ := by
  rw [enableBreakpoint_changes atStop listed changes] at enabled
  rcases exists_ok_of_bind enabled with ⟨updated, update, last⟩
  rw [setListed] at last
  split at last
  · cases last
  · cases last
    exact ⟨updated, update, rfl⟩

/--
If a breakpoint is made once more under its own file, the map misses the new
one.
-/
theorem missed_not_grouped
    {project : Option Project}
    {id : Int}
    (grouped : Grouped store)
    (listed : bp ∈ store.breakpoints) :
    ¬ Grouped
      (((store.listNew project (file store bp) (store.breakpoint bp).line
            id).remember surroundings (file store bp)).modify bp
        (.setIsEnabled bEnable)) := by
  rw [grouped_modify (filename_setIsEnabled bEnable), grouped_remember]
  exact grouped.not_listNew fun free => free bp listed rfl rfl

/--
If another breakpoint of the file is switched, the lines that are announced
are those from before the breakpoint itself is switched.
-/
theorem lines_not_perm
    (grouped : Grouped store)
    (listed : bp ∈ store.breakpoints)
    (changes : (store.breakpoint bp).enabled ≠ bEnable)
    (different : bp ≠ target) :
    ¬ ((store.modify target (.setIsEnabled bEnable)).vlines
        ((drawer store (file store bp)).getD [])).Perm
      (enabledLines
        (((store.modify target (.setIsEnabled bEnable)).remember surroundings
            (file store bp)).modify bp (.setIsEnabled bEnable))
        (file store bp)) := by
  intro perm
  let first := store.modify target (.setIsEnabled bEnable)
  let second := first.modify bp (.setIsEnabled bEnable)
  let members := fileBreakpoints store (file store bp)
  have regrouped : Grouped first :=
    (grouped_modify (filename_setIsEnabled bEnable)).mpr grouped
  have firstMembers : fileBreakpoints first (file store bp) = members :=
    fileBreakpoints_modify (filename_setIsEnabled bEnable) _
  have secondMembers : fileBreakpoints second (file store bp) = members :=
    (fileBreakpoints_modify (filename_setIsEnabled bEnable) _).trans
      firstMembers
  have lengths :
      (members.filter fun ref => (first.breakpoint ref).enabled).length =
        (members.filter fun ref => (second.breakpoint ref).enabled).length := by
    have length :=
      ((regrouped.vlines_perm (file store bp)).symm.trans perm).length_eq
    change (first.vlines (fileBreakpoints first (file store bp))).length =
      (second.vlines (fileBreakpoints second (file store bp))).length at length
    rw [firstMembers, secondMembers, Store.vlines, Store.vlines,
      List.length_map, List.length_map] at length
    exact length
  have member : bp ∈ members := mem_fileBreakpoints.mpr ⟨listed, rfl⟩
  have others :
      ∀ ref, ref ≠ bp → second.breakpoint ref = first.breakpoint ref :=
    fun ref elsewhere => Store.breakpoint_modify_of_ne _ first elsewhere
  have before : (first.breakpoint bp).enabled = !bEnable := by
    rw [Store.breakpoint_modify_of_ne _ store different]
    exact Bool.eq_not.mpr changes
  have after : (second.breakpoint bp).enabled = bEnable := by
    rw [Store.breakpoint_modify_self]
    rfl
  cases bEnable with
  | true =>
      refine absurd lengths (Nat.ne_of_lt ?_)
      refine length_filter_lt (fun ref _ enabled => ?_) member after before
      by_cases same : ref = bp
      · rw [same, after]
      · rwa [others ref same]
  | false =>
      refine absurd lengths (Nat.ne_of_gt ?_)
      refine length_filter_lt (fun ref _ enabled => ?_) member before after
      by_cases same : ref = bp
      · rw [same, before]
        rfl
      · rwa [← others ref same]

/-- Where enabling is mirrored, the breakpoint is found under its own file. -/
theorem meant_of_told
    {outcome : Outcome}
    (grouped : Grouped store)
    (atStop : surroundings.AtStop)
    (listed : bp ∈ store.breakpoints)
    (changes : (store.breakpoint bp).enabled ≠ bEnable)
    (performed :
      store.enableBreakpoint surroundings bp bEnable = .ok outcome)
    (told : Told surroundings store outcome)
    (regrouped : Grouped outcome.store) :
    store.filenameBRK (store.breakpoint bp).getLocation = file store bp ∧
      meant surroundings bp store = some bp := by
  rcases enableBreakpoint_ok atStop listed changes performed with
    ⟨⟨returned, after⟩, update, rfl⟩
  cases search : meant surroundings bp store with
  | none =>
      -- The breakpoint would have been made once more: that splits the
      -- containers, if it happens under its own file.
      rw [updateFor_missed search] at update
      rcases addNew_ok atStop update with ⟨store', lines, sent⟩
      have listedAfter : bp ∈ after.store.breakpoints := by
        rw [store']
        exact List.mem_append_left _ listed
      have sameFile : file after.store bp = file store bp := by
        rw [store']
        exact file_listNew_old bp listed
      rcases told (file store bp)
          (enabledIn_ne_of_switched listed changes listedAfter sameFile) with
        ⟨_, sentHere, -⟩
      have here :
          store.filenameBRK (store.breakpoint bp).getLocation =
            file store bp := by
        rw [sent] at sentHere
        simp only [List.cons.injEq, Announcement.mk.injEq] at sentHere
        exact sentHere.1.1
      rw [store', here] at regrouped
      exact absurd regrouped (missed_not_grouped grouped listed)
  | some target =>
      rw [updateFor_meant listed search] at update
      rcases exists_ok_of_bind update with ⟨result, switched, same⟩
      obtain rfl : result = after := by
        cases same
        rfl
      rcases switch_ok atStop switched with rfl | ⟨-, rfl⟩
      · -- The target had the flag already, so nothing was announced.
        rcases told (file store bp)
            (enabledIn_ne_of_switched listed changes listed rfl) with
          ⟨_, none, -⟩
        cases none
      · -- The announcement was made before `bp` itself is switched.
        have sameFile :
            file (store.modify target (.setIsEnabled bEnable)) bp =
              file store bp := by
          rw [file_modify (filename_setIsEnabled bEnable)]
        rcases told (file store bp)
            (enabledIn_ne_of_switched listed changes listed sameFile) with
          ⟨lines, sent, perm⟩
        simp only [List.cons.injEq, Announcement.mk.injEq] at sent
        rcases sent with ⟨⟨here, -, rfl⟩, -⟩
        refine ⟨here, congrArg some ?_⟩
        by_contra other
        rw [here] at perm
        exact lines_not_perm grouped listed changes (Ne.symm other) perm

theorem enableBreakpoint_mirrored_iff
    (grouped : Grouped store)
    (atStop : surroundings.AtStop)
    (bp : Ref)
    (bEnable : Bool) :
    MirroredAndGrouped store ⟨surroundings, .enableBreakpoint bp bEnable⟩ ↔
      Admissible store ⟨surroundings, .enableBreakpoint bp bEnable⟩ := by
  simp only [MirroredAndGrouped, Store.perform]
  by_cases switches :
      bp ∈ store.breakpoints ∧ (store.breakpoint bp).enabled ≠ bEnable
  · rcases switches with ⟨listed, changes⟩
    constructor
    · rintro ⟨outcome, performed, told, regrouped⟩ _ _
      exact meant_of_told grouped atStop listed changes performed told
        regrouped
    · intro admissible
      rcases admissible listed changes with ⟨here, found⟩
      exact enableBreakpoint_told grouped atStop listed changes here found
  · rw [enableBreakpoint_none switches]
    constructor
    · intro _ listed changes
      exact absurd ⟨listed, changes⟩ switches
    · intro _
      exact ⟨_, rfl, told_refl store, grouped⟩

end Enabling

/-! ## Runs -/

/-- In a grouped store a step is mirrored exactly when it is admissible. -/
theorem mirroredAndGrouped_iff
    {store : Store}
    {call : Call}
    (grouped : Grouped store)
    (atStop : call.surroundings.AtStop) :
    MirroredAndGrouped store call ↔ Admissible store call := by
  rcases call with ⟨surroundings, operation⟩
  cases operation with
  | addBreakpoint filename line =>
      exact addBreakpoint_mirrored_iff grouped atStop filename line
  | deleteBreakpoint bp =>
      exact deleteBreakpoint_mirrored_iff grouped atStop bp
  | enableBreakpoint bp bEnable =>
      exact enableBreakpoint_mirrored_iff grouped atStop bp bEnable

theorem MirroredAndGrouped.next
    {store next : Store}
    {call : Call}
    (kept : MirroredAndGrouped store call)
    (taken : store.step call = some next) :
    Grouped next := by
  rcases kept with ⟨outcome, performed, -, regrouped⟩
  rw [Store.step, performed] at taken
  cases taken
  exact regrouped

/--
From a grouped store, every step of a run at a stop is mirrored and keeps the
store grouped if and only if every step is admissible.
-/
theorem along_mirroredAndGrouped_iff
    {store : Store}
    {calls : List Call}
    (grouped : Grouped store)
    (atStop : ∀ call ∈ calls, call.surroundings.AtStop) :
    Along Store.step MirroredAndGrouped store calls ↔
      Along Store.step Admissible store calls := by
  have agree :
      ∀ (store : Store) (call : Call),
        Grouped store → call.surroundings.AtStop →
          (MirroredAndGrouped store call ↔ Admissible store call) :=
    fun _ _ grouped atStop => mirroredAndGrouped_iff grouped atStop
  have preserved :
      ∀ (store : Store) (call : Call) (next : Store),
        Grouped store → call.surroundings.AtStop →
          MirroredAndGrouped store call → store.step call = some next →
            Grouped next :=
    fun _ _ _ _ _ kept taken => kept.next taken
  exact along_congr agree preserved grouped
    (along_of_forall store calls atStop)

/--
In a run of admissible operations at a stop, from a grouped store, the adapter
is told every change of the enabled breakpoints of a file, with exactly their
lines, and no operation faults.
-/
theorem breakpoints_mirrored
    {store : Store}
    {calls : List Call}
    (grouped : Grouped store)
    (atStop : ∀ call ∈ calls, call.surroundings.AtStop)
    (admissible : Along Store.step Admissible store calls) :
    Along Store.step Mirrored store calls ∧
      ∃ reached, run Store.step store calls = some reached := by
  have kept := (along_mirroredAndGrouped_iff grouped atStop).mpr admissible
  have mirrored : Along Store.step Mirrored store calls :=
    kept.imp fun _ _ step => step.mirrored
  refine ⟨mirrored, exists_run_of_along ?_ mirrored⟩
  rintro store call ⟨outcome, performed, -⟩
  exact ⟨outcome.store, by rw [Store.step, performed]⟩

/-- A debugger at a stop, on a system where paths stay as they are. -/
def plainStop : Surroundings where
  state :=
    { notConnected := false, connected := true, stopped := true,
      running := true }
  debugTestingChoice := .useNativePaths
  debuggee := []
  findProjectForFile _ := none
  unixFilename filename _ := filename
  fileExists _ := true
  getPath filename := filename
  makeRelativeTo filename _ := filename
  reallocates := true

/-- Two files with breakpoints; the last one deleted is the last of all. -/
def twoFiles : List Call :=
  [⟨plainStop, .addBreakpoint "main.cpp".toList 3⟩,
    ⟨plainStop, .addBreakpoint "util.cpp".toList 7⟩,
    ⟨plainStop, .enableBreakpoint 0 false⟩,
    ⟨plainStop, .addBreakpoint "main.cpp".toList 9⟩,
    ⟨plainStop, .deleteBreakpoint 0⟩]

theorem breakpoints_mirrored_twoFiles :
    Along Store.step Mirrored Store.empty twoFiles ∧
      ∃ reached, run Store.step Store.empty twoFiles = some reached :=
  breakpoints_mirrored grouped_empty (by decide) (by decide)

/-- The last breakpoint of a file is deleted while another file has one. -/
def lastOfFile : List Call :=
  [⟨plainStop, .addBreakpoint "main.cpp".toList 3⟩,
    ⟨plainStop, .addBreakpoint "util.cpp".toList 7⟩,
    ⟨plainStop, .deleteBreakpoint 0⟩]

theorem lastOfFile_not_mirrored :
    Grouped Store.empty ∧ (∀ call ∈ lastOfFile, call.surroundings.AtStop) ∧
      (∃ store, run Store.step Store.empty (lastOfFile.take 2) = some store ∧
        store.perform ⟨plainStop, .deleteBreakpoint 0⟩ =
          .error .endDereferenced) ∧
      ¬ Along Store.step Mirrored Store.empty lastOfFile := by
  refine ⟨grouped_empty, by decide, ⟨_, rfl, rfl⟩, ?_⟩
  rintro ⟨-, afterFirst⟩
  rcases afterFirst _ rfl with ⟨-, afterSecond⟩
  rcases afterSecond _ rfl with ⟨⟨outcome, performed, -⟩, -⟩
  cases performed

end DebuggerDap.Breakpoints.Mirror
