import DebuggerDap.Breakpoints.Announcing
import DebuggerDap.Breakpoints.Mirror
import DebuggerDap.Persistence.StateFile
import DebuggerDap.Protocol.LengthArithmetic
import DebuggerDap.Text.Numbers

/-!
# The breakpoints at the start of a session

`CreateStartBreakpoints` files every breakpoint of the vector in the map,
which a reset has emptied, and then announces every file of the map.
-/

namespace DebuggerDap.Breakpoints.StartOfSession

open DebuggerDap.Text.Strings
open DebuggerDap.Text.Numbers
open DebuggerDap.Library.KeyIndex
open DebuggerDap.Library.MachineInt
open DebuggerDap.Protocol.LengthArithmetic
open DebuggerDap.Persistence.StateFile
open DebuggerDap.Breakpoints.Store
open DebuggerDap.Breakpoints.Grouping
open DebuggerDap.Breakpoints.Editing
open DebuggerDap.Breakpoints.Announcing
open DebuggerDap.Breakpoints.Mirror

/-! ## The start -/

def getLineString (breakpoint : DapBreakpoint) : WxString :=
  intTowxString breakpoint.line

/-- One turn of the first two loops: a breakpoint with a line is filed. -/
def fileOnStart (width : LongWidth) (store : Store) (bp : Ref) : Store :=
  let breakpoint := store.breakpoint bp
  if (toLong width.range (getLineString breakpoint)).isSome then
    { store with
      mapFilebreakpoints :=
        store.updateMapFileBreakPoints breakpoint.filename bp true }
  else store

/--
`CreateStartBreakpoints`, with the temporary breakpoints it leaves; its
argument is not used.
-/
def createStartBreakpoints
    (width : LongWidth)
    (surroundings : Surroundings)
    (temporaryBreakpoints : List Ref)
    (store : Store) : Except Fault (Outcome × List Ref) := do
  let withBreakpoints := store.breakpoints.foldl (fileOnStart width) store
  let filed := temporaryBreakpoints.foldl (fileOnStart width) withBreakpoints
  let outcome ←
    forEach
      (fun filename store =>
        store.updateDAPSetBreakpointsByFileName surroundings filename)
      filed.mapFilebreakpoints.keys filed
  .ok (outcome, [])

/-! ## The property -/

/-- No two entries are on the same line of the same file. -/
def Apart (store : Store) : Prop :=
  store.breakpoints.Pairwise fun first second =>
    (file store first, (store.breakpoint first).line) ≠
      (file store second, (store.breakpoint second).line)

instance (store : Store) : Decidable (Apart store) :=
  inferInstanceAs (Decidable (store.breakpoints.Pairwise _))

/--
Every file with a breakpoint is announced once, with the lines of its enabled
breakpoints in the order of the vector and each of them once.
-/
structure AnnouncedOnce
    (surroundings : Surroundings)
    (store : Store)
    (sent : List Announcement) : Prop where
  once : (sent.map Announcement.filename).Nodup
  every :
    ∀ filename, filename ∈ sent.map Announcement.filename ↔
      ∃ ref ∈ store.breakpoints, file store ref = filename
  path :
    ∀ announcement ∈ sent,
      announcement.file = surroundings.dapPath announcement.filename
  lines :
    ∀ announcement ∈ sent,
      announcement.lines = enabledLines store announcement.filename
  distinct : ∀ announcement ∈ sent, announcement.lines.Nodup

/-! ## Filing -/

section Filing

variable {width : LongWidth} {store filed : Store}
variable {before rest : List Ref} {bp : Ref}

/-- The map holds, file by file and in their order, some of the breakpoints. -/
structure Filed (store : Store) (refs : List Ref) (filed : Store) : Prop where
  heap : filed.heap = store.heap
  breakpoints : filed.breakpoints = store.breakpoints
  map :
    ∀ filename, drawer filed filename =
      let filebreakpoints := having (file store) refs filename
      if filebreakpoints = [] then none else some filebreakpoints

/-- Every line of a breakpoint is a number. -/
theorem isSome_getLineString
    {breakpoint : DapBreakpoint}
    (inRange : intRange.Contains breakpoint.line) :
    (toLong width.range (getLineString breakpoint)).isSome = true := by
  have read :
      toLong width.range (getLineString breakpoint) =
        some breakpoint.line :=
    toLong_toString (intRange_within width inRange)
  rw [read]
  rfl

theorem Filed.breakpoint (sofar : Filed store before filed) :
    filed.breakpoint = store.breakpoint := by
  unfold Store.breakpoint
  rw [sofar.heap]

theorem Filed.getD_drawer
    (sofar : Filed store before filed)
    (filename : WxString) :
    (drawer filed filename).getD [] =
      having (file store) before filename := by
  rw [sofar.map]
  dsimp only
  split
  · next empty => rw [empty, Option.getD_none]
  · rfl

/-- The files of the map are those of the breakpoints. -/
theorem Filed.mem_keys
    {filename : WxString}
    (sofar : Filed store before filed) :
    filename ∈ filed.mapFilebreakpoints.keys ↔
      ∃ ref ∈ before, file store ref = filename := by
  have held :
      (drawer filed filename).isSome = true ↔
        having (file store) before filename ≠ [] := by
    rw [sofar.map]
    dsimp only
    split
    · next empty => simp [empty]
    · next inhabited => simp [inhabited]
  rw [Std.TreeMap.mem_keys, Std.TreeMap.mem_iff_isSome_getElem?]
  refine held.trans ⟨fun inhabited => ?_, ?_⟩
  · rcases List.exists_mem_of_ne_nil _ inhabited with ⟨ref, member⟩
    exact ⟨ref, mem_having.mp member⟩
  · rintro ⟨ref, member, here⟩
    exact List.ne_nil_of_mem (mem_having.mpr ⟨member, here⟩)

/-- A breakpoint apart from those filed is filed last in its file. -/
theorem Filed.push
    (sofar : Filed store before filed)
    (inRange : intRange.Contains (store.breakpoint bp).line)
    (apart :
      ∀ ref ∈ before, file store ref = file store bp →
        (store.breakpoint ref).line ≠ (store.breakpoint bp).line) :
    Filed store (before ++ [bp]) (fileOnStart width filed bp) := by
  have counted :
      fileOnStart width filed bp =
        { filed with
          mapFilebreakpoints :=
            filed.updateMapFileBreakPoints (file store bp) bp true } := by
    rw [fileOnStart, sofar.breakpoint]
    exact if_pos (isSome_getLineString inRange)
  have held := sofar.getD_drawer (file store bp)
  rw [counted]
  refine ⟨sofar.heap, sofar.breakpoints, fun filename => ?_⟩
  by_cases here : filename = file store bp
  · subst here
    have free :
        ∀ ref ∈ (drawer filed (file store bp)).getD [],
          filed.onLineOf bp ref = false := by
      intro ref member
      rw [held, mem_having] at member
      rw [Store.onLineOf, sofar.breakpoint]
      exact beq_eq_false_iff_ne.mpr (apart ref member.1 member.2)
    rw [having_append_self, if_neg (by simp)]
    exact (updateMap_add free).trans (by rw [held])
  · rw [having_append_of_ne here, ← sofar.map]
    exact updateMap_of_ne here true

/-- Breakpoints that are apart are filed one after another. -/
theorem Filed.foldl
    (sofar : Filed store before filed)
    (inRange : ∀ ref ∈ rest, intRange.Contains (store.breakpoint ref).line)
    (apart :
      (before ++ rest).Pairwise fun first second =>
        (file store first, (store.breakpoint first).line) ≠
          (file store second, (store.breakpoint second).line)) :
    Filed store (before ++ rest) (rest.foldl (fileOnStart width) filed) := by
  induction rest generalizing before filed with
  | nil => rwa [List.append_nil]
  | cons bp rest ih =>
      have behind :
          ∀ ref ∈ before,
            file store ref = file store bp →
              (store.breakpoint ref).line ≠ (store.breakpoint bp).line := by
        intro ref member here onLine
        have different :=
          (List.pairwise_append.mp apart).2.2 ref member bp
            List.mem_cons_self
        exact different (by rw [here, onLine])
      have next :
          Filed store (before ++ [bp]) (fileOnStart width filed bp) :=
        sofar.push (inRange bp List.mem_cons_self) behind
      rw [List.append_cons] at apart ⊢
      exact ih next
        (fun ref member => inRange ref (List.mem_cons_of_mem bp member)) apart

/-- After a reset the loops file every breakpoint of the vector. -/
theorem filed_start
    (inRange :
      ∀ ref ∈ store.breakpoints,
        intRange.Contains (store.breakpoint ref).line)
    (apart : Apart store) :
    Filed store store.breakpoints
      (store.breakpoints.foldl (fileOnStart width)
        (debuggerResetData .startup store)) := by
  have cleared : Filed store [] (debuggerResetData .startup store) :=
    ⟨rfl, rfl, fun _ => Std.TreeMap.getElem?_emptyc⟩
  exact cleared.foldl inRange apart

end Filing

/-! ## Announcing -/

section Sending

variable {width : LongWidth} {surroundings : Surroundings}
variable {store : Store}

/-- What is announced for a file of the map. -/
def announcement
    (surroundings : Surroundings)
    (store : Store)
    (filename : WxString) : Announcement where
  filename := filename
  file := surroundings.dapPath filename
  lines := store.vlines ((drawer store filename).getD [])

/-- Files of the map are announced one after another. -/
theorem announceEach
    {filenames : List WxString}
    (atStop : surroundings.AtStop)
    (present :
      ∀ filename ∈ filenames, (drawer store filename).isSome = true) :
    ∃ outcome,
      forEach
          (fun filename store =>
            store.updateDAPSetBreakpointsByFileName surroundings filename)
          filenames store = .ok outcome ∧
        SameLists store outcome.store ∧
        outcome.sent = filenames.map (announcement surroundings store) := by
  induction filenames generalizing store with
  | nil => exact ⟨⟨store, []⟩, rfl, SameLists.refl store, rfl⟩
  | cons filename filenames ih =>
      obtain ⟨first, announced⟩ :=
        (@announce_ok_iff surroundings store filename).mpr fun _ =>
          Or.inr (present filename List.mem_cons_self)
      have same := announce_leaves announced
      have sameDrawer : drawer first.store = drawer store := by
        funext other
        rw [drawer, same.mapFilebreakpoints, drawer]
      have sameAnnouncement :
          announcement surroundings first.store =
            announcement surroundings store := by
        funext other
        unfold announcement Store.vlines
        rw [sameDrawer, same.breakpoint]
      obtain ⟨later, looped, sameLater, sent⟩ :=
        @ih first.store fun other member => by
          rw [sameDrawer]
          exact present other (List.mem_cons_of_mem filename member)
      have sentFirst :
          first.sent = [announcement surroundings store filename] :=
        congrArg Outcome.sent (announce_ok atStop announced)
      refine ⟨_, forEach_cons_of_ok announced looped, ?_, ?_⟩
      · exact ⟨sameLater.heap.trans same.heap,
          sameLater.breakpoints.trans same.breakpoints,
          sameLater.mapFilebreakpoints.trans same.mapFilebreakpoints⟩
      · show first.sent ++ later.sent = _
        rw [sentFirst, sent, sameAnnouncement]
        rfl

/-- The lines of a file are distinct, where its breakpoints are apart. -/
theorem nodup_enabledLines (apart : Apart store) (filename : WxString) :
    (enabledLines store filename).Nodup := by
  have distinct :
      (fileBreakpoints store filename).Pairwise fun first second =>
        (store.breakpoint first).line ≠ (store.breakpoint second).line := by
    have inFile : (fileBreakpoints store filename).Pairwise _ :=
      List.Pairwise.filter _ apart
    refine inFile.imp_of_mem ?_
    intro first second firstMember secondMember different onLine
    rw [(mem_fileBreakpoints.mp firstMember).2,
      (mem_fileBreakpoints.mp secondMember).2, onLine] at different
    exact different rfl
  rw [enabledLines, Store.vlines, List.Nodup, List.pairwise_map]
  refine (distinct.filter _).imp ?_
  intro first second different same
  exact different (congrArg Protocol.Messages.SourceBreakpoint.line same)

/--
After a reset for a new session `CreateStartBreakpoints` announces every file
with breakpoints once, with the lines of the enabled ones, and leaves the
vector as it is.
-/
theorem start_announces_once
    (atStop : surroundings.AtStop)
    (inRange :
      ∀ ref ∈ store.breakpoints,
        intRange.Contains (store.breakpoint ref).line)
    (apart : Apart store) :
    ∃ outcome,
      createStartBreakpoints width surroundings []
          (debuggerResetData .startup store) = .ok (outcome, []) ∧
        outcome.store.breakpoints = store.breakpoints ∧
        outcome.store.breakpoint = store.breakpoint ∧
        AnnouncedOnce surroundings store outcome.sent := by
  let filed :=
    store.breakpoints.foldl (fileOnStart width)
      (debuggerResetData .startup store)
  have full : Filed store store.breakpoints filed :=
    filed_start inRange apart
  obtain ⟨outcome, looped, same, sent⟩ :=
    @announceEach surroundings filed filed.mapFilebreakpoints.keys atStop
      fun filename member => by
        rw [drawer, ← Std.TreeMap.mem_iff_isSome_getElem?]
        exact Std.TreeMap.mem_keys.mp member
  refine ⟨outcome, ?_, same.breakpoints.trans full.breakpoints,
    same.breakpoint.trans full.breakpoint, ?_⟩
  · rw [createStartBreakpoints]
    show (forEach _ filed.mapFilebreakpoints.keys filed >>= _) = _
    rw [looped]
    rfl
  have filenames :
      outcome.sent.map Announcement.filename =
        filed.mapFilebreakpoints.keys := by
    rw [sent, List.map_map]
    exact List.map_id _
  have lines :
      ∀ filename,
        (announcement surroundings filed filename).lines =
          enabledLines store filename := by
    intro filename
    rw [announcement, full.getD_drawer]
    unfold Store.vlines
    rw [full.breakpoint]
    rfl
  have sentFor :
      ∀ sentOne ∈ outcome.sent,
        announcement surroundings filed sentOne.filename = sentOne := by
    intro sentOne member
    rw [sent] at member
    rcases List.mem_map.mp member with ⟨filename, -, rfl⟩
    rfl
  refine ⟨?_, ?_, ?_, ?_, ?_⟩
  · rw [filenames]
    exact Std.TreeMap.nodup_keys
  · intro filename
    rw [filenames, full.mem_keys]
  · intro sentOne member
    rw [← sentFor sentOne member]
    rfl
  · intro sentOne member
    rw [← lines, sentFor sentOne member]
  · intro sentOne member
    rw [← sentFor sentOne member, lines]
    exact nodup_enabledLines apart sentOne.filename

/-- Two files with three breakpoints, one of them disabled. -/
def threeListed : Store :=
  (((Store.empty.listNew none "main.cpp".toList 8 (-1)).listNew none
    "util.cpp".toList 3 (-1)).listNew none "main.cpp".toList 5 (-1)).modify 1
      (.setIsEnabled false)

theorem start_announces_once_threeListed :
    ∃ outcome,
      createStartBreakpoints .bits32 plainStop []
          (debuggerResetData .startup threeListed) = .ok (outcome, []) ∧
        outcome.store.breakpoints = threeListed.breakpoints ∧
        outcome.store.breakpoint = threeListed.breakpoint ∧
        AnnouncedOnce plainStop threeListed outcome.sent :=
  start_announces_once (by decide) (by decide) (by decide)

end Sending

end DebuggerDap.Breakpoints.StartOfSession
