import DebuggerDap.Breakpoints.Confinement
import DebuggerDap.Breakpoints.Paths
import DebuggerDap.Breakpoints.Shifting
import DebuggerDap.Breakpoints.StartOfSession
import DebuggerDap.Library.Run

/-!
# Clearing the adapter

The adapter holds for every path the lines of the last request for it.
`DeleteAllBreakpoints` sends an empty list under the name the IDE has for a
file, while breakpoints are announced under the path the adapter was given.

The two are the same where the path option leaves the name of a file as it is.
If that holds for what is announced, and no file leaves the map unannounced,
nothing is left behind.
-/

namespace DebuggerDap.Breakpoints.Clearing

open DebuggerDap.Text.Strings
open DebuggerDap.Protocol.Messages
open DebuggerDap.Protocol.LengthArithmetic
open DebuggerDap.Library.Run
open DebuggerDap.Breakpoints.Store
open DebuggerDap.Breakpoints.Grouping
open DebuggerDap.Breakpoints.Editing
open DebuggerDap.Breakpoints.Announcing
open DebuggerDap.Breakpoints.Confinement (updateTo_grows)
open DebuggerDap.Breakpoints.Shifting
open DebuggerDap.Breakpoints.StartOfSession
open DebuggerDap.Breakpoints.Paths

/-! ## The store and its adapter -/

/-- What the adapter holds for each path. -/
abbrev Held := WxString → List SourceBreakpoint

/-- A request replaces what there is for its path. -/
def receive (held : Held) (announcement : Announcement) : Held :=
  Function.update held announcement.file announcement.lines

structure Session where
  store : Store
  held : Held

/-- Before anything is announced. -/
def Session.initial : Session :=
  ⟨Store.empty, fun _ => []⟩

inductive Step where
  | event (event : Event)
  | createStartBreakpoints (width : LongWidth) (temporaries : List Ref)

/-- A step and what it finds when it happens. -/
structure StepCall where
  surroundings : Surroundings
  step : Step

def performStep (call : StepCall) (store : Store) : Except Fault Outcome :=
  match call.step with
  | .event event => performEvent call.surroundings event store
  | .createStartBreakpoints width temporaries => do
      let (outcome, _) ←
        createStartBreakpoints width call.surroundings temporaries store
      .ok outcome

/-- The maps are reset before an adapter is started. -/
def Step.StartsAdapter : Step → Prop
  | .event (.debuggerResetData .startup) => True
  | .event (.debuggerResetData .all) => True
  | _ => False

instance : DecidablePred Step.StartsAdapter
  | .event (.debuggerResetData .startup) => .isTrue trivial
  | .event (.debuggerResetData .all) => .isTrue trivial
  | .event (.debuggerResetData .normal) => .isFalse id
  | .event (.edit _) => .isFalse id
  | .event (.onBreakpointDataSet _) => .isFalse id
  | .createStartBreakpoints _ _ => .isFalse id

/-- What the adapter holds when the requests of a step arrive. -/
def heldAt (step : Step) (held : Held) : Held :=
  if step.StartsAdapter then fun _ => [] else held

def next (session : Session) (call : StepCall) : Option Session :=
  match performStep call session.store with
  | .ok outcome =>
      some
        ⟨outcome.store,
          outcome.sent.foldl receive (heldAt call.step session.held)⟩
  | .error _ => none

/-! ## The property -/

/-- `DeleteAllBreakpoints` is called while the debugger is running. -/
def DeletesAll (call : StepCall) : Prop :=
  call.surroundings.state.isRunning = true ∧
    call.step = .event (.edit .deleteAllBreakpoints)

/--
`DeleteAllBreakpoints` sends an empty list for every path the adapter holds
breakpoints for, and then it holds none.
-/
def Clears (session : Session) (call : StepCall) : Prop :=
  DeletesAll call →
    let sent := (deleteAllBreakpoints call.surroundings session.store).sent
    (∀ path, session.held path ≠ [] →
        ∃ announcement ∈ sent,
          announcement.file = path ∧ announcement.lines = []) ∧
      ∀ path, sent.foldl receive session.held path = []

/--
Every path the adapter holds breakpoints for is the name of a file that has an
entry in the map.
-/
def Known (store : Store) (held : Held) : Prop :=
  ∀ path, held path ≠ [] → path ∈ store.mapFilebreakpoints.keys

section Clears

variable {store : Store} {held : Held}

theorem foldl_receive_empty (filenames : List WxString) (path : WxString) :
    (filenames.map fun filename =>
        (⟨filename, filename, []⟩ : Announcement)).foldl receive held path =
      if path ∈ filenames then [] else held path := by
  induction filenames generalizing held with
  | nil => rfl
  | cons filename filenames ih =>
      rw [List.map_cons, List.foldl_cons, ih]
      by_cases later : path ∈ filenames
      · rw [if_pos later, if_pos (List.mem_cons_of_mem filename later)]
      · rw [if_neg later]
        by_cases here : path = filename
        · rw [if_pos (here ▸ List.mem_cons_self), here, receive,
            Function.update_self]
        · rw [if_neg (by simp [here, later]), receive,
            Function.update_of_ne here]

/-- What `DeleteAllBreakpoints` sends while the debugger is running. -/
theorem deleteAll_sent
    {surroundings : Surroundings}
    (running : surroundings.state.isRunning = true) :
    (deleteAllBreakpoints surroundings store).sent =
      store.mapFilebreakpoints.keys.map fun filename =>
        ⟨filename, filename, []⟩ :=
  if_pos running

/-- Everything that is known is cleared. -/
theorem clears_of_known
    {session : Session}
    (known : Known session.store session.held)
    (call : StepCall) : Clears session call := by
  intro deletes
  rw [deleteAll_sent deletes.1]
  constructor
  · intro path holds
    exact ⟨⟨path, path, []⟩,
      List.mem_map.mpr ⟨path, known path holds, rfl⟩, rfl, rfl⟩
  · intro path
    rw [foldl_receive_empty]
    split
    · rfl
    · next missing =>
        by_contra holds
        exact missing (known path holds)

end Clears

/-! ## What a step announces and deletes -/

/--
The files a reply may announce: those of its entries, those remembered, and
those of the breakpoints there are.
-/
def Answers
    (resp : SetBreakpointsResponse)
    (store : Store)
    (filename : WxString) : Prop :=
  (filename ≠ [] ∧ ∃ entry ∈ resp.breakpoints, entry.source.path = filename) ∨
    filename ∈ store.mapFileSystemDap.keys ∨
    (filename ≠ [] ∧
      ∃ ref ∈ store.breakpoints, (store.breakpoint ref).getLocation = filename)

/-- The files a step announces if it is taken at a stop. -/
def Announces
    (step : Step)
    (store : Store)
    (filename : WxString) : Prop :=
  match step with
  | .event (.edit (.operation (.addBreakpoint given _))) =>
      filename = store.filenameBRK given
  | .event (.edit (.operation (.deleteBreakpoint bp))) =>
      bp ∈ store.breakpoints ∧ (store.breakpoint bp).type = .bptCode ∧
        filename = file store bp
  | .event (.edit (.operation (.enableBreakpoint bp bEnable))) =>
      bp ∈ store.breakpoints ∧ (store.breakpoint bp).enabled ≠ bEnable ∧
        filename = store.filenameBRK (store.breakpoint bp).getLocation
  | .event (.edit .deleteAllBreakpoints) => False
  | .event (.edit (.shiftAllFileBreakpoints editorFilename _ _)) =>
      filename = store.filenameBRK editorFilename
  | .event (.onBreakpointDataSet resp) => Answers resp store filename
  | .event (.debuggerResetData _) => False
  | .createStartBreakpoints _ temporaries =>
      filename ∈ store.mapFilebreakpoints.keys ∨
        ∃ ref ∈ store.breakpoints ++ temporaries, filename = file store ref

/-- The breakpoints a step deletes one by one. -/
def deletes (call : StepCall) (store : Store) : List Ref :=
  match call.step with
  | .event (.edit (.operation (.deleteBreakpoint bp))) => [bp]
  | .event (.edit (.shiftAllFileBreakpoints editorFilename startline lines)) =>
      let filenameBRK := store.filenameBRK editorFilename
      (shiftLoop (call.surroundings.findProjectForFile filenameBRK)
        filenameBRK startline lines store.breakpoints store).2
  | _ => []

/-- How many entries the map has for a file. -/
def entries (store : Store) (filename : WxString) : Nat :=
  ((drawer store filename).getD []).length

/-- Of the breakpoints, how many are of a file. -/
def countIn (store : Store) (refs : List Ref) (filename : WxString) : Nat :=
  (refs.filter fun ref => file store ref = filename).length

/--
Of a file the adapter has breakpoints for, the step leaves an entry in the
map.
-/
structure EntriesStay
    (call : StepCall)
    (store : Store)
    (held : Held) : Prop where
  one :
    ∀ bp ∈ deletes call store, held (file store bp) ≠ [] →
      countIn store (deletes call store) (file store bp) <
        entries store (file store bp)
  all :
    call.step = .event (.edit .deleteAllBreakpoints) →
      call.surroundings.state.isRunning = false →
        ∀ path, held path = []

/--
A step the adapter can be cleared after.  It starts an adapter; or at a stop,
what it announces keeps its name; or elsewhere, where nothing is announced, no
file leaves the map that the adapter has breakpoints for.
-/
def Traceable (session : Session) (call : StepCall) : Prop :=
  call.step.StartsAdapter ∨
    (call.surroundings.AtStop ∧
      ∀ filename, Announces call.step session.store filename →
        NameKept call.surroundings filename) ∨
    (¬call.surroundings.AtStop ∧ EntriesStay call session.store session.held)

/-! ## What the operations keep -/

/-- What an operation sends is known, if everything was known before. -/
def KeepsKnown (store : Store) (outcome : Outcome) : Prop :=
  ∀ held, Known store held →
    Known outcome.store (outcome.sent.foldl receive held)

section Keeping

variable {surroundings : Surroundings} {store after : Store} {held : Held}
variable {filename : WxString} {bp : Ref} {line id : Int} {bEnable : Bool}
variable {outcome : Outcome} {width : LongWidth}

theorem mem_keys_iff :
    filename ∈ store.mapFilebreakpoints.keys ↔
      (store.mapFilebreakpoints[filename]?).isSome = true := by
  rw [Std.TreeMap.mem_keys, Std.TreeMap.mem_iff_isSome_getElem?]

theorem KeepsKnown.of_keys
    (keys :
      ∀ path ∈ store.mapFilebreakpoints.keys,
        path ∈ after.mapFilebreakpoints.keys) :
    KeepsKnown store ⟨after, []⟩ :=
  fun _ known path holds => keys path (known path holds)

theorem KeepsKnown.of_map
    (map : after.mapFilebreakpoints = store.mapFilebreakpoints) :
    KeepsKnown store ⟨after, []⟩ :=
  .of_keys fun path key => by rwa [map]

/-- Announcing a file makes it known, if its name is kept at a stop. -/
theorem KeepsKnown.of_announce
    (kept : surroundings.AtStop → NameKept surroundings filename)
    (others :
      ∀ path, path ≠ filename →
        after.mapFilebreakpoints[path]? = store.mapFilebreakpoints[path]?)
    (stays :
      ¬surroundings.AtStop → filename ∈ store.mapFilebreakpoints.keys →
        filename ∈ after.mapFilebreakpoints.keys)
    (announced :
      after.updateDAPSetBreakpointsByFileName surroundings filename =
        .ok outcome) :
    KeepsKnown store outcome := by
  intro held known path holds
  by_cases atStop : surroundings.AtStop
  · have own := dapPath_eq_self_iff.mpr (kept atStop)
    rw [announce_ok atStop announced] at holds ⊢
    show path ∈ after.mapFilebreakpoints.keys
    rw [own] at holds
    by_cases here : path = filename
    · subst here
      have inhabited :
          after.vlines ((drawer after path).getD []) ≠ [] := by
        simpa [receive] using holds
      rw [mem_keys_iff]
      by_contra missing
      rw [Option.not_isSome_iff_eq_none] at missing
      rw [drawer, missing] at inhabited
      exact inhabited rfl
    · have key := known path (by
        simpa [receive, Function.update_of_ne here] using holds)
      rwa [mem_keys_iff, others path here, ← mem_keys_iff]
  · rw [announce_away atStop] at announced
    cases announced
    have key := known path holds
    by_cases here : path = filename
    · subst here
      exact stays atStop key
    · rwa [mem_keys_iff, others path here, ← mem_keys_iff]

theorem KeepsKnown.trans
    {first later : Outcome}
    (keepsFirst : KeepsKnown store first)
    (keepsLater : KeepsKnown first.store later) :
    KeepsKnown store ⟨later.store, first.sent ++ later.sent⟩ := by
  intro held known
  show Known later.store ((first.sent ++ later.sent).foldl receive held)
  rw [List.foldl_append]
  exact keepsLater _ (keepsFirst held known)

/-- A loop whose items keep an invariant, and with it what is known. -/
theorem forEach_keepsKnown
    {ι : Type}
    {act : ι → Store → Except Fault Outcome}
    {items : List ι}
    {invariant : Store → Prop}
    (each :
      ∀ item ∈ items, ∀ store outcome,
        invariant store → act item store = .ok outcome →
          invariant outcome.store ∧ KeepsKnown store outcome)
    (start : invariant store)
    (looped : forEach act items store = .ok outcome) :
    invariant outcome.store ∧ KeepsKnown store outcome := by
  induction items generalizing store outcome with
  | nil =>
      cases looped
      exact ⟨start, .of_map rfl⟩
  | cons item items ih =>
      rcases forEach_cons_ok looped with
        ⟨first, later, acted, loopedRest, rfl⟩
      have here := each item List.mem_cons_self store first start acted
      have rest :=
        ih (fun other member => each other (List.mem_cons_of_mem _ member))
          here.1 loopedRest
      exact ⟨rest.1, here.2.trans rest.2⟩

theorem switch_keepsKnown
    (kept : surroundings.AtStop → NameKept surroundings filename)
    (map : after.mapFilebreakpoints = store.mapFilebreakpoints)
    (switched :
      after.switch surroundings filename bp bEnable = .ok outcome) :
    KeepsKnown store outcome := by
  rw [Store.switch] at switched
  split at switched
  · exact .of_announce kept (fun _ _ => by rw [← map]; rfl)
      (fun _ key => by rw [← map] at key; exact key) switched
  · cases switched
    exact .of_map map

theorem updateOrAdd_keepsKnown
    (kept :
      surroundings.AtStop →
        NameKept surroundings (store.filenameBRK filename))
    (updated :
      store.updateOrAddBreakpoint surroundings filename line bEnable id =
        .ok (bp, outcome)) :
    KeepsKnown store outcome := by
  rw [Store.updateOrAddBreakpoint] at updated
  dsimp only at updated
  split at updated
  · rcases exists_ok_of_bind updated with ⟨switched, run, same⟩
    cases same
    exact switch_keepsKnown kept rfl run
  · split at updated
    · rcases exists_ok_of_bind updated with ⟨switched, run, same⟩
      cases same
      refine switch_keepsKnown kept ?_ run
      split <;> rfl
    · rcases exists_ok_of_bind updated with ⟨announced, run, same⟩
      cases same
      exact .of_announce kept
        (fun _ different => updateMap_of_ne different true)
        (fun _ _ => mem_keys_iff.mpr isSome_updateMap_add) run

theorem enable_keepsKnown
    (kept :
      surroundings.AtStop → bp ∈ store.breakpoints →
        (store.breakpoint bp).enabled ≠ bEnable →
          NameKept surroundings
            (store.filenameBRK (store.breakpoint bp).getLocation))
    (enabled :
      store.enableBreakpoint surroundings bp bEnable = .ok outcome) :
    KeepsKnown store outcome := by
  rw [Store.enableBreakpoint] at enabled
  split at enabled
  · next listed =>
      split at enabled
      · cases enabled
        exact .of_map rfl
      · next changes =>
          rcases exists_ok_of_bind enabled with
            ⟨⟨found, updated⟩, update, last⟩
          dsimp only at last
          split at last
          · cases last
          · cases last
            split at update
            · exact fun held known =>
                updateOrAdd_keepsKnown
                  (fun atStop => kept atStop listed changes) update held known
            · cases update
              exact .of_map rfl
  · cases enabled
    exact .of_map rfl

/-! ### Replies -/

/-- The files a loop over a reply may still announce are kept at a stop. -/
structure Within (surroundings : Surroundings) (store : Store) : Prop where
  remembered :
    ∀ filename ∈ store.mapFileSystemDap.keys,
      NameKept surroundings filename
  listed :
    ∀ ref ∈ store.breakpoints, (store.breakpoint ref).getLocation ≠ [] →
      NameKept surroundings (store.breakpoint ref).getLocation

theorem Within.filenameBRK
    (within : Within surroundings store)
    (kept : NameKept surroundings filename) :
    NameKept surroundings (store.filenameBRK filename) := by
  unfold Store.filenameBRK
  cases found :
      store.mapFileSystemDap.toList.find? fun entry => entry.2 = filename with
  | none => exact kept
  | some entry =>
      apply within.remembered
      have member := List.mem_of_find?_eq_some found
      rw [Std.TreeMap.mem_keys]
      rw [Std.TreeMap.mem_iff_isSome_getElem?,
        Std.TreeMap.mem_toList_iff_getElem?_eq_some.mp member]
      rfl

theorem Within.announce
    (within : Within surroundings store)
    (kept : NameKept surroundings filename)
    (announced :
      store.updateDAPSetBreakpointsByFileName surroundings filename =
        .ok outcome) :
    Within surroundings outcome.store := by
  by_cases atStop : surroundings.AtStop
  · rw [announce_ok atStop announced]
    refine ⟨fun other key => ?_, within.listed⟩
    have remembered :
        other ∈ store.mapFileSystemDap.insertIfNew filename
          (surroundings.dapPath filename) := by
      rw [← Std.TreeMap.mem_keys]
      exact key
    rcases Std.TreeMap.mem_insertIfNew.mp remembered with same | old
    · rwa [← Std.LawfulEqCmp.eq_of_compare same]
    · exact within.remembered other (Std.TreeMap.mem_keys.mpr old)
  · rw [announce_away atStop] at announced
    cases announced
    exact within

theorem Within.modify
    (within : Within surroundings store)
    (change : DapBreakpoint → DapBreakpoint)
    (located :
      ∀ breakpoint, (change breakpoint).getLocation = breakpoint.getLocation)
    (bp : Ref) :
    Within surroundings (store.modify bp change) := by
  refine ⟨within.remembered, fun ref listed => ?_⟩
  rw [field_modify DapBreakpoint.getLocation change located bp ref]
  exact within.listed ref listed

theorem Within.switch
    (within : Within surroundings store)
    (kept : NameKept surroundings filename)
    (switched :
      store.switch surroundings filename bp bEnable = .ok outcome) :
    Within surroundings outcome.store := by
  rw [Store.switch] at switched
  split at switched
  · have located := within.modify (.setIsEnabled bEnable) (fun _ => rfl) bp
    exact located.announce kept switched
  · cases switched
    exact within

theorem Within.listNew
    {project : Option Project}
    (within : Within surroundings store)
    (kept : NameKept surroundings filename) :
    Within surroundings (store.listNew project filename line id) := by
  refine ⟨within.remembered, fun ref listed named => ?_⟩
  rcases List.mem_append.mp listed with old | new
  · have before : ref ∈ store.breakpoints := old
    rw [breakpoint_listNew_old before] at named ⊢
    exact within.listed ref before named
  · rw [List.mem_singleton.mp new, breakpoint_listNew_new]
    exact kept

/-- `UpdateOrAddBreakpoint` for a name that is kept makes no other name. -/
theorem Within.updateOrAdd
    (within : Within surroundings store)
    (kept : NameKept surroundings filename)
    (updated :
      store.updateOrAddBreakpoint surroundings filename line bEnable id =
        .ok (bp, outcome)) :
    Within surroundings outcome.store := by
  have keptBRK := within.filenameBRK kept
  rw [Store.updateOrAddBreakpoint] at updated
  dsimp only at updated
  split at updated
  · rcases exists_ok_of_bind updated with ⟨switched, run, same⟩
    cases same
    exact within.switch keptBRK run
  · split at updated
    · rcases exists_ok_of_bind updated with ⟨switched, run, same⟩
      cases same
      refine Within.switch ?_ keptBRK run
      split
      · exact within.modify (.setID id) (fun _ => rfl) _
      · exact within
    · rcases exists_ok_of_bind updated with ⟨announced, run, same⟩
      cases same
      exact (within.listNew keptBRK).announce keptBRK run

theorem updateTo_keepsKnown
    {entry : Breakpoint}
    (kept : surroundings.AtStop → NameKept surroundings filename)
    (within : surroundings.AtStop → Within surroundings store)
    (updated : updateTo surroundings filename entry store = .ok outcome) :
    (surroundings.AtStop → Within surroundings outcome.store) ∧
      KeepsKnown store outcome := by
  rcases exists_ok_of_bind updated with ⟨⟨found, after⟩, update, same⟩
  cases same
  exact ⟨fun atStop => (within atStop).updateOrAdd (kept atStop) update,
    updateOrAdd_keepsKnown
      (fun atStop => (within atStop).filenameBRK (kept atStop)) update⟩

theorem onEntry_keepsKnown
    {entry : Breakpoint}
    (kept :
      surroundings.AtStop → entry.source.path ≠ [] →
        NameKept surroundings entry.source.path)
    (within : surroundings.AtStop → Within surroundings store)
    (handled : onEntry surroundings entry store = .ok outcome) :
    (surroundings.AtStop → Within surroundings outcome.store) ∧
      KeepsKnown store outcome := by
  unfold onEntry at handled
  split at handled
  · next named =>
      exact updateTo_keepsKnown (fun atStop => kept atStop named.2.2) within
        handled
  · split at handled
    · have stays :
          ∀ ref ∈ store.breakpoints, ∀ earlier later,
            (store.breakpoints <+: earlier.breakpoints ∧
              (surroundings.AtStop → Within surroundings earlier)) →
              updateOnLine surroundings entry ref earlier = .ok later →
                (store.breakpoints <+: later.store.breakpoints ∧
                  (surroundings.AtStop → Within surroundings later.store)) ∧
                  KeepsKnown earlier later := by
        intro ref listed earlier later sofar updated
        unfold updateOnLine at updated
        dsimp only at updated
        split at updated
        · next located =>
            have result :=
              updateTo_keepsKnown
                (fun atStop =>
                  (sofar.2 atStop).listed ref (sofar.1.subset listed)
                    located.1)
                sofar.2 updated
            exact ⟨⟨sofar.1.trans (updateTo_grows updated).1, result.1⟩,
              result.2⟩
        · cases updated
          exact ⟨sofar, .of_map rfl⟩
      have looped :=
        forEach_keepsKnown stays ⟨List.prefix_rfl, within⟩ handled
      exact ⟨looped.1.2, looped.2⟩
    · cases handled
      exact ⟨within, .of_map rfl⟩

theorem onBreakpointDataSet_keepsKnown
    {resp : SetBreakpointsResponse}
    (kept :
      surroundings.AtStop → ∀ filename, Answers resp store filename →
        NameKept surroundings filename)
    (handled : onBreakpointDataSet surroundings resp store = .ok outcome) :
    KeepsKnown store outcome := by
  have within (atStop : surroundings.AtStop) : Within surroundings store :=
    ⟨fun filename key => kept atStop filename (Or.inr (Or.inl key)),
      fun ref listed named =>
        kept atStop _ (Or.inr (Or.inr ⟨named, ref, listed, rfl⟩))⟩
  have each :
      ∀ entry ∈ resp.breakpoints, ∀ earlier later,
        (surroundings.AtStop → Within surroundings earlier) →
          onEntry surroundings entry earlier = .ok later →
            (surroundings.AtStop → Within surroundings later.store) ∧
              KeepsKnown earlier later :=
    fun entry member _ _ within handled =>
      onEntry_keepsKnown
        (fun atStop named =>
          kept atStop _ (Or.inl ⟨named, entry, member, rfl⟩))
        within handled
  exact (forEach_keepsKnown each within handled).2

/-! ### Deletions -/

/-- At a stop a deletion is announced. -/
theorem delete_keepsKnown
    (atStop : surroundings.AtStop)
    (kept :
      bp ∈ store.breakpoints → (store.breakpoint bp).type = .bptCode →
        NameKept surroundings (file store bp))
    (deleted : store.deleteBreakpoint surroundings bp = .ok outcome) :
    KeepsKnown store outcome := by
  by_cases code :
      bp ∈ store.breakpoints ∧ (store.breakpoint bp).type = .bptCode
  · rw [deleteBreakpoint_code code.1 code.2] at deleted
    exact .of_announce (fun _ => kept code.1 code.2)
      (fun _ different => updateMap_of_ne different false)
      (fun away => absurd atStop away) deleted
  · rw [deleteBreakpoint_none code] at deleted
    cases deleted
    exact .of_map rfl

/-- What deletions away from a stop do to the map. -/
structure Thinned
    (store : Store)
    (refs : List Ref)
    (outcome : Outcome) : Prop where
  silent : outcome.sent = []
  files : file outcome.store = file store
  elsewhere :
    ∀ path, (∀ ref ∈ refs, file store ref ≠ path) →
      outcome.store.mapFilebreakpoints[path]? =
        store.mapFilebreakpoints[path]?
  fewer :
    ∀ path, entries store path ≤
      entries outcome.store path + countIn store refs path

theorem thinned_nil (store : Store) : Thinned store [] ⟨store, []⟩ :=
  ⟨rfl, rfl, fun _ _ => rfl, fun _ => Nat.le_refl _⟩

theorem entries_of_map
    (map :
      after.mapFilebreakpoints[filename]? =
        store.mapFilebreakpoints[filename]?) :
    entries after filename = entries store filename := by
  unfold entries drawer
  rw [map]

theorem delete_thinned
    (away : ¬surroundings.AtStop)
    (deleted : store.deleteBreakpoint surroundings bp = .ok outcome) :
    Thinned store [bp] outcome := by
  by_cases code :
      bp ∈ store.breakpoints ∧ (store.breakpoint bp).type = .bptCode
  · rw [deleteBreakpoint_code code.1 code.2, announce_away away] at deleted
    cases deleted
    have others {path : WxString} (different : file store bp ≠ path) :
        (store.unlist (file store bp) bp).mapFilebreakpoints[path]? =
          store.mapFilebreakpoints[path]? :=
      updateMap_of_ne (Ne.symm different) false
    refine ⟨rfl, rfl, fun path apart => ?_, fun path => ?_⟩
    · exact others (apart bp List.mem_cons_self)
    · by_cases here : file store bp = path
      · subst here
        have single : countIn store [bp] (file store bp) = 1 := by
          simp [countIn]
        rw [single, entries, entries, getD_drawer_unlist]
        have shorter :
            ((drawer store (file store bp)).getD []).length - 1 ≤
              (((drawer store (file store bp)).getD []).eraseP
                (store.onLineOf bp)).length :=
          List.le_length_eraseP
        omega
      · exact (entries_of_map (others here)).ge.trans (Nat.le_add_right _ _)
  · rw [deleteBreakpoint_none code] at deleted
    cases deleted
    exact ⟨rfl, rfl, fun _ _ => rfl, fun _ => Nat.le_add_right _ _⟩

theorem deleteEach_thinned
    {refs : List Ref}
    (away : ¬surroundings.AtStop)
    (deleted :
      forEach (fun bp store => store.deleteBreakpoint surroundings bp) refs
        store = .ok outcome) :
    Thinned store refs outcome := by
  induction refs generalizing store outcome with
  | nil =>
      cases deleted
      exact thinned_nil store
  | cons bp refs ih =>
      rcases forEach_cons_ok deleted with ⟨first, later, acted, rest, rfl⟩
      have here := delete_thinned away acted
      have after := ih rest
      refine ⟨?_, after.files.trans here.files, ?_, ?_⟩
      · rw [here.silent, after.silent]
        rfl
      · intro path apart
        have apartHere := apart bp List.mem_cons_self
        rw [after.elsewhere path fun ref member =>
          here.files ▸ apart ref (List.mem_cons_of_mem bp member)]
        exact here.elsewhere path fun ref member =>
          List.mem_singleton.mp member ▸ apartHere
      · intro path
        have one := here.fewer path
        have more := after.fewer path
        have split :
            countIn store (bp :: refs) path =
              countIn store [bp] path + countIn first.store refs path := by
          rw [countIn, countIn, countIn, here.files,
            ← List.length_append, ← List.filter_append]
          rfl
        rw [split]
        show entries store path ≤ entries later.store path + _
        omega

/-- What is known stays known if no file loses its last entry. -/
theorem Thinned.known
    {refs : List Ref}
    (thinned : Thinned store refs outcome)
    (stays :
      ∀ bp ∈ refs, held (file store bp) ≠ [] →
        countIn store refs (file store bp) < entries store (file store bp))
    (known : Known store held) :
    Known outcome.store (outcome.sent.foldl receive held) := by
  rw [thinned.silent]
  intro path holds
  rw [mem_keys_iff]
  by_cases touched : ∃ ref ∈ refs, file store ref = path
  · rcases touched with ⟨ref, member, rfl⟩
    have left := stays ref member holds
    have fewer := thinned.fewer (file store ref)
    by_contra missing
    rw [Option.not_isSome_iff_eq_none] at missing
    have none_left : entries outcome.store (file store ref) = 0 := by
      rw [entries, drawer, missing]
      rfl
    omega
  · rw [thinned.elsewhere path fun ref member same =>
      touched ⟨ref, member, same⟩, ← mem_keys_iff]
    exact known path holds

/-! ### Shifts -/

section Shift

variable {project : Option Project} {filenameBRK : WxString}
variable {startline lines : Int} {refs : List Ref}

/-- The loop changes no file. -/
theorem file_shiftLoop :
    file (shiftLoop project filenameBRK startline lines refs store).1 =
      file store := by
  induction refs generalizing store with
  | nil => rfl
  | cons bp refs ih =>
      rw [shiftLoop_cons]
      refine ih.trans (file_modify fun breakpoint => ?_)
      rw [moved_eq]

/-- The loop collects breakpoints of the file. -/
theorem file_of_mem_shiftLoop :
    ∀ bp ∈ (shiftLoop project filenameBRK startline lines refs store).2,
      file store bp = filenameBRK := by
  induction refs generalizing store with
  | nil => exact fun _ member => absurd member List.not_mem_nil
  | cons bp refs ih =>
      rw [shiftLoop_cons]
      dsimp only
      intro ref member
      have same :
          file (store.modify bp
            (moved project filenameBRK startline lines)) = file store :=
        file_modify fun breakpoint => by rw [moved_eq]
      split at member
      · next onRemovedLine =>
          rcases List.mem_cons.mp member with rfl | later
          · exact onRemovedLine.1.2.1
          · exact same ▸ ih ref later
      · exact same ▸ ih ref member

end Shift

theorem shift_keepsKnown
    {startline lines : Int}
    (atStop : surroundings.AtStop)
    (kept : NameKept surroundings (store.filenameBRK filename))
    (shifted :
      shiftAllFileBreakpoints surroundings filename startline lines store =
        .ok outcome) :
    KeepsKnown store outcome := by
  let filenameBRK := store.filenameBRK filename
  let project := surroundings.findProjectForFile filenameBRK
  let result :=
    shiftLoop project filenameBRK startline lines store.breakpoints store
  have map : result.1.mapFilebreakpoints = store.mapFilebreakpoints :=
    shiftLoop_keeps.2.1
  have each :
      ∀ bp ∈ result.2, ∀ earlier later,
        file earlier = file store →
          earlier.deleteBreakpoint surroundings bp = .ok later →
            file later.store = file store ∧ KeepsKnown earlier later := by
    intro bp member earlier later sofar deleted
    refine ⟨?_, delete_keepsKnown atStop (fun _ _ => ?_) deleted⟩
    · rcases delete_cases deleted with ⟨-, same⟩ | ⟨-, -, same⟩
      · rw [same, sofar]
      · unfold file
        rw [same.breakpoint]
        exact sofar
    · rw [sofar, file_of_mem_shiftLoop bp member]
      exact kept
  have looped := forEach_keepsKnown each file_shiftLoop shifted
  intro held known
  apply looped.2 held
  intro path holds
  rw [map]
  exact known path holds

theorem shift_known
    {startline lines : Int}
    (away : ¬surroundings.AtStop)
    (stays :
      let filenameBRK := store.filenameBRK filename
      let brksToRemove :=
        (shiftLoop (surroundings.findProjectForFile filenameBRK) filenameBRK
          startline lines store.breakpoints store).2
      ∀ bp ∈ brksToRemove, held (file store bp) ≠ [] →
        countIn store brksToRemove (file store bp) <
          entries store (file store bp))
    (shifted :
      shiftAllFileBreakpoints surroundings filename startline lines store =
        .ok outcome)
    (known : Known store held) :
    Known outcome.store (outcome.sent.foldl receive held) := by
  let filenameBRK := store.filenameBRK filename
  let project := surroundings.findProjectForFile filenameBRK
  let result :=
    shiftLoop project filenameBRK startline lines store.breakpoints store
  have map : result.1.mapFilebreakpoints = store.mapFilebreakpoints :=
    shiftLoop_keeps.2.1
  have files : file result.1 = file store := file_shiftLoop
  have thinned : Thinned result.1 result.2 outcome :=
    deleteEach_thinned away shifted
  apply thinned.known
  · intro bp member holds
    rw [files] at holds ⊢
    have left := stays bp member holds
    rw [entries_of_map (congrArg (·[file store bp]?) map)]
    unfold countIn at left ⊢
    rwa [files]
  · intro path holds
    rw [map]
    exact known path holds

/-! ### The start of a session -/

/-- A loop that files breakpoints takes no file out of the map. -/
theorem mem_keys_fileOnStart
    {refs : List Ref}
    {path : WxString}
    (key : path ∈ store.mapFilebreakpoints.keys) :
    path ∈ (refs.foldl (fileOnStart width) store).mapFilebreakpoints.keys := by
  induction refs generalizing store with
  | nil => exact key
  | cons bp refs ih =>
      apply ih
      rw [fileOnStart]
      split
      · show path ∈
          (store.updateMapFileBreakPoints (store.breakpoint bp).filename bp
            true).keys
        rw [Std.TreeMap.mem_keys, Std.TreeMap.mem_iff_isSome_getElem?] at key ⊢
        by_cases here : path = (store.breakpoint bp).filename
        · rw [here]
          exact isSome_updateMap_add
        · rwa [updateMap_of_ne here true]
      · exact key

/-- Every file the loop adds has one of the breakpoints. -/
theorem mem_keys_of_fileOnStart
    {refs : List Ref}
    {path : WxString}
    (key :
      path ∈ (refs.foldl (fileOnStart width) store).mapFilebreakpoints.keys) :
    path ∈ store.mapFilebreakpoints.keys ∨
      ∃ ref ∈ refs, path = file store ref := by
  induction refs generalizing store with
  | nil => exact Or.inl key
  | cons bp refs ih =>
      have sameFiles : file (fileOnStart width store bp) = file store := by
        rw [fileOnStart]
        split <;> rfl
      rcases ih key with before | ⟨ref, member, same⟩
      · by_cases here : path = file store bp
        · exact Or.inr ⟨bp, List.mem_cons_self, here⟩
        · left
          rw [fileOnStart] at before
          split at before
          · rw [mem_keys_iff] at before ⊢
            rwa [← updateMap_of_ne here true]
          · exact before
      · exact Or.inr ⟨ref, List.mem_cons_of_mem bp member, sameFiles ▸ same⟩

theorem createStart_keepsKnown
    {temporaries left : List Ref}
    (kept :
      surroundings.AtStop → ∀ filename,
        (filename ∈ store.mapFilebreakpoints.keys ∨
            ∃ ref ∈ store.breakpoints ++ temporaries,
              filename = file store ref) →
          NameKept surroundings filename)
    (created :
      createStartBreakpoints width surroundings temporaries store =
        .ok (outcome, left)) :
    KeepsKnown store outcome := by
  rw [createStartBreakpoints] at created
  rcases exists_ok_of_bind created with ⟨announced, looped, same⟩
  cases same
  have filing :
      temporaries.foldl (fileOnStart width)
          (store.breakpoints.foldl (fileOnStart width) store) =
        (store.breakpoints ++ temporaries).foldl (fileOnStart width) store :=
    List.foldl_append.symm
  rw [filing] at looped
  let anyStore (_ : Store) : Prop := True
  have announces : anyStore outcome.store ∧ KeepsKnown _ outcome :=
    forEach_keepsKnown
      (fun filename key store outcome _ announced =>
        ⟨trivial,
          KeepsKnown.of_announce
            (fun atStop => kept atStop filename (mem_keys_of_fileOnStart key))
            (fun _ _ => rfl) (fun _ key => key) announced⟩)
      trivial looped
  intro held known
  exact announces.2 held fun path holds =>
    mem_keys_fileOnStart (known path holds)

end Keeping

/-! ## Runs -/

section Runs

variable {call : StepCall} {store : Store} {held : Held} {outcome : Outcome}

theorem deleteAll_known
    {surroundings : Surroundings}
    (emptied :
      surroundings.state.isRunning = false → ∀ path, held path = [])
    (known : Known store held) :
    Known (deleteAllBreakpoints surroundings store).store
      ((deleteAllBreakpoints surroundings store).sent.foldl receive held) := by
  intro path holds
  cases running : surroundings.state.isRunning with
  | true =>
      rw [deleteAll_sent running, foldl_receive_empty] at holds
      split at holds
      · exact absurd rfl holds
      · next missing => exact absurd (known path holds) missing
  | false =>
      have silent : (deleteAllBreakpoints surroundings store).sent = [] := by
        simp [deleteAllBreakpoints, running]
      rw [silent] at holds
      exact absurd (emptied running path) holds

/-- At a stop, a step that announces names that are kept. -/
theorem known_at_stop
    (atStop : call.surroundings.AtStop)
    (kept :
      ∀ filename, Announces call.step store filename →
        NameKept call.surroundings filename)
    (goesOn : ¬call.step.StartsAdapter)
    (performed : performStep call store = .ok outcome) :
    KeepsKnown store outcome := by
  rcases call with ⟨surroundings, step⟩
  cases step with
  | createStartBreakpoints width temporaries =>
      rcases exists_ok_of_bind performed with ⟨⟨after, left⟩, created, same⟩
      cases same
      exact createStart_keepsKnown (fun _ => kept) created
  | event event =>
      cases event with
      | onBreakpointDataSet resp =>
          exact onBreakpointDataSet_keepsKnown (fun _ => kept) performed
      | debuggerResetData bClearAllData =>
          cases performed
          cases bClearAllData with
          | normal => exact .of_map rfl
          | startup => exact absurd trivial goesOn
          | all => exact absurd trivial goesOn
      | edit edit =>
          cases edit with
          | deleteAllBreakpoints =>
              cases performed
              have running := atStop.1
              exact fun held known =>
                deleteAll_known (fun idle => by
                  rw [running] at idle
                  cases idle) known
          | shiftAllFileBreakpoints editorFilename startline lines =>
              exact shift_keepsKnown atStop (kept _ rfl) performed
          | operation operation =>
              cases operation with
              | addBreakpoint filename line =>
                  rcases exists_ok_of_bind performed with
                    ⟨⟨bp, after⟩, added, same⟩
                  cases same
                  exact updateOrAdd_keepsKnown (fun _ => kept _ rfl) added
              | deleteBreakpoint bp =>
                  exact delete_keepsKnown atStop
                    (fun listed code => kept _ ⟨listed, code, rfl⟩) performed
              | enableBreakpoint bp bEnable =>
                  exact enable_keepsKnown
                    (fun _ listed changes => kept _ ⟨listed, changes, rfl⟩)
                    performed

/-- Away from a stop, a step that takes no last entry. -/
theorem known_away
    (away : ¬call.surroundings.AtStop)
    (stays : EntriesStay call store held)
    (goesOn : ¬call.step.StartsAdapter)
    (performed : performStep call store = .ok outcome)
    (known : Known store held) :
    Known outcome.store (outcome.sent.foldl receive held) := by
  rcases call with ⟨surroundings, step⟩
  cases step with
  | createStartBreakpoints width temporaries =>
      rcases exists_ok_of_bind performed with ⟨⟨after, left⟩, created, same⟩
      cases same
      exact createStart_keepsKnown (fun atStop => absurd atStop away) created
        held known
  | event event =>
      cases event with
      | onBreakpointDataSet resp =>
          exact onBreakpointDataSet_keepsKnown
            (fun atStop => absurd atStop away) performed held known
      | debuggerResetData bClearAllData =>
          cases performed
          cases bClearAllData with
          | normal => exact known
          | startup => exact absurd trivial goesOn
          | all => exact absurd trivial goesOn
      | edit edit =>
          cases edit with
          | deleteAllBreakpoints =>
              cases performed
              exact deleteAll_known (stays.all rfl) known
          | shiftAllFileBreakpoints editorFilename startline lines =>
              exact shift_known away stays.one performed known
          | operation operation =>
              cases operation with
              | addBreakpoint filename line =>
                  rcases exists_ok_of_bind performed with
                    ⟨⟨bp, after⟩, added, same⟩
                  cases same
                  exact updateOrAdd_keepsKnown
                    (fun atStop => absurd atStop away) added held known
              | deleteBreakpoint bp =>
                  exact (delete_thinned away performed).known stays.one known
              | enableBreakpoint bp bEnable =>
                  exact enable_keepsKnown (fun atStop => absurd atStop away)
                    performed held known

theorem sent_of_startsAdapter
    (starts : call.step.StartsAdapter)
    (performed : performStep call store = .ok outcome) :
    outcome.sent = [] := by
  rcases call with ⟨surroundings, step⟩
  cases step with
  | createStartBreakpoints width temporaries => exact starts.elim
  | event event =>
      cases event with
      | edit edit => exact starts.elim
      | onBreakpointDataSet resp => exact starts.elim
      | debuggerResetData bClearAllData =>
          cases performed
          rfl

/-- A step that can be traced keeps everything known. -/
theorem known_of_next
    {session later : Session}
    (traceable : Traceable session call)
    (known : Known session.store session.held)
    (taken : next session call = some later) :
    Known later.store later.held := by
  rw [next] at taken
  split at taken
  · next outcome performed =>
      cases taken
      by_cases starts : call.step.StartsAdapter
      · -- Resets send nothing, and the new adapter holds nothing.
        intro path holds
        rw [sent_of_startsAdapter starts performed, heldAt,
          if_pos starts] at holds
        exact absurd rfl holds
      · rw [heldAt, if_neg starts]
        rcases traceable.resolve_left starts with
          ⟨atStop, kept⟩ | ⟨away, stays⟩
        · exact known_at_stop atStop kept starts performed _ known
        · exact known_away away stays starts performed known
  · cases taken

/--
In every run whose steps can be traced, `DeleteAllBreakpoints` clears the
adapter.
-/
theorem deleteAll_clears
    {calls : List StepCall}
    (traceable : Along next Traceable Session.initial calls) :
    Along next Clears Session.initial calls := by
  let everythingKnown (session : Session) : Prop :=
    Known session.store session.held
  have start : everythingKnown Session.initial :=
    fun _ holds => absurd rfl holds
  exact Along.imp_of_invariant
    (fun session call known _ => clears_of_known known call)
    (fun session call later known traceable taken =>
      known_of_next traceable known taken)
    start traceable

/-- The debuggee goes on. -/
def goingOn : Surroundings :=
  { withoutDrives with state := { withoutDrives.state with stopped := false } }

/--
Two breakpoints of a file without a drive; one is deleted while the debuggee
goes on, and then all are.
-/
def deleteOneThenAll : List StepCall :=
  [⟨withoutDrives,
      .event (.edit (.operation (.addBreakpoint "/a.cpp".toList 3)))⟩,
    ⟨withoutDrives,
      .event (.edit (.operation (.addBreakpoint "/a.cpp".toList 9)))⟩,
    ⟨goingOn, .event (.edit (.operation (.deleteBreakpoint 0)))⟩,
    ⟨goingOn, .event (.edit .deleteAllBreakpoints)⟩]

theorem deleteAll_clears_deleteOneThenAll :
    Along next Clears Session.initial deleteOneThenAll := by
  apply deleteAll_clears
  have away : ¬goingOn.AtStop := by decide
  have taken {session later other : Session} {call : StepCall}
      (next_eq : next session call = some later)
      (other_eq : next session call = some other) : other = later :=
    Option.some.inj (other_eq.symm.trans next_eq)
  refine ⟨Or.inr (Or.inl ⟨by decide, ?_⟩), fun _ first => ?_⟩
  · rintro filename rfl
    exact dapPath_eq_self_iff.mp (by decide)
  rw [taken rfl first]
  refine ⟨Or.inr (Or.inl ⟨by decide, ?_⟩), fun _ second => ?_⟩
  · rintro filename rfl
    exact dapPath_eq_self_iff.mp (by decide)
  rw [taken rfl second]
  refine ⟨Or.inr (Or.inr ⟨away, ⟨?_, ?_⟩⟩), fun _ third => ?_⟩
  · intro bp member _
    rw [List.mem_singleton.mp member]
    decide
  · intro same
    cases same
  rw [taken rfl third]
  refine ⟨Or.inr (Or.inr ⟨away, ⟨?_, ?_⟩⟩), fun _ _ => trivial⟩
  · exact fun _ member => absurd member List.not_mem_nil
  · intro _ idle
    cases idle

/-- A breakpoint, and all of them deleted, without drives in the paths. -/
def addThenDeleteAll : List StepCall :=
  [⟨withoutDrives,
      .event (.edit (.operation (.addBreakpoint "C:/a.cpp".toList 3)))⟩,
    ⟨withoutDrives, .event (.edit .deleteAllBreakpoints)⟩]

theorem addThenDeleteAll_not_cleared :
    ¬ Along next Clears Session.initial addThenDeleteAll := by
  rintro ⟨-, afterFirst⟩
  rcases afterFirst _ rfl with ⟨clears, -⟩
  have holds := (clears ⟨by decide, rfl⟩).2 "/a.cpp".toList
  revert holds
  decide

end Runs

end DebuggerDap.Breakpoints.Clearing
