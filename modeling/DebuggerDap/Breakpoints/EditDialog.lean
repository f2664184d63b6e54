import DebuggerDap.Breakpoints.RunToCursor
import DebuggerDap.Plugin.SentRequests

/-!
# Editing a breakpoint

`UpdateBreakpoint` writes what the dialog returns to the object, then deletes
the breakpoint and adds one on its line.  That is a new object, with the
settings of the constructor.

Around this it asks for a pause if the debugger has not stopped, and for a
continue if it has, so over a transport it sends one of the two requests and
never both.
-/

namespace DebuggerDap.Breakpoints.EditDialog

open DebuggerDap.Text.Strings
open DebuggerDap.Protocol.Messages
open DebuggerDap.DapClient.State
open DebuggerDap.Plugin.Sessions
open DebuggerDap.Plugin.SelectedThread (asks_announceAll)
open DebuggerDap.Plugin.SentRequests
open DebuggerDap.Plugin.ActiveFrame (plainSetup)
open DebuggerDap.Persistence.StateFile
open DebuggerDap.Breakpoints.Store
open DebuggerDap.Breakpoints.Grouping
open DebuggerDap.Breakpoints.Announcing
open DebuggerDap.Breakpoints.Mirror (addBreakpoint_found addBreakpoint_new
  plainStop)
open DebuggerDap.Breakpoints.Returning
open DebuggerDap.Breakpoints.RunToCursor

variable {κ : Type}

/-! ## The dialogs -/

/-- What `EditBreakpointDlg` sets in the breakpoint it returns. -/
structure Settings where
  enabled : Bool
  useIgnoreCount : Bool
  ignoreCount : Int
  useCondition : Bool
  condition : WxString
  deriving DecidableEq, Repr

/-- The settings among the members the store leaves out. -/
def Settings.write
    (bp : Ref)
    (details : Ref → Details)
    (settings : Settings) : Ref → Details :=
  Function.update details bp
    { details bp with
      useIgnoreCount := settings.useIgnoreCount
      ignoreCount := settings.ignoreCount
      useCondition := settings.useCondition
      condition := settings.condition }

/-- What is read from `DataBreakpointDlg`. -/
structure DataSettings where
  /-- `IsEnabled` of the window. -/
  isEnabled : Bool
  selection : Int
  dataExpression : WxString

/-- What the dialogs return, unless they are cancelled. -/
structure Dialogs where
  editBreakpoint : Option Settings
  dataBreakpoint : Option DataSettings

/-! ## The operation -/

/-- A session of the plugin with the store and the members it leaves out. -/
structure Desk (κ : Type) where
  session : Session κ
  store : Store
  details : Ref → Details

namespace Desk

/-- The operations of the store see the state of the session. -/
def surroundings (desk : Desk κ) (surroundings : Surroundings) :
    Surroundings :=
  { surroundings with state := desk.session.debugger.state }

def ask (setup : Setup) (call : ApiCall κ) (desk : Desk κ) : Desk κ :=
  { desk with session := desk.session.perform setup call }

/-- Hand the announcements of an operation to the client. -/
def tell (setup : Setup) (outcome : Outcome) (desk : Desk κ) : Desk κ where
  session :=
    desk.session.announceAll setup
      (outcome.sent.map fun announcement =>
        (announcement.file, announcement.lines))
  store := outcome.store
  details := detailsAfter desk.store outcome.store desk.details

def deleteBreakpoint
    (setup : Setup)
    (surroundings : Surroundings)
    (bp : Ref)
    (desk : Desk κ) : Except Fault (Desk κ) := do
  let outcome ←
    desk.store.deleteBreakpoint (desk.surroundings surroundings) bp
  .ok (desk.tell setup outcome)

def addBreakpoint
    (setup : Setup)
    (surroundings : Surroundings)
    (filename : WxString)
    (line : Int)
    (desk : Desk κ) : Except Fault (Desk κ) := do
  let (_, outcome) ←
    desk.store.addBreakpoint (desk.surroundings surroundings) filename line
  .ok (desk.tell setup outcome)

/-- `*bp = dlg.GetBreakpoint()`. -/
def edit (bp : Ref) (settings : Settings) (desk : Desk κ) : Desk κ where
  session := desk.session
  store := desk.store.modify bp (.setIsEnabled settings.enabled)
  details := settings.write bp desk.details

def editData (bp : Ref) (settings : DataSettings) (desk : Desk κ) :
    Desk κ where
  session := desk.session
  store :=
    desk.store.modify bp fun breakpoint =>
      { breakpoint with
        enabled := settings.isEnabled
        breakAddress := settings.dataExpression }
  details :=
    Function.update desk.details bp
      { desk.details bp with
        breakOnRead := settings.selection ≠ 1
        breakOnWrite := settings.selection ≠ 0 }

/-- What `UpdateBreakpoint` does when `reset` is set. -/
def reset
    (setup : Setup)
    (surroundings : Surroundings)
    (bp : Ref)
    (desk : Desk κ) : Except Fault (Desk κ) := do
  let debuggerIsStopped := desk.session.isStopped
  let paused :=
    if debuggerIsStopped then desk else desk.ask setup (.pause notFound)
  let deleted ← paused.deleteBreakpoint setup surroundings bp
  let added ←
    deleted.addBreakpoint setup surroundings
      (deleted.store.breakpoint bp).filename
      (deleted.store.breakpoint bp).line
  .ok
    (if debuggerIsStopped then added.ask setup (.continue_ notFound true)
    else added)

def updateBreakpoint
    (setup : Setup)
    (surroundings : Surroundings)
    (dialogs : Dialogs)
    (bp : Ref)
    (desk : Desk κ) : Except Fault (Desk κ) :=
  if bp ∈ desk.store.breakpoints then
    match (desk.store.breakpoint bp).type with
    | .bptCode =>
        match dialogs.editBreakpoint with
        | some settings => (desk.edit bp settings).reset setup surroundings bp
        | none => .ok desk
    | .bptData =>
        match dialogs.dataBreakpoint with
        | some settings =>
            (desk.editData bp settings).reset setup surroundings bp
        | none => .ok desk
    | .bptFunction => .ok desk
  else .ok desk

end Desk

/-! ## Pause and continue -/

def isPause : RequestBody → Bool
  | .pause _ => true
  | _ => false

def isContinue : RequestBody → Bool
  | .continue_ _ _ => true
  | _ => false

/-- A continue request is sent exactly if a pause request was sent first. -/
structure PausedFirst (requests : List RequestBody) : Prop where
  both :
    (∃ request ∈ requests, isContinue request = true) ↔
      ∃ request ∈ requests, isPause request = true
  first :
    ∀ earlier request later,
      requests = earlier ++ request :: later → isContinue request = true →
        ∃ before ∈ earlier, isPause before = true

section Requests

variable {requests : List RequestBody}

theorem announcement_not_halts
    {request : RequestBody}
    (announces : IsAnnouncement request) :
    isPause request = false ∧ isContinue request = false := by
  cases request <;> first | exact ⟨rfl, rfl⟩ | exact absurd announces id

theorem pausedFirst_of_announcements
    (announce : ∀ request ∈ requests, IsAnnouncement request) :
    PausedFirst requests where
  both := by
    refine iff_of_false ?_ ?_
    · rintro ⟨request, member, continues⟩
      rw [(announcement_not_halts (announce request member)).2] at continues
      cases continues
    · rintro ⟨request, member, pauses⟩
      rw [(announcement_not_halts (announce request member)).1] at pauses
      cases pauses
  first := by
    rintro earlier request later rfl continues
    have announces :=
      announce request (List.mem_append_right _ List.mem_cons_self)
    rw [(announcement_not_halts announces).2] at continues
    cases continues

/-- A continue request behind announcements only has no pause before it. -/
theorem not_pausedFirst_continue
    (announce : ∀ request ∈ requests, IsAnnouncement request)
    (threadId : Int)
    (singleThread : Bool) :
    ¬ PausedFirst (requests ++ [.continue_ threadId singleThread]) := by
  intro bracketed
  rcases bracketed.both.mp
      ⟨_, List.mem_append_right _ List.mem_cons_self, rfl⟩ with
    ⟨request, member, pauses⟩
  rcases List.mem_append.mp member with announced | last
  · rw [(announcement_not_halts (announce request announced)).1] at pauses
    cases pauses
  · rw [List.mem_singleton.mp last] at pauses
    cases pauses

/-- A pause request is not matched by announcements. -/
theorem not_pausedFirst_pause
    (announce : ∀ request ∈ requests, IsAnnouncement request)
    (threadId : Int) :
    ¬ PausedFirst (.pause threadId :: requests) := by
  intro bracketed
  rcases bracketed.both.mpr ⟨_, List.mem_cons_self, rfl⟩ with
    ⟨request, member, continues⟩
  rcases List.mem_cons.mp member with rfl | announced
  · cases continues
  · rw [(announcement_not_halts (announce request announced)).2] at continues
    cases continues

end Requests

/-! ## Over a transport -/

section Resetting

variable {setup : Setup} {surroundings : Surroundings} {bp : Ref}
variable {desk next after : Desk κ}

namespace Desk

theorem atStop_iff :
    (desk.surroundings surroundings).AtStop ↔
      desk.session.runningAndStopped = true :=
  Bool.and_eq_true_iff.symm

theorem delete_ok
    (deleted : desk.deleteBreakpoint setup surroundings bp = .ok next) :
    ∃ outcome,
      desk.store.deleteBreakpoint (desk.surroundings surroundings) bp =
          .ok outcome ∧
        next = desk.tell setup outcome := by
  rcases exists_ok_of_bind deleted with ⟨outcome, performed, same⟩
  cases same
  exact ⟨outcome, performed, rfl⟩

theorem add_ok
    {filename : WxString}
    {line : Int}
    (added : desk.addBreakpoint setup surroundings filename line = .ok next) :
    ∃ ref outcome,
      desk.store.addBreakpoint (desk.surroundings surroundings) filename
            line = .ok (ref, outcome) ∧
        next = desk.tell setup outcome := by
  rcases exists_ok_of_bind added with ⟨⟨ref, outcome⟩, performed, same⟩
  cases same
  exact ⟨ref, outcome, performed, rfl⟩

/-- The debugger pauses unless it has stopped. -/
def paused (setup : Setup) (desk : Desk κ) : Desk κ :=
  if desk.session.isStopped then desk else desk.ask setup (.pause notFound)

/-- The debugger goes on if it had stopped. -/
def resumed (setup : Setup) (wasStopped : Bool) (desk : Desk κ) : Desk κ :=
  if wasStopped then desk.ask setup (.continue_ notFound true) else desk

theorem reset_ok_iff :
    desk.reset setup surroundings bp = .ok after ↔
      ∃ deleted added,
        (desk.paused setup).deleteBreakpoint setup surroundings bp =
            .ok deleted ∧
          deleted.addBreakpoint setup surroundings
              (deleted.store.breakpoint bp).filename
              (deleted.store.breakpoint bp).line = .ok added ∧
          after = added.resumed setup desk.session.isStopped := by
  constructor
  · intro ran
    rcases exists_ok_of_bind ran with ⟨deleted, first, rest⟩
    rcases exists_ok_of_bind rest with ⟨added, second, same⟩
    cases same
    exact ⟨deleted, added, first, second, rfl⟩
  · rintro ⟨deleted, added, first, second, rfl⟩
    show ((desk.paused setup).deleteBreakpoint setup surroundings bp >>= _) =
      _
    rw [first]
    show (deleted.addBreakpoint setup surroundings _ _ >>= _) = _
    rw [second]
    rfl

end Desk

/-- Deleting and adding only send announcements. -/
theorem onlyAnnounces_between
    {deleted added : Desk κ}
    {filename : WxString}
    {line : Int}
    (first : desk.deleteBreakpoint setup surroundings bp = .ok deleted)
    (second :
      deleted.addBreakpoint setup surroundings filename line = .ok added) :
    OnlyAnnounces desk.session added.session := by
  rcases Desk.delete_ok first with ⟨outcome, -, rfl⟩
  rcases Desk.add_ok second with ⟨ref, last, -, rfl⟩
  exact (onlyAnnounces_announceAll setup _ desk.session).trans
    (onlyAnnounces_announceAll setup _ (desk.tell setup outcome).session)

theorem linked_between
    {deleted added : Desk κ}
    {filename : WxString}
    {line : Int}
    (linked : Linked desk.session)
    (first : desk.deleteBreakpoint setup surroundings bp = .ok deleted)
    (second :
      deleted.addBreakpoint setup surroundings filename line = .ok added) :
    Linked added.session := by
  rcases Desk.delete_ok first with ⟨outcome, -, rfl⟩
  rcases Desk.add_ok second with ⟨ref, last, -, rfl⟩
  exact (asks_announceAll setup _ (asks_announceAll setup _ linked).linked)
    |>.linked

/-- Over a transport either a pause or a continue request is sent. -/
theorem reset_sends_linked
    (linked : Linked desk.session)
    (ran : desk.reset setup surroundings bp = .ok after) :
    ∃ requests,
      Sends requests desk.session after.session ∧ ¬ PausedFirst requests := by
  rcases Desk.reset_ok_iff.mp ran with
    ⟨deleted, added, first, second, rfl⟩
  rcases onlyAnnounces_between first second with ⟨requests, sends, announce⟩
  by_cases wasStopped : desk.session.isStopped = true
  · have here : desk.paused setup = desk := if_pos wasStopped
    rw [here] at first sends
    have still := linked_between linked first second
    have continues :
        Sends
          [.continue_
            (added.session.debugger.client.resolveThread notFound)
            (!true || added.session.debugger.client.resolveThread notFound ==
              notFound)]
          added.session
          (added.session.perform setup (.continue_ notFound true)) :=
      sends_request still rfl
    rw [Desk.resumed, if_pos wasStopped]
    exact ⟨_, sends.trans continues, not_pausedFirst_continue announce _ _⟩
  · have here :
        desk.paused setup = desk.ask setup (.pause notFound) :=
      if_neg wasStopped
    rw [here] at first sends
    have pauses :
        Sends
          [.pause (desk.session.debugger.client.resolveThread notFound)]
          desk.session (desk.session.perform setup (.pause notFound)) :=
      sends_request linked rfl
    rw [Desk.resumed, if_neg wasStopped]
    exact ⟨_, pauses.trans sends, not_pausedFirst_pause announce _⟩

end Resetting

/-! ## Without a transport -/

section Severing

variable {setup : Setup} {surroundings : Surroundings} {bp : Ref}
variable {desk next : Desk κ}

theorem paused_severed (severed : Severed desk.session) :
    Severed (desk.paused setup).session ∧
      Sends [] desk.session (desk.paused setup).session ∧
      ((desk.paused setup).session.runningAndStopped =
        desk.session.runningAndStopped) ∧
      (desk.paused setup).store = desk.store ∧
      (desk.paused setup).details = desk.details := by
  rw [Desk.paused]
  split
  · exact ⟨severed, Sends.refl _, rfl, rfl, rfl⟩
  · next running =>
      rcases @perform_severed κ setup desk.session (.pause notFound) trivial
          severed with
        ⟨sends, still, halted⟩
      have closed : desk.session.runningAndStopped = false := by
        rw [Session.runningAndStopped, eq_false_of_ne_true running]
        exact Bool.and_false _
      exact ⟨still, sends, (closed_of_halted halted).trans closed.symm, rfl,
        rfl⟩

/-- The store once the breakpoint is deleted. -/
def withoutIt
    (surroundings : Surroundings)
    (bp : Ref)
    (store : Store) : Store :=
  let unlisted := store.unlist (file store bp) bp
  if surroundings.AtStop then
    unlisted.remember surroundings (file store bp)
  else unlisted

/-- The store once a breakpoint is added, away from a stop. -/
def withAdded
    (surroundings : Surroundings)
    (filename : WxString)
    (line : Int)
    (store : Store) : Store :=
  let filenameBRK := store.filenameBRK filename
  match target surroundings filename line (-1) store with
  | some found => store.modify found (.setIsEnabled true)
  | none =>
      store.listNew (surroundings.findProjectForFile filenameBRK) filenameBRK
        line (-1)

theorem delete_leaves
    {store : Store}
    {outcome : Outcome}
    (listed : bp ∈ store.breakpoints)
    (code : (store.breakpoint bp).type = .bptCode)
    (deleted : store.deleteBreakpoint surroundings bp = .ok outcome) :
    outcome.store = withoutIt surroundings bp store ∧
      (surroundings.AtStop → outcome.sent ≠ []) := by
  rw [deleteBreakpoint_code listed code] at deleted
  rw [withoutIt]
  by_cases atStop : surroundings.AtStop
  · rw [announce_ok atStop deleted, if_pos atStop]
    exact ⟨rfl, fun _ => List.cons_ne_nil _ _⟩
  · rw [announce_away atStop] at deleted
    cases deleted
    rw [if_neg atStop]
    exact ⟨rfl, fun stopped => absurd stopped atStop⟩

theorem addBreakpoint_away
    (away : ¬ surroundings.AtStop)
    (filename : WxString)
    (line : Int)
    (store : Store) :
    ∃ ref,
      store.addBreakpoint surroundings filename line =
        .ok (ref, ⟨withAdded surroundings filename line store, []⟩) := by
  rw [withAdded]
  cases there : target surroundings filename line (-1) store with
  | some found =>
      rw [target_withoutID] at there
      rw [addBreakpoint_found there, Store.switch]
      refine ⟨found, ?_⟩
      let switched : Outcome :=
        ⟨store.modify found (.setIsEnabled true), []⟩
      show _ = Except.ok (found, switched)
      split
      · rw [announce_away away]
        rfl
      · next already =>
          have fixed :
              store.modify found (.setIsEnabled true) = store :=
            Store.modify_of_fixed _ _
              (by rw [DapBreakpoint.setIsEnabled, ← not_not.mp already])
          have sameOutcome : switched = ⟨store, []⟩ :=
            congrArg (Outcome.mk · []) fixed
          rw [sameOutcome]
          rfl
  | none =>
      rw [target_withoutID] at there
      rw [addBreakpoint_new there, Store.addNew, announce_away away]
      exact ⟨_, rfl⟩

theorem heap_withoutIt (store : Store) :
    (withoutIt surroundings bp store).heap = store.heap := by
  rw [withoutIt]
  split <;> rfl

theorem breakpoint_withoutIt (store : Store) :
    (withoutIt surroundings bp store).breakpoint = store.breakpoint := by
  unfold Store.breakpoint
  rw [heap_withoutIt]

/-- Of the state only matters whether it is one of a stop. -/
theorem withoutIt_congr
    (store : Store)
    (sameGuard :
      next.session.runningAndStopped = desk.session.runningAndStopped) :
    withoutIt (next.surroundings surroundings) bp store =
      withoutIt (desk.surroundings surroundings) bp store := by
  rw [withoutIt, withoutIt]
  by_cases atStop : (desk.surroundings surroundings).AtStop
  · have atStopToo : (next.surroundings surroundings).AtStop := by
      rw [Desk.atStop_iff, sameGuard]
      exact Desk.atStop_iff.mp atStop
    rw [if_pos atStop, if_pos atStopToo]
    rfl
  · have awayToo : ¬ (next.surroundings surroundings).AtStop := by
      rw [Desk.atStop_iff, sameGuard]
      exact mt Desk.atStop_iff.mpr atStop
    rw [if_neg atStop, if_neg awayToo]

theorem detailsAfter_of_size
    {before after : Store}
    {details : Ref → Details}
    (same : after.heap.size = before.heap.size) :
    detailsAfter before after details = details := by
  funext ref
  refine if_neg fun made => ?_
  rw [same] at made
  exact absurd made.2 (Nat.not_lt.mpr made.1)

/-- Deleting is announced at a stop, and then nothing runs any more. -/
theorem delete_severed
    (severed : Severed desk.session)
    (listed : bp ∈ desk.store.breakpoints)
    (code : (desk.store.breakpoint bp).type = .bptCode)
    (deleted : desk.deleteBreakpoint setup surroundings bp = .ok next) :
    Severed next.session ∧ next.session.runningAndStopped = false ∧
      next.store =
        withoutIt (desk.surroundings surroundings) bp desk.store ∧
      next.details = desk.details := by
  rcases Desk.delete_ok deleted with ⟨outcome, performed, rfl⟩
  rcases delete_leaves listed code performed with ⟨left, announced⟩
  have told :=
    @announceAll_severed κ setup desk.session
      (outcome.sent.map fun announcement =>
        (announcement.file, announcement.lines)) severed
  have either :
      (outcome.sent.map fun announcement =>
          (announcement.file, announcement.lines)) ≠ [] ∨
        desk.session.runningAndStopped = false := by
    by_cases atStop : (desk.surroundings surroundings).AtStop
    · exact Or.inl (mt List.map_eq_nil_iff.mp (announced atStop))
    · exact Or.inr (eq_false_of_ne_true (mt Desk.atStop_iff.mpr atStop))
  refine ⟨told.1, told.2 either, left, ?_⟩
  have sameSize : outcome.store.heap.size = desk.store.heap.size := by
    rw [left, heap_withoutIt]
  exact detailsAfter_of_size sameSize

/-- What the operation leaves behind without a transport. -/
theorem reset_severed
    {after : Desk κ}
    (severed : Severed desk.session)
    (listed : bp ∈ desk.store.breakpoints)
    (code : (desk.store.breakpoint bp).type = .bptCode)
    (ran : desk.reset setup surroundings bp = .ok after) :
    let left := withoutIt (desk.surroundings surroundings) bp desk.store
    after.store =
        withAdded surroundings (desk.store.breakpoint bp).filename
          (desk.store.breakpoint bp).line left ∧
      after.details = detailsAfter left after.store desk.details ∧
      ∃ requests,
        Sends requests desk.session after.session ∧
          PausedFirst requests := by
  intro left
  rcases Desk.reset_ok_iff.mp ran with ⟨deleted, added, first, second, rfl⟩
  rcases @paused_severed κ setup desk severed with
    ⟨still, pauses, sameGuard, sameStore, sameDetails⟩
  rw [← sameStore] at listed code
  rcases delete_severed still listed code first with
    ⟨stillToo, closed, leftover, keptDetails⟩
  rw [withoutIt_congr _ sameGuard, sameStore] at leftover
  have here :
      deleted.store.breakpoint bp = desk.store.breakpoint bp := by
    rw [leftover, breakpoint_withoutIt]
  rcases onlyAnnounces_between first second with ⟨requests, sends, announce⟩
  have away : ¬ (deleted.surroundings surroundings).AtStop := by
    rw [Desk.atStop_iff, closed]
    exact Bool.false_ne_true
  rcases Desk.add_ok second with ⟨ref, outcome, performed, rfl⟩
  rcases addBreakpoint_away away (deleted.store.breakpoint bp).filename
      (deleted.store.breakpoint bp).line deleted.store with
    ⟨other, same⟩
  rw [same] at performed
  cases performed
  let settled :=
    deleted.tell setup
      ⟨withAdded surroundings (deleted.store.breakpoint bp).filename
        (deleted.store.breakpoint bp).line deleted.store, []⟩
  have resumes :
      Sends [] settled.session
        (settled.resumed setup desk.session.isStopped).session ∧
        (settled.resumed setup desk.session.isStopped).store =
          settled.store ∧
        (settled.resumed setup desk.session.isStopped).details =
          settled.details := by
    rw [Desk.resumed]
    split
    · exact ⟨(@perform_severed κ setup deleted.session
        (.continue_ notFound true) trivial stillToo).1, rfl, rfl⟩
    · exact ⟨Sends.refl _, rfl, rfl⟩
  have storeThen :
      settled.store =
        withAdded surroundings (desk.store.breakpoint bp).filename
          (desk.store.breakpoint bp).line left := by
    rw [← here, ← show deleted.store = left from leftover]
    rfl
  have detailsThen :
      settled.details = detailsAfter left settled.store desk.details := by
    show detailsAfter deleted.store settled.store deleted.details = _
    rw [leftover, keptDetails, sameDetails]
  refine ⟨resumes.2.1.trans storeThen, ?_, requests, ?_,
    pausedFirst_of_announcements announce⟩
  · rw [← resumes.2.1] at detailsThen
    exact resumes.2.2.trans detailsThen
  · have all := (pauses.trans sends).trans resumes.1
    rw [List.nil_append, List.append_nil] at all
    exact all

/-- Without a transport only the deletion can fault. -/
theorem reset_severed_ok_iff
    (severed : Severed desk.session)
    (listed : bp ∈ desk.store.breakpoints)
    (code : (desk.store.breakpoint bp).type = .bptCode) :
    (∃ after, desk.reset setup surroundings bp = .ok after) ↔
      ((desk.surroundings surroundings).AtStop →
        Lasts desk.store (file desk.store bp)
          [(desk.store.breakpoint bp).line]) := by
  rcases @paused_severed κ setup desk severed with
    ⟨still, -, sameGuard, sameStore, -⟩
  have sameStop :
      ((desk.paused setup).surroundings surroundings).AtStop ↔
        (desk.surroundings surroundings).AtStop := by
    rw [Desk.atStop_iff, Desk.atStop_iff, sameGuard]
  rw [← sameStore] at listed code ⊢
  rw [← sameStop, ← delete_ok_iff listed code]
  constructor
  · rintro ⟨after, ran⟩
    rcases Desk.reset_ok_iff.mp ran with ⟨deleted, added, first, -, -⟩
    rcases Desk.delete_ok first with ⟨outcome, performed, -⟩
    exact ⟨outcome, performed⟩
  · rintro ⟨outcome, performed⟩
    let deleted := (desk.paused setup).tell setup outcome
    have first :
        (desk.paused setup).deleteBreakpoint setup surroundings bp =
          .ok deleted := by
      rw [Desk.deleteBreakpoint, performed]
      rfl
    have closed := (delete_severed still listed code first).2.1
    have away : ¬ (deleted.surroundings surroundings).AtStop := by
      rw [Desk.atStop_iff, closed]
      exact Bool.false_ne_true
    rcases addBreakpoint_away away (deleted.store.breakpoint bp).filename
        (deleted.store.breakpoint bp).line deleted.store with
      ⟨ref, performedToo⟩
    have second :
        ∃ added,
          deleted.addBreakpoint setup surroundings
              (deleted.store.breakpoint bp).filename
              (deleted.store.breakpoint bp).line = .ok added := by
      rw [Desk.addBreakpoint, performedToo]
      exact ⟨_, rfl⟩
    rcases second with ⟨added, second⟩
    exact ⟨_, Desk.reset_ok_iff.mpr ⟨deleted, added, first, second, rfl⟩⟩

end Severing

/-! ## The edited breakpoint -/

/-- The settings of a new breakpoint. -/
def Settings.initial : Settings where
  enabled := true
  useIgnoreCount := false
  ignoreCount := 0
  useCondition := false
  condition := []

def settingsOf
    (store : Store)
    (details : Ref → Details)
    (ref : Ref) : Settings where
  enabled := (store.breakpoint ref).enabled
  useIgnoreCount := (details ref).useIgnoreCount
  ignoreCount := (details ref).ignoreCount
  useCondition := (details ref).useCondition
  condition := (details ref).condition

/-- The entries on the line of a file. -/
def onLine
    (filename : WxString)
    (line : Int)
    (store : Store) : List Ref :=
  store.breakpoints.filter fun ref =>
    (store.breakpoint ref).filename = filename ∧
      (store.breakpoint ref).line = line

/--
The list has one breakpoint on the line of the edited one, with the settings
of the dialog, and the others as they were.
-/
structure Carried
    (bp : Ref)
    (settings : Settings)
    (store : Store)
    (details : Ref → Details)
    (after : Store)
    (detailsThen : Ref → Details)
    (ref : Ref) : Prop where
  alone :
    onLine (store.breakpoint bp).filename (store.breakpoint bp).line after =
      [ref]
  carries : settingsOf after detailsThen ref = settings
  others :
    after.breakpoints.filter (· ≠ ref) = store.breakpoints.filter (· ≠ bp)
  unchanged :
    ∀ other ∈ store.breakpoints, other ≠ bp →
      after.breakpoint other = store.breakpoint other ∧
        detailsThen other = details other

/--
`UpdateBreakpoint` comes to its end with the edit carried out, and it sends a
continue request exactly if it sends a pause request first.
-/
def Consistent
    (setup : Setup)
    (surroundings : Surroundings)
    (dialogs : Dialogs)
    (settings : Settings)
    (bp : Ref)
    (desk : Desk κ) : Prop :=
  ∃ after ref requests,
    desk.updateBreakpoint setup surroundings dialogs bp = .ok after ∧
      Carried bp settings desk.store desk.details after.store after.details
        ref ∧
      Sends requests desk.session after.session ∧ PausedFirst requests

/-- The store with the edit written to the object, and that one deleted. -/
def leftBehind
    (surroundings : Surroundings)
    (bp : Ref)
    (settings : Settings)
    (store : Store) : Store :=
  withoutIt surroundings bp
    (store.modify bp (.setIsEnabled settings.enabled))

/--
Adding makes a breakpoint on the line, which has no other, and the settings
are those of a new one.  Where adding finds a breakpoint it is enabled, and
the object is listed once more.
-/
def Replaceable
    (surroundings : Surroundings)
    (bp : Ref)
    (settings : Settings)
    (store : Store) : Prop :=
  let filename := (store.breakpoint bp).filename
  let line := (store.breakpoint bp).line
  let left := leftBehind surroundings bp settings store
  (∀ found ∈ target surroundings filename line (-1) left,
    onLine filename line left = [bp] ∧
      (left.breakpoint found).enabled = true) ∧
    (target surroundings filename line (-1) left = none →
      onLine filename line left = [] ∧ left.filenameBRK filename = filename ∧
        settings = Settings.initial)

instance
    (surroundings : Surroundings)
    (bp : Ref)
    (settings : Settings)
    (store : Store) :
    Decidable (Replaceable surroundings bp settings store) :=
  inferInstanceAs
    (Decidable ((∀ found ∈ target _ _ _ _ _, _) ∧ (_ → _ ∧ _ ∧ _)))

section Edited

variable {surroundings : Surroundings} {store : Store} {bp : Ref}
variable {settings : Settings} {details : Ref → Details}

theorem filter_erase_self (refs : List Ref) :
    (refs.erase bp).filter (· ≠ bp) = refs.filter (· ≠ bp) := by
  rw [← List.erase_filter]
  exact List.erase_of_not_mem (by simp)

/-- What is alone on a line is listed. -/
theorem mem_of_onLine
    {ref : Ref}
    {filename : WxString}
    {line : Int}
    (alone : onLine filename line store = [ref]) :
    ref ∈ store.breakpoints := by
  have member : ref ∈ onLine filename line store := by
    rw [alone]
    exact List.mem_cons_self
  exact List.mem_of_mem_filter member

theorem leftBehind_breakpoints (listed : bp ∈ store.breakpoints) :
    (leftBehind surroundings bp settings store).breakpoints =
      store.breakpoints.erase bp := by
  let edited := store.modify bp (.setIsEnabled settings.enabled)
  have unlisted := @breakpoints_unlist edited bp listed (file edited bp)
  rw [leftBehind, withoutIt]
  split
  · exact unlisted
  · exact unlisted

theorem leftBehind_breakpoint (ref : Ref) :
    (leftBehind surroundings bp settings store).breakpoint ref =
      (store.modify bp (.setIsEnabled settings.enabled)).breakpoint ref := by
  rw [leftBehind, breakpoint_withoutIt]

theorem leftBehind_of_ne {other : Ref} (different : other ≠ bp) :
    (leftBehind surroundings bp settings store).breakpoint other =
      store.breakpoint other := by
  rw [leftBehind_breakpoint, Store.breakpoint_modify_of_ne _ _ different]

theorem leftBehind_enabled :
    ((leftBehind surroundings bp settings store).breakpoint bp).enabled =
      settings.enabled := by
  rw [leftBehind_breakpoint, Store.breakpoint_modify_self]
  rfl

theorem leftBehind_field
    {β : Type}
    (field : DapBreakpoint → β)
    (kept :
      ∀ breakpoint, field (breakpoint.setIsEnabled settings.enabled) =
        field breakpoint)
    (ref : Ref) :
    field ((leftBehind surroundings bp settings store).breakpoint ref) =
      field (store.breakpoint ref) := by
  rw [leftBehind_breakpoint]
  exact field_modify field _ kept bp ref

theorem leftBehind_heap :
    (leftBehind surroundings bp settings store).heap.size =
      store.heap.size := by
  rw [leftBehind, heap_withoutIt]
  rfl

theorem settingsOf_write {after : Store} :
    settingsOf after (settings.write bp details) bp =
      { settings with enabled := (after.breakpoint bp).enabled } := by
  rw [settingsOf, Settings.write, Function.update_self]

theorem write_of_ne {other : Ref} (different : other ≠ bp) :
    settings.write bp details other = details other :=
  Function.update_of_ne different _ details

/-- Where adding finds a breakpoint the object itself has to be left. -/
theorem carried_found_iff
    {found : Ref}
    {after : Store}
    (listed : bp ∈ store.breakpoints)
    (there :
      target surroundings (store.breakpoint bp).filename
          (store.breakpoint bp).line (-1)
          (leftBehind surroundings bp settings store) = some found)
    (added :
      after =
        (leftBehind surroundings bp settings store).modify found
          (.setIsEnabled true)) :
    (∃ ref,
      Carried bp settings store details after
        (settings.write bp details) ref) ↔
      onLine (store.breakpoint bp).filename (store.breakpoint bp).line
          (leftBehind surroundings bp settings store) = [bp] ∧
        ((leftBehind surroundings bp settings store).breakpoint
          found).enabled = true := by
  let left := leftBehind surroundings bp settings store
  have sameLine :
      onLine (store.breakpoint bp).filename (store.breakpoint bp).line after =
        onLine (store.breakpoint bp).filename (store.breakpoint bp).line
          left := by
    rw [onLine, onLine, added]
    simp only [Store.breakpoints_modify,
      field_modify DapBreakpoint.filename (.setIsEnabled true) fun _ => rfl,
      field_modify DapBreakpoint.line (.setIsEnabled true) fun _ => rfl]
    rfl
  have sameList : after.breakpoints = store.breakpoints.erase bp := by
    rw [added]
    exact leftBehind_breakpoints listed
  have foundListed : found ∈ store.breakpoints := by
    have member := mem_of_target there
    rw [leftBehind_breakpoints listed] at member
    exact List.mem_of_mem_erase member
  have foundEnabled : (after.breakpoint found).enabled = true := by
    rw [added, Store.breakpoint_modify_self]
    rfl
  constructor
  · rintro ⟨ref, carried⟩
    have own : ref = bp := by
      by_contra different
      have kept : ref ∈ store.breakpoints.filter (· ≠ bp) := by
        have member : ref ∈ after.breakpoints := mem_of_onLine carried.alone
        rw [sameList] at member
        simp [List.mem_of_mem_erase member, different]
      rw [← carried.others] at kept
      simp at kept
    subst own
    refine ⟨sameLine.symm.trans carried.alone, ?_⟩
    by_cases self : found = ref
    · rw [self, leftBehind_enabled, ← carried.carries]
      show (after.breakpoint ref).enabled = true
      rw [← self, foundEnabled]
    · rw [leftBehind_of_ne self,
        ← (carried.unchanged found foundListed self).1, foundEnabled]
  · rintro ⟨alone, enabled⟩
    have same : after = left := by
      rw [added]
      exact Store.modify_of_fixed _ _
        (by rw [DapBreakpoint.setIsEnabled, ← enabled])
    refine ⟨bp, sameLine.trans alone, ?_, ?_, ?_⟩
    · rw [settingsOf_write, same]
      show { settings with enabled := (left.breakpoint bp).enabled } = _
      rw [leftBehind_enabled]
    · rw [sameList]
      exact filter_erase_self _
    · intro other _ different
      rw [same]
      exact ⟨leftBehind_of_ne different, write_of_ne different⟩

/-- A new breakpoint on the line of another file is not seen there. -/
theorem onLine_listNew
    {left : Store}
    {project : Option Project}
    {filename filenameBRK : WxString}
    {line : Int} :
    onLine filename line (left.listNew project filenameBRK line (-1)) =
      onLine filename line left ++
        if filenameBRK = filename then [left.heap.size] else [] := by
  let listed := left.listNew project filenameBRK line (-1)
  have old :
      (left.breakpoints.filter fun ref =>
        (listed.breakpoint ref).filename = filename ∧
          (listed.breakpoint ref).line = line) =
        onLine filename line left := by
    refine List.filter_congr fun ref member => ?_
    rw [breakpoint_listNew_old member]
  have new :
      ([left.heap.size].filter fun ref =>
        (listed.breakpoint ref).filename = filename ∧
          (listed.breakpoint ref).line = line) =
        if filenameBRK = filename then [left.heap.size] else [] := by
    rw [List.filter_singleton, breakpoint_listNew_new]
    simp [DapBreakpoint.new]
  show ((left.breakpoints ++ [left.heap.size]).filter _) = _
  rw [List.filter_append, ← old, ← new]

/-- A new object has the settings of the constructor. -/
theorem settingsOf_listNew
    {left after : Store}
    {project : Option Project}
    {filename : WxString}
    {line : Int}
    (added : after = left.listNew project filename line (-1)) :
    settingsOf after (detailsAfter left after details) left.heap.size =
      Settings.initial := by
  have made :
      detailsAfter left after details left.heap.size = Details.initial := by
    refine if_pos ⟨Nat.le_refl _, ?_⟩
    rw [added]
    exact Nat.lt_succ_self _
  rw [settingsOf, made, added, breakpoint_listNew_new]
  rfl

theorem leftBehind_fresh :
    (leftBehind surroundings bp settings store).heap.size ∉
      store.breakpoints := by
  intro member
  have below := store.inUse _ member
  rw [leftBehind_heap] at below
  exact absurd below (Nat.lt_irrefl _)

/-- Where the line is left empty the object was listed once. -/
theorem not_mem_erase_of_onLine
    (listed : bp ∈ store.breakpoints)
    (empty :
      onLine (store.breakpoint bp).filename (store.breakpoint bp).line
        (leftBehind surroundings bp settings store) = []) :
    bp ∉ store.breakpoints.erase bp := by
  intro twice
  have member :
      bp ∈ onLine (store.breakpoint bp).filename (store.breakpoint bp).line
        (leftBehind surroundings bp settings store) := by
    rw [onLine, leftBehind_breakpoints listed, List.mem_filter]
    refine ⟨twice, decide_eq_true ⟨?_, ?_⟩⟩
    · exact leftBehind_field DapBreakpoint.filename (fun _ => rfl) bp
    · exact leftBehind_field DapBreakpoint.line (fun _ => rfl) bp
  rw [empty] at member
  cases member

/-- A new entry in the place of one leaves the others. -/
theorem filter_replaced
    {refs : List Ref}
    {new : Ref}
    (fresh : new ∉ refs)
    (once : bp ∉ refs.erase bp) :
    (refs.erase bp ++ [new]).filter (· ≠ new) = refs.filter (· ≠ bp) := by
  have dropped : refs.filter (· ≠ bp) = refs.erase bp := by
    rw [← filter_erase_self, List.filter_eq_self]
    exact fun ref member => decide_eq_true fun same => once (same ▸ member)
  have kept : (refs.erase bp).filter (· ≠ new) = refs.erase bp := by
    rw [List.filter_eq_self]
    exact fun ref member =>
      decide_eq_true fun same => fresh (same ▸ List.mem_of_mem_erase member)
  rw [List.filter_append, kept, dropped]
  simp

/-- A new breakpoint carries the settings of the constructor. -/
theorem carried_new_iff
    {project : Option Project}
    {filenameBRK : WxString}
    {after : Store}
    (listed : bp ∈ store.breakpoints)
    (added :
      after =
        (leftBehind surroundings bp settings store).listNew project
          filenameBRK (store.breakpoint bp).line (-1)) :
    (∃ ref,
      Carried bp settings store details after
        (detailsAfter (leftBehind surroundings bp settings store) after
          (settings.write bp details)) ref) ↔
      onLine (store.breakpoint bp).filename (store.breakpoint bp).line
          (leftBehind surroundings bp settings store) = [] ∧
        filenameBRK = (store.breakpoint bp).filename ∧
        settings = Settings.initial := by
  let left := leftBehind surroundings bp settings store
  let new := left.heap.size
  have fresh : new ∉ store.breakpoints := leftBehind_fresh
  have leftList : left.breakpoints = store.breakpoints.erase bp :=
    leftBehind_breakpoints listed
  have sameList : after.breakpoints = store.breakpoints.erase bp ++ [new] := by
    rw [added, ← leftList]
    rfl
  have newSettings :
      settingsOf after
          (detailsAfter left after (settings.write bp details)) new =
        Settings.initial :=
    settingsOf_listNew added
  have seen := @onLine_listNew left project (store.breakpoint bp).filename
    filenameBRK (store.breakpoint bp).line
  rw [← show after = left.listNew _ _ _ _ from added] at seen
  constructor
  · rintro ⟨ref, carried⟩
    have own : ref = new := by
      by_contra different
      have kept : new ∈ after.breakpoints.filter (· ≠ ref) := by
        rw [sameList]
        simp [Ne.symm different]
      rw [carried.others] at kept
      exact fresh (List.mem_of_mem_filter kept)
    subst own
    have alone := seen.symm.trans carried.alone
    have here : filenameBRK = (store.breakpoint bp).filename := by
      by_contra elsewhere
      rw [if_neg elsewhere, List.append_nil] at alone
      have member : new ∈ left.breakpoints := mem_of_onLine alone
      rw [leftList] at member
      exact fresh (List.mem_of_mem_erase member)
    rw [if_pos here] at alone
    exact ⟨(List.append_left_inj [new]).mp alone, here,
      carried.carries.symm.trans newSettings⟩
  · rintro ⟨empty, here, initial⟩
    have once := not_mem_erase_of_onLine listed empty
    refine ⟨new, ?_, newSettings.trans initial.symm, ?_, ?_⟩
    · rw [seen, if_pos here, show onLine _ _ left = [] from empty]
      rfl
    · rw [sameList]
      exact filter_replaced fresh once
    · intro other member different
      have inLeft : other ∈ left.breakpoints := by
        rw [leftList]
        exact (List.mem_erase_of_ne different).mpr member
      constructor
      · rw [added, breakpoint_listNew_old inLeft]
        exact leftBehind_of_ne different
      · rw [detailsAfter_of_listed inLeft]
        exact write_of_ne different

/-- The edit is carried exactly where a new breakpoint can replace it. -/
theorem carried_iff (listed : bp ∈ store.breakpoints) :
    let left := leftBehind surroundings bp settings store
    let after :=
      withAdded surroundings (store.breakpoint bp).filename
        (store.breakpoint bp).line left
    (∃ ref,
      Carried bp settings store details after
        (detailsAfter left after (settings.write bp details)) ref) ↔
      Replaceable surroundings bp settings store := by
  intro left after
  rw [Replaceable]
  have added : after = withAdded surroundings _ _ left := rfl
  rw [withAdded] at added
  cases there :
      target surroundings (store.breakpoint bp).filename
        (store.breakpoint bp).line (-1) left with
  | some found =>
      rw [there] at added
      have sameHeap : after.heap.size = left.heap.size := by
        rw [added]
        rfl
      have kept :
          detailsAfter left after (settings.write bp details) =
            settings.write bp details :=
        detailsAfter_of_size sameHeap
      rw [kept, carried_found_iff listed there added]
      simp only [Option.mem_some_iff, forall_eq', reduceCtorEq,
        IsEmpty.forall_iff, and_true]
  | none =>
      rw [there] at added
      rw [carried_new_iff listed added]
      simp only [Option.not_mem_none, IsEmpty.forall_iff, implies_true,
        true_and, forall_const]
      rfl

theorem lasts_setIsEnabled
    {filename : WxString}
    {removed : List Int}
    (bEnable : Bool) :
    Lasts (store.modify bp (.setIsEnabled bEnable)) filename removed ↔
      Lasts store filename removed := by
  unfold Lasts OnlyFile entryLines drawer
  simp only [field_modify DapBreakpoint.line (.setIsEnabled bEnable) fun _ =>
    rfl]
  rfl

end Edited

section Accepted

variable {setup : Setup} {surroundings : Surroundings} {dialogs : Dialogs}
variable {settings : Settings} {bp : Ref} {desk : Desk κ}

/--
An accepted edit is consistent exactly if there is no transport, the deletion
does not fault and a new breakpoint can take the place of the edited one.
-/
theorem edit_consistent_iff
    (listed : bp ∈ desk.store.breakpoints)
    (code : (desk.store.breakpoint bp).type = .bptCode)
    (accepted : dialogs.editBreakpoint = some settings) :
    Consistent setup surroundings dialogs settings bp desk ↔
      desk.session.debugger.client.transport = none ∧
        ((desk.surroundings surroundings).AtStop →
          Lasts desk.store (file desk.store bp)
            [(desk.store.breakpoint bp).line]) ∧
        Replaceable (desk.surroundings surroundings) bp settings
          desk.store := by
  let edited := desk.edit bp settings
  have resets :
      desk.updateBreakpoint setup surroundings dialogs bp =
        edited.reset setup surroundings bp := by
    rw [Desk.updateBreakpoint, if_pos listed, code, accepted]
  have listedToo : bp ∈ edited.store.breakpoints := listed
  have codeToo : (edited.store.breakpoint bp).type = .bptCode :=
    (field_modify DapBreakpoint.type (.setIsEnabled settings.enabled)
      (fun _ => rfl) bp bp).trans code
  have sameFile : file edited.store bp = file desk.store bp :=
    field_modify DapBreakpoint.filename (.setIsEnabled settings.enabled)
      (fun _ => rfl) bp bp
  have sameLine :
      (edited.store.breakpoint bp).line = (desk.store.breakpoint bp).line :=
    field_modify DapBreakpoint.line (.setIsEnabled settings.enabled)
      (fun _ => rfl) bp bp
  rw [Consistent, resets]
  by_cases severed : Severed desk.session
  · have severedToo : Severed edited.session := severed
    have noTransport : desk.session.debugger.client.transport = none :=
      severed
    have runs :
        (∃ after, edited.reset setup surroundings bp = .ok after) ↔
          ((desk.surroundings surroundings).AtStop →
            Lasts desk.store (file desk.store bp)
              [(desk.store.breakpoint bp).line]) := by
      rw [reset_severed_ok_iff severedToo listedToo codeToo, sameFile,
        sameLine]
      exact imp_congr_right fun _ => lasts_setIsEnabled settings.enabled
    have replaces :=
      @carried_iff (desk.surroundings surroundings) desk.store bp settings
        desk.details listed
    rw [and_iff_right noTransport, ← runs]
    have leaves
        {after : Desk κ}
        (ran : edited.reset setup surroundings bp = .ok after) :=
      reset_severed severedToo listedToo codeToo ran
    rw [show (edited.store.breakpoint bp).filename =
      (desk.store.breakpoint bp).filename from sameFile, sameLine] at leaves
    constructor
    · rintro ⟨after, ref, requests, ran, carried, -, -⟩
      rcases leaves ran with ⟨storeThen, detailsThen, -⟩
      rw [detailsThen, storeThen] at carried
      exact ⟨⟨after, ran⟩, replaces.mp ⟨ref, carried⟩⟩
    · rintro ⟨⟨after, ran⟩, replaceable⟩
      rcases replaces.mpr replaceable with ⟨ref, carried⟩
      rcases leaves ran with
        ⟨storeThen, detailsThen, requests, sends, bracketed⟩
      refine ⟨after, ref, requests, ran, ?_, sends, bracketed⟩
      rw [detailsThen, storeThen]
      exact carried
  · have linked : Linked edited.session := by
      rw [Linked, Option.isSome_iff_ne_none]
      exact severed
    refine iff_of_false ?_ fun holds => severed holds.1
    rintro ⟨after, ref, requests, ran, -, sends, bracketed⟩
    rcases reset_sends_linked linked ran with ⟨others, sendsToo, unmatched⟩
    rw [sends.unique sendsToo] at bracketed
    exact unmatched bracketed

/-- No session is running, and there is one breakpoint. -/
def beforeSession : Desk Unit where
  session := Session.new Unit
  store := Stopping.oneListed
  details := fun _ => Details.initial

def acceptedWith (settings : Settings) : Dialogs :=
  ⟨some settings, none⟩

theorem edit_consistent_unchanged :
    Consistent plainSetup plainStop (acceptedWith .initial) .initial 0
      beforeSession :=
  (edit_consistent_iff (by decide) (by decide) rfl).mpr
    ⟨rfl, by decide, by decide +kernel⟩

/-- A breakpoint that is disabled in the dialog is enabled again. -/
theorem disabled_not_consistent :
    ¬ Consistent plainSetup plainStop
      (acceptedWith { Settings.initial with enabled := false })
      { Settings.initial with enabled := false } 0 beforeSession := by
  rintro ⟨after, ref, requests, ran, carried, -, -⟩
  cases ran
  -- The list is that of the new object, which is enabled.
  have only : [1] = [ref] := carried.alone
  cases only
  have enabled := congrArg Settings.enabled carried.carries
  revert enabled
  decide +kernel

end Accepted

end DebuggerDap.Breakpoints.EditDialog
