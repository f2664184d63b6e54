import DebuggerDap.Breakpoints.Announcing
import DebuggerDap.Breakpoints.Mirror
import DebuggerDap.DapClient.PrintedLists
import DebuggerDap.Persistence.StateFile
import DebuggerDap.Protocol.LengthArithmetic

/-!
# What a stop does to the breakpoints

`OnStopped` hands a text to `OnProcessBreakpointData`: the description of the
event, or else its text, or else the printed event.  The handler looks there
for the list of breakpoints that were hit and reads it as one number.  It
deletes the breakpoint with that ID if it is a temporary one, and then asks
for the frames and the threads.

A text that neither has such a list nor a blank makes it throw.  The printed
event has a blank; the list found there is the first one whose name ends as
that of the hit breakpoints does, and it is a number if it has one entry.
-/

namespace DebuggerDap.Breakpoints.Stopping

open DebuggerDap.Text.Strings
open DebuggerDap.Text.Numbers
open DebuggerDap.Protocol.JsonTree
open DebuggerDap.Protocol.JsonText
open DebuggerDap.Protocol.LengthArithmetic
open DebuggerDap.DapClient.State
open DebuggerDap.DapClient.ErrorText (NumberText numberText_printNumber)
open DebuggerDap.DapClient.PrintedLists
open DebuggerDap.Library.KeyIndex
open DebuggerDap.Persistence.StateFile
open DebuggerDap.Breakpoints.Store
open DebuggerDap.Breakpoints.Grouping
open DebuggerDap.Breakpoints.Editing
open DebuggerDap.Breakpoints.Announcing
open DebuggerDap.Breakpoints.Mirror

/-! ## The event -/

structure StoppedEvent where
  reason : WxString
  text : WxString
  description : WxString
  allThreadsStopped : Bool
  threadId : Int

/-- `StoppedEvent::From`; an event without a text gets the printed one. -/
def StoppedEvent.from_
    (printDouble : Rat → WxString)
    (json : Json) : StoppedEvent :=
  let body := Json.child (some json) "body".toList
  let text := Json.getString (Json.child body "text".toList) []
  { reason := Json.getString (Json.child body "reason".toList) []
    text :=
      if text = [] then toString_ intRange printDouble true (some json)
      else text
    description := Json.getString (Json.child body "description".toList) []
    allThreadsStopped :=
      Json.getBool (Json.child body "allThreadsStopped".toList) false
    threadId := Json.getInteger (Json.child body "threadId".toList) notFound }

/-- The text `OnStopped` hands on. -/
def StoppedEvent.brkDescription (event : StoppedEvent) : WxString :=
  if event.description = [] then event.text else event.description

/-! ## The handler -/

/-- What ends a handler early. -/
inductive Thrown where
  | outOfRange
  | fault (fault : Fault)
  deriving DecidableEq, Repr

def hitBreakText : WxString :=
  "hitBreakpointIds\": [".toList

/--
The text between the brackets of the list.  Without a list the text from the
first blank on is looked at, and dropped.
-/
def brkID (brkDescription : WxString) : Except Thrown WxString :=
  if brkDescription = [] then .ok []
  else
    match find hitBreakText brkDescription with
    | some brkLookupIndexStart =>
        let brkLookup :=
          brkDescription.drop (brkLookupIndexStart + hitBreakText.length)
        .ok (beforeFirst brkLookup ']')
    | none =>
        if ' ' ∈ brkDescription then .ok [] else .error .outOfRange

def getBreakpointByID (id : Int) (store : Store) : Option Ref :=
  store.breakpoints.find? fun ref => (store.breakpoint ref).id = id

/-- The breakpoint a text is the ID of; the `long` is passed as an `int`. -/
def namedBreakpoint
    (width : LongWidth)
    (brkID : WxString)
    (store : Store) : Option Ref :=
  if brkID ≠ [] then
    (toLong width.range brkID).bind fun id =>
      getBreakpointByID (intRange.wrap id) store
  else none

/-- `OnProcessBreakpointData` before its last two requests. -/
def removeNamed
    (width : LongWidth)
    (surroundings : Surroundings)
    (brkDescription : WxString)
    (details : Ref → Details)
    (store : Store) : Except Thrown Outcome := do
  let brkID ← brkID brkDescription
  match namedBreakpoint width brkID store with
  | some bp =>
      if (store.breakpoint bp).filename ≠ [] ∧ (details bp).temporary then
        match store.deleteBreakpoint surroundings bp with
        | .ok outcome => .ok outcome
        | .error fault => .error (.fault fault)
      else .ok ⟨store, []⟩
  | none => .ok ⟨store, []⟩

section Handlers

variable {κ : Type}

/-- The requests for the views. -/
def refresh : List (ApiCall κ) :=
  [.getFrames notFound 0 0, .getThreads]

def onProcessBreakpointData
    (width : LongWidth)
    (surroundings : Surroundings)
    (brkDescription : WxString)
    (details : Ref → Details)
    (store : Store) : Except Thrown (Store × List (ApiCall κ)) := do
  let outcome ←
    removeNamed width surroundings brkDescription details store
  .ok (outcome.store, outcome.sent.map Announcement.call ++ refresh)

/-- The reasons for which the text of the event is looked at. -/
def dataReasons : List WxString :=
  ["breakpoint".toList, "step".toList, "goto".toList]

/-- The state bit is set first. -/
def stopped (surroundings : Surroundings) : Surroundings :=
  { surroundings with state := surroundings.state.addState .stopped }

/-- `OnStopped`, with what it asks the client for. -/
def onStopped
    (width : LongWidth)
    (surroundings : Surroundings)
    (event : StoppedEvent)
    (details : Ref → Details)
    (store : Store) : Except Thrown (Store × List (ApiCall κ)) :=
  if event.reason ∈ dataReasons then
    onProcessBreakpointData width (stopped surroundings) event.brkDescription
      details store
  else .ok (store, refresh)

end Handlers

/-! ## What the handler does -/

/-- The handler can read the text: there is a list in it, or a blank. -/
def Readable (brkDescription : WxString) : Prop :=
  brkDescription = [] ∨ (find hitBreakText brkDescription).isSome = true ∨
    ' ' ∈ brkDescription

instance (brkDescription : WxString) : Decidable (Readable brkDescription) :=
  inferInstanceAs (Decidable (_ ∨ _ ∨ _))

/-- The breakpoint the handler takes out: a named one on code, of a file. -/
def removable
    (width : LongWidth)
    (brkDescription : WxString)
    (details : Ref → Details)
    (store : Store) : Option Ref :=
  match brkID brkDescription with
  | .ok id =>
      (namedBreakpoint width id store).filter fun bp =>
        (store.breakpoint bp).filename ≠ [] ∧ (details bp).temporary ∧
          (store.breakpoint bp).type = .bptCode
  | .error _ => none

section Handling

variable {width : LongWidth} {surroundings : Surroundings}
variable {brkDescription : WxString} {details : Ref → Details}
variable {store : Store} {bp : Ref} {outcome : Outcome}

theorem brkID_ok_iff :
    (∃ id, brkID brkDescription = .ok id) ↔ Readable brkDescription := by
  rw [brkID, Readable]
  by_cases empty : brkDescription = []
  · simp [empty]
  · rw [if_neg empty]
    cases find hitBreakText brkDescription with
    | some position => simp
    | none =>
        by_cases blank : ' ' ∈ brkDescription <;> simp [empty, blank]

theorem mem_of_namedBreakpoint
    {id : WxString}
    (named : namedBreakpoint width id store = some bp) :
    bp ∈ store.breakpoints := by
  rw [namedBreakpoint] at named
  split at named
  · rcases Option.bind_eq_some_iff.mp named with ⟨number, -, found⟩
    exact List.mem_of_find?_eq_some found
  · cases named

theorem removable_spec
    (removes : removable width brkDescription details store = some bp) :
    bp ∈ store.breakpoints ∧ (store.breakpoint bp).filename ≠ [] ∧
      (details bp).temporary = true ∧
      (store.breakpoint bp).type = .bptCode := by
  rw [removable] at removes
  split at removes
  · rcases Option.filter_eq_some_iff.mp removes with ⟨named, tests⟩
    rw [decide_eq_true_eq] at tests
    exact ⟨mem_of_namedBreakpoint named, tests⟩
  · cases removes

/-- The handler deletes the removable breakpoint, if there is one. -/
theorem removeNamed_eq (readable : Readable brkDescription) :
    removeNamed width surroundings brkDescription details store =
      match removable width brkDescription details store with
      | some bp =>
          (store.deleteBreakpoint surroundings bp).mapError Thrown.fault
      | none => .ok ⟨store, []⟩ := by
  rcases brkID_ok_iff.mpr readable with ⟨id, read⟩
  rw [removeNamed, removable, read]
  dsimp only [bind, Except.bind]
  cases namedBreakpoint width id store with
  | none => rfl
  | some bp =>
      dsimp only
      rw [Option.filter_some]
      by_cases tests :
          (store.breakpoint bp).filename ≠ [] ∧
            (details bp).temporary = true
      · rw [if_pos tests]
        by_cases code : (store.breakpoint bp).type = .bptCode
        · rw [if_pos (decide_eq_true ⟨tests.1, tests.2, code⟩)]
          dsimp only
          cases store.deleteBreakpoint surroundings bp <;> rfl
        · rw [if_neg fun all => code (of_decide_eq_true all).2.2,
            deleteBreakpoint_none fun both => code both.2]
      · rw [if_neg tests, if_neg fun all =>
          tests ⟨(of_decide_eq_true all).1, (of_decide_eq_true all).2.1⟩]

/-- The text can be read, and what it names can be deleted. -/
def Manageable
    (width : LongWidth)
    (surroundings : Surroundings)
    (brkDescription : WxString)
    (details : Ref → Details)
    (store : Store) : Prop :=
  Readable brkDescription ∧
    (surroundings.AtStop →
      ∀ bp ∈ removable width brkDescription details store,
        Lasts store (file store bp) [(store.breakpoint bp).line])

instance : Decidable
    (Manageable width surroundings brkDescription details store) :=
  inferInstanceAs (Decidable (_ ∧ (_ → _)))

theorem removeNamed_ok_iff :
    (∃ outcome,
      removeNamed width surroundings brkDescription details store =
        .ok outcome) ↔
      Manageable width surroundings brkDescription details store := by
  by_cases readable : Readable brkDescription
  · rw [removeNamed_eq readable, Manageable, and_iff_right readable]
    cases removes : removable width brkDescription details store with
    | none => simp
    | some bp =>
        rcases removable_spec removes with ⟨listed, -, -, code⟩
        have deletes := @delete_ok_iff surroundings store bp listed code
        simp only [Option.mem_some_iff, forall_eq']
        rw [← deletes]
        cases store.deleteBreakpoint surroundings bp <;>
          simp [Except.mapError]
  · constructor
    · rintro ⟨outcome, removed⟩
      rcases h : brkID brkDescription with thrown | id
      · rw [removeNamed, h] at removed
        cases removed
      · exact absurd (brkID_ok_iff.mp ⟨id, h⟩) readable
    · exact fun manageable => absurd manageable.1 readable

/-- Objects stay, and the list loses the removable breakpoint. -/
theorem removeNamed_leaves
    (removed :
      removeNamed width surroundings brkDescription details store =
        .ok outcome) :
    outcome.store.heap = store.heap ∧
      outcome.store.breakpoints =
        match removable width brkDescription details store with
        | some bp => store.breakpoints.erase bp
        | none => store.breakpoints := by
  have readable := (removeNamed_ok_iff.mp ⟨outcome, removed⟩).1
  rw [removeNamed_eq readable] at removed
  cases removes : removable width brkDescription details store with
  | none =>
      rw [removes] at removed
      cases removed
      exact ⟨rfl, rfl⟩
  | some bp =>
      rcases removable_spec removes with ⟨listed, -, -, code⟩
      rw [removes] at removed
      dsimp only at removed
      cases deleted : store.deleteBreakpoint surroundings bp with
      | error fault =>
          rw [deleted] at removed
          cases removed
      | ok after =>
          rw [deleted] at removed
          cases removed
          rcases delete_cases deleted with ⟨kept, -⟩ | ⟨-, -, same⟩
          · exact absurd ⟨listed, code⟩ kept
          · exact ⟨same.heap, same.breakpoints.trans
              (breakpoints_unlist listed _)⟩

/-- The handler does not fault after the deletion. -/
theorem onProcess_ok_iff
    {κ : Type}
    {after : Store}
    {calls : List (ApiCall κ)} :
    onProcessBreakpointData width surroundings brkDescription details store =
        .ok (after, calls) ↔
      ∃ outcome,
        removeNamed width surroundings brkDescription details store =
            .ok outcome ∧
          after = outcome.store ∧
          calls = outcome.sent.map Announcement.call ++ refresh := by
  rw [onProcessBreakpointData]
  cases removeNamed width surroundings brkDescription details store with
  | error thrown => exact ⟨nofun, nofun⟩
  | ok outcome =>
      constructor
      · intro ran
        cases ran
        exact ⟨outcome, rfl, rfl, rfl⟩
      · rintro ⟨other, same, rfl, rfl⟩
        cases same
        rfl

theorem onStopped_of_dataReason
    {κ : Type}
    {event : StoppedEvent}
    (data : event.reason ∈ dataReasons) :
    onStopped (κ := κ) width surroundings event details store =
      onProcessBreakpointData width (stopped surroundings)
        event.brkDescription details store :=
  if_pos data

end Handling

/-! ## The number that is announced -/

/-- The name of the list, without its first letter. -/
def hitName : WxString :=
  "itBreakpointIds".toList

theorem hitBreakText_eq : hitBreakText = listMark ('h' :: hitName) :=
  rfl

/-- The name is printed as it is. -/
theorem searchable_hitName : Searchable 'h' hitName := by
  have letters :
      'h' :: hitName =
        ['h', 'i', 't', 'B', 'r', 'e', 'a', 'k', 'p', 'o', 'i', 'n', 't', 'I',
          'd', 's'] :=
    rfl
  refine ⟨?_, ?_, fun ch other member => ?_⟩
  · rw [letters]
    simp [escape]
  · rw [letters]
    simp [punctuation, closers]
  · rcases escape_cases ch with
      ⟨plain, -⟩ | ⟨code, short, coded⟩ | ⟨numbered, control⟩
    · rw [plain] at member
      exact other (List.mem_singleton.mp member).symm
    · have codes : ∀ pair ∈ shortEscapes, pair.2 ≠ 'h' := by
        simp [shortEscapes]
      rw [coded] at member
      rcases List.mem_pair.mp member with isSlash | isCode
      · exact absurd isSlash (by decide)
      · exact codes _ short isCode.symm
    · have digit : ∀ token < 32, 'h' ∉ hexDigits token := by decide
      rw [numbered] at member
      rcases List.mem_append.mp member with inPrefix | inDigits
      · exact absurd inPrefix (by decide)
      · exact digit ch.toNat control inDigits

/-- The description of the event, or else its text. -/
def given (json : Json) : WxString :=
  let body := Json.child (some json) "body".toList
  let description := Json.getString (Json.child body "description".toList) []
  if description = [] then
    Json.getString (Json.child body "text".toList) []
  else description

/-- The number a list of one number is read as; no other list is read. -/
def onlyNumber
    (width : LongWidth)
    (printDouble : Rat → WxString) : List Json → Option Int
  | [.number value] =>
      toLong width.range (printNumber intRange printDouble value)
  | _ => none

/--
The number the event announces: the one in the brackets of its description or
text, or else the only entry of the list in the event.
-/
def announcedId
    (width : LongWidth)
    (printDouble : Rat → WxString)
    (json : Json) : Option Int :=
  if given json = [] then
    (listNamed ('h' :: hitName) json).bind (onlyNumber width printDouble)
  else
    (behind hitBreakText (given json)).bind fun brkLookup =>
      toLong width.range (beforeFirst brkLookup ']')

section Announced

variable {width : LongWidth} {printDouble : Rat → WxString} {json : Json}

/-- An `int` in the list is announced as it is. -/
theorem onlyNumber_int {id : Int} (contains : intRange.Contains id) :
    onlyNumber width printDouble [.number id] = some id := by
  rw [onlyNumber, printNumber_int contains]
  exact toLong_toString (intRange_within width contains)

theorem brkDescription_eq :
    (StoppedEvent.from_ printDouble json).brkDescription =
      if given json = [] then
        toString_ intRange printDouble true (some json)
      else given json := by
  let body := Json.child (some json) "body".toList
  let text := Json.getString (Json.child body "text".toList) []
  let description := Json.getString (Json.child body "description".toList) []
  show (if description = [] then
      if text = [] then toString_ intRange printDouble true (some json)
      else text
    else description) =
      if (if description = [] then text else description) = [] then
        toString_ intRange printDouble true (some json)
      else if description = [] then text else description
  by_cases described : description = []
  · simp only [if_pos described]
  · simp only [if_neg described]

/-- What the handler takes for an ID, as the rest behind the mark. -/
theorem brkID_eq (brkDescription : WxString) :
    brkID brkDescription =
      if brkDescription = [] then .ok []
      else
        match behind hitBreakText brkDescription with
        | some brkLookup => .ok (beforeFirst brkLookup ']')
        | none =>
            if ' ' ∈ brkDescription then .ok [] else .error .outOfRange := by
  rw [brkID, behind_eq_find]
  cases find hitBreakText brkDescription <;> rfl

/-- Only a number is read up to its end or a comma. -/
theorem toLong_entry
    (depth : Nat)
    (item : Json)
    {rest : WxString}
    (notNumber : ∀ value, item ≠ .number value) :
    toLong width.range
        (beforeFirst
          (printValue intRange printDouble true depth item ++ rest) ']') =
      none := by
  have starts
      {first : Char}
      {more : WxString}
      (whole :
        printValue intRange printDouble true depth item ++ rest =
          first :: more)
      (open_ : first ∈ ['n', 't', 'f', '"', '[', '{']) :
      toLong width.range
          (beforeFirst
            (printValue intRange printDouble true depth item ++ rest) ']') =
        none := by
    have sharp :
        ∀ ch ∈ ['n', 't', 'f', '"', '[', '{'],
          ch ∉ blanksAndSigns ∧ ch.isDigit = false ∧ ch ≠ ']' := by
      simp [blanksAndSigns]
    rcases sharp first open_ with ⟨apart, noDigit, noBracket⟩
    rw [whole, beforeFirst,
      List.takeWhile_cons_of_pos (by simpa using noBracket)]
    exact toLong_cons apart noDigit _
  cases item with
  | null => exact starts rfl (by decide)
  | bool value => cases value <;> exact starts rfl (by decide)
  | number value => exact absurd rfl (notNumber value)
  | string value => exact starts rfl (by decide)
  | array items => exact starts rfl (by decide)
  | object members => exact starts rfl (by decide)

theorem not_mem_printNumber
    (doubles : ∀ value, NumberText (printDouble value))
    {ch : Char}
    (odd : ¬ (ch.isAlphanum = true ∨ ch ∈ ['.', ',', '+', '-']))
    (value : Rat) :
    ch ∉ printNumber intRange printDouble value :=
  fun member => odd (numberText_printNumber doubles value ch member)

/-- Of the entries between the brackets one number is read, and it alone. -/
theorem toLong_entries
    (doubles : ∀ value, NumberText (printDouble value))
    (depth : Nat)
    (items : List Json)
    (text : WxString) :
    toLong width.range
        (beforeFirst
          ([',', ' '].intercalate
            (printItems intRange printDouble true depth items) ++ ']' :: text)
          ']') =
      onlyNumber width printDouble items := by
  have noBracket (value : Rat) :
      ∀ ch ∈ printNumber intRange printDouble value, decide (ch ≠ ']') = true :=
    fun ch member => decide_eq_true fun same =>
      not_mem_printNumber doubles (by decide) value (same ▸ member)
  cases items with
  | nil => exact toLong_nil
  | cons item items =>
      rw [printItems_cons]
      cases items with
      | nil =>
          rw [show printItems intRange printDouble true depth [] = [] from rfl,
            List.intercalate_singleton]
          by_cases number : ∃ value, item = .number value
          · rcases number with ⟨value, rfl⟩
            rw [printValue_number, beforeFirst,
              List.takeWhile_append_of_pos (noBracket value)]
            rw [List.takeWhile_cons_of_neg (by simp), List.append_nil]
            rfl
          · rw [toLong_entry depth item fun value same => number ⟨value, same⟩]
            cases item with
            | number value => exact absurd ⟨value, rfl⟩ number
            | _ => rfl
      | cons second items =>
          rw [printItems_cons, List.intercalate_cons_cons, List.append_assoc,
            List.append_assoc]
          by_cases number : ∃ value, item = .number value
          · rcases number with ⟨value, rfl⟩
            rw [printValue_number, beforeFirst,
              List.takeWhile_append_of_pos (noBracket value)]
            exact toLong_append_comma
              (not_mem_printNumber doubles (by decide) value) _
          · rw [toLong_entry depth item fun value same => number ⟨value, same⟩]
            cases item <;> rfl

/-- The text behind the mark is what is read as a number. -/
theorem toLong_brkID
    {brkDescription id : WxString}
    (read : brkID brkDescription = .ok id) :
    toLong width.range id =
      (behind hitBreakText brkDescription).bind fun brkLookup =>
        toLong width.range (beforeFirst brkLookup ']') := by
  rw [brkID_eq] at read
  split at read
  · next empty =>
      cases read
      rw [empty]
      exact toLong_nil
  · split at read
    · next brkLookup found =>
        cases read
        rw [found]
        rfl
    · next missing =>
        rw [missing]
        split at read
        · cases read
          exact toLong_nil
        · cases read

/-- It is the number that the event announces. -/
theorem announcedId_eq
    (doubles : ∀ value, NumberText (printDouble value)) :
    announcedId width printDouble json =
      (behind hitBreakText
        (StoppedEvent.from_ printDouble json).brkDescription).bind
          fun brkLookup =>
            toLong width.range (beforeFirst brkLookup ']') := by
  rw [announcedId, brkDescription_eq]
  split
  · have search :=
      @found_listNamed intRange _ _ _ searchable_hitName doubles 0 json []
        (by simp [Closed])
    rw [List.append_nil, ← hitBreakText_eq] at search
    rw [toString_]
    cases found : listNamed ('h' :: hitName) json with
    | none =>
        rw [found, Found] at search
        rw [search]
        rfl
    | some items =>
        rw [found] at search
        rcases search with ⟨depth, text, whole⟩
        rw [whole, Option.bind_some, Option.bind_some,
          toLong_entries doubles]
  · rfl

/-- A printed event has a blank. -/
theorem readable_printed
    (reason : (StoppedEvent.from_ printDouble json).reason ≠ []) :
    Readable (toString_ intRange printDouble true (some json)) := by
  have read :
      Json.getString
          (Json.child (Json.child (some json) "body".toList)
            "reason".toList) [] ≠ [] :=
    reason
  right
  right
  cases json with
  | object members =>
      cases members with
      | nil => exact absurd rfl read
      | cons member members =>
          exact blank_mem_printValue intRange printDouble 0 member members
  | _ => exact absurd rfl read

theorem readable_iff
    (reason : (StoppedEvent.from_ printDouble json).reason ≠ []) :
    Readable (StoppedEvent.from_ printDouble json).brkDescription ↔
      (given json ≠ [] → Readable (given json)) := by
  rw [brkDescription_eq]
  split
  · next empty =>
      exact iff_of_true (readable_printed reason)
        fun described => absurd empty described
  · next described => exact (imp_iff_right described).symm

end Announced

/-! ## Temporary breakpoints -/

/-- The IDs in the list of the event. -/
def hitBreakpointIds (json : Json) : List Int :=
  match
    Json.child (Json.child (some json) "body".toList)
      "hitBreakpointIds".toList
  with
  | some (.array items) =>
      items.filterMap fun
        | .number value => some (value.num.tdiv value.den)
        | _ => none
  | _ => []

/-- A temporary breakpoint with an ID in the list. -/
def IsHit
    (json : Json)
    (details : Ref → Details)
    (store : Store)
    (ref : Ref) : Prop :=
  (details ref).temporary = true ∧
    (store.breakpoint ref).id ∈ hitBreakpointIds json

instance
    (json : Json)
    (details : Ref → Details)
    (store : Store)
    (ref : Ref) :
    Decidable (IsHit json details store ref) :=
  inferInstanceAs (Decidable (_ ∧ _))

/--
The stop is handled to its end; the temporary breakpoints that were hit are
gone then, and all others are still listed.
-/
def HitAreRemoved
    (width : LongWidth)
    (printDouble : Rat → WxString)
    (surroundings : Surroundings)
    (json : Json)
    (details : Ref → Details)
    (store : Store) : Prop :=
  ∃ (after : Store) (calls : List (ApiCall Unit)),
    onStopped width surroundings (.from_ printDouble json) details store =
        .ok (after, calls) ∧
      after.breakpoints =
        store.breakpoints.filter fun ref => ¬ IsHit json details store ref

/-- A breakpoint on code, of a file, that is temporary. -/
def Deletable
    (details : Ref → Details)
    (store : Store)
    (ref : Ref) : Prop :=
  (store.breakpoint ref).filename ≠ [] ∧ (details ref).temporary = true ∧
    (store.breakpoint ref).type = .bptCode

/-- The breakpoint is the first one with the number, as an `int`. -/
def Announces
    (width : LongWidth)
    (printDouble : Rat → WxString)
    (json : Json)
    (store : Store)
    (ref : Ref) : Prop :=
  ∃ id, announcedId width printDouble json = some id ∧
    getBreakpointByID (intRange.wrap id) store = some ref

/--
Of the temporary breakpoints that were hit there is one at most.  The event
announces it, and it can be deleted; and nothing else is announced that can.
The text of the event, if it has one, can be read, and at a stop the deletion
does not fault.
-/
structure NamesTheHit
    (width : LongWidth)
    (printDouble : Rat → WxString)
    (surroundings : Surroundings)
    (json : Json)
    (details : Ref → Details)
    (store : Store) : Prop where
  readable : given json ≠ [] → Readable (given json)
  one :
    (store.breakpoints.filter fun ref =>
      IsHit json details store ref).length ≤ 1
  announced :
    ∀ ref ∈ store.breakpoints, IsHit json details store ref →
      Announces width printDouble json store ref ∧
        Deletable details store ref
  hit :
    ∀ ref, Announces width printDouble json store ref →
      Deletable details store ref → IsHit json details store ref
  lasts :
    (stopped surroundings).AtStop →
      ∀ ref, Announces width printDouble json store ref →
        Deletable details store ref →
          Lasts store (file store ref) [(store.breakpoint ref).line]

section Temporaries

variable {width : LongWidth} {printDouble : Rat → WxString}
variable {surroundings : Surroundings} {json : Json}
variable {details : Ref → Details} {store : Store}

/-- What the handler takes out is what the event announces. -/
theorem removable_iff
    (doubles : ∀ value, NumberText (printDouble value))
    (readable : Readable (StoppedEvent.from_ printDouble json).brkDescription)
    (ref : Ref) :
    removable width (StoppedEvent.from_ printDouble json).brkDescription
        details store = some ref ↔
      Announces width printDouble json store ref ∧
        Deletable details store ref := by
  rcases brkID_ok_iff.mpr readable with ⟨id, read⟩
  have named :
      namedBreakpoint width id store =
        (announcedId width printDouble json).bind fun id =>
          getBreakpointByID (intRange.wrap id) store := by
    rw [announcedId_eq doubles, ← toLong_brkID read, namedBreakpoint]
    split
    · rfl
    · next empty =>
        rw [not_not.mp empty, toLong_nil]
        rfl
  rw [removable, read]
  dsimp only
  rw [Option.filter_eq_some_iff, named, Option.bind_eq_some_iff,
    decide_eq_true_eq]
  rfl

/-- A filter keeps what is in an option exactly if it is the only one kept. -/
theorem filter_eq_toList_iff
    {α : Type}
    {items : List α}
    {chosen : Option α}
    (listed : ∀ item, chosen = some item → item ∈ items)
    (keeps : α → Bool) :
    items.filter keeps = chosen.toList ↔
      (items.filter keeps).length ≤ 1 ∧
        (∀ item ∈ items, keeps item = true → chosen = some item) ∧
        ∀ item, chosen = some item → keeps item = true := by
  constructor
  · intro same
    have member (item : α) :
        (item ∈ items ∧ keeps item = true) ↔ chosen = some item := by
      rw [← List.mem_filter, same, Option.mem_toList]
    refine ⟨?_, fun item inItems kept => (member item).mp ⟨inItems, kept⟩,
      fun item isChosen => ((member item).mpr isChosen).2⟩
    rw [same]
    cases chosen <;> simp
  · rintro ⟨single, only, kept⟩
    cases chosen with
    | none =>
        rw [Option.toList_none, List.filter_eq_nil_iff]
        intro item inItems keep
        cases only item inItems keep
    | some item =>
        have inFilter : item ∈ items.filter keeps :=
          List.mem_filter.mpr ⟨listed item rfl, kept item rfl⟩
        have one : (items.filter keeps).length = 1 :=
          Nat.le_antisymm single (List.length_pos_of_mem inFilter)
        rcases List.length_eq_one_iff.mp one with ⟨other, same⟩
        rw [same] at inFilter ⊢
        rw [List.mem_singleton.mp inFilter]
        rfl

/-- A stop is handled to its end and leaves those that were not hit. -/
theorem hitAreRemoved_iff
    (data : (StoppedEvent.from_ printDouble json).reason ∈ dataReasons) :
    HitAreRemoved width printDouble surroundings json details store ↔
      Manageable width (stopped surroundings)
          (StoppedEvent.from_ printDouble json).brkDescription details store ∧
        (store.breakpoints.filter fun ref =>
            IsHit json details store ref) =
          (removable width (StoppedEvent.from_ printDouble json).brkDescription
            details store).toList := by
  let event := StoppedEvent.from_ printDouble json
  have leftOver
      {outcome : Outcome}
      (removed :
        removeNamed width (stopped surroundings) event.brkDescription details
          store = .ok outcome) :
      outcome.store.breakpoints =
          (store.breakpoints.filter fun ref =>
            ¬ IsHit json details store ref) ↔
        (store.breakpoints.filter fun ref => IsHit json details store ref) =
          (removable width event.brkDescription details store).toList := by
    rw [(removeNamed_leaves removed).2]
    simp only [decide_not]
    cases removes : removable width event.brkDescription details store with
    | none =>
        rw [Option.toList_none, List.filter_eq_nil_iff, eq_comm,
          List.filter_eq_self]
        simp
    | some bp =>
        exact erase_eq_filter_iff (removable_spec removes).1 _
  rw [HitAreRemoved, onStopped_of_dataReason data, ← removeNamed_ok_iff]
  constructor
  · rintro ⟨after, calls, ran, left⟩
    rcases onProcess_ok_iff.mp ran with ⟨outcome, removed, rfl, -⟩
    exact ⟨⟨outcome, removed⟩, (leftOver removed).mp left⟩
  · rintro ⟨⟨outcome, removed⟩, hit⟩
    exact ⟨outcome.store, _,
      onProcess_ok_iff.mpr ⟨outcome, removed, rfl, rfl⟩,
      (leftOver removed).mpr hit⟩

/--
The hit temporary breakpoints are removed exactly if the event announces the
only one of them.
-/
theorem temporaries_removed_iff
    (doubles : ∀ value, NumberText (printDouble value))
    (breakpoint :
      (StoppedEvent.from_ printDouble json).reason = "breakpoint".toList) :
    HitAreRemoved width printDouble surroundings json details store ↔
      NamesTheHit width printDouble surroundings json details store := by
  let event := StoppedEvent.from_ printDouble json
  have data : event.reason ∈ dataReasons := by
    rw [breakpoint]
    exact List.mem_cons_self
  have named : event.reason ≠ [] := by
    rw [breakpoint]
    decide
  have single :=
    filter_eq_toList_iff
      (fun ref (removes :
          removable width event.brkDescription details store = some ref) =>
        (removable_spec removes).1)
      fun ref => decide (IsHit json details store ref)
  rw [hitAreRemoved_iff data, single, Manageable]
  simp only [decide_eq_true_eq, Option.mem_def]
  constructor
  · rintro ⟨⟨readable, lasts⟩, one, only, hit⟩
    have removes :=
      @removable_iff width _ _ details store doubles readable
    exact
      { readable := (readable_iff named).mp readable
        one := one
        announced := fun ref listed isHit =>
          (removes ref).mp (only ref listed isHit)
        hit := fun ref announces deletable =>
          hit ref ((removes ref).mpr ⟨announces, deletable⟩)
        lasts := fun atStop ref announces deletable =>
          lasts atStop ref ((removes ref).mpr ⟨announces, deletable⟩) }
  · intro names
    have readable := (readable_iff named).mpr names.readable
    have removes :=
      @removable_iff width _ _ details store doubles readable
    refine ⟨⟨readable, fun atStop ref removed => ?_⟩, names.one,
      fun ref listed isHit =>
        (removes ref).mpr (names.announced ref listed isHit),
      fun ref removed => ?_⟩
    · have both := (removes ref).mp removed
      exact names.lasts atStop ref both.1 both.2
    · have both := (removes ref).mp removed
      exact names.hit ref both.1 both.2

/-- A stop at a breakpoint, as an adapter announces it. -/
def stopAt (description : WxString) (ids : List Int) : Json :=
  .object
    [("type".toList, .string "event".toList),
      ("event".toList, .string "stopped".toList),
      ("body".toList,
        .object
          [("reason".toList, .string "breakpoint".toList),
            ("description".toList, .string description),
            ("threadId".toList, .number 1),
            ("hitBreakpointIds".toList,
              .array (ids.map fun id => .number id))])]

/-- A temporary breakpoint with the ID 7. -/
def oneListed : Store :=
  Store.empty.listNew none "main.cpp".toList 8 7

def allTemporary : Ref → Details :=
  fun _ => { Details.initial with temporary := true }

theorem temporaries_removed_printed :
    HitAreRemoved .bits64 (fun _ => []) plainStop (stopAt [] [7])
      allTemporary oneListed := by
  have first (ref : Ref)
      (announces :
        Announces .bits64 (fun _ => []) (stopAt [] [7]) oneListed ref) :
      ref = 0 := by
    rcases announces with ⟨id, -, found⟩
    exact List.mem_singleton.mp (List.mem_of_find?_eq_some found)
  have announced :
      Announces .bits64 (fun _ => []) (stopAt [] [7]) oneListed 0 :=
    ⟨7, onlyNumber_int (by decide), by decide +kernel⟩
  refine (temporaries_removed_iff (fun _ => by decide) rfl).mpr
    { readable := fun described => absurd rfl described
      one := by decide +kernel
      announced := fun ref listed _ => ?_
      hit := fun ref announces _ => ?_
      lasts := fun _ ref announces _ => ?_ }
  · rw [List.mem_singleton.mp listed]
    exact ⟨announced, by decide, rfl, rfl⟩
  · rw [first ref announces]
    decide +kernel
  · rw [first ref announces]
    decide +kernel

/-- With a description the list in the event is not looked at. -/
theorem described_hit_not_removed :
    hitBreakpointIds (stopAt "Paused on breakpoint".toList [7]) = [7] ∧
      ¬ HitAreRemoved .bits64 (fun _ => []) plainStop
        (stopAt "Paused on breakpoint".toList [7]) allTemporary
        oneListed := by
  refine ⟨by decide +kernel, ?_⟩
  rintro ⟨after, calls, ran, left⟩
  cases ran
  revert left
  decide +kernel

end Temporaries

end DebuggerDap.Breakpoints.Stopping
