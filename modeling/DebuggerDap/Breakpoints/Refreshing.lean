import DebuggerDap.Breakpoints.Stopping
import DebuggerDap.DapClient.CleanFailure

/-!
# The requests of a stop

Every stop should ask the adapter for the frames of the thread that stopped
and for the threads.  Both requests are the last thing the handlers do, so
they are sent exactly when the handlers come that far and the client has a
transport.
-/

namespace DebuggerDap.Breakpoints.Refreshing

open DebuggerDap.Text.Strings
open DebuggerDap.Protocol.JsonTree
open DebuggerDap.Protocol.Messages
open DebuggerDap.Protocol.LengthArithmetic
open DebuggerDap.DapClient.State
open DebuggerDap.DapClient.Sessions
open DebuggerDap.DapClient.History
open DebuggerDap.DapClient.CleanFailure
open DebuggerDap.Persistence.StateFile
open DebuggerDap.Breakpoints.Store
open DebuggerDap.Breakpoints.Mirror
open DebuggerDap.Breakpoints.Stopping

variable {κ : Type}

/-! ## Calls of the client -/

/-- Perform calls in order. -/
def performAll
    (toolkit : Toolkit) :
    List (ApiCall κ) → Client κ → Client κ × List (Output κ)
  | [], client => (client, [])
  | call :: calls, client =>
      let first := client.perform toolkit call
      let later := performAll toolkit calls first.1
      (later.1, first.2 ++ later.2)

/-- What the calls request, without the numbers of the requests. -/
def requested
    (toolkit : Toolkit)
    (calls : List (ApiCall κ))
    (client : Client κ) : List RequestBody :=
  (sentRequests (performAll toolkit calls client).2).map Request.body

def isStackTrace : RequestBody → Bool
  | .stackTrace _ _ _ => true
  | _ => false

def isThreads : RequestBody → Bool
  | .threads => true
  | _ => false

section Calls

variable {toolkit : Toolkit} {client : Client κ}

theorem requested_cons (call : ApiCall κ) (calls : List (ApiCall κ)) :
    requested toolkit (call :: calls) client =
      (sentRequests (client.perform toolkit call).2).map Request.body ++
        requested toolkit calls (client.perform toolkit call).1 := by
  rw [requested, performAll]
  simp only [sentRequests, List.filterMap_append, List.map_append]
  rfl

/-- A missing transport stays missing while a file is announced. -/
theorem announcement_unlinked
    (unlinked : client.transport = none)
    (announcement : Announcement) :
    (client.perform toolkit announcement.call).1.transport = none := by
  have lost :
      (client.perform toolkit announcement.call).1 = client.reset :=
    perform_unlinked toolkit unlinked trivial not_false
  rw [lost]
  rfl

/-- An announcement leaves the connection and the active thread. -/
theorem announcement_keeps
    (connected : client.transport.isSome = true)
    (announcement : Announcement) :
    (client.perform toolkit announcement.call).1.transport =
        client.transport ∧
      (client.perform toolkit announcement.call).1.activeThreadId =
        client.activeThreadId := by
  let queued :=
    { client with
      sourceBreakpointsQueue :=
        client.sourceBreakpointsQueue ++ [announcement.file] }
  have connectedToo : queued.transport.isSome = true := connected
  show (queued.requestTwice toolkit _).1.transport = queued.transport ∧
    (queued.requestTwice toolkit _).1.activeThreadId = queued.activeThreadId
  rw [requestTwice_connected connectedToo]
  exact ⟨rfl, rfl⟩

/-- The request of an announcement. -/
def announced (toolkit : Toolkit) (announcement : Announcement) :
    RequestBody :=
  .setBreakpoints
    ⟨toolkit.getFullName announcement.file, announcement.file, 0⟩
    announcement.lines

/-- The views are asked for the active thread. -/
theorem requested_refresh (connected : client.transport.isSome = true) :
    requested toolkit refresh client =
      [.stackTrace client.activeThreadId 0 0, .threads] := by
  let queued :=
    { client with
      getFramesQueue := client.getFramesQueue ++ [client.activeThreadId] }
  have connectedToo : queued.transport.isSome = true := connected
  have frames :
      client.perform toolkit (.getFrames notFound 0 0) =
        queued.request toolkit (.stackTrace client.activeThreadId 0 0) := rfl
  have threads (asked : Client κ) :
      asked.perform toolkit .getThreads =
        asked.requestTwice toolkit .threads := rfl
  rw [refresh, requested_cons, requested_cons, frames, threads,
    request_connected connectedToo]
  rw [requestTwice_connected, sentRequests_sent, sentRequests_sent]
  · rfl
  · exact connectedToo

/-- Announcements first, then the views. -/
theorem requested_announcements_refresh
    (connected : client.transport.isSome = true)
    (announcements : List Announcement) :
    requested toolkit (announcements.map Announcement.call ++ refresh)
        client =
      announcements.map (announced toolkit) ++
        [.stackTrace client.activeThreadId 0 0, .threads] := by
  induction announcements generalizing client with
  | nil => exact requested_refresh connected
  | cons announcement announcements ih =>
      rcases @announcement_keeps κ toolkit client connected announcement with
        ⟨sameTransport, sameThread⟩
      have still :
          (client.perform toolkit announcement.call).1.transport.isSome =
            true := by
        rw [sameTransport, connected]
      rw [List.map_cons, List.cons_append, requested_cons,
        sentRequests_announcement toolkit connected, ih still, sameThread]
      rfl

/-- Without a transport nothing is requested. -/
theorem requested_unlinked
    (unlinked : client.transport = none)
    (announcements : List Announcement) :
    requested toolkit (announcements.map Announcement.call ++ refresh)
        client = [] := by
  induction announcements generalizing client with
  | nil =>
      have still :
          (client.perform toolkit (.getFrames notFound 0 0)).1.transport =
            none := by
        have lost :
            (client.perform toolkit (.getFrames notFound 0 0)).1 =
              client.reset :=
          perform_unlinked toolkit unlinked trivial not_false
        rw [lost]
        rfl
      rw [List.map_nil, List.nil_append, refresh, requested_cons,
        requested_cons, sentRequests_unlinked toolkit _ unlinked,
        sentRequests_unlinked toolkit _ still]
      rfl
  | cons announcement announcements ih =>
      rw [List.map_cons, List.cons_append, requested_cons,
        sentRequests_unlinked toolkit _ unlinked,
        ih (announcement_unlinked unlinked announcement)]
      rfl

end Calls

/-! ## Every stop -/

/-- `SendDAPEvent` keeps the thread of the event before it is handled. -/
def sendStoppedEvent (event : StoppedEvent) (client : Client κ) : Client κ :=
  { client with activeThreadId := event.threadId }

/--
The handlers come to their end, and among the requests of the client there is
one for the frames, of the thread of the event, and one for the threads.
-/
def Refreshes
    (toolkit : Toolkit)
    (width : LongWidth)
    (surroundings : Surroundings)
    (event : StoppedEvent)
    (details : Ref → Details)
    (store : Store)
    (client : Client κ) : Prop :=
  ∃ (after : Store) (calls : List (ApiCall κ)),
    onStopped width surroundings event details store = .ok (after, calls) ∧
      let requests := requested toolkit calls (sendStoppedEvent event client)
      requests.filter isStackTrace = [.stackTrace event.threadId 0 0] ∧
        requests.filter isThreads = [.threads]

section Stops

variable {toolkit : Toolkit} {width : LongWidth}
variable {surroundings : Surroundings} {event : StoppedEvent}
variable {details : Ref → Details} {store : Store} {client : Client κ}

/-- The calls of a handled stop end with those for the views. -/
theorem onStopped_cases
    {after : Store}
    {calls : List (ApiCall κ)}
    (ran :
      onStopped width surroundings event details store =
        .ok (after, calls)) :
    ∃ announcements : List Announcement,
      calls = announcements.map Announcement.call ++ refresh := by
  by_cases data : event.reason ∈ dataReasons
  · rw [onStopped_of_dataReason data] at ran
    rcases onProcess_ok_iff.mp ran with ⟨outcome, -, -, same⟩
    exact ⟨outcome.sent, same⟩
  · rw [onStopped, if_neg data] at ran
    cases ran
    exact ⟨[], rfl⟩

theorem onStopped_ok_iff :
    (∃ (after : Store) (calls : List (ApiCall κ)),
      onStopped width surroundings event details store =
        .ok (after, calls)) ↔
      (event.reason ∈ dataReasons →
        Manageable width (stopped surroundings) event.brkDescription details
          store) := by
  by_cases data : event.reason ∈ dataReasons
  · rw [onStopped_of_dataReason data, ← removeNamed_ok_iff]
    constructor
    · rintro ⟨after, calls, ran⟩ -
      rcases onProcess_ok_iff.mp ran with ⟨outcome, removed, -⟩
      exact ⟨outcome, removed⟩
    · intro removes
      rcases removes data with ⟨outcome, removed⟩
      exact ⟨outcome.store, _,
        onProcess_ok_iff.mpr ⟨outcome, removed, rfl, rfl⟩⟩
  · rw [onStopped, if_neg data]
    exact iff_of_true ⟨store, refresh, rfl⟩ fun listed => absurd listed data

/--
A stop refreshes the views exactly if the client is connected and, for the
reasons whose text is looked at, the text can be read and what it names can
be deleted.
-/
theorem refreshes_iff :
    Refreshes toolkit width surroundings event details store client ↔
      client.transport.isSome = true ∧
        (event.reason ∈ dataReasons →
          Manageable width (stopped surroundings) event.brkDescription
            details store) := by
  constructor
  · rintro ⟨after, calls, ran, frames, -⟩
    refine ⟨?_, onStopped_ok_iff.mp ⟨after, calls, ran⟩⟩
    rcases onStopped_cases ran with ⟨announcements, rfl⟩
    rw [Option.isSome_iff_ne_none]
    intro unlinked
    have unlinkedToo :
        (sendStoppedEvent event client).transport = none := unlinked
    rw [requested_unlinked unlinkedToo] at frames
    cases frames
  · rintro ⟨connected, manageable⟩
    rcases onStopped_ok_iff.mpr manageable with ⟨after, calls, ran⟩
    refine ⟨after, calls, ran, ?_⟩
    rcases onStopped_cases ran with ⟨announcements, rfl⟩
    have connectedToo :
        (sendStoppedEvent event client).transport.isSome = true := connected
    have announces (announcement : Announcement) :
        isStackTrace (announced toolkit announcement) = false ∧
          isThreads (announced toolkit announcement) = false :=
      ⟨rfl, rfl⟩
    rw [requested_announcements_refresh connectedToo]
    constructor
    · rw [List.filter_append, List.filter_eq_nil_iff.mpr, List.nil_append]
      · rfl
      · simp [announces]
    · rw [List.filter_append, List.filter_eq_nil_iff.mpr, List.nil_append]
      · rfl
      · simp [announces]

/-- The end of a step, as an adapter announces it. -/
def steppedWith (description : WxString) : Json :=
  .object
    [("type".toList, .string "event".toList),
      ("event".toList, .string "stopped".toList),
      ("body".toList,
        .object
          [("reason".toList, .string "step".toList),
            ("description".toList, .string description),
            ("threadId".toList, .number 1)])]

/-- A description of one word throws before the views are asked for. -/
theorem oneWord_not_refreshed :
    ¬ Refreshes plainToolkit .bits64 plainStop
      (.from_ (fun _ => []) (steppedWith "step".toList))
      (fun _ => Details.initial) Store.empty
      ((Client.new Unit).setTransport 0) := by
  rintro ⟨after, calls, ran, -⟩
  cases ran

end Stops

end DebuggerDap.Breakpoints.Refreshing
