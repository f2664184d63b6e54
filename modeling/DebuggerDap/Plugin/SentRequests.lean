import DebuggerDap.Plugin.Moves
import DebuggerDap.Plugin.SelectedThread

/-!
# What a session has sent

Over a transport every request of a call is sent, and announcing breakpoints
sends announcements.  Without a transport nothing is sent; the connection is
lost, and after that nothing runs and nothing is announced.
-/

namespace DebuggerDap.Plugin.SentRequests

open DebuggerDap.Text.Strings
open DebuggerDap.Protocol.Messages
open DebuggerDap.DapClient.State
open DebuggerDap.DapClient.Sessions (sentRequests_sent request_connected
  requestTwice_connected)
open DebuggerDap.DapClient.History (Lost sentRequests_unlinked)
open DebuggerDap.Plugin.Sessions
open DebuggerDap.Plugin.Moves
open DebuggerDap.Plugin.SelectedThread (lost_sendRequest)

variable {κ : Type*}

/-! ## The requests of a trace -/

def sentMark : Mark κ → Option RequestBody
  | .output (.sent request) => some request.body
  | _ => none

/-- What a session has sent, in order. -/
def sentBodies (session : Session κ) : List RequestBody :=
  (session.trace.filterMap sentMark).reverse

/-- What one session has sent, and the other before it has not. -/
def Sends
    (requests : List RequestBody)
    (session next : Session κ) : Prop :=
  sentBodies next = sentBodies session ++ requests

def IsAnnouncement : RequestBody → Prop
  | .setBreakpoints _ _ => True
  | _ => False

/-- Between the two sessions announcements are sent and nothing else. -/
def OnlyAnnounces (session next : Session κ) : Prop :=
  ∃ requests, Sends requests session next ∧
    ∀ request ∈ requests, IsAnnouncement request

section Requests

variable {setup : Setup} {session next last : Session κ}
variable {earlier later : List RequestBody}

theorem Sends.refl (session : Session κ) : Sends [] session session :=
  (List.append_nil _).symm

theorem Sends.trans
    (first : Sends earlier session next)
    (second : Sends later next last) :
    Sends (earlier ++ later) session last := by
  rw [Sends, second, first, List.append_assoc]

theorem OnlyAnnounces.of_none (none : Sends [] session next) :
    OnlyAnnounces session next :=
  ⟨[], none, List.forall_mem_nil _⟩

theorem OnlyAnnounces.trans
    (first : OnlyAnnounces session next)
    (second : OnlyAnnounces next last) :
    OnlyAnnounces session last := by
  rcases first with ⟨earlier, sends, announce⟩
  rcases second with ⟨later, sendsToo, announceToo⟩
  refine ⟨earlier ++ later, sends.trans sendsToo, ?_⟩
  intro request member
  exact (List.mem_append.mp member).elim (announce request)
    (announceToo request)

theorem Sends.unique
    (first : Sends earlier session next)
    (second : Sends later session next) : earlier = later :=
  List.append_cancel_left (first.symm.trans second)

/-- The marks of outputs are about the requests among them. -/
theorem filterMap_sentMark_marks (outputs : List (Output κ)) :
    ((Session.marks outputs).filterMap sentMark).reverse =
      (sentRequests outputs).map Request.body := by
  rw [Session.marks, List.filterMap_reverse, List.reverse_reverse,
    List.filterMap_map, sentRequests, List.map_filterMap]
  refine congrArg (List.filterMap · outputs) (funext fun output => ?_)
  cases output <;> rfl

theorem sends_sent (result : Client κ × List (Output κ)) :
    Sends ((sentRequests result.2).map Request.body) session
      (session.sent result) := by
  show ((Session.marks result.2 ++ session.trace).filterMap
    sentMark).reverse = _
  rw [List.filterMap_append, List.reverse_append, filterMap_sentMark_marks]
  rfl

theorem sentBodies_onConnectionError :
    sentBodies session.onConnectionError = sentBodies session := by
  unfold Session.onConnectionError
  split <;> rfl

/-- Where the connection is lost nothing is sent. -/
theorem sends_of_lost
    {call : ApiCall κ}
    (lost : Lost (session.debugger.client.perform setup.toolkit call)) :
    Sends [] session (session.perform setup call) := by
  have told :
      session.perform setup call =
        (session.sent
          (session.debugger.client.perform
            setup.toolkit call)).onConnectionError := by
    refine if_pos ?_
    rw [lost.outputs]
    rfl
  have sends :=
    @sends_sent κ session
      (session.debugger.client.perform setup.toolkit call)
  rw [lost.outputs] at sends
  rw [Sends, told, sentBodies_onConnectionError]
  exact sends

/-- A request over a transport is sent. -/
theorem sends_request
    {call : ApiCall κ}
    {body : RequestBody}
    (linked : Linked session)
    (asks :
      session.debugger.client.perform setup.toolkit call =
        session.debugger.client.request setup.toolkit body) :
    Sends [body] session (session.perform setup call) := by
  have sends :=
    @sends_sent κ session
      (session.debugger.client.perform setup.toolkit call)
  rw [← (perform_linked setup call linked).1, asks,
    request_connected linked, sentRequests_sent] at sends
  exact sends

theorem announcements_of_perform
    (toolkit : Toolkit)
    (client : Client κ)
    (file : WxString)
    (lines : List SourceBreakpoint) :
    ∀ request ∈
        sentRequests
          (client.perform toolkit (.setBreakpointsFile file lines)).2,
      IsAnnouncement request.body := by
  intro request member
  cases connected : client.transport with
  | none =>
      rw [sentRequests_unlinked toolkit _ connected] at member
      cases member
  | some transport =>
      let queued :=
        { client with
          sourceBreakpointsQueue := client.sourceBreakpointsQueue ++ [file] }
      have connectedToo : queued.transport.isSome = true := by
        rw [show queued.transport = _ from connected]
        rfl
      have asks :
          client.perform toolkit (.setBreakpointsFile file lines) =
            queued.requestTwice toolkit
              (.setBreakpoints ⟨toolkit.getFullName file, file, 0⟩
                lines) := rfl
      rw [asks, requestTwice_connected connectedToo, sentRequests_sent,
        List.mem_singleton] at member
      rw [member]
      exact trivial

theorem onlyAnnounces_announce
    (file : WxString)
    (lines : List SourceBreakpoint) :
    OnlyAnnounces session (session.announce setup file lines) := by
  unfold Session.announce
  split
  · exact .of_none (Sends.refl session)
  · rcases perform_cases setup (.setBreakpointsFile file lines) session with
      ⟨-, sent⟩ | ⟨lost, -⟩
    · rw [sent]
      refine ⟨_, sends_sent _, fun request member => ?_⟩
      rcases List.mem_map.mp member with ⟨numbered, among, rfl⟩
      exact announcements_of_perform _ _ _ _ numbered among
    · exact .of_none (sends_of_lost lost)

/-- Announcing sends announcements. -/
theorem onlyAnnounces_announceAll
    (setup : Setup)
    (announcements : List (WxString × List SourceBreakpoint))
    (session : Session κ) :
    OnlyAnnounces session (session.announceAll setup announcements) := by
  unfold Session.announceAll
  induction announcements generalizing session with
  | nil => exact .of_none (Sends.refl session)
  | cons announcement announcements ih =>
      exact (onlyAnnounces_announce announcement.1 announcement.2).trans
        (ih (session.announce setup announcement.1 announcement.2))

end Requests

/-! ## Without a transport -/

def Severed (session : Session κ) : Prop :=
  session.debugger.client.transport = none

/-- The calls `UpdateBreakpoint` makes. -/
def Asked : ApiCall κ → Prop
  | .pause _ => True
  | .continue_ _ _ => True
  | .setBreakpointsFile _ _ => True
  | _ => False

section Severing

variable {setup : Setup} {session : Session κ}

theorem lost_of_severed
    {call : ApiCall κ}
    (asked : Asked call)
    (severed : Severed session) :
    Lost (session.debugger.client.perform setup.toolkit call) := by
  rw [Severed] at severed
  cases call
  case pause => apply lost_sendRequest setup.toolkit; exact severed
  case continue_ => apply lost_sendRequest setup.toolkit; exact severed
  case setBreakpointsFile =>
    apply lost_sendRequest setup.toolkit; exact severed
  all_goals exact absurd asked id

/-- Without a transport nothing is sent, and nothing runs afterwards. -/
theorem perform_severed
    {call : ApiCall κ}
    (asked : Asked call)
    (severed : Severed session) :
    Sends [] session (session.perform setup call) ∧
      Severed (session.perform setup call) ∧
      (session.perform setup call).isRunning = false := by
  have lost := @lost_of_severed κ setup session call asked severed
  refine ⟨sends_of_lost lost, ?_⟩
  let sent :=
    session.sent (session.debugger.client.perform setup.toolkit call)
  have told : session.perform setup call = sent.onConnectionError := by
    refine if_pos ?_
    rw [lost.outputs]
    rfl
  rw [told, Session.onConnectionError]
  split
  · next halted => exact ⟨lost.transport, halted⟩
  · refine ⟨?_, Session.resetData_isRunning sent⟩
    rw [Severed, Session.resetData_client]
    rfl

theorem closed_of_halted (halted : session.isRunning = false) :
    session.runningAndStopped = false := by
  rw [Session.runningAndStopped, halted]
  rfl

/-- After an announcement that is not sent no other is made. -/
theorem announceAll_severed
    (announcements : List (WxString × List SourceBreakpoint))
    (severed : Severed session) :
    Severed (session.announceAll setup announcements) ∧
      (announcements ≠ [] ∨ session.runningAndStopped = false →
        (session.announceAll setup announcements).runningAndStopped =
          false) := by
  by_cases closed : session.runningAndStopped = false
  · rw [announceAll_closed setup announcements closed]
    exact ⟨severed, fun _ => closed⟩
  · cases announcements with
    | nil => exact ⟨severed, fun either => either.elim (absurd rfl) id⟩
    | cons announcement rest =>
        have first :
            session.announce setup announcement.1 announcement.2 =
              session.perform setup
                (.setBreakpointsFile announcement.1 announcement.2) :=
          if_neg closed
        rcases @perform_severed κ setup session
            (.setBreakpointsFile announcement.1 announcement.2) trivial
            severed with
          ⟨-, still, halted⟩
        have rested :
            session.announceAll setup (announcement :: rest) =
              session.perform setup
                (.setBreakpointsFile announcement.1 announcement.2) := by
          rw [Session.announceAll, List.foldl_cons, first]
          exact announceAll_idle setup rest halted
        rw [rested]
        exact ⟨still, fun _ => closed_of_halted halted⟩

end Severing

end DebuggerDap.Plugin.SentRequests
