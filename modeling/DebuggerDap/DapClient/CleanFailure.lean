import DebuggerDap.DapClient.History

/-!
# The client after a failed send

A request that cannot be handed over resets the client.  The operations that
file a tag do so before sending, so the reset clears it.  `Initialize` and
`BreakpointLocations` also change the client after sending, and what they
change stays behind in the client that was just reset.
-/

namespace DebuggerDap.DapClient.CleanFailure

open DebuggerDap.Text.Strings
open DebuggerDap.Protocol.Messages
open DebuggerDap.DapClient.State
open DebuggerDap.DapClient.History
open DebuggerDap.DapClient.Sessions (sentRequests_logOutput)
open DebuggerDap.Library.Run

variable {κ : Type*}

/-- The call makes a request and hands it over. -/
def CallSends (client : Client κ) : ApiCall κ → Prop
  | .setWantsLogEvents _ => False
  | .getNextSequence => False
  | .sendResponse _ => False
  | .breakpointLocations .. =>
      client.isSupported .supportsBreakpointLocationsRequest = true
  | .readMemory .. => client.isSupported .supportsReadMemoryRequest = true
  | .gotoTarget .. => client.isSupported .supportsGotoTargetsRequest = true
  | .loadSource source _ => 0 < source.sourceReference
  | _ => True

/-- The operation makes a request and hands it over. -/
def Sends (client : Client κ) : Operation κ → Prop
  | .initialize_ _ => True
  | .call call => CallSends client call
  | _ => False

/-- Handing the request over throws. -/
def Fails (client : Client κ) (operation : Operation κ) : Prop :=
  Sends client operation ∧ client.transport = none

/-- The operations that change the client after their request was sent. -/
def ChangesAfterSending : Operation κ → Prop
  | .initialize_ _ => True
  | .call (.breakpointLocations ..) => True
  | _ => False

/-- A failed operation has left the client as `Reset` leaves it. -/
def CleanAfterFailure (made : Transition κ) : Prop :=
  Fails made.before made.operation → made.after = made.before.reset

/-- Every failed operation of the history has left a clean client. -/
def FailuresClean (session : Session κ) : Prop :=
  ∀ made ∈ session.history, CleanAfterFailure made

/-- The operation changes nothing after a request that could not be sent. -/
def QuietFailure (session : Session κ) (operation : Operation κ) : Prop :=
  Fails session.client operation → ¬ ChangesAfterSending operation

/-- A request behind a feature test is sent when the test succeeds. -/
theorem gate_iff
    {client : Client κ}
    (feature : Feature)
    {result : Client κ × List (Output κ)}
    (sent : sentRequests result.2 ≠ []) :
    client.isSupported feature = true ↔
      sentRequests
          (if client.isSupported feature = false then (client, [])
          else result).2 ≠ [] := by
  by_cases supported : client.isSupported feature = true
  · rw [if_neg (by rw [supported]; decide)]
    exact iff_of_true supported sent
  · rw [if_pos (Bool.eq_false_iff.mpr supported)]
    exact iff_of_false supported (fun some => some rfl)

/-- A call hands one request over with a transport, if it makes one. -/
theorem callSends_iff
    (toolkit : Toolkit)
    {client : Client κ}
    (linked : client.transport.isSome = true)
    (call : ApiCall κ) :
    CallSends client call ↔
      sentRequests (client.perform toolkit call).2 ≠ [] := by
  have sent :
      ∀ (prepared : Client κ) (request : Request),
        prepared.transport.isSome = true →
          sentRequests (prepared.sendRequest toolkit request).2 ≠ [] := by
    intro prepared request linked nothing
    rw [sentRequests_linked toolkit request linked] at nothing
    cases nothing
  cases call
  case setWantsLogEvents wants => exact ⟨False.elim, fun some => some rfl⟩
  case getNextSequence => exact ⟨False.elim, fun some => some rfl⟩
  case sendResponse response =>
    refine ⟨False.elim, fun some => some ?_⟩
    rw [Client.perform, Client.sendResponse, if_pos linked]
    exact sentRequests_logOutput client _
  case breakpointLocations =>
    exact gate_iff _ (sent client.nextSequence _ linked)
  case readMemory => exact gate_iff _ (sent client.nextSequence _ linked)
  case gotoTarget => exact gate_iff _ (sent client.nextSequence _ linked)
  case loadSource source callback =>
    rw [Client.perform, Client.loadSource]
    by_cases generated : 0 < source.sourceReference
    · rw [if_pos generated]
      exact iff_of_true generated (sent _ _ linked)
    · rw [if_neg generated]
      exact iff_of_false generated (fun some => some rfl)
  all_goals exact iff_of_true trivial (sent _ _ linked)

/-! ## Requests without a transport -/

section Unlinked

variable (toolkit : Toolkit)
variable {client : Client κ}

theorem sendRequest_unlinked
    (request : Request)
    (unlinked : client.transport = none) :
    client.sendRequest toolkit request = client.onConnectionError := by
  rw [Client.sendRequest, unlinked]
  rfl

theorem request_unlinked
    (body : RequestBody)
    (unlinked : client.transport = none) :
    (client.request toolkit body).1 = client.reset := by
  have missing : client.nextSequence.transport = none := unlinked
  exact congrArg Prod.fst (sendRequest_unlinked toolkit _ missing)

theorem requestTwice_unlinked
    (body : RequestBody)
    (unlinked : client.transport = none) :
    (client.requestTwice toolkit body).1 = client.reset := by
  have missing : client.nextSequence.nextSequence.transport = none :=
    unlinked
  exact congrArg Prod.fst (sendRequest_unlinked toolkit _ missing)

/-- A call that files its tag before sending leaves a clean client. -/
theorem perform_unlinked
    {call : ApiCall κ}
    (unlinked : client.transport = none)
    (sends : CallSends client call)
    (quiet : ¬ ChangesAfterSending (.call call)) :
    (client.perform toolkit call).1 = client.reset := by
  cases call
  case setWantsLogEvents wants => exact False.elim sends
  case getNextSequence => exact False.elim sends
  case sendResponse response => exact False.elim sends
  case breakpointLocations => exact absurd trivial quiet
  case readMemory memoryReference offset count =>
    have supported :
        client.isSupported .supportsReadMemoryRequest = true := sends
    rw [Client.perform, Client.readMemory, if_neg (by rw [supported]; decide)]
    exact request_unlinked toolkit _ unlinked
  case gotoTarget source line column =>
    have supported :
        client.isSupported .supportsGotoTargetsRequest = true := sends
    rw [Client.perform, Client.gotoTarget, if_neg (by rw [supported]; decide)]
    exact request_unlinked toolkit _ unlinked
  case loadSource source callback =>
    have generated : 0 < source.sourceReference := sends
    rw [Client.perform, Client.loadSource, if_pos generated]
    exact request_unlinked toolkit _ unlinked
  case setBreakpointsFile => exact requestTwice_unlinked toolkit _ unlinked
  case configurationDone => exact requestTwice_unlinked toolkit _ unlinked
  case launch => exact requestTwice_unlinked toolkit _ unlinked
  case getThreads => exact requestTwice_unlinked toolkit _ unlinked
  case getScopes => exact requestTwice_unlinked toolkit _ unlinked
  all_goals exact request_unlinked toolkit _ unlinked

/-- The handshake is in progress although there is no transport. -/
theorem initialize_unlinked
    (initArgs : Option InitializeRequestArguments) :
    (client.initialize_ toolkit initArgs).1 ≠ client.reset := by
  intro clean
  cases congrArg Client.handshakeState clean

/-- The file is filed in the client that was just reset. -/
theorem breakpointLocations_unlinked
    {filepath : WxString}
    {startLine endLine : Int}
    (unlinked : client.transport = none)
    (supported :
      client.isSupported .supportsBreakpointLocationsRequest = true) :
    (client.breakpointLocations toolkit filepath startLine endLine).1 ≠
      client.reset := by
  have lost :=
    request_unlinked toolkit
      (.breakpointLocations filepath startLine endLine) unlinked
  intro clean
  have filed := congrArg Client.requestIdToFilepath clean
  rw [Client.breakpointLocations, if_neg (by rw [supported]; decide)] at filed
  dsimp only at filed
  rw [lost] at filed
  simp [Client.reset] at filed

end Unlinked

/-! ## Runs -/

/-- An operation fails cleanly when it changes nothing after sending. -/
theorem cleanAfterFailure_iff
    (toolkit : Toolkit)
    (operation : Operation κ)
    (client : Client κ) :
    CleanAfterFailure (transition toolkit operation client) ↔
      (Fails client operation → ¬ ChangesAfterSending operation) := by
  constructor
  · intro clean fails changes
    have reset := clean fails
    rcases fails with ⟨sends, unlinked⟩
    cases operation with
    | initialize_ initArgs =>
        exact initialize_unlinked toolkit initArgs reset
    | call call =>
        cases call
        case breakpointLocations =>
          exact breakpointLocations_unlinked toolkit unlinked sends reset
        all_goals exact changes
    | _ => exact changes
  · intro quiet fails
    have unchanged := quiet fails
    rcases fails with ⟨sends, unlinked⟩
    cases operation with
    | initialize_ initArgs => exact absurd trivial unchanged
    | call call => exact perform_unlinked toolkit unlinked sends unchanged
    | _ => exact False.elim sends

theorem failuresClean_step
    {toolkit : Toolkit}
    {session next : Session κ}
    {operation : Operation κ}
    (clean : FailuresClean session)
    (taken : step toolkit session operation = some next) :
    FailuresClean next ↔ QuietFailure session operation := by
  cases taken
  have here :=
    cleanAfterFailure_iff toolkit operation session.client
  constructor
  · intro after
    exact here.mp (after _ List.mem_cons_self)
  · intro quiet made member
    rcases List.mem_cons.mp member with rfl | earlier
    · exact here.mpr quiet
    · exact clean made earlier

/--
In every run each failed operation leaves a clean client, if and only if
`Initialize` and `BreakpointLocations` never ask for a request that cannot be
handed over.
-/
theorem failures_clean_iff
    (toolkit : Toolkit)
    (operations : List (Operation κ)) :
    Always (step toolkit) FailuresClean (Session.new κ) operations ↔
      Along (step toolkit) QuietFailure (Session.new κ) operations := by
  have enabled :
      ∀ (session : Session κ) operation,
        ∃ next, step toolkit session operation = some next :=
    fun _ _ => ⟨_, rfl⟩
  have start : FailuresClean (Session.new κ) :=
    fun _ member => absurd member List.not_mem_nil
  exact always_iff_along enabled
    (fun _ _ _ clean quiet taken => (failuresClean_step clean taken).mpr quiet)
    (fun _ clean => clean)
    (fun _ _ _ clean loud taken next =>
      loud ((failuresClean_step clean taken).mp next))
    start operations

/-- `Initialize` without a transport leaves a handshake in progress. -/
theorem initialize_not_clean :
    ¬ Always (step plainToolkit) FailuresClean (Session.new Unit)
      [.initialize_ none] := by
  intro always
  have clean :=
    always [.initialize_ none] [] _ (List.append_nil _) rfl
      _ List.mem_cons_self ⟨trivial, rfl⟩
  cases congrArg Client.handshakeState clean

end DebuggerDap.DapClient.CleanFailure
