import DebuggerDap.DapClient.Handshake

/-!
# Optional requests

Four requests are optional in the protocol: an adapter says in its initialize
response whether it knows them.  `BreakpointLocations`, `ReadMemory` and
`GotoTarget` look at the features first; `GetDisassemble` does not.
-/

namespace DebuggerDap.DapClient.Capabilities

open DebuggerDap.Text.Strings
open DebuggerDap.Protocol.JsonTree
open DebuggerDap.Protocol.Messages
open DebuggerDap.DapClient.State
open DebuggerDap.DapClient.OnMessage
open DebuggerDap.DapClient.Replies
open DebuggerDap.DapClient.History
open DebuggerDap.DapClient.Handshake
open DebuggerDap.DapClient.Sessions (sentRequests_logOutput)
open DebuggerDap.Library.Run

variable {κ : Type*}

/-- The feature an adapter advertises when it knows an optional request. -/
def neededFeature : Command → Option Feature
  | .breakpointLocations => some .supportsBreakpointLocationsRequest
  | .readMemory => some .supportsReadMemoryRequest
  | .gotoTargets => some .supportsGotoTargetsRequest
  | .disassemble => some .supportsDisassembleRequest
  | _ => none

/-- A response accepted since the last `Reset` advertised the feature. -/
def Advertised (history : List (Transition κ)) (feature : Feature) : Prop :=
  ∃ json ∈ acceptedSinceReset history, Advertises json feature

/-- What a transition handed to the transport had been advertised before. -/
def Supported
    (earlier : List (Transition κ))
    (made : Transition κ) : Prop :=
  ∀ request ∈ sentRequests made.outputs, ∀ feature,
    neededFeature request.body.command = some feature →
      Advertised earlier feature

/-- Every optional request was advertised before it was handed over. -/
def OptionalGated : List (Transition κ) → Prop
  | [] => True
  | made :: earlier => Supported earlier made ∧ OptionalGated earlier

def RequestsGated (session : Session κ) : Prop :=
  OptionalGated session.history

/--
`GetDisassemble` is called only without a transport or when the feature that
it does not look at is there.
-/
def DisassemblySupported
    (session : Session κ)
    (operation : Operation κ) : Prop :=
  ∀ memAddr offset instructionOffset instructionCount,
    operation =
        .call (.getDisassemble memAddr offset instructionOffset
          instructionCount) →
      session.client.transport.isSome = true →
        session.client.isSupported .supportsDisassembleRequest = true

/-! ## The features are those advertised -/

/-- The features with a line in `OnMessage` are what the history says. -/
def Listed (session : Session κ) : Prop :=
  ∀ feature, feature ≠ .supportsGotoRequest →
    (feature ∈ session.client.features ↔
      Advertised session.history feature)

theorem listed_new : Listed (Session.new κ) := by
  intro feature _
  constructor
  · exact fun member => absurd member (Finset.notMem_empty feature)
  · rintro ⟨json, member, -⟩
    exact absurd member List.not_mem_nil

section Steps

variable {session : Session κ}
variable {made : Transition κ}

/-- A transition that neither resets nor accepts keeps the features. -/
theorem listed_kept
    (listed : Listed session)
    (resets : made.resets = false)
    (events : .initializeResponse ∉ made.events)
    (features : made.after.features = session.client.features) :
    Listed ⟨made.after, made :: session.history⟩ := by
  intro feature known
  show feature ∈ made.after.features ↔
    ∃ json ∈ acceptedSinceReset (made :: session.history), _
  rw [acceptedSinceReset, resets, accepted_eq_nil events, features]
  exact listed feature known

/-- The response that completes the handshake adds what it advertises. -/
theorem listed_of_completed
    {json : Json}
    (listed : Listed session)
    (resets : made.resets = false)
    (before : made.before = session.client)
    (completed : Completed json made) :
    Listed ⟨made.after, made :: session.history⟩ := by
  intro feature known
  show feature ∈ made.after.features ↔
    ∃ other ∈ acceptedSinceReset (made :: session.history), _
  rw [completed.features, before, Finset.mem_union, listed feature known,
    mem_enabledFeatures, acceptedSinceReset, resets, completed.accepted]
  constructor
  · rintro (⟨earlier, member, advertised⟩ | ⟨-, advertised⟩)
    · exact ⟨earlier, List.mem_cons_of_mem _ member, advertised⟩
    · exact ⟨json, List.mem_cons_self, advertised⟩
  · rintro ⟨other, member, advertised⟩
    rcases List.mem_cons.mp member with rfl | earlier
    · exact Or.inr ⟨known, advertised⟩
    · exact Or.inl ⟨other, earlier, advertised⟩

end Steps

theorem listed_step
    {toolkit : Toolkit}
    {session next : Session κ}
    {operation : Operation κ}
    (listed : Listed session)
    (taken : step toolkit session operation = some next) :
    Listed next := by
  cases taken
  by_cases isMessage : ∃ json, operation = .message json
  · rcases isMessage with ⟨json, rfl⟩
    have resets := (message_opens toolkit json session.client).2
    by_cases completed : session.client.handshakeState = .completed
    · rcases onMessage_session toolkit json completed with
        ⟨-, features, events⟩
      exact listed_kept listed resets
        (fun member => events _ member (by decide)) features
    · by_cases reply : InitializeReply json
      · exact listed_of_completed listed resets rfl
          (completed_of_reply toolkit completed reply)
      · rcases quiet_of_ignored toolkit completed reply with ⟨quiet, after⟩
        exact listed_kept listed resets (not_mem_of_logEvents quiet.events).1
          (by rw [after])
  · rcases transition_cases toolkit session.client
        (not_exists.mp isMessage) with ⟨cleared, -⟩ | asked | called
    · intro feature _
      show feature ∈ Client.features (transition _ _ _).after ↔
        ∃ json ∈ acceptedSinceReset (_ :: session.history), _
      rw [cleared.features, acceptedSinceReset, cleared.resets]
      simp
    · exact listed_kept listed asked.resets asked.events asked.features
    · exact listed_kept listed called.resets called.events called.features

/-! ## What an operation hands over -/

/-- A request that is handed over is the one that was made. -/
theorem body_of_sent
    {toolkit : Toolkit}
    {request sent : Request}
    {client : Client κ}
    (member : sent ∈ sentRequests (client.sendRequest toolkit request).2) :
    sent = request := by
  cases transport : client.transport with
  | none =>
      rw [sentRequests_sendRequest toolkit request transport] at member
      cases member
  | some number =>
      have linked : client.transport.isSome = true := by
        rw [transport]
        rfl
      rw [sentRequests_linked toolkit request linked] at member
      exact List.mem_singleton.mp member

/-- Behind a feature test the request that is handed over is supported. -/
theorem supported_of_gate
    {client : Client κ}
    {needed feature : Feature}
    {request sent : Request}
    {toolkit : Toolkit}
    {result : Client κ × List (Output κ)}
    (member :
      sent ∈ sentRequests
        (if client.isSupported needed = false then (client, [])
        else result).2)
    (outputs :
      result.2 = (client.nextSequence.sendRequest toolkit request).2)
    (needs : neededFeature request.body.command = some needed)
    (asks : neededFeature sent.body.command = some feature) :
    client.isSupported feature = true := by
  by_cases supported : client.isSupported needed = true
  · rw [if_neg (by rw [supported]; decide), outputs] at member
    rw [body_of_sent member, needs] at asks
    cases asks
    exact supported
  · rw [if_pos (Bool.eq_false_iff.mpr supported)] at member
    cases member

/-- The operation that asks for a disassembly. -/
def AsksDisassembly : ApiCall κ → Prop
  | .getDisassemble .. => True
  | _ => False

/-- Every other call looks at the feature its request needs. -/
theorem supported_of_sent
    {toolkit : Toolkit}
    {call : ApiCall κ}
    {client : Client κ}
    (other : ¬ AsksDisassembly call)
    {sent : Request}
    (member : sent ∈ sentRequests (client.perform toolkit call).2)
    {feature : Feature}
    (needs : neededFeature sent.body.command = some feature) :
    client.isSupported feature = true := by
  cases call
  case setWantsLogEvents => cases member
  case getNextSequence => cases member
  case sendResponse response =>
    rw [Client.perform, Client.sendResponse] at member
    split at member
    · rw [sentRequests, List.filterMap_cons, ← sentRequests,
        sentRequests_logOutput] at member
      cases member
    · cases member
  case breakpointLocations => exact supported_of_gate member rfl rfl needs
  case readMemory => exact supported_of_gate member rfl rfl needs
  case gotoTarget => exact supported_of_gate member rfl rfl needs
  case getDisassemble => exact absurd trivial other
  case loadSource source callback =>
    rw [Client.perform, Client.loadSource] at member
    split at member
    · rw [body_of_sent member] at needs
      cases needs
    · cases member
  all_goals
    rw [body_of_sent member] at needs
    cases needs

/-! ## Runs -/

/-- Every feature an optional request needs has a line in `OnMessage`. -/
theorem needed_known
    {command : Command}
    {feature : Feature}
    (needs : neededFeature command = some feature) :
    feature ≠ .supportsGotoRequest := by
  rintro rfl
  cases command <;> cases needs

theorem isSupported_iff
    {session : Session κ}
    (listed : Listed session)
    {command : Command}
    {feature : Feature}
    (needs : neededFeature command = some feature) :
    session.client.isSupported feature = true ↔
      Advertised session.history feature := by
  rw [Client.isSupported, decide_eq_true_iff]
  exact listed feature (needed_known needs)

/-- An operation that hands nothing over is supported. -/
theorem supported_of_silent
    {earlier : List (Transition κ)}
    {made : Transition κ}
    (silent : sentRequests made.outputs = []) :
    Supported earlier made := by
  intro request member
  rw [silent] at member
  cases member

/-- A disassembly is supported when its feature is there. -/
theorem supported_getDisassemble_iff
    {toolkit : Toolkit}
    {session : Session κ}
    (listed : Listed session)
    (memAddr : UInt64)
    (offset instructionOffset instructionCount : Int) :
    Supported session.history
        (transition toolkit
          (.call (.getDisassemble memAddr offset instructionOffset
            instructionCount)) session.client) ↔
      (session.client.transport.isSome = true →
        session.client.isSupported .supportsDisassembleRequest = true) := by
  have needs :
      neededFeature .disassemble = some .supportsDisassembleRequest :=
    rfl
  have advertised := isSupported_iff listed needs
  cases transport : session.client.transport with
  | none =>
      refine iff_of_true ?_ (fun linked => nomatch linked)
      exact supported_of_silent
        (sentRequests_unlinked toolkit _ transport)
  | some number =>
      have linked : session.client.nextSequence.transport.isSome = true := by
        rw [Client.nextSequence, transport]
        rfl
      let request : Request :=
        ⟨session.client.nextSequence.requestSequence,
          .disassemble
            { memoryReference := Client.formatAddress memAddr
              offset := offset
              instructionOffset := instructionOffset
              instructionCount := instructionCount
              resolveSymbols := true }⟩
      have member : request ∈ [request] := List.mem_singleton_self request
      rw [← sentRequests_linked toolkit request linked] at member
      rw [advertised]
      constructor
      · exact fun supported _ => supported request member _ rfl
      · intro listed sent member feature needs
        rw [body_of_sent member] at needs
        cases needs
        exact listed rfl

/-- A step is supported exactly when a disassembly is not asked for blindly. -/
theorem supported_iff
    {toolkit : Toolkit}
    {session : Session κ}
    (operation : Operation κ)
    (listed : Listed session) :
    Supported session.history
        (transition toolkit operation session.client) ↔
      DisassemblySupported session operation := by
  cases operation with
  | reset => exact iff_of_true (supported_of_silent rfl) (by nofun)
  | setTransport transport =>
      exact iff_of_true (supported_of_silent rfl) (by nofun)
  | connectionError => exact iff_of_true (supported_of_silent rfl) (by nofun)
  | message json =>
      refine iff_of_true (supported_of_silent ?_) (by nofun)
      exact sentRequests_onMessage toolkit json session.client
  | initialize_ initArgs =>
      refine iff_of_true ?_ (by nofun)
      intro sent member feature needs
      rw [body_of_sent member] at needs
      cases needs
  | call call =>
      by_cases asks : AsksDisassembly call
      · cases call
        case getDisassemble memAddr offset instructionOffset
            instructionCount =>
          rw [supported_getDisassemble_iff listed]
          constructor
          · rintro supported _ _ _ _ ⟨rfl⟩
            exact supported
          · exact fun supported => supported _ _ _ _ rfl
        all_goals exact False.elim asks
      · refine iff_of_true ?_ ?_
        · intro sent member feature needs
          rw [← isSupported_iff listed needs]
          exact supported_of_sent asks member needs
        · rintro _ _ _ _ ⟨rfl⟩
          exact absurd trivial asks

/-- The invariant of a run in which every disassembly is supported. -/
structure Checked (session : Session κ) : Prop where
  listed : Listed session
  gated : RequestsGated session

theorem checked_new : Checked (Session.new κ) where
  listed := listed_new
  gated := trivial

theorem gated_step
    {toolkit : Toolkit}
    {session next : Session κ}
    {operation : Operation κ}
    (checked : Checked session)
    (taken : step toolkit session operation = some next) :
    RequestsGated next ↔ DisassemblySupported session operation := by
  rw [← supported_iff operation checked.listed]
  cases taken
  exact and_iff_left checked.gated

/--
In every run each optional request had been advertised when it was handed
over, if and only if `GetDisassemble` is called only without a transport or
when its feature is there.
-/
theorem optional_gated_iff
    (toolkit : Toolkit)
    (operations : List (Operation κ)) :
    Always (step toolkit) RequestsGated (Session.new κ) operations ↔
      Along (step toolkit) DisassemblySupported (Session.new κ)
        operations := by
  have enabled :
      ∀ (session : Session κ) operation,
        ∃ next, step toolkit session operation = some next :=
    fun _ _ => ⟨_, rfl⟩
  have preserved :
      ∀ (session : Session κ) operation next, Checked session →
        DisassemblySupported session operation →
          step toolkit session operation = some next → Checked next := by
    intro session operation next checked supported taken
    exact ⟨listed_step checked.listed taken,
      (gated_step checked taken).mpr supported⟩
  exact always_iff_along enabled preserved
    (fun _ checked => checked.gated)
    (fun _ _ _ checked blind taken gated =>
      blind ((gated_step checked taken).mp gated))
    checked_new operations

/-- An adapter that advertises nothing is asked for a disassembly. -/
def disassembleUnasked : List (Operation Unit) :=
  [.setTransport 0,
    .initialize_ none,
    .message (responseTree .initialize_ 1 true []),
    .call (.getDisassemble 4096 0 0 16)]

theorem disassembleUnasked_not_gated :
    ¬ Always (step plainToolkit) RequestsGated (Session.new Unit)
      disassembleUnasked := by
  intro always
  have gated := always disassembleUnasked [] _ (List.append_nil _) rfl
  rcases gated.1 _ List.mem_cons_self _ rfl with
    ⟨json, member, advertises⟩
  rcases List.mem_singleton.mp member with rfl
  cases advertises

end DebuggerDap.DapClient.Capabilities
