import DebuggerDap.DapClient.History
import DebuggerDap.Library.Log

/-!
# When the debuggee can be interacted with

`CanInteract` should say that the debuggee was stopped and not resumed since.
`OnMessage` also clears it for a reply that rejects a step, so it is exact
only while no step is rejected.
-/

namespace DebuggerDap.DapClient.Interaction

open DebuggerDap.Text.Strings
open DebuggerDap.Protocol.JsonTree
open DebuggerDap.Protocol.Messages
open DebuggerDap.DapClient.State
open DebuggerDap.DapClient.OnMessage
open DebuggerDap.DapClient.Replies
open DebuggerDap.DapClient.History
open DebuggerDap.Library.Log
open DebuggerDap.Library.Run

variable {κ : Type*}

/-! ## What the messages say -/

/-- The messages received after the handshake since `Reset`, newest first. -/
def heard : List (Transition κ) → List Json
  | [] => []
  | made :: earlier =>
      if made.resets then []
      else
        match made.operation with
        | .message json =>
            if Waiting earlier then heard earlier else json :: heard earlier
        | _ => heard earlier

/-- The commands that let the debuggee run. -/
def stepCommands : List Command :=
  [.next, .stepIn, .stepOut, .continue_]

/-- A stopped event. -/
def Stops (json : Json) : Prop :=
  fromJson json = some (.event .stopped)

/-- A reply to a step or to continue. -/
def RepliesToStep (json : Json) (success : Bool) : Prop :=
  ∃ response,
    fromJson json = some (.response response) ∧
      response.command ∈ stepCommands ∧ response.success = success

/-- A continued event, or a reply that accepts a step. -/
def Resumes (json : Json) : Prop :=
  fromJson json = some (.event .continued) ∨ RepliesToStep json true

/-- The flag says that the debuggee was stopped and not resumed since. -/
structure Exact (session : Session κ) : Prop where
  canInteract :
    session.client.canInteract = true ↔
      LastSince Stops Resumes (heard session.history)
  /-- A reply that rejects a step leaves the flag as it is. -/
  rejected :
    ∀ made ∈ session.history, ∀ json,
      made.operation = .message json → RepliesToStep json false →
        made.after.canInteract = made.before.canInteract

/-- No step is rejected while the debuggee can be interacted with. -/
def NoStepRejected (session : Session κ) (operation : Operation κ) : Prop :=
  ∀ json, operation = .message json → RepliesToStep json false →
    session.client.handshakeState = .completed →
      session.client.canInteract = false

/-! ## What a message does to the flag -/

section Messages

variable (toolkit : Toolkit)
variable {json : Json}
variable {client : Client κ}

theorem canInteract_waiting
    (waiting : client.handshakeState ≠ .completed) :
    (onMessage toolkit json client).1.canInteract = client.canInteract := by
  by_cases reply : InitializeReply json
  · rw [onMessage_completes toolkit json waiting reply]
  · rw [onMessage_ignored toolkit json waiting reply]

theorem onMessage_completed
    (completed : client.handshakeState = .completed) :
    (onMessage toolkit json client).1 =
      (onSessionMessage toolkit json client).1 := by
  unfold onMessage
  simp only [if_pos completed]

theorem canInteract_stops
    (completed : client.handshakeState = .completed)
    (stops : Stops json) :
    (onMessage toolkit json client).1.canInteract = true := by
  have read : fromJson json = some (.event .stopped) := stops
  rw [onMessage_completed toolkit completed]
  unfold onSessionMessage
  rw [read]
  rfl

theorem onResponse_canInteract (response : Response) :
    (onResponse toolkit json response client).1.canInteract =
      if response.command ∈ stepCommands then false
      else client.canInteract := by
  rcases response with ⟨requestSeq, success, command⟩
  cases command
  case evaluate =>
    unfold onResponse handleEvaluateResponse
    dsimp only
    split <;> rfl
  case source =>
    unfold onResponse handleSourceResponse
    dsimp only
    split <;> rfl
  case emptyAck =>
    unfold onResponse
    dsimp only
    split <;> rfl
  all_goals rfl

/-- A reply to a step clears the flag, whether it accepts the step or not. -/
theorem canInteract_step
    {success : Bool}
    (completed : client.handshakeState = .completed)
    (replies : RepliesToStep json success) :
    (onMessage toolkit json client).1.canInteract = false := by
  rcases replies with ⟨response, read, among, -⟩
  rw [onMessage_completed toolkit completed]
  unfold onSessionMessage
  rw [read]
  exact (onResponse_canInteract toolkit response).trans (if_pos among)

theorem canInteract_continued
    (completed : client.handshakeState = .completed)
    (continued : fromJson json = some (.event .continued)) :
    (onMessage toolkit json client).1.canInteract = false := by
  rw [onMessage_completed toolkit completed]
  unfold onSessionMessage
  rw [continued]
  rfl

/-- Every other message leaves the flag as it is. -/
theorem canInteract_other
    (completed : client.handshakeState = .completed)
    (notStops : ¬ Stops json)
    (notContinued : fromJson json ≠ some (.event .continued))
    (notReplies : ∀ success, ¬ RepliesToStep json success) :
    (onMessage toolkit json client).1.canInteract = client.canInteract := by
  rw [onMessage_completed toolkit completed]
  unfold onSessionMessage
  split
  · next event read =>
      cases event
      case stopped => exact absurd read notStops
      case continued => exact absurd read notContinued
      all_goals rfl
  · next response read =>
      have other : response.command ∉ stepCommands :=
        fun among => notReplies _ ⟨response, read, among, rfl⟩
      exact (onResponse_canInteract toolkit response).trans (if_neg other)
  · next command read => cases command <;> rfl
  · rfl

end Messages

/-! ## The invariant -/

/-- What is heard is what the client has been told in its session. -/
structure Tracked (session : Session κ) : Prop where
  follows : Follows session
  exact_ : Exact session

theorem tracked_new : Tracked (Session.new κ) where
  follows := follows_new
  exact_ :=
    { canInteract :=
        ⟨fun interacts => absurd interacts Bool.false_ne_true,
          fun since => absurd since not_lastSince_nil⟩
      rejected := fun _ member => absurd member List.not_mem_nil }

/-- A heard message that is no rejected step moves the flag as it should. -/
theorem canInteract_heard
    (toolkit : Toolkit)
    {json : Json}
    {client : Client κ}
    {earlier : List Json}
    (completed : client.handshakeState = .completed)
    (before :
      client.canInteract = true ↔ LastSince Stops Resumes earlier)
    (allowed : RepliesToStep json false → client.canInteract = false) :
    (onMessage toolkit json client).1.canInteract = true ↔
      LastSince Stops Resumes (json :: earlier) := by
  by_cases stops : Stops json
  · rw [canInteract_stops toolkit completed stops, lastSince_cons]
    exact ⟨fun _ => Or.inl stops, fun _ => rfl⟩
  · by_cases resumes : Resumes json
    · have ended := lastSince_cons_of_ends stops resumes earlier
      have cleared :
          (onMessage toolkit json client).1.canInteract = false := by
        rcases resumes with continued | replies
        · exact canInteract_continued toolkit completed continued
        · exact canInteract_step toolkit completed replies
      rw [cleared]
      exact ⟨fun flag => absurd flag Bool.false_ne_true,
        fun since => absurd since ended⟩
    · rw [lastSince_cons_of_neither stops resumes, ← before]
      have same :
          (onMessage toolkit json client).1.canInteract =
            client.canInteract := by
        by_cases rejected : RepliesToStep json false
        · rw [canInteract_step toolkit completed rejected, allowed rejected]
        · refine canInteract_other toolkit completed stops
            (fun continued => resumes (Or.inl continued)) ?_
          intro success replies
          cases success
          · exact rejected replies
          · exact resumes (Or.inr replies)
      rw [same]

/-- What a transition other than a heard message does to what is heard. -/
theorem heard_cons_of_unheard
    {made : Transition κ}
    {earlier : List (Transition κ)}
    (resets : made.resets = false)
    (unheard : ∀ json, made.operation = .message json → Waiting earlier) :
    heard (made :: earlier) = heard earlier := by
  rw [heard, resets]
  simp only [Bool.false_eq_true, if_false]
  split
  · next json operation => exact if_pos (unheard json operation)
  · rfl

theorem heard_cons_of_message
    {made : Transition κ}
    {earlier : List (Transition κ)}
    {json : Json}
    (resets : made.resets = false)
    (operation : made.operation = .message json)
    (told : ¬ Waiting earlier) :
    heard (made :: earlier) = json :: heard earlier := by
  rw [heard, resets, operation]
  exact if_neg told

theorem tracked_step
    {toolkit : Toolkit}
    {session next : Session κ}
    {operation : Operation κ}
    (tracked : Tracked session)
    (allowed : NoStepRejected session operation)
    (taken : step toolkit session operation = some next) :
    Tracked next := by
  have follows := follows_step tracked.follows taken
  cases taken
  refine ⟨follows, ?_, ?_⟩
  · show (operate toolkit operation session.client).1.canInteract = true ↔
      LastSince Stops Resumes
        (heard (transition toolkit operation session.client ::
          session.history))
    by_cases isMessage : ∃ json, operation = .message json
    · rcases isMessage with ⟨json, rfl⟩
      have resets := (message_opens toolkit json session.client).2
      by_cases completed : session.client.handshakeState = .completed
      · have told : ¬ Waiting session.history :=
          fun waiting => tracked.follows.iff.mpr waiting completed
        rw [heard_cons_of_message resets rfl told]
        exact canInteract_heard toolkit completed tracked.exact_.canInteract
          fun rejected => allowed json rfl rejected completed
      · rw [heard_cons_of_unheard resets
          fun _ _ => tracked.follows.iff.mp completed]
        show (onMessage toolkit json session.client).1.canInteract = true ↔ _
        rw [canInteract_waiting toolkit completed]
        exact tracked.exact_.canInteract
    · have notMessage := not_exists.mp isMessage
      have kept
          (resets :
            (transition toolkit operation session.client).resets = false)
          (same :
            (transition toolkit operation session.client).after.canInteract =
              session.client.canInteract) :
          (operate toolkit operation session.client).1.canInteract = true ↔
            LastSince Stops Resumes
              (heard (transition toolkit operation session.client ::
                session.history)) := by
        rw [heard_cons_of_unheard resets
          fun json message => absurd message (notMessage json)]
        have flag :
            (operate toolkit operation session.client).1.canInteract =
              session.client.canInteract := same
        rw [flag]
        exact tracked.exact_.canInteract
      rcases transition_cases toolkit session.client notMessage with
        ⟨cleared, -⟩ | asked | called
      · have flag :
            (operate toolkit operation session.client).1.canInteract =
              false := cleared.canInteract
        rw [flag, heard, cleared.resets]
        exact ⟨fun interacts => absurd interacts Bool.false_ne_true,
          fun since => absurd since not_lastSince_nil⟩
      · exact kept asked.resets asked.canInteract
      · exact kept called.resets called.canInteract
  · intro made member json message rejected
    rcases List.mem_cons.mp member with rfl | earlier
    · have same : operation = .message json := message
      cases same
      by_cases completed : session.client.handshakeState = .completed
      · have cleared := allowed json rfl rejected completed
        exact (canInteract_step toolkit completed rejected).trans
          cleared.symm
      · exact canInteract_waiting toolkit completed
    · exact tracked.exact_.rejected made earlier json message rejected

/-- A step rejected while the debuggee is stopped locks the user out. -/
theorem not_exact_step
    {toolkit : Toolkit}
    {session next : Session κ}
    {operation : Operation κ}
    (locks : ¬ NoStepRejected session operation)
    (taken : step toolkit session operation = some next) :
    ¬ Exact next := by
  simp only [NoStepRejected, not_forall] at locks
  rcases locks with ⟨json, rfl, rejected, completed, interacts⟩
  cases taken
  intro kept
  have same :=
    kept.rejected _ List.mem_cons_self json rfl rejected
  have cleared :
      (transition toolkit (.message json) session.client).after.canInteract =
        false :=
    canInteract_step toolkit completed rejected
  rw [cleared] at same
  exact interacts same.symm

/--
In every run the flag says that the debuggee was stopped and not resumed
since, if and only if no step is rejected while the flag is set.
-/
theorem canInteract_exact_iff
    (toolkit : Toolkit)
    (operations : List (Operation κ)) :
    Always (step toolkit) Exact (Session.new κ) operations ↔
      Along (step toolkit) NoStepRejected (Session.new κ) operations := by
  have enabled :
      ∀ (session : Session κ) operation,
        ∃ next, step toolkit session operation = some next :=
    fun _ _ => ⟨_, rfl⟩
  exact always_iff_along enabled
    (fun _ _ _ tracked allowed taken => tracked_step tracked allowed taken)
    (fun _ tracked => tracked.exact_)
    (fun _ _ _ _ locks taken => not_exact_step locks taken)
    tracked_new operations

/-- The tree of an event without a body. -/
def eventTree (name : WxString) : Json :=
  .object
    [("type".toList, .string "event".toList),
      ("event".toList, .string name)]

/-- The adapter stops the debuggee and rejects a step. -/
def stepRejected : List (Operation Unit) :=
  [.setTransport 0,
    .initialize_ none,
    .message (responseTree .initialize_ 1 true []),
    .message (eventTree "stopped".toList),
    .message (responseTree .next 2 false [])]

theorem stepRejected_not_exact :
    ¬ Always (step plainToolkit) Exact (Session.new Unit)
      stepRejected := by
  intro always
  have kept := always stepRejected [] _ (List.append_nil _) rfl
  have same :=
    kept.rejected _ List.mem_cons_self _ rfl ⟨_, rfl, by decide, rfl⟩
  exact absurd same Bool.false_ne_true

end DebuggerDap.DapClient.Interaction
