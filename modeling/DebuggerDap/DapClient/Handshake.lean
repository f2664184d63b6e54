import DebuggerDap.DapClient.History

/-!
# The handshake on the receiving side

From a `Reset` or `Initialize` until the next initialize response arriving
messages are only logged.  At most one initialize response is dispatched
between two such calls, and the features are those advertised since the last
`Reset`, except that `OnMessage` has no line for `supportsGotoRequest`.
-/

namespace DebuggerDap.DapClient.Handshake

open DebuggerDap.Text.Strings
open DebuggerDap.Protocol.JsonTree
open DebuggerDap.Protocol.Messages
open DebuggerDap.DapClient.State
open DebuggerDap.DapClient.OnMessage
open DebuggerDap.DapClient.Replies
open DebuggerDap.DapClient.History
open DebuggerDap.Library.Run

variable {κ : Type*}

/-! ## Features by name -/

/-- The name of a feature bit, which is also its body property. -/
def featureName : Feature → WxString
  | .supportsConfigurationDoneRequest =>
      "supportsConfigurationDoneRequest".toList
  | .supportsFunctionBreakpoints => "supportsFunctionBreakpoints".toList
  | .supportsConditionalBreakpoints =>
      "supportsConditionalBreakpoints".toList
  | .supportsHitConditionalBreakpoints =>
      "supportsHitConditionalBreakpoints".toList
  | .supportsEvaluateForHovers => "supportsEvaluateForHovers".toList
  | .supportsStepBack => "supportsStepBack".toList
  | .supportsSetVariable => "supportsSetVariable".toList
  | .supportsRestartFrame => "supportsRestartFrame".toList
  | .supportsGotoTargetsRequest => "supportsGotoTargetsRequest".toList
  | .supportsStepInTargetsRequest => "supportsStepInTargetsRequest".toList
  | .supportsCompletionsRequest => "supportsCompletionsRequest".toList
  | .supportsModulesRequest => "supportsModulesRequest".toList
  | .supportsRestartRequest => "supportsRestartRequest".toList
  | .supportsExceptionOptions => "supportsExceptionOptions".toList
  | .supportsValueFormattingOptions =>
      "supportsValueFormattingOptions".toList
  | .supportsExceptionInfoRequest => "supportsExceptionInfoRequest".toList
  | .supportTerminateDebuggee => "supportTerminateDebuggee".toList
  | .supportsDelayedStackTraceLoading =>
      "supportsDelayedStackTraceLoading".toList
  | .supportsLoadedSourcesRequest => "supportsLoadedSourcesRequest".toList
  | .supportsProgressReporting => "supportsProgressReporting".toList
  | .supportsRunInTerminalRequest => "supportsRunInTerminalRequest".toList
  | .supportsBreakpointLocationsRequest =>
      "supportsBreakpointLocationsRequest".toList
  | .supportsDisassembleRequest => "supportsDisassembleRequest".toList
  | .supportsGotoRequest => "supportsGotoRequest".toList
  | .supportsReadMemoryRequest => "supportsReadMemoryRequest".toList

/-- The body property of a feature is `true`. -/
def Advertises (json : Json) (feature : Feature) : Prop :=
  messageBody json (featureName feature) = some (.bool true)

/-- The bits with a line in `OnMessage`. -/
def lookedUp : List Feature :=
  features.map Prod.fst

theorem mem_lookedUp (feature : Feature) :
    feature ∈ lookedUp ↔ feature ≠ .supportsGotoRequest := by
  cases feature <;> decide

/-- Every bit that is looked up is looked up under its own name. -/
theorem features_eq :
    features = lookedUp.map fun feature => (feature, featureName feature) :=
  rfl

theorem getBool_eq_true (json : Option Json) :
    Json.getBool json false = true ↔ json = some (.bool true) := by
  unfold Json.getBool
  split
  · exact ⟨fun _ => rfl, fun _ => rfl⟩
  · next other =>
      constructor
      · intro absent
        cases absent
      · intro equal
        exact absurd equal other

theorem mem_enabledFeatures (json : Json) (feature : Feature) :
    feature ∈ enabledFeatures json ↔
      feature ≠ .supportsGotoRequest ∧ Advertises json feature := by
  rw [enabledFeatures, List.mem_toFinset, List.mem_map, features_eq]
  constructor
  · rintro ⟨entry, member, rfl⟩
    rcases List.mem_filter.mp member with ⟨listed, enabled⟩
    rcases List.mem_map.mp listed with ⟨looked, known, rfl⟩
    exact ⟨(mem_lookedUp looked).mp known, (getBool_eq_true _).mp enabled⟩
  · rintro ⟨other, advertised⟩
    have known := (mem_lookedUp feature).mpr other
    refine ⟨(feature, featureName feature), List.mem_filter.mpr ⟨?_, ?_⟩,
      rfl⟩
    · exact List.mem_map_of_mem known
    · exact (getBool_eq_true _).mpr advertised

/-! ## The handshake in a history -/

/-- Nothing but log events is dispatched, and nothing is taken or set. -/
structure Quiet (made : Transition κ) : Prop where
  events : ∀ event ∈ made.events, event = .logEvent
  frames : made.after.getFramesQueue = made.before.getFramesQueue
  scopes : made.after.getScopesQueue = made.before.getScopesQueue
  children : made.after.getVariablesQueue = made.before.getVariablesQueue
  sources : made.after.loadSourcesQueue = made.before.loadSourcesQueue
  evaluates : made.after.evaluateQueue = made.before.evaluateQueue
  breakpoints :
    made.after.sourceBreakpointsQueue = made.before.sourceBreakpointsQueue
  locations :
    made.after.requestIdToFilepath = made.before.requestIdToFilepath
  canInteract : made.after.canInteract = made.before.canInteract
  activeThread : made.after.activeThreadId = made.before.activeThreadId

/-- While the response is awaited every other message is quiet. -/
def QuietWhileWaiting : List (Transition κ) → Prop
  | [] => True
  | made :: earlier =>
      (∀ json, made.operation = .message json → Waiting earlier →
        ¬ InitializeReply json → Quiet made) ∧
        QuietWhileWaiting earlier

/-- How many initialize responses were dispatched since the last opening. -/
def responsesSinceOpened : List (Transition κ) → Nat
  | [] => 0
  | made :: earlier =>
      made.events.count .initializeResponse +
        if made.opens then 0 else responsesSinceOpened earlier

/-- The message of a transition that dispatched an initialize response. -/
def accepted (made : Transition κ) : List Json :=
  match made.operation with
  | .message json =>
      if .initializeResponse ∈ made.events then [json] else []
  | _ => []

def acceptedSinceReset : List (Transition κ) → List Json
  | [] => []
  | made :: earlier =>
      if made.resets then [] else accepted made ++ acceptedSinceReset earlier

/-- The three rules of the handshake. -/
structure Gated (session : Session κ) : Prop where
  quiet : QuietWhileWaiting session.history
  once : responsesSinceOpened session.history ≤ 1
  features :
    ∀ feature, feature ∈ session.client.features ↔
      ∃ json ∈ acceptedSinceReset session.history, Advertises json feature

/--
An initialize response that is accepted does not advertise the one feature
without a line in `OnMessage`.
-/
def KnownFeatures (session : Session κ) (operation : Operation κ) : Prop :=
  ∀ json, operation = .message json → InitializeReply json →
    session.client.handshakeState ≠ .completed →
      ¬ Advertises json .supportsGotoRequest

/-! ## The kinds of messages -/

section Messages

variable (toolkit : Toolkit)
variable {json : Json}
variable {client : Client κ}

theorem quiet_of_ignored
    (waiting : client.handshakeState ≠ .completed)
    (notReply : ¬ InitializeReply json) :
    Quiet (transition toolkit (.message json) client) ∧
      (transition toolkit (.message json) client).after = client := by
  have ignored := onMessage_ignored toolkit json waiting notReply
  have after : (transition toolkit (.message json) client).after = client :=
    congrArg Prod.fst ignored
  have before :
      (transition toolkit (.message json) client).before = client := rfl
  have events :
      ∀ event ∈ (transition toolkit (.message json) client).events,
        event = .logEvent := by
    show ∀ event ∈ (onMessage toolkit json client).2.filterMap
      Transition.eventOf, event = .logEvent
    rw [ignored]
    exact events_logOutput client _
  refine ⟨⟨events, ?_, ?_, ?_, ?_, ?_, ?_, ?_, ?_, ?_⟩, after⟩
  all_goals rw [after, before]

/-- The transition of the response that completes the handshake. -/
structure Completed (json : Json) (made : Transition κ) : Prop where
  handshake : made.after.handshakeState = .completed
  features :
    made.after.features = made.before.features ∪ enabledFeatures json
  once : made.events.count .initializeResponse = 1
  accepted : accepted made = [json]

theorem completed_of_reply
    (waiting : client.handshakeState ≠ .completed)
    (reply : InitializeReply json) :
    Completed json (transition toolkit (.message json) client) := by
  have completes := onMessage_completes toolkit json waiting reply
  have logged :=
    events_logOutput client
      ("<-- ".toList ++ toolkit.printUnformatted json)
  have none := not_mem_of_logEvents logged
  have events :
      (transition toolkit (.message json) client).events =
        (client.logOutput
          ("<-- ".toList ++ toolkit.printUnformatted json)).filterMap
            Transition.eventOf ++ [.initializeResponse] := by
    show (onMessage toolkit json client).2.filterMap _ = _
    rw [completes, List.filterMap_append]
    rfl
  have dispatched :
      .initializeResponse ∈
        (transition toolkit (.message json) client).events := by
    rw [events]
    exact List.mem_append_right _ (List.mem_singleton_self _)
  constructor
  case handshake =>
    exact congrArg (fun result => result.1.handshakeState) completes
  case features => exact congrArg (fun result => result.1.features) completes
  case once =>
    rw [events, List.count_append, List.count_eq_zero.mpr none.1]
    rfl
  case accepted => exact if_pos dispatched

end Messages

/-! ## The invariant -/

/-- The state of the handshake is what the history says. -/
structure Tracked (session : Session κ) : Prop where
  follows : Follows session
  gated : Gated session
  none : Waiting session.history → responsesSinceOpened session.history = 0
  unlisted : .supportsGotoRequest ∉ session.client.features

theorem tracked_new : Tracked (Session.new κ) where
  follows := follows_new
  gated :=
    { quiet := trivial
      once := Nat.zero_le 1
      features := by
        intro feature
        constructor
        · exact fun member => absurd member (Finset.notMem_empty feature)
        · rintro ⟨json, member, -⟩
          exact absurd member List.not_mem_nil }
  none := fun _ => rfl
  unlisted := Finset.notMem_empty _

theorem accepted_eq_nil
    {made : Transition κ}
    (events : .initializeResponse ∉ made.events) :
    accepted made = [] := by
  unfold accepted
  split
  · exact if_neg events
  · rfl

section Steps

variable {session : Session κ}
variable {made : Transition κ}

/-- A transition that neither resets nor accepts keeps the features. -/
theorem features_kept
    (tracked : Tracked session)
    (resets : made.resets = false)
    (events : .initializeResponse ∉ made.events)
    (features : made.after.features = session.client.features)
    (feature : Feature) :
    feature ∈ made.after.features ↔
      ∃ json ∈ acceptedSinceReset (made :: session.history),
        Advertises json feature := by
  rw [acceptedSinceReset, resets, accepted_eq_nil events, features]
  exact tracked.gated.features feature

/-- A transition that dispatches no initialize response. -/
theorem tracked_of_unanswered
    (tracked : Tracked session)
    (quiet :
      ∀ json, made.operation = .message json → Waiting session.history →
        ¬ InitializeReply json → Quiet made)
    (events : .initializeResponse ∉ made.events)
    (follows : Follows ⟨made.after, made :: session.history⟩)
    (features :
      ∀ feature, feature ∈ made.after.features ↔
        ∃ json ∈ acceptedSinceReset (made :: session.history),
          Advertises json feature)
    (unlisted : .supportsGotoRequest ∉ made.after.features) :
    Tracked ⟨made.after, made :: session.history⟩ := by
  have responses :
      responsesSinceOpened (made :: session.history) =
        if made.opens then 0
        else responsesSinceOpened session.history := by
    rw [responsesSinceOpened, List.count_eq_zero.mpr events, Nat.zero_add]
  have once : responsesSinceOpened (made :: session.history) ≤ 1 := by
    rw [responses]
    split
    · exact Nat.zero_le 1
    · exact tracked.gated.once
  refine ⟨follows, ⟨⟨quiet, tracked.gated.quiet⟩, once, features⟩, ?_,
    unlisted⟩
  intro waiting
  show responsesSinceOpened (made :: session.history) = 0
  rw [responses]
  rcases waiting with opens | ⟨-, before⟩
  · exact if_pos opens
  · split
    · rfl
    · exact tracked.none before

/-- The initialize response that completes the handshake. -/
theorem tracked_of_completed
    {json : Json}
    (tracked : Tracked session)
    (operation : made.operation = .message json)
    (before : made.before = session.client)
    (reply : InitializeReply json)
    (waiting : session.client.handshakeState ≠ .completed)
    (opens : made.opens = false)
    (resets : made.resets = false)
    (completed : Completed json made)
    (follows : Follows ⟨made.after, made :: session.history⟩)
    (known : ¬ Advertises json .supportsGotoRequest) :
    Tracked ⟨made.after, made :: session.history⟩ := by
  have enabled :
      ∀ feature, feature ∈ enabledFeatures json ↔
        Advertises json feature := by
    intro feature
    rw [mem_enabledFeatures]
    refine ⟨And.right, fun advertised => ⟨?_, advertised⟩⟩
    rintro rfl
    exact known advertised
  have features : made.after.features =
      session.client.features ∪ enabledFeatures json := by
    rw [completed.features, before]
  have notWaiting : ¬ Waiting (made :: session.history) :=
    fun still => follows.iff.mpr still completed.handshake
  constructor
  case follows => exact follows
  case none => exact fun still => absurd still notWaiting
  case unlisted =>
    show .supportsGotoRequest ∉ made.after.features
    rw [features, Finset.mem_union, not_or, enabled]
    exact ⟨tracked.unlisted, known⟩
  case gated =>
    constructor
    case quiet =>
      refine ⟨fun other same _ notReply => ?_, tracked.gated.quiet⟩
      rw [operation] at same
      cases same
      exact absurd reply notReply
    case once =>
      show _ + _ ≤ 1
      rw [completed.once, opens, tracked.none (tracked.follows.iff.mp waiting)]
      rfl
    case features =>
      intro feature
      show feature ∈ made.after.features ↔
        ∃ json ∈ acceptedSinceReset (made :: session.history), _
      rw [features, acceptedSinceReset, resets, completed.accepted,
        Finset.mem_union, tracked.gated.features, enabled]
      constructor
      · rintro (⟨earlier, member, advertised⟩ | advertised)
        · exact ⟨earlier, List.mem_cons_of_mem _ member, advertised⟩
        · exact ⟨json, List.mem_cons_self, advertised⟩
      · rintro ⟨other, member, advertised⟩
        rcases List.mem_cons.mp member with rfl | earlier
        · exact Or.inr advertised
        · exact Or.inl ⟨other, earlier, advertised⟩

end Steps

/-- A message that advertises only known features keeps the invariant. -/
theorem tracked_message
    (toolkit : Toolkit)
    {session : Session κ}
    (json : Json)
    (tracked : Tracked session)
    (known : KnownFeatures session (.message json))
    (follows :
      Follows
        ⟨(transition toolkit (.message json) session.client).after,
          transition toolkit (.message json) session.client ::
            session.history⟩) :
    Tracked
      ⟨(transition toolkit (.message json) session.client).after,
        transition toolkit (.message json) session.client ::
          session.history⟩ := by
  rcases message_opens toolkit json session.client with ⟨opens, resets⟩
  by_cases completed : session.client.handshakeState = .completed
  · rcases onMessage_session toolkit json completed with
      ⟨-, features, events⟩
    have noResponse :
        .initializeResponse ∉
          (transition toolkit (.message json) session.client).events :=
      fun member => events _ member (by decide)
    refine tracked_of_unanswered tracked ?_ noResponse follows
      (features_kept tracked resets noResponse features) ?_
    · intro _ _ waiting
      exact absurd completed (tracked.follows.iff.mpr waiting)
    · exact features ▸ tracked.unlisted
  · by_cases reply : InitializeReply json
    · exact tracked_of_completed tracked rfl rfl reply completed opens resets
        (completed_of_reply toolkit completed reply) follows
        (known json rfl reply completed)
    · rcases quiet_of_ignored toolkit completed reply with ⟨quiet, after⟩
      have none := not_mem_of_logEvents quiet.events
      refine tracked_of_unanswered tracked (fun _ _ _ _ => quiet) none.1
        follows (features_kept tracked resets none.1 (by rw [after])) ?_
      rw [after]
      exact tracked.unlisted

theorem tracked_step
    {toolkit : Toolkit}
    {session next : Session κ}
    {operation : Operation κ}
    (tracked : Tracked session)
    (known : KnownFeatures session operation)
    (taken : step toolkit session operation = some next) :
    Tracked next := by
  have follows := follows_step tracked.follows taken
  cases taken
  by_cases isMessage : ∃ json, operation = .message json
  · rcases isMessage with ⟨json, rfl⟩
    exact tracked_message toolkit json tracked known follows
  · have notMessage := not_exists.mp isMessage
    have unheard :
        ∀ json,
          (transition toolkit operation session.client).operation =
              .message json →
            Waiting session.history → ¬ InitializeReply json →
              Quiet (transition toolkit operation session.client) :=
      fun json same => absurd same (notMessage json)
    rcases transition_cases toolkit session.client notMessage with
      ⟨cleared, -⟩ | asked | called
    · refine tracked_of_unanswered tracked unheard cleared.events follows
        ?_ ?_
      · intro feature
        rw [cleared.features, acceptedSinceReset, cleared.resets]
        simp
      · rw [cleared.features]
        exact Finset.notMem_empty _
    · refine tracked_of_unanswered tracked unheard asked.events follows
        (features_kept tracked asked.resets asked.events asked.features) ?_
      rw [asked.features]
      exact tracked.unlisted
    · refine tracked_of_unanswered tracked unheard called.events follows
        (features_kept tracked called.resets called.events called.features)
        ?_
      rw [called.features]
      exact tracked.unlisted

/-- A response that advertises the feature without a line is not honoured. -/
theorem not_gated_step
    {toolkit : Toolkit}
    {session next : Session κ}
    {operation : Operation κ}
    (tracked : Tracked session)
    (unknown : ¬ KnownFeatures session operation)
    (taken : step toolkit session operation = some next) :
    ¬ Gated next := by
  simp only [KnownFeatures, not_forall, not_not] at unknown
  rcases unknown with ⟨json, rfl, reply, waiting, advertised⟩
  cases taken
  have completed := completed_of_reply toolkit waiting reply
  intro gated
  have listed :=
    (gated.features .supportsGotoRequest).mpr
      ⟨json, ?_, advertised⟩
  · rw [completed.features, Finset.mem_union, mem_enabledFeatures] at listed
    rcases listed with before | ⟨other, -⟩
    · exact tracked.unlisted before
    · exact other rfl
  · rw [acceptedSinceReset, (message_opens toolkit json _).2,
      completed.accepted]
    exact List.mem_cons_self

/--
In every run the handshake gates what is received, if and only if no accepted
initialize response advertises `supportsGotoRequest`.
-/
theorem handshake_gated_iff
    (toolkit : Toolkit)
    (operations : List (Operation κ)) :
    Always (step toolkit) Gated (Session.new κ) operations ↔
      Along (step toolkit) KnownFeatures (Session.new κ) operations := by
  have enabled :
      ∀ (session : Session κ) operation,
        ∃ next, step toolkit session operation = some next :=
    fun _ _ => ⟨_, rfl⟩
  exact always_iff_along enabled
    (fun _ _ _ tracked known taken => tracked_step tracked known taken)
    (fun _ tracked => tracked.gated)
    (fun _ _ _ tracked unknown taken => not_gated_step tracked unknown taken)
    tracked_new operations

/-- An adapter that advertises nothing but `supportsGotoRequest`. -/
def gotoAdvertised : List (Operation Unit) :=
  [.setTransport 0,
    .initialize_ none,
    .message (responseTree .initialize_ 1 true
      [("supportsGotoRequest".toList, .bool true)])]

theorem gotoAdvertised_not_gated :
    ¬ Always (step plainToolkit) Gated (Session.new Unit)
      gotoAdvertised := by
  intro always
  have gated := always gotoAdvertised [] _ (List.append_nil _) rfl
  have listed :=
    (gated.features .supportsGotoRequest).mpr ⟨_, List.mem_cons_self, rfl⟩
  rcases Finset.mem_union.mp listed with before | enabled
  · exact Finset.notMem_empty _ before
  · exact ((mem_enabledFeatures _ _).mp enabled).1 rfl

end DebuggerDap.DapClient.Handshake
