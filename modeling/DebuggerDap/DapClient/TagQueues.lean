import DebuggerDap.DapClient.Soundness
import DebuggerDap.Library.TagQueue

/-!
# Tag queues

Replies to `stackTrace`, `scopes`, `setBreakpoints` and `variables` requests
do not say what they are about; the client keeps a queue of tags for each of
these kinds.  Against an adapter that answers in order the first three are
always aligned with the requests in flight.  The fourth is aligned as long
as `GetVariableInfo`, which asks for variables and files no tag, is not
called.
-/

namespace DebuggerDap.DapClient.TagQueues

open DebuggerDap.Text.Strings
open DebuggerDap.Protocol.JsonTree
open DebuggerDap.Protocol.Messages
open DebuggerDap.DapClient.State
open DebuggerDap.DapClient.OnMessage
open DebuggerDap.DapClient.Sessions
open DebuggerDap.DapClient.Replies
open DebuggerDap.DapClient.Soundness
open DebuggerDap.Library.Run
open DebuggerDap.Library.TagQueue

variable {κ τ : Type*}

/--
One kind of tagged request: its command, its tag, the queue the tags wait in
and the tag of what is dispatched.
-/
structure TagKind (κ τ : Type*) where
  command : Command
  tag : Issued κ → Option τ
  queue : Client κ → List τ
  dispatched : Output κ → Option τ
  fallback : τ
  performed :
    ∀ call client result, Performed call client result →
      queue result.1 =
        queue client ++ (issue (some call) result.2).filterMap tag
  popped :
    ∀ json response client result, Replied json response client result →
      queue result.1 =
        if response.command = command then (queue client).tail
        else queue client
  replied :
    ∀ json response client result, Replied json response client result →
      result.2.filterMap dispatched =
        if response.command = command then
          [(queue client).head?.getD fallback]
        else []
  undisturbed :
    ∀ client result, Undisturbed client result →
      queue result.1 = queue client
  silent : ∀ outputs, Silent outputs → outputs.filterMap dispatched = []
  fresh :
    ∀ client transport sequence handshake,
      queue
        { Client.setTransport transport client with
          requestSequence := sequence
          handshakeState := handshake } = []

def framesKind (κ : Type*) : TagKind κ Int where
  command := .stackTrace
  tag := Issued.framesTag
  queue := Client.getFramesQueue
  dispatched := framesRef
  fallback := notFound
  performed := fun _ _ _ done => done.frames
  popped := fun _ _ _ _ replied => replied.frames
  replied := fun _ _ _ _ replied => replied.framesEvents
  undisturbed := fun _ _ undisturbed => undisturbed.frames
  silent := fun _ silent => silent.frames
  fresh := fun _ _ _ _ => rfl

def scopesKind (κ : Type*) : TagKind κ Int where
  command := .scopes
  tag := Issued.scopesTag
  queue := Client.getScopesQueue
  dispatched := scopesRef
  fallback := notFound
  performed := fun _ _ _ done => done.scopes
  popped := fun _ _ _ _ replied => replied.scopes
  replied := fun _ _ _ _ replied => replied.scopesEvents
  undisturbed := fun _ _ undisturbed => undisturbed.scopes
  silent := fun _ silent => silent.scopes
  fresh := fun _ _ _ _ => rfl

def breakpointsKind (κ : Type*) : TagKind κ WxString where
  command := .setBreakpoints
  tag := Issued.breakpointsTag
  queue := Client.sourceBreakpointsQueue
  dispatched := originSource
  fallback := []
  performed := fun _ _ _ done => done.breakpoints
  popped := fun _ _ _ _ replied => replied.breakpoints
  replied := fun _ _ _ _ replied => replied.breakpointsEvents
  undisturbed := fun _ _ undisturbed => undisturbed.breakpoints
  silent := fun _ silent => silent.breakpoints
  fresh := fun _ _ _ _ => rfl

def childrenKind (κ : Type*) : TagKind κ (Int × EvaluateContext) where
  command := .variables
  tag := Issued.childrenTag
  queue := Client.getVariablesQueue
  dispatched := childrenRef
  fallback := (notFound, .variables)
  performed := fun _ _ _ done => done.children
  popped := fun _ _ _ _ replied => replied.children
  replied := fun _ _ _ _ replied => replied.childrenEvents
  undisturbed := fun _ _ undisturbed => undisturbed.children
  silent := fun _ silent => silent.children
  fresh := fun _ _ _ _ => rfl

/-- The request has a tag exactly when its command is the one of the kind. -/
def TagKind.Names (kind : TagKind κ τ) (issued : Issued κ) : Prop :=
  (kind.tag issued).isSome = true ↔
    issued.request.body.command = kind.command

theorem framesKind_names (issued : Issued κ) :
    (framesKind κ).Names issued := by
  rcases issued with ⟨call, seq, body⟩
  cases body <;>
    simp [TagKind.Names, framesKind, Issued.framesTag, RequestBody.command]

theorem scopesKind_names (issued : Issued κ) :
    (scopesKind κ).Names issued := by
  rcases issued with ⟨call, seq, body⟩
  cases body <;>
    simp [TagKind.Names, scopesKind, Issued.scopesTag, RequestBody.command]

theorem breakpointsKind_names (issued : Issued κ) :
    (breakpointsKind κ).Names issued := by
  rcases issued with ⟨call, seq, body⟩
  cases body <;>
    simp [TagKind.Names, breakpointsKind, Issued.breakpointsTag,
      RequestBody.command]

/-! ## Sessions answered in order -/

/-- Until the handshake is completed the initialize request is the oldest. -/
def Shaken (session : Session κ) : Prop :=
  session.client.handshakeState = .completed ∨
    ∃ first rest,
      session.inFlight = first :: rest ∧
        first.request.body.command = .initialize_

/-- The queue of a kind is aligned, and every event carried its own tag. -/
structure Attributed
    (kind : TagKind κ τ)
    (session : Session κ) : Prop where
  aligned :
    Aligned kind.tag session.inFlight (kind.queue session.client)
  exchanges :
    ∀ exchange ∈ session.exchanges,
      exchange.outputs.filterMap kind.dispatched =
        (kind.tag exchange.issued).toList
  strays :
    ∀ stray ∈ session.strays, stray.2.filterMap kind.dispatched = []

theorem initializeReply_of_answers
    {json : Json}
    {request : Request}
    (answers : Answers json request)
    (initialize_ : request.body.command = .initialize_) :
    InitializeReply json :=
  ⟨_, fromJson_of_answers answers, initialize_⟩

/-- A message that is no response disturbs nothing at any time. -/
theorem onMessage_notResponse
    (toolkit : Toolkit)
    {json : Json}
    (client : Client κ)
    (notResponse : ¬ IsResponse json) :
    Steady client (onMessage toolkit json client) := by
  have unread :
      ∀ response, fromJson json ≠ some (.response response) := by
    intro response read
    exact notResponse (isResponse_of_fromJson read).1
  by_cases completed : client.handshakeState = .completed
  · exact onMessage_other toolkit completed unread
  · refine (onMessage_waiting toolkit json completed).2.2 ?_
    rintro ⟨response, read, -⟩
    exact unread response read

section Steps

variable {toolkit : Toolkit}
variable {session next : Session κ}
variable {label : Label κ}

theorem shaken_step
    (sound : Sound session)
    (shaken : Shaken session)
    (inOrder : label.InOrder)
    (taken : step toolkit session label = some next) :
    Shaken next := by
  rcases step_cases taken with
    ⟨call, rfl, rfl⟩ |
    ⟨position, json, before, issued, after, rfl, split, length, answers,
      rfl⟩ |
    ⟨json, rfl, -, rfl⟩
  · have done := performed sound.transport toolkit call
    rcases shaken with completed | ⟨first, rest, flight, initialize_⟩
    · exact Or.inl (done.handshake.trans completed)
    · let sent :=
        issue (some call) (session.client.perform toolkit call).2
      have longer : session.inFlight ++ sent = first :: (rest ++ sent) := by
        rw [flight, List.cons_append]
      exact Or.inr ⟨first, rest ++ sent, longer, initialize_⟩
  · rcases shaken with completed | ⟨first, rest, flight, initialize_⟩
    · exact Or.inl
        ((onMessage_reply toolkit completed answers).handshake.trans
          completed)
    · have head : before = [] := by
        rw [← List.length_eq_zero_iff, length]
        exact inOrder
      rw [head, List.nil_append, flight] at split
      cases split
      have initialized := initializeReply_of_answers answers initialize_
      refine Or.inl ?_
      by_cases completed : session.client.handshakeState = .completed
      · exact (onMessage_reply toolkit completed answers).handshake.trans
          completed
      · exact (onMessage_waiting toolkit json completed).2.1 initialized
  · have steady := onMessage_notResponse toolkit session.client inOrder
    rcases shaken with completed | waiting
    · exact Or.inl (steady.handshake.trans completed)
    · exact Or.inr waiting

/-- What the reply to the oldest request does to a kind. -/
theorem attributed_answer
    (kind : TagKind κ τ)
    {issued : Issued κ}
    {after : List (Issued κ)}
    {json : Json}
    (shaken : Shaken session)
    (names : kind.Names issued)
    (notHandshake : kind.command ≠ .initialize_)
    (flight : session.inFlight = issued :: after)
    (answers : Answers json issued.request)
    (attributed : Attributed kind session) :
    Attributed kind (session.answer toolkit 0 issued json) := by
  have aligned := attributed.aligned
  rw [flight] at aligned
  have rest : session.inFlight.eraseIdx 0 = after := by
    rw [flight]
    rfl
  by_cases completed : session.client.handshakeState = .completed
  · have replied := onMessage_reply toolkit completed answers
    constructor
    case aligned =>
      show Aligned kind.tag (session.inFlight.eraseIdx 0) _
      rw [rest]
      exact aligned.answer names (kind.popped _ _ _ _ replied)
    case exchanges =>
      intro exchange member
      rcases List.mem_append.mp member with old | new
      · exact attributed.exchanges exchange old
      · rw [List.mem_singleton.mp new]
        show (onMessage toolkit json session.client).2.filterMap
          kind.dispatched = _
        rw [kind.replied _ _ _ _ replied]
        exact aligned.dispatched names kind.fallback
    case strays => exact attributed.strays
  · have initialize_ : issued.request.body.command = .initialize_ := by
      rcases shaken with done | ⟨first, others, flight', first_⟩
      · exact absurd done completed
      · rw [flight] at flight'
        cases flight'
        exact first_
    have untagged : kind.tag issued = none := by
      rw [← Option.not_isSome_iff_eq_none]
      intro tagged
      exact notHandshake ((names.mp tagged).symm.trans initialize_)
    have undisturbed :=
      (onMessage_waiting toolkit json completed).1
    constructor
    case aligned =>
      show Aligned kind.tag (session.inFlight.eraseIdx 0) _
      rw [rest, show kind.queue (session.answer toolkit 0 issued json).client
        = kind.queue session.client from kind.undisturbed _ _ undisturbed]
      exact aligned.answer_none untagged
    case exchanges =>
      intro exchange member
      rcases List.mem_append.mp member with old | new
      · exact attributed.exchanges exchange old
      · rw [List.mem_singleton.mp new]
        show (onMessage toolkit json session.client).2.filterMap
          kind.dispatched = (kind.tag issued).toList
        rw [kind.silent _ undisturbed.silent, untagged]
        rfl
    case strays => exact attributed.strays

/-- One step of a session answered in order keeps a kind attributed. -/
theorem attributed_step
    (kind : TagKind κ τ)
    (notHandshake : kind.command ≠ .initialize_)
    (sound : Sound session)
    (shaken : Shaken session)
    (names : ∀ issued ∈ session.inFlight, kind.Names issued)
    (attributed : Attributed kind session)
    (inOrder : label.InOrder)
    (taken : step toolkit session label = some next) :
    Attributed kind next := by
  rcases step_cases taken with
    ⟨call, rfl, rfl⟩ |
    ⟨position, json, before, issued, after, rfl, split, length, answers,
      rfl⟩ |
    ⟨json, rfl, -, rfl⟩
  · have done := performed sound.transport toolkit call
    refine ⟨?_, attributed.exchanges, attributed.strays⟩
    show Aligned kind.tag (session.inFlight ++ issue (some call) _) _
    have sent := attributed.aligned.send
      (issue (some call) (session.client.perform toolkit call).2)
    rw [← kind.performed _ _ _ done] at sent
    exact sent
  · have head : before = [] := by
      rw [← List.length_eq_zero_iff, length]
      exact inOrder
    have first : position = 0 := inOrder
    rw [head, List.nil_append] at split
    rw [first]
    refine attributed_answer kind shaken (names issued ?_) notHandshake
      split answers attributed
    rw [split]
    exact List.mem_cons_self
  · have steady := onMessage_notResponse toolkit session.client inOrder
    constructor
    case aligned =>
      show Aligned kind.tag session.inFlight
        (kind.queue (onMessage toolkit json session.client).1)
      rw [kind.undisturbed _ _ steady.undisturbed]
      exact attributed.aligned
    case exchanges => exact attributed.exchanges
    case strays =>
      intro stray member
      rcases List.mem_append.mp member with old | new
      · exact attributed.strays stray old
      · rw [List.mem_singleton.mp new]
        exact kind.silent _ steady.undisturbed.silent

end Steps

/-! ## Fresh sessions -/

section Opened

variable (toolkit : Toolkit)
variable (client : Client κ)
variable (transport : Nat)
variable (initArgs : Option InitializeRequestArguments)

theorem shaken_opened :
    Shaken (opened toolkit client transport initArgs) := by
  rcases opened_eq toolkit client transport initArgs with ⟨arguments, equal⟩
  rw [equal]
  exact Or.inr ⟨_, [], rfl, rfl⟩

theorem attributed_opened
    (kind : TagKind κ τ)
    (notHandshake : kind.command ≠ .initialize_)
    (names : ∀ issued, issued.call = none → kind.Names issued) :
    Attributed kind (opened toolkit client transport initArgs) := by
  rcases opened_eq toolkit client transport initArgs with ⟨arguments, equal⟩
  rw [equal]
  constructor
  case aligned =>
    have untagged :
        kind.tag ⟨none, ⟨1, .initialize_ arguments⟩⟩ = none := by
      rw [← Option.not_isSome_iff_eq_none]
      intro tagged
      exact notHandshake ((names _ rfl).mp tagged).symm
    show kind.queue _ = [_].filterMap kind.tag
    rw [kind.fresh, List.filterMap_cons_none untagged]
    rfl
  case exchanges => exact fun _ member => absurd member List.not_mem_nil
  case strays => exact fun _ member => absurd member List.not_mem_nil

end Opened

/-! ## Stack frames, scopes and breakpoints -/

/-- The three queues hold exactly the tags of the unanswered requests. -/
structure QueuesAligned (session : Session κ) : Prop where
  frames :
    session.client.getFramesQueue =
      session.inFlight.filterMap Issued.framesTag
  scopes :
    session.client.getScopesQueue =
      session.inFlight.filterMap Issued.scopesTag
  breakpoints :
    session.client.sourceBreakpointsQueue =
      session.inFlight.filterMap Issued.breakpointsTag

/-- What was dispatched for a reply carries the tag of its own request. -/
structure OwnTags (exchange : Exchange κ) : Prop where
  frames :
    exchange.outputs.filterMap framesRef = exchange.issued.framesTag.toList
  scopes :
    exchange.outputs.filterMap scopesRef = exchange.issued.scopesTag.toList
  breakpoints :
    exchange.outputs.filterMap originSource =
      exchange.issued.breakpointsTag.toList

/-- The queues are aligned and every tagged event was due to its request. -/
structure TagsAligned (session : Session κ) : Prop where
  queues : QueuesAligned session
  exchanges : ∀ exchange ∈ session.exchanges, OwnTags exchange
  strays :
    ∀ stray ∈ session.strays,
      stray.2.filterMap framesRef = [] ∧
        stray.2.filterMap scopesRef = [] ∧
          stray.2.filterMap originSource = []

/-- What in-order steps keep for the three kinds together. -/
structure InOrderInvariant (session : Session κ) : Prop where
  sound : Sound session
  shaken : Shaken session
  frames : Attributed (framesKind κ) session
  scopes : Attributed (scopesKind κ) session
  breakpoints : Attributed (breakpointsKind κ) session

theorem InOrderInvariant.tagsAligned
    {session : Session κ}
    (invariant : InOrderInvariant session) :
    TagsAligned session where
  queues :=
    ⟨invariant.frames.aligned, invariant.scopes.aligned,
      invariant.breakpoints.aligned⟩
  exchanges := fun exchange member =>
    ⟨invariant.frames.exchanges exchange member,
      invariant.scopes.exchanges exchange member,
      invariant.breakpoints.exchanges exchange member⟩
  strays := fun stray member =>
    ⟨invariant.frames.strays stray member,
      invariant.scopes.strays stray member,
      invariant.breakpoints.strays stray member⟩

theorem inOrderInvariant_step
    {toolkit : Toolkit}
    {session next : Session κ}
    {label : Label κ}
    (invariant : InOrderInvariant session)
    (inOrder : label.InOrder)
    (taken : step toolkit session label = some next) :
    InOrderInvariant next where
  sound := sound_step invariant.sound taken
  shaken := shaken_step invariant.sound invariant.shaken inOrder taken
  frames :=
    attributed_step (framesKind κ) (by simp [framesKind]) invariant.sound
      invariant.shaken (fun issued _ => framesKind_names issued)
      invariant.frames inOrder taken
  scopes :=
    attributed_step (scopesKind κ) (by simp [scopesKind]) invariant.sound
      invariant.shaken (fun issued _ => scopesKind_names issued)
      invariant.scopes inOrder taken
  breakpoints :=
    attributed_step (breakpointsKind κ) (by simp [breakpointsKind])
      invariant.sound invariant.shaken
      (fun issued _ => breakpointsKind_names issued)
      invariant.breakpoints inOrder taken

theorem inOrderInvariant_opened
    (toolkit : Toolkit)
    (client : Client κ)
    (transport : Nat)
    (initArgs : Option InitializeRequestArguments) :
    InOrderInvariant (opened toolkit client transport initArgs) where
  sound := sound_opened toolkit client transport initArgs
  shaken := shaken_opened toolkit client transport initArgs
  frames :=
    attributed_opened toolkit client transport initArgs (framesKind κ)
      (by simp [framesKind]) fun issued _ => framesKind_names issued
  scopes :=
    attributed_opened toolkit client transport initArgs (scopesKind κ)
      (by simp [scopesKind]) fun issued _ => scopesKind_names issued
  breakpoints :=
    attributed_opened toolkit client transport initArgs (breakpointsKind κ)
      (by simp [breakpointsKind]) fun issued _ => breakpointsKind_names issued

/--
In every session with an adapter that answers in order, the three queues are
aligned at every moment and every event carries the tag of its own request.
-/
theorem tagQueues_aligned
    (toolkit : Toolkit)
    (client : Client κ)
    (transport : Nat)
    (initArgs : Option InitializeRequestArguments)
    (labels : List (Label κ))
    (inOrder : ∀ label ∈ labels, label.InOrder) :
    Always (step toolkit) TagsAligned
      (opened toolkit client transport initArgs) labels :=
  always_of_along
    (fun _ _ _ invariant inOrder taken =>
      inOrderInvariant_step invariant inOrder taken)
    (fun _ invariant => invariant.tagsAligned)
    (inOrderInvariant_opened toolkit client transport initArgs)
    (along_of_forall _ labels inOrder)

/-- A stopped event between a failed and a successful reply. -/
def framesThenScopes : List (Label Unit) :=
  [.reply 0 (responseTree .initialize_ 1 true []),
    .call (.getFrames 3 0 10),
    .call (.getScopes 4),
    .call (.setBreakpointsFile "main.cpp".toList []),
    .message
      (.object
        [("type".toList, .string "event".toList),
          ("event".toList, .string "stopped".toList)]),
    .reply 0 (responseTree .stackTrace 2 false []),
    .reply 0 (responseTree .scopes 3 true [])]

theorem tagQueues_aligned_framesThenScopes :
    (run (step plainToolkit)
        (opened plainToolkit (Client.new Unit) 0 none)
        framesThenScopes).isSome = true ∧
      Always (step plainToolkit) TagsAligned
        (opened plainToolkit (Client.new Unit) 0 none) framesThenScopes :=
  ⟨rfl, tagQueues_aligned plainToolkit (Client.new Unit) 0 none
    framesThenScopes (by decide)⟩

/-! ## Variables -/

/--
The queue lists the unanswered `variables` requests, and every event carries
the reference of its own request and the context it was asked with.
-/
structure VariablesAttributed (session : Session κ) : Prop where
  queue :
    session.client.getVariablesQueue.map Prod.fst =
      session.inFlight.filterMap Issued.variablesReference
  refId :
    ∀ exchange ∈ session.exchanges,
      (exchange.outputs.filterMap childrenRef).map Prod.fst =
        exchange.issued.variablesReference.toList
  context :
    ∀ exchange ∈ session.exchanges,
      ∀ tag, exchange.issued.childrenTag = some tag →
        exchange.outputs.filterMap childrenRef = [tag]

/-- A step that is not a call of `GetVariableInfo`. -/
def AvoidsVariableInfo (label : Label κ) : Prop :=
  ∀ call, label = .call call → ¬ AsksVariableInfo call

/-- No request so far came from `GetVariableInfo`. -/
def NoVariableInfo (session : Session κ) : Prop :=
  ∀ issued ∈ session.wire,
    ∀ call, issued.call = some call → ¬ AsksVariableInfo call

/-- What in-order steps keep as long as `GetVariableInfo` is not called. -/
structure ChildrenInvariant (session : Session κ) : Prop where
  sound : Sound session
  shaken : Shaken session
  noInfo : NoVariableInfo session
  children : Attributed (childrenKind κ) session

theorem variablesReference_isSome (issued : Issued κ) :
    issued.variablesReference.isSome = true ↔
      issued.request.body.command = .variables := by
  rcases issued with ⟨call, seq, body⟩
  cases body <;> simp [Issued.variablesReference, RequestBody.command]

theorem map_childrenTag
    {issued : Issued κ}
    (consistent : Consistent issued)
    (noInfo :
      ∀ call, issued.call = some call → ¬ AsksVariableInfo call) :
    issued.childrenTag.map Prod.fst = issued.variablesReference := by
  cases tagged : issued.childrenTag with
  | none =>
      have filed := consistent.filed noInfo
      rw [tagged, Option.isSome_none] at filed
      exact (Option.not_isSome_iff_eq_none.mp
        (Bool.eq_false_iff.mp filed.symm)).symm
  | some tag => exact (consistent.children tag tagged).symm

namespace ChildrenInvariant

variable {toolkit : Toolkit}
variable {session next : Session κ}
variable {label : Label κ}

theorem names
    (invariant : ChildrenInvariant session)
    {issued : Issued κ}
    (member : issued ∈ session.wire) :
    (childrenKind κ).Names issued := by
  show issued.childrenTag.isSome = true ↔ _
  rw [(invariant.sound.consistent issued member).filed
    (invariant.noInfo issued member)]
  exact variablesReference_isSome issued

theorem reference
    (invariant : ChildrenInvariant session)
    {issued : Issued κ}
    (member : issued ∈ session.wire) :
    issued.childrenTag.map Prod.fst = issued.variablesReference :=
  map_childrenTag (invariant.sound.consistent issued member)
    (invariant.noInfo issued member)

theorem variablesAttributed
    (invariant : ChildrenInvariant session) :
    VariablesAttributed session where
  queue := by
    have aligned : session.client.getVariablesQueue = _ :=
      invariant.children.aligned
    rw [aligned, List.map_filterMap]
    exact List.filterMap_congr fun issued member =>
      invariant.reference (invariant.sound.inFlight_mem member)
  refId := by
    intro exchange member
    have own : exchange.outputs.filterMap childrenRef = _ :=
      invariant.children.exchanges exchange member
    rw [own, ← invariant.reference (invariant.sound.exchange_mem member)]
    show exchange.issued.childrenTag.toList.map Prod.fst = _
    cases exchange.issued.childrenTag <;> rfl
  context := by
    intro exchange member tag tagged
    have own : exchange.outputs.filterMap childrenRef =
        exchange.issued.childrenTag.toList :=
      invariant.children.exchanges exchange member
    rw [own, tagged]
    rfl

theorem step
    (invariant : ChildrenInvariant session)
    (inOrder : label.InOrder)
    (noInfo : AvoidsVariableInfo label)
    (taken : Sessions.step toolkit session label = some next) :
    ChildrenInvariant next where
  sound := sound_step invariant.sound taken
  shaken := shaken_step invariant.sound invariant.shaken inOrder taken
  noInfo := by
    rcases step_cases taken with
      ⟨call, rfl, rfl⟩ |
      ⟨position, json, before, issued, after, -, -, -, -, rfl⟩ |
      ⟨json, -, -, rfl⟩
    · intro issued member
      rcases List.mem_append.mp member with old | new
      · exact invariant.noInfo issued old
      · rcases List.mem_map.mp new with ⟨request, -, rfl⟩
        intro other same
        cases same
        exact noInfo call rfl
    · exact invariant.noInfo
    · exact invariant.noInfo
  children :=
    attributed_step (childrenKind κ) (by simp [childrenKind])
      invariant.sound invariant.shaken
      (fun _ member =>
        invariant.names (invariant.sound.inFlight_mem member))
      invariant.children inOrder taken

end ChildrenInvariant

theorem childrenInvariant_opened
    (toolkit : Toolkit)
    (client : Client κ)
    (transport : Nat)
    (initArgs : Option InitializeRequestArguments) :
    ChildrenInvariant (opened toolkit client transport initArgs) where
  sound := sound_opened toolkit client transport initArgs
  shaken := shaken_opened toolkit client transport initArgs
  noInfo := by
    intro issued member call called
    rcases List.mem_map.mp member with ⟨request, -, rfl⟩
    cases called
  children := by
    rcases opened_eq toolkit client transport initArgs with
      ⟨arguments, equal⟩
    rw [equal]
    exact
      ⟨rfl, fun _ member => absurd member List.not_mem_nil,
        fun _ member => absurd member List.not_mem_nil⟩

/-- `GetVariableInfo` puts a request in flight and nothing in the queue. -/
theorem getVariableInfo_unaligned
    (toolkit : Toolkit)
    {call : ApiCall κ}
    (info : AsksVariableInfo call)
    {session : Session κ}
    (invariant : ChildrenInvariant session) :
    ¬ VariablesAttributed (session.perform toolkit call) := by
  intro attributed
  have before := invariant.variablesAttributed.queue
  have after := attributed.queue
  cases call <;> try exact info
  next variablesReference filter count format =>
    have performed :
        session.client.perform toolkit
            (.getVariableInfo variablesReference filter count format) = _ :=
      request_connected invariant.sound.transport toolkit _
    unfold Session.perform at after
    simp only [performed, issue, sentRequests_sent, List.map_cons,
      List.map_nil, List.filterMap_append] at after
    rw [before] at after
    simp [Issued.variablesReference] at after

/--
The variables replies of a session answered in order are attributed at every
moment if and only if `GetVariableInfo` is never called.
-/
theorem variables_attributed_iff
    (toolkit : Toolkit)
    (client : Client κ)
    (transport : Nat)
    (initArgs : Option InitializeRequestArguments)
    {labels : List (Label κ)}
    {reached : Session κ}
    (inOrder : ∀ label ∈ labels, label.InOrder)
    (ran :
      run (step toolkit) (opened toolkit client transport initArgs) labels =
        some reached) :
    Always (step toolkit) VariablesAttributed
        (opened toolkit client transport initArgs) labels ↔
      ∀ label ∈ labels, AvoidsVariableInfo label := by
  have start := childrenInvariant_opened toolkit client transport initArgs
  have preserved :
      ∀ (session : Session κ) label next, ChildrenInvariant session →
        label.InOrder → AvoidsVariableInfo label →
          step toolkit session label = some next →
            ChildrenInvariant next :=
    fun _ _ _ invariant ordered noInfo taken =>
      ChildrenInvariant.step invariant ordered noInfo taken
  constructor
  · intro always
    refine forall_of_along ?_ ran
    refine along_of_always preserved ?_ start
      (along_of_forall _ labels inOrder) ran always
    intro session label next invariant _ info taken
    simp only [AvoidsVariableInfo, not_forall, not_not] at info
    rcases info with ⟨call, rfl, asks⟩
    cases taken
    exact getVariableInfo_unaligned toolkit asks invariant
  · intro noInfo
    have guarded :
        Along (step toolkit)
          (fun _ label => label.InOrder ∧ AvoidsVariableInfo label)
          (opened toolkit client transport initArgs) labels :=
      along_of_forall _ labels fun label member =>
        ⟨inOrder label member, noInfo label member⟩
    exact always_of_along
      (fun session label next invariant guards taken =>
        preserved session label next invariant guards.1 guards.2 taken)
      (fun _ invariant => invariant.variablesAttributed) start guarded

/-- The children of 7 and 9 are shown in the watches. -/
def childrenOnly : List (Label Unit) :=
  [.reply 0 (responseTree .initialize_ 1 true []),
    .call (.getChildrenVariables 7 .watch 50 .native),
    .call (.getChildrenVariables 9 .watch 50 .native),
    .reply 0 (responseTree .variables 2 true [])]

theorem variables_attributed_childrenOnly :
    Always (step plainToolkit) VariablesAttributed
        (opened plainToolkit (Client.new Unit) 0 none) childrenOnly ↔
      ∀ label ∈ childrenOnly, AvoidsVariableInfo label :=
  variables_attributed_iff plainToolkit (Client.new Unit) 0 none
    (by decide) rfl

/-- Variable information on 7 is asked for before the children of 9. -/
def infoThenChildren : List (Label Unit) :=
  [.reply 0 (responseTree .initialize_ 1 true []),
    .call (.getVariableInfo 7 [] 50 .native),
    .call (.getChildrenVariables 9 .watch 50 .native),
    .reply 0 (responseTree .variables 2 true []),
    .reply 0 (responseTree .variables 3 true [])]

/-- The reply about 7 is taken for one about 9, and the next one for none. -/
theorem variables_infoThenChildren :
    (∀ label ∈ infoThenChildren, label.InOrder) ∧
      (run (step plainToolkit)
          (opened plainToolkit (Client.new Unit) 0 none)
          infoThenChildren).map
        (fun session => session.exchanges.map fun exchange =>
          (exchange.issued.variablesReference,
            exchange.outputs.filterMap childrenRef)) =
        some
          [(none, []), (some 7, [(9, .watch)]),
            (some 9, [(-1, .variables)])] ∧
        ¬ Always (step plainToolkit) VariablesAttributed
          (opened plainToolkit (Client.new Unit) 0 none)
          infoThenChildren := by
  refine ⟨by decide, rfl, ?_⟩
  intro always
  have attributed :=
    always infoThenChildren [] _ (List.append_nil _) rfl
  have own := attributed.refId _ (List.getElem_mem (show 1 < 3 by decide))
  have same : [(9 : Int)] = [7] := own
  cases same

end DebuggerDap.DapClient.TagQueues
