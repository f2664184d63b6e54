import DebuggerDap.DapClient.Soundness
import DebuggerDap.Library.TagQueue

/-!
# Callbacks of `evaluate` and `source` requests

Callbacks wait in the order of their requests and are invoked in the order in
which replies arrive; the number in a reply is not looked at.  Once all
requests are answered every callback was invoked, and each was given the
values of its own reply exactly when the replies arrived with the values
they have in the order of the requests.
-/

namespace DebuggerDap.DapClient.Callbacks

open DebuggerDap.Text.Strings
open DebuggerDap.Protocol.JsonTree
open DebuggerDap.Protocol.Messages
open DebuggerDap.DapClient.State
open DebuggerDap.DapClient.OnMessage
open DebuggerDap.DapClient.Sessions
open DebuggerDap.DapClient.Replies
open DebuggerDap.DapClient.Soundness
open DebuggerDap.Library.Run
open DebuggerDap.Library.TagQueue

variable {κ β : Type*}

/--
One kind of requests with callbacks: its command, the callback of a request,
the queue the callbacks wait in, an invocation and the values of a reply.
-/
structure CallbackKind (κ β : Type*) where
  command : Command
  callback : Issued κ → Option κ
  queue : Client κ → List κ
  invoked : Output κ → Option (κ × β)
  value : Json → β
  performed :
    ∀ call client result, Performed call client result →
      queue result.1 =
        queue client ++ (issue (some call) result.2).filterMap callback
  popped :
    ∀ json response client result, Replied json response client result →
      queue result.1 =
        if response.command = command then (queue client).tail
        else queue client
  replied :
    ∀ json response client result, Replied json response client result →
      result.2.filterMap invoked =
        if response.command = command then
          ((queue client).head?.map fun callback =>
            (callback, value json)).toList
        else []
  undisturbed :
    ∀ client result, Undisturbed client result →
      queue result.1 = queue client
  silent : ∀ outputs, Silent outputs → outputs.filterMap invoked = []
  named :
    ∀ issued, Consistent issued →
      ((callback issued).isSome = true ↔
        issued.request.body.command = command)

def evaluateKind (κ : Type*) : CallbackKind κ EvaluateResponse where
  command := .evaluate
  callback := Issued.evaluateCallback
  queue := Client.evaluateQueue
  invoked := evaluation
  value := evaluateResponse
  performed := fun _ _ _ done => done.evaluates
  popped := fun _ _ _ _ replied => replied.evaluates
  replied := fun _ _ _ _ replied => replied.evaluations
  undisturbed := fun _ _ undisturbed => undisturbed.evaluates
  silent := fun _ silent => silent.evaluations
  named := fun _ consistent => consistent.evaluate

def sourceKind (κ : Type*) : CallbackKind κ SourceResponse where
  command := .source
  callback := Issued.sourceCallback
  queue := Client.loadSourcesQueue
  invoked := sourceLoad
  value := sourceResponse
  performed := fun _ _ _ done => done.sources
  popped := fun _ _ _ _ replied => replied.sources
  replied := fun _ _ _ _ replied => replied.sourceLoads
  undisturbed := fun _ _ undisturbed => undisturbed.sources
  silent := fun _ silent => silent.sources
  named := fun _ consistent => consistent.source

namespace CallbackKind

variable (kind : CallbackKind κ β)
variable (session : Session κ)

/-- The callbacks registered so far, in the order of their requests. -/
def registered : List κ :=
  session.wire.filterMap kind.callback

/-- All invocations of callbacks so far, with the values they were given. -/
def invocations : List (κ × β) :=
  (session.exchanges.flatMap fun exchange =>
      exchange.outputs.filterMap kind.invoked) ++
    session.strays.flatMap fun stray => stray.2.filterMap kind.invoked

/-- The values of the replies of the kind, in the order of arrival. -/
def arrived : List β :=
  session.exchanges.filterMap fun exchange =>
    (kind.callback exchange.issued).map fun _ => kind.value exchange.json

/-- The reply with the number of a request. -/
def replyTo (session : Session κ) (issued : Issued κ) :
    Option (Exchange κ) :=
  session.exchanges.find? fun exchange =>
    messageRequestSeq exchange.json == issued.request.seq

/-- Callbacks with the values of their replies, in the order of requests. -/
def requested : List (κ × β) :=
  session.wire.filterMap fun issued =>
    (kind.callback issued).bind fun callback =>
      (replyTo session issued).map fun exchange =>
        (callback, kind.value exchange.json)

/--
Every callback is invoked exactly once, with the values of the reply that
has the number of the request that registered it.
-/
def InvokedOnce [DecidableEq κ] : Prop :=
  ∀ issued ∈ session.wire, ∀ callback,
    kind.callback issued = some callback →
      ∃ exchange ∈ session.exchanges,
        messageRequestSeq exchange.json = issued.request.seq ∧
          ((kind.invocations session).filter fun invocation =>
              invocation.1 = callback) =
            [(callback, kind.value exchange.json)]

/-- The replies arrive with the values they have in the order of requests. -/
def AsRequested : Prop :=
  kind.arrived session = (kind.requested session).map Prod.snd

/-- No request of the kind is in flight. -/
def AllAnswered : Prop :=
  ∀ issued ∈ session.inFlight, kind.callback issued = none

end CallbackKind

/-! ## What every step keeps -/

/--
The callbacks invoked so far and those still waiting are the registered ones
in their order; the values given out are those that arrived in their order.
-/
structure CallbackInvariant
    (kind : CallbackKind κ β)
    (session : Session κ) : Prop where
  sound : Sound session
  completed : session.client.handshakeState = .completed
  callbacks :
    (kind.invocations session).map Prod.fst ++ kind.queue session.client =
      kind.registered session
  values : (kind.invocations session).map Prod.snd = kind.arrived session
  strays :
    ∀ stray ∈ session.strays, stray.2.filterMap kind.invoked = []

/-- A message that is not read as a response of one of the two kinds. -/
def Foreign (json : Json) : Prop :=
  ∀ response, fromJson json = some (.response response) →
    response.command ≠ .evaluate ∧ response.command ≠ .source

/-- The adapter answers these requests only once: no such stray response. -/
def ForeignMessages (label : Label κ) : Prop :=
  ∀ json, label = .message json → Foreign json

namespace CallbackInvariant

variable {kind : CallbackKind κ β}
variable {session : Session κ}

theorem invocations_eq
    (strays :
      ∀ stray ∈ session.strays, stray.2.filterMap kind.invoked = []) :
    kind.invocations session =
      session.exchanges.flatMap fun exchange =>
        exchange.outputs.filterMap kind.invoked := by
  rw [CallbackKind.invocations, List.flatMap_eq_nil_iff.mpr strays,
    List.append_nil]

/-- As many callbacks wait as requests of the kind are in flight. -/
theorem length_queue (invariant : CallbackInvariant kind session) :
    (kind.queue session.client).length =
      (session.inFlight.filterMap kind.callback).length := by
  have settled :=
    (invariant.sound.settled.filterMap kind.callback).length_eq
  have callbacks := congrArg List.length invariant.callbacks
  have values := congrArg List.length invariant.values
  have arrived :
      (kind.arrived session).length =
        ((session.exchanges.map Exchange.issued).filterMap
          kind.callback).length := by
    rw [CallbackKind.arrived, List.filterMap_map,
      List.length_filterMap_eq_countP, List.length_filterMap_eq_countP]
    simp
  rw [CallbackKind.registered, List.length_append,
    List.length_map] at callbacks
  rw [List.length_map, arrived] at values
  rw [List.filterMap_append, List.length_append] at settled
  omega

theorem perform
    (toolkit : Toolkit)
    (invariant : CallbackInvariant kind session)
    (call : ApiCall κ) :
    CallbackInvariant kind (session.perform toolkit call) := by
  have done := performed invariant.sound.transport toolkit call
  constructor
  case sound => exact sound_perform toolkit call invariant.sound
  case completed => exact done.handshake.trans invariant.completed
  case callbacks =>
    show (kind.invocations session).map Prod.fst ++
        kind.queue (session.client.perform toolkit call).1 =
      (session.wire ++ issue (some call) _).filterMap kind.callback
    rw [kind.performed _ _ _ done, ← List.append_assoc,
      invariant.callbacks, List.filterMap_append]
    rfl
  case values => exact invariant.values
  case strays => exact invariant.strays

/-- A reply of the kind takes the callback at the head of the queue. -/
theorem answer
    (toolkit : Toolkit)
    (invariant : CallbackInvariant kind session)
    {position : Nat}
    {before after : List (Issued κ)}
    {issued : Issued κ}
    (split : session.inFlight = before ++ issued :: after)
    (length : before.length = position)
    {json : Json}
    (answers : Answers json issued.request) :
    CallbackInvariant kind
      (session.answer toolkit position issued json) := by
  have replied := onMessage_reply toolkit invariant.completed answers
  have member : issued ∈ session.inFlight := by
    rw [split]
    exact List.mem_append_right before List.mem_cons_self
  have named :=
    kind.named issued
      (invariant.sound.consistent issued
        (invariant.sound.inFlight_mem member))
  have popped := kind.popped _ _ _ _ replied
  have invoked := kind.replied _ _ _ _ replied
  have callbacks := invariant.callbacks
  have values := invariant.values
  rw [invocations_eq invariant.strays] at callbacks values
  have extended :
      kind.invocations (session.answer toolkit position issued json) =
        (session.exchanges.flatMap fun exchange =>
            exchange.outputs.filterMap kind.invoked) ++
          (onMessage toolkit json session.client).2.filterMap
            kind.invoked := by
    rw [invocations_eq
      (show ∀ stray ∈ (session.answer toolkit position issued json).strays, _
        from invariant.strays)]
    show (session.exchanges ++ [_]).flatMap _ = _
    rw [List.flatMap_append, List.flatMap_singleton]
  have arrived :
      kind.arrived (session.answer toolkit position issued json) =
        kind.arrived session ++
          ((kind.callback issued).map fun _ => kind.value json).toList := by
    show (session.exchanges ++ [_]).filterMap _ = _
    rw [List.filterMap_append, filterMap_single]
    rfl
  constructor
  case sound =>
    exact sound_answer toolkit invariant.sound split length answers
  case completed => exact replied.handshake.trans invariant.completed
  case callbacks =>
    show _ ++ kind.queue (onMessage toolkit json session.client).1 =
      kind.registered session
    rw [extended, popped, invoked, ← callbacks]
    split
    · next ofKind =>
        cases queued : kind.queue session.client with
        | nil => simp
        | cons callback waiting => simp
    · simp
  case values =>
    rw [extended, arrived, invoked, List.map_append, values]
    congr 1
    split
    · next ofKind =>
        rcases Option.isSome_iff_exists.mp (named.mpr ofKind) with
          ⟨callback, registered⟩
        have waiting := invariant.length_queue
        rw [split, List.filterMap_append,
          List.filterMap_cons_some registered, List.length_append,
          List.length_cons] at waiting
        cases queued : kind.queue session.client with
        | nil =>
            rw [queued, List.length_nil] at waiting
            omega
        | cons callback rest =>
            rw [registered]
            rfl
    · next other =>
        have unregistered : kind.callback issued = none := by
          rw [← Option.not_isSome_iff_eq_none]
          exact fun registered => other (named.mp registered)
        rw [unregistered]
        rfl
  case strays => exact invariant.strays

theorem deliver
    (toolkit : Toolkit)
    (invariant : CallbackInvariant kind session)
    {json : Json}
    (foreign :
      ∀ response, fromJson json = some (.response response) →
        response.command ≠ kind.command) :
    CallbackInvariant kind (session.deliver toolkit json) := by
  have effect :
      (onMessage toolkit json session.client).1.handshakeState =
          session.client.handshakeState ∧
        kind.queue (onMessage toolkit json session.client).1 =
            kind.queue session.client ∧
          (onMessage toolkit json session.client).2.filterMap
            kind.invoked = [] := by
    by_cases response : ∃ response, fromJson json = some (.response response)
    · rcases response with ⟨response, read⟩
      have replied := onMessage_response toolkit invariant.completed read
      have popped := kind.popped _ _ _ _ replied
      have invoked := kind.replied _ _ _ _ replied
      rw [if_neg (foreign response read)] at popped invoked
      exact ⟨replied.handshake, popped, invoked⟩
    · have steady :=
        onMessage_other toolkit invariant.completed
          (not_exists.mp response)
      exact ⟨steady.handshake,
        kind.undisturbed _ _ steady.undisturbed,
        kind.silent _ steady.undisturbed.silent⟩
  rcases effect with ⟨handshake, queue, silent⟩
  have strays :
      ∀ stray ∈ (session.deliver toolkit json).strays,
        stray.2.filterMap kind.invoked = [] := by
    intro stray member
    rcases List.mem_append.mp member with old | new
    · exact invariant.strays stray old
    · rw [List.mem_singleton.mp new]
      exact silent
  have same :
      kind.invocations (session.deliver toolkit json) =
        kind.invocations session := by
    rw [invocations_eq strays, invocations_eq invariant.strays]
    rfl
  constructor
  case sound => exact sound_deliver toolkit json invariant.sound
  case completed => exact handshake.trans invariant.completed
  case callbacks =>
    rw [same]
    show _ ++ kind.queue (onMessage toolkit json session.client).1 = _
    rw [queue]
    exact invariant.callbacks
  case values =>
    rw [same]
    exact invariant.values
  case strays => exact strays

theorem step
    {toolkit : Toolkit}
    {next : Session κ}
    {label : Label κ}
    (ofKind : kind.command = .evaluate ∨ kind.command = .source)
    (invariant : CallbackInvariant kind session)
    (foreign : ForeignMessages label)
    (taken : Sessions.step toolkit session label = some next) :
    CallbackInvariant kind next := by
  rcases step_cases taken with
    ⟨call, -, rfl⟩ |
    ⟨position, json, before, issued, after, -, split, length, answers,
      rfl⟩ |
    ⟨json, rfl, -, rfl⟩
  · exact invariant.perform toolkit call
  · exact invariant.answer toolkit split length answers
  · refine invariant.deliver toolkit ?_
    intro response read
    rcases foreign json rfl response read with ⟨notEvaluate, notSource⟩
    rcases ofKind with evaluate | source
    · rw [evaluate]
      exact notEvaluate
    · rw [source]
      exact notSource

/-! ### When every request of the kind is answered -/

/-- A reply is found by the number of its request. -/
theorem replyTo_eq
    (invariant : CallbackInvariant kind session)
    {exchange : Exchange κ}
    (member : exchange ∈ session.exchanges)
    {issued : Issued κ}
    (number : messageRequestSeq exchange.json = issued.request.seq) :
    CallbackKind.replyTo session issued = some exchange := by
  have distinct :
      (session.exchanges.map fun exchange =>
        messageRequestSeq exchange.json).Nodup := by
    have numbers := invariant.sound.numbers_nodup
    rw [List.map_append, List.map_map] at numbers
    have replies := (List.nodup_append.mp numbers).1
    have injective : Function.Injective fun seq : Nat => (seq : Int) :=
      fun _ _ same => Int.ofNat.inj same
    have casted := replies.map injective
    rw [List.map_map] at casted
    have same :
        session.exchanges.map
            (fun exchange => messageRequestSeq exchange.json) =
          session.exchanges.map _ :=
      List.map_congr_left fun exchange member =>
        (invariant.sound.answered exchange member).sameSeq
    rw [same]
    exact casted
  rw [CallbackKind.replyTo, ← number]
  exact find?_of_nodup distinct member

/-- A registered request that is not in flight has a reply. -/
theorem exists_reply
    (invariant : CallbackInvariant kind session)
    (answered : kind.AllAnswered session)
    {issued : Issued κ}
    (member : issued ∈ session.wire)
    {callback : κ}
    (registered : kind.callback issued = some callback) :
    ∃ exchange ∈ session.exchanges,
      messageRequestSeq exchange.json = issued.request.seq := by
  have settled := invariant.sound.settled.mem_iff.mpr member
  rcases List.mem_append.mp settled with replied | waiting
  · rcases List.mem_map.mp replied with ⟨exchange, among, rfl⟩
    exact ⟨exchange, among,
      (invariant.sound.answered exchange among).sameSeq⟩
  · rw [answered issued waiting] at registered
    cases registered

theorem mem_requested
    {pair : κ × β} :
    pair ∈ kind.requested session ↔
      ∃ issued ∈ session.wire,
        kind.callback issued = some pair.1 ∧
          ∃ exchange,
            CallbackKind.replyTo session issued = some exchange ∧
              kind.value exchange.json = pair.2 := by
  simp only [CallbackKind.requested, List.mem_filterMap,
    Option.bind_eq_some_iff, Option.map_eq_some_iff]
  constructor
  · rintro ⟨issued, member, callback, registered, exchange, found, rfl⟩
    exact ⟨issued, member, registered, exchange, found, rfl⟩
  · rintro ⟨issued, member, registered, exchange, found, value⟩
    exact ⟨issued, member, pair.1, registered, exchange, found,
      by rw [value]⟩

/-- Every registered callback has its place among the requested ones. -/
theorem requested_keys
    (invariant : CallbackInvariant kind session)
    (answered : kind.AllAnswered session) :
    (kind.requested session).map Prod.fst = kind.registered session := by
  rw [CallbackKind.requested, CallbackKind.registered, List.map_filterMap]
  refine List.filterMap_congr fun issued member => ?_
  cases registered : kind.callback issued with
  | none => rfl
  | some callback =>
      rcases invariant.exists_reply answered member registered with
        ⟨exchange, among, number⟩
      rw [Option.bind_some, invariant.replyTo_eq among number]
      rfl

theorem invocations_keys
    (invariant : CallbackInvariant kind session)
    (answered : kind.AllAnswered session) :
    (kind.invocations session).map Prod.fst = kind.registered session := by
  have waiting := invariant.length_queue
  rw [List.filterMap_eq_nil_iff.mpr answered, List.length_nil,
    List.length_eq_zero_iff] at waiting
  have callbacks := invariant.callbacks
  rw [waiting, List.append_nil] at callbacks
  exact callbacks

/-- Once with its own values, stated of the requested callbacks. -/
theorem invokedOnce_iff_requested
    [DecidableEq κ]
    (invariant : CallbackInvariant kind session)
    (answered : kind.AllAnswered session) :
    kind.InvokedOnce session ↔
      ∀ pair ∈ kind.requested session,
        ((kind.invocations session).filter fun invocation =>
          invocation.1 = pair.1) = [pair] := by
  constructor
  · intro once pair member
    rcases mem_requested.mp member with
      ⟨issued, among, registered, exchange, found, value⟩
    rcases once issued among pair.1 registered with
      ⟨other, reply, number, single⟩
    rw [invariant.replyTo_eq reply number] at found
    cases found
    rw [single, value]
  · intro once issued member callback registered
    rcases invariant.exists_reply answered member registered with
      ⟨exchange, among, number⟩
    have requested :
        (callback, kind.value exchange.json) ∈ kind.requested session :=
      mem_requested.mpr
        ⟨issued, member, registered, exchange,
          invariant.replyTo_eq among number, rfl⟩
    exact ⟨exchange, among, number, once _ requested⟩

/--
With all requests of the kind answered, its callbacks are invoked once and
with their own values if and only if the values arrive as requested.
-/
theorem invokedOnce_iff
    [DecidableEq κ]
    (invariant : CallbackInvariant kind session)
    (answered : kind.AllAnswered session)
    (distinct : (kind.registered session).Nodup) :
    kind.InvokedOnce session ↔ kind.AsRequested session := by
  have keys := invariant.requested_keys answered
  have sameKeys :
      (kind.invocations session).map Prod.fst =
        (kind.requested session).map Prod.fst :=
    (invariant.invocations_keys answered).trans keys.symm
  rw [invariant.invokedOnce_iff_requested answered,
    ← eq_iff_once sameKeys (keys ▸ distinct), CallbackKind.AsRequested,
    ← invariant.values]
  constructor
  · intro same
    rw [same]
  · intro sameValues
    rw [List.zip_of_prod sameKeys sameValues]
    exact (List.zip_of_prod rfl rfl).symm

end CallbackInvariant

/-! ## Sessions after the handshake -/

/-- A connected client after the handshake on which no callback waits. -/
structure Established (client : Client κ) : Prop where
  transport : client.transport.isSome = true
  handshake : client.handshakeState = .completed
  evaluates : client.evaluateQueue = []
  sources : client.loadSourcesQueue = []

theorem callbackInvariant_takenUp
    {kind : CallbackKind κ β}
    {client : Client κ}
    (connected : client.transport.isSome = true)
    (completed : client.handshakeState = .completed)
    (empty : kind.queue client = []) :
    CallbackInvariant kind (takenUp client) where
  sound := sound_takenUp connected
  completed := completed
  callbacks := empty
  values := rfl
  strays := fun _ member => absurd member List.not_mem_nil

theorem callbackInvariant_run
    {toolkit : Toolkit}
    {kind : CallbackKind κ β}
    (ofKind : kind.command = .evaluate ∨ kind.command = .source)
    {session reached : Session κ}
    {labels : List (Label κ)}
    (foreign : ∀ label ∈ labels, ForeignMessages label)
    (ran : run (step toolkit) session labels = some reached)
    (invariant : CallbackInvariant kind session) :
    CallbackInvariant kind reached := by
  have preserved :
      ∀ (session : Session κ) label next, CallbackInvariant kind session →
        ForeignMessages label → step toolkit session label = some next →
          CallbackInvariant kind next :=
    fun _ _ _ invariant foreign taken =>
      CallbackInvariant.step ofKind invariant foreign taken
  exact run_invariant preserved invariant
    (along_of_forall session labels foreign) ran

/--
Whatever the order of the replies: once all `evaluate` and `source` requests
are answered, every callback was invoked exactly once and with the values of
its own reply if and only if, for both kinds, the replies arrived with the
values they have in the order of the requests.
-/
theorem callbacks_invokedOnce_iff
    [DecidableEq κ]
    (toolkit : Toolkit)
    {client : Client κ}
    (established : Established client)
    {labels : List (Label κ)}
    (foreign : ∀ label ∈ labels, ForeignMessages label)
    {reached : Session κ}
    (ran : run (step toolkit) (takenUp client) labels = some reached)
    (evaluated : (evaluateKind κ).AllAnswered reached)
    (loaded : (sourceKind κ).AllAnswered reached)
    (distinctEvaluates : ((evaluateKind κ).registered reached).Nodup)
    (distinctSources : ((sourceKind κ).registered reached).Nodup) :
    (evaluateKind κ).InvokedOnce reached ∧
        (sourceKind κ).InvokedOnce reached ↔
      (evaluateKind κ).AsRequested reached ∧
        (sourceKind κ).AsRequested reached := by
  have evaluates : CallbackInvariant (evaluateKind κ) reached :=
    callbackInvariant_run (Or.inl rfl) foreign ran
      (callbackInvariant_takenUp established.transport
        established.handshake established.evaluates)
  have sources : CallbackInvariant (sourceKind κ) reached :=
    callbackInvariant_run (Or.inr rfl) foreign ran
      (callbackInvariant_takenUp established.transport
        established.handshake established.sources)
  rw [evaluates.invokedOnce_iff evaluated distinctEvaluates,
    sources.invokedOnce_iff loaded distinctSources]

/-! ## Two expressions -/

/-- A client in the middle of a session. -/
def establishedClient (κ : Type*) : Client κ :=
  { Client.new κ with
    transport := some 0
    handshakeState := .completed }

/-- The reply with a number that evaluates to a text. -/
def evaluatesTo (requestSeq : Int) (result : WxString) : Json :=
  responseTree .evaluate requestSeq true
    [("result".toList, .string result),
      ("type".toList, .string "int".toList),
      ("variablesReference".toList, .number 0)]

/-- Two expressions are evaluated and answered in turn. -/
def answeredInTurn : List (Label Nat) :=
  [.call (.evaluateExpression "a".toList 0 .hover 1 .native),
    .call (.evaluateExpression "b".toList 0 .hover 2 .native),
    .reply 0 (evaluatesTo 1 "11".toList),
    .reply 0 (evaluatesTo 2 "22".toList)]

theorem callbacks_invokedOnce_inTurn :
    ∃ reached,
      run (step plainToolkit) (takenUp (establishedClient Nat))
          answeredInTurn = some reached ∧
        ((evaluateKind Nat).InvokedOnce reached ∧
            (sourceKind Nat).InvokedOnce reached ↔
          (evaluateKind Nat).AsRequested reached ∧
            (sourceKind Nat).AsRequested reached) := by
  have established : Established (establishedClient Nat) :=
    ⟨rfl, rfl, rfl, rfl⟩
  have foreign : ∀ label ∈ answeredInTurn, ForeignMessages label := by
    simp [answeredInTurn, ForeignMessages]
  refine ⟨_, rfl, ?_⟩
  exact callbacks_invokedOnce_iff plainToolkit established foreign rfl
    (fun _ member => absurd member List.not_mem_nil)
    (fun _ member => absurd member List.not_mem_nil)
    (show [1, 2].Nodup by decide) List.nodup_nil

/-- The reply to the second expression overtakes the other one. -/
def answeredSwapped : List (Label Nat) :=
  [.call (.evaluateExpression "a".toList 0 .hover 1 .native),
    .call (.evaluateExpression "b".toList 0 .hover 2 .native),
    .reply 1 (evaluatesTo 2 "22".toList),
    .reply 0 (evaluatesTo 1 "11".toList)]

/-- Each callback is given the value of the other expression. -/
theorem callbacks_swapped :
    ∃ reached,
      run (step plainToolkit) (takenUp (establishedClient Nat))
          answeredSwapped = some reached ∧
        reached.inFlight.length = 0 ∧
          (evaluateKind Nat).invocations reached =
            [(1, ⟨true, "22".toList, "int".toList, 0⟩),
              (2, ⟨true, "11".toList, "int".toList, 0⟩)] ∧
            ¬ (evaluateKind Nat).InvokedOnce reached := by
  refine ⟨_, rfl, rfl, rfl, ?_⟩
  intro once
  rcases once _ List.mem_cons_self 1 rfl with
    ⟨exchange, member, number, own⟩
  rcases member with _ | ⟨_, _ | ⟨_, none⟩⟩
  · cases number
  · cases own
  · cases none

end DebuggerDap.DapClient.Callbacks
