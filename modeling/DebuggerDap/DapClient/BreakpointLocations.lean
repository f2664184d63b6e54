import DebuggerDap.DapClient.Soundness
import DebuggerDap.Library.TagQueue

/-!
# Replies to `breakpointLocations`

The file of a `breakpointLocations` request is filed under the number of the
request.  Numbers are fresh, also where an operation draws two of them, so
every reply finds its own file in whatever order the replies arrive, and a
response to none of the requests in flight finds no file.
-/

namespace DebuggerDap.DapClient.BreakpointLocations

open DebuggerDap.Text.Strings
open DebuggerDap.Protocol.JsonTree
open DebuggerDap.Protocol.Messages
open DebuggerDap.DapClient.State
open DebuggerDap.DapClient.OnMessage
open DebuggerDap.DapClient.Sessions
open DebuggerDap.DapClient.Replies
open DebuggerDap.DapClient.Soundness
open DebuggerDap.Library.Run
open DebuggerDap.Library.TagQueue

variable {κ : Type*}

/-- The entries `OnMessage` takes for the one of a reply. -/
def isAnswer (requestSeq : Int) (entry : Nat × WxString) : Bool :=
  (entry.1 : Int) == requestSeq

/-- The path of a `breakpointLocations` request. -/
def requestedPath (issued : Issued κ) : Option WxString :=
  issued.locationTag.map Prod.snd

/--
Numbers increase, the map holds exactly the unanswered requests, each reply
got the path of its own request, and other responses got none.
-/
structure LocationsCorrelated (session : Session κ) : Prop where
  increasing :
    session.wire.Pairwise fun earlier later =>
      earlier.request.seq < later.request.seq
  filed :
    session.client.requestIdToFilepath =
      session.inFlight.filterMap Issued.locationTag
  answered :
    ∀ exchange ∈ session.exchanges,
      messageRequestSeq exchange.json = exchange.issued.request.seq
  own :
    ∀ exchange ∈ session.exchanges,
      exchange.outputs.filterMap locationPath =
        (requestedPath exchange.issued).toList
  none :
    ∀ stray ∈ session.strays,
      ∀ path ∈ stray.2.filterMap locationPath, path = []

structure LocationsInvariant (session : Session κ) : Prop where
  sound : Sound session
  correlated : LocationsCorrelated session
  /-- The gate of `BreakpointLocations` is closed during the handshake. -/
  gate :
    session.client.handshakeState ≠ .completed →
      session.client.features = ∅ ∧
        session.client.requestIdToFilepath = []

theorem locationTag_eq_some
    {issued : Issued κ}
    {entry : Nat × WxString}
    (tagged : issued.locationTag = some entry) :
    issued.request.body.command = .breakpointLocations ∧
      entry.1 = issued.request.seq := by
  rcases issued with ⟨call, seq, body⟩
  cases body <;> cases tagged
  exact ⟨rfl, rfl⟩

theorem locationTag_eq_none
    {issued : Issued κ}
    (other : issued.request.body.command ≠ .breakpointLocations) :
    issued.locationTag = none := by
  cases tagged : issued.locationTag with
  | none => rfl
  | some entry => exact absurd (locationTag_eq_some tagged).1 other

/-- Requests with other numbers are not answered. -/
theorem unanswered_of_number
    {requests : List (Issued κ)}
    {requestSeq : Int}
    (others :
      ∀ issued ∈ requests,
        issued.request.body.command = .breakpointLocations →
          (issued.request.seq : Int) ≠ requestSeq) :
    Unanswered Issued.locationTag (isAnswer requestSeq) requests := by
  intro issued member entry tagged
  rcases locationTag_eq_some tagged with ⟨command, number⟩
  have differs := others issued member command
  rw [← number] at differs
  exact beq_eq_false_iff_ne.mpr differs

namespace LocationsInvariant

variable (toolkit : Toolkit)
variable {session : Session κ}

theorem perform
    (invariant : LocationsInvariant session)
    (call : ApiCall κ) :
    LocationsInvariant (session.perform toolkit call) := by
  have sound := sound_perform toolkit call invariant.sound
  have done := performed invariant.sound.transport toolkit call
  have below :
      ∀ entry ∈ session.client.requestIdToFilepath,
        entry.1 ≤ session.client.requestSequence := by
    intro entry member
    rw [invariant.correlated.filed] at member
    rcases List.mem_filterMap.mp member with ⟨issued, among, tagged⟩
    rw [(locationTag_eq_some tagged).2]
    exact invariant.sound.below issued
      (invariant.sound.inFlight_mem among)
  have filed := done.locations below
  constructor
  case sound => exact sound
  case correlated =>
    constructor
    case increasing => exact sound.increasing
    case filed =>
      show (session.client.perform toolkit call).1.requestIdToFilepath =
        (session.inFlight ++ issue (some call) _).filterMap _
      rw [filed, invariant.correlated.filed, List.filterMap_append]
    case answered => exact invariant.correlated.answered
    case own => exact invariant.correlated.own
    case none => exact invariant.correlated.none
  case gate =>
    intro waiting
    have before : session.client.handshakeState ≠ .completed := by
      rw [← done.handshake]
      exact waiting
    rcases invariant.gate before with ⟨noFeatures, noneFiled⟩
    refine ⟨done.features.trans noFeatures, ?_⟩
    show (session.client.perform toolkit call).1.requestIdToFilepath = []
    rw [filed, noneFiled, List.nil_append, List.filterMap_eq_nil_iff]
    intro issued member
    rw [← Option.not_isSome_iff_eq_none]
    intro tagged
    have supported := done.gated issued member tagged
    rw [noFeatures] at supported
    exact absurd supported (Finset.notMem_empty _)

/-- Before the handshake is completed nothing is filed or dispatched. -/
theorem waiting_untagged
    (invariant : LocationsInvariant session)
    (waiting : session.client.handshakeState ≠ .completed)
    {issued : Issued κ}
    (member : issued ∈ session.inFlight) :
    issued.locationTag = none := by
  have filed := invariant.correlated.filed
  rw [(invariant.gate waiting).2] at filed
  exact List.filterMap_eq_nil_iff.mp filed.symm issued member

/-- The gate stays closed until an initialize response completes it. -/
theorem gate_onMessage
    (invariant : LocationsInvariant session)
    (json : Json)
    (waiting :
      (onMessage toolkit json session.client).1.handshakeState ≠
        .completed) :
    (onMessage toolkit json session.client).1.features = ∅ ∧
      (onMessage toolkit json session.client).1.requestIdToFilepath = [] := by
  by_cases completed : session.client.handshakeState = .completed
  · exfalso
    apply waiting
    by_cases response :
        ∃ response, fromJson json = some (.response response)
    · rcases response with ⟨response, read⟩
      exact (onMessage_response toolkit completed read).handshake.trans
        completed
    · exact (onMessage_other toolkit completed
        (not_exists.mp response)).handshake.trans completed
  · rcases onMessage_waiting toolkit json completed with
      ⟨-, completes, stays⟩
    have steady := stays fun initialized => waiting (completes initialized)
    rcases invariant.gate completed with ⟨noFeatures, noneFiled⟩
    exact ⟨steady.features.trans noFeatures,
      steady.undisturbed.locations.trans noneFiled⟩

/-- What a reply does to the map and what it dispatches. -/
theorem reply_locations
    (invariant : LocationsInvariant session)
    {before after : List (Issued κ)}
    {issued : Issued κ}
    (split : session.inFlight = before ++ issued :: after)
    {json : Json}
    (answers : Answers json issued.request) :
    (onMessage toolkit json session.client).1.requestIdToFilepath =
        (before ++ after).filterMap Issued.locationTag ∧
      (onMessage toolkit json session.client).2.filterMap locationPath =
        (requestedPath issued).toList := by
  have filed := invariant.correlated.filed
  rw [split] at filed
  by_cases completed : session.client.handshakeState = .completed
  · have replied := onMessage_reply toolkit completed answers
    by_cases command :
        issued.request.body.command = .breakpointLocations
    · have tagged :
          ∃ path,
            issued.locationTag = some (issued.request.seq, path) := by
        rcases issued with ⟨call, seq, body⟩
        cases body <;> cases command
        exact ⟨_, rfl⟩
      rcases tagged with ⟨path, tagged⟩
      have own :
          isAnswer (issued.request.seq : Int) (issued.request.seq, path) =
            true :=
        beq_self_eq_true _
      have others :
          ∀ other ∈ before ++ after,
            (other.request.seq : Int) ≠ issued.request.seq :=
        fun other member same =>
          invariant.sound.other_number split member (Int.ofNat.inj same)
      have unansweredBefore :=
        unanswered_of_number fun other member (_ : _ = _) =>
          others other (List.mem_append_left after member)
      have unansweredAfter :=
        unanswered_of_number fun other member (_ : _ = _) =>
          others other (List.mem_append_right before member)
      constructor
      · rw [replied.locations, if_pos command, filed]
        exact filter_answered unansweredBefore unansweredAfter tagged own
      · have found :
            ((before ++ issued :: after).filterMap
                Issued.locationTag).find? (isAnswer issued.request.seq) =
              some (issued.request.seq, path) :=
          find?_answered unansweredBefore tagged own
        rw [replied.locationsEvents, if_pos command, filed]
        show [Option.elim (List.find? (isAnswer _) _) [] Prod.snd] = _
        rw [found, requestedPath, tagged]
        rfl
    · have untagged := locationTag_eq_none command
      constructor
      · rw [replied.locations, if_neg command, filed,
          List.filterMap_append, List.filterMap_cons_none untagged,
          List.filterMap_append]
      · rw [replied.locationsEvents, if_neg command, requestedPath,
          untagged]
        rfl
  · have member : issued ∈ session.inFlight := by
      rw [split]
      exact List.mem_append_right before List.mem_cons_self
    have untagged := invariant.waiting_untagged completed member
    have undisturbed :=
      (onMessage_waiting toolkit json completed).1
    constructor
    · rw [undisturbed.locations, filed, List.filterMap_append,
        List.filterMap_cons_none untagged, List.filterMap_append]
    · rw [undisturbed.silent.locations, requestedPath, untagged]
      rfl

/-- What a message that answers nothing does to the map and dispatches. -/
theorem stray_locations
    (invariant : LocationsInvariant session)
    {json : Json}
    (unanswered :
      ∀ issued ∈ session.inFlight, ¬ Answers json issued.request) :
    (onMessage toolkit json session.client).1.requestIdToFilepath =
        session.client.requestIdToFilepath ∧
      ∀ path ∈
          (onMessage toolkit json session.client).2.filterMap locationPath,
        path = [] := by
  by_cases completed : session.client.handshakeState = .completed
  · by_cases response :
        ∃ response, fromJson json = some (.response response)
    · rcases response with ⟨response, read⟩
      have replied := onMessage_response toolkit completed read
      by_cases command : response.command = .breakpointLocations
      · rcases isResponse_of_fromJson read with ⟨isResponse, name, number⟩
        have others :
            Unanswered Issued.locationTag (isAnswer response.requestSeq)
              session.inFlight := by
          apply unanswered_of_number
          intro issued member issuedCommand same
          refine unanswered issued member ⟨isResponse, ?_, ?_⟩
          · rw [name, command, issuedCommand]
          · rw [number, same]
        constructor
        · rw [replied.locations, if_pos command,
            invariant.correlated.filed]
          exact others.filter_eq_self
        · have found := others.find?_eq_none
          rw [replied.locationsEvents, if_pos command,
            invariant.correlated.filed]
          show ∀ path ∈ [Option.elim (List.find? (isAnswer _) _) [] _],
            path = []
          rw [found]
          intro path member
          exact List.mem_singleton.mp member
      · constructor
        · rw [replied.locations, if_neg command]
        · rw [replied.locationsEvents, if_neg command]
          exact fun path member => absurd member List.not_mem_nil
    · have steady :=
        onMessage_other toolkit completed (not_exists.mp response)
      refine ⟨steady.undisturbed.locations, ?_⟩
      rw [steady.undisturbed.silent.locations]
      exact fun path member => absurd member List.not_mem_nil
  · have undisturbed :=
      (onMessage_waiting toolkit json completed).1
    refine ⟨undisturbed.locations, ?_⟩
    rw [undisturbed.silent.locations]
    exact fun path member => absurd member List.not_mem_nil

theorem answer
    (invariant : LocationsInvariant session)
    {position : Nat}
    {before after : List (Issued κ)}
    {issued : Issued κ}
    (split : session.inFlight = before ++ issued :: after)
    (length : before.length = position)
    {json : Json}
    (answers : Answers json issued.request) :
    LocationsInvariant (session.answer toolkit position issued json) := by
  have sound := sound_answer toolkit invariant.sound split length answers
  rcases invariant.reply_locations toolkit split answers with
    ⟨filed, dispatched⟩
  constructor
  case sound => exact sound
  case correlated =>
    constructor
    case increasing => exact invariant.correlated.increasing
    case filed =>
      show (onMessage toolkit json session.client).1.requestIdToFilepath =
        (session.inFlight.eraseIdx position).filterMap _
      rw [filed, split, eraseIdx_split length]
    case answered =>
      intro exchange member
      exact (sound.answered exchange member).sameSeq
    case own =>
      intro exchange member
      rcases List.mem_append.mp member with old | new
      · exact invariant.correlated.own exchange old
      · rw [List.mem_singleton.mp new]
        exact dispatched
    case none => exact invariant.correlated.none
  case gate => exact invariant.gate_onMessage toolkit json

theorem deliver
    (invariant : LocationsInvariant session)
    {json : Json}
    (unanswered :
      ∀ issued ∈ session.inFlight, ¬ Answers json issued.request) :
    LocationsInvariant (session.deliver toolkit json) := by
  rcases invariant.stray_locations toolkit unanswered with
    ⟨kept, dispatched⟩
  constructor
  case sound => exact sound_deliver toolkit json invariant.sound
  case correlated =>
    constructor
    case increasing => exact invariant.correlated.increasing
    case filed => exact kept.trans invariant.correlated.filed
    case answered => exact invariant.correlated.answered
    case own => exact invariant.correlated.own
    case none =>
      intro stray member
      rcases List.mem_append.mp member with old | new
      · exact invariant.correlated.none stray old
      · rw [List.mem_singleton.mp new]
        exact dispatched
  case gate => exact invariant.gate_onMessage toolkit json

theorem step
    {next : Session κ}
    {label : Label κ}
    (invariant : LocationsInvariant session)
    (taken : Sessions.step toolkit session label = some next) :
    LocationsInvariant next := by
  rcases step_cases taken with
    ⟨call, -, rfl⟩ |
    ⟨position, json, before, issued, after, -, split, length, answers,
      rfl⟩ |
    ⟨json, -, unanswered, rfl⟩
  · exact invariant.perform toolkit call
  · exact invariant.answer toolkit split length answers
  · exact invariant.deliver toolkit unanswered

end LocationsInvariant

theorem locationsInvariant_opened
    (toolkit : Toolkit)
    (client : Client κ)
    (transport : Nat)
    (initArgs : Option InitializeRequestArguments) :
    LocationsInvariant (opened toolkit client transport initArgs) := by
  have sound := sound_opened toolkit client transport initArgs
  rcases opened_eq toolkit client transport initArgs with ⟨arguments, equal⟩
  rw [equal] at sound ⊢
  exact
    { sound := sound
      correlated :=
        { increasing := sound.increasing
          filed := rfl
          answered := fun _ member => absurd member List.not_mem_nil
          own := fun _ member => absurd member List.not_mem_nil
          none := fun _ member => absurd member List.not_mem_nil }
      gate := fun _ => ⟨rfl, rfl⟩ }

/--
In every session, with replies in any order and any other messages between
them, requests go out under increasing numbers, the map holds exactly the
unanswered `breakpointLocations` requests, every reply gets the path of its
own request, and a response that answers none of them gets none.
-/
theorem breakpointLocations_correlated
    (toolkit : Toolkit)
    (client : Client κ)
    (transport : Nat)
    (initArgs : Option InitializeRequestArguments)
    (labels : List (Label κ)) :
    Always (step toolkit) LocationsCorrelated
      (opened toolkit client transport initArgs) labels := by
  rintro taken rest reached - ran
  have invariant : LocationsInvariant reached :=
    run_invariant_of_step
      (fun _ _ _ invariant taken =>
        LocationsInvariant.step toolkit invariant taken)
      (locationsInvariant_opened toolkit client transport initArgs) ran
  exact invariant.correlated

-- Two files answered the other way round, the second of them twice.
example :
    (run (step plainToolkit)
      (takenUp
        { Client.new Unit with
          transport := some 0
          handshakeState := .completed
          features := {.supportsBreakpointLocationsRequest} })
      [.call (.breakpointLocations "a.cpp".toList 1 9),
        .call (.breakpointLocations "b.cpp".toList 1 9),
        .reply 1 (responseTree .breakpointLocations 2 true []),
        .reply 0 (responseTree .breakpointLocations 1 true []),
        .message (responseTree .breakpointLocations 2 true [])]).map
      (fun session =>
        (session.exchanges.map fun exchange =>
            exchange.outputs.filterMap locationPath,
          session.strays.map fun stray =>
            stray.2.filterMap locationPath)) =
      some ([["b.cpp".toList], ["a.cpp".toList]], [[[]]]) :=
  rfl

end DebuggerDap.DapClient.BreakpointLocations
