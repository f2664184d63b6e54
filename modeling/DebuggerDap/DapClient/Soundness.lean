import DebuggerDap.DapClient.Replies
import Mathlib.Data.List.Perm.Basic

/-!
# What holds in every session

Whatever the client is asked and whatever the adapter sends, the transport
stays, requests go out under increasing numbers, and every request on the
wire is either in flight or answered by exactly one reply.
-/

namespace DebuggerDap.DapClient.Soundness

open DebuggerDap.Protocol.JsonTree
open DebuggerDap.Protocol.Messages
open DebuggerDap.DapClient.State
open DebuggerDap.DapClient.OnMessage
open DebuggerDap.DapClient.Sessions
open DebuggerDap.DapClient.Replies
open DebuggerDap.Library.Run

variable {κ : Type*}

/-- No message takes the transport away, draws a number or sends. -/
theorem onMessage_keeps
    (toolkit : Toolkit)
    (json : Json)
    (client : Client κ) :
    (onMessage toolkit json client).1.transport = client.transport ∧
      (onMessage toolkit json client).1.requestSequence =
          client.requestSequence ∧
        sentRequests (onMessage toolkit json client).2 = [] := by
  by_cases completed : client.handshakeState = .completed
  · by_cases response :
        ∃ response, fromJson json = some (.response response)
    · rcases response with ⟨response, read⟩
      have replied := onMessage_response toolkit completed read
      exact ⟨replied.transport, replied.sequence, replied.sent⟩
    · have steady :=
        onMessage_other toolkit completed (not_exists.mp response)
      exact ⟨steady.undisturbed.transport, steady.undisturbed.sequence,
        steady.undisturbed.silent.sent⟩
  · have undisturbed :=
      (onMessage_waiting toolkit json completed).1
    exact ⟨undisturbed.transport, undisturbed.sequence,
      undisturbed.silent.sent⟩

structure Sound (session : Session κ) : Prop where
  transport : session.client.transport.isSome = true
  consistent : ∀ issued ∈ session.wire, Consistent issued
  increasing :
    session.wire.Pairwise fun earlier later =>
      earlier.request.seq < later.request.seq
  below :
    ∀ issued ∈ session.wire,
      issued.request.seq ≤ session.client.requestSequence
  settled :
    (session.exchanges.map Exchange.issued ++ session.inFlight).Perm
      session.wire
  answered :
    ∀ exchange ∈ session.exchanges,
      Answers exchange.json exchange.issued.request

namespace Sound

variable {session : Session κ}

theorem inFlight_mem
    (sound : Sound session)
    {issued : Issued κ}
    (member : issued ∈ session.inFlight) :
    issued ∈ session.wire :=
  sound.settled.mem_iff.mp (List.mem_append_right _ member)

theorem exchange_mem
    (sound : Sound session)
    {exchange : Exchange κ}
    (member : exchange ∈ session.exchanges) :
    exchange.issued ∈ session.wire :=
  sound.settled.mem_iff.mp
    (List.mem_append_left _ (List.mem_map_of_mem member))

/-- No number is used twice. -/
theorem numbers_nodup (sound : Sound session) :
    ((session.exchanges.map Exchange.issued ++ session.inFlight).map
      fun issued => issued.request.seq).Nodup := by
  refine (sound.settled.map _).nodup_iff.mpr ?_
  rw [List.nodup_iff_pairwise_ne, List.pairwise_map]
  exact sound.increasing.imp Nat.ne_of_lt

/-- The other requests in flight have other numbers. -/
theorem other_number
    (sound : Sound session)
    {before after : List (Issued κ)}
    {issued : Issued κ}
    (split : session.inFlight = before ++ issued :: after)
    {other : Issued κ}
    (member : other ∈ before ++ after) :
    other.request.seq ≠ issued.request.seq := by
  have distinct := sound.numbers_nodup
  rw [List.map_append, split] at distinct
  have inFlight := (List.nodup_append.mp distinct).2.1
  have moved :
      ((issued :: (before ++ after)).map
        fun issued => issued.request.seq).Nodup :=
    (List.perm_middle.map _).nodup_iff.mp inFlight
  rw [List.map_cons, List.nodup_cons] at moved
  intro same
  apply moved.1
  rw [← same]
  exact List.mem_map_of_mem member

end Sound

/-! ## Starts -/

theorem initialize_connected
    {client : Client κ}
    (connected : client.transport.isSome = true)
    (toolkit : Toolkit)
    (initArgs : Option InitializeRequestArguments) :
    ∃ arguments,
      (client.initialize_ toolkit initArgs).1 =
          { client with
            requestSequence := client.requestSequence + 1
            handshakeState := .inProgress } ∧
        issue (none : Option (ApiCall κ))
            (client.initialize_ toolkit initArgs).2 =
          [⟨none, ⟨client.requestSequence + 1, .initialize_ arguments⟩⟩] := by
  unfold Client.initialize_
  dsimp only
  rw [request_connected connected]
  refine
    ⟨initArgs.getD { clientID := "wxdap".toList, clientName := "wxdap".toList },
      rfl, ?_⟩
  rw [issue, sentRequests_sent]
  rfl

/-- A fresh session has exactly its initialize request in flight. -/
theorem opened_eq
    (toolkit : Toolkit)
    (client : Client κ)
    (transport : Nat)
    (initArgs : Option InitializeRequestArguments) :
    ∃ arguments,
      opened toolkit client transport initArgs =
        { client :=
            { client.setTransport transport with
              requestSequence := 1
              handshakeState := .inProgress }
          inFlight := [⟨none, ⟨1, .initialize_ arguments⟩⟩]
          wire := [⟨none, ⟨1, .initialize_ arguments⟩⟩]
          exchanges := []
          strays := [] } := by
  have connected :
      (client.setTransport transport).transport.isSome = true :=
    rfl
  rcases initialize_connected connected toolkit initArgs with
    ⟨arguments, nextClient, sent⟩
  refine ⟨arguments, ?_⟩
  unfold opened
  dsimp only
  rw [nextClient, sent]
  rfl

theorem sound_opened
    (toolkit : Toolkit)
    (client : Client κ)
    (transport : Nat)
    (initArgs : Option InitializeRequestArguments) :
    Sound (opened toolkit client transport initArgs) := by
  rcases opened_eq toolkit client transport initArgs with ⟨arguments, equal⟩
  rw [equal]
  constructor
  case transport => rfl
  case consistent =>
    intro issued member
    rw [List.mem_singleton.mp member]
    exact consistent_of rfl rfl rfl
  case increasing => exact List.pairwise_singleton _ _
  case below =>
    intro issued member
    rw [List.mem_singleton.mp member]
  case settled => exact List.Perm.refl _
  case answered => exact fun _ member => absurd member List.not_mem_nil

/-- A session that is taken up in the middle, with no request of its own. -/
def takenUp (client : Client κ) : Session κ where
  client := client
  inFlight := []
  wire := []
  exchanges := []
  strays := []

theorem sound_takenUp
    {client : Client κ}
    (connected : client.transport.isSome = true) :
    Sound (takenUp client) where
  transport := connected
  consistent := fun _ member => absurd member List.not_mem_nil
  increasing := List.Pairwise.nil
  below := fun _ member => absurd member List.not_mem_nil
  settled := List.Perm.refl []
  answered := fun _ member => absurd member List.not_mem_nil

/-! ## Steps -/

theorem sound_perform
    (toolkit : Toolkit)
    (call : ApiCall κ)
    {session : Session κ}
    (sound : Sound session) :
    Sound (session.perform toolkit call) := by
  have done := performed sound.transport toolkit call
  constructor
  case transport =>
    show (session.client.perform toolkit call).1.transport.isSome = true
    rw [done.transport]
    exact sound.transport
  case consistent =>
    intro issued member
    rcases List.mem_append.mp member with old | new
    · exact sound.consistent issued old
    · exact done.consistent issued new
  case increasing =>
    refine List.pairwise_append.mpr ⟨sound.increasing, ?_, ?_⟩
    · rcases done.sent with nothing | ⟨request, one, -⟩
      · simp [issue, nothing]
      · simp [issue, one]
    · intro earlier old later new
      have bounded := sound.below earlier old
      rcases done.sent with nothing | ⟨request, one, fresh, -⟩
      · simp [issue, nothing] at new
      · simp only [issue, one, List.map_cons, List.map_nil,
          List.mem_singleton] at new
        subst new
        exact Nat.lt_of_le_of_lt bounded fresh
  case below =>
    intro issued member
    rcases List.mem_append.mp member with old | new
    · exact (sound.below issued old).trans done.sequence
    · rcases done.sent with nothing | ⟨request, one, -, within, -⟩
      · simp [issue, nothing] at new
      · simp only [issue, one, List.map_cons, List.map_nil,
          List.mem_singleton] at new
        subst new
        exact within
  case settled =>
    show (session.exchanges.map Exchange.issued ++
      (session.inFlight ++ issue (some call) _)).Perm
        (session.wire ++ issue (some call) _)
    rw [← List.append_assoc]
    exact sound.settled.append_right _
  case answered => exact sound.answered

theorem sound_answer
    (toolkit : Toolkit)
    {session : Session κ}
    (sound : Sound session)
    {position : Nat}
    {before after : List (Issued κ)}
    {issued : Issued κ}
    (split : session.inFlight = before ++ issued :: after)
    (length : before.length = position)
    {json : Json}
    (answers : Answers json issued.request) :
    Sound (session.answer toolkit position issued json) := by
  rcases onMessage_keeps toolkit json session.client with
    ⟨transport, sequence, -⟩
  constructor
  case transport =>
    show (onMessage toolkit json session.client).1.transport.isSome = true
    rw [transport]
    exact sound.transport
  case consistent => exact sound.consistent
  case increasing => exact sound.increasing
  case below =>
    intro other member
    show _ ≤ (onMessage toolkit json session.client).1.requestSequence
    rw [sequence]
    exact sound.below other member
  case settled =>
    show ((session.exchanges ++ [_]).map Exchange.issued ++
      session.inFlight.eraseIdx position).Perm session.wire
    refine List.Perm.trans ?_ sound.settled
    rw [split, eraseIdx_split length, List.map_append, List.append_assoc]
    have moved :
        (issued :: (before ++ after)).Perm (before ++ issued :: after) :=
      List.perm_middle.symm
    exact moved.append_left _
  case answered =>
    intro exchange member
    rcases List.mem_append.mp member with old | new
    · exact sound.answered exchange old
    · rw [List.mem_singleton.mp new]
      exact answers

theorem sound_deliver
    (toolkit : Toolkit)
    (json : Json)
    {session : Session κ}
    (sound : Sound session) :
    Sound (session.deliver toolkit json) := by
  rcases onMessage_keeps toolkit json session.client with
    ⟨transport, sequence, -⟩
  constructor
  case transport =>
    show (onMessage toolkit json session.client).1.transport.isSome = true
    rw [transport]
    exact sound.transport
  case consistent => exact sound.consistent
  case increasing => exact sound.increasing
  case below =>
    intro issued member
    show _ ≤ (onMessage toolkit json session.client).1.requestSequence
    rw [sequence]
    exact sound.below issued member
  case settled => exact sound.settled
  case answered => exact sound.answered

theorem sound_step
    {toolkit : Toolkit}
    {session next : Session κ}
    {label : Label κ}
    (sound : Sound session)
    (taken : step toolkit session label = some next) :
    Sound next := by
  rcases step_cases taken with
    ⟨call, -, rfl⟩ |
    ⟨position, json, before, issued, after, -, split, length, answers,
      rfl⟩ |
    ⟨json, -, -, rfl⟩
  · exact sound_perform toolkit call sound
  · exact sound_answer toolkit sound split length answers
  · exact sound_deliver toolkit json sound

/-- Every state of every session is sound. -/
theorem sound_run
    {toolkit : Toolkit}
    {session reached : Session κ}
    {labels : List (Label κ)}
    (sound : Sound session)
    (ran : run (step toolkit) session labels = some reached) :
    Sound reached :=
  run_invariant_of_step
    (fun _ _ _ sound taken => sound_step sound taken) sound ran

end DebuggerDap.DapClient.Soundness
