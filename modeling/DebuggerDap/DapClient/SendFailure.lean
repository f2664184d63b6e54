import DebuggerDap.DapClient.State
import DebuggerDap.Protocol.SocketSend

/-!
# What `SendRequest` says about a failed send

A frame passes four layers.  `Socket::Send` throws, `SocketTransport::Send`
turns the exception into the number 0, `JsonRPC::Send` throws only when there
is no transport and drops that number, and `SendRequest` catches.  So only the
missing transport is reported.
-/

namespace DebuggerDap.DapClient.SendFailure

open DebuggerDap.Text.Strings
open DebuggerDap.Text.Utf8
open DebuggerDap.Protocol.JsonRpc
open DebuggerDap.Protocol.Messages
open DebuggerDap.Protocol.SocketSend
open DebuggerDap.DapClient.State

variable {κ : Type*}

/-! ## The layers -/

/-- The socket behind a transport, with what it reports during one send. -/
structure Wire where
  validSocket : Bool
  script : List WriteResult

/-- `SocketTransport::Send`; it has no result while the socket is sending. -/
def transportSend
    (wire : Wire)
    (buffer : WxString) : List UInt8 × Option Nat :=
  let run := socketSend wire.validSocket wire.script buffer
  match run.status with
  | .finished => (run.written, some buffer.length)
  | .exception => (run.written, some 0)
  | .pending => (run.written, none)

/-- How far a call has come. -/
inductive Completion where
  | returned
  | thrown
  | pending
  deriving DecidableEq, Repr

/-- `JsonRPC::Send`: the result of the transport is not looked at. -/
def rpcSend
    (transport : Option Wire)
    (payload : WxString) : List UInt8 × Completion :=
  match transport with
  | none => ([], .thrown)
  | some wire =>
      match transportSend wire (networkBuffer payload) with
      | (written, some _) => (written, .returned)
      | (written, none) => (written, .pending)

structure SendResult (κ : Type*) where
  client : Client κ
  outputs : List (Output κ)
  written : List UInt8
  /-- The result of `SendRequest`, unless it is still sending. -/
  returned : Option Bool

/-- `SendRequest` down to the socket. -/
def sendRequestOver
    (toolkit : Toolkit)
    (request : Request)
    (wire : Wire)
    (client : Client κ) : SendResult κ :=
  let text := toolkit.requestText request
  match rpcSend (client.transport.map fun _ => wire) text with
  | (written, .returned) =>
      { client := client
        outputs := .sent request :: client.logOutput ("--> ".toList ++ text)
        written := written
        returned := some true }
  | (written, .thrown) =>
      let failed := client.onConnectionError
      ⟨failed.1, failed.2, written, some false⟩
  | (written, .pending) => ⟨client, [], written, none⟩

/-- Once it has returned, `SendRequest` has done what `State` says. -/
theorem sendRequestOver_of_returned
    {toolkit : Toolkit}
    {request : Request}
    {wire : Wire}
    {client : Client κ}
    (returned :
      (sendRequestOver toolkit request wire client).returned ≠ none) :
    ((sendRequestOver toolkit request wire client).client,
        (sendRequestOver toolkit request wire client).outputs) =
      client.sendRequest toolkit request := by
  cases present : client.transport with
  | none =>
      simp [sendRequestOver, rpcSend, present, Client.sendRequest]
  | some transport =>
      cases sent :
          transportSend wire
            (networkBuffer (toolkit.requestText request)) with
      | mk written result =>
          cases result with
          | none =>
              simp [sendRequestOver, rpcSend, present, sent] at returned
          | some count =>
              simp [sendRequestOver, rpcSend, present, sent,
                Client.sendRequest]

/-! ## Reported failures -/

/-- The runs of `OnConnectionError`, each of which dispatches an event. -/
def connectionErrors (outputs : List (Output κ)) : Nat :=
  outputs.countP fun
    | .event event => event.message = .lostConnection
    | _ => false

/--
There is no transport, its socket is invalid, or `select` or `::send` reports
an error before all bytes are sent.
-/
def TransportFails
    (toolkit : Toolkit)
    (request : Request)
    (wire : Wire)
    (client : Client κ) : Prop :=
  client.transport = none ∨
    (socketSend wire.validSocket wire.script
        (networkBuffer (toolkit.requestText request))).status = .exception

structure FailuresReported
    (toolkit : Toolkit)
    (request : Request)
    (wire : Wire)
    (client : Client κ) : Prop where
  failure :
    TransportFails toolkit request wire client →
      (sendRequestOver toolkit request wire client).returned = some false ∧
        connectionErrors
          (sendRequestOver toolkit request wire client).outputs = 1
  success :
    (sendRequestOver toolkit request wire client).returned = some true →
      (sendRequestOver toolkit request wire client).written =
        utf8 (networkBuffer (toolkit.requestText request))

/-! ## How the send loop ends -/

/-- The bytes a pass of the send loop can take. -/
def capacity : WriteResult → Nat
  | .timeout => 0
  | .selectError => 0
  | .sendError => 0
  | .room count => count

/-- The bytes the socket can take before its first error. -/
def takenBeforeError : List WriteResult → Nat
  | [] => 0
  | result :: script =>
      if result.progress = true then
        capacity result + takenBeforeError script
      else 0

/-- The socket reports no error. -/
def NoError (script : List WriteResult) : Prop :=
  ∀ result ∈ script, result.progress = true

instance (script : List WriteResult) : Decidable (NoError script) :=
  inferInstanceAs (Decidable (∀ result ∈ script, result.progress = true))

@[simp]
theorem takenBeforeError_nil : takenBeforeError [] = 0 :=
  rfl

theorem takenBeforeError_cons
    (result : WriteResult)
    (script : List WriteResult) :
    takenBeforeError (result :: script) =
      if result.progress = true then
        capacity result + takenBeforeError script
      else 0 :=
  rfl

theorem noError_cons
    (result : WriteResult)
    (script : List WriteResult) :
    NoError (result :: script) ↔
      result.progress = true ∧ NoError script :=
  List.forall_mem_cons

/-- A pass that ends the loop early is an error. -/
theorem error_ends
    {result : WriteResult}
    {script : List WriteResult}
    (error : result.progress ≠ true)
    (bytesLeft : Nat) :
    (if bytesLeft + 1 ≤ takenBeforeError (result :: script) then
        SendStatus.finished
      else if NoError (result :: script) then .pending
      else .exception) =
      .exception := by
  rw [takenBeforeError_cons, if_neg error, if_neg (Nat.not_succ_le_zero _),
    if_neg]
  exact fun none => error ((noError_cons result script).mp none).1

/-- The loop finishes when the socket takes enough before its first error. -/
theorem sendLoop_status
    (script : List WriteResult)
    (pdata : List UInt8)
    (bytesLeft : Nat) :
    (sendLoop script pdata bytesLeft).status =
      if bytesLeft ≤ takenBeforeError script then .finished
      else if NoError script then .pending
      else .exception := by
  induction script, pdata, bytesLeft using sendLoop.induct with
  | case1 script pdata =>
      simp [sendLoop]
  | case2 pdata bytesLeft =>
      simp [sendLoop, NoError]
  | case3 script pdata bytesLeft ih =>
      rw [sendLoop, ih, takenBeforeError_cons]
      simp [noError_cons, WriteResult.progress, capacity]
  | case4 script pdata bytesLeft =>
      exact (error_ends (by decide) bytesLeft).symm
  | case5 script pdata bytesLeft =>
      exact (error_ends (by decide) bytesLeft).symm
  | case6 count script pdata bytesLeft bytesSent nothing =>
      have stopped : min count (bytesLeft + 1) = 0 := nothing
      have full : WriteResult.progress (.room count) ≠ true := by
        intro going
        have positive : 0 < count := of_decide_eq_true going
        omega
      rw [sendLoop, if_pos stopped, error_ends full]
  | case7 count script pdata bytesLeft bytesSent some_ ih =>
      have sent : ¬ min count (bytesLeft + 1) = 0 := some_
      have going : WriteResult.progress (.room count) = true := by
        simp only [WriteResult.progress, decide_eq_true_eq]
        omega
      have remaining :
          bytesLeft + 1 - bytesSent ≤ takenBeforeError script ↔
            bytesLeft + 1 ≤ count + takenBeforeError script := by
        have taken : bytesSent = min count (bytesLeft + 1) := rfl
        omega
      rw [sendLoop, if_neg sent, takenBeforeError_cons, if_pos going]
      dsimp only
      rw [ih]
      simp only [remaining, noError_cons, going, true_and, capacity]

/-- What is written is the whole frame only where each character is a byte. -/
theorem take_frame_iff (payload : WxString) :
    (utf8 (networkBuffer payload)).take (networkBuffer payload).length =
        utf8 (networkBuffer payload) ↔
      IsAscii payload := by
  have frame :
      IsAscii (networkBuffer payload) ↔ IsAscii payload := by
    have parts : networkBuffer payload =
        headerFor payload.length ++ payload :=
      rfl
    rw [parts, isAscii_append]
    exact and_iff_right (isAscii_headerFor payload.length)
  have bytes := length_le_utf8 (networkBuffer payload)
  rw [List.take_eq_self_iff, ← frame, ← length_utf8_eq_iff]
  omega

/-! ## When failures are reported -/

/-- The socket takes the frame, whose characters are single bytes. -/
def SendsWhole (wire : Wire) (payload : WxString) : Prop :=
  (networkBuffer payload).length ≤ takenBeforeError wire.script ∧
    IsAscii payload

/-- There is no error and the socket has not taken everything. -/
def StillSending (wire : Wire) (payload : WxString) : Prop :=
  takenBeforeError wire.script < (networkBuffer payload).length ∧
    NoError wire.script

/-- `Socket::Send` of a frame through a valid socket. -/
theorem socketSend_frame
    (script : List WriteResult)
    (payload : WxString) :
    socketSend true script (networkBuffer payload) =
      sendLoop script (utf8 (networkBuffer payload))
        (networkBuffer payload).length := by
  rw [socketSend, if_neg (by decide), if_neg (networkBuffer_ne_nil payload)]

/-- The three ends of a send through a transport. -/
theorem sendRequestOver_of_transport
    (toolkit : Toolkit)
    (request : Request)
    (wire : Wire)
    {client : Client κ}
    (present : client.transport ≠ none) :
    let run :=
      socketSend wire.validSocket wire.script
        (networkBuffer (toolkit.requestText request))
    (sendRequestOver toolkit request wire client).written = run.written ∧
      (sendRequestOver toolkit request wire client).returned =
        if run.status = .pending then none else some true := by
  cases transport : client.transport with
  | none => exact absurd transport present
  | some handle =>
      cases ended :
          (socketSend wire.validSocket wire.script
            (networkBuffer (toolkit.requestText request))).status <;>
        simp [sendRequestOver, rpcSend, transportSend, transport, ended]

/--
With a transport nothing is ever reported, so there must be no error and a
send that has finished must have written the frame.
-/
theorem failuresReported_of_transport
    (toolkit : Toolkit)
    (request : Request)
    (wire : Wire)
    {client : Client κ}
    (present : client.transport ≠ none) :
    let frame := networkBuffer (toolkit.requestText request)
    let run := socketSend wire.validSocket wire.script frame
    FailuresReported toolkit request wire client ↔
      run.status ≠ .exception ∧
        (run.status = .finished → run.written = utf8 frame) := by
  have sent := sendRequestOver_of_transport toolkit request wire present
  dsimp only at sent ⊢
  constructor
  · intro reported
    constructor
    · intro error
      have returned := (reported.failure (Or.inr error)).1
      rw [sent.2, error] at returned
      cases returned
    · intro finished
      rw [← sent.1]
      apply reported.success
      rw [sent.2, finished]
      rfl
  · rintro ⟨noError, whole⟩
    constructor
    · rintro (missing | error)
      · exact absurd missing present
      · exact absurd error noError
    · intro returned
      rw [sent.2] at returned
      rw [sent.1]
      apply whole
      split at returned
      · cases returned
      · next unfinished =>
          cases ended :
              (socketSend wire.validSocket wire.script
                (networkBuffer (toolkit.requestText request))).status with
          | finished => rfl
          | exception => exact absurd ended noError
          | pending => exact absurd ended unfinished

/--
A valid socket ends without an error, and with the whole frame written, when
it takes an ASCII frame or has not taken all of it yet.
-/
theorem socketSend_whole_iff
    (script : List WriteResult)
    (payload : WxString) :
    let run := socketSend true script (networkBuffer payload)
    (run.status ≠ .exception ∧
        (run.status = .finished →
          run.written = utf8 (networkBuffer payload))) ↔
      SendsWhole ⟨true, script⟩ payload ∨
        StillSending ⟨true, script⟩ payload := by
  have ending :=
    sendLoop_status script (utf8 (networkBuffer payload))
      (networkBuffer payload).length
  have written :=
    sendLoop_finished script (utf8 (networkBuffer payload))
      (networkBuffer payload).length
  simp only [socketSend_frame, SendsWhole, StillSending]
  by_cases enough :
      (networkBuffer payload).length ≤ takenBeforeError script
  · rw [if_pos enough] at ending
    rw [written ending, take_frame_iff, ending]
    simp [enough]
  · rw [if_neg enough] at ending
    by_cases going : NoError script
    · rw [if_pos going] at ending
      simp [ending, going, Nat.not_le.mp enough]
    · rw [if_neg going] at ending
      simp [ending, going, enough]

/--
`SendRequest` reports failures truly exactly when there is no transport, or
the socket is valid and either takes the whole frame, all of it ASCII, before
its first error, or is still sending without one.
-/
theorem failuresReported_iff
    (toolkit : Toolkit)
    (request : Request)
    (wire : Wire)
    (client : Client κ) :
    FailuresReported toolkit request wire client ↔
      client.transport = none ∨
        wire.validSocket = true ∧
          (SendsWhole wire (toolkit.requestText request) ∨
            StillSending wire (toolkit.requestText request)) := by
  by_cases missing : client.transport = none
  · refine ⟨fun _ => Or.inl missing, fun _ => ⟨fun _ => ?_, ?_⟩⟩ <;>
      simp [sendRequestOver, rpcSend, missing, Client.onConnectionError,
        connectionErrors]
  · rw [or_iff_right missing]
    refine
      (failuresReported_of_transport toolkit request wire missing).trans ?_
    rcases wire with ⟨validSocket, script⟩
    cases validSocket with
    | false => simp [socketSend]
    | true =>
        refine
          (socketSend_whole_iff script (toolkit.requestText request)).trans ?_
        exact (and_iff_right rfl).symm

/-- The unformatted text of a `pause` request for the thread 1. -/
def pauseText : WxString :=
  ("\x7b\"seq\":1,\"type\":\"request\",\"command\":\"pause\"," ++
    "\"arguments\":\x7b\"threadId\":1\x7d\x7d").toList

/-- A connection that breaks in the middle of a frame is not reported. -/
theorem sendError_not_reported :
    ¬ FailuresReported
      { plainToolkit with requestText := fun _ => pauseText }
      ⟨1, .pause 1⟩ ⟨true, [.room 10, .sendError]⟩
      ((Client.new Unit).setTransport 0) := by
  intro reported
  have failed :=
    (reported.failure (Or.inr (by decide +kernel))).1
  revert failed
  decide +kernel

end DebuggerDap.DapClient.SendFailure
