import DebuggerDap.Protocol.JsonRpc
import DebuggerDap.Text.Utf8

/-!
# The sending half: from a payload to bytes on the socket

`JsonRPC::Send` puts the header before the payload, `SocketTransport::Send`
passes the text on, and `Socket::Send` encodes it and calls `::send` until its
counter of remaining bytes is zero.  Both the announced length and the counter
are `length()` of a character string.

The socket is a script of what `select` and `::send` report, one entry for
each pass of the loop.
-/

namespace DebuggerDap.Protocol.SocketSend

open DebuggerDap.Text.Strings
open DebuggerDap.Text.Utf8
open DebuggerDap.Protocol.JsonRpc

/-- What the socket does in one pass of the send loop. -/
inductive WriteResult where
  | timeout
  | selectError
  | sendError
  /-- `::send` takes up to this many of the offered bytes. -/
  | room (count : Nat)
  deriving DecidableEq, Repr

inductive SendStatus where
  | finished
  /-- `Socket::Send` has thrown. -/
  | exception
  /-- The script ended while bytes are left to send. -/
  | pending
  deriving DecidableEq, Repr

structure SendRun where
  written : List UInt8
  status : SendStatus
  deriving DecidableEq, Repr

/-- `JsonRPC::Send`: the header announces `payload.length()`. -/
def networkBuffer (payload : WxString) : WxString :=
  contentLengthName ++ [':', ' '] ++ Nat.toDigits 10 payload.length ++
    headerSeparator ++ payload

/-- The loop of `Socket::Send` over the encoded text. -/
def sendLoop : List WriteResult → List UInt8 → Nat → SendRun
  | _, _, 0 => ⟨[], .finished⟩
  | [], _, _ + 1 => ⟨[], .pending⟩
  | .timeout :: script, pdata, bytesLeft + 1 =>
      sendLoop script pdata (bytesLeft + 1)
  | .selectError :: _, _, _ + 1 => ⟨[], .exception⟩
  | .sendError :: _, _, _ + 1 => ⟨[], .exception⟩
  | .room count :: script, pdata, bytesLeft + 1 =>
      let bytesSent := min count (bytesLeft + 1)
      if bytesSent = 0 then ⟨[], .exception⟩
      else
        let rest :=
          sendLoop script (pdata.drop bytesSent)
            (bytesLeft + 1 - bytesSent)
        ⟨pdata.take bytesSent ++ rest.written, rest.status⟩

/-- `Socket::Send`; `bytesLeft` starts at `msg.length()`. -/
def socketSend
    (validSocket : Bool)
    (script : List WriteResult)
    (msg : WxString) : SendRun :=
  if validSocket = false then ⟨[], .exception⟩
  else if msg = [] then ⟨[], .finished⟩
  else sendLoop script (utf8 msg) msg.length

/-- `JsonRPC::Send` through a transport whose socket is open. -/
def send (script : List WriteResult) (payload : WxString) : SendRun :=
  socketSend true script (networkBuffer payload)

/-- The frame the protocol asks for: the length counts bytes. -/
def wireFormat (payload : WxString) : List UInt8 :=
  utf8
      (contentLengthName ++ [':', ' '] ++
        Nat.toDigits 10 (utf8 payload).length ++ headerSeparator) ++
    utf8 payload

/-- A pass that is a timeout or sends at least one byte. -/
def WriteResult.progress : WriteResult → Bool
  | .timeout => true
  | .selectError => false
  | .sendError => false
  | .room count => 0 < count

/-- The number of passes that send something. -/
def rooms (script : List WriteResult) : Nat :=
  script.countP fun
    | .room _ => true
    | _ => false

/-! ## What the loop writes -/

/-- A loop that has finished has written exactly `bytesLeft` bytes. -/
theorem sendLoop_finished
    (script : List WriteResult)
    (pdata : List UInt8)
    (bytesLeft : Nat)
    (finished : (sendLoop script pdata bytesLeft).status = .finished) :
    (sendLoop script pdata bytesLeft).written = pdata.take bytesLeft := by
  induction script, pdata, bytesLeft using sendLoop.induct with
  | case1 script pdata =>
      simp [sendLoop]
  | case2 pdata bytesLeft =>
      cases finished
  | case3 script pdata bytesLeft ih =>
      exact ih finished
  | case4 script pdata bytesLeft =>
      cases finished
  | case5 script pdata bytesLeft =>
      cases finished
  | case6 count script pdata bytesLeft bytesSent nothing =>
      have stopped : min count (bytesLeft + 1) = 0 := nothing
      rw [sendLoop, if_pos stopped] at finished
      cases finished
  | case7 count script pdata bytesLeft bytesSent some_ ih =>
      have sent : ¬ min count (bytesLeft + 1) = 0 := some_
      have atMost : bytesSent ≤ bytesLeft + 1 := Nat.min_le_right _ _
      rw [sendLoop, if_neg sent] at finished ⊢
      dsimp only
      rw [ih finished, ← List.take_add, Nat.add_sub_cancel' atMost]

/-- Enough passes with room for a byte always finish the loop. -/
theorem sendLoop_progress
    (script : List WriteResult)
    (progress : ∀ result ∈ script, result.progress = true)
    (pdata : List UInt8)
    (bytesLeft : Nat)
    (enough : bytesLeft ≤ rooms script) :
    (sendLoop script pdata bytesLeft).status = .finished := by
  induction script generalizing pdata bytesLeft with
  | nil =>
      have done : bytesLeft = 0 := Nat.le_zero.mp enough
      rw [done, sendLoop]
  | cons result script ih =>
      have progressRest : ∀ later ∈ script, later.progress = true :=
        fun later member => progress later (List.mem_cons_of_mem _ member)
      have here : result.progress = true := progress result List.mem_cons_self
      cases bytesLeft with
      | zero => rw [sendLoop]
      | succ bytesLeft =>
          cases result with
          | timeout =>
              rw [sendLoop]
              exact ih progressRest pdata _ (by simpa [rooms] using enough)
          | selectError => cases here
          | sendError => cases here
          | room count =>
              have positive : 0 < count := of_decide_eq_true here
              have sent : ¬ min count (bytesLeft + 1) = 0 := by omega
              rw [sendLoop, if_neg sent]
              apply ih progressRest
              simp only [rooms, List.countP_cons, if_true] at enough ⊢
              omega

/-! ## The header against the encoding -/

theorem networkBuffer_ne_nil (payload : WxString) :
    networkBuffer payload ≠ [] := by
  simp [networkBuffer, contentLengthName]

/-- The part of the frame before the payload, for an announced length. -/
def headerFor (length : Nat) : WxString :=
  contentLengthName ++ [':', ' '] ++ Nat.toDigits 10 length ++
    headerSeparator

theorem isAscii_headerFor (length : Nat) : IsAscii (headerFor length) := by
  simp only [headerFor, isAscii_append]
  exact ⟨⟨⟨by decide, by decide⟩, isAscii_digits length⟩, by decide⟩

theorem length_headerFor_mono
    {fewer more : Nat}
    (smaller : fewer ≤ more) :
    (headerFor fewer).length ≤ (headerFor more).length := by
  have digits :
      (Nat.toDigits 10 fewer).length ≤ (Nat.toDigits 10 more).length := by
    rw [Nat.length_toDigits_le_iff (by decide) Nat.length_toDigits_pos]
    exact lt_of_le_of_lt smaller
      ((Nat.length_toDigits_le_iff (by decide)
        Nat.length_toDigits_pos).mp (le_refl _))
  simp only [headerFor, List.length_append]
  omega

theorem utf8_networkBuffer (payload : WxString) :
    utf8 (networkBuffer payload) =
      utf8 (headerFor payload.length) ++ utf8 payload := by
  rw [← utf8_append]
  rfl

theorem wireFormat_eq (payload : WxString) :
    wireFormat payload =
      utf8 (headerFor (utf8 payload).length) ++ utf8 payload :=
  rfl

/-- The required frame is longer than the text unless the payload is ASCII. -/
theorem length_wireFormat_eq_iff (payload : WxString) :
    (networkBuffer payload).length = (wireFormat payload).length ↔
      IsAscii payload := by
  have bytes := length_le_utf8 payload
  have headers := length_headerFor_mono bytes
  have headerBytes :=
    (length_utf8_eq_iff _).mpr
      (isAscii_headerFor (utf8 payload).length)
  have bufferLength :
      (networkBuffer payload).length =
        (headerFor payload.length).length + payload.length := by
    simp only [networkBuffer, headerFor, List.length_append]
  rw [bufferLength, wireFormat_eq, List.length_append, headerBytes,
    ← length_utf8_eq_iff]
  constructor
  · intro same
    omega
  · intro same
    rw [same]

/--
The bytes on the socket form the required frame exactly for ASCII payloads;
the loop itself always comes to its end.
-/
theorem send_wireFormat_iff
    (payload : WxString)
    (script : List WriteResult)
    (progress : ∀ result ∈ script, result.progress = true)
    (enough : (networkBuffer payload).length ≤ rooms script) :
    (send script payload).status = .finished ∧
      ((send script payload).written = wireFormat payload ↔
        IsAscii payload) := by
  have loop :
      send script payload =
        sendLoop script (utf8 (networkBuffer payload))
          (networkBuffer payload).length := by
    rw [send, socketSend, if_neg (by decide),
      if_neg (networkBuffer_ne_nil payload)]
  have finished :=
    sendLoop_progress script progress (utf8 (networkBuffer payload)) _ enough
  have written := sendLoop_finished _ _ _ finished
  rw [loop]
  refine ⟨finished, ?_⟩
  rw [written]
  constructor
  · intro same
    have lengths := congrArg List.length same
    rw [List.length_take, Nat.min_eq_left (length_le_utf8 _)] at lengths
    exact (length_wireFormat_eq_iff payload).mp lengths
  · intro ascii
    have payloadLength := (length_utf8_eq_iff payload).mpr ascii
    have whole :
        (utf8 (networkBuffer payload)).length =
          (networkBuffer payload).length := by
      rw [length_utf8_eq_iff]
      exact (isAscii_append _ _).mpr
        ⟨isAscii_headerFor payload.length, ascii⟩
    rw [← whole, List.take_length, utf8_networkBuffer, wireFormat_eq,
      payloadLength]

/-- The payload `{}` leaves the socket whole, two bytes at a time. -/
theorem send_wireFormat_emptyObject :
    (send (List.replicate 30 (.room 2)) ['{', '}']).status = .finished ∧
      ((send (List.replicate 30 (.room 2)) ['{', '}']).written =
          wireFormat ['{', '}'] ↔
        IsAscii ['{', '}']) := by
  apply send_wireFormat_iff
  · intro result member
    rw [List.eq_of_mem_replicate member]
    decide
  · decide

/-- The payload of an evaluate request for the expression `é`. -/
def evaluateAccent : WxString :=
  ("\x7b\"seq\":7,\"type\":\"request\",\"command\":\"evaluate\"," ++
    "\"arguments\":\x7b\"expression\":\"é\",\"context\":\"hover\"," ++
    "\"format\":\x7b\"hex\":false\x7d\x7d\x7d").toList

/-- This payload is announced one byte short and loses its last byte. -/
theorem send_evaluateAccent :
    ¬ ∀ (payload : WxString) (script : List WriteResult),
      (∀ result ∈ script, result.progress = true) →
        (networkBuffer payload).length ≤ rooms script →
          (send script payload).written = wireFormat payload := by
  intro claimed
  have same :=
    claimed evaluateAccent (List.replicate 200 (.room 64))
      (by decide +kernel) (by decide +kernel)
  revert same
  decide +kernel

end DebuggerDap.Protocol.SocketSend
