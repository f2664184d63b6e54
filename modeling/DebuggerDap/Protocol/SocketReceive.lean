import DebuggerDap.Protocol.Frames
import DebuggerDap.Protocol.SocketSend

/-!
# The receiving half: from bytes on the socket to payloads

`Socket::Read` turns every `recv` result into a string of its own, the reader
thread posts it when it is not empty, and the client appends it to the buffer
of `JsonRPC`.  The length check of `DoProcessBuffer` then counts characters,
while `Content-Length` counts bytes.

The conversion of a byte string is a parameter.  It is assumed to be UTF-8
decoding on complete byte strings; on a string that was cut inside a
character it may do anything.
-/

namespace DebuggerDap.Protocol.SocketReceive

open DebuggerDap.Text.Strings
open DebuggerDap.Text.Utf8
open DebuggerDap.Library.FrameStream
open DebuggerDap.Protocol.JsonRpc
open DebuggerDap.Protocol.Frames
open DebuggerDap.Protocol.SocketSend

variable {Json : Type*}

/-- `recv` is asked for at most this many bytes. -/
def recvLimit : Nat := 4095

/-- `Socket::Read`: the C string in the buffer ends at the first zero byte. -/
def socketRead
    (decode : List UInt8 → WxString)
    (bytes : List UInt8) : WxString :=
  decode (bytes.takeWhile (· ≠ 0))

/-- What the reader thread posts to the client for one `recv` result. -/
def post
    (decode : List UInt8 → WxString)
    (bytes : List UInt8) : Option WxString :=
  let content := socketRead decode bytes
  if content = [] then none else some content

/-- A payload handed to the callback, with the tree parsed from it. -/
structure Delivered (parse : WxString → Option Json) where
  payload : WxString
  json : Json
  parsed : parse payload = some json

def parseDelivered
    (parse : WxString → Option Json)
    (payload : WxString) : Option (Delivered parse) :=
  match parsed : parse payload with
  | none => none
  | some json => some ⟨payload, json, parsed⟩

/-- The payloads delivered for a list of `recv` results. -/
def receivePayloads
    (parse : WxString → Option Json)
    (decode : List UInt8 → WxString)
    (chunks : List (List UInt8)) : List WxString :=
  (receive (parseDelivered parse) (chunks.filterMap (post decode))).1.map
    Delivered.payload

theorem parseDelivered_eq_some
    {parse : WxString → Option Json}
    {payload : WxString}
    (accepted : (parse payload).isSome = true) :
    ∃ delivered : Delivered parse,
      parseDelivered parse payload = some delivered ∧
        delivered.payload = payload := by
  rw [parseDelivered]
  split
  · next rejected => simp [rejected] at accepted
  · next json parsed => exact ⟨⟨payload, json, parsed⟩, rfl, rfl⟩

/-! ## Chunks that are whole characters -/

section Decoding

variable {decode : List UInt8 → WxString}
variable (decodes : ∀ str, '\x00' ∉ str → decode (utf8 str) = str)

include decodes

theorem post_utf8
    {piece : WxString}
    (nonempty : piece ≠ [])
    (noNul : '\x00' ∉ piece) :
    post decode (utf8 piece) = some piece := by
  have noZero : ∀ byte ∈ utf8 piece, decide (byte ≠ 0) = true := by
    intro byte member
    rw [decide_eq_true_eq]
    rintro rfl
    exact zero_not_mem_utf8 noNul member
  have read : socketRead decode (utf8 piece) = piece := by
    rw [socketRead, List.takeWhile_eq_self_iff.mpr noZero,
      decodes piece noNul]
  rw [post, read, if_neg nonempty]

/-- Whole characters reach the client as they were sent. -/
theorem filterMap_post_utf8
    (pieces : List WxString)
    (nonempty : ∀ piece ∈ pieces, piece ≠ [])
    (noNul : ∀ piece ∈ pieces, '\x00' ∉ piece) :
    (pieces.map utf8).filterMap (post decode) = pieces := by
  induction pieces with
  | nil => rfl
  | cons piece pieces ih =>
      rw [List.map_cons,
        List.filterMap_cons_some
          (post_utf8 decodes (nonempty _ List.mem_cons_self)
            (noNul _ List.mem_cons_self)),
        ih (fun later member => nonempty later (List.mem_cons_of_mem _ member))
          (fun later member => noNul later (List.mem_cons_of_mem _ member))]

end Decoding

/-! ## Frames that count bytes -/

/-- The text of a frame whose header counts the bytes of its payload. -/
def frameText (payload : WxString) : WxString :=
  headerFor (utf8 payload).length ++ payload

theorem utf8_frameText (payload : WxString) :
    utf8 (frameText payload) = wireFormat payload := by
  rw [frameText, utf8_append]
  rfl

theorem utf8_flatMap_frameText (payloads : List WxString) :
    utf8 (payloads.flatMap frameText) = payloads.flatMap wireFormat := by
  induction payloads with
  | nil => rfl
  | cons payload payloads ih =>
      rw [List.flatMap_cons, List.flatMap_cons, utf8_append, ih,
        utf8_frameText]

theorem nul_not_mem_headerFor (length : Nat) :
    '\x00' ∉ headerFor length := by
  simp only [headerFor, List.mem_append, not_or]
  refine ⟨⟨⟨by decide, by decide⟩, ?_⟩, by decide⟩
  intro member
  have digit : ('\x00').isDigit = true :=
    Nat.isDigit_of_mem_toDigits (by decide) (by decide) member
  cases digit

theorem nul_not_mem_frames
    {payloads : List WxString}
    (noNul : ∀ payload ∈ payloads, '\x00' ∉ payload) :
    '\x00' ∉ payloads.flatMap frameText := by
  rw [List.mem_flatMap]
  rintro ⟨payload, among, member⟩
  rcases List.mem_append.mp member with inHeader | inPayload
  · exact nul_not_mem_headerFor _ inHeader
  · exact noNul payload among inPayload

theorem isDigit_decimal (length : Nat) :
    ∀ ch ∈ Nat.toDigits 10 length, ch.isDigit = true :=
  fun _ member => Nat.isDigit_of_mem_toDigits (by decide) (by decide) member

/-- The `Content-Length` line written by an adapter. -/
def contentLengthLine (length : Nat) : LengthLine where
  beforeName := []
  afterName := []
  beforeValue := [' ']
  afterValue := []
  digits := Nat.toDigits 10 length
  blankBeforeName := isBlank_nil
  blankAfterName := isBlank_nil
  blankBeforeValue := isBlank_space
  blankAfterValue := isBlank_nil
  decimal := isDigit_decimal length
  nonempty := Nat.toDigits_ne_nil

/-- An accepted payload counted in characters makes a well-formed frame. -/
theorem exists_frame
    {parse : WxString → Option Json}
    (rejectsEmpty : parse [] = none)
    {payload : WxString}
    (accepted : (parse payload).isSome = true) :
    ∃ frame : Frame (parseDelivered parse),
      frame.text = headerFor payload.length ++ payload ∧
        frame.json.payload = payload := by
  rcases parseDelivered_eq_some accepted with ⟨delivered, parsed, same⟩
  have positive : 0 < payload.length := by
    apply List.length_pos_of_ne_nil
    rintro rfl
    simp [rejectsEmpty] at accepted
  refine
    ⟨{ before := []
       lengthLine := contentLengthLine payload.length
       after := []
       payload := payload
       json := delivered
       parsed := parsed
       counted := Nat.ofDigitChars_ten_toDigits
       positive := positive }, ?_, same⟩
  simp [Frame.text, Frame.header, Frame.lines, joinLines, LengthLine.text,
    contentLengthLine, headerFor]

/-- ASCII payloads make well-formed frames: their header counts characters. -/
theorem exists_frames_of_ascii
    {parse : WxString → Option Json}
    (rejectsEmpty : parse [] = none)
    (payloads : List WxString)
    (accepted : ∀ payload ∈ payloads, (parse payload).isSome = true)
    (ascii : ∀ payload ∈ payloads, IsAscii payload) :
    ∃ frames : List (Frame (parseDelivered parse)),
      frames.flatMap Frame.text = payloads.flatMap frameText ∧
        frames.map (fun frame => frame.json.payload) = payloads := by
  induction payloads with
  | nil => exact ⟨[], rfl, rfl⟩
  | cons payload payloads ih =>
      rcases exists_frame rejectsEmpty
          (accepted payload List.mem_cons_self) with
        ⟨frame, text, same⟩
      rcases ih
          (fun later member => accepted later (List.mem_cons_of_mem _ member))
          (fun later member => ascii later (List.mem_cons_of_mem _ member)) with
        ⟨frames, texts, sames⟩
      have counted :=
        (length_utf8_eq_iff payload).mpr (ascii payload List.mem_cons_self)
      refine ⟨frame :: frames, ?_, ?_⟩
      · rw [List.flatMap_cons, List.flatMap_cons, texts, text, frameText,
          counted]
      · rw [List.map_cons, same, sames]

/-- The payloads delivered for a stream of frames and an unfinished rest. -/
theorem receive_payloads
    {parse : WxString → Option Json}
    (frames : List (Frame (parseDelivered parse)))
    {tail : WxString}
    (unfinished :
      Deframer.Unfinished
        (fun frame : Frame (parseDelivered parse) => frame.text) tail)
    (pieces : List WxString)
    (whole : pieces.flatten = frames.flatMap Frame.text ++ tail) :
    (receive (parseDelivered parse) pieces).1.map Delivered.payload =
      frames.map fun frame => frame.json.payload := by
  rw [receive_eq_deframer,
    Frame.format.receive_stream unfinished pieces frames [] []
      (doProcessBuffer_nil (parseDelivered parse)) whole]
  simp

/-! ## When the receive path delivers the payloads sent -/

/-- A cutting of the stream into results `recv` may return. -/
structure RecvCut
    (payloads : List WxString)
    (chunks : List (List UInt8)) : Prop where
  sizes : ∀ chunk ∈ chunks, 1 ≤ chunk.length ∧ chunk.length ≤ recvLimit
  whole : chunks.flatten = payloads.flatMap wireFormat

/-- The pieces of one character each. -/
def singles (str : WxString) : List WxString :=
  str.map fun ch => [ch]

@[simp]
theorem flatten_singles (str : WxString) : (singles str).flatten = str := by
  induction str with
  | nil => rfl
  | cons ch str ih =>
      simpa [singles] using ih

theorem singles_ne_nil (str : WxString) :
    ∀ piece ∈ singles str, piece ≠ [] := by
  intro piece member
  rcases List.mem_map.mp member with ⟨ch, -, rfl⟩
  exact List.cons_ne_nil ch []

theorem singles_append (left right : WxString) :
    singles (left ++ right) = singles left ++ singles right :=
  List.map_append

/-- Cutting after every character is a cutting `recv` may return. -/
theorem recvCut_singles (payloads : List WxString) :
    RecvCut payloads ((singles (payloads.flatMap frameText)).map utf8) where
  sizes := by
    intro chunk member
    simp only [singles, List.mem_map] at member
    rcases member with ⟨piece, ⟨ch, -, rfl⟩, rfl⟩
    have positive := Char.utf8Size_pos ch
    have atMost := Char.utf8Size_le_four ch
    simp only [utf8_cons, utf8_nil, List.append_nil,
      String.length_utf8EncodeChar, recvLimit]
    omega
  whole := by
    rw [flatten_map_utf8, flatten_singles, utf8_flatMap_frameText]

/-- The first payload outside ASCII, with the ASCII payloads before it. -/
theorem exists_first_not_ascii
    {payloads : List WxString}
    (someNot : ¬ ∀ payload ∈ payloads, IsAscii payload) :
    ∃ sent payload later,
      payloads = sent ++ payload :: later ∧
        (∀ item ∈ sent, IsAscii item) ∧ ¬ IsAscii payload := by
  induction payloads with
  | nil => exact absurd (by simp) someNot
  | cons first rest ih =>
      by_cases ascii : IsAscii first
      · have restNot : ¬ ∀ payload ∈ rest, IsAscii payload := by
          intro all
          exact someNot (List.forall_mem_cons.mpr ⟨ascii, all⟩)
        rcases ih restNot with
          ⟨sent, payload, later, rfl, before, notAscii⟩
        exact ⟨first :: sent, payload, later, rfl,
          List.forall_mem_cons.mpr ⟨ascii, before⟩, notAscii⟩
      · exact ⟨[], first, rest, rfl, by simp, ascii⟩

/--
Behind well-formed frames, a header with enough text behind it delivers as
much of that text as it announces.
-/
theorem receive_completed
    {parse : WxString → Option Json}
    (rejectsEmpty : parse [] = none)
    (frames : List (Frame (parseDelivered parse)))
    {announced : Nat}
    {rest : WxString}
    (enough : announced ≤ rest.length)
    (accepted : (parse (rest.take announced)).isSome = true) :
    (frames.map fun frame => frame.json.payload) ++ [rest.take announced] <+:
      (receive (parseDelivered parse)
        (singles
          (frames.flatMap Frame.text ++
            (headerFor announced ++ rest)))).1.map Delivered.payload := by
  rcases exists_frame rejectsEmpty accepted with ⟨frame, text, same⟩
  rw [List.length_take, Nat.min_eq_left enough] at text
  have split :
      frames.flatMap Frame.text ++ (headerFor announced ++ rest) =
        (frames ++ [frame]).flatMap Frame.text ++ rest.drop announced := by
    rw [List.flatMap_append, List.flatMap_singleton, text,
      List.append_assoc, List.append_assoc, List.take_append_drop]
  have early :=
    receive_payloads (frames ++ [frame]) (Or.inl rfl)
      (singles ((frames ++ [frame]).flatMap Frame.text)) (by simp)
  rw [List.map_append, List.map_singleton, same,
    receive_eq_deframer] at early
  rw [split, singles_append, receive_eq_deframer, Deframer.receive_append,
    ← early]
  exact (Deframer.receive_log_prefix _ _ _).map Delivered.payload

/-- A header with too little text behind it delivers nothing. -/
theorem receive_unfinished
    {parse : WxString → Option Json}
    (rejectsEmpty : parse [] = none)
    (frames : List (Frame (parseDelivered parse)))
    {announced : Nat}
    {rest : WxString}
    (short : rest.length < announced)
    (accepted :
      (parse
        (rest ++ List.replicate (announced - rest.length) ' ')).isSome =
          true) :
    (receive (parseDelivered parse)
      (singles
        (frames.flatMap Frame.text ++
          (headerFor announced ++ rest)))).1.map Delivered.payload =
      frames.map fun frame => frame.json.payload := by
  let missing : WxString := List.replicate (announced - rest.length) ' '
  have total : (rest ++ missing).length = announced := by
    rw [List.length_append, List.length_replicate]
    omega
  rcases exists_frame rejectsEmpty accepted with ⟨frame, text, -⟩
  rw [total, ← List.append_assoc] at text
  have unfinished :
      Deframer.Unfinished
        (fun frame : Frame (parseDelivered parse) => frame.text)
        (headerFor announced ++ rest) := by
    refine Or.inr ⟨frame, ⟨missing, text.symm⟩, ?_⟩
    intro equal
    have lengths := congrArg List.length (equal.trans text)
    simp only [List.length_append, List.length_replicate] at lengths
    omega
  exact receive_payloads frames unfinished _ (flatten_singles _)

section Delivery

variable {parse : WxString → Option Json}
variable {decode : List UInt8 → WxString}
variable (decodes : ∀ str, '\x00' ∉ str → decode (utf8 str) = str)
variable (rejectsEmpty : parse [] = none)
variable (trailing :
  ∀ payload rest, (parse payload).isSome = true →
    (parse (payload ++ rest)).isSome = true)

include decodes

/-- Delivery of a stream that is cut between characters only. -/
theorem receivePayloads_utf8
    {payloads : List WxString}
    (noNul : ∀ payload ∈ payloads, '\x00' ∉ payload)
    {pieces : List WxString}
    (nonempty : ∀ piece ∈ pieces, piece ≠ [])
    (whole : pieces.flatten = payloads.flatMap frameText) :
    receivePayloads parse decode (pieces.map utf8) =
      (receive (parseDelivered parse) pieces).1.map Delivered.payload := by
  have clean : ∀ piece ∈ pieces, '\x00' ∉ piece := by
    intro piece among member
    apply nul_not_mem_frames noNul
    rw [← whole]
    exact List.mem_flatten.mpr ⟨piece, among, member⟩
  rw [receivePayloads, filterMap_post_utf8 decodes pieces nonempty clean]

include rejectsEmpty

/-- ASCII payloads are delivered exactly, however the bytes are cut. -/
theorem receivePayloads_of_ascii
    {payloads : List WxString}
    (accepted : ∀ payload ∈ payloads, (parse payload).isSome = true)
    (noNul : ∀ payload ∈ payloads, '\x00' ∉ payload)
    (ascii : ∀ payload ∈ payloads, IsAscii payload)
    {chunks : List (List UInt8)}
    (cut : RecvCut payloads chunks) :
    receivePayloads parse decode chunks = payloads := by
  have asciiText : IsAscii (payloads.flatMap frameText) := by
    intro ch member
    rcases List.mem_flatMap.mp member with ⟨payload, among, inFrame⟩
    rcases List.mem_append.mp inFrame with inHeader | inPayload
    · exact isAscii_headerFor _ ch inHeader
    · exact ascii payload among ch inPayload
  have bytes := cut.whole
  rw [← utf8_flatMap_frameText] at bytes
  rcases utf8_eq_flatten_of_ascii asciiText chunks bytes with
    ⟨pieces, whole, rfl⟩
  have nonempty : ∀ piece ∈ pieces, piece ≠ [] := by
    rintro piece among rfl
    have size := (cut.sizes (utf8 []) (List.mem_map_of_mem among)).1
    simp at size
  rcases exists_frames_of_ascii rejectsEmpty payloads accepted ascii with
    ⟨frames, texts, sames⟩
  rw [receivePayloads_utf8 decodes noNul nonempty whole,
    receive_payloads frames (Or.inl rfl) pieces
      (by rw [whole, texts, List.append_nil]),
    sames]

include trailing

/--
Behind ASCII payloads, a payload with a character outside ASCII is announced
longer than it is: cut after every character, it is never delivered.
-/
theorem receivePayloads_ne
    {sent later : List WxString}
    {payload : WxString}
    (accepted :
      ∀ item ∈ sent ++ payload :: later, (parse item).isSome = true)
    (noNul : ∀ item ∈ sent ++ payload :: later, '\x00' ∉ item)
    (ascii : ∀ item ∈ sent, IsAscii item)
    (notAscii : ¬ IsAscii payload) :
    receivePayloads parse decode
        ((singles ((sent ++ payload :: later).flatMap frameText)).map utf8) ≠
      sent ++ payload :: later := by
  have longer : payload.length < (utf8 payload).length := by
    have differs := mt (length_utf8_eq_iff payload).mp notAscii
    have bound := length_le_utf8 payload
    omega
  have payloadAccepted : (parse payload).isSome = true :=
    accepted payload (by simp)
  rcases exists_frames_of_ascii rejectsEmpty sent
      (fun item member => accepted item (List.mem_append_left _ member))
      ascii with
    ⟨frames, texts, sames⟩
  rw [receivePayloads_utf8 decodes noNul (singles_ne_nil _)
    (flatten_singles _)]
  intro delivered
  -- The text that follows the header of the payload.
  let rest := payload ++ later.flatMap frameText
  have stream :
      (sent ++ payload :: later).flatMap frameText =
        frames.flatMap Frame.text ++
          (headerFor (utf8 payload).length ++ rest) := by
    rw [List.flatMap_append, List.flatMap_cons, texts, frameText,
      List.append_assoc]
  rw [stream] at delivered
  have restAccepted (extra : WxString) :
      (parse (payload ++ extra)).isSome = true :=
    trailing payload extra payloadAccepted
  by_cases enough : (utf8 payload).length ≤ rest.length
  · -- The payload is completed with the text of later frames.
    have wrong :
        rest.take (utf8 payload).length =
          payload ++ (later.flatMap frameText).take
            ((utf8 payload).length - payload.length) := by
      rw [List.take_append, List.take_of_length_le (by omega)]
    have wrongAccepted :
        (parse (rest.take (utf8 payload).length)).isSome = true := by
      rw [wrong]
      exact restAccepted _
    have kept := receive_completed rejectsEmpty frames enough wrongAccepted
    rw [sames, delivered] at kept
    rcases (List.prefix_append_right_inj sent).mp kept with ⟨_, equal⟩
    have lengths := congrArg List.length (List.cons.inj equal).1
    rw [List.length_take, Nat.min_eq_left enough] at lengths
    omega
  · -- The stream ends before the announced length is reached.
    have longAccepted :
        (parse
          (rest ++
            List.replicate ((utf8 payload).length - rest.length)
              ' ')).isSome = true := by
      rw [List.append_assoc]
      exact restAccepted _
    rw [receive_unfinished rejectsEmpty frames (Nat.lt_of_not_le enough)
      longAccepted, sames] at delivered
    have lengths := congrArg List.length delivered
    simp at lengths

end Delivery

/--
The payloads delivered are the payloads sent, for every way the bytes may be
cut, exactly when every payload is ASCII text.
-/
theorem receivePayloads_exact_iff
    (parse : WxString → Option Json)
    (decode : List UInt8 → WxString)
    (decodes : ∀ str, '\x00' ∉ str → decode (utf8 str) = str)
    (rejectsEmpty : parse [] = none)
    (trailing :
      ∀ payload rest, (parse payload).isSome = true →
        (parse (payload ++ rest)).isSome = true)
    (payloads : List WxString)
    (accepted : ∀ payload ∈ payloads, (parse payload).isSome = true)
    (noNul : ∀ payload ∈ payloads, '\x00' ∉ payload) :
    (∀ chunks, RecvCut payloads chunks →
        receivePayloads parse decode chunks = payloads) ↔
      ∀ payload ∈ payloads, IsAscii payload := by
  constructor
  · intro exact_
    by_contra someNot
    rcases exists_first_not_ascii someNot with
      ⟨sent, payload, later, rfl, ascii, notAscii⟩
    exact receivePayloads_ne decodes rejectsEmpty trailing accepted noNul
      ascii notAscii (exact_ _ (recvCut_singles _))
  · intro ascii chunks cut
    exact receivePayloads_of_ascii decodes rejectsEmpty accepted noNul
      ascii cut

/-- UTF-8 decoding; bytes that are not UTF-8 give the empty string. -/
def decodeUtf8 (bytes : List UInt8) : WxString :=
  match bytes.toByteArray.utf8Decode? with
  | some chars => chars.toList
  | none => []

theorem decodeUtf8_utf8 (str : WxString) : decodeUtf8 (utf8 str) = str := by
  have encoded : (utf8 str).toByteArray = str.utf8Encode := rfl
  rw [decodeUtf8, encoded, List.utf8Decode?_utf8Encode]

/-- A string literal without escapes at the head of the text. -/
def parseQuoted : WxString → Option JsonTree.Json
  | '"' :: rest =>
      if '"' ∈ rest then some (.string (rest.takeWhile (· ≠ '"')))
      else none
  | _ => none

theorem parseQuoted_append
    (payload rest : WxString)
    (accepted : (parseQuoted payload).isSome = true) :
    (parseQuoted (payload ++ rest)).isSome = true := by
  unfold parseQuoted at accepted
  split at accepted
  · next body =>
      split at accepted
      · next closed =>
          rw [List.cons_append, parseQuoted,
            if_pos (List.mem_append_left rest closed)]
          rfl
      · cases accepted
  · cases accepted

/-- The literal `"a"` satisfies every assumption of the equivalence. -/
theorem receivePayloads_exact_iff_quoted :
    (∀ chunks, RecvCut [['"', 'a', '"']] chunks →
        receivePayloads parseQuoted decodeUtf8 chunks =
          [['"', 'a', '"']]) ↔
      ∀ payload ∈ [['"', 'a', '"']], IsAscii payload := by
  exact
    receivePayloads_exact_iff parseQuoted decodeUtf8
      (fun str _ => decodeUtf8_utf8 str) rfl parseQuoted_append
      [['"', 'a', '"']] (by decide) (by decide)

/-- The literal `"é"`, received whole in one piece, is never delivered. -/
theorem receivePayloads_lost_accent :
    ¬ ∀ (parse : WxString → Option JsonTree.Json)
        (decode : List UInt8 → WxString),
      (∀ str, '\x00' ∉ str → decode (utf8 str) = str) →
        parse [] = none →
          (∀ payload rest, (parse payload).isSome = true →
            (parse (payload ++ rest)).isSome = true) →
            ∀ payloads : List WxString,
              (∀ payload ∈ payloads, (parse payload).isSome = true) →
                (∀ payload ∈ payloads, '\x00' ∉ payload) →
                  ∀ chunks, RecvCut payloads chunks →
                    receivePayloads parse decode chunks = payloads := by
  intro claimed
  have delivered :=
    claimed parseQuoted decodeUtf8 (fun str _ => decodeUtf8_utf8 str) rfl
      parseQuoted_append [['"', 'é', '"']] (by decide) (by decide)
      ([frameText ['"', 'é', '"']].map utf8)
      { sizes := by decide +kernel
        whole := by decide +kernel }
  rw [receivePayloads,
    filterMap_post_utf8 (fun str _ => decodeUtf8_utf8 str)
      [frameText ['"', 'é', '"']] (by decide) (by decide)] at delivered
  revert delivered
  decide +kernel

end DebuggerDap.Protocol.SocketReceive
