import DebuggerDap.Protocol.JsonPrinting
import DebuggerDap.Protocol.SocketReceive

/-!
# From a tree on one side to the same tree on the other

One side prints trees and sends them, a message at a time and as many bytes at
a time as its socket takes.  The other side receives the bytes in chunks of
its own, cuts the messages off and parses them.  For trees of ASCII texts the
trees that are delivered are at every moment those whose messages have
arrived.
-/

namespace DebuggerDap.Protocol.JsonWire

open DebuggerDap.Text.Strings
open DebuggerDap.Text.Utf8
open DebuggerDap.Library.Bytes
open DebuggerDap.Library.FrameStream
open DebuggerDap.Library.MachineInt
open DebuggerDap.Protocol.JsonTree
open DebuggerDap.Protocol.JsonText
open DebuggerDap.Protocol.JsonParser
open DebuggerDap.Protocol.JsonReading
open DebuggerDap.Protocol.JsonPrinting
open DebuggerDap.Protocol.JsonRpc
open DebuggerDap.Protocol.Frames
open DebuggerDap.Protocol.SocketSend
open DebuggerDap.Protocol.SocketReceive
open DebuggerDap.Protocol.LengthArithmetic (intRange)

/-- An ASCII text that is a C string. -/
def AsciiString (str : WxString) : Prop :=
  '\x00' ∉ str ∧ IsAscii str

/-- A tree to be sent, and what the socket does meanwhile. -/
structure Message where
  json : Json
  script : List WriteResult

section Wire

variable (int : SignedRange) (printDouble : Rat → WxString)

/-- `msg.ToString()`. -/
def payload (json : Json) : WxString :=
  toString_ int printDouble false (some json)

/-- The bytes a message leaves on the socket. -/
def written (message : Message) : List UInt8 :=
  (send message.script (payload int printDouble message.json)).written

/--
The message is one of ASCII texts and `int` numbers, and the socket goes on
taking bytes until it is sent.
-/
structure Sendable (message : Message) : Prop where
  printable : Printable int AsciiString message.json
  progress : ∀ result ∈ message.script, result.progress = true
  enough :
    (networkBuffer (payload int printDouble message.json)).length ≤
      rooms message.script

variable {int} {printDouble}

theorem isAscii_payload
    {json : Json}
    (printable : Printable int AsciiString json) :
    IsAscii (payload int printDouble json) :=
  isAscii_printValue (fun _ ascii => ascii.2) json 0 printable

theorem isAscii_networkBuffer
    {text : WxString}
    (ascii : IsAscii text) : IsAscii (networkBuffer text) :=
  (isAscii_append _ _).mpr ⟨isAscii_headerFor text.length, ascii⟩

/-- The loop of the socket sends the whole message. -/
theorem written_eq
    {message : Message}
    (sendable : Sendable int printDouble message) :
    written int printDouble message =
      utf8 (networkBuffer (payload int printDouble message.json)) := by
  let text := networkBuffer (payload int printDouble message.json)
  have ascii : IsAscii text :=
    isAscii_networkBuffer (isAscii_payload sendable.printable)
  have loop :
      send message.script (payload int printDouble message.json) =
        sendLoop message.script (utf8 text) text.length := by
    rw [send, socketSend, if_neg (by decide), if_neg (networkBuffer_ne_nil _)]
  have finished :=
    sendLoop_progress message.script sendable.progress (utf8 text) text.length
      sendable.enough
  rw [written, loop, sendLoop_finished _ _ _ finished,
    ← (length_utf8_eq_iff text).mpr ascii, List.take_length]

/-! ## Frames of trees -/

section Receiving

variable {platform : Platform}

theorem parse_nil (locale : Utf8Locale platform) :
    parse platform [] = none := by
  rw [parse, parseText, locale.encodes [] List.not_mem_nil]
  rfl

/-- A printed tree makes a frame, which the parser reads back to the tree. -/
theorem exists_tree_frame
    (locale : Utf8Locale platform)
    (narrow : int.half ≤ 2 ^ 53)
    {json : Json}
    (printable : Printable int AsciiString json) :
    ∃ frame : Frame (parse platform),
      frame.text = networkBuffer (payload int printDouble json) ∧
        frame.json = json := by
  have parsed : parse platform (payload int printDouble json) = some json :=
    parse_toString locale narrow (fun _ ascii => ascii.1) printable
  have positive : 0 < (payload int printDouble json).length := by
    apply List.length_pos_of_ne_nil
    intro empty
    rw [empty, parse_nil locale] at parsed
    cases parsed
  refine
    ⟨{ before := []
       lengthLine := contentLengthLine (payload int printDouble json).length
       after := []
       payload := payload int printDouble json
       json := json
       parsed := parsed
       counted := Nat.ofDigitChars_ten_toDigits
       positive := positive }, ?_, rfl⟩
  simp [Frame.text, Frame.header, Frame.lines, joinLines, LengthLine.text,
    contentLengthLine, networkBuffer]

theorem nul_not_mem_networkBuffer
    {text : WxString}
    (noNul : '\x00' ∉ text) : '\x00' ∉ networkBuffer text := by
  intro member
  rcases List.mem_append.mp member with inHeader | inText
  · exact nul_not_mem_headerFor text.length inHeader
  · exact noNul inText

theorem asciiString_networkBuffer
    (doubles : Doubles)
    (narrow : int.half ≤ 2 ^ 53)
    {json : Json}
    (printable : Printable int AsciiString json) :
    AsciiString (networkBuffer (payload int printDouble json)) :=
  ⟨nul_not_mem_networkBuffer
      (nul_not_mem_toString doubles narrow (fun _ ascii => ascii.1) printable),
    isAscii_networkBuffer (isAscii_payload printable)⟩

theorem exists_tree_frames
    (locale : Utf8Locale platform)
    (narrow : int.half ≤ 2 ^ 53)
    {messages : List Message}
    (sendable : ∀ message ∈ messages, Sendable int printDouble message) :
    ∃ frames : List (Frame (parse platform)),
      frames.map Frame.json = messages.map Message.json ∧
        utf8 (frames.flatMap Frame.text) =
          messages.flatMap (written int printDouble) ∧
        AsciiString (frames.flatMap Frame.text) := by
  induction messages with
  | nil => exact ⟨[], rfl, rfl, List.not_mem_nil, isAscii_nil⟩
  | cons message messages inductionHypothesis =>
      rcases List.forall_mem_cons.mp sendable with ⟨first, others⟩
      rcases @exists_tree_frame int printDouble _ locale narrow _
          first.printable with
        ⟨frame, text, json⟩
      rcases inductionHypothesis others with
        ⟨frames, jsons, texts, noNul, ascii⟩
      rcases @asciiString_networkBuffer int printDouble
          platform.doubles narrow _ first.printable with
        ⟨firstNoNul, firstAscii⟩
      refine ⟨frame :: frames, ?_, ?_, ?_⟩
      · rw [List.map_cons, List.map_cons, json, jsons]
      · rw [List.flatMap_cons, List.flatMap_cons, utf8_append, texts, text,
          written_eq first]
      · rw [List.flatMap_cons, text]
        refine ⟨fun member => ?_, (isAscii_append _ _).mpr ⟨firstAscii, ascii⟩⟩
        exact (List.mem_append.mp member).elim firstNoNul noNul

theorem utf8_take_of_ascii
    {text : WxString}
    (ascii : IsAscii text)
    (count : Nat) :
    utf8 (text.take count) = (utf8 text).take count := by
  have part : IsAscii (text.take count) :=
    fun ch member => ascii ch (List.mem_of_mem_take member)
  rw [utf8_of_ascii part, utf8_of_ascii ascii, List.map_take]

/-- What has arrived of a message that is still on its way. -/
theorem exists_tail
    (locale : Utf8Locale platform)
    (narrow : int.half ≤ 2 ^ 53)
    {part : List UInt8}
    (unfinished :
      part = [] ∨
        ∃ next, Sendable int printDouble next ∧
          part <+: written int printDouble next ∧
          part ≠ written int printDouble next) :
    ∃ tail,
      utf8 tail = part ∧ AsciiString tail ∧
        Deframer.Unfinished
          (fun frame : Frame (parse platform) => frame.text) tail := by
  rcases unfinished with rfl | ⟨next, sendable, isPrefix, proper⟩
  · exact ⟨[], rfl, ⟨List.not_mem_nil, isAscii_nil⟩, .inl rfl⟩
  · rcases @exists_tree_frame int printDouble _ locale narrow _
        sendable.printable with
      ⟨frame, text, -⟩
    rcases @asciiString_networkBuffer int printDouble
        platform.doubles narrow _ sendable.printable with
      ⟨noNul, ascii⟩
    rw [written_eq sendable, ← text] at isPrefix proper
    rw [← text] at noNul ascii
    have cut : utf8 (frame.text.take part.length) = part := by
      rw [utf8_take_of_ascii ascii]
      exact (List.prefix_iff_eq_take.mp isPrefix).symm
    refine ⟨frame.text.take part.length, cut,
      ⟨fun member => noNul (List.mem_of_mem_take member),
        fun ch member => ascii ch (List.mem_of_mem_take member)⟩,
      .inr ⟨frame, List.take_prefix _ _, fun same => proper ?_⟩⟩
    rw [← cut, same]

/--
However the bytes are cut on their way, the trees delivered at any moment are
those whose messages have arrived, in the order in which they were sent.
-/
theorem delivered_of_arrived
    (locale : Utf8Locale platform)
    (narrow : int.half ≤ 2 ^ 53)
    {decode : List UInt8 → WxString}
    (decodes : ∀ str, '\x00' ∉ str → decode (utf8 str) = str)
    {arrived : List Message}
    (sendable : ∀ message ∈ arrived, Sendable int printDouble message)
    {part : List UInt8}
    (unfinished :
      part = [] ∨
        ∃ next, Sendable int printDouble next ∧
          part <+: written int printDouble next ∧
          part ≠ written int printDouble next)
    {chunks : List (List UInt8)}
    (nonempty : ∀ chunk ∈ chunks, chunk ≠ [])
    (whole :
      chunks.flatten = arrived.flatMap (written int printDouble) ++ part) :
    (receive (parse platform) (chunks.filterMap (post decode))).1 =
      arrived.map Message.json := by
  rcases exists_tree_frames locale narrow sendable with
    ⟨frames, jsons, texts, noNul, ascii⟩
  rcases exists_tail locale narrow unfinished with
    ⟨tail, rfl, ⟨tailNoNul, tailAscii⟩, unfinishedTail⟩
  rw [← texts, ← utf8_append] at whole
  rcases utf8_eq_flatten_of_ascii
      ((isAscii_append _ _).mpr ⟨ascii, tailAscii⟩) chunks whole with
    ⟨pieces, joined, rfl⟩
  have inhabited : ∀ piece ∈ pieces, piece ≠ [] := by
    rintro piece among rfl
    exact nonempty (utf8 []) (List.mem_map_of_mem among) rfl
  have clean : ∀ piece ∈ pieces, '\x00' ∉ piece := by
    intro piece among member
    have inText : '\x00' ∈ frames.flatMap Frame.text ++ tail :=
      joined ▸ List.mem_flatten.mpr ⟨piece, among, member⟩
    exact (List.mem_append.mp inText).elim noNul tailNoNul
  rw [filterMap_post_utf8 decodes pieces inhabited clean, receive_eq_deframer,
    Frame.format.receive_stream unfinishedTail pieces frames [] []
      (doProcessBuffer_nil (parse platform)) joined]
  exact jsons

end Receiving

end Wire

/-- A message that leaves its socket three bytes at a time. -/
def sequenceMessage : Message where
  json := .object [(['s', 'e', 'q'], .number 1)]
  script := List.replicate 30 (.room 3)

theorem sendable_sequenceMessage :
    Sendable intRange (fun _ => []) sequenceMessage where
  printable :=
    ⟨⟨by decide, by decide⟩, ⟨1, rfl, by decide⟩, trivial⟩
  progress result member := by
    rw [List.eq_of_mem_replicate member]
    rfl
  enough := by decide +kernel

/-- The message arrives a byte at a time, and the first byte of another one. -/
theorem delivered_of_arrived_sequence :
    (receive (parse utf8Platform)
        (((written intRange (fun _ => []) sequenceMessage ++ [byte 'C']).map
          fun code => [code]).filterMap (post decodeUtf8))).1 =
      [.object [(['s', 'e', 'q'], .number 1)]] := by
  have part :
      [byte 'C'] <+: written intRange (fun _ => []) sequenceMessage ∧
        [byte 'C'] ≠ written intRange (fun _ => []) sequenceMessage := by
    decide +kernel
  refine @delivered_of_arrived intRange _ _ utf8Locale_utf8Platform
    (by decide) _ (fun str _ => decodeUtf8_utf8 str) [sequenceMessage]
    (by simpa using sendable_sequenceMessage) [byte 'C']
    (.inr ⟨sequenceMessage, sendable_sequenceMessage, part⟩) _ ?_ ?_
  · intro chunk member
    rcases List.mem_map.mp member with ⟨code, -, rfl⟩
    exact List.cons_ne_nil code []
  · rw [← List.flatMap_def, List.flatMap_singleton', List.flatMap_singleton]

end DebuggerDap.Protocol.JsonWire
