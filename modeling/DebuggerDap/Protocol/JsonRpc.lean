import DebuggerDap.Library.FrameStream
import DebuggerDap.Text.Strings

/-!
# The receiving half of `dap::JsonRPC`

`m_buffer` collects the text read from the transport.  `DoProcessBuffer`
reads the header section at its head and cuts off the payload announced by
`Content-Length`; `ProcessBuffer` repeats this and hands every parsed payload
to a callback.

`Json::Parse` is a parameter: it maps a payload to a tree, or to nothing when
the result is not OK.  Lengths are natural numbers here.
-/

namespace DebuggerDap.Protocol.JsonRpc

open DebuggerDap.Text.Strings
open DebuggerDap.Library.FrameStream

variable {Json : Type*}

/-- The header map; inserting keeps the value of a name already present. -/
abbrev Headers := List (WxString × WxString)

def insertHeader
    (headers : Headers)
    (name value : WxString) : Headers :=
  if (headers.lookup name).isSome then headers
  else headers ++ [(name, value)]

def headerName (line : WxString) : WxString :=
  trim (beforeFirst (trim line) ':')

def headerValue (line : WxString) : WxString :=
  trim (afterFirst (trim line) ':')

def insertLine (headers : Headers) (line : WxString) : Headers :=
  insertHeader headers (headerName line) (headerValue line)

def headerSeparator : WxString :=
  ['\r', '\n', '\r', '\n']

def contentLengthName : WxString :=
  ['C', 'o', 'n', 't', 'e', 'n', 't', '-', 'L', 'e', 'n', 'g', 't', 'h']

/-- The parsed header section and its size with the separator. -/
def readHeaders (buffer : WxString) : Option (Headers × Nat) :=
  match find headerSeparator buffer with
  | none => none
  | some position =>
      let lines := split (buffer.take position) '\n'
      some (lines.foldl insertLine [], position + 4)

/--
One attempt to cut a message off the buffer.  A complete header section
without `Content-Length` leaves only that section: `m_buffer.erase(headerSize)`
erases from `headerSize` to the end.
-/
def doProcessBuffer
    (parse : WxString → Option Json)
    (buffer : WxString) : Option Json × WxString :=
  if buffer = [] then (none, buffer)
  else
    match readHeaders buffer with
    | none => (none, buffer)
    | some (headers, headerSize) =>
        match headers.lookup contentLengthName with
        | none => (none, buffer.take headerSize)
        | some contentLength =>
            let msglen := atol contentLength
            if msglen ≤ 0 then (none, buffer)
            else if (buffer.length : Int) < headerSize + msglen then
              (none, buffer)
            else
              (parse ((buffer.drop headerSize).take msglen.toNat),
                buffer.drop (headerSize + msglen.toNat))

@[simp]
theorem doProcessBuffer_nil (parse : WxString → Option Json) :
    doProcessBuffer parse [] = (none, []) := by
  simp [doProcessBuffer]

theorem readHeaders_size_le
    {buffer : WxString}
    {headers : Headers}
    {headerSize : Nat}
    (read : readHeaders buffer = some (headers, headerSize)) :
    0 < headerSize ∧ headerSize ≤ buffer.length := by
  unfold readHeaders at read
  split at read
  · cases read
  · next position found =>
      cases read
      have fits := find_length_le found
      simp only [headerSeparator, List.length_cons,
        List.length_nil] at fits
      omega

/-- A header section reads the same without the text that follows it. -/
theorem readHeaders_take
    {buffer : WxString}
    {headers : Headers}
    {headerSize : Nat}
    (read : readHeaders buffer = some (headers, headerSize)) :
    readHeaders (buffer.take headerSize) = some (headers, headerSize) := by
  unfold readHeaders at read
  split at read
  · cases read
  · next position found =>
      cases read
      have kept :
          find headerSeparator (buffer.take (position + 4)) =
            some position :=
        find_take_of_some found
      simp only [readHeaders, kept, List.take_take,
        Nat.min_eq_left (Nat.le_add_right position 4)]

/--
A message is cut off only when a complete header section announces a
positive length and that many characters follow it.
-/
theorem doProcessBuffer_some
    (parse : WxString → Option Json)
    {buffer rest : WxString}
    {json : Json}
    (cut : doProcessBuffer parse buffer = (some json, rest)) :
    ∃ headers headerSize contentLength,
      readHeaders buffer = some (headers, headerSize) ∧
        headers.lookup contentLengthName = some contentLength ∧
          0 < atol contentLength ∧
            headerSize + atol contentLength ≤ buffer.length ∧
              rest =
                buffer.drop (headerSize + (atol contentLength).toNat) := by
  unfold doProcessBuffer at cut
  split at cut
  · cases cut
  · split at cut
    · cases cut
    · next headers headerSize read =>
        split at cut
        · cases cut
        · next contentLength present =>
            dsimp only at cut
            split at cut
            · cases cut
            · next positive =>
                split at cut
                · cases cut
                · next complete =>
                    rw [Prod.mk.injEq] at cut
                    exact ⟨headers, headerSize, contentLength, read,
                      present, Int.not_le.mp positive, Int.not_lt.mp complete,
                      cut.2.symm⟩

/-- Cutting a message off strictly shrinks the buffer. -/
theorem doProcessBuffer_shrinks
    (parse : WxString → Option Json)
    {buffer rest : WxString}
    {json : Json}
    (cut : doProcessBuffer parse buffer = (some json, rest)) :
    rest.length < buffer.length := by
  rcases doProcessBuffer_some parse cut with
    ⟨headers, headerSize, contentLength, read, _, _, _, rfl⟩
  have bounds := readHeaders_size_le read
  rw [List.length_drop]
  omega

/-- `DoProcessBuffer` as a deframer of the library. -/
def deframer (parse : WxString → Option Json) : Deframer Char Json where
  extract := doProcessBuffer parse
  shrinks := doProcessBuffer_shrinks parse

/-! ## The message loop -/

/--
What a callback does: it changes the state it works on and says whether it
called `Client::Reset`, which assigns a fresh `JsonRPC` with an empty buffer.
-/
abbrev Callback (Json σ : Type*) := Json → σ → σ × Bool

def processLoop
    {σ : Type*}
    (parse : WxString → Option Json)
    (callback : Callback Json σ) :
    Nat → WxString → σ → WxString × σ
  | 0, buffer, state => (buffer, state)
  | fuel + 1, buffer, state =>
      match doProcessBuffer parse buffer with
      | (none, rest) => (rest, state)
      | (some json, rest) =>
          let result := callback json state
          processLoop parse callback fuel
            (if result.2 then [] else rest) result.1

/-- `ProcessBuffer`; every round shortens the buffer, so its length bounds them. -/
def processBuffer
    {σ : Type*}
    (parse : WxString → Option Json)
    (callback : Callback Json σ)
    (buffer : WxString)
    (state : σ) : WxString × σ :=
  processLoop parse callback (buffer.length + 1) buffer state

section Loop

variable {σ : Type*}
variable (parse : WxString → Option Json)
variable (callback : Callback Json σ)

/-- Enough rounds are enough: more of them change nothing. -/
theorem processLoop_fuel
    (fuel more : Nat)
    (buffer : WxString)
    (state : σ)
    (enough : buffer.length < fuel) :
    processLoop parse callback (fuel + more) buffer state =
      processLoop parse callback fuel buffer state := by
  induction fuel generalizing buffer state with
  | zero => omega
  | succ fuel ih =>
      rw [Nat.succ_add, processLoop, processLoop]
      cases cut : doProcessBuffer parse buffer with
      | mk message rest =>
          cases message with
          | none => rfl
          | some json =>
              have shorter := doProcessBuffer_shrinks parse cut
              apply ih
              split
              · simp only [List.length_nil]
                omega
              · omega

theorem processBuffer_of_none
    {buffer rest : WxString}
    (waiting : doProcessBuffer parse buffer = (none, rest))
    (state : σ) :
    processBuffer parse callback buffer state = (rest, state) := by
  rw [processBuffer, processLoop, waiting]

/-- One round of the loop: the callback runs, then the loop goes on. -/
theorem processBuffer_of_some
    {buffer rest : WxString}
    {json : Json}
    (cut : doProcessBuffer parse buffer = (some json, rest))
    (state : σ) :
    processBuffer parse callback buffer state =
      processBuffer parse callback
        (if (callback json state).2 then [] else rest)
        (callback json state).1 := by
  have shorter := doProcessBuffer_shrinks parse cut
  rw [processBuffer, processLoop, cut]
  dsimp only
  by_cases reset : (callback json state).2 = true
  · rw [if_pos reset, processBuffer]
    have split : buffer.length = 1 + (buffer.length - 1) := by omega
    rw [split]
    exact processLoop_fuel parse callback 1 _ [] _ (by simp)
  · rw [if_neg reset, processBuffer]
    have split :
        buffer.length =
          rest.length + 1 + (buffer.length - rest.length - 1) := by
      omega
    rw [split]
    exact processLoop_fuel parse callback _ _ rest _ (by omega)

/--
What the callbacks of one loop leave behind.  As long as no callback calls
`Reset` they keep `going`; the first that does is the last one called, and
the buffer is empty.
-/
theorem processBuffer_outcome
    (going stopped : σ → Prop)
    (continues :
      ∀ json state, going state → (callback json state).2 = false →
        going (callback json state).1)
    (stops :
      ∀ json state, going state → (callback json state).2 = true →
        stopped (callback json state).1)
    (buffer : WxString)
    {state : σ}
    (start : going state) :
    going (processBuffer parse callback buffer state).2 ∨
      stopped (processBuffer parse callback buffer state).2 ∧
        (processBuffer parse callback buffer state).1 = [] := by
  induction size : buffer.length using Nat.strong_induction_on
    generalizing buffer state with
  | h size ih =>
      cases cut : doProcessBuffer parse buffer with
      | mk message rest =>
          cases message with
          | none =>
              rw [processBuffer_of_none parse callback cut]
              exact Or.inl start
          | some json =>
              have shorter := doProcessBuffer_shrinks parse cut
              rw [processBuffer_of_some parse callback cut]
              cases reset : (callback json state).2 with
              | false =>
                  rw [if_neg Bool.false_ne_true]
                  exact ih rest.length (size ▸ shorter) rest
                    (continues json state start reset) rfl
              | true =>
                  rw [if_pos rfl, processBuffer_of_none parse callback
                    (doProcessBuffer_nil parse)]
                  exact Or.inr ⟨stops json state start reset, rfl⟩

end Loop

/-- A callback that only records the messages it is given. -/
def record : Callback Json (List Json) :=
  fun json log => (log ++ [json], false)

/-- With a recording callback the loop is the drain of the deframer. -/
theorem processBuffer_record
    (parse : WxString → Option Json)
    (buffer : WxString)
    (log : List Json) :
    processBuffer parse record buffer log =
      (((deframer parse).drain buffer).2,
        log ++ ((deframer parse).drain buffer).1) := by
  induction size : buffer.length using Nat.strong_induction_on
    generalizing buffer log with
  | h size ih =>
      cases cut : doProcessBuffer parse buffer with
      | mk message rest =>
          cases message with
          | none =>
              rw [processBuffer_of_none parse record cut,
                (deframer parse).drain_of_none cut]
              simp
          | some json =>
              have shorter := doProcessBuffer_shrinks parse cut
              rw [processBuffer_of_some parse record cut,
                (deframer parse).drain_of_some cut]
              simp only [record, Bool.false_eq_true, if_false]
              rw [ih rest.length (size ▸ shorter) rest _ rfl]
              simp

/-- `AppendBuffer` and then `ProcessBuffer`, for one chunk of text. -/
def onChunk
    (parse : WxString → Option Json)
    (state : List Json × WxString)
    (chunk : WxString) : List Json × WxString :=
  let processed := processBuffer parse record (state.2 ++ chunk) state.1
  (processed.2, processed.1)

theorem onChunk_eq_feed
    (parse : WxString → Option Json)
    (state : List Json × WxString)
    (chunk : WxString) :
    onChunk parse state chunk = (deframer parse).feed state chunk := by
  rw [onChunk, processBuffer_record]
  rfl

/-- The messages delivered and the text left after a list of chunks. -/
def receive
    (parse : WxString → Option Json)
    (chunks : List WxString) : List Json × WxString :=
  chunks.foldl (onChunk parse) ([], [])

theorem receive_eq_deframer
    (parse : WxString → Option Json)
    (chunks : List WxString) :
    receive parse chunks = (deframer parse).receive ([], []) chunks := by
  have pointwise :
      onChunk parse = (deframer parse).feed := by
    funext state chunk
    exact onChunk_eq_feed parse state chunk
  rw [receive, pointwise]
  rfl

end DebuggerDap.Protocol.JsonRpc
