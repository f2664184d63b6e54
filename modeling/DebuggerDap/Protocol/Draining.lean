import DebuggerDap.Protocol.Frames

/-!
# Draining the receive buffer

`ProcessBuffer` should go on as long as there are complete messages in the
buffer.  `DoProcessBuffer` returns the same empty value for a buffer without
a complete frame and for a frame whose payload is no JSON, so the loop also
ends at the latter and leaves the frames behind it.
-/

namespace DebuggerDap.Protocol.Draining

open DebuggerDap.Text.Strings
open DebuggerDap.Library.FrameStream
open DebuggerDap.Protocol.JsonRpc

variable {Json σ : Type*}

/-! ## Complete frames -/

/--
The frame at the head of a buffer: a complete header section that announces a
positive length, and at least that many characters after it.
-/
def completeFrame (buffer : WxString) : Option (WxString × WxString) :=
  match readHeaders buffer with
  | none => none
  | some (headers, headerSize) =>
      match headers.lookup contentLengthName with
      | none => none
      | some contentLength =>
          let length := atol contentLength
          if 0 < length ∧ headerSize + length ≤ buffer.length then
            some
              ((buffer.drop headerSize).take length.toNat,
                buffer.drop (headerSize + length.toNat))
          else none

theorem completeFrame_shrinks
    {buffer payload rest : WxString}
    (complete : completeFrame buffer = some (payload, rest)) :
    rest.length < buffer.length := by
  unfold completeFrame at complete
  split at complete
  · cases complete
  · next headers headerSize read =>
      have bounds := readHeaders_size_le read
      split at complete
      · cases complete
      · dsimp only at complete
        split at complete
        · cases complete
          rw [List.length_drop]
          omega
        · cases complete

/-- Complete frames as a cutter of the library. -/
def frames : Cutter Char where
  cut := completeFrame
  shrinks := completeFrame_shrinks

/-- The payloads of the complete frames at the head, in order. -/
def framePayloads (buffer : WxString) : List WxString :=
  frames.pieces buffer

theorem framePayloads_eq_nil_iff (buffer : WxString) :
    framePayloads buffer = [] ↔ completeFrame buffer = none :=
  frames.pieces_eq_nil_iff buffer

/-- A complete frame is cut off and its payload is parsed. -/
theorem doProcessBuffer_of_complete
    (parse : WxString → Option Json)
    {buffer payload rest : WxString}
    (complete : completeFrame buffer = some (payload, rest)) :
    doProcessBuffer parse buffer = (parse payload, rest) := by
  have nonempty : buffer ≠ [] := by
    rintro rfl
    have shorter := completeFrame_shrinks complete
    simp at shorter
  unfold completeFrame at complete
  split at complete
  · cases complete
  · next headers headerSize read =>
      split at complete
      · cases complete
      · next contentLength present =>
          dsimp only at complete
          split at complete
          · next fits =>
              cases complete
              rw [doProcessBuffer, if_neg nonempty, read]
              dsimp only
              rw [present]
              dsimp only
              rw [if_neg (Int.not_le.mpr fits.1),
                if_neg (Int.not_lt.mpr fits.2)]
          · cases complete

/--
Without a complete frame nothing is returned, and what stays in the buffer is
no complete frame either, also when only a header section is kept.
-/
theorem doProcessBuffer_of_incomplete
    (parse : WxString → Option Json)
    {buffer : WxString}
    (incomplete : completeFrame buffer = none) :
    ∃ rest,
      doProcessBuffer parse buffer = (none, rest) ∧
        completeFrame rest = none := by
  by_cases empty : buffer = []
  · exact ⟨buffer, by rw [doProcessBuffer, if_pos empty], incomplete⟩
  · cases read : readHeaders buffer with
    | none =>
        exact ⟨buffer, by rw [doProcessBuffer, if_neg empty, read],
          incomplete⟩
    | some parts =>
        rcases parts with ⟨headers, headerSize⟩
        cases present : headers.lookup contentLengthName with
        | none =>
            refine ⟨buffer.take headerSize, ?_, ?_⟩
            · rw [doProcessBuffer, if_neg empty, read]
              dsimp only
              rw [present]
            · rw [completeFrame, readHeaders_take read]
              dsimp only
              rw [present]
        | some contentLength =>
            refine ⟨buffer, ?_, incomplete⟩
            rw [doProcessBuffer, if_neg empty, read]
            dsimp only
            rw [present]
            rw [completeFrame, read] at incomplete
            dsimp only at incomplete ⊢
            rw [present] at incomplete
            dsimp only at incomplete
            split
            · rfl
            · next positive =>
                split
                · rfl
                · next fits =>
                    rw [if_pos ⟨Int.not_le.mp positive,
                      Int.not_lt.mp fits⟩] at incomplete
                    cases incomplete

/-! ## The loop -/

/-- A callback that leaves the buffer alone, with a log of its messages. -/
def logged
    (callback : Json → σ → σ) : Callback Json (List Json × σ) :=
  fun json state => ((state.1 ++ [json], callback json state.2), false)

section Loop

variable (parse : WxString → Option Json)
variable (callback : Json → σ → σ)

/-- A round with a payload that is JSON hands it over and goes on. -/
theorem processBuffer_of_accepted
    {buffer payload rest : WxString}
    {json : Json}
    (complete : completeFrame buffer = some (payload, rest))
    (accepted : parse payload = some json)
    (log : List Json)
    (state : σ) :
    processBuffer parse (logged callback) buffer (log, state) =
      processBuffer parse (logged callback) rest
        (log ++ [json], callback json state) := by
  have cut := doProcessBuffer_of_complete parse complete
  rw [accepted] at cut
  exact processBuffer_of_some parse (logged callback) cut (log, state)

/--
The loop hands over the payloads up to the first one that is no JSON, and the
frames behind that one stay in the buffer.
-/
theorem processBuffer_logged
    (buffer : WxString)
    (log : List Json)
    (state : σ) :
    framePayloads
          (processBuffer parse (logged callback) buffer (log, state)).1 =
        behindRejected parse (framePayloads buffer) ∧
      (processBuffer parse (logged callback) buffer (log, state)).2.1 =
        log ++
          ((framePayloads buffer).takeWhile fun payload =>
            (parse payload).isSome).filterMap parse := by
  induction size : buffer.length using Nat.strong_induction_on
    generalizing buffer log state with
  | h size ih =>
      cases complete : completeFrame buffer with
      | none =>
          have empty : framePayloads buffer = [] :=
            frames.pieces_of_none complete
          rcases doProcessBuffer_of_incomplete parse complete with
            ⟨rest, waiting, incomplete⟩
          rw [processBuffer_of_none parse (logged callback) waiting, empty]
          refine ⟨?_, ?_⟩
          · exact (framePayloads_eq_nil_iff rest).mpr incomplete
          · exact (List.append_nil log).symm
      | some parts =>
          rcases parts with ⟨payload, rest⟩
          have shorter := completeFrame_shrinks complete
          have first : framePayloads buffer = payload :: framePayloads rest :=
            frames.pieces_of_some complete
          cases result : parse payload with
          | none =>
              have cut := doProcessBuffer_of_complete parse complete
              rw [result] at cut
              rw [processBuffer_of_none parse (logged callback) cut, first,
                behindRejected_cons_of_none result,
                List.takeWhile_cons_of_neg (by simp [result])]
              exact ⟨rfl, (List.append_nil log).symm⟩
          | some json =>
              rcases ih rest.length (size ▸ shorter) rest (log ++ [json])
                  (callback json state) rfl with ⟨left, passed⟩
              rw [processBuffer_of_accepted parse callback complete result,
                first, behindRejected_cons_of_some result,
                List.takeWhile_cons_of_pos (by rw [result]; rfl),
                List.filterMap_cons_some result, passed]
              exact ⟨left, List.append_assoc log [json] _⟩

end Loop

/--
What is promised of a finished loop: no complete frame is left at the head,
and every payload that is JSON was handed over, in order.
-/
structure Drained
    (parse : WxString → Option Json)
    (buffer : WxString)
    (final : WxString × List Json × σ) : Prop where
  noFrame : completeFrame final.1 = none
  passed : final.2.1 = (framePayloads buffer).filterMap parse

/--
The buffer is drained exactly when none but the last of the complete frames
at its head has a payload that is no JSON.
-/
theorem processBuffer_drains_iff
    (parse : WxString → Option Json)
    (callback : Json → σ → σ)
    (buffer : WxString)
    (state : σ) :
    Drained parse buffer
        (processBuffer parse (logged callback) buffer ([], state)) ↔
      OnlyLastRejected parse (framePayloads buffer) := by
  rcases processBuffer_logged parse callback buffer [] state with
    ⟨left, passed⟩
  rw [List.nil_append] at passed
  constructor
  · intro drained
    have noneLeft := (framePayloads_eq_nil_iff _).mpr drained.noFrame
    rw [left] at noneLeft
    exact (behindRejected_eq_nil_iff parse _).mp noneLeft
  · intro onlyLast
    have nothing := (behindRejected_eq_nil_iff parse _).mpr onlyLast
    rw [← left] at nothing
    exact
      { noFrame := (framePayloads_eq_nil_iff _).mp nothing
        passed := passed.trans (filterMap_takeWhile_of_onlyLast onlyLast) }

/-- A frame with the payload `xx`, and the frame of an empty object. -/
def rejectedThenAccepted : WxString :=
  "Content-Length: 2\r\n\r\nxx".toList ++ Frames.emptyObjectFrame.text

/-- The second frame stays in the buffer and is not handed over. -/
theorem rejectedThenAccepted_stays :
    processBuffer Frames.parseEmptyObject (logged fun _ calls => calls + 1)
        rejectedThenAccepted ([], 0) =
      (Frames.emptyObjectFrame.text, [], 0) ∧
    ¬ Drained Frames.parseEmptyObject rejectedThenAccepted
        (processBuffer Frames.parseEmptyObject
          (logged fun _ calls => calls + 1) rejectedThenAccepted
          ([], 0)) := by
  have stays :
      processBuffer Frames.parseEmptyObject
          (logged fun _ calls => calls + 1) rejectedThenAccepted ([], 0) =
        (Frames.emptyObjectFrame.text, [], 0) := by
    rfl
  refine ⟨stays, ?_⟩
  intro drained
  have noFrame := drained.noFrame
  rw [stays] at noFrame
  cases noFrame

end DebuggerDap.Protocol.Draining
