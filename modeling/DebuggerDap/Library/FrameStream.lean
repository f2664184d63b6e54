import Mathlib.Data.List.Basic
import Mathlib.Data.List.Infix

/-!
# Deframing a stream that arrives in pieces

A deframer looks at the head of a buffer and either cuts one message off it
or reports that there is nothing to cut yet.  A receiver appends every
arriving chunk to its buffer and cuts until nothing is left to cut.

For a family of frames which the deframer recognises whole and waits for
while they are incomplete, the delivered messages and the remaining buffer
depend on the concatenated stream only, never on where it was cut.
-/

namespace DebuggerDap.Library.FrameStream

/-- A partial reader of a buffer head; every cut strictly shrinks the buffer. -/
structure Deframer (σ μ : Type*) where
  extract : List σ → Option μ × List σ
  shrinks :
    ∀ {buffer message rest},
      extract buffer = (some message, rest) →
        rest.length < buffer.length

namespace Deframer

variable {σ μ φ : Type*}

/-- Cut messages until the deframer reports that nothing is left. -/
def drain (deframer : Deframer σ μ) (buffer : List σ) :
    List μ × List σ :=
  match found : deframer.extract buffer with
  | (none, rest) => ([], rest)
  | (some message, rest) =>
      have := deframer.shrinks found
      let following := deframer.drain rest
      (message :: following.1, following.2)
termination_by buffer.length

theorem drain_of_none
    (deframer : Deframer σ μ)
    {buffer rest : List σ}
    (waiting : deframer.extract buffer = (none, rest)) :
    deframer.drain buffer = ([], rest) := by
  rw [drain]
  split
  · next equal =>
      rw [waiting] at equal
      cases equal
      rfl
  · next equal =>
      rw [waiting] at equal
      cases equal

theorem drain_of_some
    (deframer : Deframer σ μ)
    {buffer rest : List σ}
    {message : μ}
    (cut : deframer.extract buffer = (some message, rest)) :
    deframer.drain buffer =
      (message :: (deframer.drain rest).1,
        (deframer.drain rest).2) := by
  rw [drain]
  split
  · next equal =>
      rw [cut] at equal
      cases equal
  · next equal =>
      rw [cut] at equal
      cases equal
      rfl

/-- One arriving chunk: append it, then cut all complete messages. -/
def feed
    (deframer : Deframer σ μ)
    (state : List μ × List σ)
    (chunk : List σ) :
    List μ × List σ :=
  let drained := deframer.drain (state.2 ++ chunk)
  (state.1 ++ drained.1, drained.2)

/-- A whole reception, chunk by chunk, from a given buffer. -/
def receive
    (deframer : Deframer σ μ)
    (state : List μ × List σ)
    (chunks : List (List σ)) :
    List μ × List σ :=
  chunks.foldl deframer.feed state

@[simp]
theorem receive_nil
    (deframer : Deframer σ μ)
    (state : List μ × List σ) :
    deframer.receive state [] = state :=
  rfl

@[simp]
theorem receive_cons
    (deframer : Deframer σ μ)
    (state : List μ × List σ)
    (chunk : List σ)
    (chunks : List (List σ)) :
    deframer.receive state (chunk :: chunks) =
      deframer.receive (deframer.feed state chunk) chunks :=
  rfl

theorem receive_append
    (deframer : Deframer σ μ)
    (state : List μ × List σ)
    (earlier later : List (List σ)) :
    deframer.receive state (earlier ++ later) =
      deframer.receive (deframer.receive state earlier) later :=
  List.foldl_append

/-- What has been delivered stays delivered. -/
theorem receive_log_prefix
    (deframer : Deframer σ μ)
    (state : List μ × List σ)
    (chunks : List (List σ)) :
    state.1 <+: (deframer.receive state chunks).1 := by
  induction chunks generalizing state with
  | nil => exact List.prefix_refl _
  | cons chunk chunks ih =>
      have appended :
          state.1 <+: (deframer.feed state chunk).1 :=
        List.prefix_append _ _
      rw [receive_cons]
      exact appended.trans (ih (deframer.feed state chunk))

/--
The frames of a format: each is cut off whole whatever follows it, and no
proper prefix of one is touched.
-/
structure Format
    (deframer : Deframer σ μ)
    (frame : φ → List σ)
    (message : φ → μ) : Prop where
  idle : deframer.extract [] = (none, [])
  delivers :
    ∀ item rest,
      deframer.extract (frame item ++ rest) =
        (some (message item), rest)
  waits :
    ∀ item part,
      part <+: frame item →
        part ≠ frame item →
          deframer.extract part = (none, part)

/-- An unfinished frame: nothing yet, or a proper prefix of some frame. -/
def Unfinished (frame : φ → List σ) (part : List σ) : Prop :=
  part = [] ∨ ∃ item, part <+: frame item ∧ part ≠ frame item

/-- The text of complete frames followed by an unfinished one. -/
def stream
    (frame : φ → List σ)
    (items : List φ)
    (tail : List σ) :
    List σ :=
  items.flatMap frame ++ tail

@[simp]
theorem stream_nil (frame : φ → List σ) (tail : List σ) :
    stream frame [] tail = tail :=
  rfl

@[simp]
theorem stream_cons
    (frame : φ → List σ)
    (item : φ)
    (items : List φ)
    (tail : List σ) :
    stream frame (item :: items) tail =
      frame item ++ stream frame items tail := by
  simp [stream]

namespace Format

variable {deframer : Deframer σ μ}
variable {frame : φ → List σ}
variable {message : φ → μ}

theorem waits_unfinished
    (format : Format deframer frame message)
    {part : List σ}
    (unfinished : Unfinished frame part) :
    deframer.extract part = (none, part) := by
  rcases unfinished with rfl | ⟨item, isPrefix, proper⟩
  · exact format.idle
  · exact format.waits item part isPrefix proper

/-- Draining complete frames delivers all of them and keeps the tail. -/
theorem drain_stream
    (format : Format deframer frame message)
    (items : List φ)
    {tail : List σ}
    (waiting : deframer.extract tail = (none, tail)) :
    deframer.drain (stream frame items tail) =
      (items.map message, tail) := by
  induction items with
  | nil =>
      exact deframer.drain_of_none waiting
  | cons item items ih =>
      rw [stream_cons,
        deframer.drain_of_some (format.delivers item _), ih]
      rfl

/--
A received part of a stream splits into complete frames and a part the
deframer waits on; the missing text completes the remaining frames.
-/
theorem split_received
    (format : Format deframer frame message)
    {tail : List σ}
    (unfinished : Unfinished frame tail)
    (items : List φ)
    (received missing : List σ)
    (split : received ++ missing = stream frame items tail) :
    ∃ delivered remaining part,
      items = delivered ++ remaining ∧
        received = stream frame delivered part ∧
          part ++ missing = stream frame remaining tail ∧
            deframer.extract part = (none, part) := by
  induction items generalizing received with
  | nil =>
      have receivedPrefix : received <+: tail :=
        ⟨missing, split⟩
      refine ⟨[], [], received, rfl, rfl, split, ?_⟩
      apply format.waits_unfinished
      rcases unfinished with rfl | ⟨item, isPrefix, proper⟩
      · exact Or.inl (List.prefix_nil.mp receivedPrefix)
      · refine Or.inr ⟨item, receivedPrefix.trans isPrefix, ?_⟩
        intro whole
        apply proper
        exact isPrefix.eq_of_length_le
          (whole ▸ receivedPrefix.length_le)
  | cons item items ih =>
      rw [stream_cons] at split
      rcases List.append_eq_append_iff.mp split with
        ⟨cut, frameEq, missingEq⟩ | ⟨extra, receivedEq, restEq⟩
      · by_cases whole : cut = []
        · subst cut
          rw [List.append_nil] at frameEq
          refine ⟨[item], items, [], rfl, ?_, ?_, format.idle⟩
          · simp [stream, frameEq]
          · simpa using missingEq
        · refine ⟨[], item :: items, received, rfl, rfl, ?_, ?_⟩
          · rw [stream_cons]
            exact split
          · refine format.waits item received ⟨cut, frameEq.symm⟩ ?_
            intro equal
            exact whole (List.self_eq_append_right.mp
              (equal.trans frameEq))
      · rcases ih extra restEq.symm with
          ⟨delivered, remaining, part, itemsEq, extraEq, missingEq,
            waiting⟩
        refine ⟨item :: delivered, remaining, part, ?_, ?_,
          missingEq, waiting⟩
        · rw [itemsEq]
          rfl
        · rw [receivedEq, extraEq, stream_cons]

/--
Fragmentation independence: from a buffer the deframer waits on, any cutting
of the rest of a stream delivers its frames in order and leaves the tail.
-/
theorem receive_stream
    (format : Format deframer frame message)
    {tail : List σ}
    (unfinished : Unfinished frame tail)
    (chunks : List (List σ))
    (items : List φ)
    (delivered : List μ)
    (buffer : List σ)
    (waiting : deframer.extract buffer = (none, buffer))
    (whole : buffer ++ chunks.flatten = stream frame items tail) :
    deframer.receive (delivered, buffer) chunks =
      (delivered ++ items.map message, tail) := by
  induction chunks generalizing items delivered buffer with
  | nil =>
      rw [List.flatten_nil, List.append_nil] at whole
      cases items with
      | nil =>
          simp [whole]
      | cons item items =>
          have cut := format.delivers item (stream frame items tail)
          rw [← stream_cons, ← whole, waiting] at cut
          cases cut
  | cons chunk chunks ih =>
      rw [List.flatten_cons, ← List.append_assoc] at whole
      rcases format.split_received unfinished items
          (buffer ++ chunk) chunks.flatten whole with
        ⟨now, later, part, rfl, received, missing, partWaits⟩
      have drained :
          deframer.drain (buffer ++ chunk) =
            (now.map message, part) := by
        rw [received]
        exact format.drain_stream now partWaits
      rw [receive_cons, feed, drained,
        ih later (delivered ++ now.map message) part partWaits missing]
      simp

end Format

end Deframer

/-! ## Pieces and a reader that may reject one -/

/-- A cutter splits a piece off the head of a buffer, if one is complete. -/
structure Cutter (σ : Type*) where
  cut : List σ → Option (List σ × List σ)
  shrinks :
    ∀ {buffer piece rest},
      cut buffer = some (piece, rest) → rest.length < buffer.length

namespace Cutter

variable {σ : Type*}

/-- The complete pieces that stand one after another at the head. -/
def pieces (cutter : Cutter σ) (buffer : List σ) : List (List σ) :=
  match found : cutter.cut buffer with
  | none => []
  | some (piece, rest) =>
      have := cutter.shrinks found
      piece :: cutter.pieces rest
termination_by buffer.length

theorem pieces_of_none
    (cutter : Cutter σ)
    {buffer : List σ}
    (incomplete : cutter.cut buffer = none) :
    cutter.pieces buffer = [] := by
  rw [pieces]
  split
  · rfl
  · next equal =>
      rw [incomplete] at equal
      cases equal

theorem pieces_of_some
    (cutter : Cutter σ)
    {buffer piece rest : List σ}
    (complete : cutter.cut buffer = some (piece, rest)) :
    cutter.pieces buffer = piece :: cutter.pieces rest := by
  rw [pieces]
  split
  · next equal =>
      rw [complete] at equal
      cases equal
  · next equal =>
      rw [complete] at equal
      cases equal
      rfl

/-- No piece stands at the head of a buffer without complete pieces. -/
theorem pieces_eq_nil_iff (cutter : Cutter σ) (buffer : List σ) :
    cutter.pieces buffer = [] ↔ cutter.cut buffer = none := by
  constructor
  · intro empty
    cases complete : cutter.cut buffer with
    | none => rfl
    | some parts =>
        rw [cutter.pieces_of_some complete] at empty
        cases empty
  · exact cutter.pieces_of_none

end Cutter

section Rejection

variable {α β : Type*}

/-- Only the last of a list may be rejected. -/
def OnlyLastRejected (read : α → Option β) (items : List α) : Prop :=
  ∀ item ∈ items.dropLast, (read item).isSome = true

instance (read : α → Option β) (items : List α) :
    Decidable (OnlyLastRejected read items) :=
  List.decidableBAll _ _

/-- The items behind the first one that is rejected. -/
def behindRejected (read : α → Option β) (items : List α) : List α :=
  (items.dropWhile fun item => (read item).isSome).drop 1

theorem behindRejected_cons_of_some
    {read : α → Option β}
    {item : α}
    {value : β}
    (accepted : read item = some value)
    (items : List α) :
    behindRejected read (item :: items) = behindRejected read items := by
  rw [behindRejected, List.dropWhile_cons_of_pos (by rw [accepted]; rfl)]
  rfl

theorem behindRejected_cons_of_none
    {read : α → Option β}
    {item : α}
    (rejected : read item = none)
    (items : List α) :
    behindRejected read (item :: items) = items := by
  rw [behindRejected, List.dropWhile_cons_of_neg (by simp [rejected])]
  rfl

/-- Nothing is left behind when only the last item may be rejected. -/
theorem behindRejected_eq_nil_iff
    (read : α → Option β)
    (items : List α) :
    behindRejected read items = [] ↔ OnlyLastRejected read items := by
  induction items with
  | nil => simp [behindRejected, OnlyLastRejected]
  | cons item items ih =>
      cases result : read item with
      | some value =>
          rw [behindRejected_cons_of_some result, ih]
          cases items with
          | nil => simp [OnlyLastRejected]
          | cons next items =>
              simp [OnlyLastRejected, result]
      | none =>
          rw [behindRejected_cons_of_none result]
          cases items with
          | nil => simp [OnlyLastRejected]
          | cons next items =>
              simp [OnlyLastRejected, result]

/-- Nothing behind a rejected item means nothing accepted is missed. -/
theorem filterMap_takeWhile_of_onlyLast
    {read : α → Option β}
    {items : List α}
    (onlyLast : OnlyLastRejected read items) :
    (items.takeWhile fun item => (read item).isSome).filterMap read =
      items.filterMap read := by
  induction items with
  | nil => rfl
  | cons item items ih =>
      cases result : read item with
      | some value =>
          have later : OnlyLastRejected read items := by
            rw [← behindRejected_eq_nil_iff] at onlyLast ⊢
            rwa [behindRejected_cons_of_some result] at onlyLast
          rw [List.takeWhile_cons_of_pos (by rw [result]; rfl),
            List.filterMap_cons_some result, List.filterMap_cons_some result,
            ih later]
      | none =>
          have last : items = [] := by
            rw [← behindRejected_eq_nil_iff,
              behindRejected_cons_of_none result] at onlyLast
            exact onlyLast
          rw [last, List.takeWhile_cons_of_neg (by simp [result]),
            List.filterMap_cons_none result]

end Rejection

end DebuggerDap.Library.FrameStream
