import DebuggerDap.Protocol.Frames

/-!
# After a header section without a usable length

A comment in `DoProcessBuffer` says that a section without `Content-Length`
is removed, since the parser would be stuck with it again.  The call that
follows keeps the section and removes what comes after it, and a section with
an invalid length is not touched at all.  So the section is read again by
every later call and nothing behind it is ever delivered.
-/

namespace DebuggerDap.Protocol.Resynchronisation

open DebuggerDap.Text.Strings
open DebuggerDap.Protocol.JsonRpc
open DebuggerDap.Protocol.Frames

variable {Json : Type*}

/-! ## Header sections -/

/-- Header text with the separator that ends it, which is the first one. -/
structure HeaderSection where
  text : WxString
  ends : find headerSeparator (text ++ headerSeparator) = some text.length

namespace HeaderSection

variable (head : HeaderSection)

/-- The section with its separator. -/
def whole : WxString :=
  head.text ++ headerSeparator

/-- The headers the section is read as. -/
def headers : Headers :=
  (split head.text '\n').foldl insertLine []

theorem length_whole : head.whole.length = head.text.length + 4 := by
  simp [whole, headerSeparator]

theorem whole_ne_nil (rest : WxString) : head.whole ++ rest ≠ [] := by
  simp [whole, headerSeparator]

/-- A section is read the same whatever follows it. -/
theorem readHeaders_whole (rest : WxString) :
    readHeaders (head.whole ++ rest) =
      some (head.headers, head.whole.length) := by
  have found : find headerSeparator (head.whole ++ rest) =
      some head.text.length :=
    find_append_of_some head.ends rest
  have text : (head.whole ++ rest).take head.text.length = head.text := by
    rw [whole, List.append_assoc, List.take_left' rfl]
  simp only [readHeaders, found, text]
  rw [length_whole]
  rfl

end HeaderSection

/-- A decimal number, which may have a sign. -/
def IsNumber (value : WxString) : Prop :=
  ∃ sign digits,
    value = sign ++ digits ∧ sign ∈ [[], ['-'], ['+']] ∧
      digits ≠ [] ∧ ∀ ch ∈ digits, ch.isDigit = true

/--
A section that announces no usable length: no `Content-Length`, or a value
that is no number, zero or negative.
-/
structure BadSection extends HeaderSection where
  unusable :
    ∀ value, toHeaderSection.headers.lookup contentLengthName = some value →
      ¬ IsNumber value ∨ atol value ≤ 0

/-! ## What one call does to the section -/

section Call

variable (parse : WxString → Option Json)
variable (head : HeaderSection)

/-- Without `Content-Length` the section is kept and the rest removed. -/
theorem doProcessBuffer_of_missing
    (missing : head.headers.lookup contentLengthName = none)
    (rest : WxString) :
    doProcessBuffer parse (head.whole ++ rest) = (none, head.whole) := by
  rw [doProcessBuffer, if_neg (head.whole_ne_nil rest),
    head.readHeaders_whole rest]
  dsimp only
  rw [missing]
  dsimp only
  rw [List.take_left' rfl]

/-- With a length that is not positive nothing changes. -/
theorem doProcessBuffer_of_notPositive
    {value : WxString}
    (present : head.headers.lookup contentLengthName = some value)
    (notPositive : atol value ≤ 0)
    (rest : WxString) :
    doProcessBuffer parse (head.whole ++ rest) =
      (none, head.whole ++ rest) := by
  rw [doProcessBuffer, if_neg (head.whole_ne_nil rest),
    head.readHeaders_whole rest]
  dsimp only
  rw [present]
  dsimp only
  rw [if_pos notPositive]

/-- A call that finds a `Content-Length` never leaves exactly the rest. -/
theorem doProcessBuffer_ne_of_present
    {value : WxString}
    (present : head.headers.lookup contentLengthName = some value)
    (rest : WxString) :
    doProcessBuffer parse (head.whole ++ rest) ≠ (none, rest) := by
  have longer : head.whole ++ rest ≠ rest := by
    intro equal
    have lengths := congrArg List.length equal
    rw [List.length_append, head.length_whole] at lengths
    omega
  rw [doProcessBuffer, if_neg (head.whole_ne_nil rest),
    head.readHeaders_whole rest]
  dsimp only
  rw [present]
  dsimp only
  split
  · exact fun equal => longer (Prod.mk.inj equal).2
  · next positive =>
      split
      · exact fun equal => longer (Prod.mk.inj equal).2
      · next complete =>
          intro equal
          have shorter := congrArg List.length (Prod.mk.inj equal).2
          rw [List.length_append] at complete
          rw [List.length_drop, List.length_append] at shorter
          omega

/-- The section alone is removed only where the rest repeats it. -/
theorem doProcessBuffer_removes_iff (rest : WxString) :
    doProcessBuffer parse (head.whole ++ rest) = (none, rest) ↔
      head.headers.lookup contentLengthName = none ∧ rest = head.whole := by
  cases present : head.headers.lookup contentLengthName with
  | none =>
      rw [doProcessBuffer_of_missing parse head present]
      constructor
      · exact fun equal => ⟨rfl, (Prod.mk.inj equal).2.symm⟩
      · rintro ⟨-, rfl⟩
        rfl
  | some value =>
      constructor
      · intro equal
        exact absurd equal
          (doProcessBuffer_ne_of_present parse head present rest)
      · rintro ⟨absent, -⟩
        cases absent

end Call

/-! ## Later calls -/

/-- The messages and the buffer after a text and the chunks that follow it. -/
def receiveAfter
    (parse : WxString → Option Json)
    (buffer : WxString)
    (chunks : List WxString) : List Json × WxString :=
  chunks.foldl (onChunk parse) (onChunk parse ([], []) buffer)

/-- Nothing was delivered and the section stands at the head. -/
structure Stuck
    (head : HeaderSection)
    (state : List Json × WxString) : Prop where
  silent : state.1 = []
  kept : head.whole <+: state.2

/-- A chunk that arrives behind a section without a length is not looked at. -/
theorem Stuck.onChunk
    (parse : WxString → Option Json)
    {head : HeaderSection}
    (refused :
      ∀ value, head.headers.lookup contentLengthName = some value →
        atol value ≤ 0)
    {state : List Json × WxString}
    {chunk : WxString}
    (silent : state.1 = [])
    (starts : head.whole <+: state.2 ++ chunk) :
    Stuck head (JsonRpc.onChunk parse state chunk) := by
  rcases starts with ⟨rest, whole⟩
  unfold JsonRpc.onChunk
  rw [← whole]
  cases present : head.headers.lookup contentLengthName with
  | none =>
      rw [processBuffer_of_none parse record
        (doProcessBuffer_of_missing parse head present rest)]
      exact ⟨silent, List.prefix_refl _⟩
  | some value =>
      rw [processBuffer_of_none parse record
        (doProcessBuffer_of_notPositive parse head present
          (refused value present) rest)]
      exact ⟨silent, List.prefix_append _ _⟩

/--
Behind a section without `Content-Length`, or with one read as zero or less,
no message is ever delivered, whatever arrives.
-/
theorem nothing_delivered
    (parse : WxString → Option Json)
    (head : HeaderSection)
    (refused :
      ∀ value, head.headers.lookup contentLengthName = some value →
        atol value ≤ 0)
    (rest : WxString)
    (chunks : List WxString) :
    Stuck head (receiveAfter parse (head.whole ++ rest) chunks) := by
  have first :
      Stuck head (onChunk parse ([], []) (head.whole ++ rest)) :=
    Stuck.onChunk parse refused rfl (List.prefix_append _ _)
  unfold receiveAfter
  generalize onChunk parse ([], []) (head.whole ++ rest) = state at first ⊢
  induction chunks generalizing state with
  | nil => exact first
  | cons chunk chunks ih =>
      apply ih
      exact first.kept.trans (List.prefix_append _ _)
        |> Stuck.onChunk parse refused first.silent

/-! ## What the comment promises -/

/-- What may stand in the traffic: a section that is no use, or a frame. -/
inductive Piece (parse : WxString → Option Json)
  | bad (head : BadSection)
  | good (frame : Frame parse)

namespace Piece

variable {parse : WxString → Option Json}

def text : Piece parse → WxString
  | bad head => head.whole
  | good frame => frame.text

/-- The message a piece carries. -/
def json? : Piece parse → Option Json
  | bad _ => none
  | good frame => some frame.json

end Piece

/--
The call removes exactly the section, and the frames of the traffic that
follows it are all delivered once `ProcessBuffer` was called often enough.
-/
structure Resynchronised
    (parse : WxString → Option Json)
    (bad : BadSection)
    (rest : WxString) : Prop where
  removed : doProcessBuffer parse (bad.whole ++ rest) = (none, rest)
  delivered :
    ∀ (pieces : List (Piece parse)) (next : Frame parse) tail chunks,
      tail <+: next.text → tail ≠ next.text →
        rest ++ chunks.flatten = pieces.flatMap Piece.text ++ tail →
          ∃ calls,
            receiveAfter parse (bad.whole ++ rest)
                (chunks ++ List.replicate calls []) =
              (pieces.filterMap Piece.json?, tail)

/--
The parser is synchronised again behind no section.  The one rest that a
call leaves is the section itself, and there the parser is stuck with it.
-/
theorem not_resynchronised
    (parse : WxString → Option Json)
    (frame : Frame parse)
    (bad : BadSection)
    (rest : WxString) :
    ¬ Resynchronised parse bad rest := by
  rintro ⟨removed, delivered⟩
  obtain ⟨missing, rfl⟩ :=
    (doProcessBuffer_removes_iff parse bad.toHeaderSection rest).mp removed
  have refused :
      ∀ value, bad.headers.lookup contentLengthName = some value →
        atol value ≤ 0 := by
    intro value present
    rw [missing] at present
    cases present
  -- the section again and one frame behind it, with nothing after
  have started : ([] : WxString) ≠ frame.text := by
    intro empty
    have positive := frame.positive
    rw [(List.append_eq_nil_iff.mp empty.symm).2] at positive
    cases positive
  obtain ⟨calls, received⟩ :=
    delivered [.bad bad, .good frame] frame [] [frame.text]
      List.nil_prefix started (by simp [Piece.text])
  have stuck :=
    nothing_delivered parse bad.toHeaderSection refused bad.whole
      ([frame.text] ++ List.replicate calls [])
  rw [received] at stuck
  cases stuck.silent

/-- A section with a header of another name only. -/
def contentTypeSection : BadSection where
  text := "Content-Type: application/json".toList
  ends := rfl
  unusable := by
    intro value present
    cases present

/-- A section that announces the length zero. -/
def zeroLengthSection : BadSection where
  text := "Content-Length: 0".toList
  ends := rfl
  unusable := by
    intro value present
    cases present
    exact Or.inr (by decide)

/-- One call loses the frame that follows, the other changes nothing. -/
theorem badSections_not_removed :
    doProcessBuffer parseEmptyObject
        (contentTypeSection.whole ++ emptyObjectFrame.text) =
      (none, contentTypeSection.whole) ∧
    doProcessBuffer parseEmptyObject
        (zeroLengthSection.whole ++ emptyObjectFrame.text) =
      (none, zeroLengthSection.whole ++ emptyObjectFrame.text) ∧
    ¬ Resynchronised parseEmptyObject contentTypeSection
      emptyObjectFrame.text ∧
    ¬ Resynchronised parseEmptyObject zeroLengthSection
      emptyObjectFrame.text := by
  refine ⟨rfl, rfl, ?_, ?_⟩
  · intro resynchronised
    cases resynchronised.removed
  · intro resynchronised
    cases resynchronised.removed

end DebuggerDap.Protocol.Resynchronisation
