import DebuggerDap.Protocol.JsonRpc
import DebuggerDap.Protocol.JsonTree
import Mathlib.Data.List.TakeWhile

/-!
# Well-formed frames and fragmentation independence

A frame is a header section, the blank line and a payload.  Header lines are
separated by CRLF; exactly one of them announces the length of the payload.
The structures below carry these conditions as fields, so every value of
`Frame` is a frame an adapter may send.

The section on reading proves that `DoProcessBuffer` cuts a frame off whole
and waits on every proper prefix of one.  The deframing library then makes
the reception of a stream of frames independent of how it was cut.
-/

namespace DebuggerDap.Protocol.Frames

open DebuggerDap.Text.Strings
open DebuggerDap.Library.FrameStream
open DebuggerDap.Protocol.JsonRpc

variable {Json : Type*}

/-- The blanks an adapter may put around a header name or value. -/
def isBlank (ch : Char) : Bool :=
  ch == ' ' || ch == '\t'

theorem isSpace_of_isBlank {ch : Char} (blank : isBlank ch = true) :
    isSpace ch = true := by
  simp only [isBlank, Bool.or_eq_true, beq_iff_eq] at blank
  rcases blank with rfl | rfl <;> rfl

/-- Nonempty text that does not touch a line separator. -/
structure OneLine (text : WxString) : Prop where
  nonempty : text ≠ []
  noReturn : '\r' ∉ text
  noNewline : '\n' ∉ text

/-- A header line which is not the `Content-Length` line. -/
structure HeaderLine where
  text : WxString
  oneLine : OneLine text
  other : headerName text ≠ contentLengthName

/-- The `Content-Length` line, with blanks around its name and its value. -/
structure LengthLine where
  beforeName : WxString
  afterName : WxString
  beforeValue : WxString
  afterValue : WxString
  digits : WxString
  blankBeforeName : ∀ ch ∈ beforeName, isBlank ch = true
  blankAfterName : ∀ ch ∈ afterName, isBlank ch = true
  blankBeforeValue : ∀ ch ∈ beforeValue, isBlank ch = true
  blankAfterValue : ∀ ch ∈ afterValue, isBlank ch = true
  decimal : ∀ ch ∈ digits, ch.isDigit = true
  nonempty : digits ≠ []

theorem isBlank_nil : ∀ ch ∈ ([] : WxString), isBlank ch = true :=
  List.forall_mem_nil _

theorem isBlank_space : ∀ ch ∈ [' '], isBlank ch = true := by
  simp [isBlank]

def LengthLine.text (line : LengthLine) : WxString :=
  line.beforeName ++
    (contentLengthName ++ line.afterName ++ ':' :: line.beforeValue ++
      line.digits) ++
    line.afterValue

/-- The number a `Content-Length` line announces. -/
def LengthLine.value (line : LengthLine) : Nat :=
  Nat.ofDigitChars 10 line.digits 0

/-- A well-formed frame whose payload the JSON parser accepts. -/
structure Frame (parse : WxString → Option Json) where
  before : List HeaderLine
  lengthLine : LengthLine
  after : List HeaderLine
  payload : WxString
  json : Json
  parsed : parse payload = some json
  counted : lengthLine.value = payload.length
  positive : 0 < payload.length

/-- Lines separated by CRLF. -/
def joinLines : List WxString → WxString
  | [] => []
  | [line] => line
  | line :: next :: lines =>
      line ++ '\r' :: '\n' :: joinLines (next :: lines)

namespace Frame

variable {parse : WxString → Option Json}

def lines (frame : Frame parse) : List WxString :=
  frame.before.map HeaderLine.text ++
    frame.lengthLine.text :: frame.after.map HeaderLine.text

/-- The header section with its separator. -/
def header (frame : Frame parse) : WxString :=
  joinLines frame.lines ++ headerSeparator

def text (frame : Frame parse) : WxString :=
  frame.header ++ frame.payload

end Frame

/-! ## Finding the end of the header section -/

theorem find_separator_crlf
    (str : WxString)
    (noReturn : ∀ ch ∈ str.head?, ch ≠ '\r') :
    find headerSeparator ('\r' :: '\n' :: str) =
      (find headerSeparator str).map (· + 2) := by
  have notHere : ¬ headerSeparator <+: '\r' :: '\n' :: str := by
    rw [headerSeparator, List.cons_prefix_cons, List.cons_prefix_cons]
    rintro ⟨-, -, isPrefix⟩
    cases str with
    | nil => simp at isPrefix
    | cons ch rest =>
        rw [List.cons_prefix_cons] at isPrefix
        exact noReturn ch rfl isPrefix.1.symm
  have notNext : ¬ headerSeparator <+: '\n' :: str :=
    not_prefix_cons (by decide) _ str
  rw [find, if_neg notHere, find, if_neg notNext]
  cases find headerSeparator str <;> rfl

theorem joinLines_head
    (line : WxString)
    (lines : List WxString)
    (oneLine : OneLine line)
    (suffix : WxString) :
    ∀ ch ∈ (joinLines (line :: lines) ++ suffix).head?, ch ≠ '\r' := by
  cases line with
  | nil => exact absurd rfl oneLine.nonempty
  | cons first rest =>
      intro ch member equal
      have isFirst : first = ch := by
        cases lines <;> simpa [joinLines] using member
      apply oneLine.noReturn
      rw [← equal, ← isFirst]
      exact List.mem_cons_self

/-- The first separator of a frame is the one after its header lines. -/
theorem find_joinLines
    (lines : List WxString)
    (nonempty : lines ≠ [])
    (clean : ∀ line ∈ lines, OneLine line)
    (rest : WxString) :
    find headerSeparator (joinLines lines ++ headerSeparator ++ rest) =
      some (joinLines lines).length := by
  induction lines with
  | nil => exact absurd rfl nonempty
  | cons line lines ih =>
      have lineClean := clean line List.mem_cons_self
      cases lines with
      | nil =>
          rw [joinLines, List.append_assoc, headerSeparator,
            find_skip line lineClean.noReturn,
            find_self_append _ _ (by simp)]
          simp
      | cons next lines =>
          have nextClean : OneLine next := clean next (by simp)
          have found := ih (by simp)
            (fun other member =>
              clean other (List.mem_cons_of_mem _ member))
          have skipSeparator :=
            find_separator_crlf
              (joinLines (next :: lines) ++ headerSeparator ++ rest)
              (by
                rw [List.append_assoc]
                exact joinLines_head next lines nextClean _)
          rw [joinLines, List.append_assoc, List.append_assoc,
            headerSeparator, find_skip line lineClean.noReturn,
            ← headerSeparator]
          simp only [List.cons_append, List.append_assoc] at *
          rw [skipSeparator, found]
          simp only [Option.map_some, List.length_append,
            List.length_cons, Option.some.injEq]
          omega

/-! ## Splitting the header section into lines -/

/-- The tokens between newlines: every line but the last keeps its CR. -/
def withReturns : List WxString → List WxString
  | [] => []
  | [line] => [line]
  | line :: next :: lines =>
      (line ++ ['\r']) :: withReturns (next :: lines)

theorem joinLines_eq_intercalate (lines : List WxString) :
    joinLines lines = ['\n'].intercalate (withReturns lines) := by
  induction lines with
  | nil => rfl
  | cons line lines ih =>
      cases lines with
      | nil => simp [joinLines, withReturns]
      | cons next lines =>
          rw [joinLines, ih, withReturns]
          cases lines <;> simp [withReturns, List.intercalate]

theorem mem_withReturns
    {token : WxString}
    {lines : List WxString}
    (member : token ∈ withReturns lines) :
    ∃ line ∈ lines, token = line ∨ token = line ++ ['\r'] := by
  induction lines with
  | nil => cases member
  | cons line lines ih =>
      cases lines with
      | nil =>
          simp only [withReturns, List.mem_singleton] at member
          exact ⟨line, by simp, Or.inl member⟩
      | cons next lines =>
          rcases List.mem_cons.mp member with equal | later
          · exact ⟨line, by simp, Or.inr equal⟩
          · rcases ih later with ⟨found, among, shape⟩
            exact ⟨found, List.mem_cons_of_mem _ among, shape⟩

theorem withReturns_ne_nil
    {lines : List WxString}
    (nonempty : lines ≠ []) :
    withReturns lines ≠ [] := by
  cases lines with
  | nil => exact absurd rfl nonempty
  | cons line lines => cases lines <;> simp [withReturns]

theorem split_joinLines
    (lines : List WxString)
    (nonempty : lines ≠ [])
    (clean : ∀ line ∈ lines, OneLine line) :
    split (joinLines lines) '\n' = withReturns lines := by
  have noNewline : ∀ token ∈ withReturns lines, '\n' ∉ token := by
    intro token member
    rcases mem_withReturns member with ⟨line, among, rfl | rfl⟩
    · exact (clean _ among).noNewline
    · rw [List.mem_append]
      rintro (inLine | inReturn)
      · exact (clean _ among).noNewline inLine
      · revert inReturn
        decide
  have noEmpty :
      ∀ token ∈ withReturns lines, decide (token ≠ []) = true := by
    intro token member
    rcases mem_withReturns member with ⟨line, among, rfl | rfl⟩
    · simpa using (clean _ among).nonempty
    · simp
  rw [split, joinLines_eq_intercalate,
    List.splitOn_intercalate _ noNewline (withReturns_ne_nil nonempty)]
  exact List.filter_eq_self.mpr noEmpty

theorem insertLine_append_return
    (headers : Headers)
    (line : WxString) :
    insertLine headers (line ++ ['\r']) = insertLine headers line := by
  have sameText : trim (line ++ ['\r']) = trim line :=
    trim_append_blank (by simp [isSpace]) line
  simp only [insertLine, headerName, headerValue, sameText]

theorem foldl_insertLine_withReturns
    (lines : List WxString)
    (headers : Headers) :
    (withReturns lines).foldl insertLine headers =
      lines.foldl insertLine headers := by
  induction lines generalizing headers with
  | nil => rfl
  | cons line lines ih =>
      cases lines with
      | nil => rfl
      | cons next lines =>
          rw [withReturns, List.foldl_cons, insertLine_append_return, ih]
          rfl

/-! ## Looking up the announced length -/

theorem lookup_insertLine
    (headers : Headers)
    (line name : WxString) :
    (insertLine headers line).lookup name =
      (headers.lookup name).or
        (if headerName line = name then some (headerValue line)
          else none) := by
  rw [insertLine, insertHeader]
  by_cases same : headerName line = name
  · subst name
    rw [if_pos rfl]
    cases present : headers.lookup (headerName line) with
    | none => simp [List.lookup_append, present]
    | some value => simp [present]
  · have different : (name == headerName line) = false := by
      simpa using fun equal : name = headerName line => same equal.symm
    rw [if_neg same, Option.or_none]
    split
    · rfl
    · simp [List.lookup_append, List.lookup_cons, different]

theorem lookup_foldl_of_other
    (lines : List WxString)
    (headers : Headers)
    (name : WxString)
    (others : ∀ line ∈ lines, headerName line ≠ name) :
    (lines.foldl insertLine headers).lookup name =
      headers.lookup name := by
  induction lines generalizing headers with
  | nil => rfl
  | cons line lines ih =>
      rw [List.foldl_cons,
        ih _ (fun later member =>
          others later (List.mem_cons_of_mem _ member)),
        lookup_insertLine, if_neg (others line List.mem_cons_self),
        Option.or_none]

/-! ## The `Content-Length` line -/

namespace LengthLine

variable (line : LengthLine)

private theorem isSpace_of_isDigit {ch : Char} (digit : ch.isDigit = true) :
    isSpace ch = false := by
  cases blank : isSpace ch with
  | false => rfl
  | true =>
      simp only [isSpace, Bool.or_eq_true, beq_iff_eq] at blank
      rcases blank with ((((rfl | rfl) | rfl) | rfl) | rfl) | rfl <;>
        revert digit <;> decide

theorem digits_tight : Tight line.digits := by
  constructor
  · intro ch member
    exact isSpace_of_isDigit
      (line.decimal ch (List.mem_of_mem_head? member))
  · intro ch member
    exact isSpace_of_isDigit
      (line.decimal ch (List.mem_of_mem_getLast? member))

/-- What remains of the line once it is trimmed. -/
theorem trim_text :
    trim line.text =
      contentLengthName ++ line.afterName ++ ':' :: line.beforeValue ++
        line.digits := by
  apply trim_padded
  · intro ch member
    exact isSpace_of_isBlank (line.blankBeforeName ch member)
  · intro ch member
    exact isSpace_of_isBlank (line.blankAfterValue ch member)
  · constructor
    · intro ch member
      have first : ch = 'C' := by
        simpa [contentLengthName, eq_comm] using member
      rw [first]
      rfl
    · rw [List.getLast?_append_of_ne_nil _ line.nonempty]
      exact line.digits_tight.2

theorem contentLengthName_tight : Tight contentLengthName := by
  constructor <;>
    · intro ch member
      cases member
      rfl

theorem colon_not_mem_name : ':' ∉ contentLengthName ++ line.afterName := by
  intro member
  rcases List.mem_append.mp member with inName | inBlank
  · exact absurd inName (by decide)
  · have blank := line.blankAfterName _ inBlank
    revert blank
    decide

theorem headerName_text : headerName line.text = contentLengthName := by
  rw [headerName, trim_text, List.append_assoc, List.cons_append,
    (cut_append line.colon_not_mem_name _).1]
  have padded :
      trim ([] ++ contentLengthName ++ line.afterName) =
        contentLengthName :=
    trim_padded (by simp)
      (fun ch member => isSpace_of_isBlank (line.blankAfterName ch member))
      contentLengthName_tight
  exact padded

theorem headerValue_text : headerValue line.text = line.digits := by
  rw [headerValue, trim_text, List.append_assoc, List.cons_append,
    (cut_append line.colon_not_mem_name _).2]
  have padded :
      trim (line.beforeValue ++ line.digits ++ []) = line.digits :=
    trim_padded
      (fun ch member => isSpace_of_isBlank (line.blankBeforeValue ch member))
      (by simp) line.digits_tight
  rw [List.append_nil] at padded
  exact padded

/-- `std::atol` reads back the announced number. -/
theorem atol_digits : atol line.digits = line.value := by
  have wholeNumber :
      line.digits.takeWhile Char.isDigit = line.digits :=
    List.takeWhile_eq_self_iff.mpr line.decimal
  rw [atol, ltrim_of_tight line.digits_tight]
  split
  · next rest equal =>
      have digit := line.decimal '-' (by simp [equal])
      cases digit
  · next rest equal =>
      have digit := line.decimal '+' (by simp [equal])
      cases digit
  · rw [leadingNumber, wholeNumber]
    rfl

theorem mem_text
    {ch : Char}
    (member : ch ∈ line.text) :
    isBlank ch = true ∨ ch ∈ contentLengthName ∨ ch = ':' ∨
      ch.isDigit = true := by
  simp only [text, List.mem_append, List.mem_cons] at member
  rcases member with
    (blank | (((inName | blank) | rfl | blank) | digit)) | blank
  · exact Or.inl (line.blankBeforeName ch blank)
  · exact Or.inr (Or.inl inName)
  · exact Or.inl (line.blankAfterName ch blank)
  · exact Or.inr (Or.inr (Or.inl rfl))
  · exact Or.inl (line.blankBeforeValue ch blank)
  · exact Or.inr (Or.inr (Or.inr (line.decimal ch digit)))
  · exact Or.inl (line.blankAfterValue ch blank)

theorem oneLine_text : OneLine line.text where
  nonempty := by simp [text, contentLengthName]
  noReturn := by
    intro member
    have shape := line.mem_text member
    revert shape
    decide
  noNewline := by
    intro member
    have shape := line.mem_text member
    revert shape
    decide

end LengthLine

/-! ## Reading whole and partial frames -/

namespace Frame

variable {parse : WxString → Option Json} (frame : Frame parse)

theorem lines_ne_nil : frame.lines ≠ [] := by
  simp [lines]

theorem lines_oneLine : ∀ line ∈ frame.lines, OneLine line := by
  intro line member
  simp only [lines, List.mem_append, List.mem_cons,
    List.mem_map] at member
  rcases member with ⟨header, -, rfl⟩ | rfl | ⟨header, -, rfl⟩
  · exact header.oneLine
  · exact frame.lengthLine.oneLine_text
  · exact header.oneLine

theorem header_length :
    frame.header.length = (joinLines frame.lines).length + 4 := by
  simp [header, headerSeparator]

/-- The announced length is the first and only `Content-Length` value. -/
theorem lookup_contentLength :
    (frame.lines.foldl insertLine []).lookup contentLengthName =
      some frame.lengthLine.digits := by
  have others :
      ∀ headers : List HeaderLine, ∀ line ∈ headers.map HeaderLine.text,
        headerName line ≠ contentLengthName := by
    intro headers line member
    rcases List.mem_map.mp member with ⟨header, -, rfl⟩
    exact header.other
  rw [lines, List.foldl_append, List.foldl_cons,
    lookup_foldl_of_other _ _ _ (others frame.after),
    lookup_insertLine, frame.lengthLine.headerName_text, if_pos rfl,
    frame.lengthLine.headerValue_text,
    lookup_foldl_of_other _ _ _ (others frame.before)]
  rfl

/-- Any text that starts with the whole header section reads the same. -/
theorem readHeaders_header (rest : WxString) :
    readHeaders (frame.header ++ rest) =
      some (frame.lines.foldl insertLine [], frame.header.length) := by
  have found :=
    find_joinLines frame.lines frame.lines_ne_nil frame.lines_oneLine rest
  have section_ :
      (frame.header ++ rest).take (joinLines frame.lines).length =
        joinLines frame.lines := by
    rw [header, List.append_assoc, List.take_left']
    rfl
  rw [readHeaders, header, found]
  dsimp only
  rw [← header, section_,
    split_joinLines _ frame.lines_ne_nil frame.lines_oneLine,
    foldl_insertLine_withReturns, header_length]

/-- A buffer that ends inside the header section has no separator yet. -/
theorem readHeaders_of_short
    {part : WxString}
    (isPrefix : part <+: frame.text)
    (short : part.length < frame.header.length) :
    readHeaders part = none := by
  have found :=
    find_joinLines frame.lines frame.lines_ne_nil frame.lines_oneLine
      frame.payload
  rw [readHeaders]
  cases early : find headerSeparator part with
  | none => rfl
  | some position =>
      rcases isPrefix with ⟨missing, whole⟩
      have same := find_append_of_some early missing
      rw [whole, text, header, found] at same
      cases same
      have fits := find_length_le early
      rw [frame.header_length] at short
      simp only [headerSeparator, List.length_cons,
        List.length_nil] at fits
      omega

/-- A whole frame at the head of the buffer is cut off and parsed. -/
theorem doProcessBuffer_text (rest : WxString) :
    doProcessBuffer parse (frame.text ++ rest) =
      (some frame.json, rest) := by
  have nonempty : frame.text ++ rest ≠ [] := by
    simp [text, header, headerSeparator]
  have announced := frame.lengthLine.atol_digits
  rw [frame.counted] at announced
  have positive := frame.positive
  rw [doProcessBuffer, if_neg nonempty, text, List.append_assoc,
    readHeaders_header]
  dsimp only
  rw [lookup_contentLength]
  dsimp only
  rw [announced, if_neg (by omega),
    if_neg (by simp only [List.length_append]; omega)]
  simp [frame.parsed]

/-- A proper prefix of a frame is left in the buffer untouched. -/
theorem doProcessBuffer_prefix
    {part : WxString}
    (isPrefix : part <+: frame.text)
    (proper : part ≠ frame.text) :
    doProcessBuffer parse part = (none, part) := by
  have shorter : part.length < frame.text.length := by
    refine lt_of_le_of_ne isPrefix.length_le ?_
    intro sameLength
    exact proper (isPrefix.eq_of_length sameLength)
  have announced := frame.lengthLine.atol_digits
  rw [frame.counted] at announced
  rw [doProcessBuffer]
  split
  · rfl
  · by_cases short : part.length < frame.header.length
    · rw [frame.readHeaders_of_short isPrefix short]
    · have headerRead : frame.header <+: part :=
        List.prefix_of_prefix_length_le (List.prefix_append _ _)
          isPrefix (Nat.le_of_not_lt short)
      rcases headerRead with ⟨received, rfl⟩
      rw [frame.readHeaders_header]
      dsimp only
      rw [lookup_contentLength]
      dsimp only
      rw [announced]
      simp only [text, List.length_append] at shorter
      split
      · rfl
      · rw [if_pos (by simp only [List.length_append]; omega)]

/-- Frames are a format of the `JsonRPC` deframer. -/
theorem format :
    Deframer.Format (deframer parse)
      (fun frame : Frame parse => frame.text) Frame.json where
  idle := doProcessBuffer_nil parse
  delivers := fun frame rest => frame.doProcessBuffer_text rest
  waits := fun frame _ isPrefix proper =>
    frame.doProcessBuffer_prefix isPrefix proper

end Frame

/--
Fragmentation independence: however the text of complete frames and a proper
prefix of a further frame is cut into chunks, the callback runs once per
complete frame, in order, and the unfinished frame stays in the buffer.
-/
theorem receive_frames
    (parse : WxString → Option Json)
    (frames : List (Frame parse))
    (next : Frame parse)
    (tail : WxString)
    (isPrefix : tail <+: next.text)
    (proper : tail ≠ next.text)
    (chunks : List WxString)
    (whole : chunks.flatten = frames.flatMap Frame.text ++ tail) :
    receive parse chunks = (frames.map Frame.json, tail) := by
  rw [receive_eq_deframer,
    Frame.format.receive_stream (Or.inr ⟨next, isPrefix, proper⟩)
      chunks frames [] [] (doProcessBuffer_nil parse) whole]
  rfl

/-- A parser that accepts the empty object only. -/
def parseEmptyObject (payload : WxString) : Option JsonTree.Json :=
  if payload = ['{', '}'] then some (.object []) else none

/-- `Content-Length: 2` and the payload of an empty object. -/
def emptyObjectFrame : Frame parseEmptyObject where
  before := []
  lengthLine :=
    { beforeName := []
      afterName := []
      beforeValue := [' ']
      afterValue := []
      digits := ['2']
      blankBeforeName := isBlank_nil
      blankAfterName := isBlank_nil
      blankBeforeValue := isBlank_space
      blankAfterValue := isBlank_nil
      decimal := by simp
      nonempty := by decide }
  after := []
  payload := ['{', '}']
  json := .object []
  parsed := rfl
  counted := by decide
  positive := by decide

/-- Two frames and half of a third one, cut inside the second separator. -/
theorem receive_frames_cut_in_separator :
    receive parseEmptyObject
        [emptyObjectFrame.text ++ emptyObjectFrame.text.take 19,
          emptyObjectFrame.text.drop 19 ++ emptyObjectFrame.text.take 9] =
      ([.object [], .object []], emptyObjectFrame.text.take 9) := by
  exact
    receive_frames parseEmptyObject [emptyObjectFrame, emptyObjectFrame]
      emptyObjectFrame (emptyObjectFrame.text.take 9)
      (List.take_prefix _ _) (by decide) _ (by decide)

end DebuggerDap.Protocol.Frames
