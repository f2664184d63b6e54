import DebuggerDap.Library.Pattern
import DebuggerDap.Text.Numbers

/-!
# Reading a memory dump

The debugger prints memory as an address, perhaps the symbol it belongs to,
and bytes in hexadecimal.  The bytes are found by the letter `x` in what
stands behind the colon: the two characters after each are read as a number.

A dump is decoded whatever its symbol is.  Any other text with a colon is
taken for a dump as well, and then nothing is known about the two characters,
or whether there are two: reading past the end is undefined, and a text that
is no number leaves the variable as it was, which is never set.
-/

namespace DebuggerDap.Plugin.ExamineMemory

open DebuggerDap.Text.Strings
open DebuggerDap.Text.Numbers
open DebuggerDap.Library.Pattern

/-! ## The parts of a line -/

/-- `[[:blank:]]`. -/
def isBlank (ch : Char) : Bool :=
  ch == ' ' || ch == '\t'

/-- `[0-9a-f]`. -/
def isLowerHexDigit (ch : Char) : Bool :=
  ch.isDigit || (decide ('a' ≤ ch) && decide (ch ≤ 'f'))

/-- A dot of the pattern. -/
def isAny (ch : Char) : Bool :=
  ch != '\n'

/-- `[[:blank:]]*(0x[0-9a-f]+)[[:blank:]]<.+>:[[:blank:]]+(.+)`. -/
def reExamineMemoryLine : List (Piece Char) :=
  [.star isBlank, .one (· == '0'), .one (· == 'x'), .plus isLowerHexDigit,
    .one isBlank, .one (· == '<'), .plus isAny, .one (· == '>'),
    .one (· == ':'), .plus isBlank, .plus isAny]

/-- The two groups of the pattern. -/
def getMatches (outputLine : WxString) : Option (WxString × WxString) :=
  (search reExamineMemoryLine outputLine).map fun taken =>
    (((taken.drop 1).take 3).flatten, (taken.drop 10).flatten)

/-- The address and the memory, unless the line is rejected. -/
def partsOf (outputLine : WxString) : Option (WxString × WxString) :=
  if "Cannot access memory at address ".toList.isPrefixOf outputLine then none
  else
    match getMatches outputLine with
    | some parts => some parts
    | none =>
        match find [':'] outputLine with
        | none => none
        | some _ => some (beforeFirst outputLine ':', afterFirst outputLine ':')

/-! ## The bytes -/

/-- What the language leaves open, and the width of `unsigned long`. -/
structure Machine where
  long : UnsignedWidth
  /-- What is read at a position past the end. -/
  beyond : Nat → Char
  /-- What `value` holds before it is set. -/
  unset : Nat → Nat

/-- A byte that is pushed, and how it was read. -/
structure PushedByte where
  /-- The position of the `x`; the two after it are read. -/
  position : Nat
  /-- What `ToULong` returns. -/
  parsed : Bool
  value : UInt8
  deriving DecidableEq, Repr

/-- The loop from one `x` to the next, from a position on. -/
def pushedBytes (machine : Machine) : Nat → WxString → List PushedByte
  | _, [] => []
  | pos, ch :: rest =>
      if ch = 'x' then
        let first := rest.head?.getD (machine.beyond (pos + 1))
        let second := (rest.drop 1).head?.getD (machine.beyond (pos + 2))
        let read :=
          toULongHex machine.long [first, second] (machine.unset pos)
        { position := pos
          parsed := read.1
          value := UInt8.ofNat read.2 } ::
          pushedBytes machine (pos + 1) rest
      else pushedBytes machine (pos + 1) rest

/-- The result, the address and the bytes. -/
def parseExamineMemoryLine
    (machine : Machine)
    (outputLine : WxString) : Bool × WxString × List UInt8 :=
  match partsOf outputLine with
  | none => (false, [], [])
  | some (resultAddr, memory) =>
      (true, resultAddr, (pushedBytes machine 0 memory).map (·.value))

/-! ## Dumps -/

/-- A byte as it is printed, behind some blanks. -/
structure PrintedByte where
  gap : WxString
  high : Char
  low : Char
  value : UInt8
  gap_ne_nil : gap ≠ []
  gap_blank : ∀ ch ∈ gap, isBlank ch = true
  high_eq : hexDigit? high = some (value.toNat / 16)
  low_eq : hexDigit? low = some (value.toNat % 16)

def PrintedByte.text (byte : PrintedByte) : WxString :=
  byte.gap ++ ['0', 'x', byte.high, byte.low]

/-- Any byte, as it is printed in lower case. -/
def PrintedByte.lower (value : UInt8) : PrintedByte where
  gap := "    ".toList
  high := Nat.digitChar (value.toNat / 16)
  low := Nat.digitChar (value.toNat % 16)
  value := value
  gap_ne_nil := List.cons_ne_nil _ _
  gap_blank := List.all_eq_true.mp rfl
  high_eq := by
    have small := value.toNat_lt
    exact hexDigit?_digitChar _ (by omega)
  low_eq := hexDigit?_digitChar _ (by omega)

/-- The name of a symbol. -/
structure Symbol where
  name : WxString
  ne_nil : name ≠ []
  oneLine : '\n' ∉ name

/-- A line of a dump; it may have a symbol. -/
structure DumpLine where
  digits : WxString
  symbol : Option Symbol
  bytes : List PrintedByte
  digits_ne_nil : digits ≠ []
  digits_lower : ∀ ch ∈ digits, isLowerHexDigit ch = true
  bytes_ne_nil : bytes ≠ []

namespace DumpLine

variable (line : DumpLine)

def address : WxString :=
  '0' :: 'x' :: line.digits

def memory : WxString :=
  line.bytes.flatMap PrintedByte.text

def text : WxString :=
  match line.symbol with
  | none => line.address ++ ':' :: line.memory
  | some symbol =>
      line.address ++ ' ' :: '<' :: symbol.name ++ '>' :: ':' :: line.memory

/-- Any bytes have a dump, at any address and with any symbol. -/
theorem exists_of_values
    {digits : WxString}
    {values : List UInt8}
    (symbol : Option Symbol)
    (given : digits ≠ [])
    (lower : ∀ ch ∈ digits, isLowerHexDigit ch = true)
    (nonempty : values ≠ []) :
    ∃ line : DumpLine,
      line.digits = digits ∧
        line.symbol = symbol ∧
        line.bytes.map (·.value) = values := by
  have printed :
      (values.map PrintedByte.lower).map (·.value) = values := by
    rw [List.map_map]
    exact List.map_id values
  refine ⟨⟨digits, symbol, values.map PrintedByte.lower, given, lower, ?_⟩,
    rfl, rfl, printed⟩
  rw [ne_eq, List.map_eq_nil_iff]
  exact nonempty

end DumpLine

section Dumps

variable (machine : Machine)

theorem pushedBytes_skip
    {skipped : WxString}
    (absent : 'x' ∉ skipped)
    (pos : Nat)
    (rest : WxString) :
    pushedBytes machine pos (skipped ++ rest) =
      pushedBytes machine (pos + skipped.length) rest := by
  induction skipped generalizing pos with
  | nil => rfl
  | cons ch skipped inductionHypothesis =>
      rw [List.mem_cons, not_or] at absent
      rw [List.cons_append, pushedBytes, if_neg (Ne.symm absent.1),
        inductionHypothesis absent.2, List.length_cons, Nat.add_assoc,
        Nat.add_comm 1]

theorem isHexDigit_of_eq
    {ch : Char}
    {digit : Nat}
    (digitEq : hexDigit? ch = some digit) : isHexDigit ch = true := by
  rw [isHexDigit, digitEq]
  rfl

theorem ne_x_of_isHexDigit {ch : Char} (isDigit : isHexDigit ch = true) :
    'x' ≠ ch := by
  rintro rfl
  exact absurd isDigit (by decide)

namespace PrintedByte

variable (byte : PrintedByte)

theorem text_append (rest : WxString) :
    byte.text ++ rest =
      byte.gap ++ '0' :: 'x' :: byte.high :: byte.low :: rest := by
  rw [text, List.append_assoc]
  rfl

/-- The two digits are read as the byte they were printed for. -/
theorem toULongHex_digits (value : Nat) :
    toULongHex machine.long [byte.high, byte.low] value =
      (true, byte.value.toNat) := by
  have digits : ∀ ch ∈ [byte.high, byte.low], isHexDigit ch = true := by
    intro ch member
    rcases List.mem_pair.mp member with rfl | rfl
    · exact isHexDigit_of_eq byte.high_eq
    · exact isHexDigit_of_eq byte.low_eq
  have number : hexNumber [byte.high, byte.low] = byte.value.toNat := by
    simp only [hexNumber, List.foldl_cons, List.foldl_nil, byte.high_eq,
      byte.low_eq, Option.getD_some]
    omega
  have fits : byte.value.toNat < 2 ^ machine.long.bits :=
    calc
      byte.value.toNat < 2 ^ 8 := byte.value.toNat_lt
      _ ≤ 2 ^ machine.long.bits :=
        Nat.pow_le_pow_right (by decide)
          ((by decide : 8 ≤ 32).trans machine.long.room)
  rw [toULongHex_of_hexDigits (by simp) digits (number ▸ fits) value, number]

/-- What is pushed for a printed byte, wherever it stands. -/
theorem pushedBytes_digits (pos : Nat) (rest : WxString) :
    (pushedBytes machine pos
        ('0' :: 'x' :: byte.high :: byte.low :: rest)).map (·.value) =
      byte.value ::
        (pushedBytes machine (pos + 4) rest).map (·.value) := by
  have high := ne_x_of_isHexDigit (isHexDigit_of_eq byte.high_eq)
  have low := ne_x_of_isHexDigit (isHexDigit_of_eq byte.low_eq)
  rw [pushedBytes, if_neg (by decide), pushedBytes, if_pos rfl,
    pushedBytes, if_neg high.symm, pushedBytes, if_neg low.symm,
    List.map_cons]
  simp only [List.head?_cons, Option.getD_some, List.drop_succ_cons,
    List.drop_zero, toULongHex_digits, UInt8.ofNat_toNat]

end PrintedByte

theorem ne_x_of_isBlank {ch : Char} (blank : isBlank ch = true) :
    'x' ≠ ch := by
  rintro rfl
  exact absurd blank (by decide)

/-- The bytes of a dump are pushed one after the other. -/
theorem pushedBytes_flatMap (pos : Nat) (bytes : List PrintedByte) :
    (pushedBytes machine pos (bytes.flatMap PrintedByte.text)).map
        (·.value) =
      bytes.map (·.value) := by
  induction bytes generalizing pos with
  | nil => rfl
  | cons byte bytes inductionHypothesis =>
      have noX : 'x' ∉ byte.gap := fun member =>
        ne_x_of_isBlank (byte.gap_blank 'x' member) rfl
      rw [List.flatMap_cons, byte.text_append, pushedBytes_skip machine noX,
        byte.pushedBytes_digits, inductionHypothesis, List.map_cons]

/-- What stands in a dump besides the name of its symbol. -/
def isDumpChar (ch : Char) : Bool :=
  isBlank ch || ch == 'x' || isHexDigit ch

theorem isDumpChar_of_mem_memory
    {bytes : List PrintedByte}
    {ch : Char}
    (member : ch ∈ bytes.flatMap PrintedByte.text) :
    isDumpChar ch = true := by
  rcases List.mem_flatMap.mp member with ⟨byte, -, inByte⟩
  rcases List.mem_append.mp inByte with inGap | inDigits
  · simp [isDumpChar, byte.gap_blank ch inGap]
  · simp only [List.mem_cons, List.not_mem_nil, or_false] at inDigits
    rcases inDigits with rfl | rfl | rfl | rfl
    · decide
    · decide
    · simp [isDumpChar, isHexDigit_of_eq byte.high_eq]
    · simp [isDumpChar, isHexDigit_of_eq byte.low_eq]

theorem isHexDigit_of_isLowerHexDigit
    {ch : Char}
    (lower : isLowerHexDigit ch = true) : isHexDigit ch = true := by
  rw [isLowerHexDigit, Bool.or_eq_true, Bool.and_eq_true,
    decide_eq_true_eq, decide_eq_true_eq] at lower
  rw [isHexDigit, hexDigit?]
  by_cases decimal : ch.isDigit = true
  · rw [if_pos decimal]
    rfl
  · rw [if_neg decimal, if_pos (lower.resolve_left decimal)]
    rfl

namespace DumpLine

variable (line : DumpLine)

theorem isDumpChar_of_mem_address
    {ch : Char}
    (member : ch ∈ line.address) : isDumpChar ch = true := by
  rcases List.mem_cons.mp member with rfl | inRest
  · decide
  · rcases List.mem_cons.mp inRest with rfl | inDigits
    · decide
    · have digit :=
        isHexDigit_of_isLowerHexDigit (line.digits_lower ch inDigits)
      simp [isDumpChar, digit]

/-- The memory is that of the first byte and what follows. -/
theorem memory_eq :
    ∃ byte bytes,
      line.bytes = byte :: bytes ∧
        line.memory =
          byte.gap ++ '0' :: 'x' :: byte.high :: byte.low ::
            bytes.flatMap PrintedByte.text := by
  rcases List.exists_cons_of_ne_nil line.bytes_ne_nil with
    ⟨byte, bytes, bytesEq⟩
  refine ⟨byte, bytes, bytesEq, ?_⟩
  rw [memory, bytesEq, List.flatMap_cons, byte.text_append]

/-- The part of the pattern behind the name of a symbol. -/
theorem matchPrefix_behindSymbol
    {gap data : WxString}
    (gap_ne_nil : gap ≠ [])
    (gap_blank : ∀ ch ∈ gap, isBlank ch = true)
    (data_ne_nil : data ≠ [])
    (data_dump : ∀ ch ∈ data, isDumpChar ch = true)
    (dataStart : ∀ ch ∈ data.head?, isBlank ch = false) :
    matchPrefix
        [.one (· == '>'), .one (· == ':'), .plus isBlank, .plus isAny]
        ('>' :: ':' :: (gap ++ data)) =
      some [['>'], [':'], gap, data] := by
  have oneLine : ∀ ch ∈ data, isAny ch = true := by
    intro ch member
    rw [isAny, bne_iff_ne]
    rintro rfl
    exact absurd (data_dump '\n' member) (by decide)
  have toTheEnd :
      matchPrefix [.plus isAny] (data ++ []) = some [data] :=
    matchPrefix_run rfl oneLine (List.length_pos_iff.mpr data_ne_nil)
      nofun rfl
  rw [List.append_nil] at toTheEnd
  have blanks :
      matchPrefix [.plus isBlank, .plus isAny] (gap ++ data) =
        some [gap, data] :=
    matchPrefix_run rfl gap_blank (List.length_pos_iff.mpr gap_ne_nil)
      dataStart toTheEnd
  rw [matchPrefix_one rfl, matchPrefix_one rfl, blanks]
  rfl

/-- The dot takes the whole name: no other mark for its end comes later. -/
theorem matchPrefix_symbol
    {gap data : WxString}
    (symbol : Symbol)
    (gap_ne_nil : gap ≠ [])
    (gap_blank : ∀ ch ∈ gap, isBlank ch = true)
    (data_ne_nil : data ≠ [])
    (data_dump : ∀ ch ∈ data, isDumpChar ch = true)
    (dataStart : ∀ ch ∈ data.head?, isBlank ch = false) :
    matchPrefix
        [.plus isAny, .one (· == '>'), .one (· == ':'), .plus isBlank,
          .plus isAny]
        (symbol.name ++ '>' :: ':' :: (gap ++ data)) =
      some [symbol.name, ['>'], [':'], gap, data] := by
  refine matchPrefix_many rfl ?_ (List.length_pos_iff.mpr symbol.ne_nil)
    (matchPrefix_behindSymbol gap_ne_nil gap_blank data_ne_nil data_dump
      dataStart) ?_
  · intro ch member
    show isAny ch = true
    rw [isAny, bne_iff_ne]
    rintro rfl
    exact symbol.oneLine member
  · intro skipped later restEq nonempty _
    rcases List.exists_cons_of_ne_nil nonempty with ⟨first, others, rfl⟩
    have behind : ':' :: (gap ++ data) = others ++ later :=
      (List.cons.inj restEq).2
    refine matchPrefix_eq_none_of_absent List.mem_cons_self
      (Nat.zero_lt_one) fun ch member => ?_
    have inside : ch ∈ ':' :: (gap ++ data) :=
      behind ▸ List.mem_append_right others member
    show (ch == '>') = false
    rw [beq_eq_false_iff_ne]
    rintro rfl
    rcases List.mem_cons.mp inside with colon | inMemory
    · cases colon
    · rcases List.mem_append.mp inMemory with inGap | inData
      · exact absurd (gap_blank '>' inGap) (by decide)
      · exact absurd (data_dump '>' inData) (by decide)

/-- With a symbol the pattern finds the address and the bytes. -/
theorem getMatches_of_symbol
    {symbol : Symbol}
    (hasSymbol : line.symbol = some symbol) :
    ∃ byte bytes,
      line.bytes = byte :: bytes ∧
        getMatches line.text =
          some
            (line.address,
              '0' :: 'x' :: byte.high :: byte.low ::
                bytes.flatMap PrintedByte.text) := by
  rcases line.memory_eq with ⟨byte, bytes, bytesEq, memoryEq⟩
  refine ⟨byte, bytes, bytesEq, ?_⟩
  generalize dataEq :
    '0' :: 'x' :: byte.high :: byte.low ::
      bytes.flatMap PrintedByte.text = data at memoryEq
  have inMemory : ∀ ch ∈ data, isDumpChar ch = true := by
    intro ch member
    have inAll : ch ∈ line.memory :=
      memoryEq ▸ List.mem_append_right byte.gap member
    exact isDumpChar_of_mem_memory inAll
  have symbolMatch := matchPrefix_symbol symbol byte.gap_ne_nil
    byte.gap_blank (by simp [← dataEq]) inMemory
    (by simp [← dataEq, isBlank])
  have bracket :
      matchPrefix
          [.one isBlank, .one (· == '<'), .plus isAny, .one (· == '>'),
            .one (· == ':'), .plus isBlank, .plus isAny]
          (' ' :: '<' :: (symbol.name ++ '>' :: ':' :: (byte.gap ++ data))) =
        some
          [[' '], ['<'], symbol.name, ['>'], [':'], byte.gap, data] := by
    rw [matchPrefix_one rfl, matchPrefix_one rfl, symbolMatch]
    rfl
  have digits := @matchPrefix_run Char _ (.plus isLowerHexDigit) _ _ _ rfl
    line.digits_lower (List.length_pos_iff.mpr line.digits_ne_nil)
    (by simp [Piece.plus, isLowerHexDigit]) bracket
  have textEq :
      line.text =
        '0' :: 'x' ::
          (line.digits ++
            ' ' :: '<' ::
              (symbol.name ++ '>' :: ':' :: (byte.gap ++ data))) := by
    rw [text, hasSymbol, memoryEq]
    simp [address]
  have whole :
      matchPrefix reExamineMemoryLine ([] ++ line.text) =
        some
          [[], ['0'], ['x'], line.digits, [' '], ['<'], symbol.name, ['>'],
            [':'], byte.gap, data] := by
    refine matchPrefix_run rfl nofun (Nat.le_refl 0) ?_ ?_
    · simp [textEq, Piece.star, isBlank]
    · rw [textEq, matchPrefix_one rfl, matchPrefix_one rfl, digits]
      rfl
  rw [List.nil_append] at whole
  rw [getMatches, search_of_matchPrefix whole]
  simp [address]

/-- Without a symbol there is nothing for the pattern to match. -/
theorem getMatches_of_noSymbol (noSymbol : line.symbol = none) :
    getMatches line.text = none := by
  have textEq : line.text = line.address ++ ':' :: line.memory := by
    rw [text, noSymbol]
  have noBracket :
      ∀ ch ∈ line.text, (Piece.one (· == '<')).accepts ch = false := by
    intro ch member
    show (ch == '<') = false
    rw [beq_eq_false_iff_ne]
    rintro rfl
    rw [textEq] at member
    rcases List.mem_append.mp member with inAddress | behind
    · exact absurd (line.isDumpChar_of_mem_address inAddress) (by decide)
    · rcases List.mem_cons.mp behind with colon | inMemory
      · cases colon
      · exact absurd (isDumpChar_of_mem_memory inMemory) (by decide)
  have needed : Piece.one (· == '<') ∈ reExamineMemoryLine := by
    simp [reExamineMemoryLine]
  rw [getMatches,
    search_eq_none_of_absent needed Nat.zero_lt_one noBracket]
  rfl

/-- A dump is not one of the errors that are rejected. -/
theorem not_rejected :
    "Cannot access memory at address ".toList.isPrefixOf line.text =
      false := by
  rw [text]
  split
  · rfl
  · rfl

/-- The parts of a dump are its address and a text with its bytes. -/
theorem partsOf_text :
    ∃ memory,
      partsOf line.text = some (line.address, memory) ∧
        (pushedBytes machine 0 memory).map (·.value) =
          line.bytes.map (·.value) := by
  rw [partsOf, line.not_rejected, if_neg Bool.false_ne_true]
  cases hasSymbol : line.symbol with
  | some symbol =>
      rcases line.getMatches_of_symbol hasSymbol with
        ⟨byte, bytes, bytesEq, matched⟩
      rw [matched]
      refine ⟨_, rfl, ?_⟩
      rw [byte.pushedBytes_digits, pushedBytes_flatMap, bytesEq,
        List.map_cons]
  | none =>
      have textEq : line.text = line.address ++ ':' :: line.memory := by
        rw [text, hasSymbol]
      have noColon : ':' ∉ line.address := fun member =>
        absurd (line.isDumpChar_of_mem_address member) (by decide)
      have colon : find [':'] line.text = some line.address.length := by
        have here : find [':'] (':' :: line.memory) = some 0 :=
          find_self_append [':'] line.memory (by decide)
        rw [textEq, find_skip line.address noColon, here, Option.map_some,
          Nat.zero_add]
      rw [line.getMatches_of_noSymbol hasSymbol, colon, textEq,
        (cut_append noColon line.memory).1,
        (cut_append noColon line.memory).2]
      exact ⟨line.memory, rfl, pushedBytes_flatMap machine 0 line.bytes⟩

/-- A dump is decoded. -/
theorem parseExamineMemoryLine_text :
    parseExamineMemoryLine machine line.text =
      (true, line.address, line.bytes.map (·.value)) := by
  rcases line.partsOf_text machine with ⟨memory, parts, pushed⟩
  rw [parseExamineMemoryLine, parts]
  exact congrArg (fun bytes => (true, line.address, bytes)) pushed

end DumpLine

end Dumps

/-! ## Other texts -/

/--
Two characters `ToULong` takes for a number: digits, or a digit behind a
blank or a sign, or before a zero that ends the text.
-/
def ReadsAsNumber (first second : Char) : Prop :=
  (isHexDigit first = true ∧ (isHexDigit second = true ∨ second = '\x00')) ∨
    ((isSpace first = true ∨ first = '-' ∨ first = '+') ∧
      isHexDigit second = true)

/-- Every `x` in the memory stands before a number of two characters. -/
def NumberBehindEachX (memory : WxString) : Prop :=
  ∀ rest, 'x' :: rest <:+ memory →
    ∃ first second after,
      rest = first :: second :: after ∧ ReadsAsNumber first second

/-- What is read lies inside the memory and is a number. -/
def SafelyRead (memory : WxString) (pushed : PushedByte) : Prop :=
  (∀ index ∈ [pushed.position + 1, pushed.position + 2],
    index < memory.length) ∧
    pushed.parsed = true

/-- Whatever is read for a line is read safely. -/
def SafeLine (machine : Machine) (outputLine : WxString) : Prop :=
  ∀ parts ∈ partsOf outputLine,
    ∀ pushed ∈ pushedBytes machine 0 parts.2, SafelyRead parts.2 pushed

section Safety

variable (machine : Machine) {first second : Char}

theorem mem_blanksAndSigns_iff (ch : Char) :
    ch ∈ blanksAndSigns ↔ isSpace ch = true ∨ ch = '-' ∨ ch = '+' := by
  simp only [isSpace, Bool.or_eq_true, beq_iff_eq, blanksAndSigns,
    List.mem_cons, List.not_mem_nil, or_false]
  tauto

/-- A digit is no blank and no sign. -/
theorem isHexDigit_of_inFront
    (inFront : isSpace first = true ∨ first = '-' ∨ first = '+') :
    isHexDigit first = false := by
  have special : ∀ ch ∈ blanksAndSigns, isHexDigit ch = false := by
    simp [blanksAndSigns, isHexDigit, hexDigit?]
  exact special first ((mem_blanksAndSigns_iff first).mpr inFront)

/-- A text of at most one character has no mark in front of a digit. -/
theorem hexDigitsOf_short
    {body : WxString}
    (short : body.length ≤ 2) : hexDigitsOf body = body := by
  unfold hexDigitsOf
  split
  · simp only [List.length_cons] at short
    omega
  · rfl

/-- Only the second of two characters is left behind a blank or a sign. -/
theorem unsigned_inFront
    (inFront : isSpace first = true ∨ first = '-' ∨ first = '+') :
    unsigned [first, second] = [second] ∨
      unsigned [first, second] = [] ∧ isHexDigit second = false := by
  rcases inFront with blank | rfl | rfl
  · have skipped : unsigned [first, second] = unsigned [second] := by
      rw [unsigned, unsigned, ltrim, ltrim,
        List.dropWhile_cons_of_pos blank]
    rw [skipped]
    by_cases plain : second ∈ blanksAndSigns
    · have noDigit :=
        isHexDigit_of_inFront ((mem_blanksAndSigns_iff second).mp plain)
      refine .inr ⟨?_, noDigit⟩
      rcases (mem_blanksAndSigns_iff second).mp plain with
        blank | rfl | rfl
      · rw [unsigned, ltrim, List.dropWhile_cons_of_pos blank]
        rfl
      · rfl
      · rfl
    · exact .inl (unsigned_cons plain).2.1
  · exact .inl rfl
  · exact .inl rfl

/-- What is left of two characters always fits. -/
theorem toULongHex_short
    {str body : WxString}
    (bodyEq : unsigned str = body)
    (short : body.length ≤ 2)
    (value : Nat) :
    (toULongHex machine.long str value).1 = true ↔
      body.takeWhile isHexDigit ≠ [] ∧
        (body.dropWhile isHexDigit).head?.getD '\x00' = '\x00' := by
  have digits : (body.takeWhile isHexDigit).length ≤ 2 :=
    (List.takeWhile_prefix _).length_le.trans short
  have fits :
      hexNumber (body.takeWhile isHexDigit) < 2 ^ machine.long.bits :=
    calc
      hexNumber (body.takeWhile isHexDigit) <
          16 ^ (body.takeWhile isHexDigit).length := hexNumber_lt _
      _ ≤ 16 ^ 2 := Nat.pow_le_pow_right (by decide) digits
      _ ≤ 2 ^ 32 := by decide
      _ ≤ 2 ^ machine.long.bits :=
        Nat.pow_le_pow_right (by decide) machine.long.room
  have noMark : hexDigitsOf (unsigned str) = body := by
    rw [bodyEq, hexDigitsOf_short short]
  rw [toULongHex_fst_iff noMark, and_iff_right fits]

theorem toULongHex_two (value : Nat) :
    (toULongHex machine.long [first, second] value).1 = true ↔
      ReadsAsNumber first second := by
  by_cases inFront : isSpace first = true ∨ first = '-' ∨ first = '+'
  · have noDigit := isHexDigit_of_inFront inFront
    rcases @unsigned_inFront first second inFront with
      left | ⟨nothing, noSecond⟩
    · rw [toULongHex_short machine left (by simp)]
      cases digit : isHexDigit second with
      | true => simp [ReadsAsNumber, digit, inFront]
      | false => simp [ReadsAsNumber, digit, noDigit]
    · rw [toULongHex_short machine nothing (by simp)]
      simp [ReadsAsNumber, noDigit, noSecond]
  · have apart : first ∉ blanksAndSigns := fun member =>
      inFront ((mem_blanksAndSigns_iff first).mp member)
    have whole : unsigned [first, second] = [first, second] :=
      (unsigned_cons apart).2.1
    rw [toULongHex_short machine whole (by simp)]
    cases digit : isHexDigit first with
    | false => simp [ReadsAsNumber, digit, inFront]
    | true =>
        cases further : isHexDigit second with
        | true => simp [ReadsAsNumber, digit, further]
        | false => simp [ReadsAsNumber, digit, further]

theorem numberBehindEachX_cons (ch : Char) (rest : WxString) :
    NumberBehindEachX (ch :: rest) ↔
      (ch = 'x' → ∃ first second after,
        rest = first :: second :: after ∧ ReadsAsNumber first second) ∧
        NumberBehindEachX rest := by
  constructor
  · intro behind
    refine ⟨?_, fun later isSuffix => behind later ?_⟩
    · rintro rfl
      exact behind rest (List.suffix_refl _)
    · exact isSuffix.trans (List.suffix_cons ch rest)
  · rintro ⟨here, further⟩ later isSuffix
    rcases List.suffix_cons_iff.mp isSuffix with same | deeper
    · rcases List.cons.inj same with ⟨rfl, rfl⟩
      exact here rfl
    · exact further later deeper

/-- From a position on, reading is safe if each `x` has a number behind it. -/
theorem pushedBytes_safe_iff (pos : Nat) (memory : WxString) :
    (∀ pushed ∈ pushedBytes machine pos memory,
      (∀ index ∈ [pushed.position + 1, pushed.position + 2],
        index < pos + memory.length) ∧
        pushed.parsed = true) ↔
      NumberBehindEachX memory := by
  induction memory generalizing pos with
  | nil =>
      refine iff_of_true nofun fun rest isSuffix => ?_
      cases List.suffix_nil.mp isSuffix
  | cons ch rest inductionHypothesis =>
      have shift : pos + (ch :: rest).length = pos + 1 + rest.length := by
        rw [List.length_cons]
        omega
      rw [numberBehindEachX_cons, ← inductionHypothesis (pos + 1), shift,
        pushedBytes]
      split
      · next isX =>
          rw [List.forall_mem_cons, forall_prop_of_true isX]
          refine and_congr_left fun _ => ?_
          rcases rest with _ | ⟨first, _ | ⟨second, after⟩⟩
          · simp
          · simp
          · simp only [List.head?_cons, Option.getD_some,
              List.drop_succ_cons, List.drop_zero, toULongHex_two]
            simp
            omega
      · next notX => rw [and_iff_right (fun isX => absurd isX notX)]

/--
A line is read safely if it is rejected, or if each `x` of what is taken for
its memory stands before a number of two characters.
-/
theorem safeLine_iff (outputLine : WxString) :
    SafeLine machine outputLine ↔
      ∀ parts ∈ partsOf outputLine, NumberBehindEachX parts.2 := by
  have safe := fun memory => pushedBytes_safe_iff machine 0 memory
  simp only [Nat.zero_add] at safe
  constructor
  · intro safeLine parts member
    exact (safe parts.2).mp (safeLine parts member)
  · intro behind parts member
    exact (safe parts.2).mpr (behind parts member)

/-- A machine with 64 bits, and something behind every text. -/
def someMachine : Machine where
  long := uint64
  beyond := fun _ => '?'
  unset := fun _ => 205

/-- A message of the debugger that ends in an `x`. -/
theorem matrix_not_safe :
    ¬ SafeLine someMachine "warning: no matrix".toList := by
  intro safe
  have parts :
      partsOf "warning: no matrix".toList =
        some ("warning".toList, " no matrix".toList) := by
    decide
  have read :
      (⟨9, false, 205⟩ : PushedByte) ∈
        pushedBytes someMachine 0 " no matrix".toList := by
    decide
  exact absurd (safe _ parts _ read).2 (by decide)

end Safety

end DebuggerDap.Plugin.ExamineMemory
