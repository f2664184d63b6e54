import DebuggerDap.Persistence.XmlReading
import DebuggerDap.Persistence.XmlText
import DebuggerDap.Text.Utf8

/-!
# What the pieces of a text stand for

`GetStr` gives the characters of the references in a piece of text, whether
they are named or written with a number in either base, and a line feed for
every end of a line.  So `LoadFile` gives the nodes that a document stands
for, whoever has written it.
-/

namespace DebuggerDap.Persistence.XmlValues

open DebuggerDap.Library.Bytes
open DebuggerDap.Library.XmlGrammar
open DebuggerDap.Persistence.XmlParser
open DebuggerDap.Persistence.XmlReading
open DebuggerDap.Persistence.XmlText
open DebuggerDap.Text.Utf8

/-! ## Characters -/

theorem continuation_eq (input : Nat) :
    continuation input = UInt8.ofNat (input % 64 + 0x80) := by
  have bytes : ∀ code < 256,
      (UInt8.ofNat code ||| 0x80) &&& 0xBF =
        UInt8.ofNat (code % 64 + 0x80) := by
    decide +kernel
  have low : UInt8.ofNat input = UInt8.ofNat (input % 256) :=
    UInt8.toNat_inj.mp (by simp [UInt8.toNat_ofNat'])
  have same : input % 256 % 64 = input % 64 := by omega
  rw [continuation, UInt8.ofNat_and, UInt8.ofNat_or, low, ← same]
  exact bytes _ (Nat.mod_lt _ (by decide))

/-- The bytes of a character are its encoding. -/
theorem convertUTF32ToUTF8_char (ch : Char) :
    convertUTF32ToUTF8 ch.toNat = String.utf8EncodeChar ch := by
  have two : ∀ code < 32, code ||| 0xC0 = code % 32 + 0xC0 := by decide
  have three : ∀ code < 16, code ||| 0xE0 = code % 16 + 0xE0 := by decide
  have four : ∀ code < 8, code ||| 0xF0 = code % 8 + 0xF0 := by decide
  have whole : ch.toNat < 0x110000 := by
    rcases ch.valid with low | ⟨-, high⟩
    · exact Nat.lt_trans low (by decide)
    · exact high
  have code : ch.val.toNat = ch.toNat := rfl
  rw [convertUTF32ToUTF8]
  simp only [continuation_eq, Nat.shiftRight_eq_div_pow]
  fun_cases String.utf8EncodeChar ch
  case case1 =>
    rw [if_pos (by omega)]
    rfl
  case case2 =>
    rw [if_neg (by omega), if_pos (by omega), two _ (by omega)]
    rfl
  case case3 =>
    rw [if_neg (by omega), if_neg (by omega), if_pos (by omega),
      three _ (by omega)]
    rfl
  case case4 =>
    rw [if_neg (by omega), if_neg (by omega), if_neg (by omega),
      if_pos (by omega), four _ (by omega)]
    rfl

/-! ## Digits -/

section Digits

variable {value : Nat} {code : UInt8}

/-- A digit is none of the marks around it. -/
def IsMark (code : UInt8) : Prop :=
  code = byte ';' ∨ code = byte '#' ∨ code = byte 'x'

instance (code : UInt8) : Decidable (IsMark code) :=
  inferInstanceAs
    (Decidable (code = byte ';' ∨ code = byte '#' ∨ code = byte 'x'))

theorem hexDigit_of_isDigit
    (small : value < 16)
    (digit : IsDigit value code) :
    hexDigit code = some value ∧ ¬ IsMark code := by
  have lower : ∀ value < 16,
      (ascii "0123456789abcdef")[value]?.all fun code =>
        hexDigit code = some value ∧ ¬ IsMark code := by
    decide
  have upper : ∀ value < 16,
      (ascii "0123456789ABCDEF")[value]?.all fun code =>
        hexDigit code = some value ∧ ¬ IsMark code := by
    decide
  rcases digit with read | read
  · have found := lower value small
    rw [read] at found
    exact of_decide_eq_true found
  · have found := upper value small
    rw [read] at found
    exact of_decide_eq_true found

theorem decimalDigit_of_isDigit
    (small : value < 10)
    (digit : IsDigit value code) :
    decimalDigit code = some value := by
  have both : ∀ value < 10,
      (ascii "0123456789abcdef")[value]? =
          (ascii "0123456789ABCDEF")[value]? ∧
        (ascii "0123456789abcdef")[value]?.all fun code =>
          decimalDigit code = some value := by
    decide
  rcases both value small with ⟨same, found⟩
  have read : (ascii "0123456789abcdef")[value]? = some code :=
    digit.elim id fun upper => same.trans upper
  rw [read] at found
  exact of_decide_eq_true found

variable {base number : Nat} {digits : Bytes}

theorem Numeral.digit
    (small : base ≤ 16)
    (numeral : Numeral base digits number) :
    digits ≠ [] ∧ ∀ code ∈ digits, ¬ IsMark code := by
  induction numeral with
  | single inBase digit =>
      refine ⟨List.cons_ne_nil _ _, fun code member => ?_⟩
      rw [List.mem_singleton.mp member]
      exact (hexDigit_of_isDigit (Nat.lt_of_lt_of_le inBase small) digit).2
  | more _ inBase digit inductionHypothesis =>
      refine ⟨List.append_ne_nil_of_right_ne_nil _ (List.cons_ne_nil _ _),
        fun code member => ?_⟩
      rcases List.mem_append.mp member with before | last
      · exact inductionHypothesis.2 code before
      · rw [List.mem_singleton.mp last]
        exact (hexDigit_of_isDigit (Nat.lt_of_lt_of_le inBase small) digit).2

end Digits

/-! ## Numbers -/

section Numbers

variable {ulong : Nat} {base weight value : Nat} {mult : UInt32}

/-- No weight of a digit that counts is cut. -/
theorem toNat_mul_digit
    (weighs : mult.toNat = weight % UInt32.size)
    (fits : weight * value < UInt32.size) :
    (mult * UInt32.ofNat value).toNat = weight * value := by
  rw [UInt32.toNat_mul, weighs, UInt32.toNat_ofNat', ← Nat.mul_mod]
  exact Nat.mod_eq_of_lt fits

/-- The digits are added from the last one to the first. -/
theorem digitSum_of_numeral
    {digit : UInt8 → Option Nat}
    {digits : Bytes}
    {number ucs : Nat}
    {wide : UInt32}
    (large : UInt32.size ≤ ulong)
    (same : wide.toNat = base)
    (reads :
      ∀ value code, value < base → IsDigit value code →
        digit code = some value)
    (numeral : Numeral base digits number)
    (weighs : mult.toNat = weight % UInt32.size)
    (fits : ucs + weight * number < UInt32.size) :
    digitSum ulong wide digit mult ucs digits.reverse =
      some (ucs + weight * number) := by
  induction numeral generalizing mult weight ucs with
  | @single value code small coded =>
      have product := toNat_mul_digit weighs
        (Nat.lt_of_le_of_lt (Nat.le_add_left _ ucs) fits)
      rw [List.reverse_singleton, digitSum, reads value code small coded]
      dsimp only
      rw [digitSum, product, Nat.mod_eq_of_lt (Nat.lt_of_lt_of_le fits large)]
  | @more digits number value code others small coded inductionHypothesis =>
      have whole : weight * (number * base + value) =
          weight * value + weight * base * number := by
        rw [Nat.mul_add, Nat.mul_assoc, Nat.mul_comm base, Nat.add_comm]
      rw [whole, ← Nat.add_assoc] at fits ⊢
      have room := Nat.lt_of_le_of_lt (Nat.le_add_right _ _) fits
      have product := toNat_mul_digit weighs
        (Nat.lt_of_le_of_lt (Nat.le_add_left _ ucs) room)
      have next : (mult * wide).toNat = weight * base % UInt32.size := by
        rw [UInt32.toNat_mul, weighs, same]
        exact Nat.mod_mul_mod weight base UInt32.size
      rw [List.reverse_append, List.reverse_singleton, List.singleton_append,
        digitSum, reads value code small coded]
      dsimp only
      rw [product, Nat.mod_eq_of_lt (Nat.lt_of_lt_of_le room large)]
      exact inductionHypothesis next fits

end Numbers

/-! ## References -/

section References

variable {ulong : Nat} {digits rest : Bytes} {ch : Char}

theorem findIdx?_append_mark
    {mark : UInt8}
    (inside : mark ∉ digits)
    (rest : Bytes) :
    (digits ++ mark :: rest).findIdx? (· = mark) = some digits.length := by
  induction digits with
  | nil => simp [List.findIdx?_cons]
  | cons code digits inductionHypothesis =>
      rw [List.mem_cons, not_or] at inside
      rw [List.cons_append, List.findIdx?_cons,
        decide_eq_false (Ne.symm inside.1), inductionHypothesis inside.2]
      rfl

/-- Backwards from the end the digits are followed by the mark of a number. -/
theorem takeWhile_reverse
    {mark : UInt8}
    (inside : mark ∉ digits) :
    digits.reverse.takeWhile (· ≠ mark) = digits.reverse := by
  refine List.takeWhile_eq_self_iff.mpr fun code member => ?_
  refine decide_eq_true fun same => inside ?_
  rw [← same]
  exact List.mem_reverse.mp member

theorem toNat_lt_size (ch : Char) : ch.toNat < UInt32.size :=
  ch.val.toNat_lt

theorem getCharacterRef_decimal
    (large : UInt32.size ≤ ulong)
    (numeral : Numeral 10 digits ch.toNat) :
    getCharacterRef ulong (byte '#' :: (digits ++ byte ';' :: rest)) =
      some (String.utf8EncodeChar ch, digits.length + 3) := by
  rcases Numeral.digit (by decide) numeral with ⟨nonempty, marks⟩
  have noEnd : byte ';' ∉ digits := fun member => marks _ member (.inl rfl)
  have noMark : byte '#' ∉ digits :=
    fun member => marks _ member (.inr (.inl rfl))
  have sum :=
    @digitSum_of_numeral ulong 10 1 1 decimalDigit digits _ 0 10 large rfl
      (fun value code small => decimalDigit_of_isDigit small) numeral rfl
      (by rw [Nat.zero_add, Nat.one_mul]; exact toNat_lt_size ch)
  have stop := findIdx?_append_mark noEnd rest
  rcases List.exists_cons_of_ne_nil nonempty with ⟨first, others, rfl⟩
  have apart : first ≠ byte 'x' :=
    fun same => marks first List.mem_cons_self (.inr (.inr same))
  rw [List.cons_append] at stop ⊢
  rw [getCharacterRef, if_neg apart, stop]
  dsimp only
  rw [← List.cons_append, List.take_left, takeWhile_reverse noMark, sum,
    Nat.zero_add, Nat.one_mul, Option.map_some, convertUTF32ToUTF8_char]

theorem getCharacterRef_hexadecimal
    (large : UInt32.size ≤ ulong)
    (numeral : Numeral 16 digits ch.toNat) :
    getCharacterRef ulong
        (byte '#' :: byte 'x' :: (digits ++ byte ';' :: rest)) =
      some (String.utf8EncodeChar ch, digits.length + 4) := by
  rcases Numeral.digit (Nat.le_refl _) numeral with ⟨-, marks⟩
  have noEnd : byte ';' ∉ digits := fun member => marks _ member (.inl rfl)
  have noMark : byte 'x' ∉ digits :=
    fun member => marks _ member (.inr (.inr rfl))
  have sum :=
    @digitSum_of_numeral ulong 16 1 1 hexDigit digits _ 0 16 large rfl
      (fun value code small coded => (hexDigit_of_isDigit small coded).1)
      numeral rfl
      (by rw [Nat.zero_add, Nat.one_mul]; exact toNat_lt_size ch)
  rw [getCharacterRef, if_pos rfl, findIdx?_append_mark noEnd rest]
  dsimp only
  rw [List.take_left, takeWhile_reverse noMark, sum, Nat.zero_add,
    Nat.one_mul, Option.map_some, convertUTF32ToUTF8_char]

variable {references newlines : Bool} {segment : Bytes} {written : Nat}

/-- The loop passes over the bytes of a reference. -/
theorem getStrLoop_skip (piece rest : Bytes) :
    getStrLoop ulong references newlines segment piece.length written
        (piece ++ rest) =
      getStrLoop ulong references newlines segment 0 written rest := by
  induction piece with
  | nil => rfl
  | cons code piece inductionHypothesis => exact inductionHypothesis

/-- A reference with a number is its character. -/
theorem getStrLoop_number
    {piece bytes : Bytes}
    (found :
      getCharacterRef ulong (byte '#' :: (piece ++ rest)) =
        some (bytes, piece.length + 2)) :
    getStrLoop ulong true true segment 0 written
        (byte '&' :: byte '#' :: (piece ++ rest)) =
      bytes ++ getStrLoop ulong true true segment 0 (written + bytes.length)
        rest := by
  have skipped := @getStrLoop_skip ulong true true segment
    (written + bytes.length) (byte '#' :: piece) rest
  rw [List.length_cons, List.cons_append] at skipped
  rw [getStrLoop, if_neg (by decide), if_neg (by decide),
    if_pos ⟨rfl, rfl⟩, List.head?_cons, if_pos rfl, found]
  dsimp only
  rw [show piece.length + 2 - 1 = piece.length + 1 from rfl, skipped]

end References

/-! ## Values -/

section Values

variable {ulong : Nat} {references : Bool} {raw value : Bytes}

theorem getStrLoop_of_standsFor
    (large : UInt32.size ≤ ulong)
    (stands : StandsFor references raw value)
    (segment : Bytes)
    (written : Nat) :
    getStrLoop ulong references true segment 0 written raw = value := by
  induction stands generalizing written with
  | nil => rfl
  | plain _ noEnd noMark _ inductionHypothesis =>
      rw [getStrLoop_plain ulong segment written noEnd.1 noEnd.2 noMark,
        inductionHypothesis]
  | @lineFeed raw value next _ inductionHypothesis =>
      have apart : raw.head? ≠ some cr := next
      refine (getStrLoop_lf ulong references segment written raw).trans ?_
      rw [if_neg apart, inductionHypothesis]
      rfl
  | @carriageReturn raw value next _ inductionHypothesis =>
      have apart : raw.head? ≠ some lf := next
      refine (getStrLoop_cr ulong references segment written raw).trans ?_
      rw [if_neg apart, inductionHypothesis]
      rfl
  | both _ inductionHypothesis =>
      exact (getStrLoop_cr ulong references segment written _).trans
        (congrArg (lf :: ·) (inductionHypothesis (written + 1)))
  | @entity name raw value code allowed named _ inductionHypothesis =>
      have known : ∀ entity ∈ predefined, entity ∈ entities := by decide
      subst allowed
      rw [getStrLoop_entity ulong (known _ named), inductionHypothesis]
  | @decimal digits raw value ch allowed _ numeral _ inductionHypothesis =>
      subst allowed
      have found := @getCharacterRef_decimal ulong digits raw ch large numeral
      have shape : digits ++ byte ';' :: raw = digits ++ [byte ';'] ++ raw :=
        List.append_cons digits (byte ';') raw
      rw [shape] at found ⊢
      rw [getStrLoop_number (by rw [found, List.length_append]; rfl),
        inductionHypothesis]
  | @hexadecimal digits raw value ch allowed _ numeral _
      inductionHypothesis =>
      subst allowed
      have found :=
        @getCharacterRef_hexadecimal ulong digits raw ch large numeral
      have shape :
          byte 'x' :: (digits ++ byte ';' :: raw) =
            byte 'x' :: digits ++ [byte ';'] ++ raw :=
        congrArg (byte 'x' :: ·) (List.append_cons digits (byte ';') raw)
      rw [shape] at found ⊢
      rw [getStrLoop_number
          (by rw [found, List.length_append, List.length_cons]; rfl),
        inductionHypothesis]

theorem nul_not_mem_of_standsFor
    (stands : StandsFor references raw value) : (0 : UInt8) ∉ value := by
  induction stands with
  | nil => exact List.not_mem_nil
  | plain visible _ _ _ inductionHypothesis =>
      rw [List.mem_cons, not_or]
      exact ⟨Ne.symm visible, inductionHypothesis⟩
  | lineFeed _ _ inductionHypothesis
  | carriageReturn _ _ inductionHypothesis
  | both _ inductionHypothesis =>
      rw [List.mem_cons, not_or]
      exact ⟨by decide, inductionHypothesis⟩
  | entity _ named _ inductionHypothesis =>
      have visible : ∀ entity ∈ predefined, (0 : UInt8) ≠ entity.2 := by
        decide
      rw [List.mem_cons, not_or]
      exact ⟨visible _ named, inductionHypothesis⟩
  | decimal _ visible _ _ inductionHypothesis
  | hexadecimal _ visible _ _ inductionHypothesis =>
      rw [List.mem_append, not_or]
      exact ⟨zero_not_mem_utf8EncodeChar visible, inductionHypothesis⟩

/-- `GetStr` gives what a piece of text stands for. -/
theorem getStr_of_standsFor
    (large : UInt32.size ≤ ulong)
    (stands : StandsFor references raw value) :
    getStr ulong references raw = value := by
  rw [getStr, getStrLoop_of_standsFor large stands]
  exact takeWhile_of_nul_not_mem (nul_not_mem_of_standsFor stands)

/-- The bytes the parser tells apart, and what pieces of text stand for. -/
def xml : Lexis where
  space := isWhiteSpace
  nameStart := isNameStartChar
  nameByte := isNameChar
  value := StandsFor true
  verbatim := StandsFor false

/--
`LoadFile` gives the nodes that a document stands for, behind a byte order
mark or without, unless its elements are nested too deep.
-/
theorem loadFile_of_xml
    {levels : Nat}
    {text : Bytes}
    {nodes : List Node}
    (large : UInt32.size ≤ ulong)
    (document : Document xml levels text nodes)
    (inhabited : nodes ≠ [])
    (shallow : levels ≤ maxLevels)
    (noNul : (0 : UInt8) ∉ text)
    (marked : Bool) :
    loadFile ulong (some ((if marked then bom else []) ++ text)) =
      .ok { writeBOM := marked, children := nodes } := by
  have read : Document (lexis ulong) levels text nodes :=
    document.reading (fun _ _ => getStr_of_standsFor large)
      (fun _ _ => getStr_of_standsFor large)
  exact loadFile_of_document read inhabited shallow noNul marked

end Values

/-- An element with references in its attribute and in its text. -/
theorem loadFile_of_xml_references :
    loadFile UInt64.size
        (some (bom ++ ascii "<a b='&#xE9;'>1 &lt; 2</a>")) =
      .ok
        { writeBOM := true
          children :=
            [.element (ascii "a") [(ascii "b", [0xc3, 0xa9])]
              [.text false (ascii "1 < 2")]] } := by
  have named (name : Bytes) (start : name.head?.any isNameStartChar = true)
      (others : name.tail = []) : IsName xml name :=
    ⟨start, fun code member => by rw [others] at member; cases member⟩
  have accent : StandsFor true (ascii "&#xE9;") [0xc3, 0xa9] :=
    @StandsFor.hexadecimal true (ascii "E9") [] [] 'é' rfl (by decide)
      (@Numeral.more 16 (ascii "E") 14 9 (byte '9')
        (.single (by decide) (.inr rfl)) (by decide) (.inl rfl))
      .nil
  have two : StandsFor true (ascii " 2") (ascii " 2") :=
    .plain (by decide) (by decide) (by decide)
      (.plain (by decide) (by decide) (by decide) .nil)
  have less : StandsFor true (ascii "1 &lt; 2") (ascii "1 < 2") :=
    .plain (by decide) (by decide) (by decide)
      (.plain (by decide) (by decide) (by decide)
        (@StandsFor.entity true (ascii "lt") (ascii " 2") (ascii " 2")
          (byte '<') rfl (by decide) two))
  have tag : Tag xml (ascii "<a b='&#xE9;'") (ascii "a")
      [(ascii "b", [0xc3, 0xa9])] :=
    { named := named (ascii "a") rfl rfl
      written := ⟨ascii " b='&#xE9;'", rfl,
        @Attributes.cons xml (ascii " ") (ascii "b") [] [] (ascii "&#xE9;") _
          [] (byte '\x27') [] (List.all_eq_true.mp rfl)
          (List.cons_ne_nil _ _) (named (ascii "b") rfl rfl) blank_nil
          blank_nil (.inr rfl) (by decide) accent (.nil blank_nil)⟩
      distinct := by decide }
  have visible : ¬ Blank xml (ascii "1 &lt; 2") :=
    fun isBlank => Bool.false_ne_true (isBlank (byte '1') List.mem_cons_self)
  have content :
      Content xml 0 (ascii "1 &lt; 2") [.text false (ascii "1 < 2")] :=
    .text (by decide) visible less (.blank blank_nil)
      fun _ member => absurd member (Option.not_mem_none _)
  have document :
      Document xml 1 (ascii "<a b='&#xE9;'>1 &lt; 2</a>")
        [.element (ascii "a") [(ascii "b", [0xc3, 0xa9])]
          [.text false (ascii "1 < 2")]] := by
    refine .content (.markup blank_nil (.element tag content blank_nil)
      (.blank blank_nil)) fun value member => ?_
    cases List.mem_singleton.mp member
  exact loadFile_of_xml (by decide) document (List.cons_ne_nil _ _)
    (by decide) (by decide) true

end DebuggerDap.Persistence.XmlValues
