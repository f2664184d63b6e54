import DebuggerDap.Protocol.JsonReading
import DebuggerDap.Protocol.JsonText
import DebuggerDap.Protocol.LengthArithmetic
import DebuggerDap.Protocol.SocketReceive

/-!
# What is printed is read back

The printer writes every tree as a text of the grammar, formatted or not, and
writes with their number only control characters, which are readable.  So the
parser returns the tree that was printed: a number has to be an `int`, and a
text a C string.
-/

namespace DebuggerDap.Protocol.JsonPrinting

open DebuggerDap.Text.Strings
open DebuggerDap.Text.Numbers
open DebuggerDap.Text.Utf8
open DebuggerDap.Library.Bytes
open DebuggerDap.Library.JsonGrammar
open DebuggerDap.Library.MachineInt
open DebuggerDap.Protocol.JsonTree
open DebuggerDap.Protocol.JsonParser
open DebuggerDap.Protocol.JsonNumbers
open DebuggerDap.Protocol.JsonQuoted
open DebuggerDap.Protocol.JsonReading
open DebuggerDap.Protocol.JsonText
open DebuggerDap.Protocol.LengthArithmetic (intRange)
open DebuggerDap.Protocol.SocketReceive (decodeUtf8 decodeUtf8_utf8)

/-! ## Quoted texts -/

theorem codeUnit_hexDigits :
    ∀ token < 32,
      hexNumber ('0' :: '0' :: hexDigits token) = token ∧
        ('0' :: '0' :: hexDigits token).all isHexDigit = true := by
  decide +kernel

/-- A control character is printed as a code unit. -/
theorem codeUnit_control
    {ch : Char}
    (control : ch.toNat < 32) :
    CodeUnit hexDigit? ('0' :: '0' :: hexDigits ch.toNat) ch.toNat where
  four := rfl
  hexadecimal := List.all_eq_true.mp (codeUnit_hexDigits _ control).2
  value := (codeUnit_hexDigits _ control).1

theorem mem_shortCodes
    {ch code : Char}
    (short : (ch, code) ∈ shortEscapes) : (code, ch) ∈ shortCodes := by
  simp only [shortEscapes, List.mem_cons, Prod.mk.injEq, List.not_mem_nil,
    or_false] at short
  rcases short with
    ⟨rfl, rfl⟩ | ⟨rfl, rfl⟩ | ⟨rfl, rfl⟩ | ⟨rfl, rfl⟩ | ⟨rfl, rfl⟩ |
      ⟨rfl, rfl⟩ | ⟨rfl, rfl⟩
  all_goals simp [shortCodes]

theorem quoted_escapes
    {str : WxString}
    (noNul : '\x00' ∉ str) :
    Quoted hexDigit? Readable (str.flatMap escape ++ ['"']) str := by
  induction str with
  | nil => exact .done
  | cons ch str inductionHypothesis =>
      rw [List.mem_cons, not_or] at noNul
      have rest := inductionHypothesis noNul.2
      rw [List.flatMap_cons, List.append_assoc]
      rcases escape_cases ch with
        ⟨plain, backslash, quote, printable⟩ | ⟨code, short, coded⟩ |
          ⟨numbered, control⟩
      · rw [plain]
        exact .plain printable quote backslash rest
      · rw [coded]
        exact .short (mem_shortCodes short) rest
      · rw [numbered]
        exact .code (codeUnit_control control)
          ⟨Ne.symm noNul.1, .inl (by omega)⟩ rest

theorem printString_eq (str : WxString) :
    printString str = '"' :: (str.flatMap escape ++ ['"']) :=
  rfl

/-! ## Numbers -/

/-- A printed number begins with a zero only if it is zero. -/
theorem toDigits_head {number : Nat} (positive : 0 < number) :
    (Nat.toDigits 10 number).head? ≠ some '0' := by
  induction number using Nat.strong_induction_on with
  | _ number inductionHypothesis =>
      by_cases small : number < 10
      · have digits : ∀ digit < 10, 0 < digit →
            [Nat.digitChar digit].head? ≠ some '0' := by
          decide
        rw [Nat.toDigits_of_lt_base small]
        exact digits number small positive
      · have shorter := inductionHypothesis (number / 10) (by omega) (by omega)
        rw [Nat.toDigits_of_base_le (by decide) (by omega),
          List.head?_append]
        cases head : (Nat.toDigits 10 (number / 10)).head? with
        | none =>
            exact absurd (List.head?_eq_none_iff.mp head) Nat.toDigits_ne_nil
        | some ch =>
            rw [head] at shorter
            exact shorter

/-- The text of an integer. -/
def intLiteral (value : Int) : Literal where
  negative := value < 0
  whole := Nat.toDigits 10 value.natAbs
  fraction := []
  exponent := none
  wholeDecimal ch member :=
    Nat.isDigit_of_mem_toDigits (by decide) (by decide) member
  fractionDecimal := nofun
  nonempty := Nat.toDigits_ne_nil
  leading head := by
    rcases Nat.eq_zero_or_pos value.natAbs with zero | positive
    · rw [zero]
      rfl
    · exact absurd head (toDigits_head positive)

theorem text_intLiteral (value : Int) :
    (intLiteral value).text = (toString value).toList := by
  have whole (literal : Literal) (fraction : literal.fraction = [])
      (exponent : literal.exponent = none) :
      literal.text =
        (if literal.negative then ['-'] else []) ++ literal.whole := by
    simp [Literal.text, Literal.fractionText, Literal.exponentText, fraction,
      exponent]
  rw [whole _ rfl rfl]
  cases value with
  | ofNat number =>
      rw [toString_ofNat]
      rfl
  | negSucc number =>
      have negative : (intLiteral (Int.negSucc number)).negative = true :=
        decide_eq_true (Int.negSucc_lt_zero number)
      rw [toString_negSucc, if_pos negative]
      rfl

section Doubles

variable (doubles : Doubles)

/-- As long as the number has room in the mantissa no digit is rounded. -/
theorem fold_digits
    {digits : WxString}
    (decimal : ∀ ch ∈ digits, ch.isDigit = true)
    (start : Nat)
    (fits : Nat.ofDigitChars 10 digits start ≤ 2 ^ 53) :
    doubles.fold start (digits.map byte) =
      some ((Nat.ofDigitChars 10 digits start : Nat) : Rat) := by
  induction digits generalizing start with
  | nil => rfl
  | cons ch digits inductionHypothesis =>
      rcases List.forall_mem_cons.mp decimal with ⟨digit, others⟩
      rw [ofDigitChars_next] at fits ⊢
      have room := Nat.le_trans (le_ofDigitChars digits _) fits
      have product := doubles.mul_exact start 10 (by omega)
      have sum := doubles.add_exact (start * 10) (ch.toNat - 48 : Nat)
        (by omega)
      have code : (byte ch).toNat = ch.toNat :=
        toNat_byte (toNat_lt_of_isDigit digit)
      have step :
          (doubles.mul start 10 >>= fun product =>
              doubles.add product ((byte ch).toNat - 48 : Nat)) =
            some ((10 * start + (ch.toNat - 48) : Nat) : Rat) := by
        have whole : 10 * start + (ch.toNat - 48) =
            start * 10 + (ch.toNat - 48) := by
          rw [Nat.mul_comm]
        rw [code, whole]
        exact (congrArg (· >>= (doubles.add · _)) product).trans sum
      rw [List.map_cons, Doubles.fold, List.foldlM_cons, step]
      exact inductionHypothesis others _ fits

/-- The sign and the power of ten leave an integer as it is. -/
theorem numberOf_int
    {negative : Bool}
    {number : Nat}
    {whole : List UInt8}
    (folded : doubles.fold 0 whole = some (number : Rat))
    (fits : number ≤ 2 ^ 53) :
    numberOf doubles negative whole [] false [] =
      some ((if negative then -(number : Int) else number : Int) : Rat) := by
  have power : doubles.pow10
      (-((([] : List UInt8).length : Nat) : Int) +
        0 * (if false = true then -1 else 1)) = some 1 :=
    doubles.pow10_zero
  have signed :
      doubles.mul (if negative = true then -1 else 1) number =
        some ((if negative then -(number : Int) else number : Int) : Rat) := by
    cases negative with
    | true =>
        have product := doubles.mul_exact (-1) number (by omega)
        rw [Int.neg_one_mul] at product
        exact product
    | false =>
        have product := doubles.mul_exact 1 number (by omega)
        rw [Int.one_mul] at product
        exact product
  have kept := doubles.mul_exact
    (if negative then -(number : Int) else number) 1
    (by split <;> omega)
  rw [Int.mul_one] at kept
  rw [numberOf, folded]
  show (do
    let signed ← doubles.mul (if negative = true then -1 else 1) number
    let power ← doubles.pow10 (-((([] : List UInt8).length : Nat) : Int) +
      0 * (if false = true then -1 else 1))
    doubles.mul signed power) = _
  rw [signed, power]
  exact kept

/-- An integer comes to itself. -/
theorem literalValue_intLiteral
    {value : Int}
    (fits : value.natAbs ≤ 2 ^ 53) :
    literalValue doubles (intLiteral value) = some (value : Rat) := by
  have digits : Nat.ofDigitChars 10 (intLiteral value).whole 0 =
      value.natAbs := Nat.ofDigitChars_ten_toDigits
  have whole := fold_digits doubles (intLiteral value).wholeDecimal 0
    (by rw [digits]; exact fits)
  rw [digits] at whole
  have sign :
      (if (intLiteral value).negative then -(value.natAbs : Int)
        else value.natAbs) = value := by
    have negative :
        (intLiteral value).negative = decide (value < 0) := rfl
    rw [negative]
    split
    · next below =>
        rw [decide_eq_true_eq] at below
        omega
    · next above =>
        rw [decide_eq_true_eq] at above
        omega
  exact (numberOf_int doubles whole fits).trans
    (congrArg (some <| Int.cast ·) sign)

end Doubles

/-! ## Trees -/

section Trees

variable (int : SignedRange) (allowed : WxString → Prop)

mutual

/-- A tree of `int` numbers and of texts of a kind. -/
def Printable : Json → Prop
  | .null => True
  | .bool _ => True
  | .number value => ∃ whole : Int, value = whole ∧ int.Contains whole
  | .string value => allowed value
  | .array items => PrintableItems items
  | .object members => PrintableMembers members

def PrintableItems : List Json → Prop
  | [] => True
  | item :: items => Printable item ∧ PrintableItems items

def PrintableMembers : List (WxString × Json) → Prop
  | [] => True
  | (name, item) :: members =>
      allowed name ∧ Printable item ∧ PrintableMembers members

end

end Trees

section Layout

theorem blank_append
    {left right : WxString}
    (leftBlank : Blank left)
    (rightBlank : Blank right) : Blank (left ++ right) :=
  fun ch member =>
    (List.mem_append.mp member).elim (leftBlank ch) (rightBlank ch)

/-- The blanks of a formatted text. -/
theorem blank_format
    (fmt : Bool)
    {formatted : WxString}
    (isBlank : Blank formatted) :
    Blank (if fmt then formatted else []) := by
  cases fmt
  · exact blank_nil
  · exact isBlank

theorem blank_indentation (fmt : Bool) (depth : Nat) :
    Blank (if fmt then List.replicate depth ' ' else []) :=
  blank_format fmt fun _ member => .inl (List.eq_of_mem_replicate member)

theorem blank_space : Blank [' '] := by
  simp [Blank]

theorem blank_lineEnd : Blank ['\n'] := by
  simp [Blank]

theorem intercalate_singleton (separator text : WxString) :
    separator.intercalate [text] = text := by
  simp [List.intercalate]

theorem intercalate_cons_cons
    (separator first second : WxString)
    (pieces : List WxString) :
    separator.intercalate (first :: second :: pieces) =
      first ++ (separator ++ separator.intercalate (second :: pieces)) := by
  simp [List.intercalate]

/-- A separator is a comma with a blank behind it. -/
theorem separator_eq (fmt : Bool) (blank : WxString) :
    (if fmt then ',' :: blank else [',']) =
      ',' :: (if fmt then blank else []) := by
  cases fmt <;> rfl

end Layout

section Printing

variable {int : SignedRange} {printDouble : Rat → WxString} {fmt : Bool}
  {doubles : Doubles} {allowed : WxString → Prop}

/-- A member is its indentation, its name and its value. -/
theorem printMembers_eq
    (depth : Nat)
    (name : WxString)
    (item : Json)
    (members : List (WxString × Json)) :
    printMembers int printDouble fmt depth ((name, item) :: members) =
      ((if fmt then List.replicate depth ' ' else []) ++
          '"' :: (name.flatMap escape ++ ['"'] ++
            ':' :: ((if fmt then [' '] else []) ++
              printValue int printDouble fmt depth item))) ::
        printMembers int printDouble fmt depth members := by
  cases fmt <;> simp [printMembers, printString_eq]

mutual

/-- A printed tree is a text of the grammar which stands for the tree. -/
theorem exists_value
    (narrow : int.half ≤ 2 ^ 53)
    (cString : ∀ str, allowed str → '\x00' ∉ str)
    (json : Json)
    (depth : Nat)
    (printable : Printable int allowed json) :
    ∃ tree,
      Value hexDigit? Readable (printValue int printDouble fmt depth json)
          tree ∧
        toJson doubles tree = some json := by
  cases json with
  | null => exact ⟨.null, .null, rfl⟩
  | bool value =>
      cases value with
      | false => exact ⟨.bool false, .false, rfl⟩
      | true => exact ⟨.bool true, .true, rfl⟩
  | number value =>
      rcases printable with ⟨whole, rfl, contains⟩
      have fits : whole.natAbs ≤ 2 ^ 53 := by
        have lower : -(int.half : Int) ≤ whole := contains.1
        have upper : whole ≤ (int.half : Int) - 1 := contains.2
        omega
      refine ⟨.number (intLiteral whole), ?_,
        congrArg (Option.map Json.number)
          (literalValue_intLiteral doubles fits)⟩
      rw [printValue_number, printNumber_int contains, ← text_intLiteral]
      exact .number _
  | string value =>
      refine ⟨.string value, ?_, rfl⟩
      rw [printValue_string, printString_eq]
      exact .string (quoted_escapes (cString value printable))
  | array items =>
      cases items with
      | nil => exact ⟨.array [], .emptyArray blank_nil, rfl⟩
      | cons item items =>
          rcases exists_items narrow cString (item :: items) (depth + 1)
              (List.cons_ne_nil item items) printable with
            ⟨trees, entries, same⟩
          exact ⟨.array trees, @Value.array _ _ [] _ _ blank_nil entries,
            congrArg (Option.map Json.array) same⟩
  | object members =>
      have indentation := blank_indentation fmt depth
      cases members with
      | nil =>
          refine ⟨.object [], ?_, rfl⟩
          have shape :
              printValue int printDouble fmt depth (.object []) =
                '{' :: ((if fmt then ['\n'] else []) ++
                  (if fmt then List.replicate depth ' ' else []) ++ ['}']) := by
            cases fmt <;> rfl
          rw [shape]
          exact .emptyObject
            (blank_append (blank_format fmt blank_lineEnd) indentation)
      | cons member members =>
          rcases exists_members narrow cString (member :: members) (depth + 1) _
              (blank_append (blank_format fmt blank_lineEnd) indentation)
              (List.cons_ne_nil member members) printable with
            ⟨trees, text, shape, entries, same⟩
          refine ⟨.object trees, ?_, congrArg (Option.map Json.object) same⟩
          have layout :
              printValue int printDouble fmt depth
                  (.object (member :: members)) =
                '{' :: ((if fmt then ['\n'] else []) ++
                  (if fmt then List.replicate (depth + 1) ' ' else []) ++
                    text) := by
            rw [List.append_assoc, ← shape]
            cases fmt <;> simp [printValue]
          rw [layout]
          exact .object
            (blank_append (blank_format fmt blank_lineEnd)
              (blank_indentation fmt (depth + 1)))
            entries

theorem exists_items
    (narrow : int.half ≤ 2 ^ 53)
    (cString : ∀ str, allowed str → '\x00' ∉ str)
    (items : List Json)
    (depth : Nat)
    (nonempty : items ≠ [])
    (printable : PrintableItems int allowed items) :
    ∃ trees,
      Items hexDigit? Readable
          ((if fmt then [',', ' '] else [',']).intercalate
            (printItems int printDouble fmt depth items) ++ [']'])
          trees ∧
        toItems doubles trees = some items := by
  cases items with
  | nil => exact absurd rfl nonempty
  | cons item items =>
      rcases exists_value narrow cString item depth printable.1 with
        ⟨tree, value, same⟩
      cases items with
      | nil =>
          refine ⟨[tree], ?_, congrArg (linked · (some [])) same⟩
          rw [printItems, printItems, intercalate_singleton]
          exact .last value blank_nil
      | cons next items =>
          rcases exists_items narrow cString (next :: items) depth
              (List.cons_ne_nil next items) printable.2 with
            ⟨trees, entries, sames⟩
          refine ⟨tree :: trees, ?_, ?_⟩
          · have shape := Items.more value blank_nil
              (blank_format fmt blank_space) entries
            rw [printItems, printItems, intercalate_cons_cons,
              separator_eq fmt [' ']]
            rw [printItems, separator_eq fmt [' ']] at shape
            simpa only [List.append_assoc, List.cons_append, List.nil_append]
              using shape
          · rw [toItems, same, sames]
            rfl

theorem exists_members
    (narrow : int.half ≤ 2 ^ 53)
    (cString : ∀ str, allowed str → '\x00' ∉ str)
    (members : List (WxString × Json))
    (depth : Nat)
    (closing : WxString)
    (isBlank : Blank closing)
    (nonempty : members ≠ [])
    (printable : PrintableMembers int allowed members) :
    ∃ trees text,
      (if fmt then [',', '\n'] else [',']).intercalate
            (printMembers int printDouble fmt depth members) ++
          (closing ++ ['}']) =
          (if fmt then List.replicate depth ' ' else []) ++ text ∧
        Members hexDigit? Readable text trees ∧
        toMembers doubles trees = some members := by
  cases members with
  | nil => exact absurd rfl nonempty
  | cons member members =>
      rcases member with ⟨name, item⟩
      rcases printable with ⟨allowedName, printableItem, printableOthers⟩
      rcases exists_value narrow cString item depth printableItem with
        ⟨tree, value, same⟩
      have named := quoted_escapes (cString name allowedName)
      have colon := blank_format fmt blank_space
      cases members with
      | nil =>
          refine ⟨[(name, tree)], _, ?_,
            .last named blank_nil colon value isBlank,
            congrArg
              (fun item : Option Json =>
                linked (item.map (name, ·)) (some [])) same⟩
          rw [printMembers_eq, printMembers, intercalate_singleton]
          simp only [List.append_assoc, List.cons_append, List.nil_append]
      | cons next members =>
          rcases exists_members narrow cString (next :: members) depth closing
              isBlank (List.cons_ne_nil next members) printableOthers with
            ⟨trees, text, shape, entries, sames⟩
          refine ⟨(name, tree) :: trees, _, ?_,
            .more named blank_nil colon value blank_nil
              (blank_append (blank_format fmt blank_lineEnd)
                (blank_indentation fmt depth))
              entries, ?_⟩
          · rcases next with ⟨nextName, nextItem⟩
            rw [printMembers_eq] at shape
            rw [printMembers_eq, printMembers_eq, intercalate_cons_cons,
              separator_eq fmt ['\n']]
            rw [separator_eq fmt ['\n']] at shape
            simp only [List.append_assoc, List.cons_append,
              List.nil_append] at shape ⊢
            rw [shape]
          · rw [toMembers, same, sames]
            rfl

end

/-- A printed tree is a JSON text which stands for the tree. -/
theorem exists_text
    (doubles : Doubles)
    {json : Json}
    (narrow : int.half ≤ 2 ^ 53)
    (cString : ∀ str, allowed str → '\x00' ∉ str)
    (printable : Printable int allowed json) :
    ∃ tree,
      Text hexDigit? Readable (toString_ int printDouble fmt (some json))
          tree ∧
        toJson doubles tree = some json := by
  rcases @exists_value int printDouble fmt doubles allowed narrow cString json
      0 printable with
    ⟨tree, value, same⟩
  have whole := Text.mk blank_nil value blank_nil
  rw [List.nil_append, List.append_nil] at whole
  exact ⟨tree, whole, same⟩

/--
`Json::Parse` reads back what `ToString` prints, with or without formatting:
the tree that comes back is the one that was printed.
-/
theorem parse_toString
    {platform : Platform}
    {json : Json}
    (locale : Utf8Locale platform)
    (narrow : int.half ≤ 2 ^ 53)
    (cString : ∀ str, allowed str → '\x00' ∉ str)
    (printable : Printable int allowed json) :
    parse platform (toString_ int printDouble fmt (some json)) =
      some json := by
  rcases exists_text platform.doubles narrow cString printable with
    ⟨tree, text, same⟩
  exact (parse_of_text locale text).trans same

/-- A platform in a UTF-8 locale. -/
def utf8Platform : Platform where
  encode := utf8
  decode := decodeUtf8
  doubles := exactDoubles

theorem utf8Locale_utf8Platform : Utf8Locale utf8Platform where
  encodes _ _ := rfl
  decodes str _ := decodeUtf8_utf8 str

/-- A formatted tree with a number, a quote and an accent comes back. -/
theorem parse_toString_accent :
    parse utf8Platform
        (toString_ intRange (fun _ => []) true
          (some (.object [(['a'], .array [.number (-7), .string ['é', '"']])]))) =
      some (.object [(['a'], .array [.number (-7), .string ['é', '"']])]) :=
  @parse_toString intRange (fun _ => []) true (fun str => '\x00' ∉ str) _ _
    utf8Locale_utf8Platform (by decide) (fun _ noNul => noNul)
    ⟨by decide,
      ⟨⟨-7, rfl, by decide⟩, (by decide : '\x00' ∉ ['é', '"']), trivial⟩,
      trivial⟩

/-- A printed tree is a C string. -/
theorem nul_not_mem_toString
    (doubles : Doubles)
    {json : Json}
    (narrow : int.half ≤ 2 ^ 53)
    (cString : ∀ str, allowed str → '\x00' ∉ str)
    (printable : Printable int allowed json) :
    '\x00' ∉ toString_ int printDouble fmt (some json) := by
  rcases exists_text doubles narrow cString printable with ⟨tree, text, -⟩
  exact text.nul_not_mem rfl

/-! ## ASCII trees -/

theorem isAscii_escape
    {ch : Char}
    (ascii : ch.toNat < 128) : IsAscii (escape ch) := by
  rcases escape_cases ch with
    ⟨plain, -⟩ | ⟨code, short, coded⟩ | ⟨numbered, control⟩
  · rw [plain, isAscii_cons]
    exact ⟨ascii, isAscii_nil⟩
  · have codes : ∀ pair ∈ shortEscapes, pair.2.toNat < 128 := by
      simp [shortEscapes]
    rw [coded, isAscii_cons, isAscii_cons]
    exact ⟨by decide, codes _ short, isAscii_nil⟩
  · have digits : ∀ token < 32, IsAscii (hexDigits token) := by decide
    rw [numbered, isAscii_append]
    exact ⟨by decide, digits _ control⟩

theorem isAscii_printString
    {str : WxString}
    (ascii : IsAscii str) : IsAscii (printString str) := by
  rw [printString_eq, isAscii_cons, isAscii_append]
  refine ⟨by decide, ?_, by decide⟩
  intro ch member
  rcases List.mem_flatMap.mp member with ⟨source, inStr, inEscape⟩
  exact isAscii_escape (ascii source inStr) ch inEscape

theorem isAscii_intercalate
    {separator : WxString}
    (ascii : IsAscii separator)
    {pieces : List WxString}
    (all : ∀ piece ∈ pieces, IsAscii piece) :
    IsAscii (separator.intercalate pieces) := by
  induction pieces with
  | nil => exact isAscii_nil
  | cons piece pieces inductionHypothesis =>
      rcases List.forall_mem_cons.mp all with ⟨first, others⟩
      have later := inductionHypothesis others
      cases pieces with
      | nil =>
          rw [intercalate_singleton]
          exact first
      | cons next pieces =>
          rw [intercalate_cons_cons, isAscii_append, isAscii_append]
          exact ⟨first, ascii, later⟩

theorem isAscii_format
    (fmt : Bool)
    {formatted plain : WxString}
    (left : IsAscii formatted)
    (right : IsAscii plain) :
    IsAscii (if fmt then formatted else plain) := by
  cases fmt
  · exact right
  · exact left

theorem isAscii_indentation (fmt : Bool) (depth : Nat) :
    IsAscii (if fmt then List.replicate depth ' ' else []) := by
  refine isAscii_format fmt (fun ch member => ?_) isAscii_nil
  rw [List.eq_of_mem_replicate member]
  decide

mutual

/-- A tree of ASCII texts is printed in ASCII. -/
theorem isAscii_printValue
    (ascii : ∀ str, allowed str → IsAscii str)
    (json : Json)
    (depth : Nat)
    (printable : Printable int allowed json) :
    IsAscii (printValue int printDouble fmt depth json) := by
  cases json with
  | null => exact (by decide : IsAscii ['n', 'u', 'l', 'l'])
  | bool value =>
      cases value with
      | false => exact (by decide : IsAscii ['f', 'a', 'l', 's', 'e'])
      | true => exact (by decide : IsAscii ['t', 'r', 'u', 'e'])
  | number value =>
      rcases printable with ⟨whole, rfl, contains⟩
      rw [printValue_number, printNumber_int contains]
      intro ch member
      rcases digit_of_mem_toString whole member with digit | rfl
      · exact toNat_lt_of_isDigit digit
      · decide
  | string value => exact isAscii_printString (ascii value printable)
  | array items =>
      have separator : IsAscii (if fmt then [',', ' '] else [',']) :=
        isAscii_format fmt (by decide) (by decide)
      have entries := isAscii_intercalate separator
        (isAscii_printItems ascii items (depth + 1) printable)
      rw [printValue, List.cons_append, isAscii_cons, isAscii_append]
      exact ⟨by decide, entries, by decide⟩
  | object members =>
      have separator : IsAscii (if fmt then [',', '\n'] else [',']) :=
        isAscii_format fmt (by decide) (by decide)
      have entries := isAscii_intercalate separator
        (isAscii_printMembers ascii members (depth + 1) printable)
      have lineEnd :
          IsAscii (if fmt ∧ members ≠ [] then ['\n'] else []) := by
        split <;> decide
      simp only [printValue, isAscii_append]
      exact ⟨⟨⟨⟨isAscii_format fmt (by decide) (by decide), entries⟩, lineEnd⟩,
        isAscii_indentation fmt depth⟩, by decide⟩

theorem isAscii_printItems
    (ascii : ∀ str, allowed str → IsAscii str)
    (items : List Json)
    (depth : Nat)
    (printable : PrintableItems int allowed items) :
    ∀ piece ∈ printItems int printDouble fmt depth items, IsAscii piece := by
  cases items with
  | nil => nofun
  | cons item items =>
      rw [printItems]
      exact List.forall_mem_cons.mpr
        ⟨isAscii_printValue ascii item depth printable.1,
          isAscii_printItems ascii items depth printable.2⟩

theorem isAscii_printMembers
    (ascii : ∀ str, allowed str → IsAscii str)
    (members : List (WxString × Json))
    (depth : Nat)
    (printable : PrintableMembers int allowed members) :
    ∀ piece ∈ printMembers int printDouble fmt depth members,
      IsAscii piece := by
  cases members with
  | nil => nofun
  | cons member members =>
      rcases member with ⟨name, item⟩
      rcases printable with ⟨allowedName, printableItem, others⟩
      refine List.forall_mem_cons.mpr
        ⟨?_, isAscii_printMembers ascii members depth others⟩
      simp only [isAscii_append]
      exact ⟨⟨⟨isAscii_indentation fmt depth,
        isAscii_printString (ascii name allowedName)⟩,
        isAscii_format fmt (by decide) (by decide)⟩,
        isAscii_printValue ascii item depth printableItem⟩

end

end Printing

end DebuggerDap.Protocol.JsonPrinting
