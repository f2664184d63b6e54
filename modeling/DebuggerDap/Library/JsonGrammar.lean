import Mathlib.Data.List.Basic

/-!
# The grammar of JSON texts

A relation between texts and the trees they stand for.  A number keeps its
digits, since what they stand for is decided by the arithmetic of a reader.
What hexadecimal digits stand for is a parameter, and so are the characters
which may be written as the number of their code: a reader that loses some of
them reads the grammar without them.
-/

namespace DebuggerDap.Library.JsonGrammar

/-! ## Trees -/

/-- The exponent behind a number, with its sign if it has one. -/
structure Exponent where
  mark : Char
  sign : Option Char
  digits : List Char
  marked : mark = 'e' ∨ mark = 'E'
  signed : ∀ ch ∈ sign, ch = '+' ∨ ch = '-'
  decimal : ∀ ch ∈ digits, ch.isDigit = true
  nonempty : digits ≠ []

namespace Exponent

def text (exponent : Exponent) : List Char :=
  exponent.mark :: (exponent.sign.toList ++ exponent.digits)

/-- The number of the digits. -/
def magnitude (exponent : Exponent) : Nat :=
  Nat.ofDigitChars 10 exponent.digits 0

def value (exponent : Exponent) : Int :=
  exponent.magnitude * if exponent.sign = some '-' then -1 else 1

end Exponent

/-- A number: only `0` itself begins with a zero. -/
structure Literal where
  negative : Bool
  whole : List Char
  fraction : List Char
  exponent : Option Exponent
  wholeDecimal : ∀ ch ∈ whole, ch.isDigit = true
  fractionDecimal : ∀ ch ∈ fraction, ch.isDigit = true
  nonempty : whole ≠ []
  leading : whole.head? = some '0' → whole = ['0']

namespace Literal

/-- The fraction with its point; there is no point without digits. -/
def fractionText (literal : Literal) : List Char :=
  if literal.fraction = [] then [] else '.' :: literal.fraction

def exponentText (literal : Literal) : List Char :=
  (literal.exponent.map Exponent.text).getD []

def text (literal : Literal) : List Char :=
  (if literal.negative then ['-'] else []) ++
    (literal.whole ++ (literal.fractionText ++ literal.exponentText))

/-- The number that is written, before an arithmetic rounds it. -/
def value (literal : Literal) : Rat :=
  (if literal.negative then -1 else 1) *
      Nat.ofDigitChars 10 (literal.whole ++ literal.fraction) 0 *
    10 ^ (-(literal.fraction.length : Int) +
      (literal.exponent.map Exponent.value).getD 0)

end Literal

/-- What a text stands for. -/
inductive Tree where
  | null
  | bool (value : Bool)
  | number (literal : Literal)
  | string (value : List Char)
  | array (items : List Tree)
  | object (members : List (List Char × Tree))

/-! ## Quoted texts -/

/-- The characters behind a backslash, and what they stand for. -/
def shortCodes : List (Char × Char) :=
  [('"', '"'), ('\\', '\\'), ('/', '/'), ('b', '\x08'), ('f', '\x0c'),
    ('n', '\n'), ('r', '\r'), ('t', '\t')]

section Texts

variable (digitValue : Char → Option Nat) (escapable : Char → Prop)

/-- Four hexadecimal digits and their number. -/
structure CodeUnit (digits : List Char) (number : Nat) : Prop where
  four : digits.length = 4
  hexadecimal : ∀ ch ∈ digits, (digitValue ch).isSome = true
  value :
    digits.foldl (fun number ch => 16 * number + (digitValue ch).getD 0) 0 =
      number

/-- Two code units that stand for a character behind the first plane. -/
structure Surrogates (high low : Nat) (ch : Char) : Prop where
  highLower : 0xD800 ≤ high
  highUpper : high < 0xDC00
  lowLower : 0xDC00 ≤ low
  lowUpper : low < 0xE000
  code : ch.toNat = 0x10000 + (high - 0xD800) * 0x400 + (low - 0xDC00)

/-- A text behind an opening quote, up to the closing one. -/
inductive Quoted : List Char → List Char → Prop
  | done : Quoted ['"'] []
  | plain
      {ch : Char}
      {text value : List Char}
      (printable : 31 < ch.toNat)
      (quote : ch ≠ '"')
      (backslash : ch ≠ '\\')
      (rest : Quoted text value) :
      Quoted (ch :: text) (ch :: value)
  | short
      {code ch : Char}
      {text value : List Char}
      (coded : (code, ch) ∈ shortCodes)
      (rest : Quoted text value) :
      Quoted ('\\' :: code :: text) (ch :: value)
  | code
      {digits : List Char}
      {ch : Char}
      {text value : List Char}
      (unit : CodeUnit digitValue digits ch.toNat)
      (allowed : escapable ch)
      (rest : Quoted text value) :
      Quoted ('\\' :: 'u' :: (digits ++ text)) (ch :: value)
  | pair
      {highDigits lowDigits : List Char}
      {high low : Nat}
      {ch : Char}
      {text value : List Char}
      (highUnit : CodeUnit digitValue highDigits high)
      (lowUnit : CodeUnit digitValue lowDigits low)
      (surrogates : Surrogates high low ch)
      (allowed : escapable ch)
      (rest : Quoted text value) :
      Quoted
        ('\\' :: 'u' :: (highDigits ++ '\\' :: 'u' :: (lowDigits ++ text)))
        (ch :: value)

/-! ## Values -/

/-- The characters allowed around values. -/
def Blank (text : List Char) : Prop :=
  ∀ ch ∈ text, ch = ' ' ∨ ch = '\t' ∨ ch = '\n' ∨ ch = '\r'

mutual

/-- The text of a value, without blanks around it. -/
inductive Value : List Char → Tree → Prop
  | null : Value ['n', 'u', 'l', 'l'] .null
  | false : Value ['f', 'a', 'l', 's', 'e'] (.bool false)
  | true : Value ['t', 'r', 'u', 'e'] (.bool true)
  | number (literal : Literal) : Value literal.text (.number literal)
  | string
      {text value : List Char}
      (quoted : Quoted digitValue escapable text value) :
      Value ('"' :: text) (.string value)
  | emptyArray
      {blank : List Char}
      (isBlank : Blank blank) :
      Value ('[' :: (blank ++ [']'])) (.array [])
  | array
      {blank text : List Char}
      {items : List Tree}
      (isBlank : Blank blank)
      (entries : Items text items) :
      Value ('[' :: (blank ++ text)) (.array items)
  | emptyObject
      {blank : List Char}
      (isBlank : Blank blank) :
      Value ('{' :: (blank ++ ['}'])) (.object [])
  | object
      {blank text : List Char}
      {members : List (List Char × Tree)}
      (isBlank : Blank blank)
      (entries : Members text members) :
      Value ('{' :: (blank ++ text)) (.object members)

/-- The entries of an array, up to the closing bracket. -/
inductive Items : List Char → List Tree → Prop
  | last
      {text blank : List Char}
      {item : Tree}
      (value : Value text item)
      (isBlank : Blank blank) :
      Items (text ++ (blank ++ [']'])) [item]
  | more
      {text before after rest : List Char}
      {item : Tree}
      {items : List Tree}
      (value : Value text item)
      (beforeBlank : Blank before)
      (afterBlank : Blank after)
      (entries : Items rest items) :
      Items (text ++ (before ++ ',' :: (after ++ rest))) (item :: items)

/-- The members of an object, up to the closing brace. -/
inductive Members : List Char → List (List Char × Tree) → Prop
  | last
      {quoted name text before after blank : List Char}
      {item : Tree}
      (named : Quoted digitValue escapable quoted name)
      (beforeBlank : Blank before)
      (afterBlank : Blank after)
      (value : Value text item)
      (isBlank : Blank blank) :
      Members
        ('"' :: (quoted ++ (before ++ ':' :: (after ++
          (text ++ (blank ++ ['}']))))))
        [(name, item)]
  | more
      {quoted name text before after blank next rest : List Char}
      {item : Tree}
      {members : List (List Char × Tree)}
      (named : Quoted digitValue escapable quoted name)
      (beforeBlank : Blank before)
      (afterBlank : Blank after)
      (value : Value text item)
      (isBlank : Blank blank)
      (nextBlank : Blank next)
      (entries : Members rest members) :
      Members
        ('"' :: (quoted ++ (before ++ ':' :: (after ++
          (text ++ (blank ++ ',' :: (next ++ rest)))))))
        ((name, item) :: members)

end

/-- A JSON text: a value with blanks around it. -/
inductive Text : List Char → Tree → Prop
  | mk
      {before text after : List Char}
      {tree : Tree}
      (beforeBlank : Blank before)
      (value : Value digitValue escapable text tree)
      (afterBlank : Blank after) :
      Text (before ++ (text ++ after)) tree

end Texts

/-! ## The characters of a text -/

section Characters

variable {digitValue : Char → Option Nat} {escapable : Char → Prop}

theorem nul_not_mem_digits
    {digits : List Char}
    (decimal : ∀ ch ∈ digits, ch.isDigit = true) : '\x00' ∉ digits :=
  fun member => absurd (decimal _ member) (by decide)

theorem nul_not_mem_blank
    {blank : List Char}
    (isBlank : Blank blank) : '\x00' ∉ blank :=
  fun member => absurd (isBlank _ member) (by decide)

theorem Literal.nul_not_mem (literal : Literal) : '\x00' ∉ literal.text := by
  have whole := nul_not_mem_digits literal.wholeDecimal
  have fraction := nul_not_mem_digits literal.fractionDecimal
  have sign : '\x00' ∉ (if literal.negative then ['-'] else []) := by
    cases literal.negative <;> decide
  have point : '\x00' ∉ literal.fractionText := by
    rw [Literal.fractionText]
    split_ifs
    · exact List.not_mem_nil
    · simpa using fraction
  have exponent : '\x00' ∉ literal.exponentText := by
    rw [Literal.exponentText]
    cases literal.exponent with
    | none => exact List.not_mem_nil
    | some exponent =>
        have digits := nul_not_mem_digits exponent.decimal
        show '\x00' ∉ exponent.mark :: (exponent.sign.toList ++ exponent.digits)
        rw [List.mem_cons, List.mem_append, Option.mem_toList]
        rintro (mark | sign | inDigits)
        · rcases exponent.marked with same | same
          all_goals
            rw [same] at mark
            exact absurd mark (by decide)
        · exact absurd (exponent.signed _ sign) (by decide)
        · exact digits inDigits
  simp only [Literal.text, List.mem_append, not_or]
  exact ⟨sign, whole, point, exponent⟩

theorem CodeUnit.nul_not_mem
    {digits : List Char}
    {number : Nat}
    (noDigit : digitValue '\x00' = none)
    (unit : CodeUnit digitValue digits number) : '\x00' ∉ digits := by
  intro member
  have hexadecimal := unit.hexadecimal _ member
  rw [noDigit] at hexadecimal
  cases hexadecimal

/-- A quoted text has no NUL in it. -/
theorem Quoted.nul_not_mem
    {text value : List Char}
    (noDigit : digitValue '\x00' = none)
    (quoted : Quoted digitValue escapable text value) : '\x00' ∉ text := by
  induction quoted with
  | done => decide
  | plain printable _ _ _ inductionHypothesis =>
      rw [List.mem_cons, not_or]
      refine ⟨?_, inductionHypothesis⟩
      rintro rfl
      exact absurd printable (by decide)
  | short coded _ inductionHypothesis =>
      have codes : ∀ pair ∈ shortCodes, '\x00' ≠ pair.1 := by
        simp [shortCodes]
      rw [List.mem_cons, List.mem_cons, not_or, not_or]
      exact ⟨by decide, codes _ coded, inductionHypothesis⟩
  | code unit _ _ inductionHypothesis =>
      simp only [List.mem_cons, List.mem_append, not_or]
      exact ⟨by decide, by decide, unit.nul_not_mem noDigit,
        inductionHypothesis⟩
  | pair highUnit lowUnit _ _ _ inductionHypothesis =>
      simp only [List.mem_cons, List.mem_append, not_or]
      exact ⟨by decide, by decide, highUnit.nul_not_mem noDigit, by decide,
        by decide, lowUnit.nul_not_mem noDigit, inductionHypothesis⟩

mutual

/-- No text of the grammar has a NUL in it. -/
theorem Value.nul_not_mem
    {text : List Char}
    {tree : Tree}
    (noDigit : digitValue '\x00' = none)
    (value : Value digitValue escapable text tree) : '\x00' ∉ text := by
  cases value with
  | null => decide
  | false => decide
  | true => decide
  | number literal => exact literal.nul_not_mem
  | string quoted =>
      rw [List.mem_cons, not_or]
      exact ⟨by decide, quoted.nul_not_mem noDigit⟩
  | emptyArray isBlank =>
      simp only [List.mem_cons, List.mem_append, List.not_mem_nil, or_false,
        not_or]
      exact ⟨by decide, nul_not_mem_blank isBlank, by decide⟩
  | array isBlank entries =>
      simp only [List.mem_cons, List.mem_append, not_or]
      exact ⟨by decide, nul_not_mem_blank isBlank, entries.nul_not_mem noDigit⟩
  | emptyObject isBlank =>
      simp only [List.mem_cons, List.mem_append, List.not_mem_nil, or_false,
        not_or]
      exact ⟨by decide, nul_not_mem_blank isBlank, by decide⟩
  | object isBlank entries =>
      simp only [List.mem_cons, List.mem_append, not_or]
      exact ⟨by decide, nul_not_mem_blank isBlank, entries.nul_not_mem noDigit⟩

theorem Items.nul_not_mem
    {text : List Char}
    {items : List Tree}
    (noDigit : digitValue '\x00' = none)
    (entries : Items digitValue escapable text items) : '\x00' ∉ text := by
  cases entries with
  | last value isBlank =>
      simp only [List.mem_cons, List.mem_append, List.not_mem_nil, or_false,
        not_or]
      exact ⟨value.nul_not_mem noDigit, nul_not_mem_blank isBlank, by decide⟩
  | more value beforeBlank afterBlank entries =>
      simp only [List.mem_cons, List.mem_append, not_or]
      exact ⟨value.nul_not_mem noDigit, nul_not_mem_blank beforeBlank,
        by decide, nul_not_mem_blank afterBlank, entries.nul_not_mem noDigit⟩

theorem Members.nul_not_mem
    {text : List Char}
    {members : List (List Char × Tree)}
    (noDigit : digitValue '\x00' = none)
    (entries : Members digitValue escapable text members) :
    '\x00' ∉ text := by
  cases entries with
  | last named beforeBlank afterBlank value isBlank =>
      simp only [List.mem_cons, List.mem_append, List.not_mem_nil, or_false,
        not_or]
      exact ⟨by decide, named.nul_not_mem noDigit,
        nul_not_mem_blank beforeBlank, by decide,
        nul_not_mem_blank afterBlank, value.nul_not_mem noDigit,
        nul_not_mem_blank isBlank, by decide⟩
  | more named beforeBlank afterBlank value isBlank nextBlank entries =>
      simp only [List.mem_cons, List.mem_append, not_or]
      exact ⟨by decide, named.nul_not_mem noDigit,
        nul_not_mem_blank beforeBlank, by decide,
        nul_not_mem_blank afterBlank, value.nul_not_mem noDigit,
        nul_not_mem_blank isBlank, by decide, nul_not_mem_blank nextBlank,
        entries.nul_not_mem noDigit⟩

end

theorem Text.nul_not_mem
    {text : List Char}
    {tree : Tree}
    (noDigit : digitValue '\x00' = none)
    (json : Text digitValue escapable text tree) : '\x00' ∉ text := by
  rcases json with ⟨beforeBlank, value, afterBlank⟩
  rw [List.mem_append, List.mem_append, not_or, not_or]
  exact ⟨nul_not_mem_blank beforeBlank, value.nul_not_mem noDigit,
    nul_not_mem_blank afterBlank⟩

end Characters
end DebuggerDap.Library.JsonGrammar
