import DebuggerDap.Library.MachineInt
import DebuggerDap.Text.Strings
import Mathlib.Data.List.TakeWhile

/-!
# Decimal numbers in texts

`wxString::ToLong` reads a whole text as a number, where `std::atol` takes
what it can get.  A number that was printed is read back, as far as the type
goes; a text with anything but digits behind the sign is not a number.
-/

namespace DebuggerDap.Text.Numbers

open DebuggerDap.Text.Strings
open DebuggerDap.Library.MachineInt

/-- What follows the blanks and the sign of a number. -/
def unsigned (str : WxString) : WxString :=
  match ltrim str with
  | '-' :: digits => digits
  | '+' :: digits => digits
  | digits => digits

/--
`wxString::ToLong` in base 10.  There must be a digit, the number must fit,
and no character but a terminating zero may follow.
-/
def toLong (range : SignedRange) (str : WxString) : Option Int :=
  let digits := unsigned str
  if digits.takeWhile Char.isDigit ≠ [] ∧ range.Contains (atol str) ∧
      (digits.dropWhile Char.isDigit).head?.getD '\x00' = '\x00' then
    some (atol str)
  else none

section Printed

variable {range : SignedRange} {value : Int}

/-- What may stand in front of the digits. -/
def blanksAndSigns : WxString :=
  [' ', '\t', '\n', '\r', '\x0b', '\x0c', '-', '+']

/-- A text without a blank or a sign in front is read from its head. -/
theorem unsigned_cons
    {first : Char}
    {rest : WxString}
    (apart : first ∉ blanksAndSigns) :
    ltrim (first :: rest) = first :: rest ∧
      unsigned (first :: rest) = first :: rest ∧
      atol (first :: rest) = leadingNumber (first :: rest) := by
  have sharp : isSpace first = false := by
    by_contra blank
    apply apart
    simp only [isSpace, Bool.not_eq_false, Bool.or_eq_true,
      beq_iff_eq] at blank
    rcases blank with ((((rfl | rfl) | rfl) | rfl) | rfl) | rfl <;> decide
  have noMinus : first ≠ '-' := fun same => apart (same ▸ by decide)
  have noPlus : first ≠ '+' := fun same => apart (same ▸ by decide)
  have tight : ltrim (first :: rest) = first :: rest := by
    rw [ltrim, List.dropWhile_cons_of_neg (by simp [sharp])]
  refine ⟨tight, ?_, ?_⟩
  · rw [unsigned, tight]
    split
    · next equal => exact absurd (List.cons.inj equal).1 noMinus
    · next equal => exact absurd (List.cons.inj equal).1 noPlus
    · rfl
  · rw [atol, tight]
    split
    · next equal => exact absurd (List.cons.inj equal).1 noMinus
    · next equal => exact absurd (List.cons.inj equal).1 noPlus
    · rfl

/-- A text of digits is a number without a sign. -/
theorem of_digits
    {digits : WxString}
    (nonempty : digits ≠ [])
    (decimal : ∀ ch ∈ digits, ch.isDigit = true) :
    ltrim digits = digits ∧ unsigned digits = digits ∧
      atol digits = leadingNumber digits := by
  rcases List.exists_cons_of_ne_nil nonempty with ⟨first, rest, rfl⟩
  have digit := decimal first List.mem_cons_self
  have special : ∀ ch ∈ blanksAndSigns, ch.isDigit = false := by
    simp [blanksAndSigns]
  exact unsigned_cons fun inFront =>
    Bool.false_ne_true ((special first inFront).symm.trans digit)

/-- A minus before digits negates their number. -/
theorem of_minus (digits : WxString) :
    unsigned ('-' :: digits) = digits ∧
      atol ('-' :: digits) = -(leadingNumber digits : Int) := by
  have tight : ltrim ('-' :: digits) = '-' :: digits := by
    rw [ltrim, List.dropWhile_cons_of_neg (by decide)]
  constructor
  · rw [unsigned, tight]
    rfl
  · rw [atol, tight]
    rfl

theorem leadingNumber_toDigits (number : Nat) :
    (Nat.toDigits 10 number).takeWhile Char.isDigit =
        Nat.toDigits 10 number ∧
      leadingNumber (Nat.toDigits 10 number) = number := by
  have whole :
      (Nat.toDigits 10 number).takeWhile Char.isDigit =
        Nat.toDigits 10 number :=
    List.takeWhile_eq_self_iff.mpr fun _ member =>
      Nat.isDigit_of_mem_toDigits (by decide) (by decide) member
  refine ⟨whole, ?_⟩
  rw [leadingNumber, whole, Nat.ofDigitChars_ten_toDigits]

/-- The digits of a number, possibly behind a minus, are read to the end. -/
theorem toLong_of_digits
    {str : WxString}
    {number : Nat}
    (digits : unsigned str = Nat.toDigits 10 number)
    (contains : range.Contains (atol str)) :
    toLong range str = some (atol str) := by
  have whole := (leadingNumber_toDigits number).1
  have nothing :
      (Nat.toDigits 10 number).dropWhile Char.isDigit = [] := by
    have both := List.takeWhile_append_dropWhile (p := Char.isDigit)
      (l := Nat.toDigits 10 number)
    rw [whole] at both
    exact List.append_right_eq_self.mp both
  rw [toLong, digits, whole, nothing]
  exact if_pos ⟨Nat.toDigits_ne_nil, contains, rfl⟩

theorem toString_ofNat (number : Nat) :
    (toString (Int.ofNat number)).toList = Nat.toDigits 10 number := by
  show (Nat.repr number).toList = _
  rw [Nat.repr_eq_ofList_toDigits, String.toList_ofList]

theorem toString_negSucc (number : Nat) :
    (toString (Int.negSucc number)).toList =
      '-' :: Nat.toDigits 10 (number + 1) := by
  show ("-" ++ Nat.repr (number + 1)).toList = _
  rw [String.toList_append, Nat.repr_eq_ofList_toDigits,
    String.toList_ofList]
  simp

/-- A printed number has only digits behind its sign. -/
theorem digit_of_mem_toString
    (value : Int)
    {ch : Char}
    (member : ch ∈ (toString value).toList) :
    ch.isDigit = true ∨ ch = '-' := by
  have digit : ∀ number : Nat, ch ∈ Nat.toDigits 10 number →
      ch.isDigit = true :=
    fun _ => Nat.isDigit_of_mem_toDigits (by decide) (by decide)
  cases value with
  | ofNat number =>
      rw [toString_ofNat] at member
      exact .inl (digit number member)
  | negSucc number =>
      rw [toString_negSucc] at member
      rcases List.mem_cons.mp member with minus | inDigits
      · exact .inr minus
      · exact .inl (digit (number + 1) inDigits)

/-- The digits of a printed number, and the number `std::atol` reads. -/
theorem unsigned_toString (value : Int) :
    (∃ number, unsigned (toString value).toList = Nat.toDigits 10 number) ∧
      atol (toString value).toList = value := by
  cases value with
  | ofNat number =>
      obtain ⟨-, digits, read⟩ :=
        of_digits (Nat.toDigits_ne_nil (b := 10) (n := number))
          fun _ member =>
            Nat.isDigit_of_mem_toDigits (by decide) (by decide) member
      rw [(leadingNumber_toDigits number).2] at read
      rw [toString_ofNat]
      exact ⟨⟨number, digits⟩, read⟩
  | negSucc number =>
      obtain ⟨digits, read⟩ := of_minus (Nat.toDigits 10 (number + 1))
      rw [(leadingNumber_toDigits (number + 1)).2] at read
      rw [toString_negSucc]
      exact ⟨⟨number + 1, digits⟩, read⟩

/-- A printed number is read back if the type holds it. -/
theorem toLong_toString (contains : range.Contains value) :
    toLong range (toString value).toList = some value := by
  rcases unsigned_toString value with ⟨⟨number, digits⟩, read⟩
  rw [toLong_of_digits digits (by rwa [read]), read]

end Printed

/-! ## Texts that are no numbers -/

section Refused

variable {range : SignedRange}

theorem toLong_nil : toLong range [] = none := by
  rw [toLong]
  exact if_neg fun all => all.1 rfl

/-- A number begins with a digit, or with blanks and a sign. -/
theorem toLong_cons
    {first : Char}
    (apart : first ∉ blanksAndSigns)
    (noDigit : first.isDigit = false)
    (rest : WxString) :
    toLong range (first :: rest) = none := by
  apply if_neg
  rintro ⟨digits, -⟩
  apply digits
  rw [(unsigned_cons apart).2.1, List.takeWhile_cons_of_neg (by simp [noDigit])]

/-- What is dropped in front of a character that stays is not that far. -/
theorem exists_dropWhile_append
    {p : Char → Bool}
    {stop : Char}
    (stays : p stop = false)
    (start rest : WxString) :
    ∃ left, left <:+ start ∧
      (start ++ stop :: rest).dropWhile p = left ++ stop :: rest := by
  induction start with
  | nil =>
      exact ⟨[], List.suffix_rfl,
        List.dropWhile_cons_of_neg (by simp [stays])⟩
  | cons ch start inductionHypothesis =>
      cases drops : p ch with
      | true =>
          rcases inductionHypothesis with ⟨left, isSuffix, same⟩
          exact ⟨left, isSuffix.trans (List.suffix_cons ch start),
            (List.dropWhile_cons_of_pos drops).trans same⟩
      | false =>
          exact ⟨ch :: start, List.suffix_rfl,
            List.dropWhile_cons_of_neg (by simp [drops])⟩

theorem exists_unsigned_append (start rest : WxString) :
    ∃ left, left <:+ start ∧
      unsigned (start ++ ',' :: rest) = left ++ ',' :: rest := by
  rcases exists_dropWhile_append (by decide : isSpace ',' = false) start rest
    with ⟨left, isSuffix, tight⟩
  rw [unsigned, ltrim, tight]
  split
  · next digits whole =>
      cases left with
      | nil => cases whole
      | cons ch left =>
          cases whole
          exact ⟨left, (List.suffix_cons _ left).trans isSuffix, rfl⟩
  · next digits whole =>
      cases left with
      | nil => cases whole
      | cons ch left =>
          cases whole
          exact ⟨left, (List.suffix_cons _ left).trans isSuffix, rfl⟩
  · exact ⟨left, isSuffix, rfl⟩

/-- Two numbers with a comma between them are not one. -/
theorem toLong_append_comma
    {start : WxString}
    (noZero : '\x00' ∉ start)
    (rest : WxString) :
    toLong range (start ++ ',' :: rest) = none := by
  rcases exists_unsigned_append start rest with ⟨left, isSuffix, digits⟩
  rcases exists_dropWhile_append (by decide : Char.isDigit ',' = false) left
    rest with ⟨behind, isEnd, dropped⟩
  apply if_neg
  rintro ⟨-, -, ended⟩
  rw [digits, dropped] at ended
  cases behind with
  | nil => exact absurd ended (by simp)
  | cons ch behind =>
      apply noZero
      have isZero : ch = '\x00' := ended
      rw [← isZero]
      exact isSuffix.subset (isEnd.subset List.mem_cons_self)

end Refused

/-! ## Hexadecimal numbers -/

/-- The value of a hexadecimal digit, in either case. -/
def hexDigit? (ch : Char) : Option Nat :=
  if ch.isDigit then some (ch.toNat - 48)
  else if 'a' ≤ ch ∧ ch ≤ 'f' then some (ch.toNat - 87)
  else if 'A' ≤ ch ∧ ch ≤ 'F' then some (ch.toNat - 55)
  else none

def isHexDigit (ch : Char) : Bool :=
  (hexDigit? ch).isSome

/-- The number hexadecimal digits stand for. -/
def hexNumber (digits : WxString) : Nat :=
  digits.foldl (fun number ch => 16 * number + (hexDigit? ch).getD 0) 0

/-- The digits behind `0x`, which base 16 allows in front of them. -/
def hexDigitsOf (body : WxString) : WxString :=
  match body with
  | '0' :: mark :: digit :: rest =>
      if (mark = 'x' ∨ mark = 'X') ∧ isHexDigit digit = true then digit :: rest
      else body
  | _ => body

/--
`strtoll` in base 16: the number and what follows it.  There must be a digit,
and the number must fit.
-/
def strtollHex (range : SignedRange) (str : WxString) :
    Option (Int × WxString) :=
  let body := hexDigitsOf (unsigned str)
  let number := hexNumber (body.takeWhile isHexDigit)
  let value : Int :=
    if (ltrim str).head? = some '-' then -number else number
  if body.takeWhile isHexDigit ≠ [] ∧ range.Contains value then
    some (value, body.dropWhile isHexDigit)
  else none

/--
`wxString::ToLongLong` in base 16.  A number in front of other characters is
stored before the failure; without one the variable keeps its value.
-/
def toLongLongHex (range : SignedRange) (str : WxString) (value : Int) :
    Bool × Int :=
  match strtollHex range str with
  | some (number, rest) => (rest.head?.getD '\x00' = '\x00', number)
  | none => (false, value)

/-- An unsigned type; C++ gives `unsigned long` 32 bits at least. -/
structure UnsignedWidth where
  bits : Nat
  room : 32 ≤ bits

/-- The width of `uint64_t`. -/
def uint64 : UnsignedWidth where
  bits := 64
  room := by decide

/--
`strtoul` in base 16: the number, negated if it has a minus, and what follows
it.  There must be a digit, and the number must fit.
-/
def strtoulHex (width : UnsignedWidth) (str : WxString) :
    Option (Nat × WxString) :=
  let body := hexDigitsOf (unsigned str)
  let number := hexNumber (body.takeWhile isHexDigit)
  if body.takeWhile isHexDigit ≠ [] ∧ number < 2 ^ width.bits then
    some
      (if (ltrim str).head? = some '-' then
          (2 ^ width.bits - number) % 2 ^ width.bits
        else number,
        body.dropWhile isHexDigit)
  else none

/--
`wxString::ToULong` in base 16, given what the variable holds: whether the
whole text is a number, and what the variable holds then.  A number with
something behind it is kept.
-/
def toULongHex (width : UnsignedWidth) (str : WxString) (value : Nat) :
    Bool × Nat :=
  match strtoulHex width str with
  | none => (false, value)
  | some (number, rest) => (rest.head?.getD '\x00' = '\x00', number)

section Hexadecimal

variable {range : SignedRange} {width : UnsignedWidth} {digits : WxString}

/-- A hexadecimal digit is no blank and no sign. -/
theorem unsigned_of_hexDigits
    (nonempty : digits ≠ [])
    (hexadecimal : ∀ ch ∈ digits, isHexDigit ch = true) :
    unsigned digits = digits ∧ (ltrim digits).head? ≠ some '-' := by
  rcases List.exists_cons_of_ne_nil nonempty with ⟨first, rest, rfl⟩
  have digit := hexadecimal first List.mem_cons_self
  have special : ∀ ch ∈ blanksAndSigns, isHexDigit ch = false := by
    simp [blanksAndSigns, isHexDigit, hexDigit?]
  have apart : first ∉ blanksAndSigns := fun inFront =>
    Bool.false_ne_true ((special first inFront).symm.trans digit)
  rcases @unsigned_cons first rest apart with ⟨tight, whole, -⟩
  rw [tight]
  exact ⟨whole, fun minus => apart (Option.some.inj minus ▸ by decide)⟩

theorem hexDigitsOf_of_hexDigits
    (hexadecimal : ∀ ch ∈ digits, isHexDigit ch = true) :
    hexDigitsOf digits = digits := by
  unfold hexDigitsOf
  split
  · next mark digit rest =>
      rw [if_neg]
      rintro ⟨rfl | rfl, -⟩
      · exact absurd (hexadecimal 'x' (by simp)) (by decide)
      · exact absurd (hexadecimal 'X' (by simp)) (by decide)
  · rfl

/-- A text of hexadecimal digits is read if the type holds the number. -/
theorem toLongLongHex_of_hexDigits
    (nonempty : digits ≠ [])
    (hexadecimal : ∀ ch ∈ digits, isHexDigit ch = true)
    (value : Int) :
    toLongLongHex range digits value =
      if range.Contains (hexNumber digits) then
        (true, (hexNumber digits : Int))
      else (false, value) := by
  rcases unsigned_of_hexDigits nonempty hexadecimal with ⟨whole, noMinus⟩
  have run : digits.takeWhile isHexDigit = digits :=
    List.takeWhile_eq_self_iff.mpr hexadecimal
  have nothing : digits.dropWhile isHexDigit = [] :=
    List.dropWhile_eq_nil_iff.mpr hexadecimal
  rw [toLongLongHex, strtollHex, whole, hexDigitsOf_of_hexDigits hexadecimal,
    run, nothing, if_neg noMinus]
  by_cases contains : range.Contains (hexNumber digits)
  · rw [if_pos ⟨nonempty, contains⟩, if_pos contains]
    rfl
  · rw [if_neg fun both => contains both.2, if_neg contains]

/-- A text is a number if there are digits that fit, and then nothing. -/
theorem toULongHex_fst_iff
    {str body : WxString}
    {value : Nat}
    (bodyEq : hexDigitsOf (unsigned str) = body) :
    (toULongHex width str value).1 = true ↔
      body.takeWhile isHexDigit ≠ [] ∧
        hexNumber (body.takeWhile isHexDigit) < 2 ^ width.bits ∧
        (body.dropWhile isHexDigit).head?.getD '\x00' = '\x00' := by
  rw [toULongHex, strtoulHex, bodyEq, ← and_assoc]
  by_cases number : body.takeWhile isHexDigit ≠ [] ∧
      hexNumber (body.takeWhile isHexDigit) < 2 ^ width.bits
  · rw [if_pos number, and_iff_right number]
    exact decide_eq_true_iff
  · rw [if_neg number]
    exact iff_of_false nofun fun both => number both.1

theorem hexDigit?_lt
    {ch : Char}
    {digit : Nat}
    (isDigit : hexDigit? ch = some digit) : digit < 16 := by
  unfold hexDigit? at isDigit
  split at isDigit
  · next decimal =>
      have upper : ch.toNat ≤ 57 := (Char.isDigit_iff_toNat.mp decimal).2
      cases isDigit
      omega
  · split at isDigit
    · next letter =>
        have upper : ch.toNat ≤ 102 := letter.2
        cases isDigit
        omega
    · split at isDigit
      · next letter =>
          have upper : ch.toNat ≤ 70 := letter.2
          cases isDigit
          omega
      · cases isDigit

/-- Digits stand for less than sixteen to the power of their number. -/
theorem hexNumber_lt (digits : WxString) :
    hexNumber digits < 16 ^ digits.length := by
  induction digits using List.reverseRecOn with
  | nil => decide
  | append_singleton digits last inductionHypothesis =>
      have small : (hexDigit? last).getD 0 < 16 := by
        cases isDigit : hexDigit? last with
        | none => decide
        | some digit => exact hexDigit?_lt isDigit
      rw [hexNumber] at inductionHypothesis
      rw [hexNumber, List.foldl_append, List.foldl_cons, List.foldl_nil,
        List.length_append, List.length_singleton, Nat.pow_succ]
      omega

/-- Hexadecimal digits are read, whatever stood in front of them. -/
theorem toULongHex_of_body
    {str : WxString}
    {value : Nat}
    (body : hexDigitsOf (unsigned str) = digits)
    (noMinus : (ltrim str).head? ≠ some '-')
    (nonempty : digits ≠ [])
    (hexadecimal : ∀ ch ∈ digits, isHexDigit ch = true)
    (fits : hexNumber digits < 2 ^ width.bits) :
    toULongHex width str value = (true, hexNumber digits) := by
  have run : digits.takeWhile isHexDigit = digits :=
    List.takeWhile_eq_self_iff.mpr hexadecimal
  have nothing : digits.dropWhile isHexDigit = [] :=
    List.dropWhile_eq_nil_iff.mpr hexadecimal
  have read : strtoulHex width str = some (hexNumber digits, []) := by
    rw [strtoulHex, body, run, nothing, if_neg noMinus]
    exact if_pos ⟨nonempty, fits⟩
  rw [toULongHex, read]
  rfl

theorem toULongHex_of_hexDigits
    (nonempty : digits ≠ [])
    (hexadecimal : ∀ ch ∈ digits, isHexDigit ch = true)
    (fits : hexNumber digits < 2 ^ width.bits)
    (value : Nat) :
    toULongHex width digits value = (true, hexNumber digits) := by
  rcases unsigned_of_hexDigits nonempty hexadecimal with ⟨whole, noMinus⟩
  refine toULongHex_of_body ?_ noMinus nonempty hexadecimal fits
  rw [whole]
  exact hexDigitsOf_of_hexDigits hexadecimal

/-- The digits may stand behind `0x`. -/
theorem toULongHex_of_marked
    (nonempty : digits ≠ [])
    (hexadecimal : ∀ ch ∈ digits, isHexDigit ch = true)
    (fits : hexNumber digits < 2 ^ width.bits)
    (value : Nat) :
    toULongHex width ('0' :: 'x' :: digits) value =
      (true, hexNumber digits) := by
  have apart : '0' ∉ blanksAndSigns := by decide
  rcases @unsigned_cons '0' ('x' :: digits) apart with ⟨tight, whole, -⟩
  refine toULongHex_of_body ?_ (by simp [tight]) nonempty hexadecimal fits
  rcases List.exists_cons_of_ne_nil nonempty with ⟨first, rest, rfl⟩
  rw [whole, hexDigitsOf,
    if_pos ⟨.inl rfl, hexadecimal first List.mem_cons_self⟩]

/-- Blanks in front of a number are skipped. -/
theorem toULongHex_blank
    {blank str : WxString}
    {value : Nat}
    (allBlank : ∀ ch ∈ blank, isSpace ch = true) :
    toULongHex width (blank ++ str) value = toULongHex width str value := by
  have skipped := ltrim_append_of_blank allBlank str
  rw [toULongHex, toULongHex, strtoulHex, strtoulHex, unsigned, unsigned,
    skipped]

/-- Zeros in front of a number do not count. -/
theorem hexNumber_zeros (count : Nat) (digits : WxString) :
    hexNumber (List.replicate count '0' ++ digits) = hexNumber digits := by
  have zeros :
      hexNumber (List.replicate count '0') = 0 := by
    induction count with
    | zero => rfl
    | succ count inductionHypothesis =>
        rw [hexNumber] at inductionHypothesis
        rw [hexNumber, List.replicate_succ', List.foldl_append,
          inductionHypothesis]
        rfl
  rw [hexNumber] at zeros
  rw [hexNumber, List.foldl_append, zeros]
  rfl

theorem hexDigit?_digitChar :
    ∀ digit < 16, hexDigit? (Nat.digitChar digit) = some digit := by
  decide

/-- The digits of a number in base 16 stand for it. -/
theorem hexNumber_toDigits (number : Nat) :
    hexNumber (Nat.toDigits 16 number) = number ∧
      ∀ ch ∈ Nat.toDigits 16 number, isHexDigit ch = true := by
  induction number using Nat.strong_induction_on with
  | _ number inductionHypothesis =>
      have last := hexDigit?_digitChar (number % 16) (by omega)
      by_cases small : number < 16
      · rw [Nat.toDigits_of_lt_base small]
        rw [Nat.mod_eq_of_lt small] at last
        refine ⟨?_, fun ch member => ?_⟩
        · rw [hexNumber, List.foldl_cons, List.foldl_nil, last]
          simp
        · rw [List.mem_singleton.mp member, isHexDigit, last]
          rfl
      · have earlier := inductionHypothesis (number / 16) (by omega)
        rw [Nat.toDigits_of_base_le (by decide) (by omega)]
        refine ⟨?_, fun ch member => ?_⟩
        · rw [hexNumber, List.foldl_append]
          rw [hexNumber] at earlier
          rw [earlier.1, List.foldl_cons, List.foldl_nil, last]
          simp
          omega
        · rcases List.mem_append.mp member with inside | isLast
          · exact earlier.2 ch inside
          · rw [List.mem_singleton.mp isLast, isHexDigit, last]
            rfl

end Hexadecimal

end DebuggerDap.Text.Numbers
