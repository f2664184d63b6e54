import DebuggerDap.Protocol.JsonCodes

/-!
# Numbers are read up to their end

The parser takes a number apart as the grammar does: sign, digits, fraction
and exponent.  What they come to is left to the arithmetic of the platform.
-/

namespace DebuggerDap.Protocol.JsonNumbers

open DebuggerDap.Text.Strings
open DebuggerDap.Text.Utf8
open DebuggerDap.Library.Bytes
open DebuggerDap.Library.JsonGrammar
open DebuggerDap.Protocol.JsonParser
open DebuggerDap.Protocol.LengthArithmetic

/-- The finite `double` that a number of the grammar comes to. -/
def literalValue (doubles : Doubles) (literal : Literal) : Option Rat :=
  numberOf doubles literal.negative (literal.whole.map byte)
    (literal.fraction.map byte)
    (literal.exponent.any fun exponent => exponent.sign = some '-')
    (((literal.exponent.map Exponent.digits).getD []).map byte)

/-- What may follow a number without becoming part of it. -/
def Ends (rest : List UInt8) : Prop :=
  ∀ code ∈ rest.head?,
    isDigit code = false ∧ code ≠ byte '.' ∧ code ≠ byte 'e' ∧
      code ≠ byte 'E'

section Literals

variable {doubles : Doubles} {digits : WxString} {rest : List UInt8}

theorem isDigit_byte_iff {ch : Char} (ascii : ch.toNat < 128) :
    isDigit (byte ch) = true ↔ ch.isDigit = true := by
  rw [Char.isDigit_iff_toNat]
  simp only [isDigit, Bool.and_eq_true, decide_eq_true_eq,
    UInt8.le_iff_toNat_le, toNat_byte ascii]
  exact Iff.rfl

theorem toNat_lt_of_isDigit {ch : Char} (decimal : ch.isDigit = true) :
    ch.toNat < 128 := by
  have upper : ch.toNat ≤ 57 := (Char.isDigit_iff_toNat.mp decimal).2
  omega

theorem isDigit_byte {ch : Char} (decimal : ch.isDigit = true) :
    isDigit (byte ch) = true :=
  (isDigit_byte_iff (toNat_lt_of_isDigit decimal)).mpr decimal

/-- Digits are taken up to what is none. -/
theorem takeDigits_append
    (decimal : ∀ ch ∈ digits, ch.isDigit = true)
    (ends : ∀ code ∈ rest.head?, isDigit code = false) :
    takeDigits (digits.map byte ++ rest) = (digits.map byte, rest) := by
  have all : ∀ code ∈ digits.map byte, isDigit code = true := by
    intro code member
    rcases List.mem_map.mp member with ⟨ch, inDigits, rfl⟩
    exact isDigit_byte (decimal ch inDigits)
  have stop : rest.takeWhile isDigit = [] ∧ rest.dropWhile isDigit = rest := by
    cases rest with
    | nil => exact ⟨rfl, rfl⟩
    | cons code rest =>
        have none := ends code rfl
        exact ⟨List.takeWhile_cons_of_neg (by simp [none]),
          List.dropWhile_cons_of_neg (by simp [none])⟩
  rw [takeDigits, List.takeWhile_append_of_pos all,
    List.dropWhile_append_of_pos all, stop.1, stop.2, List.append_nil]

/-- A zero adds nothing to a number without digits. -/
theorem fold_zero : doubles.fold 0 [byte '0'] = some 0 := by
  have product : doubles.mul 0 10 = some 0 :=
    doubles.mul_exact 0 10 (by decide)
  have sum : doubles.add 0 0 = some 0 := doubles.add_exact 0 0 (by decide)
  rw [Doubles.fold, List.foldlM_cons, product]
  show doubles.add 0 0 >>= _ = some 0
  rw [sum]
  rfl

theorem nonzero_iff (code : UInt8) :
    byte '1' ≤ code ∧ code ≤ byte '9' ↔
      isDigit code = true ∧ code ≠ byte '0' := by
  have codes :
      (byte '0').toNat = 48 ∧ (byte '1').toNat = 49 ∧
        (byte '9').toNat = 57 :=
    ⟨rfl, rfl, rfl⟩
  simp only [isDigit, Bool.and_eq_true, decide_eq_true_eq,
    UInt8.le_iff_toNat_le, ne_eq, ← UInt8.toNat_inj, codes]
  omega

/-- The digits in front of the point, but for a lone zero, which is skipped. -/
theorem wholePart_append
    (decimal : ∀ ch ∈ digits, ch.isDigit = true)
    (nonempty : digits ≠ [])
    (leading : digits.head? = some '0' → digits = ['0'])
    (ends : ∀ code ∈ rest.head?, isDigit code = false) :
    (wholePart (digits.map byte ++ rest)).2 = rest ∧
      doubles.fold 0 (wholePart (digits.map byte ++ rest)).1 =
        doubles.fold 0 (digits.map byte) := by
  rcases List.exists_cons_of_ne_nil nonempty with ⟨first, others, rfl⟩
  by_cases zero : first = '0'
  · subst zero
    cases leading rfl
    have skipped : wholePart (['0'].map byte ++ rest) = ([], rest) := by
      cases rest with
      | nil => rfl
      | cons code rest =>
          have none : ¬ (byte '1' ≤ code ∧ code ≤ byte '9') := by
            rw [nonzero_iff, ends code rfl]
            exact fun both => Bool.false_ne_true both.1
          exact if_neg none
    rw [skipped]
    exact ⟨rfl, fold_zero.symm⟩
  · have firstDecimal := decimal first List.mem_cons_self
    have apart : byte first ≠ byte '0' := by
      intro same
      have codes := congrArg UInt8.toNat same
      rw [toNat_byte (toNat_lt_of_isDigit firstDecimal)] at codes
      exact zero (Char.toNat_inj.mp codes)
    have whole :
        wholePart ((first :: others).map byte ++ rest) =
          takeDigits ((first :: others).map byte ++ rest) := by
      have noZero :
          ((first :: others).map byte ++ rest).head? ≠ some (byte '0') :=
        fun same => apart (Option.some.inj same)
      rw [wholePart, if_neg noZero]
      exact if_pos ((nonzero_iff _).mpr ⟨isDigit_byte firstDecimal, apart⟩)
    rw [whole, takeDigits_append decimal ends]
    exact ⟨rfl, rfl⟩

theorem utf8_digits (decimal : ∀ ch ∈ digits, ch.isDigit = true) :
    utf8 digits = digits.map byte :=
  utf8_of_ascii fun ch member => toNat_lt_of_isDigit (decimal ch member)

/-- The digits behind a point, if there is one. -/
theorem fractionPart_append
    (literal : Literal)
    (ends : ∀ code ∈ rest.head?, isDigit code = false ∧ code ≠ byte '.') :
    fractionPart (utf8 literal.fractionText ++ rest) =
      (literal.fraction.map byte, rest) := by
  have decimal := literal.fractionDecimal
  rw [Literal.fractionText]
  cases fraction : literal.fraction with
  | nil =>
      rcases rest with _ | ⟨point, _ | ⟨code, rest⟩⟩
      · rfl
      · rfl
      · exact if_neg fun both => (ends point rfl).2 both.1
  | cons first others =>
      rw [fraction] at decimal
      have firstDigit := isDigit_byte (decimal first List.mem_cons_self)
      have taken := takeDigits_append decimal fun code head =>
        (ends code head).1
      rw [if_neg (List.cons_ne_nil first others),
        utf8_cons_of_ascii (by decide), utf8_digits decimal, ← taken]
      exact if_pos ⟨rfl, firstDigit⟩

/-- The digits of an exponent, if there is one, and whether it is negative. -/
theorem exponentPart_append (literal : Literal) (ends : Ends rest) :
    exponentPart (utf8 literal.exponentText ++ rest) =
      (literal.exponent.any fun exponent => exponent.sign = some '-',
        ((literal.exponent.map Exponent.digits).getD []).map byte, rest) := by
  have noDigit : ∀ code ∈ rest.head?, isDigit code = false :=
    fun code head => (ends code head).1
  rw [Literal.exponentText]
  cases literal.exponent with
  | none =>
      cases rest with
      | nil => rfl
      | cons code rest =>
          rcases ends code rfl with ⟨-, -, lower, upper⟩
          exact if_neg (not_or.mpr ⟨lower, upper⟩)
  | some exponent =>
      have mark : byte exponent.mark = byte 'e' ∨
          byte exponent.mark = byte 'E' :=
        exponent.marked.imp (congrArg byte) (congrArg byte)
      have ascii : exponent.mark.toNat < 128 := by
        rcases exponent.marked with same | same
        all_goals rw [same]; decide
      have taken := takeDigits_append exponent.decimal noDigit
      have digits := utf8_digits exponent.decimal
      show exponentPart (utf8 exponent.text ++ rest) =
        (decide (exponent.sign = some '-'), exponent.digits.map byte, rest)
      rw [Exponent.text, utf8_cons_of_ascii ascii, utf8_append, digits,
        List.cons_append, List.append_assoc, exponentPart, if_pos mark]
      cases signed : exponent.sign with
      | none =>
          have apart : ∀ code, isDigit code = false →
              (exponent.digits.map byte ++ rest).head? ≠ some code := by
            rcases List.exists_cons_of_ne_nil exponent.nonempty with
              ⟨first, others, shape⟩
            rintro code other same
            have decimal := exponent.decimal first
              (shape ▸ List.mem_cons_self)
            rw [shape] at same
            rw [← Option.some.inj same, isDigit_byte decimal] at other
            cases other
          show (if (exponent.digits.map byte ++ rest).head? =
              some (byte '+') then _ else _) = _
          rw [if_neg (apart _ (by decide)),
            show (utf8 (none : Option Char).toList ++
              (exponent.digits.map byte ++ rest)) =
                exponent.digits.map byte ++ rest from rfl,
            if_neg (apart _ (by decide)), taken]
          rfl
      | some sign =>
          rcases exponent.signed sign signed with rfl | rfl
          · show (false, takeDigits (exponent.digits.map byte ++ rest)) = _
            rw [taken]
            rfl
          · show (true, takeDigits (exponent.digits.map byte ++ rest)) = _
            rw [taken]
            rfl

/-- What stands behind the digits of a number. -/
theorem exponentText_head (literal : Literal) (ends : Ends rest) :
    ∀ code ∈ (utf8 literal.exponentText ++ rest).head?,
      isDigit code = false ∧ code ≠ byte '.' := by
  rw [Literal.exponentText]
  cases literal.exponent with
  | none => exact fun code head => ⟨(ends code head).1, (ends code head).2.1⟩
  | some exponent =>
      show ∀ code ∈ (utf8 exponent.text ++ rest).head?, _
      rintro code head
      rcases exponent.marked with mark | mark
      all_goals
        rw [Exponent.text, mark, utf8_cons_of_ascii (by decide)] at head
        cases head
        decide

theorem fractionText_head (literal : Literal) (ends : Ends rest) :
    ∀ code ∈
        (utf8 literal.fractionText ++
          (utf8 literal.exponentText ++ rest)).head?,
      isDigit code = false := by
  rw [Literal.fractionText]
  split_ifs
  · exact fun code head => (exponentText_head literal ends code head).1
  · rw [utf8_cons_of_ascii (by decide)]
    rintro code head
    cases head
    decide

/-- A number is read up to where it ends. -/
theorem parseNumber_append (literal : Literal) (ends : Ends rest) :
    parseNumber doubles (utf8 literal.text ++ rest) =
      (literalValue doubles literal, rest) := by
  have decimal := literal.wholeDecimal
  have unsigned :
      utf8 (literal.whole ++
          (literal.fractionText ++ literal.exponentText)) ++ rest =
        literal.whole.map byte ++
          (utf8 literal.fractionText ++
            (utf8 literal.exponentText ++ rest)) := by
    rw [utf8_append, utf8_append, utf8_digits decimal]
    simp only [List.append_assoc]
  have signed :
      ((utf8 literal.text ++ rest).head? = some (byte '-') ↔
          literal.negative = true) ∧
        (if literal.negative = true then (utf8 literal.text ++ rest).tail
          else utf8 literal.text ++ rest) =
          literal.whole.map byte ++
            (utf8 literal.fractionText ++
              (utf8 literal.exponentText ++ rest)) := by
    rw [Literal.text]
    cases literal.negative with
    | true =>
        rw [if_pos rfl, if_pos rfl, List.singleton_append,
          utf8_cons_of_ascii (by decide)]
        exact ⟨iff_of_true rfl rfl, unsigned⟩
    | false =>
        rw [if_neg Bool.false_ne_true, if_neg Bool.false_ne_true,
          List.nil_append, unsigned]
        refine ⟨iff_of_false ?_ Bool.false_ne_true, rfl⟩
        rcases List.exists_cons_of_ne_nil literal.nonempty with
          ⟨first, others, shape⟩
        have digit := isDigit_byte
          (decimal first (shape ▸ List.mem_cons_self))
        rw [shape]
        intro same
        rw [Option.some.inj same] at digit
        cases digit
  rcases @wholePart_append doubles _ _ decimal literal.nonempty
      literal.leading (fractionText_head literal ends) with
    ⟨behind, value⟩
  have fraction := fractionPart_append literal (exponentText_head literal ends)
  have exponent := exponentPart_append literal ends
  simp only [parseNumber, signed, behind, fraction, exponent, literalValue,
    numberOf, value, Bool.decide_eq_true]

end Literals

/-! ## Exact arithmetic -/

theorem ofDigitChars_next (ch : Char) (digits : WxString) (start : Nat) :
    Nat.ofDigitChars 10 (ch :: digits) start =
      Nat.ofDigitChars 10 digits (10 * start + (ch.toNat - 48)) :=
  Nat.ofDigitChars_cons

theorem le_ofDigitChars (digits : WxString) (start : Nat) :
    start ≤ Nat.ofDigitChars 10 digits start := by
  induction digits generalizing start with
  | nil => exact Nat.le_refl start
  | cons ch digits inductionHypothesis =>
      have later := inductionHypothesis (10 * start + (ch.toNat - 48))
      rw [ofDigitChars_next]
      omega

/-- An exponent has a value as long as it is an `int`. -/
theorem foldlM_appendDigit
    {digits : WxString}
    (decimal : ∀ ch ∈ digits, ch.isDigit = true)
    (start : Nat)
    (fits : (Nat.ofDigitChars 10 digits start : Int) ≤ intRange.max) :
    (digits.map byte).foldlM appendDigit (start : Int) =
      some (Nat.ofDigitChars 10 digits start : Int) := by
  induction digits generalizing start with
  | nil => rfl
  | cons ch digits inductionHypothesis =>
      rcases List.forall_mem_cons.mp decimal with ⟨digit, others⟩
      have code : (byte ch).toNat = ch.toNat :=
        toNat_byte (toNat_lt_of_isDigit digit)
      rw [ofDigitChars_next] at fits ⊢
      have room := le_ofDigitChars digits (10 * start + (ch.toNat - 48))
      have step :
          appendDigit start (byte ch) =
            some ((10 * start + (ch.toNat - 48) : Nat) : Int) := by
        have whole :
            (start : Int) * 10 + (ch.toNat - 48 : Nat) =
              ((10 * start + (ch.toNat - 48) : Nat) : Int) := by
          omega
        have lower : intRange.min ≤ 0 := by decide
        rw [appendDigit, code, whole]
        exact if_pos ⟨by omega, by omega⟩
      rw [List.map_cons, List.foldlM_cons, step]
      exact inductionHypothesis others _ fits

/-- Arithmetic that never rounds. -/
def exactDoubles : Doubles where
  add left right := some (left + right)
  mul left right := some (left * right)
  pow10 exponent := some (10 ^ exponent)
  add_exact left right _ := congrArg some (Rat.intCast_add left right).symm
  mul_exact left right _ := congrArg some (Rat.intCast_mul left right).symm
  pow10_zero := rfl

theorem fold_exact
    {digits : WxString}
    (decimal : ∀ ch ∈ digits, ch.isDigit = true)
    (start : Nat) :
    exactDoubles.fold start (digits.map byte) =
      some ((Nat.ofDigitChars 10 digits start : Nat) : Rat) := by
  induction digits generalizing start with
  | nil => rfl
  | cons ch digits inductionHypothesis =>
      rcases List.forall_mem_cons.mp decimal with ⟨digit, others⟩
      have code : (byte ch).toNat = ch.toNat :=
        toNat_byte (toNat_lt_of_isDigit digit)
      have step :
          (start : Rat) * 10 + ((byte ch).toNat - 48 : Nat) =
            ((10 * start + (ch.toNat - 48) : Nat) : Rat) := by
        rw [code, Rat.natCast_add, Rat.natCast_mul, Rat.mul_comm]
        rfl
      rw [List.map_cons, ofDigitChars_next, ← inductionHypothesis others,
        ← step]
      rfl

/--
What the parser computes from a number is the number that is written, were it
not for the rounding of its arithmetic.
-/
theorem literalValue_exact
    {literal : Literal}
    (fits :
      ∀ exponent ∈ literal.exponent,
        (exponent.magnitude : Int) ≤ intRange.max) :
    literalValue exactDoubles literal = some literal.value := by
  have whole := fold_exact literal.wholeDecimal 0
  have fraction := fold_exact literal.fractionDecimal
    (Nat.ofDigitChars 10 literal.whole 0)
  rw [← Nat.ofDigitChars_append] at fraction
  have scaled :
      subscale (((literal.exponent.map Exponent.digits).getD []).map byte) =
          some (((literal.exponent.map Exponent.magnitude).getD 0 : Nat) :
            Int) := by
    cases present : literal.exponent with
    | none => rfl
    | some exponent =>
        exact foldlM_appendDigit exponent.decimal 0 (fits exponent present)
  have signed :
      (((literal.exponent.map Exponent.magnitude).getD 0 : Nat) : Int) *
          (if (literal.exponent.any fun exponent =>
            exponent.sign = some '-') = true then -1 else 1) =
        (literal.exponent.map Exponent.value).getD 0 := by
    cases literal.exponent with
    | none => rfl
    | some exponent => simp [Exponent.value]
  have zero : exactDoubles.fold 0 (literal.whole.map byte) =
      some ((Nat.ofDigitChars 10 literal.whole 0 : Nat) : Rat) :=
    whole
  rw [literalValue, numberOf, zero, scaled, List.length_map, Literal.value,
    ← signed]
  show (exactDoubles.fold _ _ >>= fun n => _) = _
  rw [fraction]
  rfl

end DebuggerDap.Protocol.JsonNumbers
