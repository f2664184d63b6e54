import DebuggerDap.Library.JsonGrammar
import DebuggerDap.Protocol.JsonParser

/-!
# The codes of characters in quoted texts

How the parser turns the digits of code units into the bytes of characters:
the bytes of a code are the encoding of its character, `sscanf` reads the four
digits of a unit, and a surrogate pair gives its character or, where bit 16
was set already, the one a plane below.
-/

namespace DebuggerDap.Protocol.JsonCodes

open DebuggerDap.Text.Strings
open DebuggerDap.Text.Numbers
open DebuggerDap.Text.Utf8
open DebuggerDap.Library.Bytes
open DebuggerDap.Library.JsonGrammar
open DebuggerDap.Protocol.JsonParser

/-! ## Codes and their bytes -/

theorem continuation_eq (uc : UInt32) :
    continuation uc = uc.toUInt8 &&& 0x3f ||| 0x80 := by
  have bytes : ∀ code < 256,
      (UInt8.ofNat code ||| 0x80) &&& 0xBF =
        UInt8.ofNat code &&& 0x3f ||| 0x80 := by
    decide +kernel
  rw [continuation, UInt32.toUInt8_and, UInt32.toUInt8_or,
    ← UInt8.ofNat_toNat (x := uc.toUInt8)]
  exact bytes _ (UInt8.toNat_lt _)

theorem codeLength_char (ch : Char) : codeLength ch.val = ch.utf8Size := by
  have bounds :
      (0x80 : UInt32).toNat = 0x80 ∧ (0x800 : UInt32).toNat = 0x800 ∧
        (0x10000 : UInt32).toNat = 0x10000 :=
    ⟨rfl, rfl, rfl⟩
  have upper :
      (0x7F : UInt32).toNat = 0x7F ∧ (0x7FF : UInt32).toNat = 0x7FF ∧
        (0xFFFF : UInt32).toNat = 0xFFFF :=
    ⟨rfl, rfl, rfl⟩
  have size :
      ch.utf8Size =
        if ch.val ≤ 0x7F then 1
        else if ch.val ≤ 0x7FF then 2
        else if ch.val ≤ 0xFFFF then 3
        else 4 :=
    rfl
  rw [size, codeLength]
  simp only [UInt32.lt_iff_toNat_lt, UInt32.le_iff_toNat_le, bounds, upper]
  split_ifs
  all_goals omega

theorem and_mask
    {code : UInt8}
    {bits : Nat}
    (small : bits ≤ 8)
    (fits : code.toNat < 2 ^ bits) :
    code &&& UInt8.ofNat (2 ^ bits - 1) = code := by
  have mask : 2 ^ bits - 1 < 256 := by
    have power : 2 ^ bits ≤ 2 ^ 8 := Nat.pow_le_pow_right (by decide) small
    omega
  apply UInt8.toNat_inj.mp
  rw [UInt8.toNat_and, UInt8.toNat_ofNat', Nat.mod_eq_of_lt mask,
    Nat.and_two_pow_sub_one_eq_mod, Nat.mod_eq_of_lt fits]

/-- The bits above those of the continuations fit below the mark. -/
theorem toNat_first
    {uc : UInt32}
    {shift bits : Nat}
    (inWord : shift < 32)
    (fits : uc.toNat < 2 ^ (shift + bits)) :
    (uc >>> UInt32.ofNat shift).toUInt8.toNat < 2 ^ bits := by
  have quotient : uc.toNat / 2 ^ shift < 2 ^ bits := by
    rw [Nat.div_lt_iff_lt_mul (Nat.two_pow_pos shift), ← Nat.pow_add,
      Nat.add_comm]
    exact fits
  rw [UInt32.toNat_toUInt8, UInt32.toNat_shiftRight, UInt32.toNat_ofNat',
    Nat.mod_eq_of_lt (a := shift) (by omega), Nat.mod_eq_of_lt inWord,
    Nat.shiftRight_eq_div_pow]
  exact Nat.lt_of_le_of_lt (Nat.mod_le _ _) quotient

theorem first_eq
    {uc : UInt32}
    {shift bits : Nat}
    (small : bits ≤ 8)
    (inWord : shift < 32)
    (fits : uc.toNat < 2 ^ (shift + bits))
    (mark : UInt32) :
    (uc >>> UInt32.ofNat shift ||| mark).toUInt8 =
      (uc >>> UInt32.ofNat shift).toUInt8 &&& UInt8.ofNat (2 ^ bits - 1) |||
        mark.toUInt8 := by
  rw [and_mask small (toNat_first inWord fits), UInt32.toUInt8_or]

/-- Below which power of two the code of a character is. -/
theorem code_lt (ch : Char) :
    (ch.utf8Size = 2 → ch.val.toNat < 2 ^ (6 + 5)) ∧
      (ch.utf8Size = 3 → ch.val.toNat < 2 ^ (12 + 4)) ∧
      ch.val.toNat < 2 ^ (18 + 3) := by
  have valid : ch.val.toNat < 0xD800 ∨
      0xDFFF < ch.val.toNat ∧ ch.val.toNat < 0x110000 :=
    ch.valid
  refine ⟨fun double => ?_, fun triple => ?_, by omega⟩
  · exact Nat.lt_succ_of_le
      (UInt32.le_iff_toNat_le.mp (Char.utf8Size_eq_two_iff.mp double).2)
  · exact Nat.lt_succ_of_le
      (UInt32.le_iff_toNat_le.mp (Char.utf8Size_eq_three_iff.mp triple).2)

/-- The bytes of a character are its encoding. -/
theorem encodeCode_char (ch : Char) :
    encodeCode ch.val = String.utf8EncodeChar ch := by
  have size := codeLength_char ch
  rcases code_lt ch with ⟨two, three, four⟩
  rcases Char.utf8Size_eq ch with single | double | triple | quadruple
  · rw [String.utf8EncodeChar_eq_singleton single, encodeCode, size, single]
    rfl
  · rw [String.utf8EncodeChar_eq_cons_cons double, encodeCode, size, double,
      ← continuation_eq]
    exact congrArg (· :: _)
      (first_eq (by decide) (by decide) (two double) 0xC0)
  · rw [String.utf8EncodeChar_eq_cons_cons_cons triple, encodeCode, size,
      triple, ← continuation_eq, ← continuation_eq]
    exact congrArg (· :: _)
      (first_eq (by decide) (by decide) (three triple) 0xE0)
  · rw [String.utf8EncodeChar_eq_cons_cons_cons_cons quadruple, encodeCode,
      size, quadruple, ← continuation_eq, ← continuation_eq,
      ← continuation_eq]
    exact congrArg (· :: _) (first_eq (by decide) (by decide) four 0xF0)

/-! ## Code units -/

theorem toNat_lt_of_isHexDigit
    {ch : Char}
    (hexadecimal : isHexDigit ch = true) :
    ch.toNat < 128 := by
  simp only [isHexDigit, hexDigit?] at hexadecimal
  split_ifs at hexadecimal
  · next decimal =>
      have upper : ch.toNat ≤ 57 := (Char.isDigit_iff_toNat.mp decimal).2
      omega
  · next lower =>
      have upper : ch.toNat ≤ 102 := lower.2
      omega
  · next letter =>
      have upper : ch.toNat ≤ 70 := letter.2
      omega
  · cases hexadecimal

theorem ne_of_isHexDigit
    {ch other : Char}
    (hexadecimal : isHexDigit ch = true)
    (none : isHexDigit other = false) :
    ch ≠ other := by
  rintro rfl
  rw [none] at hexadecimal
  cases hexadecimal

theorem behindMark_of_hexDigits
    {digits : WxString}
    (hexadecimal : ∀ ch ∈ digits, isHexDigit ch = true) :
    behindMark digits = digits := by
  unfold behindMark
  split
  · next mark rest =>
      rw [if_neg]
      rintro (rfl | rfl)
      · exact absurd (hexadecimal 'x' (by simp)) (by decide)
      · exact absurd (hexadecimal 'X' (by simp)) (by decide)
  · rfl

/-- `sscanf` reads four digits, whatever follows them. -/
theorem scanHex_unit
    {digits : WxString}
    {number : Nat}
    (unit : CodeUnit hexDigit? digits number)
    (rest : List UInt8) :
    scanHex (digits.map byte ++ rest) = some (UInt32.ofNat number) := by
  have ascii : IsAscii digits := fun ch member =>
    toNat_lt_of_isHexDigit (unit.hexadecimal ch member)
  have nonempty : digits ≠ [] := by
    rintro rfl
    exact absurd unit.four (by decide)
  have first :
      ∀ ch : Char, isHexDigit ch = false → digits.head? ≠ some ch := by
    intro ch other head
    exact ne_of_isHexDigit
      (unit.hexadecimal ch (List.mem_of_mem_head? head)) other rfl
  have field :
      ((digits ++ rest.map charOf).dropWhile isSpace).take 4 = digits := by
    rcases List.exists_cons_of_ne_nil nonempty with ⟨ch, more, rfl⟩
    have sharp : isSpace ch = false := by
      by_contra blank
      rw [Bool.not_eq_false] at blank
      simp only [isSpace, Bool.or_eq_true, beq_iff_eq] at blank
      rcases blank with ((((rfl | rfl) | rfl) | rfl) | rfl) | rfl
      all_goals exact first _ (by decide) rfl
    rw [List.cons_append, List.dropWhile_cons_of_neg (by simp [sharp]),
      ← List.cons_append]
    exact List.take_left' unit.four
  have run : digits.takeWhile isHexDigit = digits :=
    List.takeWhile_eq_self_iff.mpr unit.hexadecimal
  have value : hexNumber digits = number := unit.value
  have minus := first '-' (by decide)
  have plus := first '+' (by decide)
  simp only [scanHex, List.map_append, map_charOf_byte ascii, field, minus,
    plus, or_self, if_false, behindMark_of_hexDigits unit.hexadecimal, run,
    nonempty, value]

theorem unit_lt
    {digits : WxString}
    {number : Nat}
    (unit : CodeUnit hexDigit? digits number) :
    number < 0x10000 := by
  have bound := hexNumber_lt digits
  rw [unit.four] at bound
  exact unit.value ▸ bound

theorem toNat_unit
    {digits : WxString}
    {number : Nat}
    (unit : CodeUnit hexDigit? digits number) :
    (UInt32.ofNat number).toNat = number := by
  have small := unit_lt unit
  rw [UInt32.toNat_ofNat', Nat.mod_eq_of_lt (by omega)]

theorem utf8_unit
    {digits : WxString}
    {number : Nat}
    (unit : CodeUnit hexDigit? digits number) :
    utf8 digits = digits.map byte :=
  utf8_of_ascii fun ch member =>
    toNat_lt_of_isHexDigit (unit.hexadecimal ch member)

/-! ## Surrogate pairs -/

/-- Setting bit 16 adds it where it is clear, and changes nothing elsewhere. -/
theorem or_bit16 (high : Nat) {low : Nat} (small : low < 2 ^ 16) :
    2 ^ 16 ||| (2 ^ 17 * high + low) = 2 ^ 17 * high + (2 ^ 16 + low) ∧
      2 ^ 16 ||| (2 ^ 17 * high + (2 ^ 16 + low)) =
        2 ^ 17 * high + (2 ^ 16 + low) := by
  have bit : 2 ^ 16 ||| low = 2 ^ 16 + low := by
    rw [← Nat.mul_one (2 ^ 16), Nat.two_pow_add_eq_or_of_lt small]
  have clear : 2 ^ 17 * high + low = 2 ^ 17 * high ||| low :=
    Nat.two_pow_add_eq_or_of_lt (by omega) high
  have set : 2 ^ 17 * high + (2 ^ 16 + low) =
      2 ^ 17 * high ||| (2 ^ 16 ||| low) := by
    rw [bit, Nat.two_pow_add_eq_or_of_lt (by omega)]
  constructor
  · rw [clear, set, ← Nat.or_assoc, Nat.or_comm (2 ^ 16), Nat.or_assoc]
  · rw [set, ← Nat.or_assoc, Nat.or_comm (2 ^ 16), Nat.or_assoc,
      ← Nat.or_assoc (2 ^ 16), Nat.or_self]

theorem or_bit16_eq (offset : Nat) :
    0x10000 ||| offset =
      if offset / 0x10000 % 2 = 0 then offset + 0x10000 else offset := by
  have small : offset % 2 ^ 16 < 2 ^ 16 := Nat.mod_lt _ (by decide)
  rcases or_bit16 (offset / 2 ^ 17) small with ⟨clear, set⟩
  have power : (2 : Nat) ^ 16 = 0x10000 := rfl
  split_ifs with bit
  · have whole : 2 ^ 17 * (offset / 2 ^ 17) + offset % 2 ^ 16 = offset := by
      omega
    rw [whole, power] at clear
    omega
  · have whole :
        2 ^ 17 * (offset / 2 ^ 17) + (2 ^ 16 + offset % 2 ^ 16) = offset := by
      omega
    rw [whole, power] at set
    exact set

/-- The code of a pair is the character's, or that of one plane below it. -/
theorem pairCode_of_surrogates
    {high low : Nat}
    {ch : Char}
    (surrogates : Surrogates high low ch) :
    (pairCode (UInt32.ofNat high) (UInt32.ofNat low)).toNat =
      if ch.toNat / 0x10000 % 2 = 1 then ch.toNat
      else ch.toNat - 0x10000 := by
  rcases surrogates with
    ⟨highLower, highUpper, lowLower, lowUpper, code⟩
  have masks : (0x3FF : UInt32).toNat = 2 ^ 10 - 1 := rfl
  have first : (UInt32.ofNat high &&& 0x3FF).toNat = high - 0xD800 := by
    rw [UInt32.toNat_and, UInt32.toNat_ofNat', masks,
      Nat.and_two_pow_sub_one_eq_mod]
    omega
  have second : (UInt32.ofNat low &&& 0x3FF).toNat = low - 0xDC00 := by
    rw [UInt32.toNat_and, UInt32.toNat_ofNat', masks,
      Nat.and_two_pow_sub_one_eq_mod]
    omega
  have shifted :
      ((UInt32.ofNat high &&& 0x3FF) <<< 10).toNat =
        2 ^ 10 * (high - 0xD800) := by
    rw [UInt32.toNat_shiftLeft, first]
    have ten : (10 : UInt32).toNat % 32 = 10 := rfl
    rw [ten, Nat.shiftLeft_eq]
    omega
  have joined : 
      2 ^ 10 * (high - 0xD800) ||| (low - 0xDC00) = ch.toNat - 0x10000 := by
    rw [← Nat.two_pow_add_eq_or_of_lt (by omega)]
    omega
  have set : (0x10000 : UInt32).toNat = 0x10000 := rfl
  rw [pairCode, UInt32.toNat_or, UInt32.toNat_or, shifted, second, set,
    Nat.or_assoc, joined, or_bit16_eq]
  split_ifs
  all_goals omega

end DebuggerDap.Protocol.JsonCodes
