import DebuggerDap.Library.Bytes
import DebuggerDap.Text.Strings

/-!
# The UTF-8 form of a character string

`mb_str(wxConvUTF8)` turns a string into its UTF-8 bytes.  A string and its
encoding have the same length exactly when every character is ASCII, and then
the bytes are the character codes.
-/

namespace DebuggerDap.Text.Utf8

open DebuggerDap.Text.Strings
open DebuggerDap.Library.Bytes

/-- The UTF-8 bytes of a string. -/
def utf8 (str : WxString) : List UInt8 :=
  str.flatMap String.utf8EncodeChar

/-- Every character lies in the ASCII range. -/
def IsAscii (str : WxString) : Prop :=
  ∀ ch ∈ str, ch.toNat < 128

instance (str : WxString) : Decidable (IsAscii str) :=
  List.decidableBAll (fun ch : Char => ch.toNat < 128) str

/-- A character is ASCII when its encoding is a single byte. -/
theorem utf8Size_eq_one_iff (ch : Char) :
    ch.utf8Size = 1 ↔ ch.toNat < 128 := by
  have code : ch.toNat = ch.val.toNat := rfl
  have bound : (127 : UInt32).toNat = 127 := rfl
  rw [Char.utf8Size_eq_one_iff, UInt32.le_iff_toNat_le]
  omega

@[simp]
theorem utf8_nil : utf8 [] = [] :=
  rfl

@[simp]
theorem utf8_cons (ch : Char) (str : WxString) :
    utf8 (ch :: str) = String.utf8EncodeChar ch ++ utf8 str :=
  rfl

@[simp]
theorem utf8_append (left right : WxString) :
    utf8 (left ++ right) = utf8 left ++ utf8 right := by
  simp [utf8]

theorem flatten_map_utf8 (pieces : List WxString) :
    (pieces.map utf8).flatten = utf8 pieces.flatten := by
  induction pieces with
  | nil => rfl
  | cons piece pieces ih =>
      rw [List.map_cons, List.flatten_cons, List.flatten_cons,
        utf8_append, ih]

@[simp]
theorem isAscii_nil : IsAscii [] := by
  simp [IsAscii]

@[simp]
theorem isAscii_cons (ch : Char) (str : WxString) :
    IsAscii (ch :: str) ↔ ch.toNat < 128 ∧ IsAscii str := by
  simp [IsAscii]

@[simp]
theorem isAscii_append (left right : WxString) :
    IsAscii (left ++ right) ↔ IsAscii left ∧ IsAscii right := by
  simp only [IsAscii, List.mem_append]
  constructor
  · intro all
    exact ⟨fun ch member => all ch (Or.inl member),
      fun ch member => all ch (Or.inr member)⟩
  · rintro ⟨allLeft, allRight⟩ ch (inLeft | inRight)
    · exact allLeft ch inLeft
    · exact allRight ch inRight

/-- No character needs fewer than one byte. -/
theorem length_le_utf8 (str : WxString) :
    str.length ≤ (utf8 str).length := by
  induction str with
  | nil => rfl
  | cons ch str ih =>
      have positive := Char.utf8Size_pos ch
      rw [utf8_cons, List.length_append, List.length_cons,
        String.length_utf8EncodeChar]
      omega

/-- Bytes and characters are equally many exactly for ASCII text. -/
theorem length_utf8_eq_iff (str : WxString) :
    (utf8 str).length = str.length ↔ IsAscii str := by
  induction str with
  | nil => simp
  | cons ch str ih =>
      have positive := Char.utf8Size_pos ch
      have restBound := length_le_utf8 str
      rw [utf8_cons, List.length_append, List.length_cons,
        String.length_utf8EncodeChar, isAscii_cons, ← ih,
        ← utf8Size_eq_one_iff]
      omega

/-- A string is known from its encoding. -/
theorem utf8_injective : Function.Injective utf8 := by
  intro left right same
  have encoded : left.utf8Encode = right.utf8Encode :=
    congrArg List.toByteArray same
  have decoded := congrArg ByteArray.utf8Decode? encoded
  rw [List.utf8Decode?_utf8Encode, List.utf8Decode?_utf8Encode] at decoded
  simpa using decoded

/-- ASCII text is encoded character by character, one byte each. -/
theorem utf8_of_ascii {str : WxString} (ascii : IsAscii str) :
    utf8 str = str.map fun ch => ch.val.toUInt8 := by
  induction str with
  | nil => rfl
  | cons ch str ih =>
      have parts := (isAscii_cons ch str).mp ascii
      rw [utf8_cons, ih parts.2,
        String.utf8EncodeChar_eq_singleton
          ((utf8Size_eq_one_iff ch).mpr parts.1)]
      rfl

/-- A cut of the bytes of ASCII text is a cut of the text. -/
theorem utf8_eq_flatten_of_ascii
    {str : WxString}
    (ascii : IsAscii str)
    (chunks : List (List UInt8))
    (cut : chunks.flatten = utf8 str) :
    ∃ pieces : List WxString,
      pieces.flatten = str ∧ pieces.map utf8 = chunks := by
  induction chunks generalizing str with
  | nil =>
      refine ⟨[], ?_, rfl⟩
      have empty : (utf8 str).length = 0 := by simp [← cut]
      rw [(length_utf8_eq_iff str).mpr ascii] at empty
      simpa using (List.length_eq_zero_iff.mp empty).symm
  | cons chunk chunks ih =>
      rw [List.flatten_cons, utf8_of_ascii ascii, eq_comm,
        List.map_eq_append_iff] at cut
      rcases cut with ⟨first, rest, rfl, firstEq, restEq⟩
      have parts := (isAscii_append first rest).mp ascii
      rw [← utf8_of_ascii parts.1] at firstEq
      rw [← utf8_of_ascii parts.2] at restEq
      rcases ih parts.2 restEq.symm with ⟨pieces, whole, images⟩
      refine ⟨first :: pieces, ?_, ?_⟩
      · rw [List.flatten_cons, whole]
      · rw [List.map_cons, firstEq, images]

/-! ## ASCII characters and bytes -/

theorem utf8_cons_of_ascii
    {ch : Char}
    (ascii : ch.toNat < 128)
    (str : WxString) :
    utf8 (ch :: str) = byte ch :: utf8 str := by
  rw [utf8_cons,
    String.utf8EncodeChar_eq_singleton ((utf8Size_eq_one_iff ch).mpr ascii)]
  rfl

theorem map_charOf_byte {str : WxString} (ascii : IsAscii str) :
    (str.map byte).map charOf = str := by
  rw [List.map_map]
  calc
    str.map (charOf ∘ byte) = str.map id :=
      List.map_congr_left fun ch member => charOf_byte (ascii ch member)
    _ = str := List.map_id str

theorem not_small_ofNat
    {value : Nat}
    (large : 128 ≤ value)
    (fits : value < 256) :
    ¬ (UInt8.ofNat value).toNat < 128 := by
  rw [UInt8.toNat_ofNat', Nat.mod_eq_of_lt fits]
  exact Nat.not_lt.mpr large

/-- A small byte in the encoding of a character is the character. -/
theorem byte_of_mem_utf8EncodeChar
    {ch : Char}
    {code : UInt8}
    (member : code ∈ String.utf8EncodeChar ch)
    (small : code.toNat < 128) :
    ch.toNat < 128 ∧ code = byte ch := by
  by_cases ascii : ch.toNat < 128
  · rw [String.utf8EncodeChar_eq_singleton
      ((utf8Size_eq_one_iff ch).mpr ascii)] at member
    exact ⟨ascii, List.mem_singleton.mp member⟩
  · have code : ch.toNat = ch.val.toNat := rfl
    revert member small
    fun_cases String.utf8EncodeChar ch
    case case1 fits => exact absurd fits (by omega)
    all_goals
      intro member small
      simp only [List.mem_cons, List.not_mem_nil, or_false] at member
    case case2 =>
      rcases member with rfl | rfl
      all_goals exact absurd small (not_small_ofNat (by omega) (by omega))
    case case3 =>
      rcases member with rfl | rfl | rfl
      all_goals exact absurd small (not_small_ofNat (by omega) (by omega))
    case case4 =>
      rcases member with rfl | rfl | rfl | rfl
      all_goals exact absurd small (not_small_ofNat (by omega) (by omega))

/-! ## Zero bytes -/

theorem zero_ne_ofNat
    {value : Nat}
    (positive : 0 < value)
    (small : value < 256) :
    (0 : UInt8) ≠ UInt8.ofNat value := by
  intro equal
  have codes := congrArg UInt8.toNat equal
  rw [UInt8.toNat_ofNat', Nat.mod_eq_of_lt small] at codes
  exact absurd codes.symm (Nat.ne_of_gt positive)

theorem zero_not_mem_utf8EncodeChar
    {ch : Char}
    (notNul : ch ≠ '\x00') :
    0 ∉ String.utf8EncodeChar ch := by
  have codePositive : 0 < ch.val.toNat := by
    apply Nat.pos_of_ne_zero
    intro zero
    exact notNul (Char.ext (UInt32.toNat_inj.mp zero))
  fun_cases String.utf8EncodeChar ch
  all_goals
    simp only [List.mem_cons, List.not_mem_nil, or_false, not_or]
  case case1 small =>
    exact zero_ne_ofNat codePositive (by omega)
  case case2 =>
    exact ⟨zero_ne_ofNat (by omega) (by omega),
      zero_ne_ofNat (by omega) (by omega)⟩
  case case3 =>
    exact ⟨zero_ne_ofNat (by omega) (by omega),
      zero_ne_ofNat (by omega) (by omega),
      zero_ne_ofNat (by omega) (by omega)⟩
  case case4 =>
    exact ⟨zero_ne_ofNat (by omega) (by omega),
      zero_ne_ofNat (by omega) (by omega),
      zero_ne_ofNat (by omega) (by omega),
      zero_ne_ofNat (by omega) (by omega)⟩

/-- Text without a NUL character has no zero byte. -/
theorem zero_not_mem_utf8
    {str : WxString}
    (noNul : '\x00' ∉ str) :
    0 ∉ utf8 str := by
  induction str with
  | nil => simp
  | cons ch str ih =>
      rw [List.mem_cons, not_or] at noNul
      rw [utf8_cons, List.mem_append, not_or]
      exact ⟨zero_not_mem_utf8EncodeChar (Ne.symm noNul.1), ih noNul.2⟩

/-! ## Decimal numbers -/

theorem isAscii_digits (number : Nat) :
    IsAscii (Nat.toDigits 10 number) := by
  intro ch member
  have digit : ch.isDigit = true :=
    Nat.isDigit_of_mem_toDigits (by decide) (by decide) member
  simp only [Char.isDigit, Bool.and_eq_true, decide_eq_true_eq] at digit
  have upper := UInt32.le_iff_toNat_le.mp digit.2
  have bound : ('9'.val).toNat = 57 := rfl
  have code : ch.toNat = ch.val.toNat := rfl
  omega

end DebuggerDap.Text.Utf8
