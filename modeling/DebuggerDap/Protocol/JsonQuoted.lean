import DebuggerDap.Protocol.JsonCodes

/-!
# Quoted texts and the buffer they are read into

Every quoted text of the grammar is read back, inside the buffer that was
counted for it, if the characters it writes with their number are ones the
parser can put together: not NUL, which is dropped, and of a plane whose
number is odd or zero, since the bit behind the first plane is set and not
added.
-/

namespace DebuggerDap.Protocol.JsonQuoted

open DebuggerDap.Text.Strings
open DebuggerDap.Text.Numbers
open DebuggerDap.Text.Utf8
open DebuggerDap.Library.Bytes
open DebuggerDap.Library.JsonGrammar
open DebuggerDap.Protocol.JsonParser
open DebuggerDap.Protocol.JsonCodes

/--
The characters whose escape is put together again: NUL is dropped, and bit 16
is set where a plane number should be added.
-/
def Readable (ch : Char) : Prop :=
  ch ≠ '\x00' ∧ (ch.toNat < 0x10000 ∨ ch.toNat / 0x10000 % 2 = 1)

instance (ch : Char) : Decidable (Readable ch) :=
  inferInstanceAs (Decidable (_ ∧ _))

/-! ## The second pass -/

section Copying

variable {uc uc2 : Option UInt32} {rest : List UInt8}

@[simp]
theorem prepend_ok (bytes out rest : List UInt8) :
    prepend bytes (.ok (out, rest)) = .ok (bytes ++ out, rest) :=
  rfl

theorem prepend_prepend
    (first second : List UInt8)
    (copied : Except Failure (List UInt8 × List UInt8)) :
    prepend first (prepend second copied) =
      prepend (first ++ second) copied := by
  cases copied with
  | error failure => rfl
  | ok result => simp [prepend, Except.map]

@[simp]
theorem prepend_nil (copied : Except Failure (List UInt8 × List UInt8)) :
    prepend [] copied = copied := by
  cases copied <;> rfl

theorem copyString_plain
    {bytes : List UInt8}
    (plain : ∀ code ∈ bytes, code ≠ byte '"' ∧ code ≠ byte '\\') :
    copyString uc uc2 0 (bytes ++ rest) =
      prepend bytes (copyString uc uc2 0 rest) := by
  induction bytes with
  | nil => rw [List.nil_append, prepend_nil]
  | cons code bytes inductionHypothesis =>
      rcases List.forall_mem_cons.mp plain with ⟨⟨quote, backslash⟩, others⟩
      rw [List.cons_append, copyString, if_neg quote, if_pos backslash,
        inductionHypothesis others, prepend_prepend, List.singleton_append]

theorem copyString_quote :
    copyString uc uc2 0 (byte '"' :: rest) = .ok ([], byte '"' :: rest) := by
  rw [copyString, if_pos rfl]

/-- The pointer moves over bytes that are there. -/
theorem copyString_width (skipped rest : List UInt8) :
    copyString uc uc2 skipped.length (skipped ++ rest) =
      copyString uc uc2 0 rest := by
  induction skipped with
  | nil => rfl
  | cons code skipped inductionHypothesis =>
      rw [List.length_cons, List.cons_append, copyString, inductionHypothesis]

theorem copyString_escape
    {escape : Escape}
    (skipped : List UInt8)
    (read : readEscape uc uc2 (skipped ++ rest) = .ok escape)
    (width : escape.width = skipped.length) :
    copyString uc uc2 0 (byte '\\' :: (skipped ++ rest)) =
      prepend escape.bytes (copyString escape.uc escape.uc2 0 rest) := by
  rw [copyString, if_neg (by decide), if_neg (by decide), read]
  simp only [width, copyString_width]

theorem readEscape_short
    {code : UInt8}
    (simple : code ≠ byte 'u') :
    readEscape uc uc2 (code :: rest) =
      .ok ⟨[simpleEscape code], uc, uc2, 1⟩ :=
  if_pos simple

/-- The bounds of the surrogates. -/
theorem toNat_bounds :
    (0xD800 : UInt32).toNat = 0xD800 ∧ (0xDBFF : UInt32).toNat = 0xDBFF ∧
      (0xDC00 : UInt32).toNat = 0xDC00 ∧ (0xDFFF : UInt32).toNat = 0xDFFF ∧
      (0 : UInt32).toNat = 0 :=
  ⟨rfl, rfl, rfl, rfl, rfl⟩

/-- A code unit outside the surrogates is written as a character. -/
theorem readEscape_code
    {digits : WxString}
    {number : Nat}
    (unit : CodeUnit hexDigit? digits number)
    (positive : number ≠ 0)
    (single : number < 0xD800 ∨ 0xDFFF < number) :
    readEscape uc uc2 (byte 'u' :: (digits.map byte ++ rest)) =
      .ok ⟨encodeCode (UInt32.ofNat number),
        some (shiftedCode (UInt32.ofNat number)), uc2, 5⟩ := by
  have code := toNat_unit unit
  simp only [readEscape, scanHex_unit unit, Option.some_or,
    UInt32.le_iff_toNat_le, ← UInt32.toNat_inj, code, toNat_bounds]
  rw [if_neg (by simp), if_neg (by omega), if_neg (by omega)]

/-- Two surrogates are written as one character. -/
theorem readEscape_pair
    {highDigits lowDigits : WxString}
    {high low : Nat}
    {ch : Char}
    (highUnit : CodeUnit hexDigit? highDigits high)
    (lowUnit : CodeUnit hexDigit? lowDigits low)
    (surrogates : Surrogates high low ch) :
    ∃ after after2,
      readEscape uc uc2
          (byte 'u' :: (highDigits.map byte ++
            (byte '\\' :: byte 'u' :: (lowDigits.map byte ++ rest)))) =
        .ok ⟨encodeCode (pairCode (UInt32.ofNat high) (UInt32.ofNat low)),
          after, after2, 11⟩ := by
  have highCode := toNat_unit highUnit
  have lowCode := toNat_unit lowUnit
  rcases surrogates with
    ⟨highLower, highUpper, lowLower, lowUpper, -⟩
  have four : (highDigits.map byte).length = 4 := by
    rw [List.length_map, highUnit.four]
  have behind :
      (highDigits.map byte ++
          (byte '\\' :: byte 'u' :: (lowDigits.map byte ++ rest))).drop 4 =
        byte '\\' :: byte 'u' :: (lowDigits.map byte ++ rest) :=
    List.drop_left' four
  have second :
      (highDigits.map byte ++
          (byte '\\' :: byte 'u' :: (lowDigits.map byte ++ rest))).drop 6 =
        lowDigits.map byte ++ rest := by
    rw [show 6 = 4 + 2 from rfl, ← List.drop_drop, behind]
    rfl
  refine
    ⟨some (shiftedCode
        (pairCode (UInt32.ofNat high) (UInt32.ofNat low))),
      some (UInt32.ofNat low), ?_⟩
  simp only [readEscape, scanHex_unit highUnit, behind, second,
    scanHex_unit lowUnit, Option.some_or, UInt32.le_iff_toNat_le,
    UInt32.lt_iff_toNat_lt, ← UInt32.toNat_inj, highCode, lowCode,
    toNat_bounds]
  rw [if_neg (by simp), if_neg (by omega), if_pos (by omega),
    if_neg (by simp), if_neg (by omega)]

end Copying

/-! ## Quoted texts of the grammar -/

/-- The text of a short escape. -/
theorem simpleEscape_shortCodes :
    ∀ pair ∈ shortCodes,
      pair.1.toNat < 128 ∧ pair.2.toNat < 128 ∧ pair.1 ≠ 'u' ∧
        byte pair.1 ≠ byte 'u' ∧ simpleEscape (byte pair.1) = byte pair.2 := by
  simp only [shortCodes, List.forall_mem_cons]
  decide

theorem plain_utf8EncodeChar
    {ch : Char}
    (quote : ch ≠ '"')
    (backslash : ch ≠ '\\') :
    ∀ code ∈ String.utf8EncodeChar ch,
      code ≠ byte '"' ∧ code ≠ byte '\\' := by
  intro code member
  have apart :
      ∀ other : Char, other.toNat < 128 → ch ≠ other → code ≠ byte other := by
    rintro other ascii different rfl
    rcases byte_of_mem_utf8EncodeChar member
        (by rw [toNat_byte ascii]; exact ascii) with
      ⟨small, same⟩
    have codes := congrArg UInt8.toNat same
    rw [toNat_byte ascii, toNat_byte small] at codes
    exact different (Char.toNat_inj.mp codes.symm)
  exact ⟨apart '"' (by decide) quote, apart '\\' (by decide) backslash⟩

theorem toNat_char_cases (ch : Char) :
    ch.toNat < 0xD800 ∨ 0xDFFF < ch.toNat ∧ ch.toNat < 0x110000 :=
  ch.valid

/-- A readable character comes back from its surrogates. -/
theorem pairCode_of_readable
    {high low : Nat}
    {ch : Char}
    (surrogates : Surrogates high low ch)
    (readable : Readable ch) :
    pairCode (UInt32.ofNat high) (UInt32.ofNat low) = ch.val := by
  have large : 0x10000 ≤ ch.toNat := by
    have code := surrogates.code
    omega
  have odd : ch.toNat / 0x10000 % 2 = 1 := by
    rcases readable.2 with small | odd
    · omega
    · exact odd
  have code := pairCode_of_surrogates surrogates
  rw [if_pos odd] at code
  exact UInt32.toNat_inj.mp code

/-! ## The buffer -/

/-- The behaviour on a text up to its closing quote is defined. -/
inductive Escaped : List UInt8 → Prop
  | nil : Escaped []
  | quote (rest : List UInt8) : Escaped (byte '"' :: rest)
  | plain
      {code : UInt8}
      {rest : List UInt8}
      (quote : code ≠ byte '"')
      (backslash : code ≠ byte '\\')
      (others : Escaped rest) :
      Escaped (code :: rest)
  | short
      {code : UInt8}
      {rest : List UInt8}
      (simple : code ≠ byte 'u')
      (others : Escaped rest) :
      Escaped (byte '\\' :: code :: rest)
  | unit
      {digits : WxString}
      {number : Nat}
      {rest : List UInt8}
      (unit : CodeUnit hexDigit? digits number)
      (others : Escaped rest) :
      Escaped (byte '\\' :: byte 'u' :: (digits.map byte ++ rest))

theorem length_encodeCode_le (uc : UInt32) : (encodeCode uc).length ≤ 4 := by
  rw [encodeCode]
  split
  all_goals exact Nat.le_of_ble_eq_true rfl

section Escapes

variable {rest : List UInt8}

/-- A second unit is read where a `\\u` follows. -/
theorem Escaped.exists_unit
    (others : Escaped rest)
    (follows : rest.take 2 = [byte '\\', byte 'u']) :
    ∃ digits number second,
      CodeUnit hexDigit? digits number ∧ Escaped second ∧
        rest = byte '\\' :: byte 'u' :: (digits.map byte ++ second) := by
  cases others with
  | nil => cases follows
  | quote => exact absurd (List.cons.inj follows).1 (by decide)
  | plain _ backslash _ =>
      rw [List.take_succ_cons] at follows
      exact absurd (List.cons.inj follows).1 backslash
  | short simple _ =>
      rw [List.take_succ_cons, List.take_succ_cons] at follows
      exact absurd (List.cons.inj (List.cons.inj follows).2).1 simple
  | unit unit others => exact ⟨_, _, _, unit, others, rfl⟩

/-- What the parser does with a code unit, by what follows it. -/
theorem readEscape_unit
    {digits : WxString}
    {number : Nat}
    (unit : CodeUnit hexDigit? digits number)
    (others : Escaped rest)
    (uc uc2 : Option UInt32) :
    ∃ escape,
      readEscape uc uc2 (byte 'u' :: (digits.map byte ++ rest)) =
          .ok escape ∧
        escape.bytes.length ≤ 4 ∧
        (escape.width = 5 ∨
          escape.width = 11 ∧
            ∃ lowDigits low second,
              CodeUnit hexDigit? lowDigits low ∧ Escaped second ∧
                rest =
                  byte '\\' :: byte 'u' :: (lowDigits.map byte ++ second)) := by
  have four : (digits.map byte).length = 4 := by
    rw [List.length_map, unit.four]
  have behind : (digits.map byte ++ rest).drop 4 = rest :=
    List.drop_left' four
  have second : (digits.map byte ++ rest).drop 6 = rest.drop 2 := by
    rw [show 6 = 4 + 2 from rfl, ← List.drop_drop, behind]
  have empty : ([] : List UInt8).length ≤ 4 := Nat.zero_le 4
  simp only [readEscape, scanHex_unit unit, Option.some_or, behind, second]
  rw [if_neg (by simp)]
  split_ifs with lone high alone
  · exact ⟨_, rfl, empty, .inl rfl⟩
  · exact ⟨_, rfl, empty, .inl rfl⟩
  · rcases others.exists_unit (not_not.mp alone) with
      ⟨lowDigits, low, after, lowUnit, afterEscaped, rfl⟩
    have scanned :
        scanHex ((byte '\\' :: byte 'u' ::
          (lowDigits.map byte ++ after)).drop 2) = some (UInt32.ofNat low) :=
      scanHex_unit lowUnit after
    simp only [scanned, Option.some_or]
    have paired := fun escape : Escape => escape.width = 11
    split_ifs
    · exact ⟨_, rfl, empty,
        .inr ⟨rfl, lowDigits, low, after, lowUnit, afterEscaped, rfl⟩⟩
    · exact ⟨_, rfl, length_encodeCode_le _,
        .inr ⟨rfl, lowDigits, low, after, lowUnit, afterEscaped, rfl⟩⟩
  · exact ⟨_, rfl, length_encodeCode_le _, .inl rfl⟩

theorem stringLength_plain
    {bytes : List UInt8}
    (plain : ∀ code ∈ bytes, code ≠ byte '"' ∧ code ≠ byte '\\')
    {len : Nat}
    (counted : stringLength 0 rest = .ok len) :
    stringLength 0 (bytes ++ rest) = .ok (bytes.length + len) := by
  induction bytes with
  | nil => simpa using counted
  | cons code bytes inductionHypothesis =>
      rcases List.forall_mem_cons.mp plain with ⟨⟨quote, backslash⟩, others⟩
      rw [List.cons_append, stringLength, if_neg quote, if_neg backslash,
        inductionHypothesis others]
      refine congrArg Except.ok ?_
      show 1 + (bytes.length + len) = (code :: bytes).length + len
      rw [List.length_cons]
      omega

theorem stringLength_escape
    (code : UInt8)
    {len : Nat}
    (counted : stringLength 0 rest = .ok len) :
    stringLength 0 (byte '\\' :: code :: rest) = .ok (1 + len) := by
  rw [stringLength, if_neg (by decide), if_pos rfl, stringLength, counted]
  rfl

theorem hexDigits_plain
    {digits : WxString}
    {number : Nat}
    (unit : CodeUnit hexDigit? digits number) :
    ∀ code ∈ digits.map byte, code ≠ byte '"' ∧ code ≠ byte '\\' := by
  intro code member
  rcases List.mem_map.mp member with ⟨ch, inDigits, rfl⟩
  have hexadecimal := unit.hexadecimal ch inDigits
  have encoded : byte ch ∈ String.utf8EncodeChar ch := by
    rw [String.utf8EncodeChar_eq_singleton ((utf8Size_eq_one_iff ch).mpr
      (toNat_lt_of_isHexDigit hexadecimal))]
    exact List.mem_singleton_self _
  exact plain_utf8EncodeChar
    (ne_of_isHexDigit hexadecimal (by decide))
    (ne_of_isHexDigit hexadecimal (by decide)) _ encoded

theorem stringLength_unit
    {digits : WxString}
    {number : Nat}
    (unit : CodeUnit hexDigit? digits number)
    {len : Nat}
    (counted : stringLength 0 rest = .ok len) :
    stringLength 0 (byte '\\' :: byte 'u' :: (digits.map byte ++ rest)) =
      .ok (5 + len) := by
  have digitsCounted := stringLength_plain (hexDigits_plain unit) counted
  rw [stringLength_escape _ digitsCounted, List.length_map, unit.four]
  exact congrArg Except.ok (by omega)

/-- Both passes end, and the second one stays in the room of the first. -/
def PassesEnd (text : List UInt8) : Prop :=
  ∀ uc uc2,
    ∃ len out rest,
      stringLength 0 text = .ok len ∧
        copyString uc uc2 0 text = .ok (out, rest) ∧
        out.length ≤ len ∧ rest <:+ text

/-- An escape that is written into no more room than it takes. -/
theorem passes_escape
    {uc uc2 : Option UInt32}
    {rest : List UInt8}
    {escape : Escape}
    (skipped : List UInt8)
    (room : Nat)
    (read : readEscape uc uc2 (skipped ++ rest) = .ok escape)
    (width : escape.width = skipped.length)
    (small : escape.bytes.length ≤ room)
    (counts :
      ∀ {len}, stringLength 0 rest = .ok len →
        stringLength 0 (byte '\\' :: (skipped ++ rest)) = .ok (room + len))
    (others : PassesEnd rest) :
    ∃ len out after,
      stringLength 0 (byte '\\' :: (skipped ++ rest)) = .ok len ∧
        copyString uc uc2 0 (byte '\\' :: (skipped ++ rest)) =
          .ok (out, after) ∧
        out.length ≤ len ∧ after <:+ byte '\\' :: (skipped ++ rest) := by
  rcases others escape.uc escape.uc2 with
    ⟨len, out, after, counted, copied, enough, suffix⟩
  have whole := copyString_escape skipped read width
  rw [copied, prepend_ok] at whole
  refine ⟨_, _, after, counts counted, whole, ?_, ?_⟩
  · rw [List.length_append]
    exact Nat.add_le_add small enough
  · exact suffix.trans ⟨byte '\\' :: skipped, rfl⟩

theorem passesEnd_unit
    {digits : WxString}
    {number : Nat}
    (unit : CodeUnit hexDigit? digits number)
    (others : Escaped rest)
    (shorter : ∀ later, later <:+ rest → Escaped later → PassesEnd later) :
    PassesEnd (byte '\\' :: byte 'u' :: (digits.map byte ++ rest)) := by
  intro uc uc2
  rcases readEscape_unit unit others uc uc2 with
    ⟨escape, read, small, width | ⟨width, lowDigits, low, second, lowUnit,
      escaped, rfl⟩⟩
  · refine passes_escape (byte 'u' :: digits.map byte) 5 read ?_
      (Nat.le_succ_of_le small) (fun counted => stringLength_unit unit counted)
      (shorter rest (List.suffix_refl rest) others)
    rw [width, List.length_cons, List.length_map, unit.four]
  · -- Both halves are read at once; the first pass has counted each of them.
    have shape :
        digits.map byte ++
            byte '\\' :: byte 'u' :: (lowDigits.map byte ++ second) =
          (digits.map byte ++ byte '\\' :: byte 'u' :: lowDigits.map byte) ++
            second := by
      simp only [List.append_assoc, List.cons_append]
    have counts : ∀ {len},
        stringLength 0 second = .ok len →
          stringLength 0
              (byte '\\' :: byte 'u' :: (digits.map byte ++
                byte '\\' :: byte 'u' :: (lowDigits.map byte ++ second))) =
            .ok (10 + len) := by
      intro len counted
      rw [stringLength_unit unit (stringLength_unit lowUnit counted)]
      exact congrArg Except.ok (by omega)
    rw [shape] at read counts ⊢
    refine passes_escape
      (byte 'u' :: (digits.map byte ++
        byte '\\' :: byte 'u' :: lowDigits.map byte))
      10 read ?_ (by omega) counts (shorter second ?_ escaped)
    · simp only [width, List.length_cons, List.length_append,
        List.length_map, unit.four, lowUnit.four]
    · exact ⟨byte '\\' :: byte 'u' :: lowDigits.map byte, by simp⟩

/--
On such a text both passes end where they should, and the second one writes
no more than the first one counted.
-/
theorem passesEnd_of_escaped
    {text : List UInt8}
    (escaped : Escaped text) : PassesEnd text := by
  induction size : text.length using Nat.strong_induction_on
    generalizing text with
  | _ size inductionHypothesis =>
      subst size
      intro uc uc2
      cases escaped with
      | nil => exact ⟨0, [], [], rfl, rfl, Nat.le_refl 0, List.suffix_refl _⟩
      | quote rest =>
          exact ⟨0, [], _, by rw [stringLength, if_pos rfl], copyString_quote,
            Nat.le_refl 0, List.suffix_refl _⟩
      | @plain code rest quote backslash others =>
          have plain : ∀ other ∈ [code],
              other ≠ byte '"' ∧ other ≠ byte '\\' := by
            simp [quote, backslash]
          rcases inductionHypothesis _ (Nat.lt_succ_self _) others rfl uc uc2
            with ⟨len, out, after, counted, copied, enough, suffix⟩
          have whole := @copyString_plain uc uc2 rest _ plain
          rw [copied, prepend_ok] at whole
          refine ⟨_, _, after, stringLength_plain plain counted, whole, ?_,
            suffix.trans (List.suffix_cons code rest)⟩
          rw [List.length_append]
          exact Nat.add_le_add_left enough _
      | @short code rest simple others =>
          exact passes_escape [code] 1
            (readEscape_short simple) rfl (Nat.le_refl 1)
            (stringLength_escape code)
            (inductionHypothesis _ (by simp only [List.length_cons]; omega)
              others rfl)
      | unit unit others =>
          refine passesEnd_unit unit others ?_ uc uc2
          intro later suffix laterEscaped
          refine inductionHypothesis _ ?_ laterEscaped rfl
          have bound := suffix.length_le
          simp only [List.length_cons, List.length_append]
          omega

end Escapes

/-! ## Which texts are read back -/

theorem escaped_append
    {bytes rest : List UInt8}
    (plain : ∀ code ∈ bytes, code ≠ byte '"' ∧ code ≠ byte '\\')
    (others : Escaped rest) : Escaped (bytes ++ rest) := by
  induction bytes with
  | nil => exact others
  | cons code bytes inductionHypothesis =>
      rcases List.forall_mem_cons.mp plain with ⟨⟨quote, backslash⟩, later⟩
      exact .plain quote backslash (inductionHypothesis later)

theorem escaped_of_quoted
    {escapable : Char → Prop}
    {text str : WxString}
    (quoted : Quoted hexDigit? escapable text str)
    (rest : List UInt8) :
    Escaped (utf8 text ++ rest) := by
  induction quoted with
  | done => exact .quote rest
  | plain printable quote backslash _ inductionHypothesis =>
      rw [utf8_cons, List.append_assoc]
      exact escaped_append (plain_utf8EncodeChar quote backslash)
        inductionHypothesis
  | short coded _ inductionHypothesis =>
      rcases simpleEscape_shortCodes _ coded with ⟨ascii, -, -, simple, -⟩
      rw [utf8_cons_of_ascii (by decide), utf8_cons_of_ascii ascii,
        List.cons_append, List.cons_append]
      exact .short simple inductionHypothesis
  | code unit _ _ inductionHypothesis =>
      rw [utf8_cons_of_ascii (by decide), utf8_cons_of_ascii (by decide),
        utf8_append, utf8_unit unit, List.cons_append, List.cons_append,
        List.append_assoc]
      exact .unit unit inductionHypothesis
  | pair highUnit lowUnit _ _ _ inductionHypothesis =>
      rw [utf8_cons_of_ascii (by decide), utf8_cons_of_ascii (by decide),
        utf8_append, utf8_unit highUnit, utf8_cons_of_ascii (by decide),
        utf8_cons_of_ascii (by decide), utf8_append, utf8_unit lowUnit]
      simp only [List.cons_append, List.append_assoc]
      exact .unit highUnit (.unit lowUnit inductionHypothesis)

/-- A NUL written with its number is dropped. -/
theorem readEscape_nul
    {digits : WxString}
    (unit : CodeUnit hexDigit? digits 0)
    (uc uc2 : Option UInt32)
    (rest : List UInt8) :
    readEscape uc uc2 (byte 'u' :: (digits.map byte ++ rest)) =
      .ok ⟨[], some 0, uc2, 5⟩ := by
  simp only [readEscape, scanHex_unit unit, Option.some_or]
  rfl

/-- A pair is written with as many bytes as its character has, or as another. -/
theorem encodeCode_pairCode
    {high low : Nat}
    {ch : Char}
    (surrogates : Surrogates high low ch) :
    let bytes := encodeCode (pairCode (UInt32.ofNat high) (UInt32.ofNat low))
    bytes.length ≤ (String.utf8EncodeChar ch).length ∧
      (bytes = String.utf8EncodeChar ch → Readable ch) := by
  have large : 0x10000 ≤ ch.toNat := by
    have code := surrogates.code
    omega
  have upper := toNat_char_cases ch
  have code := pairCode_of_surrogates surrogates
  have notNul : ch ≠ '\x00' := by
    rintro rfl
    exact absurd large (by decide)
  by_cases odd : ch.toNat / 0x10000 % 2 = 1
  · have readable : Readable ch := ⟨notNul, .inr odd⟩
    simp only
    rw [pairCode_of_readable surrogates readable, encodeCode_char]
    exact ⟨Nat.le_refl _, fun _ => readable⟩
  · rw [if_neg odd] at code
    have four : ch.utf8Size = 4 := by
      rw [Char.utf8Size_eq_four_iff, UInt32.lt_iff_toNat_lt]
      exact large
    refine ⟨?_, fun same => ?_⟩
    · rw [String.length_utf8EncodeChar, four]
      exact length_encodeCode_le _
    · have valid :
          (pairCode (UInt32.ofNat high) (UInt32.ofNat low)).isValidChar := by
        show Nat.isValidChar _
        rw [code]
        exact .inr (by omega)
      have encoded := encodeCode_char ⟨_, valid⟩
      have equal :
          utf8 [⟨_, valid⟩] = utf8 [ch] := by
        rw [utf8_cons, utf8_cons, ← encoded, same]
      have codes := congrArg Char.toNat (List.cons.inj (utf8_injective equal)).1
      have lower : ch.toNat - 0x10000 = ch.toNat := code.symm.trans codes
      omega

/-- A character is written right, or with less or other bytes. -/
theorem written_cons
    {ch : Char}
    {str : WxString}
    {bytes out : List UInt8}
    (few : bytes.length ≤ (String.utf8EncodeChar ch).length)
    (short : out.length ≤ (utf8 str).length) :
    (bytes ++ out).length ≤ (utf8 (ch :: str)).length ∧
      (bytes ++ out = utf8 (ch :: str) →
        bytes = String.utf8EncodeChar ch ∧ out = utf8 str) := by
  rw [utf8_cons]
  constructor
  · rw [List.length_append, List.length_append]
    exact Nat.add_le_add few short
  · intro same
    refine List.append_inj same ?_
    have lengths := congrArg List.length same
    rw [List.length_append, List.length_append] at lengths
    omega

section Texts

variable {uc uc2 : Option UInt32} {text : WxString} {rest : List UInt8}

/-- A short escape is written as its character. -/
theorem copyString_shortText
    {code ch : Char}
    (coded : (code, ch) ∈ shortCodes) :
    copyString uc uc2 0 (utf8 ('\\' :: code :: text) ++ rest) =
      prepend (String.utf8EncodeChar ch)
        (copyString uc uc2 0 (utf8 text ++ rest)) := by
  rcases simpleEscape_shortCodes _ coded with
    ⟨codeAscii, ascii, -, simple, same⟩
  have copied :
      copyString uc uc2 0 (byte '\\' :: byte code :: (utf8 text ++ rest)) =
        prepend [simpleEscape (byte code)]
          (copyString uc uc2 0 (utf8 text ++ rest)) :=
    copyString_escape [byte code] (readEscape_short simple) rfl
  have single : String.utf8EncodeChar ch = [byte ch] :=
    String.utf8EncodeChar_eq_singleton ((utf8Size_eq_one_iff ch).mpr ascii)
  rw [utf8_cons_of_ascii (by decide), utf8_cons_of_ascii codeAscii,
    List.cons_append, List.cons_append, copied, same, single]

/-- A code unit is written as its escape was read. -/
theorem copyString_unitText
    {digits : WxString}
    {number : Nat}
    {escape : Escape}
    (unit : CodeUnit hexDigit? digits number)
    (read :
      readEscape uc uc2
          (byte 'u' :: (digits.map byte ++ (utf8 text ++ rest))) =
        .ok escape)
    (width : escape.width = 5) :
    copyString uc uc2 0 (utf8 ('\\' :: 'u' :: (digits ++ text)) ++ rest) =
      prepend escape.bytes
        (copyString escape.uc escape.uc2 0 (utf8 text ++ rest)) := by
  have moved : escape.width = (byte 'u' :: digits.map byte).length := by
    rw [width, List.length_cons, List.length_map, unit.four]
  rw [utf8_cons_of_ascii (by decide), utf8_cons_of_ascii (by decide),
    utf8_append, utf8_unit unit, List.cons_append, List.cons_append,
    List.append_assoc, ← List.cons_append]
  exact copyString_escape _ read moved

theorem copyString_pairText
    {highDigits lowDigits : WxString}
    {high low : Nat}
    {ch : Char}
    (highUnit : CodeUnit hexDigit? highDigits high)
    (lowUnit : CodeUnit hexDigit? lowDigits low)
    (surrogates : Surrogates high low ch) :
    ∃ after after2,
      copyString uc uc2 0
          (utf8 ('\\' :: 'u' ::
            (highDigits ++ '\\' :: 'u' :: (lowDigits ++ text))) ++ rest) =
        prepend
          (encodeCode (pairCode (UInt32.ofNat high) (UInt32.ofNat low)))
          (copyString after after2 0 (utf8 text ++ rest)) := by
  rcases @readEscape_pair uc uc2 (utf8 text ++ rest) _ _ _ _ _ highUnit
      lowUnit surrogates with
    ⟨after, after2, read⟩
  have bytes :
      utf8 ('\\' :: 'u' :: (highDigits ++
          '\\' :: 'u' :: (lowDigits ++ text))) ++ rest =
        byte '\\' :: ((byte 'u' :: (highDigits.map byte ++
          (byte '\\' :: byte 'u' :: lowDigits.map byte))) ++
            (utf8 text ++ rest)) := by
    simp only [@utf8_cons_of_ascii '\\' (by decide),
      @utf8_cons_of_ascii 'u' (by decide), utf8_append,
      utf8_unit highUnit, utf8_unit lowUnit, List.cons_append,
      List.append_assoc]
  have shape :
      (byte 'u' :: (highDigits.map byte ++
          (byte '\\' :: byte 'u' :: lowDigits.map byte))) ++
          (utf8 text ++ rest) =
        byte 'u' :: (highDigits.map byte ++
          (byte '\\' :: byte 'u' :: (lowDigits.map byte ++
            (utf8 text ++ rest)))) := by
    simp only [List.cons_append, List.append_assoc]
  refine ⟨after, after2, ?_⟩
  rw [bytes]
  refine copyString_escape _ (shape ▸ read) ?_
  simp only [List.length_cons, List.length_append, List.length_map,
    highUnit.four, lowUnit.four]

end Texts

/--
Both passes over a quoted text end at its closing quote.  They write what it
stands for if every character written with its number is readable, and only
then.
-/
theorem exists_copyString_of_quoted
    {escapable : Char → Prop}
    {text str : WxString}
    (quoted : Quoted hexDigit? escapable text str)
    (rest : List UInt8)
    (uc uc2 : Option UInt32) :
    ∃ out,
      copyString uc uc2 0 (utf8 text ++ rest) =
          .ok (out, byte '"' :: rest) ∧
        out.length ≤ (utf8 str).length ∧
        ((∀ ch, escapable ch → Readable ch) → out = utf8 str) ∧
        (out = utf8 str → Quoted hexDigit? Readable text str) := by
  induction quoted generalizing uc uc2 with
  | done =>
      exact ⟨[], copyString_quote, Nat.le_refl 0, fun _ => rfl, fun _ => .done⟩
  | @plain ch text value printable quote backslash _ inductionHypothesis =>
      rcases inductionHypothesis uc uc2 with
        ⟨out, copied, short, exact_, readable⟩
      rcases @written_cons ch _ _ _ (Nat.le_refl _) short with
        ⟨shorter, right⟩
      refine ⟨String.utf8EncodeChar ch ++ out, ?_, shorter,
        fun all => congrArg (_ ++ ·) (exact_ all),
        fun same => .plain printable quote backslash (readable (right same).2)⟩
      rw [utf8_cons, List.append_assoc,
        copyString_plain (plain_utf8EncodeChar quote backslash), copied]
      rfl
  | @short code ch text value coded _ inductionHypothesis =>
      rcases inductionHypothesis uc uc2 with
        ⟨out, copied, short, exact_, readable⟩
      rcases @written_cons ch _ _ _ (Nat.le_refl _) short with
        ⟨shorter, right⟩
      refine ⟨String.utf8EncodeChar ch ++ out, ?_, shorter,
        fun all => congrArg (_ ++ ·) (exact_ all),
        fun same => .short coded (readable (right same).2)⟩
      rw [copyString_shortText coded, copied]
      rfl
  | @code digits ch text value unit allowed _ inductionHypothesis =>
      by_cases nul : ch = '\x00'
      · subst nul
        have read := readEscape_nul unit uc uc2 (utf8 text ++ rest)
        rcases inductionHypothesis (some 0) uc2 with
          ⟨out, copied, short, -, -⟩
        rcases @written_cons '\x00' value [] out (Nat.zero_le _) short with
          ⟨shorter, right⟩
        refine ⟨[] ++ out, ?_, shorter,
          fun all => absurd rfl (all _ allowed).1,
          fun same => absurd (right same).1 (by decide)⟩
        rw [copyString_unitText unit read rfl, copied]
        rfl
      · have positive : ch.toNat ≠ 0 := fun zero => nul (Char.toNat_inj.mp zero)
        have small := unit_lt unit
        have read := @readEscape_code uc uc2 (utf8 text ++ rest) _ _ unit positive
          (by have cases := toNat_char_cases ch; omega)
        have whole : UInt32.ofNat ch.toNat = ch.val := UInt32.ofNat_toNat
        rw [whole, encodeCode_char] at read
        rcases inductionHypothesis _ uc2 with
          ⟨out, copied, short, exact_, readable⟩
        rcases @written_cons ch _ _ _ (Nat.le_refl _) short with
          ⟨shorter, right⟩
        refine ⟨String.utf8EncodeChar ch ++ out, ?_, shorter,
          fun all => congrArg (_ ++ ·) (exact_ all),
          fun same => .code unit ⟨nul, .inl small⟩ (readable (right same).2)⟩
        rw [copyString_unitText unit read rfl, copied]
        rfl
  | @pair highDigits lowDigits high low ch text value highUnit lowUnit
      surrogates allowed _ inductionHypothesis =>
      rcases @copyString_pairText uc uc2 text rest _ _ _ _ _ highUnit
          lowUnit surrogates with
        ⟨after, after2, paired⟩
      rcases inductionHypothesis after after2 with
        ⟨out, copied, short, exact_, readable⟩
      rcases encodeCode_pairCode surrogates with ⟨few, isReadable⟩
      rcases written_cons few short with ⟨shorter, right⟩
      refine ⟨_, by rw [paired, copied]; rfl, shorter, fun all => ?_,
        fun same => .pair highUnit lowUnit surrogates
          (isReadable (right same).1) (readable (right same).2)⟩
      rw [pairCode_of_readable surrogates (all ch allowed), encodeCode_char,
        exact_ all]
      rfl

/-- A quoted text is read to what its second pass writes. -/
theorem parseString_of_escaped
    {text out rest : List UInt8}
    (escaped : Escaped text)
    (copied : copyString none none 0 text = .ok (out, rest)) :
    parseString (byte '"' :: text) = .ok (out, rest.tail) := by
  rcases passesEnd_of_escaped escaped none none with
    ⟨len, written, after, counted, same, enough, -⟩
  rw [copied] at same
  cases same
  simp only [parseString, List.head?_cons, if_true, List.tail_cons, counted,
    copied]
  exact if_pos enough

/-- The characters of a quoted text are read. -/
theorem parseString_of_quoted
    {text str : WxString}
    (quoted : Quoted hexDigit? Readable text str)
    (rest : List UInt8) :
    parseString (byte '"' :: (utf8 text ++ rest)) = .ok (utf8 str, rest) := by
  rcases exists_copyString_of_quoted quoted rest none none with
    ⟨out, copied, -, exact_, -⟩
  rw [exact_ fun _ readable => readable] at copied
  exact parseString_of_escaped (escaped_of_quoted quoted rest) copied

/--
A quoted text is read to what it stands for exactly when every character in
it that is written with its number is readable.
-/
theorem parseString_iff_readable
    {text str : WxString}
    (quoted : Quoted hexDigit? (fun _ => True) text str)
    (rest : List UInt8) :
    parseString (byte '"' :: (utf8 text ++ rest)) = .ok (utf8 str, rest) ↔
      Quoted hexDigit? Readable text str := by
  constructor
  · intro read
    rcases exists_copyString_of_quoted quoted rest none none with
      ⟨out, copied, -, -, readable⟩
    rw [parseString_of_escaped (escaped_of_quoted quoted rest) copied] at read
    exact readable (congrArg Prod.fst (Except.ok.inj read))
  · exact fun readable => parseString_of_quoted readable rest

/-- A character of the second plane which is written as a surrogate pair. -/
theorem quoted_surrogates :
    Quoted hexDigit? (fun _ => True) "\\ud840\\udc00\"".toList ['𠀀'] :=
  @Quoted.pair hexDigit? _ ['d', '8', '4', '0'] ['d', 'c', '0', '0'] 0xD840
    0xDC00 '𠀀' ['"'] [] ⟨rfl, List.all_eq_true.mp rfl, rfl⟩
    ⟨rfl, List.all_eq_true.mp rfl, rfl⟩
    ⟨by decide, by decide, by decide, by decide, rfl⟩ trivial .done

theorem parseString_iff_readable_surrogates :
    parseString (byte '"' :: (utf8 "\\ud840\\udc00\"".toList ++ [])) =
        .ok (utf8 ['𠀀'], []) ↔
      Quoted hexDigit? Readable "\\ud840\\udc00\"".toList ['𠀀'] :=
  parseString_iff_readable quoted_surrogates []

end DebuggerDap.Protocol.JsonQuoted
