import DebuggerDap.Persistence.XmlPrintable
import DebuggerDap.Text.Utf8

/-!
# Texts through an XML file

The texts of the state file are converted to bytes on the way out and back on
the way in.  What comes back is a text that is kept from then on, and it is the
text that was written exactly if that one is kept.
-/

namespace DebuggerDap.Persistence.XmlConversion

open DebuggerDap.Text.Strings
open DebuggerDap.Text.Utf8
open DebuggerDap.Library.Bytes
open DebuggerDap.Library.XmlGrammar
open DebuggerDap.Persistence.XmlParser
open DebuggerDap.Persistence.XmlPrinter
open DebuggerDap.Persistence.XmlText
open DebuggerDap.Persistence.XmlPrintable

/-! ## Texts and bytes -/

/--
How `mb_str` and the constructor of `wxString` convert in a locale whose
encoding has every character, so that no text is lost.  ASCII characters are
their bytes, which no other character has.
-/
structure Conversion where
  encodeChar : Char → Bytes
  decode : Bytes → WxString
  decode_encode : ∀ value, decode (value.flatMap encodeChar) = value
  ascii : ∀ ch : Char, ch.toNat < 128 → encodeChar ch = [byte ch]
  wide :
    ∀ ch : Char, ¬ ch.toNat < 128 →
      ∀ code ∈ encodeChar ch, ¬ code.toNat < 128

namespace Conversion

variable (conversion : Conversion)

def encode (value : WxString) : Bytes :=
  value.flatMap conversion.encodeChar

/-- What a C function sees of `mb_str()`. -/
def mbStr (value : WxString) : Bytes :=
  (conversion.encode value).takeWhile (· ≠ 0)

/-- The conversion of a locale whose texts are UTF-8. -/
def utf8 : Conversion where
  encodeChar := String.utf8EncodeChar
  decode bytes := (bytes.toByteArray.utf8Decode?.map Array.toList).getD []
  decode_encode value := by
    have decoded := @List.utf8Decode?_utf8Encode value
    rw [List.utf8Encode] at decoded
    rw [decoded]
    simp
  ascii ch ascii :=
    String.utf8EncodeChar_eq_singleton ((utf8Size_eq_one_iff ch).mpr ascii)
  wide ch noAscii code member small :=
    noAscii (byte_of_mem_utf8EncodeChar member small).1

end Conversion

section Texts

variable {conversion : Conversion} {ch : Char} {value : WxString}

theorem encode_cons (ch : Char) (value : WxString) :
    conversion.encode (ch :: value) =
      conversion.encodeChar ch ++ conversion.encode value :=
  List.flatMap_cons

/-- Only an ASCII character has its byte. -/
theorem byte_mem_encodeChar_iff
    {mark : Char}
    (asciiMark : mark.toNat < 128) :
    byte mark ∈ conversion.encodeChar ch ↔ ch = mark := by
  constructor
  · intro member
    have small : (byte mark).toNat < 128 := by rwa [toNat_byte asciiMark]
    by_cases ascii : ch.toNat < 128
    · rw [conversion.ascii ch ascii, List.mem_singleton] at member
      rw [← charOf_byte ascii, ← member, charOf_byte asciiMark]
    · exact absurd small (conversion.wide ch ascii _ member)
  · rintro rfl
    rw [conversion.ascii ch asciiMark]
    exact List.mem_singleton_self _

theorem byte_mem_encode_iff
    {mark : Char}
    (asciiMark : mark.toNat < 128) :
    byte mark ∈ conversion.encode value ↔ mark ∈ value := by
  constructor
  · intro member
    rcases List.mem_flatMap.mp member with ⟨ch, inValue, inBytes⟩
    rwa [← (byte_mem_encodeChar_iff asciiMark).mp inBytes]
  · intro member
    exact List.mem_flatMap.mpr
      ⟨mark, member, (byte_mem_encodeChar_iff asciiMark).mpr rfl⟩

/-- A C string ends at the first null character. -/
theorem mbStr_eq (value : WxString) :
    conversion.mbStr value =
      conversion.encode (value.takeWhile (· ≠ '\x00')) := by
  rw [Conversion.mbStr]
  induction value with
  | nil => rfl
  | cons ch value inductionHypothesis =>
      rw [encode_cons]
      by_cases isNul : ch = '\x00'
      · subst isNul
        rw [conversion.ascii _ (by decide)]
        rfl
      · have noNul : ∀ code ∈ conversion.encodeChar ch,
            decide (code ≠ 0) = true := by
          intro code member
          refine decide_eq_true fun isZero => isNul ?_
          rw [isZero] at member
          exact (@byte_mem_encodeChar_iff conversion ch '\x00' (by decide)).mp
            member
        have kept :
            (ch :: value).takeWhile (· ≠ '\x00') =
              ch :: value.takeWhile (· ≠ '\x00') :=
          List.takeWhile_cons_of_pos (decide_eq_true isNul)
        rw [List.takeWhile_append_of_pos noNul, inductionHypothesis, kept,
          encode_cons]

theorem encode_injective : Function.Injective conversion.encode := by
  intro left right same
  have decoded := congrArg conversion.decode same
  rwa [Conversion.encode, Conversion.encode, conversion.decode_encode,
    conversion.decode_encode] at decoded

theorem encodeChar_ne_nil (ch : Char) : conversion.encodeChar ch ≠ [] := by
  intro empty
  have same : conversion.encode [ch] = conversion.encode [] := by
    rw [encode_cons, empty]
    rfl
  exact absurd (encode_injective same) (List.cons_ne_nil ch [])

/-! ### Blanks -/

theorem isWhiteSpace_byte (ascii : ch.toNat < 128) :
    isWhiteSpace (byte ch) = isSpace ch := by
  have codes : ∀ code < 128,
      isWhiteSpace (byte (Char.ofNat code)) = isSpace (Char.ofNat code) := by
    decide +kernel
  have same := codes ch.toNat ascii
  rwa [Char.ofNat_toNat] at same

theorem toNat_lt_of_isSpace (blank : isSpace ch = true) :
    ch.toNat < 128 := by
  simp only [isSpace, Bool.or_eq_true, beq_iff_eq] at blank
  rcases blank with ((((rfl | rfl) | rfl) | rfl) | rfl) | rfl
  all_goals decide

theorem not_isWhiteSpace_of_wide
    {code : UInt8}
    (wide : ¬ code.toNat < 128) : isWhiteSpace code = false := by
  have codes : ∀ code < 256, ¬ code < 128 →
      isWhiteSpace (UInt8.ofNat code) = false := by
    decide +kernel
  have same := codes code.toNat code.toNat_lt wide
  rwa [UInt8.ofNat_toNat] at same

/-- A text is blank exactly when its bytes are. -/
theorem all_isWhiteSpace_encode (value : WxString) :
    (conversion.encode value).all isWhiteSpace = value.all isSpace := by
  induction value with
  | nil => rfl
  | cons ch value inductionHypothesis =>
      rw [encode_cons, List.all_append, List.all_cons, inductionHypothesis]
      congr 1
      by_cases ascii : ch.toNat < 128
      · rw [conversion.ascii ch ascii, List.all_cons, List.all_nil,
          Bool.and_true, isWhiteSpace_byte ascii]
      · have noSpace : isSpace ch = false :=
          Bool.eq_false_iff.mpr fun blank => ascii (toNat_lt_of_isSpace blank)
        rw [noSpace]
        cases bytes : conversion.encodeChar ch with
        | nil => exact absurd bytes (encodeChar_ne_nil ch)
        | cons code codes =>
            have wide : ¬ code.toNat < 128 := by
              refine conversion.wide ch ascii code ?_
              rw [bytes]
              exact List.mem_cons_self
            rw [List.all_cons, not_isWhiteSpace_of_wide wide, Bool.false_and]

/-! ### Ends of lines -/

theorem endLines_append
    {bytes rest : Bytes}
    (noCr : cr ∉ bytes)
    (noLf : lf ∉ bytes) :
    endLines 0 (bytes ++ rest) = bytes ++ endLines 0 rest := by
  induction bytes with
  | nil => rfl
  | cons code bytes inductionHypothesis =>
      rw [List.mem_cons, not_or] at noCr noLf
      rw [List.cons_append, endLines_plain (Ne.symm noCr.1) (Ne.symm noLf.1),
        inductionHypothesis noCr.2 noLf.2, List.cons_append]

theorem exists_stdio (crlf : Bool) (value : WxString) :
    ∃ other,
      stdio crlf (conversion.encode value) = conversion.encode other := by
  induction value with
  | nil => exact ⟨[], stdio_nil crlf⟩
  | cons ch value inductionHypothesis =>
      rcases inductionHypothesis with ⟨other, same⟩
      rw [encode_cons, stdio_append, same]
      by_cases isLf : ch = '\n'
      · subst isLf
        rw [conversion.ascii _ (by decide)]
        cases crlf with
        | false =>
            refine ⟨'\n' :: other, ?_⟩
            rw [encode_cons, conversion.ascii _ (by decide)]
            rfl
        | true =>
            refine ⟨'\r' :: '\n' :: other, ?_⟩
            rw [encode_cons, encode_cons, conversion.ascii _ (by decide),
              conversion.ascii _ (by decide)]
            rfl
      · refine ⟨ch :: other, ?_⟩
        rw [encode_cons, stdio_of_not_mem crlf]
        exact fun member =>
          isLf ((byte_mem_encodeChar_iff (by decide)).mp member)

/-- A byte that belongs to an end of a line is a character. -/
theorem exists_skipped
    {mark : Char}
    (asciiMark : mark.toNat < 128)
    (value : WxString) :
    ∃ rest : WxString,
      rest.length ≤ value.length ∧
        endLines
            (if (conversion.encode value).head? = some (byte mark) then 1
              else 0)
            (conversion.encode value) =
          endLines 0 (conversion.encode rest) := by
  by_cases first : (conversion.encode value).head? = some (byte mark)
  · rw [if_pos first]
    cases value with
    | nil => exact absurd first (Option.some_ne_none _).symm
    | cons ch value =>
        have same : ch = mark := by
          rw [encode_cons, List.head?_append_of_ne_nil _ (encodeChar_ne_nil ch)]
            at first
          exact (byte_mem_encodeChar_iff asciiMark).mp
            (List.mem_of_mem_head? first)
        refine ⟨value, Nat.le_succ _, ?_⟩
        rw [encode_cons, same, conversion.ascii mark asciiMark]
        rfl
  · rw [if_neg first]
    exact ⟨value, Nat.le_refl _, rfl⟩

/-- Only bytes that end lines are skipped. -/
theorem mem_endLines_of_mem
    {text : Bytes}
    {code : UInt8}
    {skipped : Nat}
    (member : code ∈ text)
    (noEnd : code ≠ cr ∧ code ≠ lf)
    (ends : ∀ mark ∈ text.take skipped, mark = cr ∨ mark = lf) :
    code ∈ endLines skipped text := by
  induction text generalizing skipped with
  | nil => exact absurd member List.not_mem_nil
  | cons first text inductionHypothesis =>
      have later
          {skipped : Nat}
          (apart : code ≠ first)
          (ends : ∀ mark ∈ text.take skipped, mark = cr ∨ mark = lf) :
          code ∈ endLines skipped text :=
        inductionHypothesis ((List.mem_cons.mp member).resolve_left apart) ends
      have paired (mark : UInt8) (isEnd : mark = cr ∨ mark = lf) :
          ∀ other ∈ text.take (if text.head? = some mark then 1 else 0),
            other = cr ∨ other = lf := by
        intro other inPair
        split_ifs at inPair with found
        · cases text with
          | nil => exact absurd inPair List.not_mem_nil
          | cons second text =>
              rw [List.mem_singleton.mp inPair, Option.some.inj found]
              exact isEnd
        · exact absurd inPair List.not_mem_nil
      cases skipped with
      | succ skipped =>
          have apart : code ≠ first := by
            rintro rfl
            exact (ends code List.mem_cons_self).elim noEnd.1 noEnd.2
          exact later apart fun mark among =>
            ends mark (List.mem_cons_of_mem first among)
      | zero =>
          by_cases isCr : first = cr
          · rw [isCr, endLines_cr]
            exact List.mem_cons_of_mem lf
              (later (isCr ▸ noEnd.1) (paired lf (.inr rfl)))
          · by_cases isLf : first = lf
            · rw [isLf, endLines_lf]
              exact List.mem_cons_of_mem lf
                (later (isLf ▸ noEnd.2) (paired cr (.inl rfl)))
            · rw [endLines_plain isCr isLf]
              by_cases same : code = first
              · exact same ▸ List.mem_cons_self
              · exact List.mem_cons_of_mem first
                  (later same fun _ none => absurd none List.not_mem_nil)

/-- No character is cut where lines are ended. -/
theorem exists_endLines (value : WxString) :
    ∃ other,
      endLines 0 (conversion.encode value) = conversion.encode other := by
  -- two characters can end one line, so the induction is on the length
  induction length : value.length using Nat.strongRecOn generalizing value with
  | _ count inductionHypothesis =>
      cases value with
      | nil => exact ⟨[], rfl⟩
      | cons ch value =>
          have later {rest : WxString} (shorter : rest.length ≤ value.length) :=
            inductionHypothesis rest.length
              (by rw [← length]; exact Nat.lt_succ_of_le shorter) rest rfl
          have ended {mark : Char} (asciiMark : mark.toNat < 128) :
              ∃ other,
                lf :: endLines
                    (if (conversion.encode value).head? = some (byte mark)
                      then 1
                      else 0)
                    (conversion.encode value) =
                  conversion.encode other := by
            rcases @exists_skipped conversion mark asciiMark value with
              ⟨rest, shorter, skipped⟩
            rcases later shorter with ⟨other, same⟩
            refine ⟨'\n' :: other, ?_⟩
            rw [skipped, same, encode_cons, conversion.ascii _ (by decide)]
            rfl
          by_cases isCr : ch = '\r'
          · subst isCr
            rw [encode_cons, conversion.ascii _ (by decide)]
            exact @ended '\n' (by decide)
          · by_cases isLf : ch = '\n'
            · subst isLf
              rw [encode_cons, conversion.ascii _ (by decide)]
              exact @ended '\r' (by decide)
            · rcases later (Nat.le_refl _) with ⟨other, same⟩
              refine ⟨ch :: other, ?_⟩
              rw [encode_cons, endLines_append
                (fun member =>
                  isCr ((byte_mem_encodeChar_iff (by decide)).mp member))
                (fun member =>
                  isLf ((byte_mem_encodeChar_iff (by decide)).mp member)),
                same, encode_cons]

end Texts

/-! ## What comes through the file -/

/-- A text is blank in the file exactly if it was. -/
theorem all_isWhiteSpace_landed (crlf : Bool) (value : Bytes) :
    (landed crlf value).all isWhiteSpace = value.all isWhiteSpace := by
  rw [Bool.eq_iff_iff, List.all_eq_true, List.all_eq_true]
  constructor
  · intro blank code member
    by_cases isCr : code = cr
    · rw [isCr]
      rfl
    · by_cases isLf : code = lf
      · rw [isLf]
        rfl
      · exact blank code (mem_endLines_of_mem (mem_stdio_of_mem member)
          ⟨isCr, isLf⟩ fun _ none => absurd none List.not_mem_nil)
  · intro blank code member
    rcases (mem_endLines member).2 with isLf | written
    · rw [isLf]
      rfl
    · rcases mem_stdio written with isCr | inValue
      · rw [isCr]
        rfl
      · exact blank code inValue

section Texts

variable (conversion : Conversion) (crlf : Bool)

/-- A text that is read back, if there is any. -/
def landedText (value : WxString) : Option WxString :=
  if (conversion.mbStr value).all isWhiteSpace then none
  else some (conversion.decode (landed crlf (conversion.mbStr value)))

/-- A text that comes back as it was. -/
def Kept (value : WxString) : Prop :=
  value = [] ∨
    '\x00' ∉ value ∧ '\r' ∉ value ∧ value.all isSpace = false

/-- What is read back of a text. -/
def readBack (value : WxString) : WxString :=
  (landedText conversion crlf value).getD []

variable {conversion crlf} {value : WxString}

theorem nul_not_mem_mbStr (value : WxString) :
    (0 : UInt8) ∉ conversion.mbStr value := by
  intro member
  have kept : decide ((0 : UInt8) ≠ 0) = true :=
    @List.mem_takeWhile_imp _ (fun code => decide (code ≠ 0)) _ _ member
  exact absurd kept (by decide)

theorem all_isWhiteSpace_mbStr
    (noNul : '\x00' ∉ value) :
    (conversion.mbStr value).all isWhiteSpace = value.all isSpace := by
  have whole : value.takeWhile (· ≠ '\x00') = value :=
    List.takeWhile_eq_self_iff.mpr fun ch member =>
      decide_eq_true fun isNul => noNul (isNul ▸ member)
  rw [mbStr_eq, whole, all_isWhiteSpace_encode]

/-- A text without null characters and carriage returns comes as it was. -/
theorem landed_mbStr
    (noNul : '\x00' ∉ value)
    (noCr : '\r' ∉ value) :
    landed crlf (conversion.mbStr value) = conversion.encode value := by
  have whole : value.takeWhile (· ≠ '\x00') = value :=
    List.takeWhile_eq_self_iff.mpr fun ch member =>
      decide_eq_true fun isNul => noNul (isNul ▸ member)
  rw [mbStr_eq, whole]
  exact landed_of_not_mem crlf fun member =>
    noCr ((byte_mem_encode_iff (by decide)).mp member)

/-- What comes back is a text that is kept from then on. -/
theorem kept_readBack (value : WxString) :
    Kept (readBack conversion crlf value) := by
  rw [readBack, landedText]
  split_ifs with blank
  · exact .inl rfl
  · right
    rcases @exists_stdio conversion crlf (value.takeWhile (· ≠ '\x00')) with
      ⟨written, stored⟩
    rcases @exists_endLines conversion written with ⟨other, same⟩
    have shape :
        landed crlf (conversion.mbStr value) = conversion.encode other := by
      rw [mbStr_eq, landed, stored, same]
    have decoded : conversion.decode (conversion.encode other) = other :=
      conversion.decode_encode other
    rw [shape, Option.getD_some, decoded]
    refine ⟨fun member => ?_, fun member => ?_, ?_⟩
    · rw [← @byte_mem_encode_iff conversion other '\x00' (by decide), ← shape]
        at member
      exact nul_not_mem_landed (nul_not_mem_mbStr value) member
    · rw [← @byte_mem_encode_iff conversion other '\r' (by decide), ← shape]
        at member
      exact (mem_endLines member).1 rfl
    · rw [← @all_isWhiteSpace_encode conversion, ← shape,
        all_isWhiteSpace_landed]
      exact Bool.eq_false_iff.mpr blank

/-- A text comes back as it was exactly if it is kept. -/
theorem readBack_eq_iff (value : WxString) :
    readBack conversion crlf value = value ↔ Kept value := by
  constructor
  · intro same
    rw [← same]
    exact kept_readBack value
  · rintro (rfl | ⟨noNul, noCr, notBlank⟩)
    · rfl
    · have shown : ¬ (conversion.mbStr value).all isWhiteSpace = true := by
        rw [all_isWhiteSpace_mbStr noNul, notBlank]
        exact Bool.false_ne_true
      rw [readBack, landedText, if_neg shown, landed_mbStr noNul noCr]
      exact conversion.decode_encode value

end Texts

end DebuggerDap.Persistence.XmlConversion
