import DebuggerDap.Library.MachineInt
import DebuggerDap.Protocol.JsonRpc

/-!
# The numbers of `DoProcessBuffer`

`JsonRpc` counts in integers.  The code keeps the size of the header section
in an `int` and the announced length and the size of the buffer in a `long`,
which has 32 or 64 bits.  `std::atol` stops at the ends of `long`, and the sum
of the first two is compared with the third.
-/

namespace DebuggerDap.Protocol.LengthArithmetic

open DebuggerDap.Text.Strings
open DebuggerDap.Library.MachineInt
open DebuggerDap.Library.MachineInt.SignedRange
open DebuggerDap.Protocol.JsonRpc

variable {Json : Type*}

inductive LongWidth where
  | bits32
  | bits64
  deriving DecidableEq, Repr

/-- The type `int`. -/
def intRange : SignedRange :=
  ⟨2147483648, by decide⟩

/-- The type `long`. -/
def LongWidth.range : LongWidth → SignedRange
  | .bits32 => ⟨2147483648, by decide⟩
  | .bits64 => ⟨9223372036854775808, by decide⟩

/-- Every `int` is a `long`. -/
theorem intRange_within (width : LongWidth) {value : Int} :
    intRange.Contains value → width.range.Contains value := by
  cases width <;>
    simp only [SignedRange.Contains, SignedRange.min, SignedRange.max,
      intRange, LongWidth.range] <;> omega

/-- The numbers `DoProcessBuffer` has when it checks the length. -/
structure LengthCheck where
  headerSize : Int
  msglen : Int
  buflen : Int
  deriving DecidableEq, Repr

/-- `DoProcessBuffer` up to the comparison, if it comes that far. -/
def lengthCheck (width : LongWidth) (buffer : WxString) :
    Option LengthCheck :=
  match readHeaders buffer with
  | none => none
  | some (headers, size) =>
      let headerSize := intRange.wrap size
      if headerSize = -1 then none
      else
        match headers.lookup contentLengthName with
        | none => none
        | some contentLength =>
            let msglen := width.range.clamp (atol contentLength)
            if msglen ≤ 0 then none
            else some ⟨headerSize, msglen, width.range.wrap buffer.length⟩

namespace LengthCheck

variable (check : LengthCheck)

/-- The mathematical sum. -/
def sum : Int :=
  check.headerSize + check.msglen

/-- The comparison finds that the frame is complete. -/
def Passes (width : LongWidth) : Prop :=
  width.range.wrap check.sum ≤ check.buflen

/--
The sum stays in `long`, and where a payload is cut out it is cut out of the
buffer.
-/
structure Safe (width : LongWidth) (buffer : WxString) : Prop where
  inRange : width.range.Contains check.sum
  inside :
    check.Passes width →
      0 ≤ check.headerSize ∧ check.headerSize ≤ check.sum ∧
        check.sum ≤ buffer.length

end LengthCheck

/-- Every check `DoProcessBuffer` makes on a buffer is safe. -/
def LengthsSafe (width : LongWidth) (buffer : WxString) : Prop :=
  ∀ check, lengthCheck width buffer = some check → check.Safe width buffer

/-- A section of this size announces a positive length. -/
structure Announces
    (buffer : WxString)
    (size : Nat)
    (length : Int) : Prop where
  positive : 0 < length
  read :
    ∃ headers contentLength,
      readHeaders buffer = some (headers, size) ∧
        headers.lookup contentLengthName = some contentLength ∧
          atol contentLength = length

/--
Every announced length, taken no larger than `long` allows, leaves room for
the size of the section, and the size is no negative `int` unless the frame
is incomplete.
-/
def LengthsFit (width : LongWidth) (buffer : WxString) : Prop :=
  ∀ size length, Announces buffer size length →
    let headerSize := intRange.wrap size
    let msglen := width.range.clamp length
    headerSize = -1 ∨
      headerSize + msglen ≤ width.range.max ∧
        (0 ≤ headerSize ∨
          width.range.wrap buffer.length < headerSize + msglen)

/-! ## When the check is safe -/

section Check

variable {width : LongWidth}
variable {buffer : WxString}

/-- A check is made exactly for an announced length. -/
theorem lengthCheck_eq_some_iff (check : LengthCheck) :
    lengthCheck width buffer = some check ↔
      ∃ size length,
        Announces buffer size length ∧
          intRange.wrap size ≠ -1 ∧
            check =
              ⟨intRange.wrap size, width.range.clamp length,
                width.range.wrap buffer.length⟩ := by
  constructor
  · intro made
    unfold lengthCheck at made
    split at made
    · cases made
    · next headers size read =>
        dsimp only at made
        split at made
        · cases made
        · next known =>
            split at made
            · cases made
            · next contentLength present =>
                split at made
                · cases made
                · next positive =>
                    have announced : 0 < atol contentLength :=
                      (clamp_pos_iff _).mp (Int.not_le.mp positive)
                    have numbers := Option.some.inj made
                    exact ⟨size, atol contentLength,
                      ⟨announced, headers, contentLength, read, present,
                        rfl⟩, known, numbers.symm⟩
  · rintro ⟨size, length, announces, known, rfl⟩
    rcases announces with
      ⟨positive, headers, contentLength, read, present, rfl⟩
    have msglen : ¬ width.range.clamp (atol contentLength) ≤ 0 := by
      rw [Int.not_le, clamp_pos_iff]
      exact positive
    simp only [lengthCheck, read, if_neg known, present, if_neg msglen]

/-- An `int` is a `long`. -/
theorem min_le_wrap (width : LongWidth) (value : Int) :
    width.range.min ≤ intRange.wrap value := by
  have lower : intRange.min ≤ intRange.wrap value :=
    (contains_wrap value).1
  have wider : width.range.min ≤ intRange.min := by
    cases width <;> decide
  exact Int.le_trans wider lower

/--
One check is safe exactly when the sum is not too large and the size is not
negative unless the frame is incomplete.  The sum is never too small.
-/
theorem safe_iff
    {headerSize msglen : Int}
    (lower : width.range.min ≤ headerSize)
    (positive : 0 < msglen) :
    LengthCheck.Safe
        ⟨headerSize, msglen, width.range.wrap buffer.length⟩ width buffer ↔
      headerSize + msglen ≤ width.range.max ∧
        (0 ≤ headerSize ∨
          width.range.wrap buffer.length < headerSize + msglen) := by
  have shorter : width.range.wrap buffer.length ≤ buffer.length :=
    wrap_le (Int.natCast_nonneg _)
  constructor
  · intro safe
    have kept : width.range.wrap (headerSize + msglen) =
        headerSize + msglen :=
      wrap_of_contains safe.inRange
    refine ⟨safe.inRange.2, ?_⟩
    by_cases short :
        width.range.wrap buffer.length < headerSize + msglen
    · exact Or.inr short
    · refine Or.inl (safe.inside ?_).1
      simp only [LengthCheck.Passes, LengthCheck.sum, kept]
      exact Int.not_lt.mp short
  · rintro ⟨upper, shape⟩
    have contains : width.range.Contains (headerSize + msglen) :=
      ⟨by omega, upper⟩
    refine ⟨contains, ?_⟩
    intro passes
    have complete :
        headerSize + msglen ≤ width.range.wrap buffer.length := by
      rw [← wrap_of_contains contains]
      exact passes
    simp only [LengthCheck.sum]
    omega

end Check

/--
The length arithmetic is safe exactly when every announced length, cut off at
the end of `long`, leaves room for the size of the header section, and that
size is no negative `int` unless the frame is incomplete.
-/
theorem lengthsSafe_iff (width : LongWidth) (buffer : WxString) :
    LengthsSafe width buffer ↔ LengthsFit width buffer := by
  constructor
  · intro safe size length announces
    have positive : 0 < width.range.clamp length :=
      (clamp_pos_iff _).mpr announces.positive
    by_cases unread : intRange.wrap size = -1
    · exact Or.inl unread
    · have made :=
        (@lengthCheck_eq_some_iff width buffer _).mpr
          ⟨size, length, announces, unread, rfl⟩
      exact Or.inr
        ((safe_iff (min_le_wrap width size) positive).mp (safe _ made))
  · intro fit check made
    rcases (lengthCheck_eq_some_iff check).mp made with
      ⟨size, length, announces, known, rfl⟩
    have positive : 0 < width.range.clamp length :=
      (clamp_pos_iff _).mpr announces.positive
    rcases fit size length announces with unread | fits
    · exact absurd unread known
    · exact (safe_iff (min_le_wrap width size) positive).mpr fits

/--
A length of `LONG_MAX` behind a header section of 39 characters leaves the
range of a `long` with 64 bits.
-/
theorem lengthsSafe_large_false :
    ¬ LengthsSafe .bits64
      (contentLengthName ++
        [':', ' ', '9', '2', '2', '3', '3', '7', '2', '0', '3', '6', '8', '5',
          '4', '7', '7', '5', '8', '0', '7', '\r', '\n', '\r', '\n']) := by
  intro safe
  exact absurd (safe ⟨39, 9223372036854775807, 39⟩ (by decide)).inRange
    (by decide)

/-! ## Buffers of ordinary size -/

section Short

variable {width : LongWidth}
variable {buffer : WxString}

/-- What an `int` holds is held by `long` as well. -/
theorem intMax_le (width : LongWidth) :
    intRange.max ≤ width.range.max := by
  cases width <;> decide

theorem wrap_of_le_intMax
    {value : Nat}
    (small : (value : Int) ≤ intRange.max) :
    intRange.wrap value = value := by
  have negative : intRange.min ≤ 0 := by decide
  exact wrap_of_contains
    ⟨Int.le_trans negative (Int.natCast_nonneg value), small⟩

theorem longWrap_of_le_intMax
    {value : Nat}
    (small : (value : Int) ≤ intRange.max) :
    width.range.wrap value = value := by
  have negative : width.range.min ≤ 0 := by
    cases width <;> decide
  exact wrap_of_contains
    ⟨Int.le_trans negative (Int.natCast_nonneg value),
      Int.le_trans small (intMax_le width)⟩

/-- The size of an announcing section is one of the buffer's positions. -/
theorem size_of_announces
    {size : Nat}
    {length : Int}
    (announces : Announces buffer size length) :
    0 < size ∧ size ≤ buffer.length := by
  rcases announces.read with ⟨headers, contentLength, read, _⟩
  exact readHeaders_size_le read

/--
In a buffer whose length is an `int` the arithmetic is safe exactly when no
announced length comes closer to the end of `long` than its header section
is long.
-/
theorem lengthsSafe_short_iff
    (short : (buffer.length : Int) ≤ intRange.max) :
    LengthsSafe width buffer ↔
      ∀ size length, Announces buffer size length →
        size + length ≤ width.range.max := by
  rw [lengthsSafe_iff]
  constructor
  · intro fit size length announces
    have bounds := size_of_announces announces
    have kept : intRange.wrap size = size :=
      wrap_of_le_intMax (by omega)
    rcases fit size length announces with unread | fits
    · omega
    · rw [kept] at fits
      by_cases large : width.range.max < length
      · rw [clamp_of_large large] at fits
        omega
      · rw [clamp_of_pos announces.positive (Int.not_lt.mp large)] at fits
        exact fits.1
  · intro fit size length announces
    have bounds := size_of_announces announces
    have kept : intRange.wrap size = size :=
      wrap_of_le_intMax (by omega)
    have upper := fit size length announces
    have read : width.range.clamp length = length :=
      clamp_of_pos announces.positive (by omega)
    rw [kept, read]
    exact Or.inr ⟨upper, Or.inl (Int.natCast_nonneg size)⟩

/--
Where the arithmetic is safe it decides and cuts as `JsonRpc` does with
integers.
-/
theorem doProcessBuffer_of_safe
    (parse : WxString → Option Json)
    (short : (buffer.length : Int) ≤ intRange.max)
    {check : LengthCheck}
    (made : lengthCheck width buffer = some check)
    (safe : LengthsSafe width buffer) :
    doProcessBuffer parse buffer =
      if check.buflen < width.range.wrap check.sum then (none, buffer)
      else
        (parse
            ((buffer.drop check.headerSize.toNat).take check.msglen.toNat),
          buffer.drop check.sum.toNat) := by
  rcases (lengthCheck_eq_some_iff check).mp made with
    ⟨size, length, announces, _, rfl⟩
  have bounds := size_of_announces announces
  have upper := (lengthsSafe_short_iff short).mp safe size length announces
  have positive := announces.positive
  rcases announces.read with ⟨headers, contentLength, read, present, rfl⟩
  have nonempty : buffer ≠ [] := by
    rintro rfl
    simp at bounds
    omega
  have headerSize : intRange.wrap size = size :=
    wrap_of_le_intMax (by omega)
  have msglen : width.range.clamp (atol contentLength) = atol contentLength :=
    clamp_of_pos positive (by omega)
  have buflen : width.range.wrap buffer.length = buffer.length :=
    longWrap_of_le_intMax short
  have sum :
      width.range.wrap (size + atol contentLength) =
        size + atol contentLength := by
    have lower := min_le_wrap width size
    rw [headerSize] at lower
    exact wrap_of_contains ⟨by omega, upper⟩
  simp only [LengthCheck.sum, headerSize, msglen, buflen, sum,
    doProcessBuffer, if_neg nonempty, read, present,
    if_neg (Int.not_le.mpr positive), Int.toNat_natCast]
  split
  · rfl
  · have parts :
        (size + atol contentLength).toNat =
          size + (atol contentLength).toNat := by
      omega
    rw [parts]

end Short

end DebuggerDap.Protocol.LengthArithmetic
