import DebuggerDap.Text.Numbers
import DebuggerDap.Watches.Routing

/-!
# The value of the flags

The debugger gives the flags in binary.  They are shown in hexadecimal: zeros
are put in front until the bits are in groups of four, and each group becomes
a digit.  The number stays the same.
-/

namespace DebuggerDap.Watches.RegisterValue

open DebuggerDap.Text.Strings
open DebuggerDap.Text.Numbers
open DebuggerDap.Watches.Routing

/-- The digits of a number in binary. -/
def IsBinary (bits : WxString) : Prop :=
  ∀ bit ∈ bits, bit = '0' ∨ bit = '1'

/-- The number binary digits stand for, behind a number already read. -/
def binaryNumberFrom (start : Nat) (bits : WxString) : Nat :=
  bits.foldl (fun value bit => 2 * value + (bit.toNat - 48)) start

def binaryNumber (bits : WxString) : Nat :=
  binaryNumberFrom 0 bits

/-- Four bits have a digit, and it has their number. -/
theorem nibble_of_binary
    {first second third fourth : Char}
    (binary : IsBinary [first, second, third, fourth]) :
    ∃ digit,
      nibble [first, second, third, fourth] = some digit ∧
        hexDigit? digit =
          some (binaryNumber [first, second, third, fourth]) := by
  have firstBit := binary first (by simp)
  have secondBit := binary second (by simp)
  have thirdBit := binary third (by simp)
  have fourthBit := binary fourth (by simp)
  rcases firstBit with rfl | rfl <;>
    rcases secondBit with rfl | rfl <;>
      rcases thirdBit with rfl | rfl <;>
        rcases fourthBit with rfl | rfl <;>
          exact ⟨_, rfl, by decide⟩

/-- Four bits shift a number as one digit does. -/
theorem binaryNumberFrom_four
    (start : Nat)
    (first second third fourth : Char)
    (bits : WxString) :
    binaryNumberFrom start (first :: second :: third :: fourth :: bits) =
      binaryNumberFrom
        (16 * start + binaryNumber [first, second, third, fourth]) bits := by
  simp only [binaryNumber, binaryNumberFrom, List.foldl_cons, List.foldl_nil]
  congr 1
  omega

/-- What the digits of some bits are. -/
structure Digits (bits digits : WxString) : Prop where
  length : 4 * digits.length = bits.length
  hexadecimal : ∀ ch ∈ digits, isHexDigit ch = true
  number :
    ∀ start,
      digits.foldl (fun number ch => 16 * number + (hexDigit? ch).getD 0)
          start =
        binaryNumberFrom start bits

/-- Each group of four bits becomes a digit. -/
theorem nibbles_of_binary
    {bits : WxString}
    (groups : Nat)
    (length : bits.length = 4 * groups)
    (binary : IsBinary bits) :
    ∃ digits, nibbles bits = some digits ∧ Digits bits digits := by
  induction groups generalizing bits with
  | zero =>
      cases List.length_eq_zero_iff.mp length
      exact ⟨[], rfl,
        { length := rfl
          hexadecimal := nofun
          number := fun _ => rfl }⟩
  | succ groups inductionHypothesis =>
      match bits, length, binary with
      | first :: second :: third :: fourth :: bits, length, binary =>
          rcases List.forall_mem_append.mp
            (show IsBinary ([first, second, third, fourth] ++ bits) from
              binary) with ⟨here, behind⟩
          have rest : bits.length = 4 * groups := by
            simp only [List.length_cons] at length
            omega
          rcases nibble_of_binary here with ⟨digit, nibbleEq, digitEq⟩
          rcases inductionHypothesis rest behind with
            ⟨digits, nibblesEq, converted⟩
          refine ⟨digit :: digits, ?_, ?_⟩
          · rw [nibbles, nibbleEq, nibblesEq]
            rfl
          · exact
              { length := by
                  have lengthRest := converted.length
                  simp only [List.length_cons]
                  omega
                hexadecimal := by
                  rw [List.forall_mem_cons, isHexDigit, digitEq]
                  exact ⟨rfl, converted.hexadecimal⟩
                number := fun start => by
                  rw [List.foldl_cons, digitEq, converted.number,
                    binaryNumberFrom_four]
                  rfl }

/-- Zeros in front of bits do not count. -/
theorem binaryNumber_zeros (count : Nat) (bits : WxString) :
    binaryNumber (List.replicate count '0' ++ bits) = binaryNumber bits := by
  induction count with
  | zero => rfl
  | succ count inductionHypothesis => exact inductionHypothesis

/--
The digits of a number in binary become a fourth as many that stand for the
same number; without the prefix there is no text.
-/
theorem binStrToHexStr_number (binaryStr : WxString) :
    (∀ bits, binaryStr = "0b".toList ++ bits → IsBinary bits →
      ∃ digits,
        binStrToHexStr binaryStr = some ("0x".toList ++ digits) ∧
        digits.length = (bits.length + 3) / 4 ∧
        (∀ ch ∈ digits, isHexDigit ch = true) ∧
        hexNumber digits = binaryNumber bits) ∧
      (¬"0b".toList <+: binaryStr → binStrToHexStr binaryStr = some []) := by
  constructor
  · rintro bits rfl binary
    let padding := (4 - bits.length % 4) % 4
    let padded := List.replicate padding '0' ++ bits
    have paddedBinary : IsBinary padded := by
      refine List.forall_mem_append.mpr ⟨fun bit member => ?_, binary⟩
      exact .inl (List.eq_of_mem_replicate member)
    have paddedLength : padded.length = 4 * ((bits.length + 3) / 4) := by
      rw [List.length_append, List.length_replicate]
      omega
    rcases nibbles_of_binary _ paddedLength paddedBinary with
      ⟨digits, nibblesEq, converted⟩
    refine ⟨digits, ?_, ?_, converted.hexadecimal, ?_⟩
    · rw [binStrToHexStr, if_pos (by simp)]
      show (nibbles padded).map _ = _
      rw [nibblesEq]
      rfl
    · have lengths := converted.length
      omega
    · exact (converted.number 0).trans (binaryNumber_zeros padding bits)
  · intro noPrefix
    rw [binStrToHexStr, if_neg]
    rw [List.isPrefixOf_iff_prefix]
    exact noPrefix

/-- Two zeros are put in front of `101101`. -/
example : binStrToHexStr "0b101101".toList = some "0x2D".toList := by
  decide

end DebuggerDap.Watches.RegisterValue
