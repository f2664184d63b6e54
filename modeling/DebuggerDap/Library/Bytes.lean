import Mathlib.Data.List.Basic

/-!
# The bytes of ASCII characters

Texts that are walked over byte by byte are compared with the bytes of
characters.  An ASCII character is known from its byte.
-/

namespace DebuggerDap.Library.Bytes

/-- The byte of an ASCII character. -/
def byte (ch : Char) : UInt8 :=
  ch.val.toUInt8

/-- The character of a byte. -/
def charOf (code : UInt8) : Char :=
  Char.ofNat code.toNat

theorem toNat_byte {ch : Char} (ascii : ch.toNat < 128) :
    (byte ch).toNat = ch.toNat := by
  rw [byte, UInt32.toNat_toUInt8]
  exact Nat.mod_eq_of_lt (by have code : ch.val.toNat < 128 := ascii; omega)

theorem charOf_byte {ch : Char} (ascii : ch.toNat < 128) :
    charOf (byte ch) = ch := by
  rw [charOf, toNat_byte ascii, Char.ofNat_toNat]

end DebuggerDap.Library.Bytes
