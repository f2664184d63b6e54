import DebuggerDap.Library.Bytes
import DebuggerDap.Protocol.LengthArithmetic
import DebuggerDap.Protocol.JsonTree
import DebuggerDap.Text.Numbers
import DebuggerDap.Text.Utf8

/-!
# The JSON parser

`cJSON_Parse` walks over a C string, modelled as its bytes in front of the
terminator.  It writes a quoted text into a buffer whose size a first pass
over the text has counted, and trusts the digits behind `\u` to be there.
Where it would read or write outside of its buffers, or use a variable which
was never set, the model stops with `undefined`.  A number may have an
exponent which is no `int`, or come to no finite `double`; the parser goes on
behind it, but the tree has no value for it.
-/

namespace DebuggerDap.Protocol.JsonParser

open DebuggerDap.Text.Strings
open DebuggerDap.Text.Numbers
open DebuggerDap.Text.Utf8
open DebuggerDap.Library.Bytes
open DebuggerDap.Protocol.JsonTree
open DebuggerDap.Protocol.LengthArithmetic

/--
Why a text has no tree.  With `range` the code returns one, but there is a
number in it that `Json` cannot hold.
-/
inductive Failure where
  | malformed
  | undefined
  | exhausted
  | range
deriving DecidableEq

/-- `skip`: whatever is not above a space. -/
def skip (text : List UInt8) : List UInt8 :=
  text.dropWhile fun code => code ≤ byte ' '

/-! ## Quoted texts -/

/--
The first pass: how many bytes the text will need at most.  The pointer moves
over the byte behind a backslash, but must not move past the end.
-/
def stringLength : Nat → List UInt8 → Except Failure Nat
  | 0, [] => .ok 0
  | _ + 1, [] => .error .undefined
  | width + 1, _ :: rest => stringLength width rest
  | 0, code :: rest =>
      if code = byte '"' then .ok 0
      else if code = byte '\\' then (stringLength 1 rest).map (1 + ·)
      else (stringLength 0 rest).map (1 + ·)

/-- The digits of a field which may begin with `0x`. -/
def behindMark (body : WxString) : WxString :=
  match body with
  | '0' :: mark :: rest => if mark = 'x' ∨ mark = 'X' then rest else body
  | _ => body

/--
`sscanf` with `%4x`: behind blanks at most four characters, which may begin
with a sign and with `0x`.
-/
def scanHex (text : List UInt8) : Option UInt32 :=
  let field := ((text.map charOf).dropWhile isSpace).take 4
  let negative := field.head? = some '-'
  let body :=
    if negative ∨ field.head? = some '+' then field.drop 1 else field
  let digits := (behindMark body).takeWhile isHexDigit
  let number := UInt32.ofNat (hexNumber digits)
  if digits = [] then none
  else some (if negative then 0 - number else number)

/-- A byte of an encoded character that is not its first. -/
def continuation (uc : UInt32) : UInt8 :=
  ((uc ||| 0x80) &&& 0xBF).toUInt8

/-- The number of bytes a code is written with. -/
def codeLength (uc : UInt32) : Nat :=
  if uc < 0x80 then 1
  else if uc < 0x800 then 2
  else if uc < 0x10000 then 3
  else 4

/-- The bytes of a code, with `firstByteMark` in the first one. -/
def encodeCode (uc : UInt32) : List UInt8 :=
  match codeLength uc with
  | 1 => [uc.toUInt8]
  | 2 => [(uc >>> 6 ||| 0xC0).toUInt8, continuation uc]
  | 3 =>
      [(uc >>> 12 ||| 0xE0).toUInt8, continuation (uc >>> 6),
        continuation uc]
  | _ =>
      [(uc >>> 18 ||| 0xF0).toUInt8, continuation (uc >>> 12),
        continuation (uc >>> 6), continuation uc]

/-- What the variable holds after its bytes are written. -/
def shiftedCode (uc : UInt32) : UInt32 :=
  uc >>> UInt32.ofNat (6 * (codeLength uc - 1))

/-- The code of a surrogate pair; bit 16 is set, not added. -/
def pairCode (uc uc2 : UInt32) : UInt32 :=
  (0x10000 : UInt32) ||| ((uc &&& 0x3FF) <<< 10) ||| (uc2 &&& 0x3FF)

/-- The byte for a code behind a backslash. -/
def simpleEscape (code : UInt8) : UInt8 :=
  if code = byte 'b' then 0x08
  else if code = byte 'f' then 0x0c
  else if code = byte 'n' then 0x0a
  else if code = byte 'r' then 0x0d
  else if code = byte 't' then 0x09
  else code

/-- What an escape writes, and how far the pointer moves behind it. -/
structure Escape where
  bytes : List UInt8
  uc : Option UInt32
  uc2 : Option UInt32
  width : Nat

/--
An escape, from the code behind its backslash on.  `sscanf` leaves its
variable as it was when it finds no digit, so both variables are kept.
-/
def readEscape
    (uc uc2 : Option UInt32)
    (text : List UInt8) : Except Failure Escape :=
  match text with
  | [] => .error .undefined
  | code :: rest =>
      if code ≠ byte 'u' then .ok ⟨[simpleEscape code], uc, uc2, 1⟩
      else
        match (scanHex rest).or uc with
        | none => .error .undefined
        | some high =>
            if 0xDC00 ≤ high ∧ high ≤ 0xDFFF ∨ high = 0 then
              .ok ⟨[], some high, uc2, 5⟩
            else if 0xD800 ≤ high ∧ high ≤ 0xDBFF then
              -- The second half of a surrogate pair has to follow.
              if (rest.drop 4).take 2 ≠ [byte '\\', byte 'u'] then
                .ok ⟨[], some high, uc2, 5⟩
              else
                match (scanHex (rest.drop 6)).or uc2 with
                | none => .error .undefined
                | some low =>
                    if low < 0xDC00 ∨ 0xDFFF < low then
                      .ok ⟨[], some high, some low, 11⟩
                    else
                      let pair := pairCode high low
                      .ok ⟨encodeCode pair, some (shiftedCode pair), some low,
                        11⟩
            else .ok ⟨encodeCode high, some (shiftedCode high), uc2, 5⟩

/-- Bytes written in front of those written later. -/
def prepend
    (bytes : List UInt8)
    (copied : Except Failure (List UInt8 × List UInt8)) :
    Except Failure (List UInt8 × List UInt8) :=
  copied.map fun result => (bytes ++ result.1, result.2)

/--
The second pass, up to the closing quote or the end.  The pointer may still
have to move over some bytes of an escape; it must not move past the end.
-/
def copyString :
    Option UInt32 → Option UInt32 → Nat → List UInt8 →
      Except Failure (List UInt8 × List UInt8)
  | _, _, 0, [] => .ok ([], [])
  | _, _, _ + 1, [] => .error .undefined
  | uc, uc2, width + 1, _ :: rest => copyString uc uc2 width rest
  | uc, uc2, 0, code :: rest =>
      if code = byte '"' then .ok ([], code :: rest)
      else if code ≠ byte '\\' then
        prepend [code] (copyString uc uc2 0 rest)
      else
        match readEscape uc uc2 rest with
        | .error failure => .error failure
        | .ok escape =>
            prepend escape.bytes
              (copyString escape.uc escape.uc2 escape.width rest)

/-- `parse_string`: the buffer has the room that was counted. -/
def parseString (text : List UInt8) :
    Except Failure (List UInt8 × List UInt8) :=
  if text.head? = some (byte '"') then do
    let len ← stringLength 0 text.tail
    let (out, rest) ← copyString none none 0 text.tail
    if out.length ≤ len then .ok (out, rest.tail) else .error .undefined
  else .error .malformed

/-! ## Numbers -/

/--
The arithmetic of `double` and `pow(10.0, …)` on finite numbers, which is
exact on integers up to `2^53`.  A result that is infinite is `none`.
-/
structure Doubles where
  add : Rat → Rat → Option Rat
  mul : Rat → Rat → Option Rat
  pow10 : Int → Option Rat
  add_exact :
    ∀ left right : Int, (left + right).natAbs ≤ 2 ^ 53 →
      add left right = some ((left + right : Int) : Rat)
  mul_exact :
    ∀ left right : Int, (left * right).natAbs ≤ 2 ^ 53 →
      mul left right = some ((left * right : Int) : Rat)
  pow10_zero : pow10 0 = some 1

def isDigit (code : UInt8) : Bool :=
  byte '0' ≤ code && code ≤ byte '9'

/-- The digits at the head of a text, and what follows them. -/
def takeDigits (text : List UInt8) : List UInt8 × List UInt8 :=
  (text.takeWhile isDigit, text.dropWhile isDigit)

/-- The digits at the head of a text, unless the first of them is a zero. -/
def leadingDigits (text : List UInt8) : List UInt8 × List UInt8 :=
  match text with
  | [] => ([], [])
  | code :: rest =>
      if byte '1' ≤ code ∧ code ≤ byte '9' then takeDigits (code :: rest)
      else ([], code :: rest)

/-- The digits in front of the point; a zero in front of them is skipped. -/
def wholePart (text : List UInt8) : List UInt8 × List UInt8 :=
  leadingDigits (if text.head? = some (byte '0') then text.tail else text)

/-- The digits behind a point, which needs one. -/
def fractionPart (text : List UInt8) : List UInt8 × List UInt8 :=
  match text with
  | point :: code :: rest =>
      if point = byte '.' ∧ isDigit code then takeDigits (code :: rest)
      else ([], text)
  | _ => ([], text)

/-- `signsubscale` and the digits of `subscale`. -/
def exponentPart (text : List UInt8) : Bool × List UInt8 × List UInt8 :=
  match text with
  | [] => (false, [], [])
  | mark :: rest =>
      if mark = byte 'e' ∨ mark = byte 'E' then
        if rest.head? = some (byte '+') then (false, takeDigits rest.tail)
        else if rest.head? = some (byte '-') then
          (true, takeDigits rest.tail)
        else (false, takeDigits rest)
      else (false, [], mark :: rest)

namespace Doubles

/-- `n = (n * 10.0) + (*num++ - '0')`, digit by digit. -/
def fold (doubles : Doubles) (n : Rat) (digits : List UInt8) : Option Rat :=
  digits.foldlM
    (fun n digit => do
      doubles.add (← doubles.mul n 10) (digit.toNat - 48 : Nat))
    n

end Doubles

/-- `subscale = (subscale * 10) + (*num++ - '0')`, as long as it is an `int`. -/
def appendDigit (subscale : Int) (digit : UInt8) : Option Int :=
  let next := subscale * 10 + (digit.toNat - 48 : Nat)
  if intRange.Contains next then some next else none

/-- The number of an exponent's digits. -/
def subscale (digits : List UInt8) : Option Int :=
  digits.foldlM appendDigit 0

example : subscale (utf8 "4294967296".toList) = none := by
  decide

/--
`sign * n * pow(10.0, (scale + subscale * signsubscale))`.  What has become
infinite never becomes finite again.
-/
def numberOf
    (doubles : Doubles)
    (negative : Bool)
    (whole fraction : List UInt8)
    (exponentNegative : Bool)
    (exponent : List UInt8) : Option Rat := do
  let n ← doubles.fold (← doubles.fold 0 whole) fraction
  let signed ← doubles.mul (if negative then -1 else 1) n
  let subscale ← subscale exponent
  let power ← doubles.pow10
    (-(fraction.length : Int) +
      subscale * (if exponentNegative then -1 else 1))
  doubles.mul signed power

/-- `parse_number`. -/
def parseNumber (doubles : Doubles) (text : List UInt8) :
    Option Rat × List UInt8 :=
  let negative := text.head? = some (byte '-')
  let whole := wholePart (if negative then text.tail else text)
  let fraction := fractionPart whole.2
  let exponent := exponentPart fraction.2
  (numberOf doubles negative whole.1 fraction.1 exponent.1 exponent.2.1,
    exponent.2.2)

/-! ## Values -/

/-- What the parser takes from its platform. -/
structure Platform where
  encode : WxString → List UInt8
  decode : List UInt8 → WxString
  doubles : Doubles

/-- A word at the head of a text, as `strncmp` finds it. -/
def startsWith (word : WxString) (text : List UInt8) : Bool :=
  (utf8 word).isPrefixOf text

/-- One more entry, where there is a value for each of them. -/
def linked
    {α : Type}
    (item : Option α)
    (items : Option (List α)) : Option (List α) :=
  item.bind fun item => items.map (item :: ·)

section Values

variable (platform : Platform)

mutual

/--
`parse_value`.  The calls may nest as deep as the fuel; the text of a value
is at hand when `GetString` asks for it, so it is decoded here.
-/
def parseValue :
    Nat → List UInt8 → Except Failure (Option Json × List UInt8)
  | 0, _ => .error .exhausted
  | fuel + 1, text =>
      if startsWith "null".toList text then .ok (some .null, text.drop 4)
      else if startsWith "false".toList text then
        .ok (some (.bool false), text.drop 5)
      else if startsWith "true".toList text then
        .ok (some (.bool true), text.drop 4)
      else
        match text with
        | [] => .error .malformed
        | code :: rest =>
            if code = byte '"' then do
              let (value, rest) ← parseString (code :: rest)
              .ok (some (.string (platform.decode value)), rest)
            else if code = byte '-' ∨ isDigit code then
              let (value, rest) := parseNumber platform.doubles (code :: rest)
              .ok (value.map .number, rest)
            else if code = byte '[' then
              if (skip rest).head? = some (byte ']') then
                .ok (some (.array []), (skip rest).tail)
              else do
                let (items, rest) ← parseItems fuel (skip rest)
                .ok (items.map .array, rest)
            else if code = byte '{' then
              if (skip rest).head? = some (byte '}') then
                .ok (some (.object []), (skip rest).tail)
              else do
                let (members, rest) ← parseMembers fuel (skip rest)
                .ok (members.map .object, rest)
            else .error .malformed

/-- The entries of `parse_array`, up to the closing bracket. -/
def parseItems :
    Nat → List UInt8 → Except Failure (Option (List Json) × List UInt8)
  | 0, _ => .error .exhausted
  | fuel + 1, text => do
      let (item, rest) ← parseValue fuel (skip text)
      match skip rest with
      | [] => .error .malformed
      | code :: rest =>
          if code = byte ',' then do
            let (items, rest) ← parseItems fuel (skip rest)
            .ok (linked item items, rest)
          else if code = byte ']' then .ok (linked item (some []), rest)
          else .error .malformed

/-- The members of `parse_object`, up to the closing brace. -/
def parseMembers :
    Nat → List UInt8 →
      Except Failure (Option (List (WxString × Json)) × List UInt8)
  | 0, _ => .error .exhausted
  | fuel + 1, text => do
      let (name, rest) ← parseString (skip text)
      match skip rest with
      | [] => .error .malformed
      | colon :: rest =>
          if colon ≠ byte ':' then .error .malformed
          else do
            let (item, rest) ← parseValue fuel (skip rest)
            let member := item.map (platform.decode name, ·)
            match skip rest with
            | [] => .error .malformed
            | code :: rest =>
                if code = byte ',' then do
                  let (members, rest) ← parseMembers fuel (skip rest)
                  .ok (linked member members, rest)
                else if code = byte '}' then
                  .ok (linked member (some []), rest)
                else .error .malformed

end

/-- The tree, if there is a value for all of its numbers. -/
def held : Option Json → Except Failure Json
  | some json => .ok json
  | none => .error .range

/-- `cJSON_Parse`; what follows the value is not looked at. -/
def cJSONParse (text : List UInt8) : Except Failure Json := do
  let (json, _) ← parseValue platform (2 * text.length + 1) (skip text)
  held json

/-- `Json::Parse`: the C string of a text ends at its first zero byte. -/
def parseText (source : WxString) : Except Failure Json :=
  cJSONParse platform ((platform.encode source).takeWhile (· ≠ 0))

/-- The handle that `Json::Parse` returns. -/
def parse (source : WxString) : Option Json :=
  (parseText platform source).toOption

end Values

end DebuggerDap.Protocol.JsonParser
