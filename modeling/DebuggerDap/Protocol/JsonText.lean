import DebuggerDap.Protocol.JsonTree
import DebuggerDap.Text.Numbers

/-!
# The text of a JSON tree

`Json::ToString` prints a tree, formatted with a line and an indentation for
every member of an object.  How the C library prints a number that is not an
`int` is a parameter.
-/

namespace DebuggerDap.Protocol.JsonText

open DebuggerDap.Text.Strings
open DebuggerDap.Library.MachineInt
open DebuggerDap.Protocol.JsonTree

/-! ## Scalars -/

/-- Two hexadecimal digits of a control character. -/
def hexDigits (token : Nat) : WxString :=
  [Nat.digitChar (token / 16), Nat.digitChar (token % 16)]

/-- A character inside quotes. -/
def escape (ch : Char) : WxString :=
  if ch = '\\' then ['\\', '\\']
  else if ch = '"' then ['\\', '"']
  else if 31 < ch.toNat then [ch]
  else if ch = '\x08' then ['\\', 'b']
  else if ch = '\x0c' then ['\\', 'f']
  else if ch = '\n' then ['\\', 'n']
  else if ch = '\r' then ['\\', 'r']
  else if ch = '\t' then ['\\', 't']
  else "\\u00".toList ++ hexDigits ch.toNat

/-- `print_string_ptr`. -/
def printString (str : WxString) : WxString :=
  '"' :: str.flatMap escape ++ ['"']

/-- `DBL_EPSILON`. -/
def doubleEpsilon : Rat :=
  1 / 4503599627370496

/-- `print_number`: a number that fits is printed as an `int`. -/
def printNumber
    (int : SignedRange)
    (printDouble : Rat → WxString)
    (value : Rat) : WxString :=
  let valueint := value.num.tdiv value.den
  let difference := (valueint : Rat) - value
  if -doubleEpsilon ≤ difference ∧ difference ≤ doubleEpsilon ∧
      value ≤ int.max ∧ int.min ≤ value then
    (toString valueint).toList
  else printDouble value

/-! ## Trees -/

section Trees

variable (int : SignedRange) (printDouble : Rat → WxString) (fmt : Bool)

mutual

/-- `print_value`. -/
def printValue (depth : Nat) : Json → WxString
  | .null => "null".toList
  | .bool false => "false".toList
  | .bool true => "true".toList
  | .number value => printNumber int printDouble value
  | .string value => printString value
  | .array items =>
      let separator := if fmt then [',', ' '] else [',']
      '[' :: separator.intercalate (printItems (depth + 1) items) ++ [']']
  | .object members =>
      let separator := if fmt then [',', '\n'] else [',']
      let start := if fmt then ['{', '\n'] else ['{']
      let lineEnd := if fmt ∧ members ≠ [] then ['\n'] else []
      let indentation := if fmt then List.replicate depth ' ' else []
      start ++ separator.intercalate (printMembers (depth + 1) members) ++
        lineEnd ++ indentation ++ ['}']

/-- The entries of an array. -/
def printItems (depth : Nat) : List Json → List WxString
  | [] => []
  | item :: items => printValue depth item :: printItems depth items

/-- The members of an object, with their names and indentation. -/
def printMembers (depth : Nat) : List (WxString × Json) → List WxString
  | [] => []
  | (name, item) :: members =>
      let indentation := if fmt then List.replicate depth ' ' else []
      let colon := if fmt then [':', ' '] else [':']
      (indentation ++ printString name ++ colon ++ printValue depth item) ::
        printMembers depth members

end

/-- `ToString`; a handle without a node has no text. -/
def toString_ : Option Json → WxString
  | none => []
  | some json => printValue int printDouble fmt 0 json

section Equations

variable (depth : Nat)

theorem printValue_number (value : Rat) :
    printValue int printDouble fmt depth (.number value) =
      printNumber int printDouble value :=
  rfl

theorem printValue_string (value : WxString) :
    printValue int printDouble fmt depth (.string value) =
      printString value :=
  rfl

/-- Without formatting only a comma stands between two items. -/
theorem printValue_array (items : List Json) :
    printValue int printDouble false depth (.array items) =
      '[' :: ([','].intercalate
        (printItems int printDouble false (depth + 1) items) ++ [']']) :=
  rfl

theorem printValue_object (members : List (WxString × Json)) :
    printValue int printDouble false depth (.object members) =
      '{' :: ([','].intercalate
        (printMembers int printDouble false (depth + 1) members) ++
        ['}']) := by
  show ['{'] ++ [','].intercalate
    (printMembers int printDouble false (depth + 1) members) ++ [] ++ [] ++
      ['}'] = _
  rw [List.append_nil, List.append_nil, List.singleton_append,
    List.cons_append]

theorem printItems_cons (item : Json) (items : List Json) :
    printItems int printDouble fmt depth (item :: items) =
      printValue int printDouble fmt depth item ::
        printItems int printDouble fmt depth items :=
  rfl

theorem printMembers_cons
    (name : WxString)
    (value : Json)
    (members : List (WxString × Json)) :
    printMembers int printDouble false depth ((name, value) :: members) =
      (printString name ++
          ':' :: printValue int printDouble false depth value) ::
        printMembers int printDouble false depth members := by
  show ([] ++ printString name ++ [':'] ++
    printValue int printDouble false depth value) :: _ = _
  rw [List.nil_append, List.append_assoc, List.singleton_append]

end Equations

end Trees

/-! ## Lists of numbers -/

section Numbers

variable {int : SignedRange} {printDouble : Rat → WxString} {fmt : Bool}

theorem printNumber_int {value : Int} (contains : int.Contains value) :
    printNumber int printDouble value = (toString value).toList := by
  have whole : ((value : Rat)).num.tdiv ((value : Rat)).den = value := by
    simp
  have small : -doubleEpsilon ≤ 0 ∧ 0 ≤ doubleEpsilon := by
    decide +kernel
  rw [printNumber]
  rw [whole, Rat.sub_self, if_pos]
  refine ⟨small.1, small.2, ?_, ?_⟩
  · exact Rat.intCast_le_intCast.mpr contains.2
  · exact Rat.intCast_le_intCast.mpr contains.1

end Numbers

/-! ## Quoted texts -/

/-- The number two hexadecimal digits of a control character stand for. -/
def controlOf (high low : Char) : Nat :=
  let value := fun digit : Char =>
    if digit.isDigit then digit.toNat - 48 else digit.toNat - 87
  16 * value high + value low

/-- The character at the head of a quoted text, and what follows it. -/
def unescape : WxString → Option (Char × WxString)
  | [] => none
  | ch :: rest =>
      if ch ≠ '\\' then some (ch, rest)
      else
        match rest with
        | 'u' :: _ :: _ :: high :: low :: rest =>
            some (Char.ofNat (controlOf high low), rest)
        | 'b' :: rest => some ('\x08', rest)
        | 'f' :: rest => some ('\x0c', rest)
        | 'n' :: rest => some ('\n', rest)
        | 'r' :: rest => some ('\r', rest)
        | 't' :: rest => some ('\t', rest)
        | code :: rest => some (code, rest)
        | [] => none

theorem controlOf_hexDigits :
    ∀ token < 32,
      controlOf (Nat.digitChar (token / 16)) (Nat.digitChar (token % 16)) =
        token := by
  decide

/-- The characters that are printed as a backslash and a code. -/
def shortEscapes : List (Char × Char) :=
  [('\\', '\\'), ('"', '"'), ('\x08', 'b'), ('\x0c', 'f'), ('\n', 'n'),
    ('\r', 'r'), ('\t', 't')]

/-- A character is printed as it is, with a code, or with its number. -/
theorem escape_cases (ch : Char) :
    escape ch = [ch] ∧ ch ≠ '\\' ∧ ch ≠ '"' ∧ 31 < ch.toNat ∨
      (∃ code, (ch, code) ∈ shortEscapes ∧ escape ch = ['\\', code]) ∨
      escape ch = "\\u00".toList ++ hexDigits ch.toNat ∧ ch.toNat < 32 := by
  by_cases short : ∃ code, (ch, code) ∈ shortEscapes
  · rcases short with ⟨code, member⟩
    refine .inr (.inl ⟨code, member, ?_⟩)
    simp only [shortEscapes, List.mem_cons, Prod.mk.injEq, List.not_mem_nil,
      or_false] at member
    rcases member with
      ⟨rfl, rfl⟩ | ⟨rfl, rfl⟩ | ⟨rfl, rfl⟩ | ⟨rfl, rfl⟩ | ⟨rfl, rfl⟩ |
        ⟨rfl, rfl⟩ | ⟨rfl, rfl⟩
    all_goals rfl
  · have apart : ∀ pair ∈ shortEscapes, ch ≠ pair.1 :=
      fun pair member same => short ⟨pair.2, same ▸ member⟩
    simp only [shortEscapes, List.forall_mem_cons] at apart
    rcases apart with ⟨backslash, quote, b, f, n, r, t, -⟩
    rw [escape, if_neg backslash, if_neg quote]
    by_cases printable : 31 < ch.toNat
    · rw [if_pos printable]
      exact .inl ⟨rfl, backslash, quote, printable⟩
    · rw [if_neg printable, if_neg b, if_neg f, if_neg n, if_neg r, if_neg t]
      exact .inr (.inr ⟨rfl, by omega⟩)

theorem unescape_of_mem_shortEscapes (rest : WxString) :
    ∀ pair ∈ shortEscapes,
      unescape ('\\' :: pair.2 :: rest) = some (pair.1, rest) := by
  simp only [shortEscapes, List.forall_mem_cons]
  exact ⟨rfl, rfl, rfl, rfl, rfl, rfl, rfl, by simp⟩

/-- A character is read back from its escape. -/
theorem unescape_escape (ch : Char) (rest : WxString) :
    unescape (escape ch ++ rest) = some (ch, rest) := by
  rcases escape_cases ch with
    ⟨plain, backslash, -, -⟩ | ⟨code, short, coded⟩ | ⟨numbered, control⟩
  · rw [plain]
    exact if_pos backslash
  · rw [coded]
    exact unescape_of_mem_shortEscapes rest _ short
  · have token := controlOf_hexDigits ch.toNat control
    have read :
        unescape ("\\u00".toList ++ hexDigits ch.toNat ++ rest) =
          some (Char.ofNat (controlOf (Nat.digitChar (ch.toNat / 16))
            (Nat.digitChar (ch.toNat % 16))), rest) :=
      rfl
    rw [numbered, read, token, Char.ofNat_toNat]

theorem escape_append_inj
    {left right : Char}
    {leftRest rightRest : WxString}
    (same : escape left ++ leftRest = escape right ++ rightRest) :
    left = right ∧ leftRest = rightRest := by
  have read := congrArg unescape same
  rw [unescape_escape, unescape_escape] at read
  exact Prod.mk.inj (Option.some.inj read)

/-- No escape begins with a quote. -/
theorem exists_escape_eq_cons (ch : Char) :
    ∃ first more, escape ch = first :: more ∧ first ≠ '"' := by
  rcases escape_cases ch with
    ⟨plain, -, quote, -⟩ | ⟨code, -, coded⟩ | ⟨numbered, -⟩
  · exact ⟨ch, [], plain, quote⟩
  · exact ⟨'\\', [code], coded, by decide⟩
  · exact ⟨'\\', _, numbered, by decide⟩

theorem escape_quote : escape '"' = ['\\', '"'] :=
  rfl

theorem quote_not_mem_escape {ch : Char} (other : ch ≠ '"') :
    '"' ∉ escape ch := by
  rcases escape_cases ch with
    ⟨plain, -, -, -⟩ | ⟨code, short, coded⟩ | ⟨numbered, control⟩
  · rw [plain, List.mem_singleton]
    exact Ne.symm other
  · have same : ∀ pair ∈ shortEscapes, pair.2 = '"' → pair.1 = '"' := by
      simp [shortEscapes]
    rw [coded, List.mem_pair, not_or]
    exact ⟨by decide, fun isCode => other (same _ short isCode.symm)⟩
  · have digit : ∀ token < 32, '"' ∉ hexDigits token := by decide
    rw [numbered, List.mem_append, not_or]
    exact ⟨by decide, digit ch.toNat control⟩

theorem nul_not_mem_escape (ch : Char) : '\x00' ∉ escape ch := by
  rcases escape_cases ch with
    ⟨plain, -, -, printable⟩ | ⟨code, short, coded⟩ | ⟨numbered, control⟩
  · rw [plain, List.mem_singleton]
    rintro rfl
    exact absurd printable (by decide)
  · have noNul : ∀ pair ∈ shortEscapes, '\x00' ≠ pair.2 := by
      simp [shortEscapes]
    rw [coded, List.mem_pair, not_or]
    exact ⟨by decide, noNul _ short⟩
  · have digit : ∀ token < 32, '\x00' ∉ hexDigits token := by decide
    rw [numbered, List.mem_append, not_or]
    exact ⟨by decide, digit ch.toNat control⟩

/-- A quoted text is a C string. -/
theorem nul_not_mem_printString (str : WxString) :
    '\x00' ∉ printString str := by
  intro nul
  rcases List.mem_append.mp nul with inText | inEnd
  · rcases List.mem_cons.mp inText with isQuote | inEscapes
    · exact absurd isQuote (by decide)
    · rcases List.mem_flatMap.mp inEscapes with ⟨ch, -, inEscape⟩
      exact nul_not_mem_escape ch inEscape
  · exact absurd (List.mem_singleton.mp inEnd) (by decide)

/-- The quotes make a text longer. -/
theorem length_lt_printString (str : WxString) :
    str.length < (printString str).length := by
  have escapes : str.length ≤ (str.flatMap escape).length := by
    induction str with
    | nil => exact Nat.le_refl 0
    | cons ch rest inductionHypothesis =>
        rcases exists_escape_eq_cons ch with ⟨first, more, shape, -⟩
        rw [List.flatMap_cons, shape, List.length_append, List.length_cons,
          List.length_cons]
        omega
  rw [printString, List.length_append, List.length_cons]
  omega

/-- Where a quoted text ends is seen from the text alone. -/
theorem quoted_inj
    {left right leftRest rightRest : WxString}
    (same :
      left.flatMap escape ++ '"' :: leftRest =
        right.flatMap escape ++ '"' :: rightRest) :
    left = right ∧ leftRest = rightRest := by
  induction left generalizing right with
  | nil =>
      cases right with
      | nil => exact ⟨rfl, (List.cons.inj same).2⟩
      | cons ch right =>
          rcases exists_escape_eq_cons ch with ⟨first, more, shape, sharp⟩
          rw [List.flatMap_cons, shape] at same
          exact absurd (List.cons.inj same).1.symm sharp
  | cons ch left inductionHypothesis =>
      cases right with
      | nil =>
          rcases exists_escape_eq_cons ch with ⟨first, more, shape, sharp⟩
          rw [List.flatMap_cons, shape] at same
          exact absurd (List.cons.inj same).1 sharp
      | cons other right =>
          rw [List.flatMap_cons, List.flatMap_cons, List.append_assoc,
            List.append_assoc] at same
          rcases escape_append_inj same with ⟨rfl, sameRest⟩
          rcases inductionHypothesis sameRest with ⟨rfl, sameAfter⟩
          exact ⟨rfl, sameAfter⟩

theorem printString_append_inj
    {left right leftRest rightRest : WxString}
    (same :
      printString left ++ leftRest = printString right ++ rightRest) :
    left = right ∧ leftRest = rightRest := by
  simp only [printString, List.cons_append, List.append_assoc,
    List.nil_append] at same
  exact quoted_inj (List.cons.inj same).2

/-! ## A quote before a comma -/

theorem comma_prefix_escape_iff (ch : Char) (rest : WxString) :
    [','] <+: escape ch ++ rest ↔ ch = ',' := by
  rcases escape_cases ch with
    ⟨plain, -, -, -⟩ | ⟨code, short, coded⟩ | ⟨numbered, control⟩
  · rw [plain, List.singleton_append, List.cons_prefix_cons]
    simp [eq_comm]
  · have noComma : ∀ pair ∈ shortEscapes, pair.1 ≠ ',' := by
      simp [shortEscapes]
    rw [coded]
    exact iff_of_false (by simp) (noComma _ short)
  · rw [numbered]
    refine iff_of_false (by simp) ?_
    rintro rfl
    exact absurd control (by decide)

theorem comma_prefix_escapes_iff (str rest : WxString) :
    [','] <+: str.flatMap escape ++ '"' :: rest ↔ [','] <+: str := by
  cases str with
  | nil => simp
  | cons ch str =>
      rw [List.flatMap_cons, List.append_assoc, comma_prefix_escape_iff]
      simp [eq_comm]

theorem pair_infix_escapes_iff (str : WxString) :
    ['"', ','] <:+: str.flatMap escape ++ ['"'] ↔ ['"', ','] <:+: str := by
  induction str with
  | nil => exact iff_of_false (by simp [List.infix_cons_iff]) (by simp)
  | cons ch str inductionHypothesis =>
      rw [List.flatMap_cons, List.append_assoc]
      by_cases quote : ch = '"'
      · subst quote
        rw [escape_quote, List.cons_append, List.cons_append,
          List.nil_append, List.infix_cons_iff, List.infix_cons_iff,
          List.infix_cons_iff, inductionHypothesis, List.cons_prefix_cons,
          List.cons_prefix_cons, List.cons_prefix_cons,
          comma_prefix_escapes_iff]
        simp
      · rw [infix_skip (escape ch) (quote_not_mem_escape quote),
          inductionHypothesis, List.infix_cons_iff, List.cons_prefix_cons]
        simp [Ne.symm quote]

/-- The pair is in a quoted text where it or a comma at the head is in it. -/
theorem pair_infix_printString_iff (str : WxString) :
    ['"', ','] <:+: printString str ↔
      [','] <+: str ∨ ['"', ','] <:+: str := by
  rw [printString, List.cons_append, List.infix_cons_iff,
    List.cons_prefix_cons, comma_prefix_escapes_iff, pair_infix_escapes_iff]
  simp

end DebuggerDap.Protocol.JsonText
