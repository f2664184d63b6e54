import DebuggerDap.Protocol.JsonNumbers
import DebuggerDap.Protocol.JsonQuoted

/-!
# Every JSON text is read

The parser reads every text of the grammar to the tree the text stands for.
The exceptions are characters written with their codes, and numbers that are
no finite `double` or whose exponent is no `int`.
-/

namespace DebuggerDap.Protocol.JsonReading

open DebuggerDap.Text.Strings
open DebuggerDap.Text.Numbers
open DebuggerDap.Text.Utf8
open DebuggerDap.Library.Bytes
open DebuggerDap.Library.JsonGrammar
open DebuggerDap.Protocol.JsonTree
open DebuggerDap.Protocol.JsonParser
open DebuggerDap.Protocol.JsonNumbers
open DebuggerDap.Protocol.JsonQuoted

/-! ## Values -/

section Values

variable (platform : Platform)

mutual

/--
The tree a text stands for, with its texts as they are read, if each of its
numbers comes to a finite `double`.
-/
def meaning : Tree → Option Json
  | .null => some .null
  | .bool value => some (.bool value)
  | .number literal => (literalValue platform.doubles literal).map .number
  | .string value => some (.string (platform.decode (utf8 value)))
  | .array items => (meaningItems items).map .array
  | .object members => (meaningMembers members).map .object

def meaningItems : List Tree → Option (List Json)
  | [] => some []
  | item :: items => linked (meaning item) (meaningItems items)

def meaningMembers :
    List (WxString × Tree) → Option (List (WxString × Json))
  | [] => some []
  | (name, item) :: members =>
      linked ((meaning item).map (platform.decode (utf8 name), ·))
        (meaningMembers members)

end

end Values

section Blanks

variable {rest : List UInt8}

theorem blank_nil : Blank [] :=
  nofun

theorem skip_blank
    {blank : WxString}
    (isBlank : Blank blank) :
    skip (utf8 blank ++ rest) = skip rest := by
  have small : ∀ code ∈ utf8 blank, decide (code ≤ byte ' ') = true := by
    intro code member
    rcases List.mem_flatMap.mp member with ⟨ch, inBlank, inChar⟩
    rcases isBlank ch inBlank with rfl | rfl | rfl | rfl
    all_goals
      rw [List.mem_singleton.mp inChar]
      decide
  exact List.dropWhile_append_of_pos small

theorem skip_cons
    {code : UInt8}
    (printable : byte ' ' < code) :
    skip (code :: rest) = code :: rest := by
  refine List.dropWhile_cons_of_neg ?_
  rw [decide_eq_true_eq]
  exact UInt8.not_le.mpr printable

/-- A blank, a comma or a bracket ends a number. -/
theorem ends_blank
    {blank : WxString}
    (isBlank : Blank blank)
    (ends : Ends rest) : Ends (utf8 blank ++ rest) := by
  cases blank with
  | nil => exact ends
  | cons ch blank =>
      rcases isBlank ch List.mem_cons_self with rfl | rfl | rfl | rfl
      all_goals
        rintro code head
        cases head
        decide

theorem ends_cons
    (code : UInt8)
    (rest : List UInt8)
    (stops :
      isDigit code = false ∧ code ≠ byte '.' ∧ code ≠ byte 'e' ∧
        code ≠ byte 'E') :
    Ends (code :: rest) := by
  rintro other head
  cases head
  exact stops

end Blanks

section Dispatch

variable {platform : Platform} {fuel : Nat} {rest : List UInt8}

theorem startsWith_append (rest : List UInt8) (word : WxString) :
    startsWith word (utf8 word ++ rest) = true :=
  List.isPrefixOf_iff_prefix.mpr (List.prefix_append _ _)

theorem startsWith_cons
    {first : Char}
    {word : WxString}
    {code : UInt8}
    (ascii : first.toNat < 128)
    (apart : code ≠ byte first) :
    startsWith (first :: word) (code :: rest) = false := by
  rw [startsWith, utf8_cons_of_ascii ascii, List.isPrefixOf_cons_cons,
    beq_false_of_ne (Ne.symm apart), Bool.false_and]

/-- No word begins with these bytes. -/
theorem startsWith_words
    {code : UInt8}
    (n : code ≠ byte 'n')
    (f : code ≠ byte 'f')
    (t : code ≠ byte 't') :
    startsWith "null".toList (code :: rest) = false ∧
      startsWith "false".toList (code :: rest) = false ∧
      startsWith "true".toList (code :: rest) = false :=
  ⟨startsWith_cons (by decide) n, startsWith_cons (by decide) f,
    startsWith_cons (by decide) t⟩

theorem parseValue_string :
    parseValue platform (fuel + 1) (byte '"' :: rest) =
      (parseString (byte '"' :: rest)).bind fun result =>
        .ok (some (.string (platform.decode result.1)), result.2) := by
  rcases @startsWith_words rest (byte '"') (by decide) (by decide)
      (by decide) with ⟨n, f, t⟩
  simp only [parseValue, n, f, t, Bool.false_eq_true, if_false, if_true]
  rfl

theorem parseValue_number
    {code : UInt8}
    (numeric : code = byte '-' ∨ isDigit code = true) :
    parseValue platform (fuel + 1) (code :: rest) =
      .ok ((parseNumber platform.doubles (code :: rest)).1.map .number,
        (parseNumber platform.doubles (code :: rest)).2) := by
  have apart :
      ∀ other, other ≠ byte '-' → isDigit other = false → code ≠ other := by
    rintro other minus none rfl
    rcases numeric with same | digit
    · exact minus same
    · rw [none] at digit
      cases digit
  rcases @startsWith_words rest code (apart _ (by decide) (by decide))
      (apart _ (by decide) (by decide)) (apart _ (by decide) (by decide)) with
    ⟨n, f, t⟩
  simp only [parseValue, n, f, t, Bool.false_eq_true, if_false,
    apart (byte '"') (by decide) (by decide), numeric, if_true]

theorem parseValue_array :
    parseValue platform (fuel + 1) (byte '[' :: rest) =
      if (skip rest).head? = some (byte ']') then
        .ok (some (.array []), (skip rest).tail)
      else
        (parseItems platform fuel (skip rest)).bind fun result =>
          .ok (result.1.map .array, result.2) := by
  rcases @startsWith_words rest (byte '[') (by decide) (by decide)
      (by decide) with ⟨n, f, t⟩
  have quote : byte '[' ≠ byte '"' := by decide
  have numeric : ¬ (byte '[' = byte '-' ∨ isDigit (byte '[') = true) := by
    decide
  simp only [parseValue, n, f, t, Bool.false_eq_true, if_false, quote,
    numeric, if_true]
  rfl

theorem parseValue_object :
    parseValue platform (fuel + 1) (byte '{' :: rest) =
      if (skip rest).head? = some (byte '}') then
        .ok (some (.object []), (skip rest).tail)
      else
        (parseMembers platform fuel (skip rest)).bind fun result =>
          .ok (result.1.map .object, result.2) := by
  rcases @startsWith_words rest (byte '{') (by decide) (by decide)
      (by decide) with ⟨n, f, t⟩
  have quote : byte '{' ≠ byte '"' := by decide
  have numeric : ¬ (byte '{' = byte '-' ∨ isDigit (byte '{') = true) := by
    decide
  have bracket : byte '{' ≠ byte '[' := by decide
  simp only [parseValue, n, f, t, Bool.false_eq_true, if_false, quote,
    numeric, bracket, if_true]
  rfl

end Dispatch

/-! ## Texts of the grammar -/

/-- How a text begins that is not skipped and closes nothing. -/
def Starts (text : List UInt8) : Prop :=
  ∃ code others, text = code :: others ∧ byte ' ' < code ∧
    code ≠ byte ']' ∧ code ≠ byte '}'

theorem Starts.append
    {text : List UInt8}
    (starts : Starts text)
    (rest : List UInt8) : Starts (text ++ rest) := by
  rcases starts with ⟨code, others, rfl, apart⟩
  exact ⟨code, others ++ rest, rfl, apart⟩

theorem Starts.skip
    {text : List UInt8}
    (starts : Starts text) : skip text = text := by
  rcases starts with ⟨code, others, rfl, printable, -⟩
  exact skip_cons printable

theorem skip_starts
    {blank : WxString}
    {text rest : List UInt8}
    (isBlank : Blank blank)
    (starts : Starts text) :
    JsonParser.skip (utf8 blank ++ (text ++ rest)) = text ++ rest := by
  rw [skip_blank isBlank, (starts.append rest).skip]

theorem Starts.not_closed
    {text : List UInt8}
    (starts : Starts text) :
    text.head? ≠ some (byte ']') ∧ text.head? ≠ some (byte '}') := by
  rcases starts with ⟨code, others, rfl, -, bracket, brace⟩
  exact ⟨fun same => bracket (Option.some.inj same),
    fun same => brace (Option.some.inj same)⟩

theorem numeric_starts
    {code : UInt8}
    (numeric : code = byte '-' ∨ isDigit code = true) :
    byte ' ' < code ∧ code ≠ byte ']' ∧ code ≠ byte '}' := by
  rcases numeric with rfl | digit
  · decide
  · have codes :
        (byte '0').toNat = 48 ∧ (byte '9').toNat = 57 ∧
          (byte ' ').toNat = 32 ∧ (byte ']').toNat = 93 ∧
          (byte '}').toNat = 125 :=
      ⟨rfl, rfl, rfl, rfl, rfl⟩
    simp only [isDigit, Bool.and_eq_true, decide_eq_true_eq,
      UInt8.le_iff_toNat_le, codes] at digit
    simp only [UInt8.lt_iff_toNat_lt, ne_eq, ← UInt8.toNat_inj, codes]
    omega

/-- A number begins with a minus or a digit. -/
theorem exists_literal_head (literal : Literal) :
    ∃ code others,
      utf8 literal.text = code :: others ∧
        (code = byte '-' ∨ isDigit code = true) := by
  rcases List.exists_cons_of_ne_nil literal.nonempty with
    ⟨first, others, shape⟩
  have decimal := literal.wholeDecimal first (shape ▸ List.mem_cons_self)
  rw [Literal.text]
  cases literal.negative with
  | true =>
      rw [if_pos rfl, List.singleton_append, utf8_cons_of_ascii (by decide)]
      exact ⟨_, _, rfl, .inl rfl⟩
  | false =>
      rw [if_neg Bool.false_ne_true, List.nil_append, shape, List.cons_append,
        utf8_cons_of_ascii (toNat_lt_of_isDigit decimal)]
      exact ⟨_, _, rfl, .inr (isDigit_byte decimal)⟩

section Grammar

variable {escapable : Char → Prop}

theorem starts_of_value
    {text : WxString}
    {tree : Tree}
    (value : Value hexDigit? escapable text tree) :
    Starts (utf8 text) := by
  cases value with
  | null => exact ⟨_, _, rfl, by decide⟩
  | false => exact ⟨_, _, rfl, by decide⟩
  | true => exact ⟨_, _, rfl, by decide⟩
  | number literal =>
      rcases exists_literal_head literal with ⟨code, others, shape, numeric⟩
      exact ⟨code, others, shape, numeric_starts numeric⟩
  | string quoted =>
      rw [utf8_cons_of_ascii (by decide)]
      exact ⟨_, _, rfl, by decide⟩
  | emptyArray isBlank =>
      rw [utf8_cons_of_ascii (by decide)]
      exact ⟨_, _, rfl, by decide⟩
  | array isBlank entries =>
      rw [utf8_cons_of_ascii (by decide)]
      exact ⟨_, _, rfl, by decide⟩
  | emptyObject isBlank =>
      rw [utf8_cons_of_ascii (by decide)]
      exact ⟨_, _, rfl, by decide⟩
  | object isBlank entries =>
      rw [utf8_cons_of_ascii (by decide)]
      exact ⟨_, _, rfl, by decide⟩

theorem starts_of_items
    {text : WxString}
    {items : List Tree}
    (entries : Items hexDigit? escapable text items) :
    Starts (utf8 text) := by
  cases entries with
  | last value isBlank =>
      rw [utf8_append]
      exact (starts_of_value value).append _
  | more value _ _ _ =>
      rw [utf8_append]
      exact (starts_of_value value).append _

theorem starts_of_members
    {text : WxString}
    {members : List (WxString × Tree)}
    (entries : Members hexDigit? escapable text members) :
    Starts (utf8 text) := by
  cases entries
  all_goals
    rw [utf8_cons_of_ascii (by decide)]
    exact ⟨_, _, rfl, by decide⟩

end Grammar

/-! ## Every text is read -/

section Steps

variable {platform : Platform} {fuel : Nat} {text rest : List UInt8}

theorem parseValue_null :
    parseValue platform (fuel + 1) (utf8 ['n', 'u', 'l', 'l'] ++ rest) =
      .ok (some .null, rest) := by
  have found : startsWith "null".toList
      (byte 'n' :: byte 'u' :: byte 'l' :: byte 'l' :: rest) = true :=
    startsWith_append rest "null".toList
  show parseValue platform (fuel + 1)
    (byte 'n' :: byte 'u' :: byte 'l' :: byte 'l' :: rest) = _
  rw [parseValue, if_pos found]
  rfl

theorem parseValue_false :
    parseValue platform (fuel + 1) (utf8 ['f', 'a', 'l', 's', 'e'] ++ rest) =
      .ok (some (.bool false), rest) := by
  have n : startsWith "null".toList
      (byte 'f' :: byte 'a' :: byte 'l' :: byte 's' :: byte 'e' :: rest) =
        false :=
    startsWith_cons (by decide) (by decide)
  have found : startsWith "false".toList
      (byte 'f' :: byte 'a' :: byte 'l' :: byte 's' :: byte 'e' :: rest) =
        true :=
    startsWith_append rest "false".toList
  show parseValue platform (fuel + 1)
    (byte 'f' :: byte 'a' :: byte 'l' :: byte 's' :: byte 'e' :: rest) = _
  rw [parseValue, n, if_neg Bool.false_ne_true, if_pos found]
  rfl

theorem parseValue_true :
    parseValue platform (fuel + 1) (utf8 ['t', 'r', 'u', 'e'] ++ rest) =
      .ok (some (.bool true), rest) := by
  have n : startsWith "null".toList
      (byte 't' :: byte 'r' :: byte 'u' :: byte 'e' :: rest) = false :=
    startsWith_cons (by decide) (by decide)
  have f : startsWith "false".toList
      (byte 't' :: byte 'r' :: byte 'u' :: byte 'e' :: rest) = false :=
    startsWith_cons (by decide) (by decide)
  have found : startsWith "true".toList
      (byte 't' :: byte 'r' :: byte 'u' :: byte 'e' :: rest) = true :=
    startsWith_append rest "true".toList
  show parseValue platform (fuel + 1)
    (byte 't' :: byte 'r' :: byte 'u' :: byte 'e' :: rest) = _
  rw [parseValue, n, if_neg Bool.false_ne_true, f, if_neg Bool.false_ne_true,
    if_pos found]
  rfl

/-- Behind blanks the text goes on with a byte of the grammar. -/
theorem skip_blank_cons
    {blank : WxString}
    {code : UInt8}
    (isBlank : Blank blank)
    (printable : byte ' ' < code) :
    skip (utf8 blank ++ code :: rest) = code :: rest := by
  rw [skip_blank isBlank, skip_cons printable]

section Entries

variable {blank : WxString} {item : Option Json} {next : List UInt8}

theorem parseItems_last
    (parsed :
      parseValue platform fuel (skip text) =
        .ok (item, utf8 blank ++ byte ']' :: rest))
    (isBlank : Blank blank) :
    parseItems platform (fuel + 1) text =
      .ok (linked item (some []), rest) := by
  have closing := @skip_blank_cons rest _ (byte ']') isBlank (by decide)
  simp only [parseItems, parsed, bind, Except.bind, closing]
  rfl

theorem parseItems_more
    {items : Option (List Json)}
    (parsed :
      parseValue platform fuel (skip text) =
        .ok (item, utf8 blank ++ byte ',' :: next))
    (isBlank : Blank blank)
    (others : parseItems platform fuel (skip next) = .ok (items, rest)) :
    parseItems platform (fuel + 1) text =
      .ok (linked item items, rest) := by
  have comma := @skip_blank_cons next _ (byte ',') isBlank (by decide)
  simp only [parseItems, parsed, bind, Except.bind, comma, if_true, others]

/-- A member begins with its name. -/
theorem parseString_skip
    {quoted str : WxString}
    (named : Quoted hexDigit? Readable quoted str)
    (rest : List UInt8) :
    parseString (skip (byte '"' :: (utf8 quoted ++ rest))) =
      .ok (utf8 str, rest) := by
  rw [skip_cons (by decide), parseString_of_quoted named]

variable {before : WxString} {name value : List UInt8}

theorem parseMembers_last
    (named :
      parseString (skip text) = .ok (name, utf8 before ++ byte ':' :: value))
    (beforeBlank : Blank before)
    (parsed :
      parseValue platform fuel (skip value) =
        .ok (item, utf8 blank ++ byte '}' :: rest))
    (isBlank : Blank blank) :
    parseMembers platform (fuel + 1) text =
      .ok (linked (item.map (platform.decode name, ·)) (some []), rest) := by
  have colon := @skip_blank_cons value _ (byte ':') beforeBlank (by decide)
  have closing := @skip_blank_cons rest _ (byte '}') isBlank (by decide)
  simp only [parseMembers, named, bind, Except.bind, colon, ne_eq,
    not_true_eq_false, if_false, parsed, closing]
  rfl

theorem parseMembers_more
    {members : Option (List (WxString × Json))}
    (named :
      parseString (skip text) = .ok (name, utf8 before ++ byte ':' :: value))
    (beforeBlank : Blank before)
    (parsed :
      parseValue platform fuel (skip value) =
        .ok (item, utf8 blank ++ byte ',' :: next))
    (isBlank : Blank blank)
    (others : parseMembers platform fuel (skip next) = .ok (members, rest)) :
    parseMembers platform (fuel + 1) text =
      .ok (linked (item.map (platform.decode name, ·)) members, rest) := by
  have colon := @skip_blank_cons value _ (byte ':') beforeBlank (by decide)
  have comma := @skip_blank_cons next _ (byte ',') isBlank (by decide)
  simp only [parseMembers, named, bind, Except.bind, colon, ne_eq,
    not_true_eq_false, if_false, parsed, comma, if_true, others]

end Entries

end Steps

section Reading

variable (platform : Platform)

mutual

theorem parseValue_of_value
    {text : WxString}
    {tree : Tree}
    {fuel : Nat}
    {rest : List UInt8}
    (value : Value hexDigit? Readable text tree)
    (enough : 2 * (utf8 text).length + 1 ≤ fuel)
    (ends : Ends rest) :
    parseValue platform fuel (utf8 text ++ rest) =
      .ok (meaning platform tree, rest) := by
  rcases Nat.exists_eq_add_of_le' (Nat.le_of_add_left_le enough) with
    ⟨fuel, rfl⟩
  cases value with
  | null => exact parseValue_null
  | false => exact parseValue_false
  | true => exact parseValue_true
  | number literal =>
      rcases exists_literal_head literal with ⟨code, others, shape, numeric⟩
      have read := @parseNumber_append platform.doubles _ literal ends
      rw [shape, List.cons_append] at read ⊢
      rw [parseValue_number numeric, read]
      rfl
  | string quoted =>
      rw [utf8_cons_of_ascii (by decide), List.cons_append, parseValue_string,
        parseString_of_quoted quoted]
      rfl
  | @emptyArray blank isBlank =>
      have closing :
          skip (utf8 (blank ++ [']']) ++ rest) = byte ']' :: rest := by
        rw [utf8_append, List.append_assoc]
        exact skip_blank_cons isBlank (by decide)
      rw [utf8_cons_of_ascii (by decide), List.cons_append, parseValue_array,
        closing]
      rfl
  | @array blank text items isBlank entries =>
      have starts := (starts_of_items entries).append rest
      have opened :
          skip (utf8 (blank ++ text) ++ rest) = utf8 text ++ rest := by
        rw [utf8_append, List.append_assoc, skip_blank isBlank, starts.skip]
      rw [utf8_cons_of_ascii (by decide), utf8_append, List.length_cons,
        List.length_append] at enough
      have parsed :=
        @parseItems_of_items _ _ _ rest entries
          (show 2 * (utf8 text).length + 2 ≤ fuel by omega)
      rw [utf8_cons_of_ascii (by decide), List.cons_append, parseValue_array,
        opened, if_neg starts.not_closed.1, parsed]
      rfl
  | @emptyObject blank isBlank =>
      have closing :
          skip (utf8 (blank ++ ['}']) ++ rest) = byte '}' :: rest := by
        rw [utf8_append, List.append_assoc]
        exact skip_blank_cons isBlank (by decide)
      rw [utf8_cons_of_ascii (by decide), List.cons_append, parseValue_object,
        closing]
      rfl
  | @object blank text members isBlank entries =>
      have starts := (starts_of_members entries).append rest
      have opened :
          skip (utf8 (blank ++ text) ++ rest) = utf8 text ++ rest := by
        rw [utf8_append, List.append_assoc, skip_blank isBlank, starts.skip]
      rw [utf8_cons_of_ascii (by decide), utf8_append, List.length_cons,
        List.length_append] at enough
      have parsed :=
        @parseMembers_of_members _ _ _ rest entries
          (show 2 * (utf8 text).length + 2 ≤ fuel by omega)
      rw [utf8_cons_of_ascii (by decide), List.cons_append, parseValue_object,
        opened, if_neg starts.not_closed.2, parsed]
      rfl

theorem parseItems_of_items
    {text : WxString}
    {items : List Tree}
    {fuel : Nat}
    {rest : List UInt8}
    (entries : Items hexDigit? Readable text items)
    (enough : 2 * (utf8 text).length + 2 ≤ fuel) :
    parseItems platform fuel (utf8 text ++ rest) =
      .ok (meaningItems platform items, rest) := by
  rcases Nat.exists_eq_add_of_le' (Nat.le_of_add_left_le
    (Nat.le_of_succ_le enough)) with ⟨fuel, rfl⟩
  cases entries with
  | @last text blank item value isBlank =>
      rw [utf8_append, List.length_append] at enough
      have parsed :=
        parseValue_of_value value
          (show 2 * (utf8 text).length + 1 ≤ fuel by omega)
          (ends_blank isBlank
            (ends_cons (byte ']') rest (by decide)))
      refine parseItems_last ?_ isBlank
      rw [utf8_append, utf8_append, List.append_assoc, List.append_assoc,
        ((starts_of_value value).append _).skip]
      exact parsed
  | @more text before after next item items value beforeBlank afterBlank
      entries =>
      have starts := (starts_of_items entries).append rest
      simp only [utf8_append, @utf8_cons_of_ascii ',' (by decide),
        List.length_append, List.length_cons] at enough
      have parsed :=
        parseValue_of_value value
          (show 2 * (utf8 text).length + 1 ≤ fuel by omega)
          (ends_blank beforeBlank
            (ends_cons (byte ',') (utf8 (after ++ next) ++ rest) (by decide)))
      have others :=
        @parseItems_of_items _ _ _ rest entries
          (show 2 * (utf8 next).length + 2 ≤ fuel by omega)
      have opened :
          skip (utf8 (after ++ next) ++ rest) = utf8 next ++ rest := by
        rw [utf8_append, List.append_assoc, skip_blank afterBlank, starts.skip]
      refine @parseItems_more _ _ _ _ _ _ (utf8 (after ++ next) ++ rest) _ ?_
        beforeBlank ?_
      · rw [utf8_append, utf8_append, List.append_assoc, List.append_assoc,
          ((starts_of_value value).append _).skip,
          utf8_cons_of_ascii (by decide)]
        exact parsed
      · rw [opened]
        exact others

theorem parseMembers_of_members
    {text : WxString}
    {members : List (WxString × Tree)}
    {fuel : Nat}
    {rest : List UInt8}
    (entries : Members hexDigit? Readable text members)
    (enough : 2 * (utf8 text).length + 2 ≤ fuel) :
    parseMembers platform fuel (utf8 text ++ rest) =
      .ok (meaningMembers platform members, rest) := by
  rcases Nat.exists_eq_add_of_le' (Nat.le_of_add_left_le
    (Nat.le_of_succ_le enough)) with ⟨fuel, rfl⟩
  cases entries with
  | @last quoted name text before after blank item named beforeBlank
      afterBlank value isBlank =>
      have shape :
          utf8 ('"' :: (quoted ++ (before ++ ':' :: (after ++
              (text ++ (blank ++ ['}'])))))) ++ rest =
            byte '"' :: (utf8 quoted ++ (utf8 before ++ byte ':' ::
              (utf8 after ++ (utf8 text ++
                (utf8 blank ++ byte '}' :: rest))))) := by
        simp only [utf8_append, @utf8_cons_of_ascii '"' (by decide),
          @utf8_cons_of_ascii ':' (by decide),
          @utf8_cons_of_ascii '}' (by decide), utf8_nil,
          List.cons_append, List.append_assoc, List.nil_append]
      have bound := congrArg List.length shape
      simp only [List.length_append, List.length_cons] at bound
      have parsed :=
        parseValue_of_value value
          (show 2 * (utf8 text).length + 1 ≤ fuel by omega)
          (ends_blank isBlank
            (ends_cons (byte '}') rest (by decide)))
      rw [← skip_starts afterBlank (starts_of_value value)] at parsed
      rw [shape]
      exact parseMembers_last (parseString_skip named _) beforeBlank parsed
        isBlank
  | @more quoted name text before after blank next others item members named
      beforeBlank afterBlank value isBlank nextBlank entries =>
      have shape :
          utf8 ('"' :: (quoted ++ (before ++ ':' :: (after ++
              (text ++ (blank ++ ',' :: (next ++ others))))))) ++ rest =
            byte '"' :: (utf8 quoted ++ (utf8 before ++ byte ':' ::
              (utf8 after ++ (utf8 text ++
                (utf8 blank ++ byte ',' ::
                  (utf8 next ++ (utf8 others ++ rest))))))) := by
        simp only [utf8_append, @utf8_cons_of_ascii '"' (by decide),
          @utf8_cons_of_ascii ':' (by decide),
          @utf8_cons_of_ascii ',' (by decide), List.cons_append,
          List.append_assoc]
      have bound := congrArg List.length shape
      simp only [List.length_append, List.length_cons] at bound
      have parsed :=
        parseValue_of_value value
          (show 2 * (utf8 text).length + 1 ≤ fuel by omega)
          (ends_blank isBlank
            (ends_cons (byte ',') (utf8 next ++ (utf8 others ++ rest))
              (by decide)))
      have later :=
        @parseMembers_of_members _ _ _ rest entries
          (show 2 * (utf8 others).length + 2 ≤ fuel by omega)
      rw [← skip_starts afterBlank (starts_of_value value)] at parsed
      rw [← skip_starts nextBlank (starts_of_members entries)] at later
      rw [shape]
      exact parseMembers_more (parseString_skip named _) beforeBlank parsed
        isBlank later

end

/--
`cJSON_Parse` reads every JSON text whose escapes are readable, without
leaving its buffers.  If each number comes to a finite `double`, it returns
the tree the text stands for.
-/
theorem cJSONParse_of_text
    {text : WxString}
    {tree : Tree}
    (json : Text hexDigit? Readable text tree) :
    cJSONParse platform (utf8 text) = held (meaning platform tree) := by
  rcases json with ⟨beforeBlank, value, afterBlank⟩
  rename_i before text after
  have ends : Ends (utf8 after ++ []) := ends_blank afterBlank nofun
  have whole : utf8 (before ++ (text ++ after)) =
      utf8 before ++ (utf8 text ++ (utf8 after ++ [])) := by
    rw [utf8_append, utf8_append, List.append_nil]
  have bound := congrArg List.length whole
  simp only [List.length_append] at bound
  have parsed := parseValue_of_value platform value
    (show 2 * (utf8 text).length + 1 ≤
      2 * (utf8 (before ++ (text ++ after))).length + 1 by omega) ends
  rw [cJSONParse]
  rw [show skip (utf8 (before ++ (text ++ after))) =
    utf8 text ++ (utf8 after ++ []) by
      rw [whole, skip_blank beforeBlank,
        ((starts_of_value value).append _).skip], parsed]
  rfl

end Reading

/-- A platform that takes a byte for a character. -/
def bytePlatform : Platform where
  encode str := str.map byte
  decode bytes := bytes.map charOf
  doubles := exactDoubles

/-- The number `-1.5E1`. -/
def fifteenBelow : Literal where
  negative := true
  whole := ['1']
  fraction := ['5']
  exponent := some
    { mark := 'E'
      sign := none
      digits := ['1']
      marked := .inr rfl
      signed := nofun
      decimal := List.all_eq_true.mp rfl
      nonempty := List.cons_ne_nil '1' [] }
  wholeDecimal := List.all_eq_true.mp rfl
  fractionDecimal := List.all_eq_true.mp rfl
  nonempty := List.cons_ne_nil '1' []
  leading := by decide

/-- An array of a number and of a text with an escaped accent. -/
theorem text_accent :
    Text hexDigit? Readable "[ -1.5E1 ,\"\\u00e9\"]".toList
      (.array [.number fifteenBelow, .string ['é']]) := by
  have accent : Quoted hexDigit? Readable "\\u00e9\"".toList ['é'] :=
    @Quoted.code hexDigit? Readable ['0', '0', 'e', '9'] 'é' ['"'] []
      ⟨rfl, List.all_eq_true.mp rfl, rfl⟩ (by decide) .done
  have space : Blank [' '] := by
    simp [Blank]
  have entries : Items hexDigit? Readable "-1.5E1 ,\"\\u00e9\"]".toList
      [.number fifteenBelow, .string ['é']] :=
    .more (.number fifteenBelow) space blank_nil
      (.last (.string accent) blank_nil)
  exact .mk blank_nil (.array space entries) blank_nil

theorem cJSONParse_of_text_accent :
    cJSONParse bytePlatform (utf8 "[ -1.5E1 ,\"\\u00e9\"]".toList) =
      .ok (.array [.number (-15), .string ['Ã', '©']]) := by
  have value : literalValue exactDoubles fifteenBelow = some (-15) := by
    decide +kernel
  have tree : meaning bytePlatform
      (.array [.number fifteenBelow, .string ['é']]) =
        some (.array [.number (-15), .string ['Ã', '©']]) := by
    rw [meaning, meaningItems, meaning,
      show bytePlatform.doubles = exactDoubles from rfl, value]
    rfl
  exact (cJSONParse_of_text bytePlatform text_accent).trans
    (congrArg held tree)

/-! ## Texts of wide characters -/

/-- The platform converts texts from and to UTF-8. -/
structure Utf8Locale (platform : Platform) : Prop where
  encodes : ∀ str, '\x00' ∉ str → platform.encode str = utf8 str
  decodes : ∀ str, '\x00' ∉ str → platform.decode (utf8 str) = str

mutual

/-- The tree a text stands for, if its numbers come to finite `double`s. -/
def toJson (doubles : Doubles) : Tree → Option Json
  | .null => some .null
  | .bool value => some (.bool value)
  | .number literal => (literalValue doubles literal).map .number
  | .string value => some (.string value)
  | .array items => (toItems doubles items).map .array
  | .object members => (toMembers doubles members).map .object

def toItems (doubles : Doubles) : List Tree → Option (List Json)
  | [] => some []
  | item :: items => linked (toJson doubles item) (toItems doubles items)

def toMembers (doubles : Doubles) :
    List (WxString × Tree) → Option (List (WxString × Json))
  | [] => some []
  | (name, item) :: members =>
      linked ((toJson doubles item).map (name, ·)) (toMembers doubles members)

end

/-- A readable text stands for characters other than NUL. -/
theorem nul_not_mem_of_quoted
    {text str : WxString}
    (quoted : Quoted hexDigit? Readable text str) : '\x00' ∉ str := by
  induction quoted with
  | done => exact List.not_mem_nil
  | plain printable _ _ _ inductionHypothesis =>
      rw [List.mem_cons, not_or]
      refine ⟨?_, inductionHypothesis⟩
      rintro rfl
      exact absurd printable (by decide)
  | short coded _ inductionHypothesis =>
      have codes : ∀ pair ∈ shortCodes, '\x00' ≠ pair.2 := by
        simp [shortCodes]
      rw [List.mem_cons, not_or]
      exact ⟨codes _ coded, inductionHypothesis⟩
  | code _ allowed _ inductionHypothesis =>
      rw [List.mem_cons, not_or]
      exact ⟨Ne.symm allowed.1, inductionHypothesis⟩
  | pair _ _ _ allowed _ inductionHypothesis =>
      rw [List.mem_cons, not_or]
      exact ⟨Ne.symm allowed.1, inductionHypothesis⟩

section Locale

variable {platform : Platform}

theorem decode_of_quoted
    (locale : Utf8Locale platform)
    {text str : WxString}
    (quoted : Quoted hexDigit? Readable text str) :
    platform.decode (utf8 str) = str :=
  locale.decodes str (nul_not_mem_of_quoted quoted)

mutual

theorem meaning_of_value
    (locale : Utf8Locale platform)
    {text : WxString}
    {tree : Tree}
    (value : Value hexDigit? Readable text tree) :
    meaning platform tree = toJson platform.doubles tree := by
  cases value with
  | null => rfl
  | false => rfl
  | true => rfl
  | number literal => rfl
  | string quoted =>
      exact congrArg (some <| Json.string ·) (decode_of_quoted locale quoted)
  | emptyArray isBlank => rfl
  | array isBlank entries =>
      exact congrArg (Option.map Json.array) (meaning_of_items locale entries)
  | emptyObject isBlank => rfl
  | object isBlank entries =>
      exact congrArg (Option.map Json.object)
        (meaning_of_members locale entries)

theorem meaning_of_items
    (locale : Utf8Locale platform)
    {text : WxString}
    {items : List Tree}
    (entries : Items hexDigit? Readable text items) :
    meaningItems platform items = toItems platform.doubles items := by
  cases entries with
  | last value isBlank =>
      rw [meaningItems, toItems, meaning_of_value locale value]
      rfl
  | more value _ _ entries =>
      rw [meaningItems, toItems, meaning_of_value locale value,
        meaning_of_items locale entries]

theorem meaning_of_members
    (locale : Utf8Locale platform)
    {text : WxString}
    {members : List (WxString × Tree)}
    (entries : Members hexDigit? Readable text members) :
    meaningMembers platform members =
      toMembers platform.doubles members := by
  cases entries with
  | last named _ _ value _ =>
      rw [meaningMembers, toMembers, decode_of_quoted locale named,
        meaning_of_value locale value]
      rfl
  | more named _ _ value _ _ entries =>
      rw [meaningMembers, toMembers, decode_of_quoted locale named,
        meaning_of_value locale value, meaning_of_members locale entries]

end

/--
`Json::Parse` returns the tree of every JSON text whose escapes are readable
and whose numbers come to finite `double`s, whatever blanks it has and however
it writes its characters.
-/
theorem parse_of_text
    (locale : Utf8Locale platform)
    {text : WxString}
    {tree : Tree}
    (json : Text hexDigit? Readable text tree) :
    parse platform text = toJson platform.doubles tree := by
  have noNul : '\x00' ∉ text := json.nul_not_mem rfl
  have whole : (utf8 text).takeWhile (· ≠ 0) = utf8 text := by
    refine List.takeWhile_eq_self_iff.mpr fun code member => ?_
    rw [decide_eq_true_eq]
    rintro rfl
    exact zero_not_mem_utf8 noNul member
  have parsed := cJSONParse_of_text platform json
  rcases json with ⟨_, value, _⟩
  rw [parse, parseText, locale.encodes _ noNul, whole, parsed,
    meaning_of_value locale value]
  cases toJson platform.doubles tree with
  | none => rfl
  | some json => rfl

end Locale

end DebuggerDap.Protocol.JsonReading
