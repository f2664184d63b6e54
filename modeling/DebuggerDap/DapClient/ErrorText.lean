import DebuggerDap.DapClient.OnMessage
import DebuggerDap.Protocol.JsonText
import DebuggerDap.Protocol.LengthArithmetic

/-!
# The error text of an event

`SendDAPEvent` does not look the error up in the tree.  It prints the tree
and searches the text for `"error":{"format":`, and it takes what stands
between these characters and the next quote before a comma.  So it finds the
format only where it is the first member of the error object, and it finds
the end only where another member follows.
-/

namespace DebuggerDap.DapClient.ErrorText

open DebuggerDap.Text.Strings
open DebuggerDap.Text.Numbers
open DebuggerDap.Library.MachineInt
open DebuggerDap.Protocol.JsonTree
open DebuggerDap.Protocol.Messages
open DebuggerDap.Protocol.JsonText
open DebuggerDap.Protocol.LengthArithmetic (intRange)
open DebuggerDap.DapClient.State
open DebuggerDap.DapClient.OnMessage

/-- The members of an object, in their order. -/
abbrev Members := List (WxString × Json)

/-! ## What the search finds -/

/-- A name is taken for `error` where it ends in it behind a quote. -/
def EndsInError (name : WxString) : Prop :=
  "\"error".toList <:+ '"' :: name

instance (name : WxString) : Decidable (EndsInError name) :=
  inferInstanceAs (Decidable (_ <:+ _))

/-- The first member of an error object, if it is the format. -/
def formatAt (name : WxString) : Json → Option (Json × Members)
  | .object ((first, format) :: more) =>
      if EndsInError name ∧ first = "format".toList then some (format, more)
      else none
  | _ => none

mutual

/--
The format behind the mark, in the order of the text, and the members that
follow it.
-/
def errorFormat : Json → Option (Json × Members)
  | .array items => formatOfItems items
  | .object members => formatOfMembers members
  | _ => none

def formatOfItems : List Json → Option (Json × Members)
  | [] => none
  | item :: items => (errorFormat item).or (formatOfItems items)

def formatOfMembers : Members → Option (Json × Members)
  | [] => none
  | (name, value) :: members =>
      ((formatAt name value).or (errorFormat value)).or
        (formatOfMembers members)

end

/-! ## The texts of numbers -/

/-- What the C library prints for a number. -/
def NumberText (text : WxString) : Prop :=
  ∀ ch ∈ text, ch.isAlphanum = true ∨ ch ∈ ['.', ',', '+', '-']

instance (text : WxString) : Decidable (NumberText text) :=
  List.decidableBAll
    (fun ch : Char => ch.isAlphanum = true ∨ ch ∈ ['.', ',', '+', '-']) text

/-- What may stand behind a value. -/
def Closed (rest : WxString) : Prop :=
  ∀ ch ∈ rest.head?, ch ∈ [',', ']', '}']

theorem Closed.of_head
    {rest : WxString}
    {close : Char}
    {last : Prop}
    [Decidable last]
    (head : rest.head? = some (if last then close else ','))
    (closing : close ∈ [',', ']', '}']) :
    Closed rest := by
  intro ch isHead
  rw [head, Option.mem_some_iff] at isHead
  subst isHead
  split
  · exact closing
  · decide

/-! ## The mark in a quoted text -/

/-- The part of the mark behind the name. -/
def formatTail : WxString :=
  ":\x7b\"format\":".toList

theorem behind_errorMark_skip
    (skipped : WxString)
    (absent : '"' ∉ skipped)
    (str : WxString) :
    behind errorMark (skipped ++ str) = behind errorMark str :=
  @behind_skip '"' "error\":\x7b\"format\":".toList skipped absent str

theorem errorMark_prefix_iff (name rest : WxString) :
    errorMark <+: '"' :: (name.flatMap escape ++ '"' :: rest) ↔
      name = "error".toList ∧ formatTail <+: rest := by
  have shape : ∀ more, errorMark ++ more =
      '"' :: ("error".toList.flatMap escape ++ '"' :: (formatTail ++ more)) :=
    fun _ => rfl
  constructor
  · rintro ⟨more, whole⟩
    rw [shape] at whole
    rcases quoted_inj (List.cons.inj whole).2 with ⟨rfl, tail⟩
    exact ⟨rfl, more, tail⟩
  · rintro ⟨rfl, more, rfl⟩
    exact ⟨more, shape more⟩

theorem behind_quote (name rest : WxString) :
    behind errorMark ('"' :: (name.flatMap escape ++ '"' :: rest)) =
      if name = "error".toList ∧ formatTail <+: rest then some (rest.drop 11)
      else behind errorMark (name.flatMap escape ++ '"' :: rest) := by
  rw [behind]
  simp only [errorMark_prefix_iff]
  split
  · next here =>
      rw [here.1]
      rfl
  · rfl

theorem endsInError_iff (name : WxString) :
    EndsInError name ↔
      name = "error".toList ∨ "\"error".toList <:+ name := by
  rw [EndsInError, List.suffix_cons_iff]
  exact or_congr_left ⟨fun same => (List.cons.inj same).2.symm,
    fun same => by rw [same]; rfl⟩

/-- With its opening quote a text has one more place for the mark. -/
theorem behind_quote_of
    {name rest : WxString}
    (escapes : behind errorMark (name.flatMap escape ++ '"' :: rest) =
      if "\"error".toList <:+ name ∧ formatTail <+: rest then
        some (rest.drop 11)
      else behind errorMark rest) :
    behind errorMark ('"' :: (name.flatMap escape ++ '"' :: rest)) =
      if EndsInError name ∧ formatTail <+: rest then some (rest.drop 11)
      else behind errorMark rest := by
  rw [behind_quote, escapes]
  simp only [endsInError_iff]
  by_cases here : name = "error".toList ∧ formatTail <+: rest
  · rw [if_pos here, if_pos ⟨.inl here.1, here.2⟩]
  · rw [if_neg here]
    apply if_congr _ rfl rfl
    rw [or_and_right, or_iff_right here]

/-- Behind the opening quote the mark begins at a quote of the text. -/
theorem behind_escapes
    (name : WxString)
    {rest : WxString}
    (apart : rest.head? ≠ some 'e') :
    behind errorMark (name.flatMap escape ++ '"' :: rest) =
      if "\"error".toList <:+ name ∧ formatTail <+: rest then
        some (rest.drop 11)
      else behind errorMark rest := by
  induction name with
  | nil =>
      have notHere : ¬ errorMark <+: '"' :: rest := by
        rintro ⟨more, whole⟩
        apply apart
        rw [← (List.cons.inj whole).2]
        rfl
      have notEmpty : ¬ "\"error".toList <:+ [] := by decide
      rw [List.flatMap_nil, List.nil_append,
        behind_cons_of_not_prefix notHere, if_neg fun both => notEmpty both.1]
  | cons ch name inductionHypothesis =>
      rw [List.flatMap_cons, List.append_assoc]
      by_cases quote : ch = '"'
      · subst quote
        have backslash := behind_errorMark_skip ['\\'] (by decide)
          ('"' :: (name.flatMap escape ++ '"' :: rest))
        exact backslash.trans (behind_quote_of inductionHypothesis)
      · have ends : "\"error".toList <:+ ch :: name ↔
            "\"error".toList <:+ name := by
          rw [List.suffix_cons_iff]
          exact or_iff_right fun same =>
            quote (List.cons.inj same).1.symm
        rw [behind_errorMark_skip (escape ch) (quote_not_mem_escape quote),
          inductionHypothesis]
        simp only [ends]

/-- In a quoted text the mark is found where it is a name for `error`. -/
theorem behind_printString
    (name : WxString)
    {rest : WxString}
    (apart : rest.head? ≠ some 'e') :
    behind errorMark (printString name ++ rest) =
      if EndsInError name ∧ formatTail <+: rest then some (rest.drop 11)
      else behind errorMark rest := by
  rw [printString, List.cons_append, List.cons_append, List.append_assoc]
  exact behind_quote_of (behind_escapes name apart)

section Printed

variable
  (int : SignedRange)
  (printDouble : Rat → WxString)
  (depth : Nat)
  (rest : WxString)

/-- What follows the first of the texts between separators. -/
theorem exists_following
    (close : Char)
    (first : WxString)
    (others : List WxString) :
    ∃ following,
      [','].intercalate (first :: others) ++ close :: rest =
          first ++ following ∧
        following.head? = some (if others = [] then close else ',') ∧
        behind errorMark following =
          behind errorMark ([','].intercalate others ++ close :: rest) := by
  cases others with
  | nil =>
      exact ⟨close :: rest, by rw [List.intercalate_singleton], rfl,
        by rw [List.intercalate_nil, List.nil_append]⟩
  | cons second others =>
      refine ⟨',' :: ([','].intercalate (second :: others) ++ close :: rest),
        ?_, rfl, ?_⟩
      · rw [List.intercalate_cons_cons]
        simp only [List.append_assoc, List.cons_append, List.nil_append]
      · exact behind_errorMark_skip [','] (by decide) _

/-- The text of an object with a first member, after its brace. -/
theorem exists_behind_first
    (name : WxString)
    (value : Json)
    (more : Members) :
    ∃ text,
      printValue int printDouble false depth
          (.object ((name, value) :: more)) ++ rest =
        '{' :: (printString name ++
          ':' :: (printValue int printDouble false (depth + 1) value ++ text)) ∧
      text.head? = some (if more = [] then '}' else ',') := by
  rcases exists_following rest '}'
    (printString name ++
      ':' :: printValue int printDouble false (depth + 1) value)
    (printMembers int printDouble false (depth + 1) more) with
    ⟨text, whole, head, -⟩
  refine ⟨text, ?_, ?_⟩
  · rw [printValue_object, printMembers_cons, List.cons_append, List.append_assoc,
      List.cons_append, List.nil_append, whole, List.append_assoc,
      List.cons_append]
  · rw [head]
    cases more with
    | nil => rfl
    | cons member more => rfl

/-- What the search gives, against what it gives without the part it is in. -/
def Found
    (found : Option (Json × Members))
    (result otherwise : Option WxString) : Prop :=
  match found with
  | none => result = otherwise
  | some (format, more) =>
      ∃ depth text,
        result =
            some (printValue int printDouble false depth format ++ text) ∧
          text.head? = some (if more = [] then '}' else ',')

end Printed

theorem Found.or
    {int : SignedRange}
    {printDouble : Rat → WxString}
    {first second : Option (Json × Members)}
    {result middle otherwise : Option WxString}
    (here : Found int printDouble first result middle)
    (later : Found int printDouble second middle otherwise) :
    Found int printDouble (first.or second) result otherwise := by
  cases first with
  | none =>
      rw [Found] at here
      rw [here, Option.none_or]
      exact later
  | some found => exact here

/-! ## The mark in a tree -/

section Search

variable
  {int : SignedRange}
  {printDouble : Rat → WxString}
  (doubles : ∀ value, NumberText (printDouble value))

include doubles

theorem numberText_printNumber (value : Rat) :
    NumberText (printNumber int printDouble value) := by
  rw [printNumber]
  split
  · intro ch member
    rcases digit_of_mem_toString _ member with digit | minus
    · exact .inl (Bool.or_eq_true_iff.mpr (.inr digit))
    · exact .inr (by simp [minus])
  · exact doubles value

theorem quote_not_mem_printNumber (value : Rat) :
    '"' ∉ printNumber int printDouble value := fun quote =>
  absurd (numberText_printNumber doubles value '"' quote) (by decide)

/-- A number and what closes it begin with none of these. -/
theorem head_printNumber
    (value : Rat)
    {rest : WxString}
    (closed : Closed rest) :
    ∀ ch ∈ (printNumber int printDouble value ++ rest).head?,
      ch ∉ ['"', '{', '\n'] := by
  intro ch isHead
  cases number : printNumber int printDouble value with
  | nil =>
      have apart : ∀ special ∈ ['"', '{', '\n'], special ∉ [',', ']', '}'] := by
        simp
      rw [number, List.nil_append] at isHead
      exact fun special => apart ch special (closed ch isHead)
  | cons first more =>
      have apart : ∀ special ∈ ['"', '{', '\n'],
          ¬ (special.isAlphanum = true ∨ special ∈ ['.', ',', '+', '-']) := by
        simp
      rw [number, List.cons_append, List.head?_cons,
        Option.mem_some_iff] at isHead
      subst isHead
      exact fun special => apart first special
        (numberText_printNumber doubles value first
          (number ▸ List.mem_cons_self))

/-- What a value is shows at the first character of its text. -/
theorem head_printValue
    (depth : Nat)
    (json : Json)
    {rest : WxString}
    (closed : Closed rest) :
    ∀ ch ∈ (printValue int printDouble false depth json ++ rest).head?,
      ch ∉ ['"', '{', '\n'] ∨ ch = '"' ∧ (∃ value, json = .string value) ∨
        ch = '{' ∧ ∃ members, json = .object members := by
  intro ch isHead
  cases json with
  | null =>
      cases isHead
      exact .inl (by decide)
  | bool value =>
      cases value <;> cases isHead <;> exact .inl (by decide)
  | number value =>
      rw [printValue_number] at isHead
      exact .inl (head_printNumber doubles value closed ch isHead)
  | string value =>
      cases isHead
      exact .inr (.inl ⟨rfl, value, rfl⟩)
  | array items =>
      cases isHead
      exact .inl (by decide)
  | object members =>
      cases isHead
      exact .inr (.inr ⟨rfl, members, rfl⟩)

/-- Where the rest of the mark follows a name, its value has the format. -/
theorem exists_of_formatTail_prefix
    (depth : Nat)
    (value : Json)
    {rest : WxString}
    (closed : Closed rest)
    (follows : formatTail <+:
      ':' :: (printValue int printDouble false depth value ++ rest)) :
    ∃ format more, value = .object (("format".toList, format) :: more) := by
  rcases follows with ⟨after, whole⟩
  have brace :
      '{' ∈ (printValue int printDouble false depth value ++ rest).head? := by
    rw [← (List.cons.inj whole).2]
    rfl
  rcases head_printValue doubles depth value closed '{' brace with
    plain | ⟨isQuote, -⟩ | ⟨-, members, rfl⟩
  · exact absurd plain (by decide)
  · exact absurd isQuote (by decide)
  cases members with
  | nil =>
      rw [printValue_object] at whole
      exact absurd (List.cons.inj (List.cons.inj (List.cons.inj whole).2).2).1
        (by decide)
  | cons first more =>
      rcases first with ⟨name, format⟩
      rcases exists_behind_first int printDouble depth rest name format more
        with ⟨text, shape, -⟩
      have inside :
          printString "format".toList ++ ':' :: after =
            printString name ++ ':' ::
              (printValue int printDouble false (depth + 1) format ++
              text) := by
        rw [shape] at whole
        exact (List.cons.inj (List.cons.inj whole).2).2
      rw [(printString_append_inj inside).1]
      exact ⟨format, more, rfl⟩

/-- At a name and its value the mark is found if they are the error. -/
theorem found_formatAt
    (depth : Nat)
    (name : WxString)
    (value : Json)
    {rest : WxString}
    (closed : Closed rest) :
    Found int printDouble (formatAt name value)
      (behind errorMark (printString name ++
        ':' :: (printValue int printDouble false depth value ++ rest)))
      (behind errorMark
        (printValue int printDouble false depth value ++ rest)) := by
  rw [behind_printString name (by simp)]
  cases found : formatAt name value with
  | none =>
      have notHere : ¬ (EndsInError name ∧ formatTail <+:
          ':' :: (printValue int printDouble false depth value ++ rest)) := by
        rintro ⟨ends, follows⟩
        rcases exists_of_formatTail_prefix doubles depth value closed follows
          with ⟨format, more, rfl⟩
        rw [formatAt, if_pos ⟨ends, rfl⟩] at found
        cases found
      rw [if_neg notHere]
      exact behind_errorMark_skip [':'] (by decide) _
  | some place =>
      rcases place with ⟨format, more⟩
      unfold formatAt at found
      split at found
      · next first value more =>
          split at found
          · next named =>
              cases found
              rcases named with ⟨ends, rfl⟩
              rcases exists_behind_first int printDouble depth rest
                "format".toList format more with ⟨text, shape, head⟩
              have follows : ∀ after, formatTail ++ after =
                  ':' :: '{' :: (printString "format".toList ++
                    ':' :: after) :=
                fun _ => rfl
              rw [shape, ← follows, if_pos ⟨ends, List.prefix_append _ _⟩]
              exact ⟨depth + 1, text, congrArg some (List.drop_left' rfl),
                head⟩
          · cases found
      · cases found

end Search

section Trees

variable {int : SignedRange} {printDouble : Rat → WxString}

mutual

theorem found_errorFormat
    (doubles : ∀ value, NumberText (printDouble value))
    (depth : Nat)
    (json : Json)
    {rest : WxString}
    (closed : Closed rest) :
    Found int printDouble (errorFormat json)
      (behind errorMark (printValue int printDouble false depth json ++ rest))
      (behind errorMark rest) := by
  cases json with
  | null => exact behind_errorMark_skip "null".toList (by decide) rest
  | bool value =>
      cases value with
      | false => exact behind_errorMark_skip "false".toList (by decide) rest
      | true => exact behind_errorMark_skip "true".toList (by decide) rest
  | number value =>
      exact behind_errorMark_skip _ (quote_not_mem_printNumber doubles value)
        rest
  | string value =>
      have notHere : ¬ (EndsInError value ∧ formatTail <+: rest) := by
        rintro ⟨-, after, rfl⟩
        exact absurd (closed ':' rfl) (by decide)
      have apart : rest.head? ≠ some 'e' := fun isHead =>
        absurd (closed 'e' isHead) (by decide)
      rw [printValue_string, behind_printString value apart, if_neg notHere]
      exact rfl
  | array items =>
      have inside := found_formatOfItems doubles (depth + 1) items rest
      have opened := behind_errorMark_skip ['['] (by decide)
        ([','].intercalate
          (printItems int printDouble false (depth + 1) items) ++ ']' :: rest)
      rw [← opened] at inside
      rw [errorFormat, printValue_array]
      simpa using inside
  | object members =>
      have inside := found_formatOfMembers doubles (depth + 1) members rest
      have opened := behind_errorMark_skip ['{'] (by decide)
        ([','].intercalate
          (printMembers int printDouble false (depth + 1) members) ++
          '}' :: rest)
      rw [← opened] at inside
      rw [errorFormat, printValue_object]
      simpa using inside

theorem found_formatOfItems
    (doubles : ∀ value, NumberText (printDouble value))
    (depth : Nat)
    (items : List Json)
    (rest : WxString) :
    Found int printDouble (formatOfItems items)
      (behind errorMark ([','].intercalate
        (printItems int printDouble false depth items) ++ ']' :: rest))
      (behind errorMark rest) := by
  cases items with
  | nil => exact behind_errorMark_skip [']'] (by decide) rest
  | cons item items =>
      rcases exists_following rest ']'
        (printValue int printDouble false depth item)
        (printItems int printDouble false depth items) with
        ⟨following, whole, head, skips⟩
      have inItems := found_formatOfItems doubles depth items rest
      rw [← skips] at inItems
      rw [formatOfItems, printItems_cons, whole]
      exact (found_errorFormat doubles depth item
        (.of_head head (by decide))).or inItems

theorem found_formatOfMembers
    (doubles : ∀ value, NumberText (printDouble value))
    (depth : Nat)
    (members : Members)
    (rest : WxString) :
    Found int printDouble (formatOfMembers members)
      (behind errorMark ([','].intercalate
        (printMembers int printDouble false depth members) ++ '}' :: rest))
      (behind errorMark rest) := by
  cases members with
  | nil => exact behind_errorMark_skip ['}'] (by decide) rest
  | cons member members =>
      rcases member with ⟨name, value⟩
      rcases exists_following rest '}'
        (printString name ++
          ':' :: printValue int printDouble false depth value)
        (printMembers int printDouble false depth members) with
        ⟨following, whole, head, skips⟩
      have closed : Closed following := .of_head head (by decide)
      have inMembers := found_formatOfMembers doubles depth members rest
      rw [← skips] at inMembers
      rw [formatOfMembers, printMembers_cons, whole, List.append_assoc,
        List.cons_append]
      exact ((found_formatAt doubles depth name value closed).or
        (found_errorFormat doubles depth value closed)).or inMembers

end

end Trees

/-! ## What is cut out -/

theorem errorEnd_eq : errorEnd = ['"', ','] :=
  rfl

/-- The part of `SendDAPEvent` behind the mark. -/
def cut (rest : WxString) : WxString :=
  match find errorEnd rest with
  | some ending => rest.take (ending + 1)
  | none => beforeFirst rest '\n'

theorem errorText_eq (jsonStr : WxString) :
    errorText jsonStr = ((behind errorMark jsonStr).map cut).getD [] := by
  rw [errorText, behind_eq_find]
  cases find errorMark jsonStr with
  | none => rfl
  | some position => rfl

/-- A quoted text with its closing quote set apart. -/
theorem printString_append (value rest : WxString) :
    printString value ++ rest =
      ('"' :: value.flatMap escape) ++ '"' :: rest := by
  rw [printString, List.append_assoc]
  rfl

/-- The end of a string is found at its quote if a comma is next and first. -/
theorem find_errorEnd_iff (value after : WxString) :
    find errorEnd (printString value ++ ',' :: after) =
        some ('"' :: value.flatMap escape).length ↔
      ¬ ([','] <+: value ∨ errorEnd <:+: value) := by
  rw [printString_append, errorEnd_eq, ← pair_infix_printString_iff]
  exact find_pair_iff '"' ',' ('"' :: value.flatMap escape) after

theorem length_printString (value : WxString) :
    (printString value).length = ('"' :: value.flatMap escape).length + 1 := by
  rw [printString, List.length_append, List.length_singleton]

section Cut

variable
  {int : SignedRange}
  {printDouble : Rat → WxString}
  (doubles : ∀ value, NumberText (printDouble value))
  (depth : Nat)
  {format : Json}
  {text : WxString}

include doubles

/-- A text that begins quoted is the text of a string. -/
theorem string_of_quoted
    {value rest : WxString}
    (closed : Closed text)
    (same : printValue int printDouble false depth format ++ text =
      printString value ++ rest) :
    format = .string value ∧ text = rest := by
  have isQuote :
      '"' ∈ (printValue int printDouble false depth format ++ text).head? := by
    rw [same]
    rfl
  rcases head_printValue doubles depth format closed '"' isQuote with
    plain | ⟨-, other, rfl⟩ | ⟨isBrace, -⟩
  · exact absurd plain (by decide)
  · rw [printValue_string] at same
    rcases printString_append_inj same with ⟨rfl, sameRest⟩
    exact ⟨rfl, sameRest⟩
  · exact absurd isBrace (by decide)

/-- What is cut out is never empty. -/
theorem cut_ne_nil
    (closed : Closed text)
    (nonempty : text ≠ []) :
    cut (printValue int printDouble false depth format ++ text) ≠ [] := by
  have head := @head_printValue int _ doubles depth format text closed
  cases whole : printValue int printDouble false depth format ++ text with
  | nil => exact absurd (List.append_eq_nil_iff.mp whole).2 nonempty
  | cons first rest =>
      have line : first ≠ '\n' := by
        rintro rfl
        rcases head '\n' (by rw [whole]; rfl) with
          plain | ⟨isQuote, -⟩ | ⟨isBrace, -⟩
        · exact absurd plain (by decide)
        · exact absurd isQuote (by decide)
        · exact absurd isBrace (by decide)
      rw [cut]
      split
      · simp
      · rw [beforeFirst, List.takeWhile_cons_of_pos (by simpa using line)]
        simp

/-- Up to its end a string is taken only from its own text and a comma. -/
theorem string_of_take
    (closed : Closed text)
    {value : WxString}
    {ending : Nat}
    (found :
      find errorEnd
          (printValue int printDouble false depth format ++ text) =
        some ending)
    (same :
      (printValue int printDouble false depth format ++ text).take
          (ending + 1) =
        printString value) :
    format = .string value ∧ ',' ∈ text.head? ∧
      ¬ ([','] <+: value ∨ errorEnd <:+: value) := by
  have parts := List.take_append_drop (ending + 1)
    (printValue int printDouble false depth format ++ text)
  rw [same] at parts
  rcases string_of_quoted doubles depth closed parts.symm with ⟨rfl, rest⟩
  rcases prefix_drop_of_find found with ⟨after, here⟩
  have comma : text = ',' :: after := by
    rw [rest, ← List.drop_drop, ← here]
    rfl
  have place : ending = ('"' :: value.flatMap escape).length := by
    have inside := find_length_le found
    have long := congrArg List.length same
    have ends : errorEnd.length = 2 := rfl
    rw [List.length_take, length_printString] at long
    omega
  rw [printValue_string, comma, place] at found
  exact ⟨rfl, by rw [comma]; rfl, (find_errorEnd_iff value after).mp found⟩

/-- Up to the end of the line a string is never taken: more follows it. -/
theorem line_ne_printString
    (closed : Closed text)
    (nonempty : text ≠ [])
    (value : WxString) :
    beforeFirst (printValue int printDouble false depth format ++ text) '\n' ≠
      printString value := by
  intro same
  rw [beforeFirst] at same
  have parts := @List.takeWhile_append_dropWhile _ (· ≠ '\n')
    (printValue int printDouble false depth format ++ text)
  rw [same] at parts
  rcases string_of_quoted doubles depth closed parts.symm with ⟨-, rest⟩
  have line := List.head?_dropWhile_not (· ≠ '\n')
    (printValue int printDouble false depth format ++ text)
  rw [← rest] at line
  cases text with
  | nil => exact nonempty rfl
  | cons first after =>
      have newline : first = '\n' := by simpa using line
      exact absurd (closed first rfl) (by rw [newline]; decide)

/-- A string is cut out if a member follows it and no end comes too early. -/
theorem cut_eq_printString_iff
    {last : Prop}
    [Decidable last]
    (head : text.head? = some (if last then '}' else ','))
    (value : WxString) :
    cut (printValue int printDouble false depth format ++ text) =
        printString value ↔
      format = .string value ∧ ¬ last ∧
        ¬ ([','] <+: value ∨ errorEnd <:+: value) := by
  have closed : Closed text := .of_head head (by decide)
  constructor
  · intro same
    rw [cut] at same
    split at same
    · next ending found =>
        rcases string_of_take doubles depth closed found same with
          ⟨isString, comma, early⟩
        refine ⟨isString, fun isLast => ?_, early⟩
        rw [head, if_pos isLast] at comma
        exact absurd (Option.some.inj comma) (by decide)
    · have nonempty : text ≠ [] := by
        rintro rfl
        cases head
      exact absurd same
        (line_ne_printString doubles depth closed nonempty value)
  · rintro ⟨rfl, more, early⟩
    rw [if_neg more] at head
    cases text with
    | nil => cases head
    | cons first after =>
        rw [List.head?_cons, Option.some.injEq] at head
        subst head
        rw [printValue_string, cut, (find_errorEnd_iff value after).mpr early]
        exact List.take_left' (length_printString value)

end Cut

/-! ## The event -/

/-- The format of the error object in the body of a message. -/
def formatMember (json : Json) : Option Json :=
  Json.child (messageBody json "error".toList) "format".toList

/-- What is to be set on the event: the format as a JSON string, if any. -/
def errorLiteral (json : Json) : WxString :=
  match formatMember json with
  | some (.string value) => printString value
  | _ => []

/--
Either no format is found and there is none, or the one that is found is the
one of the body, another member of the error object follows it, and it has no
comma at the head or behind a quote.
-/
def Cuttable (json : Json) : Prop :=
  match errorFormat json with
  | none => ∀ value, formatMember json ≠ some (.string value)
  | some (format, more) =>
      ∃ value, formatMember json = some (.string value) ∧
        format = .string value ∧ more ≠ [] ∧
          ¬ ([','] <+: value ∨ errorEnd <:+: value)

/-- The toolkit that prints a tree as cJSON does. -/
def printing
    (int : SignedRange)
    (printDouble : Rat → WxString)
    (toolkit : Toolkit) : Toolkit :=
  { toolkit with
    printUnformatted := fun json =>
      toString_ int printDouble false (some json) }

/-- `GetDapErrorMessage` of the plugin. -/
def getDapErrorMessage (event : DapEvent) : WxString :=
  if event.string = [] then [] else event.string

@[simp]
theorem getDapErrorMessage_eq (event : DapEvent) :
    getDapErrorMessage event = event.string := by
  rw [getDapErrorMessage]
  split
  · next empty => exact empty.symm
  · rfl

section Delivery

variable
  {int : SignedRange}
  {printDouble : Rat → WxString}
  (doubles : ∀ value, NumberText (printDouble value))

include doubles

/-- The text of an error is cut out of the tree as it is to be. -/
theorem errorText_eq_literal_iff (json : Json) :
    errorText (toString_ int printDouble false (some json)) =
        errorLiteral json ↔
      Cuttable json := by
  have search := @found_errorFormat int _ doubles 0 json []
    (by simp [Closed])
  rw [List.append_nil] at search
  rw [toString_, errorText_eq, Cuttable, errorLiteral]
  cases found : errorFormat json with
  | none =>
      rw [found, Found] at search
      have nothing : behind errorMark [] = none := rfl
      rw [search, nothing, Option.map_none, Option.getD_none]
      split
      · next value isString =>
          exact iff_of_false (fun empty => by cases empty)
            fun no => no value isString
      · next other => exact iff_of_true rfl other
  | some place =>
      rcases place with ⟨format, more⟩
      rw [found] at search
      rcases search with ⟨depth, text, whole, head⟩
      have closed : Closed text := .of_head head (by decide)
      have nonempty : text ≠ [] := by
        rintro rfl
        cases head
      rw [whole, Option.map_some, Option.getD_some]
      split
      · next value isString =>
          rw [cut_eq_printString_iff doubles depth head]
          constructor
          · rintro ⟨isFormat, more, early⟩
            exact ⟨value, isString, isFormat, more, early⟩
          · rintro ⟨other, isOther, isFormat, more, early⟩
            cases isString.symm.trans isOther
            exact ⟨isFormat, more, early⟩
      · next other =>
          refine iff_of_false (cut_ne_nil doubles depth closed nonempty) ?_
          rintro ⟨value, isString, -⟩
          exact other value isString

/-- The string set on an event, and what the plugin shows of it. -/
theorem error_delivered_iff
    {κ : Type*}
    (toolkit : Toolkit)
    (message : EventMessage)
    (json : Json)
    (client : Client κ) :
    (∀ event,
      .event event ∈
          (sendDAPEvent (printing int printDouble toolkit) message json
            client).2 →
        event.string = errorLiteral json ∧
          getDapErrorMessage event = errorLiteral json) ↔
      Cuttable json := by
  rw [← errorText_eq_literal_iff doubles json]
  constructor
  · intro all
    exact (all _ List.mem_cons_self).1
  · intro same event sent
    rw [getDapErrorMessage_eq, and_self]
    cases List.mem_singleton.mp sent
    exact same

end Delivery

/-- A rejected launch, with the members of its error object. -/
def launchRejected (error : Members) : Json :=
  .object [
    ("type".toList, .string "response".toList),
    ("command".toList, .string "launch".toList),
    ("success".toList, .bool false),
    ("body".toList, .object [("error".toList, .object error)])]

def noSuchFile : WxString × Json :=
  ("format".toList, .string "no such \"file\"".toList)

def showUser : WxString × Json :=
  ("showUser".toList, .bool true)

/-- The event for the launch, its numbers printed by some C library. -/
def rejection (error : Members) : DapEvent :=
  dapEvent (printing intRange (fun _ => "0.5".toList) plainToolkit)
    .launchResponse (launchRejected error)

theorem error_delivered_formatFirst :
    (rejection [noSuchFile, showUser]).string =
        errorLiteral (launchRejected [noSuchFile, showUser]) ∧
      getDapErrorMessage (rejection [noSuchFile, showUser]) =
        errorLiteral (launchRejected [noSuchFile, showUser]) :=
  (error_delivered_iff (fun _ => by decide) plainToolkit .launchResponse
    (launchRejected [noSuchFile, showUser]) (Client.new Unit)).mpr
    ⟨_, rfl, rfl, by decide, by decide⟩ _ List.mem_cons_self

/-- The same error, with the format behind the other member. -/
theorem formatLast_not_delivered :
    (rejection [showUser, noSuchFile]).string ≠
      errorLiteral (launchRejected [showUser, noSuchFile]) := by
  decide +kernel

end DebuggerDap.DapClient.ErrorText
