import DebuggerDap.DapClient.ErrorText
import DebuggerDap.Protocol.JsonText

/-!
# Finding a list in a printed tree

A formatted tree is searched for the end of a name, its closing quote, the
colon and the bracket of an array.  The first array whose name ends in the
name that is looked for is found, wherever it is in the tree; nothing else in
the text looks like it.
-/

namespace DebuggerDap.DapClient.PrintedLists

open DebuggerDap.Text.Strings
open DebuggerDap.Library.MachineInt
open DebuggerDap.Protocol.JsonTree
open DebuggerDap.Protocol.JsonText
open DebuggerDap.DapClient.ErrorText
  (Members NumberText numberText_printNumber quote_not_mem_printNumber)

/-- What may stand behind a value of a formatted tree. -/
def closers : List Char :=
  [',', '\n', ']']

/-- The characters of a formatted tree that are outside names and values. -/
def punctuation : List Char :=
  ['"', ':', ' ', '[', '{', '}'] ++ closers

/-- What stands between a name and the entries of its array. -/
def opening : WxString :=
  [':', ' ', '[']

/-- The text that is looked for. -/
def listMark (name : WxString) : WxString :=
  name ++ '"' :: opening

/--
A name that is printed as it is, and whose first character is no other's
escape and no punctuation.
-/
structure Searchable (first : Char) (more : WxString) : Prop where
  plain : ∀ ch ∈ first :: more, escape ch = [ch]
  sharp : ∀ ch ∈ first :: more, ch ∉ punctuation
  alone : ∀ ch, ch ≠ first → first ∉ escape ch

/-! ## The list that is found -/

section Lists

variable (name : WxString)

/-- The entries of an array whose own name ends in the name. -/
def listAt (key : WxString) : Json → Option (List Json)
  | .array items => if name <:+ key then some items else none
  | _ => none

mutual

/-- The entries of the first such array, in the order of the text. -/
def listNamed : Json → Option (List Json)
  | .array items => listOfItems items
  | .object members => listOfMembers members
  | _ => none

def listOfItems : List Json → Option (List Json)
  | [] => none
  | item :: items => (listNamed item).or (listOfItems items)

def listOfMembers : Members → Option (List Json)
  | [] => none
  | (key, value) :: members =>
      ((listAt name key value).or (listNamed value)).or
        (listOfMembers members)

end

end Lists

/-- Nothing but what may close a value is next. -/
def Closed (rest : WxString) : Prop :=
  ∀ ch ∈ rest.head?, ch ∈ closers

/-! ## Parts of the text without the mark -/

section Skipping

variable {first : Char} {more : WxString}
variable (searchable : Searchable first more)

theorem behind_mark_skip
    (skipped : WxString)
    (absent : first ∉ skipped)
    (str : WxString) :
    behind (listMark (first :: more)) (skipped ++ str) =
      behind (listMark (first :: more)) str :=
  behind_skip skipped absent str

include searchable

/-- Punctuation is skipped. -/
theorem behind_mark_cons
    {ch : Char}
    (isMark : ch ∈ punctuation)
    (str : WxString) :
    behind (listMark (first :: more)) (ch :: str) =
      behind (listMark (first :: more)) str := by
  refine behind_mark_skip [ch] (fun member => ?_) str
  rw [← List.mem_singleton.mp member] at isMark
  exact searchable.sharp first List.mem_cons_self isMark

/-- So is a pair of such characters. -/
theorem behind_mark_pair
    {ch other : Char}
    (isMark : ch ∈ punctuation)
    (otherMark : other ∈ punctuation)
    (str : WxString) :
    behind (listMark (first :: more)) ([ch, other] ++ str) =
      behind (listMark (first :: more)) str :=
  (behind_mark_cons searchable isMark (other :: str)).trans
    (behind_mark_cons searchable otherMark str)

theorem behind_mark_indentation (depth : Nat) (str : WxString) :
    behind (listMark (first :: more)) (List.replicate depth ' ' ++ str) =
      behind (listMark (first :: more)) str := by
  induction depth with
  | zero => rfl
  | succ depth inductionHypothesis =>
      rw [List.replicate_succ, List.cons_append,
        behind_mark_cons searchable (by decide)]
      exact inductionHypothesis

/-- So is the line an object ends in. -/
theorem behind_mark_brace (depth : Nat) (str : WxString) :
    behind (listMark (first :: more))
        ('\n' :: (List.replicate depth ' ' ++ ['}'] ++ str)) =
      behind (listMark (first :: more)) str := by
  rw [behind_mark_cons searchable (by decide), List.append_assoc,
    behind_mark_indentation searchable]
  exact behind_mark_cons searchable (by decide) str

/-- The mark needs a quote, which what closes a value is not. -/
theorem mark_not_prefix
    {skipped rest : WxString}
    (unquoted : '"' ∉ skipped)
    (closed : Closed rest) :
    ¬ listMark (first :: more) <+: skipped ++ rest := by
  rintro ⟨after, whole⟩
  rw [listMark, List.append_assoc] at whole
  rcases List.append_eq_append_iff.mp whole with
    ⟨middle, isSkipped, tail⟩ | ⟨middle, isName, tail⟩
  · cases middle with
    | nil =>
        have quoted : '"' :: (opening ++ after) = rest := tail
        have isQuote := closed '"' (by rw [← quoted]; rfl)
        exact absurd isQuote (by decide)
    | cons ch middle =>
        have quote : '"' = ch := (List.cons.inj tail).1
        apply unquoted
        rw [isSkipped, quote]
        exact List.mem_append_right _ List.mem_cons_self
  · cases middle with
    | nil =>
        have isQuote := closed '"' (by rw [tail]; rfl)
        exact absurd isQuote (by decide)
    | cons ch middle =>
        have close := closed ch (by rw [tail]; rfl)
        have inName : ch ∈ first :: more := by
          rw [isName]
          exact List.mem_append_right _ List.mem_cons_self
        exact searchable.sharp ch inName (List.mem_append_right _ close)

/-- A text without a quote is skipped up to what closes it. -/
theorem behind_mark_unquoted
    {skipped rest : WxString}
    (unquoted : '"' ∉ skipped)
    (closed : Closed rest) :
    behind (listMark (first :: more)) (skipped ++ rest) =
      behind (listMark (first :: more)) rest := by
  induction skipped with
  | nil => rfl
  | cons ch skipped inductionHypothesis =>
      have notHere :
          ¬ listMark (first :: more) <+: ch :: (skipped ++ rest) :=
        mark_not_prefix searchable unquoted closed
      rw [List.cons_append, behind_cons_of_not_prefix notHere]
      exact inductionHypothesis
        fun member => unquoted (List.mem_cons_of_mem ch member)

/-! ## The mark in a quoted text -/

/-- The rest of the name is printed as it is. -/
theorem flatMap_escape_more : more.flatMap escape = more := by
  have same : more.flatMap escape = more.flatMap fun ch => [ch] :=
    List.flatMap_congr fun ch member =>
      searchable.plain ch (List.mem_cons_of_mem first member)
  rw [same, List.flatMap_singleton']

theorem mark_prefix_iff (key rest : WxString) :
    listMark (first :: more) <+:
        first :: (key.flatMap escape ++ '"' :: rest) ↔
      key = more ∧ opening <+: rest := by
  have printed := flatMap_escape_more searchable
  have shape : ∀ after, listMark (first :: more) ++ after =
      first :: (more.flatMap escape ++ '"' :: (opening ++ after)) := by
    intro after
    rw [printed, listMark, List.append_assoc]
    rfl
  constructor
  · rintro ⟨after, whole⟩
    rw [shape] at whole
    rcases quoted_inj (List.cons.inj whole).2 with ⟨rfl, tail⟩
    exact ⟨rfl, after, tail⟩
  · rintro ⟨rfl, after, rfl⟩
    exact ⟨after, shape after⟩

theorem behind_mark_first (key rest : WxString) :
    behind (listMark (first :: more))
        (first :: (key.flatMap escape ++ '"' :: rest)) =
      if key = more ∧ opening <+: rest then some (rest.drop 3)
      else
        behind (listMark (first :: more))
          (key.flatMap escape ++ '"' :: rest) := by
  rw [behind]
  simp only [mark_prefix_iff searchable]
  split
  · next here =>
      rw [here.1, flatMap_escape_more searchable]
      have shape :
          first :: (more ++ '"' :: rest) =
            ((first :: more) ++ ['"']) ++ rest := by
        simp
      have long :
          (listMark (first :: more)).length =
            ((first :: more) ++ ['"']).length + 3 := by
        simp [listMark, opening]
      rw [shape, long, List.drop_length_add_append]
  · rfl

/-- Behind the opening quote of a text the mark begins at its end. -/
theorem behind_mark_escapes (key rest : WxString) :
    behind (listMark (first :: more)) (key.flatMap escape ++ '"' :: rest) =
      if first :: more <:+ key ∧ opening <+: rest then some (rest.drop 3)
      else behind (listMark (first :: more)) rest := by
  induction key with
  | nil =>
      rw [if_neg fun both => by simpa using both.1]
      exact behind_mark_cons searchable (by decide) rest
  | cons ch key inductionHypothesis =>
      rw [List.flatMap_cons, List.append_assoc]
      by_cases here : ch = first
      · subst here
        rw [searchable.plain ch List.mem_cons_self, List.singleton_append,
          behind_mark_first searchable, inductionHypothesis]
        have ends :
            ch :: more <:+ ch :: key ↔ key = more ∨ ch :: more <:+ key := by
          rw [List.suffix_cons_iff]
          exact or_congr_left
            ⟨fun same => (List.cons.inj same).2.symm, fun same => by rw [same]⟩
        simp only [ends]
        by_cases whole : key = more ∧ opening <+: rest
        · rw [if_pos whole, if_pos ⟨.inl whole.1, whole.2⟩]
        · rw [if_neg whole]
          apply if_congr _ rfl rfl
          rw [or_and_right, or_iff_right whole]
      · have ends : first :: more <:+ ch :: key ↔ first :: more <:+ key := by
          rw [List.suffix_cons_iff]
          exact or_iff_right fun same => here (List.cons.inj same).1.symm
        rw [behind_mark_skip (escape ch)
          (searchable.alone ch here), inductionHypothesis]
        simp only [ends]

theorem behind_mark_printString (key rest : WxString) :
    behind (listMark (first :: more)) (printString key ++ rest) =
      if first :: more <:+ key ∧ opening <+: rest then some (rest.drop 3)
      else behind (listMark (first :: more)) rest := by
  rw [printString, List.cons_append, List.cons_append, List.append_assoc,
    behind_mark_cons searchable (by decide)]
  exact behind_mark_escapes searchable key rest

end Skipping

/-! ## The mark in a tree -/

section Printed

variable (int : SignedRange) (printDouble : Rat → WxString) (depth : Nat)

theorem printValue_array (items : List Json) :
    printValue int printDouble true depth (.array items) =
      '[' :: ([',', ' '].intercalate
        (printItems int printDouble true (depth + 1) items) ++ [']']) :=
  rfl

theorem printValue_object
    (member : WxString × Json)
    (members : Members) :
    printValue int printDouble true depth (.object (member :: members)) =
      ['{', '\n'] ++ ([',', '\n'].intercalate
        (printMembers int printDouble true (depth + 1) (member :: members)) ++
          '\n' :: (List.replicate depth ' ' ++ ['}'])) := by
  show ['{', '\n'] ++ [',', '\n'].intercalate
    (printMembers int printDouble true (depth + 1) (member :: members)) ++
      (if true = true ∧ member :: members ≠ [] then ['\n'] else []) ++
        List.replicate depth ' ' ++ ['}'] = _
  rw [if_pos ⟨rfl, List.cons_ne_nil member members⟩]
  simp

theorem printMembers_cons
    (key : WxString)
    (value : Json)
    (members : Members) :
    printMembers int printDouble true depth ((key, value) :: members) =
      (List.replicate depth ' ' ++ (printString key ++
        ([':', ' '] ++ printValue int printDouble true depth value))) ::
          printMembers int printDouble true depth members := by
  show (List.replicate depth ' ' ++ printString key ++ [':', ' '] ++
    printValue int printDouble true depth value) :: _ = _
  simp

/-- A member of an object has a blank behind its colon. -/
theorem blank_mem_printValue
    (member : WxString × Json)
    (members : Members) :
    ' ' ∈ printValue int printDouble true depth
      (.object (member :: members)) := by
  rcases member with ⟨key, value⟩
  rw [printValue_object, printMembers_cons]
  cases printMembers int printDouble true (depth + 1) members <;> simp

/-- What the search gives, against what it gives without the part it is in. -/
def Found
    (found : Option (List Json))
    (result otherwise : Option WxString) : Prop :=
  match found with
  | none => result = otherwise
  | some items =>
      ∃ depth text,
        result =
          some ([',', ' '].intercalate
            (printItems int printDouble true depth items) ++ ']' :: text)

end Printed

section Search

variable {int : SignedRange} {printDouble : Rat → WxString}

theorem Found.or
    {earlier later : Option (List Json)}
    {result middle otherwise : Option WxString}
    (here : Found int printDouble earlier result middle)
    (after : Found int printDouble later middle otherwise) :
    Found int printDouble (earlier.or later) result otherwise := by
  cases earlier with
  | none =>
      rw [Found] at here
      rw [here, Option.none_or]
      exact after
  | some found => exact here

variable {first : Char} {more : WxString}

/-- What follows the first of the texts between separators. -/
theorem exists_following
    (searchable : Searchable first more)
    {blank : Char}
    (blankMark : blank ∈ punctuation)
    (text : WxString)
    (others : List WxString)
    {close : WxString}
    (closed : Closed close) :
    ∃ following,
      [',', blank].intercalate (text :: others) ++ close =
          text ++ following ∧
        Closed following ∧
        behind (listMark (first :: more)) following =
          behind (listMark (first :: more))
            ([',', blank].intercalate others ++ close) := by
  cases others with
  | nil =>
      exact ⟨close, by rw [List.intercalate_singleton], closed, rfl⟩
  | cons second others =>
      refine ⟨[',', blank] ++
        ([',', blank].intercalate (second :: others) ++ close), ?_, ?_, ?_⟩
      · rw [List.intercalate_cons_cons]
        simp only [List.append_assoc]
      · intro ch isHead
        cases isHead
        exact List.mem_cons_self
      · exact behind_mark_pair searchable (by decide) blankMark _

/-- Only the text of an array begins with the bracket. -/
theorem bracket_prefix_iff
    (doubles : ∀ value, NumberText (printDouble value))
    (depth : Nat)
    (value : Json)
    {rest : WxString}
    (closed : Closed rest) :
    ['['] <+: printValue int printDouble true depth value ++ rest ↔
      ∃ items, value = .array items := by
  cases value with
  | null => simp [printValue]
  | bool value => cases value <;> simp [printValue]
  | number value =>
      refine iff_of_false ?_ (by simp)
      rintro ⟨after, whole⟩
      rw [printValue_number] at whole
      cases number : printNumber int printDouble value with
      | nil =>
          rw [number] at whole
          have bracket :=
            closed '[' (by rw [← List.nil_append rest, ← whole]; rfl)
          exact absurd bracket (by decide)
      | cons ch digits =>
          rw [number] at whole
          have bracket : '[' = ch := (List.cons.inj whole).1
          have text :=
            @numberText_printNumber int _ doubles value ch
              (number ▸ List.mem_cons_self)
          rw [← bracket] at text
          exact absurd text (by decide)
  | string value => simp [printValue_string, printString]
  | array items => simp [printValue_array]
  | object members => simp [printValue]

/-- At a name and its value the mark is found if they are such an array. -/
theorem found_listAt
    (searchable : Searchable first more)
    (doubles : ∀ value, NumberText (printDouble value))
    (depth : Nat)
    (key : WxString)
    (value : Json)
    {rest : WxString}
    (closed : Closed rest) :
    Found int printDouble (listAt (first :: more) key value)
      (behind (listMark (first :: more))
        (printString key ++
          ([':', ' '] ++
            (printValue int printDouble true depth value ++ rest))))
      (behind (listMark (first :: more))
        (printValue int printDouble true depth value ++ rest)) := by
  have skipped :=
    behind_mark_pair searchable (by decide : ':' ∈ punctuation)
      (by decide : ' ' ∈ punctuation)
      (printValue int printDouble true depth value ++ rest)
  have opens :
      opening <+: [':', ' '] ++
          (printValue int printDouble true depth value ++ rest) ↔
        ∃ items, value = .array items := by
    rw [← bracket_prefix_iff doubles depth value closed]
    exact List.prefix_append_right_inj [':', ' ']
  rw [behind_mark_printString searchable, skipped]
  cases found : listAt (first :: more) key value with
  | none =>
      have notHere :
          ¬ (first :: more <:+ key ∧
            opening <+: [':', ' '] ++
              (printValue int printDouble true depth value ++ rest)) := by
        rintro ⟨ends, bracket⟩
        rcases opens.mp bracket with ⟨items, rfl⟩
        rw [listAt, if_pos ends] at found
        cases found
      rw [if_neg notHere]
      exact rfl
  | some items =>
      unfold listAt at found
      split at found
      · next items =>
          split at found
          · next ends =>
              cases found
              rw [if_pos ⟨ends, opens.mpr ⟨items, rfl⟩⟩, printValue_array]
              exact ⟨depth + 1, rest, by simp⟩
          · cases found
      · cases found

end Search

section Trees

variable {int : SignedRange} {printDouble : Rat → WxString}
variable {first : Char} {more : WxString}

mutual

/-- The search finds the list of the tree, or goes on behind the tree. -/
theorem found_listNamed
    (searchable : Searchable first more)
    (doubles : ∀ value, NumberText (printDouble value))
    (depth : Nat)
    (json : Json)
    {rest : WxString}
    (closed : Closed rest) :
    Found int printDouble (listNamed (first :: more) json)
      (behind (listMark (first :: more))
        (printValue int printDouble true depth json ++ rest))
      (behind (listMark (first :: more)) rest) := by
  cases json with
  | null =>
      exact behind_mark_unquoted searchable (by decide : '"' ∉ "null".toList)
        closed
  | bool value =>
      cases value with
      | false =>
          exact behind_mark_unquoted searchable
            (by decide : '"' ∉ "false".toList) closed
      | true =>
          exact behind_mark_unquoted searchable
            (by decide : '"' ∉ "true".toList) closed
  | number value =>
      exact behind_mark_unquoted searchable
        (quote_not_mem_printNumber doubles value) closed
  | string value =>
      have notHere : ¬ (first :: more <:+ value ∧ opening <+: rest) := by
        rintro ⟨-, after, rfl⟩
        exact absurd (closed ':' rfl) (by decide)
      rw [printValue_string, behind_mark_printString searchable,
        if_neg notHere]
      exact rfl
  | array items =>
      have opened :=
        behind_mark_cons searchable (by decide : '[' ∈ punctuation)
          ([',', ' '].intercalate
            (printItems int printDouble true (depth + 1) items) ++ ']' :: rest)
      have inside :=
        found_listOfItems searchable doubles (depth + 1) items
          (by simp [Closed, closers] : Closed (']' :: rest))
      rw [← opened, behind_mark_cons searchable (by decide : ']' ∈ punctuation)]
        at inside
      rw [listNamed, printValue_array]
      simpa using inside
  | object members =>
      cases members with
      | nil =>
          have opened :=
            behind_mark_cons searchable (by decide : '{' ∈ punctuation)
              ('\n' :: (List.replicate depth ' ' ++ ['}'] ++ rest))
          exact opened.trans (behind_mark_brace searchable depth rest)
      | cons member members =>
          have opened :=
            behind_mark_pair searchable (by decide : '{' ∈ punctuation)
              (by decide : '\n' ∈ punctuation)
              ([',', '\n'].intercalate
                (printMembers int printDouble true (depth + 1)
                  (member :: members)) ++
                '\n' :: (List.replicate depth ' ' ++ ['}'] ++ rest))
          have inside :=
            found_listOfMembers searchable doubles (depth + 1)
              (member :: members)
              (by simp [Closed, closers] :
                Closed ('\n' :: (List.replicate depth ' ' ++ ['}'] ++ rest)))
          rw [← opened, behind_mark_brace searchable] at inside
          rw [listNamed, printValue_object]
          simpa using inside

theorem found_listOfItems
    (searchable : Searchable first more)
    (doubles : ∀ value, NumberText (printDouble value))
    (depth : Nat)
    (items : List Json)
    {close : WxString}
    (closed : Closed close) :
    Found int printDouble (listOfItems (first :: more) items)
      (behind (listMark (first :: more))
        ([',', ' '].intercalate
          (printItems int printDouble true depth items) ++ close))
      (behind (listMark (first :: more)) close) := by
  cases items with
  | nil => exact rfl
  | cons item items =>
      rcases exists_following searchable (by decide : ' ' ∈ punctuation)
        (printValue int printDouble true depth item)
        (printItems int printDouble true depth items) closed with
        ⟨following, whole, closedNext, skips⟩
      have later :=
        found_listOfItems searchable doubles depth items closed
      rw [← skips] at later
      rw [listOfItems, printItems_cons, whole]
      exact (found_listNamed searchable doubles depth item closedNext).or later

theorem found_listOfMembers
    (searchable : Searchable first more)
    (doubles : ∀ value, NumberText (printDouble value))
    (depth : Nat)
    (members : Members)
    {close : WxString}
    (closed : Closed close) :
    Found int printDouble (listOfMembers (first :: more) members)
      (behind (listMark (first :: more))
        ([',', '\n'].intercalate
          (printMembers int printDouble true depth members) ++ close))
      (behind (listMark (first :: more)) close) := by
  cases members with
  | nil => exact rfl
  | cons member members =>
      rcases member with ⟨key, value⟩
      rcases exists_following searchable (by decide : '\n' ∈ punctuation)
        (List.replicate depth ' ' ++ (printString key ++
          ([':', ' '] ++ printValue int printDouble true depth value)))
        (printMembers int printDouble true depth members) closed with
        ⟨following, whole, closedNext, skips⟩
      have later :=
        found_listOfMembers searchable doubles depth members closed
      have indented :=
        behind_mark_indentation searchable depth
          (printString key ++
            ([':', ' '] ++
              (printValue int printDouble true depth value ++ following)))
      rw [← skips] at later
      rw [listOfMembers, printMembers_cons, whole]
      simp only [List.append_assoc] at indented ⊢
      rw [indented]
      exact ((found_listAt searchable doubles depth key value closedNext).or
        (found_listNamed searchable doubles depth value closedNext)).or later

end

end Trees

end DebuggerDap.DapClient.PrintedLists
