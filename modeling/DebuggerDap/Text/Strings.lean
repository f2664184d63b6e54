import Mathlib.Data.List.Infix
import Mathlib.Data.List.TakeWhile

/-!
# Character strings of the adapter client

A `wxString` is a sequence of characters, independent of the encoding used
on the wire.  The operations below are the ones the protocol layer applies
to header text: searching, trimming, cutting at a delimiter, splitting into
tokens and reading a decimal number.
-/

namespace DebuggerDap.Text.Strings

/-- A character string, as the client sees it. -/
abbrev WxString := List Char

/-- The characters removed by trimming and skipped before a number. -/
def isSpace (ch : Char) : Bool :=
  ch == ' ' || ch == '\t' || ch == '\n' || ch == '\r' ||
    ch == '\x0b' || ch == '\x0c'

/-- The position of the first occurrence of a substring. -/
def find (needle : WxString) : WxString → Option Nat
  | [] => if needle = [] then some 0 else none
  | ch :: rest =>
      if needle <+: ch :: rest then some 0
      else (find needle rest).map (· + 1)

def ltrim (str : WxString) : WxString :=
  str.dropWhile isSpace

def rtrim (str : WxString) : WxString :=
  (str.reverse.dropWhile isSpace).reverse

/-- Remove blanks at the right end, then at the left end. -/
def trim (str : WxString) : WxString :=
  ltrim (rtrim str)

/-- The text before the first delimiter, or the whole text. -/
def beforeFirst (str : WxString) (ch : Char) : WxString :=
  str.takeWhile (· ≠ ch)

/-- The text after the first delimiter, or the empty text. -/
def afterFirst (str : WxString) (ch : Char) : WxString :=
  (str.dropWhile (· ≠ ch)).drop 1

/-- The nonempty tokens between delimiters (`wxTOKEN_STRTOK`). -/
def split (str : WxString) (ch : Char) : List WxString :=
  (str.splitOn ch).filter (· ≠ [])

/-- The value of the longest run of decimal digits at the head. -/
def leadingNumber (str : WxString) : Nat :=
  Nat.ofDigitChars 10 (str.takeWhile Char.isDigit) 0

/-- `std::atol`: blanks, an optional sign, and the digits that follow. -/
def atol (str : WxString) : Int :=
  match ltrim str with
  | '-' :: digits => -(leadingNumber digits : Int)
  | '+' :: digits => leadingNumber digits
  | digits => leadingNumber digits

/-! ## Cutting -/

section Cutting

variable {mark : Char} {str before : WxString}

/-- The cut is made at the first delimiter. -/
theorem cut_append
    (absent : mark ∉ before)
    (after : WxString) :
    beforeFirst (before ++ mark :: after) mark = before ∧
      afterFirst (before ++ mark :: after) mark = after := by
  have other : ∀ ch ∈ before, decide (ch ≠ mark) = true := fun ch member =>
    decide_eq_true fun same => absent (same ▸ member)
  constructor
  · rw [beforeFirst, List.takeWhile_append_of_pos other,
      List.takeWhile_cons_of_neg (by simp), List.append_nil]
  · rw [afterFirst, List.dropWhile_append_of_pos other,
      List.dropWhile_cons_of_neg (by simp)]
    rfl

theorem not_mem_beforeFirst (mark : Char) (str : WxString) :
    mark ∉ beforeFirst str mark := by
  intro member
  have other := List.mem_takeWhile_imp member
  simp at other

theorem cut_of_absent (absent : mark ∉ str) :
    beforeFirst str mark = str ∧ afterFirst str mark = [] := by
  have other : ∀ ch ∈ str, decide (ch ≠ mark) = true := fun ch member =>
    decide_eq_true fun same => absent (same ▸ member)
  constructor
  · exact List.takeWhile_eq_self_iff.mpr other
  · rw [afterFirst, List.dropWhile_eq_nil_iff.mpr other]
    rfl

/-- The parts are all of a text that is cut. -/
theorem join_of_cut (cut : afterFirst str mark ≠ []) :
    beforeFirst str mark ++ mark :: afterFirst str mark = str := by
  have joined := List.takeWhile_append_dropWhile
    (p := fun ch => decide (ch ≠ mark)) (l := str)
  rw [afterFirst] at cut ⊢
  cases rest : str.dropWhile (· ≠ mark) with
  | nil =>
      rw [rest] at cut
      exact absurd rfl cut
  | cons ch after =>
      have stop := List.head?_dropWhile_not (fun ch => decide (ch ≠ mark)) str
      rw [rest] at stop joined
      have isMark : ch = mark := by simpa using stop
      rw [isMark] at joined
      exact joined

end Cutting

/-! ## Searching -/

/-- An occurrence found lies inside the text. -/
theorem find_length_le
    {needle str : WxString}
    {position : Nat}
    (found : find needle str = some position) :
    position + needle.length ≤ str.length := by
  induction str generalizing position with
  | nil =>
      simp only [find] at found
      split at found
      · next empty =>
          cases found
          simp [empty]
      · cases found
  | cons ch rest ih =>
      simp only [find] at found
      split at found
      · next isPrefix =>
          cases found
          simpa using isPrefix.length_le
      · rcases Option.map_eq_some_iff.mp found with
          ⟨previous, foundRest, rfl⟩
        have := ih foundRest
        simp only [List.length_cons]
        omega

theorem find_isSome_iff (needle str : WxString) :
    (find needle str).isSome = true ↔ needle <:+: str := by
  induction str with
  | nil =>
      rw [find, List.infix_nil]
      split
      · next empty => exact iff_of_true rfl empty
      · next nonempty => exact iff_of_false nofun nonempty
  | cons ch rest inductionHypothesis =>
      rw [find, List.infix_cons_iff, ← inductionHypothesis]
      split
      · next isPrefix => exact iff_of_true rfl (.inl isPrefix)
      · next noPrefix => rw [Option.isSome_map, or_iff_right noPrefix]

theorem prefix_drop_of_find
    {needle str : WxString}
    {position : Nat}
    (found : find needle str = some position) :
    needle <+: str.drop position := by
  induction str generalizing position with
  | nil =>
      simp only [find] at found
      split at found
      · next empty => exact empty ▸ List.nil_prefix
      · cases found
  | cons ch rest inductionHypothesis =>
      simp only [find] at found
      split at found
      · next isPrefix =>
          cases found
          exact isPrefix
      · rcases Option.map_eq_some_iff.mp found with
          ⟨previous, foundRest, rfl⟩
        exact inductionHypothesis foundRest

/-- An occurrence found stays the first one when text is appended. -/
theorem find_append_of_some
    {needle str : WxString}
    {position : Nat}
    (found : find needle str = some position)
    (suffix : WxString) :
    find needle (str ++ suffix) = some position := by
  induction str generalizing position with
  | nil =>
      simp only [find] at found
      split at found
      · next empty =>
          cases found
          cases suffix <;> simp [find, empty]
      · cases found
  | cons ch rest ih =>
      simp only [find] at found
      simp only [List.cons_append, find]
      split at found
      · next isPrefix =>
          cases found
          have longer : needle <+: ch :: (rest ++ suffix) :=
            isPrefix.trans (List.prefix_append (ch :: rest) suffix)
          rw [if_pos longer]
      · next noPrefix =>
          rcases Option.map_eq_some_iff.mp found with
            ⟨previous, foundRest, rfl⟩
          have fits := find_length_le foundRest
          have stillNone : ¬ needle <+: ch :: (rest ++ suffix) := by
            intro isPrefix
            apply noPrefix
            apply List.prefix_of_prefix_length_le isPrefix
              (List.prefix_append (ch :: rest) suffix)
            simp only [List.length_cons]
            omega
          rw [if_neg stillNone, ih foundRest]
          rfl

/-- An occurrence found is the first one in the text that ends with it. -/
theorem find_take_of_some
    {needle str : WxString}
    {position : Nat}
    (found : find needle str = some position) :
    find needle (str.take (position + needle.length)) = some position := by
  induction str generalizing position with
  | nil => simpa using found
  | cons ch rest ih =>
      simp only [find] at found
      split at found
      · next isPrefix =>
          cases found
          rcases isPrefix with ⟨after, whole⟩
          rw [← whole, Nat.zero_add, List.take_left']
          · cases needle with
            | nil => rfl
            | cons head tail =>
                simp [find]
          · rfl
      · next noPrefix =>
          rcases Option.map_eq_some_iff.mp found with
            ⟨previous, foundRest, rfl⟩
          have shape : previous + 1 + needle.length =
              (previous + needle.length) + 1 := by
            omega
          have stillNone :
              ¬ needle <+: ch :: rest.take (previous + needle.length) := by
            intro isPrefix
            apply noPrefix
            exact isPrefix.trans
              (List.cons_prefix_cons.mpr ⟨rfl, List.take_prefix _ _⟩)
          rw [shape, List.take_succ_cons, find, if_neg stillNone,
            ih foundRest]
          rfl

theorem not_prefix_cons
    {head ch : Char}
    (different : head ≠ ch)
    (mark rest : WxString) :
    ¬ head :: mark <+: ch :: rest := by
  rw [List.cons_prefix_cons]
  exact fun both => different both.1

/-- Text free of the needle's first character is skipped by the search. -/
theorem find_skip
    {head : Char}
    {needle : WxString}
    (skipped : WxString)
    (absent : head ∉ skipped)
    (str : WxString) :
    find (head :: needle) (skipped ++ str) =
      (find (head :: needle) str).map (· + skipped.length) := by
  induction skipped with
  | nil => simp
  | cons ch rest ih =>
      have different : ¬ head :: needle <+: ch :: (rest ++ str) :=
        not_prefix_cons (List.ne_of_not_mem_cons absent) needle _
      rw [List.cons_append, find, if_neg different,
        ih (fun member => absent (List.mem_cons_of_mem _ member))]
      cases find (head :: needle) str with
      | none => rfl
      | some position =>
          simp only [Option.map_some, List.length_cons,
            Option.some.injEq]
          omega

theorem find_self_append
    (needle str : WxString)
    (nonempty : needle ≠ []) :
    find needle (needle ++ str) = some 0 := by
  cases needle with
  | nil => exact absurd rfl nonempty
  | cons head rest =>
      rw [List.cons_append, find,
        if_pos (by
          rw [← List.cons_append]
          exact List.prefix_append _ _)]

/-- The text behind the first occurrence of a mark. -/
def behind (mark : WxString) : WxString → Option WxString
  | [] => if mark = [] then some [] else none
  | ch :: rest =>
      if mark <+: ch :: rest then some ((ch :: rest).drop mark.length)
      else behind mark rest

theorem behind_eq_find (mark str : WxString) :
    behind mark str =
      (find mark str).map fun position =>
        str.drop (position + mark.length) := by
  induction str with
  | nil =>
      rw [behind, find]
      split <;> simp
  | cons ch rest inductionHypothesis =>
      rw [behind, find]
      split
      · rw [Option.map_some, Nat.zero_add]
      · rw [inductionHypothesis, Option.map_map]
        apply congrArg (fun cut => Option.map cut (find mark rest))
        funext position
        rw [Function.comp_apply, Nat.add_right_comm, List.drop_succ_cons]

theorem behind_cons_of_not_prefix
    {mark rest : WxString}
    {ch : Char}
    (absent : ¬ mark <+: ch :: rest) :
    behind mark (ch :: rest) = behind mark rest := by
  rw [behind, if_neg absent]

theorem behind_skip
    {head : Char}
    {mark : WxString}
    (skipped : WxString)
    (absent : head ∉ skipped)
    (str : WxString) :
    behind (head :: mark) (skipped ++ str) = behind (head :: mark) str := by
  induction skipped with
  | nil => rfl
  | cons ch rest inductionHypothesis =>
      have different : ¬ head :: mark <+: ch :: (rest ++ str) :=
        not_prefix_cons (List.ne_of_not_mem_cons absent) mark _
      rw [List.cons_append, behind_cons_of_not_prefix different]
      exact inductionHypothesis
        fun member => absent (List.mem_cons_of_mem _ member)

theorem infix_skip
    {head : Char}
    {mark : WxString}
    (skipped : WxString)
    (absent : head ∉ skipped)
    (str : WxString) :
    head :: mark <:+: skipped ++ str ↔ head :: mark <:+: str := by
  rw [← find_isSome_iff, ← find_isSome_iff, find_skip skipped absent,
    Option.isSome_map]

/-- Two characters are found where they stand unless they stand before it. -/
theorem find_pair_iff (first second : Char) (start rest : WxString) :
    find [first, second] (start ++ first :: second :: rest) =
        some start.length ↔
      ¬ [first, second] <:+: start ++ [first] := by
  induction start with
  | nil =>
      have short : ¬ [first, second] <:+: [first] := fun inside =>
        absurd inside.length_le (by simp)
      have here : [first, second] <+: first :: second :: rest :=
        List.prefix_append [first, second] rest
      rw [List.nil_append, List.nil_append, iff_true_right short, find,
        if_pos here, List.length_nil]
  | cons ch start inductionHypothesis =>
      have shorter :
          ch :: (start ++ [first]) <+:
            ch :: (start ++ first :: second :: rest) :=
        List.cons_prefix_cons.mpr ⟨rfl,
          ⟨second :: rest, by rw [List.append_assoc]; rfl⟩⟩
      rw [List.cons_append, List.cons_append, find, List.infix_cons_iff,
        not_or, List.length_cons]
      by_cases early :
          [first, second] <+: ch :: (start ++ first :: second :: rest)
      · have earlier :
            [first, second] <+: ch :: (start ++ [first]) :=
          List.prefix_of_prefix_length_le early shorter (by simp)
        rw [if_pos early]
        exact iff_of_false (by simp) fun both => both.1 earlier
      · have notEarlier :
            ¬ [first, second] <+: ch :: (start ++ [first]) :=
          fun earlier => early (earlier.trans shorter)
        rw [if_neg early, ← inductionHypothesis, and_iff_right notEarlier]
        simp

/-! ## Trimming -/

/-- Text with nothing to trim at its ends. -/
def Tight (str : WxString) : Prop :=
  (∀ ch ∈ str.head?, isSpace ch = false) ∧
    ∀ ch ∈ str.getLast?, isSpace ch = false

theorem ltrim_append_of_blank
    {blank : WxString}
    (allBlank : ∀ ch ∈ blank, isSpace ch = true)
    (str : WxString) :
    ltrim (blank ++ str) = ltrim str := by
  exact List.dropWhile_append_of_pos allBlank

theorem rtrim_append_of_blank
    {blank : WxString}
    (allBlank : ∀ ch ∈ blank, isSpace ch = true)
    (str : WxString) :
    rtrim (str ++ blank) = rtrim str := by
  have reversed : ∀ ch ∈ blank.reverse, isSpace ch = true := by
    intro ch member
    exact allBlank ch (List.mem_reverse.mp member)
  rw [rtrim, rtrim, List.reverse_append,
    List.dropWhile_append_of_pos reversed]

theorem trim_append_blank
    {blank : WxString}
    (allBlank : ∀ ch ∈ blank, isSpace ch = true)
    (str : WxString) :
    trim (str ++ blank) = trim str := by
  rw [trim, trim, rtrim_append_of_blank allBlank]

theorem ltrim_of_tight {str : WxString} (tight : Tight str) :
    ltrim str = str := by
  cases str with
  | nil => rfl
  | cons ch rest =>
      have first := tight.1 ch rfl
      simp [ltrim, first]

theorem rtrim_of_last
    {str : WxString}
    (last : ∀ ch ∈ str.getLast?, isSpace ch = false) :
    rtrim str = str := by
  rw [← List.head?_reverse] at last
  rw [rtrim]
  cases reversed : str.reverse with
  | nil =>
      simpa using congrArg List.reverse reversed.symm
  | cons ch rest =>
      rw [reversed] at last
      have notBlank : isSpace ch = false := last ch rfl
      rw [List.dropWhile_cons_of_neg (by simp [notBlank]),
        ← reversed, List.reverse_reverse]

/-- Trimming removes exactly the blanks around tight text. -/
theorem trim_padded
    {left right str : WxString}
    (leftBlank : ∀ ch ∈ left, isSpace ch = true)
    (rightBlank : ∀ ch ∈ right, isSpace ch = true)
    (tight : Tight str) :
    trim (left ++ str ++ right) = str := by
  rw [trim, rtrim_append_of_blank rightBlank]
  by_cases empty : str = []
  · subst str
    have onlyBlank :
        rtrim (left ++ []) = [] := by
      rw [List.append_nil, ← List.nil_append left,
        rtrim_append_of_blank leftBlank]
      rfl
    rw [onlyBlank]
    rfl
  · have keeps : rtrim (left ++ str) = left ++ str := by
      apply rtrim_of_last
      rw [List.getLast?_append_of_ne_nil left empty]
      exact tight.2
    rw [keeps, ltrim_append_of_blank leftBlank, ltrim_of_tight tight]

end DebuggerDap.Text.Strings
