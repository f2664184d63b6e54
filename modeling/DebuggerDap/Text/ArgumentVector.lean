import DebuggerDap.Text.Strings
import Mathlib.Algebra.Group.Nat.Even

/-!
# Command lines

A command line is split into arguments at blanks outside quotes.  Inside
quotes a backslash takes the character behind it along: a quote is then no
end, and any other character is kept with its backslash.  An argument with a
blank is wrapped in quotes as it is, so that a backslash at its end meets the
closing quote.

The arguments are passed on as C strings, which end at a NUL.
-/

namespace DebuggerDap.Text.ArgumentVector

open DebuggerDap.Text.Strings

/-! ## Splitting -/

/-- `ARGV_STATE_NORMAL` and so on. -/
inductive ArgvState where
  | normal
  | dquote
  | squote
  | escape
  | backtick
  deriving DecidableEq, Repr

/-- The variables of `BuildArgv`. -/
structure Splitter where
  state : ArgvState
  prevState : ArgvState
  curstr : WxString
  argv : List WxString
  deriving DecidableEq, Repr

namespace Splitter

/-- Where the loop begins, behind some arguments. -/
def start (argv : List WxString) : Splitter where
  state := .normal
  prevState := .normal
  curstr := []
  argv := argv

def pushCurtoken (splitter : Splitter) : Splitter :=
  if splitter.curstr = [] then splitter
  else
    { splitter with
      argv := splitter.argv ++ [splitter.curstr]
      curstr := [] }

def changeState (newState : ArgvState) (splitter : Splitter) : Splitter :=
  { splitter with
    prevState := splitter.state
    state := newState }

def restoreState (splitter : Splitter) : Splitter :=
  { splitter with
    state := splitter.prevState
    prevState := .normal }

def append (text : WxString) (splitter : Splitter) : Splitter :=
  { splitter with curstr := splitter.curstr ++ text }

/-- A character between two quotes of a kind. -/
def quoted (quote ch : Char) (splitter : Splitter) : Splitter :=
  if ch = '\\' then splitter.changeState .escape
  else if ch = quote then (splitter.append [ch]).restoreState
  else splitter.append [ch]

/-- A character behind a backslash between two quotes of a kind. -/
def escaped (quote ch : Char) (splitter : Splitter) : Splitter :=
  if ch = quote then (splitter.append [quote]).restoreState
  else (splitter.append ['\\', ch]).restoreState

def unquoted (ch : Char) (splitter : Splitter) : Splitter :=
  if ch = ' ' ∨ ch = '\t' then splitter.pushCurtoken
  else if ch = '\x27' then (splitter.changeState .squote).append [ch]
  else if ch = '"' then (splitter.changeState .dquote).append [ch]
  else if ch = '\x60' then (splitter.changeState .backtick).append [ch]
  else splitter.append [ch]

/-- The body of the loop over the characters. -/
def step (splitter : Splitter) (ch : Char) : Splitter :=
  match splitter.state with
  | .normal => splitter.unquoted ch
  | .escape =>
      match splitter.prevState with
      | .dquote => splitter.escaped '"' ch
      | .backtick => splitter.escaped '\x60' ch
      | _ => splitter.escaped '\x27' ch
  | .dquote => splitter.quoted '"' ch
  | .squote => splitter.quoted '\x27' ch
  | .backtick => splitter.quoted '\x60' ch

/-- The arguments when the text is at its end. -/
def tokens (splitter : Splitter) (text : WxString) : List WxString :=
  (text.foldl step splitter).pushCurtoken.argv

end Splitter

/-- What becomes of a token: a C string, without quotes around it. -/
def argument (token : WxString) : WxString :=
  let str := beforeFirst token '\x00'
  if 1 < str.length ∧ str.head? = some '"' ∧ str.getLast? = some '"' then
    str.dropLast.drop 1
  else str

/-- How a character is converted to a `char`. -/
structure Locale where
  narrow : Char → Char
  ascii : ∀ ch, ch.toNat < 128 → narrow ch = ch

/-- `BuildArgv`. -/
def buildArgv (locale : Locale) (str : WxString) : List WxString :=
  ((Splitter.start []).tokens (str.map locale.narrow)).map argument

/-! ## Wrapping -/

def wrapWithQuotes (str : WxString) : WxString :=
  if str = [] then str
  else if ' ' ∈ str then '"' :: str ++ ['"']
  else str

/-- The wrapped arguments with single blanks between them. -/
def commandLine (args : List WxString) : WxString :=
  [' '].intercalate (args.map wrapWithQuotes)

/-- An argument without quotes and tabs, in ASCII. -/
structure Plain (arg : WxString) : Prop where
  ne_nil : arg ≠ []
  ascii : ∀ ch ∈ arg, ch.toNat < 128
  noDouble : '"' ∉ arg
  noSingle : '\x27' ∉ arg
  noBacktick : '\x60' ∉ arg
  noTab : '\t' ∉ arg

def trailingBackslashes (arg : WxString) : Nat :=
  (arg.reverse.takeWhile (· = '\\')).length

/-- An argument that comes back. -/
structure Splittable (arg : WxString) : Prop where
  noNul : '\x00' ∉ arg
  even : ' ' ∈ arg → Even (trailingBackslashes arg)

/-! ## Between quotes -/

section Runs

variable {arg curstr : WxString} {argv : List WxString}

theorem trailingBackslashes_append (arg : WxString) (ch : Char) :
    trailingBackslashes (arg ++ [ch]) =
      if ch = '\\' then trailingBackslashes arg + 1 else 0 := by
  rw [trailingBackslashes, List.reverse_append, List.reverse_singleton,
    List.singleton_append]
  split
  · next backslash =>
      rw [List.takeWhile_cons_of_pos (by simpa using backslash),
        List.length_cons, trailingBackslashes]
  · next other =>
      rw [List.takeWhile_cons_of_neg (by simpa using other), List.length_nil]

/-- Backslashes at the end of an argument are its last character. -/
theorem dropLast_append_of_trailing (odd : ¬Even (trailingBackslashes arg)) :
    arg.dropLast ++ ['\\'] = arg := by
  rcases List.eq_nil_or_concat arg with rfl | ⟨start, last, rfl⟩
  · exact absurd (by decide) odd
  · rw [List.concat_eq_append, trailingBackslashes_append] at odd
    split at odd
    · next backslash =>
        rw [List.concat_eq_append, List.dropLast_concat, backslash]
    · exact absurd (by decide) odd

/-- The splitter behind an opening quote and an argument. -/
def insideQuotes
    (arg curstr : WxString)
    (argv : List WxString) : Splitter :=
  if Even (trailingBackslashes arg) then
    ⟨.dquote, .normal, curstr ++ arg, argv⟩
  else ⟨.escape, .dquote, curstr ++ arg.dropLast, argv⟩

/-- A character that is no quote moves on inside the quotes. -/
theorem step_insideQuotes
    {ch : Char}
    (noQuote : ch ≠ '"') :
    (insideQuotes arg curstr argv).step ch =
      insideQuotes (arg ++ [ch]) curstr argv := by
  simp only [insideQuotes, trailingBackslashes_append]
  by_cases even : Even (trailingBackslashes arg)
  · rw [if_pos even]
    by_cases backslash : ch = '\\'
    · subst backslash
      have odd : ¬Even (trailingBackslashes arg + 1) := by
        rw [Nat.even_add_one]
        exact not_not.mpr even
      rw [if_pos rfl, if_neg odd, List.dropLast_concat]
      rfl
    · rw [if_neg backslash, if_pos (by decide), ← List.append_assoc]
      show Splitter.quoted '"' ch _ = _
      rw [Splitter.quoted, if_neg backslash, if_neg noQuote]
      rfl
  · have whole :
        curstr ++ arg.dropLast ++ ['\\', ch] = curstr ++ (arg ++ [ch]) := by
      rw [← dropLast_append_of_trailing even]
      simp
    have restored :
        Splitter.step ⟨.escape, .dquote, curstr ++ arg.dropLast, argv⟩ ch =
          ⟨.dquote, .normal, curstr ++ (arg ++ [ch]), argv⟩ := by
      show Splitter.escaped '"' ch _ = _
      rw [Splitter.escaped, if_neg noQuote, ← whole]
      rfl
    have evenNow :
        Even (if ch = '\\' then trailingBackslashes arg + 1 else 0) := by
      split
      · exact Nat.even_add_one.mpr even
      · decide
    rw [if_neg even, if_pos evenNow, restored]

/--
An argument behind an opening quote.  A backslash that has not met the
character it takes along is not in the token yet.
-/
theorem run_insideQuotes (noDouble : '"' ∉ arg) :
    arg.foldl Splitter.step ⟨.dquote, .normal, curstr, argv⟩ =
      insideQuotes arg curstr argv := by
  induction arg using List.reverseRecOn with
  | nil =>
      rw [insideQuotes, if_pos (by decide), List.append_nil]
      rfl
  | append_singleton arg ch inductionHypothesis =>
      rw [List.mem_append, List.mem_singleton, not_or] at noDouble
      rw [List.foldl_append, inductionHypothesis noDouble.1,
        List.foldl_cons, List.foldl_nil,
        step_insideQuotes (Ne.symm noDouble.2)]

/-- The characters that mean something outside quotes. -/
def special : WxString :=
  [' ', '\t', '\x27', '"', '\x60']

theorem run_unquoted (bare : ∀ ch ∈ arg, ch ∉ special) :
    arg.foldl Splitter.step ⟨.normal, .normal, curstr, argv⟩ =
      ⟨.normal, .normal, curstr ++ arg, argv⟩ := by
  induction arg using List.reverseRecOn with
  | nil => simp
  | append_singleton arg ch inductionHypothesis =>
      have isBare := bare ch (by simp)
      simp only [special, List.mem_cons, List.not_mem_nil, or_false,
        not_or] at isBare
      rcases isBare with ⟨blank, tab, single, double, backtick⟩
      rw [List.foldl_append,
        inductionHypothesis fun other member =>
          bare other (List.mem_append_left _ member),
        List.foldl_cons, List.foldl_nil, ← List.append_assoc]
      show Splitter.unquoted ch _ = _
      rw [Splitter.unquoted, if_neg (not_or.mpr ⟨blank, tab⟩),
        if_neg single, if_neg double, if_neg backtick]
      rfl

theorem Plain.bare
    (plain : Plain arg)
    (noBlank : ' ' ∉ arg) : ∀ ch ∈ arg, ch ∉ special := by
  intro ch member inSpecial
  simp only [special, List.mem_cons, List.not_mem_nil, or_false]
    at inSpecial
  rcases inSpecial with rfl | rfl | rfl | rfl | rfl
  · exact noBlank member
  · exact plain.noTab member
  · exact plain.noSingle member
  · exact plain.noDouble member
  · exact plain.noBacktick member

/-- The token of an argument whose closing quote is taken along. -/
def openToken (arg : WxString) : WxString :=
  '"' :: arg.dropLast ++ ['"']

/-- A wrapped argument is a token, unless its closing quote is none. -/
theorem run_wrapWithQuotes (plain : Plain arg) :
    (wrapWithQuotes arg).foldl Splitter.step (.start argv) =
      if ' ' ∈ arg → Even (trailingBackslashes arg) then
        ⟨.normal, .normal, wrapWithQuotes arg, argv⟩
      else ⟨.dquote, .normal, openToken arg, argv⟩ := by
  rw [wrapWithQuotes, if_neg plain.ne_nil]
  by_cases blank : ' ' ∈ arg
  · have opened :
        (Splitter.start argv).step '"' =
          ⟨.dquote, .normal, ['"'], argv⟩ := rfl
    rw [if_pos blank, List.cons_append, List.foldl_cons, opened,
      List.foldl_append, run_insideQuotes plain.noDouble, insideQuotes,
      List.foldl_cons, List.foldl_nil]
    by_cases even : Even (trailingBackslashes arg)
    · rw [if_pos even, if_pos fun _ => even]
      rfl
    · rw [if_neg even, if_neg fun all => even (all blank)]
      rfl
  · rw [if_neg blank, if_pos fun isBlank => absurd isBlank blank]
    exact run_unquoted (plain.bare blank)

end Runs

/-! ## What is pushed stays -/

namespace Splitter

/-- A step adds to the token, or pushes it. -/
def Advances (before after : Splitter) : Prop :=
  after.argv = before.argv ∧ before.curstr <+: after.curstr ∨
    after = before.pushCurtoken

section Steps

variable (splitter : Splitter)

theorem advances_changeState (newState : ArgvState) :
    splitter.Advances (splitter.changeState newState) :=
  .inl ⟨rfl, List.prefix_refl _⟩

theorem advances_append (text : WxString) :
    splitter.Advances (splitter.append text) :=
  .inl ⟨rfl, List.prefix_append _ _⟩

theorem advances_append_restoreState (text : WxString) :
    splitter.Advances (splitter.append text).restoreState :=
  .inl ⟨rfl, List.prefix_append _ _⟩

theorem advances_changeState_append (newState : ArgvState) (ch : Char) :
    splitter.Advances ((splitter.changeState newState).append [ch]) :=
  .inl ⟨rfl, List.prefix_append _ _⟩

theorem advances_quoted (quote ch : Char) :
    splitter.Advances (splitter.quoted quote ch) := by
  unfold quoted
  split
  · exact splitter.advances_changeState _
  · split
    · exact splitter.advances_append_restoreState _
    · exact splitter.advances_append _

theorem advances_escaped (quote ch : Char) :
    splitter.Advances (splitter.escaped quote ch) := by
  unfold escaped
  split
  · exact splitter.advances_append_restoreState _
  · exact splitter.advances_append_restoreState _

theorem advances_unquoted (ch : Char) :
    splitter.Advances (splitter.unquoted ch) := by
  unfold unquoted
  split
  · exact .inr rfl
  · split
    · exact splitter.advances_changeState_append _ ch
    · split
      · exact splitter.advances_changeState_append _ ch
      · split
        · exact splitter.advances_changeState_append _ ch
        · exact splitter.advances_append _

theorem advances_step (ch : Char) :
    splitter.Advances (splitter.step ch) := by
  unfold step
  split
  · exact splitter.advances_unquoted ch
  · split
    · exact splitter.advances_escaped _ ch
    · exact splitter.advances_escaped _ ch
    · exact splitter.advances_escaped _ ch
  · exact splitter.advances_quoted _ ch
  · exact splitter.advances_quoted _ ch
  · exact splitter.advances_quoted _ ch

end Steps

/--
Whatever follows, the arguments that were pushed stay, and the token becomes
one or grows into one.
-/
theorem tokens_keep (splitter : Splitter) (text : WxString) :
    ∃ later, splitter.tokens text = splitter.argv ++ later ∧
      (splitter.curstr ≠ [] →
        ∃ token rest,
          later = token :: rest ∧ splitter.curstr <+: token) := by
  induction text generalizing splitter with
  | nil =>
      rw [tokens, List.foldl_nil, pushCurtoken]
      split
      · next empty =>
          exact ⟨[], (List.append_nil _).symm, fun given => absurd empty given⟩
      · exact ⟨[splitter.curstr], rfl, fun _ =>
          ⟨splitter.curstr, [], rfl, List.prefix_refl _⟩⟩
  | cons ch text inductionHypothesis =>
      have moved :
          splitter.tokens (ch :: text) = (splitter.step ch).tokens text := rfl
      rw [moved]
      rcases inductionHypothesis (splitter.step ch) with
        ⟨later, laterEq, tokenLater⟩
      rw [laterEq]
      rcases splitter.advances_step ch with ⟨sameArgv, isPrefix⟩ | pushed
      · refine ⟨later, by rw [sameArgv], fun given => ?_⟩
        have stillGiven : (splitter.step ch).curstr ≠ [] := fun empty =>
          given (List.prefix_nil.mp (empty ▸ isPrefix))
        rcases tokenLater stillGiven with ⟨token, rest, split, grown⟩
        exact ⟨token, rest, split, isPrefix.trans grown⟩
      · rw [pushed, pushCurtoken] at tokenLater ⊢
        split at tokenLater
        · next empty =>
            rw [if_pos empty]
            exact ⟨later, rfl, tokenLater⟩
        · next given =>
            rw [if_neg given]
            refine ⟨splitter.curstr :: later, by simp, fun _ => ?_⟩
            exact ⟨splitter.curstr, later, rfl, List.prefix_refl _⟩

end Splitter

/-! ## What becomes of a token -/

section Tokens

variable {arg token : WxString}

/-- A C string that was passed on has no NUL. -/
theorem nul_not_mem_argument (token : WxString) :
    '\x00' ∉ argument token := by
  have noNul := not_mem_beforeFirst '\x00' token
  simp only [argument]
  split
  · intro member
    exact noNul (List.mem_of_mem_dropLast (List.mem_of_mem_drop member))
  · exact noNul

/-- A token in quotes that is an argument is this argument in quotes. -/
theorem quoted_of_argument_eq
    (noDouble : '"' ∉ arg)
    (opens : (beforeFirst token '\x00').head? = some '"')
    (same : argument token = arg) :
    beforeFirst token '\x00' = '"' :: arg ++ ['"'] := by
  rcases List.head?_eq_some_iff.mp opens with ⟨rest, strEq⟩
  rw [argument, strEq] at same
  rw [strEq]
  split at same
  · next closed =>
      rcases List.eq_nil_or_concat rest with rfl | ⟨middle, last, rfl⟩
      · exact absurd closed.1 (by decide)
      · rw [List.concat_eq_append] at closed same ⊢
        have lastIs := closed.2.2
        rw [← List.cons_append, List.getLast?_concat] at lastIs
        have lastEq : last = '"' := Option.some.inj lastIs
        have middleEq : middle = arg := by
          rw [← List.cons_append, List.dropLast_concat] at same
          exact same
        rw [lastEq, middleEq]
        rfl
  · exact absurd (same ▸ List.mem_cons_self) noDouble

theorem argument_wrapWithQuotes_iff (plain : Plain arg) :
    argument (wrapWithQuotes arg) = arg ↔ '\x00' ∉ arg := by
  constructor
  · intro same
    exact same ▸ nul_not_mem_argument (wrapWithQuotes arg)
  · intro noNul
    rw [wrapWithQuotes, if_neg plain.ne_nil]
    split
    · have whole :
          beforeFirst ('"' :: arg ++ ['"']) '\x00' = '"' :: arg ++ ['"'] := by
        refine (cut_of_absent ?_).1
        simp [noNul]
      have closed :
          1 < ('"' :: arg ++ ['"']).length ∧
            ('"' :: arg ++ ['"']).head? = some '"' ∧
            ('"' :: arg ++ ['"']).getLast? = some '"' :=
        ⟨by simp, rfl, List.getLast?_concat⟩
      rw [argument, whole, if_pos closed, List.dropLast_concat]
      rfl
    · rw [argument, (cut_of_absent noNul).1, if_neg]
      rintro ⟨-, opens, -⟩
      exact plain.noDouble (List.mem_of_mem_head? opens)

/-- A token that is not closed is never the argument. -/
theorem argument_ne_of_openToken
    (plain : Plain arg)
    (odd : ¬Even (trailingBackslashes arg))
    (isPrefix : openToken arg <+: token) :
    argument token ≠ arg := by
  intro same
  have opens : (beforeFirst token '\x00').head? = some '"' := by
    rcases isPrefix with ⟨rest, rfl⟩
    rfl
  have quoted := quoted_of_argument_eq plain.noDouble opens same
  have whole := dropLast_append_of_trailing odd
  have longer : openToken arg <+: '"' :: arg ++ ['"'] := by
    refine List.prefix_of_prefix_length_le isPrefix
      (quoted ▸ List.takeWhile_prefix _) ?_
    simp [openToken]
  rw [openToken, ← whole, List.dropLast_concat, List.cons_append,
    List.cons_append, List.cons_prefix_cons, List.append_assoc,
    List.prefix_append_right_inj, List.singleton_append,
    List.cons_prefix_cons] at longer
  exact absurd longer.2.1 (by decide)

end Tokens

/-! ## Command lines -/

section CommandLines

variable {arg : WxString} {args argv : List WxString}

theorem commandLine_cons (arg : WxString) (args : List WxString) :
    commandLine (arg :: args) =
      wrapWithQuotes arg ++
        if args = [] then [] else ' ' :: commandLine args := by
  cases args with
  | nil => simp [commandLine, List.intercalate_singleton]
  | cons next args =>
      rw [if_neg (List.cons_ne_nil _ _), commandLine, List.map_cons,
        List.map_cons, List.intercalate_cons_cons, List.append_assoc]
      rfl

theorem wrapWithQuotes_ne_nil (plain : Plain arg) :
    wrapWithQuotes arg ≠ [] := by
  rw [wrapWithQuotes, if_neg plain.ne_nil]
  split
  · exact List.cons_ne_nil _ _
  · exact plain.ne_nil

/-- A token is pushed where its argument ends. -/
theorem tokens_behind
    {token : WxString}
    (given : token ≠ []) :
    Splitter.tokens ⟨.normal, .normal, token, argv⟩
        (if args = [] then [] else ' ' :: commandLine args) =
      (Splitter.start (argv ++ [token])).tokens (commandLine args) := by
  have pushed :
      Splitter.pushCurtoken ⟨.normal, .normal, token, argv⟩ =
        .start (argv ++ [token]) :=
    if_neg given
  split
  · next empty =>
      rw [empty, Splitter.tokens, List.foldl_nil, pushed]
      rfl
  · show Splitter.tokens
      (Splitter.pushCurtoken ⟨.normal, .normal, token, argv⟩) _ = _
    rw [pushed]

/--
Behind other arguments a command line gives its own if all of them come back.
The first that does not is the first one to differ.
-/
theorem tokens_commandLine_iff
    (plain : ∀ arg ∈ args, Plain arg)
    (argv : List WxString) :
    ((Splitter.start argv).tokens (commandLine args)).map argument =
        argv.map argument ++ args ↔
      ∀ arg ∈ args, Splittable arg := by
  induction args generalizing argv with
  | nil =>
      refine iff_of_true ?_ nofun
      rw [List.append_nil]
      rfl
  | cons arg args inductionHypothesis =>
      have plainArg := plain arg List.mem_cons_self
      have plainRest : ∀ other ∈ args, Plain other := fun other member =>
        plain other (List.mem_cons_of_mem arg member)
      let behind := if args = [] then [] else ' ' :: commandLine args
      have split :
          (Splitter.start argv).tokens (commandLine (arg :: args)) =
            ((wrapWithQuotes arg).foldl Splitter.step
              (.start argv)).tokens behind := by
        rw [commandLine_cons, Splitter.tokens, List.foldl_append]
        rfl
      rw [split, run_wrapWithQuotes plainArg, List.forall_mem_cons]
      by_cases even : ' ' ∈ arg → Even (trailingBackslashes arg)
      · rw [if_pos even, tokens_behind (wrapWithQuotes_ne_nil plainArg)]
        by_cases noNul : '\x00' ∉ arg
        · have same := (argument_wrapWithQuotes_iff plainArg).mpr noNul
          have shift :
              argv.map argument ++ arg :: args =
                (argv ++ [wrapWithQuotes arg]).map argument ++ args := by
            rw [List.map_append, List.map_singleton, same,
              List.append_assoc]
            rfl
          have comesBack : Splittable arg :=
            { noNul := noNul
              even := even }
          rw [and_iff_right comesBack, shift]
          exact inductionHypothesis plainRest _
        · refine iff_of_false ?_ fun both => noNul both.1.noNul
          rcases (Splitter.start (argv ++ [wrapWithQuotes arg])).tokens_keep
            (commandLine args) with ⟨later, laterEq, -⟩
          rw [laterEq]
          intro equal
          apply noNul
          rw [← argument_wrapWithQuotes_iff plainArg]
          simp only [Splitter.start, List.map_append, List.map_cons,
            List.append_assoc, List.append_cancel_left_eq] at equal
          exact (List.cons.inj equal).1
      · rw [if_neg even]
        have odd : ¬Even (trailingBackslashes arg) := fun isEven =>
          even fun _ => isEven
        refine iff_of_false ?_ fun both => even both.1.even
        rcases Splitter.tokens_keep
          ⟨.dquote, .normal, openToken arg, argv⟩ behind with
          ⟨later, laterEq, tokenLater⟩
        rcases tokenLater (List.cons_ne_nil _ _) with
          ⟨token, rest, rfl, isPrefix⟩
        rw [laterEq]
        intro equal
        simp only [List.map_append, List.map_cons,
          List.append_cancel_left_eq] at equal
        exact argument_ne_of_openToken plainArg odd isPrefix
          (List.cons.inj equal).1

theorem ascii_commandLine
    (plain : ∀ arg ∈ args, Plain arg) :
    ∀ ch ∈ commandLine args, ch.toNat < 128 := by
  induction args with
  | nil => exact nofun
  | cons arg args inductionHypothesis =>
      intro ch member
      have plainArg := plain arg List.mem_cons_self
      rw [commandLine_cons] at member
      rcases List.mem_append.mp member with inArg | behind
      · rw [wrapWithQuotes, if_neg plainArg.ne_nil] at inArg
        split at inArg
        · simp only [List.cons_append, List.mem_cons, List.mem_append,
            List.not_mem_nil, or_false] at inArg
          rcases inArg with rfl | inside | rfl
          · decide
          · exact plainArg.ascii ch inside
          · decide
        · exact plainArg.ascii ch inArg
      · split at behind
        · cases behind
        · rcases List.mem_cons.mp behind with rfl | later
          · decide
          · have plainRest : ∀ other ∈ args, Plain other :=
              fun other memberRest =>
                plain other (List.mem_cons_of_mem arg memberRest)
            exact inductionHypothesis plainRest ch later

/--
Arguments come back from their command line if none has a NUL and none with a
blank ends in an odd number of backslashes.
-/
theorem buildArgv_commandLine_iff
    (locale : Locale)
    (plain : ∀ arg ∈ args, Plain arg) :
    buildArgv locale (commandLine args) = args ↔
      ∀ arg ∈ args, Splittable arg := by
  have narrowed :
      (commandLine args).map locale.narrow = commandLine args :=
    (List.map_congr_left fun ch member =>
      locale.ascii ch (ascii_commandLine plain ch member)).trans
      (List.map_id _)
  rw [buildArgv, narrowed]
  exact tokens_commandLine_iff plain []

end CommandLines

/-- A locale in which every character is a `char`. -/
def latin : Locale where
  narrow := id
  ascii := fun _ _ => rfl

/-- Whether an argument is plain can be computed. -/
theorem plain_of_all
    {arg : WxString}
    (given : arg ≠ [])
    (all :
      arg.all (fun ch =>
        decide (ch.toNat < 128) &&
          !(['"', '\x27', '\x60', '\t'].contains ch)) =
        true) :
    Plain arg := by
  have each := List.all_eq_true.mp all
  have absent (ch : Char) (quote : ['"', '\x27', '\x60', '\t'].contains ch) :
      ch ∉ arg := by
    intro member
    have bare := each ch member
    rw [quote] at bare
    simp at bare
  exact
    { ne_nil := given
      ascii := fun ch member =>
        of_decide_eq_true (Bool.and_eq_true_iff.mp (each ch member)).1
      noDouble := absent '"' (by decide)
      noSingle := absent '\x27' (by decide)
      noBacktick := absent '\x60' (by decide)
      noTab := absent '\t' (by decide) }

/-- A directory without a blank, and one with a blank and two backslashes. -/
theorem buildArgv_directories :
    buildArgv latin
        (commandLine ["C:\\d\\".toList, "a b\\\\".toList]) =
      ["C:\\d\\".toList, "a b\\\\".toList] := by
  refine (buildArgv_commandLine_iff latin ?_).mpr ?_
  · rw [List.forall_mem_cons, List.forall_mem_singleton]
    exact ⟨plain_of_all (by decide) rfl, plain_of_all (by decide) rfl⟩
  · rw [List.forall_mem_cons, List.forall_mem_singleton]
    exact
      ⟨{ noNul := by decide
         even := fun blank => absurd blank (by decide) },
        { noNul := by decide
          even := fun _ => by decide }⟩

/-- The backslash takes the closing quote along. -/
theorem buildArgv_blank_backslash :
    buildArgv latin (commandLine ["a b\\".toList]) ≠ ["a b\\".toList] := by
  decide

end DebuggerDap.Text.ArgumentVector
