import DebuggerDap.Protocol.JsonReading

/-!
# The parser comes to an end, inside its buffers

The calls of the parser nest no deeper than twice the length of the text.  It
leaves its buffers, or uses a variable it never set, only where a backslash
ends the text or where `\u` is not followed by four hexadecimal digits; no
other malformed text can lead it there.
-/

namespace DebuggerDap.Protocol.JsonSafety

open DebuggerDap.Text.Strings
open DebuggerDap.Text.Utf8
open DebuggerDap.Library.Bytes
open DebuggerDap.Protocol.JsonTree
open DebuggerDap.Protocol.JsonParser
open DebuggerDap.Protocol.JsonCodes
open DebuggerDap.Protocol.JsonNumbers
open DebuggerDap.Protocol.JsonQuoted
open DebuggerDap.Protocol.JsonReading

/-- Behind every quote the escapes are complete, up to the next quote. -/
def WellEscaped (text : List UInt8) : Prop :=
  ∀ before after, text = before ++ byte '"' :: after → Escaped after

theorem WellEscaped.of_suffix
    {rest text : List UInt8}
    (escaped : WellEscaped text)
    (suffix : rest <:+ text) : WellEscaped rest := by
  rcases suffix with ⟨front, rfl⟩
  rintro before after rfl
  exact escaped (front ++ before) after (List.append_assoc _ _ _).symm

/--
A parser that is defined on such a text, ends, and leaves less of the text
than it was given.
-/
structure Settles
    {α : Type}
    (text : List UInt8)
    (parsed : Except Failure (α × List UInt8)) : Prop where
  shorter :
    ∀ value rest, parsed = .ok (value, rest) →
      rest <:+ text ∧ rest.length < text.length
  ends : parsed ≠ .error .exhausted
  defined : WellEscaped text → parsed ≠ .error .undefined

theorem ok_ne_error
    {α : Type}
    (value : α)
    {failure : Failure} :
    (Except.ok value : Except Failure α) ≠ .error failure := by
  rintro ⟨⟩

theorem error_ne_ok
    {α : Type}
    {value : α}
    {failure : Failure} :
    (Except.error failure : Except Failure α) ≠ .ok value :=
  (ok_ne_error value).symm

theorem error_ne_error
    {α : Type}
    {failure other : Failure}
    (apart : failure ≠ other) :
    (Except.error failure : Except Failure α) ≠ .error other :=
  fun same => apart (Except.error.inj same)

section Settling

variable {α β : Type} {text rest small : List UInt8}

theorem settles_ok
    {value : α}
    (suffix : rest <:+ text)
    (shorter : rest.length < text.length) :
    Settles text (.ok (value, rest)) where
  shorter := by
    rintro other left equal
    cases equal
    exact ⟨suffix, shorter⟩
  ends := nofun
  defined := nofun

theorem settles_error
    {failure : Failure}
    (ends : failure ≠ .exhausted)
    (defined : WellEscaped text → failure ≠ .undefined) :
    Settles text (.error failure : Except Failure (α × List UInt8)) where
  shorter := nofun
  ends same := ends (Except.error.inj same)
  defined escaped same := defined escaped (Except.error.inj same)

theorem settles_malformed :
    Settles text (.error .malformed : Except Failure (α × List UInt8)) :=
  settles_error nofun fun _ => nofun

theorem Settles.mono
    {parsed : Except Failure (α × List UInt8)}
    (settles : Settles small parsed)
    (suffix : small <:+ text) : Settles text parsed where
  shorter value rest equal := by
    rcases settles.shorter value rest equal with ⟨kept, shorter⟩
    exact ⟨kept.trans suffix, Nat.lt_of_lt_of_le shorter suffix.length_le⟩
  ends := settles.ends
  defined escaped := settles.defined (escaped.of_suffix suffix)

theorem Settles.bind
    {parsed : Except Failure (α × List UInt8)}
    {next : α × List UInt8 → Except Failure (β × List UInt8)}
    (settles : Settles text parsed)
    (later :
      ∀ value rest, rest <:+ text → rest.length < text.length →
        Settles text (next (value, rest))) :
    Settles text (parsed.bind next) := by
  cases parsed with
  | error failure =>
      exact settles_error
        (fun same => settles.ends (congrArg Except.error same))
        (fun escaped same =>
          settles.defined escaped (congrArg Except.error same))
  | ok result =>
      rcases settles.shorter result.1 result.2 rfl with ⟨suffix, shorter⟩
      exact later result.1 result.2 suffix shorter

end Settling

/-! ## Texts and numbers -/

theorem skip_suffix (text : List UInt8) : skip text <:+ text :=
  List.dropWhile_suffix _

/-- The second pass leaves an end of the text, and comes to one. -/
def Kept
    (text : List UInt8)
    (copied : Except Failure (List UInt8 × List UInt8)) : Prop :=
  (∀ out rest, copied = .ok (out, rest) → rest <:+ text) ∧
    copied ≠ .error .exhausted

theorem kept_prepend
    {text small bytes : List UInt8}
    {copied : Except Failure (List UInt8 × List UInt8)}
    (kept : Kept small copied)
    (suffix : small <:+ text) : Kept text (prepend bytes copied) := by
  cases copied with
  | error failure =>
      exact ⟨nofun, fun same => kept.2
        (congrArg Except.error (Except.error.inj same))⟩
  | ok result =>
      refine ⟨fun out rest equal => ?_, nofun⟩
      cases equal
      exact (kept.1 result.1 result.2 rfl).trans suffix

theorem readEscape_ends
    (uc uc2 : Option UInt32)
    (text : List UInt8) :
    readEscape uc uc2 text ≠ .error .exhausted := by
  fun_cases readEscape uc uc2 text
  all_goals nofun

theorem kept_copyString
    (text : List UInt8)
    (uc uc2 : Option UInt32)
    (width : Nat) : Kept text (copyString uc uc2 width text) := by
  induction text generalizing uc uc2 width with
  | nil =>
      cases width with
      | zero =>
          refine ⟨fun out rest equal => ?_, ok_ne_error _⟩
          cases equal
          exact List.suffix_refl _
      | succ width =>
          exact ⟨fun _ _ equal => (error_ne_ok equal).elim,
            error_ne_error Failure.noConfusion⟩
  | cons code text inductionHypothesis =>
      have suffix := List.suffix_cons code text
      cases width with
      | succ width =>
          rcases inductionHypothesis uc uc2 width with ⟨kept, ends⟩
          exact ⟨fun out rest equal => (kept out rest equal).trans suffix, ends⟩
      | zero =>
          rw [copyString]
          split_ifs
          · refine ⟨fun out rest equal => ?_, ok_ne_error _⟩
            cases equal
            exact List.suffix_refl _
          · exact kept_prepend (inductionHypothesis uc uc2 0) suffix
          · cases read : readEscape uc uc2 text with
            | error failure =>
                refine ⟨fun _ _ equal => (error_ne_ok equal).elim,
                  fun same => readEscape_ends uc uc2 text ?_⟩
                rw [read]
                exact congrArg Except.error (Except.error.inj same)
            | ok escape =>
                exact kept_prepend (inductionHypothesis _ _ _) suffix

theorem stringLength_ends
    (width : Nat)
    (text : List UInt8) :
    stringLength width text ≠ .error .exhausted := by
  induction text generalizing width with
  | nil =>
      cases width with
      | zero => exact ok_ne_error _
      | succ width => exact error_ne_error Failure.noConfusion
  | cons code text inductionHypothesis =>
      have counted (later : Nat) :
          (stringLength later text).map (1 + ·) ≠ .error .exhausted := by
        have ends := inductionHypothesis later
        cases counts : stringLength later text with
        | error failure =>
            rw [counts] at ends
            exact fun same => ends
              (congrArg Except.error (Except.error.inj same))
        | ok len => exact ok_ne_error _
      cases width with
      | succ width => exact inductionHypothesis width
      | zero =>
          rw [stringLength]
          split_ifs
          · exact ok_ne_error _
          · exact counted 1
          · exact counted 0

theorem settles_parseString (text : List UInt8) :
    Settles text (parseString text) := by
  cases text with
  | nil => exact settles_malformed
  | cons code text =>
      by_cases quote : code = byte '"'
      · subst quote
        have shape :
            parseString (byte '"' :: text) =
              (stringLength 0 text).bind fun len =>
                (copyString none none 0 text).bind fun copied =>
                  if copied.1.length ≤ len then
                    .ok (copied.1, copied.2.tail)
                  else .error .undefined :=
          if_pos rfl
        have ends := stringLength_ends 0 text
        have kept := kept_copyString text none none 0
        have passes : WellEscaped (byte '"' :: text) → PassesEnd text :=
          fun escaped => passesEnd_of_escaped (escaped [] text rfl)
        rw [shape]
        cases counts : stringLength 0 text with
        | error failure =>
            rw [counts] at ends
            refine settles_error (fun same => ends (congrArg _ same)) ?_
            rintro escaped -
            rcases passes escaped none none with ⟨len, -, -, counted, -⟩
            rw [counts] at counted
            cases counted
        | ok len =>
            cases copies : copyString none none 0 text with
            | error failure =>
                rw [copies] at kept
                refine settles_error (fun same => kept.2 (congrArg _ same)) ?_
                rintro escaped -
                rcases passes escaped none none with
                  ⟨-, out, rest, -, copied, -⟩
                rw [copies] at copied
                cases copied
            | ok copied =>
                show Settles _ (if copied.1.length ≤ len then _ else _)
                split_ifs with enough
                · have suffix := kept.1 copied.1 copied.2 copies
                  have tail := (List.tail_suffix copied.2).trans suffix
                  exact settles_ok (tail.trans (List.suffix_cons _ _))
                    (Nat.lt_succ_of_le tail.length_le)
                · refine settles_error nofun ?_
                  rintro escaped -
                  rcases passes escaped none none with
                    ⟨room, out, rest, counted, written, fits, -⟩
                  rw [counts] at counted
                  rw [copies] at written
                  cases counted
                  cases written
                  exact enough fits
      · have head : (code :: text).head? ≠ some (byte '"') :=
          fun same => quote (Option.some.inj same)
        rw [parseString, if_neg head]
        exact settles_malformed

theorem takeDigits_suffix (text : List UInt8) : (takeDigits text).2 <:+ text :=
  List.dropWhile_suffix _

theorem leadingDigits_suffix (text : List UInt8) :
    (leadingDigits text).2 <:+ text := by
  unfold leadingDigits
  split
  · exact List.suffix_refl _
  · split_ifs
    · exact takeDigits_suffix _
    · exact List.suffix_refl _

theorem wholePart_suffix (text : List UInt8) : (wholePart text).2 <:+ text := by
  rw [wholePart]
  split_ifs
  · exact (leadingDigits_suffix _).trans (List.tail_suffix text)
  · exact leadingDigits_suffix text

/-- A first digit is always taken. -/
theorem wholePart_cons_suffix
    {code : UInt8}
    {rest : List UInt8}
    (digit : isDigit code = true) :
    (wholePart (code :: rest)).2 <:+ rest := by
  rw [wholePart]
  split_ifs with zero
  · exact leadingDigits_suffix rest
  · have nonzero : code ≠ byte '0' := fun same => zero (congrArg some same)
    rw [leadingDigits, if_pos ((nonzero_iff code).mpr ⟨digit, nonzero⟩),
      takeDigits, List.dropWhile_cons_of_pos digit]
    exact List.dropWhile_suffix _

theorem fractionPart_suffix (text : List UInt8) :
    (fractionPart text).2 <:+ text := by
  unfold fractionPart
  split
  · split_ifs
    · exact (takeDigits_suffix _).trans (List.suffix_cons _ _)
    · exact List.suffix_refl _
  · exact List.suffix_refl _

theorem exponentPart_suffix (text : List UInt8) :
    (exponentPart text).2.2 <:+ text := by
  unfold exponentPart
  split
  · exact List.suffix_refl _
  · next mark rest =>
      have behind := List.suffix_cons mark rest
      have tail := (List.tail_suffix rest).trans behind
      split_ifs
      · exact (takeDigits_suffix _).trans tail
      · exact (takeDigits_suffix _).trans tail
      · exact (takeDigits_suffix _).trans behind
      · exact List.suffix_refl _

theorem parseNumber_suffix
    (doubles : Doubles)
    {code : UInt8}
    {rest : List UInt8}
    (numeric : code = byte '-' ∨ isDigit code = true) :
    (parseNumber doubles (code :: rest)).2 <:+ rest := by
  have later := (exponentPart_suffix
    (fractionPart (wholePart (if (code :: rest).head? = some (byte '-') then
      (code :: rest).tail else code :: rest)).2).2).trans
    (fractionPart_suffix _)
  refine later.trans ?_
  split_ifs with minus
  · exact wholePart_suffix rest
  · rcases numeric with rfl | digit
    · exact absurd rfl minus
    · exact wholePart_cons_suffix digit

/-! ## Values -/

section Values

variable (platform : Platform)

theorem settles_drop
    {α : Type}
    (value : α)
    (count : Nat)
    (code : UInt8)
    (rest : List UInt8) :
    Settles (code :: rest)
      (.ok (value, (code :: rest).drop (count + 1)) :
        Except Failure (α × List UInt8)) := by
  refine settles_ok (List.drop_suffix _ _) ?_
  rw [List.length_drop, List.length_cons]
  omega

/-- An empty container takes its brackets. -/
theorem settles_skip_tail
    {α : Type}
    (value : α)
    (code : UInt8)
    (rest : List UInt8) :
    Settles (code :: rest)
      (.ok (value, (skip rest).tail) : Except Failure (α × List UInt8)) := by
  have suffix := (List.tail_suffix (skip rest)).trans (skip_suffix rest)
  exact settles_ok (suffix.trans (List.suffix_cons code rest))
    (Nat.lt_succ_of_le suffix.length_le)

/-- Behind blanks and one byte the rest is shorter still. -/
theorem skip_cons_suffix
    {code : UInt8}
    {text rest others : List UInt8}
    (behind : skip rest = code :: others)
    (suffix : rest <:+ text)
    (shorter : rest.length < text.length) :
    others <:+ text ∧ others.length + 1 < text.length := by
  have kept := skip_suffix rest
  rw [behind] at kept
  have bound := kept.length_le
  rw [List.length_cons] at bound
  exact ⟨((List.suffix_cons code others).trans kept).trans suffix, by omega⟩

mutual

theorem settles_parseValue
    (fuel : Nat)
    (text : List UInt8)
    (enough : 2 * text.length + 1 ≤ fuel) :
    Settles text (parseValue platform fuel text) := by
  cases fuel with
  | zero => exact absurd enough (Nat.not_succ_le_zero _)
  | succ fuel =>
      cases text with
      | nil => exact settles_malformed
      | cons code rest =>
          have behind : skip rest <:+ code :: rest :=
            (skip_suffix rest).trans (List.suffix_cons code rest)
          have shorter : 2 * (skip rest).length + 2 ≤ fuel := by
            have bound := (skip_suffix rest).length_le
            rw [List.length_cons] at enough
            omega
          rw [parseValue]
          split_ifs with n f t quote numeric bracket empty brace empty
          · exact settles_drop _ 3 code rest
          · exact settles_drop _ 4 code rest
          · exact settles_drop _ 3 code rest
          · exact Settles.bind (settles_parseString _)
              fun _ _ suffix shorter => settles_ok suffix shorter
          · have suffix := @parseNumber_suffix platform.doubles _ rest numeric
            exact settles_ok (suffix.trans (List.suffix_cons code rest))
              (Nat.lt_succ_of_le suffix.length_le)
          · exact settles_skip_tail _ code rest
          · exact Settles.bind
              ((settles_parseItems fuel (skip rest) shorter).mono behind)
              fun _ _ suffix shorter => settles_ok suffix shorter
          · exact settles_skip_tail _ code rest
          · exact Settles.bind
              ((settles_parseMembers fuel (skip rest) shorter).mono behind)
              fun _ _ suffix shorter => settles_ok suffix shorter
          · exact settles_malformed

theorem settles_parseItems
    (fuel : Nat)
    (text : List UInt8)
    (enough : 2 * text.length + 2 ≤ fuel) :
    Settles text (parseItems platform fuel text) := by
  cases fuel with
  | zero => exact absurd enough (Nat.not_succ_le_zero _)
  | succ fuel =>
      have first := (skip_suffix text).length_le
      rw [parseItems]
      refine Settles.bind ((settles_parseValue fuel (skip text) (by omega)).mono
        (skip_suffix text)) fun item rest suffix shorter => ?_
      dsimp only
      cases behind : skip rest with
      | nil => exact settles_malformed
      | cons code others =>
          rcases skip_cons_suffix behind suffix shorter with ⟨kept, fewer⟩
          have later := (skip_suffix others).length_le
          dsimp only
          split_ifs
          · refine Settles.bind
              ((settles_parseItems fuel (skip others) (by omega)).mono
                ((skip_suffix others).trans kept)) fun _ _ suffix shorter => ?_
            exact settles_ok suffix shorter
          · exact settles_ok kept (by omega)
          · exact settles_malformed

theorem settles_parseMembers
    (fuel : Nat)
    (text : List UInt8)
    (enough : 2 * text.length + 2 ≤ fuel) :
    Settles text (parseMembers platform fuel text) := by
  cases fuel with
  | zero => exact absurd enough (Nat.not_succ_le_zero _)
  | succ fuel =>
      rw [parseMembers]
      refine Settles.bind ((settles_parseString (skip text)).mono
        (skip_suffix text)) fun name rest suffix shorter => ?_
      dsimp only
      cases behind : skip rest with
      | nil => exact settles_malformed
      | cons colon value =>
          rcases skip_cons_suffix behind suffix shorter with ⟨kept, fewer⟩
          have next := (skip_suffix value).length_le
          dsimp only
          split_ifs
          · exact settles_malformed
          · refine Settles.bind
              ((settles_parseValue fuel (skip value) (by omega)).mono
                ((skip_suffix value).trans kept))
              fun item rest suffix shorter => ?_
            dsimp only
            cases behind : skip rest with
            | nil => exact settles_malformed
            | cons code others =>
                rcases skip_cons_suffix behind suffix shorter with
                  ⟨kept, fewer⟩
                have later := (skip_suffix others).length_le
                dsimp only
                split_ifs
                · refine Settles.bind
                    ((settles_parseMembers fuel (skip others)
                      (by omega)).mono ((skip_suffix others).trans kept))
                    fun _ _ suffix shorter => ?_
                  exact settles_ok suffix shorter
                · exact settles_ok kept (by omega)
                · exact settles_malformed

end

/--
The parser ends on every text.  If the escapes behind every quote of the text
are complete, it never leaves its buffers, whatever else is wrong with it.
-/
theorem cJSONParse_settles (text : List UInt8) :
    cJSONParse platform text ≠ .error .exhausted ∧
      (WellEscaped text → cJSONParse platform text ≠ .error .undefined) := by
  have bound := (skip_suffix text).length_le
  have settles := (settles_parseValue platform (2 * text.length + 1)
    (skip text) (by omega)).mono (skip_suffix text)
  rw [cJSONParse]
  cases parsed : parseValue platform (2 * text.length + 1) (skip text) with
  | ok result =>
      rcases result with ⟨json | json, rest⟩
      · exact ⟨error_ne_error (by decide), fun _ => error_ne_error (by decide)⟩
      · exact ⟨ok_ne_error json, fun _ => ok_ne_error json⟩
  | error failure =>
      rw [parsed] at settles
      exact ⟨fun same => settles.ends (congrArg _ (Except.error.inj same)),
        fun escaped same =>
          settles.defined escaped (congrArg _ (Except.error.inj same))⟩

end Values

/-- A quoted text that is not closed. -/
theorem wellEscaped_open : WellEscaped [byte '"', byte 'a'] := by
  intro before after shape
  cases before with
  | nil =>
      rw [← (List.cons.inj shape).2]
      exact .plain (by decide) (by decide) .nil
  | cons first before =>
      have behind := (List.cons.inj shape).2
      cases before with
      | nil => exact absurd (List.cons.inj behind).1 (by decide)
      | cons second before => simp at behind

theorem cJSONParse_settles_open :
    cJSONParse bytePlatform [byte '"', byte 'a'] ≠ .error .undefined :=
  (cJSONParse_settles bytePlatform [byte '"', byte 'a']).2 wellEscaped_open

end DebuggerDap.Protocol.JsonSafety
