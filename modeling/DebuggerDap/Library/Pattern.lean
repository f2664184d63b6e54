import Mathlib.Data.List.Infix
import Mathlib.Data.List.TakeWhile

/-!
# Patterns without alternatives

A pattern is a sequence of pieces, each of which is a class of letters and how
many of them it takes.  Matching is greedy: a piece takes as much as it can
and gives back one letter after another until the pieces behind it match.  A
search finds the match that starts furthest to the left.

A match is given by the text each piece has taken.
-/

namespace DebuggerDap.Library.Pattern

variable {α β : Type*}

/-- A class of letters, with a bound on how many of them there are. -/
structure Piece (α : Type*) where
  accepts : α → Bool
  least : Nat
  most : Option Nat

namespace Piece

def one (accepts : α → Bool) : Piece α where
  accepts := accepts
  least := 1
  most := some 1

def star (accepts : α → Bool) : Piece α where
  accepts := accepts
  least := 0
  most := none

def plus (accepts : α → Bool) : Piece α where
  accepts := accepts
  least := 1
  most := none

/-- How much of a text the piece can take. -/
def reach (piece : Piece α) (text : List α) : Nat :=
  let run := (text.takeWhile piece.accepts).length
  piece.most.elim run (Nat.min run)

end Piece

/-- What there is for the largest number that has a result. -/
def greatest (result : Nat → Option β) (least : Nat) : Nat → Option β
  | 0 => if least = 0 then result 0 else none
  | most + 1 =>
      if most + 1 < least then none
      else (result (most + 1)).or (greatest result least most)

/-- The texts the pieces take at the head of a text. -/
def matchPrefix : List (Piece α) → List α → Option (List (List α))
  | [], _ => some []
  | piece :: pieces, text =>
      greatest
        (fun taken =>
          (matchPrefix pieces (text.drop taken)).map (text.take taken :: ·))
        piece.least (piece.reach text)

/-- The match that starts furthest to the left. -/
def search (pieces : List (Piece α)) : List α → Option (List (List α))
  | [] => matchPrefix pieces []
  | letter :: text =>
      (matchPrefix pieces (letter :: text)).or (search pieces text)

/-! ## The largest number -/

section Greatest

variable {result : Nat → Option β} {least most : Nat}

theorem greatest_of_last
    {chosen : Nat}
    {found : β}
    (enough : least ≤ chosen)
    (withinReach : chosen ≤ most)
    (foundThere : result chosen = some found)
    (noneLater : ∀ more, chosen < more → more ≤ most → result more = none) :
    greatest result least most = some found := by
  induction most with
  | zero =>
      have zero : chosen = 0 := Nat.le_zero.mp withinReach
      subst zero
      rw [greatest, if_pos (Nat.le_zero.mp enough), foundThere]
  | succ most inductionHypothesis =>
      have inRange : ¬most + 1 < least := by omega
      rw [greatest, if_neg inRange]
      rcases Nat.lt_or_eq_of_le withinReach with smaller | rfl
      · rw [noneLater (most + 1) smaller (Nat.le_refl _), Option.none_or]
        exact inductionHypothesis (Nat.le_of_lt_succ smaller)
          fun more later within =>
            noneLater more later (Nat.le_succ_of_le within)
      · rw [foundThere, Option.some_or]

theorem greatest_eq_none
    (noResult : ∀ taken, least ≤ taken → taken ≤ most → result taken = none) :
    greatest result least most = none := by
  induction most with
  | zero =>
      rw [greatest]
      split
      · next zero => exact noResult 0 (Nat.le_of_eq zero) (Nat.le_refl 0)
      · rfl
  | succ most inductionHypothesis =>
      rw [greatest]
      split
      · rfl
      · next inRange =>
          rw [noResult (most + 1) (Nat.le_of_not_lt inRange) (Nat.le_refl _),
            Option.none_or]
          exact inductionHypothesis fun taken enough within =>
            noResult taken enough (Nat.le_succ_of_le within)

end Greatest

/-! ## Matching -/

section Matching

variable {accepts : α → Bool} {pieces : List (Piece α)}

/-- A piece for one letter takes it if it accepts it. -/
theorem matchPrefix_one
    {letter : α}
    (accepted : accepts letter = true)
    (text : List α) :
    matchPrefix (.one accepts :: pieces) (letter :: text) =
      (matchPrefix pieces text).map ([letter] :: ·) := by
  have reach : Piece.reach (.one accepts) (letter :: text) = 1 := by
    rw [Piece.reach, Piece.one, List.takeWhile_cons_of_pos accepted]
    show Nat.min (_ + 1) 1 = 1
    exact Nat.min_eq_right (Nat.succ_le_succ (Nat.zero_le _))
  rw [matchPrefix, reach]
  show greatest _ 1 (0 + 1) = _
  rw [greatest, if_neg (Nat.lt_irrefl 1), greatest, if_neg Nat.one_ne_zero,
    Option.or_none]
  rfl

/--
A piece for many letters takes a run of them if the pieces behind match there
and match nowhere further along the letters it accepts.
-/
theorem matchPrefix_many
    {piece : Piece α}
    {run rest : List α}
    {groups : List (List α)}
    (unbounded : piece.most = none)
    (accepted : ∀ letter ∈ run, piece.accepts letter = true)
    (enough : piece.least ≤ run.length)
    (matched : matchPrefix pieces rest = some groups)
    (noneLater :
      ∀ skipped later, rest = skipped ++ later → skipped ≠ [] →
        (∀ letter ∈ skipped, piece.accepts letter = true) →
          matchPrefix pieces later = none) :
    matchPrefix (piece :: pieces) (run ++ rest) = some (run :: groups) := by
  have reach :
      piece.reach (run ++ rest) =
        run.length + (rest.takeWhile piece.accepts).length := by
    rw [Piece.reach, unbounded, Option.elim_none,
      List.takeWhile_append_of_pos accepted, List.length_append]
  rw [matchPrefix]
  refine greatest_of_last enough ?_ ?_ ?_
  · rw [reach]
    exact Nat.le_add_right _ _
  · rw [List.drop_left, List.take_left, matched, Option.map_some]
  · intro more later within
    rw [reach] at within
    rcases Nat.exists_eq_add_of_lt later with ⟨extra, rfl⟩
    have within' :
        extra + 1 ≤ (rest.takeWhile piece.accepts).length := by omega
    have skippedAccepted :
        ∀ letter ∈ rest.take (extra + 1), piece.accepts letter = true := by
      intro letter member
      have isPrefix :
          rest.take (extra + 1) <+: rest.takeWhile piece.accepts := by
        refine List.prefix_of_prefix_length_le (List.take_prefix _ _)
          (List.takeWhile_prefix _) ?_
        exact (List.length_take_le _ _).trans within'
      exact List.mem_takeWhile_imp (isPrefix.subset member)
    have skippedNonempty : rest.take (extra + 1) ≠ [] := by
      intro empty
      have long := (List.takeWhile_prefix piece.accepts (l := rest)).length_le
      have short := congrArg List.length empty
      rw [List.length_take, List.length_nil] at short
      omega
    rw [Nat.add_assoc, List.drop_length_add_append,
      noneLater (rest.take (extra + 1)) (rest.drop (extra + 1))
        (List.take_append_drop _ _).symm skippedNonempty skippedAccepted,
      Option.map_none]

/-- A run that ends where the piece accepts no more is taken as a whole. -/
theorem matchPrefix_run
    {piece : Piece α}
    {run rest : List α}
    {groups : List (List α)}
    (unbounded : piece.most = none)
    (accepted : ∀ letter ∈ run, piece.accepts letter = true)
    (enough : piece.least ≤ run.length)
    (ends : ∀ letter ∈ rest.head?, piece.accepts letter = false)
    (matched : matchPrefix pieces rest = some groups) :
    matchPrefix (piece :: pieces) (run ++ rest) = some (run :: groups) := by
  refine matchPrefix_many unbounded accepted enough matched ?_
  rintro skipped later rfl nonempty allAccepted
  rcases List.exists_cons_of_ne_nil nonempty with ⟨letter, others, rfl⟩
  have refused := ends letter rfl
  rw [allAccepted letter List.mem_cons_self] at refused
  cases refused

/-- There is no match if a piece needs a letter that is nowhere. -/
theorem matchPrefix_eq_none_of_absent
    {piece : Piece α}
    {text : List α}
    (needed : piece ∈ pieces)
    (atLeastOne : 0 < piece.least)
    (absent : ∀ letter ∈ text, piece.accepts letter = false) :
    matchPrefix pieces text = none := by
  induction pieces generalizing text with
  | nil => cases needed
  | cons first pieces inductionHypothesis =>
      rw [matchPrefix]
      apply greatest_eq_none
      intro taken enough within
      rcases List.mem_cons.mp needed with rfl | behind
      · have nothing : text.takeWhile piece.accepts = [] := by
          cases text with
          | nil => rfl
          | cons letter text =>
              rw [List.takeWhile_cons_of_neg]
              simp [absent letter List.mem_cons_self]
        have short : piece.reach text = 0 := by
          rw [Piece.reach, nothing]
          cases piece.most with
          | none => rfl
          | some most => exact Nat.zero_min most
        omega
      · rw [inductionHypothesis behind fun letter member =>
          absent letter (List.mem_of_mem_drop member)]
        rfl

theorem search_eq_none_of_absent
    {piece : Piece α}
    {text : List α}
    (needed : piece ∈ pieces)
    (atLeastOne : 0 < piece.least)
    (absent : ∀ letter ∈ text, piece.accepts letter = false) :
    search pieces text = none := by
  induction text with
  | nil => exact matchPrefix_eq_none_of_absent needed atLeastOne absent
  | cons letter text inductionHypothesis =>
      rw [search, matchPrefix_eq_none_of_absent needed atLeastOne absent,
        Option.none_or]
      exact inductionHypothesis fun other member =>
        absent other (List.mem_cons_of_mem _ member)

/-- A match at the head of the text is the first one. -/
theorem search_of_matchPrefix
    {text : List α}
    {groups : List (List α)}
    (matched : matchPrefix pieces text = some groups) :
    search pieces text = some groups := by
  cases text with
  | nil => exact matched
  | cons letter text => rw [search, matched, Option.some_or]

end Matching

end DebuggerDap.Library.Pattern
