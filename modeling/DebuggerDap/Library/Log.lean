import Mathlib.Data.List.Basic

/-!
# What a log says last

A log lists what has happened, newest first.  A condition that some entries
begin and others end holds when the last entry that begins it was followed by
none that ends it.  A log keeps silence when no entry of a kind was written
while the condition held.
-/

namespace DebuggerDap.Library.Log

variable {α : Type*}

/-- After the last entry that begins the condition none ends it. -/
def LastSince (begins ends : α → Prop) (log : List α) : Prop :=
  ∃ later entry earlier,
    log = later ++ entry :: earlier ∧
      begins entry ∧ ∀ other ∈ later, ¬ begins other ∧ ¬ ends other

/-- No entry of a kind was written while the condition held. -/
def Silent (kind begins ends : α → Prop) : List α → Prop
  | [] => True
  | entry :: log =>
      (kind entry → ¬ LastSince begins ends log) ∧ Silent kind begins ends log

section Rules

variable {kind begins ends : α → Prop}

theorem not_lastSince_nil : ¬ LastSince begins ends [] := by
  rintro ⟨later, entry, earlier, split, -⟩
  cases later <;> cases split

/-- The newest entry decides, or the condition is as it was before. -/
theorem lastSince_cons (entry : α) (log : List α) :
    LastSince begins ends (entry :: log) ↔
      begins entry ∨ ¬ ends entry ∧ LastSince begins ends log := by
  constructor
  · rintro ⟨later, last, earlier, split, began, quiet⟩
    cases later with
    | nil =>
        cases split
        exact Or.inl began
    | cons newest later =>
        cases split
        have newestQuiet := quiet entry List.mem_cons_self
        exact Or.inr ⟨newestQuiet.2, later, last, earlier, rfl, began,
          fun other member => quiet other (List.mem_cons_of_mem _ member)⟩
  · intro holds
    by_cases began : begins entry
    · exact ⟨[], entry, log, rfl, began, fun other member =>
        absurd member List.not_mem_nil⟩
    · rcases holds with now | ⟨going, later, last, earlier, rfl, before, quiet⟩
      · exact absurd now began
      · refine ⟨entry :: later, last, earlier, rfl, before, ?_⟩
        intro other member
        rcases List.mem_cons.mp member with rfl | old
        · exact ⟨began, going⟩
        · exact quiet other old

/-- The newest entry decides, so the log can be read entry by entry. -/
instance LastSince.decidable
    [DecidablePred begins]
    [DecidablePred ends] :
    DecidablePred (LastSince begins ends)
  | [] => isFalse not_lastSince_nil
  | entry :: log =>
      haveI := LastSince.decidable log
      decidable_of_iff
        (begins entry ∨ ¬ ends entry ∧ LastSince begins ends log)
        (lastSince_cons entry log).symm

/-- An entry that neither begins nor ends the condition changes nothing. -/
theorem lastSince_cons_of_neither
    {entry : α}
    (notBegins : ¬ begins entry)
    (notEnds : ¬ ends entry)
    (log : List α) :
    LastSince begins ends (entry :: log) ↔ LastSince begins ends log := by
  rw [lastSince_cons]
  constructor
  · rintro (now | ⟨-, before⟩)
    · exact absurd now notBegins
    · exact before
  · exact fun before => Or.inr ⟨notEnds, before⟩

theorem lastSince_append_of_neither
    {later : List α}
    (neither : ∀ entry ∈ later, ¬ begins entry ∧ ¬ ends entry)
    (log : List α) :
    LastSince begins ends (later ++ log) ↔ LastSince begins ends log := by
  induction later with
  | nil => exact Iff.rfl
  | cons entry later ih =>
      have newest := neither entry List.mem_cons_self
      rw [List.cons_append,
        lastSince_cons_of_neither newest.1 newest.2]
      exact ih fun other member =>
        neither other (List.mem_cons_of_mem _ member)

theorem lastSince_cons_of_ends
    {entry : α}
    (notBegins : ¬ begins entry)
    (ended : ends entry)
    (log : List α) :
    ¬ LastSince begins ends (entry :: log) := by
  rw [lastSince_cons]
  rintro (now | ⟨going, -⟩)
  · exact notBegins now
  · exact going ended

/-- What does not begin the condition does not make it hold. -/
theorem not_lastSince_append
    {later log : List α}
    (none : ∀ entry ∈ later, ¬ begins entry)
    (not : ¬ LastSince begins ends log) :
    ¬ LastSince begins ends (later ++ log) := by
  induction later with
  | nil => exact not
  | cons entry later ih =>
      rw [List.cons_append, lastSince_cons]
      rintro (now | ⟨-, before⟩)
      · exact none entry List.mem_cons_self now
      · exact ih (fun other member =>
          none other (List.mem_cons_of_mem _ member)) before

/-- What does not end the condition keeps it. -/
theorem lastSince_append
    {later log : List α}
    (none : ∀ entry ∈ later, ¬ ends entry)
    (holds : LastSince begins ends log) :
    LastSince begins ends (later ++ log) := by
  induction later with
  | nil => exact holds
  | cons entry later ih =>
      rw [List.cons_append, lastSince_cons]
      exact Or.inr ⟨none entry List.mem_cons_self,
        ih fun other member => none other (List.mem_cons_of_mem _ member)⟩

theorem Silent.suffix
    {later log : List α}
    (silent : Silent kind begins ends (later ++ log)) :
    Silent kind begins ends log := by
  induction later with
  | nil => exact silent
  | cons entry later ih => exact ih silent.2

/-- Entries of other kinds break no silence. -/
theorem Silent.append
    {later log : List α}
    (other : ∀ entry ∈ later, ¬ kind entry)
    (silent : Silent kind begins ends log) :
    Silent kind begins ends (later ++ log) := by
  induction later with
  | nil => exact silent
  | cons entry later ih =>
      exact ⟨fun ofKind =>
          absurd ofKind (other entry List.mem_cons_self),
        ih fun entry member => other entry (List.mem_cons_of_mem _ member)⟩

/-- While the condition does not hold everything may be written. -/
theorem Silent.append_of_not
    {later log : List α}
    (none : ∀ entry ∈ later, ¬ begins entry)
    (silent : Silent kind begins ends log)
    (not : ¬ LastSince begins ends log) :
    Silent kind begins ends (later ++ log) := by
  induction later with
  | nil => exact silent
  | cons entry later ih =>
      have rest : ∀ other ∈ later, ¬ begins other :=
        fun other member => none other (List.mem_cons_of_mem _ member)
      exact ⟨fun _ => not_lastSince_append rest not, ih rest⟩

/-- While the condition holds an entry of the kind breaks the silence. -/
theorem not_silent_append
    {later log : List α}
    {entry : α}
    (ofKind : kind entry)
    (member : entry ∈ later)
    (none : ∀ other ∈ later, ¬ ends other)
    (holds : LastSince begins ends log) :
    ¬ Silent kind begins ends (later ++ log) := by
  intro silent
  rcases List.append_of_mem member with ⟨newer, older, rfl⟩
  rw [List.append_assoc] at silent
  have still : LastSince begins ends (older ++ log) :=
    lastSince_append
      (fun other among =>
        none other (List.mem_append_right _ (List.mem_cons_of_mem _ among)))
      holds
  exact silent.suffix.1 ofKind still

end Rules

end DebuggerDap.Library.Log
