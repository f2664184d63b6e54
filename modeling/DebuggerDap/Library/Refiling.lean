import Mathlib.Data.List.Nodup

/-!
# Filing entries again

Entries lie in a list under keys.  An entry is filed by putting it at the end,
and an equal one that is there already is taken out before.  An entry that
only has the same key stays, so that filing a batch again and again gives
every key once as long as no entry under the key was changed.
-/

namespace DebuggerDap.Library.Refiling

variable {α κ : Type*} [DecidableEq κ]

/-- How many entries lie under a key. -/
def filed (key : α → κ) (entries : List α) (wanted : κ) : Nat :=
  entries.countP fun entry => key entry = wanted

theorem filed_cons (key : α → κ) (entries : List α) (entry : α) (wanted : κ) :
    filed key (entry :: entries) wanted =
      filed key entries wanted + if key entry = wanted then 1 else 0 := by
  rw [filed, List.countP_cons, filed]
  simp

theorem filed_pos_iff (key : α → κ) (entries : List α) (wanted : κ) :
    0 < filed key entries wanted ↔
      ∃ entry ∈ entries, key entry = wanted := by
  rw [filed, List.countP_pos_iff]
  simp

variable [DecidableEq α]

/-- File an entry; an equal one goes. -/
def refile (entries : List α) (entry : α) : List α :=
  entries.erase entry ++ [entry]

section Entries

variable (key : α → κ) {entries batch : List α} {entry other : α}

theorem filed_erase (wanted : κ) :
    filed key (entries.erase entry) wanted +
        (if entry ∈ entries ∧ key entry = wanted then 1 else 0) =
      filed key entries wanted := by
  by_cases member : entry ∈ entries
  · have same :
        filed key entries wanted =
          filed key (entry :: entries.erase entry) wanted :=
      (List.perm_cons_erase member).countP_eq _
    rw [same, filed_cons]
    simp only [member, true_and]
  · rw [List.erase_of_not_mem member, if_neg fun both => member both.1,
      Nat.add_zero]

/-- Under its own key an entry is one more, unless it was there. -/
theorem filed_refile_self :
    filed key (refile entries entry) (key entry) =
      filed key entries (key entry) + if entry ∈ entries then 0 else 1 := by
  have erased := @filed_erase α κ _ _ key entries entry (key entry)
  have one : filed key [entry] (key entry) = 1 := by simp [filed]
  rw [filed, refile, List.countP_append]
  rw [filed] at one
  rw [one]
  by_cases member : entry ∈ entries
  · rw [if_pos ⟨member, rfl⟩] at erased
    rw [if_pos member]
    exact erased
  · rw [if_neg fun both => member both.1] at erased
    rw [if_neg member]
    exact congrArg (· + 1) erased

/-- Under the other keys nothing changes. -/
theorem filed_refile_of_ne
    {wanted : κ}
    (different : key entry ≠ wanted) :
    filed key (refile entries entry) wanted = filed key entries wanted := by
  have erased := @filed_erase α κ _ _ key entries entry wanted
  have none : filed key [entry] wanted = 0 := by simp [filed, different]
  rw [if_neg fun both => different both.2, Nat.add_zero] at erased
  rw [filed, refile, List.countP_append]
  rw [filed] at none
  rw [none]
  exact erased

theorem mem_refile_of_ne (different : other ≠ entry) :
    other ∈ refile entries entry ↔ other ∈ entries := by
  rw [refile, List.mem_append, List.mem_singleton, or_iff_left different,
    List.mem_erase_of_ne different]

/-- Filing a batch changes nothing under the keys that it does not have. -/
theorem filed_foldl_of_not_mem
    {wanted : κ}
    (absent : wanted ∉ batch.map key) :
    filed key (batch.foldl refile entries) wanted =
      filed key entries wanted := by
  induction batch generalizing entries with
  | nil => rfl
  | cons first batch inductionHypothesis =>
      rw [List.map_cons, List.mem_cons, not_or] at absent
      rw [List.foldl_cons, inductionHypothesis absent.2,
        filed_refile_of_ne key (Ne.symm absent.1)]

/-- Filing a batch files each of its entries once. -/
theorem filed_foldl_of_mem
    (distinct : (batch.map key).Nodup)
    (member : entry ∈ batch) :
    filed key (batch.foldl refile entries) (key entry) =
      filed key entries (key entry) + if entry ∈ entries then 0 else 1 := by
  induction batch generalizing entries with
  | nil => exact absurd member List.not_mem_nil
  | cons first batch inductionHypothesis =>
      rw [List.map_cons, List.nodup_cons] at distinct
      rw [List.foldl_cons]
      rcases List.mem_cons.mp member with rfl | later
      · rw [filed_foldl_of_not_mem key distinct.1, filed_refile_self]
      · have different : key first ≠ key entry := fun same =>
          distinct.1 (same ▸ List.mem_map_of_mem later)
        have otherEntry : entry ≠ first := fun same =>
          different (congrArg key same.symm)
        rw [inductionHypothesis distinct.2 later,
          filed_refile_of_ne key different]
        simp only [mem_refile_of_ne otherEntry]

/--
Where a key has at most one entry, it has exactly one after the batch unless
that entry is another one.
-/
theorem filed_foldl_eq_one_iff
    (distinct : (batch.map key).Nodup)
    (member : entry ∈ batch)
    (atMost : filed key entries (key entry) ≤ 1) :
    filed key (batch.foldl refile entries) (key entry) = 1 ↔
      ∀ found ∈ entries, key found = key entry → found = entry := by
  rw [filed_foldl_of_mem key distinct member]
  by_cases there : entry ∈ entries
  · have some_ : 0 < filed key entries (key entry) :=
      (filed_pos_iff key entries _).mpr ⟨entry, there, rfl⟩
    rw [if_pos there]
    refine iff_of_true (by omega) fun found foundIn sameKey => ?_
    by_contra different
    -- the two would be under the key
    have second : 0 < filed key (entries.erase entry) (key entry) :=
      (filed_pos_iff key _ _).mpr
        ⟨found, (List.mem_erase_of_ne different).mpr foundIn, sameKey⟩
    have erased := @filed_erase α κ _ _ key entries entry (key entry)
    rw [if_pos ⟨there, rfl⟩] at erased
    omega
  · rw [if_neg there]
    constructor
    · intro once found foundIn sameKey
      have some_ : 0 < filed key entries (key entry) :=
        (filed_pos_iff key entries _).mpr ⟨found, foundIn, sameKey⟩
      omega
    · intro same
      have none : ¬ 0 < filed key entries (key entry) := by
        rw [filed_pos_iff]
        rintro ⟨found, foundIn, sameKey⟩
        exact there (same found foundIn sameKey ▸ foundIn)
      omega

end Entries

end DebuggerDap.Library.Refiling
