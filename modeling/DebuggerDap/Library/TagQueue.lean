import Mathlib.Data.List.Basic

/-!
# Tags of requests in flight

A client keeps a queue of tags, one for each request of a kind that has not
been answered.  The queue is aligned with the requests in flight when it is
exactly the list of their tags.  Alignment is kept when a request is sent
with its tag, and when the oldest request is answered and the queue gives up
its head for a request of the kind.

When answers come in any order the tags have to be found by a key.  Then the
entries of all requests but the answered one stay.

Last, a list of values by key is the expected one exactly when each key occurs
once and with its expected value.
-/

namespace DebuggerDap.Library.TagQueue

variable {ρ τ : Type*}

/-- The queue holds the tags of the requests in flight, in order. -/
def Aligned
    (tag : ρ → Option τ)
    (inFlight : List ρ)
    (queue : List τ) : Prop :=
  queue = inFlight.filterMap tag

namespace Aligned

variable {tag : ρ → Option τ}
variable {inFlight : List ρ}
variable {queue : List τ}

theorem send
    (aligned : Aligned tag inFlight queue)
    (sent : List ρ) :
    Aligned tag (inFlight ++ sent) (queue ++ sent.filterMap tag) := by
  rw [Aligned, List.filterMap_append, aligned]

/-- The oldest request is of the kind: its tag is the head of the queue. -/
theorem answer_some
    {request : ρ}
    {value : τ}
    (aligned : Aligned tag (request :: inFlight) queue)
    (tagged : tag request = some value) :
    queue.head? = some value ∧ Aligned tag inFlight queue.tail := by
  rw [Aligned, List.filterMap_cons_some tagged] at aligned
  subst queue
  exact ⟨rfl, rfl⟩

/-- The oldest request is of another kind: the queue stays. -/
theorem answer_none
    {request : ρ}
    (aligned : Aligned tag (request :: inFlight) queue)
    (untagged : tag request = none) :
    Aligned tag inFlight queue := by
  rw [Aligned, List.filterMap_cons_none untagged] at aligned
  exact aligned

/-- One rule for both: the head is given up exactly for a tagged request. -/
theorem answer
    {request : ρ}
    {next : List τ}
    {ofKind : Prop}
    [Decidable ofKind]
    (aligned : Aligned tag (request :: inFlight) queue)
    (kind : (tag request).isSome = true ↔ ofKind)
    (popped : next = if ofKind then queue.tail else queue) :
    Aligned tag inFlight next := by
  cases tagged : tag request with
  | none =>
      have other : ¬ ofKind := by
        rw [← kind, tagged]
        exact Bool.false_ne_true
      rw [popped, if_neg other]
      exact aligned.answer_none tagged
  | some value =>
      have same : ofKind := by
        rw [← kind, tagged]
        rfl
      rw [popped, if_pos same]
      exact (aligned.answer_some tagged).2

/-- What is dispatched for the oldest request is its own tag. -/
theorem dispatched
    {request : ρ}
    {ofKind : Prop}
    [Decidable ofKind]
    (aligned : Aligned tag (request :: inFlight) queue)
    (kind : (tag request).isSome = true ↔ ofKind)
    (fallback : τ) :
    (if ofKind then [queue.head?.getD fallback] else []) =
      (tag request).toList := by
  cases tagged : tag request with
  | none =>
      have other : ¬ ofKind := by
        rw [← kind, tagged]
        exact Bool.false_ne_true
      rw [if_neg other]
      rfl
  | some value =>
      have same : ofKind := by
        rw [← kind, tagged]
        rfl
      rw [if_pos same, (aligned.answer_some tagged).1]
      rfl

end Aligned

/-! ## Entries found by key -/

section Keyed

variable {tag : ρ → Option τ}
variable {answers : τ → Bool}
variable {before after : List ρ}
variable {request : ρ}

/-- No entry of these requests is answered. -/
def Unanswered
    (tag : ρ → Option τ)
    (answers : τ → Bool)
    (requests : List ρ) : Prop :=
  ∀ request ∈ requests, ∀ entry,
    tag request = some entry → answers entry = false

theorem Unanswered.filterMap
    {requests : List ρ}
    (unanswered : Unanswered tag answers requests) :
    ∀ entry ∈ requests.filterMap tag, answers entry = false := by
  intro entry member
  rcases List.mem_filterMap.mp member with ⟨request, among, tagged⟩
  exact unanswered request among entry tagged

theorem Unanswered.find?_eq_none
    {requests : List ρ}
    (unanswered : Unanswered tag answers requests) :
    (requests.filterMap tag).find? answers = none := by
  rw [List.find?_eq_none]
  intro entry member
  rw [unanswered.filterMap entry member]
  exact Bool.false_ne_true

theorem Unanswered.filter_eq_self
    {requests : List ρ}
    (unanswered : Unanswered tag answers requests) :
    (requests.filterMap tag).filter (fun entry => !answers entry) =
      requests.filterMap tag := by
  rw [List.filter_eq_self]
  intro entry member
  rw [unanswered.filterMap entry member]
  rfl

/-- The entry of the answered request is found. -/
theorem find?_answered
    {value : τ}
    (unanswered : Unanswered tag answers before)
    (tagged : tag request = some value)
    (own : answers value = true) :
    ((before ++ request :: after).filterMap tag).find? answers =
      some value := by
  rw [List.filterMap_append, List.find?_append,
    unanswered.find?_eq_none, List.filterMap_cons_some tagged,
    List.find?_cons_of_pos own]
  rfl

/-- The entries of the other requests stay. -/
theorem filter_answered
    {value : τ}
    (unansweredBefore : Unanswered tag answers before)
    (unansweredAfter : Unanswered tag answers after)
    (tagged : tag request = some value)
    (own : answers value = true) :
    ((before ++ request :: after).filterMap tag).filter
        (fun entry => !answers entry) =
      (before ++ after).filterMap tag := by
  have gone : (!answers value) = false := by
    rw [own]
    rfl
  rw [List.filterMap_append, List.filter_append,
    unansweredBefore.filter_eq_self, List.filterMap_cons_some tagged,
    List.filter_cons_of_neg (by rw [gone]; exact Bool.false_ne_true),
    unansweredAfter.filter_eq_self, List.filterMap_append]

end Keyed

/-! ## Values by key -/

section Once

variable {κ β : Type*}
variable [DecidableEq κ]

theorem filter_key_eq_nil
    {entries : List (κ × β)}
    {key : κ}
    (absent : key ∉ entries.map Prod.fst) :
    (entries.filter fun entry => entry.1 = key) = [] := by
  rw [List.filter_eq_nil_iff]
  intro entry member same
  exact absent
    (List.mem_map.mpr ⟨entry, member, of_decide_eq_true same⟩)

/--
Two lists of values by the same keys are equal exactly when every key occurs
in the first once and with its value in the second.
-/
theorem eq_iff_once
    {actual expected : List (κ × β)}
    (sameKeys : actual.map Prod.fst = expected.map Prod.fst)
    (distinct : (expected.map Prod.fst).Nodup) :
    actual = expected ↔
      ∀ pair ∈ expected,
        (actual.filter fun entry => entry.1 = pair.1) = [pair] := by
  induction expected generalizing actual with
  | nil =>
      rw [List.map_nil, List.map_eq_nil_iff] at sameKeys
      simp [sameKeys]
  | cons first expected ih =>
      rcases actual with _ | ⟨head, actual⟩
      · cases sameKeys
      rw [List.map_cons, List.map_cons, List.cons.injEq] at sameKeys
      rcases sameKeys with ⟨sameKey, sameKeys⟩
      rw [List.map_cons, List.nodup_cons] at distinct
      rcases distinct with ⟨absent, distinct⟩
      have absentToo : first.1 ∉ actual.map Prod.fst := by
        rw [sameKeys]
        exact absent
      have ahead :
          ((head :: actual).filter fun entry => entry.1 = first.1) =
            [head] := by
        rw [List.filter_cons_of_pos (by simpa using sameKey),
          filter_key_eq_nil absentToo]
      have later :
          ∀ pair ∈ expected,
            ((head :: actual).filter fun entry => entry.1 = pair.1) =
              actual.filter fun entry => entry.1 = pair.1 := by
        intro pair member
        have differs : head.1 ≠ pair.1 := by
          intro same
          apply absent
          rw [← sameKey, same]
          exact List.mem_map_of_mem member
        rw [List.filter_cons_of_neg (by simpa using differs)]
      rw [List.forall_mem_cons, ahead, List.cons.injEq,
        ih sameKeys distinct]
      constructor
      · rintro ⟨rfl, once⟩
        exact ⟨rfl, fun pair member =>
          (later pair member).trans (once pair member)⟩
      · rintro ⟨same, once⟩
        cases same
        exact ⟨rfl, fun pair member =>
          (later pair member).symm.trans (once pair member)⟩

end Once

/-- The only entry with a key is found by it. -/
theorem find?_of_nodup
    {α κ : Type*}
    [BEq κ]
    [LawfulBEq κ]
    {key : α → κ}
    {entries : List α}
    (distinct : (entries.map key).Nodup)
    {entry : α}
    (member : entry ∈ entries) :
    (entries.find? fun other => key other == key entry) = some entry := by
  induction entries with
  | nil => exact absurd member List.not_mem_nil
  | cons first entries ih =>
      rw [List.map_cons, List.nodup_cons] at distinct
      rcases List.mem_cons.mp member with rfl | later
      · exact List.find?_cons_of_pos (beq_self_eq_true _)
      · have differs : key first ≠ key entry := by
          intro same
          apply distinct.1
          rw [same]
          exact List.mem_map_of_mem later
        rw [List.find?_cons_of_neg (by simpa using differs)]
        exact ih distinct.2 later

end DebuggerDap.Library.TagQueue
